import Mathlib.Tactic.Linarith
import SqlGateway.Observability.Delivery

namespace SqlGateway.InMemoryObservabilityRecorderAdapter

/-- From one time of the clock to another: the warnings that were logged, each of drops, and the
last of them as late as their number makes it. -/
structure Warned (t₀ t₁ : Rat) (before after : Subscriber) (new : List Nat) : Prop where
  warnings : after.warnings = before.warnings ++ new
  counted : ∀ count ∈ new, 0 < count
  spaced : new ≠ [] → after.lastWarningAtMonotonic ≤ t₁ ∧
    t₀ + slowConsumerWarningIntervalSeconds * new.tail.length ≤ after.lastWarningAtMonotonic

variable {t₀ t₁ : Rat} {before after : Subscriber} {new : List Nat}

theorem warned_refl (t₀ t₁ : Rat) (subscriber : Subscriber) : Warned t₀ t₁ subscriber subscriber [] where
  warnings := (List.append_nil _).symm
  counted _ h := absurd h List.not_mem_nil
  spaced h := absurd rfl h

theorem Warned.of_eq {after' : Subscriber} (h : Warned t₀ t₁ before after new)
    (hwarnings : after'.warnings = after.warnings)
    (hlast : after'.lastWarningAtMonotonic = after.lastWarningAtMonotonic) :
    Warned t₀ t₁ before after' new where
  warnings := hwarnings.trans h.warnings
  counted := h.counted
  spaced := hlast ▸ h.spaced

theorem Warned.putIfPossible (h : Warned t₀ t₁ before after new) (ticket : Ticket)
    {nowMonotonic : Rat} (hclock : t₀ ≤ nowMonotonic ∧ nowMonotonic ≤ t₁) :
    ∃ new', Warned t₀ t₁ before (after.putIfPossible ticket nowMonotonic) new' := by
  unfold Subscriber.putIfPossible Subscriber.maybeWarnAboutSlowConsumer
  split_ifs with hfull hsoon
  · exact ⟨new, h.of_eq rfl rfl⟩
  · refine ⟨new ++ [after.dropsSinceLastWarning + 1], ?_, ?_, fun _ => ⟨hclock.2, ?_⟩⟩
    · simp [h.warnings]
    · intro count hcount
      rcases List.mem_append.mp hcount with hold | hnew
      · exact h.counted count hold
      · rw [List.mem_singleton.mp hnew]
        exact Nat.succ_pos _
    · have hlate : slowConsumerWarningIntervalSeconds ≤
          nowMonotonic - after.lastWarningAtMonotonic := le_of_not_gt hsoon
      cases new with
      | nil =>
        have hfirst : (([] : List Nat) ++ [after.dropsSinceLastWarning + 1]).tail = [] := rfl
        rw [hfirst, List.length_nil, Nat.cast_zero, mul_zero, add_zero]
        exact hclock.1
      | cons first rest =>
        have hspaced := (h.spaced (List.cons_ne_nil _ _)).2
        rw [List.tail_cons] at hspaced
        rw [List.cons_append, List.tail_cons, List.length_append, List.length_singleton,
          Nat.cast_succ]
        linarith
  · exact ⟨new, h.of_eq rfl rfl⟩

variable {Entry : Type} {s s' s₀ : State Entry} {action : Action Entry} {id : SubscriberId}

def ClockWithin (t₀ t₁ : Rat) : Action Entry → Prop
  | .runCallback _ nowMonotonic => t₀ ≤ nowMonotonic ∧ nowMonotonic ≤ t₁
  | _ => True

theorem Step.warned (h : Step s action s') (hclock : ClockWithin t₀ t₁ action)
    (hid : id < s.registered) (hs : Warned t₀ t₁ before (s.subscriber id) new) :
    ∃ new', Warned t₀ t₁ before (s'.subscriber id) new' := by
  cases h with
  | deliver =>
    exact ⟨new, hs.of_eq (read_update Subscriber.warnings (by rfl) id)
      (read_update Subscriber.lastWarningAtMonotonic (by rfl) id)⟩
  | take =>
    exact ⟨new, hs.of_eq (read_update Subscriber.warnings (by rfl) id)
      (read_update Subscriber.lastWarningAtMonotonic (by rfl) id)⟩
  | subscribe =>
    rw [State.subscribe_subscriber, Function.update_of_ne (Nat.ne_of_lt hid)]
    exact ⟨new, hs⟩
  | @runCallback _ other ticket =>
    rw [State.runCallback_subscriber, Function.update_apply]
    split_ifs with heq
    · exact (heq ▸ hs).putIfPossible ticket hclock
    · exact ⟨new, hs⟩
  | _ => exact ⟨new, hs⟩

/-- Between two times of the clock a subscriber is warned about once, and once more for every 30
seconds that they are apart; each warning tells of drops. -/
theorem warnings_spaced {actions : List (Action Entry)}
    (hrun : Transition.Run Step s₀ actions s) (hid : id < s₀.registered)
    (hclock : ∀ action ∈ actions, ClockWithin t₀ t₁ action) (hle : t₀ ≤ t₁) :
    ∃ new, (s.subscriber id).warnings = (s₀.subscriber id).warnings ++ new ∧
      (∀ count ∈ new, 0 < count) ∧
        slowConsumerWarningIntervalSeconds * new.tail.length ≤ t₁ - t₀ := by
  obtain ⟨hregistered, new, hwarned⟩ : id < s.registered ∧
      ∃ new, Warned t₀ t₁ (s₀.subscriber id) (s.subscriber id) new := by
    induction hrun with
    | nil => exact ⟨hid, [], warned_refl t₀ t₁ _⟩
    | snoc _ hlast ih =>
      rw [List.forall_mem_append, List.forall_mem_singleton] at hclock
      obtain ⟨hregistered, new, hwarned⟩ := ih hclock.1
      exact ⟨hregistered.trans_le hlast.registered_le, hlast.warned hclock.2 hregistered hwarned⟩
  refine ⟨new, hwarned.warnings, hwarned.counted, ?_⟩
  by_cases hnone : new = []
  · rw [hnone, List.tail_nil, List.length_nil, Nat.cast_zero, mul_zero]
    exact sub_nonneg.mpr hle
  · have hspaced := hwarned.spaced hnone
    linarith [hspaced.1, hspaced.2]

/-- A client that has stopped to read, with two entries on the way to it. -/
def slowClient : State Unit where
  subscriber _ := { queue := List.range maxPerSubscriberQueueSize }
  registered := 1
  ready _ := [(0, 1000), (0, 1001)]

def slowClientWarned : State Unit :=
  (slowClient.runCallback 0 0 1000 [(0, 1001)] 60).runCallback 0 0 1001 [] 100

theorem warnings_spaced_slowClient : ∃ new, (slowClientWarned.subscriber 0).warnings = [] ++ new ∧
    (∀ count ∈ new, 0 < count) ∧
      slowConsumerWarningIntervalSeconds * new.tail.length ≤ 100 - 60 := by
  have hrun : Transition.Run Step slowClient [.runCallback 0 60, .runCallback 0 100]
      slowClientWarned :=
    .snoc (.snoc .nil (.runCallback (Finset.notMem_empty _) rfl))
      (.runCallback (Finset.notMem_empty _) rfl)
  refine warnings_spaced hrun (Nat.succ_pos 0) ?_ (by norm_num)
  intro action haction
  rcases List.mem_pair.mp haction with rfl | rfl
  · exact ⟨le_refl _, by norm_num⟩
  · exact ⟨by norm_num, le_refl _⟩

end SqlGateway.InMemoryObservabilityRecorderAdapter
