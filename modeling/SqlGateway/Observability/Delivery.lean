import SqlGateway.Observability.InMemoryRecorder

namespace SqlGateway.InMemoryObservabilityRecorderAdapter

namespace Subscriber

variable (subscriber : Subscriber) (ticket : Ticket) (nowMonotonic : Rat)

theorem maybeWarn_frame {α : Type} (read : Subscriber → α)
    (h : ∀ at' count log, read { subscriber with lastWarningAtMonotonic := at',
                                                 dropsSinceLastWarning := count,
                                                 warnings := log } = read subscriber) :
    read (subscriber.maybeWarnAboutSlowConsumer nowMonotonic) = read subscriber := by
  unfold maybeWarnAboutSlowConsumer
  split_ifs
  · rfl
  · exact h _ _ _

@[simp] theorem maybeWarn_loop :
    (subscriber.maybeWarnAboutSlowConsumer nowMonotonic).loop = subscriber.loop :=
  maybeWarn_frame subscriber nowMonotonic loop fun _ _ _ => rfl

@[simp] theorem maybeWarn_registeredAt :
    (subscriber.maybeWarnAboutSlowConsumer nowMonotonic).registeredAt = subscriber.registeredAt :=
  maybeWarn_frame subscriber nowMonotonic registeredAt fun _ _ _ => rfl

@[simp] theorem maybeWarn_handed :
    (subscriber.maybeWarnAboutSlowConsumer nowMonotonic).handed = subscriber.handed :=
  maybeWarn_frame subscriber nowMonotonic handed fun _ _ _ => rfl

@[simp] theorem maybeWarn_queue :
    (subscriber.maybeWarnAboutSlowConsumer nowMonotonic).queue = subscriber.queue :=
  maybeWarn_frame subscriber nowMonotonic queue fun _ _ _ => rfl

@[simp] theorem maybeWarn_received :
    (subscriber.maybeWarnAboutSlowConsumer nowMonotonic).received = subscriber.received :=
  maybeWarn_frame subscriber nowMonotonic received fun _ _ _ => rfl

@[simp] theorem maybeWarn_dropped :
    (subscriber.maybeWarnAboutSlowConsumer nowMonotonic).dropped = subscriber.dropped :=
  maybeWarn_frame subscriber nowMonotonic dropped fun _ _ _ => rfl

theorem maybeWarn_reported :
    (subscriber.maybeWarnAboutSlowConsumer nowMonotonic).warnings.sum +
        (subscriber.maybeWarnAboutSlowConsumer nowMonotonic).dropsSinceLastWarning =
      subscriber.warnings.sum + subscriber.dropsSinceLastWarning := by
  unfold maybeWarnAboutSlowConsumer
  split_ifs <;> simp

@[simp] theorem putIfPossible_loop :
    (subscriber.putIfPossible ticket nowMonotonic).loop = subscriber.loop := by
  unfold putIfPossible
  split_ifs <;> simp

@[simp] theorem putIfPossible_registeredAt :
    (subscriber.putIfPossible ticket nowMonotonic).registeredAt = subscriber.registeredAt := by
  unfold putIfPossible
  split_ifs <;> simp

@[simp] theorem putIfPossible_handed :
    (subscriber.putIfPossible ticket nowMonotonic).handed = subscriber.handed := by
  unfold putIfPossible
  split_ifs <;> simp

/-- How often an entry was put into the queue. -/
def puts : Nat := subscriber.received.count ticket

/-- How often an entry was dropped. -/
def drops : Nat := subscriber.dropped.countP fun drop => drop.ticket = ticket

theorem passed_putIfPossible (other : Ticket) :
    (subscriber.putIfPossible ticket nowMonotonic).puts other +
        (subscriber.putIfPossible ticket nowMonotonic).drops other =
      subscriber.puts other + subscriber.drops other + [ticket].count other := by
  unfold putIfPossible
  split_ifs
  · simp [puts, drops, List.count_singleton, List.countP_singleton, Nat.add_assoc]
  · simp only [puts, drops, List.count_append]
    exact Nat.add_right_comm _ _ _

structure Accounted : Prop where
  bounded : subscriber.queue.length ≤ maxPerSubscriberQueueSize
  full : ∀ drop ∈ subscriber.dropped, drop.held = maxPerSubscriberQueueSize
  warned : subscriber.dropped.length =
    subscriber.warnings.sum + subscriber.dropsSinceLastWarning

variable {subscriber}

theorem Accounted.putIfPossible (h : subscriber.Accounted) :
    (subscriber.putIfPossible ticket nowMonotonic).Accounted := by
  unfold Subscriber.putIfPossible
  split_ifs with hfull
  · constructor
    · simpa using h.bounded
    · intro drop hdrop
      rw [maybeWarn_dropped, List.mem_append] at hdrop
      cases hdrop with
      | inl hdrop => exact h.full drop hdrop
      | inr hdrop =>
        rw [List.mem_singleton.mp hdrop]
        exact Nat.le_antisymm h.bounded hfull
    · rw [maybeWarn_dropped, maybeWarn_reported, List.length_append, h.warned]
      exact Nat.add_assoc _ _ _
  · constructor
    · rw [List.length_append]
      exact Nat.lt_of_not_le hfull
    · exact h.full
    · exact h.warned

theorem Accounted.take {rest : List Ticket} (h : subscriber.Accounted)
    (hqueue : subscriber.queue = ticket :: rest) : (subscriber.setQueue rest).Accounted := by
  constructor
  · have hbounded := h.bounded
    rw [hqueue] at hbounded
    exact Nat.le_of_succ_le hbounded
  · exact h.full
  · exact h.warned

theorem accounted_of_new (loop : LoopId) (registeredAt : Nat) :
    (new loop registeredAt).Accounted where
  bounded := Nat.zero_le _
  full _ h := absurd h List.not_mem_nil
  warned := rfl

end Subscriber

variable {Entry : Type} {s s' : State Entry} {action : Action Entry}

/-- A change of one subscriber that keeps what is read of it keeps it for all of them. -/
theorem read_update {α : Type} (read : Subscriber → α) {subscriber : SubscriberId → Subscriber}
    {other : SubscriberId} {changed : Subscriber} (h : read changed = read (subscriber other))
    (id : SubscriberId) :
    read (Function.update subscriber other changed id) = read (subscriber id) := by
  rw [Function.update_apply]
  split_ifs with heq
  · rw [heq]
    exact h
  · rfl

theorem Step.appended_length_le (h : Step s action s') :
    s.appended.length ≤ s'.appended.length := by
  cases h with
  | append => simp [State.append]
  | _ => exact Nat.le_refl _

theorem Step.registered_le (h : Step s action s') : s.registered ≤ s'.registered := by
  cases h with
  | append => simp [State.append]
  | subscribe => exact Nat.le_succ _
  | _ => exact Nat.le_refl _

theorem Step.subscriber_frame (h : Step s action s') {id : SubscriberId}
    (hid : id < s.registered) :
    (s'.subscriber id).loop = (s.subscriber id).loop ∧
      (s'.subscriber id).registeredAt = (s.subscriber id).registeredAt := by
  cases h with
  | deliver =>
    exact ⟨read_update Subscriber.loop (by rfl) id, read_update Subscriber.registeredAt (by rfl) id⟩
  | runCallback =>
    constructor
    · exact read_update Subscriber.loop (by simp) id
    · exact read_update Subscriber.registeredAt (by simp) id
  | subscribe =>
    rw [State.subscribe_subscriber, Function.update_of_ne (Nat.ne_of_lt hid)]
    exact ⟨rfl, rfl⟩
  | take =>
    exact ⟨read_update Subscriber.loop (by rfl) id, read_update Subscriber.registeredAt (by rfl) id⟩
  | _ => exact ⟨rfl, rfl⟩

theorem Step.accounted (h : Step s action s') (hs : ∀ id, (s.subscriber id).Accounted)
    (id : SubscriberId) : (s'.subscriber id).Accounted := by
  cases h with
  | deliver =>
    rw [State.deliver_subscriber, Function.update_apply]
    split_ifs
    · exact ⟨(hs _).bounded, (hs _).full, (hs _).warned⟩
    · exact hs id
  | runCallback =>
    rw [State.runCallback_subscriber, Function.update_apply]
    split_ifs
    · exact (hs _).putIfPossible _ _
    · exact hs id
  | subscribe =>
    rw [State.subscribe_subscriber, Function.update_apply]
    split_ifs
    · exact Subscriber.accounted_of_new _ _
    · exact hs id
  | take hqueue =>
    rw [State.take_subscriber, Function.update_apply]
    split_ifs
    · exact (hs _).take _ hqueue
    · exact hs id
  | _ => exact hs id

theorem mem_remaining_update {ticket waiting : Ticket} {id other : SubscriberId}
    {rest : List SubscriberId} (hremaining : s.remaining ticket = other :: rest)
    (h : id ∈ Function.update s.remaining ticket rest waiting) : id ∈ s.remaining waiting := by
  rw [Function.update_apply] at h
  split_ifs at h with heq
  · rw [heq, hremaining]
    exact List.mem_cons_of_mem _ h
  · exact h

theorem remaining_update_eq_nil {ticket waiting : Ticket} {other : SubscriberId}
    {rest : List SubscriberId} (hremaining : s.remaining ticket = other :: rest)
    (h : s.remaining waiting = []) : Function.update s.remaining ticket rest waiting = [] := by
  apply List.eq_nil_iff_forall_not_mem.mpr
  intro id hid
  have hbefore := mem_remaining_update hremaining hid
  rw [h] at hbefore
  exact List.not_mem_nil hbefore

theorem rtake_concat_rtake {α : Type} {n : Nat} (hn : 0 < n) (xs : List α) (x : α) :
    (xs.rtake n ++ [x]).rtake n = (xs ++ [x]).rtake n := by
  obtain ⟨n, rfl⟩ := Nat.exists_eq_add_one_of_ne_zero (Nat.ne_of_gt hn)
  rw [List.rtake_concat_succ, List.rtake_concat_succ, List.rtake_eq_reverse_take_reverse,
    List.rtake_eq_reverse_take_reverse, List.rtake_eq_reverse_take_reverse, List.reverse_reverse,
    List.take_take, Nat.min_eq_left (Nat.le_succ n)]

theorem maxBufferedEntries_pos : 0 < maxBufferedEntries := by simp [maxBufferedEntries]

/-- What `_entries.append` leaves in the ring. -/
def appendEntry {α : Type} (entries : List α) (entry : α) : List α :=
  (entries ++ [entry]).rtake maxBufferedEntries

theorem append_entries_eq (s : State Entry) (entry : Entry) (order : List SubscriberId) :
    (s.append entry order).entries = appendEntry s.entries s.appended.length := rfl

/-- What `put_nowait` leaves in the queue; an entry for which there is no room is dropped. -/
def putNowait {α : Type} (queue : List α) (entry : α) : List α :=
  if queue.length ≥ maxPerSubscriberQueueSize then queue else queue ++ [entry]

theorem putIfPossible_queue (subscriber : Subscriber) (ticket : Ticket) (nowMonotonic : Rat) :
    (subscriber.putIfPossible ticket nowMonotonic).queue = putNowait subscriber.queue ticket := by
  unfold Subscriber.putIfPossible putNowait
  split_ifs
  · exact Subscriber.maybeWarn_queue _ _
  · rfl

/-- The last tickets of the first `appended` ones. -/
def lastTickets (appended : Nat) : List Ticket := (List.range appended).rtake maxBufferedEntries

structure Buffered (s : State Entry) : Prop where
  entries : s.entries = lastTickets s.appended.length
  taken : ∀ snapshot ∈ s.snapshots, snapshot.taken = lastTickets snapshot.appended

theorem buffered_initial : Buffered (State.initial : State Entry) :=
  ⟨(List.rtake_nil _).symm, fun _ h => absurd h List.not_mem_nil⟩

theorem Step.buffered (h : Step s action s') (hs : Buffered s) : Buffered s' := by
  cases h with
  | append =>
    unfold State.append
    refine ⟨?_, hs.taken⟩
    simp only [hs.entries, lastTickets, List.length_append, List.length_singleton,
      List.range_succ]
    exact rtake_concat_rtake maxBufferedEntries_pos _ _
  | snapshot =>
    refine ⟨hs.entries, fun snapshot hsnapshot => ?_⟩
    rw [State.snapshot, List.mem_append] at hsnapshot
    cases hsnapshot with
    | inl hsnapshot => exact hs.taken snapshot hsnapshot
    | inr hsnapshot =>
      rw [List.mem_singleton.mp hsnapshot]
      exact hs.entries
  | _ => exact ⟨hs.entries, hs.taken⟩

theorem mem_lastTickets {appended ticket : Nat} (h : ticket < appended)
    (hrecent : appended < ticket + 1 + maxBufferedEntries) : ticket ∈ lastTickets appended := by
  rw [lastTickets, List.rtake, List.length_range, List.mem_drop_iff_getElem]
  refine ⟨ticket - (appended - maxBufferedEntries), ?_, ?_⟩
  · rw [List.length_range]
    omega
  · rw [List.getElem_range]
    omega

structure Addressed (s : State Entry) : Prop where
  subscribers : ∀ id ∈ s.subscribers, id < s.registered
  remaining : ∀ ticket, ∀ id ∈ s.remaining ticket, id < s.registered
  ready : ∀ loop, ∀ callback ∈ s.ready loop, callback.1 < s.registered
  ownLoop : ∀ loop, ∀ callback ∈ s.ready loop, (s.subscriber callback.1).loop = loop
  future : ∀ ticket, s.appended.length ≤ ticket → s.remaining ticket = []

theorem addressed_initial : Addressed (State.initial : State Entry) where
  subscribers _ h := absurd h (Finset.notMem_empty _)
  remaining _ _ h := absurd h List.not_mem_nil
  ready _ _ h := absurd h List.not_mem_nil
  ownLoop _ _ h := absurd h List.not_mem_nil
  future _ _ := rfl

theorem Step.addressed_remaining (h : Step s action s') (hs : Addressed s) (ticket : Ticket) :
    ∀ id ∈ s'.remaining ticket, id < s'.registered := by
  intro id hid
  refine Nat.lt_of_lt_of_le ?_ h.registered_le
  cases h with
  | append hnodup horder =>
    rw [State.append_remaining, Function.update_apply] at hid
    split_ifs at hid
    · rw [← List.mem_toFinset, horder] at hid
      exact hs.subscribers id hid
    · exact hs.remaining ticket id hid
  | skip hremaining => exact hs.remaining ticket id (mem_remaining_update hremaining hid)
  | deliver hremaining => exact hs.remaining ticket id (mem_remaining_update hremaining hid)
  | _ => exact hs.remaining ticket id hid

/-- A callback that a step leaves behind was there before or is a new one. -/
theorem Step.mem_ready (h : Step s action s') {loop : LoopId} {callback : SubscriberId × Ticket}
    (hcallback : callback ∈ s'.ready loop) :
    callback ∈ s.ready loop ∨
      callback.1 ∈ s.remaining callback.2 ∧ loop = (s.subscriber callback.1).loop := by
  cases h with
  | deliver hremaining =>
    rw [State.deliver_ready, Function.update_apply] at hcallback
    split_ifs at hcallback with heq
    · rw [List.mem_append, List.mem_singleton] at hcallback
      cases hcallback with
      | inl hcallback => exact .inl (heq ▸ hcallback)
      | inr hcallback =>
        rw [hcallback]
        exact .inr ⟨hremaining ▸ List.mem_cons_self, heq⟩
    · exact .inl hcallback
  | runCallback _ hready =>
    rw [State.runCallback_ready, Function.update_apply] at hcallback
    split_ifs at hcallback with heq
    · rw [heq, hready]
      exact .inl (List.mem_cons_of_mem _ hcallback)
    · exact .inl hcallback
  | _ => exact .inl hcallback

theorem Step.addressed (h : Step s action s') (hs : Addressed s) : Addressed s' where
  remaining := h.addressed_remaining hs
  subscribers := by
    cases h with
    | subscribe =>
      intro id hid
      rw [State.subscribe_subscribers, Finset.mem_insert] at hid
      cases hid with
      | inl hid => exact hid ▸ Nat.lt_succ_self _
      | inr hid => exact Nat.lt_succ_of_lt (hs.subscribers id hid)
    | unsubscribe => exact fun id hid => hs.subscribers id (Finset.mem_of_mem_erase hid)
    | _ => exact hs.subscribers
  ready := by
    intro loop callback hcallback
    refine Nat.lt_of_lt_of_le ?_ h.registered_le
    cases h.mem_ready hcallback with
    | inl hbefore => exact hs.ready loop callback hbefore
    | inr hnew => exact hs.remaining _ _ hnew.1
  ownLoop := by
    intro loop callback hcallback
    cases h.mem_ready hcallback with
    | inl hbefore =>
      rw [(h.subscriber_frame (hs.ready loop callback hbefore)).1]
      exact hs.ownLoop loop callback hbefore
    | inr hnew =>
      rw [(h.subscriber_frame (hs.remaining _ _ hnew.1)).1]
      exact hnew.2.symm
  future := by
    intro ticket hticket
    have hbefore := hs.future ticket (Nat.le_trans h.appended_length_le hticket)
    cases h with
    | append =>
      rw [State.append_appended, List.length_append, List.length_singleton] at hticket
      rw [State.append_remaining, Function.update_of_ne (Nat.ne_of_gt hticket)]
      exact hbefore
    | skip hremaining => exact remaining_update_eq_nil hremaining hbefore
    | deliver hremaining => exact remaining_update_eq_nil hremaining hbefore
    | _ => exact hbefore

/-! Every copy of an entry is in one place -/

/-- How often an entry is on its way to a subscriber or has reached it. -/
def State.copies (s : State Entry) (id : SubscriberId) (ticket : Ticket) : Nat :=
  (s.remaining ticket).count id + (s.ready (s.subscriber id).loop).count (id, ticket) +
    ((s.subscriber id).puts ticket + (s.subscriber id).drops ticket)

theorem count_cons_eq {α : Type} [BEq α] (a b : α) (l : List α) :
    (a :: l).count b = [a].count b + l.count b := by
  rw [← List.count_append, List.singleton_append]

theorem count_pair (id other : SubscriberId) (ticket ticket' : Ticket) :
    [(other, ticket)].count (id, ticket') =
      if ticket' = ticket then [other].count id else 0 := by
  simp only [List.count_singleton, beq_iff_eq, Prod.mk.injEq]
  split_ifs <;> simp_all

theorem count_pair_self (id : SubscriberId) (ticket ticket' : Ticket) :
    [(id, ticket)].count (id, ticket') = [ticket].count ticket' := by
  rw [count_pair]
  split_ifs with heq
  · rw [heq, List.count_singleton_self, List.count_singleton_self]
  · rw [List.count_singleton, beq_false_of_ne (Ne.symm heq)]
    rfl

theorem copies_skip {ticket : Ticket} {rest : List SubscriberId} {other : SubscriberId}
    (hremaining : s.remaining ticket = other :: rest) (id : SubscriberId) (ticket' : Ticket) :
    (s.skip ticket rest).copies id ticket' +
        (if ticket' = ticket then [other].count id else 0) = s.copies id ticket' := by
  simp only [State.copies, State.skip_remaining, State.skip_ready, State.skip_subscriber,
    Function.update_apply]
  split_ifs with heq
  · rw [heq, hremaining, count_cons_eq other id rest]
    omega
  · rfl

theorem copies_deliver {ticket : Ticket} {rest : List SubscriberId} {other : SubscriberId}
    (hremaining : s.remaining ticket = other :: rest) (id : SubscriberId) (ticket' : Ticket) :
    (s.deliver ticket other rest).copies id ticket' = s.copies id ticket' := by
  have hloop : ((s.deliver ticket other rest).subscriber id).loop = (s.subscriber id).loop :=
    read_update Subscriber.loop (by rfl) id
  have hputs : ((s.deliver ticket other rest).subscriber id).puts ticket' =
      (s.subscriber id).puts ticket' := read_update (fun other => other.puts ticket') (by rfl) id
  have hdrops : ((s.deliver ticket other rest).subscriber id).drops ticket' =
      (s.subscriber id).drops ticket' := read_update (fun other => other.drops ticket') (by rfl) id
  have hready : ((s.deliver ticket other rest).ready (s.subscriber id).loop).count (id, ticket') =
      (s.ready (s.subscriber id).loop).count (id, ticket') +
        [(other, ticket)].count (id, ticket') := by
    rw [State.deliver_ready, Function.update_apply]
    split_ifs with heq
    · rw [heq, List.count_append]
    · have hne : (other, ticket) ≠ (id, ticket') := by
        rintro ⟨⟩
        exact heq rfl
      rw [List.count_singleton, beq_false_of_ne hne]
      rfl
  have hrest : ((s.deliver ticket other rest).remaining ticket').count id +
      [(other, ticket)].count (id, ticket') = (s.remaining ticket').count id := by
    rw [State.deliver_remaining, Function.update_apply, count_pair]
    split_ifs with heq
    · rw [heq, hremaining, count_cons_eq other id rest, Nat.add_comm]
    · rfl
  rw [State.copies, State.copies, hloop, hputs, hdrops, hready]
  omega

theorem copies_runCallback (hs : Addressed s) {loop : LoopId} {other : SubscriberId}
    {ticket : Ticket} {rest : List (SubscriberId × Ticket)}
    (hready : s.ready loop = (other, ticket) :: rest) (nowMonotonic : Rat) (id : SubscriberId)
    (ticket' : Ticket) :
    (s.runCallback loop other ticket rest nowMonotonic).copies id ticket' =
      s.copies id ticket' := by
  have hown : (s.subscriber other).loop = loop :=
    hs.ownLoop loop (other, ticket) (hready ▸ List.mem_cons_self)
  rw [State.copies, State.copies, State.runCallback_remaining, State.runCallback_ready,
    State.runCallback_subscriber]
  by_cases hid : id = other
  · have hqueued : (s.ready loop).count (other, ticket') =
        [ticket].count ticket' + rest.count (other, ticket') := by
      rw [hready, count_cons_eq (other, ticket) (other, ticket') rest, count_pair_self]
    rw [hid, Function.update_self, Subscriber.putIfPossible_loop,
      Subscriber.passed_putIfPossible, hown, Function.update_self, hqueued]
    omega
  · have hqueued : (Function.update s.ready loop rest (s.subscriber id).loop).count (id, ticket') =
        (s.ready (s.subscriber id).loop).count (id, ticket') := by
      rw [Function.update_apply]
      split_ifs with heq
      · have hne : ((other, ticket) == (id, ticket')) = false :=
          beq_false_of_ne fun h => hid (Prod.mk.inj h).1.symm
        rw [heq, hready, count_cons_eq (other, ticket) (id, ticket') rest, List.count_singleton,
          hne]
        exact (Nat.zero_add _).symm
      · rfl
    rw [Function.update_of_ne hid, hqueued]

theorem copies_frame {s' : State Entry} {id : SubscriberId} {ticket : Ticket}
    (hremaining : s'.remaining ticket = s.remaining ticket) (hready : s'.ready = s.ready)
    (hsubscriber : s'.subscriber id = s.subscriber id) :
    s'.copies id ticket = s.copies id ticket := by
  rw [State.copies, State.copies, hremaining, hready, hsubscriber]

/-- Only a closed loop makes a step lose a copy. -/
theorem Step.copies (h : Step s action s') (hs : Addressed s) {id : SubscriberId}
    (hid : id < s.registered) {ticket : Ticket}
    (hticket : ticket < s.appended.length ∨ s'.appended.length ≤ ticket) :
    s'.copies id ticket ≤ s.copies id ticket ∧
      ((s.subscriber id).loop ∉ s.closed → s'.copies id ticket = s.copies id ticket) := by
  suffices heq : s'.copies id ticket = s.copies id ticket ∨
      s'.copies id ticket ≤ s.copies id ticket ∧ (s.subscriber id).loop ∈ s.closed by
    cases heq with
    | inl heq => exact ⟨Nat.le_of_eq heq, fun _ => heq⟩
    | inr hle => exact ⟨hle.1, fun hopen => absurd hle.2 hopen⟩
  cases h with
  | append =>
    have hne : ticket ≠ s.appended.length := by
      rw [State.append_appended, List.length_append, List.length_singleton] at hticket
      rintro rfl
      cases hticket with
      | inl hlt => exact Nat.lt_irrefl _ hlt
      | inr hle => exact Nat.lt_irrefl _ hle
    refine .inl (copies_frame ?_ rfl rfl)
    rw [State.append_remaining, Function.update_of_ne hne]
  | skip hremaining hclosed =>
    have hskip := copies_skip hremaining id ticket
    by_cases heq : (s.subscriber id).loop ∈ s.closed
    · exact .inr ⟨hskip ▸ Nat.le_add_right _ _, heq⟩
    · rw [List.count_singleton, beq_false_of_ne, if_neg Bool.false_ne_true, ite_self] at hskip
      · exact .inl hskip
      · rintro rfl
        exact heq hclosed
  | deliver hremaining => exact .inl (copies_deliver hremaining id ticket)
  | runCallback _ hready => exact .inl (copies_runCallback hs hready _ id ticket)
  | subscribe =>
    refine .inl (copies_frame rfl rfl ?_)
    rw [State.subscribe_subscriber, Function.update_of_ne (Nat.ne_of_lt hid)]
  | take =>
    refine .inl (read_update (fun other => (s.remaining ticket).count id +
      (s.ready other.loop).count (id, ticket) + (other.puts ticket + other.drops ticket)) ?_ id)
    rfl
  | unsubscribe => exact .inl (copies_frame rfl rfl rfl)
  | snapshot => exact .inl (copies_frame rfl rfl rfl)
  | close => exact .inl (copies_frame rfl rfl rfl)

structure Counted (s : State Entry) (id : SubscriberId) : Prop where
  registeredAt_le : (s.subscriber id).registeredAt ≤ s.appended.length
  atMostOnce : ∀ ticket, s.copies id ticket ≤ 1
  early : ∀ ticket < (s.subscriber id).registeredAt, s.copies id ticket = 0
  late : ∀ ticket, s.appended.length ≤ ticket → s.copies id ticket = 0
  once : id ∈ s.subscribers → (s.subscriber id).loop ∉ s.closed →
    ∀ ticket, (s.subscriber id).registeredAt ≤ ticket → ticket < s.appended.length →
      s.copies id ticket = 1

theorem Step.registered_cases (h : Step s action s') {id : SubscriberId}
    (hid : id < s'.registered) :
    id < s.registered ∨ ∃ loop, s' = s.subscribe loop ∧ id = s.registered := by
  cases h with
  | subscribe => exact (Nat.lt_succ_iff_lt_or_eq.mp hid).imp_right fun heq => ⟨_, rfl, heq⟩
  | _ => exact .inl hid

theorem Step.appended_cases (h : Step s action s') :
    s'.appended.length = s.appended.length ∨
      ∃ entry order, s' = s.append entry order ∧ order.Nodup ∧ order.toFinset = s.subscribers := by
  cases h with
  | append hnodup horder => exact .inr ⟨_, _, rfl, hnodup, horder⟩
  | _ => exact .inl rfl

theorem Step.closed_subset (h : Step s action s') : s.closed ⊆ s'.closed := by
  cases h with
  | close => exact Finset.subset_insert _ _
  | _ => exact Finset.Subset.refl _

theorem Step.mem_subscribers (h : Step s action s') {id : SubscriberId} (hid : id < s.registered)
    (hmem : id ∈ s'.subscribers) : id ∈ s.subscribers := by
  cases h with
  | subscribe =>
    rw [State.subscribe_subscribers, Finset.mem_insert] at hmem
    exact hmem.resolve_left (Nat.ne_of_lt hid)
  | unsubscribe => exact Finset.mem_of_mem_erase hmem
  | _ => exact hmem

theorem copies_subscribe (hs : Addressed s) (loop : LoopId) (ticket : Ticket) :
    (s.subscribe loop).copies s.registered ticket = 0 := by
  have hremaining : (s.remaining ticket).count s.registered = 0 :=
    List.count_eq_zero.mpr fun h => Nat.lt_irrefl _ (hs.remaining _ _ h)
  have hready : ∀ loop, (s.ready loop).count (s.registered, ticket) = 0 := fun loop =>
    List.count_eq_zero.mpr fun h => Nat.lt_irrefl _ (hs.ready _ _ h)
  rw [State.copies, State.subscribe_remaining, State.subscribe_ready, hremaining, hready,
    State.subscribe_subscriber, Function.update_self]
  rfl

theorem counted_subscribe (hs : Addressed s) (loop : LoopId) :
    Counted (s.subscribe loop) s.registered where
  registeredAt_le := by
    rw [State.subscribe_subscriber, Function.update_self]
    exact Nat.le_refl _
  atMostOnce ticket := copies_subscribe hs loop ticket ▸ Nat.zero_le 1
  early ticket _ := copies_subscribe hs loop ticket
  late ticket _ := copies_subscribe hs loop ticket
  once _ _ ticket hle hlt := by
    rw [State.subscribe_subscriber, Function.update_self] at hle
    exact absurd hlt (Nat.not_lt_of_le hle)

theorem copies_append (hs : Addressed s) {id : SubscriberId} (hcounted : Counted s id)
    (entry : Entry) (order : List SubscriberId) (ticket : Ticket) :
    (s.append entry order).copies id ticket =
      if ticket = s.appended.length then order.count id else s.copies id ticket := by
  rw [State.copies, State.append_remaining, Function.update_apply]
  split_ifs with heq
  · have hlate := hcounted.late ticket (Nat.le_of_eq heq.symm)
    rw [State.copies, hs.future ticket (Nat.le_of_eq heq.symm), List.count_nil, Nat.zero_add]
      at hlate
    rw [State.append_ready, State.append_subscriber, Nat.add_assoc, hlate]
    rfl
  · rfl

theorem counted_append (hs : Addressed s) {id : SubscriberId} (hcounted : Counted s id)
    (entry : Entry) {order : List SubscriberId} (hnodup : order.Nodup)
    (horder : order.toFinset = s.subscribers) : Counted (s.append entry order) id := by
  constructor
  · rw [State.append_appended, List.length_append]
    exact Nat.le_add_right_of_le hcounted.registeredAt_le
  · intro ticket
    rw [copies_append hs hcounted]
    split_ifs
    · exact List.nodup_iff_count_le_one.mp hnodup id
    · exact hcounted.atMostOnce ticket
  · intro ticket hticket
    rw [copies_append hs hcounted, if_neg]
    · exact hcounted.early ticket hticket
    · exact Nat.ne_of_lt (Nat.lt_of_lt_of_le hticket hcounted.registeredAt_le)
  · intro ticket hticket
    rw [State.append_appended, List.length_append, List.length_singleton] at hticket
    rw [copies_append hs hcounted, if_neg (Nat.ne_of_gt hticket)]
    exact hcounted.late ticket (Nat.le_of_succ_le hticket)
  · intro hmem hopen ticket hle hlt
    rw [State.append_appended, List.length_append, List.length_singleton] at hlt
    rw [copies_append hs hcounted]
    split_ifs with heq
    · apply List.count_eq_one_of_mem hnodup
      rw [← List.mem_toFinset, horder]
      exact hmem
    · exact hcounted.once hmem hopen ticket hle (Nat.lt_of_le_of_ne (Nat.le_of_lt_succ hlt) heq)

theorem Step.counted_of_length_eq (h : Step s action s') (hs : Addressed s) {id : SubscriberId}
    (hid : id < s.registered) (hcounted : Counted s id)
    (hlength : s'.appended.length = s.appended.length) : Counted s' id := by
  have hcopies : ∀ ticket, s'.copies id ticket ≤ s.copies id ticket ∧
      ((s.subscriber id).loop ∉ s.closed → s'.copies id ticket = s.copies id ticket) := by
    intro ticket
    apply h.copies hs hid
    rw [hlength]
    exact Nat.lt_or_ge ticket s.appended.length
  obtain ⟨hloop, hregisteredAt⟩ := h.subscriber_frame hid
  constructor
  · rw [hregisteredAt, hlength]
    exact hcounted.registeredAt_le
  · exact fun ticket => Nat.le_trans (hcopies ticket).1 (hcounted.atMostOnce ticket)
  · rw [hregisteredAt]
    intro ticket hticket
    exact Nat.le_zero.mp (hcounted.early ticket hticket ▸ (hcopies ticket).1)
  · rw [hlength]
    intro ticket hticket
    exact Nat.le_zero.mp (hcounted.late ticket hticket ▸ (hcopies ticket).1)
  · rw [hregisteredAt, hloop, hlength]
    intro hmem hopen ticket hle hlt
    have hbefore : (s.subscriber id).loop ∉ s.closed := fun hclosed =>
      hopen (h.closed_subset hclosed)
    rw [(hcopies ticket).2 hbefore]
    exact hcounted.once (h.mem_subscribers hid hmem) hbefore ticket hle hlt

theorem Step.counted (h : Step s action s') (hs : Addressed s)
    (hcounted : ∀ id < s.registered, Counted s id) : ∀ id < s'.registered, Counted s' id := by
  intro id hid
  cases h.registered_cases hid with
  | inl hid =>
    cases h.appended_cases with
    | inl hlength => exact h.counted_of_length_eq hs hid (hcounted id hid) hlength
    | inr happend =>
      obtain ⟨entry, order, rfl, hnodup, horder⟩ := happend
      exact counted_append hs (hcounted id hid) entry hnodup horder
  | inr hnew =>
    obtain ⟨loop, rfl, rfl⟩ := hnew
    exact counted_subscribe hs loop

structure Invariant (s : State Entry) : Prop where
  addressed : Addressed s
  buffered : Buffered s
  accounted : ∀ id, (s.subscriber id).Accounted
  counted : ∀ id < s.registered, Counted s id
  registeredBefore : ∀ snapshot ∈ s.snapshots, ∀ id < snapshot.registered,
    id < s.registered ∧ (s.subscriber id).registeredAt ≤ snapshot.appended

theorem invariant_initial : Invariant (State.initial : State Entry) where
  addressed := addressed_initial
  buffered := buffered_initial
  accounted _ := Subscriber.accounted_of_new 0 0
  counted _ h := absurd h (Nat.not_lt_zero _)
  registeredBefore _ h := absurd h List.not_mem_nil

theorem Step.invariant (h : Step s action s') (hs : Invariant s) : Invariant s' where
  addressed := h.addressed hs.addressed
  buffered := h.buffered hs.buffered
  accounted := h.accounted hs.accounted
  counted := h.counted hs.addressed hs.counted
  registeredBefore := by
    have hbefore : ∀ snapshot ∈ s.snapshots, ∀ id < snapshot.registered,
        id < s'.registered ∧ (s'.subscriber id).registeredAt ≤ snapshot.appended := by
      intro snapshot hsnapshot id hid
      obtain ⟨hlt, hle⟩ := hs.registeredBefore snapshot hsnapshot id hid
      exact ⟨Nat.lt_of_lt_of_le hlt h.registered_le, (h.subscriber_frame hlt).2 ▸ hle⟩
    cases h with
    | snapshot =>
      intro snapshot hsnapshot id hid
      rw [State.snapshot_snapshots, List.mem_append] at hsnapshot
      cases hsnapshot with
      | inl hsnapshot => exact hbefore snapshot hsnapshot id hid
      | inr hsnapshot =>
        rw [List.mem_singleton.mp hsnapshot] at hid ⊢
        exact ⟨hid, (hs.counted id hid).registeredAt_le⟩
    | _ => exact hbefore

/-- What is received is what comes into the queue, and only its generator takes out of it. -/
theorem Step.queued {action : Action Entry} (h : Step s action s') {id : SubscriberId}
    (htake : action ≠ .take id) (hsubscribe : ∀ loop, action ≠ .subscribe loop) :
    ∃ more, (s'.subscriber id).queue = (s.subscriber id).queue ++ more ∧
      (s'.subscriber id).received = (s.subscriber id).received ++ more := by
  have hsame {subscriber : Subscriber} (hqueue : subscriber.queue = (s.subscriber id).queue)
      (hreceived : subscriber.received = (s.subscriber id).received) :
      ∃ more, subscriber.queue = (s.subscriber id).queue ++ more ∧
        subscriber.received = (s.subscriber id).received ++ more :=
    ⟨[], by rw [hqueue, List.append_nil], by rw [hreceived, List.append_nil]⟩
  cases h with
  | @runCallback loop other ticket =>
    rw [State.runCallback_subscriber, Function.update_apply]
    split_ifs with hid
    · rw [hid, Subscriber.putIfPossible]
      split_ifs
      · exact ⟨[], by simp, by simp⟩
      · exact ⟨[ticket], rfl, rfl⟩
    · exact hsame rfl rfl
  | deliver =>
    exact hsame (read_update Subscriber.queue (by rfl) id)
      (read_update Subscriber.received (by rfl) id)
  | @take other =>
    have hid : id ≠ other := fun hid => htake (hid ▸ rfl)
    simp only [State.take]
    rw [Function.update_of_ne hid]
    exact hsame rfl rfl
  | subscribe => exact absurd rfl (hsubscribe _)
  | append | skip | unsubscribe | snapshot | close => exact hsame rfl rfl

/-- The call of `record` is over and no callback for the subscriber is left. -/
def State.Settled (s : State Entry) (id : SubscriberId) (ticket : Ticket) : Prop :=
  s.remaining ticket = [] ∧ (id, ticket) ∉ s.ready (s.subscriber id).loop

/-- What a live subscriber has got of the entries appended since it was registered, and what
it can read of the earlier ones. -/
structure NoGap (s : State Entry) (id : SubscriberId) : Prop where
  once : ∀ ticket, (s.subscriber id).registeredAt ≤ ticket → ticket < s.appended.length →
    s.Settled id ticket →
      (s.subscriber id).puts ticket = 1 ∧ (s.subscriber id).drops ticket = 0 ∨
        (s.subscriber id).puts ticket = 0 ∧ (s.subscriber id).drops ticket = 1
  full : ∀ drop ∈ (s.subscriber id).dropped, drop.held = maxPerSubscriberQueueSize
  early : ∀ ticket < (s.subscriber id).registeredAt, (s.subscriber id).puts ticket = 0
  replayed : ∀ snapshot ∈ s.snapshots, id < snapshot.registered →
    ∀ ticket < (s.subscriber id).registeredAt,
      snapshot.appended < ticket + 1 + maxBufferedEntries → ticket ∈ snapshot.taken

theorem Invariant.noGap (hs : Invariant s) {id : SubscriberId} (hid : id ∈ s.subscribers)
    (hopen : (s.subscriber id).loop ∉ s.closed) : NoGap s id := by
  have hcounted := hs.counted id (hs.addressed.subscribers id hid)
  constructor
  · rintro ticket hle hlt ⟨hremaining, hready⟩
    have hone := hcounted.once hid hopen ticket hle hlt
    rw [State.copies, hremaining, List.count_nil, List.count_eq_zero.mpr hready,
      Nat.zero_add] at hone
    exact (Nat.add_eq_one_iff.mp hone).symm
  · exact (hs.accounted id).full
  · intro ticket hticket
    have hzero := hcounted.early ticket hticket
    exact (Nat.add_eq_zero_iff.mp (Nat.add_eq_zero_iff.mp hzero).2).1
  · intro snapshot hsnapshot hregistered ticket hticket hrecent
    rw [hs.buffered.taken snapshot hsnapshot]
    have hle := (hs.registeredBefore snapshot hsnapshot id hregistered).2
    exact mem_lastTickets (Nat.lt_of_lt_of_le hticket hle) hrecent

theorem invariant_of_run {actions : List (Action Entry)}
    (hrun : Transition.Run Step State.initial actions s) : Invariant s :=
  hrun.invariant invariant_initial fun _ _ _ hs hstep => hstep.invariant hs

def afterOneEntry : State Unit :=
  (((State.initial.subscribe 0).append () [0]).deliver 0 0 []).runCallback 0 0 0 [] 60

end SqlGateway.InMemoryObservabilityRecorderAdapter
