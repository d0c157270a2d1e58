import Mathlib.Data.List.Sort
import SqlGateway.Observability.Delivery

namespace SqlGateway.InMemoryObservabilityRecorderAdapter

open Transition (Run)

variable {Entry : Type} {s s' : State Entry} {action : Action Entry}

/-! First in, first out: a queue is filled in the order of the deliveries -/

def State.queuedFor (s : State Entry) (id : SubscriberId) : List Ticket :=
  ((s.ready (s.subscriber id).loop).filter fun callback => callback.1 = id).map Prod.snd

def InFifo (s : State Entry) (id : SubscriberId) : Prop :=
  ((s.subscriber id).received ++ s.queuedFor id).Sublist (s.subscriber id).handed

theorem putIfPossible_received_sublist (subscriber : Subscriber) (ticket : Ticket)
    (nowMonotonic : Rat) :
    (subscriber.putIfPossible ticket nowMonotonic).received.Sublist
      (subscriber.received ++ [ticket]) := by
  unfold Subscriber.putIfPossible
  split_ifs
  · rw [Subscriber.maybeWarn_received]
    exact List.sublist_append_left _ _
  · exact List.Sublist.refl _

theorem InFifo.frame {id : SubscriberId} (h : InFifo s id) (hready : s'.ready = s.ready)
    (hloop : (s'.subscriber id).loop = (s.subscriber id).loop)
    (hreceived : (s'.subscriber id).received = (s.subscriber id).received)
    (hhanded : (s'.subscriber id).handed = (s.subscriber id).handed) : InFifo s' id := by
  rw [InFifo, State.queuedFor, hready, hloop, hreceived, hhanded]
  exact h

theorem inFifo_deliver {ticket : Ticket} {other id : SubscriberId} {rest : List SubscriberId}
    (h : InFifo s id) : InFifo (s.deliver ticket other rest) id := by
  by_cases hid : id = other
  · have hqueued : (s.deliver ticket other rest).queuedFor other =
        s.queuedFor other ++ [ticket] := by
      rw [State.queuedFor, State.deliver_subscriber, Function.update_self, Subscriber.hand_loop,
        State.deliver_ready, Function.update_self, List.filter_append, List.map_append]
      simp [State.queuedFor]
    rw [hid] at h ⊢
    rw [InFifo, hqueued, State.deliver_subscriber, Function.update_self, Subscriber.hand_received,
      Subscriber.hand_handed, ← List.append_assoc]
    exact h.append (List.Sublist.refl _)
  · have hqueued : (s.deliver ticket other rest).queuedFor id = s.queuedFor id := by
      rw [State.queuedFor, State.deliver_subscriber, Function.update_of_ne hid,
        State.deliver_ready, Function.update_apply]
      split_ifs with heq
      · rw [List.filter_append, ← heq]
        simp [State.queuedFor, Ne.symm hid]
      · rfl
    rw [InFifo, hqueued, State.deliver_subscriber, Function.update_of_ne hid]
    exact h

theorem inFifo_runCallback (hs : Addressed s) {loop : LoopId} {other id : SubscriberId}
    {ticket : Ticket} {rest : List (SubscriberId × Ticket)} {nowMonotonic : Rat}
    (hready : s.ready loop = (other, ticket) :: rest) (h : InFifo s id) :
    InFifo (s.runCallback loop other ticket rest nowMonotonic) id := by
  have hown : (s.subscriber other).loop = loop :=
    hs.ownLoop loop (other, ticket) (hready ▸ List.mem_cons_self)
  by_cases hid : id = other
  · have hqueued : s.queuedFor other = ticket ::
        (s.runCallback loop other ticket rest nowMonotonic).queuedFor other := by
      rw [State.queuedFor, State.queuedFor, State.runCallback_subscriber, Function.update_self,
        Subscriber.putIfPossible_loop, hown, hready, State.runCallback_ready,
        Function.update_self]
      simp
    rw [hid] at h ⊢
    rw [InFifo, hqueued, List.append_cons] at h
    rw [InFifo, State.runCallback_subscriber, Function.update_self,
      Subscriber.putIfPossible_handed]
    exact ((putIfPossible_received_sublist _ _ _).append (List.Sublist.refl _)).trans h
  · have hqueued : (s.runCallback loop other ticket rest nowMonotonic).queuedFor id =
        s.queuedFor id := by
      rw [State.queuedFor, State.queuedFor, State.runCallback_subscriber,
        Function.update_of_ne hid, State.runCallback_ready, Function.update_apply]
      split_ifs with heq
      · rw [heq, hready]
        simp [Ne.symm hid]
      · rfl
    rw [InFifo, hqueued, State.runCallback_subscriber, Function.update_of_ne hid]
    exact h

theorem inFifo_subscribe (hs : Addressed s) (loop : LoopId) :
    InFifo (s.subscribe loop) s.registered := by
  have hqueued : (s.subscribe loop).queuedFor s.registered = [] := by
    rw [State.queuedFor, List.map_eq_nil_iff, List.filter_eq_nil_iff]
    intro callback hcallback
    have hlt := hs.ready _ callback hcallback
    simpa using Nat.ne_of_lt hlt
  rw [InFifo, hqueued, State.subscribe_subscriber, Function.update_self]
  exact List.Sublist.refl _

theorem Step.inFifo (h : Step s action s') (hs : Addressed s) {id : SubscriberId}
    (hfifo : InFifo s id) : InFifo s' id := by
  cases h with
  | deliver => exact inFifo_deliver hfifo
  | runCallback _ hready => exact inFifo_runCallback hs hready hfifo
  | @subscribe loop _ =>
    by_cases hid : id = s.registered
    · exact hid ▸ inFifo_subscribe hs loop
    · have hframe : (s.subscribe loop).subscriber id = s.subscriber id := by
        rw [State.subscribe_subscriber, Function.update_of_ne hid]
      exact hfifo.frame rfl (congrArg _ hframe) (congrArg _ hframe) (congrArg _ hframe)
  | take =>
    refine hfifo.frame rfl ?_ ?_ ?_
    · exact read_update Subscriber.loop (by rfl) id
    · exact read_update Subscriber.received (by rfl) id
    · exact read_update Subscriber.handed (by rfl) id
  | append => exact hfifo
  | skip => exact hfifo
  | unsubscribe => exact hfifo
  | snapshot => exact hfifo
  | close => exact hfifo

theorem addressed_of_run {actions : List (Action Entry)}
    (hrun : Run Step State.initial actions s) : Addressed s :=
  (invariant_of_run hrun).addressed

theorem inFifo_of_run {actions : List (Action Entry)} (hrun : Run Step State.initial actions s)
    (id : SubscriberId) : InFifo s id := by
  apply hrun.invariant_of_reached addressed_of_run
  · exact List.Sublist.refl _
  · exact fun _ _ _ hs hfifo hstep => hstep.inFifo hs hfifo

def State.bufferOrder (s : State Entry) : List Ticket := List.range s.appended.length

/-- A delivery to the subscriber while an entry appended earlier still waits for its own. -/
def Overtakes (id : SubscriberId) (s : State Entry) : Action Entry → Prop
  | .deliver ticket => (s.remaining ticket).head? = some id ∧
      (s.subscriber id).loop ∉ s.closed ∧ ∃ earlier < ticket, id ∈ s.remaining earlier
  | _ => False

def OrderedStep (id : SubscriberId) (s : State Entry) (action : Action Entry)
    (s' : State Entry) : Prop :=
  Step s action s' ∧ ¬ Overtakes id s action

structure Ordered (s : State Entry) (id : SubscriberId) : Prop where
  nodup : ∀ ticket, (s.remaining ticket).Nodup
  sorted : (s.subscriber id).handed.Pairwise (· < ·)
  known : ∀ ticket ∈ (s.subscriber id).handed, ticket < s.appended.length
  ahead : ∀ ticket ∈ (s.subscriber id).handed, ∀ waiting, id ∈ s.remaining waiting →
    ticket < waiting

theorem ordered_initial (id : SubscriberId) : Ordered (State.initial : State Entry) id where
  nodup _ := List.nodup_nil
  sorted := List.Pairwise.nil
  known _ h := absurd h List.not_mem_nil
  ahead _ h := absurd h List.not_mem_nil

theorem Ordered.of_handed {id : SubscriberId} (h : Ordered s id)
    (hremaining : s'.remaining = s.remaining) (happended : s'.appended = s.appended)
    (hhanded : (s'.subscriber id).handed = (s.subscriber id).handed) : Ordered s' id := by
  constructor
  · rw [hremaining]
    exact h.nodup
  · rw [hhanded]
    exact h.sorted
  · rw [hhanded, happended]
    exact h.known
  · rw [hhanded, hremaining]
    exact h.ahead

theorem nodup_remaining_update {ticket : Ticket} {other : SubscriberId}
    {rest : List SubscriberId} (hremaining : s.remaining ticket = other :: rest)
    (h : ∀ waiting, (s.remaining waiting).Nodup) (waiting : Ticket) :
    (Function.update s.remaining ticket rest waiting).Nodup := by
  rw [Function.update_apply]
  split_ifs
  · have hnodup := h ticket
    rw [hremaining] at hnodup
    exact (List.nodup_cons.mp hnodup).2
  · exact h waiting

theorem Ordered.append {id : SubscriberId} (h : Ordered s id) (entry : Entry)
    {order : List SubscriberId} (hnodup : order.Nodup) : Ordered (s.append entry order) id := by
  constructor
  · intro ticket
    rw [State.append_remaining, Function.update_apply]
    split_ifs
    · exact hnodup
    · exact h.nodup ticket
  · exact h.sorted
  · intro ticket hticket
    rw [State.append_appended, List.length_append, List.length_singleton]
    exact Nat.lt_succ_of_lt (h.known ticket hticket)
  · intro ticket hticket waiting hwaiting
    rw [State.append_remaining, Function.update_apply] at hwaiting
    split_ifs at hwaiting with heq
    · rw [heq]
      exact h.known ticket hticket
    · exact h.ahead ticket hticket waiting hwaiting

theorem Ordered.skip {id other : SubscriberId} (h : Ordered s id) {ticket : Ticket}
    {rest : List SubscriberId} (hremaining : s.remaining ticket = other :: rest) :
    Ordered (s.skip ticket rest) id where
  nodup := nodup_remaining_update hremaining h.nodup
  sorted := h.sorted
  known := h.known
  ahead handed hhanded waiting hwaiting :=
    h.ahead handed hhanded waiting (mem_remaining_update hremaining hwaiting)

theorem Ordered.deliver_other {id other : SubscriberId} (h : Ordered s id) (hne : id ≠ other)
    {ticket : Ticket} {rest : List SubscriberId}
    (hremaining : s.remaining ticket = other :: rest) : Ordered (s.deliver ticket other rest) id := by
  refine (h.skip hremaining).of_handed rfl rfl ?_
  rw [State.deliver_subscriber, Function.update_of_ne hne]
  rfl

theorem Ordered.deliver {id : SubscriberId} (h : Ordered s id) (hs : Addressed s)
    {ticket : Ticket} {rest : List SubscriberId} (hremaining : s.remaining ticket = id :: rest)
    (hfirst : ¬ ∃ earlier < ticket, id ∈ s.remaining earlier) :
    Ordered (s.deliver ticket id rest) id := by
  have hmem : id ∈ s.remaining ticket := hremaining ▸ List.mem_cons_self
  have hnotMem : id ∉ rest := by
    have hnodup := h.nodup ticket
    rw [hremaining] at hnodup
    exact (List.nodup_cons.mp hnodup).1
  have hlt : ticket < s.appended.length := by
    apply Nat.lt_of_not_le
    intro hle
    rw [hs.future ticket hle] at hremaining
    cases hremaining
  have hhanded : ((s.deliver ticket id rest).subscriber id).handed =
      (s.subscriber id).handed ++ [ticket] := by
    rw [State.deliver_subscriber, Function.update_self, Subscriber.hand_handed]
  constructor
  · exact nodup_remaining_update hremaining h.nodup
  · rw [hhanded, List.pairwise_append]
    refine ⟨h.sorted, List.pairwise_singleton _ _, fun handed hmem' last hlast => ?_⟩
    rw [List.mem_singleton.mp hlast]
    exact h.ahead handed hmem' ticket hmem
  · rw [hhanded]
    intro handed hmem'
    cases List.mem_append.mp hmem' with
    | inl hbefore => exact h.known handed hbefore
    | inr hlast => exact List.mem_singleton.mp hlast ▸ hlt
  · rw [hhanded]
    intro handed hmem' waiting hwaiting
    have hbefore := mem_remaining_update hremaining hwaiting
    cases List.mem_append.mp hmem' with
    | inl hearlier => exact h.ahead handed hearlier waiting hbefore
    | inr hlast =>
      rw [List.mem_singleton.mp hlast]
      apply Nat.lt_of_le_of_ne
      · exact Nat.le_of_not_lt fun hlt => hfirst ⟨waiting, hlt, hbefore⟩
      · rintro rfl
        rw [State.deliver_remaining, Function.update_self] at hwaiting
        exact hnotMem hwaiting

theorem OrderedStep.ordered {id : SubscriberId} (h : OrderedStep id s action s')
    (hs : Addressed s) (hordered : Ordered s id) : Ordered s' id := by
  obtain ⟨hstep, hfirst⟩ := h
  cases hstep with
  | append hnodup => exact hordered.append _ hnodup
  | skip hremaining => exact hordered.skip hremaining
  | @deliver ticket other rest hremaining hopen =>
    by_cases hid : id = other
    · rw [← hid] at hremaining hopen ⊢
      apply hordered.deliver hs hremaining
      intro hearlier
      exact hfirst ⟨congrArg List.head? hremaining, hopen, hearlier⟩
    · exact hordered.deliver_other hid hremaining
  | runCallback =>
    refine hordered.of_handed rfl rfl ?_
    exact read_update Subscriber.handed (by simp) id
  | subscribe =>
    by_cases hid : id = s.registered
    · constructor
      · exact hordered.nodup
      all_goals
        rw [State.subscribe_subscriber, hid, Function.update_self]
      · exact List.Pairwise.nil
      · exact fun _ h => absurd h List.not_mem_nil
      · exact fun _ h => absurd h List.not_mem_nil
    · refine hordered.of_handed rfl rfl ?_
      rw [State.subscribe_subscriber, Function.update_of_ne hid]
  | take => exact hordered.of_handed rfl rfl (read_update Subscriber.handed (by rfl) id)
  | unsubscribe => exact hordered.of_handed rfl rfl rfl
  | snapshot => exact hordered.of_handed rfl rfl rfl
  | close => exact hordered.of_handed rfl rfl rfl

theorem Ordered.handed_sublist {id : SubscriberId} (h : Ordered s id) :
    (s.subscriber id).handed.Sublist s.bufferOrder := by
  apply List.sublist_of_subperm_of_pairwise _ h.sorted List.pairwise_lt_range
  apply List.subperm_of_subset h.sorted.nodup
  intro ticket hticket
  exact List.mem_range.mpr (h.known ticket hticket)

theorem ordered_of_run {actions : List (Action Entry)} {id : SubscriberId}
    (hrun : Run (OrderedStep id) State.initial actions s) : Ordered s id := by
  have hknown : ∀ {actions : List (Action Entry)} {s : State Entry},
      Run (OrderedStep id) State.initial actions s → Addressed s :=
    fun hreached => addressed_of_run (hreached.mono fun _ _ _ h => h.1)
  apply hrun.invariant_of_reached hknown
  · exact ordered_initial id
  · exact fun _ _ _ hs hordered hstep => hstep.ordered hs hordered

/-- Whatever overtakes what: the queue is filled in the order of the deliveries. -/
theorem received_sublist_handed {actions : List (Action Entry)}
    (hrun : Run Step State.initial actions s) (id : SubscriberId) :
    (s.subscriber id).received.Sublist (s.subscriber id).handed :=
  (List.sublist_append_left _ _).trans (inFifo_of_run hrun id)

theorem received_sublist {actions : List (Action Entry)} {id : SubscriberId}
    (hrun : Run (OrderedStep id) State.initial actions s) :
    (s.subscriber id).received.Sublist s.bufferOrder := by
  have hsteps : Run Step State.initial actions s := hrun.mono fun _ _ _ h => h.1
  exact (received_sublist_handed hsteps id).trans (ordered_of_run hrun).handed_sublist

def afterTwoEntries : State Unit :=
  ((((((State.initial.subscribe 0).append () [0]).append () [0]).deliver 0 0 []).deliver 1 0
    []).runCallback 0 0 0 [(0, 1)] 60).runCallback 0 0 1 [] 60

/-- Two calls of `record` append before either delivers, and deliver as they appended. -/
theorem received_sublist_afterTwoEntries :
    (afterTwoEntries.subscriber 0).received = [0, 1] ∧
      (afterTwoEntries.subscriber 0).received.Sublist afterTwoEntries.bufferOrder := by
  have hrun : Run (OrderedStep 0) State.initial
      [.subscribe 0, .append () [0], .append () [0], .deliver 0, .deliver 1, .runCallback 0 60,
        .runCallback 0 60] afterTwoEntries := by
    refine .snoc (.snoc (.snoc (.snoc (.snoc (.snoc (.snoc .nil
      ⟨.subscribe (Finset.notMem_empty _), id⟩)
      ⟨.append (List.nodup_singleton 0) rfl, id⟩)
      ⟨.append (List.nodup_singleton 0) rfl, id⟩)
      ⟨.deliver rfl (Finset.notMem_empty _), ?_⟩)
      ⟨.deliver rfl (Finset.notMem_empty _), ?_⟩)
      ⟨.runCallback (Finset.notMem_empty _) rfl, id⟩)
      ⟨.runCallback (Finset.notMem_empty _) rfl, id⟩
    · rintro ⟨-, -, earlier, hearlier, -⟩
      exact Nat.not_lt_zero _ hearlier
    · rintro ⟨-, -, earlier, hearlier, hremaining⟩
      obtain rfl := Nat.lt_one_iff.mp hearlier
      cases hremaining
  exact ⟨rfl, received_sublist hrun⟩

/-- Two calls of `record` leave the lock and deliver in the other order. -/
theorem not_received_sublist :
    ¬ ∀ (actions : List (Action Unit)) (s : State Unit) (id : SubscriberId),
      Run Step State.initial actions s → (s.subscriber id).received.Sublist s.bufferOrder := by
  intro h
  have hrun : Run Step (State.initial : State Unit)
      [.subscribe 0, .append () [0], .append () [0], .deliver 1, .deliver 0, .runCallback 0 60,
        .runCallback 0 60]
      (((((((State.initial.subscribe 0).append () [0]).append () [0]).deliver 1 0 []).deliver 0 0
        []).runCallback 0 0 1 [(0, 0)] 60).runCallback 0 0 0 [] 60) :=
    .snoc (.snoc (.snoc (.snoc (.snoc (.snoc (.snoc .nil
      (.subscribe (Finset.notMem_empty _)))
      (.append (List.nodup_singleton 0) rfl))
      (.append (List.nodup_singleton 0) rfl))
      (.deliver rfl (Finset.notMem_empty _)))
      (.deliver rfl (Finset.notMem_empty _)))
      (.runCallback (Finset.notMem_empty _) rfl))
      (.runCallback (Finset.notMem_empty _) rfl)
  have hreceived : [1, 0].Sublist [0, 1] := h _ _ 0 hrun
  exact absurd hreceived (by decide)

end SqlGateway.InMemoryObservabilityRecorderAdapter
