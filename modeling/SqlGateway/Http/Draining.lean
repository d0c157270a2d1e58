import Mathlib.Algebra.BigOperators.Group.Finset.Basic
import SqlGateway.Http.EventStream

namespace SqlGateway.Http.Draining

open EventStream (Action Recorder State Step)
open InMemoryObservabilityRecorderAdapter (Addressed LoopId SubscriberId Ticket)
open MultiSinkObservabilityRecorderAdapter (sampleEntry)

def Drains (s : State) (action : Action) (s' : State) : Prop :=
  Step s action s' ∧ match action with
    | .work (.deliver _) | .work (.runCallback _ _) => True
    | .send id => (s'.generator id).events ≠ (s.generator id).events
    | _ => False

def calls (recorder : Recorder) : Nat :=
  ∑ ticket ∈ Finset.range recorder.appended.length, (recorder.remaining ticket).length

def scheduledFor (recorder : Recorder) (id : SubscriberId) : Nat :=
  (recorder.ready (recorder.subscriber id).loop).countP fun callback => callback.1 = id

def load (s : State) (id : SubscriberId) : Nat :=
  2 * scheduledFor s.recorder id + (s.recorder.subscriber id).queue.length +
    (s.generator id).waiting.length

/-- A turn of a call schedules a callback at most. -/
def toDo (s : State) : Nat :=
  3 * calls s.recorder + ∑ id ∈ Finset.range s.recorder.registered, load s id

theorem sum_changed {n i : Nat} {f g : Nat → Nat} (hi : i < n) (h : ∀ j ≠ i, g j = f j) :
    (∑ j ∈ Finset.range n, g j) + f i = (∑ j ∈ Finset.range n, f j) + g i := by
  have hmem := Finset.mem_range.mpr hi
  have hothers : ∑ j ∈ (Finset.range n).erase i, g j = ∑ j ∈ (Finset.range n).erase i, f j :=
    Finset.sum_congr rfl fun j hj => h j (Finset.ne_of_mem_erase hj)
  rw [← Finset.add_sum_erase _ f hmem, ← Finset.add_sum_erase _ g hmem, hothers]
  omega

variable {s s' : State} {action : Action} {actions : List Action} {id : SubscriberId}

theorem calls_changed {recorder : Recorder} {ticket : Ticket} {other : SubscriberId}
    {rest : List SubscriberId} (hs : Addressed recorder)
    (hremaining : recorder.remaining ticket = other :: rest) (recorder' : Recorder)
    (hrest : recorder'.remaining = Function.update recorder.remaining ticket rest)
    (happended : recorder'.appended = recorder.appended) :
    calls recorder' + 1 = calls recorder := by
  have hlt : ticket < recorder.appended.length := by
    refine Nat.lt_of_not_le fun hle => ?_
    rw [hs.future ticket hle] at hremaining
    cases hremaining
  have hsum := sum_changed (f := fun ticket => (recorder.remaining ticket).length)
    (g := fun ticket => (recorder'.remaining ticket).length) hlt fun other hother => by
      rw [hrest, Function.update_of_ne hother]
  simp only [hremaining, hrest, Function.update_self, List.length_cons] at hsum
  rw [calls, calls, hrest, happended]
  omega

theorem toDo_changed (s s' : State) (hid : id < s.recorder.registered)
    (hregistered : s'.recorder.registered = s.recorder.registered)
    (hload : ∀ other ≠ id, load s' other = load s other) :
    toDo s' + 3 * calls s.recorder + load s id = toDo s + 3 * calls s'.recorder + load s' id := by
  have hsum := sum_changed hid hload
  rw [toDo, toDo, hregistered]
  omega

theorem toDo_skip (hs : Addressed s.recorder) {ticket : Ticket} {other : SubscriberId}
    {rest : List SubscriberId} (hremaining : s.recorder.remaining ticket = other :: rest) :
    toDo { s with recorder := s.recorder.skip ticket rest } < toDo s := by
  have hcalls := calls_changed hs hremaining (s.recorder.skip ticket rest) rfl rfl
  change 3 * calls (s.recorder.skip ticket rest) + _ < 3 * calls s.recorder + _
  exact Nat.add_lt_add_right (by omega) _

theorem toDo_deliver (hs : Addressed s.recorder) {ticket : Ticket} {other : SubscriberId}
    {rest : List SubscriberId} (hremaining : s.recorder.remaining ticket = other :: rest) :
    toDo { s with recorder := s.recorder.deliver ticket other rest } < toDo s := by
  have hother : other < s.recorder.registered :=
    hs.remaining ticket other (hremaining ▸ List.mem_cons_self)
  have hcalls := calls_changed hs hremaining (s.recorder.deliver ticket other rest) rfl rfl
  have hloop (id : SubscriberId) : ((s.recorder.deliver ticket other rest).subscriber id).loop =
      (s.recorder.subscriber id).loop :=
    InMemoryObservabilityRecorderAdapter.read_update (·.loop) (by rfl) id
  have hqueue (id : SubscriberId) : ((s.recorder.deliver ticket other rest).subscriber id).queue =
      (s.recorder.subscriber id).queue :=
    InMemoryObservabilityRecorderAdapter.read_update (·.queue) (by rfl) id
  have hscheduled (id : SubscriberId) :
      scheduledFor (s.recorder.deliver ticket other rest) id =
        scheduledFor s.recorder id + if id = other then 1 else 0 := by
    rw [scheduledFor, scheduledFor, hloop,
      InMemoryObservabilityRecorderAdapter.State.deliver_ready, Function.update_apply]
    split_ifs with hsame hid hid
    · rw [hsame, List.countP_append, List.countP_singleton, if_pos (decide_eq_true hid.symm)]
    · rw [hsame, List.countP_append, List.countP_singleton,
        if_neg fun heq => hid (of_decide_eq_true heq).symm]
    · exact absurd (congrArg (fun id => (s.recorder.subscriber id).loop) hid) hsame
    · rfl
  have hload (id : SubscriberId) :
      load { s with recorder := s.recorder.deliver ticket other rest } id =
        load s id + if id = other then 2 else 0 := by
    simp only [load, hscheduled, hqueue]
    split_ifs <;> omega
  have hchanged := toDo_changed s { s with recorder := s.recorder.deliver ticket other rest }
    hother rfl fun id hid => by rw [hload, if_neg hid]; rfl
  rw [hload, if_pos rfl] at hchanged
  dsimp only at hchanged ⊢
  omega

theorem toDo_runCallback (hs : Addressed s.recorder) {loop : LoopId} {other : SubscriberId}
    {ticket : Ticket} {rest : List (SubscriberId × Ticket)} (nowMonotonic : Rat)
    (hready : s.recorder.ready loop = (other, ticket) :: rest) :
    toDo { s with recorder := s.recorder.runCallback loop other ticket rest nowMonotonic } <
      toDo s := by
  have hmem : (other, ticket) ∈ s.recorder.ready loop := hready ▸ List.mem_cons_self
  have hother := hs.ready loop _ hmem
  have hown : (s.recorder.subscriber other).loop = loop := hs.ownLoop loop _ hmem
  have hloop (id : SubscriberId) :
      ((s.recorder.runCallback loop other ticket rest nowMonotonic).subscriber id).loop =
        (s.recorder.subscriber id).loop :=
    InMemoryObservabilityRecorderAdapter.read_update (·.loop) (by simp) id
  have hscheduled (id : SubscriberId) :
      scheduledFor (s.recorder.runCallback loop other ticket rest nowMonotonic) id +
        (if id = other then 1 else 0) = scheduledFor s.recorder id := by
    rw [scheduledFor, scheduledFor, hloop,
      InMemoryObservabilityRecorderAdapter.State.runCallback_ready, Function.update_apply]
    split_ifs with hsame hid hid
    · rw [hsame, hready, List.countP_cons, if_pos (decide_eq_true hid.symm)]
    · rw [hsame, hready, List.countP_cons, if_neg fun heq => hid (of_decide_eq_true heq).symm]
    · exact absurd (hid ▸ hown) hsame
    · rfl
  have hqueue (id : SubscriberId) :
      ((s.recorder.runCallback loop other ticket rest nowMonotonic).subscriber id).queue.length ≤
        (s.recorder.subscriber id).queue.length + if id = other then 1 else 0 := by
    rw [InMemoryObservabilityRecorderAdapter.State.runCallback_subscriber, Function.update_apply]
    split_ifs with hid
    · rw [hid, InMemoryObservabilityRecorderAdapter.putIfPossible_queue,
        InMemoryObservabilityRecorderAdapter.putNowait]
      split_ifs
      · exact Nat.le_succ _
      · rw [List.length_append, List.length_singleton]
    · exact Nat.le_refl _
  have hothers (id : SubscriberId) (hid : id ≠ other) :
      load { s with recorder := s.recorder.runCallback loop other ticket rest nowMonotonic } id =
        load s id := by
    have hsame := hscheduled id
    rw [if_neg hid] at hsame
    simp only [load, ← hsame, InMemoryObservabilityRecorderAdapter.State.runCallback_subscriber,
      Function.update_of_ne hid, Nat.add_zero]
  have hless : load { s with
      recorder := s.recorder.runCallback loop other ticket rest nowMonotonic } other + 1 ≤
        load s other := by
    have hone := hscheduled other
    have hmore := hqueue other
    rw [if_pos rfl] at hone hmore
    simp only [load]
    omega
  have hchanged := toDo_changed s { s with
    recorder := s.recorder.runCallback loop other ticket rest nowMonotonic } hother rfl hothers
  have hcalls : calls (s.recorder.runCallback loop other ticket rest nowMonotonic) =
    calls s.recorder := rfl
  dsimp only at hchanged hless ⊢
  omega

theorem toDo_send (hid : id < s.recorder.registered) {recorder : Recorder} (frame : EventStream.Frame)
    (waiting : List Ticket) (hregistered : recorder.registered = s.recorder.registered)
    (hcalls : calls recorder = calls s.recorder)
    (hscheduled : ∀ id, scheduledFor recorder id = scheduledFor s.recorder id)
    (hqueue : ∀ other ≠ id, (recorder.subscriber other).queue = (s.recorder.subscriber other).queue)
    (hless : (recorder.subscriber id).queue.length + waiting.length <
      (s.recorder.subscriber id).queue.length + (s.generator id).waiting.length) :
    toDo (s.set recorder id ((s.generator id).send frame waiting)) < toDo s := by
  have hothers (other : SubscriberId) (hother : other ≠ id) :
      load (s.set recorder id ((s.generator id).send frame waiting)) other = load s other := by
    simp only [load, State.set, hscheduled, hqueue other hother, Function.update_of_ne hother]
  have hload : load (s.set recorder id ((s.generator id).send frame waiting)) id < load s id := by
    simp only [load, State.set, hscheduled, Function.update_self, EventStream.Generator.send]
    omega
  have hchanged := toDo_changed s (s.set recorder id ((s.generator id).send frame waiting)) hid
    hregistered hothers
  have hsame : calls (s.set recorder id ((s.generator id).send frame waiting)).recorder =
    calls s.recorder := hcalls
  omega

theorem Drains.toDo_lt (h : Drains s action s') (hs : Addressed s.recorder)
    (hregistered : ∀ id, (s.generator id).phase ≠ .ended → id < s.recorder.registered) :
    toDo s' < toDo s := by
  obtain ⟨hstep, hkind⟩ := h
  have hid {id : SubscriberId} (hphase : (s.generator id).phase = .streaming) :
      id < s.recorder.registered := hregistered id (by rw [hphase]; nofun)
  cases hstep with
  | work _ hstep =>
    cases hstep with
    | skip hremaining => exact toDo_skip hs hremaining
    | deliver hremaining => exact toDo_deliver hs hremaining
    | @runCallback _ _ _ _ nowMonotonic _ hready => exact toDo_runCallback hs nowMonotonic hready
    | _ => exact hkind.elim
  | sendReplayed hphase hwaiting =>
    refine toDo_send (hid hphase) _ _ rfl rfl (fun _ => rfl) (fun _ _ => rfl) ?_
    rw [hwaiting]
    exact Nat.lt_succ_self _
  | @sendLive id _ rest hphase hwaiting hqueue =>
    have hloop (other : SubscriberId) : ((s.recorder.take id rest).subscriber other).loop =
        (s.recorder.subscriber other).loop :=
      InMemoryObservabilityRecorderAdapter.read_update (·.loop) (by rfl) other
    refine toDo_send (hid hphase) _ _ rfl rfl (fun other => ?_) (fun other hother => ?_) ?_
    · rw [scheduledFor, hloop]
      rfl
    · exact congrArg _ (Function.update_of_ne hother _ _)
    · rw [InMemoryObservabilityRecorderAdapter.State.take_subscriber, Function.update_self, hqueue]
      exact Nat.lt_of_lt_of_le (Nat.lt_succ_self _) (Nat.le_add_right _ _)
  | keepalive =>
    refine absurd ?_ hkind
    simp [State.set, EventStream.Generator.events, EventStream.Generator.send,
      EventStream.Frame.ticket?]
  | subscribe => exact hkind.elim
  | snapshot => exact hkind.elim
  | stop => exact hkind.elim

structure Idle (s : State) (id : SubscriberId) : Prop where
  waiting : (s.generator id).waiting = []
  queue : (s.recorder.subscriber id).queue = []
  settled : ∀ ticket, s.recorder.Settled id ticket

theorem events_send_event (generator : EventStream.Generator) (ticket : Ticket)
    (waiting : List Ticket) :
    (generator.send (.event ticket) waiting).events ≠ generator.events := by
  rw [EventStream.Generator.events, EventStream.Generator.send, List.filterMap_append]
  exact fun h => List.cons_ne_nil ticket [] (List.append_right_eq_self.mp h)

/-- As long as a client waits for something, something can go on. -/
theorem idle_of_stuck (hstuck : ∀ action s', ¬Drains s action s')
    (hphase : (s.generator id).phase = .streaming)
    (hopen : (s.recorder.subscriber id).loop ∉ s.recorder.closed) : Idle s id := by
  have hsent {ticket : Ticket} {waiting : List Ticket} {recorder : Recorder}
      (hstep : Step s (.send id)
        (s.set recorder id ((s.generator id).send (.event ticket) waiting))) : False := by
    refine hstuck _ _ ⟨hstep, ?_⟩
    simp only [State.set, Function.update_self]
    exact events_send_event _ _ _
  have hwaiting : (s.generator id).waiting = [] := by
    cases h : (s.generator id).waiting with
    | nil => rfl
    | cons ticket rest => exact (hsent (.sendReplayed hphase h)).elim
  constructor
  · exact hwaiting
  · cases h : (s.recorder.subscriber id).queue with
    | nil => rfl
    | cons ticket rest => exact (hsent (.sendLive hphase hwaiting h)).elim
  · intro ticket
    constructor
    · cases h : s.recorder.remaining ticket with
      | nil => rfl
      | cons other rest =>
        by_cases hclosed : (s.recorder.subscriber other).loop ∈ s.recorder.closed
        · exact (hstuck _ _ ⟨.work (.deliver ticket) (.skip h hclosed), trivial⟩).elim
        · exact (hstuck _ _ ⟨.work (.deliver ticket) (.deliver h hclosed), trivial⟩).elim
    · intro hready
      cases h : s.recorder.ready (s.recorder.subscriber id).loop with
      | nil =>
        rw [h] at hready
        cases hready
      | cons callback rest =>
        exact hstuck _ _ ⟨.work (.runCallback _ 0) (.runCallback hopen h), trivial⟩

/-- Whatever is run next, it comes to an end when nothing more is recorded, and no client is left
waiting. -/
theorem drained (h : Transition.Run Step {} actions s) {labels : List Action}
    (hdrains : Transition.Run Drains s labels s') :
    labels.length + toDo s' ≤ toDo s ∧
      ((∀ action s'', ¬Drains s' action s'') → ∀ id, (s'.generator id).phase = .streaming →
        (s'.recorder.subscriber id).loop ∉ s'.recorder.closed → Idle s' id) := by
  refine ⟨?_, fun hstuck id hphase hopen => idle_of_stuck hstuck hphase hopen⟩
  induction hdrains with
  | nil => exact Nat.le_of_eq (Nat.zero_add _)
  | snoc hbefore hlast ih =>
    have hrun := h.append (hbefore.mono fun _ _ _ hdrain => hdrain.1)
    obtain ⟨_, hrecorder⟩ := EventStream.recorder_run hrun
    have hknown :=
      (InMemoryObservabilityRecorderAdapter.invariant_of_run hrecorder).addressed
    have hless := hlast.toDo_lt hknown fun id hphase =>
      hknown.subscribers id ((EventStream.run_follows hrun id).subscribed.mpr hphase)
    rw [List.length_append, List.length_singleton]
    omega

/-- The client that waits for the first entry is sent it. -/
theorem drained_servedClient :
    1 + toDo (EventStream.servedClient (sampleEntry "first")) ≤
      toDo (EventStream.waitingClient (sampleEntry "first")) := by
  have hwaiting := EventStream.run_waitingClient (sampleEntry "first")
  have hsend : Drains (EventStream.waitingClient (sampleEntry "first")) (.send 0)
      (EventStream.servedClient (sampleEntry "first")) :=
    ⟨.sendLive rfl rfl rfl, events_send_event _ _ _⟩
  exact (drained hwaiting (.snoc .nil hsend)).1

end SqlGateway.Http.Draining
