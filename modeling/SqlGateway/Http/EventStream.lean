import SqlGateway.Http.LivePage
import SqlGateway.Library.EventSource
import SqlGateway.Library.JsonReaderLaws
import SqlGateway.Observability.Delivery

namespace SqlGateway.Http.EventStream

open InMemoryObservabilityRecorderAdapter (Ticket SubscriberId LoopId Subscriber lastTickets
  maxPerSubscriberQueueSize maxBufferedEntries)
open ObservabilityHttpController (formatServerSentEvent formatServerSentEvent_eq
  unbroken_of_printable)
open LivePage (isReadable)
open MultiSinkObservabilityRecorderAdapter (sampleEntry)

abbrev Recorder := InMemoryObservabilityRecorderAdapter.State ObservabilityEntryDto

abbrev RecorderAction := InMemoryObservabilityRecorderAdapter.Action ObservabilityEntryDto

abbrev RecorderStep : Recorder → RecorderAction → Recorder → Prop :=
  InMemoryObservabilityRecorderAdapter.Step

inductive Frame
  | event (ticket : Ticket)
  | keepalive

def Frame.ticket? : Frame → Option Ticket
  | .event ticket => some ticket
  | .keepalive => none

inductive Phase
  | subscribed | streaming | ended

/-- `waiting` is what the `for` loop has still to go through. The fields after the gap are what
has happened so far: nothing reads them. -/
structure Generator where
  phase : Phase := .ended
  waiting : List Ticket := []

  frames : List Frame := []
  replayed : List Ticket := []

namespace Generator

variable (generator : Generator)

def replay (taken : List Ticket) : Generator :=
  { generator with phase := .streaming, waiting := taken, replayed := taken }

def send (frame : Frame) (waiting : List Ticket) : Generator :=
  { generator with waiting, frames := generator.frames ++ [frame] }

/-- It returns or is cancelled; the `finally` of `subscribe` runs. -/
def stop : Generator := { generator with phase := .ended }

def events : List Ticket := generator.frames.filterMap Frame.ticket?

end Generator

structure State where
  recorder : Recorder := {}
  generator : SubscriberId → Generator := fun _ => {}

def State.set (s : State) (recorder : Recorder) (id : SubscriberId) (generator : Generator) :
    State :=
  { recorder, generator := Function.update s.generator id generator }

inductive Works : RecorderAction → Prop
  | append (entry : ObservabilityEntryDto) (order : List SubscriberId) : Works (.append entry order)
  | deliver (ticket : Ticket) : Works (.deliver ticket)
  | runCallback (loop : LoopId) (nowMonotonic : Rat) : Works (.runCallback loop nowMonotonic)
  | close (loop : LoopId) : Works (.close loop)

inductive Action
  | work (action : RecorderAction)
  | subscribe (loop : LoopId)
  | snapshot (id : SubscriberId)
  | send (id : SubscriberId)
  | stop (id : SubscriberId)

/-- The time-out of a heartbeat can come while an entry is on its way into the queue. -/
inductive Step : State → Action → State → Prop
  | work {s : State} {action : RecorderAction} {recorder : Recorder} : Works action →
    RecorderStep s.recorder action recorder → Step s (.work action) { s with recorder }
  | subscribe {s : State} {loop : LoopId} : loop ∉ s.recorder.closed →
    Step s (.subscribe loop) (s.set (s.recorder.subscribe loop) s.recorder.registered
      { phase := .subscribed })
  | snapshot {s : State} {id : SubscriberId} : (s.generator id).phase = .subscribed →
    Step s (.snapshot id)
      (s.set s.recorder.snapshot id ((s.generator id).replay s.recorder.entries))
  | sendReplayed {s : State} {id : SubscriberId} {ticket : Ticket} {rest : List Ticket} :
    (s.generator id).phase = .streaming → (s.generator id).waiting = ticket :: rest →
    Step s (.send id) (s.set s.recorder id ((s.generator id).send (.event ticket) rest))
  | sendLive {s : State} {id : SubscriberId} {ticket : Ticket} {rest : List Ticket} :
    (s.generator id).phase = .streaming → (s.generator id).waiting = [] →
    (s.recorder.subscriber id).queue = ticket :: rest →
    Step s (.send id) (s.set (s.recorder.take id rest) id ((s.generator id).send (.event ticket) []))
  | keepalive {s : State} {id : SubscriberId} :
    (s.generator id).phase = .streaming → (s.generator id).waiting = [] →
    Step s (.send id) (s.set s.recorder id ((s.generator id).send .keepalive []))
  | stop {s : State} {id : SubscriberId} : (s.generator id).phase = .streaming →
    Step s (.stop id) (s.set (s.recorder.unsubscribe id) id (s.generator id).stop)

variable {s s' : State} {action : Action} {actions : List Action}

theorem Step.recorder (h : Step s action s') :
    s'.recorder = s.recorder ∨ ∃ action, RecorderStep s.recorder action s'.recorder := by
  cases h with
  | work _ hstep => exact .inr ⟨_, hstep⟩
  | subscribe hloop => exact .inr ⟨_, .subscribe hloop⟩
  | snapshot => exact .inr ⟨_, .snapshot⟩
  | sendReplayed => exact .inl rfl
  | sendLive _ _ hqueue => exact .inr ⟨_, .take hqueue⟩
  | keepalive => exact .inl rfl
  | stop => exact .inr ⟨_, .unsubscribe⟩

theorem recorder_run (h : Transition.Run Step {} actions s) :
    ∃ actions, Transition.Run RecorderStep {} actions s.recorder :=
  h.project State.recorder fun _ _ _ hstep => hstep.recorder

/-- A generator has sent, in order, what `snapshot` returned and then what came into its queue,
save for what is left of the two. -/
structure Follows (recorder : Recorder) (id : SubscriberId) (generator : Generator) : Prop where
  fresh : generator.phase = .subscribed → generator = { phase := .subscribed }
  sent : generator.events ++ generator.waiting ++ (recorder.subscriber id).queue =
    generator.replayed ++ (recorder.subscriber id).received
  subscribed : id ∈ recorder.subscribers ↔ generator.phase ≠ .ended
  replayed : ∃ appended ≤ recorder.appended.length, generator.replayed = lastTickets appended

theorem follows_initial (id : SubscriberId) : Follows {} id {} where
  fresh h := nomatch h
  sent := rfl
  subscribed := ⟨fun h => absurd h (Finset.notMem_empty id), fun h => absurd rfl h⟩
  replayed := ⟨0, Nat.le_refl 0, (List.rtake_nil _).symm⟩

theorem Works.ne_take {action : RecorderAction} {id : SubscriberId} (h : Works action) :
    action ≠ .take id := by
  rintro rfl
  cases h

theorem Works.ne_subscribe {action : RecorderAction} (h : Works action) (loop : LoopId) :
    action ≠ .subscribe loop := by
  rintro rfl
  cases h

theorem subscribers_of_works {recorder recorder' : Recorder} {action : RecorderAction}
    (hworks : Works action) (h : RecorderStep recorder action recorder') :
    recorder'.subscribers = recorder.subscribers := by
  cases hworks <;> cases h <;> rfl

theorem follows_work {id : SubscriberId} {recorder recorder' : Recorder} {generator : Generator}
    {action : RecorderAction} (hworks : Works action)
    (h : RecorderStep recorder action recorder') (hs : Follows recorder id generator) :
    Follows recorder' id generator where
  fresh := hs.fresh
  sent := by
    obtain ⟨more, hqueue, hreceived⟩ := h.queued hworks.ne_take hworks.ne_subscribe
    rw [hqueue, hreceived, ← List.append_assoc, hs.sent, List.append_assoc]
  subscribed := by
    rw [subscribers_of_works hworks h]
    exact hs.subscribed
  replayed := by
    obtain ⟨appended, hle, hreplayed⟩ := hs.replayed
    exact ⟨appended, Nat.le_trans hle h.appended_length_le, hreplayed⟩

theorem follows_subscribe (recorder : Recorder) (loop : LoopId) :
    Follows (recorder.subscribe loop) recorder.registered { phase := .subscribed } where
  fresh _ := rfl
  sent := by simp [Generator.events]
  subscribed := by simp
  replayed := ⟨0, Nat.zero_le _, (List.rtake_nil _).symm⟩

section

variable {recorder : Recorder} {id : SubscriberId} {generator : Generator} {ticket : Ticket}
  {rest : List Ticket} (hs : Follows recorder id generator)
include hs

theorem Follows.snapshot (hentries : recorder.entries = lastTickets recorder.appended.length)
    (hphase : generator.phase = .subscribed) :
    Follows recorder.snapshot id (generator.replay recorder.entries) where
  fresh h := nomatch h
  sent := by
    have hsent := hs.sent
    rw [hs.fresh hphase] at hsent ⊢
    exact congrArg (recorder.entries ++ ·) hsent
  subscribed := by
    rw [InMemoryObservabilityRecorderAdapter.State.snapshot_subscribers, hs.subscribed, hphase]
    simp [Generator.replay]
  replayed := ⟨_, Nat.le_refl _, hentries⟩

theorem Follows.send {frame : Frame} {waiting : List Ticket} {recorder' : Recorder}
    (hphase : generator.phase = .streaming)
    (hqueue : frame.ticket?.toList ++ waiting ++ (recorder'.subscriber id).queue =
      generator.waiting ++ (recorder.subscriber id).queue)
    (hreceived : (recorder'.subscriber id).received = (recorder.subscriber id).received)
    (hsubscribers : recorder'.subscribers = recorder.subscribers)
    (happended : recorder'.appended = recorder.appended) :
    Follows recorder' id (generator.send frame waiting) where
  fresh h := by
    have hstreaming : generator.phase = .subscribed := h
    rw [hphase] at hstreaming
    cases hstreaming
  sent := by
    have hevents : (generator.send frame waiting).events =
        generator.events ++ frame.ticket?.toList := by
      rw [Generator.events, Generator.send, List.filterMap_append]
      cases frame <;> rfl
    have hsent := hs.sent
    rw [List.append_assoc, ← hqueue] at hsent
    rw [hevents, hreceived]
    simpa [Generator.send] using hsent
  subscribed := by
    rw [hsubscribers]
    exact hs.subscribed
  replayed := by
    rw [happended]
    exact hs.replayed

theorem Follows.stop : Follows (recorder.unsubscribe id) id generator.stop where
  fresh h := nomatch h
  sent := hs.sent
  subscribed := by simp [Generator.stop]
  replayed := hs.replayed

end

theorem follows_set {recorder : Recorder} {other : SubscriberId} {generator : Generator}
    (hs : ∀ id, Follows s.recorder id (s.generator id)) (hother : Follows recorder other generator)
    (hsubscriber : ∀ id ≠ other, recorder.subscriber id = s.recorder.subscriber id)
    (hsubscribers : ∀ id ≠ other, id ∈ recorder.subscribers ↔ id ∈ s.recorder.subscribers)
    (happended : recorder.appended = s.recorder.appended) (id : SubscriberId) :
    Follows recorder id ((s.set recorder other generator).generator id) := by
  simp only [State.set, Function.update_apply]
  split_ifs with heq
  · exact heq ▸ hother
  · constructor
    · exact (hs id).fresh
    · rw [hsubscriber id heq]
      exact (hs id).sent
    · rw [hsubscribers id heq]
      exact (hs id).subscribed
    · rw [happended]
      exact (hs id).replayed

theorem Step.follows (h : Step s action s')
    (hentries : s.recorder.entries = lastTickets s.recorder.appended.length)
    (hs : ∀ id, Follows s.recorder id (s.generator id)) (id : SubscriberId) :
    Follows s'.recorder id (s'.generator id) := by
  cases h with
  | work hworks hstep => exact follows_work hworks hstep (hs id)
  | subscribe =>
    refine follows_set hs (follows_subscribe _ _) (fun id hid => ?_) (fun id hid => ?_) rfl id
    · exact Function.update_of_ne hid _ _
    · simp [hid]
  | snapshot hphase =>
    exact follows_set hs ((hs _).snapshot hentries hphase) (fun _ _ => rfl) (fun _ _ => .rfl) rfl id
  | sendReplayed hphase hwaiting =>
    refine follows_set hs ((hs _).send hphase ?_ rfl rfl rfl) (fun _ _ => rfl) (fun _ _ => .rfl) rfl id
    rw [hwaiting]
    rfl
  | @sendLive other ticket rest hphase hwaiting hqueue =>
    have hother : Follows (s.recorder.take other rest) other
        ((s.generator other).send (.event ticket) []) := by
      refine (hs other).send hphase ?_ ?_ rfl rfl
      · simp [hwaiting, hqueue, Frame.ticket?]
      · simp
    exact follows_set hs hother (fun id hid => Function.update_of_ne hid _ _) (fun _ _ => .rfl) rfl id
  | keepalive hphase hwaiting =>
    refine follows_set hs ((hs _).send hphase ?_ rfl rfl rfl) (fun _ _ => rfl) (fun _ _ => .rfl) rfl id
    rw [hwaiting]
    rfl
  | stop =>
    refine follows_set hs (hs _).stop (fun _ _ => rfl) (fun id hid => ?_) rfl id
    simp [hid]

theorem run_follows (h : Transition.Run Step {} actions s) :
    ∀ id, Follows s.recorder id (s.generator id) := by
  have hentries : ∀ {actions : List Action} {s : State}, Transition.Run Step {} actions s →
      s.recorder.entries = lastTickets s.recorder.appended.length := by
    intro actions s hrun
    obtain ⟨actions, hrecorder⟩ := recorder_run hrun
    exact (InMemoryObservabilityRecorderAdapter.invariant_of_run hrecorder).buffered.entries
  exact h.invariant_of_reached hentries follows_initial fun _ _ _ hknown hs hstep =>
    hstep.follows hknown hs

def heartbeat : List Char := ": keepalive\n\n".toList

def Frame.text (appended : List ObservabilityEntryDto) : Frame → List Char
  | .event ticket => (appended[ticket]?).elim [] fun entry => formatServerSentEvent entry.toJsonPayload
  | .keepalive => heartbeat

def Frame.block (appended : List ObservabilityEntryDto) : Frame → Option EventSource.Block
  | .event ticket => (appended[ticket]?).map fun entry =>
    .message (entry.toJsonPayload.text ⟨true, false⟩)
  | .keepalive => some (.comment " keepalive".toList)

namespace State

def stream (s : State) (id : SubscriberId) : List Char :=
  (s.generator id).frames.flatMap (Frame.text s.recorder.appended)

def entriesOf (s : State) (tickets : List Ticket) : List ObservabilityEntryDto :=
  tickets.filterMap fun ticket => s.recorder.appended[ticket]?

end State

/-- What `JSON.parse` makes of the data of the entry's event. -/
def parsed (entry : ObservabilityEntryDto) : Option Json.Value :=
  if isReadable entry then some entry.toJsonPayload.plain else none

theorem parse_payload (entry : ObservabilityEntryDto) :
    Json.parse (entry.toJsonPayload.text ⟨true, false⟩) = parsed entry := by
  rw [Json.parse_text _ (.inl rfl), parsed, isReadable, Json.accepts_text]

theorem heartbeat_eq : heartbeat = (EventSource.Block.comment " keepalive".toList).text := by
  decide +kernel

theorem text_eq (appended : List ObservabilityEntryDto) (frame : Frame) :
    frame.text appended = (frame.block appended).toList.flatMap EventSource.Block.text := by
  cases frame with
  | keepalive => exact heartbeat_eq.trans (List.append_nil _).symm
  | event ticket =>
    rw [Frame.text, Frame.block]
    cases appended[ticket]? with
    | none => rfl
    | some entry =>
      rw [Option.elim_some, formatServerSentEvent_eq, Option.map_some, Option.toList_some,
        List.flatMap_singleton]

theorem flatMap_text (appended : List ObservabilityEntryDto) (frames : List Frame) :
    frames.flatMap (Frame.text appended) =
      (frames.filterMap (Frame.block appended)).flatMap EventSource.Block.text := by
  have hblocks : frames.filterMap (Frame.block appended) =
      frames.flatMap fun frame => (frame.block appended).toList := List.filterMap_eq_flatMap_toList _ _
  rw [hblocks, List.flatMap_assoc]
  exact congrArg (frames.flatMap ·) (funext (text_eq appended))

theorem filterMap_message? (s : State) (frames : List Frame) :
    (frames.filterMap (Frame.block s.recorder.appended)).filterMap EventSource.Block.message? =
      (s.entriesOf (frames.filterMap Frame.ticket?)).map fun entry =>
        entry.toJsonPayload.text ⟨true, false⟩ := by
  rw [State.entriesOf, List.filterMap_filterMap, List.filterMap_filterMap, List.map_filterMap]
  congr 1
  funext frame
  cases frame with
  | keepalive => rfl
  | event ticket =>
    rw [Frame.block, Frame.ticket?, Option.bind_some]
    cases s.recorder.appended[ticket]? <;> rfl

theorem unbroken_block {appended : List ObservabilityEntryDto} {frames : List Frame} :
    ∀ block ∈ frames.filterMap (Frame.block appended), EventSource.Unbroken block.content := by
  intro block hblock
  obtain ⟨frame, -, hframe⟩ := List.mem_filterMap.mp hblock
  cases frame with
  | keepalive =>
    cases hframe
    exact unbroken_of_printable (Json.printable_of_check rfl)
  | event ticket =>
    obtain ⟨entry, -, rfl⟩ := Option.map_eq_some_iff.mp hframe
    exact unbroken_of_printable (Json.printable_text _ _)

theorem messages_stream (s : State) (id : SubscriberId) :
    EventSource.messages (s.stream id) =
      (s.entriesOf (s.generator id).events).map fun entry =>
        entry.toJsonPayload.text ⟨true, false⟩ := by
  rw [State.stream, flatMap_text, EventSource.messages_blocks unbroken_block,
    filterMap_message? s (s.generator id).frames, Generator.events]

theorem parsed_stream (s : State) (id : SubscriberId) :
    (EventSource.messages (s.stream id)).map Json.parse =
      (s.entriesOf (s.generator id).events).map parsed := by
  rw [messages_stream, List.map_map]
  exact List.map_congr_left fun entry _ => parse_payload entry

theorem messages_of_cut (s : State) (id : SubscriberId) {text : List Char}
    (h : text <+: s.stream id) : EventSource.messages text <+: EventSource.messages (s.stream id) := by
  rw [State.stream, flatMap_text] at h ⊢
  rw [EventSource.messages_cut unbroken_block h, EventSource.messages_blocks unbroken_block]
  exact (List.take_prefix _ _).filterMap _

/-- What a client has of the recorder's entries: those that `snapshot` returned for it, the last
ones at that time, and then those that came into its queue. -/
structure Delivers (s : State) (id : SubscriberId) : Prop where
  subscribed : id ∈ s.recorder.subscribers ↔ (s.generator id).phase ≠ .ended
  bounded : (s.recorder.subscriber id).queue.length ≤ maxPerSubscriberQueueSize
  replayed : ∃ appended ≤ s.recorder.appended.length,
    (s.generator id).replayed = lastTickets appended
  received : (s.recorder.subscriber id).received.Nodup ∧
    ∀ ticket ∈ (s.recorder.subscriber id).received, ticket < s.recorder.appended.length
  read : (EventSource.messages (s.stream id)).map Json.parse ++
      (s.entriesOf ((s.generator id).waiting ++ (s.recorder.subscriber id).queue)).map parsed =
    (s.entriesOf ((s.generator id).replayed ++ (s.recorder.subscriber id).received)).map parsed
  cut : ∀ text, text <+: s.stream id → EventSource.messages text <+:
    EventSource.messages (s.stream id)

theorem received_of_counted {recorder : Recorder} {id : SubscriberId}
    (h : InMemoryObservabilityRecorderAdapter.Counted recorder id) :
    (recorder.subscriber id).received.Nodup ∧
      ∀ ticket ∈ (recorder.subscriber id).received, ticket < recorder.appended.length := by
  have hputs (ticket : Ticket) :
      (recorder.subscriber id).puts ticket ≤ recorder.copies id ticket :=
    Nat.le_trans (Nat.le_add_right _ _) (Nat.le_add_left _ _)
  constructor
  · exact List.nodup_iff_count_le_one.mpr fun ticket =>
      Nat.le_trans (hputs ticket) (h.atMostOnce ticket)
  · intro ticket hticket
    refine Nat.lt_of_not_le fun hle => ?_
    have hzero := hputs ticket
    rw [h.late ticket hle] at hzero
    exact List.count_eq_zero.mp (Nat.le_zero.mp hzero) hticket

/-- However the clients, the event loops and the worker threads take turns, every client reads the
recorded entries in its own order, none invented and none lost on the way. -/
theorem stream_delivers (h : Transition.Run Step {} actions s) {id : SubscriberId}
    (hid : id < s.recorder.registered) : Delivers s id := by
  obtain ⟨_, hrecorder⟩ := recorder_run h
  have hinvariant := InMemoryObservabilityRecorderAdapter.invariant_of_run hrecorder
  have hfollows := run_follows h id
  constructor
  · exact hfollows.subscribed
  · exact (hinvariant.accounted id).bounded
  · exact hfollows.replayed
  · exact received_of_counted (hinvariant.counted id hid)
  · rw [parsed_stream, ← List.map_append, State.entriesOf, State.entriesOf, State.entriesOf,
      ← List.filterMap_append, ← List.append_assoc, hfollows.sent]
  · exact fun text => messages_of_cut s id

/-- One client before the first entry, which comes into its queue after a heartbeat. -/
def waitingClient (entry : ObservabilityEntryDto) : State :=
  let subscribed : State := State.set {} (({} : Recorder).subscribe 0) 0 { phase := .subscribed }
  let streaming := subscribed.set subscribed.recorder.snapshot 0
    ((subscribed.generator 0).replay subscribed.recorder.entries)
  let waited := streaming.set streaming.recorder 0 ((streaming.generator 0).send .keepalive [])
  { waited with
    recorder := ((waited.recorder.append entry [0]).deliver 0 0 []).runCallback 0 0 0 [] 60 }

def servedClient (entry : ObservabilityEntryDto) : State :=
  (waitingClient entry).set ((waitingClient entry).recorder.take 0 []) 0
    (((waitingClient entry).generator 0).send (.event 0) [])

theorem run_waitingClient (entry : ObservabilityEntryDto) : Transition.Run Step {}
    [.subscribe 0, .snapshot 0, .send 0, .work (.append entry [0]), .work (.deliver 0),
      .work (.runCallback 0 60)] (waitingClient entry) := by
  have hsubscribed := Transition.Run.snoc .nil (Step.subscribe (s := {}) (Finset.notMem_empty 0))
  have hwaiting := (hsubscribed.snoc (@Step.snapshot _ 0 rfl)).snoc (@Step.keepalive _ 0 rfl rfl)
  have hrecorded := hwaiting.snoc
    (.work (.append entry [0]) (.append (List.nodup_singleton 0) rfl))
  have hdelivered := hrecorded.snoc (.work (.deliver 0) (.deliver rfl (Finset.notMem_empty _)))
  exact hdelivered.snoc (.work (.runCallback 0 60) (.runCallback (Finset.notMem_empty _) rfl))

theorem run_servedClient (entry : ObservabilityEntryDto) : Transition.Run Step {}
    [.subscribe 0, .snapshot 0, .send 0, .work (.append entry [0]), .work (.deliver 0),
      .work (.runCallback 0 60), .send 0] (servedClient entry) :=
  (run_waitingClient entry).snoc (.sendLive rfl rfl rfl)

theorem stream_delivers_servedClient :
    (EventSource.messages ((servedClient (sampleEntry "first")).stream 0)).map Json.parse =
      [parsed (sampleEntry "first")] := by
  have hread := (stream_delivers (run_servedClient (sampleEntry "first")) (Nat.succ_pos 0)).read
  exact (List.append_nil _).symm.trans hread

end SqlGateway.Http.EventStream
