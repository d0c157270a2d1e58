import SqlGateway.Library.JsonLaws
import SqlGateway.Observability.Delivery
import SqlGateway.Observability.Sinks

namespace SqlGateway.MultiSinkObservabilityRecorderAdapter

open InMemoryObservabilityRecorderAdapter (maxBufferedEntries maxBufferedEntries_pos appendEntry
  rtake_concat_rtake)

structure Sink where
  text : List Char := []
  entries : List ObservabilityEntryDto := []

/-- Where the exception comes from: before or after the entry is in the sink. -/
inductive Fault
  | before (error : PyException)
  | after (error : PyException)

inductive SinkKind
  | stdout
  | jsonl (hasPath : Bool)
  | inMemory
  | other

def raiseBefore : Option Fault → Effect PyException Sink Unit
  | some (.before error) => throw error
  | _ => pure ()

def raiseAfter : Option Fault → Effect PyException Sink Unit
  | some (.after error) => throw error
  | _ => pure ()

def writeText (text : List Char) : Effect PyException Sink Unit := fun sink =>
  (.ok (), { sink with text := sink.text ++ text })

/-- The stream fails in `write` or in `flush`. -/
def outputStream (fault : Option Fault) : TextIO Sink where
  write text := do
    raiseBefore fault
    writeText text
  flush := raiseAfter fault

/-- The file fails when it is opened or when it is closed. -/
def outputFile (fault : Option Fault) : AppendFile Sink where
  openForAppend := raiseBefore fault
  write := writeText
  close _ := raiseAfter fault

/-- The ring takes the entry, then the subscribers are gone through. -/
def recordInMemory (fault : Option Fault) : ObservabilityRecorder Sink := fun entry => do
  raiseBefore fault
  (fun sink => (.ok (), { sink with entries := appendEntry sink.entries entry }) :
    Effect PyException Sink Unit)
  raiseAfter fault

def SinkKind.recorder (fault : Option Fault) : SinkKind → ObservabilityRecorder Sink
  | .stdout => StdoutObservabilityRecorderAdapter.record (outputStream fault)
  | .jsonl true => JsonlFileObservabilityRecorderAdapter.record (some (outputFile fault))
  | .jsonl false => JsonlFileObservabilityRecorderAdapter.record none
  | .inMemory => recordInMemory fault
  | .other => fun _ => do
    raiseBefore fault
    raiseAfter fault

/-- What a sink holds after an entry that it takes. -/
def SinkKind.add (kind : SinkKind) (sink : Sink) (entry : ObservabilityEntryDto) : Sink :=
  match kind with
  | .stdout | .jsonl true => { sink with text := sink.text ++ jsonLine entry }
  | .inMemory => { sink with entries := appendEntry sink.entries entry }
  | .jsonl false | .other => sink

/-- Whether the entry is in the sink when its `record` is over. -/
def takes : Option Fault → Bool
  | some (.before _) => false
  | _ => true

theorem recorder_sink (fault : Option Fault) (kind : SinkKind) (entry : ObservabilityEntryDto)
    (sink : Sink) :
    (kind.recorder fault entry sink).2 = if takes fault then kind.add sink entry else sink := by
  cases fault with
  | none =>
    cases kind with
    | jsonl hasPath => cases hasPath <;> exact rfl
    | _ => exact rfl
  | some fault =>
    cases kind with
    | jsonl hasPath => cases hasPath <;> cases fault <;> exact rfl
    | _ => cases fault <;> exact rfl

/-- A place in `_recorders`. -/
abbrev SinkId := Nat

abbrev CallId := Nat

structure Setup where
  sinks : List SinkKind
  calls : Nat
  entry : CallId → ObservabilityEntryDto
  fault : CallId → SinkId → Option Fault := fun _ _ => none

inductive Call
  | running (remaining : List SinkId)
  | raised (error : PyException)

structure State where
  sink : SinkId → Sink := fun _ => {}
  call : CallId → Call

/-- One locked write: the turn of a call for a sink. -/
structure Turn where
  call : CallId
  sink : SinkId

namespace Setup

variable (setup : Setup)

def recorder (id : CallId) (k : SinkId) : ObservabilityRecorder Sink :=
  (setup.sinks.getD k .other).recorder (setup.fault id k)

def start (id : CallId) : List SinkId :=
  if id < setup.calls then List.range setup.sinks.length else []

def initial : State := { call := fun id => .running (setup.start id) }

end Setup

def Call.next (rest : List SinkId) : Except PyException Unit → Call
  | .ok () => .running rest
  | .error error => .raised error

def State.turn (setup : Setup) (s : State) (id : CallId) (k : SinkId) (rest : List SinkId) :
    State :=
  let (result, sink) := forward (setup.recorder id k) (setup.entry id) (s.sink k)
  { sink := Function.update s.sink k sink
    call := Function.update s.call id (.next rest result) }

inductive Step (setup : Setup) : State → Turn → State → Prop
  | turn {s : State} {id : CallId} {k : SinkId} {rest : List SinkId} :
    s.call id = .running (k :: rest) → Step setup s ⟨id, k⟩ (s.turn setup id k rest)

def lockOrder (turns : List Turn) (k : SinkId) : List CallId :=
  turns.filterMap fun turn => if turn.sink = k then some turn.call else none

def accepted (setup : Setup) (turns : List Turn) (k : SinkId) : List CallId :=
  (lockOrder turns k).filter fun id => takes (setup.fault id k)

def State.Finished (s : State) : Prop := ∀ id, s.call id = .running []

def lineOf (entry : ObservabilityEntryDto) : List Char :=
  (entry.toJsonPayload false).text ⟨true, false⟩

/-- What the sinks have got; `writes` are the kinds of sinks that write lines. -/
structure Delivered (writes : SinkKind → Prop) (setup : Setup) (turns : List Turn) (s : State) :
    Prop where
  received : ∀ k < setup.sinks.length, (lockOrder turns k).Perm (List.range setup.calls)
  lines : ∀ k kind, setup.sinks[k]? = some kind → writes kind →
    (s.sink k).text.splitOn '\n' =
        ((accepted setup turns k).map fun id => lineOf (setup.entry id)) ++ [[]] ∧
      ∀ id < setup.calls, setup.fault id k = none → (accepted setup turns k).count id = 1
  ring : ∀ k, setup.sinks[k]? = some .inMemory →
    (s.sink k).entries = ((accepted setup turns k).map setup.entry).rtake maxBufferedEntries

section

variable {setup : Setup} {s s' : State} {turns : List Turn} {turn : Turn}

theorem turn_sink (s : State) (id : CallId) (k : SinkId) (rest : List SinkId) :
    (s.turn setup id k rest).sink = Function.update s.sink k
      (if takes (setup.fault id k) then
        (setup.sinks.getD k .other).add (s.sink k) (setup.entry id) else s.sink k) := by
  rw [← recorder_sink]
  exact congrArg (fun r => Function.update s.sink k r.2) (forward_eq _ _ _)

theorem turn_call (s : State) (id : CallId) (k : SinkId) (rest : List SinkId) :
    (s.turn setup id k rest).call = Function.update s.call id (.running rest) := by
  rw [State.turn, forward_eq]
  rfl

theorem lockOrder_concat (turns : List Turn) (turn : Turn) (k : SinkId) :
    lockOrder (turns ++ [turn]) k =
      lockOrder turns k ++ if turn.sink = k then [turn.call] else [] := by
  rw [lockOrder, List.filterMap_append]
  split_ifs with h
  · simp [h, lockOrder]
  · simp [h, lockOrder]

def OnItsWay (setup : Setup) (turns : List Turn) (id : CallId) (call : Call) : Prop :=
  ∃ remaining, call = .running remaining ∧
    ∀ k, (lockOrder turns k).count id + remaining.count k = (setup.start id).count k

theorem onItsWay_turn {id : CallId} {k : SinkId} {rest : List SinkId}
    (h : ∀ id, OnItsWay setup turns id (s.call id)) (hcall : s.call id = .running (k :: rest))
    (other : CallId) :
    OnItsWay setup (turns ++ [⟨id, k⟩]) other ((s.turn setup id k rest).call other) := by
  obtain ⟨remaining, hremaining, hcount⟩ := h other
  rw [turn_call]
  by_cases heq : other = id
  · subst heq
    obtain rfl : k :: rest = remaining := Call.running.inj (hcall.symm.trans hremaining)
    rw [Function.update_self]
    refine ⟨rest, rfl, fun k' => ?_⟩
    rw [← hcount k', lockOrder_concat, List.count_append, List.count_cons, Nat.add_assoc]
    congr 1
    by_cases hk : k = k'
    · simp [hk, Nat.add_comm]
    · simp [hk]
  · rw [Function.update_of_ne heq]
    refine ⟨remaining, hremaining, fun k' => ?_⟩
    have hnone : (if k = k' then [id] else []).count other = 0 :=
      List.count_eq_zero.mpr fun hmem => by
        split_ifs at hmem
        · exact heq (List.mem_singleton.mp hmem)
        · exact List.not_mem_nil hmem
    rw [← hcount k', lockOrder_concat, List.count_append, hnone, Nat.add_zero]

theorem run_onItsWay (h : Transition.Run (Step setup) setup.initial turns s) :
    ∀ id, OnItsWay setup turns id (s.call id) := by
  induction h with
  | nil => exact fun id => ⟨setup.start id, rfl, fun k => Nat.zero_add _⟩
  | snoc _ hlast ih =>
    cases hlast with
    | turn hcall => exact onItsWay_turn ih hcall

theorem run_sink (h : Transition.Run (Step setup) setup.initial turns s) (k : SinkId) :
    s.sink k = ((accepted setup turns k).map setup.entry).foldl
      (setup.sinks.getD k .other).add {} := by
  induction h with
  | nil => rfl
  | snoc _ hlast ih =>
    cases hlast with
    | @turn id k' rest hcall =>
      rw [turn_sink, accepted, lockOrder_concat]
      by_cases hk : k' = k
      · subst hk
        rw [Function.update_self, if_pos rfl, List.filter_append]
        split_ifs with htakes
        · simp [accepted, htakes, ih]
        · simp [accepted, htakes, ih]
      · rw [Function.update_of_ne (Ne.symm hk), if_neg hk, List.append_nil]
        exact ih

end

theorem foldl_add_text {kind : SinkKind} (h : kind = .stdout ∨ kind = .jsonl true)
    (entries : List ObservabilityEntryDto) (sink : Sink) :
    (entries.foldl kind.add sink).text = sink.text ++ entries.flatMap jsonLine := by
  induction entries generalizing sink with
  | nil => exact (List.append_nil _).symm
  | cons entry entries ih =>
    have hadd : (kind.add sink entry).text = sink.text ++ jsonLine entry := by
      cases h with
      | inl h => rw [h]; rfl
      | inr h => rw [h]; rfl
    rw [List.foldl_cons, ih, hadd, List.flatMap_cons, List.append_assoc]

theorem foldl_add_entries (entries : List ObservabilityEntryDto) (sink : Sink)
    (before : List ObservabilityEntryDto) (h : sink.entries = before.rtake maxBufferedEntries) :
    (entries.foldl SinkKind.inMemory.add sink).entries =
      (before ++ entries).rtake maxBufferedEntries := by
  induction entries generalizing sink before with
  | nil => rw [List.append_nil]; exact h
  | cons entry entries ih =>
    rw [List.foldl_cons, ih _ (before ++ [entry]), List.append_assoc]
    · rfl
    · change appendEntry sink.entries entry = _
      rw [h]
      exact rtake_concat_rtake maxBufferedEntries_pos before entry

/-- A line has no line break in it, so that the text is read back line by line. -/
theorem splitOn_flatMap_jsonLine (entries : List ObservabilityEntryDto) :
    (entries.flatMap jsonLine).splitOn '\n' = entries.map lineOf ++ [[]] := by
  induction entries with
  | nil => rfl
  | cons entry entries ih =>
    have hline : ∀ c ∈ lineOf entry, (c == '\n') = false := by
      intro c hc
      have hprintable := Json.printable_text ⟨true, false⟩ (entry.toJsonPayload false) c hc
      refine beq_false_of_ne ?_
      rintro rfl
      contradiction
    have hsplit := List.splitOnP_append_cons_of_forall_mem hline '\n' rfl
      (entries.flatMap jsonLine)
    calc ((entry :: entries).flatMap jsonLine).splitOn '\n'
        = (lineOf entry ++ '\n' :: entries.flatMap jsonLine).splitOn '\n' := by
          simp [jsonLine, lineOf]
      _ = lineOf entry :: (entries.flatMap jsonLine).splitOn '\n' := hsplit
      _ = (entry :: entries).map lineOf ++ [[]] := by rw [ih]; rfl

/-- The streams, and the files that there are. -/
def SinkKind.WritesLines (kind : SinkKind) : Prop := kind = .stdout ∨ kind = .jsonl true

def SinkKind.WritesText (kind : SinkKind) : Prop :=
  kind = .stdout ∨ ∃ hasPath, kind = .jsonl hasPath

section

variable {setup : Setup} {s : State} {turns : List Turn}

theorem lockOrder_perm (h : Transition.Run (Step setup) setup.initial turns s)
    (hfinished : s.Finished) {k : SinkId} (hk : k < setup.sinks.length) :
    (lockOrder turns k).Perm (List.range setup.calls) := by
  refine List.perm_iff_count.mpr fun id => ?_
  obtain ⟨remaining, hremaining, hcount⟩ := run_onItsWay h id
  obtain rfl : [] = remaining := Call.running.inj ((hfinished id).symm.trans hremaining)
  have hstart : (setup.start id).count k = if id < setup.calls then 1 else 0 := by
    rw [Setup.start]
    split_ifs
    · rw [List.nodup_range.count, if_pos (List.mem_range.mpr hk)]
    · rfl
  calc (lockOrder turns k).count id
      = (setup.start id).count k := hcount k
    _ = (List.range setup.calls).count id := by
        rw [hstart, List.nodup_range.count]
        simp only [List.mem_range]

theorem count_accepted (h : Transition.Run (Step setup) setup.initial turns s)
    (hfinished : s.Finished) {k : SinkId} (hk : k < setup.sinks.length) {id : CallId}
    (hid : id < setup.calls) (hfault : setup.fault id k = none) :
    (accepted setup turns k).count id = 1 := by
  have htakes : takes (setup.fault id k) = true := by rw [hfault]; rfl
  rw [accepted, List.count_filter (p := fun id => takes (setup.fault id k)) htakes,
    (lockOrder_perm h hfinished hk).count_eq, List.nodup_range.count,
    if_pos (List.mem_range.mpr hid)]

theorem getD_of_getElem? {k : SinkId} {kind : SinkKind} (h : setup.sinks[k]? = some kind) :
    setup.sinks.getD k .other = kind := by
  rw [List.getD_eq_getElem?_getD, h]
  rfl

/-- No exception reaches a caller, and when all calls are over every sink has got each entry. -/
theorem calls_delivered (h : Transition.Run (Step setup) setup.initial turns s) :
    (∀ id error, s.call id ≠ .raised error) ∧
      (s.Finished → Delivered SinkKind.WritesLines setup turns s) := by
  constructor
  · intro id error hraised
    obtain ⟨remaining, hremaining, -⟩ := run_onItsWay h id
    rw [hraised] at hremaining
    contradiction
  · intro hfinished
    refine ⟨fun k hk => lockOrder_perm h hfinished hk, fun k kind hkind hwrites => ⟨?_, ?_⟩,
      fun k hkind => ?_⟩
    · rw [run_sink h k, getD_of_getElem? hkind, foldl_add_text hwrites]
      exact (splitOn_flatMap_jsonLine _).trans (by rw [List.map_map]; rfl)
    · intro id hid hfault
      exact count_accepted h hfinished (List.getElem?_eq_some_iff.mp hkind).1 hid hfault
    · rw [run_sink h k, getD_of_getElem? hkind]
      exact foldl_add_entries _ _ [] (List.rtake_nil _).symm

end

def sampleEntry (requestId : String) : ObservabilityEntryDto where
  requestId
  decision := .allowed
  redactedQuery := "SELECT 1"
  timestamp := "2026-01-01T00:00:00+00:00"

/-- The second call overtakes the first, for which the stream fails. -/
def twoCalls : Setup where
  sinks := [.stdout, .jsonl true]
  calls := 2
  entry id := sampleEntry (if id = 0 then "first" else "second")
  fault id k := if id = 0 ∧ k = 0 then some (.before (.other "BrokenPipeError" "")) else none

def twoCallsDone : State :=
  (((twoCalls.initial.turn twoCalls 0 0 [1]).turn twoCalls 1 0 [1]).turn twoCalls 1 1 []).turn
    twoCalls 0 1 []

theorem calls_delivered_twoCalls :
    (twoCallsDone.sink 0).text.splitOn '\n' = [lineOf (sampleEntry "second"), []] ∧
      (twoCallsDone.sink 1).text.splitOn '\n' =
        [lineOf (sampleEntry "second"), lineOf (sampleEntry "first"), []] := by
  have hrun : Transition.Run (Step twoCalls) twoCalls.initial [⟨0, 0⟩, ⟨1, 0⟩, ⟨1, 1⟩, ⟨0, 1⟩]
      twoCallsDone :=
    .snoc (.snoc (.snoc (.snoc .nil (.turn rfl)) (.turn rfl)) (.turn rfl)) (.turn rfl)
  have hfinished : twoCallsDone.Finished := fun id => match id with
    | 0 => rfl
    | 1 => rfl
    | _ + 2 => rfl
  have hdelivered := (calls_delivered hrun).2 hfinished
  exact ⟨(hdelivered.lines 0 .stdout rfl (.inl rfl)).1,
    (hdelivered.lines 1 (.jsonl true) rfl (.inr rfl)).1⟩

/-- A JSONL sink without a path. -/
def oneCall : Setup where
  sinks := [.jsonl false]
  calls := 1
  entry _ := sampleEntry "first"

theorem not_calls_delivered :
    ¬ ∀ (setup : Setup) (turns : List Turn) (s : State),
      Transition.Run (Step setup) setup.initial turns s →
        (∀ id error, s.call id ≠ .raised error) ∧
          (s.Finished → Delivered SinkKind.WritesText setup turns s) := by
  intro hdelivers
  have hrun : Transition.Run (Step oneCall) oneCall.initial [⟨0, 0⟩]
      (oneCall.initial.turn oneCall 0 0 []) := .snoc .nil (.turn rfl)
  have hfinished : (oneCall.initial.turn oneCall 0 0 []).Finished := fun id => match id with
    | 0 => rfl
    | _ + 1 => rfl
  have hlines := (((hdelivers _ _ _ hrun).2 hfinished).lines 0 _ rfl (.inr ⟨false, rfl⟩)).1
  have hlength := congrArg List.length hlines
  contradiction

end SqlGateway.MultiSinkObservabilityRecorderAdapter
