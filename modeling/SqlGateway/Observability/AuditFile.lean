import SqlGateway.Http.Display
import SqlGateway.Library.JsonReaderLaws
import SqlGateway.Library.Lines
import SqlGateway.Observability.FanOut
import SqlGateway.Postgres.AuditLines

namespace SqlGateway

/-! Reading the entries back from what the sinks have written -/

def DecisionEnum.ofValue? (value : String) : Option DecisionEnum :=
  [DecisionEnum.allowed, .rejected, .dbError].find? fun decision => decision.value == value

namespace ObservabilityEntryDto

section

variable (fields : List (String × Json.Value)) (key : String)

def stringField : Option String := (fields.lookup key).bind Json.Value.string?

def textField : Option Json.Text :=
  match fields.lookup key with
  | some (.string text) => some text
  | _ => none

def intField : Option Int :=
  match fields.lookup key with
  | some (.int i) => some i
  | _ => none

def boolField : Option Bool :=
  match fields.lookup key with
  | some (.bool b) => some b
  | _ => none

def floatField : Option Json.Decimal :=
  match fields.lookup key with
  | some (.float (.finite x)) => some x
  | _ => none

end

/-- The entry that a payload without result data is of. -/
def ofJsonPayload : Json.Value → Option ObservabilityEntryDto
  | .object fields => do
    let requestId ← stringField fields "request_id"
    let decision ← (stringField fields "decision").bind DecisionEnum.ofValue?
    let redactedQuery ← stringField fields "redacted_query"
    let timestamp ← stringField fields "timestamp"
    return {
      requestId, decision, redactedQuery, timestamp
      rejectionCode := stringField fields "rejection_code"
      rejectionDetail := textField fields "rejection_detail"
      dbErrorMessage := stringField fields "db_error_message"
      dbErrorCode := stringField fields "db_error_code"
      durationMs := floatField fields "duration_ms"
      rowsAffected := intField fields "rows_affected"
      rowsReturned := (intField fields "rows_returned").map Int.toNat
      rowsWereTruncated := boolField fields "rows_were_truncated" }
  | _ => none

def ofLine (line : List Char) : Option ObservabilityEntryDto :=
  (Json.parse line).bind ofJsonPayload

/-- What a reader makes of the lines whose end has been written. -/
def readLines (text : List Char) : List (Option ObservabilityEntryDto) :=
  (Lines.terminated (· == '\n') text).map ofLine

/-- The fields of a payload without result data, present or not. -/
def auditFields (entry : ObservabilityEntryDto) : List (String × Option Json.Value) :=
  entry.leadingFields ++ entry.trailingFields

theorem lookup_present {fields : List (String × Option Json.Value)}
    (h : (fields.map Prod.fst).Nodup) (key : String) :
    (fields.filterMap present).lookup key = (fields.lookup key).join := by
  induction fields with
  | nil => rfl
  | cons field fields ih =>
    obtain ⟨name, value⟩ := field
    obtain ⟨hnew, hrest⟩ := List.nodup_cons.mp h
    cases value with
    | none =>
      rw [List.filterMap_cons_none rfl, ih hrest, List.lookup_cons]
      by_cases hkey : key = name
      · subst hkey
        have hmissing : fields.lookup key = none := List.lookup_eq_none_iff.mpr fun f hf =>
          bne_iff_ne.mpr fun heq => hnew (List.mem_map.mpr ⟨f, hf, heq.symm⟩)
        rw [hmissing, beq_self_eq_true]
        rfl
      · rw [beq_false_of_ne hkey]
    | some value =>
      have hpresent : present (name, some value) = some (name, value) := rfl
      rw [List.filterMap_cons_some hpresent, List.lookup_cons, List.lookup_cons, ih hrest]
      cases key == name <;> rfl

theorem toJsonPayload_plain (entry : ObservabilityEntryDto) :
    (entry.toJsonPayload false).plain =
      .object ((entry.auditFields.filterMap present).map fun f => (f.1, f.2.plain)) := by
  have hall : ∀ fields : List (String × Option Json.Value),
      (fields.map Prod.fst).all isResultData = true →
        (fields.filterMap present).filter (fun field => isResultData field.1) =
          fields.filterMap present := by
    intro fields h
    refine List.filter_eq_self.mpr fun field hfield => ?_
    obtain ⟨f, hf, hpresent⟩ := List.mem_filterMap.mp hfield
    obtain ⟨value, -, rfl⟩ := Option.map_eq_some_iff.mp hpresent
    exact List.all_eq_true.mp h f.1 (List.mem_map_of_mem hf)
  rw [toJsonPayload_false, hall _ (by rfl), hall _ (by rfl), Json.Value.plain_object,
    ← List.filterMap_append]
  rfl

theorem lookup_plain {fields : List (String × Option Json.Value)}
    (h : (fields.map Prod.fst).Nodup) (key : String) :
    ((fields.filterMap present).map fun f => (f.1, f.2.plain)).lookup key =
      (fields.lookup key).join.map Json.Value.plain := by
  have hmap : ∀ fields : List (String × Json.Value),
      (fields.map fun f => (f.1, f.2.plain)).lookup key = (fields.lookup key).map .plain := by
    intro fields
    induction fields with
    | nil => rfl
    | cons f fields ih =>
      rw [List.map_cons, List.lookup_cons, List.lookup_cons, ih]
      cases key == f.1 <;> rfl
  rw [hmap, lookup_present h]

section

variable {fields : List (String × Option Json.Value)} (hkeys : (fields.map Prod.fst).Nodup)
  {key : String}
include hkeys

theorem stringField_plain {value : Option String}
    (h : fields.lookup key = some (value.map .ofString)) :
    stringField ((fields.filterMap present).map fun f => (f.1, f.2.plain)) key = value := by
  rw [stringField, lookup_plain hkeys, h]
  cases value with
  | none => rfl
  | some value => exact Json.Value.string?_plain_ofString value

theorem textField_plain {value : Option Json.Text}
    (h : fields.lookup key = some (value.map .string)) :
    textField ((fields.filterMap present).map fun f => (f.1, f.2.plain)) key =
      value.map Json.Text.joined := by
  rw [textField, lookup_plain hkeys, h]
  cases value <;> rfl

theorem intField_plain {value : Option Int} (h : fields.lookup key = some (value.map .int)) :
    intField ((fields.filterMap present).map fun f => (f.1, f.2.plain)) key = value := by
  rw [intField, lookup_plain hkeys, h]
  cases value <;> rfl

theorem boolField_plain {value : Option Bool} (h : fields.lookup key = some (value.map .bool)) :
    boolField ((fields.filterMap present).map fun f => (f.1, f.2.plain)) key = value := by
  rw [boolField, lookup_plain hkeys, h]
  cases value <;> rfl

theorem floatField_plain {value : Option Json.Decimal}
    (h : fields.lookup key = some (value.map fun x => .float (.finite x)))
    (hfloat : ∀ x ∈ value, x.IsFloat) :
    floatField ((fields.filterMap present).map fun f => (f.1, f.2.plain)) key = value := by
  rw [floatField, lookup_plain hkeys, h]
  cases value with
  | none => rfl
  | some x =>
    simp only [Option.map_some, Option.join_some, Json.Value.plain,
      Json.Decimal.plain_of_isFloat (hfloat x rfl)]

end

theorem decision_ofValue? (decision : DecisionEnum) :
    DecisionEnum.ofValue? decision.value = some decision := by
  cases decision <;> rfl

/-- The members of a payload without result data, as they are read. -/
def readFields (entry : ObservabilityEntryDto) : List (String × Json.Value) :=
  (entry.auditFields.filterMap present).map fun f => (f.1, f.2.plain)

/-- An entry as its line has it: without result data, and with whole characters in the detail. -/
def asRead (entry : ObservabilityEntryDto) : ObservabilityEntryDto :=
  { entry.withoutResultData with rejectionDetail := entry.rejectionDetail.map Json.Text.joined }

/-- All of an entry but the result data is read back from its payload. -/
theorem ofJsonPayload_plain {entry : ObservabilityEntryDto}
    (h : ∀ ms ∈ entry.durationMs, ms.IsFloat) :
    ofJsonPayload (entry.toJsonPayload false).plain = some entry.asRead := by
  have hkeys : (entry.auditFields.map Prod.fst).Nodup := by
    have hnames : entry.auditFields.map Prod.fst = ["request_id", "decision", "redacted_query",
      "rejection_code", "rejection_detail", "db_error_message", "db_error_code", "duration_ms",
      "rows_affected", "rows_returned", "rows_were_truncated", "timestamp"] := rfl
    rw [hnames]
    decide
  have hrequestId : stringField entry.readFields "request_id" = some entry.requestId :=
    stringField_plain hkeys rfl
  have hvalue : stringField entry.readFields "decision" = some entry.decision.value :=
    stringField_plain hkeys rfl
  have hredactedQuery : stringField entry.readFields "redacted_query" = some entry.redactedQuery :=
    stringField_plain hkeys rfl
  have htimestamp : stringField entry.readFields "timestamp" = some entry.timestamp :=
    stringField_plain hkeys rfl
  have hcode : stringField entry.readFields "rejection_code" = entry.rejectionCode :=
    stringField_plain hkeys rfl
  have hdetail : textField entry.readFields "rejection_detail" =
      entry.rejectionDetail.map Json.Text.joined := textField_plain hkeys rfl
  have hmessage : stringField entry.readFields "db_error_message" = entry.dbErrorMessage :=
    stringField_plain hkeys rfl
  have hsqlstate : stringField entry.readFields "db_error_code" = entry.dbErrorCode :=
    stringField_plain hkeys rfl
  have hduration : floatField entry.readFields "duration_ms" = entry.durationMs :=
    floatField_plain hkeys rfl h
  have haffected : intField entry.readFields "rows_affected" = entry.rowsAffected :=
    intField_plain hkeys rfl
  have hreturned : intField entry.readFields "rows_returned" = entry.rowsReturned.map Int.ofNat :=
    intField_plain hkeys (by rw [Option.map_map]; rfl)
  have hrows : (entry.rowsReturned.map Int.ofNat).map Int.toNat = entry.rowsReturned := by
    cases entry.rowsReturned <;> rfl
  have htruncated : boolField entry.readFields "rows_were_truncated" = entry.rowsWereTruncated :=
    boolField_plain hkeys rfl
  rw [toJsonPayload_plain]
  change ofJsonPayload (.object entry.readFields) = _
  simp only [ofJsonPayload, hrequestId, hvalue, decision_ofValue?, hredactedQuery, htimestamp, hcode,
    hdetail, hmessage, hsqlstate, hduration, haffected, hreturned, hrows, htruncated,
    Option.bind_some, bind, pure, asRead, withoutResultData]

theorem toJsonPayload_isStrict (entry : ObservabilityEntryDto) :
    (entry.toJsonPayload false).isStrict = true := by
  have hitems : entry.withoutResultData.items.all (fun f => f.2.isStrict) = true := by
    rw [← Json.Value.isStrict_object]
    apply (entry.withoutResultData.all_toJsonPayload Json.lenient_isStrictPart).trans
    cases hdetail : entry.rejectionDetail with
    | none => simp [withoutResultData, hdetail]
    | some detail =>
      simp only [withoutResultData, hdetail]
      rfl
  have hpayload : (entry.withoutResultData.toJsonPayload false).isStrict = true := by
    rw [toJsonPayload, Json.Value.isStrict_object, if_neg Bool.false_ne_true, List.all_eq_true]
    exact fun f hf => List.all_eq_true.mp hitems f (List.mem_of_mem_filter hf)
  rw [← toJsonPayload_withoutResultData]
  exact hpayload

theorem ofLine_lineOf {entry : ObservabilityEntryDto} (h : ∀ ms ∈ entry.durationMs, ms.IsFloat) :
    ofLine (MultiSinkObservabilityRecorderAdapter.lineOf entry) = some entry.asRead := by
  rw [ofLine, MultiSinkObservabilityRecorderAdapter.lineOf, Json.parse_text _ (.inl rfl),
    if_pos entry.toJsonPayload_isStrict]
  exact ofJsonPayload_plain h

end ObservabilityEntryDto

namespace MultiSinkObservabilityRecorderAdapter

open ObservabilityEntryDto (asRead readLines)

variable {setup : Setup} {s : State} {turns : List Turn}

theorem lineOf_unbroken (entry : ObservabilityEntryDto) :
    ∀ c ∈ lineOf entry, (c == '\n') = false := by
  intro c hc
  have hprintable := Json.printable_text ⟨true, false⟩ (entry.toJsonPayload false) c hc
  refine beq_false_of_ne ?_
  rintro rfl
  contradiction

/-- The lines of entries are read back, up to where they are cut. -/
theorem readLines_cut {entries : List ObservabilityEntryDto} {text : List Char}
    (hfloat : ∀ entry ∈ entries, ∀ ms ∈ entry.durationMs, ms.IsFloat)
    (htext : text <+: entries.flatMap fun entry => lineOf entry ++ ['\n']) :
    readLines text =
      (entries.map fun entry => some entry.asRead).take (text.count '\n') := by
  have hlines : ∀ line ∈ entries.map lineOf, ∀ c ∈ line, (c == '\n') = false := by
    intro line hline
    obtain ⟨entry, -, rfl⟩ := List.mem_map.mp hline
    exact lineOf_unbroken entry
  have hread : (entries.map lineOf).map ObservabilityEntryDto.ofLine =
      entries.map fun entry => some entry.asRead := by
    rw [List.map_map]
    exact List.map_congr_left fun entry hentry =>
      ObservabilityEntryDto.ofLine_lineOf (hfloat entry hentry)
  have hjoined : (entries.flatMap fun entry => lineOf entry ++ ['\n']) =
      (entries.map lineOf).flatMap fun line => line ++ ['\n'] :=
    (List.flatMap_map lineOf (· ++ ['\n']) entries).symm
  rw [hjoined] at htext
  rw [readLines, Lines.terminated_cut hlines rfl htext, List.map_take, hread, List.count]

theorem text_sink (h : Transition.Run (Step setup) setup.initial turns s) {k : SinkId}
    {kind : SinkKind} (hkind : setup.sinks[k]? = some kind) (hwrites : kind.WritesLines) :
    (s.sink k).text =
      ((accepted setup turns k).map setup.entry).flatMap fun entry => lineOf entry ++ ['\n'] := by
  rw [run_sink h k, getD_of_getElem? hkind, foldl_add_text hwrites]
  rfl

/-- While calls go on, a reader of a stream or a file finds the entries that its sink has taken so
far, in lock order and each as it was recorded, up to the line that is still being written. -/
theorem readLines_sink (h : Transition.Run (Step setup) setup.initial turns s)
    (hfloat : ∀ id, ∀ ms ∈ (setup.entry id).durationMs, ms.IsFloat) {k : SinkId} {kind : SinkKind}
    (hkind : setup.sinks[k]? = some kind) (hwrites : kind.WritesLines) {text : List Char}
    (htext : text <+: (s.sink k).text) :
    readLines text = ((accepted setup turns k).map fun id =>
      some (setup.entry id).asRead).take (text.count '\n') := by
  rw [text_sink h hkind hwrites] at htext
  rw [readLines_cut (List.forall_mem_map.mpr fun id _ => hfloat id) htext, List.map_map]
  rfl

/-- Two calls whose entries have rows; the file is cut in the middle of the second line. -/
def timedCalls : Setup where
  sinks := [.jsonl true]
  calls := 2
  entry id := { sampleEntry (if id = 0 then "first" else "second") with
    durationMs := some ⟨false, 1, [.last 9], none⟩
    rows := some [[.int (.ofNat id)]] }

def timedCallsDone : State :=
  (timedCalls.initial.turn timedCalls 1 0 []).turn timedCalls 0 0 []

theorem readLines_timedCalls :
    readLines ((timedCallsDone.sink 0).text.dropLast) =
      [some { sampleEntry "second" with durationMs := some ⟨false, 1, [.last 9], none⟩ }] := by
  have hrun : Transition.Run (Step timedCalls) timedCalls.initial [⟨1, 0⟩, ⟨0, 0⟩] timedCallsDone :=
    .snoc (.snoc .nil (.turn rfl)) (.turn rfl)
  have hfloat : ∀ id, ∀ ms ∈ (timedCalls.entry id).durationMs, ms.IsFloat := by
    rintro id _ ⟨⟩
    exact .inl (List.cons_ne_nil _ [])
  have hread := readLines_sink hrun hfloat (k := 0) rfl (.inr rfl) (List.dropLast_prefix _)
  rw [hread]
  have hcount : ((timedCallsDone.sink 0).text.dropLast).count '\n' = 1 := by decide +kernel
  rw [hcount]
  rfl

end MultiSinkObservabilityRecorderAdapter

end SqlGateway
