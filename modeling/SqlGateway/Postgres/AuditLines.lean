import SqlGateway.Library.JsonReaderLaws
import SqlGateway.Observability.Sinks
import SqlGateway.Postgres.AccessGuard
import SqlGateway.Postgres.Redaction

namespace SqlGateway

namespace ObservabilityEntryDto

def withoutResultData (entry : ObservabilityEntryDto) : ObservabilityEntryDto :=
  { entry with columns := none, rows := none }

def present : String × Option Json.Value → Option (String × Json.Value)
  | (key, value) => value.map fun v => (key, v)

def isResultData (key : String) : Bool := key ≠ "rows" && key ≠ "columns"

def leadingFields (entry : ObservabilityEntryDto) : List (String × Option Json.Value) :=
  [("request_id", some (.ofString entry.requestId)),
    ("decision", some (.ofString entry.decision.value)),
    ("redacted_query", some (.ofString entry.redactedQuery)),
    ("rejection_code", entry.rejectionCode.map .ofString),
    ("rejection_detail", entry.rejectionDetail.map .string),
    ("db_error_message", entry.dbErrorMessage.map .ofString),
    ("db_error_code", entry.dbErrorCode.map .ofString),
    ("duration_ms", entry.durationMs.map fun ms => .float (.finite ms)),
    ("rows_affected", entry.rowsAffected.map .int),
    ("rows_returned", entry.rowsReturned.map fun (n : Nat) => .int n)]

def trailingFields (entry : ObservabilityEntryDto) : List (String × Option Json.Value) :=
  [("rows_were_truncated", entry.rowsWereTruncated.map .bool),
    ("timestamp", some (.ofString entry.timestamp))]

theorem items_eq (entry : ObservabilityEntryDto) :
    entry.items = (entry.leadingFields ++
      ([("columns", entry.columns.map fun names => .array (names.map .ofString)),
          ("rows", entry.rows.map rowsValue)] ++ entry.trailingFields)).filterMap present := rfl

theorem filter_resultData (columns rows : Option Json.Value) :
    ([("columns", columns), ("rows", rows)].filterMap present).filter
      (fun field => isResultData field.1) = [] := by
  cases columns <;> cases rows <;> rfl

theorem toJsonPayload_false (entry : ObservabilityEntryDto) :
    entry.toJsonPayload false = .object
      ((entry.leadingFields.filterMap present).filter (fun field => isResultData field.1) ++
        (entry.trailingFields.filterMap present).filter fun field => isResultData field.1) := by
  have hpayload : entry.toJsonPayload false =
    .object (entry.items.filter fun field => isResultData field.1) := rfl
  rw [hpayload, items_eq, List.filterMap_append, List.filterMap_append, List.filter_append,
    List.filter_append, filter_resultData, List.nil_append]

theorem toJsonPayload_withoutResultData (entry : ObservabilityEntryDto) :
    entry.withoutResultData.toJsonPayload false = entry.toJsonPayload false := by
  rw [toJsonPayload_false, toJsonPayload_false]
  rfl

theorem jsonLine_withoutResultData (entry : ObservabilityEntryDto) :
    jsonLine entry.withoutResultData = jsonLine entry := by
  rw [jsonLine, toJsonPayload_withoutResultData, jsonLine]

/-- The entry as if it had been recorded at another time and taken another while. -/
def atTime (entry : ObservabilityEntryDto) (clock : ClockReadings) : ObservabilityEntryDto :=
  { entry with timestamp := clock.timestamp
               durationMs := entry.durationMs.map fun _ => clock.durationMs }

/-- The entry as if it were another request's, recorded at another time. -/
def ofRequest (entry : ObservabilityEntryDto) (requestId timestamp : String) :
    ObservabilityEntryDto :=
  { entry with requestId, timestamp }

end ObservabilityEntryDto

namespace Postgres

open Json (Text)
open Sql ExecuteQueryUseCase QueryExecutor ObservabilityEntryDto

structure SameReport (first second : QueryOutcomeDto) : Prop where
  rowsReturned : first.rows.length = second.rows.length
  rowsAffected : first.rowsAffected = second.rowsAffected
  rowsWereTruncated : first.rowsWereTruncated = second.rowsWereTruncated

/-- Both read the same number of rows, or both changed it. -/
inductive SameNumberOfRows : DatabaseAnswer → DatabaseAnswer → Prop
  | rows {columnNames columnNames' : List String} {rows rows' : List (List Cell)} :
    rows.length = rows'.length →
    SameNumberOfRows (.rows columnNames rows) (.rows columnNames' rows')
  | rowcount {count : Int} : SameNumberOfRows (.rowcount count) (.rowcount count)

theorem SameNumberOfRows.sameReport {first second : DatabaseAnswer}
    (h : SameNumberOfRows first second) (maxResults : Nat) :
    SameReport (outcomeOf maxResults first) (outcomeOf maxResults second) := by
  cases h with
  | rows hlength =>
    constructor
    · simp [outcomeOf, coerceRows, hlength]
    · rfl
    · simp [outcomeOf, hlength]
  | rowcount => exact ⟨rfl, rfl, rfl⟩

theorem SameReport.sameAuditLines {first second : QueryOutcomeDto} (h : SameReport first second)
    (clock₁ clock₂ clock : ClockReadings) (maxSampleRows : Nat) (requestId redactedQuery : String) :
    SameAuditLines ((allowedEntry clock₁ maxSampleRows requestId redactedQuery first).atTime clock)
      ((allowedEntry clock₂ maxSampleRows requestId redactedQuery second).atTime clock) := by
  apply sameAuditLines_iff.mpr
  rw [← jsonLine_withoutResultData]
  conv_rhs => rw [← jsonLine_withoutResultData]
  simp [allowedEntry, atTime, withoutResultData, h.rowsReturned, h.rowsAffected,
    h.rowsWereTruncated]

/-- Only a text that does not parse can keep the scrubber from returning. -/
theorem exists_scrub {sqlglot : Sqlglot} {queryText : Json.Text} {parsed : List (Option Expression)}
    (h : sqlglot.parse queryText dialect = .ok parsed) :
    ∃ redactedQuery, scrub sqlglot dialect (.str queryText) = .ok redactedQuery := by
  cases hone : sqlglot.parseOne queryText dialect with
  | ok statement =>
    cases hsql : sqlglot.sql (redacted statement) dialect with
    | ok text => exact ⟨text, by simp [scrub, hone, hsql]⟩
    | error exception => exact ⟨unparseableMarker, by simp [scrub, hone, hsql]⟩
  | error exception =>
    obtain ⟨message, rfl⟩ := Sqlglot.exists_message h hone
    exact ⟨unparseableMarker, by simp [scrub, hone]⟩

theorem parses_of_accepts {sqlglot : Sqlglot} {registry : RuleRegistry} {queryText : Json.Text}
    (h : Accepts sqlglot dialect registry (.str queryText)) :
    ∃ parsed, sqlglot.parse queryText dialect = .ok parsed := by
  obtain ⟨-, statement, hstatement, -⟩ := (accepts_iff _ _ _ _).mp h
  unfold Sqlglot.statements at hstatement
  cases hparse : sqlglot.parse queryText dialect with
  | ok parsed => exact ⟨parsed, rfl⟩
  | error exception => simp [hparse] at hstatement

section Allowed

variable {σ : Type} {sqlglot : Sqlglot} {registry : RuleRegistry} {psycopg : Psycopg σ}
  {queryTimeoutMs maxResults : Nat} {queryText : Json.Text} {redactedQuery : String} {answer : DatabaseAnswer}
  {w : World σ} {s' : σ}

theorem recorded_of_committed (haccepts : Accepts sqlglot dialect registry (.str queryText))
    (hscrub : scrub sqlglot dialect (.str queryText) = .ok redactedQuery)
    (hanswers : Answers psycopg queryTimeoutMs maxResults queryText w.outer answer s')
    (hcommitted : answer.isCommitted = true) (clock : ClockReadings) (maxSampleRows : Nat)
    (requestId : String) :
    (execute (accessGuard sqlglot registry psycopg queryTimeoutMs maxResults) clock maxSampleRows
        (.str queryText) requestId w).2.recorded =
      w.recorded ++
        [allowedEntry clock maxSampleRows requestId redactedQuery (outcomeOf maxResults answer)] := by
  obtain ⟨verdict, hvalidate, hallowed⟩ := haccepts
  rw [execute_eq (runs_answered hscrub hvalidate hallowed hanswers)]
  simp [finish, hcommitted]

end Allowed

/-- Of what the database answers only three facts reach the two sinks, and these follow from
the number of rows. -/
theorem auditLines_of_sameReport {σ₁ σ₂ : Type} {sqlglot : Sqlglot} {registry : RuleRegistry}
    {psycopg₁ : Psycopg σ₁} {psycopg₂ : Psycopg σ₂} {queryTimeoutMs maxResults : Nat}
    {queryText : Json.Text} (haccepts : Accepts sqlglot dialect registry (.str queryText))
    {w₁ : World σ₁} {w₂ : World σ₂} {answer₁ answer₂ : DatabaseAnswer} {s₁ : σ₁} {s₂ : σ₂}
    (h₁ : Answers psycopg₁ queryTimeoutMs maxResults queryText w₁.outer answer₁ s₁)
    (h₂ : Answers psycopg₂ queryTimeoutMs maxResults queryText w₂.outer answer₂ s₂)
    (hcommitted₁ : answer₁.isCommitted = true) (hcommitted₂ : answer₂.isCommitted = true)
    (clock₁ clock₂ : ClockReadings) (maxSampleRows : Nat) (requestId : String) :
    ∃ entry₁ entry₂,
      (execute (accessGuard sqlglot registry psycopg₁ queryTimeoutMs maxResults) clock₁
          maxSampleRows (.str queryText) requestId w₁).2.recorded = w₁.recorded ++ [entry₁] ∧
      (execute (accessGuard sqlglot registry psycopg₂ queryTimeoutMs maxResults) clock₂
          maxSampleRows (.str queryText) requestId w₂).2.recorded = w₂.recorded ++ [entry₂] ∧
      (SameNumberOfRows answer₁ answer₂ ∨
          SameReport (outcomeOf maxResults answer₁) (outcomeOf maxResults answer₂) →
        ∀ clock, SameAuditLines (entry₁.atTime clock) (entry₂.atTime clock)) := by
  obtain ⟨parsed, hparsed⟩ := parses_of_accepts haccepts
  obtain ⟨redactedQuery, hscrub⟩ := exists_scrub hparsed
  refine ⟨_, _, recorded_of_committed haccepts hscrub h₁ hcommitted₁ clock₁ maxSampleRows requestId,
    recorded_of_committed haccepts hscrub h₂ hcommitted₂ clock₂ maxSampleRows requestId, ?_⟩
  intro hsame clock
  have hreport : SameReport (outcomeOf maxResults answer₁) (outcomeOf maxResults answer₂) := by
    cases hsame with
    | inl hnumber => exact hnumber.sameReport maxResults
    | inr hreport => exact hreport
  exact hreport.sameAuditLines clock₁ clock₂ clock maxSampleRows requestId redactedQuery

theorem auditLines_quotedSamples :
    ∃ entry₁ entry₂,
      (execute (accessGuard (.ofTable quotedSamples) (.registerAll dialect ruleClasses)
          (answering ["a", "b"] [[.str (.ofString "a"), .int 1]]) 5000 100)
        ⟨"12:00", ⟨false, 3, [], none⟩⟩ 20 (.str "SELECT 'a', 1") "id" ⟨(), []⟩).2.recorded =
          [entry₁] ∧
      (execute (accessGuard (.ofTable quotedSamples) (.registerAll dialect ruleClasses)
          (answering ["x"] [[.bytes [0, 255]]]) 5000 100)
        ⟨"12:01", ⟨false, 4, [], none⟩⟩ 20 (.str "SELECT 'a', 1") "id" ⟨(), []⟩).2.recorded =
          [entry₂] ∧
      ∀ clock, SameAuditLines (entry₁.atTime clock) (entry₂.atTime clock) := by
  have hstatement : (Sqlglot.ofTable quotedSamples).statements "SELECT 'a', 1" dialect =
    [quotedSample "a" "1"] := rfl
  have hanswers (names : List String) (rows : List (List Cell)) :
      Answers (answering names rows) 5000 100 "SELECT 'a', 1" (World.mk () []).outer
        (.rows names rows) () := answers_answering _ _ _ _ _
  obtain ⟨entry₁, entry₂, h₁, h₂, hlines⟩ := auditLines_of_sameReport
    (accepts_of_statements (List.Perm.refl _) hstatement (by decide) (by decide))
    (hanswers ["a", "b"] [[.str (.ofString "a"), .int 1]]) (hanswers ["x"] [[.bytes [0, 255]]])
    rfl rfl ⟨"12:00", ⟨false, 3, [], none⟩⟩ ⟨"12:01", ⟨false, 4, [], none⟩⟩ 20 "id"
  exact ⟨entry₁, entry₂, h₁, h₂, hlines (Or.inl (.rows rfl))⟩

def collapsedFirstLine (message : Text) : Text :=
  PyText.joinWords (PyText.split (PyText.firstLine message))

/-- A rest that is cut off behind an ellipsis, or looks like it. -/
def Elided (rest : Text) : Prop := 2 ≤ rest.length ∨ rest = "…"

def shownRest (rest : Text) : Text := if rest.length ≤ 1 then rest else "…"

def shown (text : Text) : Text := text.take 119 ++ shownRest (text.drop 119)

/-- The same as far as 120 characters show. -/
inductive ShownAlike (first second : Text) : Prop
  | same : first = second → ShownAlike first second
  | cut : first.take 119 = second.take 119 → Elided (first.drop 119) → Elided (second.drop 119) →
    ShownAlike first second
  -- JSON has one text for two halves of a character and for the character
  | halves : shown first ≠ shown second → (shown first).joined = (shown second).joined →
    ShownAlike first second

theorem compactFirstLine_eq (message : Text) :
    compactFirstLine message = shown (collapsedFirstLine message) := by
  have hrest : (collapsedFirstLine message).length ≤ 120 ↔
      ((collapsedFirstLine message).drop 119).length ≤ 1 := by
    rw [List.length_drop]
    omega
  change (if (collapsedFirstLine message).length ≤ 120 then collapsedFirstLine message
    else (collapsedFirstLine message).take 119 ++ "…") = _
  unfold shown shownRest
  by_cases hlength : (collapsedFirstLine message).length ≤ 120
  · rw [if_pos hlength, if_pos (hrest.mp hlength), List.take_append_drop]
  · rw [if_neg hlength, if_neg (mt hrest.mpr hlength)]

theorem shownRest_eq_ellipsis_iff {rest : Text} : shownRest rest = "…" ↔ Elided rest := by
  unfold shownRest Elided
  by_cases h : rest.length ≤ 1
  · rw [if_pos h]
    constructor
    · exact Or.inr
    · intro helided
      cases helided with
      | inl hlength => exact absurd h (Nat.not_le_of_lt hlength)
      | inr heq => exact heq
  · rw [if_neg h]
    exact iff_of_true rfl (Or.inl (Nat.lt_of_not_le h))

theorem shownRest_of_not_elided {rest : Text} (h : ¬ Elided rest) : shownRest rest = rest := by
  unfold shownRest
  split_ifs with hlength
  · rfl
  · exact absurd (Or.inl (Nat.lt_of_not_le hlength)) h

theorem shownRest_eq_iff {first second : Text} :
    shownRest first = shownRest second ↔ first = second ∨ Elided first ∧ Elided second := by
  constructor
  · intro h
    by_cases hfirst : Elided first
    · have hsecond := h.symm.trans (shownRest_eq_ellipsis_iff.mpr hfirst)
      exact Or.inr ⟨hfirst, shownRest_eq_ellipsis_iff.mp hsecond⟩
    · have hsecond : ¬ Elided second := by
        intro hsecond
        have hellipsis := shownRest_eq_ellipsis_iff.mpr hsecond
        exact hfirst (shownRest_eq_ellipsis_iff.mp (h.trans hellipsis))
      rw [shownRest_of_not_elided hfirst, shownRest_of_not_elided hsecond] at h
      exact Or.inl h
  · intro h
    cases h with
    | inl heq => rw [heq]
    | inr helided =>
      rw [shownRest_eq_ellipsis_iff.mpr helided.1, shownRest_eq_ellipsis_iff.mpr helided.2]

theorem shownRest_drop_take (n : Nat) (text : Text) :
    (shownRest (text.drop n)).take (n - (text.take n).length) = [] := by
  cases Nat.lt_or_ge text.length n with
  | inl hshort =>
    rw [List.drop_eq_nil_of_le (Nat.le_of_lt hshort)]
    exact List.take_nil
  | inr hlong => rw [List.length_take, Nat.min_eq_left hlong, Nat.sub_self, List.take_zero]

theorem take_shown (n : Nat) (text : Text) :
    (text.take n ++ shownRest (text.drop n)).take n = text.take n := by
  rw [List.take_append, shownRest_drop_take, List.append_nil, List.take_take, Nat.min_self]

theorem shown_eq_iff (n : Nat) (first second : Text) :
    first.take n ++ shownRest (first.drop n) = second.take n ++ shownRest (second.drop n) ↔
      first.take n = second.take n ∧ shownRest (first.drop n) = shownRest (second.drop n) := by
  constructor
  · intro h
    have htake := congrArg (List.take n) h
    rw [take_shown, take_shown] at htake
    rw [htake] at h
    exact ⟨htake, List.append_cancel_left h⟩
  · rintro ⟨htake, hrest⟩
    rw [htake, hrest]

theorem shown_same_iff (first second : Text) :
    shown first = shown second ↔ first = second ∨ first.take 119 = second.take 119 ∧
      Elided (first.drop 119) ∧ Elided (second.drop 119) := by
  rw [shown, shown, shown_eq_iff, shownRest_eq_iff]
  constructor
  · rintro ⟨htake, hdrop | helided⟩
    · apply Or.inl
      rw [← List.take_append_drop 119 first, htake, hdrop, List.take_append_drop]
    · exact Or.inr ⟨htake, helided⟩
  · rintro (rfl | ⟨htake, helided⟩)
    · exact ⟨rfl, Or.inl rfl⟩
    · exact ⟨htake, Or.inr helided⟩

theorem joined_compactFirstLine_eq_iff (message₁ message₂ : Text) :
    (compactFirstLine message₁).joined = (compactFirstLine message₂).joined ↔
      ShownAlike (collapsedFirstLine message₁) (collapsedFirstLine message₂) := by
  rw [compactFirstLine_eq, compactFirstLine_eq]
  constructor
  · intro h
    by_cases hsame : shown (collapsedFirstLine message₁) = shown (collapsedFirstLine message₂)
    · rcases (shown_same_iff _ _).mp hsame with heq | ⟨htake, hfirst, hsecond⟩
      · exact .same heq
      · exact .cut htake hfirst hsecond
    · exact .halves hsame h
  · intro h
    cases h with
    | same heq => rw [heq]
    | cut htake hfirst hsecond =>
      rw [(shown_same_iff _ _).mpr (Or.inr ⟨htake, hfirst, hsecond⟩)]
    | halves _ h => exact h

/-- A blank text is not handed to the parser. -/
def unparsedVerdict (text message : Json.Text) : ValidationResultDto :=
  if isBlank text then rejectWith .emptyQuery
  else rejectWith .parseError (some (compactFirstLine message))

theorem isAllowed_unparsedVerdict (text message : Json.Text) :
    (unparsedVerdict text message).isAllowed = false := by
  unfold unparsedVerdict
  split_ifs <;> rfl

section Unparsed

variable {sqlglot : Sqlglot} {registry : RuleRegistry} {text message : Json.Text}

theorem scrub_of_parse_error (h : sqlglot.parse text dialect = .error (.sqlglotError message)) :
    scrub sqlglot dialect (.str text) = .ok unparseableMarker := by
  simp [scrub, sqlglot.parseOne_of_error h]

theorem validate_of_parse_error (h : sqlglot.parse text dialect = .error (.sqlglotError message)) :
    validate sqlglot dialect registry (.str text) = .ok (unparsedVerdict text message) := by
  unfold unparsedVerdict
  simp only [validate, h]
  split_ifs <;> rfl

theorem recorded_of_parse_error {σ : Type} {psycopg : Psycopg σ} {queryTimeoutMs maxResults : Nat}
    (h : sqlglot.parse text dialect = .error (.sqlglotError message)) (clock : ClockReadings)
    (maxSampleRows : Nat) (requestId : String) (w : World σ) :
    (execute (accessGuard sqlglot registry psycopg queryTimeoutMs maxResults) clock maxSampleRows
        (.str text) requestId w).2.recorded =
      w.recorded ++
        [rejectedEntry clock requestId unparseableMarker (unparsedVerdict text message)] := by
  rw [execute_eq (runs_rejected (scrub_of_parse_error h) (validate_of_parse_error h)
    (isAllowed_unparsedVerdict text message))]
  simp [finish]

end Unparsed

def rejectedFields (requestId : String) : List (String × Json.Value) :=
  [("request_id", .ofString requestId), ("decision", .ofString "rejected"),
    ("redacted_query", .ofString unparseableMarker)]

theorem jsonLine_unparsed (clock : ClockReadings) (recordedId requestId timestamp : String)
    (code : SqlRejectionCode) (detail : Option Json.Text) :
    jsonLine ((rejectedEntry clock recordedId unparseableMarker (rejectWith code detail)).ofRequest
        requestId timestamp) =
      (Json.Value.object (rejectedFields requestId ++ ("rejection_code", .ofString code.value) ::
        (detail.toList.map (fun d => ("rejection_detail", .string d)) ++
          [("timestamp", .ofString timestamp)]))).text ⟨true, false⟩ ++ ['\n'] := by
  rw [jsonLine, toJsonPayload_false]
  cases detail <;> rfl

theorem writable_ascii (text : Text) : text.Writable ⟨true, false⟩ := Or.inl rfl

theorem code_eq_of_lines {clock₁ clock₂ : ClockReadings}
    {requestId₁ requestId₂ requestId timestamp : String} {code₁ code₂ : SqlRejectionCode}
    {detail₁ detail₂ : Option Text}
    (h : jsonLine ((rejectedEntry clock₁ requestId₁ unparseableMarker
          (rejectWith code₁ detail₁)).ofRequest requestId timestamp) =
        jsonLine ((rejectedEntry clock₂ requestId₂ unparseableMarker
          (rejectWith code₂ detail₂)).ofRequest requestId timestamp)) :
    code₁.value = code₂.value := by
  rw [jsonLine_unparsed, jsonLine_unparsed] at h
  have hjoined := Json.joined_of_text_object (writable_ascii _) (writable_ascii _)
    (List.append_cancel_right h)
  rw [Json.joined_ofString, Json.joined_ofString] at hjoined
  exact Text.ofString_injective hjoined

theorem detail_fields (requestId timestamp : String) (code : SqlRejectionCode) (detail : Text) :
    rejectedFields requestId ++ ("rejection_code", .ofString code.value) ::
        ((some detail).toList.map (fun d => ("rejection_detail", Json.Value.string d)) ++
          [("timestamp", .ofString timestamp)]) =
      (rejectedFields requestId ++ [("rejection_code", .ofString code.value)]) ++
        ("rejection_detail", .string detail) :: [("timestamp", .ofString timestamp)] := rfl

theorem detail_lines_iff {clock₁ clock₂ : ClockReadings}
    {requestId₁ requestId₂ requestId timestamp : String} {code : SqlRejectionCode}
    {detail₁ detail₂ : Text} :
    jsonLine ((rejectedEntry clock₁ requestId₁ unparseableMarker
          (rejectWith code (some detail₁))).ofRequest requestId timestamp) =
        jsonLine ((rejectedEntry clock₂ requestId₂ unparseableMarker
          (rejectWith code (some detail₂))).ofRequest requestId timestamp) ↔
      detail₁.joined = detail₂.joined := by
  rw [jsonLine_unparsed, jsonLine_unparsed, detail_fields, detail_fields]
  constructor
  · intro h
    exact Json.joined_of_text_object (writable_ascii _) (writable_ascii _)
      (List.append_cancel_right h)
  · intro h
    rw [Json.text_object_of_joined rfl h]

theorem unparsed_line_iff {text₁ text₂ message₁ message₂ : Text} {clock₁ clock₂ : ClockReadings}
    {requestId₁ requestId₂ requestId timestamp : String} :
    jsonLine ((rejectedEntry clock₁ requestId₁ unparseableMarker
          (unparsedVerdict text₁ message₁)).ofRequest requestId timestamp) =
        jsonLine ((rejectedEntry clock₂ requestId₂ unparseableMarker
          (unparsedVerdict text₂ message₂)).ofRequest requestId timestamp) ↔
      isBlank text₁ = isBlank text₂ ∧
        (isBlank text₁ = false →
          ShownAlike (collapsedFirstLine message₁) (collapsedFirstLine message₂)) := by
  rw [← joined_compactFirstLine_eq_iff]
  unfold unparsedVerdict
  cases h₁ : isBlank text₁ with
  | true =>
    cases h₂ : isBlank text₂ with
    | true => exact iff_of_true rfl ⟨rfl, nofun⟩
    | false => exact iff_of_false (fun h => absurd (code_eq_of_lines h) (by decide)) nofun
  | false =>
    cases h₂ : isBlank text₂ with
    | true => exact iff_of_false (fun h => absurd (code_eq_of_lines h) (by decide)) nofun
    | false => exact detail_lines_iff.trans (by simp)

theorem unparsed_lines_iff (text₁ text₂ message₁ message₂ : Text)
    (clock₁ clock₂ : ClockReadings) (requestId₁ requestId₂ : String) :
    (∀ requestId timestamp, SameAuditLines
        ((rejectedEntry clock₁ requestId₁ unparseableMarker
          (unparsedVerdict text₁ message₁)).ofRequest requestId timestamp)
        ((rejectedEntry clock₂ requestId₂ unparseableMarker
          (unparsedVerdict text₂ message₂)).ofRequest requestId timestamp)) ↔
      isBlank text₁ = isBlank text₂ ∧
        (isBlank text₁ = false →
          ShownAlike (collapsedFirstLine message₁) (collapsedFirstLine message₂)) := by
  simp only [sameAuditLines_iff, unparsed_line_iff, forall_const]

/-- The requests of two texts that do not parse leave the same lines exactly if what is shown of
the parser's two messages is the same. -/
theorem parse_error_lines_iff {σ₁ σ₂ : Type} {sqlglot : Sqlglot} {registry : RuleRegistry}
    {psycopg₁ : Psycopg σ₁} {psycopg₂ : Psycopg σ₂} {queryTimeoutMs maxResults : Nat}
    {text₁ text₂ message₁ message₂ : Text}
    (h₁ : sqlglot.parse text₁ dialect = .error (.sqlglotError message₁))
    (h₂ : sqlglot.parse text₂ dialect = .error (.sqlglotError message₂))
    (clock₁ clock₂ : ClockReadings) (maxSampleRows : Nat) (requestId₁ requestId₂ : String)
    (w₁ : World σ₁) (w₂ : World σ₂) :
    (∃ entry₁ entry₂,
      (execute (accessGuard sqlglot registry psycopg₁ queryTimeoutMs maxResults) clock₁
          maxSampleRows (.str text₁) requestId₁ w₁).2.recorded = w₁.recorded ++ [entry₁] ∧
      (execute (accessGuard sqlglot registry psycopg₂ queryTimeoutMs maxResults) clock₂
          maxSampleRows (.str text₂) requestId₂ w₂).2.recorded = w₂.recorded ++ [entry₂] ∧
      ∀ requestId timestamp, SameAuditLines (entry₁.ofRequest requestId timestamp)
        (entry₂.ofRequest requestId timestamp)) ↔
      isBlank text₁ = isBlank text₂ ∧
        (isBlank text₁ = false →
          ShownAlike (collapsedFirstLine message₁) (collapsedFirstLine message₂)) := by
  rw [← unparsed_lines_iff text₁ text₂ message₁ message₂ clock₁ clock₂ requestId₁ requestId₂,
    recorded_of_parse_error h₁, recorded_of_parse_error h₂]
  constructor
  · rintro ⟨entry₁, entry₂, hentry₁, hentry₂, hlines⟩
    cases List.append_cancel_left hentry₁
    cases List.append_cancel_left hentry₂
    exact hlines
  · intro hlines
    exact ⟨_, _, rfl, rfl, hlines⟩

theorem parse_error_lines_ofTable :
    ∃ entry₁ entry₂,
      (execute (accessGuard (.ofTable []) .empty (answering [] []) 5000 100)
          ⟨"12:00", ⟨false, 3, [], none⟩⟩ 20 (.str "SELECT 'a' FROM") "1" ⟨(), []⟩).2.recorded =
        [entry₁] ∧
      (execute (accessGuard (.ofTable []) .empty (answering [] []) 5000 100)
          ⟨"12:01", ⟨false, 4, [], none⟩⟩ 20 (.str "SELECT 'b' FROM") "2" ⟨(), []⟩).2.recorded =
        [entry₂] ∧
      ∀ requestId timestamp, SameAuditLines (entry₁.ofRequest requestId timestamp)
        (entry₂.ofRequest requestId timestamp) :=
  (parse_error_lines_iff rfl rfl ⟨"12:00", ⟨false, 3, [], none⟩⟩ ⟨"12:01", ⟨false, 4, [], none⟩⟩
    20 "1" "2" ⟨(), []⟩ ⟨(), []⟩).mpr ⟨by decide, fun _ => .same rfl⟩

/-- The text without what stands between single quotes; a doubled quote does not end it. -/
def outsideQuotes : Bool → Text → Text
  | _, [] => []
  | false, c :: rest => c :: outsideQuotes (c = .char '\'') rest
  | true, .char '\'' :: .char '\'' :: rest => outsideQuotes true rest
  | true, c :: rest =>
    if c = .char '\'' then c :: outsideQuotes false rest else outsideQuotes true rest

def SameOutsideQuotes (first second : Text) : Prop :=
  outsideQuotes false first = outsideQuotes false second

/-- A tokenizer that fails and quotes the source in its message. -/
def quotingTokenizer : Sqlglot :=
  .ofParser (fun text => .error (.sqlglotError ("Error tokenizing '" ++ (text ++ "'")))) fun _ => ""

/-- The double quote is not closed, and the message shows the literal before it. -/
theorem not_parse_error_lines :
    ¬ ∀ (sqlglot : Sqlglot) (text₁ text₂ message₁ message₂ : Text),
      SameOutsideQuotes text₁ text₂ →
      sqlglot.parse text₁ dialect = .error (.sqlglotError message₁) →
      sqlglot.parse text₂ dialect = .error (.sqlglotError message₂) →
      ∀ (clock : ClockReadings) (w : World Unit), ∃ entry₁ entry₂,
        (execute (accessGuard sqlglot .empty (answering [] []) 5000 100) clock 20 (.str text₁) "1"
          w).2.recorded = w.recorded ++ [entry₁] ∧
        (execute (accessGuard sqlglot .empty (answering [] []) 5000 100) clock 20 (.str text₂) "2"
          w).2.recorded = w.recorded ++ [entry₂] ∧
        ∀ requestId timestamp, SameAuditLines (entry₁.ofRequest requestId timestamp)
          (entry₂.ofRequest requestId timestamp) := by
  intro h
  have hquotes : SameOutsideQuotes "SELECT 'hunter2' AS \"x" "SELECT 'swordfish' AS \"x" := by
    simp [SameOutsideQuotes, outsideQuotes, Text.ofString]
  have hlong := h quotingTokenizer _ _ _ _ hquotes rfl rfl
  obtain ⟨entry₁, entry₂, hentry₁, hentry₂, hlines⟩ := hlong
    ⟨"12:00", ⟨false, 3, [], none⟩⟩ ⟨(), []⟩
  rw [recorded_of_parse_error rfl] at hentry₁ hentry₂
  cases List.append_cancel_left hentry₁
  cases List.append_cancel_left hentry₂
  have hshown := ((unparsed_lines_iff _ _ _ _ _ _ _ _).mp hlines).2 (by decide)
  rw [← joined_compactFirstLine_eq_iff] at hshown
  exact absurd hshown (by decide)

end Postgres

end SqlGateway
