import SqlGateway.Http.Display

namespace SqlGateway

/-- A guard whose world also lists the payloads handed to the executor. -/
def AccessGuard.logged {σ : Type} (accessGuard : AccessGuard σ) :
    AccessGuard (σ × List QueryPayload) where
  validator payload := (accessGuard.validator payload).first
  scrubber payload := (accessGuard.scrubber payload).first
  executor payload := fun t => (accessGuard.executor payload).first (t.1, t.2 ++ [payload])

namespace ExecuteQueryUseCase

variable {σ : Type} {accessGuard : AccessGuard σ} {queryText : QueryPayload}
  {redactedQuery : String} {verdict : ValidationResultDto} {s s' : σ}

theorem Runs.logged_rejected (log : List QueryPayload)
    (h : Runs accessGuard queryText s (.ok (redactedQuery, verdict, none)) s') :
    Runs accessGuard.logged queryText (s, log) (.ok (redactedQuery, verdict, none)) (s', log) := by
  cases h with
  | rejected hscrub hvalidate hallowed =>
    exact .rejected (Effect.first_apply hscrub _) (Effect.first_apply hvalidate _) hallowed

theorem Runs.logged_executed {outcome : QueryOutcomeDto} (log : List QueryPayload)
    (h : Runs accessGuard queryText s (.ok (redactedQuery, verdict, some outcome)) s') :
    Runs accessGuard.logged queryText (s, log) (.ok (redactedQuery, verdict, some outcome))
      (s', log ++ [queryText]) := by
  cases h with
  | executed hscrub hvalidate hallowed hexecute =>
    exact .executed (Effect.first_apply hscrub _) (Effect.first_apply hvalidate _) hallowed
      (Effect.first_apply hexecute _)

end ExecuteQueryUseCase

namespace Http

open Json (Value)
open GatewayHttpController ExecuteQueryUseCase Postgres Postgres.QueryExecutor Sql

structure Facts where
  requestId : Option Value
  rejectionCode : Option Value
  rejectionDetail : Option Value
  errorCode : Option Value
  errorMessage : Option Value
  rowsAffected : Option Value
  columns : Option Value
  truncated : Option Value

def JsonResponse.facts (response : JsonResponse) : Facts where
  requestId := response.content.find ["request_id"]
  rejectionCode := if response.statusCode = 400 then response.content.find ["reason"] else none
  rejectionDetail := response.content.find ["detail"]
  errorCode := response.content.find ["error_code"]
  errorMessage := if response.statusCode = 502 then response.content.find ["reason"] else none
  rowsAffected := response.content.find ["result", "rows_affected"]
  columns := response.content.find ["result", "columns"]
  truncated := response.content.find ["result", "truncated"]

def entryFacts (entry : ObservabilityEntryDto) : Facts where
  requestId := some (.ofString entry.requestId)
  rejectionCode := entry.rejectionCode.map .ofString
  rejectionDetail := entry.rejectionDetail.map .string
  errorCode := entry.dbErrorCode.map .ofString
  errorMessage := entry.dbErrorMessage.map .ofString
  rowsAffected := entry.rowsAffected.map .int
  columns := entry.columns.map fun names => .array (names.map .ofString)
  truncated := entry.rowsWereTruncated.map .bool

structure SameRequest (response : JsonResponse) (entry : ObservabilityEntryDto) : Prop where
  rejected : response.statusCode = 400 ↔ entry.decision = .rejected
  allowed : response.statusCode = 200 ↔ entry.decision = .allowed
  dbError : response.statusCode = 502 ↔ entry.decision = .dbError
  facts : response.facts = entryFacts entry

structure ShowsRows (maxResults maxSampleRows : Nat) (rows : List (List Cell))
    (response : JsonResponse) (entry : ObservabilityEntryDto) : Prop where
  visible : response.content.find ["result", "rows"] =
    some (ObservabilityEntryDto.rowsValue (coerceRows (rows.take (min rows.length maxResults))))
  truncated : entry.rowsWereTruncated = some (decide (rows.length > maxResults))
  rowsReturned : entry.rowsReturned =
    some (coerceRows (rows.take (min rows.length maxResults))).length
  sample : ∀ rowsReturned ∈ entry.rowsReturned, entry.rows =
    some ((coerceRows (rows.take (min rows.length maxResults))).take
      (min maxSampleRows rowsReturned))

theorem rejected_sameRequest (clock : ClockReadings) (requestId redactedQuery : String)
    {verdict : ValidationResultDto} (hallowed : verdict.isAllowed = false)
    (hcode : HasCode verdict) :
    SameRequest ⟨400, (rejectedPayload requestId verdict).modelDump⟩
      (rejectedEntry clock requestId redactedQuery verdict) where
  rejected := by simp [rejectedEntry]
  allowed := by simp [rejectedEntry]
  dbError := by simp [rejectedEntry]
  facts := by
    obtain ⟨code, hcode⟩ := Option.isSome_iff_exists.mp (hcode hallowed)
    obtain ⟨isAllowed, rejectionCode, rejectionDetail⟩ := verdict
    cases hcode
    cases rejectionDetail <;>
      simp [JsonResponse.facts, entryFacts, rejectedPayload, QueryRejectedResponse.modelDump,
        rejectedEntry, Value.find, List.lookup_cons, Value.ofOption, Value.ofString]

theorem allowed_sameRequest (clock : ClockReadings) (maxSampleRows : Nat)
    (requestId redactedQuery : String) (outcome : QueryOutcomeDto) :
    SameRequest ⟨200, (allowedPayload requestId outcome).modelDump⟩
      (allowedEntry clock maxSampleRows requestId redactedQuery outcome) where
  rejected := by simp [allowedEntry]
  allowed := by simp [allowedEntry]
  dbError := by simp [allowedEntry]
  facts := by
    cases hrowsAffected : outcome.rowsAffected <;>
      simp [JsonResponse.facts, entryFacts, allowedPayload, QueryAllowedResponse.modelDump,
        QueryResultPayload.modelDump, allowedEntry, Value.find, List.lookup_cons, Value.ofOption,
        Value.ofString, hrowsAffected]

theorem dbError_sameRequest (clock : ClockReadings) (requestId redactedQuery : String)
    (outcome : QueryOutcomeDto) :
    SameRequest ⟨502, (dbErrorPayload requestId outcome).modelDump⟩
      (dbErrorEntry clock requestId redactedQuery outcome) where
  rejected := by simp [dbErrorEntry]
  allowed := by simp [dbErrorEntry]
  dbError := by simp [dbErrorEntry]
  facts := by
    cases hmessage : outcome.errorMessage <;> cases hcode : outcome.errorCode <;>
      simp [JsonResponse.facts, entryFacts, dbErrorPayload, QueryDatabaseErrorResponse.modelDump,
        dbErrorEntry, Value.find, List.lookup_cons, Value.ofOption, Value.ofString, hmessage, hcode]

theorem allowed_showsRows (clock : ClockReadings) (maxResults maxSampleRows : Nat)
    (requestId redactedQuery : String) (columnNames : List String) (rows : List (List Cell)) :
    ShowsRows maxResults maxSampleRows rows
      ⟨200, (allowedPayload requestId (outcomeOf maxResults (.rows columnNames rows))).modelDump⟩
      (allowedEntry clock maxSampleRows requestId redactedQuery
        (outcomeOf maxResults (.rows columnNames rows))) := by
  have hvisible : rows.take (min rows.length maxResults) = rows.take maxResults := by
    rw [Nat.min_comm]
    exact List.take_eq_take_min.symm
  constructor
  · rw [hvisible]
    simp [allowedPayload, QueryAllowedResponse.modelDump, QueryResultPayload.modelDump,
      Value.find, List.lookup_cons, outcomeOf, ObservabilityEntryDto.rowsValue]
  · rfl
  · rw [hvisible]
    rfl
  · rw [hvisible]
    rintro rowsReturned ⟨⟩
    exact congrArg some List.take_eq_take_min

variable {σ : Type}

/-- One response, one entry, and at most one statement sent to the database, which all say
the same. -/
structure Agrees (payload : QueryPayload) (requestId : String) (verdict : ValidationResultDto)
    (answer : DatabaseAnswer) (maxResults maxSampleRows : Nat)
    (w : World (σ × List QueryPayload))
    (ending : Except PyException JsonResponse × World (σ × List QueryPayload)) : Prop where
  executed : ending.2.outer.2 = w.outer.2 ++ if verdict.isAllowed then [payload] else []
  answered : ∃ response entry, ending.1 = .ok response ∧
    ending.2.recorded = w.recorded ++ [entry] ∧ entry.requestId = requestId ∧
      SameRequest response entry ∧
        ∀ columnNames rows, verdict.isAllowed = true → answer = .rows columnNames rows →
          ShowsRows maxResults maxSampleRows rows response entry

section Request

variable {order : List RuleClass} {sqlglot : Sqlglot} {psycopg : Psycopg σ}
  {queryTimeoutMs maxResults : Nat} {payload : QueryPayload} {redactedQuery : String}
  {verdict : ValidationResultDto} {answer : DatabaseAnswer}
  {w : World (σ × List QueryPayload)} {s' : σ}
  (horder : order.Perm ruleClasses)
  (hscrub : scrub sqlglot dialect payload = .ok redactedQuery)
  (hvalidate : validate sqlglot dialect (.registerAll dialect order) payload = .ok verdict)
  (hanswers : ∀ queryText, payload = .str queryText → verdict.isAllowed = true →
    Answers psycopg queryTimeoutMs maxResults queryText w.outer.1 answer s')

include horder hscrub hvalidate in
theorem agrees_iff_of_rejected (hallowed : verdict.isAllowed = false) (clock : ClockReadings)
    (maxSampleRows : Nat) (requestId : String) :
    Agrees payload requestId verdict answer maxResults maxSampleRows w
        (executeQueryEndpoint (accessGuard sqlglot (.registerAll dialect order) psycopg
          queryTimeoutMs maxResults).logged clock maxSampleRows payload requestId w) ↔
      QuotesNoSurrogate sqlglot payload := by
  have hruns : Runs (accessGuard sqlglot (.registerAll dialect order) psycopg queryTimeoutMs
      maxResults) payload w.outer.1 (.ok (redactedQuery, verdict, none)) w.outer.1 :=
    runs_rejected hscrub hvalidate hallowed
  rw [executeQueryEndpoint_rejected (hruns.logged_rejected w.outer.2),
    ← plainDetail_validate_iff horder hvalidate, ← rejectedPayload_presentable requestId]
  constructor
  · rintro ⟨-, response, -, hresponse, -⟩
    exact presentable_of_jsonResponse hresponse
  · rintro ⟨hstrict, hencodable⟩
    constructor
    · rw [hallowed]
      exact (List.append_nil _).symm
    · refine ⟨_, _, jsonResponse_ok hstrict hencodable, rfl, rfl,
        rejected_sameRequest clock requestId redactedQuery hallowed
          (hasCode_validate horder hvalidate), ?_⟩
      intro _ _ h
      rw [hallowed] at h
      cases h

include hscrub hvalidate hanswers in
theorem agrees_iff_of_accepted (hallowed : verdict.isAllowed = true) (clock : ClockReadings)
    (maxSampleRows : Nat) (requestId : String) :
    Agrees payload requestId verdict answer maxResults maxSampleRows w
        (executeQueryEndpoint (accessGuard sqlglot (.registerAll dialect order) psycopg
          queryTimeoutMs maxResults).logged clock maxSampleRows payload requestId w) ↔
      ArePresentable (answer.resultSet.take maxResults) := by
  obtain ⟨queryText, rfl⟩ := exists_str_of_accepts ⟨verdict, hvalidate, hallowed⟩
  have hruns := (runs_answered hscrub hvalidate hallowed
    (hanswers queryText rfl hallowed)).logged_executed w.outer.2
  cases hcommitted : answer.isCommitted with
  | true =>
    rw [executeQueryEndpoint_allowed hruns ((outcomeOf_succeeded _ _).trans hcommitted)]
    constructor
    · rintro ⟨-, response, -, hresponse, -⟩
      exact (allowedPayload_presentable requestId _ _).mp (presentable_of_jsonResponse hresponse)
    · intro h
      obtain ⟨hstrict, hencodable⟩ := (allowedPayload_presentable requestId _ _).mpr h
      constructor
      · rw [hallowed]
        rfl
      · refine ⟨_, _, jsonResponse_ok hstrict hencodable, rfl, rfl, allowed_sameRequest .., ?_⟩
        rintro columnNames rows - rfl
        exact allowed_showsRows ..
  | false =>
    rw [executeQueryEndpoint_dbError hruns ((outcomeOf_succeeded _ _).trans hcommitted)]
    obtain ⟨exception, rfl⟩ := exists_error_of_not_committed hcommitted
    apply iff_of_true
    · constructor
      · rw [hallowed]
        rfl
      · refine ⟨_, _, jsonResponse_ok ?_ ?_, rfl, rfl, dbError_sameRequest .., ?_⟩
        · exact QueryDatabaseErrorResponse.all_modelDump Json.lenient_isStrictPart _
        · exact QueryDatabaseErrorResponse.all_modelDump Json.lenient_isEncodablePart _
        · intro _ _ _ h
          cases h
    · rw [DatabaseAnswer.resultSet, List.take_nil]
      exact List.forall_mem_nil _

include horder hscrub hvalidate hanswers in
theorem agrees_iff (clock : ClockReadings) (maxSampleRows : Nat) (requestId : String) :
    Agrees payload requestId verdict answer maxResults maxSampleRows w
        (executeQueryEndpoint (accessGuard sqlglot (.registerAll dialect order) psycopg
          queryTimeoutMs maxResults).logged clock maxSampleRows payload requestId w) ↔
      QuotesNoSurrogate sqlglot payload ∧
        (verdict.isAllowed = true → ArePresentable (answer.resultSet.take maxResults)) := by
  cases hallowed : verdict.isAllowed with
  | false =>
    rw [agrees_iff_of_rejected horder hscrub hvalidate hallowed]
    exact (and_iff_left nofun).symm
  | true =>
    rw [agrees_iff_of_accepted hscrub hvalidate hanswers hallowed, eq_self, true_imp_iff]
    exact (and_iff_right (quotesNoSurrogate_of_accepts ⟨verdict, hvalidate, hallowed⟩)).symm

end Request

theorem agrees_castSamples :
    ∃ verdict, verdict.isAllowed = true ∧
      Agrees (.str "SELECT '1.5'::float8") "request" verdict
        (.rows ["float8"] [[.float (.finite ⟨false, 1, [5], none⟩)]]) 1 0 ⟨((), []), []⟩
        (executeQueryEndpoint (accessGuard castSamples (.registerAll dialect ruleClasses)
            (answering ["float8"] [[.float (.finite ⟨false, 1, [5], none⟩)]]) 5000 1).logged
          sampleClock 0 (.str "SELECT '1.5'::float8") "request" ⟨((), []), []⟩) := by
  obtain ⟨verdict, hvalidate, hallowed⟩ :=
    castSamples_accepts "SELECT '1.5'::float8" "1.5" (by decide) rfl (by decide)
  refine ⟨verdict, hallowed, (agrees_iff (List.Perm.refl _) rfl hvalidate
    (fun queryText _ _ => answers_answering _ _ 5000 1 queryText) sampleClock 0 "request").mpr ?_⟩
  refine ⟨quotesNoSurrogate_of_accepts ⟨verdict, hvalidate, hallowed⟩, ?_⟩
  intro _ row hrow cell hcell
  cases hrow with
  | head =>
    cases hcell with
    | head => rfl
    | tail _ hcell => cases hcell
  | tail _ hrow => cases hrow

/-- The log says that the query was allowed, and there is no response. -/
theorem not_agrees :
    ¬ ∀ (sqlglot : Sqlglot) (psycopg : Psycopg Unit) (queryTimeoutMs maxResults : Nat)
      (payload : QueryPayload) (redactedQuery : String) (verdict : ValidationResultDto)
      (answer : DatabaseAnswer) (w : World (Unit × List QueryPayload)) (s' : Unit),
      scrub sqlglot dialect payload = .ok redactedQuery →
      validate sqlglot dialect (.registerAll dialect ruleClasses) payload = .ok verdict →
      (∀ queryText, payload = .str queryText → verdict.isAllowed = true →
        Answers psycopg queryTimeoutMs maxResults queryText w.outer.1 answer s') →
      0 < maxResults →
      ∀ (clock : ClockReadings) (maxSampleRows : Nat) (requestId : String),
        Agrees payload requestId verdict answer maxResults maxSampleRows w
          (executeQueryEndpoint (accessGuard sqlglot (.registerAll dialect ruleClasses) psycopg
            queryTimeoutMs maxResults).logged clock maxSampleRows payload requestId w) := by
  intro h
  obtain ⟨verdict, hvalidate, hallowed⟩ :=
    castSamples_accepts "SELECT 'NaN'::float8" "NaN" (by decide) rfl (by decide)
  have hanswers : ∀ queryText, QueryPayload.str "SELECT 'NaN'::float8" = .str queryText →
      verdict.isAllowed = true →
      Answers (answering ["float8"] [[.float .nan]]) 5000 100 queryText ()
        (.rows ["float8"] [[.float .nan]]) () :=
    fun queryText _ _ => answers_answering ["float8"] [[.float .nan]] 5000 100 queryText
  have hagrees := h castSamples _ 5000 100 _ _ verdict _ ⟨((), []), []⟩ () rfl hvalidate hanswers
    (by decide) sampleClock 20 "request"
  rw [agrees_iff_of_accepted rfl hvalidate hanswers hallowed] at hagrees
  exact Bool.noConfusion (hagrees [.float .nan] (.head _) (.float .nan) (.head _))

end Http

end SqlGateway
