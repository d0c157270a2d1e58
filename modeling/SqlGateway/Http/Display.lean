import SqlGateway.Http.Gateway
import SqlGateway.Http.Observability
import SqlGateway.Postgres.AccessGuard

namespace SqlGateway

open Json (Lenient Text Value)

/-! What a test finds in the values that are written -/

section Written

variable {p : Value → Bool}

def rowsAll (p : Value → Bool) (rows : List (List Value)) : Bool :=
  rows.all fun row => row.all (Value.all p)

theorem all_optional {α : Type} {f : α → Value} (h : ∀ a, (f a).all p = true) (o : Option α) :
    (o.map f).all (Value.all p) = true := by
  cases o with
  | none => rfl
  | some a => exact h a

theorem all_rows (rows : List (List Value)) :
    (Value.array (rows.map .array)).all p = rowsAll p rows := by
  simp [rowsAll, Function.comp_def]

theorem all_present (fields : List (String × Option Value)) :
    (Value.object (fields.filterMap fun (key, value) => value.map fun v => (key, v))).all p =
      fields.all fun f => f.2.all (Value.all p) := by
  rw [Value.all_object]
  induction fields with
  | nil => rfl
  | cons f fields ih =>
    obtain ⟨key, _ | v⟩ := f
    · exact ih
    · exact congrArg (v.all p && ·) ih

variable (hp : Lenient p)
include hp

theorem all_ofString (s : String) : (Value.ofString s).all p = true := hp.string s

theorem all_int (i : Int) : (Value.int i).all p = true := hp.int i

theorem all_bool (b : Bool) : (Value.bool b).all p = true := hp.bool b

theorem all_finite (x : Json.Decimal) : (Value.float (.finite x)).all p = true := hp.finite x

theorem all_ofStrings (names : List String) :
    (Value.array (names.map Value.ofString)).all p = true := by
  rw [Value.all_array, List.all_map]
  exact List.all_eq_true.mpr fun s _ => all_ofString hp s

theorem all_ofOption {α : Type} {f : α → Value} (h : ∀ a, (f a).all p = true) (o : Option α) :
    (Value.ofOption (o.map f)).all p = true := by
  cases o with
  | none => exact hp.null
  | some a => exact h a

theorem Http.QueryRejectedResponse.all_modelDump (payload : QueryRejectedResponse) :
    payload.modelDump.all p = payload.detail.all fun detail => p (.string detail) := by
  have hdetail : (Value.ofOption (payload.detail.map .string)).all p =
      payload.detail.all fun detail => p (.string detail) := by
    cases payload.detail with
    | none => exact hp.null
    | some detail => rfl
  simp [modelDump, all_ofString hp, hdetail]

theorem Http.QueryDatabaseErrorResponse.all_modelDump (payload : QueryDatabaseErrorResponse) :
    payload.modelDump.all p = true := by
  simp [modelDump, all_ofString hp, all_ofOption hp (all_ofString hp)]

theorem Http.QueryAllowedResponse.all_modelDump (payload : QueryAllowedResponse) :
    payload.modelDump.all p = rowsAll p payload.result.rows := by
  simp only [modelDump, QueryResultPayload.modelDump, Value.all_object, List.all_cons,
    List.all_nil, all_rows, all_ofString hp, all_ofStrings hp, all_bool hp,
    all_ofOption hp (all_int hp), Bool.true_and, Bool.and_true]

theorem ObservabilityEntryDto.all_toJsonPayload (entry : ObservabilityEntryDto) :
    entry.toJsonPayload.all p = (entry.rejectionDetail.all (fun detail => p (.string detail)) &&
      entry.rows.all (rowsAll p)) := by
  have hdetail : (entry.rejectionDetail.map Value.string).all (Value.all p) =
      entry.rejectionDetail.all fun detail => p (.string detail) := by
    cases entry.rejectionDetail <;> rfl
  have hrows : (entry.rows.map rowsValue).all (Value.all p) = entry.rows.all (rowsAll p) := by
    cases entry.rows with
    | none => rfl
    | some rows => exact all_rows rows
  rw [toJsonPayload, if_pos rfl, items, all_present]
  simp only [List.all_cons, List.all_nil, Option.all_some, all_ofString hp,
    all_optional (all_ofString hp), all_optional (all_ofStrings hp), all_optional (all_int hp),
    all_optional (fun n : Nat => all_int hp n), all_optional (all_bool hp),
    all_optional (all_finite hp), hdetail, hrows, Bool.true_and, Bool.and_true]

end Written

namespace Postgres

/-- Not a NaN, not an infinity, and no string with a lone surrogate. -/
def Cell.isPresentable : Cell → Bool
  | .str value => value.all Json.CodePoint.isChar
  | .float value => value.isFinite
  | _ => true

theorem coerceCellToJsonSafe_presentable (cell : Cell) :
    (coerceCellToJsonSafe cell).isStrict = true ∧ (coerceCellToJsonSafe cell).isEncodable = true ↔
      cell.isPresentable = true := by
  have hofString : ∀ s : String, (Value.ofString s).isStrict = true ∧
      (Value.ofString s).isEncodable = true := fun s =>
    ⟨all_ofString Json.lenient_isStrictPart s, all_ofString Json.lenient_isEncodablePart s⟩
  cases cell with
  | none => exact iff_of_true ⟨rfl, rfl⟩ rfl
  | str value => exact and_iff_right rfl
  | int value => exact iff_of_true ⟨rfl, rfl⟩ rfl
  | float value => exact and_iff_left rfl
  | bool value => exact iff_of_true ⟨rfl, rfl⟩ rfl
  | temporal isoformat => exact iff_of_true (hofString _) rfl
  | decimal text => exact iff_of_true (hofString _) rfl
  | uuid text => exact iff_of_true (hofString _) rfl
  | bytes value => exact iff_of_true (hofString _) rfl
  | other text => exact iff_of_true (hofString _) rfl

def ArePresentable (rows : List (List Cell)) : Prop :=
  ∀ row ∈ rows, ∀ cell ∈ row, cell.isPresentable = true

theorem rowsAll_coerceRows (p : Value → Bool) (rows : List (List Cell)) :
    rowsAll p (coerceRows rows) = true ↔
      ∀ row ∈ rows, ∀ cell ∈ row, (coerceCellToJsonSafe cell).all p = true := by
  simp [rowsAll, coerceRows]

theorem arePresentable_iff (rows : List (List Cell)) :
    ArePresentable rows ↔ rowsAll Value.isStrictPart (coerceRows rows) = true ∧
      rowsAll Value.isEncodablePart (coerceRows rows) = true := by
  rw [rowsAll_coerceRows, rowsAll_coerceRows]
  simp only [ArePresentable, ← coerceCellToJsonSafe_presentable]
  exact ⟨fun h => ⟨fun row hrow cell hcell => (h row hrow cell hcell).1,
    fun row hrow cell hcell => (h row hrow cell hcell).2⟩,
    fun h row hrow cell hcell => ⟨h.1 row hrow cell hcell, h.2 row hrow cell hcell⟩⟩

end Postgres

namespace Http

theorem jsonResponse_ok {statusCode : Nat} {content : Value} (hstrict : content.isStrict = true)
    (hencodable : content.isEncodable = true) :
    jsonResponse statusCode content = .ok { statusCode, content } := by
  simp [jsonResponse, hstrict, hencodable]

theorem presentable_of_jsonResponse {statusCode : Nat} {content : Value} {response : JsonResponse}
    (h : jsonResponse statusCode content = .ok response) :
    content.isStrict = true ∧ content.isEncodable = true := by
  rw [jsonResponse] at h
  split_ifs at h with hstrict hencodable
  simp only [Bool.not_eq_false, Bool.not_eq_eq_eq_not, Bool.not_true] at hstrict hencodable
  exact ⟨hstrict, hencodable⟩

open GatewayHttpController ObservabilityHttpController ExecuteQueryUseCase Postgres
  Postgres.QueryExecutor Sql

/-- There is an encoding that strict readers accept. -/
def HasStrictEncoding (v : Value) : Prop := Json.accepts (v.text ⟨true, false⟩) = true

variable {σ : Type}

/-- A 200 response, and one entry whose event every reader can parse. -/
structure Displayed (w : World σ) (ending : Except PyException JsonResponse × World σ) : Prop where
  responds : ∃ response, ending.1 = .ok response ∧ response.statusCode = 200
  shown : ∃ entry, ending.2.recorded = w.recorded ++ [entry] ∧ entry.decision = .allowed ∧
    ∀ data ∈ EventSource.messages (formatServerSentEvent entry.toJsonPayload),
      Json.accepts data = true

theorem allowedPayload_presentable (requestId : String) (maxResults : Nat)
    (answer : DatabaseAnswer) :
    (allowedPayload requestId (outcomeOf maxResults answer)).modelDump.isStrict = true ∧
        (allowedPayload requestId (outcomeOf maxResults answer)).modelDump.isEncodable = true ↔
      ArePresentable (answer.resultSet.take maxResults) := by
  rw [Value.isStrict, Value.isEncodable,
    QueryAllowedResponse.all_modelDump Json.lenient_isStrictPart,
    QueryAllowedResponse.all_modelDump Json.lenient_isEncodablePart, arePresentable_iff]
  simp only [allowedPayload, outcomeOf_rows]

theorem rejectedPayload_presentable (requestId : String) (verdict : ValidationResultDto) :
    (rejectedPayload requestId verdict).modelDump.isStrict = true ∧
        (rejectedPayload requestId verdict).modelDump.isEncodable = true ↔
      PlainDetail verdict := by
  rw [Value.isStrict, Value.isEncodable,
    QueryRejectedResponse.all_modelDump Json.lenient_isStrictPart,
    QueryRejectedResponse.all_modelDump Json.lenient_isEncodablePart]
  change verdict.rejectionDetail.all (fun _ => true) = true ∧
    verdict.rejectionDetail.all (fun detail => detail.all Json.CodePoint.isChar) = true ↔ _
  rw [PlainDetail]
  cases verdict.rejectionDetail <;> simp

theorem accepts_messages_iff (entry : ObservabilityEntryDto) :
    (∀ data ∈ EventSource.messages (formatServerSentEvent entry.toJsonPayload),
        Json.accepts data = true) ↔
      entry.rows.all (rowsAll Value.isStrictPart) = true := by
  rw [messages_formatServerSentEvent, List.forall_mem_singleton, Json.accepts_text,
    Value.isStrict, ObservabilityEntryDto.all_toJsonPayload Json.lenient_isStrictPart]
  cases entry.rejectionDetail <;> rfl

theorem rowsAll_take {p : Value → Bool} {rows : List (List Value)} (h : rowsAll p rows = true)
    (n : Nat) : rowsAll p (rows.take n) = true := by
  rw [rowsAll, List.all_eq_true] at h ⊢
  exact fun row hrow => h row (List.mem_of_mem_take hrow)

section Committed

variable {sqlglot : Sqlglot} {registry : RuleRegistry} {psycopg : Psycopg σ}
  {queryTimeoutMs maxResults : Nat} {queryText : Text} {redactedQuery : String}
  {verdict : ValidationResultDto} {answer : DatabaseAnswer} {w : World σ} {s' : σ}
  (hscrub : scrub sqlglot dialect (.str queryText) = .ok redactedQuery)
  (hvalidate : validate sqlglot dialect registry (.str queryText) = .ok verdict)
  (hallowed : verdict.isAllowed = true)
  (hanswers : Answers psycopg queryTimeoutMs maxResults queryText w.outer answer s')
  (hcommitted : answer.isCommitted = true)
include hscrub hvalidate hallowed hanswers hcommitted

theorem displayed_iff_arePresentable (clock : ClockReadings) (maxSampleRows : Nat)
    (requestId : String) :
    Displayed w (executeQueryEndpoint
        (accessGuard sqlglot registry psycopg queryTimeoutMs maxResults) clock maxSampleRows
        (.str queryText) requestId w) ↔
      ArePresentable (answer.resultSet.take maxResults) := by
  rw [executeQueryEndpoint_allowed (runs_answered hscrub hvalidate hallowed hanswers)
    ((outcomeOf_succeeded _ _).trans hcommitted)]
  constructor
  · intro h
    obtain ⟨response, hresponse, -⟩ := h.responds
    exact (allowedPayload_presentable requestId _ _).mp (presentable_of_jsonResponse hresponse)
  · intro h
    obtain ⟨hstrict, hencodable⟩ := (allowedPayload_presentable requestId _ _).mpr h
    refine ⟨⟨_, jsonResponse_ok hstrict hencodable, rfl⟩, _, rfl, rfl,
      (accepts_messages_iff _).mpr ?_⟩
    rw [allowedEntry, Option.all_some, outcomeOf_rows]
    exact rowsAll_take ((arePresentable_iff _).mp h).1 _

theorem displayed_iff (clock : ClockReadings) (maxSampleRows : Nat) (requestId : String) :
    (∀ row ∈ answer.resultSet.take maxResults, ∀ cell ∈ row,
        HasStrictEncoding (coerceCellToJsonSafe cell)) ∧
      Displayed w (executeQueryEndpoint
        (accessGuard sqlglot registry psycopg queryTimeoutMs maxResults) clock maxSampleRows
        (.str queryText) requestId w) ↔
      ArePresentable (answer.resultSet.take maxResults) := by
  rw [displayed_iff_arePresentable hscrub hvalidate hallowed hanswers hcommitted]
  apply and_iff_right_of_imp
  intro h row hrow cell hcell
  rw [HasStrictEncoding, Json.accepts_text]
  exact ((coerceCellToJsonSafe_presentable cell).mpr (h row hrow cell hcell)).1

end Committed

/-! `SELECT '1.5'::float8` and `SELECT 'NaN'::float8` -/

def castToFloat (word : String) : Expression :=
  .node .select []
    [(.expressions, .node .cast []
      [(.this, .constant .string word),
        (.named "to", .node (.other "DataType") [(.this, .str "DOUBLE")] [])])]

def castSamples : Sqlglot :=
  .ofTable
    [("SELECT '1.5'::float8", [some (castToFloat "1.5")]),
      ("SELECT 'NaN'::float8", [some (castToFloat "NaN")])]
    fun _ => "SELECT CAST(%(1)s AS DOUBLE PRECISION)"

theorem castSamples_accepts (queryText : Text) (word : String) (hblank : isBlank queryText = false)
    (hstatement : castSamples.statements queryText dialect = [castToFloat word])
    (hrules : ∀ cls ∈ ruleClasses, (cls.check (castToFloat word)).isAllowed = true) :
    Accepts castSamples dialect (.registerAll dialect ruleClasses) (.str queryText) :=
  accepts_of_statements (List.Perm.refl _) hstatement hblank hrules

def sampleClock : ClockReadings := ⟨"2026-01-01T00:00:00+00:00", ⟨false, 1, [], none⟩⟩

theorem displayed_castSamples :
    Displayed ⟨(), []⟩ ((executeQueryEndpoint
      (accessGuard castSamples (.registerAll dialect ruleClasses)
        (answering ["float8"] [[.float (.finite ⟨false, 1, [5], none⟩)]]) 5000 100)
      sampleClock 20 (.str "SELECT '1.5'::float8") "request") ⟨(), []⟩) := by
  obtain ⟨verdict, hvalidate, hallowed⟩ :=
    castSamples_accepts "SELECT '1.5'::float8" "1.5" (by decide) rfl (by decide)
  exact ((displayed_iff rfl hvalidate hallowed
    (answers_answering ["float8"] [[.float (.finite ⟨false, 1, [5], none⟩)]] 5000 100 _) rfl _ _
    _).mpr (by simp [ArePresentable, DatabaseAnswer.resultSet, Cell.isPresentable,
      Json.Number.isFinite])).2

/-- The statement is committed, its NaN cannot be sent. -/
theorem not_displayed :
    ¬ ∀ (sqlglot : Sqlglot) (registry : RuleRegistry) (psycopg : Psycopg Unit)
      (queryTimeoutMs maxResults : Nat) (queryText : Text) (redactedQuery : String)
      (verdict : ValidationResultDto) (answer : DatabaseAnswer) (w : World Unit) (s' : Unit),
      scrub sqlglot dialect (.str queryText) = .ok redactedQuery →
      validate sqlglot dialect registry (.str queryText) = .ok verdict →
      verdict.isAllowed = true →
      Answers psycopg queryTimeoutMs maxResults queryText w.outer answer s' →
      answer.isCommitted = true →
      ∀ (clock : ClockReadings) (maxSampleRows : Nat) (requestId : String),
        (∀ row ∈ answer.resultSet.take maxResults, ∀ cell ∈ row,
          HasStrictEncoding (coerceCellToJsonSafe cell)) ∧
        Displayed w (executeQueryEndpoint
          (accessGuard sqlglot registry psycopg queryTimeoutMs maxResults) clock maxSampleRows
          (.str queryText) requestId w) := by
  intro h
  obtain ⟨verdict, hvalidate, hallowed⟩ :=
    castSamples_accepts "SELECT 'NaN'::float8" "NaN" (by decide) rfl (by decide)
  have hanswers := answers_answering ["float8"] [[.float .nan]] 5000 100 "SELECT 'NaN'::float8"
  have hdisplayed := (h castSamples _ _ 5000 100 _ _ verdict _ ⟨(), []⟩ () rfl hvalidate hallowed
    hanswers rfl sampleClock 20 "request").2
  rw [displayed_iff_arePresentable rfl hvalidate hallowed hanswers rfl] at hdisplayed
  exact Bool.noConfusion (hdisplayed [.float .nan] (.head _) (.float .nan) (.head _))

end Http

end SqlGateway
