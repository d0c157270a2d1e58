import SqlGateway.Core
import SqlGateway.Library.Effect

namespace SqlGateway

/-- The three collaborators; `σ` is whatever they read and change. -/
structure AccessGuard (σ : Type) where
  validator : QueryPayload → Effect PyException σ ValidationResultDto
  scrubber : QueryPayload → Effect PyException σ String
  executor : QueryPayload → Effect PyException σ QueryOutcomeDto

structure World (σ : Type) where
  outer : σ
  recorded : List ObservabilityEntryDto

/-- What the two clocks answer during one request. -/
structure ClockReadings where
  timestamp : String
  durationMs : Json.Decimal

namespace ExecuteQueryUseCase

variable {σ : Type}

def call {α : Type} (m : Effect PyException σ α) : Effect PyException (World σ) α :=
  m.zoom World.outer fun s w => { w with outer := s }

def record (entry : ObservabilityEntryDto) : Effect PyException (World σ) Unit := fun w =>
  (.ok (), { w with recorded := w.recorded ++ [entry] })

def rejectedEntry (clock : ClockReadings) (requestId redactedQuery : String)
    (validationResult : ValidationResultDto) : ObservabilityEntryDto :=
  { requestId := requestId
    decision := .rejected
    redactedQuery := redactedQuery
    rejectionCode := validationResult.rejectionCode
    rejectionDetail := validationResult.rejectionDetail
    timestamp := clock.timestamp }

def allowedEntry (clock : ClockReadings) (maxSampleRows : Nat) (requestId redactedQuery : String)
    (queryOutcome : QueryOutcomeDto) : ObservabilityEntryDto :=
  { requestId := requestId
    decision := .allowed
    redactedQuery := redactedQuery
    durationMs := some clock.durationMs
    rowsAffected := queryOutcome.rowsAffected
    rowsReturned := some queryOutcome.rows.length
    columns := some queryOutcome.columns
    rows := some (queryOutcome.rows.take maxSampleRows)
    rowsWereTruncated := some queryOutcome.rowsWereTruncated
    timestamp := clock.timestamp }

def dbErrorEntry (clock : ClockReadings) (requestId redactedQuery : String)
    (queryOutcome : QueryOutcomeDto) : ObservabilityEntryDto :=
  { requestId := requestId
    decision := .dbError
    redactedQuery := redactedQuery
    durationMs := some clock.durationMs
    dbErrorMessage := queryOutcome.errorMessage
    dbErrorCode := queryOutcome.errorCode
    timestamp := clock.timestamp }

def recordAndReturnRejected (clock : ClockReadings) (requestId redactedQuery : String)
    (validationResult : ValidationResultDto) :
    Effect PyException (World σ) ExecuteQueryResultDto := do
  record (rejectedEntry clock requestId redactedQuery validationResult)
  return { decision := .rejected, requestId, redactedQuery,
           validationResult := some validationResult }

def recordAndReturnAllowed (clock : ClockReadings) (maxSampleRows : Nat)
    (requestId redactedQuery : String) (queryOutcome : QueryOutcomeDto) :
    Effect PyException (World σ) ExecuteQueryResultDto := do
  record (allowedEntry clock maxSampleRows requestId redactedQuery queryOutcome)
  return { decision := .allowed, requestId, redactedQuery,
           durationMs := some clock.durationMs, queryOutcome := some queryOutcome }

def recordAndReturnDbError (clock : ClockReadings) (requestId redactedQuery : String)
    (queryOutcome : QueryOutcomeDto) : Effect PyException (World σ) ExecuteQueryResultDto := do
  record (dbErrorEntry clock requestId redactedQuery queryOutcome)
  return { decision := .dbError, requestId, redactedQuery,
           durationMs := some clock.durationMs, queryOutcome := some queryOutcome }

def execute (accessGuard : AccessGuard σ) (clock : ClockReadings) (maxSampleRows : Nat)
    (queryText : QueryPayload) (requestId : String) :
    Effect PyException (World σ) ExecuteQueryResultDto := do
  let redactedQuery ← call (accessGuard.scrubber queryText)
  let validationResult ← call (accessGuard.validator queryText)
  if !validationResult.isAllowed then
    recordAndReturnRejected clock requestId redactedQuery validationResult
  else
    let queryOutcome ← call (accessGuard.executor queryText)
    if queryOutcome.succeeded then
      recordAndReturnAllowed clock maxSampleRows requestId redactedQuery queryOutcome
    else recordAndReturnDbError clock requestId redactedQuery queryOutcome

/-- How the three calls end, each one made in the world that the call before it left. -/
inductive Runs (accessGuard : AccessGuard σ) (queryText : QueryPayload) (s : σ) :
    Except PyException (String × ValidationResultDto × Option QueryOutcomeDto) → σ → Prop
  | scrubberRaises {exception : PyException} {s' : σ} :
    accessGuard.scrubber queryText s = (.error exception, s') →
    Runs accessGuard queryText s (.error exception) s'
  | validatorRaises {redactedQuery : String} {exception : PyException} {s₁ s' : σ} :
    accessGuard.scrubber queryText s = (.ok redactedQuery, s₁) →
    accessGuard.validator queryText s₁ = (.error exception, s') →
    Runs accessGuard queryText s (.error exception) s'
  | executorRaises {redactedQuery : String} {verdict : ValidationResultDto}
      {exception : PyException} {s₁ s₂ s' : σ} :
    accessGuard.scrubber queryText s = (.ok redactedQuery, s₁) →
    accessGuard.validator queryText s₁ = (.ok verdict, s₂) → verdict.isAllowed = true →
    accessGuard.executor queryText s₂ = (.error exception, s') →
    Runs accessGuard queryText s (.error exception) s'
  | rejected {redactedQuery : String} {verdict : ValidationResultDto} {s₁ s' : σ} :
    accessGuard.scrubber queryText s = (.ok redactedQuery, s₁) →
    accessGuard.validator queryText s₁ = (.ok verdict, s') → verdict.isAllowed = false →
    Runs accessGuard queryText s (.ok (redactedQuery, verdict, none)) s'
  | executed {redactedQuery : String} {verdict : ValidationResultDto} {outcome : QueryOutcomeDto}
      {s₁ s₂ s' : σ} :
    accessGuard.scrubber queryText s = (.ok redactedQuery, s₁) →
    accessGuard.validator queryText s₁ = (.ok verdict, s₂) → verdict.isAllowed = true →
    accessGuard.executor queryText s₂ = (.ok outcome, s') →
    Runs accessGuard queryText s (.ok (redactedQuery, verdict, some outcome)) s'

theorem exists_runs (accessGuard : AccessGuard σ) (queryText : QueryPayload) (s : σ) :
    ∃ ending s', Runs accessGuard queryText s ending s' := by
  rcases hscrub : accessGuard.scrubber queryText s with ⟨_ | redactedQuery, s₁⟩
  · exact ⟨_, _, .scrubberRaises hscrub⟩
  · rcases hvalidate : accessGuard.validator queryText s₁ with ⟨_ | verdict, s₂⟩
    · exact ⟨_, _, .validatorRaises hscrub hvalidate⟩
    · cases hallowed : verdict.isAllowed with
      | false => exact ⟨_, _, .rejected hscrub hvalidate hallowed⟩
      | true =>
        rcases hexecute : accessGuard.executor queryText s₂ with ⟨_ | outcome, s₃⟩
        · exact ⟨_, _, .executorRaises hscrub hvalidate hallowed hexecute⟩
        · exact ⟨_, _, .executed hscrub hvalidate hallowed hexecute⟩

/-- What is recorded and returned once the calls have ended. -/
def finish (clock : ClockReadings) (maxSampleRows : Nat) (requestId : String) :
    Except PyException (String × ValidationResultDto × Option QueryOutcomeDto) →
      Effect PyException (World σ) ExecuteQueryResultDto
  | .error exception => throw exception
  | .ok (redactedQuery, verdict, none) =>
    recordAndReturnRejected clock requestId redactedQuery verdict
  | .ok (redactedQuery, _, some outcome) =>
    if outcome.succeeded then
      recordAndReturnAllowed clock maxSampleRows requestId redactedQuery outcome
    else recordAndReturnDbError clock requestId redactedQuery outcome

theorem call_apply {α : Type} {m : Effect PyException σ α} {w : World σ}
    {result : Except PyException α} {s : σ} (h : m w.outer = (result, s)) :
    call m w = (result, { w with outer := s }) :=
  Effect.zoom_apply h

theorem execute_eq {accessGuard : AccessGuard σ} {queryText : QueryPayload} {w : World σ}
    {ending : Except PyException (String × ValidationResultDto × Option QueryOutcomeDto)} {s' : σ}
    (h : Runs accessGuard queryText w.outer ending s') (clock : ClockReadings)
    (maxSampleRows : Nat) (requestId : String) :
    execute accessGuard clock maxSampleRows queryText requestId w =
      finish clock maxSampleRows requestId ending { w with outer := s' } := by
  unfold execute
  cases h with
  | scrubberRaises hscrub => exact Effect.bind_error (call_apply hscrub)
  | validatorRaises hscrub hvalidate =>
    rw [Effect.bind_ok (call_apply hscrub)]
    exact Effect.bind_error (call_apply hvalidate)
  | executorRaises hscrub hvalidate hallowed hexecute =>
    rw [Effect.bind_ok (call_apply hscrub), Effect.bind_ok (call_apply hvalidate)]
    simp only [hallowed, Bool.not_true, Bool.false_eq_true, if_false]
    exact Effect.bind_error (call_apply hexecute)
  | rejected hscrub hvalidate hallowed =>
    rw [Effect.bind_ok (call_apply hscrub), Effect.bind_ok (call_apply hvalidate)]
    simp [hallowed, finish]
  | executed hscrub hvalidate hallowed hexecute =>
    rw [Effect.bind_ok (call_apply hscrub), Effect.bind_ok (call_apply hvalidate)]
    simp only [hallowed, Bool.not_true, Bool.false_eq_true, if_false]
    exact Effect.bind_ok (call_apply hexecute)

@[simp] theorem recordAndReturnRejected_recorded (clock : ClockReadings)
    (requestId redactedQuery : String) (verdict : ValidationResultDto) (w : World σ) :
    ((recordAndReturnRejected clock requestId redactedQuery verdict) w).2.recorded =
      w.recorded ++ [rejectedEntry clock requestId redactedQuery verdict] := rfl

@[simp] theorem recordAndReturnAllowed_recorded (clock : ClockReadings) (maxSampleRows : Nat)
    (requestId redactedQuery : String) (outcome : QueryOutcomeDto) (w : World σ) :
    ((recordAndReturnAllowed clock maxSampleRows requestId redactedQuery outcome) w).2.recorded =
      w.recorded ++ [allowedEntry clock maxSampleRows requestId redactedQuery outcome] := rfl

@[simp] theorem recordAndReturnDbError_recorded (clock : ClockReadings)
    (requestId redactedQuery : String) (outcome : QueryOutcomeDto) (w : World σ) :
    ((recordAndReturnDbError clock requestId redactedQuery outcome) w).2.recorded =
      w.recorded ++ [dbErrorEntry clock requestId redactedQuery outcome] := rfl

/-- The decision that the collaborators' answers stand for. -/
inductive Happened (accessGuard : AccessGuard σ) (queryText : QueryPayload) (s : σ) :
    DecisionEnum → Prop
  | rejected {redactedQuery : String} {verdict : ValidationResultDto} {s' : σ} :
    Runs accessGuard queryText s (.ok (redactedQuery, verdict, none)) s' →
    Happened accessGuard queryText s .rejected
  | allowed {redactedQuery : String} {verdict : ValidationResultDto} {outcome : QueryOutcomeDto}
      {s' : σ} :
    Runs accessGuard queryText s (.ok (redactedQuery, verdict, some outcome)) s' →
    outcome.succeeded = true → Happened accessGuard queryText s .allowed
  | dbError {redactedQuery : String} {verdict : ValidationResultDto} {outcome : QueryOutcomeDto}
      {s' : σ} :
    Runs accessGuard queryText s (.ok (redactedQuery, verdict, some outcome)) s' →
    outcome.succeeded = false → Happened accessGuard queryText s .dbError

/-- The scrubber returns, the validator returns, and so does the executor if it is asked. -/
def Returns (accessGuard : AccessGuard σ) (queryText : QueryPayload) (s : σ) : Prop :=
  ∃ redactedQuery s₁, accessGuard.scrubber queryText s = (.ok redactedQuery, s₁) ∧
    ∃ verdict s₂, accessGuard.validator queryText s₁ = (.ok verdict, s₂) ∧
      (verdict.isAllowed = true →
        ∃ outcome s₃, accessGuard.executor queryText s₂ = (.ok outcome, s₃))

theorem not_returns_of_error {accessGuard : AccessGuard σ} {queryText : QueryPayload} {s s' : σ}
    {exception : PyException} (h : Runs accessGuard queryText s (.error exception) s') :
    ¬ Returns accessGuard queryText s := by
  rintro ⟨redactedQuery, s₁, hscrub, verdict, s₂, hvalidate, hexecute⟩
  cases h with
  | scrubberRaises hscrub' =>
    rw [hscrub] at hscrub'
    cases hscrub'
  | validatorRaises hscrub' hvalidate' =>
    rw [hscrub] at hscrub'
    cases hscrub'
    rw [hvalidate] at hvalidate'
    cases hvalidate'
  | executorRaises hscrub' hvalidate' hallowed hexecute' =>
    rw [hscrub] at hscrub'
    cases hscrub'
    rw [hvalidate] at hvalidate'
    cases hvalidate'
    obtain ⟨outcome, s₃, hok⟩ := hexecute hallowed
    rw [hok] at hexecute'
    cases hexecute'

theorem records_once_iff (accessGuard : AccessGuard σ) (clock : ClockReadings)
    (maxSampleRows : Nat) (queryText : QueryPayload) (requestId : String) (w : World σ) :
    (∃ entry, (execute accessGuard clock maxSampleRows queryText requestId w).2.recorded =
          w.recorded ++ [entry] ∧
        entry.requestId = requestId ∧ Happened accessGuard queryText w.outer entry.decision) ↔
      Returns accessGuard queryText w.outer := by
  obtain ⟨ending, s', hruns⟩ := exists_runs accessGuard queryText w.outer
  rw [execute_eq hruns]
  cases ending with
  | error exception =>
    apply iff_of_false _ (not_returns_of_error hruns)
    rintro ⟨entry, hentry, -⟩
    simp [finish] at hentry
  | ok answers =>
    obtain ⟨redactedQuery, verdict, _ | outcome⟩ := answers
    · apply iff_of_true
      · exact ⟨_, rfl, rfl, .rejected hruns⟩
      · cases hruns with
        | rejected hscrub hvalidate hallowed =>
          exact ⟨_, _, hscrub, _, _, hvalidate, fun h => absurd h (by simp [hallowed])⟩
    · apply iff_of_true
      · cases hsucceeded : outcome.succeeded with
        | true =>
          refine ⟨allowedEntry clock maxSampleRows requestId redactedQuery outcome, ?_, rfl,
            .allowed hruns hsucceeded⟩
          simp [finish, hsucceeded]
        | false =>
          refine ⟨dbErrorEntry clock requestId redactedQuery outcome, ?_, rfl,
            .dbError hruns hsucceeded⟩
          simp [finish, hsucceeded]
      · cases hruns with
        | executed hscrub hvalidate hallowed hexecute =>
          exact ⟨_, _, hscrub, _, _, hvalidate, fun _ => ⟨_, _, hexecute⟩⟩

/-- A deeply nested query makes the parser raise what the scrubber does not catch. -/
theorem not_records_once :
    ¬ ∀ (accessGuard : AccessGuard Unit) (clock : ClockReadings) (maxSampleRows : Nat)
      (queryText : QueryPayload) (requestId : String) (w : World Unit),
      ∃ entry, (execute accessGuard clock maxSampleRows queryText requestId w).2.recorded =
          w.recorded ++ [entry] ∧
        entry.requestId = requestId ∧ Happened accessGuard queryText w.outer entry.decision := by
  intro h
  have hentry := h
    ⟨fun _ => throw (.other "RecursionError" "maximum recursion depth exceeded"),
      fun _ => throw (.other "RecursionError" "maximum recursion depth exceeded"),
      fun _ => pure { succeeded := true }⟩
    ⟨"2026-01-01T00:00:00+00:00", ⟨false, 0, [], none⟩⟩ 20 (.str "SELECT ((((1))))") "request"
    ⟨(), []⟩
  obtain ⟨entry, hrecorded, -⟩ := hentry
  cases hrecorded

end ExecuteQueryUseCase

end SqlGateway
