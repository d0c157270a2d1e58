import SqlGateway.Library.Program
import SqlGateway.Postgres.AccessGuard

namespace SqlGateway.Postgres

open ExecuteQueryUseCase QueryExecutor Sql

variable {σ : Type}

/-! The code of a request, each call of it by itself -/

abbrev RequestProgram (σ α : Type) := Program PyException (World σ) α

def perform {α : Type} (m : Effect PyException σ α) : RequestProgram σ α := .ofEffect (call m)

namespace RequestProgram

def buildReadOutcome (psycopg : Psycopg σ) (maxResults : Nat) :
    RequestProgram σ QueryOutcomeDto := do
  let description ← perform (Effect.read psycopg.description)
  let _ ← perform (Effect.ofResult (asserted description))
  let fetchedRows ← perform (psycopg.fetchmany (maxResults + 1))
  let rowsWereTruncated := decide (fetchedRows.length > maxResults)
  let visibleRows := fetchedRows.take maxResults
  let description ← perform (Effect.read psycopg.description)
  let columnNames ← perform (Effect.ofResult (iterated description))
  return { succeeded := true
           columns := columnNames
           rows := coerceRows visibleRows
           rowsWereTruncated }

def buildOutcome (psycopg : Psycopg σ) (maxResults : Nat) (description : Option (List String)) :
    RequestProgram σ QueryOutcomeDto :=
  if description.isSome then buildReadOutcome psycopg maxResults
  else perform (Effect.read fun s =>
    { succeeded := true, rowsAffected := some (psycopg.rowcount s) })

def transaction (psycopg : Psycopg σ) (queryTimeoutMs maxResults : Nat) (queryText : Json.Text) :
    RequestProgram σ QueryOutcomeDto := do
  perform (setStatementTimeout psycopg queryTimeoutMs)
  perform (psycopg.execute queryText none)
  let description ← perform (Effect.read psycopg.description)
  let outcome ← buildOutcome psycopg maxResults description
  perform psycopg.commit
  return outcome

def runStatement (psycopg : Psycopg σ) (queryTimeoutMs maxResults : Nat) (queryText : Json.Text) :
    RequestProgram σ QueryOutcomeDto := do
  perform psycopg.connect
  Program.withBlock (fun e => perform (psycopg.exitConnection e)) do
    perform psycopg.cursor
    Program.withBlock (fun e => perform (psycopg.exitCursor e))
      (transaction psycopg queryTimeoutMs maxResults queryText)

def executor (psycopg : Psycopg σ) (queryTimeoutMs maxResults : Nat) :
    QueryPayload → RequestProgram σ QueryOutcomeDto
  | .str queryText =>
    (runStatement psycopg queryTimeoutMs maxResults queryText).handle fun
      | .psycopgError exception => pure (buildErrorOutcome exception)
      | exception => .raise exception
  | payload =>
    pure { succeeded := false
           errorMessage := some s!"Postgres executor expects a string, got {payload.typeName}" }

/-- The use case, with the decision's entry as one call of the recorder. -/
def execute (sqlglot : Sqlglot) (registry : RuleRegistry) (psycopg : Psycopg σ)
    (queryTimeoutMs maxResults : Nat) (clock : ClockReadings) (maxSampleRows : Nat)
    (queryText : QueryPayload) (requestId : String) : RequestProgram σ ExecuteQueryResultDto := do
  let redactedQuery ← perform (Effect.ofResult (scrub sqlglot dialect queryText))
  let validationResult ← perform (Effect.ofResult (validate sqlglot dialect registry queryText))
  if !validationResult.isAllowed then
    .ofEffect (recordAndReturnRejected clock requestId redactedQuery validationResult)
  else
    let queryOutcome ← executor psycopg queryTimeoutMs maxResults queryText
    if queryOutcome.succeeded then
      .ofEffect (recordAndReturnAllowed clock maxSampleRows requestId redactedQuery queryOutcome)
    else .ofEffect (recordAndReturnDbError clock requestId redactedQuery queryOutcome)

theorem call_eq {α : Type} (m : Effect PyException σ α) (w : World σ) :
    call m w = ((m w.outer).1, { w with outer := (m w.outer).2 }) := rfl

theorem call_bind {α β : Type} (m : Effect PyException σ α) (k : α → Effect PyException σ β) :
    (call (m >>= k) : Effect PyException (World σ) β) = call m >>= fun a => call (k a) := by
  funext w
  rcases h : m w.outer with ⟨e | a, s⟩
  · rw [Effect.bind_error (call_apply h)]
    exact call_apply (Effect.bind_error h)
  · rw [Effect.bind_ok (call_apply h)]
    simp only [call_eq, Effect.bind_ok h]

theorem call_tryCatch {α : Type} (m : Effect PyException σ α)
    (handler : PyException → Effect PyException σ α) :
    (call (tryCatch m handler) : Effect PyException (World σ) α) =
      tryCatch (call m) fun e => call (handler e) := by
  funext w
  rcases h : m w.outer with ⟨e | a, s⟩
  · rw [Effect.tryCatch_error (call_apply h)]
    simp only [call_eq, Effect.tryCatch_error h]
  · rw [Effect.tryCatch_ok (call_apply h)]
    exact call_apply (Effect.tryCatch_ok h)

theorem call_withBlock {α : Type} (exit : Option PyException → Effect PyException σ Unit)
    (body : Effect PyException σ α) :
    (call (Effect.withBlock exit body) : Effect PyException (World σ) α) =
      Effect.withBlock (fun e => call (exit e)) (call body) := by
  funext w
  rcases h : body w.outer with ⟨e | a, s⟩
  · have hexit := congrFun (call_bind (exit (some e)) fun _ => (throw e : Effect PyException σ α))
      { w with outer := s }
    simp only [Effect.withBlock, call_apply h, call_eq, h] at hexit ⊢
    exact hexit
  · have hexit := congrFun (call_bind (exit none) fun _ => (pure a : Effect PyException σ α))
      { w with outer := s }
    simp only [Effect.withBlock, call_apply h, call_eq, h] at hexit ⊢
    exact hexit

theorem run_perform {α : Type} (m : Effect PyException σ α) : (perform m).run = call m := rfl

theorem run_buildReadOutcome (psycopg : Psycopg σ) (maxResults : Nat) :
    (buildReadOutcome psycopg maxResults).run =
      call (QueryExecutor.buildReadOutcome psycopg maxResults) := by
  simp only [buildReadOutcome, QueryExecutor.buildReadOutcome, call_bind, Program.run_bind,
    run_perform]
  rfl

theorem run_buildOutcome (psycopg : Psycopg σ) (maxResults : Nat)
    (description : Option (List String)) :
    (buildOutcome psycopg maxResults description).run =
      call (QueryExecutor.buildOutcome psycopg maxResults description) := by
  cases description with
  | none => rfl
  | some columnNames => exact run_buildReadOutcome psycopg maxResults

theorem run_transaction (psycopg : Psycopg σ) (queryTimeoutMs maxResults : Nat)
    (queryText : Json.Text) :
    (transaction psycopg queryTimeoutMs maxResults queryText).run =
      call (QueryExecutor.transaction psycopg queryTimeoutMs maxResults queryText) := by
  simp only [transaction, QueryExecutor.transaction, call_bind, Program.run_bind, run_perform,
    run_buildOutcome]
  rfl

theorem run_runStatement (psycopg : Psycopg σ) (queryTimeoutMs maxResults : Nat)
    (queryText : Json.Text) :
    (runStatement psycopg queryTimeoutMs maxResults queryText).run =
      call (QueryExecutor.runStatement psycopg queryTimeoutMs maxResults queryText) := by
  simp only [runStatement, QueryExecutor.runStatement, call_bind, call_withBlock, Program.run_bind,
    Program.run_withBlock, run_perform, run_transaction]

theorem run_executor (psycopg : Psycopg σ) (queryTimeoutMs maxResults : Nat)
    (payload : QueryPayload) :
    (executor psycopg queryTimeoutMs maxResults payload).run =
      call (QueryExecutor.execute psycopg queryTimeoutMs maxResults payload) := by
  cases payload with
  | str queryText =>
    simp only [executor, QueryExecutor.execute, call_tryCatch, Program.run_handle,
      run_runStatement]
    congr 1
    funext e
    cases e <;> rfl
  | dict fields => rfl
  | list items => rfl

/-- A request that no other one interrupts is the use case over the Postgres adapters. -/
theorem run_execute (sqlglot : Sqlglot) (registry : RuleRegistry) (psycopg : Psycopg σ)
    (queryTimeoutMs maxResults : Nat) (clock : ClockReadings) (maxSampleRows : Nat)
    (queryText : QueryPayload) (requestId : String) :
    (execute sqlglot registry psycopg queryTimeoutMs maxResults clock maxSampleRows queryText
        requestId).run =
      ExecuteQueryUseCase.execute (accessGuard sqlglot registry psycopg queryTimeoutMs maxResults)
        clock maxSampleRows queryText requestId := by
  simp only [execute, ExecuteQueryUseCase.execute, Program.run_bind, run_perform]
  congr 1
  funext redactedQuery
  congr 1
  funext validationResult
  split_ifs
  · rfl
  · rw [Program.run_bind, run_executor]
    congr 1
    funext queryOutcome
    split_ifs <;> rfl

end RequestProgram

end SqlGateway.Postgres
