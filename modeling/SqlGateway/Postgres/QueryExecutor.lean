import SqlGateway.Application.ExecuteQuery
import SqlGateway.Postgres.ErrorMessages

namespace SqlGateway.Postgres

open ExecuteQueryUseCase

/-- A Python value that psycopg puts into a row, with the text that the gateway takes from it. -/
inductive Cell
  | none
  | str (value : Json.Text)
  | int (value : Int)
  | float (value : Json.Number)
  | bool (value : Bool)
  | temporal (isoformat : String)
  | decimal (text : String)
  | uuid (text : String)
  | bytes (value : List UInt8)
  /-- Any other object, a `dict` and a `list` among them, by its `str`. -/
  | other (text : String)

def hexText (value : List UInt8) : String :=
  .ofList (value.flatMap fun byte =>
    [Nat.digitChar (byte.toNat / 16), Nat.digitChar (byte.toNat % 16)])

def coerceCellToJsonSafe : Cell → Json.Value
  | .none => .null
  | .str value => .string value
  | .int value => .int value
  | .float value => .float value
  | .bool value => .bool value
  | .temporal isoformat => .ofString isoformat
  | .decimal text => .ofString text
  | .uuid text => .ofString text
  | .bytes value => .ofString (hexText value)
  | .other text => .ofString text

def coerceRows (rows : List (List Cell)) : List (List Json.Value) :=
  rows.map fun row => row.map coerceCellToJsonSafe

/-- What the executor uses of psycopg, over a world with the connection and the database. -/
structure Psycopg (σ : Type) where
  connect : Effect PyException σ Unit
  cursor : Effect PyException σ Unit
  execute : (query : Json.Text) → (params : Option (List String)) → Effect PyException σ Unit
  /-- The column names of `cursor.description`. -/
  description : σ → Option (List String)
  rowcount : σ → Int
  fetchmany : Nat → Effect PyException σ (List (List Cell))
  commit : Effect PyException σ Unit
  exitCursor : Option PyException → Effect PyException σ Unit
  exitConnection : Option PyException → Effect PyException σ Unit

namespace QueryExecutor

variable {σ : Type}

def iterated (description : Option (List String)) : Except PyException (List String) :=
  match description with
  | some columnNames => .ok columnNames
  | none => .error (.other "TypeError" "'NoneType' object is not iterable")

def buildReadOutcome (psycopg : Psycopg σ) (maxResults : Nat) :
    Effect PyException σ QueryOutcomeDto := do
  let description ← Effect.read psycopg.description
  let _ ← Effect.ofResult (asserted description)
  let fetchedRows ← psycopg.fetchmany (maxResults + 1)
  let rowsWereTruncated := decide (fetchedRows.length > maxResults)
  let visibleRows := fetchedRows.take maxResults
  let description ← Effect.read psycopg.description
  let columnNames ← Effect.ofResult (iterated description)
  return { succeeded := true
           columns := columnNames
           rows := coerceRows visibleRows
           rowsWereTruncated }

def firstLine (text : String) : String := .ofList (PyText.firstLine text.toList)

def buildErrorOutcome (exception : PsycopgError) : QueryOutcomeDto :=
  let sqlstate := exception.diag.bind Diagnostic.sqlstate
  let primaryMessage := (exception.diag.bind Diagnostic.messagePrimary).getD ""
  let rawMessage := if primaryMessage ≠ "" then primaryMessage else firstLine exception.text
  { succeeded := false
    errorMessage := some (sanitizeErrorMessage rawMessage)
    errorCode := sqlstate }

def setStatementTimeout (psycopg : Psycopg σ) (queryTimeoutMs : Nat) : Effect PyException σ Unit :=
  psycopg.execute "SELECT set_config('statement_timeout', %s, true)"
    (some [toString queryTimeoutMs ++ "ms"])

def buildOutcome (psycopg : Psycopg σ) (maxResults : Nat) (description : Option (List String)) :
    Effect PyException σ QueryOutcomeDto :=
  if description.isSome then buildReadOutcome psycopg maxResults
  else Effect.read fun s => { succeeded := true, rowsAffected := some (psycopg.rowcount s) }

/-- The body of the two `with` blocks. -/
def transaction (psycopg : Psycopg σ) (queryTimeoutMs maxResults : Nat) (queryText : Json.Text) :
    Effect PyException σ QueryOutcomeDto := do
  setStatementTimeout psycopg queryTimeoutMs
  psycopg.execute queryText none
  let description ← Effect.read psycopg.description
  let outcome ← buildOutcome psycopg maxResults description
  psycopg.commit
  return outcome

def runStatement (psycopg : Psycopg σ) (queryTimeoutMs maxResults : Nat) (queryText : Json.Text) :
    Effect PyException σ QueryOutcomeDto := do
  psycopg.connect
  Effect.withBlock psycopg.exitConnection do
    psycopg.cursor
    Effect.withBlock psycopg.exitCursor
      (transaction psycopg queryTimeoutMs maxResults queryText)

def execute (psycopg : Psycopg σ) (queryTimeoutMs maxResults : Nat) :
    QueryPayload → Effect PyException σ QueryOutcomeDto
  | .str queryText =>
    tryCatch (runStatement psycopg queryTimeoutMs maxResults queryText) fun
      | .psycopgError exception => pure (buildErrorOutcome exception)
      | exception => throw exception
  | payload =>
    pure { succeeded := false
           errorMessage := some s!"Postgres executor expects a string, got {payload.typeName}" }

inductive DatabaseAnswer
  | rows (columnNames : List String) (rows : List (List Cell))
  | rowcount (count : Int)
  | error (exception : PsycopgError)

/-- The rows that the database found; none for a statement that returns no rows. -/
def DatabaseAnswer.resultSet : DatabaseAnswer → List (List Cell)
  | .rows _ found => found
  | .rowcount _ => []
  | .error _ => []

def DatabaseAnswer.isCommitted : DatabaseAnswer → Bool
  | .rows _ _ => true
  | .rowcount _ => true
  | .error _ => false

theorem exists_error_of_not_committed {answer : DatabaseAnswer} (h : answer.isCommitted = false) :
    ∃ exception, answer = .error exception := by
  cases answer with
  | rows columnNames rows => cases h
  | rowcount count => cases h
  | error exception => exact ⟨exception, rfl⟩

/-- The statement runs, the cursor shows its rows or its row count, and the transaction is
committed; or some step raises a `psycopg.Error`. -/
inductive Answers (psycopg : Psycopg σ) (queryTimeoutMs maxResults : Nat) (queryText : Json.Text)
    (s : σ) : DatabaseAnswer → σ → Prop
  | rows {columnNames : List String} {rows : List (List Cell)} {s₁ s₂ s₃ s₄ s₅ s₆ s₇ s' : σ} :
    psycopg.connect s = (.ok (), s₁) → psycopg.cursor s₁ = (.ok (), s₂) →
    setStatementTimeout psycopg queryTimeoutMs s₂ = (.ok (), s₃) →
    psycopg.execute queryText none s₃ = (.ok (), s₄) →
    psycopg.description s₄ = some columnNames →
    psycopg.fetchmany (maxResults + 1) s₄ = (.ok (rows.take (maxResults + 1)), s₅) →
    psycopg.description s₅ = some columnNames → psycopg.commit s₅ = (.ok (), s₆) →
    psycopg.exitCursor none s₆ = (.ok (), s₇) → psycopg.exitConnection none s₇ = (.ok (), s') →
    Answers psycopg queryTimeoutMs maxResults queryText s (.rows columnNames rows) s'
  | rowcount {s₁ s₂ s₃ s₄ s₅ s₆ s' : σ} :
    psycopg.connect s = (.ok (), s₁) → psycopg.cursor s₁ = (.ok (), s₂) →
    setStatementTimeout psycopg queryTimeoutMs s₂ = (.ok (), s₃) →
    psycopg.execute queryText none s₃ = (.ok (), s₄) → psycopg.description s₄ = none →
    psycopg.commit s₄ = (.ok (), s₅) → psycopg.exitCursor none s₅ = (.ok (), s₆) →
    psycopg.exitConnection none s₆ = (.ok (), s') →
    Answers psycopg queryTimeoutMs maxResults queryText s (.rowcount (psycopg.rowcount s₄)) s'
  | error {exception : PsycopgError} {s' : σ} :
    runStatement psycopg queryTimeoutMs maxResults queryText s =
      (.error (.psycopgError exception), s') →
    Answers psycopg queryTimeoutMs maxResults queryText s (.error exception) s'

def outcomeOf (maxResults : Nat) : DatabaseAnswer → QueryOutcomeDto
  | .rows columnNames rows =>
    { succeeded := true
      columns := columnNames
      rows := coerceRows (rows.take maxResults)
      rowsWereTruncated := decide (rows.length > maxResults) }
  | .rowcount count => { succeeded := true, rowsAffected := some count }
  | .error exception => buildErrorOutcome exception

@[simp] theorem outcomeOf_succeeded (maxResults : Nat) (answer : DatabaseAnswer) :
    (outcomeOf maxResults answer).succeeded = answer.isCommitted := by
  cases answer <;> rfl

theorem outcomeOf_rows (maxResults : Nat) (answer : DatabaseAnswer) :
    (outcomeOf maxResults answer).rows = coerceRows (answer.resultSet.take maxResults) := by
  cases answer with
  | rows columnNames rows => rfl
  | rowcount count => rw [DatabaseAnswer.resultSet, List.take_nil]; rfl
  | error exception => rw [DatabaseAnswer.resultSet, List.take_nil]; rfl

theorem buildReadOutcome_eq {psycopg : Psycopg σ} {maxResults : Nat} {columnNames : List String}
    {rows : List (List Cell)} {s s' : σ} (hdescription : psycopg.description s = some columnNames)
    (hfetch : psycopg.fetchmany (maxResults + 1) s = (.ok (rows.take (maxResults + 1)), s'))
    (hdescription' : psycopg.description s' = some columnNames) :
    buildReadOutcome psycopg maxResults s =
      (.ok (outcomeOf maxResults (.rows columnNames rows)), s') := by
  have hvisible : (rows.take (maxResults + 1)).take maxResults = rows.take maxResults := by
    rw [List.take_take, Nat.min_eq_left (Nat.le_succ _)]
  have htruncated : decide ((rows.take (maxResults + 1)).length > maxResults) =
      decide (rows.length > maxResults) := by
    rw [List.length_take]
    apply decide_eq_decide.mpr
    omega
  have hasserted : Effect.ofResult (asserted (some columnNames)) s = (.ok columnNames, s) := rfl
  have hcolumns : Effect.ofResult (iterated (some columnNames)) s' = (.ok columnNames, s') := rfl
  rw [buildReadOutcome, Effect.bind_ok (Effect.read_apply _ _), hdescription,
    Effect.bind_ok hasserted, Effect.bind_ok hfetch, Effect.bind_ok (Effect.read_apply _ _),
    hdescription', Effect.bind_ok hcolumns, hvisible, htruncated]
  rfl

theorem buildOutcome_rows {psycopg : Psycopg σ} {maxResults : Nat} {columnNames : List String} :
    buildOutcome psycopg maxResults (some columnNames) = buildReadOutcome psycopg maxResults := rfl

theorem buildOutcome_rowcount {psycopg : Psycopg σ} {maxResults : Nat} (s : σ) :
    buildOutcome psycopg maxResults none s =
      (.ok (outcomeOf maxResults (.rowcount (psycopg.rowcount s))), s) := rfl

theorem runStatement_ok {psycopg : Psycopg σ} {queryTimeoutMs maxResults : Nat}
    {queryText : Json.Text} {s s₁ s₂ s₃ s₄ s' : σ} {outcome : QueryOutcomeDto}
    (hconnect : psycopg.connect s = (.ok (), s₁)) (hcursor : psycopg.cursor s₁ = (.ok (), s₂))
    (hbody : transaction psycopg queryTimeoutMs maxResults queryText s₂ = (.ok outcome, s₃))
    (hexit : psycopg.exitCursor none s₃ = (.ok (), s₄))
    (hexit' : psycopg.exitConnection none s₄ = (.ok (), s')) :
    runStatement psycopg queryTimeoutMs maxResults queryText s = (.ok outcome, s') := by
  rw [runStatement, Effect.bind_ok hconnect]
  apply Effect.withBlock_ok _ hexit'
  rw [Effect.bind_ok hcursor]
  exact Effect.withBlock_ok hbody hexit

theorem transaction_ok {psycopg : Psycopg σ} {queryTimeoutMs maxResults : Nat}
    {queryText : Json.Text} {s s₁ s₂ s₃ s' : σ} {outcome : QueryOutcomeDto}
    (htimeout : setStatementTimeout psycopg queryTimeoutMs s = (.ok (), s₁))
    (hexecute : psycopg.execute queryText none s₁ = (.ok (), s₂))
    (hbuild : buildOutcome psycopg maxResults (psycopg.description s₂) s₂ = (.ok outcome, s₃))
    (hcommit : psycopg.commit s₃ = (.ok (), s')) :
    transaction psycopg queryTimeoutMs maxResults queryText s = (.ok outcome, s') := by
  rw [transaction, Effect.bind_ok htimeout, Effect.bind_ok hexecute,
    Effect.bind_ok (Effect.read_apply _ _), Effect.bind_ok hbuild, Effect.bind_ok hcommit]
  rfl

theorem execute_of_answers {psycopg : Psycopg σ} {queryTimeoutMs maxResults : Nat}
    {queryText : Json.Text} {s s' : σ} {answer : DatabaseAnswer}
    (h : Answers psycopg queryTimeoutMs maxResults queryText s answer s') :
    execute psycopg queryTimeoutMs maxResults (.str queryText) s =
      (.ok (outcomeOf maxResults answer), s') := by
  cases h with
  | rows hconnect hcursor htimeout hexecute hdescription hfetch hdescription' hcommit hexit hexit' =>
    apply Effect.tryCatch_ok
    apply runStatement_ok hconnect hcursor _ hexit hexit'
    apply transaction_ok htimeout hexecute _ hcommit
    rw [hdescription, buildOutcome_rows]
    exact buildReadOutcome_eq hdescription hfetch hdescription'
  | rowcount hconnect hcursor htimeout hexecute hdescription hcommit hexit hexit' =>
    apply Effect.tryCatch_ok
    apply runStatement_ok hconnect hcursor _ hexit hexit'
    apply transaction_ok htimeout hexecute _ hcommit
    rw [hdescription]
    exact buildOutcome_rowcount _
  | error hrun =>
    rw [execute, Effect.tryCatch_error hrun]
    rfl

def answering (columnNames : List String) (rows : List (List Cell)) : Psycopg Unit where
  connect := pure ()
  cursor := pure ()
  execute _ _ := pure ()
  description _ := some columnNames
  rowcount _ := rows.length
  fetchmany size := pure (rows.take size)
  commit := pure ()
  exitCursor _ := pure ()
  exitConnection _ := pure ()

theorem answers_answering (columnNames : List String) (rows : List (List Cell))
    (queryTimeoutMs maxResults : Nat) (queryText : Json.Text) :
    Answers (answering columnNames rows) queryTimeoutMs maxResults queryText ()
      (.rows columnNames rows) () :=
  .rows rfl rfl rfl rfl rfl rfl rfl rfl rfl rfl

end QueryExecutor

end SqlGateway.Postgres
