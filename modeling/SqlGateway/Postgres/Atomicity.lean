import SqlGateway.Library.Transaction
import SqlGateway.Library.Triple
import SqlGateway.Postgres.QueryExecutor

namespace SqlGateway.Postgres

open Effect (Triple)
open Transaction (Applied Store)

namespace QueryExecutor

variable {σ : Type}

def buildReadOutcomeWith (coerce : Cell → Except PyException Json.Value) (psycopg : Psycopg σ)
    (maxResults : Nat) : Effect PyException σ QueryOutcomeDto := do
  let description ← Effect.read psycopg.description
  let _ ← Effect.ofResult (asserted description)
  let fetchedRows ← psycopg.fetchmany (maxResults + 1)
  let rowsWereTruncated := decide (fetchedRows.length > maxResults)
  let visibleRows := fetchedRows.take maxResults
  let description ← Effect.read psycopg.description
  let columnNames ← Effect.ofResult (iterated description)
  let rows ← Effect.ofResult (visibleRows.mapM fun row => row.mapM coerce)
  return { succeeded := true
           columns := columnNames
           rows
           rowsWereTruncated }

def buildOutcomeWith (coerce : Cell → Except PyException Json.Value) (psycopg : Psycopg σ)
    (maxResults : Nat) (description : Option (List String)) :
    Effect PyException σ QueryOutcomeDto :=
  if description.isSome then buildReadOutcomeWith coerce psycopg maxResults
  else Effect.read fun s => { succeeded := true, rowsAffected := some (psycopg.rowcount s) }

def transactionWith (coerce : Cell → Except PyException Json.Value) (psycopg : Psycopg σ)
    (queryTimeoutMs maxResults : Nat) (queryText : Json.Text) :
    Effect PyException σ QueryOutcomeDto := do
  setStatementTimeout psycopg queryTimeoutMs
  psycopg.execute queryText none
  let description ← Effect.read psycopg.description
  let outcome ← buildOutcomeWith coerce psycopg maxResults description
  psycopg.commit
  return outcome

def runStatementWith (coerce : Cell → Except PyException Json.Value) (psycopg : Psycopg σ)
    (queryTimeoutMs maxResults : Nat) (queryText : Json.Text) :
    Effect PyException σ QueryOutcomeDto := do
  psycopg.connect
  Effect.withBlock psycopg.exitConnection do
    psycopg.cursor
    Effect.withBlock psycopg.exitCursor
      (transactionWith coerce psycopg queryTimeoutMs maxResults queryText)

def executeWith (coerce : Cell → Except PyException Json.Value) (psycopg : Psycopg σ)
    (queryTimeoutMs maxResults : Nat) : QueryPayload → Effect PyException σ QueryOutcomeDto
  | .str queryText =>
    tryCatch (runStatementWith coerce psycopg queryTimeoutMs maxResults queryText) fun
      | .psycopgError exception => pure (buildErrorOutcome exception)
      | exception => throw exception
  | payload =>
    pure { succeeded := false
           errorMessage := some s!"Postgres executor expects a string, got {payload.typeName}" }

theorem mapM_coerce (rows : List (List Cell)) :
    (rows.mapM fun row => row.mapM fun cell =>
        (.ok (coerceCellToJsonSafe cell) : Except PyException Json.Value)) =
      .ok (coerceRows rows) := by
  have hrow (row : List Cell) : (row.mapM fun cell =>
      (.ok (coerceCellToJsonSafe cell) : Except PyException Json.Value)) =
        .ok (row.map coerceCellToJsonSafe) := List.mapM_pure
  simp only [hrow]
  exact List.mapM_pure

theorem buildReadOutcomeWith_total (psycopg : Psycopg σ) (maxResults : Nat) :
    buildReadOutcomeWith (fun cell => .ok (coerceCellToJsonSafe cell)) psycopg maxResults =
      buildReadOutcome psycopg maxResults := by
  simp only [buildReadOutcomeWith, mapM_coerce]
  rfl

/-- The executor is the one whose coercion never raises. -/
theorem executeWith_total (psycopg : Psycopg σ) (queryTimeoutMs maxResults : Nat) :
    executeWith (fun cell => .ok (coerceCellToJsonSafe cell)) psycopg queryTimeoutMs maxResults =
      execute psycopg queryTimeoutMs maxResults := by
  funext payload
  cases payload with
  | str queryText =>
    simp only [executeWith, runStatementWith, transactionWith, buildOutcomeWith,
      buildReadOutcomeWith_total]
    rfl
  | dict fields => rfl
  | list items => rfl

/-! What is assumed of psycopg -/

abbrev Statement := Json.Text × Option (List String)

def timeoutStatement (queryTimeoutMs : Nat) : Statement :=
  ("SELECT set_config('statement_timeout', %s, true)", some [toString queryTimeoutMs ++ "ms"])

variable {Data : Type} {psycopg : Psycopg σ} {view : σ → Store Statement Data}
  {sends : Json.Text → Prop}

def Keeps (view : σ → Store Statement Data) (s s' : σ) : Prop :=
  (view s').transactions = (view s).transactions

/-- `view` reads off the world what the database has committed and what is open. A call that
raises commits nothing, leaving the connection on an exception rolls back, and leaving it
with nothing open does nothing. Of the texts that can be sent, only `sends` is looked at. -/
structure Transactional (psycopg : Psycopg σ) (view : σ → Store Statement Data)
    (sends : Json.Text → Prop) : Prop where
  connect : ∀ s, Triple psycopg.connect s
    (fun _ s' => Keeps view s s' ∧ (view s').pending = []) (fun _ => Keeps view s)
  cursor : ∀ s, Triple psycopg.cursor s (fun _ s' => view s' = view s) (fun _ => Keeps view s)
  execute : ∀ queryText, sends queryText → ∀ s, Triple (psycopg.execute queryText none) s
    (fun _ s' => ∃ effect, view s' = (view s).run ⟨(queryText, none), effect⟩)
    (fun _ => Keeps view s)
  setTimeout : ∀ queryTimeoutMs s,
    Triple (psycopg.execute (timeoutStatement queryTimeoutMs).1 (timeoutStatement queryTimeoutMs).2) s
      (fun _ s' => view s' = (view s).run ⟨timeoutStatement queryTimeoutMs, id⟩)
      (fun _ => Keeps view s)
  fetchmany : ∀ size s, Triple (psycopg.fetchmany size) s (fun _ s' => view s' = view s)
    (fun _ => Keeps view s)
  commit : ∀ s, Triple psycopg.commit s (fun _ s' => view s' = (view s).commit)
    (fun _ => Keeps view s)
  exitCursor : ∀ s, Triple (psycopg.exitCursor none) s (fun _ s' => view s' = view s)
    (fun _ _ => False)
  exitCursorRaising : ∀ e s, Triple (psycopg.exitCursor (some e)) s (fun _ => Keeps view s)
    (fun _ => Keeps view s)
  exitConnection : ∀ s, (view s).pending = [] →
    Triple (psycopg.exitConnection none) s (fun _ s' => view s' = view s) (fun _ _ => False)
  exitConnectionRaising : ∀ e s, Triple (psycopg.exitConnection (some e)) s
    (fun _ s' => view s' = (view s).rollback) (fun _ => Keeps view s)

theorem Keeps.trans {s s' s'' : σ} (h : Keeps view s s') (h' : Keeps view s' s'') :
    Keeps view s s'' := Eq.trans h' h

theorem keeps_of_eq {s s' : σ} (h : view s' = view s) : Keeps view s s' := congrArg _ h

section Steps

variable (h : Transactional psycopg view sends) (coerce : Cell → Except PyException Json.Value)
include h

theorem triple_buildReadOutcomeWith (maxResults : Nat) (s : σ) :
    Triple (buildReadOutcomeWith coerce psycopg maxResults) s
      (fun outcome s' => outcome.succeeded = true ∧ view s' = view s) (fun _ => Keeps view s) := by
  apply Triple.bind (Q := fun _ s' => s = s') (.read rfl)
  rintro description _ rfl
  apply Triple.bind (Q := fun _ s' => s = s')
    (.ofResult (fun _ _ => rfl) fun _ _ => keeps_of_eq rfl)
  rintro _ _ rfl
  apply Triple.bind (h.fetchmany _ _)
  intro fetchedRows s' hview
  apply Triple.bind (Q := fun _ s'' => s' = s'') (.read rfl)
  rintro description _ rfl
  apply Triple.bind (Q := fun _ s'' => s' = s'')
    (.ofResult (fun _ _ => rfl) fun _ _ => keeps_of_eq hview)
  rintro columnNames _ rfl
  apply Triple.bind (Q := fun _ s'' => s' = s'')
    (.ofResult (fun _ _ => rfl) fun _ _ => keeps_of_eq hview)
  rintro rows _ rfl
  exact .pure ⟨rfl, hview⟩

theorem triple_buildOutcomeWith (maxResults : Nat) (description : Option (List String)) (s : σ) :
    Triple (buildOutcomeWith coerce psycopg maxResults description) s
      (fun outcome s' => outcome.succeeded = true ∧ view s' = view s) (fun _ => Keeps view s) := by
  unfold buildOutcomeWith
  split_ifs
  · exact triple_buildReadOutcomeWith h coerce maxResults s
  · exact .read ⟨rfl, rfl⟩

/-- What a request leaves behind that was committed: one transaction, in it the timeout and
then the statement. -/
def Committed (view : σ → Store Statement Data) (queryTimeoutMs : Nat) (queryText : Json.Text)
    (s s' : σ) : Prop :=
  ∃ effect : Data → Data, (view s').transactions = (view s).transactions ++
    [[⟨timeoutStatement queryTimeoutMs, id⟩, ⟨(queryText, none), effect⟩]]

theorem triple_transactionWith (queryTimeoutMs maxResults : Nat) {queryText : Json.Text}
    (hsends : sends queryText) {s : σ} (hpending : (view s).pending = []) :
    Triple (transactionWith coerce psycopg queryTimeoutMs maxResults queryText) s
      (fun outcome s' => outcome.succeeded = true ∧
        Committed view queryTimeoutMs queryText s s' ∧ (view s').pending = [])
      (fun _ => Keeps view s) := by
  apply Triple.bind (h.setTimeout queryTimeoutMs s)
  intro _ s₁ h₁
  have hkeeps₁ : Keeps view s s₁ := by rw [Keeps, h₁, Store.run_transactions]
  apply Triple.bind ((h.execute queryText hsends s₁).mono (fun _ _ hQ => hQ) fun _ _ => hkeeps₁.trans)
  rintro _ s₂ ⟨effect, h₂⟩
  have hkeeps₂ : Keeps view s s₂ := by
    rw [Keeps, h₂, Store.run_transactions, h₁, Store.run_transactions]
  apply Triple.bind (Q := fun _ s' => s₂ = s') (.read rfl)
  rintro description _ rfl
  apply Triple.bind ((triple_buildOutcomeWith h coerce maxResults description s₂).mono
    (fun _ _ hQ => hQ) fun _ _ => hkeeps₂.trans)
  rintro outcome s₃ ⟨hsucceeded, h₃⟩
  apply Triple.bind ((h.commit s₃).mono (fun _ _ hQ => hQ)
    fun _ _ => (hkeeps₂.trans (keeps_of_eq h₃)).trans)
  intro _ s₄ h₄
  refine .pure ⟨hsucceeded, ⟨effect, ?_⟩, ?_⟩
  · have hopen : (view s₃).pending =
        [⟨timeoutStatement queryTimeoutMs, id⟩, ⟨(queryText, none), effect⟩] := by
      simp [h₃, h₂, h₁, hpending]
    have htransactions : (view s₃).transactions = (view s).transactions := by simp [h₃, h₂, h₁]
    rw [h₄, Store.commit_transactions _ (by simp [hopen]), htransactions, hopen]
  · rw [h₄, Store.commit_pending]

theorem triple_runStatementWith (queryTimeoutMs maxResults : Nat) {queryText : Json.Text}
    (hsends : sends queryText) (s : σ) :
    Triple (runStatementWith coerce psycopg queryTimeoutMs maxResults queryText) s
      (fun outcome s' => outcome.succeeded = true ∧ Committed view queryTimeoutMs queryText s s')
      (fun _ => Keeps view s) := by
  apply Triple.bind (h.connect s)
  rintro _ s₁ ⟨hkeeps₁, hpending₁⟩
  have hbody (s₂ : σ) (hview : view s₂ = view s₁) :
      Triple (transactionWith coerce psycopg queryTimeoutMs maxResults queryText) s₂
        (fun outcome s' => outcome.succeeded = true ∧
          Committed view queryTimeoutMs queryText s s' ∧ (view s').pending = [])
        (fun _ => Keeps view s) := by
    have hkeeps₂ : Keeps view s s₂ := hkeeps₁.trans (keeps_of_eq hview)
    apply (triple_transactionWith h coerce queryTimeoutMs maxResults hsends
      (by rw [hview, hpending₁])).mono
    · rintro outcome s' ⟨hsucceeded, ⟨effect, heffect⟩, hpending⟩
      refine ⟨hsucceeded, ⟨effect, ?_⟩, hpending⟩
      rw [heffect, hkeeps₂]
    · intro e s' hkeeps
      exact hkeeps₂.trans hkeeps
  -- the two exits: after a return nothing is open any more, after an exception nothing was
  -- committed
  apply Triple.withBlock (Q := fun outcome s' => outcome.succeeded = true ∧
    Committed view queryTimeoutMs queryText s s' ∧ (view s').pending = [])
    (E := fun _ => Keeps view s)
  · apply Triple.bind ((h.cursor s₁).mono (fun _ _ hQ => hQ) fun _ _ => hkeeps₁.trans)
    intro _ s₂ hview
    apply Triple.withBlock (hbody s₂ hview)
    · rintro outcome s' ⟨hsucceeded, ⟨effect, heffect⟩, hpending⟩
      apply (h.exitCursor s').mono
      · intro _ s'' hexit
        rw [hexit]
        exact ⟨hsucceeded, ⟨effect, by rw [hexit, heffect]⟩, hpending⟩
      · intro _ _ hfalse
        exact hfalse.elim
    · intro e s' hkeeps
      exact (h.exitCursorRaising e s').mono (fun _ _ => hkeeps.trans) fun _ _ => hkeeps.trans
  · rintro outcome s' ⟨hsucceeded, ⟨effect, heffect⟩, hpending⟩
    apply (h.exitConnection s' hpending).mono
    · intro _ s'' hexit
      exact ⟨hsucceeded, effect, by rw [hexit, heffect]⟩
    · intro _ _ hfalse
      exact hfalse.elim
  · intro e s' hkeeps
    apply (h.exitConnectionRaising e s').mono
    · intro _ s'' hexit
      exact hkeeps.trans (by rw [Keeps, hexit, Store.rollback_transactions])
    · intro _ _
      exact hkeeps.trans

/-- An outcome of success stands for one committed transaction, any other ending for none. -/
theorem triple_executeWith (queryTimeoutMs maxResults : Nat) {queryText : Json.Text}
    (hsends : sends queryText) (s : σ) :
    Triple (executeWith coerce psycopg queryTimeoutMs maxResults (.str queryText)) s
      (fun outcome s' => outcome.succeeded = true ∧
          Committed view queryTimeoutMs queryText s s' ∨
        outcome.succeeded = false ∧ Keeps view s s')
      (fun _ => Keeps view s) := by
  apply Triple.tryCatch (E := fun _ => Keeps view s)
  · apply (triple_runStatementWith h coerce queryTimeoutMs maxResults hsends s).mono
    · intro outcome s' hcommitted
      exact Or.inl hcommitted
    · intro e s' hkeeps
      exact hkeeps
  · intro e s' hkeeps
    cases e with
    | psycopgError exception => exact .pure (Or.inr ⟨rfl, hkeeps⟩)
    | sqlglotError message => exact .throw hkeeps
    | other typeName message => exact .throw hkeeps

end Steps

/-- The request is all or nothing: a success is one more transaction, in which the timeout was
set before the statement ran once; after anything else the data are what they were. -/
theorem executeWith_atomic {queryText : Json.Text} (h : Transactional psycopg view (· = queryText))
    (coerce : Cell → Except PyException Json.Value) (queryTimeoutMs maxResults : Nat) (s s' : σ) (result : Except PyException QueryOutcomeDto)
    (hrun : executeWith coerce psycopg queryTimeoutMs maxResults (.str queryText) s = (result, s'))
    (initial : Data) :
    (∃ outcome effect, result = .ok outcome ∧ outcome.succeeded = true ∧
        (view s').transactions = (view s).transactions ++
          [[⟨timeoutStatement queryTimeoutMs, id⟩, ⟨(queryText, none), effect⟩]] ∧
        (view s').committed initial = effect ((view s).committed initial)) ∨
      (∀ outcome, result = .ok outcome → outcome.succeeded = false) ∧
        (view s').transactions = (view s).transactions ∧
        (view s').committed initial = (view s).committed initial := by
  have htriple := triple_executeWith h coerce queryTimeoutMs maxResults rfl s
  cases result with
  | error e =>
    have hkeeps : Keeps view s s' := htriple.raises hrun
    refine Or.inr ⟨?_, hkeeps, Store.committed_of_eq hkeeps initial⟩
    rintro _ ⟨⟩
  | ok outcome =>
    cases htriple.returns hrun with
    | inl hcommitted =>
      obtain ⟨hsucceeded, effect, heffect⟩ := hcommitted
      exact Or.inl ⟨outcome, effect, rfl, hsucceeded, heffect,
        Store.committed_of_append heffect initial⟩
    | inr hfailed =>
      obtain ⟨hsucceeded, hkeeps⟩ := hfailed
      refine Or.inr ⟨?_, hkeeps, Store.committed_of_eq hkeeps initial⟩
      rintro _ ⟨⟩
      exact hsucceeded

def statementEffect : Statement → Nat → Nat
  | (_, none) => Nat.succ
  | (_, some _) => id

def counting : Psycopg (Store Statement Nat) where
  connect store := (.ok (), store.rollback)
  cursor := pure ()
  execute query params store :=
    (.ok (), store.run ⟨(query, params), statementEffect (query, params)⟩)
  description _ := none
  rowcount _ := 1
  fetchmany _ := pure []
  commit store := (.ok (), store.commit)
  exitCursor _ := pure ()
  exitConnection
    | none => pure ()
    | some _ => fun store => (.ok (), store.rollback)

theorem transactional_counting : Transactional counting id sends where
  connect _ := .of_apply rfl (fun _ _ => ⟨rfl, rfl⟩) (by rintro _ ⟨⟩)
  cursor _ := .pure rfl
  execute _ _ _ := .of_apply rfl (fun _ _ => ⟨_, rfl⟩) (by rintro _ ⟨⟩)
  setTimeout _ _ := .of_apply rfl (fun _ _ => rfl) (by rintro _ ⟨⟩)
  fetchmany _ _ := .pure rfl
  commit _ := .of_apply rfl (fun _ _ => rfl) (by rintro _ ⟨⟩)
  exitCursor _ := .pure rfl
  exitCursorRaising _ _ := .pure rfl
  exitConnection _ _ := .pure rfl
  exitConnectionRaising _ _ := .of_apply rfl (fun _ _ => rfl) (by rintro _ ⟨⟩)

def afterUpdate : Store Statement Nat :=
  (executeWith (fun cell => .ok (coerceCellToJsonSafe cell)) counting 5000 100
    (.str "UPDATE t SET n = n + 1") {}).2

theorem executeWith_atomic_counting :
    ∃ effect : Nat → Nat, afterUpdate.transactions =
        [[⟨timeoutStatement 5000, id⟩, ⟨("UPDATE t SET n = n + 1", none), effect⟩]] ∧
      afterUpdate.committed 0 = effect 0 := by
  have hatomic := executeWith_atomic transactional_counting
    (fun cell => .ok (coerceCellToJsonSafe cell)) 5000 100 {} afterUpdate _ rfl 0
  cases hatomic with
  | inl hcommitted =>
    obtain ⟨outcome, effect, -, -, htransactions, hdata⟩ := hcommitted
    exact ⟨effect, htransactions, hdata⟩
  | inr hfailed => exact absurd (hfailed.1 _ rfl) (by decide)

end QueryExecutor

end SqlGateway.Postgres
