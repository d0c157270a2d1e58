import SqlGateway.Postgres.AuditLines
import SqlGateway.Postgres.StructuralSoundness

namespace SqlGateway.Postgres

open Json (Text)
open Sql ExecuteQueryUseCase QueryExecutor

/-- What the pinned release makes of several elements, and that the generator succeeds and writes
the statements of a block as it writes them by themselves. -/
structure ReadsBlocks (sqlglot : Sqlglot) : Prop where
  parseOne {text : Text} {statement : Expression} {rest : List (Option Expression)} :
    sqlglot.parse text dialect = .ok (some statement :: rest) → rest ≠ [] →
    sqlglot.parseOne text dialect = .ok (block (statement :: nonNullStatements rest))
  renders (statement : Expression) : ∃ text, sqlglot.sql statement dialect = .ok text
  rendersAll {statements : List Expression} {text : String} :
    sqlglot.sql (block statements) dialect = .ok text →
    ∀ statement ∈ statements, ∀ part, sqlglot.sql statement dialect = .ok part →
      part.toList <:+: text.toList

theorem validate_of_several {sqlglot : Sqlglot} {registry : RuleRegistry} {queryText : Json.Text}
    {parsed : List (Option Expression)} (hblank : isBlank queryText = false)
    (hparsed : sqlglot.parse queryText dialect = .ok parsed)
    (hseveral : 2 ≤ (nonNullStatements parsed).length) :
    validate sqlglot dialect registry (.str queryText) = .ok (rejectWith .multiStatement) := by
  simp only [validate, hblank, hparsed]
  cases hstatements : nonNullStatements parsed with
  | nil =>
    rw [hstatements] at hseveral
    cases hseveral
  | cons statement rest =>
    cases rest with
    | nil =>
      rw [hstatements] at hseveral
      exact absurd hseveral (by simp)
    | cons second rest => rfl

/-- The redacted query has the statement in it, rendered with each literal replaced under a number
of its own. -/
def Shows (sqlglot : Sqlglot) (redactedQuery : String) (statement : Expression) : Prop :=
  ∃ (number : Address → Nat) (part : String),
    Set.InjOn number {address | address ∈ statement.literalAddresses} ∧
      sqlglot.sql (numbered statement number) dialect = .ok part ∧
      part.toList <:+: redactedQuery.toList

theorem exists_statement_of_not_startsEmpty {sqlglot : Sqlglot} {queryText : Text}
    {parsed : List (Option Expression)} (hparsed : sqlglot.parse queryText dialect = .ok parsed)
    (hseveral : 2 ≤ (nonNullStatements parsed).length)
    (h : ¬ sqlglot.StartsEmpty queryText dialect) :
    ∃ statement rest, parsed = some statement :: rest ∧ rest ≠ [] := by
  cases parsed with
  | nil => cases hseveral
  | cons first rest =>
    cases first with
    | none => exact absurd ⟨rest, hparsed⟩ h
    | some statement =>
      refine ⟨statement, rest, rfl, ?_⟩
      rintro rfl
      exact absurd hseveral (by simp [nonNullStatements])

theorem exists_scrub_of_several {sqlglot : Sqlglot} (hblocks : ReadsBlocks sqlglot)
    {queryText : Text} {statement : Expression} {rest : List (Option Expression)}
    (hparsed : sqlglot.parse queryText dialect = .ok (some statement :: rest)) (hrest : rest ≠ []) :
    ∃ redactedQuery, scrub sqlglot dialect (.str queryText) = .ok redactedQuery ∧
      ∀ s ∈ statement :: nonNullStatements rest, Shows sqlglot redactedQuery s := by
  obtain ⟨redactedQuery, hrendered⟩ :=
    hblocks.renders (redacted (block (statement :: nonNullStatements rest)))
  refine ⟨redactedQuery, by simp [scrub, hblocks.parseOne hparsed hrest, hrendered], ?_⟩
  intro s hs
  obtain ⟨i, hi⟩ := List.mem_iff_getElem?.mp hs
  obtain ⟨part, hpart⟩ := hblocks.renders
    (numbered s (numberIn (statement :: nonNullStatements rest) i))
  rw [redacted_block] at hrendered
  refine ⟨_, part, numberIn_injOn hi, hpart, hblocks.rendersAll hrendered _ ?_ part hpart⟩
  apply List.mem_of_getElem? (i := i)
  rw [List.getElem?_mapIdx, hi, Option.map_some]

theorem everyStatementVisible_iff {σ : Type} {sqlglot : Sqlglot} (hblocks : ReadsBlocks sqlglot)
    (hblank : ∀ text, isBlank text = true → sqlglot.statements text dialect = [])
    {queryText : Text} {parsed : List (Option Expression)}
    (hparsed : sqlglot.parse queryText dialect = .ok parsed)
    (hseveral : 2 ≤ (nonNullStatements parsed).length) (registry : RuleRegistry)
    (psycopg : Psycopg σ) (queryTimeoutMs maxResults : Nat) (clock : ClockReadings)
    (maxSampleRows : Nat) (requestId : String) (w : World σ) :
    ∃ entry, (execute (accessGuard sqlglot registry psycopg queryTimeoutMs maxResults) clock
          maxSampleRows (.str queryText) requestId w).2.recorded = w.recorded ++ [entry] ∧
      entry.decision = .rejected ∧
      entry.rejectionCode = some SqlRejectionCode.multiStatement.value ∧
      ((∀ statement ∈ nonNullStatements parsed, Shows sqlglot entry.redactedQuery statement) ↔
        ¬ sqlglot.StartsEmpty queryText dialect ∨
          ∀ statement ∈ nonNullStatements parsed, Shows sqlglot unparseableMarker statement) := by
  have hnotBlank : isBlank queryText = false := by
    by_contra h
    have hnone := hblank queryText (by simpa using h)
    rw [Sqlglot.statements, hparsed] at hnone
    have hnone : nonNullStatements parsed = [] := hnone
    rw [hnone] at hseveral
    cases hseveral
  have hvalidate : validate sqlglot dialect registry (.str queryText) =
    .ok (rejectWith .multiStatement) := validate_of_several hnotBlank hparsed hseveral
  obtain ⟨redactedQuery, hscrub, hshows⟩ : ∃ redactedQuery,
      scrub sqlglot dialect (.str queryText) = .ok redactedQuery ∧
        ((∀ statement ∈ nonNullStatements parsed, Shows sqlglot redactedQuery statement) ↔
          ¬ sqlglot.StartsEmpty queryText dialect ∨
            ∀ statement ∈ nonNullStatements parsed, Shows sqlglot unparseableMarker statement) := by
    by_cases hempty : sqlglot.StartsEmpty queryText dialect
    · exact ⟨unparseableMarker, scrub_of_startsEmpty hempty, (or_iff_right (not_not_intro hempty)).symm⟩
    · obtain ⟨statement, rest, rfl, hrest⟩ :=
        exists_statement_of_not_startsEmpty hparsed hseveral hempty
      obtain ⟨redactedQuery, hscrub, hshows⟩ := exists_scrub_of_several hblocks hparsed hrest
      exact ⟨redactedQuery, hscrub, iff_of_true hshows (Or.inl hempty)⟩
  have hruns : Runs (accessGuard sqlglot registry psycopg queryTimeoutMs maxResults)
      (.str queryText) w.outer (.ok (redactedQuery, rejectWith .multiStatement, none)) w.outer :=
    runs_rejected hscrub hvalidate rfl
  refine ⟨rejectedEntry clock requestId redactedQuery (rejectWith .multiStatement), ?_, rfl, rfl,
    hshows⟩
  rw [execute_eq hruns]
  rfl

theorem infix_intercalate {α : Type} {separator part : List α} {parts : List (List α)}
    (h : part ∈ parts) : part <:+: separator.intercalate parts := by
  induction parts with
  | nil => cases h
  | cons first rest ih =>
    cases rest with
    | nil =>
      rw [List.intercalate_singleton, List.mem_singleton.mp h]
    | cons second rest =>
      rw [List.intercalate_cons_cons]
      rcases List.mem_cons.mp h with rfl | h
      · exact ⟨[], separator ++ separator.intercalate (second :: rest), by simp⟩
      · exact (ih h).trans (List.suffix_append (first ++ separator) _).isInfix

theorem readsBlocks_ofParser (parse : Text → Except PyException (List (Option Expression)))
    (render : Expression → String) : ReadsBlocks (.ofParser parse render) where
  parseOne {text statement rest} hparsed hrest := by
    have hparsed : parse text = .ok (some statement :: rest) := hparsed
    obtain ⟨second, rest, rfl⟩ := List.exists_cons_of_ne_nil hrest
    simp [Sqlglot.ofParser, hparsed]
  renders statement := ⟨_, rfl⟩
  rendersAll {statements text} htext statement hstatement part hpart := by
    cases htext
    cases hpart
    rw [renderBlocks_block, String.toList_intercalate]
    exact infix_intercalate (List.mem_map_of_mem (List.mem_map_of_mem hstatement))

def smuggled : List (String × List (Option Expression)) :=
  [("SELECT 1; DROP TABLE users", [some (selectConstants [(.number, "1")]), some dropUsers]),
    ("; SELECT 1; DROP TABLE users",
      [none, some (selectConstants [(.number, "1")]), some dropUsers])]

def smuggledSqlglot : Sqlglot :=
  .ofTable smuggled fun statement =>
    if statement.isA .drop then "DROP TABLE users" else "SELECT %(1)s"

theorem smuggledSqlglot_blank (text : Text) (h : isBlank text = true) :
    smuggledSqlglot.statements text dialect = [] :=
  Sqlglot.ofTable_blank (by decide) dialect text h

theorem everyStatementVisible_smuggled :
    ∃ entry, (execute (accessGuard smuggledSqlglot (.registerAll dialect ruleClasses)
          (answering [] []) 5000 100)
        ⟨"12:00", ⟨false, 3, [], none⟩⟩ 20 (.str "SELECT 1; DROP TABLE users") "id"
          ⟨(), []⟩).2.recorded = [entry] ∧
      Shows smuggledSqlglot entry.redactedQuery dropUsers := by
  have hparsed : smuggledSqlglot.parse "SELECT 1; DROP TABLE users" dialect =
    .ok [some (selectConstants [(.number, "1")]), some dropUsers] := rfl
  obtain ⟨entry, hentry, -, -, hshows⟩ := everyStatementVisible_iff (readsBlocks_ofParser _ _)
    smuggledSqlglot_blank hparsed (le_refl 2) (.registerAll dialect ruleClasses) (answering [] [])
    5000 100 ⟨"12:00", ⟨false, 3, [], none⟩⟩ 20 "id" ⟨(), []⟩
  refine ⟨entry, hentry, hshows.mpr (Or.inl ?_) _ (List.mem_cons_of_mem _ List.mem_cons_self)⟩
  rintro ⟨rest, hempty⟩
  cases hempty

/-- Behind an empty statement the log shows neither. -/
theorem not_everyStatementVisible :
    ¬ ∀ (sqlglot : Sqlglot), ReadsBlocks sqlglot →
      (∀ text, isBlank text = true → sqlglot.statements text dialect = []) →
      ∀ (queryText : Text) (parsed : List (Option Expression)),
      sqlglot.parse queryText dialect = .ok parsed → 2 ≤ (nonNullStatements parsed).length →
      ∀ entry, (execute (accessGuard sqlglot (.registerAll dialect ruleClasses) (answering [] [])
          5000 100) ⟨"12:00", ⟨false, 3, [], none⟩⟩ 20 (.str queryText) "id" ⟨(), []⟩).2.recorded =
            [entry] →
        ∀ statement ∈ nonNullStatements parsed, Shows sqlglot entry.redactedQuery statement := by
  intro h
  have hruns : Runs (accessGuard smuggledSqlglot (.registerAll dialect ruleClasses)
      (answering [] []) 5000 100) (.str "; SELECT 1; DROP TABLE users") ()
      (.ok (unparseableMarker, rejectWith .multiStatement, none)) () :=
    runs_rejected rfl rfl rfl
  obtain ⟨number, part, -, hpart, hinfix⟩ := h smuggledSqlglot (readsBlocks_ofParser _ _)
    smuggledSqlglot_blank "; SELECT 1; DROP TABLE users" _ rfl (le_refl 2) _
    (by rw [execute_eq hruns]; rfl) dropUsers (List.mem_cons_of_mem _ List.mem_cons_self)
  have hdrop : part = "DROP TABLE users" := (Except.ok.inj hpart).symm
  rw [hdrop] at hinfix
  exact absurd hinfix.length_le (by decide)

/-! A write with `RETURNING`: the rows are capped and the count is dropped -/

/-- What the database answers to a write of `k` rows: each of them if they are to be returned,
else how many there are. -/
inductive ReportsWrite (statement : Expression) (k : Nat) : DatabaseAnswer → Prop
  | returning {columnNames : List String} {rows : List (List Cell)} :
    statement.isAny mutationTypes = true → statement.hasArg (.named "returning") = true →
    rows.length = k → ReportsWrite statement k (.rows columnNames rows)
  | rowcount : statement.isAny mutationTypes = true →
    statement.hasArg (.named "returning") = false → ReportsWrite statement k (.rowcount k)

theorem ReportsWrite.isCommitted {statement : Expression} {k : Nat} {answer : DatabaseAnswer}
    (h : ReportsWrite statement k answer) : answer.isCommitted = true := by
  cases h with
  | returning => rfl
  | rowcount => rfl

def TellsChanged (entry : ObservabilityEntryDto) (k : Nat) : Prop :=
  entry.rowsAffected = some (k : Int) ∨
    entry.rowsReturned = some k ∧ entry.rowsWereTruncated = some false

theorem tellsChanged_allowedEntry_iff {statement : Expression} {k : Nat} {answer : DatabaseAnswer}
    (h : ReportsWrite statement k answer) (maxResults : Nat) (clock : ClockReadings)
    (maxSampleRows : Nat) (requestId redactedQuery : String) :
    TellsChanged (allowedEntry clock maxSampleRows requestId redactedQuery
        (outcomeOf maxResults answer)) k ↔
      statement.hasArg (.named "returning") = false ∨ k ≤ maxResults := by
  cases h with
  | rowcount _ hreturning => exact iff_of_true (Or.inl rfl) (Or.inl hreturning)
  | returning _ hreturning hlength =>
    simp only [TellsChanged, allowedEntry, outcomeOf, coerceRows, hreturning, reduceCtorEq,
      Bool.true_eq_false, false_or, List.length_map, List.length_take, hlength,
      Option.some.injEq, decide_eq_false_iff_not, Nat.not_lt]
    exact and_iff_right_of_imp Nat.min_eq_right

theorem tellsChanged_iff {σ : Type} {sqlglot : Sqlglot} {registry : RuleRegistry}
    {psycopg : Psycopg σ} {queryTimeoutMs maxResults : Nat} {queryText : Json.Text}
    {statement : Expression} (haccepts : Accepts sqlglot dialect registry (.str queryText))
    (_ : sqlglot.statements queryText dialect = [statement]) {w : World σ}
    {answer : DatabaseAnswer} {s' : σ}
    (hanswers : Answers psycopg queryTimeoutMs maxResults queryText w.outer answer s') {k : Nat}
    (hreports : ReportsWrite statement k answer) (clock : ClockReadings) (maxSampleRows : Nat)
    (requestId : String) :
    ∃ entry, (execute (accessGuard sqlglot registry psycopg queryTimeoutMs maxResults) clock
          maxSampleRows (.str queryText) requestId w).2.recorded = w.recorded ++ [entry] ∧
      (TellsChanged entry k ↔ statement.hasArg (.named "returning") = false ∨ k ≤ maxResults) := by
  obtain ⟨parsed, hparsed⟩ := parses_of_accepts haccepts
  obtain ⟨redactedQuery, hscrub⟩ := exists_scrub hparsed
  exact ⟨_, recorded_of_committed haccepts hscrub hanswers hreports.isCommitted clock maxSampleRows
    requestId, tellsChanged_allowedEntry_iff hreports _ _ _ _ _⟩

/-- `DELETE FROM orders WHERE user_id = 7 RETURNING id` -/
def deleteReturning : Expression :=
  .node .delete [] [(.this, table "orders"),
    (.whereClause, .node .whereClause []
      [(.this, .node .eq [] [(.this, column "user_id"), (.expression, .constant .number "7")])]),
    (.named "returning", .node (.other "Returning") [] [(.expressions, column "id")])]

def deleteReturningText : String := "DELETE FROM orders WHERE user_id = 7 RETURNING id"

theorem accepts_deleteReturning :
    Accepts (.ofTable [(deleteReturningText, [some deleteReturning])]) dialect
      (.registerAll dialect ruleClasses) (.str deleteReturningText) :=
  have hstatement : (Sqlglot.ofTable [(deleteReturningText, [some deleteReturning])]).statements
    deleteReturningText dialect = [deleteReturning] := rfl
  accepts_of_statements (List.Perm.refl _) hstatement (by decide) (by decide)

theorem reportsWrite_deleteReturning :
    ReportsWrite deleteReturning 2 (.rows ["id"] [[.int 3], [.int 5]]) := .returning rfl rfl rfl

theorem tellsChanged_deleteReturning :
    ∃ entry, (execute (accessGuard (.ofTable [(deleteReturningText, [some deleteReturning])])
          (.registerAll dialect ruleClasses) (answering ["id"] [[.int 3], [.int 5]]) 5000 2)
        ⟨"12:00", ⟨false, 3, [], none⟩⟩ 20 (.str deleteReturningText) "id" ⟨(), []⟩).2.recorded =
          [entry] ∧
      TellsChanged entry 2 := by
  have hanswers : Answers (answering ["id"] [[.int 3], [.int 5]]) 5000 2 deleteReturningText
      (World.mk () []).outer (.rows ["id"] [[.int 3], [.int 5]]) () :=
    answers_answering _ _ _ _ _
  obtain ⟨entry, hentry, htells⟩ := tellsChanged_iff accepts_deleteReturning rfl hanswers
    reportsWrite_deleteReturning ⟨"12:00", ⟨false, 3, [], none⟩⟩ 20 "id"
  exact ⟨entry, hentry, htells.mpr (Or.inr (le_refl 2))⟩

/-- Two rows are deleted, one of them is shown, and the entry could be that of any number. -/
theorem not_tellsChanged :
    ¬ ∀ (sqlglot : Sqlglot) (queryText : Json.Text) (statement : Expression) (psycopg : Psycopg Unit)
      (maxResults k : Nat) (answer : DatabaseAnswer),
      Accepts sqlglot dialect (.registerAll dialect ruleClasses) (.str queryText) →
      sqlglot.statements queryText dialect = [statement] → 1 ≤ maxResults →
      Answers psycopg 5000 maxResults queryText () answer () → ReportsWrite statement k answer →
      ∀ entry, (execute (accessGuard sqlglot (.registerAll dialect ruleClasses) psycopg 5000
          maxResults) ⟨"12:00", ⟨false, 3, [], none⟩⟩ 20 (.str queryText) "id" ⟨(), []⟩).2.recorded =
            [entry] → TellsChanged entry k := by
  intro h
  have hanswers : Answers (answering ["id"] [[.int 3], [.int 5]]) 5000 1 deleteReturningText
      (World.mk () []).outer (.rows ["id"] [[.int 3], [.int 5]]) () :=
    answers_answering _ _ _ _ _
  obtain ⟨parsed, hparsed⟩ := parses_of_accepts accepts_deleteReturning
  obtain ⟨redactedQuery, hscrub⟩ := exists_scrub hparsed
  have htells := h _ _ _ _ _ _ _ accepts_deleteReturning rfl (le_refl 1) hanswers
    reportsWrite_deleteReturning _
    (recorded_of_committed accepts_deleteReturning hscrub hanswers rfl _ _ _)
  rw [tellsChanged_allowedEntry_iff reportsWrite_deleteReturning] at htells
  revert htells
  decide

end SqlGateway.Postgres
