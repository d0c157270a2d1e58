import SqlGateway.Postgres.Rules

namespace SqlGateway.Postgres

open Sql

/-! What an accepted statement is: no rule says all of this by itself -/

structure Bounded (statement : Expression) : Prop where
  root : statement.isAny [.select, .insert, .update, .delete] = true
  noForbidden : ∀ address node, statement.at? address = some node →
    node.isAny [.drop, .alter, .create, .truncateTable, .transaction, .commit, .rollback] = false
  oneWrite : (statement.findAll fun n => n.isAny [.insert, .update, .delete]).length ≤ 1
  writeAtRoot : ∀ address node, statement.at? address = some node →
    node.isAny [.insert, .update, .delete] = true → address = []
  boundedWrites : ∀ address node, statement.at? address = some node →
    node.isAny [.update, .delete] = true → node.argTruthy .whereClause = true

theorem length_le_one_of_eq {α β : Type} {l : List (α × β)} (hnodup : (l.map Prod.fst).Nodup)
    {a : α} (h : ∀ x ∈ l, x.1 = a) : l.length ≤ 1 := by
  have hreplicate : l.map Prod.fst = List.replicate (l.map Prod.fst).length a := by
    apply List.eq_replicate_of_mem
    intro b hb
    obtain ⟨x, hx, rfl⟩ := List.mem_map.mp hb
    exact h x hx
  rw [hreplicate, List.nodup_replicate] at hnodup
  simpa using hnodup

theorem isAny_of_subset {classes classes' : List ExprClass} (h : classes ⊆ classes')
    {e : Expression} (he : e.isAny classes = true) : e.isAny classes' = true := by
  simp only [Expression.isAny, List.any_eq_true] at he ⊢
  obtain ⟨cls, hcls, hisA⟩ := he
  exact ⟨cls, h hcls, hisA⟩

theorem MeetsRules.writeAtRoot {statement : Expression} (h : MeetsRules statement)
    {address : Address} {node : Expression} (hnode : statement.at? address = some node)
    (hwrite : node.isAny mutationTypes = true) : address = [] := by
  by_contra hne
  rw [h.noMutationBelow address node hnode hne] at hwrite
  cases hwrite

theorem MeetsRules.bounded {statement : Expression} (h : MeetsRules statement) :
    Bounded statement where
  root := h.allowedRoot
  noForbidden := h.noForbidden
  oneWrite := by
    apply length_le_one_of_eq ((statement.walk_nodup).sublist (List.filter_sublist.map _))
    intro a ha
    obtain ⟨hwalk, hwrite⟩ := List.mem_filter.mp ha
    exact h.writeAtRoot (Expression.at?_of_mem_walk hwalk) hwrite
  writeAtRoot _ _ := h.writeAtRoot
  boundedWrites address node hnode hwrite := by
    -- a write is the root, and of the root the `WHERE` rule knows
    have hroot := h.writeAtRoot hnode (isAny_of_subset (by simp [mutationTypes]) hwrite)
    subst hroot
    rw [Expression.at?_nil] at hnode
    cases hnode
    exact h.boundedRoot hwrite

theorem accepts_sound {order : List RuleClass} (horder : order.Perm ruleClasses)
    {sqlglot : Sqlglot}
    (hblank : ∀ text, isBlank text = true → sqlglot.statements text dialect = [])
    (queryText : Json.Text) :
    (Accepts sqlglot dialect (.registerAll dialect order) (.str queryText) →
        ∃ statement, sqlglot.statements queryText dialect = [statement] ∧ Bounded statement) ∧
      ∀ statement, sqlglot.statements queryText dialect = [statement] → MeetsRules statement →
        Accepts sqlglot dialect (.registerAll dialect order) (.str queryText) := by
  constructor
  · intro haccepts
    obtain ⟨-, statement, hstatement, hrules⟩ :=
      (accepts_registered_iff horder sqlglot queryText).mp haccepts
    exact ⟨statement, hstatement, hrules.bounded⟩
  · intro statement hstatement hrules
    refine (accepts_registered_iff horder sqlglot queryText).mpr ⟨?_, statement, hstatement, hrules⟩
    by_contra h
    rw [hblank queryText (by simpa using h)] at hstatement
    cases hstatement

def identifier (name : String) : Expression := .node .identifier [(.this, .str name)] []

def column (name : String) : Expression := .node .column [] [(.this, identifier name)]

def table (name : String) : Expression := .node .table [] [(.this, identifier name)]

def columnOf (tableName name : String) : Expression :=
  .node .column [] [(.this, identifier name), (.named "table", identifier tableName)]

/-- `DELETE FROM users WHERE id = 7` -/
def deleteById : Expression :=
  .node .delete [] [(.this, table "users"),
    (.whereClause, .node .whereClause []
      [(.this, .node .eq [] [(.this, column "id"), (.expression, .constant .number "7")])])]

theorem accepts_sound_deleteById :
    Accepts (.ofTable [("DELETE FROM users WHERE id = 7", [some deleteById])]) dialect
        (.registerAll dialect ruleClasses.reverse) (.str "DELETE FROM users WHERE id = 7") ∧
      ∃ statement, (Sqlglot.ofTable [("DELETE FROM users WHERE id = 7",
        [some deleteById])]).statements "DELETE FROM users WHERE id = 7" dialect = [statement] ∧
          Bounded statement := by
  have hblank : ∀ text, isBlank text = true →
      (Sqlglot.ofTable [("DELETE FROM users WHERE id = 7", [some deleteById])]).statements text
        dialect = [] :=
    fun text => Sqlglot.ofTable_blank (by decide) dialect text
  have haccepts := (accepts_sound (List.reverse_perm _) hblank "DELETE FROM users WHERE id = 7").2
    deleteById rfl ((meetsRules_iff _).mpr (by decide))
  exact ⟨haccepts, (accepts_sound (List.reverse_perm _) hblank _).1 haccepts⟩

/-! Writes below the root: the two denylists leave `MERGE` out -/

def NoWriteBelowRoot (statement : Expression) : Prop :=
  ∀ address node, statement.at? address = some node → address ≠ [] →
    node.isAny [.insert, .update, .delete, .merge] = false

theorem noWriteBelowRoot_iff {order : List RuleClass} (horder : order.Perm ruleClasses)
    {sqlglot : Sqlglot} {queryText : Json.Text} {statement : Expression}
    (haccepts : Accepts sqlglot dialect (.registerAll dialect order) (.str queryText))
    (hstatement : sqlglot.statements queryText dialect = [statement]) :
    NoWriteBelowRoot statement ↔
      ∀ address node, statement.at? address = some node → address ≠ [] →
        node.isA .merge = false := by
  have hrules := meetsRules_of_accepts horder haccepts hstatement
  constructor
  · intro h address node hnode hne
    have := h address node hnode hne
    simp only [Expression.isAny, List.any_cons, List.any_nil, Bool.or_eq_false_iff] at this
    exact this.2.2.2.1
  · intro h address node hnode hne
    have hmutation := hrules.noMutationBelow address node hnode hne
    simp only [mutationTypes, Expression.isAny, List.any_cons, List.any_nil,
      Bool.or_eq_false_iff] at hmutation ⊢
    exact ⟨hmutation.1, hmutation.2.1, hmutation.2.2.1, h address node hnode hne, trivial⟩

theorem accepts_deleteById :
    Accepts (.ofTable [("DELETE FROM users WHERE id = 7", [some deleteById])]) dialect
      (.registerAll dialect ruleClasses) (.str "DELETE FROM users WHERE id = 7") :=
  have hstatement : (Sqlglot.ofTable [("DELETE FROM users WHERE id = 7",
    [some deleteById])]).statements "DELETE FROM users WHERE id = 7" dialect = [deleteById] := rfl
  accepts_of_statements (List.Perm.refl _) hstatement (by decide) (by decide)

theorem noWriteBelowRoot_deleteById : NoWriteBelowRoot deleteById := by
  refine (noWriteBelowRoot_iff (List.Perm.refl _) accepts_deleteById rfl).mpr ?_
  intro address node hnode _
  have hwalk : ∀ a ∈ deleteById.walk, a.2.node.isA .merge = false := by decide
  obtain ⟨o, ho, rfl⟩ := Expression.exists_mem_walk hnode
  exact hwalk _ ho

/-- `WITH m AS (MERGE INTO t USING s ON t.id = s.id WHEN MATCHED THEN DELETE) SELECT 1` -/
def mergeInCte : Expression :=
  .node .select []
    [(.named "with_", .node .withClause []
      [(.expressions, .node .cte []
        [(.this, .node .merge []
          [(.this, table "t"), (.named "using", table "s"),
            (.named "on", .node .eq []
              [(.this, columnOf "t" "id"), (.expression, columnOf "s" "id")]),
            (.named "whens", .node (.other "Whens") []
              [(.expressions, .node (.other "When") [(.named "matched", .bool true)]
                [(.named "then", .node .var [(.this, .str "DELETE")] [])])])]),
          (.named "alias", .node (.other "TableAlias") [] [(.this, identifier "m")])])]),
      (.expressions, .constant .number "1")]

def mergeInCteText : String :=
  "WITH m AS (MERGE INTO t USING s ON t.id = s.id WHEN MATCHED THEN DELETE) SELECT 1"

/-- The gateway runs a `MERGE` that deletes. -/
theorem not_noWriteBelowRoot :
    ¬ ∀ (sqlglot : Sqlglot) (queryText : Json.Text) (statement : Expression),
      Accepts sqlglot dialect (.registerAll dialect ruleClasses) (.str queryText) →
      sqlglot.statements queryText dialect = [statement] → NoWriteBelowRoot statement := by
  intro h
  have hstatement : (Sqlglot.ofTable [(mergeInCteText, [some mergeInCte])]).statements
    mergeInCteText dialect = [mergeInCte] := rfl
  have haccepts := accepts_of_statements (List.Perm.refl _) hstatement (by decide) (by decide)
  have hmerge := h _ _ mergeInCte haccepts hstatement [0, 0, 0] _ rfl (by simp)
  cases hmerge

/-! `SELECT ... INTO` below the root: the rule against it looks at the root only -/

def NoSelectInto (statement : Expression) : Prop :=
  ∀ address node, statement.at? address = some node → node.isA .select = true →
    node.hasArg .into = false

theorem noSelectInto_iff {order : List RuleClass} (horder : order.Perm ruleClasses)
    {sqlglot : Sqlglot} {queryText : Json.Text} {statement : Expression}
    (haccepts : Accepts sqlglot dialect (.registerAll dialect order) (.str queryText))
    (hstatement : sqlglot.statements queryText dialect = [statement]) :
    NoSelectInto statement ↔
      ∀ address node, statement.at? address = some node → address ≠ [] →
        node.isA .select = true → node.hasArg .into = false := by
  have hrules := meetsRules_of_accepts horder haccepts hstatement
  constructor
  · intro h address node hnode _
    exact h address node hnode
  · intro h address node hnode hselect
    cases address with
    | nil =>
      rw [Expression.at?_nil] at hnode
      cases hnode
      exact hrules.noInto hselect
    | cons i address => exact h (i :: address) node hnode (List.cons_ne_nil _ _) hselect

/-- `SELECT * FROM (SELECT id FROM users) AS x` -/
def selectInSubquery : Expression :=
  .node .select []
    [(.expressions, .node .star [] []),
      (.named "from_", .node (.other "From") []
        [(.this, .node .subquery []
          [(.this, .node .select []
            [(.expressions, column "id"),
              (.named "from_", .node (.other "From") [] [(.this, table "users")])]),
            (.named "alias", .node (.other "TableAlias") [] [(.this, identifier "x")])])])]

def selectInSubqueryText : String := "SELECT * FROM (SELECT id FROM users) AS x"

theorem noSelectInto_selectInSubquery : NoSelectInto selectInSubquery := by
  have hstatement : (Sqlglot.ofTable [(selectInSubqueryText, [some selectInSubquery])]).statements
    selectInSubqueryText dialect = [selectInSubquery] := rfl
  have haccepts := accepts_of_statements (List.Perm.refl _) hstatement (by decide) (by decide)
  refine (noSelectInto_iff (List.Perm.refl _) haccepts hstatement).mpr ?_
  intro address node hnode _ hselect
  have hwalk : ∀ a ∈ selectInSubquery.walk, a.2.node.isA .select = true →
    a.2.node.hasArg .into = false := by decide
  obtain ⟨o, ho, rfl⟩ := Expression.exists_mem_walk hnode
  exact hwalk _ ho hselect

/-- `SELECT * FROM (SELECT id INTO stolen FROM users) AS x` -/
def intoInSubquery : Expression :=
  .node .select []
    [(.expressions, .node .star [] []),
      (.named "from_", .node (.other "From") []
        [(.this, .node .subquery []
          [(.this, .node .select []
            [(.expressions, column "id"), (.into, .node .into [] [(.this, table "stolen")]),
              (.named "from_", .node (.other "From") [] [(.this, table "users")])]),
            (.named "alias", .node (.other "TableAlias") [] [(.this, identifier "x")])])])]

def intoInSubqueryText : String := "SELECT * FROM (SELECT id INTO stolen FROM users) AS x"

theorem not_noSelectInto :
    ¬ ∀ (sqlglot : Sqlglot) (queryText : Json.Text) (statement : Expression),
      Accepts sqlglot dialect (.registerAll dialect ruleClasses) (.str queryText) →
      sqlglot.statements queryText dialect = [statement] → NoSelectInto statement := by
  intro h
  have hstatement : (Sqlglot.ofTable [(intoInSubqueryText, [some intoInSubquery])]).statements
    intoInSubqueryText dialect = [intoInSubquery] := rfl
  have haccepts := accepts_of_statements (List.Perm.refl _) hstatement (by decide) (by decide)
  have hinto := h _ _ intoInSubquery haccepts hstatement [1, 0, 0] _ rfl rfl
  cases hinto

end SqlGateway.Postgres
