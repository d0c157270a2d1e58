import SqlGateway.Sql.QueryValidator

namespace SqlGateway.Postgres

open Sql

/-- A rule that loops over `statement.walk()` and answers with the first rejection. The
address `[]` is the one node that `is statement`. -/
def walkRule (rejects : Address → Expression → Option ValidationResultDto)
    (statement : Expression) : ValidationResultDto :=
  (statement.walk.findSome? fun a => rejects a.1 a.2.node).getD .allow

/-- What a node is rejected with, if it is, has one of the codes. -/
def IsRejection (rejection : Option ValidationResultDto) : Prop :=
  ∀ verdict ∈ rejection, ∃ code detail, verdict = rejectWith code detail

theorem isRejection_none : IsRejection none := by
  intro verdict h
  cases h

theorem isRejection_some (code : SqlRejectionCode) (detail : Option Json.Text) :
    IsRejection (some (rejectWith code detail)) := by
  intro verdict h
  exact ⟨code, detail, (Option.mem_some.mp h).symm⟩

theorem isRejection_ite {p : Prop} [Decidable p] {first second : Option ValidationResultDto}
    (hfirst : IsRejection first) (hsecond : IsRejection second) :
    IsRejection (if p then first else second) := by
  split_ifs
  · exact hfirst
  · exact hsecond

theorem walkRule_isAllowed {rejects : Address → Expression → Option ValidationResultDto}
    (h : ∀ address node, IsRejection (rejects address node)) (statement : Expression) :
    (walkRule rejects statement).isAllowed = true ↔
      ∀ address node, statement.at? address = some node → rejects address node = none := by
  unfold walkRule
  cases hfind : statement.walk.findSome? fun a => rejects a.1 a.2.node with
  | none =>
    rw [List.findSome?_eq_none_iff] at hfind
    refine iff_of_true rfl fun address node hnode => ?_
    obtain ⟨o, ho, rfl⟩ := Expression.exists_mem_walk hnode
    exact hfind _ ho
  | some verdict =>
    obtain ⟨⟨address, o⟩, ho, hrejects⟩ := List.exists_of_findSome?_eq_some hfind
    obtain ⟨code, detail, rfl⟩ := h address o.node verdict hrejects
    refine iff_of_false (by simp) fun hall => ?_
    rw [hall address o.node (Expression.at?_of_mem_walk ho)] at hrejects
    cases hrejects

def allowedRootTypes : List ExprClass := [.select, .insert, .update, .delete]

def allowedRootStatementRule : RuleClass where
  name := "AllowedRootStatementRule"
  check statement :=
    if statement.isAny allowedRootTypes then .allow
    else rejectWith .rootNotAllowed (some statement.className)

def forbiddenTypes : List ExprClass :=
  [.drop, .alter, .create, .truncateTable, .transaction, .commit, .rollback]

def noForbiddenConstructsRule : RuleClass where
  name := "NoForbiddenConstructsRule"
  check := walkRule fun _ node =>
    if node.isAny forbiddenTypes then
      some (rejectWith .forbiddenConstruct (some node.className))
    else none

def noSelectIntoRule : RuleClass where
  name := "NoSelectIntoRule"
  check statement :=
    if !statement.isA .select then .allow
    else if statement.hasArg .into then rejectWith .selectInto
    else .allow

def mutationTypes : List ExprClass := [.insert, .update, .delete]

def noDataModifyingCteRule : RuleClass where
  name := "NoDataModifyingCteRule"
  check := walkRule fun address node =>
    if address = [] then none
    else if node.isAny mutationTypes then some (rejectWith .dataModifyingCte)
    else none

def dangerousFunctionNames : List String :=
  ["pg_read_file", "pg_read_binary_file", "pg_write_file", "pg_ls_dir", "pg_stat_file",
    "pg_read_server_files", "pg_execute_server_program", "dblink", "dblink_exec",
    "dblink_connect", "dblink_send_query", "lo_import", "lo_export", "copy_from_program"]

def functionName (node : Expression) : String := .ofList (PyText.lower node.name.toList)

def noDangerousFunctionsRule : RuleClass where
  name := "NoDangerousFunctionsRule"
  check := walkRule fun _ node =>
    if !node.isFunc then none
    else if functionName node ∈ dangerousFunctionNames then
      some (rejectWith .dangerousFunction (some (functionName node)))
    else none

def writeTypes : List ExprClass := [.update, .delete]

def boundedWriteRule : RuleClass where
  name := "BoundedWriteRule"
  check statement :=
    if !statement.isAny writeTypes then .allow
    else if !statement.argTruthy .whereClause then rejectWith .unboundedWrite
    else .allow

def ruleClasses : List RuleClass :=
  [allowedRootStatementRule, noForbiddenConstructsRule, noSelectIntoRule,
    noDataModifyingCteRule, noDangerousFunctionsRule, boundedWriteRule]

def dialect : String := "postgres"

theorem allowedRootStatementRule_allows (statement : Expression) :
    (allowedRootStatementRule.check statement).isAllowed = true ↔
      statement.isAny allowedRootTypes = true := by
  simp only [allowedRootStatementRule]
  split_ifs with h <;> simp [h]

theorem noForbiddenConstructsRule_allows (statement : Expression) :
    (noForbiddenConstructsRule.check statement).isAllowed = true ↔
      ∀ address node, statement.at? address = some node →
        node.isAny forbiddenTypes = false := by
  simp only [noForbiddenConstructsRule]
  rw [walkRule_isAllowed fun _ _ => isRejection_ite (isRejection_some _ _) isRejection_none]
  simp

theorem noSelectIntoRule_allows (statement : Expression) :
    (noSelectIntoRule.check statement).isAllowed = true ↔
      (statement.isA .select = true → statement.hasArg .into = false) := by
  simp only [noSelectIntoRule]
  cases statement.isA .select <;> cases statement.hasArg .into <;> simp

theorem noDataModifyingCteRule_allows (statement : Expression) :
    (noDataModifyingCteRule.check statement).isAllowed = true ↔
      ∀ address node, statement.at? address = some node → address ≠ [] →
        node.isAny mutationTypes = false := by
  simp only [noDataModifyingCteRule]
  rw [walkRule_isAllowed fun _ _ =>
    isRejection_ite isRejection_none (isRejection_ite (isRejection_some _ _) isRejection_none)]
  simp

theorem noDangerousFunctionsRule_allows (statement : Expression) :
    (noDangerousFunctionsRule.check statement).isAllowed = true ↔
      ∀ address node, statement.at? address = some node → node.isFunc = true →
        functionName node ∉ dangerousFunctionNames := by
  simp only [noDangerousFunctionsRule]
  rw [walkRule_isAllowed fun _ _ =>
    isRejection_ite isRejection_none (isRejection_ite (isRejection_some _ _) isRejection_none)]
  simp

theorem boundedWriteRule_allows (statement : Expression) :
    (boundedWriteRule.check statement).isAllowed = true ↔
      (statement.isAny writeTypes = true → statement.argTruthy .whereClause = true) := by
  simp only [boundedWriteRule]
  cases statement.isAny writeTypes <;> cases statement.argTruthy .whereClause <;> simp

/-- The conditions of the six rules on one tree. -/
structure MeetsRules (statement : Expression) : Prop where
  allowedRoot : statement.isAny allowedRootTypes = true
  noForbidden : ∀ address node, statement.at? address = some node →
    node.isAny forbiddenTypes = false
  noInto : statement.isA .select = true → statement.hasArg .into = false
  noMutationBelow : ∀ address node, statement.at? address = some node → address ≠ [] →
    node.isAny mutationTypes = false
  noDangerous : ∀ address node, statement.at? address = some node → node.isFunc = true →
    functionName node ∉ dangerousFunctionNames
  boundedRoot : statement.isAny writeTypes = true → statement.argTruthy .whereClause = true

theorem meetsRules_iff (statement : Expression) :
    MeetsRules statement ↔
      ∀ cls ∈ ruleClasses, (cls.check statement).isAllowed = true := by
  simp only [ruleClasses, List.forall_mem_cons, List.not_mem_nil, false_imp_iff, implies_true,
    and_true, allowedRootStatementRule_allows, noForbiddenConstructsRule_allows,
    noSelectIntoRule_allows, noDataModifyingCteRule_allows, noDangerousFunctionsRule_allows,
    boundedWriteRule_allows]
  constructor
  · rintro ⟨h₁, h₂, h₃, h₄, h₅, h₆⟩
    exact ⟨h₁, h₂, h₃, h₄, h₅, h₆⟩
  · rintro ⟨h₁, h₂, h₃, h₄, h₅, h₆⟩
    exact ⟨h₁, h₂, h₃, h₄, h₅, h₆⟩

section Registered

variable {order : List RuleClass} (horder : order.Perm ruleClasses)
include horder

/-- The validator with the six rules registered in any order is their conjunction. -/
theorem accepts_registered_iff (sqlglot : Sqlglot) (queryText : Json.Text) :
    Accepts sqlglot dialect (.registerAll dialect order) (.str queryText) ↔
      isBlank queryText = false ∧
        ∃ statement, sqlglot.statements queryText dialect = [statement] ∧
          MeetsRules statement := by
  rw [accepts_iff, RuleRegistry.registerAll_rulesFor (by decide)]
  simp only [meetsRules_iff, horder.mem_iff]

theorem meetsRules_of_accepts {sqlglot : Sqlglot} {queryText : Json.Text} {statement : Expression}
    (haccepts : Accepts sqlglot dialect (.registerAll dialect order) (.str queryText))
    (hstatement : sqlglot.statements queryText dialect = [statement]) : MeetsRules statement := by
  obtain ⟨-, statement', hstatement', hrules⟩ :=
    (accepts_registered_iff horder sqlglot queryText).mp haccepts
  rw [hstatement] at hstatement'
  cases hstatement'
  exact hrules

theorem accepts_of_statements {sqlglot : Sqlglot} {queryText : Json.Text} {statement : Expression}
    (hstatement : sqlglot.statements queryText dialect = [statement])
    (hblank : isBlank queryText = false)
    (hrules : ∀ cls ∈ ruleClasses, (cls.check statement).isAllowed = true) :
    Accepts sqlglot dialect (.registerAll dialect order) (.str queryText) :=
  (accepts_registered_iff horder sqlglot queryText).mpr
    ⟨hblank, statement, hstatement, (meetsRules_iff statement).mpr hrules⟩

end Registered

/-- A function that sqlglot has no class for is an `exp.Anonymous` with the function's name. -/
def IsDangerousCall (node : Expression) : Prop :=
  node.isA .anonymous = true ∧ functionName node ∈ dangerousFunctionNames

/-- A call of a function that sqlglot has a class for, or a cast. -/
def isKnownFunc (node : Expression) : Bool := node.isFunc && !node.isA .anonymous

/-- The text of the first argument, for a cast the name of what is cast. -/
def operandText (node : Expression) : String :=
  if node.isA .cast then ((node.arg? .this).map Expression.name).getD "" else node.text .this

def operandName (node : Expression) : String := .ofList (PyText.lower (operandText node).toList)

theorem nameUnder_eq (key : ArgKey) (args : List (ArgKey × Expression)) :
    Expression.nameUnder key args =
      ((args.find? fun a => a.1 = key).map fun a => a.2.name).getD "" := by
  induction args with
  | nil => rfl
  | cons a args ih =>
    obtain ⟨key', e⟩ := a
    rw [Expression.nameUnder, List.find?_cons]
    by_cases h : key' = key
    · simp [h, Expression.nameOfArg]
    · simp [h, ih]

theorem name_eq_operandText {node : Expression} (h : isKnownFunc node = true) :
    node.name = operandText node := by
  cases node with
  | constant form this => cases h
  | node cls scalars args =>
    cases cls with
    | cast =>
      rw [Expression.name, nameUnder_eq]
      simp [operandText, Expression.isA, Expression.arg?, Expression.args, Option.map_map,
        Function.comp_def]
    | func name => rfl
    | _ => cases h

theorem functionName_eq_operandName {node : Expression} (h : isKnownFunc node = true) :
    functionName node = operandName node := by
  rw [functionName, operandName, name_eq_operandText h]

theorem isFunc_iff (node : Expression) :
    node.isFunc = true ↔ node.isA .anonymous = true ∨ isKnownFunc node = true := by
  cases node with
  | constant form this => simp [Expression.isFunc, Expression.isA, isKnownFunc]
  | node cls scalars args =>
    cases hanonymous : (Expression.node cls scalars args).isA .anonymous with
    | false => simp [isKnownFunc, hanonymous]
    | true =>
      have hcls : cls = .anonymous := of_decide_eq_true hanonymous
      simp [hcls, Expression.isFunc, ExprClass.isFunc]

/-- The rule also rejects a known function for what stands in its first argument. -/
theorem noDangerousFunctionsRule_rejects (statement : Expression) :
    (noDangerousFunctionsRule.check statement).isAllowed = false ↔
      (∃ address node, statement.at? address = some node ∧ IsDangerousCall node) ∨
        ∃ address node, statement.at? address = some node ∧ isKnownFunc node = true ∧
          operandName node ∈ dangerousFunctionNames := by
  rw [← Bool.not_eq_true, noDangerousFunctionsRule_allows]
  constructor
  · intro h
    push Not at h
    obtain ⟨address, node, hat, hfunc, hname⟩ := h
    cases (isFunc_iff node).mp hfunc with
    | inl hanonymous => exact Or.inl ⟨address, node, hat, hanonymous, hname⟩
    | inr hknown =>
      rw [functionName_eq_operandName hknown] at hname
      exact Or.inr ⟨address, node, hat, hknown, hname⟩
  · rintro (⟨address, node, hat, hanonymous, hname⟩ | ⟨address, node, hat, hknown, hname⟩) h
    · exact h address node hat ((isFunc_iff node).mpr (Or.inl hanonymous)) hname
    · rw [← functionName_eq_operandName hknown] at hname
      exact h address node hat ((isFunc_iff node).mpr (Or.inr hknown)) hname

theorem noDangerousFunctionsRule_exact_iff (statement : Expression) :
    ((noDangerousFunctionsRule.check statement).isAllowed = false ↔
        ∃ address node, statement.at? address = some node ∧ IsDangerousCall node) ↔
      (∃ address node, statement.at? address = some node ∧ IsDangerousCall node) ∨
        ∀ address node, statement.at? address = some node → isKnownFunc node = true →
          operandName node ∉ dangerousFunctionNames := by
  rw [noDangerousFunctionsRule_rejects]
  constructor
  · intro h
    by_cases hcall : ∃ address node, statement.at? address = some node ∧ IsDangerousCall node
    · exact Or.inl hcall
    · refine Or.inr fun address node hat hknown hname => ?_
      exact hcall (h.mp (Or.inr ⟨address, node, hat, hknown, hname⟩))
  · rintro (hcall | hknown)
    · exact iff_of_true (Or.inl hcall) hcall
    · constructor
      · rintro (hcall | ⟨address, node, hat, hfunc, hname⟩)
        · exact hcall
        · exact absurd hname (hknown address node hat hfunc)
      · exact Or.inl

/-- `SELECT UPPER('dblink')`. -/
def selectUpper : Expression :=
  .node .select [] [(.expressions, .node (.func "Upper") [] [(.this, .constant .string "dblink")])]

theorem not_noDangerousFunctionsRule_exact :
    ¬ ∀ statement, (noDangerousFunctionsRule.check statement).isAllowed = false ↔
      ∃ address node, statement.at? address = some node ∧ IsDangerousCall node := by
  intro h
  obtain ⟨address, node, hat, hanonymous, -⟩ := (h selectUpper).mp (by decide)
  obtain ⟨o, ho, rfl⟩ := Expression.exists_mem_walk hat
  have hnone : ∀ a ∈ selectUpper.walk, a.2.node.isA .anonymous = false := by decide
  rw [hnone _ ho] at hanonymous
  cases hanonymous

end SqlGateway.Postgres
