import SqlGateway.Library.PyText
import SqlGateway.Sql.RuleRegistry

namespace SqlGateway.Sql

open Json (Text)

inductive SqlRejectionCode
  | emptyQuery | parseError | multiStatement | rootNotAllowed | forbiddenConstruct
  | selectInto | dataModifyingCte | unboundedWrite | dangerousFunction | payloadTypeMismatch
  deriving DecidableEq

def SqlRejectionCode.value : SqlRejectionCode → String
  | .emptyQuery => "empty_query"
  | .parseError => "parse_error"
  | .multiStatement => "multi_statement"
  | .rootNotAllowed => "root_not_allowed"
  | .forbiddenConstruct => "forbidden_construct"
  | .selectInto => "select_into"
  | .dataModifyingCte => "data_modifying_cte"
  | .unboundedWrite => "unbounded_write"
  | .dangerousFunction => "dangerous_function"
  | .payloadTypeMismatch => "payload_type_mismatch"

/-- `ValidationResultDto.reject` with one of the codes above. -/
def rejectWith (code : SqlRejectionCode) (detail : Option Text := none) : ValidationResultDto :=
  .reject code.value detail

@[simp] theorem rejectWith_isAllowed (code : SqlRejectionCode) (detail : Option Text) :
    (rejectWith code detail).isAllowed = false := rfl

def maxRejectionDetailLength : Nat := 120

def compactFirstLine (message : Text) (limit : Nat := maxRejectionDetailLength) : Text :=
  let whitespaceCollapsed := PyText.joinWords (PyText.split (PyText.firstLine message))
  if whitespaceCollapsed.length ≤ limit then whitespaceCollapsed
  else whitespaceCollapsed.take (limit - 1) ++ "…"

/-- `not query_text or not query_text.strip()`. -/
def isBlank (text : Text) : Bool := (PyText.strip text).isEmpty

/-- The loop over the rules: the first one to reject wins. -/
def applyRules (rules : List RuleInstance) (statement : Expression) : ValidationResultDto :=
  match rules with
  | [] => .allow
  | rule :: rules =>
    let ruleResult := rule.cls.check statement
    if ruleResult.isAllowed then applyRules rules statement else ruleResult

/-- `SqlQueryValidator.validate`; that its `rules_for` call may fill the cache is a step of
the registry and not part of the result. -/
def validate (sqlglot : Sqlglot) (dialect : String) (registry : RuleRegistry) :
    QueryPayload → Except PyException ValidationResultDto
  | .str queryText =>
    if isBlank queryText then .ok (rejectWith .emptyQuery)
    else match sqlglot.parse queryText dialect with
      | .error (.sqlglotError message) =>
        .ok (rejectWith .parseError (some (compactFirstLine message)))
      | .error exception => .error exception
      | .ok parsedStatements =>
        match nonNullStatements parsedStatements with
        | [] => .ok (rejectWith .emptyQuery)
        | [rootStatement] => .ok (applyRules (registry.rulesFor dialect).1 rootStatement)
        | _ => .ok (rejectWith .multiStatement)
  | payload =>
    .ok (rejectWith .payloadTypeMismatch
      (some ↑s!"SQL adapter expects a string, got {payload.typeName}"))

theorem applyRules_isAllowed (rules : List RuleInstance) (statement : Expression) :
    (applyRules rules statement).isAllowed = true ↔
      ∀ cls ∈ rules.map RuleInstance.cls, (cls.check statement).isAllowed = true := by
  induction rules with
  | nil => simp [applyRules]
  | cons rule rules ih =>
    simp only [applyRules, List.map_cons, List.forall_mem_cons, ← ih]
    split_ifs with h <;> simp [h]

/-- The validator returned a verdict on the payload and the verdict is to run it. -/
def Accepts (sqlglot : Sqlglot) (dialect : String) (registry : RuleRegistry)
    (payload : QueryPayload) : Prop :=
  ∃ verdict, validate sqlglot dialect registry payload = .ok verdict ∧ verdict.isAllowed = true

/-- An accepted payload is a text with one statement that every rule lets pass. -/
theorem accepts_iff (sqlglot : Sqlglot) (dialect : String) (registry : RuleRegistry)
    (queryText : Text) :
    Accepts sqlglot dialect registry (.str queryText) ↔
      isBlank queryText = false ∧ ∃ statement, sqlglot.statements queryText dialect = [statement] ∧
        ∀ cls ∈ (registry.rulesFor dialect).1.map RuleInstance.cls,
          (cls.check statement).isAllowed = true := by
  simp only [Accepts, validate, Sqlglot.statements]
  cases hblank : isBlank queryText with
  | true => simp
  | false =>
    cases hparse : sqlglot.parse queryText dialect with
    | error exception => cases exception <;> simp
    | ok parsed =>
      rcases hstatements : nonNullStatements parsed with _ | ⟨statement, _ | ⟨second, rest⟩⟩
      · simp [hstatements]
      · simp [hstatements, applyRules_isAllowed]
      · simp [hstatements]

/-! A parser that knows a few texts and a generator for lists of constants, to run the
gateway on concrete queries -/

def constantSql : Expression → String
  | .constant .string this | .constant .rawString this => "'" ++ this ++ "'"
  | .constant .number this => this
  | .constant .byteString this => "e'" ++ this ++ "'"
  | .constant .national this => "N'" ++ this ++ "'"
  | .constant .bitString this => "b'" ++ this ++ "'"
  | .constant .hexString this => "x'" ++ this ++ "'"
  | .node _ scalars _ =>
    match scalars with
    | (_, .str this) :: _ => "%(" ++ this ++ ")s"
    | _ => ""

def selectSql (statement : Expression) : String :=
  "SELECT " ++ ", ".intercalate (statement.args.map fun a => constantSql a.2)

def textTable (table : List (String × List (Option Expression))) :
    List (Text × List (Option Expression)) := table.map fun row => (row.1, row.2)

def Sqlglot.ofTable (table : List (String × List (Option Expression)))
    (render : Expression → String := selectSql) : Sqlglot :=
  .ofParser (fun text => match (textTable table).lookup text with
    | some parsed => .ok parsed
    | none =>
      if isBlank text then .ok [none] else .error (.sqlglotError "Invalid expression.")) render

theorem Sqlglot.ofTable_blank {table : List (String × List (Option Expression))}
    {render : Expression → String} (h : ∀ row ∈ table, isBlank row.1 = false) (dialect : String)
    (text : Text) (hblank : isBlank text) :
    (ofTable table render).statements text dialect = [] := by
  have hnone : (textTable table).lookup text = none := by
    rw [List.lookup_eq_none_iff]
    intro row hrow
    obtain ⟨row, hmem, rfl⟩ := List.mem_map.mp hrow
    by_contra heq
    have := h row hmem
    simp_all
  simp [statements, ofTable, ofParser, hnone, hblank, nonNullStatements]

theorem Sqlglot.mem_ofTable {table : List (String × List (Option Expression))}
    {render : Expression → String} {dialect : String} {text : Text} {statement : Expression}
    (h : statement ∈ (ofTable table render).statements text dialect) :
    ∃ row ∈ table, some statement ∈ row.2 := by
  cases hlookup : (textTable table).lookup text with
  | none =>
    cases hblank : isBlank text <;>
      simp [statements, ofTable, ofParser, hlookup, hblank, nonNullStatements] at h
  | some parsed =>
    simp only [statements, ofTable, ofParser, hlookup, nonNullStatements, List.mem_filterMap, id,
      exists_eq_right] at h
    obtain ⟨front, back, hsplit, -⟩ := List.lookup_eq_some_iff.mp hlookup
    have hrow : (text, parsed) ∈ textTable table := by simp [hsplit]
    obtain ⟨row, hmem, heq⟩ := List.mem_map.mp hrow
    cases heq
    exact ⟨row, hmem, h⟩

end SqlGateway.Sql
