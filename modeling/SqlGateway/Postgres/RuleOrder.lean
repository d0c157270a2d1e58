import Mathlib.Data.List.Pairwise
import SqlGateway.Postgres.Rules

namespace SqlGateway.Postgres

open Sql

def firstRejection (classes : List RuleClass) (statement : Expression) : ValidationResultDto :=
  ((classes.map fun cls => cls.check statement).find? fun verdict => !verdict.isAllowed).getD .allow

theorem applyRules_eq_firstRejection (rules : List RuleInstance) (statement : Expression) :
    applyRules rules statement = firstRejection (rules.map RuleInstance.cls) statement := by
  induction rules with
  | nil => rfl
  | cons rule rules ih =>
    rw [applyRules, ih]
    cases h : (rule.cls.check statement).isAllowed <;> simp [firstRejection, h]

theorem firstRejection_cons_of_rejects {cls : RuleClass} {statement : Expression}
    (h : (cls.check statement).isAllowed = false) (classes : List RuleClass) :
    firstRejection (cls :: classes) statement = cls.check statement := by
  simp [firstRejection, h]

theorem firstRejection_of_allowed {classes : List RuleClass} {statement : Expression}
    (h : ∀ cls ∈ classes, (cls.check statement).isAllowed = true) :
    firstRejection classes statement = .allow := by
  have hnone : (classes.map fun cls => cls.check statement).find?
      (fun verdict => !verdict.isAllowed) = none := by
    rw [List.find?_eq_none]
    intro verdict hverdict
    obtain ⟨cls, hcls, rfl⟩ := List.mem_map.mp hverdict
    simp [h cls hcls]
  rw [firstRejection, hnone]
  rfl

theorem exists_firstRejection {classes : List RuleClass} {cls : RuleClass} {statement : Expression}
    (hmem : cls ∈ classes) (h : (cls.check statement).isAllowed = false) :
    ∃ first ∈ classes, (first.check statement).isAllowed = false ∧
      firstRejection classes statement = first.check statement := by
  induction classes with
  | nil => cases hmem
  | cons head classes ih =>
    cases hhead : (head.check statement).isAllowed with
    | false =>
      exact ⟨head, List.mem_cons_self, hhead, firstRejection_cons_of_rejects hhead classes⟩
    | true =>
      have htail : cls ∈ classes := by
        cases hmem with
        | head =>
          rw [h] at hhead
          cases hhead
        | tail _ htail => exact htail
      obtain ⟨first, hfirst, hrejects, heq⟩ := ih htail
      refine ⟨first, List.mem_cons_of_mem _ hfirst, hrejects, ?_⟩
      rw [← heq]
      simp [firstRejection, hhead]

def ruleCodes : List (RuleClass × SqlRejectionCode) :=
  [(allowedRootStatementRule, .rootNotAllowed), (noForbiddenConstructsRule, .forbiddenConstruct),
    (noSelectIntoRule, .selectInto), (noDataModifyingCteRule, .dataModifyingCte),
    (noDangerousFunctionsRule, .dangerousFunction), (boundedWriteRule, .unboundedWrite)]

/-- A verdict that rejects has this code. -/
def RejectsWith (code : SqlRejectionCode) (verdict : ValidationResultDto) : Prop :=
  verdict.isAllowed = false → verdict.rejectionCode = some code.value

theorem rejectsWith_allow (code : SqlRejectionCode) : RejectsWith code .allow :=
  fun h => Bool.noConfusion h

theorem rejectsWith_rejectWith (code : SqlRejectionCode) (detail : Option Json.Text) :
    RejectsWith code (rejectWith code detail) := fun _ => rfl

theorem walkRule_induct {P : ValidationResultDto → Prop} (hallow : P .allow)
    {rejects : Address → Expression → Option ValidationResultDto}
    (h : ∀ address node, ∀ verdict ∈ rejects address node, P verdict) (statement : Expression) :
    P (walkRule rejects statement) := by
  unfold walkRule
  cases hfind : statement.walk.findSome? fun a => rejects a.1 a.2.node with
  | none => exact hallow
  | some verdict =>
    obtain ⟨⟨address, o⟩, -, hrejects⟩ := List.exists_of_findSome?_eq_some hfind
    exact h address o.node verdict hrejects

/-- What holds of every verdict that a rule gives: it lets pass, or it rejects with its own code and
a detail without lone surrogates. -/
theorem check_induct {P : SqlRejectionCode → ValidationResultDto → Prop}
    (hallow : ∀ code, P code .allow)
    (hreject : ∀ code (detail : Option String), P code (rejectWith code (detail.map .ofString))) :
    ∀ rule ∈ ruleCodes, ∀ statement, P rule.2 (rule.1.check statement) := by
  have hite {code : SqlRejectionCode} (detail : Option String) {p : Prop} [Decidable p]
      {verdict : ValidationResultDto}
      (h : verdict ∈ if p then some (rejectWith code (detail.map .ofString)) else none) :
      P code verdict := by
    rw [← Option.mem_some.mp (Option.mem_ite_none_right.mp h).2]
    exact hreject code detail
  simp only [ruleCodes, List.forall_mem_cons, List.not_mem_nil, false_imp_iff, implies_true,
    and_true]
  refine ⟨?_, ?_, ?_, ?_, ?_, ?_⟩
  · intro statement
    simp only [allowedRootStatementRule]
    split_ifs
    · exact hallow _
    · exact hreject _ (some statement.className)
  · intro statement
    simp only [noForbiddenConstructsRule]
    apply walkRule_induct (hallow _)
    intro address node verdict h
    exact hite (some node.className) h
  · intro statement
    simp only [noSelectIntoRule]
    split_ifs
    · exact hallow _
    · exact hreject _ none
    · exact hallow _
  · intro statement
    simp only [noDataModifyingCteRule]
    apply walkRule_induct (hallow _)
    intro address node verdict h
    exact hite none (Option.mem_ite_none_left.mp h).2
  · intro statement
    simp only [noDangerousFunctionsRule]
    apply walkRule_induct (hallow _)
    intro address node verdict h
    exact hite (some (functionName node)) (Option.mem_ite_none_left.mp h).2
  · intro statement
    simp only [boundedWriteRule]
    split_ifs
    · exact hallow _
    · exact hreject _ none
    · exact hallow _

theorem rejectsWith_ruleCodes :
    ∀ rule ∈ ruleCodes, ∀ statement, RejectsWith rule.2 (rule.1.check statement) :=
  check_induct rejectsWith_allow fun code _ => rejectsWith_rejectWith code _

theorem ruleClasses_pairwise_ne (statement : Expression) :
    ruleClasses.Pairwise fun first second =>
      (first.check statement).isAllowed = false → (second.check statement).isAllowed = false →
        first.check statement ≠ second.check statement := by
  have hcodes : (ruleCodes.map fun rule => rule.2.value).Nodup := by decide
  have hpairs : ruleCodes.Pairwise fun first second => first.2.value ≠ second.2.value :=
    List.pairwise_map.mp hcodes
  have hclasses : ruleClasses = ruleCodes.map Prod.fst := rfl
  rw [hclasses, List.pairwise_map]
  refine hpairs.imp_of_mem ?_
  intro first second hfirst hsecond hne hrejects hrejects' heq
  apply hne
  apply Option.some.inj
  calc some first.2.value
      = (first.1.check statement).rejectionCode :=
        (rejectsWith_ruleCodes first hfirst statement hrejects).symm
    _ = (second.1.check statement).rejectionCode := by rw [heq]
    _ = some second.2.value := rejectsWith_ruleCodes second hsecond statement hrejects'

def AtMostOneRejects (statement : Expression) : Prop :=
  ruleClasses.Pairwise fun first second =>
    (first.check statement).isAllowed = true ∨ (second.check statement).isAllowed = true

theorem eq_of_atMostOneRejects {statement : Expression} (h : AtMostOneRejects statement)
    {first second : RuleClass} (hfirst : first ∈ ruleClasses) (hsecond : second ∈ ruleClasses)
    (hrejects : (first.check statement).isAllowed = false)
    (hrejects' : (second.check statement).isAllowed = false) : first = second := by
  by_contra hne
  have hsymm : Std.Symm fun first second : RuleClass =>
      (first.check statement).isAllowed = true ∨ (second.check statement).isAllowed = true :=
    ⟨fun _ _ => Or.symm⟩
  have hpair := List.Pairwise.forall h hfirst hsecond hne
  rw [hrejects, hrejects'] at hpair
  cases hpair with
  | inl h => cases h
  | inr h => cases h

theorem firstRejection_perm {statement : Expression} (h : AtMostOneRejects statement)
    {order : List RuleClass} (horder : order.Perm ruleClasses) :
    firstRejection order statement = firstRejection ruleClasses statement := by
  by_cases hall : ∀ cls ∈ ruleClasses, (cls.check statement).isAllowed = true
  · rw [firstRejection_of_allowed hall, firstRejection_of_allowed]
    intro cls hcls
    exact hall cls (horder.mem_iff.mp hcls)
  · push Not at hall
    obtain ⟨cls, hcls, hrejects⟩ := hall
    have hrejects := Bool.eq_false_of_not_eq_true hrejects
    obtain ⟨first, hfirst, hrejects₁, heq₁⟩ := exists_firstRejection hcls hrejects
    obtain ⟨second, hsecond, hrejects₂, heq₂⟩ :=
      exists_firstRejection (horder.mem_iff.mpr hcls) hrejects
    rw [heq₁, heq₂]
    have heq := eq_of_atMostOneRejects h hfirst (horder.mem_iff.mp hsecond) hrejects₁ hrejects₂
    rw [heq]

theorem exists_order_cons {cls : RuleClass} (h : cls ∈ ruleClasses) :
    ∃ rest, (cls :: rest).Perm ruleClasses := by
  obtain ⟨before, after, heq⟩ := List.append_of_mem h
  refine ⟨before ++ after, ?_⟩
  rw [heq]
  exact List.perm_middle.symm

theorem atMostOneRejects_iff (statement : Expression) :
    AtMostOneRejects statement ↔
      ∀ order : List RuleClass, order.Perm ruleClasses →
        firstRejection order statement = firstRejection ruleClasses statement := by
  constructor
  · intro h order horder
    exact firstRejection_perm h horder
  · intro h
    refine (ruleClasses_pairwise_ne statement).imp_of_mem ?_
    intro first second hfirst hsecond hne
    by_contra hboth
    simp only [not_or, Bool.not_eq_true] at hboth
    obtain ⟨rest, hrest⟩ := exists_order_cons hfirst
    obtain ⟨rest', hrest'⟩ := exists_order_cons hsecond
    apply hne hboth.1 hboth.2
    calc first.check statement
        = firstRejection (first :: rest) statement :=
          (firstRejection_cons_of_rejects hboth.1 rest).symm
      _ = firstRejection (second :: rest') statement := by rw [h _ hrest, h _ hrest']
      _ = second.check statement := firstRejection_cons_of_rejects hboth.2 rest'

/-- Every order in which the rule modules were imported gives the text the same verdict. -/
def OrderIndependent (sqlglot : Sqlglot) (queryText : Json.Text) : Prop :=
  ∀ order₁ order₂ : List RuleClass, order₁.Perm ruleClasses → order₂.Perm ruleClasses →
    validate sqlglot dialect (.registerAll dialect order₁) (.str queryText) =
      validate sqlglot dialect (.registerAll dialect order₂) (.str queryText)

theorem applyRules_registered (order : List RuleClass) (statement : Expression) :
    applyRules ((RuleRegistry.registerAll dialect order).rulesFor dialect).1 statement =
      firstRejection order statement := by
  rw [applyRules_eq_firstRejection, RuleRegistry.registerAll_rulesFor (by decide)]

theorem validate_registered {sqlglot : Sqlglot} {queryText : Json.Text} {statement : Expression}
    (hblank : isBlank queryText = false)
    (hstatement : sqlglot.statements queryText dialect = [statement]) (order : List RuleClass) :
    validate sqlglot dialect (.registerAll dialect order) (.str queryText) =
      .ok (firstRejection order statement) := by
  rw [← applyRules_registered]
  unfold Sqlglot.statements at hstatement
  cases hparse : sqlglot.parse queryText dialect with
  | error exception => simp [hparse] at hstatement
  | ok parsed =>
    rw [hparse] at hstatement
    simp only at hstatement
    simp [validate, hblank, hparse, hstatement]

/-- The rules are only asked about a single statement. -/
theorem orderIndependent_of_not_single {sqlglot : Sqlglot} {queryText : Json.Text}
    (h : isBlank queryText = false → ∀ statement,
      sqlglot.statements queryText dialect ≠ [statement]) :
    OrderIndependent sqlglot queryText := by
  intro order₁ order₂ _ _
  simp only [validate]
  split_ifs with hblank
  · rfl
  · have hsingle := h (by simpa using hblank)
    unfold Sqlglot.statements at hsingle
    cases hparse : sqlglot.parse queryText dialect with
    | error exception => cases exception <;> rfl
    | ok parsed =>
      rw [hparse] at hsingle
      simp only at hsingle ⊢
      cases hstatements : nonNullStatements parsed with
      | nil => rfl
      | cons statement rest =>
        cases rest with
        | nil => exact absurd hstatements (hsingle statement)
        | cons second rest => rfl

theorem orderIndependent_iff (sqlglot : Sqlglot) (queryText : Json.Text) :
    OrderIndependent sqlglot queryText ↔
      ∀ statement, isBlank queryText = false →
        sqlglot.statements queryText dialect = [statement] → AtMostOneRejects statement := by
  constructor
  · intro h statement hblank hstatement
    apply (atMostOneRejects_iff statement).mpr
    intro order horder
    have heq := h order ruleClasses horder (List.Perm.refl _)
    rw [validate_registered hblank hstatement, validate_registered hblank hstatement] at heq
    exact Except.ok.inj heq
  · intro h
    by_cases hsingle : isBlank queryText = false ∧
        ∃ statement, sqlglot.statements queryText dialect = [statement]
    · obtain ⟨hblank, statement, hstatement⟩ := hsingle
      have hsame := (atMostOneRejects_iff statement).mp (h statement hblank hstatement)
      intro order₁ order₂ h₁ h₂
      rw [validate_registered hblank hstatement, validate_registered hblank hstatement,
        hsame order₁ h₁, hsame order₂ h₂]
    · apply orderIndependent_of_not_single
      intro hblank statement hstatement
      exact hsingle ⟨hblank, statement, hstatement⟩

def dropUsers : Expression := .node .drop [] []

/-- `DROP TABLE users` is no allowed root and a forbidden construct. -/
theorem not_orderIndependent : ¬ ∀ sqlglot queryText, OrderIndependent sqlglot queryText := by
  intro h
  have hswap : (noForbiddenConstructsRule :: allowedRootStatementRule ::
      ruleClasses.drop 2).Perm ruleClasses := List.Perm.swap _ _ _
  have heq := h (.ofTable [("DROP TABLE users", [some dropUsers])]) "DROP TABLE users"
    ruleClasses _ (List.Perm.refl _) hswap
  rw [validate_registered (by decide) (by rfl : _ = [dropUsers]),
    validate_registered (by decide) (by rfl : _ = [dropUsers])] at heq
  exact absurd (Except.ok.inj heq) (by decide)

end SqlGateway.Postgres
