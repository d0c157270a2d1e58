import SqlGateway.Library.Padding
import SqlGateway.Postgres.Redaction
import SqlGateway.Postgres.RuleOrder

namespace SqlGateway.Postgres

open Sql Padding

/-- `None` for an empty statement, a `Semicolon` node for one that is a comment. -/
def HoldsNoSql (fragment : Option Expression) : Prop :=
  ∀ node ∈ fragment, node.isA .semicolon = true

def realStatement (fragment : Option Expression) : Option Expression :=
  fragment.filter fun statement => !statement.isA .semicolon

def realStatements (parsedStatements : List (Option Expression)) : List Expression :=
  parsedStatements.filterMap realStatement

theorem realStatement_of_holdsNoSql {fragment : Option Expression} (h : HoldsNoSql fragment) :
    realStatement fragment = none := by
  cases fragment with
  | none => rfl
  | some node => simp [realStatement, Option.filter, h node rfl]

theorem realStatements_eq_filter (parsedStatements : List (Option Expression)) :
    realStatements parsedStatements =
      (nonNullStatements parsedStatements).filter fun statement => !statement.isA .semicolon := by
  induction parsedStatements with
  | nil => rfl
  | cons fragment parsedStatements ih =>
    cases fragment with
    | none => exact ih
    | some statement =>
      unfold realStatements nonNullStatements at ih ⊢
      cases h : statement.isA .semicolon <;>
        simp [realStatement, Option.filter, h, ih]

theorem realStatements_of_pads {parsed padded : List (Option Expression)}
    (h : Pads HoldsNoSql parsed padded) : realStatements padded = realStatements parsed :=
  h.filterMap_eq fun _ => realStatement_of_holdsNoSql

theorem length_realStatements_le (parsedStatements : List (Option Expression)) :
    (realStatements parsedStatements).length ≤ (nonNullStatements parsedStatements).length := by
  rw [realStatements_eq_filter]
  exact List.length_filter_le _ _

def NoSemicolonNode (parsedStatements : List (Option Expression)) : Prop :=
  ∀ statement ∈ nonNullStatements parsedStatements, statement.isA .semicolon = false

theorem noSemicolonNode_iff (parsedStatements : List (Option Expression)) :
    NoSemicolonNode parsedStatements ↔
      (realStatements parsedStatements).length = (nonNullStatements parsedStatements).length := by
  rw [realStatements_eq_filter, List.length_filter_eq_length_iff]
  simp [NoSemicolonNode]

theorem NoSemicolonNode.of_pads {parsed padded : List (Option Expression)}
    (hpadded : NoSemicolonNode padded) (h : Pads HoldsNoSql parsed padded) :
    NoSemicolonNode parsed := by
  intro statement hstatement
  exact hpadded statement ((h.sublist.filterMap id).subset hstatement)

theorem NoSemicolonNode.nonNullStatements_eq {parsed : List (Option Expression)}
    (h : NoSemicolonNode parsed) : nonNullStatements parsed = realStatements parsed := by
  rw [realStatements_eq_filter, List.filter_eq_self.mpr]
  intro statement hstatement
  rw [h statement hstatement]
  rfl

def verdictOf (order : List RuleClass) : List Expression → ValidationResultDto
  | [] => rejectWith .emptyQuery
  | [statement] => firstRejection order statement
  | _ => rejectWith .multiStatement

theorem validate_parsed {sqlglot : Sqlglot}
    (hblank : ∀ text, isBlank text = true → sqlglot.statements text dialect = [])
    {queryText : Json.Text} {parsed : List (Option Expression)}
    (hparsed : sqlglot.parse queryText dialect = .ok parsed) (order : List RuleClass) :
    validate sqlglot dialect (.registerAll dialect order) (.str queryText) =
      .ok (verdictOf order (nonNullStatements parsed)) := by
  have hstatements : sqlglot.statements queryText dialect = nonNullStatements parsed := by
    rw [Sqlglot.statements, hparsed]
  cases h : isBlank queryText with
  | true =>
    rw [hblank queryText h] at hstatements
    rw [← hstatements]
    simp [validate, h, verdictOf]
  | false =>
    simp only [validate, h, hparsed, applyRules_registered]
    cases nonNullStatements parsed with
    | nil => rfl
    | cons statement rest => cases rest <;> rfl

theorem firstRejection_ne {order : List RuleClass} (horder : order.Perm ruleClasses)
    {code : SqlRejectionCode} (hcode : ∀ rule ∈ ruleCodes, rule.2.value ≠ code.value)
    (statement : Expression) : firstRejection order statement ≠ rejectWith code := by
  intro heq
  by_cases hall : ∀ cls ∈ order, (cls.check statement).isAllowed = true
  · rw [firstRejection_of_allowed hall] at heq
    cases heq
  · push Not at hall
    obtain ⟨cls, hcls, hrejects⟩ := hall
    obtain ⟨first, hfirst, hrejects', hverdict⟩ :=
      exists_firstRejection hcls (Bool.eq_false_of_not_eq_true hrejects)
    have hmem : first ∈ ruleCodes.map Prod.fst := horder.mem_iff.mp hfirst
    obtain ⟨rule, hrule, rfl⟩ := List.mem_map.mp hmem
    have hvalue := rejectsWith_ruleCodes rule hrule statement hrejects'
    rw [← hverdict, heq] at hvalue
    exact hcode rule hrule (Option.some.inj hvalue).symm

theorem emptyQuery_ne_multiStatement : rejectWith .emptyQuery ≠ rejectWith .multiStatement := by
  decide

section Verdict

variable {order : List RuleClass} (horder : order.Perm ruleClasses) (statements : List Expression)
include horder

theorem verdictOf_eq_multiStatement_iff :
    verdictOf order statements = rejectWith .multiStatement ↔ 2 ≤ statements.length := by
  cases statements with
  | nil => exact iff_of_false emptyQuery_ne_multiStatement (by simp)
  | cons statement rest =>
    cases rest with
    | nil => exact iff_of_false (firstRejection_ne horder (by decide) statement) (by simp)
    | cons second rest => exact iff_of_true rfl (by simp)

theorem verdictOf_eq_emptyQuery_iff :
    verdictOf order statements = rejectWith .emptyQuery ↔ statements = [] := by
  cases statements with
  | nil => exact iff_of_true rfl rfl
  | cons statement rest =>
    apply iff_of_false _ (List.cons_ne_nil _ _)
    cases rest with
    | nil => exact firstRejection_ne horder (by decide) statement
    | cons second rest => exact emptyQuery_ne_multiStatement.symm

end Verdict

/-- Inserting fragments without SQL leaves the verdict as it is, and the two verdicts about
the number of statements are about the real ones. -/
structure IgnoresFragments (sqlglot : Sqlglot) (order : List RuleClass)
    (queryText paddedText : Json.Text) (parsed : List (Option Expression)) : Prop where
  same : validate sqlglot dialect (.registerAll dialect order) (.str paddedText) =
    validate sqlglot dialect (.registerAll dialect order) (.str queryText)
  multiStatement : validate sqlglot dialect (.registerAll dialect order) (.str queryText) =
    .ok (rejectWith .multiStatement) ↔ 2 ≤ (realStatements parsed).length
  emptyQuery : validate sqlglot dialect (.registerAll dialect order) (.str queryText) =
    .ok (rejectWith .emptyQuery) ↔ realStatements parsed = []

section Padded

variable {order : List RuleClass} (horder : order.Perm ruleClasses)
  {parsed padded : List (Option Expression)} (hpads : Pads HoldsNoSql parsed padded)
include horder hpads

/-- With at most one real statement a comment is always noticed. -/
theorem noSemicolonNode_of_same
    (hsame : verdictOf order (nonNullStatements padded) = verdictOf order (nonNullStatements parsed))
    (hmulti : 2 ≤ (nonNullStatements parsed).length ↔ 2 ≤ (realStatements parsed).length)
    (hempty : nonNullStatements parsed = [] ↔ realStatements parsed = [])
    (hfew : ¬ 2 ≤ (realStatements parsed).length) : NoSemicolonNode padded := by
  have hle := length_realStatements_le padded
  have hfew' : ¬ 2 ≤ (nonNullStatements padded).length := by
    rw [← verdictOf_eq_multiStatement_iff horder, hsame, verdictOf_eq_multiStatement_iff horder,
      hmulti]
    exact hfew
  rw [noSemicolonNode_iff]
  rw [realStatements_of_pads hpads] at hle ⊢
  cases hreal : realStatements parsed with
  | nil =>
    have hnone : nonNullStatements padded = [] := by
      rw [← verdictOf_eq_emptyQuery_iff horder, hsame, verdictOf_eq_emptyQuery_iff horder]
      exact hempty.mpr hreal
    rw [hnone]
  | cons statement rest =>
    rw [hreal, List.length_cons] at hle
    rw [List.length_cons]
    omega

theorem verdictOf_padded (h : NoSemicolonNode padded ∨ 2 ≤ (realStatements parsed).length) :
    verdictOf order (nonNullStatements padded) = verdictOf order (nonNullStatements parsed) := by
  have hreal := realStatements_of_pads hpads
  cases h with
  | inl hnone =>
    rw [hnone.nonNullStatements_eq, (hnone.of_pads hpads).nonNullStatements_eq, hreal]
  | inr hmany =>
    have hparsed := hmany.trans (length_realStatements_le parsed)
    have hpadded : 2 ≤ (nonNullStatements padded).length := by
      rw [← hreal] at hmany
      exact hmany.trans (length_realStatements_le padded)
    rw [(verdictOf_eq_multiStatement_iff horder _).mpr hparsed,
      (verdictOf_eq_multiStatement_iff horder _).mpr hpadded]

end Padded

/-- The validator counts the real statements wherever no comment hides among fewer than two. -/
theorem counts_of_noSemicolonNode {parsed : List (Option Expression)}
    (h : NoSemicolonNode parsed ∨ 2 ≤ (realStatements parsed).length) :
    (2 ≤ (nonNullStatements parsed).length ↔ 2 ≤ (realStatements parsed).length) ∧
      (nonNullStatements parsed = [] ↔ realStatements parsed = []) := by
  cases h with
  | inl hnone => simp [hnone.nonNullStatements_eq]
  | inr hmany =>
    have hle := hmany.trans (length_realStatements_le parsed)
    have hreal : realStatements parsed ≠ [] := List.ne_nil_of_length_pos (by omega)
    have hparsed : nonNullStatements parsed ≠ [] := List.ne_nil_of_length_pos (by omega)
    exact ⟨iff_of_true hle hmany, iff_of_false hparsed hreal⟩

theorem ignoresFragments_iff {order : List RuleClass} (horder : order.Perm ruleClasses)
    {sqlglot : Sqlglot}
    (hblank : ∀ text, isBlank text = true → sqlglot.statements text dialect = [])
    {queryText paddedText : Json.Text} {parsed padded : List (Option Expression)}
    (hparsed : sqlglot.parse queryText dialect = .ok parsed)
    (hpadded : sqlglot.parse paddedText dialect = .ok padded)
    (hpads : Pads HoldsNoSql parsed padded) :
    IgnoresFragments sqlglot order queryText paddedText parsed ↔
      NoSemicolonNode padded ∨ 2 ≤ (realStatements parsed).length := by
  have hverdict := validate_parsed hblank hparsed order
  have hverdict' := validate_parsed hblank hpadded order
  constructor
  · intro ⟨hsame, hmulti, hempty⟩
    rw [hverdict, hverdict', Except.ok.injEq] at hsame
    rw [hverdict, Except.ok.injEq, verdictOf_eq_multiStatement_iff horder] at hmulti
    rw [hverdict, Except.ok.injEq, verdictOf_eq_emptyQuery_iff horder] at hempty
    by_cases hmany : 2 ≤ (realStatements parsed).length
    · exact Or.inr hmany
    · exact Or.inl (noSemicolonNode_of_same horder hpads hsame hmulti hempty hmany)
  · intro h
    obtain ⟨hmulti, hempty⟩ := counts_of_noSemicolonNode (h.imp_left fun hnone => hnone.of_pads hpads)
    constructor
    · rw [hverdict, hverdict', verdictOf_padded horder hpads h]
    · rw [hverdict, Except.ok.injEq, verdictOf_eq_multiStatement_iff horder]
      exact hmulti
    · rw [hverdict, Except.ok.injEq, verdictOf_eq_emptyQuery_iff horder]
      exact hempty

def selectOne : Expression := selectConstants [(.number, "1")]

/-- What sqlglot makes of one statement with empty ones and with a comment around it. -/
def paddedSamples : List (String × List (Option Expression)) :=
  [("SELECT 1", [some selectOne]), ("; SELECT 1;;", [none, some selectOne, none]),
    ("SELECT 1; -- done", [some selectOne, some (.node .semicolon [] [])])]

theorem paddedSamples_blank (text : Json.Text) (h : isBlank text = true) :
    (Sqlglot.ofTable paddedSamples).statements text dialect = [] :=
  Sqlglot.ofTable_blank (by decide) dialect text h

theorem ignoresFragments_paddedSamples :
    IgnoresFragments (.ofTable paddedSamples) ruleClasses "SELECT 1" "; SELECT 1;;"
      [some selectOne] := by
  have hpads : Pads HoldsNoSql [some selectOne] [none, some selectOne, none] :=
    .insert (fun _ h => nomatch h) (.keep (.insert (fun _ h => nomatch h) .nil))
  refine (ignoresFragments_iff (List.Perm.refl _) paddedSamples_blank rfl rfl hpads).mpr ?_
  refine Or.inl fun statement hstatement => ?_
  rw [List.mem_singleton.mp hstatement]
  rfl

/-- A comment after the last semicolon makes a second statement. -/
theorem not_ignoresFragments :
    ¬ ∀ (sqlglot : Sqlglot) (queryText paddedText : Json.Text)
      (parsed padded : List (Option Expression)),
      (∀ text, isBlank text = true → sqlglot.statements text dialect = []) →
      sqlglot.parse queryText dialect = .ok parsed →
      sqlglot.parse paddedText dialect = .ok padded → Pads HoldsNoSql parsed padded →
      IgnoresFragments sqlglot ruleClasses queryText paddedText parsed := by
  intro h
  have hpads : Pads HoldsNoSql [some selectOne] [some selectOne, some (.node .semicolon [] [])] :=
    .keep (.insert (fun node hnode => by cases hnode; rfl) .nil)
  have hsame := (h (.ofTable paddedSamples) "SELECT 1" "SELECT 1; -- done" _ _
    paddedSamples_blank rfl rfl hpads).same
  rw [validate_parsed paddedSamples_blank rfl, validate_parsed paddedSamples_blank rfl] at hsame
  exact absurd (congrArg ValidationResultDto.isAllowed (Except.ok.inj hsame)) (by decide)

end SqlGateway.Postgres
