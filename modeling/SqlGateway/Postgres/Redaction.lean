import SqlGateway.Postgres.Rules
import SqlGateway.Sql.Blocks

namespace SqlGateway.Postgres

open Sql

/-! The statement that is scrubbed and the statement that was validated -/

theorem parseOne_of_not_startsEmpty {sqlglot : Sqlglot} {text : Json.Text} {statement : Expression}
    (hstatement : sqlglot.statements text dialect = [statement])
    (h : ¬ sqlglot.StartsEmpty text dialect) :
    sqlglot.parseOne text dialect = .ok statement ∨
      sqlglot.parseOne text dialect = .ok (block [statement]) := by
  unfold Sqlglot.statements at hstatement
  cases hparse : sqlglot.parse text dialect with
  | error exception => simp [hparse] at hstatement
  | ok parsed =>
    cases parsed with
    | nil => simp [hparse, nonNullStatements] at hstatement
    | cons first rest =>
      cases first with
      | none => exact absurd ⟨rest, hparse⟩ h
      | some first =>
        rw [hparse] at hstatement
        change first :: nonNullStatements rest = [statement] at hstatement
        have hone := sqlglot.parseOne_of_some hparse
        rw [hstatement] at hone
        rwa [(List.cons.inj hstatement).1] at hone

section Scrubbed

variable {sqlglot : Sqlglot} {order : List RuleClass} (horder : order.Perm ruleClasses)
  {text : Json.Text} {statement : Expression}

theorem scrub_of_startsEmpty (h : sqlglot.StartsEmpty text dialect) :
    scrub sqlglot dialect (.str text) = .ok unparseableMarker := by
  obtain ⟨rest, hparse⟩ := h
  obtain ⟨message, hmessage⟩ := sqlglot.parseOne_of_empty hparse rfl
  simp [scrub, hmessage]

/-- For a text of one statement, it does not matter whether `parse_one` wraps it in a block. -/
theorem scrub_of_one (hstatement : sqlglot.statements text dialect = [statement])
    (hroot : statement.isLiteral = false) (h : ¬ sqlglot.StartsEmpty text dialect) :
    scrub sqlglot dialect (.str text) =
      match sqlglot.sql (redacted statement) dialect with
      | .ok rendered => .ok rendered
      | .error _ => .ok unparseableMarker := by
  cases hrendered : sqlglot.sql (redacted statement) dialect <;>
    rcases parseOne_of_not_startsEmpty hstatement h with hone | hone <;>
    simp [scrub, hone, hrendered, redacted_block_one hroot, sqlglot.sql_block]

theorem scrub_of_not_startsEmpty (hstatement : sqlglot.statements text dialect = [statement])
    (hroot : statement.isLiteral = false) (h : ¬ sqlglot.StartsEmpty text dialect)
    {rendered : String} (hrendered : sqlglot.sql (redacted statement) dialect = .ok rendered) :
    scrub sqlglot dialect (.str text) = .ok rendered := by
  rw [scrub_of_one hstatement hroot h, hrendered]

include horder

theorem isLiteral_of_accepts
    (haccepts : Accepts sqlglot dialect (.registerAll dialect order) (.str text))
    (hstatement : sqlglot.statements text dialect = [statement]) :
    statement.isLiteral = false := by
  have hrules := meetsRules_of_accepts horder haccepts hstatement
  cases statement with
  | constant form this => exact absurd hrules.allowedRoot (by simp [Expression.isAny, Expression.isA])
  | node cls scalars args => rfl

end Scrubbed

/-- The generator renders every redacted statement, and never as the marker. -/
def Renders (sqlglot : Sqlglot) : Prop :=
  ∀ text, ∀ statement ∈ sqlglot.statements text dialect,
    ∃ rendered, sqlglot.sql (redacted statement) dialect = .ok rendered ∧
      rendered ≠ unparseableMarker

theorem scrub_eq_sql_iff {sqlglot : Sqlglot} (hrenders : Renders sqlglot)
    {order : List RuleClass} (horder : order.Perm ruleClasses) {text : Json.Text}
    {statement : Expression}
    (haccepts : Accepts sqlglot dialect (.registerAll dialect order) (.str text))
    (hstatement : sqlglot.statements text dialect = [statement]) :
    (∃ rendered, sqlglot.sql (statement.substitute
          (redaction statement (collectSensitiveLiteralIds statement))) dialect = .ok rendered ∧
        rendered ≠ unparseableMarker ∧ scrub sqlglot dialect (.str text) = .ok rendered) ↔
      ¬ sqlglot.StartsEmpty text dialect := by
  rw [← replaceAllLiterals_eq (isLiteral_of_accepts horder haccepts hstatement)]
  constructor
  · rintro ⟨rendered, -, hne, hscrub⟩ hempty
    rw [scrub_of_startsEmpty hempty] at hscrub
    cases hscrub
    exact hne rfl
  · intro hempty
    obtain ⟨rendered, hrendered, hne⟩ := hrenders text statement (by simp [hstatement])
    exact ⟨rendered, hrendered, hne, scrub_of_not_startsEmpty hstatement
      (isLiteral_of_accepts horder haccepts hstatement) hempty hrendered⟩

/-- The generator also prints the content of the constants: of two redacted statements of one
shape, the text tells which constants each one holds. -/
structure PrintsContent (sqlglot : Sqlglot) : Prop where
  renders : Renders sqlglot
  content : ∀ text₁ text₂, ∀ s₁ ∈ sqlglot.statements text₁ dialect,
    ∀ s₂ ∈ sqlglot.statements text₂ dialect, s₁.eraseConstants = s₂.eraseConstants →
      sqlglot.sql (redacted s₁) dialect = sqlglot.sql (redacted s₂) dialect →
      redacted s₁ = redacted s₂

theorem scrub_eq_iff {sqlglot : Sqlglot} (hprints : PrintsContent sqlglot)
    {order : List RuleClass} (horder : order.Perm ruleClasses) {text₁ text₂ : Json.Text}
    {s₁ s₂ : Expression}
    (haccepts₁ : Accepts sqlglot dialect (.registerAll dialect order) (.str text₁))
    (haccepts₂ : Accepts sqlglot dialect (.registerAll dialect order) (.str text₂))
    (h₁ : sqlglot.statements text₁ dialect = [s₁]) (h₂ : sqlglot.statements text₂ dialect = [s₂])
    (hshape : s₁.eraseConstants = s₂.eraseConstants) :
    scrub sqlglot dialect (.str text₁) = scrub sqlglot dialect (.str text₂) ↔
      (sqlglot.StartsEmpty text₁ dialect ↔ sqlglot.StartsEmpty text₂ dialect) ∧
        (¬ sqlglot.StartsEmpty text₁ dialect → s₁.eraseLiterals = s₂.eraseLiterals ∧
          ∀ address ∈ s₁.literalAddresses,
            (AssignedSensitive s₁ address ↔ AssignedSensitive s₂ address)) := by
  have hroot₁ := isLiteral_of_accepts horder haccepts₁ h₁
  have hroot₂ := isLiteral_of_accepts horder haccepts₂ h₂
  obtain ⟨rendered₁, hr₁, hne₁⟩ := hprints.renders text₁ s₁ (by simp [h₁])
  obtain ⟨rendered₂, hr₂, hne₂⟩ := hprints.renders text₂ s₂ (by simp [h₂])
  by_cases he₁ : sqlglot.StartsEmpty text₁ dialect
  · rw [scrub_of_startsEmpty he₁]
    by_cases he₂ : sqlglot.StartsEmpty text₂ dialect
    · simp [scrub_of_startsEmpty he₂, he₁, he₂]
    · simp [scrub_of_not_startsEmpty h₂ hroot₂ he₂ hr₂, he₁, he₂, hne₂.symm]
  · rw [scrub_of_not_startsEmpty h₁ hroot₁ he₁ hr₁]
    by_cases he₂ : sqlglot.StartsEmpty text₂ dialect
    · simp [scrub_of_startsEmpty he₂, he₁, he₂, hne₁]
    · rw [scrub_of_not_startsEmpty h₂ hroot₂ he₂ hr₂]
      simp only [he₁, he₂, not_false_eq_true, true_imp_iff, true_and]
      rw [← redacted_eq_iff hshape hroot₁ hroot₂]
      constructor
      · intro h
        apply hprints.content text₁ text₂ s₁ (by simp [h₁]) s₂ (by simp [h₂]) hshape
        rw [hr₁, hr₂, h]
      · intro h
        rw [← hr₁, ← hr₂, h]

def selectConstants (constants : List (ConstantForm × String)) : Expression :=
  .node .select [] (constants.map fun c => (.expressions, .constant c.1 c.2))

def tableStatements (table : List (String × List (Option Expression))) : List Expression :=
  table.flatMap fun row => row.2.filterMap id

theorem mem_tableStatements {table : List (String × List (Option Expression))} {text : Json.Text}
    {s : Expression} (hs : s ∈ (Sqlglot.ofTable table).statements text dialect) :
    s ∈ tableStatements table := by
  obtain ⟨row, hrow, hs⟩ := Sqlglot.mem_ofTable hs
  exact List.mem_flatMap.mpr ⟨row, hrow, List.mem_filterMap.mpr ⟨some s, hs, rfl⟩⟩

theorem renders_ofTable {table : List (String × List (Option Expression))}
    (h : ∀ s ∈ tableStatements table, ∃ rendered,
      (Sqlglot.ofTable table).sql (redacted s) dialect = .ok rendered ∧
        rendered ≠ unparseableMarker) : Renders (.ofTable table) :=
  fun _ s hs => h s (mem_tableStatements hs)

theorem printsContent_ofTable {table : List (String × List (Option Expression))}
    (hrenders : Renders (.ofTable table))
    (h : ∀ s₁ ∈ tableStatements table, ∀ s₂ ∈ tableStatements table,
      (Sqlglot.ofTable table).sql (redacted s₁) dialect =
        (Sqlglot.ofTable table).sql (redacted s₂) dialect → redacted s₁ = redacted s₂) :
    PrintsContent (.ofTable table) where
  renders := hrenders
  content _ _ s₁ h₁ s₂ h₂ _ := h s₁ (mem_tableStatements h₁) s₂ (mem_tableStatements h₂)

def quotedSample (word number : String) : Expression :=
  selectConstants [(.string, word), (.number, number)]

def quotedSamples : List (String × List (Option Expression)) :=
  [("SELECT 'a', 1", [some (quotedSample "a" "1")]),
    ("SELECT 'b', 2;;", [some (quotedSample "b" "2"), none])]

theorem quotedSamples_renders : Renders (.ofTable quotedSamples) := by
  apply renders_ofTable
  refine List.forall_mem_cons.mpr ⟨⟨"SELECT %(1)s, %(2)s", rfl, by decide⟩, ?_⟩
  exact List.forall_mem_singleton.mpr ⟨"SELECT %(1)s, %(2)s", rfl, by decide⟩

theorem quotedSamples_printsContent : PrintsContent (.ofTable quotedSamples) := by
  apply printsContent_ofTable quotedSamples_renders
  have hsame : ∀ s ∈ tableStatements quotedSamples, redacted s = redacted (quotedSample "a" "1") :=
    List.forall_mem_cons.mpr ⟨rfl, List.forall_mem_singleton.mpr rfl⟩
  intro s₁ h₁ s₂ h₂ _
  rw [hsame s₁ h₁, hsame s₂ h₂]

theorem not_startsEmpty_quotedSamples :
    ¬ (Sqlglot.ofTable quotedSamples).StartsEmpty "SELECT 'b', 2;;" dialect := by
  rintro ⟨rest, h⟩
  cases h

theorem scrub_eq_quotedSamples :
    scrub (.ofTable quotedSamples) dialect (.str "SELECT 'a', 1") =
      scrub (.ofTable quotedSamples) dialect (.str "SELECT 'b', 2;;") := by
  have ha : (Sqlglot.ofTable quotedSamples).statements "SELECT 'a', 1" dialect =
    [quotedSample "a" "1"] := rfl
  have hb : (Sqlglot.ofTable quotedSamples).statements "SELECT 'b', 2;;" dialect =
    [quotedSample "b" "2"] := rfl
  refine (scrub_eq_iff quotedSamples_printsContent (List.Perm.refl ruleClasses)
    (accepts_of_statements (List.Perm.refl _) ha (by decide) (by decide))
    (accepts_of_statements (List.Perm.refl _) hb (by decide) (by decide)) ha hb rfl).mpr ⟨?_, ?_⟩
  · refine iff_of_false ?_ not_startsEmpty_quotedSamples
    rintro ⟨rest, h⟩
    cases h
  · intro _
    refine ⟨rfl, fun address _ => ?_⟩
    rw [← mem_collectSensitiveLiteralIds, ← mem_collectSensitiveLiteralIds]
    exact Iff.rfl

theorem scrub_eq_sql_quotedSamples :
    scrub (.ofTable quotedSamples) dialect (.str "SELECT 'b', 2;;") = .ok "SELECT %(1)s, %(2)s" := by
  have hb : (Sqlglot.ofTable quotedSamples).statements "SELECT 'b', 2;;" dialect =
    [quotedSample "b" "2"] := rfl
  obtain ⟨rendered, hrendered, -, hscrub⟩ := (scrub_eq_sql_iff quotedSamples_renders
    (List.Perm.refl ruleClasses)
    (accepts_of_statements (List.Perm.refl _) hb (by decide) (by decide)) hb).mpr
    not_startsEmpty_quotedSamples
  rw [hscrub, ← hrendered]
  rfl

def afterSemicolon : List (String × List (Option Expression)) :=
  [("; SELECT 1", [none, some (selectConstants [(.number, "1")])])]

theorem afterSemicolon_renders : Renders (.ofTable afterSemicolon) := by
  apply renders_ofTable
  exact List.forall_mem_singleton.mpr ⟨"SELECT %(1)s", rfl, by decide⟩

/-- A leading empty statement hides what runs. -/
theorem not_scrub_eq_sql :
    ¬ ∀ (sqlglot : Sqlglot), Renders sqlglot → ∀ (text : Json.Text) (statement : Expression),
      Accepts sqlglot dialect (.registerAll dialect ruleClasses) (.str text) →
      sqlglot.statements text dialect = [statement] →
      scrub sqlglot dialect (.str text) = sqlglot.sql (redacted statement) dialect ∧
        scrub sqlglot dialect (.str text) ≠ .ok unparseableMarker := by
  intro h
  have hstatement : (Sqlglot.ofTable afterSemicolon).statements "; SELECT 1" dialect =
    [selectConstants [(.number, "1")]] := rfl
  exact (h _ afterSemicolon_renders "; SELECT 1" _
    (accepts_of_statements (List.Perm.refl _) hstatement (by decide) (by decide)) hstatement).2 rfl

def escapeSample (word : String) : Expression := selectConstants [(.byteString, word)]

def escapeSamples : List (String × List (Option Expression)) :=
  [("SELECT E'a'", [some (escapeSample "a")]), ("SELECT E'b'", [some (escapeSample "b")])]

theorem escapeSamples_renders : Renders (.ofTable escapeSamples) := by
  apply renders_ofTable
  refine List.forall_mem_cons.mpr ⟨⟨"SELECT e'a'", rfl, by decide⟩, ?_⟩
  exact List.forall_mem_singleton.mpr ⟨"SELECT e'b'", rfl, by decide⟩

theorem escapeSamples_printsContent : PrintsContent (.ofTable escapeSamples) := by
  have hne : (Sqlglot.ofTable escapeSamples).sql (redacted (escapeSample "a")) dialect ≠
      (Sqlglot.ofTable escapeSamples).sql (redacted (escapeSample "b")) dialect := by
    intro h
    have htext : "SELECT e'a'" = "SELECT e'b'" := Except.ok.inj h
    exact absurd htext (by decide)
  apply printsContent_ofTable escapeSamples_renders
  refine List.forall_mem_cons.mpr ⟨?_, List.forall_mem_singleton.mpr ?_⟩
  · refine List.forall_mem_cons.mpr ⟨fun _ => rfl, List.forall_mem_singleton.mpr ?_⟩
    exact fun h => absurd h hne
  · refine List.forall_mem_cons.mpr ⟨fun h => absurd h.symm hne, List.forall_mem_singleton.mpr ?_⟩
    exact fun _ => rfl

/-- What an escape string holds stays in the redacted query. -/
theorem not_scrub_eq :
    ¬ ∀ (sqlglot : Sqlglot), PrintsContent sqlglot →
      ∀ (text₁ text₂ : Json.Text) (s₁ s₂ : Expression),
      Accepts sqlglot dialect (.registerAll dialect ruleClasses) (.str text₁) →
      Accepts sqlglot dialect (.registerAll dialect ruleClasses) (.str text₂) →
      sqlglot.statements text₁ dialect = [s₁] → sqlglot.statements text₂ dialect = [s₂] →
      s₁.eraseConstants = s₂.eraseConstants →
      scrub sqlglot dialect (.str text₁) = scrub sqlglot dialect (.str text₂) := by
  intro h
  have ha : (Sqlglot.ofTable escapeSamples).statements "SELECT E'a'" dialect =
    [escapeSample "a"] := rfl
  have hb : (Sqlglot.ofTable escapeSamples).statements "SELECT E'b'" dialect =
    [escapeSample "b"] := rfl
  have heq := h _ escapeSamples_printsContent "SELECT E'a'" "SELECT E'b'" _ _
    (accepts_of_statements (List.Perm.refl _) ha (by decide) (by decide))
    (accepts_of_statements (List.Perm.refl _) hb (by decide) (by decide)) ha hb rfl
  have heq : (Except.ok "SELECT e'a'" : Except PyException String) = .ok "SELECT e'b'" := heq
  exact absurd (Except.ok.inj heq) (by decide)

end SqlGateway.Postgres
