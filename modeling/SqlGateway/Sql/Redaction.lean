import SqlGateway.Sql.Assignment
import SqlGateway.Sql.QueryValidator

namespace SqlGateway.Sql

/-! The rendered tree as one simultaneous replacement -/

def redaction (statement : Expression) (sensitiveLiteralIds : List Address) (address : Address)
    (form : ConstantForm) (this : String) : Expression :=
  if address ∈ statement.literalAddresses then
    replacementFor sensitiveLiteralIds address (statement.literalAddresses.idxOf address + 1)
  else .constant form this

theorem zipIdx_eq_map_idxOf {α : Type} [BEq α] [LawfulBEq α] {l : List α} (h : l.Nodup) (n : Nat) :
    l.zipIdx n = l.map fun a => (a, l.idxOf a + n) := by
  apply List.ext_getElem
  · simp
  · intro i hi hi'
    simp [h.idxOf_getElem, Nat.add_comm]

theorem replaceAllLiterals_eq {statement : Expression} (hroot : statement.isLiteral = false)
    (sensitiveLiteralIds : List Address) :
    replaceAllLiterals statement sensitiveLiteralIds =
      statement.substitute (redaction statement sensitiveLiteralIds) := by
  have hliteral : ∀ address ∈ statement.literalAddresses,
      ∃ form this, statement.at? address = some (.constant form this) := by
    intro address h
    obtain ⟨form, this, -, hat⟩ := Expression.mem_literalAddresses.mp h
    exact ⟨form, this, hat⟩
  have hne : ∀ address ∈ statement.literalAddresses, address ≠ [] := by
    rintro _ h rfl
    obtain ⟨form, this, hform, hat⟩ := Expression.mem_literalAddresses.mp h
    rw [Expression.at?_nil] at hat
    cases hat
    exact absurd hform (by simpa [Expression.isLiteral] using hroot)
  calc replaceAllLiterals statement sensitiveLiteralIds
      = statement.literalAddresses.foldl (fun tree address =>
          replace tree address (replacementFor sensitiveLiteralIds address
            (statement.literalAddresses.idxOf address + 1))) statement := by
        rw [replaceAllLiterals, zipIdx_eq_map_idxOf statement.literalAddresses_nodup,
          List.foldl_map]
    _ = statement.literalAddresses.foldl (fun tree address =>
          tree.replaceAt address (replacementFor sensitiveLiteralIds address
            (statement.literalAddresses.idxOf address + 1))) statement := by
        apply List.foldl_ext
        intro tree address h
        rw [replace, if_neg (hne address h)]
    _ = statement.substitute (redaction statement sensitiveLiteralIds) := by
        have h := Expression.foldl_replaceAt statement (fun address =>
          replacementFor sensitiveLiteralIds address
            (statement.literalAddresses.idxOf address + 1)) (fun _ => .constant) _ hliteral
        rw [Expression.substitute_constant] at h
        exact h

theorem replacementFor_inj {ids₁ ids₂ : List Address} {address : Address} {index : Nat} :
    replacementFor ids₁ address index = replacementFor ids₂ address index ↔
      (address ∈ ids₁ ↔ address ∈ ids₂) := by
  unfold replacementFor placeholder
  by_cases h₁ : address ∈ ids₁ <;> by_cases h₂ : address ∈ ids₂ <;> simp [h₁, h₂]

theorem redaction_literal {statement : Expression} {ids : List Address} {address : Address}
    {form : ConstantForm} {this : String} (hform : form.isLiteral = true)
    (hat : statement.at? address = some (.constant form this)) :
    redaction statement ids address form this =
      replacementFor ids address (statement.literalAddresses.idxOf address + 1) :=
  if_pos (Expression.mem_literalAddresses.mpr ⟨form, this, hform, hat⟩)

theorem redaction_other {statement : Expression} {ids : List Address} {address : Address}
    {form : ConstantForm} {this : String} (hform : form.isLiteral = false)
    (hat : statement.at? address = some (.constant form this)) :
    redaction statement ids address form this = .constant form this := by
  apply if_neg
  intro h
  obtain ⟨form', this', hform', hat'⟩ := Expression.mem_literalAddresses.mp h
  rw [hat] at hat'
  cases hat'
  simp [hform] at hform'

/-- Trees of one shape are rendered alike exactly if they agree on all constants that are no
literals and on which literals go into sensitive columns. -/
theorem redacted_eq_iff {s₁ s₂ : Expression} (hshape : s₁.eraseConstants = s₂.eraseConstants)
    (h₁ : s₁.isLiteral = false) (h₂ : s₂.isLiteral = false) :
    redacted s₁ = redacted s₂ ↔
      s₁.eraseLiterals = s₂.eraseLiterals ∧ ∀ address ∈ s₁.literalAddresses,
        (AssignedSensitive s₁ address ↔ AssignedSensitive s₂ address) := by
  simp only [redacted, replaceAllLiterals_eq h₁, replaceAllLiterals_eq h₂,
    Expression.eraseLiterals, Expression.erase, ← mem_collectSensitiveLiteralIds]
  rw [Expression.substitute_eq_iff hshape, Expression.substitute_eq_iff hshape]
  constructor
  · intro h
    constructor
    · intro address form this₁ this₂ hat₁ hat₂
      have heq := h address form this₁ this₂ hat₁ hat₂
      cases hform : form.isLiteral with
      | true => rfl
      | false => rwa [redaction_other hform hat₁, redaction_other hform hat₂] at heq
    · intro address hliteral
      obtain ⟨form, this₁, hform, hat₁⟩ := Expression.mem_literalAddresses.mp hliteral
      obtain ⟨this₂, hat₂⟩ := Expression.constant_of_eraseConstants_eq hshape hat₁
      have heq := h address form this₁ this₂ hat₁ hat₂
      rw [redaction_literal hform hat₁, redaction_literal hform hat₂,
        Expression.literalAddresses_congr hshape] at heq
      exact replacementFor_inj.mp heq
  · rintro ⟨hother, hmarks⟩ address form this₁ this₂ hat₁ hat₂
    cases hform : form.isLiteral with
    | true =>
      rw [redaction_literal hform hat₁, redaction_literal hform hat₂,
        Expression.literalAddresses_congr hshape]
      exact replacementFor_inj.mpr
        (hmarks address (Expression.mem_literalAddresses.mpr ⟨form, this₁, hform, hat₁⟩))
    | false =>
      rw [redaction_other hform hat₁, redaction_other hform hat₂]
      simpa [hform] using hother address form this₁ this₂ hat₁ hat₂

/-- The `k`-th literal of the walk is replaced by its placeholder or its marker, and a literal
that the new tree holds is such a marker. Everything else stays. -/
structure EveryLiteralReplaced (statement : Expression) (sensitiveLiteralIds : List Address)
    (result : Expression) : Prop where
  replaced : ∀ k address, statement.literalAddresses[k]? = some address →
    result.at? address = some (replacementFor sensitiveLiteralIds address (k + 1))
  noneSurvives : ∀ address form this, form.isLiteral = true →
    result.at? address = some (.constant form this) →
    ∃ k : Nat, statement.literalAddresses[k]? = some address ∧ address ∈ sensitiveLiteralIds ∧
      form = .string ∧ this = redactionMarker (k + 1)
  unchanged : result = statement.substitute (redaction statement sensitiveLiteralIds)

theorem args_replacementFor (ids : List Address) (address : Address) (index : Nat) :
    (replacementFor ids address index).args = [] := by
  unfold replacementFor placeholder
  split_ifs <;> rfl

theorem args_redaction (statement : Expression) (ids : List Address) (address : Address)
    (form : ConstantForm) (this : String) :
    (redaction statement ids address form this).args = [] := by
  unfold redaction
  split_ifs
  · exact args_replacementFor _ _ _
  · rfl

theorem at?_redaction {statement : Expression} {ids : List Address} {address : Address}
    {form : ConstantForm} {this : String} (hat : statement.at? address = some (.constant form this)) :
    (statement.substitute (redaction statement ids)).at? address =
      some (redaction statement ids address form this) := by
  rw [Expression.at?_substitute _ hat, Expression.substitute, List.append_nil]

theorem idxOf_literalAddresses {statement : Expression} {k : Nat} {address : Address}
    (h : statement.literalAddresses[k]? = some address) :
    statement.literalAddresses.idxOf address = k := by
  obtain ⟨hk, rfl⟩ := List.getElem?_eq_some_iff.mp h
  exact statement.literalAddresses_nodup.idxOf_getElem k hk

theorem replaced_substitute {statement : Expression} {ids : List Address} {k : Nat}
    {address : Address} (h : statement.literalAddresses[k]? = some address) :
    (statement.substitute (redaction statement ids)).at? address =
      some (replacementFor ids address (k + 1)) := by
  obtain ⟨form, this, hform, hat⟩ := Expression.mem_literalAddresses.mp (List.mem_of_getElem? h)
  rw [at?_redaction hat, redaction_literal hform hat, idxOf_literalAddresses h]

theorem eq_marker_of_replacementFor {ids : List Address} {address : Address} {index : Nat}
    {form : ConstantForm} {this : String}
    (h : replacementFor ids address index = .constant form this) :
    address ∈ ids ∧ form = .string ∧ this = redactionMarker index := by
  unfold replacementFor at h
  split_ifs at h with hmem
  · cases h
    exact ⟨hmem, rfl, rfl⟩
  · cases h

theorem noneSurvives_substitute {statement : Expression} {ids : List Address} {address : Address}
    {form : ConstantForm} {this : String} (hform : form.isLiteral = true)
    (h : (statement.substitute (redaction statement ids)).at? address =
      some (.constant form this)) :
    ∃ k : Nat, statement.literalAddresses[k]? = some address ∧ address ∈ ids ∧ form = .string ∧
      this = redactionMarker (k + 1) := by
  obtain ⟨n, hn, hsubstitute⟩ := Expression.exists_at?_of_substitute (args_redaction _ _) h
  cases n with
  | node cls scalars args => cases hsubstitute
  | constant form' this' =>
    rw [Expression.substitute, List.append_nil] at hsubstitute
    cases hform' : form'.isLiteral with
    | false =>
      rw [redaction_other hform' hn] at hsubstitute
      cases hsubstitute
      rw [hform] at hform'
      cases hform'
    | true =>
      have hmem := Expression.mem_literalAddresses.mpr ⟨form', this', hform', hn⟩
      rw [redaction_literal hform' hn] at hsubstitute
      refine ⟨statement.literalAddresses.idxOf address, ?_,
        eq_marker_of_replacementFor hsubstitute.symm⟩
      exact List.getElem?_idxOf hmem

theorem redacted_of_isLiteral {statement : Expression} (h : statement.isLiteral = true) :
    redacted statement = statement := by
  rw [redacted, replaceAllLiterals, Expression.literalAddresses_of_isLiteral h]
  rfl

theorem not_everyLiteralReplaced_of_isLiteral {statement : Expression}
    (h : statement.isLiteral = true) :
    ¬ EveryLiteralReplaced statement (collectSensitiveLiteralIds statement) (redacted statement) := by
  intro hreplaced
  rw [redacted_of_isLiteral h] at hreplaced
  cases statement with
  | node cls scalars args => cases h
  | constant form this =>
    obtain ⟨k, -, hmem, -⟩ := hreplaced.noneSurvives [] form this h (Expression.at?_nil _)
    have hnone : collectSensitiveLiteralIds (.constant form this) = [] := rfl
    rw [hnone] at hmem
    cases hmem

theorem everyLiteralReplaced_of_not_isLiteral {statement : Expression}
    (h : statement.isLiteral = false) (ids : List Address) :
    EveryLiteralReplaced statement ids (replaceAllLiterals statement ids) := by
  rw [replaceAllLiterals_eq h]
  constructor
  · intro k address hk
    exact replaced_substitute hk
  · intro address form this hform hat
    exact noneSurvives_substitute hform hat
  · rfl

theorem everyLiteralReplaced_iff (statement : Expression) :
    EveryLiteralReplaced statement (collectSensitiveLiteralIds statement) (redacted statement) ↔
      statement.isLiteral = false := by
  constructor
  · intro h
    cases hroot : statement.isLiteral with
    | false => rfl
    | true => exact absurd h (not_everyLiteralReplaced_of_isLiteral hroot)
  · intro h
    exact everyLiteralReplaced_of_not_isLiteral h _

/-- The query `'secret'`, whose tree is one literal. -/
theorem not_everyLiteralReplaced :
    ¬ ∀ statement, EveryLiteralReplaced statement (collectSensitiveLiteralIds statement)
      (redacted statement) := by
  intro h
  have hroot := (h (.constant .string "secret")).replaced 0 [] rfl
  rw [Expression.at?_nil] at hroot
  cases hroot

end SqlGateway.Sql
