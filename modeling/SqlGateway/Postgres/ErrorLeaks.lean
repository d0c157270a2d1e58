import SqlGateway.Postgres.ErrorMessages

namespace SqlGateway.Postgres

open Regex

/-! Texts that hold neither a quote nor the start of a constraint value -/

def opensConstraint : List Char → Bool
  | [] => false
  | c :: text => (c = '=' && text.head? = some '(') || opensConstraint text

theorem opensConstraint_iff (text : List Char) :
    opensConstraint text = true ↔ ['=', '('] <:+: text := by
  induction text with
  | nil => simp [opensConstraint]
  | cons c text ih =>
    rw [List.infix_cons_iff, ← ih]
    cases text with
    | nil => simp [opensConstraint]
    | cons d text =>
      simp [opensConstraint, List.cons_prefix_cons]
      rw [eq_comm, @eq_comm _ d]

structure Clean (text : List Char) : Prop where
  noQuote : ∀ c ∈ text, isQuote c = false
  noOpening : ¬ ['=', '('] <:+: text

theorem Clean.of_check {text : List Char}
    (h : text.all (fun c => !isQuote c) && !opensConstraint text) : Clean text := by
  simp only [Bool.and_eq_true, Bool.not_eq_true'] at h
  constructor
  · simpa using h.1
  · rw [← opensConstraint_iff, h.2]
    simp

theorem Clean.of_suffix {text rest : List Char} (h : Clean text) (hrest : rest <:+ text) :
    Clean rest where
  noQuote c hc := h.noQuote c (hrest.subset hc)
  noOpening hpart := h.noOpening (hpart.trans hrest.isInfix)

theorem Clean.tail {c : Char} {text : List Char} (h : Clean (c :: text)) : Clean text :=
  h.of_suffix (List.suffix_cons c text)

theorem hideConstraintValues_append {text rest : List Char} (h : ¬ ['=', '('] <:+: text)
    (hrest : rest.head? ≠ some '(') :
    hideConstraintValues (text ++ rest) = text ++ hideConstraintValues rest := by
  induction text with
  | nil => rfl
  | cons c text ih =>
    have htail : ¬ ['=', '('] <:+: text :=
      fun hpart => h (hpart.trans (List.suffix_cons c text).isInfix)
    rw [List.cons_append, hideConstraintValues_cons, ih htail, List.cons_append]
    rintro rfl
    cases text with
    | nil => exact hrest
    | cons d text =>
      simp only [List.cons_append, List.head?_cons, ne_eq, Option.some.injEq]
      rintro rfl
      exact h ⟨[], text, rfl⟩

theorem Clean.hideConstraintValues_append {text rest : List Char} (h : Clean text)
    (hrest : rest.head? ≠ some '(') :
    hideConstraintValues (text ++ rest) = text ++ hideConstraintValues rest :=
  Postgres.hideConstraintValues_append h.noOpening hrest

theorem Clean.hideConstraintValues {text : List Char} (h : Clean text) :
    hideConstraintValues text = text := by
  simpa using h.hideConstraintValues_append (by simp : ([] : List Char).head? ≠ some '(')

theorem Clean.hideQuotedLiterals_append {text : List Char} (h : Clean text) (rest : List Char) :
    hideQuotedLiterals (text ++ rest) = text ++ hideQuotedLiterals rest := by
  induction text with
  | nil => rfl
  | cons c text ih =>
    rw [List.cons_append, hideQuotedLiterals_cons (h.noQuote c (by simp)), ih h.tail,
      List.cons_append]

theorem Clean.hideQuotedLiterals {text : List Char} (h : Clean text) :
    hideQuotedLiterals text = text := by
  simpa using h.hideQuotedLiterals_append []

section CloseAt

variable {q : Char} (hq : isQuote q)

theorem closeAt_quote (text : List Char) : closeAt q (q :: text) = some text := by
  cases text <;> simp [closeAt]

theorem closeAt_plain {c : Char} (hcq : c ≠ q) (hn : c ≠ '\n') (hb : c ≠ '\\')
    (text : List Char) : closeAt q (c :: text) = closeAt q text := by
  cases text <;> simp [closeAt, hcq, hn, hb]

include hq

theorem quote_ne_newline : q ≠ '\n' := by
  rintro rfl
  simp [isQuote] at hq

theorem quote_ne_backslash : q ≠ '\\' := by
  rintro rfl
  simp [isQuote] at hq

theorem quote_ne_paren : q ≠ ')' := by
  rintro rfl
  simp [isQuote] at hq

theorem closeAt_newline (text : List Char) : closeAt q ('\n' :: text) = none := by
  have h := (quote_ne_newline hq).symm
  cases text <;> simp [closeAt, h]

theorem closeAt_escape {d : Char} (hd : d ≠ '\n') (text : List Char) :
    closeAt q ('\\' :: d :: text) = (closeAt q text).or (closeAt q (d :: text)) := by
  have h := (quote_ne_backslash hq).symm
  simp [closeAt, h, hd]

theorem closeAt_escape_newline (text : List Char) :
    closeAt q ('\\' :: '\n' :: text) = none := by
  have h := (quote_ne_backslash hq).symm
  simp [closeAt, h, closeAt_newline hq]

theorem closeAt_eq_none_iff (text : List Char) :
    closeAt q text = none ↔ q ∉ text.takeWhile (· ≠ '\n') := by
  have hne := quote_ne_newline hq
  fun_induction closeAt q text with
  | case1 => simp
  | case2 => simp [hne]
  | case3 c hc => by_cases hn : c = '\n' <;> simp [hn, Ne.symm hc]
  | case4 d text => simp [hne]
  | case5 => simp
  | case6 c d text hc hn he ihText ih =>
    obtain ⟨rfl, hd⟩ := he
    simp only [Option.or_eq_none_iff, ihText, ih]
    simp [hd, Ne.symm hc]
  | case7 c d text hc hn he ih =>
    simp only [ih]
    simp [hn, Ne.symm hc]

theorem closeAt_hidden (text : List Char) :
    closeAt q ("=(…)".toList ++ text) = closeAt q text := by
  have h : ∀ c ∈ ['=', '(', '…', ')'], c ≠ q := by
    rintro c hc rfl
    have hplain : ∀ c ∈ ['=', '(', '…', ')'], isQuote c = false := by simp [isQuote]
    simp [hplain c hc] at hq
  simp only [List.mem_cons, List.not_mem_nil, or_false, forall_eq_or_imp, forall_eq] at h
  simp [closeAt_plain, h]

theorem closeAt_clean {text : List Char} (h : Clean text) : closeAt q text = none := by
  rw [closeAt_eq_none_iff hq]
  intro hmem
  have := h.noQuote q (List.takeWhile_sublist _ |>.subset hmem)
  simp [hq] at this

theorem closeAt_cons_none {c : Char} (hc : c ≠ q) {text : List Char}
    (h : closeAt q text = none) : closeAt q (c :: text) = none := by
  rw [closeAt_eq_none_iff hq] at h ⊢
  by_cases hn : c = '\n' <;> simp_all [Ne.symm hc]

end CloseAt

inductive Scan
  | plain | escaped | hidden
  deriving DecidableEq

/-- Outside of `=(…)` there is no newline, and a quote `q` only behind a backslash that
is not itself escaped; and every `=(` has its `)`. -/
def contained (q : Char) : Scan → List Char → Bool
  | mode, [] => mode ≠ .hidden
  | .hidden, c :: text => contained q (if c = ')' then .plain else .hidden) text
  | mode, c :: text =>
    if c = '=' ∧ text.head? = some '(' then contained q .hidden text
    else if c = '\n' then false
    else if mode = .escaped then contained q .plain text
    else c ≠ q && contained q (if c = '\\' then .escaped else .plain) text

def Contained (q : Char) (value : List Char) : Prop := contained q .plain value = true

theorem after_append (c : Char) (text rest : List Char) :
    after c (text ++ rest) =
      match after c text with
      | some left => some (left ++ rest)
      | none => after c rest := by
  induction text with
  | nil => rfl
  | cons d text ih =>
    by_cases hd : d = c <;> simp [after, hd, ih]

theorem after_isSome {c : Char} {text : List Char} (h : c ∈ text) :
    ∃ rest, after c text = some rest := by
  induction text with
  | nil => simp at h
  | cons d text ih =>
    by_cases hd : d = c
    · exact ⟨text, by simp [after, hd]⟩
    · simpa [after, hd] using ih (by simpa [Ne.symm hd] using h)

theorem after_eq_none {c : Char} {text : List Char} (h : c ∉ text) : after c text = none := by
  induction text with
  | nil => rfl
  | cons d text ih =>
    simp only [List.mem_cons, not_or] at h
    simp [after, Ne.symm h.1, ih h.2]

theorem after_suffix {c : Char} {text rest : List Char} (h : after c text = some rest) :
    rest <:+ text := by
  induction text with
  | nil => simp [after] at h
  | cons d text ih =>
    by_cases hd : d = c
    · simp only [after, hd, if_true, Option.some.injEq] at h
      exact h ▸ List.suffix_cons _ _
    · exact (ih (by simpa [after, hd] using h)).trans (List.suffix_cons _ _)

@[elab_as_elim]
theorem hideConstraintValues_induct {P : List Char → Prop} (nil : P [])
    (plain : ∀ c text, (c = '=' → text.head? ≠ some '(') → P text → P (c :: text))
    (unclosed : ∀ text, after ')' text = none → P ('(' :: text) → P ('=' :: '(' :: text))
    (closed : ∀ text rest, after ')' text = some rest → P rest → P ('=' :: '(' :: text))
    (text : List Char) : P text := by
  induction text using (measure List.length).wf.induction with
  | _ text ih =>
    cases text with
    | nil => exact nil
    | cons c text =>
      by_cases hopen : c = '=' → text.head? ≠ some '('
      · exact plain c text hopen (ih text (Nat.lt_succ_self _))
      · obtain ⟨rfl, hhead⟩ := Classical.not_imp.mp hopen
        obtain ⟨text, rfl⟩ := List.head?_eq_some_iff.mp (not_not.mp hhead)
        cases hafter : after ')' text with
        | none => exact unclosed text hafter (ih ('(' :: text) (Nat.lt_succ_self _))
        | some rest =>
          apply closed text rest hafter
          apply ih rest
          exact Nat.lt_of_le_of_lt (after_suffix hafter).length_le (Nat.lt_add_of_pos_right Nat.two_pos)

/-- The engine, having scanned a part of the value, closes the quote right before `trail`. -/
def Reaches (q : Char) (trail : List Char) : Scan → List Char → Prop
  | .plain, text => closeAt q (hideConstraintValues text) = some trail
  | .escaped, text => closeAt q ('\\' :: hideConstraintValues text) = some trail
  | .hidden, text =>
    ∃ rest, after ')' text = some rest ∧ closeAt q (hideConstraintValues rest) = some trail

section Reaches

variable {q : Char} (hq : isQuote q) {trail : List Char} (htrail : Clean trail)
include hq

theorem closeAt_open {text rest : List Char} (h : after ')' text = some rest) :
    closeAt q (hideConstraintValues ('=' :: '(' :: text)) =
      closeAt q (hideConstraintValues rest) := by
  rw [hideConstraintValues_open, h]
  exact closeAt_hidden hq _

theorem closeAt_escaped_open {text rest : List Char} (h : after ')' text = some rest) :
    closeAt q ('\\' :: hideConstraintValues ('=' :: '(' :: text)) =
      closeAt q (hideConstraintValues rest) := by
  have hplain := closeAt_hidden hq (hideConstraintValues rest)
  rw [hideConstraintValues_open, h]
  have hne : '=' ≠ q := by rintro rfl; simp [isQuote] at hq
  change closeAt q ('\\' :: '=' :: ("(…)".toList ++ _)) = _
  rw [closeAt_escape hq (by decide)]
  change (closeAt q ("(…)".toList ++ _)).or (closeAt q ("=(…)".toList ++ _)) = _
  rw [hplain, ← closeAt_plain hne (by decide) (by decide)]
  change (closeAt q ("=(…)".toList ++ _)).or _ = _
  rw [hplain, Option.or_self]

theorem reaches_open {mode : Scan} (hmode : mode ≠ .hidden) {text rest : List Char}
    (hhead : text.head? = some '(') (h : after ')' text = some rest) :
    Reaches q trail mode ('=' :: text) ↔ closeAt q (hideConstraintValues rest) = some trail := by
  obtain ⟨text, rfl⟩ := List.head?_eq_some_iff.mp hhead
  have hrest : after ')' text = some rest := by simpa [after] using h
  cases mode with
  | plain => rw [Reaches, closeAt_open hq hrest]
  | escaped => rw [Reaches, closeAt_escaped_open hq hrest]
  | hidden => exact absurd rfl hmode

include htrail

theorem hideConstraintValues_quote :
    hideConstraintValues (q :: trail) = q :: trail := by
  rw [hideConstraintValues_cons, htrail.hideConstraintValues]
  rintro rfl
  simp [isQuote] at hq

omit htrail in
theorem hideConstraintValues_value {c : Char} {text : List Char}
    (h : ¬ (c = '=' ∧ text.head? = some '(')) :
    hideConstraintValues (c :: text ++ q :: trail) =
      c :: hideConstraintValues (text ++ q :: trail) := by
  apply hideConstraintValues_cons
  rintro rfl
  cases text with
  | nil =>
    intro hp
    cases hp
    simp [isQuote] at hq
  | cons d text => simpa using h

theorem reaches_of_contained (mode : Scan) (value : List Char)
    (h : contained q mode value = true) : Reaches q trail mode (value ++ q :: trail) := by
  have hend := hideConstraintValues_quote hq htrail
  fun_induction contained q mode value with
  | case1 mode =>
    cases mode with
    | plain => simp [Reaches, hend, closeAt_quote]
    | escaped =>
      simp [Reaches, hend, closeAt_escape hq (quote_ne_newline hq), closeAt_quote,
        closeAt_clean hq htrail]
    | hidden => simp at h
  | case2 c text ih =>
    by_cases hc : c = ')'
    · exact ⟨text ++ q :: trail, by simp [after, hc], by simpa [hc, Reaches] using ih h⟩
    · obtain ⟨rest, hrest, hclose⟩ := by simpa [hc, Reaches] using ih h
      exact ⟨rest, by simpa [after, hc] using hrest, hclose⟩
  | case3 mode c text hmode hopen ih =>
    obtain ⟨rest, hrest, hclose⟩ := ih h
    obtain ⟨rfl, hhead⟩ := hopen
    exact (reaches_open hq hmode (by simp [hhead]) hrest).mpr hclose
  | case4 => cases h
  | case5 c text hopen hn _ ih =>
    simp only [Reaches] at ih ⊢
    rw [hideConstraintValues_value hq hopen, closeAt_escape hq hn, ih h]
    rfl
  | case6 mode c text hmode hopen hn he ih =>
    have hplain : mode = .plain := by cases mode <;> simp_all
    subst hplain
    simp only [Bool.and_eq_true, decide_eq_true_eq] at h
    have := ih h.2
    simp only [Reaches]
    rw [hideConstraintValues_value hq hopen]
    by_cases hb : c = '\\'
    · simpa [hb, Reaches] using this
    · rw [closeAt_plain h.1 hn hb]
      simpa [hb, Reaches] using this

theorem hideConstraintValues_tail (value : List Char) :
    ∃ text, hideConstraintValues (value ++ q :: trail) = text ++ q :: trail ∨
      ∃ rest, hideConstraintValues (value ++ q :: trail) = text ++ "=(…)".toList ++ rest := by
  generalize hmessage : value ++ q :: trail = message
  induction message using hideConstraintValues_induct generalizing value with
  | nil => simp at hmessage
  | plain c message hopen ih =>
    cases value with
    | nil => exact ⟨[], .inl (hmessage ▸ hideConstraintValues_quote hq htrail)⟩
    | cons d value =>
      cases hmessage
      obtain ⟨text, h⟩ := ih value rfl
      refine ⟨c :: text, ?_⟩
      rw [hideConstraintValues_cons hopen]
      simpa using h
  | unclosed message hafter ih =>
    cases value with
    | nil => exact ⟨[], .inl (hmessage ▸ hideConstraintValues_quote hq htrail)⟩
    | cons d value =>
      obtain ⟨rfl, hvalue⟩ := List.cons.inj hmessage
      obtain ⟨text, h⟩ := ih value hvalue
      refine ⟨'=' :: text, ?_⟩
      rw [hideConstraintValues_open, hafter]
      simpa using h
  | closed message rest hafter ih =>
    refine ⟨[], .inr ⟨hideConstraintValues rest, ?_⟩⟩
    rw [hideConstraintValues_open, hafter]
    rfl

theorem hideConstraintValues_ne_trail (value : List Char) :
    hideConstraintValues (value ++ q :: trail) ≠ trail := by
  intro h
  obtain ⟨text, htext | ⟨rest, hrest⟩⟩ := hideConstraintValues_tail hq htrail value
  · have := congrArg List.length (h.symm.trans htext)
    simp at this
    omega
  · apply htrail.noOpening
    rw [← h, hrest]
    exact ⟨text, "…)".toList ++ rest, by simp⟩

theorem contained_of_reaches (hparen : ')' ∈ trail) (mode : Scan) (value : List Char)
    (h : Reaches q trail mode (value ++ q :: trail)) : contained q mode value = true := by
  have hne := hideConstraintValues_ne_trail hq htrail
  fun_induction contained q mode value with
  | case1 mode =>
    cases mode with
    | plain => rfl
    | escaped => rfl
    | hidden =>
      obtain ⟨rest, hrest, hclose⟩ := h
      have hafter : after ')' trail = some rest := by
        simpa [after, quote_ne_paren hq] using hrest
      have hclean := htrail.of_suffix (after_suffix hafter)
      rw [hclean.hideConstraintValues, closeAt_clean hq hclean] at hclose
      cases hclose
  | case2 c text ih =>
    obtain ⟨rest, hrest, hclose⟩ := h
    by_cases hc : c = ')'
    · simp only [List.cons_append, after, hc, if_true, Option.some.injEq] at hrest
      apply ih
      simpa [hc, Reaches, hrest] using hclose
    · apply ih
      simp only [hc, if_false]
      exact ⟨rest, by simpa [after, hc] using hrest, hclose⟩
  | case3 mode c text hmode hopen ih =>
    obtain ⟨rfl, hhead⟩ := hopen
    obtain ⟨rest, hrest⟩ := after_isSome (show ')' ∈ text ++ q :: trail by simp [hparen])
    exact ih ⟨rest, hrest, (reaches_open hq hmode (by simp [hhead]) hrest).mp h⟩
  | case4 mode text hmode hopen =>
    cases mode with
    | plain =>
      rw [Reaches, hideConstraintValues_value hq hopen, closeAt_newline hq] at h
      cases h
    | escaped =>
      rw [Reaches, hideConstraintValues_value hq hopen, closeAt_escape_newline hq] at h
      cases h
    | hidden => exact absurd rfl hmode
  | case5 c text hopen hn _ ih =>
    rw [Reaches, hideConstraintValues_value hq hopen, closeAt_escape hq hn] at h
    apply ih
    cases hclose : closeAt q (hideConstraintValues (text ++ q :: trail)) with
    | some rest => simpa [Reaches, hclose] using h
    | none =>
      rw [hclose, Option.none_or] at h
      by_cases hc : c = q
      · rw [hc, closeAt_quote] at h
        exact absurd (Option.some.inj h) (hne text)
      · rw [closeAt_cons_none hq hc hclose] at h
        cases h
  | case6 mode c text hmode hopen hn he ih =>
    have hplain : mode = .plain := by cases mode <;> simp_all
    subst hplain
    rw [Reaches, hideConstraintValues_value hq hopen] at h
    by_cases hc : c = q
    · rw [hc, closeAt_quote] at h
      exact absurd (Option.some.inj h) (hne text)
    · simp only [hc, ne_eq, not_false_eq_true, decide_true, Bool.true_and]
      apply ih
      by_cases hb : c = '\\'
      · simpa [hb, Reaches] using h
      · rw [closeAt_plain hc hn hb] at h
        simpa [hb, Reaches] using h

end Reaches

end SqlGateway.Postgres
