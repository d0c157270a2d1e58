import SqlGateway.Postgres.ErrorLeaks
import SqlGateway.Http.Agreement

namespace SqlGateway.Postgres

open Regex

theorem closeAt_suffix {q : Char} {text rest : List Char} (h : closeAt q text = some rest) :
    q :: rest <:+ text := by
  fun_induction closeAt q text with
  | case1 => cases h
  | case2 => cases h; exact List.suffix_refl _
  | case3 => cases h
  | case4 => cases h; exact List.suffix_refl _
  | case5 => cases h
  | case6 c d text hc hn he ihText ih =>
    rcases Option.or_eq_some_iff.mp h with h | ⟨-, h⟩
    · exact (ihText h).trans ⟨[c, d], rfl⟩
    · exact (ih h).trans (List.suffix_cons _ _)
  | case7 c d text hc hn he ih => exact (ih h).trans (List.suffix_cons _ _)

theorem closeAt_newline_mem {q : Char} {text rest : List Char} (h : closeAt q text = some rest)
    (hn : '\n' ∈ text) (hq : isQuote q) : '\n' ∈ rest := by
  have hne := quote_ne_newline hq
  fun_induction closeAt q text with
  | case1 => cases h
  | case2 => cases h; simp [hne.symm] at hn
  | case3 => cases h
  | case4 => cases h; simpa [hne.symm] using hn
  | case5 => cases h
  | case6 c d text hc hcn he ihText ih =>
    have htail : '\n' ∈ d :: text := by simpa [Ne.symm hcn] using hn
    rcases Option.or_eq_some_iff.mp h with h | ⟨-, h⟩
    · exact ihText h (by simpa [he.2.symm] using htail)
    · exact ih h htail
  | case7 c d text hc hcn he ih => exact ih h (by simpa [Ne.symm hcn] using hn)

@[elab_as_elim]
theorem hideQuotedLiterals_induct {P : List Char → Prop} (nil : P [])
    (plain : ∀ c text, isQuote c = false → P text → P (c :: text))
    (unclosed : ∀ q text, isQuote q = true → closeAt q text = none → P text → P (q :: text))
    (closed : ∀ q text rest, isQuote q = true → closeAt q text = some rest → P rest →
      P (q :: text))
    (text : List Char) : P text := by
  induction text using (measure List.length).wf.induction with
  | _ text ih =>
    cases text with
    | nil => exact nil
    | cons c text =>
      cases hq : isQuote c with
      | false => exact plain c text hq (ih text (Nat.lt_succ_self _))
      | true =>
        cases hclose : closeAt c text with
        | none => exact unclosed c text hq hclose (ih text (Nat.lt_succ_self _))
        | some rest =>
          apply closed c text rest hq hclose
          apply ih rest
          exact Nat.lt_succ_of_lt (closeAt_suffix hclose).length_le

theorem hideQuotedLiterals_unclosed {q : Char} (hq : isQuote q) {text : List Char}
    (h : closeAt q text = none) :
    hideQuotedLiterals (q :: text) = q :: hideQuotedLiterals text := by
  rw [hideQuotedLiterals_quote hq, h]

theorem hideQuotedLiterals_closed {q : Char} (hq : isQuote q) {text rest : List Char}
    (h : closeAt q text = some rest) :
    hideQuotedLiterals (q :: text) = "'…'".toList ++ hideQuotedLiterals rest := by
  rw [hideQuotedLiterals_quote hq, h]

theorem hideQuotedLiterals_newline {text : List Char} (h : '\n' ∈ text) :
    '\n' ∈ hideQuotedLiterals text := by
  induction text using hideQuotedLiterals_induct with
  | nil => exact absurd h List.not_mem_nil
  | plain c text hc ih =>
    rw [hideQuotedLiterals_cons hc]
    exact (List.mem_cons.mp h).elim (· ▸ List.mem_cons_self) fun h => List.mem_cons_of_mem _ (ih h)
  | unclosed q text hq hclose ih =>
    rw [hideQuotedLiterals_unclosed hq hclose]
    exact List.mem_cons_of_mem _ (ih (List.mem_of_ne_of_mem (quote_ne_newline hq).symm h))
  | closed q text rest hq hclose ih =>
    rw [hideQuotedLiterals_closed hq hclose]
    have htail : '\n' ∈ text := List.mem_of_ne_of_mem (quote_ne_newline hq).symm h
    exact List.mem_append_right _ (ih (closeAt_newline_mem hclose htail hq))

/-- The text ends in a `)` with at least so many characters before it. -/
def EndsIn (n : Nat) (text : List Char) : Prop := ∃ front, text = front ++ [')'] ∧ n ≤ front.length

theorem EndsIn.cons {n : Nat} {text : List Char} (c : Char) (h : EndsIn n text) :
    EndsIn (n + 1) (c :: text) := by
  obtain ⟨front, rfl, hn⟩ := h
  exact ⟨c :: front, rfl, by simpa using hn⟩

theorem EndsIn.append {n : Nat} {text : List Char} (lead : List Char) (h : EndsIn n text) :
    EndsIn (lead.length + n) (lead ++ text) := by
  obtain ⟨front, rfl, hn⟩ := h
  exact ⟨lead ++ front, by simp, by simpa using hn⟩

theorem EndsIn.mono {n m : Nat} {text : List Char} (h : EndsIn n text) (hm : m ≤ n) :
    EndsIn m text := by
  obtain ⟨front, rfl, hn⟩ := h
  exact ⟨front, rfl, by omega⟩

theorem exists_front_of_suffix {c : Char} {front rest : List Char}
    (h : c :: rest <:+ front ++ [')']) (hc : c ≠ ')') : ∃ front', rest = front' ++ [')'] := by
  rcases List.suffix_concat_iff.mp h with h | ⟨front', hrest, -⟩
  · cases h
  · cases front' with
    | nil =>
      cases hrest
      exact absurd rfl hc
    | cons d front' =>
      cases hrest
      exact ⟨front', rfl⟩

theorem hideQuotedLiterals_endsIn (front : List Char) :
    EndsIn (min front.length 3) (hideQuotedLiterals (front ++ [')'])) := by
  generalize hmessage : front ++ [')'] = message
  have hend : EndsIn 0 (hideQuotedLiterals [')']) := by
    rw [hideQuotedLiterals_cons (by decide), hideQuotedLiterals_nil]
    exact ⟨[], rfl, Nat.le_refl 0⟩
  induction message using hideQuotedLiterals_induct generalizing front with
  | nil => simp at hmessage
  | plain c message hc ih =>
    cases front with
    | nil => exact hmessage ▸ hend
    | cons d front =>
      cases hmessage
      rw [hideQuotedLiterals_cons hc]
      exact ((ih front rfl).cons c).mono (by simp; omega)
  | unclosed q message hq hclose ih =>
    cases front with
    | nil => exact hmessage ▸ hend
    | cons d front =>
      cases hmessage
      rw [hideQuotedLiterals_unclosed hq hclose]
      exact ((ih front rfl).cons _).mono (by simp; omega)
  | closed q message rest hq hclose ih =>
    cases front with
    | nil => exact hmessage ▸ hend
    | cons d front =>
      cases hmessage
      obtain ⟨front', rfl⟩ := exists_front_of_suffix (closeAt_suffix hclose) (quote_ne_paren hq)
      rw [hideQuotedLiterals_closed hq hclose]
      exact ((ih front' rfl).append "'…'".toList).mono
        ((Nat.min_le_right _ _).trans (Nat.le_add_right 3 _))

theorem hideConstraintValues_endsIn (front : List Char) :
    EndsIn (min front.length 3) (hideConstraintValues (front ++ [')'])) := by
  generalize hmessage : front ++ [')'] = message
  have hend : EndsIn 0 (hideConstraintValues [')']) := by
    rw [hideConstraintValues_cons (by simp), hideConstraintValues_nil]
    exact ⟨[], rfl, Nat.le_refl 0⟩
  induction message using hideConstraintValues_induct generalizing front with
  | nil => simp at hmessage
  | plain c message hopen ih =>
    cases front with
    | nil => exact hmessage ▸ hend
    | cons d front =>
      cases hmessage
      rw [hideConstraintValues_cons hopen]
      exact ((ih front rfl).cons _).mono (by simp; omega)
  | unclosed message hafter ih =>
    cases front with
    | nil => exact hmessage ▸ hend
    | cons d front =>
      obtain ⟨rfl, hfront⟩ := List.cons.inj hmessage
      rw [hideConstraintValues_open, hafter]
      exact ((ih front hfront).cons _).mono (by simp; omega)
  | closed message rest hafter ih =>
    rw [hideConstraintValues_open, hafter]
    have hsuffix : rest <:+ front ++ [')'] :=
      hmessage ▸ (after_suffix hafter).trans ⟨['=', '('], rfl⟩
    rcases List.suffix_concat_iff.mp hsuffix with rfl | ⟨back, rfl, -⟩
    · exact ⟨"=(…".toList, rfl, Nat.min_le_right _ 3⟩
    · exact ((ih back rfl).append "=(…)".toList).mono
        ((Nat.min_le_right _ _).trans (Nat.le_add_right_of_le (Nat.le_succ 3)))

def quotedMessage (q : Char) (lead trail value : List Char) : String :=
  .ofList (lead ++ q :: (value ++ q :: trail))

def constraintMessage (lead trail value : List Char) : String :=
  .ofList (lead ++ '=' :: '(' :: (value ++ ')' :: trail))

theorem sanitizeErrorMessage_ofList (message : List Char) :
    sanitizeErrorMessage (.ofList message) =
      .ofList ((PyText.strip (hideQuotedLiterals (hideConstraintValues message))).take 200) := by
  unfold sanitizeErrorMessage
  split_ifs with h
  · have hnil : message = [] := by simpa using congrArg String.toList h
    subst hnil
    rfl
  · simp [maxErrorMessageLength]

theorem isQuote_not_space {q : Char} (hq : isQuote q) : PyText.isSpace q = false := by
  rcases (by simpa [isQuote] using hq : q = '\'' ∨ q = '"') with rfl | rfl <;> decide

theorem hideQuotedLiterals_quote_cons {q : Char} (hq : isQuote q) (text : List Char) :
    ∃ c rest, hideQuotedLiterals (q :: text) = c :: rest ∧ PyText.isSpace c = false ∧
      (c = '\'' ∨ c = q) := by
  rw [hideQuotedLiterals_quote hq]
  cases closeAt q text with
  | some rest => exact ⟨'\'', _, rfl, by decide, Or.inl rfl⟩
  | none => exact ⟨q, _, rfl, isQuote_not_space hq, Or.inr rfl⟩

section Quoted

variable {q : Char} (hq : isQuote q) {lead trail : List Char} (hlead : Clean lead)
include hq

include hlead

/-- The value shows between the lead and what the second substitution makes of the rest. -/
theorem sanitize_quotedMessage (value : List Char) :
    sanitizeErrorMessage (quotedMessage q lead trail value) =
      .ofList ((PyText.strip (lead ++ hideQuotedLiterals
        (q :: hideConstraintValues (value ++ q :: trail)))).take 200) := by
  have hne : q ≠ '(' := by rintro rfl; simp [isQuote] at hq
  have hne' : q ≠ '=' := by rintro rfl; simp [isQuote] at hq
  rw [quotedMessage, sanitizeErrorMessage_ofList, hlead.hideConstraintValues_append (by simp [hne]),
    hideConstraintValues_cons (fun h => absurd h hne'), hlead.hideQuotedLiterals_append]

theorem sanitize_contained (htrail : Clean trail) {value : List Char} (h : Contained q value) :
    sanitizeErrorMessage (quotedMessage q lead trail value) =
      .ofList ((PyText.lstrip lead ++ '\'' :: PyText.rstrip ("…'".toList ++ trail)).take 200) := by
  have hclose : closeAt q (hideConstraintValues (value ++ q :: trail)) = some trail :=
    reaches_of_contained hq htrail .plain value h
  rw [sanitize_quotedMessage hq hlead, hideQuotedLiterals_closed hq hclose,
    htrail.hideQuotedLiterals]
  change String.ofList (List.take 200 (PyText.strip (lead ++ '\'' :: ("…'".toList ++ trail)))) = _
  rw [PyText.strip_append (by decide)]

theorem sanitize_broken (htrail : Clean trail) {c : Char} (hc : c = 'a' ∨ c = 'b') :
    sanitizeErrorMessage (quotedMessage q lead trail [c, '\n']) =
      .ofList ((PyText.lstrip lead ++ q :: c :: '\n' :: q :: PyText.rstrip trail).take 200) := by
  have hcq : isQuote c = false := by rcases hc with rfl | rfl <;> decide
  have hnq : isQuote '\n' = false := by decide
  have hne : c ≠ '=' ∧ c ≠ '\n' ∧ c ≠ '\\' := by rcases hc with rfl | rfl <;> decide
  have hcne : c ≠ q := by rintro rfl; simp [hq] at hcq
  have hconstraint : hideConstraintValues ([c, '\n'] ++ q :: trail) = c :: '\n' :: q :: trail := by
    simp only [List.cons_append, List.nil_append]
    rw [hideConstraintValues_cons (fun h => absurd h hne.1), hideConstraintValues_cons (by simp),
      hideConstraintValues_quote hq htrail]
  have hopen : closeAt q (c :: '\n' :: q :: trail) = none := by
    rw [closeAt_plain hcne hne.2.1 hne.2.2, closeAt_newline hq]
  rw [sanitize_quotedMessage hq hlead, hconstraint, hideQuotedLiterals_unclosed hq hopen,
    hideQuotedLiterals_cons hcq, hideQuotedLiterals_cons hnq,
    hideQuotedLiterals_unclosed hq (closeAt_clean hq htrail), htrail.hideQuotedLiterals,
    show lead ++ q :: c :: '\n' :: q :: trail = (lead ++ [q, c, '\n']) ++ q :: trail by simp, PyText.strip_append (isQuote_not_space hq),
    PyText.lstrip_append (isQuote_not_space hq)]
  simp

omit hlead in
/-- What a value that is not contained turns into: longer than the four characters that
stand for a contained one, or over more than one line. -/
theorem visible_of_not_contained {value : List Char} (h : ¬ Contained q value) :
    ∃ c text, hideQuotedLiterals (q :: hideConstraintValues (value ++ [q, ')'])) = c :: text ∧
      PyText.isSpace c = false ∧ (EndsIn 3 text ∨ EndsIn 0 text ∧ '\n' ∈ text) := by
  have hparen : Clean [')'] := Clean.of_check rfl
  have hclose : closeAt q (hideConstraintValues (value ++ [q, ')'])) ≠ some [')'] :=
    fun hclose => h (contained_of_reaches hq hparen (by simp) .plain value hclose)
  obtain ⟨front, hfront, -⟩ := hideConstraintValues_endsIn (value ++ [q])
  simp only [List.append_assoc, List.singleton_append] at hfront
  rw [hideQuotedLiterals_quote hq]
  cases hrest : closeAt q (hideConstraintValues (value ++ [q, ')'])) with
  | none =>
    refine ⟨q, _, rfl, isQuote_not_space hq, ?_⟩
    have hends := hideQuotedLiterals_endsIn front
    rw [← hfront] at hends
    by_cases hn : '\n' ∈ hideConstraintValues (value ++ [q, ')'])
    · exact Or.inr ⟨hends.mono (Nat.zero_le _), hideQuotedLiterals_newline hn⟩
    · -- without a newline the last `q` must have gone into an `=(…)`
      have hnone := (closeAt_eq_none_iff hq _).mp hrest
      have hline : ∀ c ∈ hideConstraintValues (value ++ [q, ')']), decide (c ≠ '\n') = true := by
        intro c hc
        apply decide_eq_true
        rintro rfl
        exact hn hc
      rw [List.takeWhile_eq_self_iff.mpr hline] at hnone
      obtain ⟨text, htext | ⟨back, hback⟩⟩ := hideConstraintValues_tail hq hparen value
      · exact absurd (by simp [htext]) hnone
      · have hlen := congrArg List.length (hfront.symm.trans hback)
        simp at hlen
        exact Or.inl (hends.mono (by omega))
  | some rest =>
    refine ⟨'\'', _, rfl, by decide, Or.inl ?_⟩
    obtain ⟨back, rfl⟩ :=
      exists_front_of_suffix (hfront ▸ closeAt_suffix hrest) (quote_ne_paren hq)
    have hne : back ≠ [] := by
      rintro rfl
      exact hclose hrest
    have hpos := List.length_pos_iff.mpr hne
    exact ((hideQuotedLiterals_endsIn back).append "…'".toList).mono (by simp; omega)

omit hlead in
theorem sanitize_not_contained {value : List Char} (h : ¬ Contained q value) :
    sanitizeErrorMessage (quotedMessage q [] [')'] value) ≠
      sanitizeErrorMessage (quotedMessage q [] [')'] []) := by
  have hnil : Clean [] := Clean.of_check rfl
  have hparen : Clean [')'] := Clean.of_check rfl
  obtain ⟨c, text, hout, hc, hvisible⟩ := visible_of_not_contained hq h
  obtain ⟨front, rfl⟩ : ∃ front, text = front ++ [')'] := by
    rcases hvisible with ⟨front, rfl, -⟩ | ⟨⟨front, rfl, -⟩, -⟩ <;> exact ⟨front, rfl⟩
  have hstrip : PyText.strip (c :: (front ++ [')'])) = c :: (front ++ [')']) := by
    have := PyText.strip_append hc [] (front ++ [')'])
    rw [PyText.rstrip_append (by decide)] at this
    exact this
  have hempty : Contained q [] := rfl
  rw [sanitize_contained hq hnil hparen hempty, sanitize_quotedMessage hq hnil, List.nil_append, hout,
    hstrip]
  intro heq
  have hlist := congrArg String.toList heq
  have hshown : ((PyText.lstrip [] ++ '\'' :: PyText.rstrip ("…'".toList ++ [')'])).take 200) =
      "'…')".toList := by decide
  rw [String.toList_ofList, String.toList_ofList, hshown] at hlist
  have hlen := congrArg List.length hlist
  simp at hlen
  rcases hvisible with ⟨front', hfront, hlong⟩ | ⟨-, hn⟩
  · have := congrArg List.length hfront
    simp at this
    omega
  · rw [List.take_of_length_le (by simp; omega)] at hlist
    have : '\n' ∈ "'…')".toList := hlist ▸ List.mem_cons_of_mem c hn
    simp at this

/-- In one place the value never shows exactly if the lead alone fills the message. -/
theorem sanitize_quotedMessage_const (htrail : Clean trail) :
    (∀ v w, sanitizeErrorMessage (quotedMessage q lead trail v) =
        sanitizeErrorMessage (quotedMessage q lead trail w)) ↔
      200 ≤ (PyText.lstrip lead).length + if q = '\'' then 1 else 0 := by
  constructor
  · intro h
    have hbroken := h ['a', '\n'] ['b', '\n']
    rw [sanitize_broken hq hlead htrail (by simp), sanitize_broken hq hlead htrail (by simp)]
      at hbroken
    have hlist := congrArg String.toList hbroken
    simp only [String.toList_ofList] at hlist
    have hlong : 200 ≤ (PyText.lstrip lead).length + 1 := by
      by_contra hshort
      have := congrArg (fun l => l[(PyText.lstrip lead).length + 1]?) hlist
      simp [show (PyText.lstrip lead).length + 1 < 200 by omega] at this
    split_ifs with hquote
    · exact hlong
    · by_contra hshort
      have hempty := h [] ['a', '\n']
      have hnil : Contained q [] := rfl
      rw [sanitize_contained hq hlead htrail hnil, sanitize_broken hq hlead htrail (by simp)]
        at hempty
      have := congrArg (fun s => s.toList[(PyText.lstrip lead).length]?) hempty
      simp [show (PyText.lstrip lead).length < 200 by omega] at this
      exact hquote this.symm
  · intro hlong v w
    have hcut (value : List Char) :
        sanitizeErrorMessage (quotedMessage q lead trail value) =
          .ofList ((PyText.lstrip lead ++ ['\'']).take 200) := by
      obtain ⟨c, rest, hrest, hc, hcq⟩ := hideQuotedLiterals_quote_cons hq
        (hideConstraintValues (value ++ q :: trail))
      rw [sanitize_quotedMessage hq hlead, hrest, PyText.strip_append hc]
      apply congrArg
      split_ifs at hlong with hquote
      · have hc' : c = '\'' := hcq.elim id fun h => h.trans hquote
        rw [hc', ← List.singleton_append, ← List.append_assoc,
          List.take_append_of_le_length (by simpa using hlong)]
      · rw [List.take_append_of_le_length hlong, List.take_append_of_le_length hlong]
    rw [hcut v, hcut w]

end Quoted

section Constraint

variable {lead trail : List Char} (hlead : Clean lead)
include hlead

/-- What stands behind the value's first `)` stays in the message. -/
theorem sanitize_constraintMessage {value rest : List Char}
    (h : after ')' (value ++ ')' :: trail) = some rest) :
    sanitizeErrorMessage (constraintMessage lead trail value) =
      .ofList ((PyText.lstrip lead ++ "=(…)".toList ++
        PyText.rstrip (hideQuotedLiterals (hideConstraintValues rest))).take 200) := by
  have hshown : Clean "=(…)".toList.tail := Clean.of_check rfl
  have hstrip (text : List Char) :
      PyText.strip (lead ++ ("=(…)".toList ++ text)) =
        PyText.lstrip lead ++ "=(…)".toList ++ PyText.rstrip text := by
    rw [show lead ++ ("=(…)".toList ++ text) = (lead ++ ['=', '(', '…']) ++ ')' :: text by simp,
      PyText.strip_append (by decide), PyText.lstrip_append (by decide)]
    simp
  have hopen : hideConstraintValues ('=' :: '(' :: (value ++ ')' :: trail)) =
      "=(…)".toList ++ hideConstraintValues rest := by
    rw [hideConstraintValues_open, h]
  have hquoted : hideQuotedLiterals ("=(…)".toList ++ hideConstraintValues rest) =
      "=(…)".toList ++ hideQuotedLiterals (hideConstraintValues rest) := by
    change hideQuotedLiterals ('=' :: ("=(…)".toList.tail ++ _)) = _
    rw [hideQuotedLiterals_cons (by decide), hshown.hideQuotedLiterals_append]
    rfl
  rw [constraintMessage, sanitizeErrorMessage_ofList,
    hlead.hideConstraintValues_append (by simp), hopen, hlead.hideQuotedLiterals_append, hquoted,
    hstrip]

theorem sanitize_constraintMessage_contained (htrail : Clean trail) {value : List Char}
    (h : ')' ∉ value) :
    sanitizeErrorMessage (constraintMessage lead trail value) =
      .ofList ((PyText.lstrip lead ++ "=(…)".toList ++ PyText.rstrip trail).take 200) := by
  have hafter : after ')' (value ++ ')' :: trail) = some trail := by
    rw [after_append, after_eq_none h]
    simp [after]
  rw [sanitize_constraintMessage hlead hafter, htrail.hideConstraintValues,
    htrail.hideQuotedLiterals]

theorem sanitize_constraintMessage_broken (htrail : Clean trail) {c : Char}
    (hc : c = 'a' ∨ c = 'b') :
    sanitizeErrorMessage (constraintMessage lead trail [')', c]) =
      .ofList ((PyText.lstrip lead ++ "=(…)".toList ++ c :: ')' :: PyText.rstrip trail).take
        200) := by
  have hafter : after ')' ([')', c] ++ ')' :: trail) = some (c :: ')' :: trail) := rfl
  have hcq : isQuote c = false := by rcases hc with rfl | rfl <;> decide
  have hne : c ≠ '=' := by rcases hc with rfl | rfl <;> decide
  rw [sanitize_constraintMessage hlead hafter, hideConstraintValues_cons (fun h => absurd h hne),
    hideConstraintValues_cons (by simp), htrail.hideConstraintValues, hideQuotedLiterals_cons hcq,
    hideQuotedLiterals_cons (by decide), htrail.hideQuotedLiterals]
  have hrstrip := PyText.rstrip_append (c := ')') (by decide) [c] trail
  rw [show c :: ')' :: trail = [c] ++ ')' :: trail from rfl, hrstrip]
  rfl

omit hlead in
theorem sanitize_constraintMessage_not_contained {value : List Char} (h : ')' ∈ value) :
    sanitizeErrorMessage (constraintMessage [] [] value) ≠
      sanitizeErrorMessage (constraintMessage [] [] []) := by
  have hnil : Clean [] := Clean.of_check rfl
  obtain ⟨rest, hrest⟩ := after_isSome h
  have hafter : after ')' (value ++ [')']) = some (rest ++ [')']) := by
    rw [after_append, hrest]
  obtain ⟨front, hfront, -⟩ := hideConstraintValues_endsIn rest
  obtain ⟨shown, hshown, -⟩ := hideQuotedLiterals_endsIn front
  rw [sanitize_constraintMessage hnil hafter,
    sanitize_constraintMessage_contained hnil hnil (by simp), hfront, hshown,
    PyText.rstrip_append (by decide)]
  intro heq
  have := congrArg (fun s => s.toList.length) heq
  simp [PyText.lstrip, PyText.rstrip] at this

theorem sanitize_constraintMessage_const (htrail : Clean trail) :
    (∀ v w, sanitizeErrorMessage (constraintMessage lead trail v) =
        sanitizeErrorMessage (constraintMessage lead trail w)) ↔
      200 ≤ (PyText.lstrip lead).length + 4 := by
  constructor
  · intro h
    have hbroken := h [')', 'a'] [')', 'b']
    rw [sanitize_constraintMessage_broken hlead htrail (by simp),
      sanitize_constraintMessage_broken hlead htrail (by simp)] at hbroken
    by_contra hshort
    have := congrArg (fun s => s.toList[(PyText.lstrip lead).length + 4]?) hbroken
    simp [show (PyText.lstrip lead).length + 4 < 200 by omega] at this
  · intro hlong v w
    have hcut (value : List Char) :
        sanitizeErrorMessage (constraintMessage lead trail value) =
          .ofList ((PyText.lstrip lead ++ "=(…)".toList).take 200) := by
      obtain ⟨rest, hrest⟩ := after_isSome (show ')' ∈ value ++ ')' :: trail by simp)
      rw [sanitize_constraintMessage hlead hrest,
        List.take_append_of_le_length (by simpa using hlong)]
    rw [hcut v, hcut w]

end Constraint

theorem sanitize_quotedMessage_eq_iff {q : Char} (hq : isQuote q = true) (value : List Char) :
    (∀ other before behind, Contained q other → Clean before → Clean behind →
        sanitizeErrorMessage (quotedMessage q before behind value) =
          sanitizeErrorMessage (quotedMessage q before behind other)) ↔ Contained q value := by
  constructor
  · intro h
    by_contra hv
    exact sanitize_not_contained hq hv
      (h [] [] [')'] rfl (Clean.of_check rfl) (Clean.of_check rfl))
  · intro h other before behind hother hbefore hbehind
    rw [sanitize_contained hq hbefore hbehind h, sanitize_contained hq hbefore hbehind hother]

theorem sanitize_constraintMessage_eq_iff (value : List Char) :
    (∀ other before behind, ')' ∉ other → Clean before → Clean behind →
        sanitizeErrorMessage (constraintMessage before behind value) =
          sanitizeErrorMessage (constraintMessage before behind other)) ↔ ')' ∉ value := by
  constructor
  · intro h hv
    exact sanitize_constraintMessage_not_contained hv
      (h [] [] [] (by simp) (Clean.of_check rfl) (Clean.of_check rfl))
  · intro h other before behind hother hbefore hbehind
    rw [sanitize_constraintMessage_contained hbefore hbehind h,
      sanitize_constraintMessage_contained hbefore hbehind hother]

section Shown

open Sql QueryExecutor ExecuteQueryUseCase Http Http.GatewayHttpController

variable {σ : Type} {sqlglot : Sqlglot} {registry : RuleRegistry} {psycopg : Psycopg σ}
  {queryTimeoutMs maxResults : Nat} {queryText : Json.Text} {redactedQuery message : String}
  {verdict : ValidationResultDto} {exception : PsycopgError} {diagnostic : Diagnostic}
  {w : World σ} {s' : σ}

/-- Of a primary message, the entry and the 502 response hold what `sanitizeErrorMessage` leaves. -/
theorem shown_errorMessage (hscrub : scrub sqlglot dialect (.str queryText) = .ok redactedQuery)
    (hvalidate : validate sqlglot dialect registry (.str queryText) = .ok verdict)
    (hallowed : verdict.isAllowed = true)
    (hraises : runStatement psycopg queryTimeoutMs maxResults queryText w.outer =
      (.error (.psycopgError exception), s'))
    (hdiag : exception.diag = some diagnostic)
    (hmessage : diagnostic.messagePrimary = some message) (hne : message ≠ "")
    (clock : ClockReadings) (maxSampleRows : Nat) (requestId : String) :
    ∃ response entry,
      executeQueryEndpoint (accessGuard sqlglot registry psycopg queryTimeoutMs maxResults) clock
          maxSampleRows (.str queryText) requestId w =
        (.ok response, ⟨s', w.recorded ++ [entry]⟩) ∧
      response.statusCode = 502 ∧
      response.content.find ["reason"] = some (.ofString (sanitizeErrorMessage message)) ∧
      entry.dbErrorMessage = some (sanitizeErrorMessage message) := by
  have hruns := runs_answered hscrub hvalidate hallowed (.error hraises)
  have hshown : (outcomeOf maxResults (.error exception)).errorMessage =
      some (sanitizeErrorMessage message) := by
    simp [outcomeOf, buildErrorOutcome, hdiag, hmessage, hne]
  have hcontent := @jsonResponse_ok 502
    (dbErrorPayload requestId (outcomeOf maxResults (.error exception))).modelDump
      (QueryDatabaseErrorResponse.all_modelDump Json.lenient_isStrictPart _)
      (QueryDatabaseErrorResponse.all_modelDump Json.lenient_isEncodablePart _)
  refine ⟨_, _, (executeQueryEndpoint_dbError hruns rfl clock maxSampleRows requestId).trans
    (congrArg (·, _) hcontent), rfl, ?_, hshown⟩
  rw [dbErrorPayload, hshown]
  rfl

end Shown

/-- One place hides every value exactly if the lead alone fills the message. One value is
hidden in every place exactly if it is contained, or holds no `)`. -/
theorem sanitizeErrorMessage_hides {q : Char} (hq : isQuote q = true) {lead trail : List Char}
    (hlead : Clean lead) (htrail : Clean trail) (value : List Char) :
    ((∀ v w, sanitizeErrorMessage (quotedMessage q lead trail v) =
          sanitizeErrorMessage (quotedMessage q lead trail w)) ↔
        200 ≤ (PyText.lstrip lead).length + if q = '\'' then 1 else 0) ∧
      ((∀ other before behind, Contained q other → Clean before → Clean behind →
          sanitizeErrorMessage (quotedMessage q before behind value) =
            sanitizeErrorMessage (quotedMessage q before behind other)) ↔ Contained q value) ∧
      ((∀ v w, sanitizeErrorMessage (constraintMessage lead trail v) =
          sanitizeErrorMessage (constraintMessage lead trail w)) ↔
        200 ≤ (PyText.lstrip lead).length + 4) ∧
      ((∀ other before behind, ')' ∉ other → Clean before → Clean behind →
          sanitizeErrorMessage (constraintMessage before behind value) =
            sanitizeErrorMessage (constraintMessage before behind other)) ↔ ')' ∉ value) :=
  ⟨sanitize_quotedMessage_const hq hlead htrail, sanitize_quotedMessage_eq_iff hq value,
    sanitize_constraintMessage_const hlead htrail, sanitize_constraintMessage_eq_iff value⟩

def integerSyntaxLead : List Char := "invalid input syntax for type integer: ".toList

theorem integerSyntaxLead_clean : Clean integerSyntaxLead := Clean.of_check rfl

theorem sanitizeErrorMessage_hides_words :
    sanitizeErrorMessage (quotedMessage '"' integerSyntaxLead [] "4\\\"2".toList) =
        sanitizeErrorMessage (quotedMessage '"' integerSyntaxLead [] "four".toList) ∧
      sanitizeErrorMessage (constraintMessage "Key (id)".toList " exists".toList "7".toList) =
        sanitizeErrorMessage (constraintMessage "Key (id)".toList " exists".toList "8".toList) :=
  ⟨(sanitizeErrorMessage_hides (q := '"') rfl integerSyntaxLead_clean integerSyntaxLead_clean
      "4\\\"2".toList).2.1.mpr rfl "four".toList _ _ rfl integerSyntaxLead_clean
      (Clean.of_check rfl),
    (sanitizeErrorMessage_hides (q := '"') rfl integerSyntaxLead_clean integerSyntaxLead_clean
      "7".toList).2.2.2.mpr (by decide) "8".toList _ _ (by decide) (Clean.of_check rfl)
      (Clean.of_check rfl)⟩

/-- PostgreSQL puts the rejected text between the quotes as it is. -/
theorem integerSyntax_leak {c : Char} (hc : c = '2' ∨ c = '3') :
    sanitizeErrorMessage (quotedMessage '"' integerSyntaxLead [] ['4', '"', c]) =
      .ofList (integerSyntaxLead ++ ['\'', '…', '\'', c, '"']) := by
  have hcq : isQuote c = false := by rcases hc with rfl | rfl <;> decide
  have hconstraint : hideConstraintValues ['4', '"', c, '"'] = ['4', '"', c, '"'] := by
    have hpart : ¬ ['=', '('] <:+: ['4', '"', c, '"'] := by
      rw [← opensConstraint_iff]
      rcases hc with rfl | rfl <;> decide
    simpa using hideConstraintValues_append hpart (by simp : ([] : List Char).head? ≠ some '(')
  have hquoted : hideQuotedLiterals ['"', '4', '"', c, '"'] = ['\'', '…', '\'', c, '"'] := by
    have hclose : closeAt '"' ['4', '"', c, '"'] = some [c, '"'] := by simp [closeAt]
    rw [hideQuotedLiterals_quote rfl, hclose]
    simp only
    rw [hideQuotedLiterals_cons hcq, hideQuotedLiterals_quote rfl]
    rfl
  rw [sanitize_quotedMessage rfl integerSyntaxLead_clean]
  simp only [List.cons_append, List.nil_append]
  rw [hconstraint, hquoted, show integerSyntaxLead ++ ['\'', '…', '\'', c, '"'] =
    (integerSyntaxLead ++ ['\'', '…', '\'', c]) ++ '"' :: [] by simp, PyText.strip_append (by decide),
    PyText.lstrip_append (by decide)]
  rfl

theorem sanitizeErrorMessage_not_hides :
    ¬ ((∀ q lead trail v w, isQuote q = true → Clean lead → Clean trail →
          sanitizeErrorMessage (quotedMessage q lead trail v) =
            sanitizeErrorMessage (quotedMessage q lead trail w)) ∧
        ∀ lead trail v w, Clean lead → Clean trail →
          sanitizeErrorMessage (constraintMessage lead trail v) =
            sanitizeErrorMessage (constraintMessage lead trail w)) := by
  rintro ⟨h, -⟩
  have := h '"' integerSyntaxLead [] ['4', '"', '2'] ['4', '"', '3'] rfl integerSyntaxLead_clean
    (Clean.of_check rfl)
  rw [integerSyntax_leak (by simp), integerSyntax_leak (by simp)] at this
  simp at this

end SqlGateway.Postgres
