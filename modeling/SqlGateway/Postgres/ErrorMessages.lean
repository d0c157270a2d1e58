import SqlGateway.Library.PyText
import SqlGateway.Library.Regex

namespace SqlGateway.Postgres

open Regex

def constraintValueLeakPattern : Pattern :=
  .seqs [.lit '=', .lit '(', .star (.char fun c => c ≠ ')'), .lit ')']

def quotedCharPattern : Pattern :=
  .alt (.seq (.lit '\\') .dot) (.seq (.notAhead (.backref 1)) .dot)

def inlineQuotedLiteralPattern : Pattern :=
  .seqs [.group 1 (.oneOf ['\'', '"']), .star quotedCharPattern, .backref 1]

def maxErrorMessageLength : Nat := 200

def hideConstraintValues (message : List Char) : List Char :=
  sub constraintValueLeakPattern "=(…)".toList message

def hideQuotedLiterals (message : List Char) : List Char :=
  sub inlineQuotedLiteralPattern "'…'".toList message

def sanitizeErrorMessage (message : String) : String :=
  if message = "" then ""
  else
    let cleaned := hideConstraintValues message.toList
    let cleaned := hideQuotedLiterals cleaned
    let cleaned := PyText.strip cleaned
    .ofList (cleaned.take maxErrorMessageLength)

/-- What is left of a text that starts with a value in parentheses after an `=`. -/
def afterValue : List Char → Option (List Char)
  | '=' :: '(' :: rest => after ')' rest
  | _ => none

theorem constraintValueLeakPattern_matchAt (text : List Char) :
    matchAt constraintValueLeakPattern text = afterValue text := by
  have key (rest : List Char) :
      matchAt constraintValueLeakPattern ('=' :: '(' :: rest) = after ')' rest := by
    have h := outcomes_until ')' (fun _ => none) rest
    simp only [matchAt, leftovers, constraintValueLeakPattern, Pattern.seqs, State.start,
      Pattern.lit, outcomes_seq, outcomes_char_cons, decide_true, if_true, List.flatMap_cons,
      List.flatMap_nil, List.append_nil, List.head?_map]
    rw [show Pattern.char _ = Pattern.lit ')' from rfl, h, Option.map_map]
    exact Option.map_id'
  cases text with
  | nil => rfl
  | cons c text =>
    by_cases hc : c = '='
    · cases text with
      | nil =>
        simp [matchAt, leftovers, constraintValueLeakPattern, Pattern.seqs, State.start,
          Pattern.lit, afterValue, hc]
      | cons d rest =>
        by_cases hd : d = '('
        · subst hc hd
          exact key rest
        · simp [matchAt, leftovers, constraintValueLeakPattern, Pattern.seqs, State.start,
            Pattern.lit, afterValue, hc, hd]
    · simp [matchAt, leftovers, constraintValueLeakPattern, Pattern.seqs, State.start,
        Pattern.lit, afterValue, hc]

theorem constraintValueLeakPattern_consuming : Consuming constraintValueLeakPattern :=
  ((Strict.char _).seq _).consuming

def isQuote (c : Char) : Bool := c = '\'' || c = '"'

/-- What is left of a text after the quote that the engine takes to close it. A backslash
and the character after it are tried as one piece first. -/
def closeAt (q : Char) : List Char → Option (List Char)
  | [] => none
  | [c] => if c = q then some [] else none
  | c :: d :: text =>
    if c = q then some (d :: text)
    else if c = '\n' then none
    else if c = '\\' ∧ d ≠ '\n' then (closeAt q text).or (closeAt q (d :: text))
    else closeAt q (d :: text)

theorem quotedCharPattern_strict : Strict quotedCharPattern :=
  ((Strict.char _).seq _).alt (Strict.seq_right _ (Strict.char _))

theorem inlineQuotedLiteralPattern_consuming : Consuming inlineQuotedLiteralPattern :=
  (((Strict.char _).group _).seq _).consuming

section Quoted

variable {q : Char} {groups : Nat → Option (List Char)} (hgroup : groups 1 = some [q])
include hgroup

theorem outcomes_quotedChar (c : Char) (text : List Char) :
    outcomes quotedCharPattern ⟨groups, c :: text⟩ =
      (if c = '\\' then outcomes .dot ⟨groups, text⟩ else []) ++
        if c = q ∨ c = '\n' then [] else [⟨groups, text⟩] := by
  have hback (rest : List Char) :=
    outcomes_backref_single (s := ⟨groups, rest⟩) hgroup
  simp only [quotedCharPattern, outcomes_alt, outcomes_seq, outcomes_notAhead, hback, Pattern.lit,
    outcomes_char_cons, decide_eq_true_eq]
  apply congrArg₂
  · split_ifs <;> simp
  · by_cases hc : c = q
    · simp [hc]
    · by_cases hn : c = '\n'
      · simp [Pattern.dot, hn]
      · simp [Pattern.dot, hc, hn]

theorem outcomes_quotedChar_nil :
    outcomes (.star quotedCharPattern) ⟨groups, []⟩ = [⟨groups, []⟩] := by
  have hback := outcomes_backref_single (s := ⟨groups, []⟩) hgroup
  rw [quotedCharPattern_strict.outcomes_star]
  simp [quotedCharPattern, outcomes_notAhead, hback, Pattern.lit, Pattern.dot]

theorem outcomes_quoted (hq : q ≠ '\\') (text : List Char) :
    ((outcomes (.star quotedCharPattern) ⟨groups, text⟩).flatMap
      (outcomes (.backref 1))).head? = (closeAt q text).map (State.mk groups) := by
  have hback (rest : List Char) :=
    outcomes_backref_single (s := ⟨groups, rest⟩) hgroup
  have hstep (c : Char) (rest : List Char) :=
    quotedCharPattern_strict.outcomes_star ⟨groups, c :: rest⟩
  simp only [outcomes_quotedChar hgroup] at hstep
  fun_induction closeAt q text with
  | case1 => simp [outcomes_quotedChar_nil hgroup, hback]
  | case2 => simp [hstep, hback, hq]
  | case3 c hc =>
    by_cases hn : c = '\n'
    · subst hn
      simp [hstep, hback, hc]
    · simp [hstep, hback, hc, hn, Pattern.dot, outcomes_quotedChar_nil hgroup]
  | case4 d text => simp [hstep, hback, hq]
  | case5 d text hc => simp [hstep, hback, hc]
  | case6 c d text hc hn he ihText ih =>
    obtain ⟨rfl, hd⟩ := he
    rw [hstep]
    simp [hc, hd, Pattern.dot, List.flatMap_append, ih, ihText, hback, Option.map_or]
  | case7 c d text hc hn he ih =>
    have hescape : (if c = '\\' then outcomes .dot ⟨groups, d :: text⟩ else []) = [] := by
      by_cases hs : c = '\\'
      · have hd : d = '\n' := by simpa [hs] using he
        simp [hd, Pattern.dot]
      · simp [hs]
    rw [hstep, hescape]
    simpa [hback, hc, hn, List.flatMap_append] using ih

end Quoted

theorem inlineQuotedLiteralPattern_matchAt (c : Char) (text : List Char) :
    matchAt inlineQuotedLiteralPattern (c :: text) =
      if isQuote c then closeAt c text else none := by
  let groups : Nat → Option (List Char) := fun m => if m = 1 then some [c] else none
  have hopen : outcomes (.group 1 (.oneOf ['\'', '"'])) (.start (c :: text)) =
      if isQuote c then [⟨groups, text⟩] else [] := by
    simp only [outcomes_group, State.start, Pattern.oneOf, outcomes_char_cons, isQuote]
    by_cases hc : c = '\'' ∨ c = '"'
    · simp [hc, State.capture, groups]
    · simp [hc]
  rw [matchAt, leftovers, inlineQuotedLiteralPattern, Pattern.seqs, outcomes_seq, hopen]
  by_cases hc : isQuote c
  · have hne : c ≠ '\\' := by
      intro h
      simp [h, isQuote] at hc
    have h := outcomes_quoted (show groups 1 = some [c] by simp [groups]) hne text
    simp only [hc, if_true, List.flatMap_cons, List.flatMap_nil, List.append_nil, Pattern.seqs,
      outcomes_seq, List.head?_map, h, Option.map_map]
    exact Option.map_id'
  · simp [hc]

@[simp] theorem hideConstraintValues_nil : hideConstraintValues [] = [] := rfl

theorem hideConstraintValues_open (text : List Char) :
    hideConstraintValues ('=' :: '(' :: text) =
      match after ')' text with
      | some rest => "=(…)".toList ++ hideConstraintValues rest
      | none => '=' :: hideConstraintValues ('(' :: text) := by
  have hmatch : matchAt constraintValueLeakPattern ('=' :: '(' :: text) = after ')' text :=
    constraintValueLeakPattern_matchAt _
  rw [hideConstraintValues, constraintValueLeakPattern_consuming.sub_eq, hmatch]
  cases after ')' text <;> rfl

theorem hideConstraintValues_cons {c : Char} {text : List Char}
    (h : c = '=' → text.head? ≠ some '(') :
    hideConstraintValues (c :: text) = c :: hideConstraintValues text := by
  have hnone : matchAt constraintValueLeakPattern (c :: text) = none := by
    rw [constraintValueLeakPattern_matchAt]
    unfold afterValue
    split
    · next rest heq =>
      cases heq
      exact absurd rfl (h rfl)
    · rfl
  rw [hideConstraintValues, constraintValueLeakPattern_consuming.sub_eq, hnone]
  rfl

@[simp] theorem hideQuotedLiterals_nil : hideQuotedLiterals [] = [] := rfl

theorem hideQuotedLiterals_quote {q : Char} (hq : isQuote q) (text : List Char) :
    hideQuotedLiterals (q :: text) =
      match closeAt q text with
      | some rest => "'…'".toList ++ hideQuotedLiterals rest
      | none => q :: hideQuotedLiterals text := by
  rw [hideQuotedLiterals, inlineQuotedLiteralPattern_consuming.sub_eq,
    inlineQuotedLiteralPattern_matchAt, if_pos hq]
  cases closeAt q text <;> rfl

theorem hideQuotedLiterals_cons {c : Char} (hc : isQuote c = false) (text : List Char) :
    hideQuotedLiterals (c :: text) = c :: hideQuotedLiterals text := by
  rw [hideQuotedLiterals, inlineQuotedLiteralPattern_consuming.sub_eq,
    inlineQuotedLiteralPattern_matchAt, hc]
  rfl

end SqlGateway.Postgres
