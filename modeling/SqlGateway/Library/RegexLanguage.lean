import Mathlib.Computability.Language
import SqlGateway.Library.Regex

open scoped Computability

/-! The language of a pattern without back references and lookaheads -/

namespace Regex

namespace Pattern

def IsRegular : Pattern → Prop
  | .empty | .char _ => True
  | .seq p q | .alt p q => p.IsRegular ∧ q.IsRegular
  | .star p | .group _ p => p.IsRegular
  | .backref _ | .notAhead _ => False

def language : Pattern → Language Char
  | .empty => 1
  | .char accepts => {word | ∃ c, accepts c = true ∧ word = [c]}
  | .seq p q => p.language * q.language
  | .alt p q => p.language + q.language
  | .star p => p.language∗
  | .group _ p => p.language
  | .backref _ | .notAhead _ => 0

end Pattern

variable {p q : Pattern} {word rest : List Char}

/-- The engine leaves over what follows a word of the language, for every such word. -/
def Decides (p : Pattern) : Prop := ∀ (s : State) (rest : List Char),
  (∃ t ∈ outcomes p s, t.rest = rest) ↔ ∃ word ∈ p.language, s.rest = word ++ rest

theorem decides_empty : Decides .empty := by
  intro s rest
  constructor
  · rintro ⟨t, ht, rfl⟩
    cases List.mem_singleton.mp ht
    exact ⟨[], Language.nil_mem_one, rfl⟩
  · rintro ⟨word, hword, hrest⟩
    cases (Language.mem_one word).mp hword
    exact ⟨s, List.mem_singleton_self s, hrest⟩

theorem decides_char (accepts : Char → Bool) : Decides (.char accepts) := by
  rintro ⟨groups, text⟩ rest
  constructor
  · rintro ⟨t, ht, rfl⟩
    cases text with
    | nil => cases ht
    | cons c text =>
      rw [outcomes_char_cons, List.mem_ite_nil_right] at ht
      obtain ⟨hc, ht⟩ := ht
      cases List.mem_singleton.mp ht
      exact ⟨[c], ⟨c, hc, rfl⟩, rfl⟩
  · rintro ⟨_, ⟨c, hc, rfl⟩, htext⟩
    have hcons : text = c :: rest := htext
    refine ⟨⟨groups, rest⟩, ?_, rfl⟩
    rw [hcons, outcomes_char_cons, if_pos hc]
    exact List.mem_singleton_self _

theorem Decides.seq (hp : Decides p) (hq : Decides q) : Decides (.seq p q) := by
  intro s rest
  constructor
  · rintro ⟨t, ht, rfl⟩
    obtain ⟨u, hu, ht⟩ := List.mem_flatMap.mp ht
    obtain ⟨first, hfirst, hs⟩ := (hp s u.rest).mp ⟨u, hu, rfl⟩
    obtain ⟨second, hsecond, hrest⟩ := (hq u t.rest).mp ⟨t, ht, rfl⟩
    exact ⟨first ++ second, Language.append_mem_mul hfirst hsecond, by
      rw [hs, hrest, List.append_assoc]⟩
  · rintro ⟨word, hword, hs⟩
    obtain ⟨first, hfirst, second, hsecond, rfl⟩ := Language.mem_mul.mp hword
    rw [List.append_assoc] at hs
    obtain ⟨u, hu, hrest⟩ := (hp s (second ++ rest)).mpr ⟨first, hfirst, hs⟩
    obtain ⟨t, ht, hrest⟩ := (hq u rest).mpr ⟨second, hsecond, hrest⟩
    exact ⟨t, List.mem_flatMap.mpr ⟨u, hu, ht⟩, hrest⟩

theorem Decides.alt (hp : Decides p) (hq : Decides q) : Decides (.alt p q) := by
  intro s rest
  rw [outcomes_alt]
  constructor
  · rintro ⟨t, ht, hrest⟩
    cases List.mem_append.mp ht with
    | inl ht =>
      obtain ⟨word, hword, hs⟩ := (hp s rest).mp ⟨t, ht, hrest⟩
      exact ⟨word, .inl hword, hs⟩
    | inr ht =>
      obtain ⟨word, hword, hs⟩ := (hq s rest).mp ⟨t, ht, hrest⟩
      exact ⟨word, .inr hword, hs⟩
  · rintro ⟨word, hword | hword, hs⟩
    · obtain ⟨t, ht, hrest⟩ := (hp s rest).mpr ⟨word, hword, hs⟩
      exact ⟨t, List.mem_append_left _ ht, hrest⟩
    · obtain ⟨t, ht, hrest⟩ := (hq s rest).mpr ⟨word, hword, hs⟩
      exact ⟨t, List.mem_append_right _ ht, hrest⟩

/-- A round of a star that consumes something, and what the star does after it. -/
theorem mem_outcomes_star {s t : State} : t ∈ outcomes (.star p) s ↔
    t = s ∨ ∃ u ∈ outcomes p s, u.rest.length < s.rest.length ∧ t ∈ outcomes (.star p) u := by
  rw [outcomes_star, List.mem_append, List.mem_flatMap, List.mem_singleton, or_comm]
  simp only [List.mem_filter, decide_eq_true_eq, and_assoc]

theorem Decides.star (hp : Decides p) : Decides (.star p) := by
  intro s rest
  constructor
  · rintro ⟨t, ht, rfl⟩
    -- each round consumes something
    induction hn : s.rest.length using Nat.strong_induction_on generalizing s with
    | _ n ih =>
      rcases mem_outcomes_star.mp ht with rfl | ⟨u, hu, hlt, ht⟩
      · exact ⟨[], Language.nil_mem_kstar _, rfl⟩
      · obtain ⟨first, hfirst, hs⟩ := (hp s u.rest).mp ⟨u, hu, rfl⟩
        obtain ⟨later, hlater, hrest⟩ := ih u.rest.length (hn ▸ hlt) u ht rfl
        refine ⟨first ++ later, ?_, by rw [hs, hrest, List.append_assoc]⟩
        change first ++ later ∈ p.language∗
        rw [← Language.one_add_self_mul_kstar_eq_kstar]
        exact .inr (Language.append_mem_mul hfirst hlater)
  · rintro ⟨word, hword, hs⟩
    obtain ⟨rounds, rfl, hrounds⟩ := Language.mem_kstar_iff_exists_nonempty.mp hword
    induction rounds generalizing s with
    | nil => exact ⟨s, mem_outcomes_star.mpr (.inl rfl), hs⟩
    | cons round rounds ih =>
      obtain ⟨⟨hround, hnil⟩, hothers⟩ := List.forall_mem_cons.mp hrounds
      rw [List.flatten_cons, List.append_assoc] at hs
      obtain ⟨u, hu, hrest⟩ := (hp s (rounds.flatten ++ rest)).mpr ⟨round, hround, hs⟩
      obtain ⟨t, ht, htrest⟩ := ih u hothers
        (Language.join_mem_kstar fun y hy => (hothers y hy).1) hrest
      have hlt : u.rest.length < s.rest.length := by
        rw [hs, ← hrest, List.length_append]
        exact Nat.lt_add_of_pos_left (List.length_pos_of_ne_nil hnil)
      exact ⟨t, mem_outcomes_star.mpr (.inr ⟨u, hu, hlt, ht⟩), htrest⟩

theorem Decides.group (hp : Decides p) (n : Nat) : Decides (.group n p) := by
  intro s rest
  rw [outcomes_group]
  simp only [List.mem_map, exists_exists_and_eq_and]
  exact hp s rest

theorem decides_of_isRegular (h : p.IsRegular) : Decides p := by
  induction p with
  | empty => exact decides_empty
  | char accepts => exact decides_char accepts
  | seq p q hp hq => exact (hp h.1).seq (hq h.2)
  | alt p q hp hq => exact (hp h.1).alt (hq h.2)
  | star p hp => exact (hp h).star
  | group n p hp => exact (hp h).group n
  | backref n => cases h
  | notAhead p => cases h

theorem isSome_matchAt (h : p.IsRegular) (text : List Char) :
    (matchAt p text).isSome = true ↔ ∃ word ∈ p.language, word <+: text := by
  rw [matchAt, leftovers, List.isSome_head?]
  constructor
  · intro hmatch
    obtain ⟨rest, hrest⟩ := List.exists_mem_of_ne_nil _ hmatch
    obtain ⟨word, hword, htext⟩ :=
      (decides_of_isRegular h _ rest).mp (List.mem_map.mp hrest)
    exact ⟨word, hword, rest, htext.symm⟩
  · rintro ⟨word, hword, rest, htext⟩
    have hrest := (decides_of_isRegular h (.start text) rest).mpr ⟨word, hword, htext.symm⟩
    exact List.ne_nil_of_mem (List.mem_map.mpr hrest)

/-- A search finds a word of the language anywhere in the text. -/
theorem search_iff (h : p.IsRegular) (text : List Char) :
    search p text = true ↔ ∃ word ∈ p.language, word <:+: text := by
  induction text with
  | nil =>
    rw [search, isSome_matchAt h]
    simp only [List.prefix_nil, List.infix_nil]
  | cons c text ih =>
    rw [search, Bool.or_eq_true, isSome_matchAt h, ih]
    simp only [List.infix_cons_iff, and_or_left, exists_or]

theorem language_seqs (ps : List Pattern) :
    (Pattern.seqs ps).language = (ps.map Pattern.language).prod := by
  fun_induction Pattern.seqs ps with
  | case1 => rfl
  | case2 p => exact (mul_one _).symm
  | case3 p q ps ih => rw [List.map_cons, List.prod_cons, ← ih]; rfl

theorem mem_language_chars (f : Char → Char) (cs : List Char) :
    word ∈ (Pattern.seqs (cs.map fun c => .char fun d => f d = c)).language ↔ word.map f = cs := by
  rw [language_seqs, List.map_map]
  induction cs generalizing word with
  | nil => simp [Language.mem_one]
  | cons c cs ih =>
    rw [List.map_cons, List.prod_cons, Language.mem_mul]
    constructor
    · rintro ⟨_, ⟨d, hd, rfl⟩, rest, hrest, rfl⟩
      exact congrArg₂ List.cons (of_decide_eq_true hd) (ih.mp hrest)
    · intro hword
      obtain ⟨d, rest, rfl, hd, hrest⟩ := List.map_eq_cons_iff.mp hword
      exact ⟨[d], ⟨d, decide_eq_true hd, rfl⟩, rest, ih.mpr hrest, rfl⟩

end Regex
