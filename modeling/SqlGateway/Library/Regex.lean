import Mathlib.Data.List.Basic

namespace Regex

/-! Backtracking patterns over code points. -/

inductive Pattern
  | empty
  | char (accepts : Char → Bool)
  | seq (p q : Pattern)
  | alt (p q : Pattern)
  | star (p : Pattern)
  | group (n : Nat) (p : Pattern)
  | backref (n : Nat)
  | notAhead (p : Pattern)

namespace Pattern

def lit (c : Char) : Pattern := .char fun d => d = c

def dot : Pattern := .char fun d => d ≠ '\n'

def oneOf (cs : List Char) : Pattern := .char fun d => d ∈ cs

def optional (p : Pattern) : Pattern := .alt p .empty

def seqs : List Pattern → Pattern
  | [] => .empty
  | [p] => p
  | p :: q :: ps => .seq p (seqs (q :: ps))

def alts (p : Pattern) (ps : List Pattern) : Pattern := ps.foldl .alt p

end Pattern

structure State where
  groups : Nat → Option (List Char)
  rest : List Char

def State.start (text : List Char) : State := ⟨fun _ => none, text⟩

def State.capture (s t : State) (n : Nat) : State :=
  { t with
    groups := fun m =>
      if m = n then some (s.rest.take (s.rest.length - t.rest.length)) else t.groups m }

/-- Greedy repetition; a round that consumes nothing is not made. -/
def iterate (m : State → List State) : Nat → State → List State
  | 0, s => [s]
  | n + 1, s =>
    ((m s).filter fun t => t.rest.length < s.rest.length).flatMap (iterate m n) ++ [s]

/-- Every way to match, the one that the engine tries first at the front. -/
def outcomes : Pattern → State → List State
  | .empty, s => [s]
  | .char accepts, s =>
    match s.rest with
    | [] => []
    | c :: rest => if accepts c then [{ s with rest := rest }] else []
  | .seq p q, s => (outcomes p s).flatMap (outcomes q)
  | .alt p q, s => outcomes p s ++ outcomes q s
  | .star p, s => iterate (outcomes p) s.rest.length s
  | .group n p, s => (outcomes p s).map fun t => s.capture t n
  | .backref n, s =>
    match s.groups n with
    | none => []
    | some text =>
      if text.isPrefixOf s.rest then [{ s with rest := s.rest.drop text.length }] else []
  | .notAhead p, s => if (outcomes p s).isEmpty then [s] else []

/-- What the matches at the front of a text leave over, in order. -/
def leftovers (p : Pattern) (text : List Char) : List (List Char) :=
  (outcomes p (.start text)).map State.rest

def matchAt (p : Pattern) (text : List Char) : Option (List Char) := (leftovers p text).head?

/-- `pattern.search(text) is not None`. -/
def search (p : Pattern) : List Char → Bool
  | [] => (matchAt p []).isSome
  | c :: text => (matchAt p (c :: text)).isSome || search p text

/-- `emptyAllowed` is false right after an empty match: the same place must then match
something longer. -/
def subFrom (p : Pattern) (template : List Char) : Nat → Bool → List Char → List Char
  | 0, _, text => text
  | n + 1, emptyAllowed, text =>
    match (leftovers p text).find? fun rest => emptyAllowed || rest.length < text.length with
    | some rest => template ++ subFrom p template n (rest.length < text.length) rest
    | none =>
      match text with
      | [] => []
      | c :: text => c :: subFrom p template n true text

/-- `pattern.sub(template, text)` for a template without group references. -/
def sub (p : Pattern) (template text : List Char) : List Char :=
  subFrom p template (2 * text.length + 1) true text

def Consuming (p : Pattern) : Prop := ∀ text, ∀ rest ∈ leftovers p text, rest.length < text.length

variable {p : Pattern} {template : List Char}

theorem Consuming.matchAt_length (hp : Consuming p) {text rest : List Char}
    (h : matchAt p text = some rest) : rest.length < text.length :=
  hp text rest (List.mem_of_head? h)

theorem Consuming.find_leftovers (hp : Consuming p) (emptyAllowed : Bool) (text : List Char) :
    ((leftovers p text).find? fun rest => emptyAllowed || rest.length < text.length) =
      matchAt p text := by
  unfold matchAt
  cases h : leftovers p text with
  | nil => rfl
  | cons rest others =>
    have := hp text rest (by simp [h])
    simp [this]

theorem Consuming.subFrom_succ (hp : Consuming p) (n : Nat) (emptyAllowed : Bool)
    (text : List Char) :
    subFrom p template (n + 1) emptyAllowed text =
      match matchAt p text with
      | some rest => template ++ subFrom p template n true rest
      | none =>
        match text with
        | [] => []
        | c :: text => c :: subFrom p template n true text := by
  rw [subFrom.eq_def]
  simp only [hp.find_leftovers]
  cases h : matchAt p text with
  | none => rfl
  | some rest => simp [hp.matchAt_length h]

theorem Consuming.subFrom_fuel (hp : Consuming p) (n m : Nat) (text : List Char)
    (hn : text.length < n) (hm : text.length < m) :
    subFrom p template n true text = subFrom p template m true text := by
  induction n generalizing m text with
  | zero => omega
  | succ n ih =>
    obtain ⟨m, rfl⟩ := Nat.exists_eq_succ_of_ne_zero (Nat.ne_zero_of_lt hm)
    rw [hp.subFrom_succ, hp.subFrom_succ]
    cases h : matchAt p text with
    | some rest =>
      have := hp.matchAt_length h
      exact congrArg _ (ih m rest (by omega) (by omega))
    | none =>
      cases text with
      | nil => rfl
      | cons c text =>
        simp only [List.length_cons] at hn hm
        exact congrArg _ (ih m text (by omega) (by omega))

theorem Consuming.sub_eq (hp : Consuming p) (text : List Char) :
    sub p template text =
      match matchAt p text with
      | some rest => template ++ sub p template rest
      | none =>
        match text with
        | [] => []
        | c :: text => c :: sub p template text := by
  rw [sub, hp.subFrom_succ]
  cases h : matchAt p text with
  | some rest =>
    have := hp.matchAt_length h
    exact congrArg _ (hp.subFrom_fuel _ _ _ (by omega) (by omega))
  | none =>
    cases text with
    | nil => rfl
    | cons c text =>
      have hlen : (c :: text).length = text.length + 1 := List.length_cons
      exact congrArg _ (hp.subFrom_fuel _ _ _ (by omega) (by omega))

@[simp] theorem outcomes_empty (s : State) : outcomes .empty s = [s] := rfl

@[simp] theorem outcomes_seq (p q : Pattern) (s : State) :
    outcomes (.seq p q) s = (outcomes p s).flatMap (outcomes q) := rfl

@[simp] theorem outcomes_alt (p q : Pattern) (s : State) :
    outcomes (.alt p q) s = outcomes p s ++ outcomes q s := rfl

@[simp] theorem outcomes_char_nil (accepts : Char → Bool) (groups : Nat → Option (List Char)) :
    outcomes (.char accepts) ⟨groups, []⟩ = [] := rfl

@[simp] theorem outcomes_char_cons (accepts : Char → Bool) (groups : Nat → Option (List Char))
    (c : Char) (rest : List Char) :
    outcomes (.char accepts) ⟨groups, c :: rest⟩ = if accepts c then [⟨groups, rest⟩] else [] :=
  rfl

theorem outcomes_group (n : Nat) (p : Pattern) (s : State) :
    outcomes (.group n p) s = (outcomes p s).map fun t => s.capture t n := rfl

theorem outcomes_notAhead (p : Pattern) (s : State) :
    outcomes (.notAhead p) s = if (outcomes p s).isEmpty then [s] else [] := rfl

theorem outcomes_backref_single {n : Nat} {s : State} {c : Char} (h : s.groups n = some [c]) :
    outcomes (.backref n) s = outcomes (.char fun d => d = c) s := by
  obtain ⟨groups, rest⟩ := s
  simp only at h
  cases rest with
  | nil => simp [outcomes, h]
  | cons d rest =>
    simp only [outcomes, h, List.isPrefixOf, Bool.and_true, List.length_singleton, List.drop_one,
      List.tail_cons, beq_iff_eq, decide_eq_true_eq]
    by_cases hc : c = d
    · simp [hc]
    · simp [hc, Ne.symm hc]

theorem iterate_fuel (m : State → List State) (n k : Nat) (s : State)
    (hn : s.rest.length ≤ n) (hk : s.rest.length ≤ k) : iterate m n s = iterate m k s := by
  induction n generalizing k s with
  | zero =>
    cases k with
    | zero => rfl
    | succ k =>
      have hnone : ((m s).filter fun t => t.rest.length < s.rest.length) = [] := by
        rw [Nat.le_zero.mp hn]
        simp
      simp [iterate, hnone]
  | succ n ih =>
    cases k with
    | zero =>
      have hnone : ((m s).filter fun t => t.rest.length < s.rest.length) = [] := by
        rw [Nat.le_zero.mp hk]
        simp
      simp [iterate, hnone]
    | succ k =>
      rw [iterate, iterate]
      apply congrArg (· ++ [s])
      apply List.flatMap_congr
      intro t ht
      have hlt := of_decide_eq_true (List.mem_filter.mp ht).2
      exact ih k t (by omega) (by omega)

/-- A star either makes a round that consumes something and goes on, or stops. -/
theorem outcomes_star (p : Pattern) (s : State) :
    outcomes (.star p) s =
      ((outcomes p s).filter fun t => t.rest.length < s.rest.length).flatMap
        (outcomes (.star p)) ++ [s] := by
  change iterate (outcomes p) s.rest.length s = _
  rw [iterate_fuel _ _ (s.rest.length + 1) s (Nat.le_refl _) (by omega), iterate]
  apply congrArg (· ++ [s])
  apply List.flatMap_congr
  intro t ht
  have hlt := of_decide_eq_true (List.mem_filter.mp ht).2
  exact iterate_fuel _ _ _ t (by omega) (Nat.le_refl _)

/-- What is left after the first `c`. -/
def after (c : Char) : List Char → Option (List Char)
  | [] => none
  | d :: text => if d = c then some text else after c text

theorem outcomes_until (c : Char) (groups : Nat → Option (List Char)) (text : List Char) :
    ((outcomes (.star (.char fun d => d ≠ c)) ⟨groups, text⟩).flatMap
      (outcomes (.lit c))).head? = (after c text).map (State.mk groups) := by
  induction text with
  | nil => simp [outcomes_star, Pattern.lit, after]
  | cons d text ih =>
    rw [outcomes_star]
    by_cases hd : d = c
    · simp [hd, Pattern.lit, after]
    · simp only [outcomes_char_cons, hd, after]
      simp [List.flatMap_append, Pattern.lit, hd] at ih ⊢
      simpa using ih

theorem iterate_length_le (m : State → List State) (n : Nat) (s t : State)
    (h : t ∈ iterate m n s) : t.rest.length ≤ s.rest.length := by
  induction n generalizing s with
  | zero => simp_all [iterate]
  | succ n ih =>
    rw [iterate, List.mem_append, List.mem_flatMap] at h
    rcases h with ⟨u, hu, ht⟩ | h
    · have := ih u ht
      have := of_decide_eq_true (List.mem_filter.mp hu).2
      omega
    · simp [List.mem_singleton.mp h]

theorem outcomes_length_le (p : Pattern) (s t : State) (h : t ∈ outcomes p s) :
    t.rest.length ≤ s.rest.length := by
  induction p generalizing s t with
  | empty => simp_all
  | char accepts =>
    obtain ⟨groups, _ | ⟨c, rest⟩⟩ := s
    · simp at h
    · simp only [outcomes_char_cons, List.mem_ite_nil_right, List.mem_singleton] at h
      simp [h.2]
  | seq p q hp hq =>
    obtain ⟨u, hu, ht⟩ := List.mem_flatMap.mp h
    exact Nat.le_trans (hq u t ht) (hp s u hu)
  | alt p q hp hq => exact (List.mem_append.mp h).elim (hp s t) (hq s t)
  | star p => exact iterate_length_le _ _ s t h
  | group n p hp =>
    obtain ⟨u, hu, rfl⟩ := List.mem_map.mp h
    exact hp s u hu
  | backref n =>
    simp only [outcomes] at h
    split at h
    · simp at h
    · simp only [List.mem_ite_nil_right, List.mem_singleton] at h
      simp [h.2]
  | notAhead p =>
    simp only [outcomes, List.mem_ite_nil_right, List.mem_singleton] at h
    simp [h.2]

def Strict (p : Pattern) : Prop := ∀ s, ∀ t ∈ outcomes p s, t.rest.length < s.rest.length

theorem Strict.char (accepts : Char → Bool) : Strict (.char accepts) := by
  rintro ⟨groups, _ | ⟨c, rest⟩⟩ t h
  · simp at h
  · simp only [outcomes_char_cons, List.mem_ite_nil_right, List.mem_singleton] at h
    simp [h.2]

theorem Strict.alt {p q : Pattern} (hp : Strict p) (hq : Strict q) : Strict (.alt p q) := by
  intro s t h
  exact (List.mem_append.mp h).elim (hp s t) (hq s t)

theorem Strict.seq {p : Pattern} (hp : Strict p) (q : Pattern) : Strict (.seq p q) := by
  intro s t h
  obtain ⟨u, hu, ht⟩ := List.mem_flatMap.mp h
  exact Nat.lt_of_le_of_lt (outcomes_length_le q u t ht) (hp s u hu)

theorem Strict.group {p : Pattern} (hp : Strict p) (n : Nat) : Strict (.group n p) := by
  intro s t h
  obtain ⟨u, hu, rfl⟩ := List.mem_map.mp h
  exact hp s u hu

theorem Strict.seq_right (p : Pattern) {q : Pattern} (hq : Strict q) : Strict (.seq p q) := by
  intro s t h
  obtain ⟨u, hu, ht⟩ := List.mem_flatMap.mp h
  exact Nat.lt_of_lt_of_le (hq u t ht) (outcomes_length_le p s u hu)

theorem Strict.outcomes_star {p : Pattern} (hp : Strict p) (s : State) :
    outcomes (.star p) s = (outcomes p s).flatMap (outcomes (.star p)) ++ [s] := by
  rw [Regex.outcomes_star, List.filter_eq_self.mpr]
  intro t ht
  exact decide_eq_true (hp s t ht)

theorem Strict.consuming {p : Pattern} (hp : Strict p) : Consuming p := by
  intro text rest h
  obtain ⟨t, ht, rfl⟩ := List.mem_map.mp h
  exact hp _ t ht

end Regex
