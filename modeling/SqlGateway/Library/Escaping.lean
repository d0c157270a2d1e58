import Mathlib.Data.List.Infix

universe u

/-! Escaping by a table: an item that must not stand for itself is written as a code -/

namespace Escaping

variable {α : Type u} {table : List (α × List α)} {mark a : α} {text code rest : List α}

/-- Each code is the mark and then nothing that is escaped, the mark is escaped itself, and no
code begins another one. -/
structure Marked (table : List (α × List α)) (mark : α) : Prop where
  head : ∀ row ∈ table, row.2.head? = some mark
  tail : ∀ row ∈ table, ∀ a ∈ table.map Prod.fst, a ∉ row.2.tail
  mark : mark ∈ table.map Prod.fst
  prefixFree : ∀ row ∈ table, ∀ other ∈ table, row.2 <+: other.2 → row = other

theorem Marked.code_eq (h : Marked table mark) {row : α × List α} (hrow : row ∈ table) :
    row.2 = mark :: row.2.tail := List.eq_cons_of_mem_head? (h.head row hrow)

theorem Marked.not_mem_code (h : Marked table mark) {row : α × List α} (hrow : row ∈ table)
    (ha : a ∈ table.map Prod.fst) (hne : a ≠ mark) : a ∉ row.2 := by
  rw [h.code_eq hrow, List.mem_cons]
  exact not_or.mpr ⟨hne, h.tail row hrow a ha⟩

theorem suffix_of_not_mem (h : a ∉ code) (hsuffix : a :: rest <:+ code ++ text) :
    a :: rest <:+ text := by
  induction code with
  | nil => exact hsuffix
  | cons b code ih =>
    rw [List.mem_cons, not_or] at h
    cases List.suffix_cons_iff.mp hsuffix with
    | inl heq =>
      injection heq with hhead
      exact absurd hhead h.1
    | inr htail => exact ih h.2 htail

theorem find?_eq_of_unique {β : Type u} {p : β → Bool} {l : List β} {b : β} (hb : b ∈ l)
    (hp : p b = true) (hunique : ∀ c ∈ l, p c = true → c = b) : l.find? p = some b := by
  cases hfind : l.find? p with
  | none => exact absurd hp (List.find?_eq_none.mp hfind b hb)
  | some c => rw [hunique c (List.mem_of_find?_eq_some hfind) (List.find?_some hfind)]

variable [DecidableEq α]

def replaceAll (a : α) (code text : List α) : List α :=
  text.flatMap fun b => if b = a then code else [b]

/-- One pass over the text for each row, in the order of the table. -/
def passes (table : List (α × List α)) (text : List α) : List α :=
  table.foldl (fun text row => replaceAll row.1 row.2 text) text

def encodeItem (table : List (α × List α)) (a : α) : List α := (table.lookup a).getD [a]

def encode (table : List (α × List α)) (text : List α) : List α := text.flatMap (encodeItem table)

theorem encodeItem_cases (table : List (α × List α)) (a : α) :
    (∃ row ∈ table, row.1 = a ∧ encodeItem table a = row.2) ∨
      a ∉ table.map Prod.fst ∧ encodeItem table a = [a] := by
  cases hlookup : table.lookup a with
  | some code =>
    obtain ⟨before, after, rfl, -⟩ := List.lookup_eq_some_iff.mp hlookup
    exact .inl ⟨(a, code), by simp, rfl, by rw [encodeItem, hlookup]; rfl⟩
  | none =>
    refine .inr ⟨?_, by rw [encodeItem, hlookup]; rfl⟩
    rw [List.lookup_eq_none_iff] at hlookup
    intro hmem
    obtain ⟨row, hrow, rfl⟩ := List.mem_map.mp hmem
    simpa using hlookup row hrow

theorem encodeItem_of_not_mem (h : a ∉ table.map Prod.fst) : encodeItem table a = [a] := by
  cases encodeItem_cases table a with
  | inl hrow =>
    obtain ⟨row, hrow, rfl, -⟩ := hrow
    exact absurd (List.mem_map_of_mem hrow) h
  | inr hplain => exact hplain.2

theorem encode_of_not_mem (h : ∀ a ∈ text, a ∉ table.map Prod.fst) : encode table text = text := by
  induction text with
  | nil => rfl
  | cons a text ih =>
    rw [List.forall_mem_cons] at h
    rw [encode, List.flatMap_cons, encodeItem_of_not_mem h.1]
    exact congrArg (a :: ·) (ih h.2)

/-- Passes one after the other do no more than all at once, if none of them finds anything in
the codes that were written before it. -/
theorem passes_eq_encode (h : table.Pairwise fun row later => later.1 ∉ row.2) (text : List α) :
    passes table text = encode table text := by
  induction table generalizing text with
  | nil => exact (encode_of_not_mem fun _ _ => List.not_mem_nil).symm
  | cons row table ih =>
    rw [List.pairwise_cons] at h
    change passes table (replaceAll row.1 row.2 text) = _
    rw [ih h.2, encode, replaceAll, List.flatMap_assoc, encode]
    apply List.flatMap_congr
    intro b _
    by_cases hb : b = row.1
    · rw [if_pos hb, encodeItem, List.lookup_cons, beq_iff_eq.mpr hb]
      apply encode_of_not_mem
      intro c hc hkey
      obtain ⟨later, hlater, rfl⟩ := List.mem_map.mp hkey
      exact h.1 later hlater hc
    · rw [if_neg hb, List.flatMap_singleton, encodeItem, encodeItem, List.lookup_cons,
        beq_eq_false_iff_ne.mpr hb]

theorem Marked.not_mem_encode (h : Marked table mark) (ha : a ∈ table.map Prod.fst)
    (hne : a ≠ mark) (text : List α) : a ∉ encode table text := by
  intro hmem
  obtain ⟨b, -, hb⟩ := List.mem_flatMap.mp hmem
  cases encodeItem_cases table b with
  | inl hrow =>
    obtain ⟨row, hrow, -, hcode⟩ := hrow
    rw [hcode] at hb
    exact h.not_mem_code hrow ha hne hb
  | inr hplain =>
    rw [hplain.2, List.mem_singleton] at hb
    exact hplain.1 (hb ▸ ha)

theorem Marked.code_of_suffix (h : Marked table mark) {text : List α}
    (hsuffix : mark :: rest <:+ encode table text) : ∃ row ∈ table, row.2 <+: mark :: rest := by
  induction text with
  | nil => exact absurd (List.suffix_nil.mp hsuffix) (List.cons_ne_nil _ _)
  | cons b text ih =>
    rw [encode, List.flatMap_cons] at hsuffix
    cases encodeItem_cases table b with
    | inl hrow =>
      obtain ⟨row, hrow, -, hcode⟩ := hrow
      rw [hcode, h.code_eq hrow, List.cons_append] at hsuffix
      cases List.suffix_cons_iff.mp hsuffix with
      | inl heq =>
        refine ⟨row, hrow, ?_⟩
        rw [heq, h.code_eq hrow, List.tail_cons]
        exact List.prefix_append (mark :: row.2.tail) _
      | inr htail => exact ih (suffix_of_not_mem (h.tail row hrow mark h.mark) htail)
    | inr hplain =>
      rw [hplain.2] at hsuffix
      apply ih
      refine suffix_of_not_mem (fun hmem => hplain.1 ?_) hsuffix
      rw [← List.mem_singleton.mp hmem]
      exact h.mark

/-- The text that the codes stand for. The number is how much of a code that has been read is
still to be skipped. -/
def decode (table : List (α × List α)) : Nat → List α → List α
  | _, [] => []
  | skip + 1, _ :: text => decode table skip text
  | 0, a :: text =>
    match table.find? fun row => row.2.isPrefixOf (a :: text) with
    | some row => row.1 :: decode table row.2.tail.length text
    | none => a :: decode table 0 text

theorem decode_skip (table : List (α × List α)) (code text : List α) :
    decode table code.length (code ++ text) = decode table 0 text := by
  induction code with
  | nil => rfl
  | cons a code ih => exact ih

theorem Marked.decode_code (h : Marked table mark) {row : α × List α} (hrow : row ∈ table)
    (text : List α) : decode table 0 (row.2 ++ text) = row.1 :: decode table 0 text := by
  have hfind : (table.find? fun other => other.2.isPrefixOf (row.2 ++ text)) = some row := by
    refine find?_eq_of_unique hrow (List.isPrefixOf_iff_prefix.mpr (List.prefix_append _ _)) ?_
    intro other hother hprefix
    rw [List.isPrefixOf_iff_prefix] at hprefix
    cases List.prefix_or_prefix_of_prefix hprefix (List.prefix_append row.2 text) with
    | inl hle => exact h.prefixFree other hother row hrow hle
    | inr hge => exact (h.prefixFree row hrow other hother hge).symm
  have hcode : row.2 ++ text = mark :: (row.2.tail ++ text) := by
    rw [← List.cons_append, ← h.code_eq hrow]
  rw [hcode] at hfind ⊢
  rw [decode, hfind]
  exact congrArg (row.1 :: ·) (decode_skip table row.2.tail text)

theorem Marked.decode_plain (h : Marked table mark) (ha : a ≠ mark) (text : List α) :
    decode table 0 (a :: text) = a :: decode table 0 text := by
  have hfind : (table.find? fun row => row.2.isPrefixOf (a :: text)) = none := by
    rw [List.find?_eq_none]
    intro row hrow hprefix
    rw [List.isPrefixOf_iff_prefix, h.code_eq hrow, List.cons_prefix_cons] at hprefix
    exact ha hprefix.1.symm
  rw [decode, hfind]

theorem Marked.decode_encode (h : Marked table mark) (text : List α) :
    decode table 0 (encode table text) = text := by
  induction text with
  | nil => rfl
  | cons b text ih =>
    rw [encode, List.flatMap_cons]
    cases encodeItem_cases table b with
    | inl hrow =>
      obtain ⟨row, hrow, rfl, hcode⟩ := hrow
      rw [hcode, h.decode_code hrow]
      exact congrArg (row.1 :: ·) ih
    | inr hplain =>
      rw [hplain.2, List.singleton_append, h.decode_plain (ne_of_mem_of_not_mem h.mark hplain.1).symm]
      exact congrArg (b :: ·) ih

end Escaping
