import Mathlib.Data.List.Basic

universe u

/-! Lines written one after the other, and read while the last one may be half written -/

namespace Lines

variable {α : Type u} {p : α → Bool} {mark : α} {line text : List α} {lines : List (List α)}

def terminated (p : α → Bool) (text : List α) : List (List α) := (text.splitOnP p).dropLast

theorem terminated_unmarked (h : ∀ x ∈ text, p x = false) : terminated p text = [] := by
  rw [terminated, List.splitOnP_eq_singleton h]
  rfl

theorem terminated_line (h : ∀ x ∈ line, p x = false) (hmark : p mark = true) (text : List α) :
    terminated p (line ++ mark :: text) = line :: terminated p text := by
  rw [terminated, List.splitOnP_append_cons_of_forall_mem h mark hmark]
  exact List.dropLast_cons_of_ne_nil (List.splitOnP_ne_nil p text)

theorem countP_line (h : ∀ x ∈ line, p x = false) (hmark : p mark = true) (text : List α) :
    (line ++ mark :: text).countP p = text.countP p + 1 := by
  have hzero : line.countP p = 0 := List.countP_eq_zero.mpr fun x hx => by simp [h x hx]
  rw [List.countP_append, hzero, Nat.zero_add, List.countP_cons_of_pos hmark]

/-- A cut behind any character leaves the lines that are whole. -/
theorem terminated_cut (h : ∀ line ∈ lines, ∀ x ∈ line, p x = false) (hmark : p mark = true)
    (htext : text <+: lines.flatMap fun line => line ++ [mark]) :
    terminated p text = lines.take (text.countP p) := by
  induction lines generalizing text with
  | nil =>
    rw [List.prefix_nil.mp htext]
    rfl
  | cons line lines ih =>
    have hline := h line List.mem_cons_self
    rw [List.flatMap_cons, List.append_assoc, List.singleton_append] at htext
    rcases List.prefix_or_prefix_of_prefix htext (List.prefix_append line _) with hshort | hlong
    · have hunmarked : ∀ x ∈ text, p x = false := fun x hx => hline x (hshort.subset hx)
      have hzero : text.countP p = 0 := List.countP_eq_zero.mpr fun x hx => by
        simp [hunmarked x hx]
      rw [terminated_unmarked hunmarked, hzero, List.take_zero]
    · obtain ⟨rest, rfl⟩ := hlong
      cases rest with
      | nil =>
        have hzero : line.countP p = 0 := List.countP_eq_zero.mpr fun x hx => by simp [hline x hx]
        rw [List.append_nil, terminated_unmarked hline, hzero, List.take_zero]
      | cons x rest =>
        obtain ⟨rfl, hrest⟩ := List.cons_prefix_cons.mp ((List.prefix_append_right_inj line).mp htext)
        rw [terminated_line hline hmark, countP_line hline hmark, List.take_succ_cons,
          ih (fun line' hmem => h line' (List.mem_cons_of_mem line hmem)) hrest]

theorem countP_lines (h : ∀ line ∈ lines, ∀ x ∈ line, p x = false) (hmark : p mark = true) :
    (lines.flatMap fun line => line ++ [mark]).countP p = lines.length := by
  induction lines with
  | nil => rfl
  | cons line lines ih =>
    rw [List.flatMap_cons, List.append_assoc, List.singleton_append,
      countP_line (h line List.mem_cons_self) hmark,
      ih fun line' hmem => h line' (List.mem_cons_of_mem line hmem), List.length_cons]

end Lines
