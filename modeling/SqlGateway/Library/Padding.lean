universe u v

/-! Lists with some items put in between that do not count -/

namespace Padding

variable {α : Type u} {β : Type v} {p : α → Prop} {f : α → Option β} {xs ys : List α}

/-- `ys` is `xs` with any number of items that satisfy `p` inserted anywhere. -/
inductive Pads (p : α → Prop) : List α → List α → Prop
  | nil : Pads p [] []
  | keep {a : α} {xs ys : List α} : Pads p xs ys → Pads p (a :: xs) (a :: ys)
  | insert {a : α} {xs ys : List α} : p a → Pads p xs ys → Pads p xs (a :: ys)

theorem Pads.sublist (h : Pads p xs ys) : List.Sublist xs ys := by
  induction h with
  | nil => exact .slnil
  | keep _ ih => exact ih.cons_cons _
  | insert _ _ ih => exact ih.cons _

theorem Pads.filterMap_eq (h : Pads p xs ys) (hf : ∀ a, p a → f a = none) :
    ys.filterMap f = xs.filterMap f := by
  induction h with
  | nil => rfl
  | keep _ ih => rw [List.filterMap_cons, List.filterMap_cons, ih]
  | insert hp _ ih => rw [List.filterMap_cons, hf _ hp, ih]

end Padding
