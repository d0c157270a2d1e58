import Mathlib.Algebra.GroupWithZero.Nat
import Mathlib.Data.List.Basic
import Mathlib.Data.List.Infix

universe u v

namespace BreadthFirst

/-- A finitely branching structure in which every element outweighs its children
together, so that a traversal from any element ends. -/
structure Branching (α : Type u) where
  children : α → List α
  weight : α → Nat
  weight_children : ∀ a, ((children a).map weight).sum < weight a

namespace Branching

variable {α : Type u} {β : Type v} (B : Branching α)

def load (queue : List α) : Nat := (queue.map B.weight).sum

def visit : Nat → List α → List α
  | 0, _ => []
  | _ + 1, [] => []
  | n + 1, a :: queue => a :: visit n (queue ++ B.children a)

/-- The elements below `a` in the order in which a first-in first-out queue meets them. -/
def walk (a : α) : List α := B.visit (B.weight a) [a]

def descend : α → List Nat → Option α
  | a, [] => some a
  | a, i :: path => (B.children a)[i]?.bind fun child => descend child path

@[simp] theorem descend_nil (a : α) : B.descend a [] = some a := rfl

@[simp] theorem descend_cons (a : α) (i : Nat) (path : List Nat) :
    B.descend a (i :: path) = (B.children a)[i]?.bind fun child => B.descend child path := rfl

theorem descend_append (a : α) (path path' : List Nat) :
    B.descend a (path ++ path') = (B.descend a path).bind fun b => B.descend b path' := by
  induction path generalizing a with
  | nil => rfl
  | cons i path ih => simp only [List.cons_append, descend_cons, ih, Option.bind_assoc]

theorem weight_pos (a : α) : 0 < B.weight a := Nat.zero_lt_of_lt (B.weight_children a)

theorem load_pop (a : α) (queue : List α) :
    B.load (queue ++ B.children a) < B.load (a :: queue) := by
  have h := B.weight_children a
  simp only [load, List.map_append, List.sum_append, List.map_cons, List.sum_cons]
  omega

theorem descend_child {a child b : α} {path : List Nat} (hc : child ∈ B.children a)
    (hb : B.descend child path = some b) : ∃ path', path' ≠ [] ∧ B.descend a path' = some b := by
  obtain ⟨i, hi⟩ := List.mem_iff_getElem?.mp hc
  exact ⟨i :: path, by simp, by simp [hi, hb]⟩

theorem descend_split {a b : α} {i : Nat} {path : List Nat}
    (h : B.descend a (i :: path) = some b) :
    ∃ child ∈ B.children a, B.descend child path = some b := by
  obtain ⟨child, hc, hb⟩ := Option.bind_eq_some_iff.mp h
  exact ⟨child, List.mem_of_getElem? hc, hb⟩

theorem mem_visit (b : α) (n : Nat) (queue : List α) (h : B.load queue ≤ n) :
    b ∈ B.visit n queue ↔ ∃ a ∈ queue, ∃ path, B.descend a path = some b := by
  induction n generalizing queue with
  | zero =>
    cases queue with
    | nil => simp [visit]
    | cons a queue =>
      have := B.weight_pos a
      simp only [load, List.map_cons, List.sum_cons] at h
      omega
  | succ n ih =>
    cases queue with
    | nil => simp [visit]
    | cons a queue =>
      have hload := B.load_pop a queue
      rw [visit, List.mem_cons, ih _ (by omega)]
      constructor
      · rintro (rfl | ⟨c, hc, path, hb⟩)
        · exact ⟨b, by simp, [], rfl⟩
        · rcases List.mem_append.mp hc with hc | hc
          · exact ⟨c, by simp [hc], path, hb⟩
          · obtain ⟨path', -, hb'⟩ := B.descend_child hc hb
            exact ⟨a, by simp, path', hb'⟩
      · rintro ⟨c, hc, path, hb⟩
        rcases List.mem_cons.mp hc with rfl | hc
        · cases path with
          | nil => left; simpa using hb.symm
          | cons i path =>
            obtain ⟨child, hchild, hb⟩ := B.descend_split hb
            exact Or.inr ⟨child, by simp [hchild], path, hb⟩
        · exact Or.inr ⟨c, by simp [hc], path, hb⟩

theorem mem_walk (a b : α) : b ∈ B.walk a ↔ ∃ path, B.descend a path = some b := by
  rw [walk, B.mem_visit b _ _ (by simp [load])]
  simp

theorem visit_map (C : Branching β) (f : α → β)
    (hf : ∀ a, C.children (f a) = (B.children a).map f) (n : Nat) (queue : List α) :
    C.visit n (queue.map f) = (B.visit n queue).map f := by
  induction n generalizing queue with
  | zero => rfl
  | succ n ih =>
    cases queue with
    | nil => rfl
    | cons a queue =>
      simp only [List.map_cons, visit]
      rw [hf, ← List.map_append, ih]

/-- A map that commutes with taking children carries one walk to the other. -/
theorem walk_map (C : Branching β) (f : α → β)
    (hf : ∀ a, C.children (f a) = (B.children a).map f)
    (hw : ∀ a, C.weight (f a) = B.weight a) (a : α) :
    C.walk (f a) = (B.walk a).map f := by
  rw [walk, walk, hw]
  exact visit_map B C f hf _ [a]

/-! The same structure with every element carrying the child indices that lead to it. -/

def addressed : Branching (List Nat × α) where
  children a := (B.children a.2).mapIdx fun i child => (a.1 ++ [i], child)
  weight a := B.weight a.2
  weight_children a := by
    have h := B.weight_children a.2
    have hmap : ((B.children a.2).mapIdx fun i child => (a.1 ++ [i], child)).map
        (fun a => B.weight a.2) = (B.children a.2).map B.weight := by
      apply List.ext_getElem <;> simp
    rwa [hmap]

theorem addressed_descend (a : List Nat × α) (path : List Nat) :
    B.addressed.descend a path = (B.descend a.2 path).map fun b => (a.1 ++ path, b) := by
  induction path generalizing a with
  | nil => simp
  | cons i path ih =>
    simp only [descend_cons, addressed, List.getElem?_mapIdx]
    cases h : (B.children a.2)[i]? with
    | none => rfl
    | some child =>
      have := ih (a.1 ++ [i], child)
      simpa [addressed] using this

theorem mem_addressed_walk (a b : α) (path : List Nat) :
    (path, b) ∈ B.addressed.walk ([], a) ↔ B.descend a path = some b := by
  rw [mem_walk]
  constructor
  · rintro ⟨path', h⟩
    rw [addressed_descend] at h
    obtain ⟨c, hc, he⟩ := Option.map_eq_some_iff.mp h
    simp only [List.nil_append, Prod.mk.injEq] at he
    obtain ⟨rfl, rfl⟩ := he
    exact hc
  · intro h
    exact ⟨path, by simp [addressed_descend, h]⟩

def Apart (p q : List Nat) : Prop := ¬ p <+: q ∧ ¬ q <+: p

theorem Apart.symm {p q : List Nat} (h : Apart p q) : Apart q p := ⟨h.2, h.1⟩

theorem Apart.snoc {p q : List Nat} (h : Apart p q) (i : Nat) : Apart p (q ++ [i]) := by
  constructor
  · intro hp
    rcases List.prefix_concat_iff.mp hp with rfl | hp
    · exact h.2 (List.prefix_append q [i])
    · exact h.1 hp
  · intro hq
    exact h.2 ((List.prefix_append q [i]).trans hq)

theorem apart_siblings (p : List Nat) {i j : Nat} (h : i ≠ j) : Apart (p ++ [i]) (p ++ [j]) := by
  constructor <;> intro hp <;> simp_all

theorem visit_below (n : Nat) (queue : List (List Nat × α)) (b : List Nat × α)
    (h : b ∈ B.addressed.visit n queue) : ∃ a ∈ queue, a.1 <+: b.1 := by
  induction n generalizing queue with
  | zero => simp [visit] at h
  | succ n ih =>
    cases queue with
    | nil => simp [visit] at h
    | cons a queue =>
      rw [visit, List.mem_cons] at h
      rcases h with rfl | h
      · exact ⟨b, by simp, List.prefix_refl _⟩
      · obtain ⟨c, hc, hp⟩ := ih _ h
        rcases List.mem_append.mp hc with hc | hc
        · exact ⟨c, by simp [hc], hp⟩
        · simp only [addressed, List.mem_mapIdx] at hc
          obtain ⟨i, hi, rfl⟩ := hc
          exact ⟨a, by simp, (List.prefix_append _ _).trans hp⟩

theorem apart_pop {a : List Nat × α} {queue : List (List Nat × α)}
    (h : ((a :: queue).map Prod.fst).Pairwise Apart) :
    ((queue ++ B.addressed.children a).map Prod.fst).Pairwise Apart := by
  rw [List.map_cons, List.pairwise_cons] at h
  obtain ⟨ha, hq⟩ := h
  rw [List.map_append, List.pairwise_append]
  refine ⟨hq, ?_, ?_⟩
  · rw [List.pairwise_map]
    simp only [addressed, List.mapIdx_eq_zipIdx_map, List.pairwise_map]
    rw [List.pairwise_iff_getElem]
    intro i j hi hj hij
    simpa using apart_siblings a.1 (Nat.ne_of_lt hij)
  · intro p hp q hq
    obtain ⟨c, hc, rfl⟩ := List.mem_map.mp hq
    simp only [addressed, List.mem_mapIdx] at hc
    obtain ⟨i, hi, rfl⟩ := hc
    exact (ha p hp).symm.snoc i

theorem addressed_visit_nodup (n : Nat) (queue : List (List Nat × α))
    (h : (queue.map Prod.fst).Pairwise Apart) :
    ((B.addressed.visit n queue).map Prod.fst).Nodup := by
  induction n generalizing queue with
  | zero => simp [visit]
  | succ n ih =>
    cases queue with
    | nil => simp [visit]
    | cons a queue =>
      rw [visit, List.map_cons, List.nodup_cons]
      refine ⟨?_, ih _ (B.apart_pop h)⟩
      intro ha
      obtain ⟨b, hb, hba⟩ := List.mem_map.mp ha
      obtain ⟨c, hc, hp⟩ := B.visit_below _ _ _ hb
      rw [hba] at hp
      rcases List.mem_append.mp hc with hc | hc
      · rw [List.map_cons, List.pairwise_cons] at h
        exact (h.1 c.1 (List.mem_map_of_mem hc)).2 hp
      · simp only [addressed, List.mem_mapIdx] at hc
        obtain ⟨i, hi, rfl⟩ := hc
        have := hp.length_le
        simp only [List.length_append, List.length_singleton] at this
        omega

theorem addressed_walk_nodup (a : α) : ((B.addressed.walk ([], a)).map Prod.fst).Nodup :=
  B.addressed_visit_nodup _ _ (by simp)

end Branching

end BreadthFirst
