import Mathlib.Data.List.Basic

universe u

/-! Access control lists under a script of grants and revokes -/

namespace AccessControl

variable {Entry : Type u}

abbrev Acl (Entry : Type u) := Entry → Bool

/-- A statement that grants, or revokes, every entry that it covers. -/
structure Change (Entry : Type u) where
  grants : Bool
  covers : Entry → Bool

def Change.apply (acl : Acl Entry) (change : Change Entry) : Acl Entry := fun entry =>
  if change.covers entry then change.grants else acl entry

def run (changes : List (Change Entry)) (acl : Acl Entry) : Acl Entry :=
  changes.foldl Change.apply acl

def Covered (changes : List (Change Entry)) (entry : Entry) : Prop :=
  ∃ change ∈ changes, change.covers entry = true

variable {changes later : List (Change Entry)} {acl acl' : Acl Entry} {entry : Entry}

theorem run_append : run (changes ++ later) acl = run later (run changes acl) := List.foldl_append

theorem covered_cons {change : Change Entry} :
    Covered (change :: changes) entry ↔ change.covers entry = true ∨ Covered changes entry :=
  List.exists_mem_cons_iff _ _ _

theorem run_of_not_covered (h : ¬Covered changes entry) : run changes acl entry = acl entry := by
  induction changes generalizing acl with
  | nil => rfl
  | cons change changes ih =>
    rw [covered_cons, not_or] at h
    rw [run, List.foldl_cons]
    exact (ih h.2).trans (if_neg h.1)

theorem run_of_covered (h : Covered changes entry) :
    run changes acl entry = run changes acl' entry := by
  induction changes generalizing acl acl' with
  | nil => exact absurd h (by rintro ⟨_, hmem, -⟩; cases hmem)
  | cons change changes ih =>
    rw [run, run, List.foldl_cons, List.foldl_cons]
    by_cases hlater : Covered changes entry
    · exact ih hlater
    · have hchange := (covered_cons.mp h).resolve_right hlater
      refine (run_of_not_covered hlater).trans (Eq.trans ?_ (run_of_not_covered hlater).symm)
      exact (if_pos hchange).trans (if_pos hchange).symm

/-- A script has the last word on what it covers, so that to run it again changes nothing. -/
theorem run_run : run changes (run changes acl) = run changes acl := by
  funext entry
  by_cases h : Covered changes entry
  · exact run_of_covered h
  · exact run_of_not_covered h

theorem run_grants (h : ∀ change ∈ changes, change.grants = true) :
    run changes acl entry = (acl entry || changes.any fun change => change.covers entry) := by
  induction changes generalizing acl with
  | nil => exact (Bool.or_false _).symm
  | cons change changes ih =>
    obtain ⟨hchange, hchanges⟩ := List.forall_mem_cons.mp h
    rw [run, List.foldl_cons, List.any_cons]
    refine (ih hchanges).trans ?_
    rw [Change.apply, hchange]
    cases change.covers entry <;> simp

theorem run_revokes (h : ∀ change ∈ changes, change.grants = false) :
    run changes acl entry = (acl entry && !changes.any fun change => change.covers entry) := by
  induction changes generalizing acl with
  | nil => exact (Bool.and_true _).symm
  | cons change changes ih =>
    obtain ⟨hchange, hchanges⟩ := List.forall_mem_cons.mp h
    rw [run, List.foldl_cons, List.any_cons]
    refine (ih hchanges).trans ?_
    rw [Change.apply, hchange]
    cases change.covers entry <;> simp

end AccessControl
