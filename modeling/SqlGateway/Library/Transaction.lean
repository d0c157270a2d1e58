import Mathlib.Data.List.Basic

universe u v

/-! A database by the transactions that were committed and the one that is open -/

namespace Transaction

/-- A request that ran, and what it does to the data. -/
structure Applied (Request : Type u) (Data : Type v) where
  request : Request
  effect : Data → Data

structure Store (Request : Type u) (Data : Type v) where
  transactions : List (List (Applied Request Data)) := []
  pending : List (Applied Request Data) := []

namespace Store

variable {Request : Type u} {Data : Type v} (store : Store Request Data)

def run (applied : Applied Request Data) : Store Request Data :=
  { store with pending := store.pending ++ [applied] }

/-- Where no transaction is open nothing happens. -/
def commit : Store Request Data :=
  if store.pending.isEmpty then store
  else { transactions := store.transactions ++ [store.pending] }

def rollback : Store Request Data := { store with pending := [] }

def applyAll (applied : List (Applied Request Data)) (data : Data) : Data :=
  applied.foldl (fun data applied => applied.effect data) data

/-- What the committed transactions have made of the data. -/
def committed (initial : Data) : Data := applyAll store.transactions.flatten initial

theorem applyAll_append (first last : List (Applied Request Data)) (data : Data) :
    applyAll (first ++ last) data = applyAll last (applyAll first data) := List.foldl_append

@[simp] theorem run_transactions (applied : Applied Request Data) :
    (store.run applied).transactions = store.transactions := rfl

@[simp] theorem run_pending (applied : Applied Request Data) :
    (store.run applied).pending = store.pending ++ [applied] := rfl

@[simp] theorem rollback_transactions : store.rollback.transactions = store.transactions := rfl

@[simp] theorem commit_pending : store.commit.pending = [] := by
  unfold commit
  split_ifs with h
  · exact List.isEmpty_iff.mp h
  · rfl

theorem commit_transactions (h : store.pending ≠ []) :
    store.commit.transactions = store.transactions ++ [store.pending] := by
  rw [commit, if_neg fun hempty => h (List.isEmpty_iff.mp hempty)]

variable {store}

theorem committed_of_eq {store' : Store Request Data}
    (h : store'.transactions = store.transactions) (initial : Data) :
    store'.committed initial = store.committed initial := by
  rw [committed, h, committed]

theorem committed_of_append {store' : Store Request Data} {applied : List (Applied Request Data)}
    (h : store'.transactions = store.transactions ++ [applied]) (initial : Data) :
    store'.committed initial = applyAll applied (store.committed initial) := by
  simp [committed, applyAll, h]

end Store

end Transaction
