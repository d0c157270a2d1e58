import SqlGateway.Library.Effect

universe u

/-! Computations by the calls that they make, one after the other -/

/-- It has ended, or it makes a call and goes on with what that returned or raised. -/
inductive Program (ε σ α : Type u) : Type (u + 1)
  | done (result : Except ε α)
  | call {β : Type u} (m : Effect ε σ β) (next : Except ε β → Program ε σ α)

namespace Program

variable {ε σ α β : Type u}

def ofEffect (m : Effect ε σ α) : Program ε σ α := .call m .done

protected def bind : Program ε σ α → (α → Program ε σ β) → Program ε σ β
  | .done (.ok a), k => k a
  | .done (.error e), _ => .done (.error e)
  | .call m next, k => .call m fun result => (next result).bind k

instance : Monad (Program ε σ) where
  pure a := .done (.ok a)
  bind := Program.bind

def raise (e : ε) : Program ε σ α := .done (.error e)

def handle : Program ε σ α → (ε → Program ε σ α) → Program ε σ α
  | .done (.ok a), _ => .done (.ok a)
  | .done (.error e), handler => handler e
  | .call m next, handler => .call m fun result => (next result).handle handler

/-- A `with` block. -/
def withBlock (exit : Option ε → Program ε σ PUnit) : Program ε σ α → Program ε σ α
  | .done (.ok a) => do
    exit none
    return a
  | .done (.error e) => do
    exit (some e)
    raise e
  | .call m next => .call m fun result => withBlock exit (next result)

def run : Program ε σ α → Effect ε σ α
  | .done result => .ofResult result
  | .call m next => fun s => (next (m s).1).run (m s).2

theorem run_bind (p : Program ε σ α) (k : α → Program ε σ β) :
    (p >>= k).run = p.run >>= fun a => (k a).run := by
  induction p with
  | done result =>
    cases result with
    | ok a => rfl
    | error e => rfl
  | call m next ih =>
    funext s
    exact congrFun (ih (m s).1) (m s).2

theorem run_handle (p : Program ε σ α) (handler : ε → Program ε σ α) :
    (p.handle handler).run = tryCatch p.run fun e => (handler e).run := by
  induction p with
  | done result =>
    cases result with
    | ok a => rfl
    | error e => rfl
  | call m next ih =>
    funext s
    exact congrFun (ih (m s).1) (m s).2

theorem run_withBlock (exit : Option ε → Program ε σ PUnit) (p : Program ε σ α) :
    (p.withBlock exit).run = Effect.withBlock (fun e => (exit e).run) p.run := by
  induction p with
  | done result =>
    funext s
    cases result with
    | ok a =>
      change ((exit none >>= fun _ => pure a).run) s = _
      rw [run_bind]
      rfl
    | error e =>
      change ((exit (some e) >>= fun _ => raise e).run) s = _
      rw [run_bind]
      rfl
  | call m next ih =>
    funext s
    exact congrFun (ih (m s).1) (m s).2

end Program
