universe u

/-! Computations that change a world and return or raise -/

abbrev Effect (ε σ : Type u) : Type u → Type u := ExceptT ε (StateM σ)

namespace Effect

variable {ε σ τ α β : Type u}

def ofResult (result : Except ε α) : Effect ε σ α := fun s => (result, s)

def read (f : σ → α) : Effect ε σ α := fun s => (.ok (f s), s)

def zoom (get : τ → σ) (set : σ → τ → τ) (m : Effect ε σ α) : Effect ε τ α := fun t =>
  let r := m (get t)
  (r.1, set r.2 t)

def first (m : Effect ε σ α) : Effect ε (σ × τ) α := m.zoom Prod.fst fun s t => (s, t.2)

/-- A `with` block: its exit runs on every way out and is told the exception, if any. -/
def withBlock (exit : Option ε → Effect ε σ PUnit) (body : Effect ε σ α) : Effect ε σ α := fun s =>
  match body s with
  | (.ok a, s') => (do exit none; return a : Effect ε σ α) s'
  | (.error e, s') => (do exit (some e); throw e : Effect ε σ α) s'

theorem bind_ok {m : Effect ε σ α} {k : α → Effect ε σ β} {s s' : σ} {a : α}
    (h : m s = (.ok a, s')) : (m >>= k) s = k a s' := by
  change ExceptT.bindCont k (m s).1 (m s).2 = _
  rw [h]
  rfl

theorem bind_error {m : Effect ε σ α} {k : α → Effect ε σ β} {s s' : σ} {e : ε}
    (h : m s = (.error e, s')) : (m >>= k) s = (.error e, s') := by
  change ExceptT.bindCont k (m s).1 (m s).2 = _
  rw [h]
  rfl

theorem tryCatch_ok {m : Effect ε σ α} {handler : ε → Effect ε σ α} {s s' : σ} {a : α}
    (h : m s = (.ok a, s')) : (tryCatch m handler) s = (.ok a, s') := by
  change (match (m s).1 with
    | .ok a => pure (.ok a)
    | .error e => handler e : StateM σ (Except ε α)) (m s).2 = _
  rw [h]
  rfl

theorem tryCatch_error {m : Effect ε σ α} {handler : ε → Effect ε σ α} {s s' : σ} {e : ε}
    (h : m s = (.error e, s')) : (tryCatch m handler) s = handler e s' := by
  change (match (m s).1 with
    | .ok a => pure (.ok a)
    | .error e => handler e : StateM σ (Except ε α)) (m s).2 = _
  rw [h]

@[simp] theorem throw_apply (e : ε) (s : σ) : (throw e : Effect ε σ α) s = (.error e, s) := rfl

@[simp] theorem read_apply (f : σ → α) (s : σ) :
    (read f : Effect ε σ α) s = (.ok (f s), s) := rfl

theorem zoom_apply {get : τ → σ} {set : σ → τ → τ} {m : Effect ε σ α} {t : τ}
    {result : Except ε α} {s : σ} (h : m (get t) = (result, s)) :
    zoom get set m t = (result, set s t) := by
  simp [zoom, h]

theorem first_apply {m : Effect ε σ α} {result : Except ε α} {s s' : σ}
    (h : m s = (result, s')) (t : τ) : m.first (s, t) = (result, (s', t)) := by
  simp [first, zoom, h]

theorem withBlock_ok {exit : Option ε → Effect ε σ PUnit} {body : Effect ε σ α} {s s' s'' : σ}
    {a : α} (hbody : body s = (.ok a, s')) (hexit : exit none s' = (.ok ⟨⟩, s'')) :
    withBlock exit body s = (.ok a, s'') := by
  rw [withBlock, hbody]
  exact bind_ok hexit

end Effect
