import SqlGateway.Library.Effect

universe u

/-! What a call guarantees for each of its two endings -/

namespace Effect

variable {ε σ α β : Type u}

/-- From `s` the call returns in `Q` or raises in `E`. -/
structure Triple (m : Effect ε σ α) (s : σ) (Q : α → σ → Prop) (E : ε → σ → Prop) : Prop where
  returns : ∀ {a s'}, m s = (.ok a, s') → Q a s'
  raises : ∀ {e s'}, m s = (.error e, s') → E e s'

variable {m : Effect ε σ α} {s : σ} {Q Q' : α → σ → Prop} {R : β → σ → Prop}
  {E E' : ε → σ → Prop}

theorem Triple.of_apply {result : Except ε α} {s' : σ} (h : m s = (result, s'))
    (hok : ∀ a, result = .ok a → Q a s') (herror : ∀ e, result = .error e → E e s') :
    Triple m s Q E := by
  constructor
  · intro a s'' hm
    rw [h] at hm
    cases hm
    exact hok a rfl
  · intro e s'' hm
    rw [h] at hm
    cases hm
    exact herror e rfl

theorem Triple.mono (h : Triple m s Q E) (hQ : ∀ a s', Q a s' → Q' a s')
    (hE : ∀ e s', E e s' → E' e s') : Triple m s Q' E' where
  returns hm := hQ _ _ (h.returns hm)
  raises hm := hE _ _ (h.raises hm)

theorem Triple.pure {a : α} (h : Q a s) : Triple (pure a : Effect ε σ α) s Q E := by
  apply Triple.of_apply (by rfl : (Pure.pure a : Effect ε σ α) s = (.ok a, s))
  · rintro _ ⟨⟩
    exact h
  · rintro _ ⟨⟩

theorem Triple.throw {e : ε} (h : E e s) : Triple (throw e : Effect ε σ α) s Q E := by
  apply Triple.of_apply (throw_apply e s)
  · rintro _ ⟨⟩
  · rintro _ ⟨⟩
    exact h

theorem Triple.read {f : σ → α} (h : Q (f s) s) : Triple (read f : Effect ε σ α) s Q E := by
  apply Triple.of_apply (read_apply f s)
  · rintro _ ⟨⟩
    exact h
  · rintro _ ⟨⟩

theorem Triple.ofResult {result : Except ε α} (hok : ∀ a, result = .ok a → Q a s)
    (herror : ∀ e, result = .error e → E e s) : Triple (ofResult result) s Q E :=
  .of_apply (by rfl : Effect.ofResult result s = (result, s)) hok herror

theorem Triple.of_eq {m' : Effect ε σ α} {s' : σ} (heq : m s = m' s') (h : Triple m' s' Q E) :
    Triple m s Q E where
  returns hm := h.returns (heq ▸ hm)
  raises hm := h.raises (heq ▸ hm)

theorem Triple.bind {k : α → Effect ε σ β} (hm : Triple m s Q E)
    (hk : ∀ a s', Q a s' → Triple (k a) s' R E) : Triple (m >>= k) s R E := by
  rcases h : m s with ⟨e | a, s'⟩
  · apply Triple.of_eq ((bind_error h).trans (throw_apply e s').symm)
    exact .throw (hm.raises h)
  · exact .of_eq (bind_ok h) (hk a s' (hm.returns h))

theorem Triple.tryCatch {handler : ε → Effect ε σ α} (hm : Triple m s Q E)
    (hhandler : ∀ e s', E e s' → Triple (handler e) s' Q E') :
    Triple (tryCatch m handler) s Q E' := by
  rcases h : m s with ⟨e | a, s'⟩
  · exact .of_eq (tryCatch_error h) (hhandler e s' (hm.raises h))
  · apply Triple.of_eq ((tryCatch_ok h).trans (by rfl : _ = (Pure.pure a : Effect ε σ α) s'))
    exact .pure (hm.returns h)

/-- The exit takes over what the body ended in, and may itself raise. -/
theorem Triple.withBlock {exit : Option ε → Effect ε σ PUnit} {body : Effect ε σ α}
    (hbody : Triple body s Q E)
    (hleave : ∀ a s', Q a s' → Triple (exit none) s' (fun _ => Q' a) E')
    (hraise : ∀ e s', E e s' → Triple (exit (some e)) s' (fun _ => E' e) E') :
    Triple (withBlock exit body) s Q' E' := by
  rcases h : body s with ⟨e | a, s'⟩
  · have heq : Effect.withBlock exit body s =
        (do exit (some e); MonadExcept.throw e : Effect ε σ α) s' := by rw [Effect.withBlock, h]
    exact .of_eq heq ((hraise e s' (hbody.raises h)).bind fun _ _ he => .throw he)
  · have heq : Effect.withBlock exit body s =
        (do exit none; return a : Effect ε σ α) s' := by rw [Effect.withBlock, h]
    exact .of_eq heq ((hleave a s' (hbody.returns h)).bind fun _ _ ha => .pure ha)

end Effect
