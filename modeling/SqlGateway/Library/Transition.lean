universe u v

/-! Finite runs of a labelled transition relation -/

namespace Transition

variable {State : Type u} {Label : Type v}

inductive Run (step : State → Label → State → Prop) (s : State) : List Label → State → Prop
  | nil : Run step s [] s
  | snoc {labels : List Label} {label : Label} {s' s'' : State} :
    Run step s labels s' → step s' label s'' → Run step s (labels ++ [label]) s''

variable {step step' : State → Label → State → Prop} {s s' : State} {labels : List Label}

/-- An invariant whose step may use what is known of every state that a run reaches. -/
theorem Run.invariant_of_reached {known inv : State → Prop} (h : Run step s labels s')
    (hknown : ∀ {labels s'}, Run step s labels s' → known s') (hinit : inv s)
    (hstep : ∀ s label s', known s → inv s → step s label s' → inv s') : inv s' := by
  induction h with
  | nil => exact hinit
  | snoc hbefore hlast ih => exact hstep _ _ _ (hknown hbefore) ih hlast

theorem Run.invariant {inv : State → Prop} (h : Run step s labels s') (hinit : inv s)
    (hstep : ∀ s label s', inv s → step s label s' → inv s') : inv s' :=
  h.invariant_of_reached (fun _ => trivial) hinit fun s label s' _ => hstep s label s'

theorem Run.mono (h : Run step s labels s')
    (hstep : ∀ s label s', step s label s' → step' s label s') : Run step' s labels s' := by
  induction h with
  | nil => exact .nil
  | snoc _ hlast ih => exact .snoc ih (hstep _ _ _ hlast)

theorem Run.append {s'' : State} {labels' : List Label} (h : Run step s labels s')
    (h' : Run step s' labels' s'') : Run step s (labels ++ labels') s'' := by
  induction h' with
  | nil => rwa [List.append_nil]
  | snoc _ hlast ih =>
    rw [← List.append_assoc]
    exact .snoc ih hlast

/-- A system whose steps another one sees as its own, or does not see, runs as that one does. -/
theorem Run.project {State' : Type u} {Label' : Type v} {step' : State' → Label' → State' → Prop}
    (f : State → State') (h : Run step s labels s')
    (hstep : ∀ s label s', step s label s' → f s' = f s ∨ ∃ label', step' (f s) label' (f s')) :
    ∃ labels', Run step' (f s) labels' (f s') := by
  induction h with
  | nil => exact ⟨[], .nil⟩
  | snoc _ hlast ih =>
    obtain ⟨labels', hrun⟩ := ih
    rcases hstep _ _ _ hlast with heq | ⟨label', hlabel⟩
    · exact ⟨labels', heq ▸ hrun⟩
    · exact ⟨labels' ++ [label'], .snoc hrun hlabel⟩

end Transition
