import Mathlib.Logic.Equiv.Defs
import Mathlib.Logic.Function.Basic
import SqlGateway.Library.Program
import SqlGateway.Library.Transition

universe u

/-! Programs that take turns at their calls -/

namespace Interleaving

/-- A world that is in part a thread's own and in part shared, and what events make of what can be
seen of the shared part. -/
structure Setting (World Own Shared View Event : Type u) where
  parts : World ≃ Own × Shared
  view : Shared → View
  apply : View → Event → View

variable {ε α β World Own Shared View Event ι : Type u}
  (setting : Setting World Own Shared View Event)

/-- A call of one thread, with what the others have left of the shared part. -/
def Setting.perform (m : Effect ε World β) (own : Own) (shared : Shared) :
    Except ε β × Own × Shared :=
  let ending := m (setting.parts.symm (own, shared))
  (ending.1, setting.parts ending.2)

/-- Each call is so many events, all events so far satisfy `P`, and the program ends in `Q`. -/
def Within (P : List Event → Prop) (Q : Except ε α → Own → List Event → Prop) :
    Program ε World α → Own → List Event → Prop
  | .done result, own, events => P events ∧ Q result own events
  | .call m next, own, events => P events ∧ ∀ shared, ∃ new,
    setting.view (setting.perform m own shared).2.2 = new.foldl setting.apply (setting.view shared) ∧
      Within P Q (next (setting.perform m own shared).1) (setting.perform m own shared).2.1
        (events ++ new)

variable {setting} {P P' : List Event → Prop} {Q Q' : Except ε α → Own → List Event → Prop}
  {R : Except ε β → Own → List Event → Prop} {own : Own} {events : List Event}

theorem Within.always {p : Program ε World α} (h : Within setting P Q p own events) : P events := by
  cases p with
  | done result => exact h.1
  | call m next => exact h.1

theorem Within.mono {p : Program ε World α} (h : Within setting P Q p own events)
    (hQ : ∀ result own events, Q result own events → Q' result own events) :
    Within setting P Q' p own events := by
  induction p generalizing own events with
  | done result => exact ⟨h.1, hQ _ _ _ h.2⟩
  | call m next ih =>
    refine ⟨h.1, fun shared => ?_⟩
    obtain ⟨new, hnew, hnext⟩ := h.2 shared
    exact ⟨new, hnew, ih _ hnext⟩

theorem Within.weaken {p : Program ε World α} (h : Within setting P Q p own events)
    (hP : ∀ events, P events → P' events) : Within setting P' Q p own events := by
  induction p generalizing own events with
  | done result => exact ⟨hP _ h.1, h.2⟩
  | call m next ih =>
    refine ⟨hP _ h.1, fun shared => ?_⟩
    obtain ⟨new, hnew, hnext⟩ := h.2 shared
    exact ⟨new, hnew, ih _ hnext⟩

theorem Within.pure {a : α} (hP : P events) (hQ : Q (.ok a) own events) :
    Within setting P Q (pure a) own events := ⟨hP, hQ⟩

theorem Within.ofEffect {m : Effect ε World α} (hP : P events)
    (h : ∀ shared, ∃ new,
      setting.view (setting.perform m own shared).2.2 =
          new.foldl setting.apply (setting.view shared) ∧
        P (events ++ new) ∧
          Q (setting.perform m own shared).1 (setting.perform m own shared).2.1 (events ++ new)) :
    Within setting P Q (.ofEffect m) own events := ⟨hP, h⟩

theorem Within.bind {p : Program ε World α} {k : α → Program ε World β}
    (h : Within setting P Q p own events)
    (hk : ∀ a own events, P events → Q (.ok a) own events → Within setting P R (k a) own events)
    (hraise : ∀ e own events, Q (.error e) own events → R (.error e) own events) :
    Within setting P R (p >>= k) own events := by
  induction p generalizing own events with
  | done result =>
    cases result with
    | ok a => exact hk a own events h.1 h.2
    | error e => exact ⟨h.1, hraise e own events h.2⟩
  | call m next ih =>
    refine ⟨h.1, fun shared => ?_⟩
    obtain ⟨new, hnew, hnext⟩ := h.2 shared
    exact ⟨new, hnew, ih _ hnext⟩

theorem Within.handle {p : Program ε World α} {handler : ε → Program ε World α}
    (h : Within setting P Q p own events)
    (hreturn : ∀ a own events, Q (.ok a) own events → Q' (.ok a) own events)
    (hhandler : ∀ e own events, P events → Q (.error e) own events →
      Within setting P Q' (handler e) own events) :
    Within setting P Q' (p.handle handler) own events := by
  induction p generalizing own events with
  | done result =>
    cases result with
    | ok a => exact ⟨h.1, hreturn a own events h.2⟩
    | error e => exact hhandler e own events h.1 h.2
  | call m next ih =>
    refine ⟨h.1, fun shared => ?_⟩
    obtain ⟨new, hnew, hnext⟩ := h.2 shared
    exact ⟨new, hnew, ih _ hnext⟩

theorem Within.withBlock {p : Program ε World α} {exit : Option ε → Program ε World PUnit}
    {Rleave : α → Except ε PUnit → Own → List Event → Prop}
    {Rraise : ε → Except ε PUnit → Own → List Event → Prop}
    (h : Within setting P Q p own events)
    (hleave : ∀ a own events, P events → Q (.ok a) own events →
      Within setting P (Rleave a) (exit none) own events)
    (hraise : ∀ e own events, P events → Q (.error e) own events →
      Within setting P (Rraise e) (exit (some e)) own events)
    (hleft : ∀ a own events, Rleave a (.ok ⟨⟩) own events → Q' (.ok a) own events)
    (hraised : ∀ e own events, Rraise e (.ok ⟨⟩) own events → Q' (.error e) own events)
    (hexit : ∀ e own events, (∃ a, Rleave a (.error e) own events) ∨
      (∃ e', Rraise e' (.error e) own events) → Q' (.error e) own events) :
    Within setting P Q' (p.withBlock exit) own events := by
  induction p generalizing own events with
  | done result =>
    cases result with
    | ok a =>
      exact (hleave a own events h.1 h.2).bind
        (fun _ own events hP hR => ⟨hP, hleft a own events hR⟩)
        fun e own events hR => hexit e own events (.inl ⟨a, hR⟩)
    | error e =>
      exact (hraise e own events h.1 h.2).bind
        (fun _ own events hP hR => ⟨hP, hraised e own events hR⟩)
        fun e' own events hR => hexit e' own events (.inr ⟨e, hR⟩)
  | call m next ih =>
    refine ⟨h.1, fun shared => ?_⟩
    obtain ⟨new, hnew, hnext⟩ := h.2 shared
    exact ⟨new, hnew, ih _ hnext⟩

structure State (ε α World Own Shared ι : Type u) : Type (u + 1) where
  thread : ι → Program ε World α
  part : ι → Own
  shared : Shared

variable [DecidableEq ι]

inductive Step (setting : Setting World Own Shared View Event) :
    State ε α World Own Shared ι → ι → State ε α World Own Shared ι → Prop
  | call {s : State ε α World Own Shared ι} {i : ι} {β : Type u} {m : Effect ε World β}
      {next : Except ε β → Program ε World α} :
    s.thread i = .call m next →
    Step setting s i
      { thread := Function.update s.thread i (next (setting.perform m (s.part i) s.shared).1)
        part := Function.update s.part i (setting.perform m (s.part i) s.shared).2.1
        shared := (setting.perform m (s.part i) s.shared).2.2 }

def State.turn (setting : Setting World Own Shared View Event) (s : State ε α World Own Shared ι)
    (i : ι) : State ε α World Own Shared ι :=
  match s.thread i with
  | .done _ => s
  | .call m next =>
    { thread := Function.update s.thread i (next (setting.perform m (s.part i) s.shared).1)
      part := Function.update s.part i (setting.perform m (s.part i) s.shared).2.1
      shared := (setting.perform m (s.part i) s.shared).2.2 }

def eventsOf (order : List (ι × Event)) (i : ι) : List Event :=
  (order.filter fun event => event.1 = i).map Prod.snd

theorem eventsOf_append_self (order : List (ι × Event)) (i : ι) (new : List Event) :
    eventsOf (order ++ new.map (Prod.mk i)) i = eventsOf order i ++ new := by
  simp [eventsOf, List.filter_map, Function.comp_def]

theorem eventsOf_append_of_ne (order : List (ι × Event)) {i j : ι} (h : j ≠ i) (new : List Event) :
    eventsOf (order ++ new.map (Prod.mk i)) j = eventsOf order j := by
  simp [eventsOf, List.filter_map, Function.comp_def, Ne.symm h]

/-- The threads' events, in the order in which they happened, and what each has still to do. -/
structure Explained (setting : Setting World Own Shared View Event) (P : ι → List Event → Prop)
    (Q : ι → Except ε α → Own → List Event → Prop) (start : View)
    (s : State ε α World Own Shared ι) (order : List (ι × Event)) : Prop where
  view : setting.view s.shared = (order.map Prod.snd).foldl setting.apply start
  within : ∀ i, Within setting (P i) (Q i) (s.thread i) (s.part i) (eventsOf order i)

variable {s s' : State ε α World Own Shared ι} {labels : List ι} {P : ι → List Event → Prop}
  {Q : ι → Except ε α → Own → List Event → Prop} {start : View} {order : List (ι × Event)}

theorem Step.explained {i : ι} (h : Step setting s i s')
    (hs : Explained setting P Q start s order) :
    ∃ order', Explained setting P Q start s' order' := by
  cases h with
  | @call _ m next hthread =>
    have hi := hs.within i
    rw [hthread] at hi
    obtain ⟨new, hnew, hnext⟩ := hi.2 s.shared
    refine ⟨order ++ new.map (Prod.mk i), ?_, fun j => ?_⟩
    · rw [hnew, hs.view, List.map_append, List.foldl_append, List.map_map]
      exact congrArg (List.foldl _ _) (List.map_id new).symm
    · by_cases hj : j = i
      · subst hj
        simp only [Function.update_self, eventsOf_append_self]
        exact hnext
      · simp only [Function.update_of_ne hj, eventsOf_append_of_ne order hj]
        exact hs.within j

/-- What is proved of each program by itself holds of all of them in every interleaving. -/
theorem run_explained (h : Transition.Run (Step setting) s labels s')
    (hs : ∀ i, Within setting (P i) (Q i) (s.thread i) (s.part i) []) :
    ∃ order, Explained setting P Q (setting.view s.shared) s' order := by
  induction h with
  | nil => exact ⟨[], rfl, hs⟩
  | snoc _ hlast ih =>
    obtain ⟨order, hexplained⟩ := ih
    exact hlast.explained hexplained

theorem run_turn (s : State ε α World Own Shared ι) (i : ι) :
    ∃ labels, Transition.Run (Step setting) s labels (s.turn setting i) := by
  cases hthread : s.thread i with
  | done result =>
    simp only [State.turn, hthread]
    exact ⟨[], .nil⟩
  | call m next =>
    simp only [State.turn, hthread]
    exact ⟨[i], .snoc .nil (.call hthread)⟩

theorem run_turns (turns : List ι) (s : State ε α World Own Shared ι) :
    ∃ labels, Transition.Run (Step setting) s labels (turns.foldl (State.turn setting) s) := by
  induction turns generalizing s with
  | nil => exact ⟨[], .nil⟩
  | cons i turns ih =>
    obtain ⟨labels, hrun⟩ := ih (s.turn setting i)
    obtain ⟨labels', hturn⟩ := run_turn s i
    exact ⟨labels' ++ labels, hturn.append hrun⟩

/-- The state in which one program has run without any other. -/
def State.alone (setting : Setting World Own Shared View Event) (s : State ε α World Own Shared ι)
    (i : ι) : State ε α World Own Shared ι :=
  let ending := (s.thread i).run (setting.parts.symm (s.part i, s.shared))
  { thread := Function.update s.thread i (.done ending.1)
    part := Function.update s.part i (setting.parts ending.2).1
    shared := (setting.parts ending.2).2 }

theorem alone_done {i : ι} {result : Except ε α} (h : s.thread i = .done result) :
    s.alone setting i = s := by
  have hrun : (s.thread i).run (setting.parts.symm (s.part i, s.shared)) =
      (result, setting.parts.symm (s.part i, s.shared)) := by
    rw [h]
    rfl
  simp only [State.alone, hrun, Equiv.apply_symm_apply, Function.update_eq_self, ← h]

theorem Step.alone {i : ι} (h : Step setting s i s') : s'.alone setting i = s.alone setting i := by
  cases h with
  | @call _ m next hthread =>
    have hparts (world : World) :
        setting.parts.symm ((setting.parts world).1, (setting.parts world).2) = world :=
      setting.parts.symm_apply_apply world
    simp only [State.alone, Function.update_self, Function.update_idem, hthread, Setting.perform,
      hparts]
    rfl

/-- Left alone, a thread ends as its program does when its calls are one. -/
theorem run_alone (s : State ε α World Own Shared ι) (i : ι) :
    ∃ labels, Transition.Run (Step setting) s labels (s.alone setting i) := by
  generalize hp : s.thread i = p
  induction p generalizing s with
  | done result =>
    rw [alone_done hp]
    exact ⟨[], .nil⟩
  | call m next ih =>
    obtain ⟨s', result, hstep, hthread⟩ :
        ∃ s' result, Step setting s i s' ∧ s'.thread i = next result :=
      ⟨_, _, .call hp, Function.update_self i _ _⟩
    obtain ⟨labels, hrun⟩ := ih result s' hthread
    rw [hstep.alone] at hrun
    exact ⟨[i] ++ labels, Transition.Run.append (.snoc .nil hstep) hrun⟩

end Interleaving
