import SqlGateway.Sql.Expression

namespace SqlGateway.Sql.Expression

mutual

/-- Put a tree in the place of every constant. -/
def substitute (σ : Address → ConstantForm → String → Expression) : Expression → Expression
  | .constant form this => σ [] form this
  | .node cls scalars args => .node cls scalars (substituteArgs σ 0 args)

def substituteArgs (σ : Address → ConstantForm → String → Expression) (i : Nat) :
    List (ArgKey × Expression) → List (ArgKey × Expression)
  | [] => []
  | a :: args => substituteArg (fun address => σ (i :: address)) a :: substituteArgs σ (i + 1) args

def substituteArg (σ : Address → ConstantForm → String → Expression) :
    ArgKey × Expression → ArgKey × Expression
  | (key, e) => (key, e.substitute σ)

end

def erase (p : ConstantForm → Bool) : Expression → Expression :=
  substitute fun _ form this => .constant form (if p form then "" else this)

def eraseConstants : Expression → Expression := erase fun _ => true

def eraseLiterals : Expression → Expression := erase ConstantForm.isLiteral

theorem getElem?_substituteArgs (σ : Address → ConstantForm → String → Expression) (i j : Nat)
    (args : List (ArgKey × Expression)) :
    (substituteArgs σ i args)[j]? =
      args[j]?.map fun a => (a.1, a.2.substitute fun address => σ ((i + j) :: address)) := by
  induction args generalizing i j with
  | nil => simp [substituteArgs]
  | cons a args ih =>
    obtain ⟨key, e⟩ := a
    cases j with
    | zero => simp [substituteArgs, substituteArg]
    | succ j =>
      have hj : i + 1 + j = i + (j + 1) := by omega
      simp [substituteArgs, ih, hj]

theorem substitute_constant (e : Expression) : e.substitute (fun _ => .constant) = e := by
  induction e with
  | constant form this => rfl
  | node cls scalars args ih =>
    simp only [substitute, node.injEq, true_and]
    apply List.ext_getElem?
    intro j
    rw [getElem?_substituteArgs]
    cases ha : args[j]? with
    | none => rfl
    | some a => simp [ih a (List.mem_of_getElem? ha)]

theorem at?_substitute (σ : Address → ConstantForm → String → Expression) {e n : Expression}
    {address : Address} (h : e.at? address = some n) :
    (e.substitute σ).at? address = some (n.substitute fun rest => σ (address ++ rest)) := by
  induction address generalizing e σ with
  | nil =>
    rw [at?_nil] at h
    cases h
    rw [at?_nil]
    rfl
  | cons i address ih =>
    cases e with
    | constant form this => simp [at?_cons, Expression.args] at h
    | node cls scalars args =>
      rw [at?_cons] at h
      obtain ⟨a, ha, hn⟩ := Option.bind_eq_some_iff.mp h
      rw [at?_cons]
      change (substituteArgs σ 0 args)[i]?.bind _ = _
      rw [getElem?_substituteArgs, show args[i]? = some a from ha]
      simpa using ih (fun rest => σ (i :: rest)) hn

/-- What stands in the place of a constant has no nodes below it, so every node of the new
tree is at an address of the old one. -/
theorem exists_at?_of_substitute {σ : Address → ConstantForm → String → Expression}
    (hleaf : ∀ address form this, (σ address form this).args = []) {e n : Expression}
    {address : Address} (h : (e.substitute σ).at? address = some n) :
    ∃ n', e.at? address = some n' ∧ n = n'.substitute fun rest => σ (address ++ rest) := by
  induction address generalizing e σ with
  | nil =>
    rw [at?_nil] at h
    cases h
    exact ⟨e, at?_nil e, rfl⟩
  | cons i address ih =>
    cases e with
    | constant form this =>
      rw [substitute, at?_cons, hleaf] at h
      cases h
    | node cls scalars args =>
      rw [at?_cons] at h
      change (substituteArgs σ 0 args)[i]?.bind _ = _ at h
      rw [getElem?_substituteArgs, Nat.zero_add] at h
      cases ha : args[i]? with
      | none =>
        rw [ha] at h
        cases h
      | some a =>
        rw [ha] at h
        obtain ⟨n', hn', rfl⟩ := ih (fun rest => hleaf (i :: rest)) h
        refine ⟨n', ?_, rfl⟩
        rw [at?_cons, Expression.args, ha]
        exact hn'

/-- Two trees of one shape become equal exactly if their constants become equal. -/
theorem substitute_eq_iff {σ₁ σ₂ : Address → ConstantForm → String → Expression}
    {e₁ e₂ : Expression} (hshape : e₁.eraseConstants = e₂.eraseConstants) :
    e₁.substitute σ₁ = e₂.substitute σ₂ ↔
      ∀ address form this₁ this₂, e₁.at? address = some (.constant form this₁) →
        e₂.at? address = some (.constant form this₂) →
        σ₁ address form this₁ = σ₂ address form this₂ := by
  constructor
  · intro h address form this₁ this₂ h₁ h₂
    have hs₁ := at?_substitute σ₁ h₁
    have hs₂ := at?_substitute σ₂ h₂
    rw [h, hs₂] at hs₁
    simpa [substitute] using (Option.some.inj hs₁).symm
  · intro h
    induction e₁ generalizing e₂ σ₁ σ₂ with
    | constant form this =>
      cases e₂ with
      | node cls scalars args => cases hshape
      | constant form' this' =>
        cases hshape
        exact h [] form this this' rfl rfl
    | node cls scalars args ih =>
      cases e₂ with
      | constant form this => cases hshape
      | node cls' scalars' args' =>
        simp only [eraseConstants, erase, substitute, node.injEq] at hshape ⊢
        refine ⟨hshape.1, hshape.2.1, ?_⟩
        apply List.ext_getElem?
        intro j
        have hj := congrArg (fun args => args[j]?) hshape.2.2
        simp only [getElem?_substituteArgs] at hj ⊢
        cases ha : args[j]? with
        | none =>
          cases ha' : args'[j]? with
          | none => rfl
          | some a' => simp [ha, ha'] at hj
        | some a =>
          cases ha' : args'[j]? with
          | none => simp [ha, ha'] at hj
          | some a' =>
            simp only [ha, ha', Option.map_some, Option.some.injEq, Prod.mk.injEq] at hj ⊢
            refine ⟨hj.1, ih a (List.mem_of_getElem? ha) hj.2 ?_⟩
            intro address form this₁ this₂ h₁ h₂
            apply h
            · rw [at?_cons]
              simp [Expression.args, ha, h₁]
            · rw [at?_cons]
              simp [Expression.args, ha', h₂]

theorem substituteArgs_const (f : ConstantForm → String → Expression) (i : Nat)
    (args : List (ArgKey × Expression)) :
    substituteArgs (fun _ => f) i args = args.map fun a => (a.1, a.2.substitute fun _ => f) := by
  apply List.ext_getElem?
  intro j
  rw [getElem?_substituteArgs, List.getElem?_map]

@[simp] theorem args_erase (p : ConstantForm → Bool) (e : Expression) :
    (e.erase p).args = e.args.map fun a => (a.1, a.2.erase p) := by
  cases e with
  | constant form this => rfl
  | node cls scalars args => exact substituteArgs_const _ 0 args

@[simp] theorem isLiteral_erase (p : ConstantForm → Bool) (e : Expression) :
    (e.erase p).isLiteral = e.isLiteral := by
  cases e <;> rfl

theorem at?_erase (p : ConstantForm → Bool) (e : Expression) (address : Address) :
    (e.erase p).at? address = (e.at? address).map (erase p) := by
  induction address generalizing e with
  | nil => simp
  | cons i address ih =>
    rw [at?_cons, at?_cons, args_erase, List.getElem?_map]
    cases e.args[i]? with
    | none => rfl
    | some a => exact ih a.2

theorem constant_of_eraseConstants_eq {e₁ e₂ : Expression}
    (h : e₁.eraseConstants = e₂.eraseConstants) {address : Address} {form : ConstantForm}
    {this : String} (hat : e₁.at? address = some (.constant form this)) :
    ∃ this', e₂.at? address = some (.constant form this') := by
  have h₂ := at?_erase (fun _ => true) e₂ address
  rw [← eraseConstants, ← h, eraseConstants, at?_erase, hat] at h₂
  obtain ⟨n, hn, herase⟩ := Option.map_eq_some_iff.mp h₂.symm
  cases n with
  | constant form' this' =>
    cases herase
    exact ⟨this', hn⟩
  | node cls scalars args => cases herase

theorem size_eq (e : Expression) : e.size = (e.args.map fun a => a.2.size).sum + 1 := by
  cases e with
  | constant form this => rfl
  | node cls scalars args => simp [size, sizeArgs_eq, Expression.args]

@[simp] theorem size_erase (p : ConstantForm → Bool) (e : Expression) :
    (e.erase p).size = e.size := by
  induction e with
  | constant form this => rfl
  | node cls scalars args ih =>
    rw [size_eq, size_eq, args_erase, List.map_map]
    apply congrArg (· + 1)
    apply congrArg List.sum
    apply List.map_congr_left
    exact ih

def eraseOccurrence (p : ConstantForm → Bool) (o : Occurrence) : Occurrence :=
  ⟨o.node.erase p, o.parent.map (erase p), o.argKey⟩

theorem walk_erase (p : ConstantForm → Bool) (e : Expression) :
    (e.erase p).walk = e.walk.map fun a => (a.1, eraseOccurrence p a.2) := by
  refine BreadthFirst.Branching.walk_map Occurrence.branching.addressed
    Occurrence.branching.addressed (fun a => (a.1, eraseOccurrence p a.2)) ?_ ?_ ([], .root e)
  · intro a
    apply List.ext_getElem?
    intro i
    simp [BreadthFirst.Branching.addressed, Occurrence.branching, Occurrence.children,
      eraseOccurrence, Function.comp_def]
  · intro a
    exact size_erase p a.2.node

def literalAddresses (e : Expression) : List Address := (e.findAll isLiteral).map Prod.fst

theorem literalAddresses_erase (p : ConstantForm → Bool) (e : Expression) :
    (e.erase p).literalAddresses = e.literalAddresses := by
  rw [literalAddresses, literalAddresses, findAll, walk_erase, List.filter_map, List.map_map]
  apply congrArg
  apply List.filter_congr
  intro a _
  exact isLiteral_erase p a.2.node

theorem literalAddresses_congr {e₁ e₂ : Expression} (h : e₁.eraseConstants = e₂.eraseConstants) :
    e₁.literalAddresses = e₂.literalAddresses := by
  rw [← literalAddresses_erase (fun _ => true), ← literalAddresses_erase (fun _ => true) e₂]
  exact congrArg literalAddresses h

theorem mem_literalAddresses {e : Expression} {address : Address} :
    address ∈ e.literalAddresses ↔
      ∃ form this, form.isLiteral = true ∧ e.at? address = some (.constant form this) := by
  constructor
  · intro h
    obtain ⟨⟨_, o⟩, ha, rfl⟩ := List.mem_map.mp h
    obtain ⟨hwalk, hliteral⟩ := List.mem_filter.mp ha
    have hat := at?_of_mem_walk hwalk
    obtain ⟨n, parent, key⟩ := o
    cases n with
    | constant form this => exact ⟨form, this, hliteral, hat⟩
    | node cls scalars args => cases hliteral
  · rintro ⟨form, this, hform, hat⟩
    obtain ⟨o, ho, hn⟩ := exists_mem_walk hat
    exact List.mem_map.mpr ⟨_, List.mem_filter.mpr ⟨ho, by rw [hn]; exact hform⟩, rfl⟩

theorem literalAddresses_of_isLiteral {e : Expression} (h : e.isLiteral = true) :
    e.literalAddresses = [[]] := by
  cases e with
  | node cls scalars args => cases h
  | constant form this =>
    have h : form.isLiteral = true := h
    simp [literalAddresses, findAll, walk, BreadthFirst.Branching.walk,
      BreadthFirst.Branching.addressed, Occurrence.branching, Occurrence.root, size,
      BreadthFirst.Branching.visit, isLiteral, h]

theorem literalAddresses_nodup (e : Expression) : e.literalAddresses.Nodup :=
  (walk_nodup e).sublist (List.filter_sublist.map _)

def replaceAt : Expression → Address → Expression → Expression
  | _, [], replacement => replacement
  | .constant form this, _ :: _, _ => .constant form this
  | .node cls scalars args, i :: address, replacement =>
    .node cls scalars (args.modify i fun a => (a.1, a.2.replaceAt address replacement))

theorem replaceAt_substitute (replacement : Expression)
    (σ : Address → ConstantForm → String → Expression) {e : Expression} {address : Address}
    {form : ConstantForm} {this : String} (h : e.at? address = some (.constant form this)) :
    (e.substitute σ).replaceAt address replacement =
      e.substitute (Function.update σ address fun _ _ => replacement) := by
  induction address generalizing e σ with
  | nil =>
    rw [at?_nil] at h
    cases h
    simp [substitute, replaceAt]
  | cons i address ih =>
    cases e with
    | constant form' this' => simp [at?_cons, Expression.args] at h
    | node cls scalars args =>
      rw [at?_cons] at h
      obtain ⟨a, ha, hn⟩ := Option.bind_eq_some_iff.mp h
      simp only [substitute, replaceAt, node.injEq, true_and]
      apply List.ext_getElem?
      intro j
      rw [List.getElem?_modify, getElem?_substituteArgs, getElem?_substituteArgs, Nat.zero_add]
      by_cases hij : i = j
      · subst hij
        have hupdate : (fun rest => Function.update σ (i :: address) (fun _ _ => replacement)
            (i :: rest)) =
            Function.update (fun rest => σ (i :: rest)) address fun _ _ => replacement := by
          funext rest
          by_cases hrest : rest = address <;> simp [hrest]
        have ha' : args[i]? = some a := ha
        rw [hupdate, ha']
        simp [ih _ hn]
      · have hupdate : (fun rest => Function.update σ (i :: address) (fun _ _ => replacement)
            (j :: rest)) = fun rest => σ (j :: rest) := by
          funext rest
          simp [Ne.symm hij]
        rw [hupdate]
        simp [hij]

theorem foldl_replaceAt (e : Expression) (replacement : Address → Expression)
    (σ : Address → ConstantForm → String → Expression) (addresses : List Address)
    (h : ∀ address ∈ addresses, ∃ form this, e.at? address = some (.constant form this)) :
    addresses.foldl (fun tree address => tree.replaceAt address (replacement address))
        (e.substitute σ) =
      e.substitute fun address form this =>
        if address ∈ addresses then replacement address else σ address form this := by
  induction addresses generalizing σ with
  | nil => simp
  | cons address addresses ih =>
    obtain ⟨form, this, hat⟩ := h address (by simp)
    rw [List.foldl_cons, replaceAt_substitute _ _ hat, ih _ fun a ha => h a (by simp [ha])]
    apply congrArg (substitute · e)
    funext a form this
    by_cases ha : a = address
    · simp [ha]
    · simp [ha]

end SqlGateway.Sql.Expression
