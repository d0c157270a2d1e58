import SqlGateway.Library.Json

namespace Json

@[simp] theorem run_nil (s : State) : run s [] = some s := rfl

@[simp] theorem run_cons (s : State) (c : Char) (text : List Char) :
    run s (c :: text) = (step s c).bind fun s' => run s' text := rfl

theorem run_append (s : State) (first second : List Char) :
    run s (first ++ second) = (run s first).bind fun s' => run s' second := by
  simp [run, List.foldlM_append]

theorem run_append_of_some {s s' : State} {first : List Char} (h : run s first = some s')
    (second : List Char) : run s (first ++ second) = run s' second := by
  simp [run_append, h]

theorem run_append_of_none {s : State} {first : List Char} (h : run s first = none)
    (second : List Char) : run s (first ++ second) = none := by
  simp [run_append, h]

theorem isHex_hexDigit (n : Nat) : isHex (hexDigit n) = true := by
  have h : ∀ d, d < 16 → isHex (Nat.digitChar d) = true := by decide
  exact h _ (Nat.mod_lt _ (by omega))

theorem run_unicodeEscape (isKey : Bool) (stack : List Container) (n : Nat) :
    run (.string isKey, stack) (unicodeEscape n) = some (.string isKey, stack) := by
  simp [unicodeEscape, step, isHex_hexDigit]

/-- What `escapeChar` writes: a short escape, one or two unicode escapes, or the character. -/
@[elab_as_elim]
theorem escapeChar_induction {P : List Char → Prop} (o : Options) (c : Char)
    (short : ∀ d ∈ ['"', '\\', 'n', 'r', 't', 'f', 'b'], P ['\\', d])
    (unicode : ∀ n, P (unicodeEscape n))
    (self : c ≠ '"' → c ≠ '\\' → ¬ c.toNat < 0x20 → P [c])
    (pair : ∀ m n, P (unicodeEscape m ++ unicodeEscape n)) : P (escapeChar o c) := by
  unfold escapeChar
  refine iteInduction (fun _ => short _ (by simp)) fun hquote => ?_
  refine iteInduction (fun _ => short _ (by simp)) fun hbackslash => ?_
  refine iteInduction (fun _ => short _ (by simp)) fun _ => ?_
  refine iteInduction (fun _ => short _ (by simp)) fun _ => ?_
  refine iteInduction (fun _ => short _ (by simp)) fun _ => ?_
  refine iteInduction (fun _ => short _ (by simp)) fun _ => ?_
  refine iteInduction (fun _ => short _ (by simp)) fun _ => ?_
  refine iteInduction (fun _ => unicode _) fun hcontrol => ?_
  refine iteInduction (fun _ => self hquote hbackslash hcontrol) fun _ => ?_
  exact iteInduction (fun _ => unicode _) fun _ => pair _ _

theorem run_escapeChar (o : Options) (isKey : Bool) (stack : List Container) (c : Char) :
    run (.string isKey, stack) (escapeChar o c) = some (.string isKey, stack) := by
  refine escapeChar_induction o c ?_ (run_unicodeEscape isKey stack) ?_ ?_
  · intro d hd
    have hletter : d ∈ ['"', '\\', '/', 'b', 'f', 'n', 'r', 't'] := by
      simp only [List.mem_cons, List.not_mem_nil, or_false] at hd ⊢
      tauto
    have hbackslash : step (.string isKey, stack) '\\' = some (.escape isKey, stack) := rfl
    rw [run_cons, hbackslash, Option.bind_some, run_cons, step, if_pos hletter]
    rfl
  · intro hquote hbackslash hcontrol
    rw [run_cons, step, if_neg hquote, if_neg hbackslash, if_neg hcontrol]
    rfl
  · intro m n
    rw [run_append_of_some (run_unicodeEscape isKey stack m)]
    exact run_unicodeEscape isKey stack n

theorem run_escape (o : Options) (isKey : Bool) (stack : List Container) (p : CodePoint) :
    run (.string isKey, stack) (escape o p) = some (.string isKey, stack) := by
  cases p with
  | char c => exact run_escapeChar o isKey stack c
  | surrogate n =>
    unfold escape
    split_ifs
    · exact run_unicodeEscape isKey stack _
    · rfl

theorem run_escaped (o : Options) (isKey : Bool) (stack : List Container) (s : Text) :
    run (.string isKey, stack) (s.flatMap (escape o)) = some (.string isKey, stack) := by
  induction s with
  | nil => rfl
  | cons p s ih =>
    rw [List.flatMap_cons, run_append_of_some (run_escape o isKey stack p)]
    exact ih

theorem run_quoted (o : Options) (isKey : Bool) (stack : List Container) (s : Text) :
    run (.string isKey, stack) (s.flatMap (escape o) ++ ['"']) =
      some (if isKey then .colon else .done, stack) := by
  rw [run_append_of_some (run_escaped o isKey stack _)]
  simp [step]

theorem run_quote (o : Options) (stack : List Container) (s : Text) :
    run (.value, stack) (quote o s) = some (.done, stack) :=
  run_quoted o false stack s

theorem isDigit_digitChar {d : Nat} (h : d < 10) : (Nat.digitChar d).isDigit = true := by
  have all : ∀ d, d < 10 → (Nat.digitChar d).isDigit = true := by decide
  exact all d h

theorem digitChar_ne_zero {d : Nat} (h : d < 10) (h0 : d ≠ 0) : Nat.digitChar d ≠ '0' := by
  have all : ∀ d, d < 10 → d ≠ 0 → Nat.digitChar d ≠ '0' := by decide
  exact all d h h0

theorem toDigits_of_pos {n : Nat} (h : 0 < n) :
    ∃ c cs, Nat.toDigits 10 n = c :: cs ∧ c.isDigit = true ∧ c ≠ '0' ∧
      ∀ d ∈ cs, d.isDigit = true := by
  induction n using Nat.strongRecOn with
  | ind n ih =>
    by_cases hn : n < 10
    · exact ⟨_, [], Nat.toDigits_of_lt_base hn, isDigit_digitChar hn,
        digitChar_ne_zero hn (by omega), by simp⟩
    · obtain ⟨c, cs, hc, hd, h0, hcs⟩ := ih (n / 10) (by omega) (by omega)
      refine ⟨c, cs ++ [Nat.digitChar (n % 10)], ?_, hd, h0, ?_⟩
      · rw [Nat.toDigits_of_base_le (by omega) (by omega), hc, List.cons_append]
      · intro d hmem
        rcases List.mem_append.mp hmem with hmem | hmem
        · exact hcs d hmem
        · rw [List.mem_singleton.mp hmem]
          exact isDigit_digitChar (Nat.mod_lt _ (by omega))

def Absorbs (mode : Mode) : Prop :=
  ∀ stack c, c.isDigit = true → step (mode, stack) c = some (mode, stack)

theorem absorbs_digits : Absorbs .digits := fun _ c h => by simp [step, h]

theorem absorbs_fraction : Absorbs .fraction := fun _ c h => by simp [step, h]

theorem absorbs_exponentDigits : Absorbs .exponentDigits := fun _ c h => by simp [step, h]

theorem Absorbs.run {mode : Mode} (h : Absorbs mode) (stack : List Container) (cs : List Char)
    (hcs : ∀ c ∈ cs, c.isDigit = true) : run (mode, stack) cs = some (mode, stack) := by
  induction cs with
  | nil => rfl
  | cons c cs ih =>
    rw [run_cons, h stack c (hcs c (by simp)), Option.bind_some]
    exact ih fun d hd => hcs d (by simp [hd])

theorem isDigit_digitsText (ds : List (Fin 10)) : ∀ c ∈ digitsText ds, c.isDigit = true := by
  intro c hc
  obtain ⟨d, -, rfl⟩ := List.mem_map.mp hc
  exact isDigit_digitChar d.isLt

def Mode.IsWhole (mode : Mode) : Prop := mode = .zero ∨ mode = .digits

theorem beginValue_digit (stack : List Container) {c : Char} (h : c.isDigit = true) :
    beginValue stack c = if c = '0' then some (.zero, stack) else some (.digits, stack) := by
  have hne : ∀ d : Char, d.isDigit = false → c ≠ d := by
    rintro d hd rfl
    simp [h] at hd
  simp [beginValue, hne '"' (by decide), hne '[' (by decide), hne '{' (by decide),
    hne 'n' (by decide), hne 't' (by decide), hne 'f' (by decide), hne '-' (by decide), h]

theorem isSpace_digit {c : Char} (h : c.isDigit = true) : isSpace c = false := by
  have hne : ∀ d : Char, d.isDigit = false → c ≠ d := by
    rintro d hd rfl
    simp [h] at hd
  simp [isSpace, hne ' ' (by decide), hne '\n' (by decide), hne '\r' (by decide),
    hne '\t' (by decide)]

theorem run_whole {start : Mode} (hstart : start = .value ∨ start = .minus)
    (stack : List Container) (n : Nat) :
    ∃ mode, run (start, stack) (Nat.toDigits 10 n) = some (mode, stack) ∧ mode.IsWhole := by
  rcases Nat.eq_zero_or_pos n with rfl | hn
  · refine ⟨.zero, ?_, .inl rfl⟩
    rcases hstart with rfl | rfl <;> simp [Nat.toDigits_zero, step, beginValue, isSpace]
  · obtain ⟨c, cs, hc, hd, h0, hcs⟩ := toDigits_of_pos hn
    refine ⟨.digits, ?_, .inr rfl⟩
    have hfirst : step (start, stack) c = some (.digits, stack) := by
      rcases hstart with rfl | rfl
      · simp [step, isSpace_digit hd, beginValue_digit stack hd, h0]
      · simp [step, hd, h0]
    rw [hc, run_cons, hfirst, Option.bind_some]
    exact absorbs_digits.run stack cs hcs

theorem run_signed (stack : List Container) (negative : Bool) (n : Nat) :
    ∃ mode, run (.value, stack) (signText negative ++ Nat.toDigits 10 n) = some (mode, stack) ∧
      mode.IsWhole := by
  cases negative with
  | false => exact run_whole (.inl rfl) stack n
  | true =>
    obtain ⟨mode, h, hmode⟩ := run_whole (.inr rfl) stack n
    refine ⟨mode, ?_, hmode⟩
    simpa [signText, step, isSpace, beginValue] using h

theorem run_fraction {mode : Mode} (h : mode.IsWhole) (stack : List Container)
    (ds : List (Fin 10)) :
    ∃ mode', run (mode, stack) (fractionText ds) = some (mode', stack) ∧
      (mode'.IsWhole ∨ mode' = .fraction) := by
  cases ds with
  | nil => exact ⟨mode, rfl, .inl h⟩
  | cons d ds =>
    refine ⟨.fraction, ?_, .inr rfl⟩
    have hpoint : step (mode, stack) '.' = some (.point, stack) := by
      rcases h with rfl | rfl <;> simp [step, afterWhole]
    have hd := isDigit_digitChar d.isLt
    rw [fractionText, run_cons, hpoint, Option.bind_some]
    simp only [digitsText, List.map_cons, run_cons, step, hd, if_true, Option.bind_some]
    exact absorbs_fraction.run stack _ (isDigit_digitsText ds)

theorem run_exponent {mode : Mode} (h : mode.IsWhole ∨ mode = .fraction)
    (stack : List Container) (e : Option (Bool × Fin 10 × List (Fin 10))) :
    ∃ mode', run (mode, stack) (exponentText e) = some (mode', stack) ∧
      mode'.isFinished = true := by
  cases e with
  | none =>
    refine ⟨mode, rfl, ?_⟩
    rcases h with (rfl | rfl) | rfl <;> rfl
  | some e =>
    obtain ⟨negative, d, ds⟩ := e
    refine ⟨.exponentDigits, ?_, rfl⟩
    have he : step (mode, stack) 'e' = some (.exponent, stack) := by
      rcases h with (rfl | rfl) | rfl <;> simp [step, afterWhole]
    have hsign : step (.exponent, stack) (if negative then '-' else '+') =
        some (.exponentSign, stack) := by
      cases negative <;> simp [step]
    have hd := isDigit_digitChar d.isLt
    simp only [exponentText, List.cons_append, List.nil_append, run_cons, he, hsign,
      Option.bind_some, digitsText, List.map_cons]
    simp only [step, hd, if_true, Option.bind_some]
    exact absorbs_exponentDigits.run stack _ (isDigit_digitsText ds)

theorem run_decimal (stack : List Container) (x : Decimal) :
    ∃ mode, run (.value, stack) x.text = some (mode, stack) ∧ mode.isFinished = true := by
  obtain ⟨mode₁, h₁, hw⟩ := run_signed stack x.negative x.whole
  obtain ⟨mode₂, h₂, hf⟩ := run_fraction hw stack x.fraction
  obtain ⟨mode₃, h₃, hfin⟩ := run_exponent hf stack x.exponent
  refine ⟨mode₃, ?_, hfin⟩
  rw [Decimal.text, List.append_assoc, run_append_of_some h₁, run_append_of_some h₂, h₃]

theorem run_int (stack : List Container) (i : Int) :
    ∃ mode, run (.value, stack) (intText i) = some (mode, stack) ∧ mode.isFinished = true := by
  obtain ⟨mode, h, hw⟩ := run_signed stack (decide (i < 0)) i.natAbs
  exact ⟨mode, h, by rcases hw with rfl | rfl <;> rfl⟩

/-- A text of a strict value leaves the recogniser after a complete value on the same
stack; a text of any other value stops it. -/
def Settles (strict : Bool) (result : Option State) (stack : List Container) : Prop :=
  match strict with
  | true => ∃ mode, result = some (mode, stack) ∧ mode.isFinished = true
  | false => result = none

theorem settles_number (stack : List Container) (x : Number) :
    Settles x.isFinite (run (.value, stack) x.text) stack := by
  cases x with
  | finite x => exact run_decimal stack x
  | nan => simp [Settles, Number.isFinite, Number.text, step, isSpace, beginValue]
  | infinite negative =>
    cases negative <;>
      simp [Settles, Number.isFinite, Number.text, signText, step, isSpace, beginValue]

theorem step_finished {mode : Mode} (h : mode.isFinished = true) (stack : List Container)
    {c : Char} (hc : c = ',' ∨ c = ']' ∨ c = '}') :
    step (mode, stack) c = afterValue stack c := by
  cases mode <;> simp [Mode.isFinished] at h <;>
    rcases hc with rfl | rfl | rfl <;> simp [step, afterWhole]

theorem begins_number (x : Number) :
    ∃ c cs, x.text = c :: cs ∧ isSpace c = false ∧ c ≠ ']' := by
  cases x with
  | finite x =>
    obtain ⟨negative, whole, fraction, exponent⟩ := x
    cases negative with
    | true => exact ⟨'-', _, rfl, by decide, by decide⟩
    | false =>
      obtain ⟨c, cs, hc⟩ := List.exists_cons_of_ne_nil (Nat.toDigits_ne_nil (n := whole) (b := 10))
      have hd : c.isDigit = true :=
        Nat.isDigit_of_mem_toDigits (b := 10) (n := whole) (by omega) (by omega) (by simp [hc])
      refine ⟨c, cs ++ fractionText fraction ++ exponentText exponent, ?_, isSpace_digit hd, ?_⟩
      · simp [Number.text, Decimal.text, signText, hc]
      · rintro rfl
        exact absurd hd (by decide)
  | nan => exact ⟨'N', _, rfl, by decide, by decide⟩
  | infinite negative =>
    cases negative
    · exact ⟨'I', _, rfl, by decide, by decide⟩
    · exact ⟨'-', _, rfl, by decide, by decide⟩

theorem begins_text (o : Options) (v : Value) :
    ∃ c cs, v.text o = c :: cs ∧ isSpace c = false ∧ c ≠ ']' := by
  cases v with
  | null => exact ⟨'n', _, rfl, by decide, by decide⟩
  | bool b => cases b <;> exact ⟨_, _, rfl, by decide, by decide⟩
  | int i =>
    have htext : (Number.finite ⟨decide (i < 0), i.natAbs, [], none⟩).text =
      (Value.int i).text o := (List.append_nil _).trans (List.append_nil _)
    rw [← htext]
    exact begins_number _
  | float x => exact begins_number x
  | string s => exact ⟨'"', _, rfl, by decide, by decide⟩
  | array items => exact ⟨'[', _, rfl, by decide, by decide⟩
  | object fields => exact ⟨'{', _, rfl, by decide, by decide⟩

theorem run_firstItem (o : Options) (v : Value) (stack : List Container) :
    run (.firstItem, stack) (v.text o) = run (.value, stack) (v.text o) := by
  obtain ⟨c, cs, hc, hspace, hclose⟩ := begins_text o v
  rw [hc, run_cons, run_cons]
  simp [step, hspace, hclose]

theorem run_itemSeparator (o : Options) {mode : Mode} (h : mode.isFinished = true)
    (stack : List Container) :
    run (mode, .array :: stack) o.itemSeparator = some (.value, .array :: stack) := by
  have hcomma : step (mode, .array :: stack) ',' = some (.value, .array :: stack) := by
    rw [step_finished h _ (.inl rfl)]
    simp [afterValue, isSpace]
  have hblank : step (.value, .array :: stack) ' ' = some (.value, .array :: stack) := by
    simp [step, isSpace]
  unfold Options.itemSeparator
  split_ifs <;> simp [hcomma, hblank]

theorem run_fieldSeparator (o : Options) {mode : Mode} (h : mode.isFinished = true)
    (stack : List Container) :
    run (mode, .object :: stack) o.itemSeparator = some (.field, .object :: stack) := by
  have hcomma : step (mode, .object :: stack) ',' = some (.field, .object :: stack) := by
    rw [step_finished h _ (.inl rfl)]
    simp [afterValue, isSpace]
  have hblank : step (.field, .object :: stack) ' ' = some (.field, .object :: stack) := by
    simp [step, isSpace]
  unfold Options.itemSeparator
  split_ifs <;> simp [hcomma, hblank]

theorem run_key (o : Options) {mode : Mode} (h : mode = .firstField ∨ mode = .field)
    (stack : List Container) (key : String) :
    run (mode, stack) (quote o (.ofString key) ++ o.keySeparator) = some (.value, stack) := by
  have hquote : step (mode, stack) '"' = some (.string true, stack) := by
    rcases h with rfl | rfl <;> simp [step, isSpace]
  have hkey : run (mode, stack) (quote o (.ofString key)) = some (.colon, stack) := by
    rw [quote, List.cons_append, run_cons, hquote, Option.bind_some]
    exact run_quoted o true stack _
  rw [run_append_of_some hkey]
  unfold Options.keySeparator
  split_ifs <;> simp [step, isSpace]

theorem Settles.sequence {s : State} {stack : List Container} {first rest : List Char}
    {a b : Bool} (hfirst : Settles a (run s first) stack)
    (hrest : ∀ mode : Mode, mode.isFinished = true → Settles b (run (mode, stack) rest) stack) :
    Settles (a && b) (run s (first ++ rest)) stack := by
  cases a with
  | true =>
    obtain ⟨mode, hmode, hfin⟩ := hfirst
    rw [run_append_of_some hmode]
    simpa using hrest mode hfin
  | false => exact run_append_of_none hfirst rest

theorem settles_items (o : Options) (stack : List Container) (items : List Value)
    (h : ∀ v ∈ items, ∀ stack, Settles v.isStrict (run (.value, stack) (v.text o)) stack)
    (mode : Mode) (hmode : mode.isFinished = true) :
    Settles (items.all Value.isStrict) (run (mode, .array :: stack) (Value.itemsText o false items))
      (.array :: stack) := by
  induction items generalizing mode with
  | nil => exact ⟨mode, rfl, hmode⟩
  | cons v items ih =>
    rw [Value.itemsText_cons, if_neg Bool.false_ne_true,
      run_append_of_some (run_itemSeparator o hmode stack)]
    exact Settles.sequence (h v (by simp) _) fun mode' hmode' =>
      ih (fun w hw => h w (by simp [hw])) mode' hmode'

theorem settles_field (o : Options) {mode : Mode} (hmode : mode = .firstField ∨ mode = .field)
    (stack : List Container) (f : String × Value)
    (h : ∀ stack, Settles f.2.isStrict (run (.value, stack) (f.2.text o)) stack) :
    Settles f.2.isStrict (run (mode, stack) (Value.fieldText o f)) stack := by
  obtain ⟨key, v⟩ := f
  rw [Value.fieldText_mk, ← List.append_assoc, run_append_of_some (run_key o hmode stack key)]
  exact h stack

theorem settles_fields (o : Options) (stack : List Container) (fields : List (String × Value))
    (h : ∀ f ∈ fields, ∀ stack, Settles f.2.isStrict (run (.value, stack) (f.2.text o)) stack)
    (mode : Mode) (hmode : mode.isFinished = true) :
    Settles (fields.all fun f => f.2.isStrict)
      (run (mode, .object :: stack) (Value.fieldsText o false fields)) (.object :: stack) := by
  induction fields generalizing mode with
  | nil => exact ⟨mode, rfl, hmode⟩
  | cons f fields ih =>
    rw [Value.fieldsText_cons, if_neg Bool.false_ne_true,
      run_append_of_some (run_fieldSeparator o hmode stack)]
    exact Settles.sequence (settles_field o (.inr rfl) _ f (h f (by simp)))
      fun mode' hmode' => ih (fun g hg => h g (by simp [hg])) mode' hmode'

theorem Settles.close {s : State} {stack : List Container} {text : List Char} {strict : Bool}
    {container : Container} {c : Char} (h : Settles strict (run s text) (container :: stack))
    (hc : container = .array ∧ c = ']' ∨ container = .object ∧ c = '}') :
    Settles strict (run s (text ++ [c])) stack := by
  cases strict with
  | true =>
    obtain ⟨mode, hmode, hfin⟩ := h
    refine ⟨.done, ?_, rfl⟩
    rw [run_append_of_some hmode, run_cons, step_finished hfin _ (by tauto)]
    rcases hc with ⟨rfl, rfl⟩ | ⟨rfl, rfl⟩ <;> simp [afterValue, isSpace]
  | false => exact run_append_of_none h [c]

theorem settles_text (o : Options) (v : Value) :
    ∀ stack, Settles v.isStrict (run (.value, stack) (v.text o)) stack := by
  induction v with
  | null => intro stack; exact ⟨.done, rfl, rfl⟩
  | bool b =>
    intro stack
    refine ⟨.done, ?_, rfl⟩
    cases b <;> rfl
  | int i => intro stack; exact run_int stack i
  | float x => intro stack; exact settles_number stack x
  | string s => intro stack; exact ⟨.done, run_quote o stack s, rfl⟩
  | array items ih =>
    intro stack
    have hopen : step (.value, stack) '[' = some (.firstItem, .array :: stack) := by
      simp [step, isSpace, beginValue]
    rw [Value.text_array, run_cons, hopen, Option.bind_some, Value.isStrict_array]
    cases items with
    | nil => exact ⟨.done, rfl, rfl⟩
    | cons v items =>
      refine Settles.close ?_ (.inl ⟨rfl, rfl⟩)
      rw [Value.itemsText_cons, if_pos rfl, List.nil_append]
      refine Settles.sequence ?_ fun mode hmode =>
        settles_items o stack items (fun w hw => ih w (by simp [hw])) mode hmode
      rw [run_firstItem]
      exact ih v (by simp) _
  | object fields ih =>
    intro stack
    have hopen : step (.value, stack) '{' = some (.firstField, .object :: stack) := by
      simp [step, isSpace, beginValue]
    rw [Value.text_object, run_cons, hopen, Option.bind_some, Value.isStrict_object]
    cases fields with
    | nil => exact ⟨.done, rfl, rfl⟩
    | cons f fields =>
      refine Settles.close ?_ (.inr ⟨rfl, rfl⟩)
      rw [Value.fieldsText_cons, if_pos rfl, List.nil_append]
      exact Settles.sequence (settles_field o (.inl rfl) _ f (ih f (by simp)))
        fun mode hmode => settles_fields o stack fields (fun g hg => ih g (by simp [hg])) mode hmode

/-- The written text is a JSON text exactly when no NaN and no infinity was written. -/
theorem accepts_text (o : Options) (v : Value) : accepts (v.text o) = v.isStrict := by
  have h := settles_text o v []
  cases hv : v.isStrict with
  | true =>
    rw [hv] at h
    obtain ⟨mode, hmode, hfin⟩ := h
    simp [accepts, hmode, hfin]
  | false =>
    rw [hv] at h
    have hnone : run (.value, []) (v.text o) = none := h
    simp [accepts, hnone]

def Printable (text : List Char) : Prop := ∀ c ∈ text, 0x20 ≤ c.toNat

theorem printable_nil : Printable [] := by simp [Printable]

theorem printable_of_check {text : List Char}
    (h : (text.all fun c => decide (0x20 ≤ c.toNat)) = true) : Printable text := by
  simpa [Printable] using h

theorem Printable.cons {c : Char} {text : List Char} (hc : 0x20 ≤ c.toNat)
    (h : Printable text) : Printable (c :: text) := by
  intro d hd
  cases hd with
  | head => exact hc
  | tail _ hd => exact h d hd

theorem Printable.append {first second : List Char} (h : Printable first)
    (h' : Printable second) : Printable (first ++ second) := by
  intro c hc
  cases List.mem_append.mp hc with
  | inl hc => exact h c hc
  | inr hc => exact h' c hc

theorem printable_hexDigit (n : Nat) : 0x20 ≤ (hexDigit n).toNat := by
  have h : ∀ d, d < 16 → 0x20 ≤ (Nat.digitChar d).toNat := by decide
  exact h _ (Nat.mod_lt _ (by omega))

theorem printable_unicodeEscape (n : Nat) : Printable (unicodeEscape n) := by
  apply Printable.cons (by decide)
  apply Printable.cons (by decide)
  apply Printable.cons (printable_hexDigit _)
  apply Printable.cons (printable_hexDigit _)
  apply Printable.cons (printable_hexDigit _)
  exact Printable.cons (printable_hexDigit _) printable_nil

theorem printable_pair {c : Char} (hc : 0x20 ≤ c.toNat) : Printable ['\\', c] :=
  Printable.cons (by decide) (Printable.cons hc printable_nil)

theorem printable_escapeChar (o : Options) (c : Char) : Printable (escapeChar o c) := by
  refine escapeChar_induction o c ?_ printable_unicodeEscape ?_ ?_
  · have hletters : ∀ d ∈ ['"', '\\', 'n', 'r', 't', 'f', 'b'], 0x20 ≤ d.toNat := by simp
    exact fun d hd => printable_pair (hletters d hd)
  · exact fun _ _ hcontrol => Printable.cons (Nat.le_of_not_lt hcontrol) printable_nil
  · exact fun m n => (printable_unicodeEscape m).append (printable_unicodeEscape n)

theorem printable_escape (o : Options) (p : CodePoint) : Printable (escape o p) := by
  cases p with
  | char c => exact printable_escapeChar o c
  | surrogate n =>
    unfold escape
    split_ifs
    · exact printable_unicodeEscape _
    · exact printable_nil

theorem printable_quote (o : Options) (s : Text) : Printable (quote o s) := by
  apply Printable.append _ (Printable.cons (by decide) printable_nil)
  apply Printable.cons (by decide)
  induction s with
  | nil => exact printable_nil
  | cons p s ih => exact (printable_escape o p).append ih

theorem printable_digits {cs : List Char} (h : ∀ c ∈ cs, c.isDigit = true) : Printable cs := by
  intro c hc
  have hdigit := h c hc
  rw [Char.isDigit, Bool.and_eq_true, decide_eq_true_iff] at hdigit
  exact Nat.le_trans (by decide) (UInt32.le_iff_toNat_le.mp hdigit.1)

theorem printable_whole (n : Nat) : Printable (Nat.toDigits 10 n) :=
  printable_digits fun _ hc => Nat.isDigit_of_mem_toDigits (by omega) (by omega) hc

theorem printable_sign (negative : Bool) : Printable (signText negative) := by
  cases negative with
  | false => exact printable_nil
  | true => exact Printable.cons (by decide) printable_nil

theorem printable_fraction (ds : List (Fin 10)) : Printable (fractionText ds) := by
  cases ds with
  | nil => exact printable_nil
  | cons d ds => exact Printable.cons (by decide) (printable_digits (isDigit_digitsText (d :: ds)))

theorem printable_exponent (e : Option (Bool × Fin 10 × List (Fin 10))) :
    Printable (exponentText e) := by
  cases e with
  | none => exact printable_nil
  | some e =>
    obtain ⟨negative, d, ds⟩ := e
    apply Printable.append _ (printable_digits (isDigit_digitsText (d :: ds)))
    apply Printable.cons (by decide)
    cases negative <;> exact Printable.cons (by decide) printable_nil

theorem printable_number (x : Number) : Printable x.text := by
  cases x with
  | finite x =>
    apply Printable.append _ (printable_exponent _)
    apply Printable.append _ (printable_fraction _)
    exact (printable_sign _).append (printable_whole _)
  | nan => exact printable_of_check rfl
  | infinite negative => cases negative <;> exact printable_of_check rfl

theorem printable_itemSeparator (o : Options) : Printable o.itemSeparator := by
  unfold Options.itemSeparator
  split_ifs
  · exact Printable.cons (by decide) printable_nil
  · exact Printable.cons (by decide) (Printable.cons (by decide) printable_nil)

theorem printable_keySeparator (o : Options) : Printable o.keySeparator := by
  unfold Options.keySeparator
  split_ifs
  · exact Printable.cons (by decide) printable_nil
  · exact Printable.cons (by decide) (Printable.cons (by decide) printable_nil)

theorem printable_separator (o : Options) (first : Bool) :
    Printable (if first then [] else o.itemSeparator) := by
  cases first
  · exact printable_itemSeparator o
  · exact printable_nil

theorem printable_items (o : Options) (first : Bool) (items : List Value)
    (h : ∀ v ∈ items, Printable (v.text o)) : Printable (Value.itemsText o first items) := by
  induction items generalizing first with
  | nil => exact printable_nil
  | cons v items ih =>
    apply (printable_separator o first).append
    apply (h v (by simp)).append
    exact ih false fun w hw => h w (by simp [hw])

theorem printable_fields (o : Options) (first : Bool) (fields : List (String × Value))
    (h : ∀ f ∈ fields, Printable (f.2.text o)) : Printable (Value.fieldsText o first fields) := by
  induction fields generalizing first with
  | nil => exact printable_nil
  | cons f fields ih =>
    apply (printable_separator o first).append
    have hf := h f (by simp)
    obtain ⟨key, v⟩ := f
    apply Printable.append _ (ih false fun g hg => h g (by simp [hg]))
    rw [Value.fieldText_mk]
    apply (printable_quote o _).append
    exact (printable_keySeparator o).append hf

theorem printable_text (o : Options) (v : Value) : Printable (v.text o) := by
  induction v with
  | null => exact printable_of_check rfl
  | bool b => cases b <;> exact printable_of_check rfl
  | int i => exact (printable_sign _).append (printable_whole _)
  | float x => exact printable_number x
  | string s => exact printable_quote o s
  | array items ih =>
    apply Printable.cons (by decide)
    exact (printable_items o true items ih).append (Printable.cons (by decide) printable_nil)
  | object fields ih =>
    apply Printable.cons (by decide)
    exact (printable_fields o true fields ih).append (Printable.cons (by decide) printable_nil)

end Json
