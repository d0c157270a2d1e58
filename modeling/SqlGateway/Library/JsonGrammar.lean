import SqlGateway.Library.JsText
import SqlGateway.Library.JsonReaderLaws

/-! JSON texts with any blanks between the tokens, and the values that they say -/

namespace Json

def Blank (text : List Char) : Prop := ∀ c ∈ text, isSpace c = true

/-- A sign with blanks around it. -/
def Around (c : Char) (text : List Char) : Prop :=
  ∃ before after, Blank before ∧ Blank after ∧ text = before ++ c :: after

def Opens (first : Bool) (text : List Char) : Prop := if first then Blank text else Around ',' text

structure Inside (found : Text) (text : List Char) : Prop where
  run : ∀ isKey stack, run (.string isKey, stack) text = some (.string isKey, stack)
  readsAs : ReadsAs found text

/-- The elements of a container go with its closing bracket. -/
inductive Part
  | value (v : Value)
  | items (first : Bool) (items : List Value)
  | fields (first : Bool) (fields : List (String × Value))

inductive Says : List Char → Part → Prop
  | nullWord : Says "null".toList (.value .null)
  | trueWord : Says "true".toList (.value (.bool true))
  | falseWord : Says "false".toList (.value (.bool false))
  | number (x : Decimal) : Says x.text (.value x.plain)
  | string {found : Text} {text : List Char} : Inside found text →
    Says ('"' :: (text ++ ['"'])) (.value (.string found.joined))
  | array {text : List Char} {items : List Value} : Says text (.items true items) →
    Says ('[' :: text) (.value (.array items))
  | object {text : List Char} {fields : List (String × Value)} : Says text (.fields true fields) →
    Says ('{' :: text) (.value (.object fields))
  | noItem {blank : List Char} {first : Bool} : Blank blank →
    Says (blank ++ [']']) (.items first [])
  | item {opening text rest : List Char} {first : Bool} {v : Value} {items : List Value} :
    Opens first opening → Says text (.value v) → Says rest (.items false items) →
    Says (opening ++ (text ++ rest)) (.items first (v :: items))
  | noField {blank : List Char} {first : Bool} : Blank blank →
    Says (blank ++ ['}']) (.fields first [])
  | field {opening key colon text rest : List Char} {found : Text} {first : Bool} {v : Value}
    {fields : List (String × Value)} :
    Opens first opening → Inside found key → Around ':' colon → Says text (.value v) →
    Says rest (.fields false fields) →
    Says (opening ++ '"' :: (key ++ '"' :: (colon ++ (text ++ rest))))
      (.fields first ((keyText found, v) :: fields))

variable {text : List Char}

theorem Says.begins {v : Value} (h : Says text (.value v)) : ∃ c cs, text = c :: cs ∧ Begins c := by
  cases h with
  | nullWord => exact ⟨'n', _, rfl, rfl, by decide⟩
  | trueWord => exact ⟨'t', _, rfl, rfl, by decide⟩
  | falseWord => exact ⟨'f', _, rfl, rfl, by decide⟩
  | number x => exact begins_decimal x
  | string => exact ⟨'"', _, rfl, rfl, by decide⟩
  | array => exact ⟨'[', _, rfl, rfl, by decide⟩
  | object => exact ⟨'{', _, rfl, rfl, by decide⟩

theorem Begins.isSpace {c : Char} (h : Begins c) : isSpace c = false := by
  have hseparator := h.separator
  simp only [isSeparator, Bool.or_eq_false_iff] at hseparator
  exact hseparator.1.1

theorem run_blank {s : State} (h : Blank text)
    (hstep : ∀ c, isSpace c = true → step s c = some s) : run s text = some s := by
  induction text with
  | nil => rfl
  | cons c text ih =>
    rw [run_cons, hstep c (h c List.mem_cons_self)]
    exact ih fun d hd => h d (List.mem_cons_of_mem c hd)

theorem isSpace_cases {c : Char} (h : isSpace c = true) :
    c = ' ' ∨ c = '\n' ∨ c = '\r' ∨ c = '\t' := by
  simp only [isSpace, Bool.or_eq_true, decide_eq_true_eq, or_assoc] at h
  exact h

theorem step_space {mode : Mode} (h : mode.isFinished = true) (stack : List Container) {c : Char}
    (hc : isSpace c = true) : step (mode, stack) c = some (.done, stack) := by
  rcases isSpace_cases hc with rfl | rfl | rfl | rfl <;> cases mode <;> first | rfl | cases h

theorem run_trailing {mode : Mode} (h : mode.isFinished = true) (stack : List Container)
    (htext : Blank text) :
    ∃ mode', mode'.isFinished = true ∧ run (mode, stack) text = some (mode', stack) := by
  cases text with
  | nil => exact ⟨mode, h, rfl⟩
  | cons c text =>
    refine ⟨.done, rfl, ?_⟩
    rw [run_cons, step_space h stack (htext c List.mem_cons_self)]
    exact run_blank (fun d hd => htext d (List.mem_cons_of_mem c hd)) fun d hd =>
      step_space rfl stack hd

def Container.opened : Container → Mode
  | .array => .firstItem
  | .object => .firstField

def Container.closing : Container → Char
  | .array => ']'
  | .object => '}'

/-- Where the recogniser stands before an element of a container. -/
def Mode.IsBefore (container : Container) (first : Bool) (mode : Mode) : Prop :=
  if first then mode = container.opened else mode.isFinished = true

def Mode.IsAt (container : Container) (mode : Mode) : Prop :=
  match container with
  | .array => mode = .firstItem ∨ mode = .value
  | .object => mode = .firstField ∨ mode = .field

theorem run_opens {container : Container} {first : Bool} {mode : Mode}
    (h : mode.IsBefore container first) (htext : Opens first text) (stack : List Container) :
    ∃ mode', mode'.IsAt container ∧
      run (mode, container :: stack) text = some (mode', container :: stack) := by
  have hskip (mode : Mode) (hmode : mode = .firstItem ∨ mode = .value ∨ mode = .firstField ∨
      mode = .field) {blank : List Char} (hblank : Blank blank) :
      run (mode, container :: stack) blank = some (mode, container :: stack) := by
    apply run_blank hblank
    intro c hc
    rcases hmode with rfl | rfl | rfl | rfl <;> simp [step, hc]
  cases first with
  | true =>
    have hmode : mode = container.opened := h
    cases container with
    | array => exact ⟨mode, .inl hmode, hskip mode (.inl hmode) htext⟩
    | object => exact ⟨mode, .inl hmode, hskip mode (.inr (.inr (.inl hmode))) htext⟩
  | false =>
    obtain ⟨before, after, hbefore, hafter, rfl⟩ : Around ',' text := htext
    obtain ⟨mode₁, hfinished, hrun⟩ := run_trailing h (container :: stack) hbefore
    have hcomma := step_finished hfinished (container :: stack) (.inl (rfl : ',' = ','))
    rw [run_append_of_some hrun, run_cons, hcomma]
    cases container with
    | array => exact ⟨.value, .inr rfl, hskip .value (.inr (.inl rfl)) hafter⟩
    | object => exact ⟨.field, .inr rfl, hskip .field (.inr (.inr (.inr rfl))) hafter⟩

theorem run_closes {container : Container} {first : Bool} {mode : Mode}
    (h : mode.IsBefore container first) {blank : List Char} (hblank : Blank blank)
    (stack : List Container) :
    run (mode, container :: stack) (blank ++ [container.closing]) = some (.done, stack) := by
  cases first with
  | true =>
    have hmode : mode = container.opened := h
    have hrun : run (mode, container :: stack) blank = some (mode, container :: stack) := by
      apply run_blank hblank
      intro c hc
      cases container <;> simp [hmode, Container.opened, step, hc]
    rw [run_append_of_some hrun, hmode]
    cases container <;> rfl
  | false =>
    obtain ⟨mode₁, hfinished, hrun⟩ := run_trailing h (container :: stack) hblank
    rw [run_append_of_some hrun, run_cons]
    cases container with
    | array =>
      have hclose := step_finished hfinished (.array :: stack) (.inr (.inl (rfl : ']' = ']')))
      exact congrArg (Option.bind · fun s => run s []) hclose
    | object =>
      have hclose := step_finished hfinished (.object :: stack) (.inr (.inr (rfl : '}' = '}')))
      exact congrArg (Option.bind · fun s => run s []) hclose

def Part.Runs : Part → List Char → Prop
  | .value _, text => ∀ stack, ∃ mode, mode.isFinished = true ∧
    run (.value, stack) text = some (mode, stack)
  | .items first _, text => ∀ mode stack, mode.IsBefore .array first →
    run (mode, .array :: stack) text = some (.done, stack)
  | .fields first _, text => ∀ mode stack, mode.IsBefore .object first →
    run (mode, .object :: stack) text = some (.done, stack)

theorem run_item {mode : Mode} (h : mode.IsAt .array) {v : Value} (hitem : Says text (.value v))
    (stack : List Container) : run (mode, stack) text = run (.value, stack) text := by
  obtain ⟨c, cs, rfl, hbegins⟩ := hitem.begins
  cases h with
  | inl hfirst =>
    rw [hfirst, run_cons, run_cons]
    simp [step, hbegins.isSpace, hbegins.bracket]
  | inr hvalue => rw [hvalue]

theorem run_field {mode : Mode} (h : mode.IsAt .object) {found : Text} {key colon : List Char}
    (hkey : Inside found key) (hcolon : Around ':' colon) (stack : List Container) :
    run (mode, stack) ('"' :: (key ++ '"' :: colon)) = some (.value, stack) := by
  have hquote : step (mode, stack) '"' = some (.string true, stack) := by
    rcases h with rfl | rfl <;> simp [step, isSpace]
  have hend : step (.string true, stack) '"' = some (.colon, stack) := by simp [step]
  obtain ⟨before, after, hbefore, hafter, rfl⟩ := hcolon
  have hskip : run (.colon, stack) before = some (.colon, stack) :=
    run_blank hbefore fun c hc => by simp [step, hc]
  have hsign : step (.colon, stack) ':' = some (.value, stack) := by simp [step, isSpace]
  rw [run_cons, hquote, Option.bind_some, run_append_of_some (hkey.run true stack), run_cons, hend,
    Option.bind_some, run_append_of_some hskip, run_cons, hsign]
  exact run_blank hafter fun c hc => by simp [step, hc]

theorem Says.runs {part : Part} (h : Says text part) : part.Runs text := by
  induction h with
  | nullWord => exact fun stack => ⟨.done, rfl, rfl⟩
  | trueWord => exact fun stack => ⟨.done, rfl, rfl⟩
  | falseWord => exact fun stack => ⟨.done, rfl, rfl⟩
  | number x =>
    intro stack
    obtain ⟨mode, hrun, hfinished⟩ := run_decimal stack x
    exact ⟨mode, hfinished, hrun⟩
  | string hinside =>
    intro stack
    refine ⟨.done, rfl, ?_⟩
    have hquote : step (.value, stack) '"' = some (.string false, stack) := by
      simp [step, isSpace, beginValue]
    rw [run_cons, hquote, Option.bind_some, run_append_of_some (hinside.run false stack)]
    simp [step]
  | array _ ih => exact fun stack => ⟨.done, rfl, ih .firstItem stack rfl⟩
  | object _ ih => exact fun stack => ⟨.done, rfl, ih .firstField stack rfl⟩
  | noItem hblank => exact fun mode stack hmode => run_closes hmode hblank stack
  | item hopens hitem _ ihValue ihRest =>
    intro mode stack hmode
    obtain ⟨mode₁, hat, hrun⟩ := run_opens hmode hopens stack
    obtain ⟨mode₂, hfinished, hvalue⟩ := ihValue (.array :: stack)
    rw [run_append_of_some hrun, run_append_of_some ((run_item hat hitem _).trans hvalue)]
    exact ihRest mode₂ stack hfinished
  | noField hblank => exact fun mode stack hmode => run_closes hmode hblank stack
  | @field opening key colon text rest _ _ _ _ hopens hinside hcolon _ _ ihValue ihRest =>
    intro mode stack hmode
    obtain ⟨mode₁, hat, hrun⟩ := run_opens hmode hopens stack
    obtain ⟨mode₂, hfinished, hvalue⟩ := ihValue (.object :: stack)
    have hsplit : '"' :: (key ++ '"' :: (colon ++ (text ++ rest))) =
        '"' :: (key ++ '"' :: colon) ++ (text ++ rest) := by simp
    rw [run_append_of_some hrun, hsplit, run_append_of_some (run_field hat hinside hcolon _),
      run_append_of_some hvalue]
    exact ihRest mode₂ stack hfinished

theorem accepts_of_says {v : Value} (h : Says text (.value v)) : accepts text = true := by
  obtain ⟨mode, hfinished, hrun⟩ := h.runs []
  rw [accepts, hrun]
  exact hfinished

theorem Blank.isSeparator (h : Blank text) : ∀ c ∈ text, isSeparator c = true := by
  intro c hc
  simp [Json.isSeparator, h c hc]

theorem Around.isSeparator {c : Char} (hc : isSeparator c = true) (h : Around c text) :
    ∀ d ∈ text, isSeparator d = true := by
  obtain ⟨before, after, hbefore, hafter, rfl⟩ := h
  intro d hd
  rcases List.mem_append.mp hd with hd | hd
  · exact hbefore.isSeparator d hd
  · rcases List.mem_cons.mp hd with rfl | hd
    · exact hc
    · exact hafter.isSeparator d hd

theorem Opens.isSeparator {first : Bool} (h : Opens first text) :
    ∀ c ∈ text, isSeparator c = true := by
  cases first with
  | true => exact Blank.isSeparator h
  | false => exact Around.isSeparator rfl h

theorem not_isNumberChar {c : Char} (h : isSeparator c = true ∨ c = ']' ∨ c = '}') :
    isNumberChar c = false := by
  rcases h with h | rfl | rfl
  · simp only [isSeparator, Bool.or_eq_true, decide_eq_true_eq] at h
    rcases h with (h | rfl) | rfl
    · rcases isSpace_cases h with rfl | rfl | rfl | rfl <;> rfl
    · rfl
    · rfl
  · rfl
  · rfl

theorem ends_separators {c : Char} (hc : isNumberChar c = false)
    (h : ∀ c ∈ text, isSeparator c = true) (rest : List Char) :
    Ends isNumberChar (text ++ c :: rest) := by
  cases text with
  | nil => exact ends_cons hc rest
  | cons d text => exact ends_cons (not_isNumberChar (.inl (h d List.mem_cons_self))) _

theorem Around.ends (h : Around ',' text) (rest : List Char) :
    Ends isNumberChar (text ++ rest) := by
  obtain ⟨before, after, hbefore, -, rfl⟩ := h
  rw [List.append_assoc]
  exact ends_separators rfl hbefore.isSeparator (after ++ rest)

theorem Says.items_ne_nil {first : Bool} {items : List Value} (h : Says text (.items first items)) :
    text ≠ [] := by
  cases h with
  | noItem => exact List.append_ne_nil_of_right_ne_nil _ (List.cons_ne_nil _ _)
  | item _ hvalue =>
    obtain ⟨c, cs, rfl, -⟩ := hvalue.begins
    exact List.append_ne_nil_of_right_ne_nil _ (List.cons_ne_nil _ _)

theorem Says.ends_items {items : List Value} (h : Says text (.items false items))
    (rest : List Char) : Ends isNumberChar (text ++ rest) := by
  cases h with
  | noItem hblank =>
    rw [List.append_assoc]
    exact ends_separators rfl hblank.isSeparator rest
  | item hopens =>
    rw [List.append_assoc]
    exact Around.ends hopens _

theorem Says.ends_fields {fields : List (String × Value)} (h : Says text (.fields false fields))
    (rest : List Char) : Ends isNumberChar (text ++ rest) := by
  cases h with
  | noField hblank =>
    rw [List.append_assoc]
    exact ends_separators rfl hblank.isSeparator rest
  | field hopens =>
    rw [List.append_assoc]
    exact Around.ends hopens _

/-- In front of whatever ends a number, and with fuel for its length, the text is read as the
part. -/
def Part.IsRead : Part → List Char → Prop
  | .value v, text => ∀ n rest, text.length ≤ n → Ends isNumberChar rest →
    readValue n (text ++ rest) = some (v, rest)
  | .items _ vs, text => ∀ n rest, text.length ≤ n → readItems n (text ++ rest) = some (vs, rest)
  | .fields _ fs, text => ∀ n rest, text.length ≤ n → readFields n (text ++ rest) = some (fs, rest)

theorem isRead_number (x : Decimal) : (Part.value x.plain).IsRead x.text := by
  intro n rest hn hrest
  obtain ⟨c, cs, hc, -⟩ := begins_decimal x
  have hnil : x.text ≠ [] := hc ▸ List.cons_ne_nil c cs
  obtain ⟨n, rfl⟩ := Nat.exists_eq_succ_of_ne_zero
    (Nat.ne_of_gt (Nat.lt_of_lt_of_le (List.length_pos_of_ne_nil hnil) hn))
  rw [readValue_number hnil (isNumberChar_text x) hrest, readNumber_text]

theorem Inside.readChars {found : Text} (h : Inside found text) (rest : List Char) :
    readChars (text ++ '"' :: rest) = some (found, rest) := by
  have hquote : Json.readChars ('"' :: rest) = some ([], rest) := by
    rw [readChars.eq_def]
    exact if_pos rfl
  rw [h.readsAs, hquote, Option.map_some, List.append_nil]

theorem isRead_string {found : Text} (h : Inside found text) :
    (Part.value (.string found.joined)).IsRead ('"' :: (text ++ ['"'])) := by
  intro n rest hn _
  obtain ⟨n, rfl⟩ := Nat.exists_eq_succ_of_ne_zero (Nat.ne_zero_of_lt hn)
  have htext : '"' :: (text ++ ['"']) ++ rest = '"' :: (text ++ '"' :: rest) := by simp
  rw [htext, readValue, skipSeparators, List.dropWhile_cons_of_neg (by decide)]
  simp only [if_true, h.readChars, Option.map_some]

theorem isRead_array {items : List Value} (h : (Part.items true items).IsRead text) :
    (Part.value (.array items)).IsRead ('[' :: text) := by
  intro n rest hn _
  obtain ⟨n, rfl⟩ := Nat.exists_eq_succ_of_ne_zero (Nat.ne_zero_of_lt hn)
  rw [List.cons_append, readValue, skipSeparators, List.dropWhile_cons_of_neg (by decide)]
  simp only [if_neg (by decide : ¬ '[' = '"'), if_true, h n rest (Nat.le_of_succ_le_succ hn),
    Option.map_some]

theorem isRead_object {fields : List (String × Value)} (h : (Part.fields true fields).IsRead text) :
    (Part.value (.object fields)).IsRead ('{' :: text) := by
  intro n rest hn _
  obtain ⟨n, rfl⟩ := Nat.exists_eq_succ_of_ne_zero (Nat.ne_zero_of_lt hn)
  rw [List.cons_append, readValue, skipSeparators, List.dropWhile_cons_of_neg (by decide)]
  simp only [if_neg (by decide : ¬ '{' = '"'), if_neg (by decide : ¬ '{' = '['), if_true,
    h n rest (Nat.le_of_succ_le_succ hn), Option.map_some]

theorem isRead_item {opening rest : List Char} {first : Bool} {v : Value} {items : List Value}
    (hopens : Opens first opening) (hvalue : Says text (.value v))
    (hrest : Says rest (.items false items)) (ihValue : (Part.value v).IsRead text)
    (ihRest : (Part.items false items).IsRead rest) :
    (Part.items first (v :: items)).IsRead (opening ++ (text ++ rest)) := by
  intro n back hn
  obtain ⟨c, cs, rfl, hbegins⟩ := hvalue.begins
  have hbracket := List.length_pos_of_ne_nil hrest.items_ne_nil
  simp only [List.length_append, List.length_cons] at hn
  obtain ⟨n, rfl⟩ := Nat.exists_eq_succ_of_ne_zero (by omega : n ≠ 0)
  have hv := ihValue n (rest ++ back) (by rw [List.length_cons]; omega) (hrest.ends_items back)
  have hitems := ihRest n back (by omega)
  rw [List.cons_append] at hv
  rw [List.append_assoc, List.append_assoc, List.cons_append, readItems,
    skipSeparators_cons hopens.isSeparator hbegins.separator]
  simp only [if_neg hbegins.bracket, hv, Option.bind_some, hitems, Option.map_some]

theorem isRead_field {opening key colon rest : List Char} {found : Text} {first : Bool} {v : Value}
    {fields : List (String × Value)} (hopens : Opens first opening) (hinside : Inside found key)
    (hcolon : Around ':' colon) (hrest : Says rest (.fields false fields))
    (ihValue : (Part.value v).IsRead text) (ihRest : (Part.fields false fields).IsRead rest) :
    (Part.fields first ((keyText found, v) :: fields)).IsRead
      (opening ++ '"' :: (key ++ '"' :: (colon ++ (text ++ rest)))) := by
  intro n back hn
  simp only [List.length_append, List.length_cons] at hn
  obtain ⟨n, rfl⟩ := Nat.exists_eq_succ_of_ne_zero (by omega : n ≠ 0)
  have hv := ihValue n (rest ++ back) (by omega) (hrest.ends_fields back)
  have hfields := ihRest n back (by omega)
  have htext : opening ++ '"' :: (key ++ '"' :: (colon ++ (text ++ rest))) ++ back =
      opening ++ '"' :: (key ++ '"' :: (colon ++ (text ++ (rest ++ back)))) := by simp
  rw [htext, readFields, skipSeparators_cons hopens.isSeparator rfl]
  simp only [if_neg (by decide : ¬ '"' = '}'), hinside.readChars, Option.bind_some,
    readValue_separators (Around.isSeparator rfl hcolon), hv, hfields, Option.map_some]

theorem isRead_noItem {blank : List Char} (h : Blank blank) (first : Bool) :
    (Part.items first []).IsRead (blank ++ [']']) := by
  intro n rest hn
  obtain ⟨n, rfl⟩ := Nat.exists_eq_succ_of_ne_zero
    (Nat.ne_of_gt (Nat.lt_of_lt_of_le (by simp) hn) : n ≠ 0)
  rw [List.append_assoc, List.singleton_append, readItems, skipSeparators_cons h.isSeparator rfl]
  exact if_pos rfl

theorem isRead_noField {blank : List Char} (h : Blank blank) (first : Bool) :
    (Part.fields first []).IsRead (blank ++ ['}']) := by
  intro n rest hn
  obtain ⟨n, rfl⟩ := Nat.exists_eq_succ_of_ne_zero
    (Nat.ne_of_gt (Nat.lt_of_lt_of_le (by simp) hn) : n ≠ 0)
  rw [List.append_assoc, List.singleton_append, readFields, skipSeparators_cons h.isSeparator rfl]
  exact if_pos rfl

theorem Says.isRead {part : Part} (h : Says text part) : part.IsRead text := by
  induction h with
  | nullWord =>
    rintro (_ | n) rest hn -
    · cases hn
    · rfl
  | trueWord =>
    rintro (_ | n) rest hn -
    · cases hn
    · rfl
  | falseWord =>
    rintro (_ | n) rest hn -
    · cases hn
    · rfl
  | number x => exact isRead_number x
  | string hinside => exact isRead_string hinside
  | array _ ih => exact isRead_array ih
  | object _ ih => exact isRead_object ih
  | noItem hblank => exact isRead_noItem hblank _
  | item hopens hvalue hrest ihValue ihRest => exact isRead_item hopens hvalue hrest ihValue ihRest
  | noField hblank => exact isRead_noField hblank _
  | field hopens hinside hcolon _ hrest ihValue ihRest =>
    exact isRead_field hopens hinside hcolon hrest ihValue ihRest

/-- A parser finds in a text of the grammar the value that it says. -/
theorem parse_of_says {v : Value} (h : Says text (.value v)) : parse text = some v := by
  have hread := h.isRead text.length [] (Nat.le_refl _) (ends_nil _)
  rw [List.append_nil] at hread
  rw [parse, accepts_of_says h, if_pos rfl, hread, Option.map_some]

end Json

namespace JsText

open Json

/-- A number is printed as a number again, or as `null` where it is too large for one. -/
def PrintsNumbers (numberText : List Char → List Char) : Prop :=
  ∀ x : Decimal, numberText x.text = "null".toList ∨ ∃ y : Decimal, numberText x.text = y.text

def printed (numberText : List Char → List Char) (literal : List Char) : Value :=
  (parse (numberText literal)).getD .null

mutual

/-- The value with the numbers that are printed for its own. -/
def reprinted (numberText : List Char → List Char) : Value → Value
  | .int i => printed numberText (intText i)
  | .float (.finite x) => printed numberText x.text
  | .float _ => .null
  | .string s => .string s.joined
  | .array items => .array (reprintedItems numberText items)
  | .object fields => .object (reprintedFields numberText fields)
  | v => v

def reprintedItems (numberText : List Char → List Char) : List Value → List Value
  | [] => []
  | v :: items => reprinted numberText v :: reprintedItems numberText items

def reprintedFields (numberText : List Char → List Char) :
    List (String × Value) → List (String × Value)
  | [] => []
  | f :: fields => reprintedField numberText f :: reprintedFields numberText fields

def reprintedField (numberText : List Char → List Char) : String × Value → String × Value
  | (key, v) => (key, reprinted numberText v)

end

variable {numberText : List Char → List Char}

theorem says_printed (h : PrintsNumbers numberText) (x : Decimal) :
    Says (numberText x.text) (.value (printed numberText x.text)) := by
  unfold printed
  rcases h x with hnull | ⟨y, hy⟩
  · rw [hnull, parse_of_says .nullWord]
    exact .nullWord
  · rw [hy, parse_of_says (.number y)]
    exact .number y

theorem inside_quoteItem (p : CodePoint) : Inside [p] (quoteItem p) := by
  cases p with
  | char c =>
    exact ⟨fun isKey stack => run_escapeChar _ isKey stack c, readsAs_escapeChar ⟨false, true⟩ c⟩
  | surrogate n =>
    have hbound : 0xD800 + n.val < 0x10000 := by omega
    have hread := readsAs_unit hbound
    rw [ofUnit_surrogate] at hread
    exact ⟨fun isKey stack => run_unicodeEscape isKey stack _, hread⟩

theorem inside_quote (s : Text) : Inside s (s.flatMap quoteItem) := by
  induction s with
  | nil => exact ⟨fun _ _ => rfl, readsAs_nil⟩
  | cons p s ih =>
    have hitem := inside_quoteItem p
    refine ⟨fun isKey stack => ?_, hitem.readsAs.append ih.readsAs⟩
    rw [List.flatMap_cons, run_append_of_some (hitem.run isKey stack)]
    exact ih.run isKey stack

theorem says_quote (s : Text) : Says (quote s) (.value (.string s.joined)) :=
  .string (inside_quote s)

theorem blank_newline (depth : Nat) : Blank (newline depth) := by
  intro c hc
  rcases List.mem_cons.mp hc with rfl | hspace
  · rfl
  · rw [List.eq_of_mem_replicate hspace]
    rfl

theorem opens_first (depth : Nat) : Opens true (newline depth) := blank_newline depth

theorem opens_next (depth : Nat) : Opens false (',' :: newline depth) :=
  ⟨[], newline depth, List.forall_mem_nil _, blank_newline depth, rfl⟩

theorem around_colon : Around ':' [':', ' '] :=
  ⟨[], [' '], List.forall_mem_nil _, List.forall_mem_singleton.mpr rfl, rfl⟩

theorem keyText_ofString (key : String) : keyText (.ofString key) = key := by
  have hunits : (Text.ofString key).flatMap (Json.units ⟨false, true⟩) = Text.ofString key := by
    rw [Text.ofString, List.flatMap_map]
    exact List.flatMap_pure_eq_map _ _
  rw [← hunits, keyText_units]

theorem says_field {opening text rest : List Char} {first : Bool} {v : Value}
    {fields : List (String × Value)} (hopens : Opens first opening) (key : String)
    (hvalue : Says text (.value v)) (hrest : Says rest (.fields false fields)) :
    Says (opening ++ (quote (.ofString key) ++ [':', ' '] ++ text ++ rest))
      (.fields first ((key, v) :: fields)) := by
  have hitem := Says.field hopens (inside_quote (.ofString key)) around_colon hvalue hrest
  rw [keyText_ofString] at hitem
  simpa [quote] using hitem

section

variable {depth : Nat} {blank : List Char}

theorem says_items {items : List Value}
    (h : ∀ v ∈ items, Says (stringify numberText depth v) (.value (reprinted numberText v)))
    (hblank : Blank blank) :
    Says (stringifyItems numberText depth items ++ (blank ++ [']']))
      (.items false (reprintedItems numberText items)) := by
  induction items with
  | nil => exact .noItem hblank
  | cons v items ih =>
    rw [List.forall_mem_cons] at h
    have hitem := Says.item (opens_next depth) h.1 (ih h.2)
    simpa [stringifyItems, reprintedItems] using hitem

theorem says_fields {fields : List (String × Value)}
    (h : ∀ f ∈ fields, Says (stringify numberText depth f.2) (.value (reprinted numberText f.2)))
    (hblank : Blank blank) :
    Says (stringifyFields numberText depth fields ++ (blank ++ ['}']))
      (.fields false (reprintedFields numberText fields)) := by
  induction fields with
  | nil => exact .noField hblank
  | cons f fields ih =>
    obtain ⟨key, v⟩ := f
    rw [List.forall_mem_cons] at h
    have hitem := says_field (opens_next depth) key h.1 (ih h.2)
    simpa [stringifyFields, stringifyField, reprintedFields, reprintedField] using hitem

end

theorem says_stringify (h : PrintsNumbers numberText) (v : Value) :
    ∀ depth, Says (stringify numberText depth v) (.value (reprinted numberText v)) := by
  induction v with
  | null => exact fun _ => .nullWord
  | bool b =>
    intro depth
    cases b with
    | true => exact .trueWord
    | false => exact .falseWord
  | int i =>
    intro depth
    obtain ⟨x, hx⟩ := intText_eq i
    simp only [stringify, reprinted, ← hx]
    exact says_printed h x
  | float x =>
    intro depth
    cases x with
    | finite x => exact says_printed h x
    | nan => exact .nullWord
    | infinite negative => exact .nullWord
  | string s => exact fun _ => says_quote s
  | array items ih =>
    intro depth
    cases items with
    | nil => exact .array (.noItem (List.forall_mem_nil _))
    | cons v items =>
      have hrest := says_items (fun w hw => ih w (List.mem_cons_of_mem v hw) (depth + 1))
        (blank_newline depth)
      have hitem := Says.item (opens_first (depth + 1))
        (ih v List.mem_cons_self (depth + 1)) hrest
      simpa [stringify, reprinted, reprintedItems] using hitem.array
  | object fields ih =>
    intro depth
    cases fields with
    | nil => exact .object (.noField (List.forall_mem_nil _))
    | cons f fields =>
      obtain ⟨key, v⟩ := f
      have hrest := says_fields (fun g hg => ih g (List.mem_cons_of_mem _ hg) (depth + 1))
        (blank_newline depth)
      have hitem := says_field (opens_first (depth + 1)) key
        (ih (key, v) List.mem_cons_self (depth + 1)) hrest
      simpa [stringify, stringifyField, reprinted, reprintedFields, reprintedField] using
        hitem.object

theorem parse_stringify (h : PrintsNumbers numberText) (v : Value) :
    parse (stringify numberText 0 v) = some (reprinted numberText v) :=
  parse_of_says (says_stringify h v 0)

end JsText
