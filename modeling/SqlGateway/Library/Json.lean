import Mathlib.Data.List.Basic

namespace Json

/-- A finite float by the parts of its shortest decimal text. -/
structure Decimal where
  negative : Bool
  whole : Nat
  fraction : List (Fin 10) := []
  exponent : Option (Bool × Fin 10 × List (Fin 10)) := none
  deriving DecidableEq

inductive Number
  | finite (value : Decimal)
  | nan
  | infinite (negative : Bool)
  deriving DecidableEq

/-- A code point of a Python string. -/
inductive CodePoint
  | char (c : Char)
  | surrogate (n : Fin 0x800)
  deriving DecidableEq

abbrev Text := List CodePoint

def Text.ofString (s : String) : Text := s.toList.map .char

instance : Coe String Text := ⟨Text.ofString⟩

inductive Value
  | null
  | bool (b : Bool)
  | int (i : Int)
  | float (x : Number)
  | string (s : Text)
  | array (items : List Value)
  | object (fields : List (String × Value))

def Value.ofString (s : String) : Value := .string (.ofString s)

@[elab_as_elim, induction_eliminator]
theorem Value.induct {P : Value → Prop} (null : P .null) (bool : ∀ b, P (.bool b))
    (int : ∀ i, P (.int i)) (float : ∀ x, P (.float x)) (string : ∀ s, P (.string s))
    (array : ∀ items, (∀ v ∈ items, P v) → P (.array items))
    (object : ∀ fields, (∀ f ∈ fields, P f.2) → P (.object fields)) : ∀ v, P v := by
  intro v
  apply Value.rec (motive_1 := P) (motive_2 := fun items => ∀ v ∈ items, P v)
    (motive_3 := fun fields => ∀ f ∈ fields, P f.2) (motive_4 := fun f => P f.2)
    null bool int float string (fun _ ih => array _ ih) (fun _ ih => object _ ih)
  · simp
  · intro v items hv hitems w hw
    rcases List.mem_cons.mp hw with rfl | hw
    · exact hv
    · exact hitems w hw
  · simp
  · intro f fields hf hfields g hg
    rcases List.mem_cons.mp hg with rfl | hg
    · exact hf
    · exact hfields g hg
  · intro _ _ ih
    exact ih

def Number.isFinite : Number → Bool
  | .finite _ => true
  | .nan => false
  | .infinite _ => false

def CodePoint.isChar : CodePoint → Bool
  | .char _ => true
  | .surrogate _ => false

mutual

def Value.all (p : Value → Bool) : Value → Bool
  | .array items => Value.allItems p items
  | .object fields => Value.allFields p fields
  | v => p v

def Value.allItems (p : Value → Bool) : List Value → Bool
  | [] => true
  | v :: items => v.all p && Value.allItems p items

def Value.allFields (p : Value → Bool) : List (String × Value) → Bool
  | [] => true
  | f :: fields => Value.allField p f && Value.allFields p fields

def Value.allField (p : Value → Bool) : String × Value → Bool
  | (_, v) => v.all p

end

@[simp] theorem Value.all_array (p : Value → Bool) (items : List Value) :
    (Value.array items).all p = items.all fun v => v.all p := by
  rw [Value.all]
  induction items with
  | nil => rfl
  | cons v items ih => simp [allItems, ih]

@[simp] theorem Value.all_object (p : Value → Bool) (fields : List (String × Value)) :
    (Value.object fields).all p = fields.all fun f => f.2.all p := by
  rw [Value.all]
  induction fields with
  | nil => rfl
  | cons f fields ih =>
    obtain ⟨key, v⟩ := f
    simp [allFields, allField, ih]

def Value.isStrictPart : Value → Bool
  | .float x => x.isFinite
  | _ => true

/-- No NaN and no infinity at any depth. -/
def Value.isStrict (v : Value) : Bool := v.all isStrictPart

def Value.isEncodablePart : Value → Bool
  | .string s => s.all CodePoint.isChar
  | _ => true

/-- No lone surrogate at any depth. -/
def Value.isEncodable (v : Value) : Bool := v.all isEncodablePart

theorem Value.isStrict_array (items : List Value) :
    (Value.array items).isStrict = items.all isStrict := all_array _ items

theorem Value.isStrict_object (fields : List (String × Value)) :
    (Value.object fields).isStrict = fields.all fun f => f.2.isStrict := all_object _ fields

/-- A test that fails on nothing but lone surrogates and floats that are not finite. -/
structure Lenient (p : Value → Bool) : Prop where
  null : p .null = true
  bool : ∀ b, p (.bool b) = true
  int : ∀ i, p (.int i) = true
  finite : ∀ x, p (.float (.finite x)) = true
  string : ∀ s, p (.ofString s) = true

theorem lenient_isStrictPart : Lenient Value.isStrictPart :=
  ⟨rfl, fun _ => rfl, fun _ => rfl, fun _ => rfl, fun _ => rfl⟩

theorem lenient_isEncodablePart : Lenient Value.isEncodablePart := by
  refine ⟨rfl, fun _ => rfl, fun _ => rfl, fun _ => rfl, fun s => ?_⟩
  simp [Value.ofString, Value.isEncodablePart, Text.ofString, CodePoint.isChar]

def Value.ofOption : Option Value → Value
  | some v => v
  | none => .null

/-- The value at a path of keys; a null counts as absent. -/
def Value.find : List String → Value → Option Value
  | [], .null => none
  | [], v => some v
  | key :: path, .object fields => (fields.lookup key).bind (find path)
  | _ :: _, _ => none

/-- The options of an encoder; `compact` drops the blank after `,` and `:`. -/
structure Options where
  ensureAscii : Bool
  compact : Bool
  deriving DecidableEq

def Options.itemSeparator (o : Options) : List Char := if o.compact then [','] else [',', ' ']

def Options.keySeparator (o : Options) : List Char := if o.compact then [':'] else [':', ' ']

def hexDigit (n : Nat) : Char := Nat.digitChar (n % 16)

def unicodeEscape (n : Nat) : List Char :=
  ['\\', 'u', hexDigit (n / 4096), hexDigit (n / 256), hexDigit (n / 16), hexDigit n]

def escapeChar (o : Options) (c : Char) : List Char :=
  if c = '"' then ['\\', '"']
  else if c = '\\' then ['\\', '\\']
  else if c = '\n' then ['\\', 'n']
  else if c = '\r' then ['\\', 'r']
  else if c = '\t' then ['\\', 't']
  else if c.toNat = 0x0C then ['\\', 'f']
  else if c.toNat = 0x08 then ['\\', 'b']
  else if c.toNat < 0x20 then unicodeEscape c.toNat
  else if o.ensureAscii = false ∨ c.toNat < 0x7F then [c]
  else if c.toNat < 0x10000 then unicodeEscape c.toNat
  else
    -- a surrogate pair
    unicodeEscape (0xD800 + (c.toNat - 0x10000) / 0x400) ++
      unicodeEscape (0xDC00 + (c.toNat - 0x10000) % 0x400)

def escape (o : Options) : CodePoint → List Char
  | .char c => escapeChar o c
  -- without escapes a lone surrogate has no text: such a value is not encodable
  | .surrogate n => if o.ensureAscii then unicodeEscape (0xD800 + n) else []

def quote (o : Options) (s : Text) : List Char := '"' :: s.flatMap (escape o) ++ ['"']

def digitsText (ds : List (Fin 10)) : List Char := ds.map fun d => Nat.digitChar d.val

def signText (negative : Bool) : List Char := if negative then ['-'] else []

def fractionText : List (Fin 10) → List Char
  | [] => []
  | d :: ds => '.' :: digitsText (d :: ds)

def exponentText : Option (Bool × Fin 10 × List (Fin 10)) → List Char
  | none => []
  | some (negative, d, ds) => ['e', if negative then '-' else '+'] ++ digitsText (d :: ds)

def Decimal.text (x : Decimal) : List Char :=
  signText x.negative ++ Nat.toDigits 10 x.whole ++ fractionText x.fraction ++
    exponentText x.exponent

def Number.text : Number → List Char
  | .finite x => x.text
  | .nan => "NaN".toList
  | .infinite negative => signText negative ++ "Infinity".toList

def intText (i : Int) : List Char := signText (decide (i < 0)) ++ Nat.toDigits 10 i.natAbs

mutual

/-- The text an encoder writes, bare `NaN` and `Infinity` tokens included. -/
def Value.text (o : Options) : Value → List Char
  | .null => "null".toList
  | .bool true => "true".toList
  | .bool false => "false".toList
  | .int i => intText i
  | .float x => x.text
  | .string s => quote o s
  | .array items => '[' :: (Value.itemsText o true items ++ [']'])
  | .object fields => '{' :: (Value.fieldsText o true fields ++ ['}'])

def Value.itemsText (o : Options) : Bool → List Value → List Char
  | _, [] => []
  | first, v :: items =>
    (if first then [] else o.itemSeparator) ++ (v.text o ++ Value.itemsText o false items)

def Value.fieldsText (o : Options) : Bool → List (String × Value) → List Char
  | _, [] => []
  | first, f :: fields =>
    (if first then [] else o.itemSeparator) ++
      (Value.fieldText o f ++ Value.fieldsText o false fields)

def Value.fieldText (o : Options) : String × Value → List Char
  | (key, v) => quote o (.ofString key) ++ (o.keySeparator ++ v.text o)

end

section

variable (o : Options)

theorem Value.text_array (items : List Value) :
    (Value.array items).text o = '[' :: (Value.itemsText o true items ++ [']']) := rfl

theorem Value.text_object (fields : List (String × Value)) :
    (Value.object fields).text o = '{' :: (Value.fieldsText o true fields ++ ['}']) := rfl

theorem Value.itemsText_cons (first : Bool) (v : Value) (items : List Value) :
    Value.itemsText o first (v :: items) =
      (if first then [] else o.itemSeparator) ++ (v.text o ++ Value.itemsText o false items) := rfl

theorem Value.fieldsText_cons (first : Bool) (f : String × Value) (fields : List (String × Value)) :
    Value.fieldsText o first (f :: fields) =
      (if first then [] else o.itemSeparator) ++
        (Value.fieldText o f ++ Value.fieldsText o false fields) := rfl

theorem Value.fieldText_mk (key : String) (v : Value) :
    Value.fieldText o (key, v) = quote o (.ofString key) ++ (o.keySeparator ++ v.text o) := rfl

end

/-! A pushdown recogniser of RFC 8259 texts: one mode and the stack of open containers. -/

inductive Container
  | array | object
  deriving DecidableEq

inductive Mode
  | value | firstItem | firstField | field | colon | done
  | word (rest : List Char)
  | string (isKey : Bool) | escape (isKey : Bool) | hex (isKey : Bool) (left : Nat)
  | minus | zero | digits | point | fraction | exponent | exponentSign | exponentDigits
  deriving DecidableEq

abbrev State := Mode × List Container

def isSpace (c : Char) : Bool := c = ' ' || c = '\n' || c = '\r' || c = '\t'

def isHex (c : Char) : Bool :=
  c.isDigit || ('a' ≤ c && c ≤ 'f') || ('A' ≤ c && c ≤ 'F')

def beginValue (stack : List Container) (c : Char) : Option State :=
  if c = '"' then some (.string false, stack)
  else if c = '[' then some (.firstItem, .array :: stack)
  else if c = '{' then some (.firstField, .object :: stack)
  else if c = 'n' then some (.word ['u', 'l', 'l'], stack)
  else if c = 't' then some (.word ['r', 'u', 'e'], stack)
  else if c = 'f' then some (.word ['a', 'l', 's', 'e'], stack)
  else if c = '-' then some (.minus, stack)
  else if c = '0' then some (.zero, stack)
  else if c.isDigit then some (.digits, stack)
  else none

def afterValue (stack : List Container) (c : Char) : Option State :=
  if isSpace c then some (.done, stack)
  else match stack with
    | [] => none
    | .array :: rest =>
      if c = ',' then some (.value, stack) else if c = ']' then some (.done, rest) else none
    | .object :: rest =>
      if c = ',' then some (.field, stack) else if c = '}' then some (.done, rest) else none

def afterWhole (stack : List Container) (c : Char) : Option State :=
  if c = '.' then some (.point, stack)
  else if c = 'e' ∨ c = 'E' then some (.exponent, stack)
  else afterValue stack c

def step : State → Char → Option State
  | (.value, stack), c => if isSpace c then some (.value, stack) else beginValue stack c
  | (.firstItem, stack), c =>
    if isSpace c then some (.firstItem, stack)
    else if c = ']' then some (.done, stack.tail) else beginValue stack c
  | (.firstField, stack), c =>
    if isSpace c then some (.firstField, stack)
    else if c = '}' then some (.done, stack.tail)
    else if c = '"' then some (.string true, stack) else none
  | (.field, stack), c =>
    if isSpace c then some (.field, stack)
    else if c = '"' then some (.string true, stack) else none
  | (.colon, stack), c =>
    if isSpace c then some (.colon, stack)
    else if c = ':' then some (.value, stack) else none
  | (.done, stack), c => afterValue stack c
  | (.word [], _), _ => none
  | (.word [d], stack), c => if c = d then some (.done, stack) else none
  | (.word (d :: rest), stack), c => if c = d then some (.word rest, stack) else none
  | (.string isKey, stack), c =>
    if c = '"' then some (if isKey then .colon else .done, stack)
    else if c = '\\' then some (.escape isKey, stack)
    else if c.toNat < 0x20 then none else some (.string isKey, stack)
  | (.escape isKey, stack), c =>
    if c ∈ ['"', '\\', '/', 'b', 'f', 'n', 'r', 't'] then some (.string isKey, stack)
    else if c = 'u' then some (.hex isKey 3, stack) else none
  | (.hex isKey 0, stack), c => if isHex c then some (.string isKey, stack) else none
  | (.hex isKey (n + 1), stack), c => if isHex c then some (.hex isKey n, stack) else none
  | (.minus, stack), c =>
    if c = '0' then some (.zero, stack) else if c.isDigit then some (.digits, stack) else none
  | (.zero, stack), c => afterWhole stack c
  | (.digits, stack), c => if c.isDigit then some (.digits, stack) else afterWhole stack c
  | (.point, stack), c => if c.isDigit then some (.fraction, stack) else none
  | (.fraction, stack), c =>
    if c.isDigit then some (.fraction, stack)
    else if c = 'e' ∨ c = 'E' then some (.exponent, stack) else afterValue stack c
  | (.exponent, stack), c =>
    if c = '+' ∨ c = '-' then some (.exponentSign, stack)
    else if c.isDigit then some (.exponentDigits, stack) else none
  | (.exponentSign, stack), c => if c.isDigit then some (.exponentDigits, stack) else none
  | (.exponentDigits, stack), c =>
    if c.isDigit then some (.exponentDigits, stack) else afterValue stack c

def Mode.isFinished : Mode → Bool
  | .done | .zero | .digits | .fraction | .exponentDigits => true
  | _ => false

def run (s : State) (text : List Char) : Option State := text.foldlM step s

def accepts (text : List Char) : Bool :=
  match run (.value, []) text with
  | some (mode, []) => mode.isFinished
  | _ => false

end Json
