import SqlGateway.Library.JsonLaws

/-! Reading the value of a JSON text, as `json.loads` and `JSON.parse` do -/

namespace Json

/-- The code point of a UTF-16 unit, which may be one half of a surrogate pair. -/
def CodePoint.ofUnit (n : Nat) : CodePoint :=
  if h : 0xD800 ≤ n ∧ n < 0xE000 then .surrogate ⟨n - 0xD800, by omega⟩ else .char (Char.ofNat n)

/-- Two halves next to each other are one character. -/
def Text.joined : Text → Text
  | .surrogate high :: .surrogate low :: rest =>
    if high.val < 0x400 ∧ 0x400 ≤ low.val then
      .char (Char.ofNat (0x10000 + high.val * 0x400 + (low.val - 0x400))) :: joined rest
    else .surrogate high :: joined (.surrogate low :: rest)
  | p :: rest => p :: joined rest
  | [] => []

def CodePoint.char? : CodePoint → Option Char
  | .char c => some c
  | .surrogate _ => none

def hexValue (c : Char) : Nat := if c.isDigit then c.toNat - 48 else c.toNat - 87

def shortEscaped (c : Char) : Char :=
  if c = 'n' then '\n'
  else if c = 'r' then '\r'
  else if c = 't' then '\t'
  else if c = 'f' then Char.ofNat 0x0C
  else if c = 'b' then Char.ofNat 0x08
  else c

def prepend (p : CodePoint) (read : Text × List Char) : Text × List Char := (p :: read.1, read.2)

/-- The code points up to the closing quote, one for each `\u`. -/
def readChars : List Char → Option (Text × List Char)
  | [] => none
  | c :: rest =>
    if c = '"' then some ([], rest)
    else if c = '\\' then
      match rest with
      | [] => none
      | d :: rest =>
        if d = 'u' then
          match rest with
          | a :: b :: c :: d :: rest =>
            (readChars rest).map (prepend (.ofUnit
              (hexValue a * 4096 + hexValue b * 256 + hexValue c * 16 + hexValue d)))
          | _ => none
        else (readChars rest).map (prepend (.char (shortEscaped d)))
    else (readChars rest).map (prepend (.char c))

/-- A key; the keys of the objects that are written here hold no half of a pair. -/
def keyText (s : Text) : String := .ofList (s.joined.filterMap CodePoint.char?)

def readDigit (c : Char) : Fin 10 := Fin.ofNat 10 (c.toNat - 48)

def readExponent : List Char → Option (Bool × Fin 10 × List (Fin 10))
  | [] => none
  | c :: rest =>
    if c = '-' ∨ c = '+' then
      match rest with
      | [] => none
      | d :: ds => some (c = '-', readDigit d, ds.map readDigit)
    else some (false, readDigit c, rest.map readDigit)

/-- A number is an integer if it is written as one. -/
def Decimal.plain (x : Decimal) : Value :=
  if x.fraction.isEmpty && x.exponent.isNone then
    .int (if x.negative then -(x.whole : Int) else x.whole)
  else .float (.finite x)

/-- Written as a float is, and not as an integer. -/
def Decimal.IsFloat (x : Decimal) : Prop := x.fraction ≠ [] ∨ x.exponent ≠ none

theorem Decimal.plain_of_isFloat {x : Decimal} (h : x.IsFloat) : x.plain = .float (.finite x) := by
  refine if_neg fun hint => ?_
  rw [Bool.and_eq_true, List.isEmpty_iff, Option.isNone_iff_eq_none] at hint
  cases h with
  | inl hfraction => exact hfraction hint.1
  | inr hexponent => exact hexponent hint.2

def isExponentMark (c : Char) : Bool := c = 'e' || c = 'E'

def readNumber (token : List Char) : Value :=
  let unsigned := token.dropWhile fun c => c = '-'
  let afterWhole := unsigned.dropWhile Char.isDigit
  Decimal.plain
    { negative := token.head? = some '-'
      whole := Nat.ofDigitChars 10 (unsigned.takeWhile Char.isDigit) 0
      fraction := ((afterWhole.takeWhile fun c => !isExponentMark c).drop 1).map readDigit
      exponent := readExponent ((afterWhole.dropWhile fun c => !isExponentMark c).drop 1) }

def isNumberChar (c : Char) : Bool :=
  c.isDigit || c = '-' || c = '+' || c = '.' || isExponentMark c

def isSeparator (c : Char) : Bool := isSpace c || c = ',' || c = ':'

def skipSeparators (text : List Char) : List Char := text.dropWhile isSeparator

mutual

/-- The value at the front of a text that is known to be well formed, and what follows it. -/
def readValue : Nat → List Char → Option (Value × List Char)
  | 0, _ => none
  | n + 1, text =>
    match skipSeparators text with
    | [] => none
    | c :: rest =>
      if c = '"' then (readChars rest).map fun s => (.string s.1.joined, s.2)
      else if c = '[' then (readItems n rest).map fun items => (.array items.1, items.2)
      else if c = '{' then (readFields n rest).map fun fields => (.object fields.1, fields.2)
      else if c = 'n' then some (.null, rest.drop 3)
      else if c = 't' then some (.bool true, rest.drop 3)
      else if c = 'f' then some (.bool false, rest.drop 4)
      else some (readNumber ((c :: rest).takeWhile isNumberChar),
        (c :: rest).dropWhile isNumberChar)

def readItems : Nat → List Char → Option (List Value × List Char)
  | 0, _ => none
  | n + 1, text =>
    match skipSeparators text with
    | [] => none
    | c :: rest =>
      if c = ']' then some ([], rest)
      else (readValue n (c :: rest)).bind fun v =>
        (readItems n v.2).map fun items => (v.1 :: items.1, items.2)

def readFields : Nat → List Char → Option (List (String × Value) × List Char)
  | 0, _ => none
  | n + 1, text =>
    match skipSeparators text with
    | [] => none
    | c :: rest =>
      if c = '}' then some ([], rest)
      else (readChars rest).bind fun key => (readValue n key.2).bind fun v =>
        (readFields n v.2).map fun fields => ((keyText key.1, v.1) :: fields.1, fields.2)

end

mutual

/-- What a text says of a value. -/
def Value.plain : Value → Value
  | .float (.finite x) => x.plain
  | .string s => .string s.joined
  | .array items => .array (Value.plainItems items)
  | .object fields => .object (Value.plainFields fields)
  | v => v

def Value.plainItems : List Value → List Value
  | [] => []
  | v :: items => v.plain :: Value.plainItems items

def Value.plainFields : List (String × Value) → List (String × Value)
  | [] => []
  | f :: fields => Value.plainField f :: Value.plainFields fields

def Value.plainField : String × Value → String × Value
  | (key, v) => (key, v.plain)

end

/-- A string without lone surrogates. -/
def Value.string? : Value → Option String
  | .string s => (s.mapM CodePoint.char?).map String.ofList
  | _ => none

/-- The members of an object stand in the order of the text. -/
def parse (text : List Char) : Option Value :=
  if accepts text then (readValue text.length text).map Prod.fst else none

end Json
