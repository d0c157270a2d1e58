import Mathlib.Data.List.DropRight
import SqlGateway.Library.Json
import SqlGateway.Library.Regex

/-! What a script does with strings: `trim`, `slice`, `match` and `JSON.stringify`. -/

namespace JsText

open Json (CodePoint Text Value)
open Regex (Pattern)

def ofChars (text : List Char) : Text := text.map .char

/-- `\s`. -/
def isSpace (c : Char) : Bool :=
  (0x09 ≤ c.toNat && c.toNat ≤ 0x0D) || c.toNat = 0x20 || c.toNat = 0xA0 || c.toNat = 0x1680 ||
    (0x2000 ≤ c.toNat && c.toNat ≤ 0x200A) || c.toNat = 0x2028 || c.toNat = 0x2029 ||
    c.toNat = 0x202F || c.toNat = 0x205F || c.toNat = 0x3000 || c.toNat = 0xFEFF

/-- `\w`. -/
def isWord (c : Char) : Bool := c.isAlphanum || c = '_'

def trim (text : List Char) : List Char := (text.dropWhile isSpace).rdropWhile isSpace

/-- The UTF-16 code units of a character. -/
def units (c : Char) : Nat := if c.toNat < 0x10000 then 1 else 2

def length : List Char → Nat
  | [] => 0
  | c :: text => units c + length text

/-- The first half of a surrogate pair. -/
def highSurrogate (c : Char) : CodePoint :=
  .surrogate (Fin.ofNat 0x800 ((c.toNat - 0x10000) / 0x400))

/-- `text.slice(0, n)`, which may cut the last character in two. -/
def slice : Nat → List Char → Text
  | 0, _ => []
  | _, [] => []
  | 1, c :: _ => if units c = 1 then [.char c] else [highSurrogate c]
  | n + 2, c :: text => .char c :: if units c = 1 then slice (n + 1) text else slice n text

/-! Patterns under the `i` flag -/

def word (text : String) : Pattern := .seqs (text.toList.map fun c => .char fun d => d.toUpper = c)

def blanks : Pattern := .star (.char isSpace)

def someBlanks : Pattern := .seq (.char isSpace) blanks

/-- `([a-zA-Z_]\w*)`. -/
def name : Pattern := .group 1 (.seq (.char fun c => c.isAlpha || c = '_') (.star (.char isWord)))

/-- A match at the front of the text. -/
def matchFront (p : Pattern) (text : List Char) : Option Regex.State :=
  (Regex.outcomes p (.start text)).head?

/-- The first match of `\b` and a pattern that begins with a letter. -/
def matchWord (p : Pattern) (afterWord : Bool) : List Char → Option Regex.State
  | [] => none
  | c :: text =>
    if afterWord then matchWord p (isWord c) text
    else (matchFront p (c :: text)).orElse fun _ => matchWord p (isWord c) text

/-- What stands in the parentheses. -/
def captured (found : Option Regex.State) : Option (List Char) := found.bind fun s => s.groups 1

/-! `JSON.stringify(value, null, 2)` -/

def quoteItem : CodePoint → List Char
  | .char c => Json.escapeChar ⟨false, true⟩ c
  | .surrogate n => Json.unicodeEscape (0xD800 + n)

def quote (text : Text) : List Char := '"' :: text.flatMap quoteItem ++ ['"']

def newline (depth : Nat) : List Char := '\n' :: List.replicate (2 * depth) ' '

def stringifyNumber (numberText : List Char → List Char) : Json.Number → List Char
  | .finite x => numberText x.text
  | _ => "null".toList

mutual

/-- `numberText` is the text of the number that `JSON.parse` has read. -/
def stringify (numberText : List Char → List Char) (depth : Nat) : Value → List Char
  | .null => "null".toList
  | .bool true => "true".toList
  | .bool false => "false".toList
  | .int i => numberText (Json.intText i)
  | .float x => stringifyNumber numberText x
  | .string s => quote s
  | .array [] => ['[', ']']
  | .array (v :: items) =>
    '[' :: (newline (depth + 1) ++ stringify numberText (depth + 1) v ++
      stringifyItems numberText (depth + 1) items ++ newline depth ++ [']'])
  | .object [] => ['{', '}']
  | .object (f :: fields) =>
    '{' :: (newline (depth + 1) ++ stringifyField numberText (depth + 1) f ++
      stringifyFields numberText (depth + 1) fields ++ newline depth ++ ['}'])

def stringifyItems (numberText : List Char → List Char) (depth : Nat) : List Value → List Char
  | [] => []
  | v :: items =>
    ',' :: (newline depth ++ stringify numberText depth v ++
      stringifyItems numberText depth items)

def stringifyFields (numberText : List Char → List Char) (depth : Nat) :
    List (String × Value) → List Char
  | [] => []
  | f :: fields =>
    ',' :: (newline depth ++ stringifyField numberText depth f ++
      stringifyFields numberText depth fields)

def stringifyField (numberText : List Char → List Char) (depth : Nat) :
    String × Value → List Char
  | (key, v) => quote (.ofString key) ++ [':', ' '] ++ stringify numberText depth v

end

end JsText
