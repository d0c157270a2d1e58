import Mathlib.Data.List.DropRight
import SqlGateway.Library.Json

/-! Python's `str` methods on lists of code points. -/

namespace PyText

/-- `str.isspace` for one character. -/
def isSpaceChar (c : Char) : Bool :=
  (0x09 ≤ c.toNat && c.toNat ≤ 0x0D) || (0x1C ≤ c.toNat && c.toNat ≤ 0x20) || c.toNat = 0x85 ||
    c.toNat = 0xA0 || c.toNat = 0x1680 || (0x2000 ≤ c.toNat && c.toNat ≤ 0x200A) ||
    c.toNat = 0x2028 || c.toNat = 0x2029 || c.toNat = 0x202F || c.toNat = 0x205F ||
    c.toNat = 0x3000

/-- The boundaries of `str.splitlines`. -/
def isLineBreakChar (c : Char) : Bool :=
  (0x0A ≤ c.toNat && c.toNat ≤ 0x0D) || (0x1C ≤ c.toNat && c.toNat ≤ 0x1E) || c.toNat = 0x85 ||
    c.toNat = 0x2028 || c.toNat = 0x2029

/-- What a text is made of: characters, or code points that may be lone surrogates. -/
class Character (α : Type) where
  ofChar : Char → α
  isSpace : α → Bool
  isLineBreak : α → Bool

export Character (isSpace isLineBreak)

instance : Character Char := ⟨id, isSpaceChar, isLineBreakChar⟩

instance : Character Json.CodePoint where
  ofChar := .char
  isSpace
    | .char c => isSpaceChar c
    | .surrogate _ => false
  isLineBreak
    | .char c => isLineBreakChar c
    | .surrogate _ => false

section Texts

variable {α : Type} [Character α]

def lstrip (text : List α) : List α := text.dropWhile isSpace

def rstrip (text : List α) : List α := text.rdropWhile isSpace

def strip (text : List α) : List α := rstrip (lstrip text)

/-- `text.splitlines()[0]` of a text that is not empty. -/
def firstLine (text : List α) : List α := text.takeWhile fun c => !isLineBreak c

/-- `text.split()`. -/
def split (text : List α) : List (List α) :=
  (text.splitOnP isSpace).filter fun word => !word.isEmpty

/-- `" ".join(words)`. -/
def joinWords (words : List (List α)) : List α := [Character.ofChar ' '].intercalate words

end Texts

/-- `str.lower`, exact on the characters whose lower case is one ASCII character: the
ASCII letters and the Kelvin sign. The lower case of any other character holds one that is
not ASCII, and here the character stands for it. -/
def lower (text : List Char) : List Char :=
  text.map fun c => if c.toNat = 0x212A then 'k' else c.toLower

section Texts

variable {α : Type} [Character α] {c : α}

theorem lstrip_append (hc : isSpace c = false) (text rest : List α) :
    lstrip (text ++ c :: rest) = lstrip text ++ c :: rest := by
  induction text with
  | nil => simp [lstrip, hc]
  | cons d text ih => by_cases hd : isSpace d <;> simp_all [lstrip]

theorem rstrip_append (hc : isSpace c = false) (text rest : List α) :
    rstrip (text ++ c :: rest) = text ++ c :: rstrip rest := by
  have h := lstrip_append hc rest.reverse text.reverse
  simp only [lstrip] at h
  simp only [rstrip, List.rdropWhile, List.reverse_append, List.reverse_cons, List.append_assoc,
    List.singleton_append]
  rw [h]
  simp

theorem strip_append (hc : isSpace c = false) (text rest : List α) :
    strip (text ++ c :: rest) = lstrip text ++ c :: rstrip rest := by
  rw [strip, lstrip_append hc, rstrip_append hc]

end Texts

end PyText
