import SqlGateway.Library.RegexLanguage
import SqlGateway.Sql.QueryScrubber

namespace SqlGateway.Sql

open Regex (Pattern)

/-- The pattern matches these words in any case, and nothing else. -/
structure Spells (p : Pattern) (words : List String) : Prop where
  isRegular : p.IsRegular
  mem_iff : ∀ text, text ∈ p.language ↔ ∃ word ∈ words, word.toList = text.map foldCase

variable {p q : Pattern} {words others : List String}

theorem isRegular_chars (word : List Char) :
    (Pattern.seqs (word.map fun c => .char fun d => foldCase d = c)).IsRegular := by
  induction word with
  | nil => trivial
  | cons c word ih =>
    cases word with
    | nil => trivial
    | cons d word => exact ⟨trivial, ih⟩

theorem spells_caselessWord (word : String) : Spells (caselessWord word) [word] where
  isRegular := isRegular_chars word.toList
  mem_iff text := by
    rw [caselessWord, Regex.mem_language_chars, eq_comm]
    simp only [List.mem_singleton, exists_eq_left]

theorem spells_empty : Spells .empty [""] where
  isRegular := trivial
  mem_iff text := by
    simp [Pattern.language, Language.mem_one, eq_comm]

theorem Spells.alt (hp : Spells p words) (hq : Spells q others) :
    Spells (.alt p q) (words ++ others) where
  isRegular := ⟨hp.isRegular, hq.isRegular⟩
  mem_iff text := by
    simp only [List.mem_append, or_and_right, exists_or, ← hp.mem_iff, ← hq.mem_iff]
    rfl

theorem Spells.group (hp : Spells p words) (n : Nat) : Spells (.group n p) words where
  isRegular := hp.isRegular
  mem_iff := hp.mem_iff

theorem Spells.seq (hp : Spells p words) (hq : Spells q others) :
    Spells (.seq p q) (words.flatMap fun first => others.map fun second => first ++ second) where
  isRegular := ⟨hp.isRegular, hq.isRegular⟩
  mem_iff text := by
    constructor
    · intro htext
      obtain ⟨front, hfront, back, hback, rfl⟩ := Language.mem_mul.mp htext
      obtain ⟨first, hfirst, hfrontEq⟩ := (hp.mem_iff front).mp hfront
      obtain ⟨second, hsecond, hbackEq⟩ := (hq.mem_iff back).mp hback
      refine ⟨first ++ second, List.mem_flatMap.mpr ⟨first, hfirst, List.mem_map_of_mem hsecond⟩, ?_⟩
      rw [String.toList_append, List.map_append, hfrontEq, hbackEq]
    · rintro ⟨word, hword, htext⟩
      obtain ⟨first, hfirst, hword⟩ := List.mem_flatMap.mp hword
      obtain ⟨second, hsecond, rfl⟩ := List.mem_map.mp hword
      rw [String.toList_append, eq_comm, List.map_eq_append_iff] at htext
      obtain ⟨front, back, rfl, hfront, hback⟩ := htext
      exact Language.append_mem_mul ((hp.mem_iff front).mpr ⟨first, hfirst, hfront.symm⟩)
        ((hq.mem_iff back).mpr ⟨second, hsecond, hback.symm⟩)

theorem toNat_toLower (c : Char) :
    c.toLower.toNat = if 65 ≤ c.toNat ∧ c.toNat ≤ 90 then c.toNat + 32 else c.toNat := by
  unfold Char.toLower
  split
  case isTrue h =>
    have hupper : 65 ≤ c.toNat ∧ c.toNat ≤ 90 := h
    rw [if_pos hupper]
    change (c.val + 32).toNat = c.toNat + 32
    rw [UInt32.toNat_add]
    exact Nat.mod_eq_of_lt (by change c.toNat + 32 < 2 ^ 32; omega)
  case isFalse h =>
    have hother : ¬(65 ≤ c.toNat ∧ c.toNat ≤ 90) := h
    rw [if_neg hother]

theorem foldCase_eq_separator {c d : Char} (hd : d ∈ ['_', '-']) : foldCase c = d ↔ c = d := by
  have hsep : d.toNat = 0x5F ∨ d.toNat = 0x2D := by
    rcases List.mem_pair.mp hd with rfl | rfl
    · exact .inl rfl
    · exact .inr rfl
  have hi : 'i'.toNat = 105 := rfl
  have hs : 's'.toNat = 115 := rfl
  have hk : 'k'.toNat = 107 := rfl
  have hlower := toNat_toLower c
  rw [← Char.toNat_inj, ← Char.toNat_inj]
  unfold foldCase
  split_ifs at hlower ⊢ <;> omega

theorem spells_separator : Spells (.optional (.oneOf ['_', '-'])) ["_", "-", ""] := by
  have hmem : ∀ text, text ∈ (Pattern.oneOf ['_', '-']).language ↔
      ∃ word ∈ ["_", "-"], word.toList = text.map foldCase := by
    intro text
    constructor
    · rintro ⟨c, hc, rfl⟩
      replace hc : c ∈ ['_', '-'] := of_decide_eq_true hc
      refine ⟨String.singleton c, ?_, ?_⟩
      · rcases List.mem_pair.mp hc with rfl | rfl
        · exact List.mem_cons_self
        · exact List.mem_cons_of_mem _ List.mem_cons_self
      · rw [String.toList_singleton, List.map_singleton, (foldCase_eq_separator hc).mpr rfl]
    · rintro ⟨word, hword, htext⟩
      obtain ⟨d, hd, hdword⟩ : ∃ d ∈ ['_', '-'], word.toList = [d] := by
        rcases List.mem_pair.mp hword with rfl | rfl
        · exact ⟨'_', List.mem_cons_self, rfl⟩
        · exact ⟨'-', List.mem_cons_of_mem _ List.mem_cons_self, rfl⟩
      rw [hdword, eq_comm, List.map_eq_singleton_iff] at htext
      obtain ⟨c, rfl, hc⟩ := htext
      exact ⟨c, decide_eq_true ((foldCase_eq_separator hd).mp hc ▸ hd), rfl⟩
  have hchar : Spells (.oneOf ['_', '-']) ["_", "-"] := ⟨trivial, hmem⟩
  exact hchar.alt spells_empty

def sensitiveWords : List String :=
  ["password", "passwd", "secret", "token", "api_key", "api-key", "apikey", "private_key",
    "private-key", "privatekey", "auth", "session", "credential", "hash", "salt", "pin", "cvv",
    "ssn"]

theorem spells_sensitiveColumnPattern : Spells sensitiveColumnPattern sensitiveWords := by
  have hword := spells_caselessWord
  have hkey := spells_separator.seq (hword "key")
  have h := ((((((((((((hword "password").alt (hword "passwd")).alt (hword "secret")).alt
    (hword "token")).alt ((hword "api").seq hkey)).alt ((hword "private").seq hkey)).alt
    (hword "auth")).alt (hword "session")).alt (hword "credential")).alt (hword "hash")).alt
    (hword "salt")).alt (hword "pin")).alt (hword "cvv")
  exact (h.alt (hword "ssn")).group 1

/-- A column name is sensitive when one of the words stands anywhere in it. -/
theorem isSensitiveColumnName_iff (columnName : String) :
    isSensitiveColumnName columnName = true ↔
      ∃ word ∈ sensitiveWords, word.toList <:+: columnName.toList.map foldCase := by
  have hspells := spells_sensitiveColumnPattern
  unfold isSensitiveColumnName
  split
  case isTrue hempty =>
    subst hempty
    decide
  case isFalse hname =>
    rw [Regex.search_iff hspells.isRegular]
    simp only [List.infix_map_iff, hspells.mem_iff]
    constructor
    · rintro ⟨text, ⟨word, hword, heq⟩, hinfix⟩
      exact ⟨word, hword, text, hinfix, heq⟩
    · rintro ⟨word, hword, text, hinfix, heq⟩
      exact ⟨text, ⟨word, hword, heq⟩, hinfix⟩

-- "pin", in a name that holds no secret
example : isSensitiveColumnName "shipping_address_id" = true := by decide

end SqlGateway.Sql
