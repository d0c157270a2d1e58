import SqlGateway.Library.JsonReader

namespace Json

/-! Strings -/

def surrogates (c : Char) : Text :=
  [.ofUnit (0xD800 + (c.toNat - 0x10000) / 0x400), .ofUnit (0xDC00 + (c.toNat - 0x10000) % 0x400)]

/-- What the reader finds of a code point before the halves are joined. -/
def units (o : Options) : CodePoint → Text
  | .char c => if o.ensureAscii = true ∧ 0x10000 ≤ c.toNat then surrogates c else [.char c]
  | .surrogate n => [.surrogate n]

theorem ofUnit_char (c : Char) : CodePoint.ofUnit c.toNat = .char c := by
  have hvalid : ¬ (0xD800 ≤ c.toNat ∧ c.toNat < 0xE000) := by
    rintro ⟨hlow, hhigh⟩
    cases c.valid with
    | inl hbelow => exact absurd hbelow (Nat.not_lt.mpr hlow)
    | inr habove => exact absurd hhigh (Nat.not_lt.mpr habove.1)
  rw [CodePoint.ofUnit, dif_neg hvalid, Char.ofNat_toNat]

theorem ofUnit_surrogate (n : Fin 0x800) : CodePoint.ofUnit (0xD800 + n) = .surrogate n := by
  have h : 0xD800 ≤ 0xD800 + n.val ∧ 0xD800 + n.val < 0xE000 := by omega
  rw [CodePoint.ofUnit, dif_pos h]
  exact congrArg CodePoint.surrogate (Fin.ext (Nat.add_sub_cancel_left 0xD800 n.val))

theorem hexValue_hexDigit (n : Nat) : hexValue (hexDigit n) = n % 16 := by
  have h : ∀ d, d < 16 → hexValue (Nat.digitChar d) = d := by decide
  exact h _ (Nat.mod_lt _ (by decide))

theorem readChars_plain {c : Char} (hquote : c ≠ '"') (hbackslash : c ≠ '\\') (rest : List Char) :
    readChars (c :: rest) = (readChars rest).map (prepend (.char c)) := by
  rw [readChars.eq_def]
  simp only [if_neg hquote, if_neg hbackslash]

theorem readChars_short {d : Char} (h : d ≠ 'u') (rest : List Char) :
    readChars ('\\' :: d :: rest) = (readChars rest).map (prepend (.char (shortEscaped d))) := by
  rw [readChars.eq_def]
  simp only [if_neg h, if_neg (by decide : ¬ '\\' = '"'), if_true]

theorem readChars_unicodeEscape {n : Nat} (h : n < 0x10000) (rest : List Char) :
    readChars (unicodeEscape n ++ rest) = (readChars rest).map (prepend (.ofUnit n)) := by
  have hvalue : n / 4096 % 16 * 4096 + n / 256 % 16 * 256 + n / 16 % 16 * 16 + n % 16 = n := by
    omega
  have htext : unicodeEscape n ++ rest = '\\' :: 'u' :: hexDigit (n / 4096) ::
    hexDigit (n / 256) :: hexDigit (n / 16) :: hexDigit n :: rest := rfl
  rw [htext, readChars.eq_def]
  simp only [if_neg (by decide : ¬ '\\' = '"'), if_true, hexValue_hexDigit, hvalue]

def ReadsAs (found : Text) (text : List Char) : Prop :=
  ∀ rest, readChars (text ++ rest) = (readChars rest).map fun read => (found ++ read.1, read.2)

theorem readsAs_short {c d : Char} (hletter : d ≠ 'u') (h : c = shortEscaped d) :
    ReadsAs [.char c] ['\\', d] := by
  intro rest
  rw [h]
  exact readChars_short hletter rest

theorem readsAs_unit {n : Nat} (h : n < 0x10000) : ReadsAs [.ofUnit n] (unicodeEscape n) :=
  readChars_unicodeEscape h

theorem ReadsAs.append {first second : List Char} {found found' : Text} (h : ReadsAs found first)
    (h' : ReadsAs found' second) : ReadsAs (found ++ found') (first ++ second) := by
  intro rest
  rw [List.append_assoc, h, h', Option.map_map]
  congr
  funext read
  exact Prod.ext (List.append_assoc found found' read.1).symm rfl

theorem readsAs_nil : ReadsAs [] [] := by
  intro rest
  exact Option.map_id'.symm

theorem units_small {o : Options} {c : Char} (h : c.toNat < 0x10000) :
    units o (.char c) = [.char c] := if_neg fun hc => absurd h (Nat.not_lt.mpr hc.2)

theorem readsAs_escapeChar (o : Options) (c : Char) :
    ReadsAs (units o (.char c)) (escapeChar o c) := by
  have hlarge (hascii : o.ensureAscii = true) (h : 0x10000 ≤ c.toNat) :
      units o (.char c) = surrogates c := if_pos ⟨hascii, h⟩
  have hplain (h : o.ensureAscii = false) : units o (.char c) = [.char c] :=
    if_neg fun hc => absurd hc.1 (by simp [h])
  have hsmall (h : c.toNat < 0x10000) : units o (.char c) = [.char c] := units_small h
  generalize units o (.char c) = found at *
  have hshort (d : Char) (hletter : d ≠ 'u') (hbound : (shortEscaped d).toNat < 0x10000)
      (h : c = shortEscaped d) : ReadsAs found ['\\', d] := by
    rw [hsmall (h ▸ hbound)]
    exact readsAs_short hletter h
  have hunit (h : c.toNat < 0x10000) : ReadsAs found (unicodeEscape c.toNat) := by
    rw [hsmall h, ← ofUnit_char c]
    exact readsAs_unit h
  unfold escapeChar
  refine iteInduction (fun h => hshort '"' (by decide) (by decide) h) fun hquote => ?_
  refine iteInduction (fun h => hshort '\\' (by decide) (by decide) h) fun hbackslash => ?_
  refine iteInduction (fun h => hshort 'n' (by decide) (by decide) h) fun _ => ?_
  refine iteInduction (fun h => hshort 'r' (by decide) (by decide) h) fun _ => ?_
  refine iteInduction (fun h => hshort 't' (by decide) (by decide) h) fun _ => ?_
  refine iteInduction (fun h => hshort 'f' (by decide) (by decide) (Char.toNat_inj.mp h)) fun _ => ?_
  refine iteInduction (fun h => hshort 'b' (by decide) (by decide) (Char.toNat_inj.mp h)) fun _ => ?_
  refine iteInduction (fun h => hunit (by omega)) fun _ => ?_
  refine iteInduction (fun h => ?_) fun h => ?_
  · have hself : found = [.char c] := by
      cases h with
      | inl hunescaped => exact hplain hunescaped
      | inr hprintable => exact hsmall (by omega)
    rw [hself]
    exact fun rest => readChars_plain hquote hbackslash rest
  · refine iteInduction hunit fun hhigh => ?_
    have hbound : c.toNat < 0x110000 := by
      cases c.valid with
      | inl hlow => exact Nat.lt_trans hlow (by decide)
      | inr hhigh => exact hhigh.2
    have hascii : o.ensureAscii = true := by
      cases hcase : o.ensureAscii with
      | false => exact absurd (.inl hcase) h
      | true => rfl
    rw [hlarge hascii (Nat.le_of_not_lt hhigh)]
    exact (readsAs_unit (by omega)).append (readsAs_unit (by omega))

/-- A text that the encoder can write: with escapes any, else one without lone halves. -/
def Text.Writable (o : Options) (s : Text) : Prop :=
  o.ensureAscii = true ∨ ∀ p ∈ s, p.isChar = true

theorem readsAs_escape {o : Options} {p : CodePoint}
    (h : o.ensureAscii = true ∨ p.isChar = true) : ReadsAs (units o p) (escape o p) := by
  cases p with
  | char c => exact readsAs_escapeChar o c
  | surrogate n =>
    cases h with
    | inl hascii =>
      rw [escape, if_pos hascii, units, ← ofUnit_surrogate]
      exact readsAs_unit (by omega)
    | inr hchar => cases hchar

theorem readsAs_escaped {o : Options} {s : Text} (h : s.Writable o) :
    ReadsAs (s.flatMap (units o)) (s.flatMap (escape o)) := by
  induction s with
  | nil => exact readsAs_nil
  | cons p s ih =>
    rw [List.flatMap_cons, List.flatMap_cons]
    apply (readsAs_escape (h.imp_right fun hall => hall p List.mem_cons_self)).append
    exact ih (h.imp_right fun hall q hq => hall q (List.mem_cons_of_mem p hq))

theorem joined_char (c : Char) (rest : Text) :
    Text.joined (.char c :: rest) = .char c :: rest.joined := by
  rw [Text.joined]
  rintro high low rest' ⟨⟩

theorem joined_surrogate_char (n : Fin 0x800) (c : Char) (rest : Text) :
    Text.joined (.surrogate n :: .char c :: rest) =
      .surrogate n :: Text.joined (.char c :: rest) := by
  rw [Text.joined]
  rintro high low rest' - ⟨⟩

theorem joined_ofString (s : String) : Text.joined (.ofString s) = .ofString s := by
  rw [Text.ofString]
  induction s.toList with
  | nil => rfl
  | cons c text ih => rw [List.map_cons, joined_char, ih]

theorem exists_surrogates {c : Char} (h : 0x10000 ≤ c.toNat) :
    ∃ high low : Fin 0x800, surrogates c = [.surrogate high, .surrogate low] ∧
      (high.val < 0x400 ∧ 0x400 ≤ low.val) ∧
        Char.ofNat (0x10000 + high.val * 0x400 + (low.val - 0x400)) = c := by
  have hbound : c.toNat < 0x110000 := by
    cases c.valid with
    | inl hlow => exact Nat.lt_trans hlow (by decide)
    | inr hhigh => exact hhigh.2
  have hvalue : 0x10000 + (c.toNat - 0x10000) / 0x400 * 0x400 +
      (0x400 + (c.toNat - 0x10000) % 0x400 - 0x400) = c.toNat := by omega
  refine ⟨⟨(c.toNat - 0x10000) / 0x400, by omega⟩, ⟨0x400 + (c.toNat - 0x10000) % 0x400, by omega⟩,
    ?_, ⟨?_, Nat.le_add_right _ _⟩, ?_⟩
  · rw [surrogates, ← ofUnit_surrogate, ← ofUnit_surrogate, ← Nat.add_assoc]
  · change (c.toNat - 0x10000) / 0x400 < 0x400
    omega
  · rw [hvalue, Char.ofNat_toNat]

theorem joined_pair {high low : Fin 0x800} (h : high.val < 0x400 ∧ 0x400 ≤ low.val) (rest : Text) :
    Text.joined (.surrogate high :: .surrogate low :: rest) =
      .char (Char.ofNat (0x10000 + high.val * 0x400 + (low.val - 0x400))) :: rest.joined := by
  rw [Text.joined, if_pos h]

theorem joined_no_pair {high low : Fin 0x800} (h : ¬ (high.val < 0x400 ∧ 0x400 ≤ low.val))
    (rest : Text) :
    Text.joined (.surrogate high :: .surrogate low :: rest) =
      .surrogate high :: Text.joined (.surrogate low :: rest) := by
  rw [Text.joined, if_neg h]

theorem joined_units (o : Options) (s : Text) : Text.joined (s.flatMap (units o)) = s.joined := by
  have hchar (c : Char) (rest : Text) :
      Text.joined (units o (.char c) ++ rest) = .char c :: rest.joined := by
    by_cases h : o.ensureAscii = true ∧ 0x10000 ≤ c.toNat
    · obtain ⟨high, low, hunits, hpair, hc⟩ := exists_surrogates h.2
      rw [units, if_pos h, hunits, List.cons_append, List.singleton_append, joined_pair hpair, hc]
    · rw [units, if_neg h]
      exact joined_char c rest
  -- the first half of a character is no second half for what stands before it
  have hbefore (n : Fin 0x800) (c : Char) (rest : Text) :
      Text.joined (.surrogate n :: (units o (.char c) ++ rest)) =
        .surrogate n :: Text.joined (units o (.char c) ++ rest) := by
    by_cases h : o.ensureAscii = true ∧ 0x10000 ≤ c.toNat
    · obtain ⟨high, low, hunits, hpair, -⟩ := exists_surrogates h.2
      rw [units, if_pos h, hunits]
      exact joined_no_pair (fun hlow => absurd hlow.2 (Nat.not_le.mpr hpair.1)) (.surrogate low :: rest)
    · rw [units, if_neg h]
      exact joined_surrogate_char n c rest
  fun_induction Text.joined s with
  | case1 high low rest hpair ih =>
    change Text.joined (.surrogate high :: .surrogate low :: rest.flatMap (units o)) = _
    rw [joined_pair hpair, ih]
  | case2 high low rest hpair ih =>
    change Text.joined (.surrogate high :: .surrogate low :: rest.flatMap (units o)) = _
    rw [joined_no_pair hpair]
    exact congrArg _ ih
  | case3 p rest hp ih =>
    cases p with
    | char c => rw [List.flatMap_cons, hchar, ih]
    | surrogate n =>
      cases rest with
      | nil => rfl
      | cons q rest =>
        cases q with
        | char c =>
          rw [List.flatMap_cons] at ih
          exact (hbefore n c (rest.flatMap (units o))).trans (congrArg _ ih)
        | surrogate low => exact absurd rfl (hp n low rest rfl)
  | case4 => rfl

theorem readChars_escaped {o : Options} {s : Text} (h : s.Writable o) (rest : List Char) :
    (readChars (s.flatMap (escape o) ++ '"' :: rest)).map (fun read => (read.1.joined, read.2)) =
      some (s.joined, rest) := by
  have hquote : readChars ('"' :: rest) = some ([], rest) := by
    rw [readChars.eq_def]
    exact if_pos rfl
  rw [readsAs_escaped h, hquote, Option.map_some, Option.map_some, List.append_nil, joined_units]

theorem Text.ofString_injective : Function.Injective Text.ofString := by
  intro s t h
  exact String.toList_injective (List.map_injective_iff.mpr (fun _ _ => CodePoint.char.inj) h)

theorem escape_pair {o : Options} (hascii : o.ensureAscii = true) {high low : Fin 0x800}
    (h : high.val < 0x400 ∧ 0x400 ≤ low.val) :
    escape o (.char (Char.ofNat (0x10000 + high.val * 0x400 + (low.val - 0x400)))) =
      escape o (.surrogate high) ++ escape o (.surrogate low) := by
  have hvalid : (0x10000 + high.val * 0x400 + (low.val - 0x400)).isValidChar :=
    Or.inr (by omega)
  have hlow : low.val < 0x800 := low.isLt
  generalize hc : Char.ofNat (0x10000 + high.val * 0x400 + (low.val - 0x400)) = c
  have hvalue : c.toNat = 0x10000 + high.val * 0x400 + (low.val - 0x400) := by
    rw [← hc, Char.ofNat, dif_pos hvalid]
    rfl
  have hne (d : Char) (hd : d.toNat < 0x10000) : c ≠ d := by
    rintro rfl
    omega
  rw [escape, escape, escape, if_pos hascii, if_pos hascii, escapeChar, if_neg (hne _ (by decide)),
    if_neg (hne _ (by decide)), if_neg (hne _ (by decide)), if_neg (hne _ (by decide)),
    if_neg (hne _ (by decide)), if_neg (by omega), if_neg (by omega), if_neg (by omega),
    if_neg (not_or.mpr ⟨by rw [hascii]; decide, by omega⟩), if_neg (by omega)]
  have hhigh : 0xD800 + (c.toNat - 0x10000) / 0x400 = 0xD800 + high.val := by omega
  have hrest : 0xDC00 + (c.toNat - 0x10000) % 0x400 = 0xD800 + low.val := by omega
  simp only [hhigh, hrest]

theorem escape_joined {o : Options} (hascii : o.ensureAscii = true) (s : Text) :
    s.joined.flatMap (escape o) = s.flatMap (escape o) := by
  fun_induction Text.joined s with
  | case1 high low rest hpair ih =>
    rw [List.flatMap_cons, ih, escape_pair hascii hpair, List.flatMap_cons, List.flatMap_cons,
      List.append_assoc]
  | case2 high low rest hpair ih => rw [List.flatMap_cons, ih, ← List.flatMap_cons]
  | case3 p rest hp ih => rw [List.flatMap_cons, ih, ← List.flatMap_cons]
  | case4 => rfl

theorem joined_of_quote {o : Options} {s t : Text} (hs : s.Writable o) (ht : t.Writable o)
    {rest rest' : List Char} (h : quote o s ++ rest = quote o t ++ rest') : s.joined = t.joined := by
  rw [quote, quote, List.cons_append, List.cons_append, List.append_assoc, List.append_assoc] at h
  have hbody : s.flatMap (escape o) ++ '"' :: rest = t.flatMap (escape o) ++ '"' :: rest' :=
    List.tail_eq_of_cons_eq h
  have hread := readChars_escaped hs rest
  rw [hbody, readChars_escaped ht] at hread
  exact (Prod.mk.inj (Option.some.inj hread)).1.symm

theorem fieldsText_append (o : Options) (first : Bool) (front back : List (String × Value)) :
    Value.fieldsText o first (front ++ back) =
      Value.fieldsText o first front ++ Value.fieldsText o (first && front.isEmpty) back := by
  induction front generalizing first with
  | nil => rw [List.nil_append, List.isEmpty_nil, Bool.and_true]; rfl
  | cons f front ih =>
    rw [List.cons_append, Value.fieldsText_cons, ih, Value.fieldsText_cons, List.isEmpty_cons,
      Bool.false_and, Bool.and_false]
    simp only [List.append_assoc]

/-- Objects that agree up to a string are written differently if they differ in it. -/
theorem joined_of_text_object {o : Options} {s t : Text} (hs : s.Writable o) (ht : t.Writable o)
    {front back back' : List (String × Value)} {key : String}
    (h : (Value.object (front ++ (key, .string s) :: back)).text o =
      (Value.object (front ++ (key, .string t) :: back')).text o) : s.joined = t.joined := by
  have hbody := List.append_cancel_right (List.tail_eq_of_cons_eq h)
  rw [fieldsText_append, fieldsText_append] at hbody
  have hrest := List.append_cancel_left hbody
  simp only [Value.fieldsText_cons, Value.fieldText_mk, List.append_assoc] at hrest
  exact joined_of_quote hs ht
    (List.append_cancel_left (List.append_cancel_left (List.append_cancel_left hrest)))

theorem text_object_of_joined {o : Options} (hascii : o.ensureAscii = true) {s t : Text}
    (h : s.joined = t.joined) (front back : List (String × Value)) (key : String) :
    (Value.object (front ++ (key, .string s) :: back)).text o =
      (Value.object (front ++ (key, .string t) :: back)).text o := by
  have htext : (Value.string s).text o = (Value.string t).text o := by
    change quote o s = quote o t
    rw [quote, ← escape_joined hascii s, h, escape_joined hascii t, quote]
  change '{' :: Value.fieldsText o true _ ++ ['}'] = '{' :: Value.fieldsText o true _ ++ ['}']
  rw [fieldsText_append, fieldsText_append, Value.fieldsText_cons, Value.fieldsText_cons,
    Value.fieldText_mk, Value.fieldText_mk, htext]

theorem digitChar_readDigit (d : Fin 10) : readDigit (Nat.digitChar d.val) = d := by
  revert d
  decide

theorem digitsText_readDigit (ds : List (Fin 10)) : (digitsText ds).map readDigit = ds := by
  rw [digitsText, List.map_map]
  exact (List.map_congr_left fun d _ => digitChar_readDigit d).trans (List.map_id ds)

theorem readExponent_exponentText (e : Option (Bool × Fin 10 × List (Fin 10))) :
    readExponent ((exponentText e).drop 1) = e := by
  cases e with
  | none => rfl
  | some e =>
    obtain ⟨negative, d, ds⟩ := e
    cases negative with
    | true =>
      change some (true, readDigit (Nat.digitChar d.val), (digitsText ds).map readDigit) = _
      rw [digitChar_readDigit, digitsText_readDigit]
    | false =>
      change some (false, readDigit (Nat.digitChar d.val), (digitsText ds).map readDigit) = _
      rw [digitChar_readDigit, digitsText_readDigit]

/-- What begins otherwise than the part before it goes on. -/
def Ends (p : Char → Bool) (text : List Char) : Prop := ∀ c ∈ text.head?, p c = false

theorem ends_nil (p : Char → Bool) : Ends p [] := by rintro c ⟨⟩

theorem ends_cons {p : Char → Bool} {c : Char} (h : p c = false) (text : List Char) :
    Ends p (c :: text) := by
  rintro _ ⟨⟩
  exact h

theorem Ends.append {p : Char → Bool} {first second : List Char} (h : Ends p first)
    (h' : Ends p second) : Ends p (first ++ second) := by
  cases first with
  | nil => exact h'
  | cons c first => exact ends_cons (h c rfl) (first ++ second)

section

variable {p : Char → Bool} {front back : List Char} (hfront : ∀ c ∈ front, p c = true)
  (hback : Ends p back)
include hfront hback

theorem takeWhile_front : (front ++ back).takeWhile p = front := by
  rw [List.takeWhile_append_of_pos hfront]
  cases back with
  | nil => rw [List.takeWhile_nil, List.append_nil]
  | cons c back => rw [List.takeWhile_cons_of_neg (by simp [hback c rfl]), List.append_nil]

theorem dropWhile_front : (front ++ back).dropWhile p = back := by
  rw [List.dropWhile_append_of_pos hfront]
  cases back with
  | nil => rfl
  | cons c back => rw [List.dropWhile_cons_of_neg (by simp [hback c rfl])]

end

theorem ends_fractionText {p : Char → Bool} (h : p '.' = false) (ds : List (Fin 10)) :
    Ends p (fractionText ds) := by
  cases ds with
  | nil => exact ends_nil p
  | cons d ds => exact ends_cons h _

theorem ends_exponentText {p : Char → Bool} (h : p 'e' = false)
    (e : Option (Bool × Fin 10 × List (Fin 10))) : Ends p (exponentText e) := by
  cases e with
  | none => exact ends_nil p
  | some e => exact ends_cons h _

theorem drop_fractionText (ds : List (Fin 10)) : (fractionText ds).drop 1 = digitsText ds := by
  cases ds with
  | nil => rfl
  | cons d ds => rfl

theorem not_isExponentMark_of_isDigit {c : Char} (h : c.isDigit = true) :
    isExponentMark c = false := by
  have hne : ∀ d : Char, d.isDigit = false → c ≠ d := by
    rintro d hd rfl
    simp [h] at hd
  simp [isExponentMark, hne 'e' (by decide), hne 'E' (by decide)]

theorem not_isExponentMark_fractionText (ds : List (Fin 10)) :
    ∀ c ∈ fractionText ds, (!isExponentMark c) = true := by
  intro c hc
  rw [Bool.not_eq_true']
  cases ds with
  | nil => cases hc
  | cons d ds =>
    cases List.mem_cons.mp hc with
    | inl hpoint => rw [hpoint]; decide
    | inr hdigit => exact not_isExponentMark_of_isDigit (isDigit_digitsText _ c hdigit)

theorem isDigit_toDigits (n : Nat) : ∀ c ∈ Nat.toDigits 10 n, c.isDigit = true := fun _ hc =>
  Nat.isDigit_of_mem_toDigits (Nat.succ_pos 9) (Nat.le_refl 10) hc

theorem unsigned_text (negative : Bool) (n : Nat) (rest : List Char) :
    (signText negative ++ (Nat.toDigits 10 n ++ rest)).dropWhile (fun c => c = '-') =
        Nat.toDigits 10 n ++ rest ∧
      decide ((signText negative ++ (Nat.toDigits 10 n ++ rest)).head? = some '-') = negative := by
  obtain ⟨c, cs, hc⟩ := List.exists_cons_of_ne_nil (Nat.toDigits_ne_nil (n := n) (b := 10))
  have hdigit : c.isDigit = true := isDigit_toDigits n c (by rw [hc]; exact List.mem_cons_self)
  have hne : c ≠ '-' := by
    rintro rfl
    cases hdigit
  rw [hc]
  cases negative <;> simp [signText, hne]

theorem readNumber_text (x : Decimal) : readNumber x.text = x.plain := by
  obtain ⟨hunsigned, hnegative⟩ := unsigned_text x.negative x.whole
    (fractionText x.fraction ++ exponentText x.exponent)
  have htail : Ends Char.isDigit (fractionText x.fraction ++ exponentText x.exponent) :=
    (ends_fractionText rfl x.fraction).append (ends_exponentText rfl x.exponent)
  have hmark : Ends (fun c => !isExponentMark c) (exponentText x.exponent) :=
    ends_exponentText rfl x.exponent
  rw [readNumber, Decimal.text, List.append_assoc, List.append_assoc, hunsigned, hnegative,
    takeWhile_front (isDigit_toDigits x.whole) htail,
    dropWhile_front (isDigit_toDigits x.whole) htail,
    takeWhile_front (not_isExponentMark_fractionText x.fraction) hmark,
    dropWhile_front (not_isExponentMark_fractionText x.fraction) hmark,
    Nat.ofDigitChars_ten_toDigits, drop_fractionText, digitsText_readDigit,
    readExponent_exponentText]

theorem readNumber_intText (i : Int) : readNumber (intText i) = .int i := by
  have htext : (Decimal.mk (decide (i < 0)) i.natAbs [] none).text = intText i :=
    (List.append_nil _).trans (List.append_nil _)
  rw [← htext, readNumber_text, Decimal.plain]
  refine (if_pos rfl).trans (congrArg Value.int ?_)
  change (if decide (i < 0) = true then -(i.natAbs : Int) else i.natAbs) = i
  split_ifs with h
  · have hneg : i < 0 := of_decide_eq_true h
    omega
  · have hnonneg : ¬ i < 0 := fun hneg => h (decide_eq_true hneg)
    omega

theorem isNumberChar_text (x : Decimal) : ∀ c ∈ x.text, isNumberChar c = true := by
  have hdigit {c : Char} (h : c.isDigit = true) : isNumberChar c = true := by simp [isNumberChar, h]
  intro c hc
  simp only [Decimal.text, List.mem_append] at hc
  rcases hc with ((hsign | hwhole) | hfraction) | hexponent
  · unfold signText at hsign
    split_ifs at hsign
    · rw [List.mem_singleton.mp hsign]; rfl
    · cases hsign
  · exact hdigit (isDigit_toDigits _ c hwhole)
  · cases hds : x.fraction with
    | nil => rw [hds] at hfraction; cases hfraction
    | cons d ds =>
      rw [hds] at hfraction
      cases List.mem_cons.mp hfraction with
      | inl hpoint => rw [hpoint]; rfl
      | inr hds => exact hdigit (isDigit_digitsText _ c hds)
  · cases he : x.exponent with
    | none => rw [he] at hexponent; cases hexponent
    | some e =>
      obtain ⟨negative, d, ds⟩ := e
      rw [he, exponentText, List.mem_append] at hexponent
      cases hexponent with
      | inl hmark =>
        rcases List.mem_pair.mp hmark with rfl | rfl
        · rfl
        · cases negative <;> rfl
      | inr hds => exact hdigit (isDigit_digitsText _ c hds)

theorem skipSeparators_cons {separator : List Char} (h : ∀ c ∈ separator, isSeparator c = true)
    {c : Char} (hc : isSeparator c = false) (rest : List Char) :
    skipSeparators (separator ++ c :: rest) = c :: rest :=
  dropWhile_front h (ends_cons hc rest)

structure Begins (c : Char) : Prop where
  separator : isSeparator c = false
  bracket : c ≠ ']'

theorem Begins.skipSeparators {c : Char} (h : Begins c) (rest : List Char) :
    skipSeparators (c :: rest) = c :: rest :=
  List.dropWhile_cons_of_neg (by simp [h.separator])

theorem begins_of_isNumberChar {c : Char} (h : isNumberChar c = true) : Begins c := by
  have hne : ∀ d : Char, isNumberChar d = false → c ≠ d := by
    rintro d hd rfl
    simp [h] at hd
  constructor
  · simp [isSeparator, isSpace, hne ' ' rfl, hne '\n' rfl, hne '\r' rfl, hne '\t' rfl, hne ',' rfl,
      hne ':' rfl]
  · exact hne ']' rfl

theorem readValue_number {token : List Char} (hnil : token ≠ [])
    (htoken : ∀ c ∈ token, isNumberChar c = true) {rest : List Char}
    (hrest : Ends isNumberChar rest) (n : Nat) :
    readValue (n + 1) (token ++ rest) = some (readNumber token, rest) := by
  obtain ⟨c, cs, rfl⟩ := List.exists_cons_of_ne_nil hnil
  have hc := htoken c List.mem_cons_self
  have hne : ∀ d : Char, isNumberChar d = false → c ≠ d := by
    rintro d hd rfl
    simp [hc] at hd
  have hskip : skipSeparators (c :: cs ++ rest) = c :: (cs ++ rest) :=
    (begins_of_isNumberChar hc).skipSeparators (cs ++ rest)
  rw [readValue, hskip]
  simp only [if_neg (hne '"' rfl), if_neg (hne '[' rfl), if_neg (hne '{' rfl),
    if_neg (hne 'n' rfl), if_neg (hne 't' rfl), if_neg (hne 'f' rfl)]
  rw [← List.cons_append, takeWhile_front htoken hrest, dropWhile_front htoken hrest]

/-- A value whose text an encoder of these options can write and a parser takes. -/
structure Value.Legible (o : Options) (v : Value) : Prop where
  strict : v.isStrict = true
  writable : o.ensureAscii = true ∨ v.isEncodable = true

theorem Value.Legible.item {o : Options} {items : List Value} (h : (Value.array items).Legible o)
    {v : Value} (hv : v ∈ items) : v.Legible o where
  strict := List.all_eq_true.mp (isStrict_array items ▸ h.strict) v hv
  writable := h.writable.imp_right fun hall => by
    rw [isEncodable, all_array, List.all_eq_true] at hall
    exact hall v hv

theorem Value.Legible.field {o : Options} {fields : List (String × Value)}
    (h : (Value.object fields).Legible o) {f : String × Value} (hf : f ∈ fields) :
    f.2.Legible o where
  strict := List.all_eq_true.mp (isStrict_object fields ▸ h.strict) f hf
  writable := h.writable.imp_right fun hall => by
    rw [isEncodable, all_object, List.all_eq_true] at hall
    exact hall f hf

theorem begins_decimal (x : Decimal) : ∃ c cs, x.text = c :: cs ∧ Begins c := by
  have hnil : x.text ≠ [] := by
    intro hnil
    have hwhole : Nat.toDigits 10 x.whole = [] := by
      have hsplit := hnil
      rw [Decimal.text, List.append_eq_nil_iff, List.append_eq_nil_iff, List.append_eq_nil_iff]
        at hsplit
      exact hsplit.1.1.2
    exact Nat.toDigits_ne_nil hwhole
  obtain ⟨c, cs, hc⟩ := List.exists_cons_of_ne_nil hnil
  exact ⟨c, cs, hc, begins_of_isNumberChar
    (isNumberChar_text x c (by rw [hc]; exact List.mem_cons_self))⟩

theorem intText_eq (i : Int) : ∃ x : Decimal, x.text = intText i :=
  ⟨⟨decide (i < 0), i.natAbs, [], none⟩, (List.append_nil _).trans (List.append_nil _)⟩

theorem begins_value (o : Options) {v : Value} (h : v.isStrict = true) :
    ∃ c cs, v.text o = c :: cs ∧ Begins c := by
  cases v with
  | null => exact ⟨'n', _, rfl, ⟨rfl, by decide⟩⟩
  | bool b => cases b <;> exact ⟨_, _, rfl, ⟨rfl, by decide⟩⟩
  | int i =>
    obtain ⟨x, hx⟩ := intText_eq i
    have htext : (Value.int i).text o = x.text := hx.symm
    rw [htext]
    exact begins_decimal x
  | float x =>
    cases x with
    | finite x => exact begins_decimal x
    | nan => cases h
    | infinite negative => cases h
  | string s => exact ⟨'"', _, rfl, ⟨rfl, by decide⟩⟩
  | array items => exact ⟨'[', _, rfl, ⟨rfl, by decide⟩⟩
  | object fields => exact ⟨'{', _, rfl, ⟨rfl, by decide⟩⟩

theorem Value.plain_array (items : List Value) :
    (Value.array items).plain = .array (items.map plain) := by
  rw [plain]
  congr
  induction items with
  | nil => rfl
  | cons v items ih => rw [plainItems, ih, List.map_cons]

theorem Value.plain_object (fields : List (String × Value)) :
    (Value.object fields).plain = .object (fields.map fun f => (f.1, f.2.plain)) := by
  rw [plain]
  congr
  induction fields with
  | nil => rfl
  | cons f fields ih =>
    obtain ⟨key, v⟩ := f
    rw [plainFields, ih, List.map_cons, plainField]

theorem Value.string?_plain_ofString (s : String) : (Value.ofString s).plain.string? = some s := by
  have hchars : ∀ cs : List Char, (cs.map CodePoint.char).mapM CodePoint.char? = some cs := by
    intro cs
    induction cs with
    | nil => rfl
    | cons c cs ih => rw [List.map_cons, List.mapM_cons, ih]; rfl
  rw [ofString, plain, joined_ofString, string?, Text.ofString, hchars, Option.map_some,
    String.ofList_toList]

/-- In front of whatever ends a number the value is read back. -/
def ReadsBack (o : Options) (v : Value) : Prop :=
  ∀ n rest, (v.text o).length ≤ n → Ends isNumberChar rest →
    readValue n (v.text o ++ rest) = some (v.plain, rest)

section

variable (o : Options)

theorem isSeparator_itemSeparator (first : Bool) :
    ∀ c ∈ if first then [] else o.itemSeparator, isSeparator c = true := by
  cases first <;> cases hcompact : o.compact <;> simp [Options.itemSeparator, hcompact, isSeparator,
    isSpace]

theorem isSeparator_keySeparator : ∀ c ∈ o.keySeparator, isSeparator c = true := by
  cases hcompact : o.compact <;> simp [Options.keySeparator, hcompact, isSeparator, isSpace]

theorem ends_itemSeparator (text : List Char) :
    Ends isNumberChar (o.itemSeparator ++ text) := by
  rw [Options.itemSeparator]
  split_ifs
  · exact ends_cons rfl text
  · exact ends_cons rfl (' ' :: text)

theorem ends_itemsText (items : List Value) (rest : List Char) :
    Ends isNumberChar (Value.itemsText o false items ++ ']' :: rest) := by
  cases items with
  | nil => exact ends_cons rfl rest
  | cons v items =>
    rw [Value.itemsText_cons, List.append_assoc]
    exact ends_itemSeparator o _

theorem ends_fieldsText (fields : List (String × Value)) (rest : List Char) :
    Ends isNumberChar (Value.fieldsText o false fields ++ '}' :: rest) := by
  cases fields with
  | nil => exact ends_cons rfl rest
  | cons f fields =>
    rw [Value.fieldsText_cons, List.append_assoc]
    exact ends_itemSeparator o _

theorem readValue_separators {separator : List Char} (h : ∀ c ∈ separator, isSeparator c = true)
    (n : Nat) (text : List Char) : readValue n (separator ++ text) = readValue n text := by
  cases n with
  | zero => rfl
  | succ n => rw [readValue, readValue, skipSeparators, List.dropWhile_append_of_pos h, skipSeparators]

theorem keyText_units (key : String) : keyText ((Text.ofString key).flatMap (units o)) = key := by
  have hchars : ∀ cs : List Char, (cs.map CodePoint.char).filterMap CodePoint.char? = cs := by
    intro cs
    induction cs with
    | nil => rfl
    | cons c cs ih => exact congrArg (c :: ·) ih
  rw [keyText, joined_units, joined_ofString, Text.ofString, hchars, String.ofList_toList]

theorem readChars_key (key : String) (rest : List Char) :
    (readChars ((Text.ofString key).flatMap (escape o) ++ '"' :: rest)).map
      (fun read => (keyText read.1, read.2)) = some (key, rest) := by
  have hwritable : (Text.ofString key).Writable o := by
    right
    intro p hp
    obtain ⟨c, -, rfl⟩ := List.mem_map.mp hp
    rfl
  have hquote : readChars ('"' :: rest) = some ([], rest) := by
    rw [readChars.eq_def]
    exact if_pos rfl
  rw [readsAs_escaped hwritable, hquote, Option.map_some, Option.map_some, List.append_nil,
    keyText_units]

end

theorem readItems_itemsText {o : Options} {items : List Value} (hstrict : ∀ v ∈ items, v.isStrict = true)
    (hread : ∀ v ∈ items, ReadsBack o v) (first : Bool) {n : Nat}
    (hn : (Value.itemsText o first items).length < n) (rest : List Char) :
    readItems n (Value.itemsText o first items ++ ']' :: rest) =
      some (items.map Value.plain, rest) := by
  induction items generalizing first n with
  | nil =>
    obtain ⟨n, rfl⟩ := Nat.exists_eq_add_of_lt hn
    rfl
  | cons v items ih =>
    obtain ⟨n, rfl⟩ := Nat.exists_eq_succ_of_ne_zero (Nat.ne_zero_of_lt hn)
    obtain ⟨c, cs, hc, hbegins⟩ := begins_value o (hstrict v List.mem_cons_self)
    rw [Value.itemsText_cons, List.length_append, List.length_append, hc, List.length_cons] at hn
    have hitems := ih (fun w hw => hstrict w (List.mem_cons_of_mem v hw))
      (fun w hw => hread w (List.mem_cons_of_mem v hw)) false (n := n) (by omega)
    have hv := hread v List.mem_cons_self n (Value.itemsText o false items ++ ']' :: rest)
      (by rw [hc, List.length_cons]; omega) (ends_itemsText o items rest)
    rw [hc, List.cons_append] at hv
    rw [Value.itemsText_cons, List.append_assoc, List.append_assoc, hc, List.cons_append, readItems,
      skipSeparators_cons (isSeparator_itemSeparator o first) hbegins.separator]
    simp only [if_neg hbegins.bracket, hv, Option.bind_some, hitems, Option.map_some, List.map_cons]

theorem readFields_fieldsText {o : Options} {fields : List (String × Value)}
    (hread : ∀ f ∈ fields, ReadsBack o f.2) (first : Bool) {n : Nat}
    (hn : (Value.fieldsText o first fields).length < n) (rest : List Char) :
    readFields n (Value.fieldsText o first fields ++ '}' :: rest) =
      some (fields.map fun f => (f.1, f.2.plain), rest) := by
  induction fields generalizing first n with
  | nil =>
    obtain ⟨n, rfl⟩ := Nat.exists_eq_add_of_lt hn
    rfl
  | cons f fields ih =>
    obtain ⟨key, v⟩ := f
    obtain ⟨n, rfl⟩ := Nat.exists_eq_succ_of_ne_zero (Nat.ne_zero_of_lt hn)
    rw [Value.fieldsText_cons, Value.fieldText_mk, quote] at hn
    simp only [List.length_append, List.length_cons] at hn
    have hfields := ih (fun g hg => hread g (List.mem_cons_of_mem _ hg)) false (n := n) (by omega)
    have hv := hread (key, v) List.mem_cons_self n (Value.fieldsText o false fields ++ '}' :: rest)
      (by dsimp only; omega) (ends_fieldsText o fields rest)
    obtain ⟨read, hread, hkey⟩ := Option.map_eq_some_iff.mp
      (readChars_key o key (o.keySeparator ++ (v.text o ++ (Value.fieldsText o false fields ++
        '}' :: rest))))
    obtain ⟨rfl, hrest⟩ := Prod.mk.inj hkey
    have htext : Value.fieldsText o first ((keyText read.1, v) :: fields) ++ '}' :: rest =
        (if first then [] else o.itemSeparator) ++ '"' ::
          ((Text.ofString (keyText read.1)).flatMap (escape o) ++ '"' :: (o.keySeparator ++
            (v.text o ++ (Value.fieldsText o false fields ++ '}' :: rest)))) := by
      rw [Value.fieldsText_cons, Value.fieldText_mk, quote]
      simp only [List.append_assoc, List.cons_append, List.nil_append]
    rw [htext, readFields, skipSeparators_cons (isSeparator_itemSeparator o first) rfl]
    simp only [if_neg (by decide : ¬ '"' = '}'), hread, Option.bind_some, hrest,
      readValue_separators (isSeparator_keySeparator o), hv, hfields, Option.map_some,
      List.map_cons]

theorem readsBack_number {o : Options} {v : Value} {x : Decimal} (htext : v.text o = x.text)
    (hplain : v.plain = x.plain) : ReadsBack o v := by
  intro n rest hn hrest
  obtain ⟨c, cs, hc, -⟩ := begins_decimal x
  have hnil : x.text ≠ [] := by
    rw [hc]
    exact List.cons_ne_nil c cs
  rw [htext] at hn
  obtain ⟨n, rfl⟩ := Nat.exists_eq_succ_of_ne_zero
    (Nat.ne_of_gt (Nat.lt_of_lt_of_le (List.length_pos_of_ne_nil hnil) hn))
  rw [htext, readValue_number hnil (isNumberChar_text x) hrest, readNumber_text, hplain]

theorem readsBack_string {o : Options} {s : Text} (h : s.Writable o) :
    ReadsBack o (.string s) := by
  intro n rest hn _
  obtain ⟨n, rfl⟩ := Nat.exists_eq_succ_of_ne_zero (Nat.ne_zero_of_lt hn)
  have htext : (Value.string s).text o ++ rest = '"' :: (s.flatMap (escape o) ++ '"' :: rest) := by
    rw [Value.text, quote, List.cons_append, List.cons_append, List.append_assoc]
    rfl
  obtain ⟨read, hread, hjoined⟩ := Option.map_eq_some_iff.mp (readChars_escaped h rest)
  obtain ⟨hs, hrest⟩ := Prod.mk.inj hjoined
  rw [htext, readValue, skipSeparators, List.dropWhile_cons_of_neg (by decide)]
  simp only [if_true, hread, Option.map_some, hs, hrest, Value.plain]

theorem readsBack_array {o : Options} {items : List Value}
    (hstrict : ∀ v ∈ items, v.isStrict = true) (hread : ∀ v ∈ items, ReadsBack o v) :
    ReadsBack o (.array items) := by
  intro n rest hn _
  obtain ⟨n, rfl⟩ := Nat.exists_eq_succ_of_ne_zero (Nat.ne_zero_of_lt hn)
  have htext : (Value.array items).text o ++ rest =
      '[' :: (Value.itemsText o true items ++ ']' :: rest) := by
    rw [Value.text_array, List.cons_append, List.append_assoc]
    rfl
  rw [Value.text_array, List.length_cons, List.length_append] at hn
  have hlength : (Value.itemsText o true items).length < n := Nat.le_of_succ_le_succ hn
  rw [htext, readValue, skipSeparators, List.dropWhile_cons_of_neg (by decide)]
  simp only [if_neg (by decide : ¬ '[' = '"'), if_true,
    readItems_itemsText hstrict hread true hlength rest, Option.map_some, Value.plain_array]

theorem readsBack_object {o : Options} {fields : List (String × Value)}
    (hread : ∀ f ∈ fields, ReadsBack o f.2) : ReadsBack o (.object fields) := by
  intro n rest hn _
  obtain ⟨n, rfl⟩ := Nat.exists_eq_succ_of_ne_zero (Nat.ne_zero_of_lt hn)
  have htext : (Value.object fields).text o ++ rest =
      '{' :: (Value.fieldsText o true fields ++ '}' :: rest) := by
    rw [Value.text_object, List.cons_append, List.append_assoc]
    rfl
  rw [Value.text_object, List.length_cons, List.length_append] at hn
  have hlength : (Value.fieldsText o true fields).length < n := Nat.le_of_succ_le_succ hn
  rw [htext, readValue, skipSeparators, List.dropWhile_cons_of_neg (by decide)]
  simp only [if_neg (by decide : ¬ '{' = '"'), if_neg (by decide : ¬ '{' = '['), if_true,
    readFields_fieldsText hread true hlength rest, Option.map_some, Value.plain_object]

theorem readsBack {o : Options} {v : Value} (h : v.Legible o) : ReadsBack o v := by
  induction v with
  | null =>
    rintro (_ | n) rest hn -
    · cases hn
    · rfl
  | bool b =>
    rintro (_ | n) rest hn -
    · cases b <;> cases hn
    · cases b <;> rfl
  | int i =>
    obtain ⟨x, hx⟩ := intText_eq i
    exact readsBack_number hx.symm
      (by rw [← readNumber_text, hx, readNumber_intText]; rfl)
  | float x =>
    cases x with
    | finite x => exact readsBack_number rfl rfl
    | nan => cases h.strict
    | infinite negative => cases h.strict
  | string s => exact readsBack_string (h.writable.imp_right List.all_eq_true.mp)
  | array items ih =>
    exact readsBack_array (fun v hv => (h.item hv).strict) fun v hv => ih v hv (h.item hv)
  | object fields ih => exact readsBack_object fun f hf => ih f hf (h.field hf)

/-- A parser finds in an encoded text the value it says, unless the text is no JSON. -/
theorem parse_text (o : Options) {v : Value} (h : o.ensureAscii = true ∨ v.isEncodable = true) :
    parse (v.text o) = if v.isStrict then some v.plain else none := by
  rw [parse, accepts_text]
  refine ite_congr rfl (fun hstrict => ?_) fun _ => rfl
  have hread := readsBack ⟨hstrict, h⟩ (v.text o).length [] (Nat.le_refl _) (ends_nil _)
  rw [List.append_nil] at hread
  rw [hread, Option.map_some]

end Json
