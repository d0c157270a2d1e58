import SqlGateway.Library.Json

/-! The tags in an HTML text, read as the tokenizer of the HTML standard reads them. Character
references and the elements whose content is no markup (such as `script`) are left out. -/

namespace Markup

open Json (CodePoint Text)

/-- The attributes stand last one first, each as it is written. -/
structure Tag where
  isEnd : Bool := false
  name : Text := []
  attributes : List (Text × Text) := []
  selfClosing : Bool := false
  deriving DecidableEq

inductive Mode
  | data | tagOpen | endTagOpen | tagName
  | beforeAttributeName | attributeName | afterAttributeName
  | beforeAttributeValue | attributeValueQuoted (quote : Char) | attributeValueUnquoted
  | afterAttributeValueQuoted | selfClosingStartTag
  | bogusComment | markupDeclarationOpen | markupDeclarationDash
  | commentStart | commentStartDash | comment | commentEndDash | commentEnd | commentEndBang
  deriving DecidableEq

structure Reader where
  mode : Mode := .data
  tag : Tag := {}
  deriving DecidableEq

def isBlank (c : CodePoint) : Bool :=
  c = .char ' ' || c = .char '\n' || c = .char '\t' || c = .char '\r' || c = .char (Char.ofNat 12)

def isLetter : CodePoint → Bool
  | .char c => c.isAlpha
  | .surrogate _ => false

def lower : CodePoint → CodePoint
  | .char c => .char c.toLower
  | .surrogate n => .surrogate n

namespace Tag

variable (tag : Tag) (c : CodePoint)

def addToName : Tag := { tag with name := tag.name ++ [lower c] }

def addAttribute : Tag := { tag with attributes := ([lower c], []) :: tag.attributes }

def addToAttributeName : Tag :=
  match tag.attributes with
  | [] => tag
  | (name, value) :: rest => { tag with attributes := (name ++ [lower c], value) :: rest }

def addToAttributeValue : Tag :=
  match tag.attributes with
  | [] => tag
  | (name, value) :: rest => { tag with attributes := (name, value ++ [c]) :: rest }

end Tag

namespace Reader

variable (r : Reader) (c : CodePoint)

def goTo (mode : Mode) : Reader × List Tag := ({ r with mode }, [])

def emit : Reader × List Tag := ({}, [r.tag])

def readData : Reader × List Tag := if c = .char '<' then r.goTo .tagOpen else r.goTo .data

def readTagOpen : Reader × List Tag :=
  if c = .char '!' then r.goTo .markupDeclarationOpen
  else if c = .char '/' then r.goTo .endTagOpen
  else if isLetter c then ({ mode := .tagName, tag := { name := [lower c] } }, [])
  else if c = .char '?' then r.goTo .bogusComment
  else r.readData c

def readEndTagOpen : Reader × List Tag :=
  if isLetter c then ({ mode := .tagName, tag := { isEnd := true, name := [lower c] } }, [])
  else if c = .char '>' then r.goTo .data
  else r.goTo .bogusComment

def readTagName : Reader × List Tag :=
  if isBlank c then r.goTo .beforeAttributeName
  else if c = .char '/' then r.goTo .selfClosingStartTag
  else if c = .char '>' then r.emit
  else ({ r with tag := r.tag.addToName c }, [])

def readBeforeAttributeName : Reader × List Tag :=
  if isBlank c then r.goTo .beforeAttributeName
  else if c = .char '/' then r.goTo .selfClosingStartTag
  else if c = .char '>' then r.emit
  else ({ mode := .attributeName, tag := r.tag.addAttribute c }, [])

def readAttributeName : Reader × List Tag :=
  if isBlank c then r.goTo .afterAttributeName
  else if c = .char '/' then r.goTo .selfClosingStartTag
  else if c = .char '>' then r.emit
  else if c = .char '=' then r.goTo .beforeAttributeValue
  else ({ r with tag := r.tag.addToAttributeName c }, [])

def readAfterAttributeName : Reader × List Tag :=
  if isBlank c then r.goTo .afterAttributeName
  else if c = .char '/' then r.goTo .selfClosingStartTag
  else if c = .char '=' then r.goTo .beforeAttributeValue
  else if c = .char '>' then r.emit
  else ({ mode := .attributeName, tag := r.tag.addAttribute c }, [])

def readBeforeAttributeValue : Reader × List Tag :=
  if isBlank c then r.goTo .beforeAttributeValue
  else if c = .char '"' then r.goTo (.attributeValueQuoted '"')
  else if c = .char '\'' then r.goTo (.attributeValueQuoted '\'')
  else if c = .char '>' then r.emit
  else ({ mode := .attributeValueUnquoted, tag := r.tag.addToAttributeValue c }, [])

def readAttributeValueQuoted (quote : Char) : Reader × List Tag :=
  if c = .char quote then r.goTo .afterAttributeValueQuoted
  else ({ r with tag := r.tag.addToAttributeValue c }, [])

def readAttributeValueUnquoted : Reader × List Tag :=
  if isBlank c then r.goTo .beforeAttributeName
  else if c = .char '>' then r.emit
  else ({ r with tag := r.tag.addToAttributeValue c }, [])

def readSelfClosingStartTag : Reader × List Tag :=
  if c = .char '>' then emit { r with tag := { r.tag with selfClosing := true } }
  else r.readBeforeAttributeName c

/-- A declaration that is no comment ends at the first `>`. -/
def readBogusComment : Reader × List Tag :=
  if c = .char '>' then r.goTo .data else r.goTo .bogusComment

def readComment : Reader × List Tag :=
  if c = .char '-' then r.goTo .commentEndDash else r.goTo .comment

def step : Reader × List Tag :=
  match r.mode with
  | .data => r.readData c
  | .tagOpen => r.readTagOpen c
  | .endTagOpen => r.readEndTagOpen c
  | .tagName => r.readTagName c
  | .beforeAttributeName => r.readBeforeAttributeName c
  | .attributeName => r.readAttributeName c
  | .afterAttributeName => r.readAfterAttributeName c
  | .beforeAttributeValue => r.readBeforeAttributeValue c
  | .attributeValueQuoted quote => r.readAttributeValueQuoted c quote
  | .attributeValueUnquoted => r.readAttributeValueUnquoted c
  | .afterAttributeValueQuoted => r.readBeforeAttributeName c
  | .selfClosingStartTag => r.readSelfClosingStartTag c
  | .bogusComment => r.readBogusComment c
  | .markupDeclarationOpen =>
    if c = .char '-' then r.goTo .markupDeclarationDash else r.readBogusComment c
  | .markupDeclarationDash =>
    if c = .char '-' then r.goTo .commentStart else r.readBogusComment c
  | .commentStart =>
    if c = .char '-' then r.goTo .commentStartDash
    else if c = .char '>' then r.goTo .data else r.readComment c
  | .commentStartDash =>
    if c = .char '-' then r.goTo .commentEnd
    else if c = .char '>' then r.goTo .data else r.readComment c
  | .comment => r.readComment c
  | .commentEndDash => if c = .char '-' then r.goTo .commentEnd else r.readComment c
  | .commentEnd =>
    if c = .char '>' then r.goTo .data
    else if c = .char '!' then r.goTo .commentEndBang
    else if c = .char '-' then r.goTo .commentEnd else r.goTo .comment
  | .commentEndBang =>
    if c = .char '-' then r.goTo .commentEndDash
    else if c = .char '>' then r.goTo .data else r.goTo .comment

/-- Where the reader stands after a text, and the tags that were complete in it. -/
def scan (r : Reader) : Text → Reader × List Tag
  | [] => (r, [])
  | c :: text =>
    let first := r.step c
    let rest := first.1.scan text
    (rest.1, first.2 ++ rest.2)

theorem scan_append (r : Reader) (first second : Text) :
    r.scan (first ++ second) =
      (((r.scan first).1.scan second).1, (r.scan first).2 ++ ((r.scan first).1.scan second).2) := by
  induction first generalizing r with
  | nil => rfl
  | cons c first ih =>
    rw [List.cons_append, scan, ih, scan]
    exact congrArg (Prod.mk _) (List.append_assoc _ _ _).symm

end Reader

def tags (markup : Text) : List Tag := (Reader.scan {} markup).2

/-- Each tag that begins in the text is complete in it. -/
def WholeTags (markup : Text) : Prop := (Reader.scan {} markup).1 = {}

instance (markup : Text) : Decidable (WholeTags markup) :=
  inferInstanceAs (Decidable (_ = _))

theorem tags_append {first : Text} (h : WholeTags first) (second : Text) :
    tags (first ++ second) = tags first ++ tags second := by
  rw [tags, Reader.scan_append, h]
  rfl

theorem wholeTags_nil : WholeTags [] := rfl

theorem WholeTags.append {first second : Text} (h : WholeTags first) (h' : WholeTags second) :
    WholeTags (first ++ second) := by
  rw [WholeTags, Reader.scan_append, h]
  exact h'

theorem wholeTags_flatten {parts : List Text} (h : ∀ part ∈ parts, WholeTags part) :
    WholeTags parts.flatten := by
  induction parts with
  | nil => exact wholeTags_nil
  | cons part parts ih =>
    rw [List.forall_mem_cons] at h
    exact h.1.append (ih h.2)

theorem wholeTags_ofList {chars : List Char}
    (h : (Reader.scan {} (chars.map .char)).1 = {}) : WholeTags (.ofString (.ofList chars)) := by
  rw [Text.ofString, String.toList_ofList]
  exact h

theorem scan_text {text : Text} (h : .char '<' ∉ text) : Reader.scan {} text = ({}, []) := by
  induction text with
  | nil => rfl
  | cons c text ih =>
    rw [List.mem_cons, not_or] at h
    have hstep : Reader.step {} c = ({}, []) := if_neg (Ne.symm h.1)
    rw [Reader.scan, hstep, ih h.2]
    rfl

structure SameTags (first second : Text) : Prop where
  whole : WholeTags first
  whole' : WholeTags second
  tags : tags first = tags second

namespace SameTags

variable {first second first' second' : Text}

theorem refl (h : WholeTags first) : SameTags first first := ⟨h, h, rfl⟩

theorem append (h : SameTags first second) (h' : SameTags first' second') :
    SameTags (first ++ first') (second ++ second') where
  whole := h.whole.append h'.whole
  whole' := h.whole'.append h'.whole'
  tags := by rw [tags_append h.whole, tags_append h.whole', h.tags, h'.tags]

theorem text (h : .char '<' ∉ first) (h' : .char '<' ∉ second) : SameTags first second := by
  have hfirst := scan_text h
  have hsecond := scan_text h'
  refine ⟨?_, ?_, ?_⟩
  · rw [WholeTags, hfirst]
  · rw [WholeTags, hsecond]
  · rw [Markup.tags, Markup.tags, hfirst, hsecond]

end SameTags

variable {tag : Tag} {front : Text}

/-- The text between the first such tag and the next one. -/
def Reader.textAfter (tag : Tag) (r : Reader) : Text → Option Text
  | [] => none
  | c :: text =>
    if tag ∈ (r.step c).2 then some (text.takeWhile fun d => d ≠ .char '<')
    else (r.step c).1.textAfter tag text

def textAfter (tag : Tag) (markup : Text) : Option Text := Reader.textAfter tag {} markup

theorem Reader.textAfter_append {r : Reader} (h : tag ∉ (r.scan front).2) (text : Text) :
    r.textAfter tag (front ++ text) = (r.scan front).1.textAfter tag text := by
  induction front generalizing r with
  | nil => rfl
  | cons c front ih =>
    rw [scan, List.mem_append, not_or] at h
    rw [List.cons_append, textAfter, if_neg h.1, ih h.2]
    rfl

/-- Whole tags, and the one that is looked for not among them. -/
structure Without (tag : Tag) (markup : Text) : Prop where
  whole : WholeTags markup
  absent : tag ∉ tags markup

namespace Without

variable {markup markup' : Text}

theorem nil : Without tag [] := ⟨wholeTags_nil, List.not_mem_nil⟩

theorem append (h : Without tag markup) (h' : Without tag markup') :
    Without tag (markup ++ markup') where
  whole := h.whole.append h'.whole
  absent := by
    rw [tags_append h.whole, List.mem_append]
    exact not_or.mpr ⟨h.absent, h'.absent⟩

theorem flatten {parts : List Text} (h : ∀ part ∈ parts, Without tag part) :
    Without tag parts.flatten := by
  induction parts with
  | nil => exact nil
  | cons part parts ih =>
    rw [List.forall_mem_cons] at h
    exact h.1.append (ih h.2)

theorem text (h : .char '<' ∉ markup) : Without tag markup := by
  have hscan := scan_text h
  constructor
  · rw [WholeTags, hscan]
  · rw [tags, hscan]
    exact List.not_mem_nil

theorem ofList {chars : List Char}
    (h : (Reader.scan {} (chars.map .char)).1 = {} ∧ tag ∉ (Reader.scan {} (chars.map .char)).2) :
    Without tag (.ofString (.ofList chars)) := by
  rw [Text.ofString, String.toList_ofList]
  exact ⟨h.1, h.2⟩

theorem textAfter_append (h : Without tag markup) (text : Text) :
    textAfter tag (markup ++ text) = textAfter tag text := by
  have hscan := Reader.textAfter_append h.absent text
  rw [h.whole] at hscan
  exact hscan

end Without

/-- The tag is complete with the last of these characters, and the next one begins behind the
text. -/
theorem textAfter_of_last {chars rest : List Char} {c : Char} {text : Text}
    (hfront : Without tag front) (hlast : chars.getLast? = some c)
    (habsent : tag ∉ (Reader.scan {} (chars.dropLast.map .char)).2)
    (hemit : tag ∈ ((Reader.scan {} (chars.dropLast.map .char)).1.step (.char c)).2)
    (htext : .char '<' ∉ text) :
    textAfter tag (front ++ .ofString (.ofList chars) ++ text ++
      .ofString (.ofList ('<' :: rest))) = some text := by
  have hchars : chars = chars.dropLast ++ [c] := (List.dropLast_append_getLast? c hlast).symm
  have hnext : Text.ofString (.ofList ('<' :: rest)) = .char '<' :: rest.map .char := by
    rw [Text.ofString, String.toList_ofList, List.map_cons]
  have htake : (text ++ CodePoint.char '<' :: rest.map .char).takeWhile
      (fun d => d ≠ .char '<') = text := by
    rw [List.takeWhile_append_of_pos]
    · rw [List.takeWhile_cons_of_neg (by simp), List.append_nil]
    · intro d hd
      exact decide_eq_true (ne_of_mem_of_not_mem hd htext)
  rw [List.append_assoc, List.append_assoc, hfront.textAfter_append, Text.ofString,
    String.toList_ofList, hchars, List.map_append, List.append_assoc, textAfter,
    Reader.textAfter_append habsent, List.map_singleton, List.singleton_append, Reader.textAfter,
    if_pos hemit, hnext, htake]

end Markup
