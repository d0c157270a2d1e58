import SqlGateway.Http.Card
import SqlGateway.Library.Markup

namespace SqlGateway.Http.Card

open Json (CodePoint Text)
open Markup

/-- No character of markup, an `&` only where an entity begins, and nothing is lost. -/
structure Escaped (value escaped : Text) : Prop where
  noMarkup : ∀ c ∈ ['<', '>', '"', '\''], CodePoint.char c ∉ escaped
  entity : ∀ rest, .char '&' :: rest <:+ escaped →
    ∃ entity ∈ entities, entity.2 <+: .char '&' :: rest
  decoded : Escaping.decode entities 0 escaped = value

theorem entities_marked : Escaping.Marked entities (.char '&') where
  head := by decide
  tail := by decide
  mark := by decide
  prefixFree := by decide

/-- `&` is replaced first, so no pass finds what an earlier one has written. -/
theorem escapeHtml_eq_encode (value : Text) :
    escapeHtml (some value) = Escaping.encode entities value := by
  have hpasses : escapeHtml (some value) = Escaping.passes entities value := rfl
  rw [hpasses]
  apply Escaping.passes_eq_encode
  decide

theorem escaped_escapeHtml (value : Text) : Escaped value (escapeHtml (some value)) := by
  rw [escapeHtml_eq_encode]
  constructor
  · have habsent (c : Char) (hc : CodePoint.char c ∈ entities.map Prod.fst)
        (hne : CodePoint.char c ≠ .char '&') : CodePoint.char c ∉ Escaping.encode entities value :=
      entities_marked.not_mem_encode hc hne value
    simp only [List.forall_mem_cons, List.not_mem_nil, false_imp_iff, implies_true, and_true]
    exact ⟨habsent '<' (by decide) (by decide), habsent '>' (by decide) (by decide),
      habsent '"' (by decide) (by decide), habsent '\'' (by decide) (by decide)⟩
  · intro rest hrest
    exact entities_marked.code_of_suffix hrest
  · exact entities_marked.decode_encode value

theorem sameTags_escapeHtml (first second : Text) :
    SameTags (escapeHtml (some first)) (escapeHtml (some second)) :=
  .text ((escaped_escapeHtml first).noMarkup '<' List.mem_cons_self)
    ((escaped_escapeHtml second).noMarkup '<' List.mem_cons_self)

theorem sameTags_html {chars : List Char} (h : (Reader.scan {} (chars.map .char)).1 = {}) :
    SameTags (html (.ofList chars)) (html (.ofList chars)) :=
  .refl (wholeTags_ofList h)

theorem wholeTags_statusTag (entry : ObservabilityEntryDto) :
    WholeTags (statusTag (outcomeFor entry)) := by
  have hparts {first second third : List Char}
      (h : (Reader.scan {} ((first ++ second ++ third).map .char)).1 = {}) :
      WholeTags (html (.ofList first) ++ html (.ofList second) ++ html (.ofList third)) := by
    simp only [html, Text.ofString, String.toList_ofList, ← List.map_append]
    exact h
  unfold outcomeFor
  cases entry.decision with
  | allowed => exact hparts (by decide)
  | rejected => exact hparts (by decide)
  | dbError => exact hparts (by decide)

theorem wholeTags_icon (entry : ObservabilityEntryDto) :
    WholeTags (html (outcomeFor entry).icon) := by
  unfold outcomeFor
  cases entry.decision with
  | allowed => exact wholeTags_ofList (by decide)
  | rejected => exact wholeTags_ofList (by decide)
  | dbError => exact wholeTags_ofList (by decide)

/-- The text of a whole number is no markup. -/
def Browser.PrintsPlainNumbers (browser : Browser) : Prop :=
  ∀ i : Int, '<' ∉ browser.numberText (Json.intText i)

section Numbers

variable {browser : Browser} (hnumbers : browser.PrintsPlainNumbers)
include hnumbers

theorem not_mem_numberText (i : Int) : CodePoint.char '<' ∉ numberText browser i := by
  intro hmem
  obtain ⟨c, hc, heq⟩ := List.mem_map.mp hmem
  injection heq with heq
  exact hnumbers i (heq ▸ hc)

theorem sameTags_indexText (first second : Nat) :
    SameTags (indexText browser first) (indexText browser second) := by
  have hindex (index : Nat) : CodePoint.char '<' ∉ indexText browser index := by
    rw [indexText, List.leftpad, List.mem_append, List.mem_replicate]
    rintro (hpad | hnumber)
    · cases hpad.2
    · exact not_mem_numberText hnumbers index hnumber
  exact .text (hindex first) (hindex second)

theorem wholeTags_statChip (count : Int) {one many : List Char}
    (hone : (Reader.scan {} (one.map .char)).1 = {})
    (hmany : (Reader.scan {} (many.map .char)).1 = {}) :
    WholeTags (statChip browser count (.ofList one) (.ofList many)) := by
  have hnumber : WholeTags (numberText browser count) := by
    rw [WholeTags, scan_text (not_mem_numberText hnumbers count)]
  have hnoun : WholeTags (html (if count = 1 then .ofList one else .ofList many)) := by
    split_ifs
    · exact wholeTags_ofList hone
    · exact wholeTags_ofList hmany
  exact ((((wholeTags_ofList (by decide)).append hnumber).append
    (wholeTags_ofList (by decide))).append hnoun).append
    (wholeTags_ofList (by decide))

theorem wholeTags_chip {entry : ObservabilityEntryDto} {chip : Text}
    (h : chip ∈ chips browser entry) : WholeTags chip := by
  simp only [chips, List.mem_append, Option.mem_toList, Option.map_eq_some_iff] at h
  cases h with
  | inl hcounts =>
    cases hcounts with
    | inl hcolumns =>
      rcases hcolumns with ⟨count, -, rfl⟩ | ⟨count, -, rfl⟩
      · exact wholeTags_statChip hnumbers count (by decide) (by decide)
      · exact wholeTags_statChip hnumbers count (by decide) (by decide)
    | inr haffected =>
      obtain ⟨count, -, rfl⟩ := haffected
      exact wholeTags_statChip hnumbers count (by decide) (by decide)
  | inr htruncated =>
    split_ifs at htruncated
    · rw [List.mem_singleton.mp htruncated]
      exact wholeTags_ofList (by decide)
    · cases htruncated

end Numbers

theorem sameTags_resultSummary {first second : List Text}
    (h : SameTags first.flatten second.flatten) :
    SameTags (resultSummary first) (resultSummary second) :=
  ((sameTags_html (by decide)).append h).append (sameTags_html (by decide))

theorem sameTags_optional {α : Type} {part : α → Text} (hpart : ∀ a b, SameTags (part a) (part b))
    {first second : Option α} (h : first.isSome = second.isSome) :
    SameTags (first.map part).toList.flatten (second.map part).toList.flatten := by
  cases first with
  | none =>
    cases second with
    | none => exact .refl wholeTags_nil
    | some b => cases h
  | some a =>
    cases second with
    | none => cases h
    | some b => exact (hpart a b).append (.refl wholeTags_nil)

theorem sameTags_reasonChip {label : List Char}
    (h : (Reader.scan {} (("<span class=\"reason-chip\">".toList ++ label).map .char)).1 = {})
    (first second : String) :
    SameTags (reasonChip (.ofList label) first) (reasonChip (.ofList label) second) := by
  have hlabel : WholeTags (html ("<span class=\"reason-chip\">" ++ .ofList label)) := by
    simp only [html, Text.ofString, String.toList_append, String.toList_ofList]
    exact h
  exact ((SameTags.refl hlabel).append (sameTags_escapeHtml _ _)).append
    (sameTags_html (by decide))

theorem sameTags_resultMessage (first second : Text) :
    SameTags (resultMessage first) (resultMessage second) :=
  ((sameTags_html (by decide)).append (sameTags_escapeHtml _ _)).append
    (sameTags_html (by decide))

theorem sameTags_resultDetail (first second : Text) :
    SameTags (resultDetail first) (resultDetail second) :=
  ((sameTags_html (by decide)).append (sameTags_escapeHtml _ _)).append
    (sameTags_html (by decide))

/-- What the entries may differ in is text: of the strings that choose a branch it counts
whether they are empty or absent. -/
structure SameOutline (first second : ObservabilityEntryDto) : Prop where
  decision : first.decision = second.decision
  durationMs : first.durationMs = second.durationMs
  rowsAffected : first.rowsAffected = second.rowsAffected
  rowsReturned : first.rowsReturned = second.rowsReturned
  rowsWereTruncated : first.rowsWereTruncated = second.rowsWereTruncated
  columns : first.columns.map List.length = second.columns.map List.length
  rejectionCode : (nonEmpty first.rejectionCode).isSome = (nonEmpty second.rejectionCode).isSome
  rejectionDetail :
    (nonEmptyText first.rejectionDetail).isSome = (nonEmptyText second.rejectionDetail).isSome
  dbErrorMessage : (nonEmpty first.dbErrorMessage).isSome = (nonEmpty second.dbErrorMessage).isSome
  dbErrorCode : (nonEmpty first.dbErrorCode).isSome = (nonEmpty second.dbErrorCode).isSome

namespace SameOutline

variable {browser : Browser} {first second : ObservabilityEntryDto}

theorem outcomeFor_eq (h : SameOutline first second) : outcomeFor first = outcomeFor second := by
  rw [outcomeFor, outcomeFor, h.decision]

theorem chips_eq (h : SameOutline first second) : chips browser first = chips browser second := by
  have hrows : Card.rowsReturned first = Card.rowsReturned second :=
    congrArg (Option.filter _) h.rowsReturned
  have hcolumns : columnCount first = columnCount second := congrArg (Option.filter _) h.columns
  have haffected : Card.rowsAffected first = Card.rowsAffected second :=
    congrArg (Option.filter _) h.rowsAffected
  have htruncated : wereTruncated first = wereTruncated second :=
    congrArg (Option.getD · false) h.rowsWereTruncated
  rw [chips, chips, hrows, hcolumns, haffected, htruncated]

theorem sameTags_allowed (h : SameOutline first second) (hnumbers : browser.PrintsPlainNumbers)
    (hallowed : first.decision = .allowed) :
    SameTags (buildCompactResultHtml browser first (outcomeFor first))
      (buildCompactResultHtml browser second (outcomeFor second)) := by
  have hcompact (entry : ObservabilityEntryDto) (hentry : entry.decision = .allowed) :
      buildCompactResultHtml browser entry (outcomeFor entry) =
        resultSummary (if (chips browser entry).isEmpty then
          [html "<span class=\"stat-chip muted\">no data</span>"] else chips browser entry) := by
    rw [outcomeFor, hentry]
    exact if_pos rfl
  rw [hcompact first hallowed, hcompact second (h.decision ▸ hallowed), h.chips_eq]
  apply sameTags_resultSummary
  apply SameTags.refl
  apply wholeTags_flatten
  intro part hpart
  split_ifs at hpart
  · rw [List.mem_singleton.mp hpart]
    exact wholeTags_ofList (by decide)
  · exact wholeTags_chip hnumbers hpart

theorem sameTags_rejected (h : SameOutline first second) (hrejected : first.decision = .rejected) :
    SameTags (buildCompactResultHtml browser first (outcomeFor first))
      (buildCompactResultHtml browser second (outcomeFor second)) := by
  have hcompact (entry : ObservabilityEntryDto) (hentry : entry.decision = .rejected) :
      buildCompactResultHtml browser entry (outcomeFor entry) =
        resultSummary (((nonEmpty entry.rejectionCode).map (reasonChip "")).toList ++
          [resultMessage (humaniseRejection browser entry.rejectionCode)] ++
          ((nonEmptyText entry.rejectionDetail).map resultDetail).toList) := by
    rw [outcomeFor, hentry]
    exact (if_neg (by decide)).trans (if_pos rfl)
  rw [hcompact first hrejected, hcompact second (h.decision ▸ hrejected)]
  apply sameTags_resultSummary
  simp only [List.flatten_append, List.flatten_singleton]
  refine ((sameTags_optional ?_ h.rejectionCode).append (sameTags_resultMessage _ _)).append
    (sameTags_optional sameTags_resultDetail h.rejectionDetail)
  exact sameTags_reasonChip (by decide)

theorem sameTags_dbError (h : SameOutline first second) (hdbError : first.decision = .dbError) :
    SameTags (buildCompactResultHtml browser first (outcomeFor first))
      (buildCompactResultHtml browser second (outcomeFor second)) := by
  have hcompact (entry : ObservabilityEntryDto) (hentry : entry.decision = .dbError) :
      buildCompactResultHtml browser entry (outcomeFor entry) =
        resultSummary (((nonEmpty entry.dbErrorCode).map (reasonChip "SQLSTATE ")).toList ++
          ((nonEmpty entry.dbErrorMessage).map fun message =>
            resultMessage (html message)).toList) := by
    rw [outcomeFor, hentry]
    exact (if_neg (by decide)).trans ((if_neg (by decide)).trans (if_pos rfl))
  rw [hcompact first hdbError, hcompact second (h.decision ▸ hdbError)]
  apply sameTags_resultSummary
  rw [List.flatten_append, List.flatten_append]
  refine (sameTags_optional ?_ h.dbErrorCode).append
    (sameTags_optional (fun _ _ => sameTags_resultMessage _ _) h.dbErrorMessage)
  exact sameTags_reasonChip (by decide)

theorem sameTags_compact (h : SameOutline first second) (hnumbers : browser.PrintsPlainNumbers) :
    SameTags (buildCompactResultHtml browser first (outcomeFor first))
      (buildCompactResultHtml browser second (outcomeFor second)) := by
  cases hdecision : first.decision with
  | allowed => exact h.sameTags_allowed hnumbers hdecision
  | rejected => exact h.sameTags_rejected hdecision
  | dbError => exact h.sameTags_dbError hdecision

-- for the longest literals of the template
set_option maxRecDepth 2048 in
theorem sameTags_innerHtml (h : SameOutline first second) (hnumbers : browser.PrintsPlainNumbers)
    (index index' : Nat) :
    SameTags (innerHtml browser first index) (innerHtml browser second index') := by
  have hstatus : SameTags (statusTag (outcomeFor first)) (statusTag (outcomeFor second)) := by
    rw [← h.outcomeFor_eq]
    exact .refl (wholeTags_statusTag first)
  have hicon : SameTags (html (outcomeFor first).icon) (html (outcomeFor second).icon) := by
    rw [← h.outcomeFor_eq]
    exact .refl (wholeTags_icon first)
  unfold innerHtml
  -- the result
  refine SameTags.append ?_ (sameTags_html (by decide))
  refine SameTags.append ?_ (sameTags_escapeHtml _ _)
  refine SameTags.append ?_ (sameTags_html (by decide +kernel))
  refine SameTags.append ?_ (h.sameTags_compact hnumbers)
  -- the query
  refine SameTags.append ?_ (sameTags_html (by decide))
  refine SameTags.append ?_ (sameTags_escapeHtml _ _)
  -- the duration and the status
  refine SameTags.append ?_ (sameTags_html (by decide +kernel))
  refine SameTags.append ?_ (sameTags_escapeHtml _ _)
  refine SameTags.append ?_ (sameTags_html (by decide))
  refine SameTags.append ?_ (sameTags_escapeHtml _ _)
  refine SameTags.append ?_ (sameTags_html (by decide))
  refine SameTags.append ?_ hicon
  refine SameTags.append ?_ (sameTags_html (by decide))
  refine SameTags.append ?_ hstatus
  -- the description and the title
  refine SameTags.append ?_ (sameTags_html (by decide))
  refine SameTags.append ?_ (sameTags_escapeHtml _ _)
  refine SameTags.append ?_ (sameTags_html (by decide))
  refine SameTags.append ?_ (sameTags_escapeHtml _ _)
  refine SameTags.append ?_ (sameTags_html (by decide))
  -- the index and the category
  refine SameTags.append ?_ (sameTags_indexText hnumbers _ _)
  refine SameTags.append ?_ (sameTags_html (by decide))
  refine SameTags.append ?_ (sameTags_escapeHtml _ _)
  exact sameTags_html (by decide)

end SameOutline

/-- What an agent writes is text on the page, and its card has the tags of its outline. -/
theorem buildCard_sameTags {browser : Browser} (hnumbers : browser.PrintsPlainNumbers) :
    (∀ value, Escaped value (escapeHtml (some value))) ∧
      ∀ first second index index', SameOutline first second →
        SameTags (buildCard browser first index).innerHtml
          (buildCard browser second index').innerHtml :=
  ⟨escaped_escapeHtml, fun _ _ index index' h => h.sameTags_innerHtml hnumbers index index'⟩

/-- A browser that prints whole numbers as their digits. -/
def digitBrowser : Browser where
  numberText := id
  toFixedOne := id
  inherited _ := none

theorem digitBrowser_printsPlainNumbers : digitBrowser.PrintsPlainNumbers := by
  intro i hmem
  cases List.mem_append.mp hmem with
  | inl hsign =>
    rw [Json.signText] at hsign
    split_ifs at hsign
    · cases List.mem_singleton.mp hsign
    · cases hsign
  | inr hdigit =>
    exact absurd (Nat.isDigit_of_mem_toDigits (Nat.succ_pos 9) (le_refl 10) hdigit) (by decide)

def rejectedCall (redactedQuery rejectionDetail : String) : ObservabilityEntryDto where
  requestId := "id"
  decision := .rejected
  redactedQuery := redactedQuery
  rejectionCode := some "dangerous_function"
  rejectionDetail := some rejectionDetail
  timestamp := "2026-01-01T00:00:00+00:00"

/-- A query with an element in it has the card of a query without. -/
theorem buildCard_sameTags_script :
    SameTags
      (buildCard digitBrowser (rejectedCall "SELECT \"<script>\", dblink(%(1)s)" "dblink") 1).innerHtml
      (buildCard digitBrowser (rejectedCall "SELECT lo_export(%(1)s)" "lo_export") 1).innerHtml := by
  have houtline : SameOutline (rejectedCall "SELECT \"<script>\", dblink(%(1)s)" "dblink")
      (rejectedCall "SELECT lo_export(%(1)s)" "lo_export") := by
    constructor <;> decide
  exact (buildCard_sameTags digitBrowser_printsPlainNumbers).2 _ _ 1 1 houtline

end SqlGateway.Http.Card
