import SqlGateway.Http.CardLaws
import SqlGateway.Http.FilteredPage
import SqlGateway.Library.JsonGrammar

/-! What can be read back from a card: its raw response is the entry -/

namespace SqlGateway.Http.Card

open JsText (PrintsNumbers ofChars reprinted stringify)
open Json (CodePoint Text)
open Markup

/-- `<pre class="response">`. -/
def responseTag : Tag := { name := html "pre", attributes := [(html "class", html "response")] }

/-- The text of that element with the entities resolved, as `JSON.parse` reads it. -/
def rawResponse (markup : Text) : Option Json.Value := do
  let escaped ← Markup.textAfter responseTag markup
  let text ← (Escaping.decode entities 0 escaped).mapM CodePoint.char?
  Json.parse text

theorem without_escapeHtml (value : Text) : Without responseTag (escapeHtml (some value)) :=
  .text ((escaped_escapeHtml value).noMarkup '<' List.mem_cons_self)

theorem without_statusTag (entry : ObservabilityEntryDto) :
    Without responseTag (statusTag (outcomeFor entry)) := by
  have hparts {first second third : List Char}
      (h : (Reader.scan {} ((first ++ second ++ third).map .char)).1 = {} ∧
        responseTag ∉ (Reader.scan {} ((first ++ second ++ third).map .char)).2) :
      Without responseTag
        (html (.ofList first) ++ html (.ofList second) ++ html (.ofList third)) := by
    simp only [html, Text.ofString, String.toList_ofList, ← List.map_append]
    exact ⟨h.1, h.2⟩
  unfold outcomeFor
  cases entry.decision with
  | allowed => exact hparts (by decide)
  | rejected => exact hparts (by decide)
  | dbError => exact hparts (by decide)

theorem without_icon (entry : ObservabilityEntryDto) :
    Without responseTag (html (outcomeFor entry).icon) := by
  unfold outcomeFor
  cases entry.decision with
  | allowed => exact .ofList (by decide)
  | rejected => exact .ofList (by decide)
  | dbError => exact .ofList (by decide)

theorem printsPlainNumbers {browser : Browser} (h : PrintsNumbers browser.numberText) :
    browser.PrintsPlainNumbers := by
  intro i hmem
  obtain ⟨x, hx⟩ := Json.intText_eq i
  rw [← hx] at hmem
  rcases h x with hnull | ⟨y, hy⟩
  · rw [hnull] at hmem
    exact absurd hmem (by decide)
  · rw [hy] at hmem
    exact absurd (Json.isNumberChar_text y '<' hmem) (by decide)

section Numbers

variable {browser : Browser} (hnumbers : browser.PrintsPlainNumbers)
include hnumbers

theorem without_indexText (index : Nat) : Without responseTag (indexText browser index) := by
  apply Without.text
  rw [indexText, List.leftpad, List.mem_append, List.mem_replicate]
  rintro (hpad | hnumber)
  · cases hpad.2
  · exact not_mem_numberText hnumbers index hnumber

theorem without_statChip (count : Int) {one many : List Char} (hone : '<' ∉ one)
    (hmany : '<' ∉ many) :
    Without responseTag (statChip browser count (.ofList one) (.ofList many)) := by
  have hnoun : Without responseTag (html (if count = 1 then .ofList one else .ofList many)) := by
    apply Without.text
    split_ifs
    · simpa [html, Text.ofString] using hone
    · simpa [html, Text.ofString] using hmany
  exact ((((Without.ofList (by decide)).append
    (.text (not_mem_numberText hnumbers count))).append (.ofList (by decide))).append
    hnoun).append (.ofList (by decide))

theorem without_chip {entry : ObservabilityEntryDto} {chip : Text}
    (h : chip ∈ chips browser entry) : Without responseTag chip := by
  simp only [chips, List.mem_append, Option.mem_toList, Option.map_eq_some_iff] at h
  cases h with
  | inl hcounts =>
    rcases hcounts with (⟨count, -, rfl⟩ | ⟨count, -, rfl⟩) | ⟨count, -, rfl⟩
    · exact without_statChip hnumbers count (by decide) (by decide)
    · exact without_statChip hnumbers count (by decide) (by decide)
    · exact without_statChip hnumbers count (by decide) (by decide)
  | inr htruncated =>
    split_ifs at htruncated
    · rw [List.mem_singleton.mp htruncated]
      exact .ofList (by decide)
    · cases htruncated

end Numbers

theorem without_resultSummary {parts : List Text} (h : ∀ part ∈ parts, Without responseTag part) :
    Without responseTag (resultSummary parts) :=
  ((Without.ofList (by decide)).append (.flatten h)).append (.ofList (by decide +kernel))

theorem without_reasonChip {label : List Char} (h : '<' ∉ label) (reason : String) :
    Without responseTag (reasonChip (.ofList label) reason) := by
  have hlabel : Without responseTag (html ("<span class=\"reason-chip\">" ++ .ofList label)) := by
    have hsplit : html ("<span class=\"reason-chip\">" ++ .ofList label) =
        html "<span class=\"reason-chip\">" ++ html (.ofList label) := by
      simp only [html, Text.ofString, String.toList_append, List.map_append]
    rw [hsplit]
    refine (Without.ofList (by decide)).append (.text ?_)
    simpa [html, Text.ofString] using h
  exact (hlabel.append (without_escapeHtml _)).append (.ofList (by decide))

theorem without_resultMessage (message : Text) : Without responseTag (resultMessage message) :=
  ((Without.ofList (by decide)).append (without_escapeHtml _)).append
    (.ofList (by decide))

theorem without_resultDetail (detail : Text) : Without responseTag (resultDetail detail) :=
  ((Without.ofList (by decide)).append (without_escapeHtml _)).append
    (.ofList (by decide))

theorem without_compact {browser : Browser} (hnumbers : browser.PrintsPlainNumbers)
    (entry : ObservabilityEntryDto) (outcome : Outcome) :
    Without responseTag (buildCompactResultHtml browser entry outcome) := by
  have hoptional {α : Type} {value : Option α} {part : α → Text}
      (hpart : ∀ a, Without responseTag (part a)) {text : Text}
      (htext : text ∈ (value.map part).toList) : Without responseTag text := by
    obtain ⟨a, -, rfl⟩ := Option.map_eq_some_iff.mp (Option.mem_toList.mp htext)
    exact hpart a
  unfold buildCompactResultHtml
  split_ifs
  · apply without_resultSummary
    intro part hpart
    split_ifs at hpart
    · rw [List.mem_singleton.mp hpart]
      exact .ofList (by decide)
    · exact without_chip hnumbers hpart
  · apply without_resultSummary
    intro part hpart
    rcases List.mem_append.mp hpart with hpart | hdetail
    · rcases List.mem_append.mp hpart with hcode | hmessage
      · exact hoptional (without_reasonChip (by decide)) hcode
      · rw [List.mem_singleton.mp hmessage]
        exact without_resultMessage _
    · exact hoptional without_resultDetail hdetail
  · apply without_resultSummary
    intro part hpart
    rcases List.mem_append.mp hpart with hcode | hmessage
    · exact hoptional (without_reasonChip (by decide)) hcode
    · exact hoptional (fun message => without_resultMessage (html message)) hmessage
  · exact .nil

-- for the longest literals of the template
set_option maxRecDepth 2048 in
theorem textAfter_innerHtml {browser : Browser} (hnumbers : browser.PrintsPlainNumbers)
    (entry : ObservabilityEntryDto) (index : Nat) :
    textAfter responseTag (innerHtml browser entry index) =
      some (escapeHtml (some (rawJson browser entry))) := by
  have hescaped := (escaped_escapeHtml (rawJson browser entry)).noMarkup '<' List.mem_cons_self
  refine textAfter_of_last ?_ rfl (by decide) (by decide +kernel) hescaped
  -- the result and the query
  refine Without.append ?_ (without_compact hnumbers entry _)
  refine Without.append ?_ (.ofList (by decide))
  refine Without.append ?_ (without_escapeHtml _)
  -- the duration and the status
  refine Without.append ?_ (.ofList (by decide +kernel))
  refine Without.append ?_ (without_escapeHtml _)
  refine Without.append ?_ (.ofList (by decide))
  refine Without.append ?_ (without_escapeHtml _)
  refine Without.append ?_ (.ofList (by decide))
  refine Without.append ?_ (without_icon entry)
  refine Without.append ?_ (.ofList (by decide))
  refine Without.append ?_ (without_statusTag entry)
  -- the description and the title
  refine Without.append ?_ (.ofList (by decide))
  refine Without.append ?_ (without_escapeHtml _)
  refine Without.append ?_ (.ofList (by decide))
  refine Without.append ?_ (without_escapeHtml _)
  refine Without.append ?_ (.ofList (by decide))
  -- the index and the category
  refine Without.append ?_ (without_indexText hnumbers index)
  refine Without.append ?_ (.ofList (by decide))
  refine Without.append ?_ (without_escapeHtml _)
  exact .ofList (by decide)

theorem mapM_char?_ofChars (chars : List Char) :
    (ofChars chars).mapM CodePoint.char? = some chars := by
  induction chars with
  | nil => rfl
  | cons c chars ih =>
    rw [ofChars] at ih
    rw [ofChars, List.map_cons, List.mapM_cons, ih]
    rfl

theorem rawResponse_innerHtml {browser : Browser} (h : PrintsNumbers browser.numberText)
    (entry : ObservabilityEntryDto) (index : Nat) :
    rawResponse (innerHtml browser entry index) =
      some (reprinted browser.numberText entry.toJsonPayload) := by
  rw [rawResponse, textAfter_innerHtml (printsPlainNumbers h)]
  simp only [Option.bind_eq_bind, Option.bind_some, (escaped_escapeHtml _).decoded]
  rw [rawJson, mapM_char?_ofChars, Option.bind_some]
  exact JsText.parse_stringify h entry.toJsonPayload

/-- Whatever the connections lose and whatever is clicked: each card of the page is of an entry that
was recorded, and its raw response reads back as that entry, with the numbers as printed. -/
theorem cards_read_back {browser : Browser} (h : PrintsNumbers browser.numberText)
    {actions : List EventStream.Action} {s : EventStream.State}
    (hrun : Transition.Run EventStream.Step {} actions s) {connections : FilteredPage.Connections}
    (hconnections : ∀ connection ∈ connections, connection.2 <+: s.stream connection.1)
    (stored : Option (List Char)) {events : List FilteredPage.Event}
    (hevents : FilteredPage.messages events = connections.flatMap fun connection =>
      EventSource.messages connection.2) :
    ∀ card ∈ (FilteredPage.Tab.run stored events).page.cards,
      ∃ entry ∈ s.recorder.appended, card.entry = .of entry ∧
        rawResponse (buildCard browser entry card.index).innerHtml =
          some (reprinted browser.numberText entry.toJsonPayload) := by
  intro card hcard
  obtain ⟨entry, hentry, hof⟩ :=
    FilteredPage.cards_of_streams hrun hconnections stored hevents card hcard
  exact ⟨entry, hentry, hof, rawResponse_innerHtml h entry card.index⟩

theorem digitBrowser_printsNumbers : PrintsNumbers digitBrowser.numberText :=
  fun x => .inr ⟨x, rfl⟩

/-- A query that ends the element, if it is not escaped. -/
def closingQuery : ObservabilityEntryDto := rejectedCall "SELECT \"</pre>\"" "dblink"

def closingEvents : List FilteredPage.Event :=
  [.message (FilteredPage.eventData closingQuery), .change .rejected true]

theorem cards_closingEvents :
    (FilteredPage.Tab.run none closingEvents).page.cards.map FilteredPage.Card.entry =
      [.of closingQuery] := by
  have hreadable : LivePage.isReadable closingQuery = true := by
    rw [LivePage.isReadable, Json.accepts_text]
    rfl
  have hentries : FilteredPage.messages closingEvents =
    [closingQuery].map FilteredPage.eventData := rfl
  have hlength : (LivePage.Page.withCard {} closingQuery).cards.length ≤
      LivePage.maxCardsOnPage := by
    rw [LivePage.maxCardsOnPage_eq]
    exact InMemoryObservabilityRecorderAdapter.maxBufferedEntries_pos
  rw [(FilteredPage.refines_run none hentries).cards, List.foldl_cons, List.foldl_nil,
    LivePage.Page.onMessage, if_pos hreadable,
    LivePage.Page.addEntry_new (Finset.notMem_empty _) (by decide),
    LivePage.Page.capCards_of_le hlength]
  rfl

theorem cards_read_back_servedClient :
    ∃ card ∈ (FilteredPage.Tab.run none closingEvents).page.cards,
      ∃ entry ∈ (EventStream.servedClient closingQuery).recorder.appended, card.entry = .of entry ∧
        rawResponse (buildCard digitBrowser entry card.index).innerHtml =
          some (reprinted digitBrowser.numberText entry.toJsonPayload) := by
  have hmessages : FilteredPage.messages closingEvents =
      [(0, (EventStream.servedClient closingQuery).stream 0)].flatMap fun connection =>
        EventSource.messages connection.2 := by
    rw [List.flatMap_singleton, EventStream.messages_stream]
    rfl
  have hread := cards_read_back digitBrowser_printsNumbers
    (EventStream.run_servedClient closingQuery)
    (List.forall_mem_singleton.mpr (List.prefix_refl _)) none hmessages
  obtain ⟨card, hcard⟩ := List.map_eq_singleton_iff.mp cards_closingEvents
  have hmem : card ∈ (FilteredPage.Tab.run none closingEvents).page.cards := by
    rw [hcard.1]
    exact List.mem_cons_self
  exact ⟨card, hmem, hread card hmem⟩

end SqlGateway.Http.Card
