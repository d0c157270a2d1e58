import SqlGateway.Http.Card
import SqlGateway.Http.EventStream
import SqlGateway.Http.LivePageLaws
import SqlGateway.Observability.AuditFile

namespace SqlGateway.Http.FilteredPage

open LivePage (isReadable maxCardsOnPage)
open InMemoryObservabilityRecorderAdapter (SubscriberId)
open MultiSinkObservabilityRecorderAdapter (sampleEntry)
open ObservabilityEntryDto (present stringField)

/-! The page with its filters, and what the browser stores of them -/

/-- What the script looks up in the object that `JSON.parse` has made of an event's data. -/
structure Received where
  requestId : String
  decision : DecisionEnum
  value : Json.Value

/-- Every message of the server has a string under `request_id` and one of the three decisions; the
cards that the script builds of other objects are not modelled. -/
def Received.ofValue : Json.Value → Option Received
  | .object fields => do
    let requestId ← stringField fields "request_id"
    let decision ← (stringField fields "decision").bind DecisionEnum.ofValue?
    return { requestId, decision, value := .object fields }
  | _ => none

def Received.parse (data : List Char) : Option Received := (Json.parse data).bind ofValue

structure Card where
  entry : Received
  index : Nat
  /-- `style.display` is not `"none"`. -/
  visible : Bool

/-- `dataset.outcome`. -/
def Card.kind (card : Card) : String := card.entry.decision.value

def insertLast (set : List String) (kind : String) : List String :=
  if kind ∈ set then set else set ++ [kind]

def newSet (kinds : List String) : List String := kinds.foldl insertLast []

theorem mem_insertLast {set : List String} {kind other : String} :
    other ∈ insertLast set kind ↔ other = kind ∨ other ∈ set := by
  rw [insertLast]
  split_ifs with hmem
  · exact ⟨.inr, fun h => h.elim (fun heq => heq ▸ hmem) id⟩
  · rw [List.mem_append, List.mem_singleton, or_comm]

theorem insertLast_of_not_mem {set : List String} {kind : String} (h : kind ∉ set) :
    insertLast set kind = set ++ [kind] := if_neg h

theorem nodup_insertLast {set : List String} (h : set.Nodup) (kind : String) :
    (insertLast set kind).Nodup := by
  rw [insertLast]
  split_ifs with hmem
  · exact h
  · exact List.concat_eq_append ▸ h.concat hmem

theorem nodup_foldl_insertLast (kinds : List String) {set : List String} (h : set.Nodup) :
    (kinds.foldl insertLast set).Nodup := by
  induction kinds generalizing set with
  | nil => exact h
  | cons kind kinds ih => exact ih (nodup_insertLast h kind)

theorem foldl_insertLast (kinds set : List String) (h : (set ++ kinds).Nodup) :
    kinds.foldl insertLast set = set ++ kinds := by
  induction kinds generalizing set with
  | nil => exact (List.append_nil set).symm
  | cons kind kinds ih =>
    have hnew : kind ∉ set := fun hmem =>
      (List.nodup_append.mp h).2.2 kind hmem kind List.mem_cons_self rfl
    rw [List.append_cons] at h
    rw [List.foldl_cons, insertLast_of_not_mem hnew, ih _ h, ← List.append_cons]

/-- The filters at the start, from what is stored under `STORAGE_KEY`. -/
def loadFilters (stored : Option (List Char)) : List String :=
  match stored.bind Json.parse with
  | some (.array items) => newSet (items.filterMap Json.Value.string?)
  | _ => ["allowed", "rejected", "db_error"]

/-- `JSON.stringify([...state.activeFilters])`. -/
def storedText (activeFilters : List String) : List Char :=
  (Json.Value.array (activeFilters.map .ofString)).text ⟨false, true⟩

/-- The `state` of the script and the elements that it changes; the newest card comes first. -/
structure Page where
  activeFilters : List String
  checked : DecisionEnum → Bool
  counts : DecisionEnum → Nat := fun _ => 0
  totalEverReceived : Nat := 0
  seenRequestIds : Finset String := ∅
  cards : List Card := []
  emptyState : Bool := true
  totalCount : Nat := 0
  countTexts : DecisionEnum → Nat := fun _ => 0

namespace Page

def load (stored : Option (List Char)) : Page where
  activeFilters := loadFilters stored
  checked kind := decide (kind.value ∈ loadFilters stored)

def applyFilters (page : Page) : Page :=
  { page with
    cards := page.cards.map fun card =>
      { card with visible := decide (card.kind ∈ page.activeFilters) } }

/-- A click on a filter and its `change` listener. -/
def change (page : Page) (kind : DecisionEnum) : Page :=
  let checked := Function.update page.checked kind (!page.checked kind)
  applyFilters
    { page with
      checked
      activeFilters :=
        if checked kind then insertLast page.activeFilters kind.value
        else page.activeFilters.erase kind.value }

def updateCounts (page : Page) : Page :=
  { page with totalCount := page.cards.length, countTexts := page.counts }

/-- One turn of the `while` loop of `addEntry`. -/
def removeOldest (page : Page) : Page :=
  match page.cards.getLast? with
  | none => page
  | some oldest =>
    { page with
      seenRequestIds :=
        if oldest.entry.requestId = "" then page.seenRequestIds
        else page.seenRequestIds.erase oldest.entry.requestId
      cards := page.cards.dropLast }

theorem removeOldest_cards (page : Page) : page.removeOldest.cards = page.cards.dropLast := by
  unfold removeOldest
  split
  · next h => rw [List.getLast?_eq_none_iff.mp h]; rfl
  · rfl

def capCards (page : Page) : Page :=
  if maxCardsOnPage < page.cards.length then capCards page.removeOldest else page
termination_by page.cards.length
decreasing_by
  rw [removeOldest_cards, List.length_dropLast]
  exact Nat.sub_one_lt_of_lt ‹_›

def withCard (page : Page) (entry : Received) : Page :=
  let card : Card :=
    { entry
      index := page.totalEverReceived + 1
      visible := decide (entry.decision.value ∈ page.activeFilters) }
  { page with
    counts := Function.update page.counts entry.decision (page.counts entry.decision + 1)
    totalEverReceived := page.totalEverReceived + 1
    seenRequestIds :=
      if entry.requestId = "" then page.seenRequestIds
      else insert entry.requestId page.seenRequestIds
    cards := card :: page.cards
    emptyState := false }

def addEntry (page : Page) (entry : Received) : Page :=
  if entry.requestId ≠ "" ∧ entry.requestId ∈ page.seenRequestIds then page
  else updateCounts (capCards (page.withCard entry))

/-- `source.onmessage`, which drops what does not parse. -/
def onMessage (page : Page) (data : List Char) : Page :=
  (Received.parse data).elim page page.addEntry

end Page

structure Tab where
  page : Page
  stored : Option (List Char)

/-- `saved` is whether `localStorage` takes the item. -/
inductive Event
  | message (data : List Char)
  | change (kind : DecisionEnum) (saved : Bool)
  | reload

namespace Tab

def start (stored : Option (List Char)) : Tab := { page := .load stored, stored }

def handle (tab : Tab) : Event → Tab
  | .message data => { tab with page := tab.page.onMessage data }
  | .change kind saved =>
    { page := tab.page.change kind
      stored := if saved then some (storedText (tab.page.change kind).activeFilters) else tab.stored }
  | .reload => start tab.stored

def run (stored : Option (List Char)) (events : List Event) : Tab :=
  events.foldl handle (start stored)

end Tab

/-! What is shown -/

namespace Page

/-- What can be seen of the page agrees with its state. -/
structure Consistent (page : Page) : Prop where
  visible : ∀ card ∈ page.cards, card.visible = decide (card.kind ∈ page.activeFilters)
  checked : ∀ kind, page.checked kind = decide (kind.value ∈ page.activeFilters)
  distinct : page.activeFilters.Nodup
  emptyState : page.emptyState = page.cards.isEmpty
  totalCount : page.totalCount = page.cards.length
  countTexts : page.countTexts = page.counts
  counted : page.counts .allowed + page.counts .rejected + page.counts .dbError =
    page.totalEverReceived
  numbered : ∀ i card, page.cards[i]? = some card → card.index + i = page.totalEverReceived
  bounded : page.cards.length ≤ maxCardsOnPage

theorem nodup_loadFilters (stored : Option (List Char)) : (loadFilters stored).Nodup := by
  rw [loadFilters]
  split
  · exact nodup_foldl_insertLast _ List.nodup_nil
  · decide

theorem consistent_load (stored : Option (List Char)) : (load stored).Consistent where
  visible _ h := absurd h List.not_mem_nil
  checked _ := rfl
  distinct := nodup_loadFilters stored
  emptyState := rfl
  totalCount := rfl
  countTexts := rfl
  counted := rfl
  numbered _ _ h := nomatch h
  bounded := Nat.zero_le _

theorem value_injective : Function.Injective DecisionEnum.value := by
  intro first second h
  have hfirst := ObservabilityEntryDto.decision_ofValue? first
  rw [h, ObservabilityEntryDto.decision_ofValue?] at hfirst
  exact (Option.some.inj hfirst).symm

variable {page : Page}

theorem nodup_change (h : page.activeFilters.Nodup) (kind : DecisionEnum) :
    (page.change kind).activeFilters.Nodup := by
  simp only [change, applyFilters]
  split_ifs
  · exact nodup_insertLast h _
  · exact h.erase _

theorem Consistent.change (h : page.Consistent) (kind : DecisionEnum) : (page.change kind).Consistent where
  visible := by
    intro card hcard
    obtain ⟨before, -, rfl⟩ := List.mem_map.mp hcard
    rfl
  checked := by
    intro other
    change Function.update page.checked kind (!page.checked kind) other =
      decide (other.value ∈ if Function.update page.checked kind (!page.checked kind) kind = true
        then insertLast page.activeFilters kind.value else page.activeFilters.erase kind.value)
    rw [Function.update_self]
    by_cases hother : other = kind
    · subst hother
      rw [Function.update_self, h.checked]
      by_cases hmem : other.value ∈ page.activeFilters
      · simp [hmem, h.distinct.mem_erase_iff]
      · simp [hmem, mem_insertLast]
    · have hvalue : other.value ≠ kind.value := value_injective.ne hother
      rw [Function.update_of_ne hother, h.checked]
      split_ifs
      · simp [mem_insertLast, hvalue]
      · simp [List.mem_erase_of_ne hvalue]
  distinct := nodup_change h.distinct kind
  emptyState := by
    rw [show (page.change kind).cards.isEmpty = page.cards.isEmpty from List.isEmpty_map]
    exact h.emptyState
  totalCount := h.totalCount.trans (List.length_map _).symm
  countTexts := h.countTexts
  counted := h.counted
  numbered := by
    intro i card hcard
    obtain ⟨before, hbefore, rfl⟩ := Option.map_eq_some_iff.mp (List.getElem?_map.symm.trans hcard)
    exact h.numbered i before hbefore
  bounded := (List.length_map _).trans_le h.bounded

theorem capCards_eq (page : Page) : page.capCards =
    { page with
      seenRequestIds := page.capCards.seenRequestIds
      cards := page.cards.take maxCardsOnPage } := by
  fun_induction capCards page with
  | case1 page hmany ih =>
    have hcards : page.removeOldest.cards.take maxCardsOnPage = page.cards.take maxCardsOnPage := by
      rw [removeOldest_cards, List.dropLast_eq_take, List.take_take,
        Nat.min_eq_left (Nat.le_sub_one_of_lt hmany)]
    rw [hcards] at ih
    conv_lhs => rw [ih]
    unfold removeOldest
    split <;> rfl
  | case2 page hfew => rw [List.take_of_length_le (Nat.le_of_not_lt hfew)]

theorem counts_update (counts : DecisionEnum → Nat) (decision : DecisionEnum) :
    let after := Function.update counts decision (counts decision + 1)
    after .allowed + after .rejected + after .dbError =
      counts .allowed + counts .rejected + counts .dbError + 1 := by
  cases decision <;> simp <;> omega

theorem Consistent.addEntry (h : page.Consistent) (entry : Received) :
    (page.addEntry entry).Consistent := by
  rw [Page.addEntry]
  split_ifs
  · exact h
  · rw [capCards_eq]
    constructor
    · intro card hcard
      rcases List.mem_cons.mp (List.mem_of_mem_take hcard) with rfl | hold
      · rfl
      · exact h.visible card hold
    · exact h.checked
    · exact h.distinct
    · have hsome : ∃ n, maxCardsOnPage = n + 1 := ⟨499, LivePage.Page.maxCardsOnPage_eq_500⟩
      obtain ⟨n, hn⟩ := hsome
      simp only [updateCounts, withCard, hn, List.take_succ_cons, List.isEmpty_cons]
    · rfl
    · rfl
    · exact (counts_update page.counts entry.decision).trans (congrArg (· + 1) h.counted)
    · intro i card hcard
      have hcards : ((page.withCard entry).cards.take maxCardsOnPage)[i]? = some card := hcard
      have hmem : (page.withCard entry).cards[i]? = some card := by
        rw [List.getElem?_take] at hcards
        split_ifs at hcards
        exact hcards
      cases i with
      | zero =>
        cases hmem
        rfl
      | succ i => exact congrArg (· + 1) (h.numbered i card hmem)
    · exact List.length_take_le _ _

end Page

/-- Whatever messages come and whatever the reader of the page clicks, a card is visible iff the
filter of its outcome is set, and the boxes, the counters and the numbers of the cards are right. -/
theorem consistent_run (stored : Option (List Char)) (events : List Event) :
    (Tab.run stored events).page.Consistent := by
  have hfold : ∀ (events : List Event) (tab : Tab), tab.page.Consistent →
      (events.foldl Tab.handle tab).page.Consistent := by
    intro events
    induction events with
    | nil => exact fun _ h => h
    | cons event events ih =>
      intro tab h
      apply ih
      cases event with
      | message data =>
        simp only [Tab.handle, Page.onMessage]
        cases Received.parse data with
        | none => exact h
        | some entry => exact h.addEntry entry
      | change kind saved => exact h.change kind
      | reload => exact Page.consistent_load tab.stored
  exact hfold events (.start stored) (Page.consistent_load stored)

def unsaved (before : Bool) : Event → Bool
  | .message _ => before
  | .change _ saved => !saved
  | .reload => false

theorem loadFilters_storedText {kinds : List String} (h : kinds.Nodup) :
    loadFilters (some (storedText kinds)) = kinds := by
  have hencodable : (Json.Value.array (kinds.map .ofString)).isEncodable = true := by
    rw [Json.Value.isEncodable, Json.Value.all_array, List.all_map, List.all_eq_true]
    exact fun kind _ => Json.lenient_isEncodablePart.string kind
  have hstrict : (Json.Value.array (kinds.map .ofString)).isStrict = true := by
    rw [Json.Value.isStrict_array, List.all_map, List.all_eq_true]
    exact fun kind _ => Json.lenient_isStrictPart.string kind
  have hstrings : ((kinds.map Json.Value.ofString).map Json.Value.plain).filterMap
      Json.Value.string? = kinds := by
    rw [List.map_map, List.filterMap_map]
    exact (List.filterMap_congr fun kind _ => Json.Value.string?_plain_ofString kind).trans
      List.filterMap_some
  have hparse : Json.parse (storedText kinds) =
      some (.array ((kinds.map Json.Value.ofString).map Json.Value.plain)) := by
    rw [storedText, Json.parse_text _ (.inr hencodable), if_pos hstrict, Json.Value.plain_array]
  simp only [loadFilters, Option.bind_some, hparse, hstrings]
  exact foldl_insertLast kinds [] h

theorem activeFilters_addEntry (page : Page) (entry : Received) :
    (page.addEntry entry).activeFilters = page.activeFilters := by
  rw [Page.addEntry]
  split_ifs
  · rfl
  · rw [Page.capCards_eq]
    rfl

theorem activeFilters_onMessage (page : Page) (data : List Char) :
    (page.onMessage data).activeFilters = page.activeFilters := by
  rw [Page.onMessage]
  cases Received.parse data with
  | none => rfl
  | some entry => exact activeFilters_addEntry page entry

structure Saved (tab : Tab) (unsaved : Bool) : Prop where
  distinct : tab.page.activeFilters.Nodup
  stored : unsaved = false → loadFilters tab.stored = tab.page.activeFilters

theorem Saved.handle {tab : Tab} {before : Bool} (h : Saved tab before) (event : Event) :
    Saved (tab.handle event) (unsaved before event) := by
  cases event with
  | message data =>
    constructor
    · exact (activeFilters_onMessage tab.page data).symm ▸ h.distinct
    · exact fun hbefore => (h.stored hbefore).trans (activeFilters_onMessage tab.page data).symm
  | change kind saved =>
    have hdistinct : (tab.page.change kind).activeFilters.Nodup := Page.nodup_change h.distinct kind
    cases saved with
    | false => exact ⟨hdistinct, nofun⟩
    | true => exact ⟨hdistinct, fun _ => loadFilters_storedText hdistinct⟩
  | reload => exact ⟨Page.nodup_loadFilters tab.stored, fun _ => rfl⟩

theorem saved_run (stored : Option (List Char)) (events : List Event) :
    Saved (Tab.run stored events) (events.foldl unsaved false) := by
  induction events using List.reverseRecOn with
  | nil => exact ⟨Page.nodup_loadFilters stored, fun _ => rfl⟩
  | append_singleton events event ih =>
    rw [Tab.run, List.foldl_concat, List.foldl_concat]
    exact ih.handle event

/-- Unless the browser has not taken the last change, the page comes back with its filters. -/
theorem reload_restores (stored : Option (List Char)) {events : List Event}
    (h : events.foldl unsaved false = false) :
    (Tab.run stored (events ++ [.reload])).page.activeFilters =
      (Tab.run stored events).page.activeFilters := by
  rw [Tab.run, List.foldl_concat]
  exact (saved_run stored events).stored h

theorem reload_restores_twoChanges :
    (Tab.run none ([.change .allowed false, .change .rejected true] ++ [.reload])).page.activeFilters =
      ["db_error"] := by
  have hstored : [Event.change .allowed false, .change .rejected true].foldl unsaved false =
    false := rfl
  exact (reload_restores none hstored).trans rfl

def Received.of (entry : ObservabilityEntryDto) : Received where
  requestId := entry.requestId
  decision := entry.decision
  value := entry.toJsonPayload.plain

def eventData (entry : ObservabilityEntryDto) : List Char := entry.toJsonPayload.text ⟨true, false⟩

theorem ofValue_payload (entry : ObservabilityEntryDto) :
    Received.ofValue entry.toJsonPayload.plain = some (.of entry) := by
  have hpayload : entry.toJsonPayload.plain = .object (entry.items.map fun f => (f.1, f.2.plain)) :=
    Json.Value.plain_object _
  have hkeys (columns rows : Option Json.Value) : ((entry.leadingFields ++
      ([("columns", columns), ("rows", rows)] ++ entry.trailingFields)).map Prod.fst).Nodup := by
    have hnames : (entry.leadingFields ++ ([("columns", columns), ("rows", rows)] ++
        entry.trailingFields)).map Prod.fst = ["request_id", "decision", "redacted_query",
      "rejection_code", "rejection_detail", "db_error_message", "db_error_code", "duration_ms",
      "rows_affected", "rows_returned", "columns", "rows", "rows_were_truncated",
      "timestamp"] := rfl
    rw [hnames]
    decide
  have hrequestId : stringField (entry.items.map fun f => (f.1, f.2.plain)) "request_id" =
      some entry.requestId := ObservabilityEntryDto.stringField_plain (hkeys _ _) rfl
  have hdecision : stringField (entry.items.map fun f => (f.1, f.2.plain)) "decision" =
      some entry.decision.value := ObservabilityEntryDto.stringField_plain (hkeys _ _) rfl
  rw [hpayload]
  simp only [Received.ofValue, hrequestId, hdecision, ObservabilityEntryDto.decision_ofValue?,
    Option.bind_some, bind, pure, Received.of, hpayload]

theorem parse_eventData (entry : ObservabilityEntryDto) :
    Received.parse (eventData entry) = if isReadable entry then some (.of entry) else none := by
  rw [Received.parse, eventData, EventStream.parse_payload, EventStream.parsed]
  split_ifs
  · exact ofValue_payload entry
  · rfl

/-- The page without what the filters make of it. -/
structure Refines (page : Page) (live : LivePage.Page) : Prop where
  counts : page.counts = live.counts
  total : page.totalEverReceived = live.totalEverReceived
  seen : page.seenRequestIds = live.seenRequestIds
  cards : page.cards.map Card.entry = live.cards.map .of

variable {page : Page} {live : LivePage.Page}

theorem Refines.removeOldest (h : Refines page live) : Refines page.removeOldest live.removeOldest := by
  have hlast : page.cards.getLast?.map Card.entry = live.cards.getLast?.map .of := by
    rw [← List.getLast?_map, ← List.getLast?_map, h.cards]
  have hcards : page.cards.dropLast.map Card.entry = live.cards.dropLast.map .of := by
    rw [List.map_dropLast, List.map_dropLast, h.cards]
  cases holdest : live.cards.getLast? with
  | none =>
    rw [holdest, Option.map_none, Option.map_eq_none_iff] at hlast
    rw [Page.removeOldest, LivePage.Page.removeOldest, hlast, holdest]
    exact h
  | some oldest =>
    rw [holdest, Option.map_some, Option.map_eq_some_iff] at hlast
    obtain ⟨card, hcard, hentry⟩ := hlast
    have hrequestId : card.entry.requestId = oldest.requestId := congrArg Received.requestId hentry
    rw [Page.removeOldest, LivePage.Page.removeOldest, hcard, holdest]
    constructor
    · exact h.counts
    · exact h.total
    · simp only [hrequestId, h.seen]
    · exact hcards

theorem Refines.capCards (h : Refines page live) : Refines page.capCards live.capCards := by
  fun_induction Page.capCards page generalizing live with
  | case1 page hmany ih =>
    have hlength : page.cards.length = live.cards.length := by
      simpa using congrArg List.length h.cards
    rw [LivePage.Page.capCards, if_pos (hlength ▸ hmany)]
    exact ih h.removeOldest
  | case2 page hfew =>
    have hlength : page.cards.length = live.cards.length := by
      simpa using congrArg List.length h.cards
    rw [LivePage.Page.capCards, if_neg (hlength ▸ hfew)]
    exact h

theorem Refines.updateCounts (h : Refines page live) : Refines page.updateCounts live :=
  ⟨h.counts, h.total, h.seen, h.cards⟩

theorem Refines.change (h : Refines page live) (kind : DecisionEnum) :
    Refines (page.change kind) live where
  counts := h.counts
  total := h.total
  seen := h.seen
  cards := List.map_map.trans h.cards

theorem Refines.addEntry (h : Refines page live) (entry : ObservabilityEntryDto) :
    Refines (page.addEntry (.of entry)) (live.addEntry entry) := by
  by_cases hseen : entry.requestId ≠ "" ∧ entry.requestId ∈ live.seenRequestIds
  · have hknown : (Received.of entry).requestId ≠ "" ∧
        (Received.of entry).requestId ∈ page.seenRequestIds := h.seen ▸ hseen
    rw [Page.addEntry, LivePage.Page.addEntry, if_pos hseen, if_pos hknown]
    exact h
  · have hnew : ¬((Received.of entry).requestId ≠ "" ∧
        (Received.of entry).requestId ∈ page.seenRequestIds) := h.seen ▸ hseen
    rw [Page.addEntry, LivePage.Page.addEntry, if_neg hseen, if_neg hnew]
    apply Refines.updateCounts
    apply Refines.capCards
    constructor
    · simp only [Page.withCard, Received.of, h.counts]
    · exact congrArg (· + 1) h.total
    · simp only [Page.withCard, Received.of, h.seen]
    · exact congrArg (Received.of entry :: ·) h.cards

theorem Refines.onMessage (h : Refines page live) (entry : ObservabilityEntryDto) :
    Refines (page.onMessage (eventData entry)) (live.onMessage entry) := by
  rw [Page.onMessage, LivePage.Page.onMessage, parse_eventData]
  split_ifs
  · exact h.addEntry entry
  · exact h

theorem refines_load (stored : Option (List Char)) : Refines (.load stored) {} := ⟨rfl, rfl, rfl, rfl⟩

def messagesSince (read : List (List Char)) : Event → List (List Char)
  | .message data => read ++ [data]
  | .change _ _ => read
  | .reload => []

def messages (events : List Event) : List (List Char) := events.foldl messagesSince []

theorem cards_addEntry {page : Page} {entry : Received} {card : Card}
    (h : card ∈ (page.addEntry entry).cards) : card.entry = entry ∨ card ∈ page.cards := by
  rw [Page.addEntry] at h
  split_ifs at h
  · exact .inr h
  · rw [Page.capCards_eq] at h
    rcases List.mem_cons.mp (List.mem_of_mem_take h) with rfl | hold
    · exact .inl rfl
    · exact .inr hold

theorem cards_of_messages (stored : Option (List Char)) (events : List Event) :
    ∀ card ∈ (Tab.run stored events).page.cards,
      ∃ data ∈ messages events, Received.parse data = some card.entry := by
  induction events using List.reverseRecOn with
  | nil => exact fun card hcard => absurd hcard List.not_mem_nil
  | append_singleton events event ih =>
    rw [Tab.run, List.foldl_concat, messages, List.foldl_concat]
    intro card hcard
    cases event with
    | message data =>
      have hread : card ∈ ((Tab.run stored events).page.onMessage data).cards := hcard
      rw [Page.onMessage] at hread
      cases hparse : Received.parse data with
      | none =>
        rw [hparse] at hread
        obtain ⟨before, hbefore, hentry⟩ := ih card hread
        exact ⟨before, List.mem_append_left _ hbefore, hentry⟩
      | some entry =>
        rw [hparse] at hread
        cases cards_addEntry hread with
        | inl hnew => exact ⟨data, List.mem_concat_self, hnew ▸ hparse⟩
        | inr hold =>
          obtain ⟨before, hbefore, hentry⟩ := ih card hold
          exact ⟨before, List.mem_append_left _ hbefore, hentry⟩
    | change kind saved =>
      obtain ⟨before, hbefore, rfl⟩ := List.mem_map.mp hcard
      exact ih before hbefore
    | reload => exact absurd hcard List.not_mem_nil

theorem refines_run (stored : Option (List Char)) {events : List Event}
    {entries : List ObservabilityEntryDto} (h : messages events = entries.map eventData) :
    Refines (Tab.run stored events).page (entries.foldl LivePage.Page.onMessage {}) := by
  induction events using List.reverseRecOn generalizing entries with
  | nil =>
    cases List.map_eq_nil_iff.mp h.symm
    exact refines_load stored
  | append_singleton events event ih =>
    rw [messages, List.foldl_concat] at h
    rw [Tab.run, List.foldl_concat]
    cases event with
    | message data =>
      obtain ⟨before, last, rfl, hbefore, hlast⟩ := List.map_eq_append_iff.mp h.symm
      obtain ⟨entry, rfl, rfl⟩ := List.map_eq_singleton_iff.mp hlast
      rw [List.foldl_concat]
      exact (ih hbefore.symm).onMessage entry
    | change kind saved => exact (ih h).change kind
    | reload =>
      cases List.map_eq_nil_iff.mp h.symm
      exact refines_load _

/-- One connection after another: the generator that served it and what came through of its
stream. -/
abbrev Connections := List (SubscriberId × List Char)

def givenTo (s : EventStream.State) (id : SubscriberId) : List ObservabilityEntryDto :=
  s.entriesOf ((s.generator id).replayed ++ (s.recorder.subscriber id).received)

variable {s : EventStream.State}

theorem entries_of_cut {actions : List EventStream.Action}
    (hrun : Transition.Run EventStream.Step {} actions s) {id : SubscriberId} {text : List Char}
    (htext : text <+: s.stream id) :
    ∃ entries, entries <+: givenTo s id ∧ EventSource.messages text = entries.map eventData := by
  have hcut := EventStream.messages_of_cut s id htext
  rw [EventStream.messages_stream] at hcut
  obtain ⟨entries, hentries, hdata⟩ := List.prefix_map_iff.mp hcut
  have hevents : (s.generator id).events <+:
      (s.generator id).replayed ++ (s.recorder.subscriber id).received := by
    rw [← (EventStream.run_follows hrun id).sent, List.append_assoc]
    exact List.prefix_append _ _
  exact ⟨entries, hentries.trans (hevents.filterMap _), hdata⟩

theorem entries_of_cuts {actions : List EventStream.Action}
    (hrun : Transition.Run EventStream.Step {} actions s) {connections : Connections}
    (h : ∀ connection ∈ connections, connection.2 <+: s.stream connection.1) :
    ∃ sent, List.Forall₂ (fun connection entries => entries <+: givenTo s connection.1)
        connections sent ∧
      (connections.flatMap fun connection => EventSource.messages connection.2) =
        sent.flatten.map eventData := by
  induction connections with
  | nil => exact ⟨[], .nil, rfl⟩
  | cons connection connections ih =>
    obtain ⟨hfirst, hothers⟩ := List.forall_mem_cons.mp h
    obtain ⟨sent, hsent, hmessages⟩ := ih hothers
    obtain ⟨entries, hentries, hdata⟩ := entries_of_cut hrun hfirst
    refine ⟨entries :: sent, .cons hentries hsent, ?_⟩
    rw [List.flatMap_cons, hmessages, hdata, List.flatten_cons, List.map_append]

theorem givenTo_subset (s : EventStream.State) (id : SubscriberId) :
    givenTo s id ⊆ s.recorder.appended := by
  intro entry hentry
  obtain ⟨ticket, -, hticket⟩ := List.mem_filterMap.mp hentry
  exact List.mem_of_getElem? hticket

theorem subset_appended {connections : Connections} {sent : List (List ObservabilityEntryDto)}
    (h : List.Forall₂ (fun connection entries => entries <+: givenTo s connection.1)
      connections sent) : ∀ entry ∈ sent.flatten, entry ∈ s.recorder.appended := by
  induction h with
  | nil => exact fun entry hentry => absurd hentry List.not_mem_nil
  | cons hfirst _ ih =>
    intro entry hentry
    rw [List.flatten_cons, List.mem_append] at hentry
    exact hentry.elim (fun hmem => givenTo_subset s _ (hfirst.subset hmem)) (ih entry)

theorem cards_of_streams {actions : List EventStream.Action}
    (hrun : Transition.Run EventStream.Step {} actions s) {connections : Connections}
    (h : ∀ connection ∈ connections, connection.2 <+: s.stream connection.1)
    (stored : Option (List Char)) {events : List Event}
    (hevents : messages events = connections.flatMap fun connection =>
      EventSource.messages connection.2) :
    ∀ card ∈ (Tab.run stored events).page.cards,
      ∃ entry ∈ s.recorder.appended, card.entry = .of entry := by
  intro card hcard
  obtain ⟨data, hdata, hparse⟩ := cards_of_messages stored events card hcard
  obtain ⟨sent, hsent, hmessages⟩ := entries_of_cuts hrun h
  rw [hevents, hmessages] at hdata
  obtain ⟨entry, hentry, rfl⟩ := List.mem_map.mp hdata
  rw [parse_eventData] at hparse
  split_ifs at hparse
  exact ⟨entry, subset_appended hsent entry hentry, (Option.some.inj hparse).symm⟩

/-- However often the connection breaks and whatever is clicked, the page has what it would have
been told of an entry at a time: of each connection the entries given to it, up to where it
broke. -/
theorem page_of_streams {actions : List EventStream.Action}
    (hrun : Transition.Run EventStream.Step {} actions s) {connections : Connections}
    (h : ∀ connection ∈ connections, connection.2 <+: s.stream connection.1)
    (stored : Option (List Char)) {events : List Event}
    (hevents : messages events = connections.flatMap fun connection =>
      EventSource.messages connection.2) :
    ∃ sent, List.Forall₂ (fun connection entries => entries <+: givenTo s connection.1)
        connections sent ∧
      Refines (Tab.run stored events).page (sent.flatten.foldl LivePage.Page.onMessage {}) := by
  obtain ⟨sent, hsent, hmessages⟩ := entries_of_cuts hrun h
  exact ⟨sent, hsent, refines_run stored (hevents.trans hmessages)⟩

/-- The first entry comes, and then its card is hidden. -/
theorem page_of_streams_servedClient :
    let s := EventStream.servedClient (sampleEntry "first")
    ∃ sent, List.Forall₂ (fun connection entries => entries <+: givenTo s connection.1)
        [(0, s.stream 0)] sent ∧
      Refines (Tab.run none [.message (eventData (sampleEntry "first")), .change .allowed true]).page
        (sent.flatten.foldl LivePage.Page.onMessage {}) :=
  page_of_streams (EventStream.run_servedClient (sampleEntry "first"))
    (List.forall_mem_singleton.mpr (List.prefix_refl _)) none
    (by
      rw [List.flatMap_singleton, EventStream.messages_stream]
      rfl)

end SqlGateway.Http.FilteredPage
