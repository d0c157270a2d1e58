import Mathlib.Data.Finset.Card
import SqlGateway.Http.Observability
import SqlGateway.Observability.FanOut

namespace SqlGateway.Http.LivePage

open InMemoryObservabilityRecorderAdapter (appendEntry putNowait maxBufferedEntries
  maxBufferedEntries_pos rtake_concat_rtake)

-- sealed, so that no conversion counts to it
@[irreducible] def maxCardsOnPage : Nat := 500

theorem maxCardsOnPage_eq : maxCardsOnPage = maxBufferedEntries := by
  simp [maxCardsOnPage, maxBufferedEntries]

/-- The `state` of the script and the cards in `mainEl`, the newest one first. The field after
the gap has every card there has been: nothing reads it. -/
structure Page where
  counts : DecisionEnum → Nat := fun _ => 0
  totalEverReceived : Nat := 0
  seenRequestIds : Finset String := ∅
  cards : List ObservabilityEntryDto := []

  created : List ObservabilityEntryDto := []

namespace Page

/-- One turn of the `while` loop of `addEntry`. -/
def removeOldest (page : Page) : Page :=
  match page.cards.getLast? with
  | none => page
  | some oldest =>
    { page with
      seenRequestIds :=
        if oldest.requestId = "" then page.seenRequestIds
        else page.seenRequestIds.erase oldest.requestId
      cards := page.cards.dropLast }

theorem removeOldest_cards (page : Page) : page.removeOldest.cards = page.cards.dropLast := by
  unfold removeOldest
  split
  · next h => rw [List.getLast?_eq_none_iff.mp h]; rfl
  · rfl

def capCards (page : Page) : Page :=
  if maxCardsOnPage < page.cards.length then capCards page.removeOldest else page
termination_by page.cards.length
decreasing_by
  rw [removeOldest_cards, List.length_dropLast]
  exact Nat.sub_one_lt_of_lt ‹_›

/-- The three decisions are the keys of `counts`. -/
def addEntry (page : Page) (entry : ObservabilityEntryDto) : Page :=
  if entry.requestId ≠ "" ∧ entry.requestId ∈ page.seenRequestIds then page
  else capCards
    { counts := Function.update page.counts entry.decision (page.counts entry.decision + 1)
      totalEverReceived := page.totalEverReceived + 1
      seenRequestIds :=
        if entry.requestId = "" then page.seenRequestIds
        else insert entry.requestId page.seenRequestIds
      cards := entry :: page.cards
      created := page.created ++ [entry] }

end Page

/-- Whether `JSON.parse` takes the data of the entry's event. -/
def isReadable (entry : ObservabilityEntryDto) : Bool :=
  Json.accepts (entry.toJsonPayload.text ⟨true, false⟩)

/-- `source.onmessage`, which drops what does not parse. -/
def Page.onMessage (page : Page) (entry : ObservabilityEntryDto) : Page :=
  if isReadable entry then page.addEntry entry else page

structure Connection where
  /-- The callbacks of `deliver` that the event loop has still to run. -/
  scheduled : List ObservabilityEntryDto := []
  queue : List ObservabilityEntryDto := []
  /-- What is still to be sent of the snapshot, once it is taken. -/
  replay : Option (List ObservabilityEntryDto) := none
  /-- Events on their way to the page. -/
  sent : List ObservabilityEntryDto := []

namespace Connection

variable (c : Connection) (entry : ObservabilityEntryDto) (rest : List ObservabilityEntryDto)

def schedule : Connection := { c with scheduled := c.scheduled ++ [entry] }

/-- `_put_if_possible`. -/
def put : Connection := { c with scheduled := rest, queue := putNowait c.queue entry }

def takeSnapshot (entries : List ObservabilityEntryDto) : Connection :=
  { c with replay := some entries }

def sendReplay : Connection := { c with replay := some rest, sent := c.sent ++ [entry] }

def sendLive : Connection := { c with queue := rest, sent := c.sent ++ [entry] }

def receive : Connection := { c with sent := rest }

end Connection

/-- `entries` is the ring. `recorded` is every entry so far: no part of the program reads it. -/
structure State where
  entries : List ObservabilityEntryDto := []
  connection : Option Connection := none
  page : Page := {}

  recorded : List ObservabilityEntryDto := []

namespace State

def record (s : State) (entry : ObservabilityEntryDto) : State :=
  { s with
    entries := appendEntry s.entries entry
    connection := s.connection.map fun c => c.schedule entry
    recorded := s.recorded ++ [entry] }

def connect (s : State) (connection : Connection) : State := { s with connection }

def disconnect (s : State) : State := { s with connection := none }

def receive (s : State) (connection : Connection) (entry : ObservabilityEntryDto) : State :=
  { s with connection, page := s.page.onMessage entry }

end State

inductive Action
  | record (entry : ObservabilityEntryDto)
  | put | subscribe | snapshot | send | receive | disconnect

/-- The entries of different requests have different UUIDs. -/
def State.IsNew (s : State) (entry : ObservabilityEntryDto) : Prop :=
  entry.requestId ≠ "" ∧ entry.requestId ∉ s.recorded.map (·.requestId)

/-- Worker threads, `event_generator`, the network and the page, one atomic part at a time. -/
inductive Step : State → Action → State → Prop
  | record {s : State} {entry : ObservabilityEntryDto} :
    s.IsNew entry → Step s (.record entry) (s.record entry)
  | put {s : State} {c : Connection} {entry : ObservabilityEntryDto}
      {rest : List ObservabilityEntryDto} :
    s.connection = some c → c.scheduled = entry :: rest →
    Step s .put (s.connect (c.put entry rest))
  | subscribe {s : State} : s.connection = none → Step s .subscribe (s.connect {})
  | snapshot {s : State} {c : Connection} : s.connection = some c → c.replay = none →
    Step s .snapshot (s.connect (c.takeSnapshot s.entries))
  | sendReplay {s : State} {c : Connection} {entry : ObservabilityEntryDto}
      {rest : List ObservabilityEntryDto} :
    s.connection = some c → c.replay = some (entry :: rest) →
    Step s .send (s.connect (c.sendReplay entry rest))
  | sendLive {s : State} {c : Connection} {entry : ObservabilityEntryDto}
      {rest : List ObservabilityEntryDto} :
    s.connection = some c → c.replay = some [] → c.queue = entry :: rest →
    Step s .send (s.connect (c.sendLive entry rest))
  | receive {s : State} {c : Connection} {entry : ObservabilityEntryDto}
      {rest : List ObservabilityEntryDto} :
    s.connection = some c → c.sent = entry :: rest →
    Step s .receive (s.receive (c.receive rest) entry)
  | disconnect {s : State} {c : Connection} : s.connection = some c →
    Step s .disconnect s.disconnect

def State.requests (s : State) (decision : DecisionEnum) : Finset String :=
  ((s.recorded.filter fun entry => entry.decision = decision).map (·.requestId)).toFinset

structure EachOnce (s : State) : Prop where
  cards : ∀ requestId, (s.page.created.map (·.requestId)).count requestId ≤ 1
  counts : ∀ decision, s.page.counts decision ≤ (s.requests decision).card

end SqlGateway.Http.LivePage
