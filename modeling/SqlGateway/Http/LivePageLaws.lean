import SqlGateway.Http.LivePage
import SqlGateway.Library.Replay

namespace SqlGateway.Http.LivePage

open InMemoryObservabilityRecorderAdapter (appendEntry putNowait maxBufferedEntries
  maxBufferedEntries_pos rtake_concat_rtake)

/-! The page shows the newest cards and knows their requests -/

namespace Page

def requestIds (page : Page) : List String := page.created.map (·.requestId)

structure Filed (page : Page) : Prop where
  seen : page.seenRequestIds = (page.cards.map (·.requestId)).toFinset
  named : ∀ card ∈ page.cards, card.requestId ≠ ""
  distinct : (page.cards.map (·.requestId)).Nodup
  counts : ∀ decision,
    page.counts decision = page.created.countP fun card => card.decision = decision
  total : page.totalEverReceived = page.created.length

structure Kept (page : Page) : Prop extends Filed page where
  cards : page.cards = (page.created.rtake maxCardsOnPage).reverse

theorem kept_initial : Kept {} where
  seen := rfl
  named _ h := absurd h List.not_mem_nil
  distinct := List.nodup_nil
  counts _ := rfl
  total := rfl
  cards := by rw [List.rtake_nil]; rfl

variable {page : Page} {entry : ObservabilityEntryDto}

theorem Kept.mem_seen (h : page.Kept) (requestId : String) :
    requestId ∈ page.seenRequestIds ↔ requestId ∈ page.requestIds.rtake maxCardsOnPage := by
  rw [h.seen, List.mem_toFinset, h.cards, List.map_reverse, List.mem_reverse, requestIds,
    List.rtake, List.rtake, List.map_drop, List.length_map]

theorem addEntry_seen (hseen : entry.requestId ∈ page.seenRequestIds)
    (hname : entry.requestId ≠ "") : page.addEntry entry = page := if_pos ⟨hname, hseen⟩

def withCard (page : Page) (entry : ObservabilityEntryDto) : Page where
  counts := Function.update page.counts entry.decision (page.counts entry.decision + 1)
  totalEverReceived := page.totalEverReceived + 1
  seenRequestIds := insert entry.requestId page.seenRequestIds
  cards := entry :: page.cards
  created := page.created ++ [entry]

theorem addEntry_new (hseen : entry.requestId ∉ page.seenRequestIds)
    (hname : entry.requestId ≠ "") : page.addEntry entry = (page.withCard entry).capCards := by
  rw [addEntry, if_neg (fun h => hseen h.2), if_neg hname]
  rfl

theorem capCards_of_le (h : page.cards.length ≤ maxCardsOnPage) : page.capCards = page := by
  rw [capCards, if_neg (Nat.not_lt.mpr h)]

theorem capCards_of_length_eq (h : page.cards.length = maxCardsOnPage + 1) :
    page.capCards = page.removeOldest := by
  have hlength : page.removeOldest.cards.length ≤ maxCardsOnPage := by
    rw [removeOldest_cards, List.length_dropLast, h]
    exact Nat.le_refl _
  rw [capCards, if_pos (h ▸ Nat.lt_succ_self _), capCards_of_le hlength]

theorem removeOldest_eq {cards : List ObservabilityEntryDto} {oldest : ObservabilityEntryDto}
    (hcards : page.cards = cards ++ [oldest]) (hname : oldest.requestId ≠ "") :
    page.removeOldest =
      { page with
        seenRequestIds := page.seenRequestIds.erase oldest.requestId
        cards } := by
  rw [removeOldest, hcards, List.getLast?_concat, List.dropLast_concat]
  exact congrArg (fun seenRequestIds => { page with seenRequestIds, cards }) (if_neg hname)

theorem removeOldest_created (page : Page) : page.removeOldest.created = page.created := by
  unfold removeOldest
  split
  · rfl
  · rfl

theorem toFinset_concat_erase {requestIds : List String} {requestId : String}
    (h : (requestIds ++ [requestId]).Nodup) :
    (requestIds ++ [requestId]).toFinset.erase requestId = requestIds.toFinset := by
  ext other
  simp only [Finset.mem_erase, List.mem_toFinset, List.mem_append, List.mem_singleton]
  constructor
  · intro hother
    exact hother.2.resolve_right hother.1
  · intro hother
    exact ⟨(List.nodup_append.mp h).2.2 other hother requestId List.mem_cons_self, .inl hother⟩

theorem Filed.removeOldest (h : page.Filed) : page.removeOldest.Filed := by
  cases List.eq_nil_or_concat page.cards with
  | inl hnil =>
    have hsame : page.removeOldest = page := by rw [Page.removeOldest, hnil, List.getLast?_nil]
    rw [hsame]
    exact h
  | inr hconcat =>
    obtain ⟨cards, oldest, hcards⟩ := hconcat
    rw [List.concat_eq_append] at hcards
    rw [removeOldest_eq hcards (h.named oldest (by rw [hcards]; simp))]
    have hdistinct := h.distinct
    rw [hcards, List.map_append] at hdistinct
    exact {
      seen := by
        change page.seenRequestIds.erase oldest.requestId = _
        rw [h.seen, hcards, List.map_append]
        exact toFinset_concat_erase hdistinct
      named := fun card hcard => h.named card (by rw [hcards]; exact List.mem_append_left _ hcard)
      distinct := (List.nodup_append.mp hdistinct).1
      counts := h.counts
      total := h.total }

theorem Filed.withCard (h : page.Filed) (hseen : entry.requestId ∉ page.seenRequestIds)
    (hname : entry.requestId ≠ "") : (page.withCard entry).Filed where
  seen := by
    rw [Page.withCard, List.map_cons, List.toFinset_cons, h.seen]
  named card hcard := by
    cases List.mem_cons.mp hcard with
    | inl heq => rw [heq]; exact hname
    | inr hcard => exact h.named card hcard
  distinct := by
    rw [h.seen, List.mem_toFinset] at hseen
    exact List.nodup_cons.mpr ⟨hseen, h.distinct⟩
  counts decision := by
    change Function.update page.counts entry.decision (page.counts entry.decision + 1) decision = _
    rw [Page.withCard, List.countP_append, ← h.counts, Function.update_apply]
    by_cases heq : decision = entry.decision
    · simp [heq]
    · simp [heq, Ne.symm heq]
  total := by
    rw [Page.withCard, h.total, List.length_append]
    rfl

/-- The `while` loop takes out the oldest card, if there is one too many. -/
theorem Kept.capCards (h : page.Kept) (hseen : entry.requestId ∉ page.seenRequestIds)
    (hname : entry.requestId ≠ "") : (page.withCard entry).capCards.Kept ∧
    (page.withCard entry).capCards.created = page.created ++ [entry] := by
  have hfiled := h.toFiled.withCard hseen hname
  have hwindow := rtake_concat_rtake (maxCardsOnPage_eq ▸ maxBufferedEntries_pos) page.created entry
  have hcards : (page.withCard entry).cards =
      (page.created.rtake maxCardsOnPage ++ [entry]).reverse := by
    rw [Page.withCard, h.cards, List.reverse_concat]
  have hlength : (page.withCard entry).cards.length =
      (page.created.rtake maxCardsOnPage ++ [entry]).length := by
    rw [hcards, List.length_reverse]
  cases Nat.lt_or_ge maxCardsOnPage (page.withCard entry).cards.length with
  | inr hle =>
    rw [capCards_of_le hle]
    refine ⟨{ hfiled with cards := ?_ }, rfl⟩
    rw [hlength] at hle
    change (page.withCard entry).cards = ((page.created ++ [entry]).rtake maxCardsOnPage).reverse
    rw [hcards, ← hwindow, Replay.rtake_of_length_le hle]
  | inl hlt =>
    have hfull : (page.withCard entry).cards.length = maxCardsOnPage + 1 := by
      refine Nat.le_antisymm ?_ hlt
      rw [hlength, List.length_append]
      exact Nat.succ_le_succ (Replay.length_rtake_le _ _)
    rw [capCards_of_length_eq hfull]
    refine ⟨{ hfiled.removeOldest with cards := ?_ }, removeOldest_created _⟩
    rw [hlength] at hfull
    rw [removeOldest_cards, removeOldest_created, hcards, List.dropLast_reverse,
      ← Replay.rtake_of_length_eq_succ hfull, hwindow]
    rfl

theorem Kept.addEntry_cases (h : page.Kept) (hname : entry.requestId ≠ "") :
    (entry.requestId ∈ page.seenRequestIds ∧ page.addEntry entry = page) ∨
      entry.requestId ∉ page.seenRequestIds ∧ (page.addEntry entry).Kept ∧
        (page.addEntry entry).created = page.created ++ [entry] := by
  by_cases hseen : entry.requestId ∈ page.seenRequestIds
  · exact .inl ⟨hseen, addEntry_seen hseen hname⟩
  · rw [addEntry_new hseen hname]
    exact .inr ⟨hseen, h.capCards hseen hname⟩

theorem Kept.onMessage_cases (h : page.Kept) (hname : entry.requestId ≠ "") :
    (page.onMessage entry = page ∧
        (isReadable entry = true → entry.requestId ∈ page.requestIds.rtake maxCardsOnPage)) ∨
      (page.onMessage entry).Kept ∧ (page.onMessage entry).created = page.created ++ [entry] ∧
        isReadable entry = true ∧ entry.requestId ∉ page.requestIds.rtake maxCardsOnPage := by
  rw [← h.mem_seen, onMessage]
  split_ifs with hreadable
  · cases h.addEntry_cases hname with
    | inl hseen => exact .inl ⟨hseen.2, fun _ => hseen.1⟩
    | inr hnew => exact .inr ⟨hnew.2.1, hnew.2.2, hreadable, hnew.1⟩
  · exact .inl ⟨rfl, fun hreads => absurd hreads hreadable⟩

theorem Kept.onMessage (h : page.Kept) (hname : entry.requestId ≠ "") :
    (page.onMessage entry).Kept := by
  cases h.onMessage_cases hname with
  | inl hsame => rw [hsame.1]; exact h
  | inr hnew => exact hnew.1

theorem Kept.created_onMessage (h : page.Kept) (hname : entry.requestId ≠ "") :
    (page.onMessage entry).created ⊆ page.created ++ [entry] := by
  cases h.onMessage_cases hname with
  | inl hsame => rw [hsame.1]; exact List.subset_append_left _ _
  | inr hnew => rw [hnew.2.1]; exact List.Subset.refl _

theorem Kept.requestIds_onMessage (h : page.Kept) (hname : entry.requestId ≠ "") :
    (page.onMessage entry).requestIds =
      if isReadable entry then Replay.present maxCardsOnPage page.requestIds entry.requestId
      else page.requestIds := by
  cases h.onMessage_cases hname with
  | inl hsame =>
    rw [hsame.1]
    split_ifs with hreadable
    · exact (Replay.present_of_mem (hsame.2 hreadable)).symm
    · rfl
  | inr hnew =>
    rw [if_pos hnew.2.2.1, Replay.present_of_not_mem hnew.2.2.2, requestIds, hnew.2.1,
      List.map_append]
    rfl

def addEntries (page : Page) (entries : List ObservabilityEntryDto) : Page :=
  entries.foldl addEntry page

def accepted (page : Page) : List ObservabilityEntryDto → List ObservabilityEntryDto
  | [] => []
  | entry :: entries =>
    if entry.requestId ≠ "" ∧ entry.requestId ∈ page.seenRequestIds then accepted page entries
    else entry :: accepted (page.addEntry entry) entries

theorem Kept.addEntries {entries : List ObservabilityEntryDto} (h : page.Kept)
    (hnamed : ∀ entry ∈ entries, entry.requestId ≠ "") :
    (page.addEntries entries).Kept ∧
      (page.addEntries entries).created = page.created ++ page.accepted entries := by
  induction entries generalizing page with
  | nil => exact ⟨h, (List.append_nil _).symm⟩
  | cons entry entries ih =>
    rw [List.forall_mem_cons] at hnamed
    rw [Page.addEntries, List.foldl_cons, accepted]
    cases h.addEntry_cases hnamed.1 with
    | inl hseen =>
      rw [hseen.2, if_pos ⟨hnamed.1, hseen.1⟩]
      exact ih h hnamed.2
    | inr hnew =>
      obtain ⟨hunseen, hkept, hcreated⟩ := hnew
      rw [if_neg (fun hseen => hunseen hseen.2)]
      refine ⟨(ih hkept hnamed.2).1, ?_⟩
      have happend := (ih hkept hnamed.2).2
      rw [hcreated, List.append_assoc] at happend
      exact happend

/-- What is on the page after some entries were accepted, the newest one last. -/
structure Shows (page : Page) (entries : List ObservabilityEntryDto) : Prop where
  seen : page.seenRequestIds = (page.cards.map (·.requestId)).toFinset
  bounded : page.cards.length ≤ 500
  ordered : page.cards.reverse <:+ entries
  newest : page.cards.head? = entries.getLast?

theorem maxCardsOnPage_eq_500 : maxCardsOnPage = 500 := by simp [maxCardsOnPage]

theorem Kept.shows (h : page.Kept) : page.Shows page.created where
  seen := h.seen
  bounded := by
    rw [h.cards, List.length_reverse, ← maxCardsOnPage_eq_500]
    exact Replay.length_rtake_le _ _
  ordered := by
    rw [h.cards, List.reverse_reverse]
    exact Replay.rtake_suffix _ _
  newest := by
    rw [h.cards, List.head?_reverse]
    exact Replay.getLast?_rtake (maxCardsOnPage_eq ▸ maxBufferedEntries_pos)

theorem shows_addEntries (entries : List ObservabilityEntryDto)
    (hnamed : ∀ entry ∈ entries, entry.requestId ≠ "") :
    (addEntries {} entries).Shows (accepted {} entries) := by
  obtain ⟨hkept, hcreated⟩ := kept_initial.addEntries hnamed
  have haccepted : (addEntries {} entries).created = accepted {} entries := hcreated
  rw [← haccepted]
  exact hkept.shows

def selectEntry (requestId : String) : ObservabilityEntryDto where
  requestId := requestId
  decision := .allowed
  redactedQuery := "SELECT %(1)s"
  timestamp := "2026-01-01T00:00:00+00:00"

/-- The second request comes again, as in a replay. -/
theorem shows_addEntries_replayed :
    (addEntries {} (["a", "b", "b", "c"].map selectEntry)).Shows
      (accepted {} (["a", "b", "b", "c"].map selectEntry)) :=
  shows_addEntries (["a", "b", "b", "c"].map selectEntry)
    (List.forall_mem_map.mpr (by decide : ∀ requestId ∈ ["a", "b", "b", "c"], requestId ≠ ""))

end Page

namespace Connection

/-- What the page gets before the live entries, and the live ones that are already sent. -/
def replayed (c : Connection) : List ObservabilityEntryDto := c.sent ++ c.replay.getD []

def waiting (c : Connection) : List ObservabilityEntryDto := c.queue ++ c.scheduled

variable {c : Connection} {entry : ObservabilityEntryDto} {rest : List ObservabilityEntryDto}

theorem waiting_schedule : (c.schedule entry).waiting = c.waiting ++ [entry] :=
  (List.append_assoc _ _ _).symm

theorem waiting_put (h : c.scheduled = entry :: rest) :
    (c.put entry rest).waiting.Sublist c.waiting := by
  rw [waiting, waiting, h, put, putNowait]
  split_ifs
  · exact (List.sublist_cons_self entry rest).append_left c.queue
  · rw [List.append_assoc]
    exact List.Sublist.refl _

theorem replayed_sendReplay (h : c.replay = some (entry :: rest)) :
    (c.sendReplay entry rest).replayed = c.replayed := by
  rw [replayed, replayed, h]
  exact List.append_assoc _ _ _

theorem replayed_sendLive (h : c.replay = some []) :
    (c.sendLive entry rest).replayed = c.replayed ++ [entry] := by
  rw [replayed, replayed, sendLive, h]
  simp

theorem waiting_sendLive (h : c.queue = entry :: rest) :
    c.waiting = entry :: (c.sendLive entry rest).waiting := by
  rw [waiting, h]
  rfl

theorem replayed_receive (h : c.sent = entry :: rest) :
    c.replayed = entry :: (c.receive rest).replayed := by
  rw [replayed, h]
  rfl

end Connection

structure Known (s : State) : Prop where
  distinct : (s.recorded.map (·.requestId)).Nodup
  named : ∀ entry ∈ s.recorded, entry.requestId ≠ ""
  entries : s.entries = s.recorded.rtake maxBufferedEntries
  page : s.page.Kept
  created : s.page.created ⊆ s.recorded
  replayed : ∀ c, s.connection = some c → c.replayed ⊆ s.recorded
  waiting : ∀ c, s.connection = some c → c.waiting ⊆ s.recorded

section

variable {s s' : State} {action : Action}

theorem known_initial : Known {} where
  distinct := List.nodup_nil
  named _ h := absurd h List.not_mem_nil
  entries := (List.rtake_nil _).symm
  page := Page.kept_initial
  created := List.nil_subset _
  replayed _ h := absurd h (Option.some_ne_none _).symm
  waiting _ h := absurd h (Option.some_ne_none _).symm

theorem Known.connect (h : Known s) {c : Connection} (hreplayed : c.replayed ⊆ s.recorded)
    (hwaiting : c.waiting ⊆ s.recorded) : Known (s.connect c) :=
  { h with
    replayed := fun _ heq => Option.some.inj heq ▸ hreplayed
    waiting := fun _ heq => Option.some.inj heq ▸ hwaiting }

theorem Known.setPage (h : Known s) {page : Page} (hkept : page.Kept)
    (hcreated : page.created ⊆ s.recorded) : Known { s with page } :=
  { h with
    page := hkept
    created := hcreated }

theorem Known.record (h : Known s) {entry : ObservabilityEntryDto} (hnew : s.IsNew entry) :
    Known (s.record entry) where
  distinct := by
    rw [State.record, List.map_append, List.nodup_append]
    refine ⟨h.distinct, List.nodup_singleton _, fun a ha b hb heq => hnew.2 ?_⟩
    rw [List.map_singleton, List.mem_singleton] at hb
    rw [← hb, ← heq]
    exact ha
  named other hother := by
    cases List.mem_append.mp hother with
    | inl hother => exact h.named other hother
    | inr hother => exact List.mem_singleton.mp hother ▸ hnew.1
  entries := by
    rw [State.record, appendEntry, h.entries]
    exact rtake_concat_rtake maxBufferedEntries_pos _ _
  page := h.page
  created := List.subset_append_of_subset_left _ h.created
  replayed _ hscheduled := by
    obtain ⟨c, hc, rfl⟩ := Option.map_eq_some_iff.mp hscheduled
    exact List.subset_append_of_subset_left _ (h.replayed c hc)
  waiting _ hscheduled := by
    obtain ⟨c, hc, rfl⟩ := Option.map_eq_some_iff.mp hscheduled
    rw [Connection.waiting_schedule]
    exact List.append_subset.mpr ⟨List.subset_append_of_subset_left _ (h.waiting c hc),
      List.subset_append_right _ _⟩

theorem Known.receive (h : Known s) {c : Connection} {entry : ObservabilityEntryDto}
    {rest : List ObservabilityEntryDto} (hc : s.connection = some c)
    (hsent : c.sent = entry :: rest) : Known (s.receive (c.receive rest) entry) := by
  have hreplayed := h.replayed c hc
  rw [Connection.replayed_receive hsent, List.cons_subset] at hreplayed
  have hname := h.named entry hreplayed.1
  have hentry : [entry] ⊆ s.recorded := List.cons_subset.mpr ⟨hreplayed.1, List.nil_subset _⟩
  have hcreated := List.Subset.trans (h.page.created_onMessage hname)
    (List.append_subset.mpr ⟨h.created, hentry⟩)
  exact (h.connect hreplayed.2 (h.waiting c hc)).setPage (h.page.onMessage hname) hcreated

theorem Step.known (h : Step s action s') (hs : Known s) : Known s' := by
  cases h with
  | record hnew => exact hs.record hnew
  | @put c entry rest hc hscheduled =>
    exact hs.connect (hs.replayed c hc)
      (List.Subset.trans (Connection.waiting_put hscheduled).subset (hs.waiting c hc))
  | subscribe => exact hs.connect (List.nil_subset _) (List.nil_subset _)
  | @snapshot c hc =>
    refine hs.connect (List.append_subset.mpr ⟨?_, ?_⟩) (hs.waiting c hc)
    · exact (List.append_subset.mp (hs.replayed c hc)).1
    · rw [hs.entries]
      exact (Replay.rtake_suffix _ _).subset
  | @sendReplay c entry rest hc hreplay =>
    refine hs.connect ?_ (hs.waiting c hc)
    rw [Connection.replayed_sendReplay hreplay]
    exact hs.replayed c hc
  | @sendLive c entry rest hc hreplay hqueue =>
    have hwaiting := hs.waiting c hc
    rw [Connection.waiting_sendLive hqueue, List.cons_subset] at hwaiting
    refine hs.connect ?_ hwaiting.2
    rw [Connection.replayed_sendLive hreplay]
    exact List.append_subset.mpr
      ⟨hs.replayed c hc, List.cons_subset.mpr ⟨hwaiting.1, List.nil_subset _⟩⟩
  | receive hc hsent => exact hs.receive hc hsent
  | disconnect =>
    exact { hs with
      replayed := fun _ h => absurd h (Option.some_ne_none _).symm
      waiting := fun _ h => absurd h (Option.some_ne_none _).symm }

theorem run_known {actions : List Action} (h : Transition.Run Step {} actions s) : Known s :=
  h.invariant known_initial fun _ _ _ hs hstep => hstep.known hs

end

end SqlGateway.Http.LivePage
