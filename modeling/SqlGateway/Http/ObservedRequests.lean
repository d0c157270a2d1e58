import SqlGateway.Http.CaughtUpPage
import SqlGateway.Observability.AuditFile
import SqlGateway.Postgres.ConcurrentRequests

namespace SqlGateway.Http.ObservedRequests

open LivePage.Page (selectEntry)
open MultiSinkObservabilityRecorderAdapter (SinkId SinkKind Setup)
open ObservabilityEntryDto (readLines withoutResultData)
open Postgres.ConcurrentRequests
open Postgres.QueryExecutor (Statement Transactional)
open Transaction (Applied)

/-! What the page and the audit file say of the requests is what they did -/

variable {Connection Database Data ι : Type} [DecidableEq ι] {gateway : Gateway Connection Database}
  {access : Access Connection Database Data} {requests : ι → Request} {database : Database}
  {s : State Connection Database ι} {order : List (ι × Happening Data)}

def committedBy (order : List (ι × Happening Data)) (i : ι) : List (List (Applied Statement Data)) :=
  (Interleaving.eventsOf order i).filterMap Happening.transaction?

/-- An identifier and an outcome that are true of a request. -/
structure TrueOf (gateway : Gateway Connection Database)
    (access : Access Connection Database Data) (requests : ι → Request)
    (s : State Connection Database ι) (order : List (ι × Happening Data)) (requestId : String)
    (decision : DecisionEnum) (i : ι) : Prop where
  requestId : requestId = (requests i).requestId
  outcome : decision = .allowed ↔ committedBy order i ≠ []
  accepted : ∀ transaction ∈ committedBy order i, Commits gateway (requests i) transaction
  committed : committedBy order i ⊆ access.transactions s.shared.1

theorem committedBy_subset (h : InOrder gateway access requests database s order) (i : ι) :
    committedBy order i ⊆ access.transactions s.shared.1 := by
  have hevents : Interleaving.eventsOf order i ⊆ order.map Prod.snd :=
    List.map_subset _ (List.filter_subset_self _)
  rw [(log_of_inOrder h).1]
  exact fun transaction hmem =>
    List.mem_append_right _ (List.filterMap_subset _ hevents hmem)

theorem trueOf_recorded (h : InOrder gateway access requests database s order)
    {entry : ObservabilityEntryDto} (hentry : entry ∈ s.shared.2) :
    ∃ i, TrueOf gateway access requests s order entry.requestId entry.decision i := by
  rw [(log_of_inOrder h).2, mem_entries_iff] at hentry
  obtain ⟨i, hmem⟩ := hentry
  refine ⟨i, ?_⟩
  have htraced := (h.within i).always
  generalize hevents : Interleaving.eventsOf order i = events at hmem htraced
  cases htraced with
  | nothing => cases hmem
  | committed => cases List.mem_singleton.mp hmem
  | refused hrequestId hdecision =>
    cases List.mem_singleton.mp hmem
    have hnone : committedBy order i = [] := congrArg (List.filterMap _) hevents
    constructor
    · exact hrequestId
    · exact ⟨fun hallowed => absurd hallowed hdecision, fun hsome => absurd hnone hsome⟩
    · exact hnone ▸ nofun
    · exact hnone ▸ List.nil_subset _
  | @allowed transaction _ hcommits hrequestId hdecision =>
    have hone : committedBy order i = [transaction] := congrArg (List.filterMap _) hevents
    rcases List.mem_pair.mp hmem with hfirst | hsecond
    · cases hfirst
    · cases hsecond
      constructor
      · exact hrequestId
      · exact iff_of_true hdecision (hone ▸ List.cons_ne_nil _ _)
      · exact hone ▸ List.forall_mem_singleton.mpr hcommits
      · exact committedBy_subset h i

section Results

variable {connections : ι → Connection} {turns : List ι}

/-- Whatever requests interleave, whatever the connections to the page lose and whatever is clicked
there: a card is of a request, and it says allowed iff that request has committed its transaction. -/
theorem cards_true_of_requests (h : Transactional gateway.psycopg access.store gateway.Accepts)
    (hrun : Transition.Run (Interleaving.Step access.setting)
      (start gateway requests connections database) turns s)
    {actions : List EventStream.Action} {e : EventStream.State}
    (hstream : Transition.Run EventStream.Step {} actions e)
    (hrecorded : ∀ entry ∈ e.recorder.appended, entry ∈ s.shared.2)
    {cuts : FilteredPage.Connections} (hcuts : ∀ cut ∈ cuts, cut.2 <+: e.stream cut.1)
    (stored : Option (List Char)) {events : List FilteredPage.Event}
    (hevents : FilteredPage.messages events =
      cuts.flatMap fun cut => EventSource.messages cut.2) :
    ∃ order, InOrder gateway access requests database s order ∧
      ∀ card ∈ (FilteredPage.Tab.run stored events).page.cards,
        ∃ i, TrueOf gateway access requests s order card.entry.requestId card.entry.decision i := by
  obtain ⟨order, horder⟩ := exists_inOrder h hrun
  refine ⟨order, horder, fun card hcard => ?_⟩
  obtain ⟨entry, hentry, hcard⟩ :=
    FilteredPage.cards_of_streams hstream hcuts stored hevents card hcard
  rw [hcard]
  exact trueOf_recorded horder (hrecorded entry hentry)

def firstEntry : ObservabilityEntryDto := afterBoth.shared.2[0]?.getD (selectEntry "none")

theorem firstEntry_mem : firstEntry ∈ afterBoth.shared.2 :=
  List.mem_of_getElem? (rfl : afterBoth.shared.2[0]? = some firstEntry)

theorem cards_true_of_requests_afterBoth : ∃ order,
    InOrder counterGateway counterAccess deleteRequest [] afterBoth order ∧
      ∀ card ∈ (FilteredPage.Tab.run none
          [.change .allowed true, .message (FilteredPage.eventData firstEntry)]).page.cards,
        ∃ i, TrueOf counterGateway counterAccess deleteRequest afterBoth order card.entry.requestId
          card.entry.decision i := by
  obtain ⟨turns, hrun⟩ := run_afterBoth
  have hmessages : FilteredPage.messages
      [.change .allowed true, .message (FilteredPage.eventData firstEntry)] =
        [(0, (EventStream.servedClient firstEntry).stream 0)].flatMap fun cut =>
          EventSource.messages cut.2 := by
    rw [List.flatMap_singleton, EventStream.messages_stream]
    rfl
  exact cards_true_of_requests transactional_counter hrun (EventStream.run_servedClient firstEntry)
    (List.forall_mem_singleton.mpr firstEntry_mem)
    (List.forall_mem_singleton.mpr (List.prefix_refl _)) none hmessages

/-- So is a line of the audit file, also while it is being written. -/
theorem lines_true_of_requests (h : Transactional gateway.psycopg access.store gateway.Accepts)
    (hrun : Transition.Run (Interleaving.Step access.setting)
      (start gateway requests connections database) turns s)
    {setup : Setup} {locks : List MultiSinkObservabilityRecorderAdapter.Turn}
    {f : MultiSinkObservabilityRecorderAdapter.State}
    (hsinks : Transition.Run (MultiSinkObservabilityRecorderAdapter.Step setup) setup.initial locks f)
    (hrecorded : ∀ id, setup.entry id ∈ s.shared.2)
    (hfloat : ∀ id, ∀ ms ∈ (setup.entry id).durationMs, ms.IsFloat) {k : SinkId} {kind : SinkKind}
    (hkind : setup.sinks[k]? = some kind) (hwrites : kind.WritesLines) {text : List Char}
    (htext : text <+: (f.sink k).text) :
    ∃ order, InOrder gateway access requests database s order ∧ ∀ line ∈ readLines text,
      ∃ entry ∈ line, ∃ i, TrueOf gateway access requests s order entry.requestId entry.decision i := by
  obtain ⟨order, horder⟩ := exists_inOrder h hrun
  refine ⟨order, horder, fun line hline => ?_⟩
  rw [MultiSinkObservabilityRecorderAdapter.text_sink hsinks hkind hwrites] at htext
  rw [MultiSinkObservabilityRecorderAdapter.readLines_cut
    (List.forall_mem_map.mpr fun id _ => hfloat id) htext] at hline
  obtain ⟨entry, hentry, rfl⟩ := List.mem_map.mp (List.mem_of_mem_take hline)
  obtain ⟨id, -, rfl⟩ := List.mem_map.mp hentry
  obtain ⟨i, htrue⟩ := trueOf_recorded horder (hrecorded id)
  exact ⟨_, rfl, i, htrue⟩

def oneLine : Setup where
  sinks := [.jsonl true]
  calls := 1
  entry _ := firstEntry

def oneLineDone : MultiSinkObservabilityRecorderAdapter.State := oneLine.initial.turn oneLine 0 0 []

theorem lines_true_of_requests_oneLine : ∃ order,
    InOrder counterGateway counterAccess deleteRequest [] afterBoth order ∧
      ∀ line ∈ readLines (oneLineDone.sink 0).text, ∃ entry ∈ line,
        ∃ i, TrueOf counterGateway counterAccess deleteRequest afterBoth order entry.requestId
          entry.decision i := by
  obtain ⟨turns, hrun⟩ := run_afterBoth
  have hsinks : Transition.Run (MultiSinkObservabilityRecorderAdapter.Step oneLine) oneLine.initial
    [⟨0, 0⟩] oneLineDone := .snoc .nil (.turn rfl)
  have hfloat : ∀ ms ∈ firstEntry.durationMs, ms.IsFloat := by
    rintro _ ⟨⟩
    exact .inl (List.cons_ne_nil _ [])
  exact lines_true_of_requests transactional_counter hrun hsinks (fun _ => firstEntry_mem)
    (fun _ => hfloat) (k := 0) rfl (.inr rfl) (List.prefix_refl _)

end Results

/-- Of each request there is one entry at most, with its identifier. -/
structure EntriesOnce (requests : ι → Request) (order : List (ι × Happening Data)) : Prop where
  once : ∀ i, ((Interleaving.eventsOf order i).filterMap Happening.entry?).length ≤ 1
  requestId : ∀ i entry, Happening.recorded entry ∈ Interleaving.eventsOf order i →
    entry.requestId = (requests i).requestId

theorem entriesOnce_of_inOrder (h : InOrder gateway access requests database s order) :
    EntriesOnce requests order := by
  constructor
  · intro i
    have htraced := (h.within i).always
    generalize Interleaving.eventsOf order i = events at htraced ⊢
    cases htraced with
    | nothing => exact Nat.zero_le _
    | committed => exact Nat.zero_le _
    | refused => exact Nat.le_refl _
    | allowed => exact Nat.le_refl _
  · intro i entry hentry
    have htraced := (h.within i).always
    generalize Interleaving.eventsOf order i = events at htraced hentry
    cases htraced with
    | nothing => cases hentry
    | committed => cases List.mem_singleton.mp hentry
    | refused hrequestId =>
      cases List.mem_singleton.mp hentry
      exact hrequestId
    | allowed _ hrequestId =>
      rcases List.mem_pair.mp hentry with hfirst | hsecond
      · cases hfirst
      · cases hsecond
        exact hrequestId

theorem EntriesOnce.tail {i : ι} {happening : Happening Data}
    (h : EntriesOnce requests ((i, happening) :: order)) : EntriesOnce requests order := by
  have hsublist (j : ι) : (Interleaving.eventsOf order j).Sublist
      (Interleaving.eventsOf ((i, happening) :: order) j) :=
    ((List.sublist_cons_self _ _).filter _).map _
  constructor
  · exact fun j => ((hsublist j).filterMap _).length_le.trans (h.once j)
  · exact fun j entry hentry => h.requestId j entry ((hsublist j).subset hentry)

theorem EntriesOnce.nodup (h : EntriesOnce requests order)
    (hdistinct : Function.Injective fun i => (requests i).requestId) :
    (((order.map Prod.snd).filterMap Happening.entry?).map (·.requestId)).Nodup := by
  induction order with
  | nil => exact List.nodup_nil
  | cons event order ih =>
    obtain ⟨i, happening⟩ := event
    cases happening with
    | committed transaction => exact ih h.tail
    | recorded entry =>
      refine List.nodup_cons.mpr ⟨fun hmem => ?_, ih h.tail⟩
      obtain ⟨other, hother, hsame⟩ := List.mem_map.mp hmem
      obtain ⟨j, hj⟩ := mem_entries_iff.mp hother
      have hi : Interleaving.eventsOf ((i, Happening.recorded entry) :: order) i =
          .recorded entry :: Interleaving.eventsOf order i := by
        simp [Interleaving.eventsOf]
      have hrequest : j = i := by
        apply hdistinct
        calc (requests j).requestId = other.requestId := (h.tail.requestId j other hj).symm
          _ = entry.requestId := hsame
          _ = (requests i).requestId := h.requestId i entry (hi ▸ List.mem_cons_self)
      have honce := h.once i
      rw [hi] at honce
      have hnone := List.eq_nil_of_length_eq_zero (Nat.le_zero.mp (Nat.le_of_succ_le_succ honce))
      have hsome : other ∈ (Interleaving.eventsOf order i).filterMap Happening.entry? :=
        List.mem_filterMap.mpr ⟨.recorded other, hrequest ▸ hj, rfl⟩
      rw [hnone] at hsome
      cases hsome

section Responses

variable {connections : ι → Connection} {turns : List ι}

/-- A card with the identifier and the outcome of a response, and no other of that request. -/
structure HasCard (page : FilteredPage.Page) (requestId : String) (decision : DecisionEnum) :
    Prop where
  card : ∃ card ∈ page.cards, card.entry.requestId = requestId ∧ card.entry.decision = decision
  distinct : (page.cards.map fun card => card.entry.requestId).Nodup

/-- Whatever requests interleave: a page that has caught up has one card of each response, as long
as the ring has its entry. -/
theorem responses_have_cards (h : Transactional gateway.psycopg access.store gateway.Accepts)
    (hrun : Transition.Run (Interleaving.Step access.setting)
      (start gateway requests connections database) turns s)
    (hnamed : ∀ i, (requests i).requestId ≠ "")
    (hdistinct : Function.Injective fun i => (requests i).requestId)
    {actions : List EventStream.Action} {e : EventStream.State}
    (hstream : Transition.Run EventStream.Step {} actions e)
    (hrecorded : e.recorder.appended.Perm s.shared.2)
    {id : InMemoryObservabilityRecorderAdapter.SubscriberId}
    (hcaughtUp : CaughtUpPage.CaughtUp e id) (stored : Option (List Char))
    {events : List FilteredPage.Event}
    (hevents : FilteredPage.messages events = EventSource.messages (e.stream id)) :
    ∀ i result, s.thread i = .done (.ok result) →
      ∃ entry ∈ s.shared.2, entry.requestId = (requests i).requestId ∧
        (entry ∈ e.entriesOf e.recorder.entries → LivePage.isReadable entry = true →
          HasCard (FilteredPage.Tab.run stored events).page (requests i).requestId
            result.decision) := by
  obtain ⟨order, horder⟩ := exists_inOrder h hrun
  have honce := entriesOnce_of_inOrder horder
  have hentries := (log_of_inOrder horder).2
  have hnamed' : ∀ entry ∈ e.recorder.appended, entry.requestId ≠ "" := by
    intro entry hentry
    rw [hrecorded.mem_iff, hentries, mem_entries_iff] at hentry
    obtain ⟨j, hj⟩ := hentry
    rw [honce.requestId j entry hj]
    exact hnamed j
  have hdistinct' : (e.recorder.appended.map (·.requestId)).Nodup :=
    ((hrecorded.map _).nodup_iff).mpr (hentries ▸ honce.nodup hdistinct)
  have hmirrors := CaughtUpPage.page_mirrors_ring hstream hcaughtUp hnamed' hdistinct' stored hevents
  intro i result hdone
  have hwithin := horder.within i
  rw [hdone] at hwithin
  have hended := hwithin.2
  obtain ⟨entry, hmem, hrequestId, hdecision⟩ : ∃ entry,
      Happening.recorded entry ∈ Interleaving.eventsOf order i ∧
        entry.requestId = (requests i).requestId ∧ entry.decision = result.decision := by
    generalize Interleaving.eventsOf order i = events at hended ⊢
    cases hended with
    | refused hrequestId hdecision => exact ⟨_, List.mem_singleton_self _, hrequestId, hdecision⟩
    | allowed _ hrequestId hdecision =>
      exact ⟨_, List.mem_cons_of_mem _ (List.mem_singleton_self _), hrequestId, hdecision⟩
  refine ⟨entry, ?_, hrequestId, fun hring hreadable => ?_⟩
  · rw [hentries, mem_entries_iff]
    exact ⟨i, hmem⟩
  · refine ⟨?_, hmirrors.distinct⟩
    have hcard := hmirrors.suffix.subset
      (List.mem_map_of_mem (List.mem_filter.mpr ⟨hring, hreadable⟩))
    obtain ⟨card, hcards, hcard⟩ := List.mem_map.mp (List.mem_reverse.mp hcard)
    exact ⟨card, hcards, by rw [hcard]; exact hrequestId, by rw [hcard]; exact hdecision⟩

def afterOne : State Postgres.ConcurrentRequests.Pending
    (List Postgres.ConcurrentRequests.Pending) Unit :=
  (List.replicate 12 ()).foldl (Interleaving.State.turn counterAccess.setting)
    (start counterGateway (fun _ => deleteRequest 0) (fun _ => []) [])

def onlyEntry : ObservabilityEntryDto := afterOne.shared.2[0]?.getD (selectEntry "none")

theorem responses_have_cards_afterOne : ∃ entry ∈ afterOne.shared.2, entry.requestId = "0" ∧
    HasCard (FilteredPage.Tab.run none
      [.message (FilteredPage.eventData onlyEntry), .change .allowed true]).page "0" .allowed := by
  obtain ⟨turns, hrun⟩ : ∃ turns, Transition.Run (Interleaving.Step counterAccess.setting)
      (start counterGateway (fun _ : Unit => deleteRequest 0) (fun _ => []) []) turns afterOne :=
    Interleaving.run_turns _ _
  have hserved := EventStream.run_servedClient onlyEntry
  have hmessages : FilteredPage.messages
      [.message (FilteredPage.eventData onlyEntry), .change .allowed true] =
        EventSource.messages ((EventStream.servedClient onlyEntry).stream 0) := by
    rw [EventStream.messages_stream]
    rfl
  obtain ⟨entry, hentry, hrequestId, hcard⟩ := responses_have_cards transactional_counter hrun
    (fun _ => by decide) (fun _ _ _ => rfl) hserved (.refl _)
    (CaughtUpPage.caughtUp_servedClient onlyEntry) none hmessages () _ rfl
  have honly : entry = onlyEntry := List.mem_singleton.mp hentry
  refine ⟨entry, hentry, hrequestId, hcard ?_ ?_⟩
  · have hone : [onlyEntry].rtake InMemoryObservabilityRecorderAdapter.maxBufferedEntries =
        [onlyEntry] :=
      Replay.rtake_of_length_le InMemoryObservabilityRecorderAdapter.maxBufferedEntries_pos
    rw [honly, CaughtUpPage.ring_eq hserved]
    exact hone ▸ List.mem_singleton_self _
  · rw [honly]
    decide +kernel

end Responses

end SqlGateway.Http.ObservedRequests
