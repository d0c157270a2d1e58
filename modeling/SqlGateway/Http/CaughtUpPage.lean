import Mathlib.Data.List.Intervals
import Mathlib.Data.List.Sort
import SqlGateway.Http.Draining
import SqlGateway.Http.FilteredPage

namespace SqlGateway.Http.CaughtUpPage

open EventStream (Action Generator Recorder State Step Works)
open FilteredPage (Tab Event Received)
open InMemoryObservabilityRecorderAdapter (LoopId SubscriberId Ticket lastTickets maxBufferedEntries)
open LivePage (isReadable maxCardsOnPage maxCardsOnPage_eq)
open MultiSinkObservabilityRecorderAdapter (sampleEntry)

def Joined (recorder : Recorder) (id : SubscriberId) (generator : Generator) : Prop :=
  generator.phase = .streaming → ∃ appended, (recorder.subscriber id).registeredAt ≤ appended ∧
    appended ≤ recorder.appended.length ∧ generator.replayed = lastTickets appended

variable {s s' : State} {action : Action} {actions : List Action} {id : SubscriberId}

theorem joined_of_ne {recorder : Recorder} {generator : Generator}
    (h : generator.phase ≠ .streaming) : Joined recorder id generator :=
  fun hstreaming => absurd hstreaming h

theorem Joined.of_le {recorder recorder' : Recorder} {generator generator' : Generator}
    (h : Joined recorder id generator) (hphase : generator'.phase = generator.phase)
    (hreplayed : generator'.replayed = generator.replayed)
    (hregisteredAt : generator.phase = .streaming →
      (recorder'.subscriber id).registeredAt = (recorder.subscriber id).registeredAt)
    (happended : recorder.appended.length ≤ recorder'.appended.length) :
    Joined recorder' id generator' := by
  intro hstreaming
  rw [hphase] at hstreaming
  obtain ⟨appended, hregistered, hle, hsnapshot⟩ := h hstreaming
  rw [hregisteredAt hstreaming, hreplayed]
  exact ⟨appended, hregistered, Nat.le_trans hle happended, hsnapshot⟩

theorem joined_set {recorder : Recorder} {other : SubscriberId} {generator : Generator}
    (hs : ∀ id, Joined s.recorder id (s.generator id)) (hother : Joined recorder other generator)
    (hregisteredAt : ∀ id ≠ other,
      (recorder.subscriber id).registeredAt = (s.recorder.subscriber id).registeredAt)
    (happended : recorder.appended = s.recorder.appended) (id : SubscriberId) :
    Joined recorder id ((s.set recorder other generator).generator id) := by
  simp only [State.set, Function.update_apply]
  split_ifs with heq
  · exact heq ▸ hother
  · exact (hs id).of_le rfl rfl (fun _ => hregisteredAt id heq) (happended ▸ Nat.le_refl _)

theorem Joined.send {recorder recorder' : Recorder} {generator : Generator}
    (h : Joined recorder id generator) (frame : EventStream.Frame) (waiting : List Ticket)
    (hregisteredAt : (recorder'.subscriber id).registeredAt =
      (recorder.subscriber id).registeredAt)
    (happended : recorder'.appended = recorder.appended) :
    Joined recorder' id (generator.send frame waiting) :=
  h.of_le rfl rfl (fun _ => hregisteredAt) (happended ▸ Nat.le_refl _)

theorem joined_step (h : EventStream.Step s action s')
    (hknown : InMemoryObservabilityRecorderAdapter.Invariant s.recorder)
    (hregistered : ∀ id, (s.generator id).phase ≠ .ended → id < s.recorder.registered)
    (hs : ∀ id, Joined s.recorder id (s.generator id)) (id : SubscriberId) :
    Joined s'.recorder id (s'.generator id) := by
  cases h with
  | work _ hstep =>
    refine (hs id).of_le rfl rfl (fun hstreaming => ?_) hstep.appended_length_le
    exact (hstep.subscriber_frame (hregistered id (by rw [hstreaming]; nofun))).2
  | subscribe =>
    have hphase : ({ phase := .subscribed } : Generator).phase ≠ .streaming := nofun
    refine joined_set hs (joined_of_ne hphase) (fun id hid => ?_) ?_ id
    · exact congrArg _ (Function.update_of_ne hid _ _)
    · rfl
  | @snapshot other hphase =>
    have hlt : other < s.recorder.registered := hregistered other (by rw [hphase]; nofun)
    refine joined_set hs (fun _ => ?_) (fun _ _ => rfl) rfl id
    exact ⟨_, (hknown.counted other hlt).registeredAt_le, Nat.le_refl _, hknown.buffered.entries⟩
  | sendReplayed => exact joined_set hs ((hs _).send _ _ rfl rfl) (fun _ _ => rfl) rfl id
  | @sendLive other _ rest =>
    have hregisteredAt (id : SubscriberId) :
        ((s.recorder.take other rest).subscriber id).registeredAt =
          (s.recorder.subscriber id).registeredAt :=
      InMemoryObservabilityRecorderAdapter.read_update (·.registeredAt) (by rfl) id
    exact joined_set hs ((hs _).send _ _ (hregisteredAt other) rfl) (fun id _ => hregisteredAt id)
      rfl id
  | keepalive => exact joined_set hs ((hs _).send _ _ rfl rfl) (fun _ _ => rfl) rfl id
  | @stop other =>
    have hphase : (s.generator other).stop.phase ≠ .streaming := nofun
    exact joined_set hs (joined_of_ne hphase) (fun _ _ => rfl) rfl id

theorem recorder_invariant (h : Transition.Run EventStream.Step {} actions s) :
    InMemoryObservabilityRecorderAdapter.Invariant s.recorder := by
  obtain ⟨_, hrecorder⟩ := EventStream.recorder_run h
  exact InMemoryObservabilityRecorderAdapter.invariant_of_run hrecorder

theorem lt_registered (h : Transition.Run EventStream.Step {} actions s)
    (hphase : (s.generator id).phase ≠ .ended) : id < s.recorder.registered :=
  (recorder_invariant h).addressed.subscribers id
    ((EventStream.run_follows h id).subscribed.mpr hphase)

theorem run_joined (h : Transition.Run EventStream.Step {} actions s) :
    ∀ id, Joined s.recorder id (s.generator id) := by
  have hknown : ∀ {actions : List Action} {s : State},
      Transition.Run EventStream.Step {} actions s →
        InMemoryObservabilityRecorderAdapter.Invariant s.recorder ∧
          ∀ id, (s.generator id).phase ≠ .ended → id < s.recorder.registered :=
    fun hrun => ⟨recorder_invariant hrun, fun _ => lt_registered hrun⟩
  have hphase : ({} : Generator).phase ≠ .streaming := nofun
  exact h.invariant_of_reached hknown (fun _ => joined_of_ne hphase)
    fun _ _ _ hknown hs hstep => joined_step hstep hknown.1 hknown.2 hs

/-- Nothing was dropped, late, or pushed out of the ring between registering and the snapshot. -/
structure CaughtUp (s : State) (id : SubscriberId) : Prop extends Draining.Idle s id where
  streaming : (s.generator id).phase = .streaming
  isOpen : (s.recorder.subscriber id).loop ∉ s.recorder.closed
  kept : (s.recorder.subscriber id).dropped = []
  inOrder : (s.recorder.subscriber id).received.Pairwise (· < ·)
  prompt : ∀ first ∈ (s.generator id).replayed.head?,
    first ≤ (s.recorder.subscriber id).registeredAt

theorem lastTickets_eq (appended : Nat) :
    lastTickets appended = List.Ico (appended - maxBufferedEntries) appended := by
  rw [lastTickets, List.rtake, List.length_range, List.range_eq_range', List.drop_range', List.Ico]
  simp

theorem CaughtUp.received_eq (h : CaughtUp s id)
    (hrun : Transition.Run EventStream.Step {} actions s) :
    (s.recorder.subscriber id).received =
      List.Ico (s.recorder.subscriber id).registeredAt s.recorder.appended.length := by
  have hinvariant := recorder_invariant hrun
  have hphase : (s.generator id).phase ≠ .ended := by
    rw [h.streaming]
    nofun
  have hsubscribed := (EventStream.run_follows hrun id).subscribed.mpr hphase
  have hnoGap := hinvariant.noGap hsubscribed h.isOpen
  have hreceived := EventStream.received_of_counted
    (hinvariant.counted id (lt_registered hrun hphase))
  have hmem (ticket : Ticket) : ticket ∈ (s.recorder.subscriber id).received ↔
      ticket ∈ List.Ico (s.recorder.subscriber id).registeredAt s.recorder.appended.length := by
    rw [List.Ico.mem]
    constructor
    · intro hticket
      refine ⟨Nat.le_of_not_lt fun hlt => ?_, hreceived.2 ticket hticket⟩
      exact List.count_eq_zero.mp (hnoGap.early ticket hlt) hticket
    · rintro ⟨hle, hlt⟩
      rcases hnoGap.once ticket hle hlt (h.settled ticket) with ⟨hputs, -⟩ | ⟨-, hdrops⟩
      · exact List.count_pos_iff.mp (Nat.lt_of_lt_of_eq Nat.zero_lt_one hputs.symm)
      · rw [InMemoryObservabilityRecorderAdapter.Subscriber.drops, h.kept] at hdrops
        cases hdrops
  have hperm := (List.perm_ext_iff_of_nodup hreceived.1 (List.Ico.nodup _ _)).mpr hmem
  exact hperm.eq_of_pairwise' h.inOrder (List.Ico.pairwise_lt _ _)

/-- From the oldest entry of the snapshot to the newest entry, those of the snapshot that were put
into the queue as well twice. -/
theorem CaughtUp.events_eq (h : CaughtUp s id)
    (hrun : Transition.Run EventStream.Step {} actions s) :
    ∃ oldest registeredAt taken, oldest ≤ registeredAt ∧ registeredAt ≤ taken ∧
      taken ≤ s.recorder.appended.length ∧ taken ≤ oldest + maxBufferedEntries ∧
        oldest ≤ s.recorder.appended.length - maxBufferedEntries ∧
          (s.generator id).events = List.Ico oldest taken ++ List.Ico registeredAt taken ++
            List.Ico taken s.recorder.appended.length := by
  obtain ⟨taken, hregistered, hle, hreplayed⟩ := run_joined hrun id h.streaming
  have hsent := (EventStream.run_follows hrun id).sent
  rw [h.waiting, h.queue, List.append_nil, List.append_nil, hreplayed, lastTickets_eq,
    h.received_eq hrun, ← List.Ico.append_consecutive hregistered hle, ← List.append_assoc] at hsent
  have hprompt := h.prompt
  rw [hreplayed, lastTickets_eq] at hprompt
  refine ⟨taken - maxBufferedEntries, _, taken, ?_, hregistered, hle, ?_, ?_, hsent⟩
  · cases Nat.lt_or_ge (taken - maxBufferedEntries) taken with
    | inl hlt =>
      rw [List.Ico.eq_cons hlt] at hprompt
      exact hprompt _ rfl
    | inr hge =>
      have hpos := InMemoryObservabilityRecorderAdapter.maxBufferedEntries_pos
      omega
  · omega
  · omega

section Page

open LivePage (Page)

variable {page : Page} {entries : List ObservabilityEntryDto}

theorem onMessage_unseen (h : page.Kept) (hnamed : ∀ entry ∈ entries, entry.requestId ≠ "")
    (hdistinct : (entries.map (·.requestId)).Nodup)
    (hunseen : ∀ entry ∈ entries, entry.requestId ∉ page.requestIds) :
    (entries.foldl Page.onMessage page).Kept ∧
      (entries.foldl Page.onMessage page).created =
        page.created ++ entries.filter fun entry => isReadable entry := by
  induction entries generalizing page with
  | nil => exact ⟨h, (List.append_nil _).symm⟩
  | cons entry entries ih =>
    rw [List.forall_mem_cons] at hnamed hunseen
    rw [List.map_cons, List.nodup_cons] at hdistinct
    rw [List.foldl_cons, List.filter_cons]
    rcases h.onMessage_cases hnamed.1 with ⟨hsame, hread⟩ | ⟨hkept, hcreated, hread, -⟩
    · have hunreadable : ¬isReadable entry = true := fun hreadable =>
        hunseen.1 ((Replay.rtake_suffix _ _).subset (hread hreadable))
      rw [hsame, if_neg hunreadable]
      exact ih h hnamed.2 hdistinct.2 hunseen.2
    · rw [if_pos hread, List.append_cons, ← hcreated]
      refine ih hkept hnamed.2 hdistinct.2 fun other hother hmem => ?_
      rw [Page.requestIds, hcreated, List.map_append, List.mem_append] at hmem
      refine hmem.elim (hunseen.2 other hother) fun hsame => hdistinct.1 ?_
      have hrequestId : other.requestId = entry.requestId := List.mem_singleton.mp hsame
      rw [← hrequestId]
      exact List.mem_map_of_mem hother

theorem kept_onMessage (h : page.Kept) (hnamed : ∀ entry ∈ entries, entry.requestId ≠ "") :
    (entries.foldl Page.onMessage page).Kept := by
  induction entries generalizing page with
  | nil => exact h
  | cons entry entries ih =>
    rw [List.forall_mem_cons] at hnamed
    exact ih (h.onMessage hnamed.1) hnamed.2

theorem onMessage_seen (h : page.Kept) (hnamed : ∀ entry ∈ entries, entry.requestId ≠ "")
    (hseen : ∀ entry ∈ entries, isReadable entry = true →
      entry.requestId ∈ page.requestIds.rtake maxCardsOnPage) :
    entries.foldl Page.onMessage page = page := by
  induction entries with
  | nil => rfl
  | cons entry entries ih =>
    rw [List.forall_mem_cons] at hnamed hseen
    rcases h.onMessage_cases hnamed.1 with ⟨hsame, -⟩ | ⟨-, -, hread, hnew⟩
    · rw [List.foldl_cons, hsame]
      exact ih hnamed.2 hseen.2
    · exact absurd (hseen.1 hread) hnew

end Page

theorem entriesOf_Ico (s : State) (first last : Nat) :
    s.entriesOf (List.Ico first last) = (s.recorder.appended.drop first).take (last - first) := by
  rw [State.entriesOf, List.Ico]
  generalize last - first = count
  induction count generalizing first with
  | zero => rfl
  | succ count ih =>
    rw [List.range'_succ, List.filterMap_cons, ih]
    cases hentry : s.recorder.appended[first]? with
    | none =>
      rw [List.drop_eq_nil_of_le (List.getElem?_eq_none_iff.mp hentry),
        List.drop_eq_nil_of_le (Nat.le_succ_of_le (List.getElem?_eq_none_iff.mp hentry)),
        List.take_nil, List.take_nil]
    | some entry =>
      obtain ⟨hlt, rfl⟩ := List.getElem?_eq_some_iff.mp hentry
      rw [List.drop_eq_getElem_cons hlt, List.take_succ_cons]

theorem entriesOf_append (s : State) (first last : List Ticket) :
    s.entriesOf (first ++ last) = s.entriesOf first ++ s.entriesOf last := List.filterMap_append

theorem CaughtUp.cards_eq (h : CaughtUp s id)
    (hrun : Transition.Run EventStream.Step {} actions s)
    (hnamed : ∀ entry ∈ s.recorder.appended, entry.requestId ≠ "")
    (hdistinct : (s.recorder.appended.map (·.requestId)).Nodup) :
    ∃ oldest ≤ s.recorder.appended.length - maxBufferedEntries,
      ((s.entriesOf (s.generator id).events).foldl LivePage.Page.onMessage {}).cards.reverse =
        ((s.recorder.appended.drop oldest).filter fun entry => isReadable entry).rtake
          maxCardsOnPage := by
  obtain ⟨oldest, registeredAt, taken, holdest, hregistered, htaken, hfew, hold, hevents⟩ :=
    h.events_eq hrun
  have hsublist (first last : Nat) :
      (s.entriesOf (List.Ico first last)).Sublist s.recorder.appended := by
    rw [entriesOf_Ico]
    exact (List.take_sublist _ _).trans (List.drop_sublist _ _)
  have hnamed' (first last : Nat) :
      ∀ entry ∈ s.entriesOf (List.Ico first last), entry.requestId ≠ "" :=
    fun entry hentry => hnamed entry ((hsublist first last).subset hentry)
  have hall : s.entriesOf (List.Ico oldest taken) ++
      s.entriesOf (List.Ico taken s.recorder.appended.length) =
        s.recorder.appended.drop oldest := by
    rw [← entriesOf_append,
      List.Ico.append_consecutive (Nat.le_trans holdest hregistered) htaken, entriesOf_Ico,
      ← List.length_drop, List.take_length]
  have hdistinct' := hdistinct.sublist ((List.drop_sublist oldest _).map _)
  rw [← hall, List.map_append, List.nodup_append] at hdistinct'
  rw [hevents, entriesOf_append, entriesOf_append, List.foldl_append, List.foldl_append]
  -- the snapshot
  obtain ⟨hkept, hcreated⟩ := onMessage_unseen LivePage.Page.kept_initial (hnamed' oldest taken)
    hdistinct'.1 fun _ _ => List.not_mem_nil
  generalize (s.entriesOf (List.Ico oldest taken)).foldl LivePage.Page.onMessage {} = page
    at hkept hcreated ⊢
  have hcreated : page.created =
      (s.entriesOf (List.Ico oldest taken)).filter fun entry => isReadable entry := hcreated
  have hlength : page.requestIds.length ≤ maxCardsOnPage := by
    rw [LivePage.Page.requestIds, hcreated, List.length_map, maxCardsOnPage_eq]
    refine (List.length_filter_le _ _).trans ?_
    rw [entriesOf_Ico, List.length_take]
    omega
  -- what was put into the queue before the snapshot
  have hagain := onMessage_seen hkept (hnamed' registeredAt taken) fun entry hentry hread => by
    rw [Replay.rtake_of_length_le hlength, LivePage.Page.requestIds, hcreated]
    have hmem : entry ∈ s.entriesOf (List.Ico oldest taken) := by
      refine List.filterMap_subset _ (fun ticket hticket => ?_) hentry
      rw [List.Ico.mem] at hticket ⊢
      exact ⟨Nat.le_trans holdest hticket.1, hticket.2⟩
    exact List.mem_map_of_mem (List.mem_filter.mpr ⟨hmem, hread⟩)
  rw [hagain]
  -- and after it
  obtain ⟨hkept', hcreated'⟩ := onMessage_unseen hkept (hnamed' taken s.recorder.appended.length)
    hdistinct'.2.1 fun entry hentry hseen => by
      rw [LivePage.Page.requestIds, hcreated] at hseen
      exact hdistinct'.2.2 entry.requestId (List.map_subset _ (List.filter_subset_self _) hseen)
        entry.requestId (List.mem_map_of_mem hentry) rfl
  rw [hcreated, ← List.filter_append, hall] at hcreated'
  exact ⟨oldest, hold, by rw [hkept'.cards, hcreated', List.reverse_reverse]⟩

/-- The cards, oldest first, end with what the ring holds; if the browser can parse every entry
they are what the ring holds. -/
structure Mirrors (page : FilteredPage.Page) (s : State) : Prop where
  suffix : ((s.entriesOf s.recorder.entries).filter fun entry => isReadable entry).map .of <:+
    (page.cards.map FilteredPage.Card.entry).reverse
  whole : (∀ entry ∈ s.recorder.appended, isReadable entry = true) →
    (page.cards.map FilteredPage.Card.entry).reverse = (s.entriesOf s.recorder.entries).map .of
  distinct : (page.cards.map fun card => card.entry.requestId).Nodup

theorem entriesOf_lastTickets (s : State) :
    s.entriesOf (lastTickets s.recorder.appended.length) =
      s.recorder.appended.rtake maxBufferedEntries := by
  rw [lastTickets_eq, entriesOf_Ico, ← List.length_drop, List.take_length, List.rtake]

theorem ring_eq (hrun : Transition.Run EventStream.Step {} actions s) :
    s.entriesOf s.recorder.entries = s.recorder.appended.rtake maxBufferedEntries := by
  rw [(recorder_invariant hrun).buffered.entries]
  exact entriesOf_lastTickets s

/-- Whatever is clicked on it, the page of a client that has caught up shows what the server's
ring holds. -/
theorem page_mirrors_ring (hrun : Transition.Run EventStream.Step {} actions s)
    (hcaughtUp : CaughtUp s id) (hnamed : ∀ entry ∈ s.recorder.appended, entry.requestId ≠ "")
    (hdistinct : (s.recorder.appended.map (·.requestId)).Nodup) (stored : Option (List Char))
    {events : List Event}
    (hevents : FilteredPage.messages events = EventSource.messages (s.stream id)) :
    Mirrors (Tab.run stored events).page s := by
  have hmessages : FilteredPage.messages events =
      (s.entriesOf (s.generator id).events).map FilteredPage.eventData :=
    hevents.trans (EventStream.messages_stream s id)
  have hrefines := FilteredPage.refines_run stored hmessages
  obtain ⟨oldest, hold, hcards⟩ := hcaughtUp.cards_eq hrun hnamed hdistinct
  have hring := ring_eq hrun
  have hsuffix : s.recorder.appended.rtake maxBufferedEntries <:+
      s.recorder.appended.drop oldest := by
    rw [List.rtake]
    exact List.drop_suffix_drop_left _ hold
  constructor
  · rw [hrefines.cards, ← List.map_reverse, hcards, hring]
    apply List.IsSuffix.map
    apply Replay.suffix_rtake (hsuffix.filter _)
    rw [maxCardsOnPage_eq]
    exact (List.length_filter_le _ _).trans (Replay.length_rtake_le _ _)
  · intro hreadable
    rw [hrefines.cards, ← List.map_reverse, hcards, hring, List.filter_eq_self.mpr fun entry hentry =>
      hreadable entry (List.mem_of_mem_drop hentry), maxCardsOnPage_eq, List.rtake, List.rtake,
      List.drop_drop, List.length_drop]
    congr 2
    omega
  · have hnamed' : ∀ entry ∈ s.entriesOf (s.generator id).events, entry.requestId ≠ "" := by
      intro entry hentry
      obtain ⟨ticket, -, hticket⟩ := List.mem_filterMap.mp hentry
      exact hnamed entry (List.mem_of_getElem? hticket)
    have hrequestIds := congrArg (List.map Received.requestId) hrefines.cards
    rw [List.map_map, List.map_map] at hrequestIds
    exact hrequestIds ▸ (kept_onMessage LivePage.Page.kept_initial hnamed').distinct

theorem caughtUp_servedClient (entry : ObservabilityEntryDto) :
    CaughtUp (EventStream.servedClient entry) 0 where
  streaming := rfl
  waiting := rfl
  queue := rfl
  isOpen := Finset.notMem_empty _
  settled ticket := by
    refine ⟨?_, List.not_mem_nil⟩
    cases ticket with
    | zero => rfl
    | succ ticket => rfl
  kept := rfl
  inOrder := List.pairwise_singleton _ _
  prompt _ h := nomatch h

/-- The filter that hides the card leaves it on the page. -/
theorem page_mirrors_ring_servedClient :
    let s := EventStream.servedClient (sampleEntry "first")
    Mirrors (Tab.run none [.message (FilteredPage.eventData (sampleEntry "first")),
      .change .allowed true]).page s := by
  have hmessages : EventSource.messages ((EventStream.servedClient (sampleEntry "first")).stream 0) =
      [FilteredPage.eventData (sampleEntry "first")] := EventStream.messages_stream _ 0
  exact page_mirrors_ring (EventStream.run_servedClient (sampleEntry "first"))
    (caughtUp_servedClient _) (List.forall_mem_singleton.mpr (by decide)) (List.nodup_singleton _) none
    hmessages.symm

end SqlGateway.Http.CaughtUpPage
