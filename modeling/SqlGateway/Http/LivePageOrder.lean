import SqlGateway.Http.LivePageLaws

namespace SqlGateway.Http.LivePage

open InMemoryObservabilityRecorderAdapter (appendEntry putNowait maxBufferedEntries
  maxPerSubscriberQueueSize)

def readableIds (entries : List ObservabilityEntryDto) : List String :=
  (entries.filter isReadable).map (·.requestId)

theorem readableIds_append (first second : List ObservabilityEntryDto) :
    readableIds (first ++ second) = readableIds first ++ readableIds second := by
  rw [readableIds, List.filter_append, List.map_append]
  rfl

theorem readableIds_cons (entry : ObservabilityEntryDto) (rest : List ObservabilityEntryDto) :
    readableIds (entry :: rest) =
      if isReadable entry then entry.requestId :: readableIds rest else readableIds rest := by
  rw [readableIds, List.filter_cons]
  split_ifs
  · rfl
  · rfl

theorem readableIds_sublist {first second : List ObservabilityEntryDto}
    (h : first.Sublist second) : (readableIds first).Sublist (readableIds second) :=
  (h.filter _).map _

/-- When the snapshot is taken, an entry in the ring that is older than one which the page has
shown has been shown itself, and the entries that wait for the connection are in the ring. -/
def OnTime (s : State) : Action → Prop
  | .snapshot =>
    (∀ older ∈ readableIds s.entries, ∀ shown ∈ s.page.requestIds,
        [older, shown].Sublist (readableIds s.recorded) → older ∈ s.page.requestIds) ∧
      ∀ c, s.connection = some c → readableIds c.waiting ⊆ readableIds s.entries
  | _ => True

def StepOnTime (s : State) (action : Action) (s' : State) : Prop :=
  Step s action s' ∧ OnTime s action

/-- Before the snapshot nothing is sent; from then on the page is fed in order. -/
structure Connection.InOrder (c : Connection) (published shown : List String) : Prop where
  idle : c.replay = none → c.sent = []
  fed : c.replay ≠ none → ∃ rest live, readableIds c.replayed = rest ++ live ∧
    Replay.Ordered maxCardsOnPage published shown rest (live ++ readableIds c.waiting)

structure InOrder (s : State) : Prop where
  shown : s.page.requestIds.Sublist (readableIds s.recorded)
  connected : ∀ c, s.connection = some c →
    c.InOrder (readableIds s.recorded) s.page.requestIds

section

variable {s s' : State} {action : Action} {c : Connection} {entry : ObservabilityEntryDto}
  {rest : List ObservabilityEntryDto}

theorem Known.readableIds_nodup (h : Known s) : (readableIds s.recorded).Nodup :=
  h.distinct.sublist (List.filter_sublist.map _)

theorem inOrder_initial : InOrder {} where
  shown := List.Sublist.refl _
  connected _ h := absurd h (Option.some_ne_none _).symm

theorem InOrder.of_connection (hc : s.connection = some c)
    (hshown : s.page.requestIds.Sublist (readableIds s.recorded))
    (hconnected : c.InOrder (readableIds s.recorded) s.page.requestIds) : InOrder s where
  shown := hshown
  connected other hother := by
    obtain rfl : c = other := Option.some.inj (hc.symm.trans hother)
    exact hconnected

theorem InOrder.connect (h : InOrder s)
    (hc : c.InOrder (readableIds s.recorded) s.page.requestIds) : InOrder (s.connect c) :=
  .of_connection rfl h.shown hc

theorem Connection.InOrder.schedule {published shown : List String}
    (h : c.InOrder published shown) (entry : ObservabilityEntryDto) :
    (c.schedule entry).InOrder (published ++ readableIds [entry]) shown where
  idle := h.idle
  fed hreplay := by
    obtain ⟨rest, live, heq, hordered⟩ := h.fed hreplay
    refine ⟨rest, live, heq, ?_⟩
    rw [waiting_schedule, readableIds_append, ← List.append_assoc, readableIds_cons]
    split_ifs
    · exact hordered.publish entry.requestId
    · rw [readableIds, List.filter_nil, List.map_nil, List.append_nil, List.append_nil]
      exact hordered

theorem Connection.InOrder.put {published shown : List String} (h : c.InOrder published shown)
    (hscheduled : c.scheduled = entry :: rest) : (c.put entry rest).InOrder published shown where
  idle := h.idle
  fed hreplay := by
    obtain ⟨replay, live, heq, hordered⟩ := h.fed hreplay
    have hwaiting := readableIds_sublist (waiting_put hscheduled)
    exact ⟨replay, live, heq, hordered.drop (hwaiting.append_left live)⟩

theorem Connection.InOrder.sendReplay {published shown : List String}
    (h : c.InOrder published shown) (hreplay : c.replay = some (entry :: rest)) :
    (c.sendReplay entry rest).InOrder published shown where
  idle hnone := absurd hnone (Option.some_ne_none _)
  fed _ := by
    rw [replayed_sendReplay hreplay]
    exact h.fed (hreplay ▸ Option.some_ne_none _)

theorem Connection.InOrder.sendLive {published shown : List String}
    (h : c.InOrder published shown) (hreplay : c.replay = some [])
    (hqueue : c.queue = entry :: rest) : (c.sendLive entry rest).InOrder published shown where
  idle hnone := absurd (hreplay.symm.trans hnone) (Option.some_ne_none _)
  fed _ := by
    obtain ⟨replay, live, heq, hordered⟩ := h.fed (hreplay ▸ Option.some_ne_none _)
    refine ⟨replay, live ++ readableIds [entry], ?_, ?_⟩
    · rw [replayed_sendLive hreplay, readableIds_append, heq, List.append_assoc]
    · rw [List.append_assoc, ← readableIds_append]
      rw [waiting_sendLive hqueue] at hordered
      exact hordered

theorem InOrder.record (h : InOrder s) (entry : ObservabilityEntryDto) :
    InOrder (s.record entry) where
  shown := by
    rw [State.record, readableIds_append]
    exact List.sublist_append_of_sublist_left h.shown
  connected _ hscheduled := by
    obtain ⟨c, hc, rfl⟩ := Option.map_eq_some_iff.mp hscheduled
    rw [State.record, readableIds_append]
    exact (h.connected c hc).schedule entry

/-- The subscriber's entries come from the ring or are newer than it. -/
theorem InOrder.snapshot (hs : Known s) (h : InOrder s) (hc : s.connection = some c)
    (hreplay : c.replay = none) (hlate : OnTime s .snapshot) :
    InOrder (s.connect (c.takeSnapshot s.entries)) := by
  have hsent := (h.connected c hc).idle hreplay
  refine h.connect ⟨fun _ => hsent, fun _ => ⟨readableIds s.entries, [], ?_, ?_⟩⟩
  · rw [Connection.replayed, Connection.takeSnapshot, hsent]
    exact (List.append_nil _).symm
  · have hsuffix : readableIds s.entries <:+ readableIds s.recorded := by
      rw [hs.entries]
      exact ((Replay.rtake_suffix _ _).filter _).map _
    have hlength : (readableIds s.entries).length ≤ maxCardsOnPage := by
      rw [readableIds, List.length_map, maxCardsOnPage_eq, hs.entries]
      exact (List.length_filter_le _ _).trans (Replay.length_rtake_le _ _)
    exact .start h.shown hsuffix hlength (hlate.2 c hc) hlate.1

theorem InOrder.receive (hs : Known s) (h : InOrder s) (hc : s.connection = some c)
    (hsent : c.sent = entry :: rest) : InOrder (s.receive (c.receive rest) entry) := by
  have hentry : entry ∈ s.recorded := by
    refine hs.replayed c hc ?_
    rw [Connection.replayed_receive hsent]
    exact List.mem_cons_self
  have hpage := hs.page.requestIds_onMessage (hs.named entry hentry)
  rw [State.receive]
  generalize s.page.onMessage entry = page at hpage ⊢
  have hreplay : c.replay ≠ none := fun hnone =>
    List.cons_ne_nil entry rest (hsent.symm.trans ((h.connected c hc).idle hnone))
  obtain ⟨replay, live, heq, hordered⟩ := (h.connected c hc).fed hreplay
  rw [Connection.replayed_receive hsent, readableIds_cons] at heq
  suffices hfed : ∃ replay live, readableIds (c.receive rest).replayed = replay ++ live ∧
      Replay.Ordered maxCardsOnPage (readableIds s.recorded) page.requestIds replay
        (live ++ readableIds c.waiting) by
    obtain ⟨replay, live, heq, hordered⟩ := hfed
    exact .of_connection rfl hordered.shown_sublist
      ⟨fun hnone => absurd hnone hreplay, fun _ => ⟨replay, live, heq, hordered⟩⟩
  rw [hpage]
  split_ifs at heq ⊢ with hreadable
  · cases replay with
    | cons requestId replay =>
      obtain ⟨rfl, htail⟩ := List.cons.inj heq
      exact ⟨replay, live, htail, hordered.replayed hs.readableIds_nodup⟩
    | nil =>
      rw [List.nil_append] at heq
      rw [← heq] at hordered
      exact ⟨[], readableIds (c.receive rest).replayed, rfl,
        hordered.delivered hs.readableIds_nodup⟩
  · exact ⟨replay, live, heq, hordered⟩

theorem StepOnTime.inOrder (h : StepOnTime s action s') (hs : Known s) (hordered : InOrder s) :
    InOrder s' := by
  obtain ⟨hstep, hlate⟩ := h
  cases hstep with
  | record => exact hordered.record _
  | put hc hscheduled => exact hordered.connect ((hordered.connected _ hc).put hscheduled)
  | subscribe =>
    exact hordered.connect ⟨fun _ => rfl, fun hreplay => absurd rfl hreplay⟩
  | snapshot hc hreplay => exact hordered.snapshot hs hc hreplay hlate
  | sendReplay hc hreplay => exact hordered.connect ((hordered.connected _ hc).sendReplay hreplay)
  | sendLive hc hreplay hqueue =>
    exact hordered.connect ((hordered.connected _ hc).sendLive hreplay hqueue)
  | receive hc hsent => exact hordered.receive hs hc hsent
  | disconnect =>
    exact { shown := hordered.shown, connected := fun _ h => absurd h (Option.some_ne_none _).symm }

theorem run_inOrder {actions : List Action} (h : Transition.Run StepOnTime {} actions s) :
    InOrder s :=
  h.invariant_of_reached (fun hrun => run_known (hrun.mono fun _ _ _ hstep => hstep.1))
    inOrder_initial fun _ _ _ hs hordered hstep => hstep.inOrder hs hordered

theorem InOrder.eachOnce (hs : Known s) (h : InOrder s) : EachOnce s := by
  have hdistinct : s.page.requestIds.Nodup := h.shown.nodup hs.readableIds_nodup
  constructor
  · exact List.nodup_iff_count_le_one.mp hdistinct
  · intro decision
    have hrecorded : ((s.recorded.filter fun entry => entry.decision = decision).map
        (·.requestId)).Nodup := hs.distinct.sublist (List.filter_sublist.map _)
    have hsubperm : s.page.created.Subperm s.recorded :=
      (List.Nodup.of_map _ hdistinct).subperm hs.created
    calc s.page.counts decision
        = s.page.created.countP fun card => card.decision = decision := hs.page.counts decision
      _ ≤ s.recorded.countP fun card => card.decision = decision := hsubperm.countP_le _
      _ = (s.requests decision).card := by
        rw [State.requests, List.toFinset_card_of_nodup hrecorded, List.length_map,
          List.countP_eq_length_filter]

end

/-- In a run whose replays bring nothing late each request is shown and counted at most once. -/
theorem eachOnce_of_onTime {actions : List Action} {s : State}
    (h : Transition.Run StepOnTime {} actions s) : EachOnce s :=
  (run_inOrder h).eachOnce (run_known (h.mono fun _ _ _ hstep => hstep.1))

def request (i : Nat) : ObservabilityEntryDto :=
  MultiSinkObservabilityRecorderAdapter.sampleEntry (String.ofList (List.replicate (i + 1) 'r'))

theorem requestId_injective : Function.Injective fun i => (request i).requestId := by
  intro i j h
  have hlength := congrArg List.length (String.ofList_injective h)
  rw [List.length_replicate, List.length_replicate] at hlength
  exact Nat.succ.inj hlength

theorem requestId_ne (i : Nat) : (request i).requestId ≠ "" := fun h => by
  have hlength := congrArg List.length (@String.ofList_injective _ [] h)
  rw [List.length_replicate] at hlength
  contradiction

theorem isReadable_request (i : Nat) : isReadable (request i) = true := by
  rw [isReadable, Json.accepts_text]
  rfl

def feed (replay queue : List Nat) : Connection where
  queue := queue.map request
  replay := some (replay.map request)

structure At (recorded shown : List Nat) (connection : Option Connection) (s : State) : Prop where
  recorded_eq : s.recorded = recorded.map request
  created_eq : s.page.created = shown.map request
  connection_eq : s.connection = connection

def Reaches (recorded shown : List Nat) (connection : Option Connection) : Prop :=
  ∃ actions s, Transition.Run Step {} actions s ∧ At recorded shown connection s

namespace Reaches

variable {recorded shown queue replay xs : List Nat} {connection : Option Connection} {i : Nat}

theorem initial : Reaches [] [] none := ⟨[], {}, .nil, rfl, rfl, rfl⟩

theorem requestIds_rtake {page : Page} (h : page.created = shown.map request) :
    (request i).requestId ∈ page.requestIds.rtake maxCardsOnPage ↔
      i ∈ shown.rtake maxCardsOnPage := by
  have hrtake : page.requestIds.rtake maxCardsOnPage =
      (shown.rtake maxCardsOnPage).map fun i => (request i).requestId := by
    rw [Page.requestIds, h, List.map_map, List.rtake, List.rtake, List.length_map, List.map_drop]
    rfl
  rw [hrtake]
  exact List.mem_map_of_injective requestId_injective

theorem created_onMessage {page : Page} (hpage : page.Kept)
    (h : page.created = shown.map request) :
    (page.onMessage (request i)).created =
      (Replay.present maxCardsOnPage shown i).map request := by
  cases hpage.onMessage_cases (requestId_ne i) with
  | inl hsame =>
    have hmem := (requestIds_rtake h).mp (hsame.2 (isReadable_request i))
    rw [hsame.1, Replay.present_of_mem hmem, h]
  | inr hnew =>
    have hnot : i ∉ shown.rtake maxCardsOnPage :=
      fun hmem => hnew.2.2.2 ((requestIds_rtake h).mpr hmem)
    rw [hnew.2.1, Replay.present_of_not_mem hnot, h, List.map_append]
    rfl

theorem disconnect {c : Connection} (h : Reaches recorded shown (some c)) :
    Reaches recorded shown none := by
  obtain ⟨actions, s, hrun, hs⟩ := h
  exact ⟨_, _, hrun.snoc (.disconnect hs.connection_eq), hs.recorded_eq, hs.created_eq, rfl⟩

theorem connect (h : Reaches recorded shown none) :
    Reaches recorded shown (some (feed (recorded.rtake maxBufferedEntries) [])) := by
  obtain ⟨actions, s, hrun, hs⟩ := h
  have hsubscribe := hrun.snoc (.subscribe hs.connection_eq)
  refine ⟨_, _, hsubscribe.snoc (.snapshot rfl rfl), hs.recorded_eq, hs.created_eq, ?_⟩
  have hentries : s.entries = (recorded.rtake maxBufferedEntries).map request := by
    rw [(run_known hrun).entries, hs.recorded_eq, List.rtake, List.rtake, List.length_map,
      List.map_drop]
  exact congrArg (fun entries => some ({ replay := some entries } : Connection)) hentries

theorem putNowait_map (queue : List Nat) (i : Nat) :
    putNowait (queue.map request) (request i) = (putNowait queue i).map request := by
  rw [putNowait, putNowait, List.length_map]
  split_ifs
  · rfl
  · rw [List.map_append]
    rfl

theorem record (h : Reaches recorded shown (some (feed replay queue))) (hnew : i ∉ recorded) :
    Reaches (recorded ++ [i]) shown (some (feed replay (putNowait queue i))) := by
  obtain ⟨actions, s, hrun, hs⟩ := h
  have hisNew : s.IsNew (request i) := by
    refine ⟨requestId_ne i, ?_⟩
    rw [hs.recorded_eq, List.map_map]
    exact fun hmem => hnew ((List.mem_map_of_injective requestId_injective).mp hmem)
  have hscheduled : (s.record (request i)).connection =
      some ((feed replay queue).schedule (request i)) := by
    rw [State.record, hs.connection_eq]
    rfl
  refine ⟨_, _, (hrun.snoc (.record hisNew)).snoc (.put hscheduled rfl), ?_, hs.created_eq, ?_⟩
  · change s.recorded ++ [request i] = (recorded ++ [i]).map request
    rw [hs.recorded_eq, List.map_append]
    rfl
  · exact congrArg (fun queue => some ({ feed replay [] with queue } : Connection))
      (putNowait_map queue i)

theorem receive {c : Connection} {rest : List ObservabilityEntryDto}
    (h : Reaches recorded shown (some c)) (hsent : c.sent = request i :: rest) :
    Reaches recorded (Replay.present maxCardsOnPage shown i) (some (c.receive rest)) := by
  obtain ⟨actions, s, hrun, hs⟩ := h
  have hreceive := hrun.snoc (.receive hs.connection_eq hsent)
  have hcreated := created_onMessage (i := i) (run_known hrun).page hs.created_eq
  exact ⟨_, _, hreceive, hs.recorded_eq, hcreated, rfl⟩

theorem replayNext (h : Reaches recorded shown (some (feed (i :: replay) queue))) :
    Reaches recorded (Replay.present maxCardsOnPage shown i) (some (feed replay queue)) := by
  obtain ⟨actions, s, hrun, hs⟩ := h
  have hsend : Reaches recorded shown _ := ⟨_, _,
    hrun.snoc (.sendReplay hs.connection_eq rfl), hs.recorded_eq, hs.created_eq, rfl⟩
  exact hsend.receive rfl

theorem liveNext (h : Reaches recorded shown (some (feed [] (i :: queue)))) :
    Reaches recorded (Replay.present maxCardsOnPage shown i) (some (feed [] queue)) := by
  obtain ⟨actions, s, hrun, hs⟩ := h
  have hsend : Reaches recorded shown _ := ⟨_, _,
    hrun.snoc (.sendLive hs.connection_eq rfl rfl), hs.recorded_eq, hs.created_eq, rfl⟩
  exact hsend.receive rfl

theorem replayAll (h : Reaches recorded shown (some (feed replay queue))) :
    Reaches recorded (replay.foldl (Replay.present maxCardsOnPage) shown)
      (some (feed [] queue)) := by
  induction replay generalizing shown with
  | nil => exact h
  | cons i replay ih => exact ih h.replayNext

theorem liveAll (h : Reaches recorded shown (some (feed [] queue))) :
    Reaches recorded (queue.foldl (Replay.present maxCardsOnPage) shown) (some (feed [] [])) := by
  induction queue generalizing shown with
  | nil => exact h
  | cons i queue ih => exact ih h.liveNext

theorem recordAll (h : Reaches recorded shown (some (feed replay queue))) (hnodup : xs.Nodup)
    (hnew : ∀ i ∈ xs, i ∉ recorded)
    (hroom : queue.length + xs.length ≤ maxPerSubscriberQueueSize) :
    Reaches (recorded ++ xs) shown (some (feed replay (queue ++ xs))) := by
  induction xs generalizing recorded queue with
  | nil =>
    rw [List.append_nil, List.append_nil]
    exact h
  | cons i xs ih =>
    rw [List.nodup_cons] at hnodup
    rw [List.length_cons] at hroom
    have hput : putNowait queue i = queue ++ [i] := by
      refine if_neg (Nat.not_le.mpr ?_)
      omega
    have hrecord := h.record (hnew i List.mem_cons_self)
    rw [hput] at hrecord
    have hrest := ih hrecord hnodup.2 ?_ ?_
    · rw [List.append_assoc, List.append_assoc] at hrest
      exact hrest
    · intro j hj hmem
      cases List.mem_append.mp hmem with
      | inl hmem => exact hnew j (List.mem_cons_of_mem _ hj) hmem
      | inr hmem => exact hnodup.1 (List.mem_singleton.mp hmem ▸ hj)
    · rw [List.length_append, List.length_singleton]
      omega

theorem showAll (h : Reaches recorded shown (some (feed [] []))) (hnodup : xs.Nodup)
    (hnew : ∀ i ∈ xs, i ∉ recorded) (hunseen : ∀ i ∈ xs, i ∉ shown)
    (hroom : xs.length ≤ maxPerSubscriberQueueSize) :
    Reaches (recorded ++ xs) (shown ++ xs) (some (feed [] [])) := by
  have hrecorded := h.recordAll hnodup hnew (by rw [List.length_nil, Nat.zero_add]; exact hroom)
  rw [← Replay.foldl_present_of_not_mem (n := maxCardsOnPage) hnodup hunseen]
  exact hrecorded.liveAll

end Reaches

theorem maxBufferedEntries_eq : maxBufferedEntries = 500 := by simp [maxBufferedEntries]

/-- One request, and a second connection that replays it. -/
theorem eachOnce_reconnected :
    ∃ s : State, s.page.requestIds = [(request 0).requestId] ∧ EachOnce s := by
  have hring : appendEntry [] (request 0) = [request 0] :=
    Replay.rtake_of_length_le (by rw [maxBufferedEntries_eq]; exact Nat.succ_le_of_lt (by decide))
  have hids : readableIds [request 0] = [(request 0).requestId] := by
    rw [readableIds_cons, if_pos (isReadable_request 0)]
    rfl
  have hpage : (({} : Page).onMessage (request 0)).requestIds = [(request 0).requestId] := by
    rw [Page.kept_initial.requestIds_onMessage (requestId_ne 0), if_pos (isReadable_request 0)]
    exact Replay.present_of_not_mem (Replay.not_mem_rtake_of_not_mem List.not_mem_nil)
  have hagain : ((({} : Page).onMessage (request 0)).onMessage (request 0)).requestIds =
      [(request 0).requestId] := by
    rw [(Page.kept_initial.onMessage (requestId_ne 0)).requestIds_onMessage (requestId_ne 0),
      if_pos (isReadable_request 0), hpage]
    refine Replay.present_of_mem ?_
    rw [Replay.rtake_of_length_le]
    · exact List.mem_singleton_self _
    · rw [maxCardsOnPage_eq, maxBufferedEntries_eq, List.length_singleton]
      decide
  have hrecorded : Transition.Run StepOnTime {} _ (State.record {} (request 0)) :=
    Transition.Run.nil.snoc ⟨.record ⟨requestId_ne 0, List.not_mem_nil⟩, trivial⟩
  have hconnected := (hrecorded.snoc ⟨.subscribe rfl, trivial⟩).snoc ⟨.snapshot rfl rfl,
    fun _ _ _ h => absurd h List.not_mem_nil, fun _ h => Option.some.inj h ▸ List.nil_subset _⟩
  have hshown := (hconnected.snoc ⟨.sendReplay rfl (congrArg some hring), trivial⟩).snoc
    ⟨.receive rfl rfl, trivial⟩
  have hwaiting := (hshown.snoc ⟨.disconnect rfl, trivial⟩).snoc ⟨.subscribe rfl, trivial⟩
  have hreconnected := hwaiting.snoc ⟨.snapshot rfl rfl, fun older h _ _ _ => ?_,
    fun _ h => Option.some.inj h ▸ List.nil_subset _⟩
  · have hreplayed := (hreconnected.snoc ⟨.sendReplay rfl (congrArg some hring), trivial⟩).snoc
      ⟨.receive rfl rfl, trivial⟩
    exact ⟨_, hagain, eachOnce_of_onTime hreplayed⟩
  · change older ∈ readableIds (appendEntry [] (request 0)) at h
    change older ∈ (({} : Page).onMessage (request 0)).requestIds
    rw [hring, hids] at h
    rw [hpage]
    exact h

section

variable {older newer fresh : List Nat} {missed early : Nat}

theorem not_mem_of_nodup {xs ys : List Nat} (h : (xs ++ ys).Nodup) : ∀ i ∈ ys, i ∉ xs :=
  fun i hi hmem => (List.nodup_append.mp h).2.2 i hmem i hi rfl

/-- `missed` finds the queue full and is dropped; the replay brings it, after `early`. -/
theorem reaches_late (hnodup : (older ++ newer ++ [missed] ++ [early]).Nodup)
    (hqueue : (older ++ newer).length = maxPerSubscriberQueueSize)
    (hring : (newer ++ [missed] ++ [early]).length = maxBufferedEntries) :
    Reaches (older ++ newer ++ [missed] ++ [early]) (older ++ newer ++ [early] ++ [missed])
      (some (feed [] [])) := by
  obtain ⟨hbefore, -, -⟩ := List.nodup_append.mp hnodup
  obtain ⟨hfirst, -, -⟩ := List.nodup_append.mp hbefore
  have hmissed : missed ∉ older ++ newer :=
    not_mem_of_nodup hbefore missed (List.mem_singleton_self _)
  have hearly : early ∉ older ++ newer ++ [missed] :=
    not_mem_of_nodup hnodup early (List.mem_singleton_self _)
  have hstart : Reaches [] [] (some (feed [] [])) := by
    have hconnect := Reaches.initial.connect
    rw [List.rtake_nil] at hconnect
    exact hconnect
  have hfull : Reaches (older ++ newer) [] (some (feed [] (older ++ newer))) :=
    hstart.recordAll hfirst (fun _ _ => List.not_mem_nil) (hqueue ▸ Nat.le_of_eq (Nat.zero_add _))
  have hdropped : Reaches (older ++ newer ++ [missed]) [] (some (feed [] (older ++ newer))) := by
    have hrecord := hfull.record hmissed
    rw [putNowait, if_pos (Nat.le_of_eq hqueue.symm)] at hrecord
    exact hrecord
  have hread : Reaches (older ++ newer ++ [missed]) (older ++ newer) (some (feed [] [])) := by
    have hlive := hdropped.liveAll
    rw [Replay.foldl_present_of_not_mem hfirst fun _ _ => List.not_mem_nil] at hlive
    exact hlive
  have hnext : Reaches (older ++ newer ++ [missed] ++ [early]) (older ++ newer ++ [early])
      (some (feed [] [])) := by
    refine hread.showAll (List.nodup_singleton _) (not_mem_of_nodup hnodup) ?_
      (by decide : 1 ≤ maxPerSubscriberQueueSize)
    intro i hi hmem
    rw [List.mem_singleton.mp hi] at hmem
    exact hearly (List.mem_append_left _ hmem)
  have hknown : ∀ i ∈ newer, i ∈ (older ++ newer ++ [early]).rtake maxCardsOnPage := by
    intro i hi
    have hsuffix : newer ++ [early] <:+ older ++ newer ++ [early] :=
      List.append_assoc older newer [early] ▸ List.suffix_append older (newer ++ [early])
    refine (Replay.suffix_rtake hsuffix ?_).subset (List.mem_append_left _ hi)
    rw [maxCardsOnPage_eq, ← hring, List.length_append, List.length_append, List.length_append]
    exact Nat.add_le_add_right (Nat.le_add_right _ _) _
  have hlate : missed ∉ (older ++ newer ++ [early]).rtake maxCardsOnPage := by
    refine Replay.not_mem_rtake_of_not_mem fun hmem => ?_
    cases List.mem_append.mp hmem with
    | inl hmem => exact hmissed hmem
    | inr hmem =>
      refine hearly (List.mem_append_right _ ?_)
      rw [List.mem_singleton.mp hmem]
      exact List.mem_singleton_self _
  have hshown : early ∈ (older ++ newer ++ [early] ++ [missed]).rtake maxCardsOnPage := by
    have hsuffix : [early, missed] <:+ older ++ newer ++ [early] ++ [missed] := by
      rw [List.append_assoc]
      exact List.suffix_append _ _
    refine (Replay.suffix_rtake hsuffix ?_).subset List.mem_cons_self
    rw [maxCardsOnPage_eq, ← hring]
    simp
  have hreplay := hnext.disconnect.connect.replayAll
  have hwindow : (older ++ newer ++ [missed] ++ [early]).rtake maxBufferedEntries =
      newer ++ [missed] ++ [early] := by
    rw [List.append_assoc older, List.append_assoc older]
    exact Replay.rtake_append_of_length_eq hring
  have hpresent : (newer ++ [missed] ++ [early]).foldl (Replay.present maxCardsOnPage)
      (older ++ newer ++ [early]) = older ++ newer ++ [early] ++ [missed] := by
    rw [List.foldl_append, List.foldl_append, Replay.foldl_present_of_mem hknown]
    change Replay.present maxCardsOnPage (Replay.present maxCardsOnPage _ missed) early = _
    rw [Replay.present_of_not_mem hlate, Replay.present_of_mem hshown]
  rw [hwindow, hpresent] at hreplay
  exact hreplay

/-- The page forgets `early` one entry before the ring does, and gets it once more. -/
theorem reaches_twice (hnodup : (older ++ newer ++ [missed] ++ [early] ++ fresh).Nodup)
    (hqueue : (older ++ newer).length = maxPerSubscriberQueueSize)
    (hring : (newer ++ [missed] ++ [early]).length = maxBufferedEntries)
    (hfresh : fresh.length + 1 = maxBufferedEntries) :
    Reaches (older ++ newer ++ [missed] ++ [early] ++ fresh)
      (older ++ newer ++ [early] ++ [missed] ++ fresh ++ [early]) (some (feed fresh [])) := by
  obtain ⟨hbefore, hdistinct, -⟩ := List.nodup_append.mp hnodup
  have hunseen : ∀ i ∈ fresh, i ∉ older ++ newer ++ [early] ++ [missed] := by
    intro i hi hmem
    rw [List.mem_append, List.mem_append, or_right_comm, ← List.mem_append, ← List.mem_append]
      at hmem
    exact not_mem_of_nodup hnodup i hi hmem
  have hroom : fresh.length ≤ maxPerSubscriberQueueSize := by
    rw [maxBufferedEntries_eq] at hfresh
    rw [maxPerSubscriberQueueSize]
    omega
  have hshow := (reaches_late hbefore hqueue hring).showAll hdistinct (not_mem_of_nodup hnodup)
    hunseen hroom
  have hreconnect := hshow.disconnect.connect
  have hwindow : (older ++ newer ++ [missed] ++ [early] ++ fresh).rtake maxBufferedEntries =
      early :: fresh := by
    rw [← List.append_cons]
    exact Replay.rtake_append_of_length_eq hfresh
  rw [hwindow] at hreconnect
  have hforgotten : early ∉
      (older ++ newer ++ [early] ++ [missed] ++ fresh).rtake maxCardsOnPage := by
    have hpage : (missed :: fresh).length = maxBufferedEntries := hfresh
    rw [← List.append_cons, maxCardsOnPage_eq, Replay.rtake_append_of_length_eq hpage]
    intro hmem
    cases List.mem_cons.mp hmem with
    | inl heq =>
      refine not_mem_of_nodup hbefore early (List.mem_singleton_self _) ?_
      exact heq ▸ List.mem_append_right _ (List.mem_singleton_self _)
    | inr hmem =>
      exact not_mem_of_nodup hnodup early hmem
        (List.mem_append_right _ (List.mem_singleton_self _))
  have htwice := hreconnect.replayNext
  rw [Replay.present_of_not_mem hforgotten] at htwice
  exact htwice

end

theorem nodup_append_range' {xs : List Nat} {n : Nat} (h : xs.Nodup) (hlt : ∀ i ∈ xs, i < n)
    (count : Nat) :
    (xs ++ List.range' n count).Nodup ∧ ∀ i ∈ xs ++ List.range' n count, i < n + count := by
  constructor
  · refine List.nodup_append.mpr ⟨h, List.nodup_range', fun i hi j hj heq => ?_⟩
    exact Nat.lt_irrefl n ((List.mem_range'_1.mp hj).1.trans_lt (heq ▸ hlt i hi))
  · intro i hi
    cases List.mem_append.mp hi with
    | inl hi => exact (hlt i hi).trans_le (Nat.le_add_right n count)
    | inr hi => exact (List.mem_range'_1.mp hi).2

theorem nodup_numbers : (List.range' 0 502 ++ List.range' 502 498 ++ [1000] ++ [1001] ++
    List.range' 1002 499).Nodup := by
  have hempty := nodup_append_range' (n := 0) List.nodup_nil
    (fun _ h => absurd h List.not_mem_nil) 502
  have hfirst := nodup_append_range' hempty.1 hempty.2 498
  have hmissed := nodup_append_range' hfirst.1 hfirst.2 1
  have hearly := nodup_append_range' hmissed.1 hmissed.2 1
  exact (nodup_append_range' hearly.1 hearly.2 499).1

theorem not_eachOnce :
    ¬ ∀ (actions : List Action) (s : State), Transition.Run Step {} actions s → EachOnce s := by
  intro heach
  obtain ⟨actions, s, hrun, hs⟩ := reaches_twice nodup_numbers
    (by rw [List.length_append, List.length_range', List.length_range']; rfl)
    (by rw [maxBufferedEntries_eq]; simp)
    (by rw [maxBufferedEntries_eq, List.length_range'])
  have hdistinct := List.nodup_iff_count_le_one.mpr (heach actions s hrun).cards
  rw [hs.created_eq, List.map_map] at hdistinct
  have hnumbers := List.Nodup.of_map _ hdistinct
  refine not_mem_of_nodup hnumbers 1001 (List.mem_singleton_self _) ?_
  simp

end SqlGateway.Http.LivePage
