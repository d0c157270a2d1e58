import SqlGateway.Library.Interleaving
import SqlGateway.Postgres.Atomicity
import SqlGateway.Postgres.RequestProgram
import SqlGateway.Postgres.StructuralSoundness

namespace SqlGateway.Postgres.ConcurrentRequests

open Effect (Triple)
open ExecuteQueryUseCase QueryExecutor Sql
open Interleaving (Setting Within)
open Transaction (Applied Store)

/-! Requests that take turns, each with a connection of its own -/

variable {Connection Database Data : Type}

/-- What can be seen of the database, and what is open on a connection. -/
structure Access (Connection Database Data : Type) where
  transactions : Database → List (List (Applied Statement Data))
  pending : Connection → List (Applied Statement Data)

def Access.store (access : Access Connection Database Data) (s : Connection × Database) :
    Store Statement Data :=
  { transactions := access.transactions s.2, pending := access.pending s.1 }

inductive Happening (Data : Type)
  | committed (transaction : List (Applied Statement Data))
  | recorded (entry : ObservabilityEntryDto)

abbrev Log (Data : Type) := List (List (Applied Statement Data)) × List ObservabilityEntryDto

def Log.add (log : Log Data) : Happening Data → Log Data
  | .committed transaction => (log.1 ++ [transaction], log.2)
  | .recorded entry => (log.1, log.2 ++ [entry])

/-- The connection is a request's own; the database and the recorder are for all. -/
def parts : World (Connection × Database) ≃ Connection × Database × List ObservabilityEntryDto where
  toFun w := (w.outer.1, w.outer.2, w.recorded)
  invFun p := ⟨(p.1, p.2.1), p.2.2⟩
  left_inv _ := rfl
  right_inv _ := rfl

def Access.setting (access : Access Connection Database Data) :
    Setting (World (Connection × Database)) Connection (Database × List ObservabilityEntryDto)
      (Log Data) (Happening Data) where
  parts := parts
  view shared := (access.transactions shared.1, shared.2)
  apply := Log.add

/-- What a program returns with; if it raises it has done nothing that others see. -/
def Post {α : Type} (R : α → Connection → List (Happening Data) → Prop) :
    Except PyException α → Connection → List (Happening Data) → Prop
  | .ok a, connection, events => R a connection events
  | .error _, _, events => events = []

section Calls

variable {access : Access Connection Database Data} {α β : Type}
  {P : List (Happening Data) → Prop} {R : α → Connection → List (Happening Data) → Prop}
  {R' : β → Connection → List (Happening Data) → Prop} {connection : Connection}
  {events : List (Happening Data)}

theorem perform_call (m : Effect PyException (Connection × Database) α) (connection : Connection)
    (database : Database) (recorded : List ObservabilityEntryDto) :
    access.setting.perform (call m) connection (database, recorded) =
      ((m (connection, database)).1, (m (connection, database)).2.1,
        (m (connection, database)).2.2, recorded) := rfl

theorem within_keeps {m : Effect PyException (Connection × Database) α} (hP : P events)
    (h : ∀ database, Triple m (connection, database)
      (fun a s' => Keeps access.store (connection, database) s' ∧ R a s'.1 events)
      (fun _ s' => Keeps access.store (connection, database) s' ∧ events = [])) :
    Within access.setting P (Post R) (perform m) connection events := by
  refine .ofEffect hP fun (database, recorded) => ⟨[], ?_⟩
  rw [perform_call, List.append_nil, List.foldl_nil]
  rcases hm : m (connection, database) with ⟨e | a, s'⟩
  · obtain ⟨hkeeps, hR⟩ := (h database).raises hm
    exact ⟨Prod.ext hkeeps rfl, hP, hR⟩
  · obtain ⟨hkeeps, hR⟩ := (h database).returns hm
    exact ⟨Prod.ext hkeeps rfl, hP, hR⟩

theorem within_bind {p : RequestProgram (Connection × Database) α}
    {k : α → RequestProgram (Connection × Database) β}
    (h : Within access.setting P (Post R) p connection events)
    (hk : ∀ a connection events, P events → R a connection events →
      Within access.setting P (Post R') (k a) connection events) :
    Within access.setting P (Post R') (p >>= k) connection events :=
  h.bind hk fun _ _ _ hraised => hraised

/-- A `with` block whose exit raises only where nothing has been committed. -/
theorem within_withBlock {p : RequestProgram (Connection × Database) α}
    {exit : Option PyException → RequestProgram (Connection × Database) Unit}
    {R' : α → Connection → List (Happening Data) → Prop}
    (h : Within access.setting P (Post R) p connection events)
    (hleave : ∀ a connection events, P events → R a connection events →
      Within access.setting P (Post fun _ => R' a) (exit none) connection events)
    (hraise : ∀ e connection, P [] →
      Within access.setting P (Post fun _ _ events => events = []) (exit (some e)) connection []) :
    Within access.setting P (Post R') (p.withBlock exit) connection events := by
  have hraise' : ∀ e connection events, P events → Post R (.error e) connection events →
      Within access.setting P (Post fun _ _ events => events = []) (exit (some e)) connection
        events := by
    rintro e connection events hP (rfl : events = [])
    exact hraise e connection hP
  refine h.withBlock hleave hraise' (fun _ _ _ hleft => hleft) (fun _ _ _ hraised => hraised) ?_
  rintro e connection events (⟨_, hnone⟩ | ⟨_, hnone⟩)
  · exact hnone
  · exact hnone

end Calls

/-- A transaction of a request: the timeout and then the statement. -/
def requestTransaction (queryTimeoutMs : Nat) (queryText : Json.Text) (effect : Data → Data) :
    List (Applied Statement Data) :=
  [⟨timeoutStatement queryTimeoutMs, id⟩, ⟨(queryText, none), effect⟩]

section Executor

variable {access : Access Connection Database Data} {psycopg : Psycopg (Connection × Database)}
  {P : List (Happening Data) → Prop} (hnone : P [])
include hnone

theorem within_same {α : Type} {m : Effect PyException (Connection × Database) α} {R : α → Prop}
    {connection : Connection}
    (hm : ∀ database, Triple m (connection, database)
      (fun a s' => access.store s' = access.store (connection, database) ∧ R a)
      (fun _ => Keeps access.store (connection, database))) :
    Within access.setting P (Post fun a connection' events => R a ∧
        access.pending connection' = access.pending connection ∧ events = [])
      (perform m) connection [] := by
  refine within_keeps hnone fun database => (hm database).mono ?_ fun _ _ hkeeps => ⟨hkeeps, rfl⟩
  rintro a s' ⟨hstore, hR⟩
  exact ⟨keeps_of_eq hstore, hR, congrArg Store.pending hstore, rfl⟩

theorem within_read {α : Type} (f : Connection × Database → α) (connection : Connection) :
    Within access.setting P (Post fun _ connection' events =>
        access.pending connection' = access.pending connection ∧ events = [])
      (perform (Effect.read f)) connection [] :=
  (within_same (R := fun _ => True) hnone fun _ => .read ⟨rfl, trivial⟩).mono fun result _ _ hpost =>
    match result with
    | .ok _ => hpost.2
    | .error _ => hpost

theorem within_ofResult {α : Type} (result : Except PyException α) (connection : Connection) :
    Within access.setting P (Post fun a connection' events => result = .ok a ∧
        access.pending connection' = access.pending connection ∧ events = [])
      (perform (Effect.ofResult result)) connection [] :=
  within_same hnone fun _ => .ofResult (fun _ hok => ⟨rfl, hok⟩) fun _ _ => rfl

/-- A commit puts what is open on the connection among the committed transactions. -/
theorem within_commit {m : Effect PyException (Connection × Database) Unit}
    {connection : Connection}
    (hm : ∀ database, Triple m (connection, database)
      (fun _ s' => access.store s' = (access.store (connection, database)).commit)
      (fun _ => Keeps access.store (connection, database)))
    (hopen : access.pending connection ≠ []) (hcommitted : P [.committed (access.pending connection)]) :
    Within access.setting P (Post fun _ connection' events => access.pending connection' = [] ∧
        events = [.committed (access.pending connection)])
      (perform m) connection [] := by
  refine .ofEffect hnone fun (database, recorded) => ?_
  rw [perform_call]
  rcases hreturned : m (connection, database) with ⟨e | ⟨⟩, s'⟩
  · exact ⟨[], Prod.ext ((hm _).raises hreturned) rfl, hnone, rfl⟩
  · have hview := (hm _).returns hreturned
    refine ⟨[.committed (access.pending connection)], Prod.ext ?_ rfl, hcommitted, ?_, rfl⟩
    · change (access.store s').transactions = _
      rw [hview, Store.commit_transactions _ hopen]
      rfl
    · change (access.store s').pending = []
      rw [hview, Store.commit_pending]

section Transactional

variable {sends : Json.Text → Prop} (h : Transactional psycopg access.store sends)
include h

theorem within_buildOutcome (maxResults : Nat) (description : Option (List String))
    (connection : Connection) :
    Within access.setting P (Post fun outcome connection' events => outcome.succeeded = true ∧
        access.pending connection' = access.pending connection ∧ events = [])
      (RequestProgram.buildOutcome psycopg maxResults description) connection [] := by
  unfold RequestProgram.buildOutcome
  split_ifs
  · apply within_bind (within_read hnone _ connection)
    rintro description₁ c₁ _ - ⟨h₁, rfl⟩
    apply within_bind (within_ofResult hnone _ c₁)
    rintro _ c₂ _ - ⟨-, h₂, rfl⟩
    apply within_bind (within_same (R := fun _ => True) hnone fun database =>
      (h.fetchmany _ _).mono (fun _ _ hview => ⟨hview, trivial⟩) fun _ _ hkeeps => hkeeps)
    rintro fetchedRows c₃ _ - ⟨-, h₃, rfl⟩
    apply within_bind (within_read hnone _ c₃)
    rintro description₄ c₄ _ - ⟨h₄, rfl⟩
    apply within_bind (within_ofResult hnone _ c₄)
    rintro columnNames c₅ _ - ⟨-, h₅, rfl⟩
    exact .pure hnone ⟨rfl, by rw [h₅, h₄, h₃, h₂, h₁], rfl⟩
  · exact within_same hnone fun _ => .read ⟨rfl, rfl⟩

theorem within_transaction (queryTimeoutMs maxResults : Nat) {queryText : Json.Text}
    (hsends : sends queryText) (hcommitted : ∀ effect : Data → Data,
      P [.committed (requestTransaction queryTimeoutMs queryText effect)])
    {connection : Connection} (hpending : access.pending connection = []) :
    Within access.setting P (Post fun outcome connection' events => outcome.succeeded = true ∧
        access.pending connection' = [] ∧ ∃ effect : Data → Data,
          events = [.committed (requestTransaction queryTimeoutMs queryText effect)])
      (RequestProgram.transaction psycopg queryTimeoutMs maxResults queryText) connection [] := by
  apply within_bind (R := fun _ connection' events =>
    access.pending connection' = [⟨timeoutStatement queryTimeoutMs, id⟩] ∧ events = [])
  · refine within_keeps hnone fun database => (h.setTimeout _ _).mono ?_ fun _ _ hkeeps =>
      ⟨hkeeps, rfl⟩
    intro _ s' hview
    refine ⟨by rw [Keeps, hview, Store.run_transactions], ?_, rfl⟩
    change (access.store s').pending = _
    rw [hview, Store.run_pending]
    change access.pending connection ++ _ = _
    rw [hpending]
    rfl
  rintro _ c₁ _ - ⟨h₁, rfl⟩
  apply within_bind (R := fun _ connection' events => (∃ effect : Data → Data,
    access.pending connection' = requestTransaction queryTimeoutMs queryText effect) ∧ events = [])
  · refine within_keeps hnone fun database => (h.execute _ hsends _).mono ?_ fun _ _ hkeeps =>
      ⟨hkeeps, rfl⟩
    rintro _ s' ⟨effect, hview⟩
    refine ⟨by rw [Keeps, hview, Store.run_transactions], ⟨effect, ?_⟩, rfl⟩
    change (access.store s').pending = _
    rw [hview, Store.run_pending]
    change access.pending c₁ ++ _ = _
    rw [h₁]
    rfl
  rintro _ c₂ _ - ⟨⟨effect, h₂⟩, rfl⟩
  apply within_bind (within_read hnone _ c₂)
  rintro description c₃ _ - ⟨h₃, rfl⟩
  apply within_bind (within_buildOutcome hnone h maxResults description c₃)
  rintro outcome c₄ _ - ⟨hsucceeded, h₄, rfl⟩
  have hpending : access.pending c₄ = requestTransaction queryTimeoutMs queryText effect := by
    rw [h₄, h₃, h₂]
  apply within_bind (within_commit hnone (fun _ => h.commit _) (hpending ▸ List.cons_ne_nil _ _)
    (hpending ▸ hcommitted effect))
  rintro _ c₅ _ hP ⟨h₅, rfl⟩
  exact .pure hP ⟨hsucceeded, h₅, effect, by rw [hpending]⟩

/-- Leaving the two blocks commits nothing, and raises only on the way of an exception. -/
theorem within_runStatement (queryTimeoutMs maxResults : Nat) {queryText : Json.Text}
    (hsends : sends queryText) (hcommitted : ∀ effect : Data → Data,
      P [.committed (requestTransaction queryTimeoutMs queryText effect)])
    (connection : Connection) :
    Within access.setting P (Post fun outcome _ events => outcome.succeeded = true ∧
        ∃ effect : Data → Data,
          events = [.committed (requestTransaction queryTimeoutMs queryText effect)])
      (RequestProgram.runStatement psycopg queryTimeoutMs maxResults queryText) connection [] := by
  apply within_bind (R := fun _ connection' events =>
    access.pending connection' = [] ∧ events = [])
  · exact within_keeps hnone fun database => (h.connect _).mono
      (fun _ _ hopened => ⟨hopened.1, hopened.2, rfl⟩) fun _ _ hkeeps => ⟨hkeeps, rfl⟩
  rintro _ c₁ _ - ⟨h₁, rfl⟩
  refine within_withBlock (R := fun outcome connection' events => outcome.succeeded = true ∧
    access.pending connection' = [] ∧ ∃ effect : Data → Data,
      events = [.committed (requestTransaction queryTimeoutMs queryText effect)]) ?_ ?_ ?_
  · apply within_bind (within_same (R := fun _ => True) hnone fun database =>
      (h.cursor _).mono (fun _ _ hview => ⟨hview, trivial⟩) fun _ _ hkeeps => hkeeps)
    rintro _ c₂ _ - ⟨-, h₂, rfl⟩
    have hbody := within_transaction hnone h queryTimeoutMs maxResults hsends hcommitted
      (h₂.trans h₁)
    refine within_withBlock hbody ?_ ?_
    · rintro outcome c₃ events hP ⟨hsucceeded, h₃, hevents⟩
      refine within_keeps hP fun database => (h.exitCursor _).mono ?_ fun _ _ hfalse => hfalse.elim
      intro _ s' hview
      exact ⟨keeps_of_eq hview, hsucceeded, (congrArg Store.pending hview).trans h₃, hevents⟩
    · exact fun e c hP => within_keeps hP fun database => (h.exitCursorRaising e _).mono
        (fun _ _ hkeeps => ⟨hkeeps, rfl⟩) fun _ _ hkeeps => ⟨hkeeps, rfl⟩
  · rintro outcome c₃ events hP ⟨hsucceeded, h₃, hevents⟩
    refine within_keeps hP fun database => (h.exitConnection (c₃, database) h₃).mono ?_
      fun _ _ hfalse => hfalse.elim
    intro _ s' hview
    exact ⟨keeps_of_eq hview, hsucceeded, hevents⟩
  · refine fun e c hP => within_keeps hP fun database => (h.exitConnectionRaising e _).mono ?_
      fun _ _ hkeeps => ⟨hkeeps, rfl⟩
    intro _ s' hview
    exact ⟨by rw [Keeps, hview, Store.rollback_transactions], rfl⟩

theorem within_executor (queryTimeoutMs maxResults : Nat) (payload : QueryPayload)
    (hsends : ∀ queryText, payload = .str queryText → sends queryText)
    (hcommitted : ∀ queryText, payload = .str queryText → ∀ effect : Data → Data,
      P [.committed (requestTransaction queryTimeoutMs queryText effect)])
    (connection : Connection) :
    Within access.setting P (Post fun outcome _ events =>
        (outcome.succeeded = true ∧ ∃ queryText, payload = .str queryText ∧
          ∃ effect : Data → Data,
            events = [.committed (requestTransaction queryTimeoutMs queryText effect)]) ∨
        (outcome.succeeded = false ∧ events = []))
      (RequestProgram.executor psycopg queryTimeoutMs maxResults payload) connection [] := by
  cases payload with
  | str queryText =>
    apply (within_runStatement hnone h queryTimeoutMs maxResults (hsends queryText rfl)
      (hcommitted queryText rfl) connection).handle
    · rintro outcome _ events ⟨hsucceeded, effect, hevents⟩
      exact .inl ⟨hsucceeded, queryText, rfl, effect, hevents⟩
    · rintro e c events hP (rfl : events = [])
      cases e with
      | psycopgError exception => exact .pure hP (.inr ⟨rfl, rfl⟩)
      | sqlglotError message => exact ⟨hP, rfl⟩
      | other typeName message => exact ⟨hP, rfl⟩
  | dict fields => exact .pure hnone (.inr ⟨rfl, rfl⟩)
  | list items => exact .pure hnone (.inr ⟨rfl, rfl⟩)

end Transactional

end Executor

structure Gateway (Connection Database : Type) where
  sqlglot : Sqlglot
  registry : RuleRegistry
  psycopg : Psycopg (Connection × Database)
  queryTimeoutMs : Nat
  maxResults : Nat
  maxSampleRows : Nat

/-- The texts that the gateway sends to the database. -/
def Gateway.Accepts (gateway : Gateway Connection Database) (queryText : Json.Text) : Prop :=
  Sql.Accepts gateway.sqlglot dialect gateway.registry (.str queryText)

structure Request where
  queryText : QueryPayload
  requestId : String
  clock : ClockReadings

def Gateway.program (gateway : Gateway Connection Database) (request : Request) :
    RequestProgram (Connection × Database) ExecuteQueryResultDto :=
  .execute gateway.sqlglot gateway.registry gateway.psycopg gateway.queryTimeoutMs
    gateway.maxResults request.clock gateway.maxSampleRows request.queryText request.requestId

section Requests

variable (gateway : Gateway Connection Database) (request : Request)

/-- The one transaction that the gateway commits for a request, and only if it accepts it. -/
inductive Commits : List (Applied Statement Data) → Prop
  | accepted {queryText : Json.Text} {effect : Data → Data} : request.queryText = .str queryText →
    Accepts gateway.sqlglot dialect gateway.registry (.str queryText) →
    Commits (requestTransaction gateway.queryTimeoutMs queryText effect)

inductive Traced : List (Happening Data) → Prop
  | nothing : Traced []
  | committed {transaction : List (Applied Statement Data)} :
    Commits gateway request transaction → Traced [.committed transaction]
  | refused {entry : ObservabilityEntryDto} : entry.requestId = request.requestId →
    entry.decision ≠ .allowed → Traced [.recorded entry]
  | allowed {transaction : List (Applied Statement Data)} {entry : ObservabilityEntryDto} :
    Commits gateway request transaction → entry.requestId = request.requestId →
    entry.decision = .allowed → Traced [.committed transaction, .recorded entry]

/-- What they have seen of it when it is over. -/
inductive Ended : Except PyException ExecuteQueryResultDto → List (Happening Data) → Prop
  | raised {exception : PyException} : Ended (.error exception) []
  | refused {result : ExecuteQueryResultDto} {entry : ObservabilityEntryDto} :
    entry.requestId = request.requestId → entry.decision = result.decision →
    result.decision ≠ .allowed → result.isComplete = true → Ended (.ok result) [.recorded entry]
  | allowed {result : ExecuteQueryResultDto} {transaction : List (Applied Statement Data)}
      {entry : ObservabilityEntryDto} :
    Commits gateway request transaction → entry.requestId = request.requestId →
    entry.decision = result.decision → result.decision = .allowed → result.isComplete = true →
    Ended (.ok result) [.committed transaction, .recorded entry]

variable {gateway request} {access : Access Connection Database Data}

theorem within_record {α : Type} {m : Effect PyException (World (Connection × Database)) α} {a : α}
    {entry : ObservabilityEntryDto} {P : List (Happening Data) → Prop}
    {Q : Except PyException α → Connection → List (Happening Data) → Prop}
    {connection : Connection} {events : List (Happening Data)}
    (hm : ∀ w, m w = (.ok a, { w with recorded := w.recorded ++ [entry] })) (hP : P events)
    (hP' : P (events ++ [.recorded entry])) (hQ : Q (.ok a) connection (events ++ [.recorded entry])) :
    Within access.setting P Q (.ofEffect m) connection events := by
  refine .ofEffect hP fun (database, recorded) => ⟨[.recorded entry], ?_⟩
  simp only [Setting.perform, hm]
  exact ⟨rfl, hP', hQ⟩

/-- What others see of a request is the same in whatever state they have left the database. -/
theorem within_program (h : Transactional gateway.psycopg access.store gateway.Accepts)
    (connection : Connection) :
    Within access.setting (Traced gateway request)
      (fun result _ events => Ended gateway request result events) (gateway.program request)
      connection [] := by
  have hraised : ∀ {α : Type} {R : α → Connection → List (Happening Data) → Prop} (e : PyException)
      (connection : Connection) (events : List (Happening Data)),
      Post R (.error e) connection events →
        Ended gateway request (.error e : Except PyException ExecuteQueryResultDto) events := by
    rintro α R e connection events (rfl : events = [])
    exact .raised
  have hnone : Traced gateway request ([] : List (Happening Data)) := .nothing
  apply (within_ofResult hnone _ connection).bind _ hraised
  rintro redactedQuery c₁ _ - ⟨-, -, rfl⟩
  apply (within_ofResult hnone _ c₁).bind _ hraised
  rintro verdict c₂ _ - ⟨hvalidate, -, rfl⟩
  cases hallowed : verdict.isAllowed with
  | false =>
    exact within_record (fun _ => rfl) hnone (.refused rfl nofun) (.refused rfl rfl nofun rfl)
  | true =>
    have haccepts (queryText : Json.Text) (hquery : request.queryText = .str queryText) :
        gateway.Accepts queryText := ⟨verdict, hquery ▸ hvalidate, hallowed⟩
    have hcommits {queryText : Json.Text} (hquery : request.queryText = .str queryText)
        (effect : Data → Data) :
        Commits gateway request (requestTransaction gateway.queryTimeoutMs queryText effect) :=
      .accepted hquery (haccepts queryText hquery)
    have hexecutor := within_executor hnone h gateway.queryTimeoutMs gateway.maxResults
      request.queryText haccepts (fun queryText hquery effect => .committed (hcommits hquery effect)) c₂
    apply hexecutor.bind _ hraised
    rintro outcome c₃ events hP
      (⟨hsucceeded, queryText, hquery, effect, rfl⟩ | ⟨hfailed, rfl⟩)
    · rw [if_pos hsucceeded]
      exact within_record (fun _ => rfl) hP (.allowed (hcommits hquery effect) rfl rfl)
        (.allowed (hcommits hquery effect) rfl rfl rfl rfl)
    · rw [if_neg (by simp [hfailed])]
      exact within_record (fun _ => rfl) hP (.refused rfl nofun) (.refused rfl rfl nofun rfl)

end Requests

/-! Interleavings -/

section Interleavings

variable {ι : Type} [DecidableEq ι] {gateway : Gateway Connection Database}
  {access : Access Connection Database Data}

abbrev State (Connection Database ι : Type) :=
  Interleaving.State PyException ExecuteQueryResultDto (World (Connection × Database)) Connection
    (Database × List ObservabilityEntryDto) ι

def start (gateway : Gateway Connection Database) (requests : ι → Request)
    (connections : ι → Connection) (database : Database) : State Connection Database ι where
  thread i := gateway.program (requests i)
  part := connections
  shared := (database, [])

def Happening.transaction? : Happening Data → Option (List (Applied Statement Data))
  | .committed transaction => some transaction
  | .recorded _ => none

def Happening.entry? : Happening Data → Option ObservabilityEntryDto
  | .committed _ => none
  | .recorded entry => some entry

theorem foldl_add (happenings : List (Happening Data)) (log : Log Data) :
    happenings.foldl Log.add log = (log.1 ++ happenings.filterMap Happening.transaction?,
      log.2 ++ happenings.filterMap Happening.entry?) := by
  induction happenings generalizing log with
  | nil => simp
  | cons happening happenings ih =>
    rw [List.foldl_cons, ih]
    cases happening with
    | committed transaction => exact Prod.ext (List.append_assoc _ _ _) rfl
    | recorded entry => exact Prod.ext rfl (List.append_assoc _ _ _)

abbrev InOrder (gateway : Gateway Connection Database) (access : Access Connection Database Data)
    (requests : ι → Request) (database : Database) (s : State Connection Database ι)
    (order : List (ι × Happening Data)) : Prop :=
  Interleaving.Explained access.setting (fun i => Traced gateway (requests i))
    (fun i result _ events => Ended gateway (requests i) result events)
    (access.transactions database, []) s order

theorem exists_inOrder (h : Transactional gateway.psycopg access.store gateway.Accepts)
    {requests : ι → Request} {connections : ι → Connection} {database : Database} {turns : List ι}
    {s : State Connection Database ι}
    (hrun : Transition.Run (Interleaving.Step access.setting)
      (start gateway requests connections database) turns s) :
    ∃ order, InOrder gateway access requests database s order :=
  Interleaving.run_explained hrun fun i => within_program h (connections i)

theorem log_of_view {κ : Type} {shared : Database × List ObservabilityEntryDto}
    {database : Database} {order : List (κ × Happening Data)}
    (h : access.setting.view shared =
      (order.map Prod.snd).foldl access.setting.apply (access.transactions database, [])) :
    access.transactions shared.1 = access.transactions database ++
        (order.map Prod.snd).filterMap Happening.transaction? ∧
      shared.2 = (order.map Prod.snd).filterMap Happening.entry? := by
  have hlog : (access.transactions shared.1, shared.2) =
      (order.map Prod.snd).foldl Log.add (access.transactions database, []) := h
  rw [foldl_add] at hlog
  exact ⟨congrArg Prod.fst hlog, congrArg Prod.snd hlog⟩

theorem log_of_inOrder {requests : ι → Request} {database : Database}
    {s : State Connection Database ι} {order : List (ι × Happening Data)}
    (h : InOrder gateway access requests database s order) :
    access.transactions s.shared.1 = access.transactions database ++
        (order.map Prod.snd).filterMap Happening.transaction? ∧
      s.shared.2 = (order.map Prod.snd).filterMap Happening.entry? :=
  log_of_view h.view

theorem mem_eventsOf {order : List (ι × Happening Data)} {event : ι × Happening Data}
    (h : event ∈ order) : event.2 ∈ Interleaving.eventsOf order event.1 :=
  List.mem_map_of_mem (List.mem_filter.mpr ⟨h, decide_eq_true rfl⟩)

theorem mem_entries_iff {order : List (ι × Happening Data)} {entry : ObservabilityEntryDto} :
    entry ∈ (order.map Prod.snd).filterMap Happening.entry? ↔
      ∃ i, Happening.recorded entry ∈ Interleaving.eventsOf order i := by
  constructor
  · intro hentry
    obtain ⟨happening, hhappening, hrecorded⟩ := List.mem_filterMap.mp hentry
    obtain ⟨event, hevent, rfl⟩ := List.mem_map.mp hhappening
    refine ⟨event.1, ?_⟩
    have hmem := mem_eventsOf hevent
    cases hcase : event.2 with
    | committed transaction =>
      rw [hcase] at hrecorded
      cases hrecorded
    | recorded other =>
      rw [hcase] at hrecorded hmem
      cases hrecorded
      exact hmem
  · rintro ⟨i, hentry⟩
    obtain ⟨event, hevent, hrecorded⟩ := List.mem_map.mp hentry
    exact List.mem_filterMap.mpr ⟨.recorded entry,
      List.mem_map.mpr ⟨event, (List.mem_filter.mp hevent).1, hrecorded⟩, rfl⟩

theorem commits_of_traced {request : Request} {happenings : List (Happening Data)}
    (h : Traced gateway request happenings) {transaction : List (Applied Statement Data)}
    (hmem : Happening.committed transaction ∈ happenings) : Commits gateway request transaction := by
  cases h with
  | nothing => cases hmem
  | committed hcommits =>
    cases List.mem_singleton.mp hmem
    exact hcommits
  | refused => cases List.mem_singleton.mp hmem
  | allowed hcommits =>
    rcases List.mem_pair.mp hmem with hfirst | hsecond
    · cases hfirst
      exact hcommits
    · cases hsecond

end Interleavings

abbrev Pending := List (Applied Statement Nat)

def counter : Psycopg (Pending × List Pending) where
  connect s := (.ok (), ([], s.2))
  cursor := pure ()
  execute query params s :=
    (.ok (), (s.1 ++ [⟨(query, params), statementEffect (query, params)⟩], s.2))
  description _ := none
  rowcount _ := 1
  fetchmany _ := pure []
  commit s := (.ok (), if s.1.isEmpty then s else ([], s.2 ++ [s.1]))
  exitCursor _ := pure ()
  exitConnection
    | none => pure ()
    | some _ => fun s => (.ok (), ([], s.2))

def counterAccess : Access Pending (List Pending) Nat := ⟨id, id⟩

theorem transactional_counter {sends : Json.Text → Prop} :
    Transactional counter counterAccess.store sends where
  connect _ := .of_apply rfl (fun _ _ => ⟨rfl, rfl⟩) (by rintro _ ⟨⟩)
  cursor _ := .pure rfl
  execute _ _ _ := .of_apply rfl (fun _ _ => ⟨_, rfl⟩) (by rintro _ ⟨⟩)
  setTimeout _ _ := .of_apply rfl (fun _ _ => rfl) (by rintro _ ⟨⟩)
  fetchmany _ _ := .pure rfl
  commit s := by
    refine .of_apply rfl (fun _ _ => ?_) (by rintro _ ⟨⟩)
    by_cases hopen : s.1.isEmpty = true <;>
      simp [Store.commit, Access.store, counterAccess, hopen]
  exitCursor _ := .pure rfl
  exitCursorRaising _ _ := .pure rfl
  exitConnection _ _ := .pure rfl
  exitConnectionRaising _ _ := .of_apply rfl (fun _ _ => rfl) (by rintro _ ⟨⟩)

def counterGateway : Gateway Pending (List Pending) where
  sqlglot := .ofTable [("DELETE FROM users WHERE id = 7", [some deleteById])]
  registry := .registerAll dialect ruleClasses
  psycopg := counter
  queryTimeoutMs := 5000
  maxResults := 100
  maxSampleRows := 20

def deleteRequest (i : Nat) : Request where
  queryText := .str "DELETE FROM users WHERE id = 7"
  requestId := toString i
  clock := ⟨"2026-01-01T00:00:00+00:00", ⟨false, 1, [.last 9], none⟩⟩

/-- Neither request makes two calls in a row. -/
def afterBoth : State Pending (List Pending) Nat :=
  (List.replicate 12 [0, 1]).flatten.foldl (Interleaving.State.turn counterAccess.setting)
    (start counterGateway deleteRequest (fun _ => []) [])

theorem run_afterBoth : ∃ turns, Transition.Run (Interleaving.Step counterAccess.setting)
    (start counterGateway deleteRequest (fun _ => []) []) turns afterBoth :=
  Interleaving.run_turns _ _

section Results

variable {ι : Type} [DecidableEq ι] {gateway : Gateway Connection Database}
  {access : Access Connection Database Data}

/-- In whatever order the requests make their calls: what the database has committed and what the
recorder was handed are their happenings in one order, and of each request at most one transaction,
committed before its entry, and an allowed entry only with it. -/
theorem requests_interleave (h : Transactional gateway.psycopg access.store gateway.Accepts)
    (requests : ι → Request) (connections : ι → Connection) (database : Database)
    {turns : List ι} {s : State Connection Database ι}
    (hrun : Transition.Run (Interleaving.Step access.setting)
      (start gateway requests connections database) turns s) :
    ∃ order : List (ι × Happening Data),
      access.transactions s.shared.1 = access.transactions database ++
          (order.map Prod.snd).filterMap Happening.transaction? ∧
        s.shared.2 = (order.map Prod.snd).filterMap Happening.entry? ∧
        ∀ i, Traced gateway (requests i) (Interleaving.eventsOf order i) ∧
          ∀ result, s.thread i = .done result →
            Ended gateway (requests i) result (Interleaving.eventsOf order i) := by
  obtain ⟨order, horder⟩ := exists_inOrder h hrun
  obtain ⟨htransactions, hrecorded⟩ := log_of_inOrder horder
  refine ⟨order, htransactions, hrecorded, fun i => ⟨(horder.within i).always, fun result hdone => ?_⟩⟩
  have hended := horder.within i
  rw [hdone] at hended
  exact hended.2

theorem requests_interleave_afterBoth : ∃ order : List (Nat × Happening Nat),
    afterBoth.shared.1 = (order.map Prod.snd).filterMap Happening.transaction? ∧
      afterBoth.shared.1.length = 2 ∧ afterBoth.shared.2.length = 2 ∧
        ∀ i, Traced counterGateway (deleteRequest i) (Interleaving.eventsOf order i) := by
  obtain ⟨turns, hrun⟩ := run_afterBoth
  obtain ⟨order, htransactions, -, hrequests⟩ :=
    requests_interleave transactional_counter deleteRequest (fun _ => []) [] hrun
  exact ⟨order, htransactions, rfl, rfl, fun i => (hrequests i).1⟩

/-- Whatever is committed while requests come and go is one statement that meets every rule. -/
theorem committed_meets_rules {classes : List RuleClass} (horder : classes.Perm ruleClasses)
    (hregistry : gateway.registry = .registerAll dialect classes)
    (h : Transactional gateway.psycopg access.store gateway.Accepts) (requests : ι → Request)
    (connections : ι → Connection) (database : Database) {turns : List ι}
    {s : State Connection Database ι}
    (hrun : Transition.Run (Interleaving.Step access.setting)
      (start gateway requests connections database) turns s) :
    ∀ transaction ∈ access.transactions s.shared.1, transaction ∈ access.transactions database ∨
      ∃ queryText statement, ∃ effect : Data → Data,
        transaction = requestTransaction gateway.queryTimeoutMs queryText effect ∧
          gateway.sqlglot.statements queryText dialect = [statement] ∧ MeetsRules statement := by
  obtain ⟨order, hinOrder⟩ := exists_inOrder h hrun
  intro transaction hmem
  rw [(log_of_inOrder hinOrder).1, List.mem_append, List.mem_filterMap] at hmem
  refine hmem.imp_right ?_
  rintro ⟨happening, hhappening, htransaction⟩
  obtain ⟨event, hevent, rfl⟩ := List.mem_map.mp hhappening
  have hcommitted : event.2 = .committed transaction := by
    cases hcase : event.2 with
    | committed other =>
      rw [hcase] at htransaction
      exact congrArg Happening.committed (Option.some.inj htransaction)
    | recorded entry =>
      rw [hcase] at htransaction
      cases htransaction
  have hcommits := commits_of_traced (hinOrder.within event.1).always
    (hcommitted ▸ mem_eventsOf hevent)
  cases hcommits with
  | @accepted queryText effect _ haccepts =>
    rw [hregistry] at haccepts
    obtain ⟨-, statement, hstatement, hrules⟩ :=
      (accepts_registered_iff horder gateway.sqlglot queryText).mp haccepts
    exact ⟨queryText, statement, effect, rfl, hstatement, hrules⟩

theorem committed_meets_rules_afterBoth : ∃ transaction ∈ afterBoth.shared.1,
    ∃ queryText statement, ∃ effect : Nat → Nat,
      transaction = requestTransaction 5000 queryText effect ∧
        counterGateway.sqlglot.statements queryText dialect = [statement] ∧
          MeetsRules statement := by
  obtain ⟨turns, hrun⟩ := run_afterBoth
  have hlength : 0 < afterBoth.shared.1.length := Nat.succ_pos 1
  obtain ⟨transaction, hmem⟩ := List.exists_mem_of_length_pos hlength
  exact ⟨transaction, hmem, (committed_meets_rules (List.Perm.refl _) rfl transactional_counter
    deleteRequest (fun _ => []) [] hrun transaction hmem).resolve_left nofun⟩

/-- A request whose calls are not interrupted does what the use case does in one go. -/
theorem request_alone (requests : ι → Request) {s : State Connection Database ι} {i : ι}
    (hnew : s.thread i = gateway.program (requests i)) :
    ∃ turns s', Transition.Run (Interleaving.Step access.setting) s turns s' ∧
      ∃ result w', ExecuteQueryUseCase.execute
          (accessGuard gateway.sqlglot gateway.registry gateway.psycopg gateway.queryTimeoutMs
            gateway.maxResults) (requests i).clock gateway.maxSampleRows (requests i).queryText
          (requests i).requestId ⟨(s.part i, s.shared.1), s.shared.2⟩ = (result, w') ∧
        s'.thread = Function.update s.thread i (.done result) ∧
        s'.shared = (w'.outer.2, w'.recorded) := by
  obtain ⟨turns, hrun⟩ : ∃ turns, Transition.Run (Interleaving.Step access.setting) s turns
      (s.alone access.setting i) := Interleaving.run_alone s i
  refine ⟨turns, _, hrun, _, _, (congrFun (RequestProgram.run_execute _ _ _ _ _ _ _ _ _) _).symm,
    ?_, ?_⟩
  · simp only [Interleaving.State.alone, hnew]
    rfl
  · simp only [Interleaving.State.alone, hnew]
    rfl

theorem request_alone_counter : ∃ turns s', Transition.Run
    (Interleaving.Step counterAccess.setting)
      (start counterGateway deleteRequest (fun _ => []) []) turns s' ∧ s'.shared.1.length = 1 := by
  have hnew : (start counterGateway deleteRequest (fun _ => []) []).thread 1 =
    counterGateway.program (deleteRequest 1) := rfl
  obtain ⟨turns, s', hrun, result, w', hexecute, -, hshared⟩ := request_alone deleteRequest hnew
  refine ⟨turns, s', hrun, ?_⟩
  have houter : w'.outer.2.length = 1 := congrArg (fun ending => ending.2.outer.2.length) hexecute.symm
  rw [hshared]
  exact houter

end Results

end SqlGateway.Postgres.ConcurrentRequests
