import SqlGateway.Http.Gateway
import SqlGateway.Postgres.Ping

namespace SqlGateway.Http

open Interleaving (Within)
open Postgres (PingPsycopg Probing RequestProgram ping probedCounter probeStatement
  probing_probedCounter within_ping)
open Postgres.ConcurrentRequests
open Postgres.QueryExecutor (Statement Transactional)
open Transaction (Applied Store)

section Endpoints

variable {σ : Type}

structure ReadinessReportDto where
  isReady : Bool

def CheckReadinessUseCase.check (psycopg : PingPsycopg σ) : RequestProgram σ ReadinessReportDto := do
  let isReady ← ping psycopg
  return { isReady }

inductive ReadinessEnum
  | ready | notReady

def ReadinessEnum.value : ReadinessEnum → String
  | .ready => "ready"
  | .notReady => "not_ready"

inductive DatabaseStatusEnum
  | up | down

def DatabaseStatusEnum.value : DatabaseStatusEnum → String
  | .up => "up"
  | .down => "down"

structure ReadinessResponse where
  status : ReadinessEnum
  database : DatabaseStatusEnum

def ReadinessResponse.modelDump (payload : ReadinessResponse) : Json.Value :=
  .object [("status", .ofString payload.status.value), ("database", .ofString payload.database.value)]

def buildReadinessResponse (report : ReadinessReportDto) : Except PyException JsonResponse :=
  let payload : ReadinessResponse :=
    { status := if report.isReady then .ready else .notReady
      database := if report.isReady then .up else .down }
  jsonResponse (if report.isReady then 200 else 503) payload.modelDump

def readinessEndpoint (psycopg : PingPsycopg σ) : RequestProgram σ JsonResponse := do
  let report ← CheckReadinessUseCase.check psycopg
  .done (buildReadinessResponse report)

/-- FastAPI's own encoding of a `HealthResponse`. -/
def healthEndpoint : RequestProgram σ JsonResponse :=
  pure { statusCode := 200, content := .object [("status", .ofString "ok")] }

def minQueryTextLength : Nat := 1

def maxQueryTextLength : Nat := 64000

def valueError (message : String) : PyException := .other "ValueError" message

/-- The validator of `QueryRequest`; what FastAPI answers when it raises is not modelled. -/
def rejectEmptyAndOversize : QueryPayload → Except PyException QueryPayload
  | .str text =>
    if text.length < minQueryTextLength then
      .error (valueError "query_text string must not be empty")
    else if text.length > maxQueryTextLength then
      .error (valueError s!"query_text string must be at most {maxQueryTextLength} chars")
    else .ok (.str text)
  | .dict fields =>
    if fields.isEmpty then .error (valueError "query_text object or array must not be empty")
    else .ok (.dict fields)
  | .list items =>
    if items.isEmpty then .error (valueError "query_text object or array must not be empty")
    else .ok (.list items)

end Endpoints

namespace Service

variable {Connection Database Data : Type}

inductive Call
  | query (request : Request)
  | readiness
  | health

structure Setup (Connection Database : Type) where
  sqlglot : Sql.Sqlglot
  registry : Sql.RuleRegistry
  psycopg : PingPsycopg (Connection × Database)
  queryTimeoutMs : Nat
  maxResults : Nat
  maxSampleRows : Nat

def Setup.gateway (setup : Setup Connection Database) : Gateway Connection Database :=
  { setup with psycopg := setup.psycopg.toPsycopg }

def queryEndpoint (setup : Setup Connection Database) (request : Request) :
    RequestProgram (Connection × Database) JsonResponse := do
  let queryText ← .done (rejectEmptyAndOversize request.queryText)
  let result ← setup.gateway.program { request with queryText }
  .done (GatewayHttpController.buildResponse result)

theorem run_queryEndpoint (setup : Setup Connection Database) {request : Request}
    (h : rejectEmptyAndOversize request.queryText = .ok request.queryText) :
    (queryEndpoint setup request).run =
      GatewayHttpController.executeQueryEndpoint
        (Postgres.accessGuard setup.sqlglot setup.registry setup.psycopg.toPsycopg
          setup.queryTimeoutMs setup.maxResults) request.clock setup.maxSampleRows
        request.queryText request.requestId := by
  rw [queryEndpoint, h]
  change (setup.gateway.program request >>= fun result =>
    Program.done (GatewayHttpController.buildResponse result)).run = _
  rw [Program.run_bind, Gateway.program, Postgres.RequestProgram.run_execute]
  rfl

def Call.program (setup : Setup Connection Database) :
    Call → RequestProgram (Connection × Database) JsonResponse
  | .query request => queryEndpoint setup request
  | .readiness => readinessEndpoint setup.psycopg
  | .health => healthEndpoint

def statusOf : DecisionEnum → Nat
  | .rejected => 400
  | .allowed => 200
  | .dbError => 502

open GatewayHttpController in
/-- The body of the response to a result. -/
def contentOf (result : ExecuteQueryResultDto) : Option Json.Value :=
  match result.decision with
  | .rejected => result.validationResult.map fun validationResult =>
    (rejectedPayload result.requestId validationResult).modelDump
  | .allowed => result.queryOutcome.map fun outcome =>
    (allowedPayload result.requestId outcome).modelDump
  | .dbError => result.queryOutcome.map fun outcome =>
    (dbErrorPayload result.requestId outcome).modelDump

section Calls

variable (gateway : Gateway Connection Database)

/-- What others can have seen of a call at any time. -/
inductive Shown : Call → List (Happening Data) → Prop
  | query {request : Request} {events : List (Happening Data)} :
    Traced gateway request events → Shown (.query request) events
  | nothing {call : Call} : Shown call []
  | probed : Shown .readiness [.committed [probeStatement]]

/-- What they have seen of it when it is over, and what it was answered. A call that raises has
done nothing, unless it is a query whose result has a value that no response can hold: NaN, an
infinity or a lone surrogate. -/
inductive Answered : Call → Except PyException JsonResponse → List (Happening Data) → Prop
  | raised {call : Call} {exception : PyException} : Answered call (.error exception) []
  | query {request : Request} {result : ExecuteQueryResultDto} {content : Json.Value}
      {events : List (Happening Data)} :
    rejectEmptyAndOversize request.queryText = .ok request.queryText →
    Ended gateway request (.ok result) events → contentOf result = some content →
    (content.isStrict && content.isEncodable) = true →
    Answered (.query request) (.ok ⟨statusOf result.decision, content⟩) events
  | unsendable {request : Request} {result : ExecuteQueryResultDto} {content : Json.Value}
      {exception : PyException} {events : List (Happening Data)} :
    rejectEmptyAndOversize request.queryText = .ok request.queryText →
    Ended gateway request (.ok result) events → contentOf result = some content →
    (content.isStrict && content.isEncodable) = false →
    Answered (.query request) (.error exception) events
  | ready {response : JsonResponse} : buildReadinessResponse ⟨true⟩ = .ok response →
    Answered .readiness (.ok response) [.committed [probeStatement]]
  | notReady {response : JsonResponse} {events : List (Happening Data)} :
    buildReadinessResponse ⟨false⟩ = .ok response → Shown gateway .readiness events →
    Answered .readiness (.ok response) events
  | healthy {response : JsonResponse} : response.statusCode = 200 →
    Answered .health (.ok response) []

variable {gateway} {access : Access Connection Database Data} {setup : Setup Connection Database}
  {P : List (Happening Data) → Prop}

theorem Ended.isComplete {request : Request} {result : ExecuteQueryResultDto}
    {events : List (Happening Data)} (h : Ended gateway request (.ok result) events) :
    result.isComplete = true := by
  cases h with
  | refused _ _ _ hcomplete => exact hcomplete
  | allowed _ _ _ _ hcomplete => exact hcomplete

/-- A complete result meets the assertions, and it is up to `JSONResponse` whether it is sent. -/
theorem buildResponse_eq {result : ExecuteQueryResultDto} (h : result.isComplete = true) :
    ∃ content, contentOf result = some content ∧ GatewayHttpController.buildResponse result =
      jsonResponse (statusOf result.decision) content := by
  obtain ⟨decision, requestId, redactedQuery, durationMs, validationResult, queryOutcome⟩ := result
  cases decision with
  | rejected =>
    obtain ⟨verdict, rfl⟩ := Option.isSome_iff_exists.mp h
    exact ⟨_, rfl, rfl⟩
  | allowed =>
    obtain ⟨outcome, rfl⟩ := Option.isSome_iff_exists.mp h
    exact ⟨_, rfl, rfl⟩
  | dbError =>
    obtain ⟨outcome, rfl⟩ := Option.isSome_iff_exists.mp h
    exact ⟨_, rfl, rfl⟩

theorem answered_of_ended {request : Request} {result : ExecuteQueryResultDto}
    {events : List (Happening Data)}
    (hvalid : rejectEmptyAndOversize request.queryText = .ok request.queryText)
    (h : Ended gateway request (.ok result) events) :
    Answered gateway (.query request) (GatewayHttpController.buildResponse result) events := by
  obtain ⟨content, hcontent, hbuild⟩ := buildResponse_eq (Ended.isComplete h)
  rw [hbuild]
  unfold jsonResponse
  split_ifs with hstrict hencodable
  · exact .unsendable hvalid h hcontent (by simp_all)
  · exact .unsendable hvalid h hcontent (by simp_all)
  · exact .query hvalid h hcontent (by simp_all)

theorem rejectEmptyAndOversize_ok {payload payload' : QueryPayload}
    (h : rejectEmptyAndOversize payload = .ok payload') : payload' = payload := by
  unfold rejectEmptyAndOversize at h
  split at h <;> split_ifs at h <;> cases h <;> rfl

theorem within_readiness {psycopg : PingPsycopg (Connection × Database)}
    {sends : Json.Text → Prop} (h : Probing psycopg access.store sends) (connection : Connection) :
    Within access.setting (Shown gateway .readiness)
      (fun answer _ events => Answered gateway .readiness answer events)
      (readinessEndpoint psycopg) connection [] := by
  have hraised : ∀ {α : Type} {R : α → Connection → List (Happening Data) → Prop} (e : PyException)
      (connection : Connection) (events : List (Happening Data)),
      Post R (.error e) connection events →
        Answered gateway .readiness (.error e) events := by
    rintro α R e connection events (rfl : events = [])
    exact .raised
  have hcheck : Within access.setting (Shown gateway .readiness) (Post fun report _ events =>
      events = [.committed [probeStatement]] ∨ report.isReady = false ∧ events = [])
      (CheckReadinessUseCase.check psycopg) connection [] :=
    within_bind (within_ping h .nothing .probed connection)
      fun _ _ _ hP hevents => ⟨hP, hevents⟩
  apply hcheck.bind _ hraised
  rintro ⟨isReady⟩ c events hP hevents
  refine ⟨hP, ?_⟩
  cases isReady with
  | false => exact .notReady rfl hP
  | true =>
    obtain rfl : events = [.committed [probeStatement]] := hevents.resolve_right nofun
    exact .ready rfl

theorem within_query (h : Transactional setup.gateway.psycopg access.store setup.gateway.Accepts)
    (request : Request) (connection : Connection) :
    Within access.setting (Shown setup.gateway (.query request))
      (fun answer _ events => Answered setup.gateway (.query request) answer events)
      (queryEndpoint setup request) connection [] := by
  unfold queryEndpoint
  cases hvalid : rejectEmptyAndOversize request.queryText with
  | error exception => exact ⟨.nothing, .raised⟩
  | ok queryText =>
    cases rejectEmptyAndOversize_ok hvalid
    apply ((within_program h connection).weaken fun _ => Shown.query).bind
    · intro result c events hP hended
      exact ⟨hP, answered_of_ended hvalid hended⟩
    · intro exception c events hended
      cases hended
      exact .raised

theorem within_call (h : Probing setup.psycopg access.store setup.gateway.Accepts) (call : Call)
    (connection : Connection) :
    Within access.setting (Shown setup.gateway call)
      (fun answer _ events => Answered setup.gateway call answer events) (call.program setup)
      connection [] := by
  cases call with
  | query request => exact within_query h.toTransactional request connection
  | readiness => exact within_readiness h connection
  | health => exact ⟨.nothing, .healthy rfl⟩

end Calls

section Results

variable {ι : Type} {setup : Setup Connection Database} {access : Access Connection Database Data}

abbrev State (Connection Database ι : Type) :=
  Interleaving.State PyException JsonResponse (World (Connection × Database)) Connection
    (Database × List ObservabilityEntryDto) ι

def start (setup : Setup Connection Database) (calls : ι → Call) (connections : ι → Connection)
    (database : Database) : State Connection Database ι where
  thread i := (calls i).program setup
  part := connections
  shared := (database, [])

def Call.isQuery : Call → Bool
  | .query _ => true
  | .readiness => false
  | .health => false

def transactionsOf (order : List (ι × Happening Data)) (picked : ι → Bool) :
    List (List (Applied Statement Data)) :=
  ((order.filter fun event => picked event.1).map Prod.snd).filterMap Happening.transaction?

theorem applyAll_picked {order : List (ι × Happening Data)} {picked : ι → Bool}
    (h : ∀ event ∈ order, picked event.1 = false → event.2 = .committed [probeStatement])
    (data : Data) :
    Store.applyAll ((order.map Prod.snd).filterMap Happening.transaction?).flatten data =
      Store.applyAll (transactionsOf order picked).flatten data := by
  induction order generalizing data with
  | nil => rfl
  | cons event order ih =>
    obtain ⟨hevent, hothers⟩ := List.forall_mem_cons.mp h
    obtain ⟨i, happening⟩ := event
    cases hpicked : picked i with
    | false =>
      obtain rfl := hevent hpicked
      have hfilter : (((i, Happening.committed [probeStatement]) :: order).filter fun event =>
          picked event.1) = order.filter fun event => picked event.1 := by
        simp [hpicked]
      rw [transactionsOf, hfilter]
      exact ih hothers data
    | true =>
      have hfilter : (((i, happening) :: order).filter fun event => picked event.1) =
          (i, happening) :: order.filter fun event => picked event.1 := by
        simp [hpicked]
      rw [transactionsOf, hfilter]
      cases happening with
      | recorded entry => exact ih hothers data
      | committed transaction =>
        simp only [List.map_cons, List.filterMap_cons, Happening.transaction?, List.flatten_cons,
          Store.applyAll_append]
        exact ih hothers _

variable [DecidableEq ι]

end Results

def probedSetup : Setup Pending (List Pending) where
  sqlglot := counterGateway.sqlglot
  registry := counterGateway.registry
  psycopg := probedCounter
  queryTimeoutMs := 5000
  maxResults := 100
  maxSampleRows := 20

def threeCalls : Nat → Call
  | 0 => .query (deleteRequest 0)
  | 1 => .readiness
  | _ => .health

def afterThree : State Pending (List Pending) Nat :=
  (List.replicate 12 [0, 1, 2]).flatten.foldl (Interleaving.State.turn counterAccess.setting)
    (start probedSetup threeCalls (fun _ => []) [])

end Service

end SqlGateway.Http
