import SqlGateway.Application.ExecuteQuery

namespace SqlGateway.Http

structure QueryRejectedResponse where
  requestId : String
  reason : String
  message : String
  detail : Option Json.Text := none

def QueryRejectedResponse.modelDump (payload : QueryRejectedResponse) : Json.Value :=
  .object
    [("status", .ofString DecisionEnum.rejected.value),
      ("request_id", .ofString payload.requestId),
      ("reason", .ofString payload.reason),
      ("message", .ofString payload.message),
      ("detail", .ofOption (payload.detail.map .string))]

structure QueryResultPayload where
  columns : List String
  rows : List (List Json.Value)
  rowsAffected : Option Int := none
  truncated : Bool := false

def QueryResultPayload.modelDump (payload : QueryResultPayload) : Json.Value :=
  .object
    [("columns", .array (payload.columns.map .ofString)),
      ("rows", .array (payload.rows.map .array)),
      ("rows_affected", .ofOption (payload.rowsAffected.map .int)),
      ("truncated", .bool payload.truncated)]

structure QueryAllowedResponse where
  requestId : String
  result : QueryResultPayload

def QueryAllowedResponse.modelDump (payload : QueryAllowedResponse) : Json.Value :=
  .object
    [("status", .ofString DecisionEnum.allowed.value),
      ("request_id", .ofString payload.requestId),
      ("result", payload.result.modelDump)]

structure QueryDatabaseErrorResponse where
  requestId : String
  reason : Option String := none
  errorCode : Option String := none

def QueryDatabaseErrorResponse.modelDump (payload : QueryDatabaseErrorResponse) : Json.Value :=
  .object
    [("status", .ofString DecisionEnum.dbError.value),
      ("request_id", .ofString payload.requestId),
      ("reason", .ofOption (payload.reason.map .ofString)),
      ("error_code", .ofOption (payload.errorCode.map .ofString))]

structure JsonResponse where
  statusCode : Nat
  content : Json.Value

/-- Starlette's encoder: compact, without escapes, and without NaN. -/
def JsonResponse.body (response : JsonResponse) : List Char := response.content.text ⟨false, true⟩

/-- `JSONResponse(...)`, which encodes its content at once. -/
def jsonResponse (statusCode : Nat) (content : Json.Value) : Except PyException JsonResponse :=
  if !content.isStrict then
    .error (.other "ValueError" "Out of range float values are not JSON compliant")
  else if !content.isEncodable then
    .error (.other "UnicodeEncodeError" "surrogates not allowed")
  else .ok { statusCode, content }

namespace GatewayHttpController

def rejectionMessages : List (String × String) :=
  [("empty_query", "The query was empty."),
    ("parse_error", "The query could not be parsed."),
    ("multi_statement", "Multiple statements in one request are not allowed."),
    ("root_not_allowed",
      "Only SELECT, INSERT, UPDATE, or DELETE are allowed at the statement root."),
    ("forbidden_construct",
      "DDL or transaction-control statements are not allowed anywhere in the tree."),
    ("select_into", "SELECT ... INTO new_table is not allowed."),
    ("data_modifying_cte", "CTEs that INSERT, UPDATE, or DELETE are not allowed."),
    ("unbounded_write", "UPDATE and DELETE must include a WHERE clause."),
    ("dangerous_function",
      "The query uses a filesystem, process, or network function that is blocked."),
    ("payload_type_mismatch",
      "The query payload shape does not match the selected database adapter.")]

def humaniseRejection (code : String) : String :=
  if code = "" then "Query rejected." else (rejectionMessages.lookup code).getD "Query rejected."

def rejectedPayload (requestId : String) (validationResult : ValidationResultDto) :
    QueryRejectedResponse :=
  let rejectionCode := validationResult.rejectionCode.getD ""
  { requestId := requestId
    reason := rejectionCode
    message := humaniseRejection rejectionCode
    detail := validationResult.rejectionDetail }

def allowedPayload (requestId : String) (outcome : QueryOutcomeDto) : QueryAllowedResponse :=
  { requestId := requestId
    result :=
      { columns := outcome.columns
        rows := outcome.rows
        rowsAffected := outcome.rowsAffected
        truncated := outcome.rowsWereTruncated } }

def dbErrorPayload (requestId : String) (outcome : QueryOutcomeDto) :
    QueryDatabaseErrorResponse :=
  { requestId := requestId
    reason := outcome.errorMessage
    errorCode := outcome.errorCode }

def buildRejectedResponse (result : ExecuteQueryResultDto) : Except PyException JsonResponse := do
  let validationResult ← asserted result.validationResult
  jsonResponse 400 (rejectedPayload result.requestId validationResult).modelDump

def buildAllowedResponse (result : ExecuteQueryResultDto) : Except PyException JsonResponse := do
  let outcome ← asserted result.queryOutcome
  jsonResponse 200 (allowedPayload result.requestId outcome).modelDump

def buildDbErrorResponse (result : ExecuteQueryResultDto) : Except PyException JsonResponse := do
  let outcome ← asserted result.queryOutcome
  jsonResponse 502 (dbErrorPayload result.requestId outcome).modelDump

def buildResponse (result : ExecuteQueryResultDto) : Except PyException JsonResponse :=
  if result.decision = .rejected then buildRejectedResponse result
  else if result.decision = .allowed then buildAllowedResponse result
  else buildDbErrorResponse result

variable {σ : Type}

/-- `requestId` is the `str(uuid.uuid4())` of this request. -/
def executeQueryEndpoint (accessGuard : AccessGuard σ) (clock : ClockReadings)
    (maxSampleRows : Nat) (queryText : QueryPayload) (requestId : String) :
    Effect PyException (World σ) JsonResponse := do
  let result ←
    ExecuteQueryUseCase.execute accessGuard clock maxSampleRows queryText requestId
  Effect.ofResult (buildResponse result)

section Responses

open ExecuteQueryUseCase

variable {accessGuard : AccessGuard σ} {queryText : QueryPayload} {redactedQuery : String}
  {verdict : ValidationResultDto} {outcome : QueryOutcomeDto} {w : World σ} {s' : σ}

theorem executeQueryEndpoint_eq {accessGuard : AccessGuard σ} {clock : ClockReadings}
    {maxSampleRows : Nat} {queryText : QueryPayload} {requestId : String} {w w' : World σ}
    {result : ExecuteQueryResultDto}
    (h : execute accessGuard clock maxSampleRows queryText requestId w = (.ok result, w')) :
    executeQueryEndpoint accessGuard clock maxSampleRows queryText requestId w =
      (buildResponse result, w') := by
  rw [executeQueryEndpoint, Effect.bind_ok h]
  rfl

theorem executeQueryEndpoint_rejected
    (h : Runs accessGuard queryText w.outer (.ok (redactedQuery, verdict, none)) s')
    (clock : ClockReadings) (maxSampleRows : Nat) (requestId : String) :
    executeQueryEndpoint accessGuard clock maxSampleRows queryText requestId w =
      (jsonResponse 400 (rejectedPayload requestId verdict).modelDump,
        ⟨s', w.recorded ++ [rejectedEntry clock requestId redactedQuery verdict]⟩) :=
  executeQueryEndpoint_eq (execute_eq h clock maxSampleRows requestId)

theorem executeQueryEndpoint_allowed
    (h : Runs accessGuard queryText w.outer (.ok (redactedQuery, verdict, some outcome)) s')
    (hsucceeded : outcome.succeeded = true)
    (clock : ClockReadings) (maxSampleRows : Nat) (requestId : String) :
    executeQueryEndpoint accessGuard clock maxSampleRows queryText requestId w =
      (jsonResponse 200 (allowedPayload requestId outcome).modelDump,
        ⟨s', w.recorded ++ [allowedEntry clock maxSampleRows requestId redactedQuery outcome]⟩) := by
  have hexecute := execute_eq h clock maxSampleRows requestId
  rw [finish, if_pos hsucceeded] at hexecute
  exact executeQueryEndpoint_eq hexecute

theorem executeQueryEndpoint_dbError
    (h : Runs accessGuard queryText w.outer (.ok (redactedQuery, verdict, some outcome)) s')
    (hsucceeded : outcome.succeeded = false)
    (clock : ClockReadings) (maxSampleRows : Nat) (requestId : String) :
    executeQueryEndpoint accessGuard clock maxSampleRows queryText requestId w =
      (jsonResponse 502 (dbErrorPayload requestId outcome).modelDump,
        ⟨s', w.recorded ++ [dbErrorEntry clock requestId redactedQuery outcome]⟩) := by
  have hexecute := execute_eq h clock maxSampleRows requestId
  rw [finish, hsucceeded, if_neg Bool.false_ne_true] at hexecute
  exact executeQueryEndpoint_eq hexecute

end Responses

end GatewayHttpController

end SqlGateway.Http
