import SqlGateway.Library.Json

namespace SqlGateway

inductive DecisionEnum
  | allowed | rejected | dbError
  deriving DecidableEq

def DecisionEnum.value : DecisionEnum → String
  | .allowed => "allowed"
  | .rejected => "rejected"
  | .dbError => "db_error"

/-- `str | dict[str, Any] | list[Any]`. -/
inductive QueryPayload
  | str (text : Json.Text)
  | dict (fields : List (String × Json.Value))
  | list (items : List Json.Value)

/-- `type(query_text).__name__`. -/
def QueryPayload.typeName : QueryPayload → String
  | .str _ => "str"
  | .dict _ => "dict"
  | .list _ => "list"

structure Diagnostic where
  sqlstate : Option String := none
  messagePrimary : Option String := none
  deriving DecidableEq

structure PsycopgError where
  diag : Option Diagnostic := none
  text : String := ""
  deriving DecidableEq

/-- The exceptions some `except` clause of the gateway tells apart, and all others. -/
inductive PyException
  | sqlglotError (message : Json.Text)
  | psycopgError (error : PsycopgError)
  | other (typeName message : String)
  deriving DecidableEq

/-- The value of an `Optional` after `assert value is not None`. -/
def asserted {α : Type} : Option α → Except PyException α
  | some a => .ok a
  | none => .error (.other "AssertionError" "")

structure ValidationResultDto where
  isAllowed : Bool
  rejectionCode : Option String := none
  rejectionDetail : Option Json.Text := none
  deriving DecidableEq

namespace ValidationResultDto

def allow : ValidationResultDto := { isAllowed := true }

def reject (code : String) (detail : Option Json.Text := none) : ValidationResultDto :=
  { isAllowed := false, rejectionCode := some code, rejectionDetail := detail }

@[simp] theorem allow_isAllowed : allow.isAllowed = true := rfl

@[simp] theorem reject_isAllowed (code : String) (detail : Option Json.Text) :
    (reject code detail).isAllowed = false := rfl

end ValidationResultDto

structure QueryOutcomeDto where
  succeeded : Bool
  columns : List String := []
  rows : List (List Json.Value) := []
  rowsWereTruncated : Bool := false
  rowsAffected : Option Int := none
  errorMessage : Option String := none
  errorCode : Option String := none

structure ObservabilityEntryDto where
  requestId : String
  decision : DecisionEnum
  redactedQuery : String
  rejectionCode : Option String := none
  rejectionDetail : Option Json.Text := none
  dbErrorMessage : Option String := none
  dbErrorCode : Option String := none
  durationMs : Option Json.Decimal := none
  rowsAffected : Option Int := none
  rowsReturned : Option Nat := none
  columns : Option (List String) := none
  rows : Option (List (List Json.Value)) := none
  rowsWereTruncated : Option Bool := none
  timestamp : String

namespace ObservabilityEntryDto

def rowsValue (rows : List (List Json.Value)) : Json.Value := .array (rows.map .array)

/-- `asdict(self).items()` with the `None` values dropped. -/
def items (entry : ObservabilityEntryDto) : List (String × Json.Value) :=
  [("request_id", some (Json.Value.ofString entry.requestId)),
    ("decision", some (.ofString entry.decision.value)),
    ("redacted_query", some (.ofString entry.redactedQuery)),
    ("rejection_code", entry.rejectionCode.map .ofString),
    ("rejection_detail", entry.rejectionDetail.map .string),
    ("db_error_message", entry.dbErrorMessage.map .ofString),
    ("db_error_code", entry.dbErrorCode.map .ofString),
    ("duration_ms", entry.durationMs.map fun ms => .float (.finite ms)),
    ("rows_affected", entry.rowsAffected.map .int),
    ("rows_returned", entry.rowsReturned.map fun (n : Nat) => .int n),
    ("columns", entry.columns.map fun names => .array (names.map .ofString)),
    ("rows", entry.rows.map rowsValue),
    ("rows_were_truncated", entry.rowsWereTruncated.map .bool),
    ("timestamp", some (.ofString entry.timestamp))].filterMap
      fun (key, value) => value.map fun v => (key, v)

def toJsonPayload (entry : ObservabilityEntryDto) (includeResultData : Bool := true) :
    Json.Value :=
  .object (if includeResultData then entry.items
    else entry.items.filter fun (key, _) => key ≠ "rows" && key ≠ "columns")

end ObservabilityEntryDto

structure ExecuteQueryResultDto where
  decision : DecisionEnum
  requestId : String
  redactedQuery : String
  durationMs : Option Json.Decimal := none
  validationResult : Option ValidationResultDto := none
  queryOutcome : Option QueryOutcomeDto := none

/-- It holds what its decision is about. -/
def ExecuteQueryResultDto.isComplete (result : ExecuteQueryResultDto) : Bool :=
  match result.decision with
  | .rejected => result.validationResult.isSome
  | .allowed | .dbError => result.queryOutcome.isSome

end SqlGateway
