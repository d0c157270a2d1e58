import SqlGateway.Core
import SqlGateway.Library.Escaping
import SqlGateway.Library.JsText

/-! The cards of the observability page: what its script makes of one entry -/

namespace SqlGateway.Http.Card

open Json (CodePoint Text)
open JsText (captured matchFront matchWord word blanks someBlanks ofChars)
open Regex (Pattern)

/-- What the script leaves to the browser. A number is known by the literal that `JSON.parse`
has read it from; `inherited` is the text of what an object has without own properties. -/
structure Browser where
  numberText : List Char → List Char
  toFixedOne : List Char → List Char
  inherited : String → Option Text

def html (s : String) : Text := .ofString s

def replaceAll (c : Char) (replacement : String) (text : Text) : Text :=
  Escaping.replaceAll (.char c) (html replacement) text

def escapeHtml : Option Text → Text
  | none => []
  | some value =>
    replaceAll '\'' "&#039;" (replaceAll '"' "&quot;" (replaceAll '>' "&gt;"
      (replaceAll '<' "&lt;" (replaceAll '&' "&amp;" value))))

/-- The characters that are replaced, in the order of the passes. -/
def entities : List (CodePoint × Text) :=
  [(.char '&', html "&amp;"), (.char '<', html "&lt;"), (.char '>', html "&gt;"),
    (.char '"', html "&quot;"), (.char '\'', html "&#039;")]

def rejectionMessages : List (String × String) :=
  [("empty_query", "The query was empty."),
    ("parse_error", "The query could not be parsed."),
    ("multi_statement", "Multiple statements in one request are not allowed."),
    ("root_not_allowed",
      "Only SELECT, INSERT, UPDATE, or DELETE are allowed at the statement root."),
    ("forbidden_construct",
      "DDL or transaction-control statements are not allowed anywhere in the tree."),
    ("select_into", "SELECT ... INTO new_table is not allowed."),
    ("data_modifying_cte", "CTEs that INSERT, UPDATE, or DELETE are not allowed."),
    ("unbounded_write", "UPDATE and DELETE must include a WHERE clause."),
    ("dangerous_function",
      "The query uses a filesystem, process, or network function that is blocked."),
    ("payload_type_mismatch",
      "The query payload shape does not match the selected database adapter.")]

/-- A string that `if (value)` lets pass. -/
def nonEmpty (value : Option String) : Option String := value.filter fun s => s ≠ ""

def nonEmptyText (value : Option Text) : Option Text := value.filter fun text => !text.isEmpty

def humaniseRejection (browser : Browser) (code : Option String) : Text :=
  match nonEmpty code with
  | none => html "Query rejected."
  | some code =>
    match rejectionMessages.lookup code with
    | some message => html message
    | none => (browser.inherited code).getD (html "Query rejected.")

def prettyQuery (query : String) : Text := html (if query = "" then "(empty string)" else query)

structure Outcome where
  kind : String
  label : String
  icon : String

def outcomeFor (entry : ObservabilityEntryDto) : Outcome :=
  match entry.decision with
  | .allowed => ⟨"allowed", "Allowed · 200", "check_circle"⟩
  | .rejected => ⟨"rejected", "Rejected · 400", "block"⟩
  | .dbError => ⟨"db_error", "DB error · 502", "error"⟩

/-- `^\s*(SELECT|INSERT|...)\b`. -/
def keywordPattern : Pattern :=
  .seqs [blanks,
    .group 1 (.alts (word "SELECT") [word "INSERT", word "UPDATE", word "DELETE", word "DROP",
      word "ALTER", word "CREATE", word "TRUNCATE", word "VACUUM", word "WITH"]),
    .notAhead (.char JsText.isWord)]

/-- The name after the first such word: `\bFROM\s+([a-zA-Z_]\w*)`. -/
def nameAfter (keyword : String) (text : List Char) : Option (List Char) :=
  captured (matchWord (.seqs [word keyword, someBlanks, JsText.name]) false text)

/-- `^\s*DROP\s+(?:(?:TABLE|VIEW)\s+)?([a-zA-Z_]\w*)`. -/
def objectPattern (keyword : String) (first : Pattern) (others : List Pattern) : Pattern :=
  .seqs [blanks, word keyword, someBlanks, .optional (.seq (.alts first others) someBlanks),
    JsText.name]

/-- `\bSELECT\s+\*`. -/
def starPattern : Pattern := .seqs [word "SELECT", someBlanks, .lit '*']

/-- `\bSELECT\s+([a-zA-Z_]\w*)\s*\(`. -/
def callPattern : Pattern := .seqs [word "SELECT", someBlanks, JsText.name, blanks, .lit '(']

/-- `;\s*\S`. -/
def stackedPattern : Pattern := .seqs [.lit ';', blanks, .char fun c => !JsText.isSpace c]

def shortTitle (keyword : String) (table : Option (List Char)) (trimmed : List Char) : Text :=
  if Regex.search stackedPattern trimmed then html (keyword ++ " + stacked stmt")
  else match table with
    | some table => html (keyword ++ " ") ++ ofChars table
    | none => html keyword

def selectTitle (trimmed : List Char) : Text :=
  match nameAfter "INTO" trimmed with
  | some target => html "SELECT INTO " ++ ofChars target
  | none =>
    match nameAfter "FROM" trimmed with
    | some table =>
      if (matchWord starPattern false trimmed).isSome then html "SELECT * FROM " ++ ofChars table
      else shortTitle "SELECT" (some table) trimmed
    | none =>
      match captured (matchWord callPattern false trimmed) with
      | some function => html "SELECT " ++ ofChars function ++ html "(…)"
      | none => shortTitle "SELECT" none trimmed

def titleFor (keyword : String) (trimmed : List Char) : Text :=
  if keyword = "SELECT" then selectTitle trimmed
  else if keyword = "INSERT" then shortTitle keyword (nameAfter "INTO" trimmed) trimmed
  else if keyword = "UPDATE" then shortTitle keyword (nameAfter "UPDATE" trimmed) trimmed
  else if keyword = "DELETE" then shortTitle keyword (nameAfter "FROM" trimmed) trimmed
  else if keyword = "DROP" ∨ keyword = "TRUNCATE" ∨ keyword = "ALTER" then
    let found := matchFront
      (objectPattern keyword (word "TABLE") [word "VIEW", word "INDEX", word "SEQUENCE"]) trimmed
    shortTitle keyword (captured found) trimmed
  else if keyword = "CREATE" then
    let found := matchFront (objectPattern keyword (word "TABLE") [word "VIEW", word "INDEX"]) trimmed
    shortTitle keyword (captured found) trimmed
  else if keyword = "VACUUM" then shortTitle keyword (nameAfter "VACUUM" trimmed) trimmed
  else if keyword = "WITH" then html "WITH (CTE)"
  else shortTitle keyword none trimmed

def deriveTitle (query : String) : Text :=
  let trimmed := JsText.trim query.toList
  if trimmed.isEmpty then html "Empty query"
  else match captured (matchFront keywordPattern trimmed) with
    | none =>
      if JsText.length trimmed ≤ 48 then ofChars trimmed else JsText.slice 45 trimmed ++ html "…"
    | some keyword => titleFor (.ofList (keyword.map Char.toUpper)) trimmed

def numberText (browser : Browser) (i : Int) : Text := ofChars (browser.numberText (Json.intText i))

def pluralise (browser : Browser) (count : Int) (noun : String) : Text :=
  numberText browser count ++ html (" " ++ noun ++ if count = 1 then "" else "s")

/-- The counts that `if (count)` and `count > 0` let pass. -/
def rowsReturned (entry : ObservabilityEntryDto) : Option Nat :=
  entry.rowsReturned.filter fun count => count ≠ 0

def columnCount (entry : ObservabilityEntryDto) : Option Nat :=
  (entry.columns.map List.length).filter fun count => count ≠ 0

def rowsAffected (entry : ObservabilityEntryDto) : Option Int :=
  entry.rowsAffected.filter fun count => 0 < count

def wereTruncated (entry : ObservabilityEntryDto) : Bool := entry.rowsWereTruncated.getD false

def descriptionParts (browser : Browser) (entry : ObservabilityEntryDto) : List Text :=
  (match rowsReturned entry with
    | some rows =>
      (pluralise browser rows "row" ++ html " returned") ::
        ((columnCount entry).map fun count : Nat => pluralise browser count "column").toList
    | none => []) ++
  ((rowsAffected entry).map fun count =>
    pluralise browser count "row" ++ html " affected").toList ++
  if wereTruncated entry then [html "result truncated"] else []

def deriveDescription (browser : Browser) (entry : ObservabilityEntryDto) : Text :=
  match entry.decision with
  | .allowed =>
    let parts := descriptionParts browser entry
    if parts.isEmpty then html "Allowed. No data returned."
    else html "Allowed. " ++ (html ", ").intercalate parts ++ html "."
  | .rejected =>
    match nonEmpty entry.rejectionCode with
    | some code => humaniseRejection browser (some code)
    | none => html "Gateway rejected the query."
  | .dbError =>
    match nonEmpty entry.dbErrorMessage with
    | some message => html message
    | none => html "Database returned an error."

def categoryLabel (entry : ObservabilityEntryDto) : Text :=
  match entry.decision with
  | .allowed => html "Allowed request"
  | .rejected => html "Gateway rejection"
  | .dbError => html "Database error"

def statChip (browser : Browser) (count : Int) (one many : String) : Text :=
  html "<span class=\"stat-chip\"><strong>" ++ numberText browser count ++ html "</strong> " ++
    html (if count = 1 then one else many) ++ html "</span>"

def chips (browser : Browser) (entry : ObservabilityEntryDto) : List Text :=
  ((rowsReturned entry).map fun count : Nat =>
    statChip browser count "row returned" "rows returned").toList ++
  ((columnCount entry).map fun count : Nat => statChip browser count "column" "columns").toList ++
  ((rowsAffected entry).map fun count =>
    statChip browser count "row affected" "rows affected").toList ++
  if wereTruncated entry then [html "<span class=\"stat-chip\">truncated</span>"] else []

def resultSummary (parts : List Text) : Text :=
  html "<div class=\"result-summary\">" ++ parts.flatten ++ html "</div>"

def reasonChip (label : String) (reason : String) : Text :=
  html ("<span class=\"reason-chip\">" ++ label) ++ escapeHtml (some (html reason)) ++ html "</span>"

def resultMessage (message : Text) : Text :=
  html "<p class=\"result-message\">" ++ escapeHtml (some message) ++ html "</p>"

def resultDetail (detail : Text) : Text :=
  html "<p class=\"result-detail\">detail: <code>" ++ escapeHtml (some detail) ++
    html "</code></p>"

def buildCompactResultHtml (browser : Browser) (entry : ObservabilityEntryDto)
    (outcome : Outcome) : Text :=
  if outcome.kind = "allowed" then
    let chips := chips browser entry
    resultSummary
      (if chips.isEmpty then [html "<span class=\"stat-chip muted\">no data</span>"] else chips)
  else if outcome.kind = "rejected" then
    resultSummary (((nonEmpty entry.rejectionCode).map (reasonChip "")).toList ++
      [resultMessage (humaniseRejection browser entry.rejectionCode)] ++
      ((nonEmptyText entry.rejectionDetail).map resultDetail).toList)
  else if outcome.kind = "db_error" then
    resultSummary (((nonEmpty entry.dbErrorCode).map (reasonChip "SQLSTATE ")).toList ++
      ((nonEmpty entry.dbErrorMessage).map fun message => resultMessage (html message)).toList)
  else []

structure Section where
  className : String
  outcome : String
  requestId : String
  innerHtml : Text

def durationText (browser : Browser) (entry : ObservabilityEntryDto) : Text :=
  match entry.durationMs with
  | some durationMs => ofChars (browser.toFixedOne durationMs.text) ++ html " ms"
  | none => html "—"

def rawJson (browser : Browser) (entry : ObservabilityEntryDto) : Text :=
  ofChars (JsText.stringify browser.numberText 0 entry.toJsonPayload)

/-- `String(index).padStart(2, "0")`. -/
def indexText (browser : Browser) (index : Nat) : Text :=
  (numberText browser index).leftpad 2 (.char '0')

def statusTag (outcome : Outcome) : Text :=
  html "<span class=\"chip status " ++ html outcome.kind ++ html "\">"

def innerHtml (browser : Browser) (entry : ObservabilityEntryDto) (index : Nat) : Text :=
  let outcome := outcomeFor entry
  html "
          <div class=\"card-row card-top\">
            <span class=\"category\">" ++ escapeHtml (some (categoryLabel entry)) ++ html "</span>
            <span class=\"card-index\">#" ++ indexText browser index ++ html "</span>
          </div>
          <h3 class=\"card-row card-title\">" ++
    escapeHtml (some (deriveTitle entry.redactedQuery)) ++ html "</h3>
          <p class=\"card-row card-desc\">" ++
    escapeHtml (some (deriveDescription browser entry)) ++ html "</p>
          <div class=\"card-row card-meta-row\">
            " ++ statusTag outcome ++ html "
              <span class=\"material-symbols-rounded\">" ++ html outcome.icon ++ html "</span>
              <span>" ++ escapeHtml (some (html outcome.label)) ++ html "</span>
            </span>
            <span class=\"duration\">" ++ escapeHtml (some (durationText browser entry)) ++
    html "</span>
          </div>
          <div class=\"card-row block query-block\">
            <div class=\"block-heading\">
              <span class=\"material-symbols-rounded\">terminal</span>
              <span>Query</span>
            </div>
            <pre class=\"query\">" ++ escapeHtml (some (prettyQuery entry.redactedQuery)) ++
    html "</pre>
          </div>
          <div class=\"card-row block result-block\">
            <div class=\"block-heading\">
              <span class=\"material-symbols-rounded\">bolt</span>
              <span>Result</span>
            </div>
            " ++ buildCompactResultHtml browser entry outcome ++ html "
            <details class=\"raw\">
              <summary>
                <span class=\"material-symbols-rounded\">data_object</span>
                <span>Raw response</span>
                <span class=\"material-symbols-rounded chevron\">expand_more</span>
              </summary>
              <pre class=\"response\">" ++ escapeHtml (some (rawJson browser entry)) ++ html "</pre>
            </details>
          </div>
        "

def buildCard (browser : Browser) (entry : ObservabilityEntryDto) (index : Nat) : Section where
  className := "card " ++ (outcomeFor entry).kind
  outcome := (outcomeFor entry).kind
  requestId := entry.requestId
  innerHtml := innerHtml browser entry index

end SqlGateway.Http.Card
