import SqlGateway.Core
import SqlGateway.Sql.Expression

namespace SqlGateway.Sql

open Json (Text)

def nonNullStatements (parsedStatements : List (Option Expression)) : List Expression :=
  parsedStatements.filterMap id

/-- `exp.Block`, several statements in one tree. -/
def block (statements : List Expression) : Expression :=
  .node (.other "Block") [] (statements.map fun statement => (.expressions, statement))

/-- The entry points of sqlglot that the gateway calls. `parse` holds `none` for each empty
statement of the text; `sql` is the generator. Of a text with several elements `parse_one` returns
the first one in some releases and all of them in others, the pinned one among them. -/
structure Sqlglot where
  parse (text : Text) (dialect : String) : Except PyException (List (Option Expression))
  parseOne (text : Text) (dialect : String) : Except PyException Expression
  sql (statement : Expression) (dialect : String) : Except PyException String
  parseOne_of_error {text : Text} {dialect : String} {exception : PyException} :
    parse text dialect = .error exception → parseOne text dialect = .error exception
  parseOne_of_empty {text : Text} {dialect : String} {parsed : List (Option Expression)} :
    parse text dialect = .ok parsed → parsed.head?.join = none →
    ∃ message, parseOne text dialect = .error (.sqlglotError message)
  parseOne_of_some {text : Text} {dialect : String} {statement : Expression}
      {rest : List (Option Expression)} :
    parse text dialect = .ok (some statement :: rest) →
    parseOne text dialect = .ok statement ∨
      parseOne text dialect = .ok (block (statement :: nonNullStatements rest))
  sql_block (statement : Expression) (dialect : String) :
    sql (block [statement]) dialect = sql statement dialect

namespace Sqlglot

variable (sqlglot : Sqlglot)

def statements (text : Text) (dialect : String) : List Expression :=
  match sqlglot.parse text dialect with
  | .error _ => []
  | .ok parsed => nonNullStatements parsed

/-- The text parses and its first statement is an empty one. -/
def StartsEmpty (text : Text) (dialect : String) : Prop :=
  ∃ rest, sqlglot.parse text dialect = .ok (none :: rest)

variable {sqlglot}

/-- Of a text that parses, `parse_one` raises no other exception than a `SqlglotError`. -/
theorem exists_message {text : Text} {dialect : String} {parsed : List (Option Expression)}
    (h : sqlglot.parse text dialect = .ok parsed) {exception : PyException}
    (hraised : sqlglot.parseOne text dialect = .error exception) :
    ∃ message, exception = .sqlglotError message := by
  cases hhead : parsed.head?.join with
  | none =>
    obtain ⟨message, hmessage⟩ := sqlglot.parseOne_of_empty h hhead
    rw [hmessage] at hraised
    cases hraised
    exact ⟨message, rfl⟩
  | some statement =>
    obtain ⟨rest, rfl⟩ : ∃ rest, parsed = some statement :: rest := by
      cases parsed with
      | nil => cases hhead
      | cons first rest =>
        obtain rfl : first = some statement := hhead
        exact ⟨rest, rfl⟩
    rcases sqlglot.parseOne_of_some h with hone | hone <;> rw [hone] at hraised <;> cases hraised

end Sqlglot

mutual

/-- The statements of a block one after the other. -/
def renderBlocks (render : Expression → String) : Expression → String
  | .constant form this => render (.constant form this)
  | .node cls scalars args =>
    if cls = .other "Block" then "; ".intercalate (renderArgs render args)
    else render (.node cls scalars args)

def renderArgs (render : Expression → String) : List (ArgKey × Expression) → List String
  | [] => []
  | a :: args => renderArg render a :: renderArgs render args

def renderArg (render : Expression → String) : ArgKey × Expression → String
  | (_, e) => renderBlocks render e

end

theorem renderBlocks_block (render : Expression → String) (statements : List Expression) :
    renderBlocks render (block statements) =
      "; ".intercalate (statements.map (renderBlocks render)) := by
  have hargs : renderArgs render (statements.map fun statement => (.expressions, statement)) =
      statements.map (renderBlocks render) := by
    induction statements with
    | nil => rfl
    | cons statement statements ih => simp [renderArgs, renderArg, ih]
  rw [block, renderBlocks, if_pos rfl, hargs]

def Sqlglot.ofParser (parse : Text → Except PyException (List (Option Expression)))
    (render : Expression → String) : Sqlglot where
  parse text _ := parse text
  parseOne text _ :=
    match parse text with
    | .error exception => .error exception
    | .ok [some statement] => .ok statement
    | .ok (some statement :: rest) => .ok (block (statement :: nonNullStatements rest))
    | .ok _ => .error (.sqlglotError ("No expression was parsed from '" ++ (text ++ "'")))
  sql statement _ := .ok (renderBlocks render statement)
  parseOne_of_error h := by simp [h]
  parseOne_of_empty {text dialect parsed} h hhead := by
    cases parsed with
    | nil => simp [h]
    | cons first rest =>
      obtain rfl : first = none := hhead
      simp [h]
  parseOne_of_some {text dialect statement rest} h := by
    cases rest with
    | nil => simp [h]
    | cons second rest => simp [h]
  sql_block statement dialect := by
    rw [renderBlocks_block]
    simp

end SqlGateway.Sql
