import SqlGateway.Library.PyText
import SqlGateway.Library.Regex
import SqlGateway.Sql.Sqlglot
import SqlGateway.Sql.Substitution

namespace SqlGateway.Sql

open Regex (Pattern)

/-- A letter under `re.IGNORECASE`: its lower case, and the few letters beyond ASCII that
match an ASCII one. -/
def foldCase (c : Char) : Char :=
  if c.toNat = 0x130 ∨ c.toNat = 0x131 then 'i'
  else if c.toNat = 0x17F then 's'
  else if c.toNat = 0x212A then 'k'
  else c.toLower

def caselessWord (word : String) : Pattern :=
  .seqs (word.toList.map fun c => .char fun d => foldCase d = c)

def sensitiveColumnPattern : Pattern :=
  .group 1 (.alts (caselessWord "password")
    [caselessWord "passwd", caselessWord "secret", caselessWord "token",
      .seqs [caselessWord "api", .optional (.oneOf ['_', '-']), caselessWord "key"],
      .seqs [caselessWord "private", .optional (.oneOf ['_', '-']), caselessWord "key"],
      caselessWord "auth", caselessWord "session", caselessWord "credential", caselessWord "hash",
      caselessWord "salt", caselessWord "pin", caselessWord "cvv", caselessWord "ssn"])

def isSensitiveColumnName (columnName : String) : Bool :=
  if columnName = "" then false else Regex.search sensitiveColumnPattern columnName.toList

def redactionMarker (index : Nat) : String := "[REDACTED:$" ++ toString index ++ "]"

def unparseableMarker : String := "<unparseable>"

/-! A node with its address stands for the object: `id(literal)` is the address. -/

structure Located where
  address : Address
  node : Expression

namespace Located

def args (l : Located) : List (ArgKey × Located) :=
  l.node.args.mapIdx fun i a => (a.1, ⟨l.address ++ [i], a.2⟩)

def arg? (l : Located) (key : ArgKey) : Option Located :=
  (l.args.find? fun a => a.1 = key).map Prod.snd

def argList (l : Located) (key : ArgKey) : List Located :=
  (l.args.filter fun a => a.1 = key).map Prod.snd

end Located

def markAllLiteralsIn (value : Located) : List Address :=
  if value.node.isLiteral then [value.address]
  else value.node.literalAddresses.map fun address => value.address ++ address

/-- `left` and `right` of an equality are its `this` and `expression`, which every parsed
one has. -/
def markSetAssignment (equality : Located) : List Address :=
  match equality.arg? .this, equality.arg? .expression with
  | some assignmentTarget, some assignedValue =>
    if assignmentTarget.node.isA .column && isSensitiveColumnName assignmentTarget.node.name then
      markAllLiteralsIn assignedValue
    else if assignmentTarget.node.isA .tuple then
      let columnList := assignmentTarget.argList .expressions
      let valueList :=
        if assignedValue.node.isA .tuple then assignedValue.argList .expressions else []
      -- a column without a value at its index marks nothing
      (columnList.zip valueList).flatMap fun (column, value) =>
        if isSensitiveColumnName column.node.name then markAllLiteralsIn value else []
    else []
  | _, _ => []

def markUpdateSetAssignments (statement : Expression) : List Address :=
  (statement.findAll fun n => n.isA .eq).flatMap fun (address, equality) =>
    if equality.parent.any (fun parent => parent.isA .update) &&
        equality.argKey = some .expressions then
      markSetAssignment ⟨address, equality.node⟩
    else []

def markAt (columnIndexes : List Nat) (values : List Located) : List Address :=
  values.zipIdx.flatMap fun (value, columnIndex) =>
    if columnIndex ∈ columnIndexes then markAllLiteralsIn value else []

def markValuesClause (valuesClause : Located) (sensitiveColumnIndexes : List Nat) : List Address :=
  (valuesClause.argList .expressions).flatMap fun valueTuple =>
    if valueTuple.node.isA .tuple then
      markAt sensitiveColumnIndexes (valueTuple.argList .expressions)
    else []

def markSelectProjections (selectNode : Located) (sensitiveColumnIndexes : List Nat) :
    List Address :=
  markAt sensitiveColumnIndexes (selectNode.argList .expressions)

def sensitiveColumnIndexes (targetSchema : Expression) : List Nat :=
  ((targetSchema.argList .expressions).zipIdx.filter fun (column, _) =>
    isSensitiveColumnName column.name).map Prod.snd

def markInsertNode (insertNode : Located) : List Address :=
  match insertNode.arg? .this with
  | none => []
  | some targetSchema =>
    if !targetSchema.node.isA .schema then []
    else
      let indexes := sensitiveColumnIndexes targetSchema.node
      if indexes.isEmpty then []
      else match insertNode.arg? .expression with
        | none => []
        | some valueSource =>
          if valueSource.node.isA .values then markValuesClause valueSource indexes
          else if valueSource.node.isA .select then markSelectProjections valueSource indexes
          else []

def markInsertValues (statement : Expression) : List Address :=
  (statement.findAll fun n => n.isA .insert).flatMap fun (address, insertNode) =>
    markInsertNode ⟨address, insertNode.node⟩

def collectSensitiveLiteralIds (statement : Expression) : List Address :=
  markUpdateSetAssignments statement ++ markInsertValues statement

def placeholder (index : Nat) : Expression := .node .placeholder [(.this, .str (toString index))] []

def replacementFor (sensitiveLiteralIds : List Address) (address : Address) (index : Nat) :
    Expression :=
  if address ∈ sensitiveLiteralIds then .constant .string (redactionMarker index)
  else placeholder index

/-- `node.replace(...)`: nothing happens to a tree whose root is replaced. -/
def replace (statement : Expression) (address : Address) (replacement : Expression) : Expression :=
  if address = [] then statement else statement.replaceAt address replacement

def replaceAllLiterals (statement : Expression) (sensitiveLiteralIds : List Address) :
    Expression :=
  (statement.literalAddresses.zipIdx 1).foldl
    (fun tree literal =>
      replace tree literal.1 (replacementFor sensitiveLiteralIds literal.1 literal.2))
    statement

/-- The tree that is rendered. -/
def redacted (statement : Expression) : Expression :=
  replaceAllLiterals statement (collectSensitiveLiteralIds statement)

def scrub (sqlglot : Sqlglot) (dialect : String) : QueryPayload → Except PyException String
  | .str queryText =>
    match sqlglot.parseOne queryText dialect with
    | .error (.sqlglotError _) => .ok unparseableMarker
    | .error exception => .error exception
    | .ok parsedStatement =>
      match sqlglot.sql (redacted parsedStatement) dialect with
      | .ok text => .ok text
      | .error _ => .ok unparseableMarker
  | _ => .ok unparseableMarker

end SqlGateway.Sql
