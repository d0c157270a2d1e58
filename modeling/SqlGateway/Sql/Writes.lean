import SqlGateway.Sql.Assignment

namespace SqlGateway.Sql

/-! Which values a statement writes to which column, in every form of a write -/

def paren : ExprClass := .other "Paren"

def bracket : ExprClass := .other "Bracket"

def tableAlias : ExprClass := .other "TableAlias"

def onConflict : ExprClass := .other "OnConflict"

/-- `UNION`, `EXCEPT` and `INTERSECT`. -/
def setOperations : List ExprClass := [.union, .other "Except", .other "Intersect"]

/-- The operators that stand on one level with `=`. -/
def comparisons : List ExprClass := [.eq, .other "NEQ", .other "NullSafeEQ"]

/-- `ROW(…)`, a function that sqlglot does not know. -/
def isRowCall (e : Expression) : Bool :=
  e.isA .anonymous && PyText.lower (e.strScalar .this).toList = "row".toList

inductive WriteForm
  | column | tuple | values | select
  | element | comparison | row | rowQuery | insertQuery | aliased | merged | conflict
  deriving DecidableEq

/-- `SET c = e`, `SET (c, …) = (e, …)`, `INSERT INTO t (c, …) VALUES …` and
`INSERT INTO t (c, …) SELECT …`. -/
def WriteForm.isScanned : WriteForm → Bool
  | .column | .tuple | .values | .select => true
  | _ => false

/-- A target, or the column that it is an element of. -/
inductive Names : Located → Expression → Prop
  | self {target : Located} : Names target target.node
  | element {target inner : Located} {column : Expression} :
    target.node.isA bracket = true → target.arg? .this = some inner → Names inner column →
    Names target column

/-- The value in place `k` of a list in parentheses; around one element they are an `exp.Paren`,
as they are around a list that has its own ones. -/
inductive RowYields : Located → Nat → Located → Prop
  | tuple {row value : Located} {k : Nat} :
    row.node.isA .tuple = true → (row.argList .expressions)[k]? = some value → RowYields row k value
  | call {row value : Located} {k : Nat} :
    isRowCall row.node = true → (row.argList .expressions)[k]? = some value → RowYields row k value
  | one {row value : Located} :
    row.node.isA paren = true → row.arg? .this = some value → value.node.isA .tuple = false →
    value.node.isA paren = false → isRowCall value.node = false → RowYields row 0 value
  | nested {row inner value : Located} {k : Nat} :
    row.node.isA paren = true → row.arg? .this = some inner → RowYields inner k value →
    RowYields row k value

/-- An expression that gives the rows of a query their value in column `k`. -/
inductive QueryYields : Located → Nat → Located → Prop
  | select {query value : Located} {k : Nat} :
    query.node.isA .select = true → (query.argList .expressions)[k]? = some value →
    QueryYields query k value
  | values {query row value : Located} {k : Nat} :
    query.node.isA .values = true → row ∈ query.argList .expressions → RowYields row k value →
    QueryYields query k value
  | wrapped {query inner value : Located} {k : Nat} :
    query.node.isAny [.subquery, paren] = true → query.arg? .this = some inner →
    QueryYields inner k value → QueryYields query k value
  | left {query left value : Located} {k : Nat} :
    query.node.isAny setOperations = true → query.arg? .this = some left →
    QueryYields left k value → QueryYields query k value
  -- an `EXCEPT` takes no row from its right side
  | right {query right value : Located} {k : Nat} :
    query.node.isAny [.union, .other "Intersect"] = true → query.arg? .expression = some right →
    QueryYields right k value → QueryYields query k value

/-- The target and an operand of `c = e`, `c = e = e'` or `c = e <> e'`, which sqlglot reads from
the left. -/
inductive SetSides : Located → Located → Located → Prop
  | assignment {item target value : Located} :
    item.node.isA .eq = true → item.arg? .this = some target →
    item.arg? .expression = some value → SetSides item target value
  | left {item inner target value : Located} :
    item.node.isAny comparisons = true → item.arg? .this = some inner →
    SetSides inner target value → SetSides item target value
  | right {item inner target other value : Located} :
    item.node.isAny comparisons = true → item.arg? .this = some inner →
    SetSides inner target other → item.arg? .expression = some value → SetSides item target value

/-- What one item of a `SET` list assigns. -/
inductive SetAssigns (item : Located) : WriteForm → Expression → Located → Prop
  | column {target value : Located} :
    item.node.isA .eq = true → item.arg? .this = some target →
    item.arg? .expression = some value → target.node.isA .column = true →
    SetAssigns item .column target.node value
  | tuple {target source column value : Located} {k : Nat} :
    item.node.isA .eq = true → item.arg? .this = some target →
    item.arg? .expression = some source → target.node.isA .tuple = true →
    source.node.isA .tuple = true → (target.argList .expressions)[k]? = some column →
    (source.argList .expressions)[k]? = some value → SetAssigns item .tuple column.node value
  | element {target value : Located} {column : Expression} :
    item.node.isA .eq = true → item.arg? .this = some target →
    item.arg? .expression = some value → target.node.isA bracket = true → Names target column →
    column.isA .column = true → SetAssigns item .element column value
  | comparison {inner target value : Located} {column : Expression} :
    item.arg? .this = some inner → inner.node.isAny comparisons = true →
    SetSides item target value → Names target column → column.isA .column = true →
    SetAssigns item .comparison column value
  | row {target source place value : Located} {column : Expression} {k : Nat} :
    item.node.isA .eq = true → item.arg? .this = some target →
    item.arg? .expression = some source →
    target.node.isA .tuple = false ∨ source.node.isA .tuple = false ∨
      place.node.isA bracket = true →
    RowYields target k place → Names place column → RowYields source k value →
    SetAssigns item .row column value
  | rowQuery {target source place value : Located} {column : Expression} {k : Nat} :
    item.node.isA .eq = true → item.arg? .this = some target →
    item.arg? .expression = some source → RowYields target k place → Names place column →
    QueryYields source k value → SetAssigns item .rowQuery column value

/-- An item of the `SET` list of an `UPDATE`, also of one in a `MERGE`. -/
def InSetList (statement : Expression) (item : Located) : Prop :=
  ∃ address i update, statement.at? address = some update ∧ update.isA .update = true ∧
    update.args[i]? = some (.expressions, item.node) ∧ item.address = address ++ [i]

/-- An item of the list in `INSERT … ON CONFLICT … DO UPDATE SET`. -/
def InConflictSetList (statement : Expression) (item : Located) : Prop :=
  ∃ address i j insertNode conflict, statement.at? address = some insertNode ∧
    insertNode.isA .insert = true ∧ insertNode.args[i]? = some (.named "conflict", conflict) ∧
    conflict.isA onConflict = true ∧ conflict.args[j]? = some (.expressions, item.node) ∧
    item.address = address ++ [i, j]

/-- An `INSERT` by its target and its source. -/
structure Inserts (statement : Expression) (insertNode target source : Located) : Prop where
  at_ : statement.at? insertNode.address = some insertNode.node
  isInsert : insertNode.node.isA .insert = true
  target : insertNode.arg? .this = some target
  rows : insertNode.arg? .expression = some source

inductive Writes (statement : Expression) : WriteForm → Expression → Located → Prop
  | set {item value : Located} {form : WriteForm} {column : Expression} :
    InSetList statement item → SetAssigns item form column value →
    Writes statement form column value
  | values {insertNode target source row value : Located} {column : Expression} {k : Nat} :
    Inserts statement insertNode target source → target.node.isA .schema = true →
    (target.node.argList .expressions)[k]? = some column → source.node.isA .values = true →
    row ∈ source.argList .expressions → row.node.isA .tuple = true →
    (row.argList .expressions)[k]? = some value → Writes statement .values column value
  | select {insertNode target source value : Located} {column : Expression} {k : Nat} :
    Inserts statement insertNode target source → target.node.isA .schema = true →
    (target.node.argList .expressions)[k]? = some column → source.node.isA .select = true →
    (source.argList .expressions)[k]? = some value → Writes statement .select column value
  | insertRow {insertNode target source row value : Located} {column : Expression} {k : Nat} :
    Inserts statement insertNode target source → target.node.isA .schema = true →
    (target.node.argList .expressions)[k]? = some column → source.node.isA .values = true →
    row ∈ source.argList .expressions → row.node.isA .tuple = false → RowYields row k value →
    Writes statement .insertQuery column value
  | insertQuery {insertNode target source value : Located} {column : Expression} {k : Nat} :
    Inserts statement insertNode target source → target.node.isA .schema = true →
    (target.node.argList .expressions)[k]? = some column → source.node.isA .values = false →
    source.node.isA .select = false → QueryYields source k value →
    Writes statement .insertQuery column value
  -- behind an alias the column list is a part of the alias
  | aliased {insertNode target correlation source value : Located} {column : Expression} {k : Nat} :
    Inserts statement insertNode target source → target.arg? (.named "alias") = some correlation →
    correlation.node.isA tableAlias = true →
    (correlation.node.argList (.named "columns"))[k]? = some column → QueryYields source k value →
    Writes statement .aliased column value
  -- `MERGE … WHEN NOT MATCHED THEN INSERT (c, …) VALUES (e, …)`
  | merged {insertNode target source value : Located} {column : Expression} {k : Nat} :
    Inserts statement insertNode target source → target.node.isA .tuple = true →
    (target.node.argList .expressions)[k]? = some column → RowYields source k value →
    Writes statement .merged column value
  | conflict {item value : Located} {form : WriteForm} {column : Expression} :
    InConflictSetList statement item → SetAssigns item form column value →
    Writes statement .conflict column value

/-- The address of a literal in a value that is written to a column of a sensitive name. -/
def WrittenSensitive (statement : Expression) (form : WriteForm) (address : Address) : Prop :=
  ∃ column value, Writes statement form column value ∧ isSensitiveColumnName column.name = true ∧
    ∃ rest ∈ value.node.literalAddresses, address = value.address ++ rest

variable {statement column : Expression} {value : Located}

theorem writes_of_assigns (h : Assigns statement column value) :
    ∃ form : WriteForm, form.isScanned = true ∧ Writes statement form column value := by
  cases h with
  | setColumn hclause htarget hvalue hcolumn =>
    exact ⟨.column, rfl, .set hclause.underUpdate
      (.column hclause.isEquality htarget hvalue hcolumn)⟩
  | setTuple hclause htarget hvalue htuple hvalues hk hk' =>
    exact ⟨.tuple, rfl, .set hclause.underUpdate
      (.tuple hclause.isEquality htarget hvalue htuple hvalues hk hk')⟩
  | insertValues hinsert hvalues hrow htuple hk hk' =>
    exact ⟨.values, rfl, .values ⟨hinsert.at_, hinsert.isInsert, hinsert.target, hinsert.rows⟩
      hinsert.isSchema hk hvalues hrow htuple hk'⟩
  | insertSelect hinsert hselect hk hk' =>
    exact ⟨.select, rfl, .select ⟨hinsert.at_, hinsert.isInsert, hinsert.target, hinsert.rows⟩
      hinsert.isSchema hk hselect hk'⟩

theorem assigns_of_set {item : Located} {form : WriteForm} (hform : form.isScanned = true)
    (hitem : InSetList statement item) (h : SetAssigns item form column value) :
    Assigns statement column value := by
  cases h with
  | column hequality htarget hvalue hcolumn =>
    exact .setColumn ⟨hequality, hitem⟩ htarget hvalue hcolumn
  | tuple hequality htarget hvalue htuple hvalues hk hk' =>
    exact .setTuple ⟨hequality, hitem⟩ htarget hvalue htuple hvalues hk hk'
  | element => cases hform
  | comparison => cases hform
  | row => cases hform
  | rowQuery => cases hform

theorem assigns_of_writes {form : WriteForm} (hform : form.isScanned = true)
    (h : Writes statement form column value) : Assigns statement column value := by
  cases h with
  | set hitem hassigns => exact assigns_of_set hform hitem hassigns
  | values hinsert hschema hk hvalues hrow htuple hk' =>
    exact .insertValues ⟨hinsert.at_, hinsert.isInsert, hinsert.target, hschema, hinsert.rows⟩
      hvalues hrow htuple hk hk'
  | select hinsert hschema hk hselect hk' =>
    exact .insertSelect ⟨hinsert.at_, hinsert.isInsert, hinsert.target, hschema, hinsert.rows⟩
      hselect hk hk'
  | insertRow => cases hform
  | insertQuery => cases hform
  | aliased => cases hform
  | merged => cases hform
  | conflict => cases hform

theorem mem_collect_iff_scanned {address : Address} :
    address ∈ collectSensitiveLiteralIds statement ↔
      ∃ form : WriteForm, form.isScanned = true ∧ WrittenSensitive statement form address := by
  rw [mem_collectSensitiveLiteralIds]
  constructor
  · rintro ⟨column, value, hassigns, hwritten⟩
    obtain ⟨form, hform, hwrites⟩ := writes_of_assigns hassigns
    exact ⟨form, hform, column, value, hwrites, hwritten⟩
  · rintro ⟨form, hform, column, value, hwrites, hwritten⟩
    exact ⟨column, value, assigns_of_writes hform hwrites, hwritten⟩

def columnNamed (name : String) : Expression :=
  .node .column [] [(.this, .node .identifier [(.this, .str name)] [])]

def setPassword : Expression :=
  .node .eq [] [(.this, columnNamed "password"), (.expression, .constant .string "hunter2")]

/-- `INSERT INTO users (id, name) VALUES (1, 'x') ON CONFLICT (id) DO UPDATE SET password =
'hunter2'`. -/
def upsert : Expression :=
  .node .insert []
    [(.this, .node .schema [] [(.expressions, columnNamed "id"), (.expressions, columnNamed "name")]),
      (.expression, .node .values []
        [(.expressions, .node .tuple []
          [(.expressions, .constant .number "1"), (.expressions, .constant .string "x")])]),
      (.named "conflict", .node onConflict [] [(.expressions, setPassword)])]

theorem inConflictSetList_upsert : InConflictSetList upsert ⟨[2, 0], setPassword⟩ :=
  ⟨[], 2, 0, upsert, _, rfl, rfl, rfl, rfl, rfl, rfl⟩

theorem setAssigns_setPassword : SetAssigns ⟨[2, 0], setPassword⟩ .column (columnNamed "password")
    ⟨[2, 0, 1], .constant .string "hunter2"⟩ :=
  @SetAssigns.column _ ⟨[2, 0, 0], columnNamed "password"⟩ _ rfl rfl rfl rfl

end SqlGateway.Sql
