import Mathlib.Data.List.Lemmas
import SqlGateway.Library.BreadthFirst

namespace SqlGateway.Sql

/-- The node classes that hold an SQL constant. The first two are `exp.Literal`, told
apart by `is_string`. -/
inductive ConstantForm
  | string | number | byteString | rawString | national | bitString | hexString
  deriving DecidableEq

def ConstantForm.isLiteral : ConstantForm → Bool
  | .string | .number => true
  | _ => false

def ConstantForm.className : ConstantForm → String
  | .string | .number => "Literal"
  | .byteString => "ByteString"
  | .rawString => "RawString"
  | .national => "National"
  | .bitString => "BitString"
  | .hexString => "HexString"

/-- The classes of all other nodes; `other` is a class that the gateway never names and
that is no subclass of one it names, `func` an `exp.Func` subclass that it never names. `cast` is
`exp.Cast` with its subclasses, such as `exp.TryCast`. -/
inductive ExprClass
  | select | insert | update | delete | merge
  | drop | alter | create | truncateTable | transaction | commit | rollback
  | semicolon | command | union | subquery | withClause | cte
  | values | tuple | schema | table | column | identifier | var | star | null
  | eq | whereClause | into | placeholder | dot
  | anonymous | cast | func (name : String)
  | other (name : String)
  deriving DecidableEq

def ExprClass.className : ExprClass → String
  | .select => "Select" | .insert => "Insert" | .update => "Update" | .delete => "Delete"
  | .merge => "Merge" | .drop => "Drop" | .alter => "Alter" | .create => "Create"
  | .truncateTable => "TruncateTable" | .transaction => "Transaction" | .commit => "Commit"
  | .rollback => "Rollback" | .semicolon => "Semicolon" | .command => "Command"
  | .union => "Union" | .subquery => "Subquery" | .withClause => "With" | .cte => "CTE"
  | .values => "Values" | .tuple => "Tuple" | .schema => "Schema" | .table => "Table"
  | .column => "Column" | .identifier => "Identifier" | .var => "Var" | .star => "Star"
  | .null => "Null" | .eq => "EQ" | .whereClause => "Where" | .into => "Into"
  | .placeholder => "Placeholder" | .dot => "Dot" | .anonymous => "Anonymous"
  | .cast => "Cast" | .func name => name | .other name => name

/-- `isinstance(node, exp.Func)`. -/
def ExprClass.isFunc : ExprClass → Bool
  | .anonymous | .cast | .func _ => true
  | _ => false

inductive ArgKey
  | this | expression | expressions | whereClause | into
  | named (key : String)
  deriving DecidableEq

inductive Scalar
  | str (s : String)
  | bool (b : Bool)
  | int (i : Int)
  deriving DecidableEq

def Scalar.truthy : Scalar → Bool
  | .str s => s ≠ ""
  | .bool b => b
  | .int i => i ≠ 0

/-- A syntax tree. The non-null entries of sqlglot's `args` are split into the scalar ones
and the child nodes, the latter in the order of `iter_expressions`; a list argument is
several children under one key. Constants are leaves. -/
inductive Expression
  | constant (form : ConstantForm) (this : String)
  | node (cls : ExprClass) (scalars : List (ArgKey × Scalar)) (args : List (ArgKey × Expression))

@[elab_as_elim, induction_eliminator]
theorem Expression.induct {P : Expression → Prop}
    (constant : ∀ form this, P (.constant form this))
    (node : ∀ cls scalars args, (∀ a ∈ args, P a.2) → P (.node cls scalars args)) :
    ∀ e, P e := by
  intro e
  apply Expression.rec (motive_1 := P) (motive_2 := fun args => ∀ a ∈ args, P a.2)
    (motive_3 := fun a => P a.2) constant (fun _ _ _ ih => node _ _ _ ih)
  · simp
  · intro a args ha hargs b hb
    rcases List.mem_cons.mp hb with rfl | hb
    · exact ha
    · exact hargs b hb
  · intro _ _ ih
    exact ih

namespace Expression

def className : Expression → String
  | .constant form _ => form.className
  | .node cls _ _ => cls.className

/-- `isinstance` against one of the classes of `ExprClass`. -/
def isA (cls : ExprClass) : Expression → Bool
  | .constant _ _ => false
  | .node cls' _ _ => cls' = cls

def isAny (classes : List ExprClass) (e : Expression) : Bool := classes.any fun cls => e.isA cls

/-- `isinstance(node, exp.Literal)`. -/
def isLiteral : Expression → Bool
  | .constant form _ => form.isLiteral
  | .node _ _ _ => false

def isFunc : Expression → Bool
  | .constant _ _ => false
  | .node cls _ _ => cls.isFunc

def args : Expression → List (ArgKey × Expression)
  | .constant _ _ => []
  | .node _ _ args => args

def scalars : Expression → List (ArgKey × Scalar)
  | .constant form this =>
    (.this, .str this) :: if form.isLiteral then [(.named "is_string", .bool (form = .string))] else []
  | .node _ scalars _ => scalars

/-- The child under a key that holds no list. -/
def arg? (e : Expression) (key : ArgKey) : Option Expression :=
  (e.args.find? fun a => a.1 = key).map Prod.snd

/-- The children under a key that holds a list. -/
def argList (e : Expression) (key : ArgKey) : List Expression :=
  (e.args.filter fun a => a.1 = key).map Prod.snd

def scalar? (e : Expression) (key : ArgKey) : Option Scalar :=
  (e.scalars.find? fun s => s.1 = key).map Prod.snd

/-- `node.args.get(key) is not None`. -/
def hasArg (e : Expression) (key : ArgKey) : Bool :=
  (e.arg? key).isSome || (e.scalar? key).isSome

/-- `bool(node.args.get(key))`; a node is always true. -/
def argTruthy (e : Expression) (key : ArgKey) : Bool :=
  (e.arg? key).isSome || ((e.scalar? key).map Scalar.truthy).getD false

def strScalar (e : Expression) (key : ArgKey) : String :=
  match e.scalar? key with
  | some (.str s) => s
  | _ => ""

/-- What `node.text(key)` makes of a child. -/
def fieldText (field : Expression) : String :=
  match field with
  | .constant form this => if form.isLiteral then this else ""
  | .node .identifier _ _ | .node .var _ _ => field.strScalar .this
  | .node .star _ _ => "*"
  | .node .null _ _ => "NULL"
  | .node _ _ _ => ""

def text (e : Expression) (key : ArgKey) : String :=
  match e.scalar? key with
  | some (.str s) => s
  | some _ => ""
  | none => ((e.arg? key).map fieldText).getD ""

mutual

/-- The `name` property; a cast takes it from its operand, a dot from its right side. -/
def name : Expression → String
  | .constant form this => text (.constant form this) .this
  | .node cls scalars args =>
    match cls with
    | .cast => nameUnder .this args
    | .dot => nameUnder .expression args
    | .star => "*"
    | .null => "NULL"
    | .placeholder =>
      let this := text (.node cls scalars args) .this
      if this = "" then "?" else this
    | cls => text (.node cls scalars args) .this

def nameUnder (key : ArgKey) : List (ArgKey × Expression) → String
  | [] => ""
  | a :: args => if a.1 = key then nameOfArg a else nameUnder key args

def nameOfArg : ArgKey × Expression → String
  | (_, e) => e.name

end

mutual

def size : Expression → Nat
  | .constant _ _ => 1
  | .node _ _ args => sizeArgs args + 1

def sizeArgs : List (ArgKey × Expression) → Nat
  | [] => 0
  | a :: args => sizeArg a + sizeArgs args

def sizeArg : ArgKey × Expression → Nat
  | (_, e) => e.size

end

theorem sizeArgs_eq (args : List (ArgKey × Expression)) :
    sizeArgs args = (args.map fun a => a.2.size).sum := by
  induction args with
  | nil => rfl
  | cons a args ih =>
    obtain ⟨key, e⟩ := a
    simp [sizeArgs, sizeArg, ih]

end Expression

/-! Traversal. A node together with what its `parent` and `arg_key` fields hold. -/

abbrev Address := List Nat

instance : LawfulBEq Address := inferInstanceAs (LawfulBEq (List Nat))

structure Occurrence where
  node : Expression
  parent : Option Expression
  argKey : Option ArgKey

namespace Occurrence

def root (e : Expression) : Occurrence := ⟨e, none, none⟩

def children (o : Occurrence) : List Occurrence :=
  o.node.args.map fun a => ⟨a.2, some o.node, some a.1⟩

def branching : BreadthFirst.Branching Occurrence where
  children := children
  weight o := o.node.size
  weight_children o := by
    obtain ⟨e, parent, key⟩ := o
    cases e with
    | constant form this => simp [children, Expression.args, Expression.size]
    | node cls scalars args =>
      simp [children, Expression.args, Expression.size, Expression.sizeArgs_eq,
        Function.comp_def]

end Occurrence

namespace Expression

/-- `node.walk()`: breadth first, every node with the child indices that lead to it. -/
def walk (e : Expression) : List (Address × Occurrence) :=
  Occurrence.branching.addressed.walk ([], .root e)

/-- The node at an address. -/
def at? : Expression → Address → Option Expression
  | e, [] => some e
  | e, i :: address => e.args[i]?.bind fun a => at? a.2 address

@[simp] theorem at?_nil (e : Expression) : e.at? [] = some e := by cases e <;> rfl

theorem at?_cons (e : Expression) (i : Nat) (address : Address) :
    e.at? (i :: address) = e.args[i]?.bind fun a => a.2.at? address := by
  cases e <;> rfl

theorem descend_node (o : Occurrence) (address : Address) :
    (Occurrence.branching.descend o address).map Occurrence.node = o.node.at? address := by
  induction address generalizing o with
  | nil => simp
  | cons i address ih =>
    rw [at?_cons, BreadthFirst.Branching.descend_cons]
    change Option.map _ ((o.children)[i]?.bind _) = _
    rw [Occurrence.children, List.getElem?_map]
    cases o.node.args[i]? with
    | none => rfl
    | some a => simpa using ih ⟨a.2, some o.node, some a.1⟩

theorem at?_of_mem_walk {e : Expression} {address : Address} {o : Occurrence}
    (h : (address, o) ∈ e.walk) : e.at? address = some o.node := by
  have hd := (Occurrence.branching.mem_addressed_walk _ _ _).mp h
  have := descend_node (.root e) address
  rw [hd] at this
  exact this.symm

theorem exists_mem_walk {e n : Expression} {address : Address} (h : e.at? address = some n) :
    ∃ o, (address, o) ∈ e.walk ∧ o.node = n := by
  have := descend_node (.root e) address
  rw [show (Occurrence.root e).node = e from rfl, h] at this
  obtain ⟨o, ho, hn⟩ := Option.map_eq_some_iff.mp this
  exact ⟨o, (Occurrence.branching.mem_addressed_walk _ _ _).mpr ho, hn⟩

/-- What the walk knows of a node below the root: its parent and the key it stands under. -/
theorem mem_walk_snoc {e : Expression} {address : Address} {i : Nat} {o : Occurrence} :
    (address ++ [i], o) ∈ e.walk ↔
      ∃ parent key, e.at? address = some parent ∧ parent.args[i]? = some (key, o.node) ∧
        o.parent = some parent ∧ o.argKey = some key := by
  have hnode : _ = e.at? address := descend_node (.root e) address
  rw [walk, BreadthFirst.Branching.mem_addressed_walk, BreadthFirst.Branching.descend_append,
    ← hnode]
  cases Occurrence.branching.descend (.root e) address with
  | none => simp
  | some p =>
    obtain ⟨n, parent, key⟩ := o
    change ((p.children[i]?.bind some) = some _) ↔ _
    rw [Option.bind_fun_some, Occurrence.children, List.getElem?_map, Option.map_some]
    constructor
    · intro h
      obtain ⟨a, ha, ho⟩ := Option.map_eq_some_iff.mp h
      cases ho
      exact ⟨p.node, a.1, rfl, ha, rfl, rfl⟩
    · rintro ⟨q, k, hq, ha, rfl, rfl⟩
      cases hq
      rw [ha]
      rfl

theorem walk_nodup (e : Expression) : (e.walk.map Prod.fst).Nodup :=
  Occurrence.branching.addressed_walk_nodup _

/-- `node.find_all(...)` -/
def findAll (e : Expression) (p : Expression → Bool) : List (Address × Occurrence) :=
  e.walk.filter fun a => p a.2.node

end Expression

end SqlGateway.Sql
