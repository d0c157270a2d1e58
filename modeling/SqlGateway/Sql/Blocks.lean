import SqlGateway.Sql.Redaction

namespace SqlGateway.Sql

theorem args_block (statements : List Expression) :
    (block statements).args = statements.map fun statement => (.expressions, statement) := rfl

theorem at?_block (statements : List Expression) (i : Nat) (address : Address) :
    (block statements).at? (i :: address) =
      statements[i]?.bind fun statement => statement.at? address := by
  rw [Expression.at?_cons, args_block, List.getElem?_map, Option.bind_map]
  rfl

theorem isA_block {cls : ExprClass} (h : cls ≠ .other "Block") (statements : List Expression) :
    (block statements).isA cls = false :=
  decide_eq_false h.symm

def Located.under (i : Nat) (l : Located) : Located := ⟨i :: l.address, l.node⟩

namespace Located

variable (i : Nat) (l : Located) (key : ArgKey)

theorem args_under : (l.under i).args = l.args.map fun a => (a.1, a.2.under i) := by
  apply List.ext_getElem?
  intro j
  simp [args, under, Function.comp_def]

theorem arg?_under : (l.under i).arg? key = (l.arg? key).map (under i) := by
  rw [arg?, arg?, args_under, List.find?_map, Option.map_map, Option.map_map]
  rfl

theorem argList_under : (l.under i).argList key = (l.argList key).map (under i) := by
  rw [argList, argList, args_under, List.filter_map, List.map_map, List.map_map]
  rfl

end Located

section Marks

variable {statements : List Expression} {statement column : Expression} {i : Nat}

theorem IsSetClause.block (hi : statements[i]? = some statement) {equality : Located}
    (h : IsSetClause statement equality) : IsSetClause (block statements) (equality.under i) := by
  obtain ⟨hequality, address, j, update, hat, hupdate, hchild, haddress⟩ := h
  refine ⟨hequality, i :: address, j, update, ?_, hupdate, hchild, congrArg (i :: ·) haddress⟩
  rw [at?_block, hi]
  exact hat

theorem IsInsert.block (hi : statements[i]? = some statement) {insertNode schema source : Located}
    (h : IsInsert statement insertNode schema source) :
    IsInsert (block statements) (insertNode.under i) (schema.under i) (source.under i) where
  at_ := by
    rw [Located.under, at?_block, hi]
    exact h.at_
  isInsert := h.isInsert
  target := by rw [Located.arg?_under, h.target, Option.map_some]
  isSchema := h.isSchema
  rows := by rw [Located.arg?_under, h.rows, Option.map_some]

theorem getElem?_under {l : Located} {key : ArgKey} {k : Nat} {value : Located}
    (h : (l.argList key)[k]? = some value) :
    ((l.under i).argList key)[k]? = some (value.under i) := by
  rw [Located.argList_under, List.getElem?_map, h, Option.map_some]

theorem Assigns.block (hi : statements[i]? = some statement) {value : Located}
    (h : Assigns statement column value) : Assigns (block statements) column (value.under i) := by
  have harg {l target : Located} {key : ArgKey} (hl : l.arg? key = some target) :
      (l.under i).arg? key = some (target.under i) := by
    rw [Located.arg?_under, hl, Option.map_some]
  cases h with
  | @setColumn equality target value hclause htarget hvalue hcolumn =>
    exact @Assigns.setColumn _ _ (target.under i) _ (hclause.block hi) (harg htarget) (harg hvalue)
      hcolumn
  | @setTuple equality target values column value k hclause htarget hvalue htuple hvalues hk hk' =>
    exact @Assigns.setTuple _ _ _ _ (column.under i) _ k (hclause.block hi) (harg htarget)
      (harg hvalue) htuple hvalues (getElem?_under hk) (getElem?_under hk')
  | @insertValues insertNode schema source row value column k hinsert hvalues hrow htuple hk hk' =>
    refine @Assigns.insertValues _ _ _ _ (row.under i) _ _ k (hinsert.block hi) hvalues ?_ htuple hk
      (getElem?_under hk')
    rw [Located.argList_under]
    exact List.mem_map_of_mem hrow
  | insertSelect hinsert hselect hk hk' =>
    exact .insertSelect (hinsert.block hi) hselect hk (getElem?_under hk')

theorem exists_of_arg?_under {l target : Located} {key : ArgKey}
    (h : (l.under i).arg? key = some target) :
    ∃ inner, l.arg? key = some inner ∧ target = inner.under i := by
  rw [Located.arg?_under] at h
  obtain ⟨inner, hinner, htarget⟩ := Option.map_eq_some_iff.mp h
  exact ⟨inner, hinner, htarget.symm⟩

theorem exists_of_getElem?_under {l value : Located} {key : ArgKey} {k : Nat}
    (h : ((l.under i).argList key)[k]? = some value) :
    ∃ inner, (l.argList key)[k]? = some inner ∧ value = inner.under i := by
  rw [Located.argList_under, List.getElem?_map] at h
  obtain ⟨inner, hinner, hvalue⟩ := Option.map_eq_some_iff.mp h
  exact ⟨inner, hinner, hvalue.symm⟩

theorem exists_of_at?_block {node : Expression} {address : Address} {cls : ExprClass}
    (hcls : cls ≠ .other "Block") (hat : (block statements).at? address = some node)
    (hnode : node.isA cls = true) :
    ∃ i statement rest, statements[i]? = some statement ∧ address = i :: rest ∧
      statement.at? rest = some node := by
  cases address with
  | nil =>
    rw [Expression.at?_nil] at hat
    cases hat
    rw [isA_block hcls] at hnode
    cases hnode
  | cons i rest =>
    rw [at?_block] at hat
    obtain ⟨statement, hi, hat⟩ := Option.bind_eq_some_iff.mp hat
    exact ⟨i, statement, rest, hi, rfl, hat⟩

theorem exists_of_isSetClause {equality : Located} (h : IsSetClause (block statements) equality) :
    ∃ i statement inner, statements[i]? = some statement ∧ equality = inner.under i ∧
      IsSetClause statement inner := by
  obtain ⟨hequality, address, j, update, hat, hupdate, hchild, haddress⟩ := h
  obtain ⟨i, statement, rest, hi, rfl, hat'⟩ :=
    exists_of_at?_block (by decide : ExprClass.update ≠ .other "Block") hat hupdate
  obtain ⟨_, node⟩ := equality
  obtain rfl := haddress
  exact ⟨i, statement, ⟨rest ++ [j], node⟩, hi, rfl, hequality, rest, j, update, hat', hupdate,
    hchild, rfl⟩

theorem exists_of_isInsert {insertNode schema source : Located}
    (h : IsInsert (block statements) insertNode schema source) :
    ∃ i statement innerNode innerSchema innerSource, statements[i]? = some statement ∧
      schema = innerSchema.under i ∧ source = innerSource.under i ∧
        IsInsert statement innerNode innerSchema innerSource := by
  obtain ⟨hat, hinsert, htarget, hschema, hrows⟩ := h
  obtain ⟨i, statement, rest, hi, haddress, hat'⟩ :=
    exists_of_at?_block (by decide : ExprClass.insert ≠ .other "Block") hat hinsert
  obtain ⟨_, node⟩ := insertNode
  obtain rfl := haddress
  obtain ⟨innerSchema, htarget', rfl⟩ := @exists_of_arg?_under i ⟨rest, node⟩ _ _ htarget
  obtain ⟨innerSource, hrows', rfl⟩ := @exists_of_arg?_under i ⟨rest, node⟩ _ _ hrows
  exact ⟨i, statement, ⟨rest, node⟩, innerSchema, innerSource, hi, rfl, rfl, hat', hinsert,
    htarget', hschema, hrows'⟩

theorem exists_of_assigns {value : Located} (h : Assigns (block statements) column value) :
    ∃ i statement inner, statements[i]? = some statement ∧ value = inner.under i ∧
      Assigns statement column inner := by
  cases h with
  | setColumn hclause htarget hvalue hcolumn =>
    obtain ⟨i, statement, equality, hi, rfl, hclause'⟩ := exists_of_isSetClause hclause
    obtain ⟨target, htarget', rfl⟩ := exists_of_arg?_under htarget
    obtain ⟨value, hvalue', rfl⟩ := exists_of_arg?_under hvalue
    exact ⟨i, statement, value, hi, rfl,
      @Assigns.setColumn _ _ target _ hclause' htarget' hvalue' hcolumn⟩
  | setTuple hclause htarget hvalue htuple hvalues hk hk' =>
    obtain ⟨i, statement, equality, hi, rfl, hclause'⟩ := exists_of_isSetClause hclause
    obtain ⟨target, htarget', rfl⟩ := exists_of_arg?_under htarget
    obtain ⟨values, hvalues', rfl⟩ := exists_of_arg?_under hvalue
    obtain ⟨column, hcolumn, rfl⟩ := exists_of_getElem?_under hk
    obtain ⟨value, hvalue', rfl⟩ := exists_of_getElem?_under hk'
    have hassigns := @Assigns.setTuple _ _ _ _ column value _ hclause' htarget' hvalues' htuple
      hvalues hcolumn hvalue'
    exact ⟨i, statement, value, hi, rfl, hassigns⟩
  | insertValues hinsert hvalues hrow htuple hk hk' =>
    obtain ⟨i, statement, insertNode, schema, source, hi, rfl, rfl, hinsert'⟩ :=
      exists_of_isInsert hinsert
    rw [Located.argList_under] at hrow
    obtain ⟨row, hrow', rfl⟩ := List.mem_map.mp hrow
    obtain ⟨value, hvalue', rfl⟩ := exists_of_getElem?_under hk'
    exact ⟨i, statement, value, hi, rfl, .insertValues hinsert' hvalues hrow' htuple hk hvalue'⟩
  | insertSelect hinsert hselect hk hk' =>
    obtain ⟨i, statement, insertNode, schema, source, hi, rfl, rfl, hinsert'⟩ :=
      exists_of_isInsert hinsert
    obtain ⟨value, hvalue', rfl⟩ := exists_of_getElem?_under hk'
    exact ⟨i, statement, value, hi, rfl, .insertSelect hinsert' hselect hk hvalue'⟩

/-- The scrubber marks the same literals of a statement by itself and in a block. -/
theorem assignedSensitive_block (hi : statements[i]? = some statement) (address : Address) :
    AssignedSensitive (block statements) (i :: address) ↔ AssignedSensitive statement address := by
  constructor
  · rintro ⟨column, value, hassigns, hname, rest, hrest, haddress⟩
    obtain ⟨j, other, inner, hj, rfl, hassigns⟩ := exists_of_assigns hassigns
    obtain ⟨rfl, rfl⟩ := List.cons.inj haddress
    rw [hi] at hj
    cases hj
    exact ⟨column, inner, hassigns, hname, rest, hrest, rfl⟩
  · rintro ⟨column, value, hassigns, hname, rest, hrest, rfl⟩
    exact ⟨column, value.under i, hassigns.block hi, hname, rest, hrest, rfl⟩

theorem mem_collect_block (hi : statements[i]? = some statement) (address : Address) :
    i :: address ∈ collectSensitiveLiteralIds (block statements) ↔
      address ∈ collectSensitiveLiteralIds statement := by
  rw [mem_collectSensitiveLiteralIds, mem_collectSensitiveLiteralIds, assignedSensitive_block hi]

theorem mem_literalAddresses_block (hi : statements[i]? = some statement) (address : Address) :
    i :: address ∈ (block statements).literalAddresses ↔ address ∈ statement.literalAddresses := by
  rw [Expression.mem_literalAddresses, Expression.mem_literalAddresses, at?_block, hi,
    Option.bind_some]

end Marks

def numbered (statement : Expression) (number : Address → Nat) : Expression :=
  statement.substitute fun address form this =>
    if address ∈ statement.literalAddresses then
      replacementFor (collectSensitiveLiteralIds statement) address (number address)
    else .constant form this

theorem numbered_idxOf {statement : Expression} (hroot : statement.isLiteral = false) :
    numbered statement (fun address => statement.literalAddresses.idxOf address + 1) =
      redacted statement :=
  (replaceAllLiterals_eq hroot _).symm

def numberIn (statements : List Expression) (i : Nat) (address : Address) : Nat :=
  (block statements).literalAddresses.idxOf (i :: address) + 1

theorem substitute_block (σ : Address → ConstantForm → String → Expression)
    (statements : List Expression) :
    (block statements).substitute σ =
      block (statements.mapIdx fun i statement =>
        statement.substitute fun address => σ (i :: address)) := by
  rw [block, Expression.substitute, block]
  apply congrArg (Expression.node _ _)
  apply List.ext_getElem?
  intro i
  rw [Expression.getElem?_substituteArgs, List.getElem?_map, List.getElem?_map,
    List.getElem?_mapIdx]
  cases statements[i]? with
  | none => rfl
  | some statement => simp

theorem redacted_block (statements : List Expression) :
    redacted (block statements) =
      block (statements.mapIdx fun i statement => numbered statement (numberIn statements i)) := by
  rw [redacted, replaceAllLiterals_eq rfl, substitute_block]
  apply congrArg block
  apply List.ext_getElem?
  intro i
  rw [List.getElem?_mapIdx, List.getElem?_mapIdx]
  cases hi : statements[i]? with
  | none => rfl
  | some statement =>
    apply congrArg some
    apply congrArg (Expression.substitute · statement)
    funext address form this
    simp only [redaction, replacementFor, mem_literalAddresses_block hi, mem_collect_block hi]
    rfl

theorem numberIn_injOn {statements : List Expression} {statement : Expression} {i : Nat}
    (hi : statements[i]? = some statement) :
    Set.InjOn (numberIn statements i) {address | address ∈ statement.literalAddresses} := by
  intro address haddress other _ heq
  have hmem := (mem_literalAddresses_block hi address).mpr haddress
  have hsame := (List.idxOf_inj hmem).mp (Nat.succ.inj heq)
  exact (List.cons.inj hsame).2

def intoBlock (statement : Expression) (a : Address × Occurrence) : Address × Occurrence :=
  (0 :: a.1, if a.1 = [] then ⟨a.2.node, some (block [statement]), some .expressions⟩ else a.2)

theorem walk_block_one (statement : Expression) :
    (block [statement]).walk =
      ([], .root (block [statement])) :: statement.walk.map (intoBlock statement) := by
  have hsize : (block [statement]).size = statement.size + 1 := by
    simp [block, Expression.size, Expression.sizeArgs, Expression.sizeArg]
  have hchildren (a : Address × Occurrence) :
      Occurrence.branching.addressed.children (intoBlock statement a) =
        (Occurrence.branching.addressed.children a).map (intoBlock statement) := by
    apply List.ext_getElem?
    intro i
    obtain ⟨address, o⟩ := a
    by_cases haddress : address = [] <;>
      simp [BreadthFirst.Branching.addressed, Occurrence.branching, Occurrence.children, intoBlock,
        haddress, Function.comp_def]
  have hvisit := BreadthFirst.Branching.visit_map Occurrence.branching.addressed
    Occurrence.branching.addressed (intoBlock statement) hchildren statement.size
    [([], .root statement)]
  calc (block [statement]).walk
      = Occurrence.branching.addressed.visit (statement.size + 1)
          [([], .root (block [statement]))] := by rw [← hsize]; rfl
    _ = ([], .root (block [statement])) :: Occurrence.branching.addressed.visit statement.size
          ([([], Occurrence.root statement)].map (intoBlock statement)) := rfl
    _ = _ := by rw [hvisit]; rfl

theorem literalAddresses_block_one (statement : Expression) :
    (block [statement]).literalAddresses = statement.literalAddresses.map (0 :: ·) := by
  have hnode (a : Address × Occurrence) : (intoBlock statement a).2.node = a.2.node := by
    unfold intoBlock
    split_ifs <;> rfl
  rw [Expression.literalAddresses, Expression.findAll, walk_block_one, List.filter_cons_of_neg
    Bool.false_ne_true, List.filter_map, List.map_map, Expression.literalAddresses,
    Expression.findAll, List.map_map]
  simp only [Function.comp_def, hnode]
  rfl

theorem redacted_block_one {statement : Expression} (hroot : statement.isLiteral = false) :
    redacted (block [statement]) = block [redacted statement] := by
  have hnumber (address : Address) : numberIn [statement] 0 address =
      statement.literalAddresses.idxOf address + 1 := by
    have hsame : (fun other => other == 0 :: address) ∘ (0 :: ·) =
        fun other : Address => other == address := by
      funext other
      simp
    rw [numberIn, literalAddresses_block_one, List.idxOf, List.findIdx_map, hsame, List.idxOf]
  rw [redacted_block, ← numbered_idxOf hroot]
  apply congrArg fun e => block [e]
  exact congrArg (numbered statement) (funext hnumber)

end SqlGateway.Sql
