import SqlGateway.Sql.QueryScrubber

namespace SqlGateway.Sql

/-! Which values the scrubber takes to be assigned to which column -/

structure IsSetClause (statement : Expression) (equality : Located) : Prop where
  isEquality : equality.node.isA .eq = true
  underUpdate : ∃ address i update, statement.at? address = some update ∧
    update.isA .update = true ∧ update.args[i]? = some (.expressions, equality.node) ∧
    equality.address = address ++ [i]

structure IsInsert (statement : Expression) (insertNode schema source : Located) : Prop where
  at_ : statement.at? insertNode.address = some insertNode.node
  isInsert : insertNode.node.isA .insert = true
  target : insertNode.arg? .this = some schema
  isSchema : schema.node.isA .schema = true
  rows : insertNode.arg? .expression = some source

inductive Assigns (statement : Expression) : Expression → Located → Prop
  | setColumn {equality target value : Located} :
    IsSetClause statement equality → equality.arg? .this = some target →
    equality.arg? .expression = some value → target.node.isA .column = true →
    Assigns statement target.node value
  | setTuple {equality target values column value : Located} {k : Nat} :
    IsSetClause statement equality → equality.arg? .this = some target →
    equality.arg? .expression = some values → target.node.isA .tuple = true →
    values.node.isA .tuple = true → (target.argList .expressions)[k]? = some column →
    (values.argList .expressions)[k]? = some value → Assigns statement column.node value
  | insertValues {insertNode schema source row value : Located} {column : Expression} {k : Nat} :
    IsInsert statement insertNode schema source → source.node.isA .values = true →
    row ∈ source.argList .expressions → row.node.isA .tuple = true →
    (schema.node.argList .expressions)[k]? = some column →
    (row.argList .expressions)[k]? = some value → Assigns statement column value
  | insertSelect {insertNode schema source value : Located} {column : Expression} {k : Nat} :
    IsInsert statement insertNode schema source → source.node.isA .select = true →
    (schema.node.argList .expressions)[k]? = some column →
    (source.argList .expressions)[k]? = some value → Assigns statement column value

/-- The address of a literal in a value that a column of a sensitive name is assigned. -/
def AssignedSensitive (statement : Expression) (address : Address) : Prop :=
  ∃ column value, Assigns statement column value ∧ isSensitiveColumnName column.name = true ∧
    ∃ rest ∈ value.node.literalAddresses, address = value.address ++ rest

theorem Expression.isA_eq_false {cls cls' : ExprClass} {e : Expression} (h : e.isA cls = true)
    (hne : cls ≠ cls') : e.isA cls' = false := by
  cases e with
  | constant form this => rfl
  | node cls'' scalars args =>
    have heq : cls'' = cls := of_decide_eq_true h
    rw [heq]
    exact decide_eq_false hne

theorem mem_markAllLiteralsIn {value : Located} {address : Address} :
    address ∈ markAllLiteralsIn value ↔
      ∃ rest ∈ value.node.literalAddresses, address = value.address ++ rest := by
  unfold markAllLiteralsIn
  split_ifs with h
  · simp [Expression.literalAddresses_of_isLiteral h]
  · simp [eq_comm]

theorem mem_markAt {indexes : List Nat} {values : List Located} {address : Address} :
    address ∈ markAt indexes values ↔
      ∃ k value, values[k]? = some value ∧ k ∈ indexes ∧ address ∈ markAllLiteralsIn value := by
  simp only [markAt, List.mem_flatMap, Prod.exists, List.mem_zipIdx_iff_getElem?,
    List.mem_ite_nil_right]
  constructor
  · rintro ⟨value, k, hvalue, hk, ha⟩
    exact ⟨k, value, hvalue, hk, ha⟩
  · rintro ⟨k, value, hvalue, hk, ha⟩
    exact ⟨value, k, hvalue, hk, ha⟩

theorem mem_sensitiveColumnIndexes {schema : Expression} {k : Nat} :
    k ∈ sensitiveColumnIndexes schema ↔
      ∃ column, (schema.argList .expressions)[k]? = some column ∧
        isSensitiveColumnName column.name = true := by
  simp [sensitiveColumnIndexes, List.mem_zipIdx_iff_getElem?]

theorem mem_zip_iff {α β : Type} {xs : List α} {ys : List β} {a : α} {b : β} :
    (a, b) ∈ xs.zip ys ↔ ∃ k : Nat, xs[k]? = some a ∧ ys[k]? = some b := by
  simp [List.mem_iff_getElem?, List.getElem?_zip_eq_some]

theorem mem_markSetAssignment {equality : Located} {address : Address} :
    address ∈ markSetAssignment equality ↔
      ∃ target value, equality.arg? .this = some target ∧
        equality.arg? .expression = some value ∧
        (target.node.isA .column = true ∧ isSensitiveColumnName target.node.name = true ∧
            address ∈ markAllLiteralsIn value ∨
          target.node.isA .tuple = true ∧ value.node.isA .tuple = true ∧
            ∃ column v, (column, v) ∈ (target.argList .expressions).zip
                (value.argList .expressions) ∧
              isSensitiveColumnName column.node.name = true ∧ address ∈ markAllLiteralsIn v) := by
  unfold markSetAssignment
  cases htarget : equality.arg? .this with
  | none => simp
  | some target =>
    cases hvalue : equality.arg? .expression with
    | none => simp
    | some value =>
      simp only [Option.some.injEq, exists_and_left, exists_eq_left']
      cases hcolumn : target.node.isA .column with
      | true =>
        have htuple : target.node.isA .tuple = false :=
          Expression.isA_eq_false hcolumn (by decide)
        cases isSensitiveColumnName target.node.name <;> simp [htuple]
      | false =>
        cases target.node.isA .tuple <;> cases value.node.isA .tuple <;> simp

theorem markAt_of_isEmpty {indexes : List Nat} (h : indexes.isEmpty) (values : List Located) :
    markAt indexes values = [] := by
  simp [markAt, List.isEmpty_iff.mp h]

theorem mem_markInsertNode {insertNode : Located} {address : Address} :
    address ∈ markInsertNode insertNode ↔
      ∃ schema source, insertNode.arg? .this = some schema ∧
        insertNode.arg? .expression = some source ∧ schema.node.isA .schema = true ∧
        (source.node.isA .values = true ∧ (∃ row ∈ source.argList .expressions,
            row.node.isA .tuple = true ∧
              address ∈ markAt (sensitiveColumnIndexes schema.node) (row.argList .expressions)) ∨
          source.node.isA .select = true ∧
            address ∈ markAt (sensitiveColumnIndexes schema.node)
              (source.argList .expressions)) := by
  unfold markInsertNode
  cases htarget : insertNode.arg? .this with
  | none => simp
  | some schema =>
    cases hsource : insertNode.arg? .expression with
    | none => simp
    | some source =>
      simp only [Option.some.injEq, exists_and_left, exists_eq_left']
      cases hschema : schema.node.isA .schema with
      | false => simp
      | true =>
        cases hempty : (sensitiveColumnIndexes schema.node).isEmpty with
        | true => simp [markAt_of_isEmpty hempty]
        | false =>
          cases hvalues : source.node.isA .values with
          | true =>
            have hselect : source.node.isA .select = false :=
              Expression.isA_eq_false hvalues (by decide)
            simp [markValuesClause, hselect]
          | false => cases source.node.isA .select <;> simp [markSelectProjections]

theorem mem_markUpdateSetAssignments {statement : Expression} {address : Address} :
    address ∈ markUpdateSetAssignments statement ↔
      ∃ equality, IsSetClause statement equality ∧ address ∈ markSetAssignment equality := by
  simp only [markUpdateSetAssignments, List.mem_flatMap, Expression.findAll, List.mem_filter,
    Prod.exists, List.mem_ite_nil_right, Bool.and_eq_true, decide_eq_true_eq]
  constructor
  · rintro ⟨a, o, ⟨hwalk, heq⟩, ⟨hparent, hkey⟩, hmark⟩
    refine ⟨⟨a, o.node⟩, ⟨heq, ?_⟩, hmark⟩
    cases a using List.reverseRecOn with
    | nil =>
      have hroot := (BreadthFirst.Branching.mem_addressed_walk _ _ _ _).mp hwalk
      cases hroot
      simp [Occurrence.root] at hparent
    | append_singleton a i =>
      obtain ⟨parent, key, hat, hchild, hp, hk⟩ := Expression.mem_walk_snoc.mp hwalk
      rw [hp] at hparent
      rw [hk] at hkey
      cases hkey
      exact ⟨a, i, parent, hat, by simpa using hparent, hchild, rfl⟩
  · rintro ⟨⟨_, n⟩, ⟨heq, a, i, update, hat, hupdate, hchild, rfl⟩, hmark⟩
    refine ⟨a ++ [i], ⟨n, some update, some .expressions⟩, ⟨?_, heq⟩, ⟨by simp [hupdate], rfl⟩,
      hmark⟩
    exact Expression.mem_walk_snoc.mpr ⟨update, .expressions, hat, hchild, rfl, rfl⟩

theorem mem_markInsertValues {statement : Expression} {address : Address} :
    address ∈ markInsertValues statement ↔
      ∃ insertNode : Located, statement.at? insertNode.address = some insertNode.node ∧
        insertNode.node.isA .insert = true ∧ address ∈ markInsertNode insertNode := by
  simp only [markInsertValues, List.mem_flatMap, Expression.findAll, List.mem_filter, Prod.exists]
  constructor
  · rintro ⟨a, o, ⟨hwalk, hinsert⟩, hmark⟩
    exact ⟨⟨a, o.node⟩, Expression.at?_of_mem_walk hwalk, hinsert, hmark⟩
  · rintro ⟨⟨a, n⟩, hat, hinsert, hmark⟩
    obtain ⟨o, ho, rfl⟩ := Expression.exists_mem_walk hat
    exact ⟨a, o, ⟨ho, hinsert⟩, hmark⟩

theorem mem_markAt_sensitive {schema : Expression} {values : List Located} {address : Address} :
    address ∈ markAt (sensitiveColumnIndexes schema) values ↔
      ∃ (k : Nat) (column : Expression) (value : Located),
        (schema.argList .expressions)[k]? = some column ∧ values[k]? = some value ∧
        isSensitiveColumnName column.name = true ∧ address ∈ markAllLiteralsIn value := by
  simp only [mem_markAt, mem_sensitiveColumnIndexes]
  constructor
  · rintro ⟨k, value, hvalue, ⟨column, hcolumn, hname⟩, ha⟩
    exact ⟨k, column, value, hcolumn, hvalue, hname, ha⟩
  · rintro ⟨k, column, value, hcolumn, hvalue, hname, ha⟩
    exact ⟨k, value, hvalue, ⟨column, hcolumn, hname⟩, ha⟩

theorem assigned_of_mem_collect {statement : Expression} {address : Address}
    (h : address ∈ collectSensitiveLiteralIds statement) : AssignedSensitive statement address := by
  rcases List.mem_append.mp h with h | h
  · obtain ⟨equality, hclause, hmark⟩ := mem_markUpdateSetAssignments.mp h
    obtain ⟨target, value, htarget, hvalue, ⟨hcolumn, hname, ha⟩ | ⟨htuple, hvalues, column, v,
      hzip, hname, ha⟩⟩ := mem_markSetAssignment.mp hmark
    · exact ⟨target.node, value, .setColumn hclause htarget hvalue hcolumn, hname,
        mem_markAllLiteralsIn.mp ha⟩
    · obtain ⟨k, hk, hk'⟩ := mem_zip_iff.mp hzip
      exact ⟨column.node, v, .setTuple hclause htarget hvalue htuple hvalues hk hk', hname,
        mem_markAllLiteralsIn.mp ha⟩
  · obtain ⟨insertNode, hat, hinsert, hmark⟩ := mem_markInsertValues.mp h
    obtain ⟨schema, source, htarget, hsource, hschema, ⟨hvalues, row, hrow, htuple, hmark⟩ |
      ⟨hselect, hmark⟩⟩ := mem_markInsertNode.mp hmark
    · obtain ⟨k, column, value, hk, hk', hname, ha⟩ := mem_markAt_sensitive.mp hmark
      exact ⟨column, value, .insertValues ⟨hat, hinsert, htarget, hschema, hsource⟩ hvalues hrow
        htuple hk hk', hname, mem_markAllLiteralsIn.mp ha⟩
    · obtain ⟨k, column, value, hk, hk', hname, ha⟩ := mem_markAt_sensitive.mp hmark
      exact ⟨column, value, .insertSelect ⟨hat, hinsert, htarget, hschema, hsource⟩ hselect hk hk',
        hname, mem_markAllLiteralsIn.mp ha⟩

theorem mem_collect_of_assigned {statement : Expression} {address : Address}
    (h : AssignedSensitive statement address) : address ∈ collectSensitiveLiteralIds statement := by
  obtain ⟨column, value, hassigns, hname, hliteral⟩ := h
  have ha := mem_markAllLiteralsIn.mpr hliteral
  apply List.mem_append.mpr
  cases hassigns with
  | setColumn hclause htarget hvalue hcolumn =>
    exact Or.inl (mem_markUpdateSetAssignments.mpr ⟨_, hclause, mem_markSetAssignment.mpr
      ⟨_, _, htarget, hvalue, Or.inl ⟨hcolumn, hname, ha⟩⟩⟩)
  | setTuple hclause htarget hvalue htuple hvalues hk hk' =>
    exact Or.inl (mem_markUpdateSetAssignments.mpr ⟨_, hclause, mem_markSetAssignment.mpr
      ⟨_, _, htarget, hvalue, Or.inr ⟨htuple, hvalues, _, _, mem_zip_iff.mpr ⟨_, hk, hk'⟩, hname,
        ha⟩⟩⟩)
  | insertValues hinsert hvalues hrow htuple hk hk' =>
    exact Or.inr (mem_markInsertValues.mpr ⟨_, hinsert.at_, hinsert.isInsert,
      mem_markInsertNode.mpr ⟨_, _, hinsert.target, hinsert.rows, hinsert.isSchema,
        Or.inl ⟨hvalues, _, hrow, htuple,
          mem_markAt_sensitive.mpr ⟨_, _, _, hk, hk', hname, ha⟩⟩⟩⟩)
  | insertSelect hinsert hselect hk hk' =>
    exact Or.inr (mem_markInsertValues.mpr ⟨_, hinsert.at_, hinsert.isInsert,
      mem_markInsertNode.mpr ⟨_, _, hinsert.target, hinsert.rows, hinsert.isSchema,
        Or.inr ⟨hselect, mem_markAt_sensitive.mpr ⟨_, _, _, hk, hk', hname, ha⟩⟩⟩⟩)

/-- The collected literals are those assigned to a column of a sensitive name. -/
theorem mem_collectSensitiveLiteralIds {statement : Expression} {address : Address} :
    address ∈ collectSensitiveLiteralIds statement ↔ AssignedSensitive statement address :=
  ⟨assigned_of_mem_collect, mem_collect_of_assigned⟩

end SqlGateway.Sql
