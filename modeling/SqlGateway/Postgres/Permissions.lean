import SqlGateway.Library.AccessControl

namespace SqlGateway.Postgres.Permissions

open AccessControl (Acl Change Covered)

inductive Privilege
  | select | insert | update | delete | truncate | references | trigger | usage | create | execute
  deriving DecidableEq

inductive Grantee
  | everyone
  | role (name : String)
  deriving DecidableEq

/-- A table, a sequence or a function has the schema that it is in. -/
inductive Object
  | schema (name : String)
  | table (schema name : String)
  | column (schema table name : String)
  | sequence (schema name : String)
  | function (schema signature : String)
  deriving DecidableEq

/-- One item of an access control list. The same privilege can be held from several roles. -/
structure Entry where
  grantee : Grantee
  privilege : Privilege
  object : Object
  grantor : String
  deriving DecidableEq

inductive Target
  | schema (name : String)
  | table (name : String)
  | columns (table : String) (names : List String)
  | allTables | allSequences | allFunctions
  | function (schema signature : String)

/-- `privileges` is `none` for `ALL`. -/
structure Statement where
  grants : Bool
  privileges : Option (List Privilege)
  target : Target
  grantee : Grantee

/-- `IN SCHEMA public`, where the search path also finds the tables that are named. -/
def schemaName : String := "public"

/-- A table that is revoked takes its columns' own privileges with it. -/
def Target.covers (grants : Bool) : Target → Object → Bool
  | .schema name, .schema other => other = name
  | .table name, .table within other => within = schemaName && other = name
  | .table name, .column within other _ => !grants && within = schemaName && other = name
  | .columns name names, .column within other column =>
    within = schemaName && other = name && column ∈ names
  | .allTables, .table within _ => within = schemaName
  | .allTables, .column within _ _ => !grants && within = schemaName
  | .allSequences, .sequence within _ => within = schemaName
  | .allFunctions, .function within _ => within = schemaName
  | .function within signature, .function within' signature' =>
    within' = within && signature' = signature
  | _, _ => false

def Target.isPublic : Target → Bool
  | .schema name => name = schemaName
  | .function _ _ => false
  | _ => true

/-- A superuser grants and revokes in the place of the owner, and so only what is held from the
owner. -/
def Statement.covers (owner : Object → String) (statement : Statement) (entry : Entry) : Bool :=
  entry.grantor = owner entry.object && entry.grantee = statement.grantee &&
    statement.privileges.all (fun privileges => entry.privilege ∈ privileges) &&
      statement.target.covers statement.grants entry.object

/-- The objects that a target names. -/
def Target.named : Target → List Object
  | .schema name => [.schema name]
  | .table name => [.table schemaName name]
  | .columns name names => names.map fun column => .column schemaName name column
  | .allTables | .allSequences | .allFunctions => [.schema schemaName]
  | .function within signature => [.function within signature]

/-- What there is, whose it is, and who holds what of it. -/
@[ext] structure Database where
  objects : Object → Bool
  owner : Object → String
  acl : Acl Entry
  columns_of_tables : ∀ within name column, objects (.column within name column) = true →
    objects (.table within name) = true
  acl_objects : ∀ entry, acl entry = true → objects entry.object = true

def Statement.change (objects : Object → Bool) (owner : Object → String) (statement : Statement) :
    Change Entry where
  grants := statement.grants
  covers entry := objects entry.object && statement.covers owner entry

namespace Database

/-- Someone holds from the grantee what the statement is about. -/
def PassedOn (db : Database) (statement : Statement) : Prop :=
  ∃ held entry, db.acl held = true ∧ statement.covers db.owner held = true ∧
    db.acl entry = true ∧ held.grantee = .role entry.grantor ∧
      entry.privilege = held.privilege ∧ entry.object = held.object

def execute (db : Database) (statement : Statement) : Database :=
  { db with
    acl := (statement.change db.objects db.owner).apply db.acl
    acl_objects := by
      intro entry h
      rw [Change.apply] at h
      split_ifs at h with hcovers
      · exact (Bool.and_eq_true_iff.mp hcovers).1
      · exact db.acl_objects entry h }

/-- The statements succeed one after the other: what they name is there, and no revoke, which
would have to say `CASCADE`, meets a privilege that was passed on. -/
inductive Runs : Database → List Statement → Database → Prop
  | nil {db : Database} : Runs db [] db
  | cons {db after : Database} {statement : Statement} {statements : List Statement} :
    (∀ object ∈ statement.target.named, db.objects object = true) →
    (statement.grants = false → ¬db.PassedOn statement) →
    Runs (db.execute statement) statements after → Runs db (statement :: statements) after

def run (db : Database) (statements : List Statement) : Database := statements.foldl execute db

theorem Runs.eq_run {db after : Database} {statements : List Statement}
    (h : Runs db statements after) : after = db.run statements := by
  induction h with
  | nil => rfl
  | cons _ _ _ ih => exact ih

theorem run_objects (db : Database) (statements : List Statement) :
    (db.run statements).objects = db.objects := by
  induction statements generalizing db with
  | nil => rfl
  | cons statement statements ih => exact ih (db.execute statement)

theorem run_owner (db : Database) (statements : List Statement) :
    (db.run statements).owner = db.owner := by
  induction statements generalizing db with
  | nil => rfl
  | cons statement statements ih => exact ih (db.execute statement)

theorem run_acl (db : Database) (statements : List Statement) : (db.run statements).acl =
    AccessControl.run (statements.map (Statement.change db.objects db.owner)) db.acl := by
  induction statements generalizing db with
  | nil => rfl
  | cons statement statements ih => exact ih (db.execute statement)

end Database

def agentRw : Grantee := .role "agent_rw"

def revokeAll (target : Target) : Statement := ⟨false, none, target, agentRw⟩

def grant (privileges : List Privilege) (target : Target) : Statement :=
  ⟨true, some privileges, target, agentRw⟩

/-- Start from zero. -/
def revocations : List Statement :=
  [revokeAll (.schema "public"), revokeAll .allTables, revokeAll .allSequences,
    revokeAll .allFunctions]

def grants : List Statement :=
  [grant [.usage] (.schema "public"),
    grant [.select]
      (.columns "users" ["id", "email", "name", "phone", "user", "group", "created_at"]),
    grant [.insert] (.columns "users" ["email", "name", "password_hash", "phone", "date_of_birth"]),
    grant [.update] (.columns "users" ["email", "name", "phone", "password_hash"]),
    grant [.select, .insert, .update, .delete] (.table "addresses"),
    grant [.select] (.table "products"),
    grant [.select, .insert, .update, .delete] (.table "orders"),
    grant [.select, .insert, .update, .delete] (.table "order_items"),
    grant [.select] (.columns "payments"
      ["id", "order_id", "amount", "method", "transaction_id", "created_at"]),
    grant [.insert] (.table "activity_log"),
    grant [.usage] .allSequences]

def dangerousFunctions : List String :=
  ["pg_read_file(text)", "pg_read_file(text, bigint, bigint)", "pg_ls_dir(text)"]

def functionRevocations : List Statement :=
  dangerousFunctions.map fun signature =>
    ⟨false, some [.execute], .function "pg_catalog" signature, .everyone⟩

def permissions : List Statement := revocations ++ (grants ++ functionRevocations)

inductive Columns
  | every
  | only (names : List String)

/-- By table, the columns that the agent is to have a privilege on. -/
def agentColumns : Privilege → List (String × Columns)
  | .select =>
    [("users", .only ["id", "email", "name", "phone", "user", "group", "created_at"]),
      ("addresses", .every), ("products", .every), ("orders", .every), ("order_items", .every),
      ("payments", .only ["id", "order_id", "amount", "method", "transaction_id", "created_at"])]
  | .insert =>
    [("users", .only ["email", "name", "password_hash", "phone", "date_of_birth"]),
      ("addresses", .every), ("orders", .every), ("order_items", .every), ("activity_log", .every)]
  | .update =>
    [("users", .only ["email", "name", "phone", "password_hash"]), ("addresses", .every),
      ("orders", .every), ("order_items", .every)]
  | .delete => [("addresses", .every), ("orders", .every), ("order_items", .every)]
  | _ => []

def Columns.hasAll : Columns → Bool
  | .every => true
  | .only _ => false

def Columns.has : Columns → String → Bool
  | .every, _ => true
  | .only names, column => column ∈ names

def Object.isPublic : Object → Bool
  | .schema name => name = schemaName
  | .table within _ | .column within _ _ | .sequence within _ | .function within _ =>
    within = schemaName

def granted (privilege : Privilege) : Object → Bool
  | .schema _ | .sequence _ _ => privilege = .usage
  | .table _ name => (agentColumns privilege).any fun entry => name = entry.1 && entry.2.hasAll
  | .column _ name column =>
    (agentColumns privilege).any fun entry =>
      name = entry.1 && (!entry.2.hasAll && entry.2.has column)
  | .function _ _ => false

def agentMay (privilege : Privilege) (name column : String) : Bool :=
  (agentColumns privilege).any fun entry => name = entry.1 && entry.2.has column

/-- A column is in a table that the agent has as a whole, or is one of the columns it has. -/
theorem granted_or (privilege : Privilege) (name column : String) :
    (granted privilege (.table schemaName name) ||
      granted privilege (.column schemaName name column)) = agentMay privilege name column := by
  have hsplit : ∀ entries : List (String × Columns),
      ((entries.any fun entry => name = entry.1 && entry.2.hasAll) ||
        entries.any fun entry => name = entry.1 && (!entry.2.hasAll && entry.2.has column)) =
      entries.any fun entry => name = entry.1 && entry.2.has column := by
    intro entries
    induction entries with
    | nil => rfl
    | cons entry entries ih =>
      rw [List.any_cons, List.any_cons, List.any_cons, ← ih]
      obtain ⟨table, columns⟩ := entry
      cases columns <;> cases decide (name = table) <;> simp [Columns.hasAll, Columns.has,
        Bool.or_left_comm]
  exact hsplit (agentColumns privilege)

namespace Database

variable (db : Database)

/-- A role without memberships has its own privileges and everyone's, from whomever; one on a table
is one on all of its columns. -/
def MayOnColumn (role : Grantee) (privilege : Privilege) (name column : String) : Prop :=
  ∃ grantee ∈ [role, .everyone], ∃ grantor,
    db.acl ⟨grantee, privilege, .table schemaName name, grantor⟩ = true ∨
      db.acl ⟨grantee, privilege, .column schemaName name column, grantor⟩ = true

/-- Nothing in the schema's tables is for everyone, and the agent has nothing there from others
than the owners. -/
structure Closed : Prop where
  everyone : ∀ privilege object grantor, object.isPublic = true → object ≠ .schema schemaName →
    db.acl ⟨.everyone, privilege, object, grantor⟩ = false
  owners : ∀ privilege object grantor, object.isPublic = true → grantor ≠ db.owner object →
    db.acl ⟨agentRw, privilege, object, grantor⟩ = false

/-- What the script names is there, and of the schema nothing is the agent's and nothing is held
from the agent. -/
structure Ready : Prop where
  named : ∀ statement ∈ permissions, ∀ object ∈ statement.target.named, db.objects object = true
  owners : ∀ object, object.isPublic = true → agentRw ≠ .role (db.owner object)
  kept : ∀ entry, db.acl entry = true → entry.object.isPublic = true →
    agentRw ≠ .role entry.grantor

/-- What the script makes of a database. -/
structure Permitted (after : Database) : Prop where
  agent : ∀ privilege object, object.isPublic = true →
    after.acl ⟨agentRw, privilege, object, db.owner object⟩ =
      (db.objects object && granted privilege object)
  thirdRoles : ∀ entry, entry.grantor ≠ db.owner entry.object → after.acl entry = db.acl entry
  columns : db.Closed → ∀ privilege name column,
    db.objects (.column schemaName name column) = true →
      (after.MayOnColumn agentRw privilege name column ↔ agentMay privilege name column = true)
  elsewhere : ∀ privilege object grantor, object.isPublic = false →
    after.acl ⟨agentRw, privilege, object, grantor⟩ = db.acl ⟨agentRw, privilege, object, grantor⟩
  others : ∀ entry, entry.grantee ≠ agentRw →
    after.acl entry = (db.acl entry && !(functionRevocations.any fun statement =>
      statement.covers db.owner entry))

variable {db}

theorem covers_thirdRole {owner : Object → String} {statement : Statement} {entry : Entry}
    (h : entry.grantor ≠ owner entry.object) : statement.covers owner entry = false := by
  rw [Statement.covers, decide_eq_false h, Bool.false_and, Bool.false_and, Bool.false_and]

theorem covers_grantee {owner : Object → String} {statement : Statement} {entry : Entry}
    (h : statement.covers owner entry = true) : entry.grantee = statement.grantee := by
  simp only [Statement.covers, Bool.and_eq_true, decide_eq_true_eq] at h
  exact h.1.1.2

theorem covers_target {owner : Object → String} {statement : Statement} {entry : Entry}
    (h : statement.covers owner entry = true) :
    statement.target.covers statement.grants entry.object = true := by
  simp only [Statement.covers, Bool.and_eq_true] at h
  exact h.2

theorem covers_agentRw {owner : Object → String} {privilege : Privilege} {object : Object}
    {grantor : String} {statement : Statement} (h : statement ∈ functionRevocations) :
    statement.covers owner ⟨agentRw, privilege, object, grantor⟩ = false := by
  rw [Bool.eq_false_iff]
  intro hcovers
  have hgrantee := covers_grantee hcovers
  obtain ⟨signature, -, rfl⟩ := List.mem_map.mp h
  cases hgrantee

theorem grants_cover (owner : Object → String) (privilege : Privilege) {object : Object}
    (h : object.isPublic = true) :
    (grants.any fun statement =>
      statement.covers owner ⟨agentRw, privilege, object, owner object⟩) =
        granted privilege object := by
  cases object with
  | schema name =>
    cases of_decide_eq_true h
    cases privilege <;> simp [grants, grant, Statement.covers, Target.covers, granted, schemaName]
  | table within name =>
    cases of_decide_eq_true h
    cases privilege <;>
      simp [grants, grant, Statement.covers, Target.covers, granted, agentColumns, Columns.hasAll]
  | column within name column =>
    cases of_decide_eq_true h
    cases privilege <;> simp [grants, grant, Statement.covers, Target.covers, granted, agentColumns,
      Columns.hasAll, Columns.has]
  | sequence within name =>
    cases of_decide_eq_true h
    cases privilege <;> simp [grants, grant, Statement.covers, Target.covers, granted]
  | function within signature =>
    cases privilege <;> simp [grants, grant, Statement.covers, Target.covers, granted]

theorem revocations_cover (owner : Object → String) (privilege : Privilege) {object : Object}
    (h : object.isPublic = true) :
    (revocations.any fun statement =>
      statement.covers owner ⟨agentRw, privilege, object, owner object⟩) = true := by
  cases object <;> cases of_decide_eq_true h <;>
    simp [revocations, revokeAll, Statement.covers, Target.covers, schemaName]

theorem isPublic_of_covers {grants : Bool} {target : Target} {object : Object}
    (h : target.isPublic = true) (hcovers : target.covers grants object = true) :
    object.isPublic = true := by
  cases target <;> cases object <;> simp_all [Target.isPublic, Target.covers, Object.isPublic]

theorem agent_statement {statement : Statement} (h : statement ∈ revocations ++ grants) :
    statement.grantee = agentRw ∧ statement.target.isPublic = true := by
  have hall : ((revocations ++ grants).all fun statement =>
      decide (statement.grantee = agentRw) && statement.target.isPublic) = true := rfl
  simpa using List.all_eq_true.mp hall statement h

/-- Nothing that the script revokes was passed on, neither by the agent nor by everyone. -/
theorem Ready.not_passedOn (h : db.Ready) {statement : Statement} (hmem : statement ∈ permissions) :
    ¬db.PassedOn statement := by
  rintro ⟨held, entry, hheld, hcovers, hentry, hgrantor, -, hobject⟩
  have hgrantee := covers_grantee hcovers
  rw [permissions, ← List.append_assoc, List.mem_append] at hmem
  cases hmem with
  | inl hagent =>
    obtain ⟨hagentRw, hpublic⟩ := agent_statement hagent
    refine h.kept entry hentry ?_ (hagentRw.symm.trans (hgrantee.symm.trans hgrantor))
    rw [hobject]
    exact isPublic_of_covers hpublic (covers_target hcovers)
  | inr heveryone =>
    obtain ⟨signature, -, rfl⟩ := List.mem_map.mp heveryone
    rw [hgrantor] at hgrantee
    cases hgrantee

/-- What the owners of the schema grant is not from the agent either. -/
theorem Ready.execute (h : db.Ready) (statement : Statement) : (db.execute statement).Ready where
  named := h.named
  owners := h.owners
  kept entry hentry hpublic := by
    change (statement.change db.objects db.owner).apply db.acl entry = true at hentry
    rw [Change.apply] at hentry
    split_ifs at hentry with hcovers
    · have hgrantor : entry.grantor = db.owner entry.object := by
        by_contra hne
        have hnot := @covers_thirdRole _ statement _ hne
        rw [(Bool.and_eq_true_iff.mp hcovers).2] at hnot
        cases hnot
      rw [hgrantor]
      exact h.owners entry.object hpublic
    · exact h.kept entry hentry hpublic

theorem Ready.run (h : db.Ready) (statements : List Statement) : (db.run statements).Ready := by
  induction statements generalizing db with
  | nil => exact h
  | cons statement statements ih => exact ih (h.execute statement)

theorem Ready.runs (h : db.Ready) {statements : List Statement}
    (hsub : ∀ statement ∈ statements, statement ∈ permissions) :
    db.Runs statements (db.run statements) := by
  induction statements generalizing db with
  | nil => exact .nil
  | cons statement statements ih =>
    obtain ⟨hstatement, hstatements⟩ := List.forall_mem_cons.mp hsub
    exact .cons (h.named statement hstatement) (fun _ => h.not_passedOn hstatement)
      (ih (h.execute statement) hstatements)

section Left

variable (db)

theorem any_change (statements : List Statement) (entry : Entry) :
    ((statements.map (Statement.change db.objects db.owner)).any fun change => change.covers entry) =
      (db.objects entry.object &&
        statements.any fun statement => statement.covers db.owner entry) := by
  induction statements with
  | nil => exact (Bool.and_false _).symm
  | cons statement statements ih =>
    rw [List.map_cons, List.any_cons, ih, List.any_cons, Bool.and_or_distrib_left]
    rfl

theorem not_covered {statements : List Statement} {entry : Entry}
    (h : ∀ statement ∈ statements, statement.covers db.owner entry = false) :
    ¬Covered (statements.map (Statement.change db.objects db.owner)) entry := by
  rintro ⟨change, hchange, hcovers⟩
  obtain ⟨statement, hstatement, rfl⟩ := List.mem_map.mp hchange
  have hstatement' := (Bool.and_eq_true_iff.mp hcovers).2
  rw [h statement hstatement] at hstatement'
  cases hstatement'

theorem run_permissions : (db.run permissions).acl =
    AccessControl.run (functionRevocations.map (Statement.change db.objects db.owner))
      (AccessControl.run (grants.map (Statement.change db.objects db.owner))
        (AccessControl.run (revocations.map (Statement.change db.objects db.owner)) db.acl)) := by
  rw [run_acl, permissions, List.map_append, List.map_append, AccessControl.run_append,
    AccessControl.run_append]

theorem revokes_change {statements : List Statement} {grants : Bool}
    (h : ∀ statement ∈ statements, statement.grants = grants) :
    ∀ change ∈ statements.map (Statement.change db.objects db.owner), change.grants = grants :=
  List.forall_mem_map.mpr h

theorem run_agent (privilege : Privilege) (object : Object) (h : object.isPublic = true) :
    (db.run permissions).acl ⟨agentRw, privilege, object, db.owner object⟩ =
      (db.objects object && granted privilege object) := by
  have hrevoked : AccessControl.run (revocations.map (Statement.change db.objects db.owner)) db.acl
      ⟨agentRw, privilege, object, db.owner object⟩ = false := by
    rw [AccessControl.run_revokes (db.revokes_change (by simp [revocations, revokeAll])),
      any_change, revocations_cover db.owner privilege h, Bool.and_true]
    cases hheld : db.acl ⟨agentRw, privilege, object, db.owner object⟩ with
    | false => rfl
    | true => rw [db.acl_objects _ hheld, Bool.not_true, Bool.and_false]
  rw [run_permissions, AccessControl.run_of_not_covered (db.not_covered fun _ => covers_agentRw),
    AccessControl.run_grants (db.revokes_change (by simp [grants, grant])), hrevoked, any_change,
    grants_cover db.owner privilege h, Bool.false_or]

theorem run_thirdRoles (entry : Entry) (h : entry.grantor ≠ db.owner entry.object) :
    (db.run permissions).acl entry = db.acl entry := by
  rw [run_acl]
  exact AccessControl.run_of_not_covered (db.not_covered fun _ _ => covers_thirdRole h)

theorem run_elsewhere (privilege : Privilege) (object : Object) (grantor : String)
    (h : object.isPublic = false) :
    (db.run permissions).acl ⟨agentRw, privilege, object, grantor⟩ =
      db.acl ⟨agentRw, privilege, object, grantor⟩ := by
  have helsewhere : ∀ statement ∈ revocations ++ grants,
      statement.covers db.owner ⟨agentRw, privilege, object, grantor⟩ = false := by
    intro statement hstatement
    rw [Bool.eq_false_iff]
    intro hcovers
    have hpublic := isPublic_of_covers (agent_statement hstatement).2 (covers_target hcovers)
    rw [hpublic] at h
    cases h
  rw [run_permissions, AccessControl.run_of_not_covered (db.not_covered fun _ => covers_agentRw),
    AccessControl.run_of_not_covered (db.not_covered fun statement hstatement =>
      helsewhere statement (List.mem_append_right _ hstatement)),
    AccessControl.run_of_not_covered (db.not_covered fun statement hstatement =>
      helsewhere statement (List.mem_append_left _ hstatement))]

theorem run_others (entry : Entry) (h : entry.grantee ≠ agentRw) :
    (db.run permissions).acl entry = (db.acl entry && !(functionRevocations.any fun statement =>
      statement.covers db.owner entry)) := by
  have hothers : ∀ statement ∈ revocations ++ grants, statement.covers db.owner entry = false := by
    intro statement hstatement
    rw [Bool.eq_false_iff]
    intro hcovers
    exact h ((covers_grantee hcovers).trans (agent_statement hstatement).1)
  rw [run_permissions, AccessControl.run_revokes (db.revokes_change
      (by simp [functionRevocations])),
    AccessControl.run_of_not_covered (db.not_covered fun statement hstatement =>
      hothers statement (List.mem_append_right _ hstatement)),
    AccessControl.run_of_not_covered (db.not_covered fun statement hstatement =>
      hothers statement (List.mem_append_left _ hstatement)), any_change]
  cases hheld : db.acl entry with
  | false => rfl
  | true => rw [db.acl_objects entry hheld, Bool.true_and, Bool.true_and, Bool.true_and]

end Left

theorem Closed.run_everyone (h : db.Closed) (privilege : Privilege) {object : Object}
    (grantor : String) (hpublic : object.isPublic = true) (hschema : object ≠ .schema schemaName) :
    (db.run permissions).acl ⟨.everyone, privilege, object, grantor⟩ = false := by
  rw [run_others db _ (by simp [agentRw]), h.everyone privilege object grantor hpublic hschema,
    Bool.false_and]

theorem Closed.run_own (h : db.Closed) (privilege : Privilege) {object : Object} (grantor : String)
    (hpublic : object.isPublic = true) (hobject : db.objects object = true) :
    (db.run permissions).acl ⟨agentRw, privilege, object, grantor⟩ = true ↔
      grantor = db.owner object ∧ granted privilege object = true := by
  by_cases howner : grantor = db.owner object
  · subst howner
    rw [db.run_agent privilege object hpublic, hobject, Bool.true_and, eq_self, true_and]
  · rw [db.run_thirdRoles _ howner, h.owners privilege object grantor hpublic howner]
    simp [howner]

/-- With nothing for everyone and from third roles, the columns that the agent may use are its own
ones. -/
theorem Closed.run_columns (h : db.Closed) (privilege : Privilege) (name column : String)
    (hcolumn : db.objects (.column schemaName name column) = true) :
    (db.run permissions).MayOnColumn agentRw privilege name column ↔
      agentMay privilege name column = true := by
  have htable := db.columns_of_tables _ _ _ hcolumn
  have hpublicTable : (Object.table schemaName name).isPublic = true := by
    simp [Object.isPublic]
  have hpublicColumn : (Object.column schemaName name column).isPublic = true := by
    simp [Object.isPublic]
  rw [← granted_or, Bool.or_eq_true]
  simp only [MayOnColumn, List.mem_cons, List.not_mem_nil, or_false, exists_eq_or_imp,
    exists_eq_left, h.run_own _ _ hpublicTable htable, h.run_own _ _ hpublicColumn hcolumn,
    h.run_everyone _ _ hpublicTable nofun, h.run_everyone _ _ hpublicColumn nofun,
    Bool.false_eq_true, exists_false, exists_or, exists_eq_left]

/-- Whoever held what before: where the script succeeds, it leaves the agent, of what is held from
the owners, what it lists and no more, takes from everyone the three functions, changes nothing
else, and has nothing left to change. It succeeds, and does so again, if what it names is there and
the agent has passed nothing on. -/
theorem permitted (db : Database) :
    (∀ after, db.Runs permissions after →
      db.Permitted after ∧ after.run permissions = after) ∧
      (db.Ready → ∃ after, db.Runs permissions after ∧ after.Runs permissions after) := by
  have hagain : (db.run permissions).run permissions = db.run permissions := by
    apply Database.ext
    · exact (db.run permissions).run_objects permissions
    · exact (db.run permissions).run_owner permissions
    · rw [run_acl, run_objects, run_owner, run_acl, AccessControl.run_run]
  constructor
  · intro after hruns
    rw [hruns.eq_run]
    refine ⟨?_, hagain⟩
    exact ⟨db.run_agent, db.run_thirdRoles, fun hclosed => hclosed.run_columns, db.run_elsewhere,
      db.run_others⟩
  · intro hready
    have hsecond := (hready.run permissions).runs fun _ hmem => hmem
    rw [hagain] at hsecond
    exact ⟨db.run permissions, hready.runs fun _ hmem => hmem, hsecond⟩

/-- What the script finds: everything there is belongs to one role, and the agent holds two
privileges on one table, the second one from an auditor. -/
def withAuditor : Database where
  objects _ := true
  owner _ := "postgres"
  acl entry := entry.grantee = agentRw && entry.object = .table schemaName "sessions" &&
    (entry.grantor = "postgres" && entry.privilege = .select ||
      entry.grantor = "auditor" && entry.privilege = .insert)
  columns_of_tables _ _ _ _ := rfl
  acl_objects _ _ := rfl

theorem ready_withAuditor : withAuditor.Ready where
  named _ _ _ _ := rfl
  owners _ _ := by
    change agentRw ≠ .role "postgres"
    decide
  kept entry hentry _ := by
    simp only [withAuditor, Bool.and_eq_true, Bool.or_eq_true, decide_eq_true_eq] at hentry
    obtain ⟨-, ⟨hgrantor, -⟩ | ⟨hgrantor, -⟩⟩ := hentry
    · rw [hgrantor]
      decide
    · rw [hgrantor]
      decide

/-- The first one is revoked and the second one stays. -/
theorem permitted_withAuditor : ∃ after, withAuditor.Runs permissions after ∧
    after.acl ⟨agentRw, .select, .table schemaName "sessions", "postgres"⟩ = false ∧
      after.acl ⟨agentRw, .insert, .table schemaName "sessions", "auditor"⟩ = true := by
  obtain ⟨hleaves, hsucceeds⟩ := permitted withAuditor
  obtain ⟨after, hruns, -⟩ := hsucceeds ready_withAuditor
  obtain ⟨hpermitted, -⟩ := hleaves after hruns
  exact ⟨after, hruns, hpermitted.agent .select (.table schemaName "sessions") rfl,
    hpermitted.thirdRoles ⟨agentRw, .insert, .table schemaName "sessions", "auditor"⟩
      (by decide)⟩

example : agentMay .select "users" "password_hash" = false := by decide

end Database

end SqlGateway.Postgres.Permissions
