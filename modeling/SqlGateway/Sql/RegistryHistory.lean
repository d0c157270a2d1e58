import Mathlib.Data.List.Nodup
import SqlGateway.Sql.QueryValidator

namespace SqlGateway.Sql

inductive RegistryEvent
  | sqlRule (dialects : Option (List String)) (cls : RuleClass)
  | rulesFor (dialect : String)

namespace RegistryEvent

/-- The dialect names that the call is given. -/
def dialects : RegistryEvent → List String
  | .sqlRule dialects _ => dialects.getD []
  | .rulesFor dialect => [dialect]

/-- The class, if the event registers it for all dialects. -/
def sharedClasses : RegistryEvent → List RuleClass
  | .sqlRule none cls | .sqlRule (some []) cls => [cls]
  | .sqlRule (some (_ :: _)) _ | .rulesFor _ => []

/-- The class, once for every time that the event names the dialect. -/
def classesUnder (dialect : String) : RegistryEvent → List RuleClass
  | .sqlRule dialects cls => .replicate ((dialects.getD []).count dialect) cls
  | .rulesFor _ => []

def classesFor (dialect : String) (history : List RegistryEvent) : List RuleClass :=
  history.flatMap sharedClasses ++ history.flatMap (classesUnder dialect)

end RegistryEvent

def ReservesSharedKey (history : List RegistryEvent) : Prop :=
  ∀ event ∈ history, sharedDialectKey ∉ event.dialects

namespace RuleRegistry

open RegistryEvent (sharedClasses classesUnder)

def perform (registry : RuleRegistry) : RegistryEvent → RuleRegistry
  | .sqlRule dialects cls => registry.sqlRule dialects cls
  | .rulesFor dialect => (registry.rulesFor dialect).2

def after (history : List RegistryEvent) : RuleRegistry := history.foldl perform empty

theorem after_snoc (history : List RegistryEvent) (event : RegistryEvent) :
    after (history ++ [event]) = (after history).perform event := by
  simp [after]

theorem after_append (history future : List RegistryEvent) :
    after (history ++ future) = future.foldl perform (after history) := by
  simp [after]

theorem foldl_append_classesByDialect (dialects : List String) (cls : RuleClass)
    (registry : RuleRegistry) (key : String) :
    (dialects.foldl (fun r dialect => r.append dialect cls) registry).classesByDialect key =
      registry.classesByDialect key ++ List.replicate (dialects.count key) cls := by
  induction dialects generalizing registry with
  | nil => simp
  | cons dialect dialects ih =>
    rw [List.foldl_cons, ih]
    by_cases h : key = dialect
    · subst h
      rw [List.count_cons_self, Nat.add_comm, List.replicate_add]
      simp [append]
    · rw [List.count_cons_of_ne (Ne.symm h)]
      simp [append, h]

theorem rulesFor_classesByDialect (registry : RuleRegistry) (dialect : String) :
    (registry.rulesFor dialect).2.classesByDialect = registry.classesByDialect := by
  unfold rulesFor
  cases registry.instanceCache dialect <;> rfl

theorem perform_shared (registry : RuleRegistry) {event : RegistryEvent}
    (h : sharedDialectKey ∉ event.dialects) :
    (registry.perform event).classesByDialect sharedDialectKey =
      registry.classesByDialect sharedDialectKey ++ event.sharedClasses := by
  cases event with
  | rulesFor dialect =>
    rw [perform, rulesFor_classesByDialect, sharedClasses, List.append_nil]
  | sqlRule dialects cls =>
    cases dialects with
    | none => simp [perform, sqlRule, append, sharedClasses]
    | some dialects =>
      cases dialects with
      | nil => simp [perform, sqlRule, append, sharedClasses]
      | cons dialect dialects =>
        have hcount : (dialect :: dialects).count sharedDialectKey = 0 :=
          List.count_eq_zero_of_not_mem h
        change (List.foldl _ registry (dialect :: dialects)).classesByDialect _ = _
        rw [foldl_append_classesByDialect, hcount]
        rfl

theorem perform_under (registry : RuleRegistry) (event : RegistryEvent) {dialect : String}
    (h : dialect ≠ sharedDialectKey) :
    (registry.perform event).classesByDialect dialect =
      registry.classesByDialect dialect ++ event.classesUnder dialect := by
  cases event with
  | rulesFor called =>
    rw [perform, rulesFor_classesByDialect, classesUnder, List.append_nil]
  | sqlRule dialects cls =>
    cases dialects with
    | none => simp [perform, sqlRule, append, classesUnder, h]
    | some dialects =>
      cases dialects with
      | nil => simp [perform, sqlRule, append, classesUnder, h]
      | cons first dialects => exact foldl_append_classesByDialect _ _ _ _

theorem classesFor_after {history : List RegistryEvent} (h : ReservesSharedKey history)
    {dialect : String} (hdialect : dialect ≠ sharedDialectKey) :
    (after history).classesFor dialect = RegistryEvent.classesFor dialect history := by
  have hlists : (after history).classesByDialect sharedDialectKey =
        history.flatMap sharedClasses ∧
      (after history).classesByDialect dialect = history.flatMap (classesUnder dialect) := by
    induction history using List.reverseRecOn with
    | nil => exact ⟨rfl, rfl⟩
    | append_singleton history event ih =>
      obtain ⟨hshared, hunder⟩ := ih fun e he => h e (List.mem_append_left _ he)
      rw [after_snoc]
      constructor
      · rw [perform_shared _ (h event (by simp)), hshared]
        simp
      · rw [perform_under _ _ hdialect, hunder]
        simp
  rw [classesFor, hlists.1, hlists.2]
  rfl

/-- One instance for each class, no two of them the same object. -/
structure InstancesOf (classes : List RuleClass) (instances : List RuleInstance) : Prop where
  cls : instances.map RuleInstance.cls = classes
  distinct : (instances.map RuleInstance.identity).Nodup

theorem instancesOf_instantiate (first : Nat) (classes : List RuleClass) :
    InstancesOf classes (instantiate first classes) := by
  constructor
  · exact instantiate_cls first classes
  · have hids : (instantiate first classes).map RuleInstance.identity =
        (List.range classes.length).map (first + ·) := by
      apply List.ext_getElem <;> simp [instantiate]
    rw [hids]
    exact List.Nodup.map (fun _ _ h => Nat.add_left_cancel h) List.nodup_range

def Consistent (registry : RuleRegistry) : Prop :=
  ∀ dialect, ∀ instances ∈ registry.instanceCache dialect,
    InstancesOf (registry.classesFor dialect) instances

theorem Consistent.instancesOf {registry : RuleRegistry} (h : registry.Consistent)
    (dialect : String) :
    InstancesOf (registry.classesFor dialect) (registry.rulesFor dialect).1 := by
  unfold rulesFor
  cases hcache : registry.instanceCache dialect with
  | none => exact instancesOf_instantiate _ _
  | some instances => exact h dialect instances hcache

theorem rulesFor_classesFor (registry : RuleRegistry) (called dialect : String) :
    (registry.rulesFor called).2.classesFor dialect = registry.classesFor dialect := by
  rw [classesFor, rulesFor_classesByDialect, classesFor]

theorem rulesFor_instanceCache (registry : RuleRegistry) (called dialect : String) :
    (registry.rulesFor called).2.instanceCache dialect =
      if dialect = called then some (registry.rulesFor called).1
      else registry.instanceCache dialect := by
  unfold rulesFor
  cases hcache : registry.instanceCache called with
  | none => rfl
  | some instances =>
    by_cases h : dialect = called
    · simp [h, hcache]
    · simp [h]

theorem Consistent.perform {registry : RuleRegistry} (h : registry.Consistent)
    (event : RegistryEvent) : (registry.perform event).Consistent := by
  cases event with
  | sqlRule dialects cls =>
    intro dialect instances hmem
    cases hmem
  | rulesFor called =>
    intro dialect instances hmem
    rw [RuleRegistry.perform, rulesFor_instanceCache] at hmem
    rw [RuleRegistry.perform, rulesFor_classesFor]
    split_ifs at hmem with heq
    · cases hmem
      rw [heq]
      exact h.instancesOf called
    · exact h dialect instances hmem

theorem consistent_after (history : List RegistryEvent) : (after history).Consistent := by
  induction history using List.reverseRecOn with
  | nil =>
    intro dialect instances hmem
    cases hmem
  | append_singleton history event ih =>
    rw [after_snoc]
    exact ih.perform event

theorem rulesFor_of_cached {registry : RuleRegistry} {dialect : String}
    {instances : List RuleInstance} (h : registry.instanceCache dialect = some instances) :
    (registry.rulesFor dialect).1 = instances := by
  rw [rulesFor, h]

theorem cached_after_calls {dialect : String} {instances : List RuleInstance}
    {registry : RuleRegistry} (h : registry.instanceCache dialect = some instances)
    (called : List String) :
    ((called.map .rulesFor).foldl perform registry).instanceCache dialect = some instances := by
  induction called generalizing registry with
  | nil => exact h
  | cons name called ih =>
    apply ih
    rw [perform, rulesFor_instanceCache]
    split_ifs with heq
    · rw [← heq, rulesFor_of_cached h]
    · exact h

theorem rulesFor_after_calls (history : List RegistryEvent) (dialect : String)
    (called : List String) :
    ((after (history ++ .rulesFor dialect :: called.map .rulesFor)).rulesFor dialect).1 =
      ((after history).rulesFor dialect).1 := by
  apply rulesFor_of_cached
  rw [after_append, List.foldl_cons]
  apply cached_after_calls
  rw [perform, rulesFor_instanceCache, if_pos rfl]

theorem accepts_of_subset {sqlglot : Sqlglot} {dialect : String} {registry registry' : RuleRegistry}
    (h : (registry.rulesFor dialect).1.map RuleInstance.cls ⊆
      (registry'.rulesFor dialect).1.map RuleInstance.cls) {payload : QueryPayload}
    (haccepts : Accepts sqlglot dialect registry' payload) :
    Accepts sqlglot dialect registry payload := by
  cases payload with
  | str queryText =>
    obtain ⟨hblank, statement, hstatement, hrules⟩ := (accepts_iff _ _ _ _).mp haccepts
    refine (accepts_iff _ _ _ _).mpr ⟨hblank, statement, hstatement, ?_⟩
    intro cls hcls
    exact hrules cls (h hcls)
  | dict fields => exact haccepts
  | list items => exact haccepts

theorem classesFor_subset_append (dialect : String) (history future : List RegistryEvent) :
    RegistryEvent.classesFor dialect history ⊆
      RegistryEvent.classesFor dialect (history ++ future) := by
  intro cls hcls
  simp only [RegistryEvent.classesFor, List.flatMap_append, List.mem_append] at hcls ⊢
  cases hcls with
  | inl h => exact Or.inl (Or.inl h)
  | inr h => exact Or.inr (Or.inl h)

theorem rulesFor_after {history : List RegistryEvent} (h : ReservesSharedKey history)
    {dialect : String} (hdialect : dialect ≠ sharedDialectKey) :
    InstancesOf (RegistryEvent.classesFor dialect history)
      ((after history).rulesFor dialect).1 := by
  rw [← classesFor_after h hdialect]
  exact (consistent_after history).instancesOf dialect

theorem accepts_of_later {history future : List RegistryEvent} (h : ReservesSharedKey history)
    (hfuture : ReservesSharedKey future) {dialect : String} (hdialect : dialect ≠ sharedDialectKey)
    {sqlglot : Sqlglot} {payload : QueryPayload}
    (haccepts : Accepts sqlglot dialect (after (history ++ future)) payload) :
    Accepts sqlglot dialect (after history) payload := by
  have hboth : ReservesSharedKey (history ++ future) := List.forall_mem_append.mpr ⟨h, hfuture⟩
  apply accepts_of_subset _ haccepts
  rw [(rulesFor_after h hdialect).cls, (rulesFor_after hboth hdialect).cls]
  exact classesFor_subset_append dialect history future

/-- No rule set is stale: it is what was registered, it stays the same objects until the next
decoration, and a decoration only takes away from what is accepted. -/
theorem never_stale {history : List RegistryEvent} (h : ReservesSharedKey history)
    {dialect : String} (hdialect : dialect ≠ sharedDialectKey) :
    InstancesOf (RegistryEvent.classesFor dialect history)
        ((after history).rulesFor dialect).1 ∧
      (∀ called : List String,
        ((after (history ++ .rulesFor dialect :: called.map .rulesFor)).rulesFor dialect).1 =
          ((after history).rulesFor dialect).1) ∧
      ∀ future, ReservesSharedKey future → ∀ sqlglot payload,
        Accepts sqlglot dialect (after (history ++ future)) payload →
          Accepts sqlglot dialect (after history) payload := by
  refine ⟨rulesFor_after h hdialect, ?_, ?_⟩
  · intro called
    exact rulesFor_after_calls history dialect called
  · intro future hfuture sqlglot payload haccepts
    exact accepts_of_later h hfuture hdialect haccepts

def anyRule (name : String) : RuleClass := ⟨name, fun _ => .allow⟩

/-- A rule for two dialects is registered after the rules of one of them were asked for. -/
def sampleHistory : List RegistryEvent :=
  [.sqlRule none (anyRule "A"), .rulesFor "postgres",
    .sqlRule (some ["mysql", "postgres"]) (anyRule "B"), .sqlRule (some []) (anyRule "C")]

theorem never_stale_sampleHistory :
    ((after sampleHistory).rulesFor "postgres").1.map RuleInstance.cls =
      [anyRule "A", anyRule "C", anyRule "B"] :=
  (never_stale (by decide : ∀ event ∈ sampleHistory, sharedDialectKey ∉ event.dialects)
    (by decide : "postgres" ≠ sharedDialectKey)).1.cls

end RuleRegistry

end SqlGateway.Sql
