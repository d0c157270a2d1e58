import SqlGateway.Sql.Sqlglot

namespace SqlGateway.Sql

/-- A rule class; `check` is its only method and has no state. -/
structure RuleClass where
  name : String
  check : Expression → ValidationResultDto

/-- An object `cls()`; `identity` tells apart two instances of one class. -/
structure RuleInstance where
  cls : RuleClass
  identity : Nat

def sharedDialectKey : String := "_shared_"

/-- The two module-level dictionaries and the number of instances made so far. A missing
key of `_classes_by_dialect` reads as the empty list. -/
structure RuleRegistry where
  classesByDialect : String → List RuleClass
  instanceCache : String → Option (List RuleInstance)
  instantiated : Nat

namespace RuleRegistry

def empty : RuleRegistry := ⟨fun _ => [], fun _ => none, 0⟩

/-- `_classes_by_dialect.setdefault(dialect, []).append(cls)`. -/
def append (registry : RuleRegistry) (dialect : String) (cls : RuleClass) : RuleRegistry :=
  { registry with
    classesByDialect := fun d =>
      if d = dialect then registry.classesByDialect d ++ [cls] else registry.classesByDialect d }

/-- `@sql_rule(dialects=dialects)` applied to `cls`. -/
def sqlRule (registry : RuleRegistry) (dialects : Option (List String)) (cls : RuleClass) :
    RuleRegistry :=
  let registered := match dialects with
    | none | some [] => registry.append sharedDialectKey cls
    | some dialects => dialects.foldl (fun r dialect => r.append dialect cls) registry
  { registered with instanceCache := fun _ => none }

def instantiate (first : Nat) (classes : List RuleClass) : List RuleInstance :=
  classes.mapIdx fun i cls => ⟨cls, first + i⟩

/-- `(*shared, *specific)`. -/
def classesFor (registry : RuleRegistry) (dialect : String) : List RuleClass :=
  registry.classesByDialect sharedDialectKey ++ registry.classesByDialect dialect

def rulesFor (registry : RuleRegistry) (dialect : String) : List RuleInstance × RuleRegistry :=
  match registry.instanceCache dialect with
  | some instances => (instances, registry)
  | none =>
    let classes := registry.classesFor dialect
    let instances := instantiate registry.instantiated classes
    (instances,
      { registry with
        instanceCache := fun d => if d = dialect then some instances else registry.instanceCache d
        instantiated := registry.instantiated + classes.length })

@[simp] theorem instantiate_cls (first : Nat) (classes : List RuleClass) :
    (instantiate first classes).map RuleInstance.cls = classes := by
  apply List.ext_getElem <;> simp [instantiate]

/-- The registry after classes were decorated with one dialect, in this order. -/
def registerAll (dialect : String) (classes : List RuleClass) : RuleRegistry :=
  classes.foldl (fun registry cls => registry.sqlRule (some [dialect]) cls) empty

theorem registerAll_snoc (dialect : String) (classes : List RuleClass) (cls : RuleClass) :
    registerAll dialect (classes ++ [cls]) =
      (registerAll dialect classes).sqlRule (some [dialect]) cls := by
  simp [registerAll]

theorem registerAll_classesByDialect (dialect d : String) (classes : List RuleClass) :
    (registerAll dialect classes).classesByDialect d = if d = dialect then classes else [] := by
  induction classes using List.reverseRecOn with
  | nil => simp [registerAll, empty]
  | append_singleton classes cls ih =>
    rw [registerAll_snoc]
    simp only [sqlRule, List.foldl_cons, List.foldl_nil, append, ih]
    split_ifs <;> rfl

theorem registerAll_instanceCache (dialect d : String) (classes : List RuleClass) :
    (registerAll dialect classes).instanceCache d = none := by
  cases classes using List.reverseRecOn with
  | nil => rfl
  | append_singleton classes cls =>
    rw [registerAll_snoc]
    rfl

theorem registerAll_rulesFor {dialect : String} (h : dialect ≠ sharedDialectKey)
    (classes : List RuleClass) :
    ((registerAll dialect classes).rulesFor dialect).1.map RuleInstance.cls = classes := by
  simp [rulesFor, registerAll_instanceCache, classesFor, registerAll_classesByDialect,
    h.symm]

end RuleRegistry

end SqlGateway.Sql
