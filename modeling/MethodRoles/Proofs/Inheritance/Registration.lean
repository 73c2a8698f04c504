import MethodRoles.Proofs.Inheritance.Levels

/-!
# Registering classes

A registry keeps its classes in a list and their names in a forest, and a call changes
the one after the other.  The two stay in step: after any registrations the forest
lists the registered classes under the parents that they declare, whatever became of
the single calls.

A call is refused exactly when the name is in use or the parent is not, and a refused
call changes neither the list nor the forest (`Registry.registrations`).
-/

namespace MethodRoles

/-- A class with its declared parent, as a forest lists it. -/
def ClassRecord.link {Object : Type} (record : ClassRecord Object) : ClassLink :=
  ⟨record.name, record.parent?⟩

namespace Registry

variable {Object : Type} {registry : Registry Object} {record : ClassRecord Object}
  {name : Text}

/-- The forest of a registry lists its classes under the parents that they declare. -/
structure InStep (registry : Registry Object) : Prop where
  wellFormed : registry.forest.WellFormed
  linked : registry.forest.links = registry.records.map ClassRecord.link

theorem InStep.empty : (Registry.empty : Registry Object).InStep where
  wellFormed := .empty
  linked := rfl

theorem contains_iff : registry.contains name = true ↔ ∃ record ∈ registry.records,
    record.name = name := by
  simp [contains, find?]

theorem InStep.contains_eq (inStep : registry.InStep) (name : Text) :
    registry.contains name = registry.forest.contains name := by
  rw [Bool.eq_iff_iff, contains_iff, Forest.contains_iff, Forest.names, inStep.linked,
    List.map_map, List.mem_map]
  rfl

theorem InStep.mem_names_iff (inStep : registry.InStep) :
    name ∈ registry.forest.names ↔ registry.contains name = true := by
  rw [inStep.contains_eq, Forest.contains_iff]

theorem InStep.find?_eq_some_iff (inStep : registry.InStep) :
    registry.find? name = some record ↔ record ∈ registry.records ∧ record.name = name := by
  have distinct := inStep.wellFormed.distinct
  rw [Forest.names, inStep.linked, List.map_map] at distinct
  exact Text.find?_eq_some_iff_of_nodup distinct

theorem InStep.parent?_eq (inStep : registry.InStep)
    (found : registry.find? name = some record) :
    registry.forest.parent? name = record.parent? := by
  rcases inStep.find?_eq_some_iff.mp found with ⟨member, rfl⟩
  apply Forest.parent?_of_mem inStep.wellFormed.distinct
  rw [inStep.linked]
  exact List.mem_map_of_mem member

/-! ## One call -/

theorem call_onForest {Result : Type} (update : Update Forest Result)
    (registry : Registry Object) :
    (onForest update).call registry =
      ((update.call registry.forest).1,
        ⟨registry.records, (update.call registry.forest).2⟩) :=
  rfl

/-- A call gives the outcome of registering the class, and a failing one changes nothing. -/
theorem call_registerClass (registry : Registry Object) (record : ClassRecord Object) :
    (registerClass record).call registry =
      match registry.register record with
      | .ok later => (.ok (), later)
      | .error error => (.error error, registry) := by
  rw [registerClass, register]
  cases duplicate : registry.contains record.name with
  | true => simp [Update.call_bind, duplicate]
  | false =>
      cases added : registry.forest.add record.name record.parent? <;>
        simp [Update.call_bind, duplicate, call_onForest, Forest.call_addClass, added]

/-- The registry with one more class. -/
def append (registry : Registry Object) (record : ClassRecord Object) : Registry Object :=
  ⟨registry.records ++ [record], registry.forest.append record.link⟩

section InStep

variable (inStep : registry.InStep)

include inStep

/-- Everything that a call can do. -/
theorem InStep.call_cases (record : ClassRecord Object) :
    (registry.contains record.name = true ∧
        (registerClass record).call registry =
          (.error (.duplicateClass record.name), registry)) ∨
      (registry.contains record.name = false ∧
        ∃ parent, record.parent? = some parent ∧ registry.contains parent = false ∧
          (registerClass record).call registry =
            (.error (.unknownParent record.name parent), registry)) ∨
      registry.contains record.name = false ∧
        (∀ parent ∈ record.parent?, registry.contains parent = true) ∧
          (registerClass record).call registry = (.ok (), registry.append record) := by
  rw [call_registerClass, register]
  cases duplicate : registry.contains record.name with
  | true => exact .inl ⟨rfl, rfl⟩
  | false =>
      right
      rcases registry.forest.add_cases record.name record.parent? with
        ⟨parent, declared, unknown, failed⟩ | ⟨-, listed, -⟩ | ⟨known, -, added⟩
      · rw [inStep.mem_names_iff, Bool.not_eq_true] at unknown
        exact .inl ⟨rfl, parent, declared, unknown, by simp [failed]⟩
      · rw [inStep.mem_names_iff, duplicate] at listed
        contradiction
      · simp only [inStep.mem_names_iff] at known
        exact .inr ⟨rfl, known, by simp [added, append, Forest.append, ClassRecord.link]⟩

theorem InStep.append (new : registry.contains record.name = false)
    (known : ∀ parent ∈ record.parent?, registry.contains parent = true) :
    (registry.append record).InStep where
  wellFormed := by
    apply inStep.wellFormed.append
    · intro parent declared
      exact inStep.mem_names_iff.mpr (known parent declared)
    · rw [inStep.mem_names_iff, ClassRecord.link, new]
      exact Bool.false_ne_true
  linked := by
    simp [Registry.append, Forest.append, inStep.linked]

/-- A call keeps list and forest in step. -/
theorem InStep.call (record : ClassRecord Object) :
    ((registerClass record).call registry).2.InStep := by
  rcases inStep.call_cases record with
    ⟨-, called⟩ | ⟨-, _, -, -, called⟩ | ⟨new, known, called⟩
  · rw [called]
    exact inStep
  · rw [called]
    exact inStep
  · rw [called]
    exact inStep.append new known

end InStep

/-! ## Calls in turn -/

/-- The classes of those calls that have succeeded. -/
def accepted (records : List (ClassRecord Object))
    (outcomes : List (Except InheritanceError Unit)) : List (ClassRecord Object) :=
  ((records.zip outcomes).filter fun call => call.2.isOk).map Prod.fst

theorem InStep.callAll (inStep : registry.InStep) (records : List (ClassRecord Object)) :
    (Update.callAll (records.map registerClass) registry).2.InStep := by
  induction records generalizing registry with
  | nil => exact inStep
  | cons record records induction => exact induction (inStep.call record)

/-- After calls in turn a registry has the classes of those that have succeeded besides its own. -/
theorem InStep.records_callAll (inStep : registry.InStep) (records : List (ClassRecord Object)) :
    (Update.callAll (records.map registerClass) registry).2.records =
      registry.records ++
        accepted records (Update.callAll (records.map registerClass) registry).1 := by
  induction records generalizing registry with
  | nil => simp [Update.callAll, accepted]
  | cons record records induction =>
      have later := induction (inStep.call record)
      rw [List.map_cons, Update.callAll, later]
      rcases inStep.call_cases record with
        ⟨-, called⟩ | ⟨-, _, -, -, called⟩ | ⟨-, -, called⟩
      · simp [called, accepted, Except.isOk, Except.toBool]
      · simp [called, accepted, Except.isOk, Except.toBool]
      · simp [called, accepted, Except.isOk, Except.toBool, Registry.append]

theorem length_callAll (records : List (ClassRecord Object)) (registry : Registry Object) :
    (Update.callAll (records.map registerClass) registry).1.length = records.length := by
  induction records generalizing registry with
  | nil => rfl
  | cons record records induction => exact congrArg Nat.succ (induction _)

/-- As many classes are accepted as calls succeed. -/
theorem length_accepted {records : List (ClassRecord Object)}
    {outcomes : List (Except InheritanceError Unit)} (paired : outcomes.length = records.length) :
    (accepted records outcomes).length = outcomes.countP Except.isOk := by
  have all : (records.zip outcomes).map Prod.snd = outcomes :=
    List.map_snd_zip (Nat.le_of_eq paired)
  rw [accepted, List.length_map, ← List.countP_eq_length_filter]
  conv_rhs => rw [← all, List.countP_map]
  rfl

/-- The classes of a registry and its forest agree. -/
structure Agrees (registry : Registry Object) : Prop where
  /-- Both have the same names. -/
  contains_eq : ∀ name, registry.contains name = registry.forest.contains name
  /-- A class has the parent that it declares. -/
  parent?_eq : ∀ name record, registry.find? name = some record →
    registry.forest.parent? name = record.parent?
  /-- The list of names has each of them once, -/
  distinct : registry.classNames.Nodup
  /-- no other name, -/
  mem_classNames : ∀ name, name ∈ registry.classNames ↔ registry.contains name = true
  /-- and every parent before its children. -/
  parentFirst : ∀ name record parent, registry.find? name = some record →
    record.parent? = some parent →
      registry.classNames.idxOf parent < registry.classNames.idxOf name

/-- How a registry answers a call that registers a class. -/
structure Answers (registry : Registry Object) (record : ClassRecord Object) : Prop where
  /-- A name in use is reported first. -/
  duplicate :
    (∃ name, ((registerClass record).call registry).1 = .error (.duplicateClass name)) ↔
      registry.contains record.name = true
  /-- A parent that is not registered is reported next. -/
  orphan : registry.contains record.name = false →
    ((∃ name parent,
        ((registerClass record).call registry).1 = .error (.unknownParent name parent)) ↔
      ∃ parent, record.parent? = some parent ∧ registry.contains parent = false)
  /-- A class with neither defect is registered. -/
  accepted : registry.contains record.name = false →
    (∀ parent ∈ record.parent?, registry.contains parent = true) →
      ((registerClass record).call registry).1 = .ok ()
  /-- A call that fails changes neither the classes nor the forest. -/
  unchanged : ∀ error, ((registerClass record).call registry).1 = .error error →
    ((registerClass record).call registry).2 = registry

theorem InStep.agrees (inStep : registry.InStep) : registry.Agrees where
  contains_eq := inStep.contains_eq
  parent?_eq := fun _ _ => inStep.parent?_eq
  distinct := inStep.wellFormed.nodup_byLevel
  mem_classNames := by
    intro name
    rw [classNames, inStep.wellFormed.mem_byLevel_iff, inStep.mem_names_iff]
  parentFirst := by
    intro name record parent found declared
    apply inStep.wellFormed.idxOf_byLevel_lt
    rw [← Forest.parent?_eq_some_iff inStep.wellFormed.distinct, inStep.parent?_eq found, declared]

theorem InStep.answers (inStep : registry.InStep) (record : ClassRecord Object) :
    registry.Answers record := by
  rcases inStep.call_cases record with
    ⟨duplicate, called⟩ | ⟨new, parent, declared, unknown, called⟩ | ⟨new, known, called⟩
  · constructor
    case duplicate => simp [called, duplicate]
    case orphan => simp [duplicate]
    case accepted => simp [duplicate]
    case unchanged => simp [called]
  · constructor
    case duplicate => simp [called, new]
    case orphan => simp [called, declared, unknown]
    case accepted =>
      intro _ known
      rw [known parent declared] at unknown
      contradiction
    case unchanged => simp [called]
  · constructor
    case duplicate => simp [called, new]
    case orphan =>
      intro _
      simp only [called, reduceCtorEq, exists_false, false_iff, not_exists, not_and,
        Bool.not_eq_false]
      exact known
    case accepted => simp [called]
    case unchanged => simp [called]

/--
After any registrations the classes are those of the calls that have succeeded, the
forest agrees with them, and the next call is answered by the names in use.
-/
theorem registrations (records : List (ClassRecord Object)) :
    (registerAll records).2.records = accepted records (registerAll records).1 ∧
      (registerAll records).2.size = (registerAll records).1.countP Except.isOk ∧
        (registerAll records).2.Agrees ∧
          ∀ record, (registerAll records).2.Answers record := by
  have inStep : (registerAll records).2.InStep := InStep.empty.callAll records
  have kept : (registerAll records).2.records = accepted records (registerAll records).1 :=
    InStep.empty.records_callAll records
  refine ⟨kept, ?_, inStep.agrees, inStep.answers⟩
  rw [size, kept]
  exact length_accepted (length_callAll records empty)

end Registry

end MethodRoles
