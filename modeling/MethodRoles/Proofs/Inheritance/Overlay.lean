import MethodRoles.Proofs.Inheritance.Registration

/-!
# The inherited view of a class

The directory of a class in a registry lists its own methods and those of the classes above
it.  Three questions are asked of it, and each can be answered by a walk up of its own: the
names come from all classes on the way, each name once; the documentation of a method is
that of the first class that declares it; and a method is there if any class declares it.

In a registry the walk from a class goes on from its parent, since every parent is
registered.  So the view of a class is its own directory laid over the view of its parent,
and the three answers agree with each other (`Registry.registerAll_overlays`).
-/

namespace MethodRoles

namespace Text

/-- The names of a list that are not seen when they come; each is seen from then on. -/
def unseen (seen : List Text) : List Text → List Text
  | [] => []
  | name :: others =>
      if seen.contains name then unseen seen others else name :: unseen (name :: seen) others

theorem unseen_eq_filter (seen names : List Text) :
    unseen seen names = (distinct names).filter (· ∉ seen) := by
  induction names generalizing seen with
  | nil => rfl
  | cons name others induction =>
      rw [unseen, distinct]
      split
      case isTrue known =>
        have member : name ∈ seen := List.contains_iff_mem.mp known
        rw [induction, List.filter_cons_of_neg (by simpa using member), List.filter_filter]
        apply List.filter_congr
        intro other _
        by_cases same : other = name <;> simp [same, member]
      case isFalse new =>
        rw [induction, List.filter_cons_of_pos (by simpa using new), List.filter_filter]
        congr 1
        apply List.filter_congr
        intro other _
        rw [Bool.eq_iff_iff]
        simp [and_comm]

theorem unseen_nil (names : List Text) : unseen [] names = distinct names := by
  simp [unseen_eq_filter]

end Text

variable {Object : Type}

/-! ## Classes that are built -/

namespace ClassRecord

variable {record : ClassRecord Object} {name : Text}

/-- A class that is built from its name by the calls of the builder, in any order. -/
inductive Built : ClassRecord Object → Prop where
  | named (name : Text) : Built (.named name)
  | declare {record : ClassRecord Object} (built : Built record) (name documentation : Text) :
      Built (record.declare name documentation)
  | withParent {record : ClassRecord Object} (built : Built record) (parent : Text) :
      Built { record with parent? := some parent }
  | concrete {record : ClassRecord Object} (built : Built record) (object : Object) :
      Built { record with object? := some object }

theorem names_declareIn (entry : MethodEntry) (methods : List MethodEntry) :
    (declareIn entry methods).map MethodEntry.name =
      if entry.name ∈ methods.map MethodEntry.name then methods.map MethodEntry.name
      else methods.map MethodEntry.name ++ [entry.name] := by
  induction methods with
  | nil => simp [declareIn]
  | cons other others induction =>
      by_cases same : other.name = entry.name
      · simp [declareIn, same]
      · have differ : entry.name ≠ other.name := Ne.symm same
        simp only [declareIn, if_neg same, List.map_cons, induction, List.mem_cons, differ,
          false_or]
        split <;> rfl

/-- A class that is built declares every method once. -/
theorem Built.nodup_methods (built : record.Built) :
    (record.methods.map MethodEntry.name).Nodup := by
  induction built with
  | named => exact List.nodup_nil
  | declare _ name documentation induction =>
      rw [ClassRecord.declare, names_declareIn]
      split
      case isTrue => exact induction
      case isFalse new =>
        rw [← List.concat_eq_append]
        exact induction.concat new
  | withParent _ _ induction => exact induction
  | concrete _ _ induction => exact induction

theorem methodNames_ownDirectory (record : ClassRecord Object) :
    record.ownDirectory.methodNames = record.methods.map MethodEntry.name := by
  rw [Directory.methodNames, ownDirectory, List.map_map]
  rfl

theorem lookup_ownDirectory (record : ClassRecord Object) (name : Text) :
    record.ownDirectory.entries.lookup name =
      (record.method? name).map fun entry => some entry.documentation := by
  rw [ownDirectory, method?]
  induction record.methods with
  | nil => rfl
  | cons entry others induction =>
      rw [List.map_cons, List.lookup_cons, List.find?_cons, induction, Bool.beq_comm]
      split <;> simp [*]

theorem documentation?_ownDirectory (record : ClassRecord Object) (name : Text) :
    record.ownDirectory.documentation? name =
      (record.method? name).map MethodEntry.documentation := by
  rw [Directory.documentation?, lookup_ownDirectory]
  cases record.method? name <;> rfl

theorem hasMethod_ownDirectory (record : ClassRecord Object) (name : Text) :
    record.ownDirectory.hasMethod name = (record.method? name).isSome := by
  rw [Directory.hasMethod, methodNames_ownDirectory, method?, Bool.eq_iff_iff,
    List.contains_iff_mem, List.mem_map, List.find?_isSome]
  simp

end ClassRecord

namespace Registry

variable {registry : Registry Object} {record upper : ClassRecord Object} {name parent : Text}

/-! ## Three walks up -/

/-- The names of the methods of a class, by a walk up that passes over those seen before. -/
def inheritedNames (registry : Registry Object) (record : ClassRecord Object) : List Text :=
  Text.unseen [] ((registry.lineage record).flatMap fun ancestor =>
    ancestor.methods.map MethodEntry.name)

/-- The documentation of a method, by a walk up to the first class that declares it. -/
def inheritedDocumentation? (registry : Registry Object) (record : ClassRecord Object)
    (method : Text) : Option Text :=
  ((registry.lineage record).findSome? fun ancestor => ancestor.method? method).map
    MethodEntry.documentation

/-- Whether a class has a method, by a walk up that asks every class. -/
def inherits (registry : Registry Object) (record : ClassRecord Object) (method : Text) : Bool :=
  (registry.lineage record).any fun ancestor => (ancestor.method? method).isSome

theorem methodNames_directoryOf (registry : Registry Object) (record : ClassRecord Object) :
    (registry.directoryOf record).methodNames = registry.inheritedNames record := by
  rw [Directory.methodNames, directoryOf, inheritedNames, Text.unseen_nil,
    Text.map_fst_distinctByName, List.map_flatMap]
  congr 2
  funext ancestor
  exact ancestor.methodNames_ownDirectory

theorem lookup_directoryOf (registry : Registry Object) (record : ClassRecord Object)
    (method : Text) :
    (registry.directoryOf record).entries.lookup method =
      (registry.inheritedDocumentation? record method).map some := by
  rw [directoryOf, Text.lookup_distinctByName, inheritedDocumentation?]
  induction registry.lineage record with
  | nil => rfl
  | cons ancestor others induction =>
      rw [List.flatMap_cons, List.lookup_append, induction, List.findSome?_cons,
        ancestor.lookup_ownDirectory]
      cases ancestor.method? method <;> rfl

theorem documentation?_directoryOf (registry : Registry Object) (record : ClassRecord Object)
    (method : Text) :
    (registry.directoryOf record).documentation? method =
      registry.inheritedDocumentation? record method := by
  rw [Directory.documentation?, lookup_directoryOf]
  cases registry.inheritedDocumentation? record method <;> rfl

theorem inherits_iff {method : Text} : registry.inherits record method = true ↔
    method ∈ registry.inheritedNames record := by
  rw [inheritedNames, Text.unseen_nil, Text.mem_distinct]
  simp [inherits, ClassRecord.method?]

theorem isSome_inheritedDocumentation? (registry : Registry Object) (record : ClassRecord Object)
    (method : Text) :
    (registry.inheritedDocumentation? record method).isSome =
      registry.inherits record method := by
  rw [inheritedDocumentation?, inherits, Option.isSome_map, List.isSome_findSome?]

theorem hasMethod_directoryOf (registry : Registry Object) (record : ClassRecord Object)
    (method : Text) :
    (registry.directoryOf record).hasMethod method = registry.inherits record method := by
  rw [Bool.eq_iff_iff, inherits_iff, ← methodNames_directoryOf, Directory.hasMethod,
    List.contains_iff_mem]

/-! ## The walk from a class and from its parent -/

section InStep

variable (inStep : registry.InStep) (found : registry.find? name = some record)

include inStep found

theorem InStep.lineage_of_root (root : record.parent? = none) :
    registry.lineage record = [record] := by
  have named := (inStep.find?_eq_some_iff.mp found).2
  have noParent : registry.forest.parent? record.name = none := by
    rw [named, inStep.parent?_eq found, root]
  have nothing : registry.forest.ancestors record.name = [] :=
    (inStep.wellFormed.climbs record.name).unique (.root noParent)
  rw [lineage, nothing, List.filterMap_nil]

/-- The walk up from a class goes on as the walk from its parent, which is registered. -/
theorem InStep.exists_lineage_of_parent (declared : record.parent? = some parent) :
    ∃ upper, registry.find? parent = some upper ∧
      registry.lineage record = record :: registry.lineage upper := by
  have named := (inStep.find?_eq_some_iff.mp found).2
  have isParent : registry.forest.IsParent parent record.name := by
    rw [← Forest.parent?_eq_some_iff inStep.wellFormed.distinct, named, inStep.parent?_eq found,
      declared]
  have registered : (registry.find? parent).isSome = true :=
    inStep.mem_names_iff.mp (inStep.wellFormed.closed isParent)
  rcases Option.isSome_iff_exists.mp registered with ⟨upper, foundUpper⟩
  refine ⟨upper, foundUpper, ?_⟩
  rw [lineage, inStep.wellFormed.ancestors_of_parent isParent, List.filterMap_cons, foundUpper,
    lineage, (inStep.find?_eq_some_iff.mp foundUpper).2]

end InStep

section Lineage

variable (distinct : (record.methods.map MethodEntry.name).Nodup)

include distinct

theorem methodNames_of_lineage_eq_singleton (alone : registry.lineage record = [record]) :
    (registry.directoryOf record).methodNames = record.ownDirectory.methodNames := by
  rw [methodNames_directoryOf, inheritedNames, Text.unseen_nil, alone, List.flatMap_singleton,
    record.methodNames_ownDirectory]
  simpa [Text.distinct] using Text.distinct_append distinct []

theorem methodNames_of_lineage_eq_cons
    (above : registry.lineage record = record :: registry.lineage upper) :
    (registry.directoryOf record).methodNames = record.ownDirectory.methodNames ++
      (registry.directoryOf upper).methodNames.filter fun name =>
        !record.ownDirectory.hasMethod name := by
  rw [methodNames_directoryOf, methodNames_directoryOf, inheritedNames, inheritedNames, above,
    List.flatMap_cons, Text.unseen_nil, Text.unseen_nil, Text.distinct_append distinct,
    record.methodNames_ownDirectory]
  congr 1
  apply List.filter_congr
  intro name _
  rw [Directory.hasMethod, record.methodNames_ownDirectory, Bool.eq_iff_iff]
  simp

end Lineage

theorem inheritedDocumentation?_of_lineage_eq_cons
    (above : registry.lineage record = record :: registry.lineage upper) (method : Text) :
    registry.inheritedDocumentation? record method =
      if record.ownDirectory.hasMethod method then record.ownDirectory.documentation? method
      else registry.inheritedDocumentation? upper method := by
  rw [inheritedDocumentation?, above, List.findSome?_cons, record.hasMethod_ownDirectory,
    record.documentation?_ownDirectory, inheritedDocumentation?]
  cases record.method? method <;> rfl

/-! ## The view as an overlay -/

/-- A view of a class answers as its own directory laid over the view of its parent. -/
structure Overlays (registry : Registry Object) (record : ClassRecord Object)
    (view : Directory Object) : Prop where
  /-- The names are those of the walk that passes over the ones that it has seen, -/
  names_eq : view.methodNames = registry.inheritedNames record
  /-- a documentation is that of the first class that has one, -/
  documentation?_eq : ∀ method,
    view.documentation? method = registry.inheritedDocumentation? record method
  /-- and a method is there if some class declares it. -/
  hasMethod_eq : ∀ method, view.hasMethod method = registry.inherits record method
  /-- A class without a parent is seen with its own methods alone. -/
  root : record.parent? = none → view.methodNames = record.ownDirectory.methodNames ∧
    ∀ method, view.documentation? method = record.ownDirectory.documentation? method ∧
      view.hasMethod method = record.ownDirectory.hasMethod method
  /-- Any other class is seen with those methods of its parent's view too that it does not hide. -/
  below : ∀ parent, record.parent? = some parent →
    ∃ above, registry.directory parent = .ok above ∧
      view.methodNames = record.ownDirectory.methodNames ++
        above.methodNames.filter (fun name => !record.ownDirectory.hasMethod name) ∧
      ∀ method, view.documentation? method =
        if record.ownDirectory.hasMethod method then record.ownDirectory.documentation? method
        else above.documentation? method
  /-- A method is there if its name is listed, -/
  hasMethod_iff : ∀ method, view.hasMethod method = true ↔ method ∈ view.methodNames
  /-- and only then it is documented. -/
  documented_iff : ∀ method,
    (view.documentation? method).isSome = true ↔ method ∈ view.methodNames
  /-- No name is listed twice. -/
  distinct : view.methodNames.Nodup

theorem directory_eq_ok (found : registry.find? name = some record) :
    registry.directory name = .ok (registry.directoryOf record) := by
  rw [directory, found]

theorem InStep.overlays (inStep : registry.InStep) (found : registry.find? name = some record)
    (distinct : (record.methods.map MethodEntry.name).Nodup) :
    registry.Overlays record (registry.directoryOf record) where
  names_eq := registry.methodNames_directoryOf record
  documentation?_eq := registry.documentation?_directoryOf record
  hasMethod_eq := registry.hasMethod_directoryOf record
  root := by
    intro root
    have alone := inStep.lineage_of_root found root
    refine ⟨methodNames_of_lineage_eq_singleton distinct alone, ?_⟩
    intro method
    constructor
    · rw [documentation?_directoryOf, inheritedDocumentation?, alone,
        record.documentation?_ownDirectory, List.findSome?_singleton]
    · rw [hasMethod_directoryOf, inherits, alone, record.hasMethod_ownDirectory, List.any_cons,
        List.any_nil, Bool.or_false]
  below := by
    intro parent declared
    rcases inStep.exists_lineage_of_parent found declared with ⟨upper, foundUpper, above⟩
    refine ⟨registry.directoryOf upper, directory_eq_ok foundUpper,
      methodNames_of_lineage_eq_cons distinct above, ?_⟩
    intro method
    rw [documentation?_directoryOf, documentation?_directoryOf,
      inheritedDocumentation?_of_lineage_eq_cons above]
  hasMethod_iff := by
    intro method
    rw [hasMethod_directoryOf, inherits_iff, methodNames_directoryOf]
  documented_iff := by
    intro method
    rw [documentation?_directoryOf, isSome_inheritedDocumentation?, inherits_iff,
      methodNames_directoryOf]
  distinct := by
    rw [methodNames_directoryOf, inheritedNames, Text.unseen_nil]
    exact Text.nodup_distinct _

/--
After any registrations every class that is registered has a view, which is its own
directory laid over the view of its parent.
-/
theorem registerAll_overlays (records : List (ClassRecord Object))
    (found : (registerAll records).2.find? name = some record) (built : record.Built) :
    ∃ view, (registerAll records).2.directory name = .ok view ∧
      (registerAll records).2.Overlays record view := by
  have inStep : (registerAll records).2.InStep := InStep.empty.callAll records
  exact ⟨_, directory_eq_ok found, inStep.overlays found built.nodup_methods⟩

/-- A clock reads the time; the timer, which is a clock too, documents that reading anew. -/
def timerRecord : ClassRecord Unit :=
  { ((ClassRecord.named "Timer".toList : ClassRecord Unit).declare "Start".toList
      "V.Start()".toList).declare "GetTime".toList "V.GetTime() -> float".toList with
    parent? := some "Clock".toList }

/-- The registration of a clock, of an orphan, which is refused, and of the timer. -/
def clockRecords : List (ClassRecord Unit) :=
  [((ClassRecord.named "Clock".toList).declare "GetTime".toList
      "V.GetTime() -> int".toList).declare "Reset".toList "V.Reset()".toList,
    { (ClassRecord.named "Orphan".toList : ClassRecord Unit) with
      parent? := some "Nothing".toList },
    timerRecord]

theorem registerAll_overlays_timer :
    (registerAll clockRecords).2.find? "Timer".toList = some timerRecord ∧ timerRecord.Built ∧
      ∃ view, (registerAll clockRecords).2.directory "Timer".toList = .ok view ∧
        (registerAll clockRecords).2.Overlays timerRecord view ∧
        view.methodNames = ["Start".toList, "GetTime".toList, "Reset".toList] := by
  have found : (registerAll clockRecords).2.find? "Timer".toList = some timerRecord := by rfl
  have built : timerRecord.Built :=
    (((ClassRecord.Built.named _).declare _ _).declare _ _).withParent _
  rcases registerAll_overlays clockRecords found built with ⟨view, isView, overlays⟩
  refine ⟨found, built, view, isView, overlays, ?_⟩
  rw [overlays.names_eq]
  rfl

end Registry

end MethodRoles
