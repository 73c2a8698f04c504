import MethodRoles.Proofs.Role.Sorting

/-!
# No method is lost and none is counted twice

The properties of a classification claim names by the conventions for method
names alone: a toggle its switches and accessors, a state its selectors and
accessors, a pair its accessors and those of its bounds.  Every other public
method of the directory is listed exactly once, as a getter or as another method,
and the lifecycle methods are always among the others
(`classify_accountsFor`).
-/

namespace MethodRoles

namespace Classification

/-- The names that belong to a switched property. -/
def toggleNames (property : Text) : List Text :=
  [Naming.switchOn property, Naming.switchOff property, Naming.getter property,
    Naming.setter property]

/-- The names that belong to a property with options. -/
def stateNames (property : Text) (options : List Text) : List Text :=
  options.map (Naming.selector property) ++
    [Naming.getter property, Naming.setter property] ++ Naming.boundGetters property

/-- The names that belong to a property that is read and written. -/
def pairNames (property : Text) (bounded : Bool) : List Text :=
  [Naming.getter property, Naming.setter property] ++
    if bounded then Naming.boundGetters property else []

/-- The names that belong to the properties of a classification. -/
def claimedNames (classification : Classification) : List Text :=
  classification.toggles.flatMap (fun entry => toggleNames entry.1) ++
    classification.states.flatMap
      (fun entry => stateNames entry.1 (entry.2.map StateOption.name)) ++
    classification.pairs.flatMap fun entry => pairNames entry.1 entry.2.bounds?.isSome

/-- A classification says of every name of a directory where it went. -/
structure AccountsFor {Object : Type} (classification : Classification)
    (directory : Directory Object) : Prop where
  /-- Special names are listed nowhere. -/
  special : ∀ name, Naming.isSpecial directory.className name = true →
    name ∉ classification.getters ∧ name ∉ classification.others
  /-- Lifecycle names are among the other methods. -/
  lifecycle : ∀ name ∈ directory.methodNames,
    Naming.isSpecial directory.className name = false → Naming.isLifecycle name = true →
      name ∈ classification.others ∧ name ∉ classification.getters
  /-- Names that belong to a property are listed under it alone. -/
  claimed : ∀ name ∈ directory.methodNames,
    Naming.isSpecial directory.className name = false → Naming.isLifecycle name = false →
      name ∈ classification.claimedNames →
        name ∉ classification.getters ∧ name ∉ classification.others
  /-- All remaining names are listed in exactly one place. -/
  remaining : ∀ name ∈ directory.methodNames,
    Naming.isSpecial directory.className name = false → Naming.isLifecycle name = false →
      name ∉ classification.claimedNames →
        Xor (name ∈ classification.getters) (name ∈ classification.others)
  /-- The getters come from the directory, in its order. -/
  getters : directory.ListsInOrder classification.getters
  /-- The other methods come from the directory, in its order. -/
  others : directory.ListsInOrder classification.others

end Classification

namespace StatePlan

/-- A state claims the names that belong to its property and its options. -/
theorem claims_eq_stateNames {Object : Type} {directory : Directory Object} {state : StatePlan}
    (planned : state ∈ (RolePlan.ofDirectory directory).states) :
    state.claims =
      Classification.stateNames state.property (state.selectors.map Selector.option) := by
  rw [claims, Classification.stateNames, RolePlan.map_method_eq planned, List.append_assoc]
  rfl

end StatePlan

namespace Classification

variable {Object : Type} {directory : Directory Object} {classification : Classification}

theorem mem_stateNames_of_perm {property name : Text} {options others : List Text}
    (same : options.Perm others) :
    name ∈ stateNames property options ↔ name ∈ stateNames property others :=
  (((same.map _).append_right _).append_right _).mem_iff

section Reads

variable (reads : classification.Reads (RolePlan.ofDirectory directory)) {name : Text}

include reads

theorem Reads.mem_toggleNames_iff :
    name ∈ classification.toggles.flatMap (fun entry => toggleNames entry.1) ↔
      name ∈ (RolePlan.ofDirectory directory).toggles.flatMap TogglePlan.claims :=
  reads.toggles.mem_flatMap_iff (RolePlan.nodup_toggle_properties directory)
    fun _ _ _ _ => Iff.rfl

theorem Reads.mem_stateNames_iff :
    name ∈ classification.states.flatMap
        (fun entry => stateNames entry.1 (entry.2.map StateOption.name)) ↔
      name ∈ (RolePlan.ofDirectory directory).states.flatMap StatePlan.claims := by
  apply reads.states.mem_flatMap_iff (RolePlan.nodup_state_properties directory)
  intro state planned options front
  rw [StatePlan.claims_eq_stateNames planned]
  exact mem_stateNames_of_perm front.perm

/-- The names that a classification of a plan claims are those that the plan claims. -/
theorem Reads.mem_claimedNames :
    name ∈ classification.claimedNames ↔
      name ∈ RolePlan.claims (RolePlan.ofDirectory directory).toggles
        (RolePlan.ofDirectory directory).states (RolePlan.ofDirectory directory).pairs := by
  simp only [claimedNames, RolePlan.claims, List.mem_append]
  refine or_congr (or_congr reads.mem_toggleNames_iff reads.mem_stateNames_iff) ?pairs
  case pairs =>
    apply reads.pairs.mem_flatMap_iff (RolePlan.nodup_pair_properties directory)
    intro pair _ reading bounded
    rw [bounded]
    exact Iff.rfl

end Reads

end Classification

/-! ## The directory name by name -/

namespace RolePlan

variable {Object : Type} {directory : Directory Object} {name : Text}

/-- The names that the properties of a planned directory claim. -/
def ownedNames (directory : Directory Object) : List Text :=
  claims (ofDirectory directory).toggles (ofDirectory directory).states
    (ofDirectory directory).pairs

theorem mem_getters_iff :
    name ∈ (ofDirectory directory).getters ↔
      name ∈ directory.publicNames ∧ name ∉ ownedNames directory ∧
        (Naming.getterProperty? name).isSome = true ∧
        (MethodTable.ofDirectory directory).has Signature.returnsValue name = true := by
  change name ∈ (MethodTable.ofDirectory directory).getters (ownedNames directory) ↔ _
  simp [MethodTable.getters, and_assoc]

theorem mem_others_iff :
    name ∈ (ofDirectory directory).others ↔
      name ∈ directory.methodNames ∧ Naming.isSpecial directory.className name = false ∧
        (Naming.isLifecycle name = true ∨
          name ∉ ownedNames directory ∧ name ∉ (ofDirectory directory).getters) := by
  change name ∈ othersOf directory (ownedNames directory ++ (ofDirectory directory).getters) ↔ _
  simp [othersOf]

theorem getters_inOrder (directory : Directory Object) :
    directory.ListsInOrder (ofDirectory directory).getters := by
  apply Directory.ListsInOrder.of_sublist
  refine List.Sublist.trans ?_ directory.publicNames_sublist
  rw [← MethodTable.names_ofDirectory]
  exact List.filter_sublist

theorem others_inOrder (directory : Directory Object) :
    directory.ListsInOrder (ofDirectory directory).others := by
  apply Directory.ListsInOrder.of_sublist
  change (othersOf directory _).Sublist _
  rw [othersOf, Text.distinct_filter]
  exact List.filter_sublist

end RolePlan

/--
Every name of a directory goes where its convention says, whatever object the
values are read from.
-/
theorem Directory.classify_accountsFor {Object Target : Type} [Probeable Target]
    (directory : Directory Object) (probe : Probe Target) :
    (directory.classify probe).1.AccountsFor directory := by
  have reads : (directory.classify probe).1.Reads (RolePlan.ofDirectory directory) :=
    directory.reads_classify probe
  have claimed (name : Text) : name ∈ (directory.classify probe).1.claimedNames ↔
      name ∈ RolePlan.ownedNames directory := reads.mem_claimedNames
  constructor
  case special =>
    intro name special
    rw [reads.getters, reads.others, RolePlan.mem_getters_iff, RolePlan.mem_others_iff]
    simp [Naming.isPublic, special]
  case lifecycle =>
    intro name listed ordinary lifecycle
    rw [reads.getters, reads.others, RolePlan.mem_getters_iff, RolePlan.mem_others_iff]
    simp [Naming.isPublic, listed, ordinary, lifecycle]
  case claimed =>
    intro name _ _ usual owned
    rw [reads.getters, reads.others, RolePlan.mem_getters_iff, RolePlan.mem_others_iff]
    simp [(claimed name).mp owned, usual]
  case remaining =>
    intro name listed ordinary usual free
    have unowned : name ∉ RolePlan.ownedNames directory := fun owned =>
      free ((claimed name).mpr owned)
    rw [reads.getters, reads.others, RolePlan.mem_others_iff]
    by_cases getter : name ∈ (RolePlan.ofDirectory directory).getters
    · exact Or.inl ⟨getter, by simp [usual, getter]⟩
    · exact Or.inr ⟨⟨listed, ordinary, Or.inr ⟨unowned, getter⟩⟩, getter⟩
  case getters =>
    rw [reads.getters]
    exact RolePlan.getters_inOrder directory
  case others =>
    rw [reads.others]
    exact RolePlan.others_inOrder directory

end MethodRoles
