import MethodRoles.Probe.Scripted
import MethodRoles.Proofs.Role.Founding
import MethodRoles.Proofs.Role.Independence

/-!
# Pairs and their bounds are found exactly

What keeps a property from being a pair are the toggles and the states of the same
classification, a property that it is a bound of, and the signatures of its getter and
its setter.  Other pairs do not, although each pair claims names while the directory is
walked through.  The bounds of a pair are told from the signatures of their getters
(`Directory.classify_pairsExact`).

The setter has to be public beside that.  A public getter does not settle this, since
the setter may have the name of the class (`Directory.not_pair_setLevel`).
-/

namespace MethodRoles

namespace Classification

/-- No toggle and no state of a classification claims a name. -/
structure Unclaimed (classification : Classification) (name : Text) : Prop where
  toggles : ∀ property ∈ classification.toggles.names, name ∉ toggleNames property
  states : ∀ property options, (property, options) ∈ classification.states →
    name ∉ stateNames property (options.map StateOption.name)

end Classification

namespace Directory

variable {Object : Type}

/-- A property is no bound of another one that has a public getter and a public setter. -/
def Unbound (directory : Directory Object) (property : Text) : Prop :=
  ∀ base ≠ [], ∀ suffix ∈ Naming.boundSuffixes, property = base ++ suffix →
    ¬ (Naming.getter base ∈ directory.publicNames ∧ Naming.setter base ∈ directory.publicNames)

/-- A public method is an accessor of a scalar with the shape of a type. -/
def ReturnsLike (directory : Directory Object) (name : Text) (type : SlotType) : Prop :=
  name ∈ directory.publicNames ∧ ∃ signature ∈ directory.signatures name,
    signature.isAccessor = true ∧ signature.result.isScalar = true ∧
      signature.result.sameShape type = true

/-- A property of a scalar type has getters for its least and its greatest value. -/
def HasBounds (directory : Directory Object) (property : Text) (type : SlotType) : Prop :=
  type.isScalar = true ∧
    directory.ReturnsLike (Naming.getter (property ++ Naming.leastSuffix)) type ∧
      directory.ReturnsLike (Naming.getter (property ++ Naming.greatestSuffix)) type

/-- What a property needs to be a pair, beside a setter that is public. -/
structure CanPair (directory : Directory Object) (classification : Classification)
    (property : Text) (type : SlotType) : Prop where
  nonempty : property ≠ []
  /-- The getter is public. -/
  listed : Naming.getter property ∈ directory.publicNames
  getterFree : classification.Unclaimed (Naming.getter property)
  setterFree : classification.Unclaimed (Naming.setter property)
  unbound : directory.Unbound property
  returns : directory.Returns (Naming.getter property) type
  /-- The setter takes what the getter returns. -/
  accepts : ∃ signature ∈ directory.signatures (Naming.setter property),
    signature.accepts type = true

end Directory

namespace MethodTable

variable {Object : Type} {directory : Directory Object} {property name : Text} {type : SlotType}

theorem isBound_eq_false_iff :
    (ofDirectory directory).isBound property = false ↔ directory.Unbound property := by
  simp only [isBound, List.any_eq_false, Bool.and_eq_true, contains_ofDirectory,
    Naming.mem_boundBases_iff]
  constructor
  · intro free base nonempty suffix listed whole
    exact free base ⟨nonempty, suffix, listed, whole⟩
  · rintro free base ⟨nonempty, suffix, listed, whole⟩
    exact free base nonempty suffix listed whole

theorem hasBound_iff :
    (ofDirectory directory).hasBound type name = true ↔ directory.ReturnsLike name type := by
  rw [hasBound, has_ofDirectory, Directory.ReturnsLike]
  simp only [Bool.and_eq_true, and_assoc]

theorem hasBounds_iff :
    (ofDirectory directory).hasBounds property type = true ↔
      directory.HasBounds property type := by
  simp only [hasBounds, Bool.and_eq_true, hasBound_iff, and_assoc, Directory.HasBounds]

end MethodTable

namespace Classification

variable {Object : Type} {directory : Directory Object} {classification : Classification}

/-- The names that are free beside a classification are those that are free beside its plan. -/
theorem Reads.unclaimed_iff (reads : classification.Reads (RolePlan.ofDirectory directory))
    {name : Text} :
    classification.Unclaimed name ↔
      name ∉ RolePlan.claims (RolePlan.ofDirectory directory).toggles
        (RolePlan.ofDirectory directory).states [] := by
  have toggles : (∀ property ∈ classification.toggles.names, name ∉ toggleNames property) ↔
      name ∉ (RolePlan.ofDirectory directory).toggles.flatMap TogglePlan.claims := by
    rw [← reads.mem_toggleNames_iff]
    simp [Keyed.names]
  have states : (∀ property options, (property, options) ∈ classification.states →
        name ∉ stateNames property (options.map StateOption.name)) ↔
      name ∉ (RolePlan.ofDirectory directory).states.flatMap StatePlan.claims := by
    rw [← reads.mem_stateNames_iff]
    simp
  rw [RolePlan.claims, List.flatMap_nil, List.append_nil, List.mem_append, not_or, ← toggles,
    ← states]
  constructor
  · rintro ⟨unswitched, unselected⟩
    exact ⟨unswitched, unselected⟩
  · rintro ⟨unswitched, unselected⟩
    exact ⟨unswitched, unselected⟩

/-- The pairs of a classification are told from its toggles, its states and the directory. -/
structure PairsExact (classification : Classification) (directory : Directory Object) :
    Prop where
  founded : ∀ property, property ∈ classification.pairs.names ↔
    Naming.setter property ∈ directory.publicNames ∧
      ∃ type, directory.CanPair classification property type
  /-- A pair has bounds if its type is a scalar and both of its bounds have getters. -/
  bounded : ∀ property reading, (property, reading) ∈ classification.pairs →
    ∀ type, directory.Returns (Naming.getter property) type →
      (reading.bounds?.isSome = true ↔ directory.HasBounds property type)

theorem Reads.pairsExact (reads : classification.Reads (RolePlan.ofDirectory directory)) :
    classification.PairsExact directory := by
  constructor
  case founded =>
    intro property
    rw [reads.pair_names_perm.mem_iff]
    constructor
    · intro paired
      rcases List.mem_map.mp paired with ⟨pair, planned, rfl⟩
      rcases MethodTable.pair?_eq_some_iff.mp (RolePlan.mem_pairs_iff.mp planned) with
        ⟨⟨-, nonempty⟩, ⟨getterFree, setterFree⟩, unbound, type, accessed, accepts, -⟩
      rcases MethodTable.accessed?_eq_some_iff.mp accessed with ⟨listed, returns⟩
      rcases MethodTable.has_ofDirectory.mp accepts with ⟨setterListed, accepts⟩
      exact ⟨setterListed, type, nonempty, listed, reads.unclaimed_iff.mpr getterFree,
        reads.unclaimed_iff.mpr setterFree, MethodTable.isBound_eq_false_iff.mp unbound,
        returns, accepts⟩
    · rintro ⟨setterListed, type, canPair⟩
      -- Beside the toggles and the states nothing is claimed that could bar the pair.
      have found : (MethodTable.ofDirectory directory).pair?
          (RolePlan.claims (RolePlan.ofDirectory directory).toggles
            (RolePlan.ofDirectory directory).states []) (Naming.getter property) =
          some ⟨property, (MethodTable.ofDirectory directory).hasBounds property type⟩ :=
        MethodTable.pair?_eq_some_iff.mpr
          ⟨⟨rfl, canPair.nonempty⟩,
            ⟨reads.unclaimed_iff.mp canPair.getterFree, reads.unclaimed_iff.mp canPair.setterFree⟩,
            MethodTable.isBound_eq_false_iff.mpr canPair.unbound, type,
            MethodTable.accessed?_eq_some_iff.mpr ⟨canPair.listed, canPair.returns⟩,
            MethodTable.has_ofDirectory.mpr ⟨setterListed, canPair.accepts⟩, rfl⟩
      exact List.mem_map.mpr ⟨⟨property, _⟩, RolePlan.mem_pairs_iff.mpr found, rfl⟩
  case bounded =>
    intro property reading member type returns
    rcases reads.pairs.exists_item (RolePlan.nodup_pair_properties directory) member with
      ⟨pair, planned, rfl, bounded⟩
    rcases MethodTable.pair?_eq_some_iff.mp (RolePlan.mem_pairs_iff.mp planned) with
      ⟨-, -, -, own, accessed, -, bounds⟩
    rcases MethodTable.accessed?_eq_some_iff.mp accessed with ⟨listed, returnsOwn⟩
    obtain rfl : type = own := returns.unique listed returnsOwn
    rw [bounded, bounds, MethodTable.hasBounds_iff]

end Classification

/-- The pairs of a class are those that its names found, whatever the probe answers. -/
theorem Directory.classify_pairsExact {Object Target : Type} [Probeable Target]
    (directory : Directory Object) (probe : Probe Target) :
    (directory.classify probe).1.PairsExact directory :=
  Classification.Reads.pairsExact (directory.reads_classify probe)

/-- A class that has the name of its own setter. -/
def setLevelDirectory : Directory ScriptedObject where
  className := "SetLevel".toList
  entries :=
    [("GetLevel".toList, some "V.GetLevel() -> float".toList),
      ("SetLevel".toList, some "V.SetLevel(float)".toList)]
  object? := none

/-- The level has all that a pair needs but for a public setter, and it is no pair. -/
theorem Directory.not_pair_setLevel :
    setLevelDirectory.CanPair (setLevelDirectory.classify (none : Probe ScriptedObject)).1
        "Level".toList (.scalar "float".toList) ∧
      "Level".toList ∉
        (setLevelDirectory.classify (none : Probe ScriptedObject)).1.pairs.names := by
  have classified : (setLevelDirectory.classify (none : Probe ScriptedObject)).1 =
      { Classification.blank with
        className := "SetLevel".toList
        getters := ["GetLevel".toList] } := by
    decide +kernel
  have getter : setLevelDirectory.signatures (Naming.getter "Level".toList) =
      [⟨.scalar "float".toList, .absent⟩] := by
    decide +kernel
  have setter : setLevelDirectory.signatures (Naming.setter "Level".toList) =
      [⟨.absent, .scalar "float".toList⟩] := by
    decide +kernel
  rw [classified]
  constructor
  · exact
      { nonempty := by decide
        listed := by decide +kernel
        getterFree := ⟨by simp [Classification.blank, Keyed.names], by simp [Classification.blank]⟩
        setterFree := ⟨by simp [Classification.blank, Keyed.names], by simp [Classification.blank]⟩
        unbound := MethodTable.isBound_eq_false_iff.mp (by decide +kernel)
        returns := ⟨[], _, [], getter, by simp, rfl, rfl⟩
        accepts := ⟨_, setter ▸ List.mem_singleton_self _, by decide⟩ }
  · simp [Classification.blank, Keyed.names]

end MethodRoles
