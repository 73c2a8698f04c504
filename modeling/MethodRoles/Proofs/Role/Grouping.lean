import MethodRoles.Proofs.Role.Family
import MethodRoles.Proofs.Role.Independence
import Mathlib.Data.Set.Subsingleton

/-!
# States are found exactly

A name selects an option of a property when it is `SetXToY`, where the letters `To` are
the first ones that may split it: the property before them is not empty, and the option
behind them starts like one (`Naming.selection?_eq_some_iff`).

The states of a classification are told from its toggles alone.  A property is a state
when two public names select options of it, or one does and its getter returns a whole
number, where only names count that no toggle claims and that can be called without
arguments.  The options of the state are those that these names select
(`Directory.classify_statesExact`).
-/

namespace MethodRoles

namespace Directory

variable {Object : Type}

/-- A name selects an option of a property, apart from the names of some switched properties. -/
structure IsSelector (directory : Directory Object) (switched : List Text)
    (property name : Text) : Prop where
  /-- The name is public. -/
  listed : name ∈ directory.publicNames
  /-- No switched property claims it. -/
  unclaimed : ∀ toggle ∈ switched, name ∉ Classification.toggleNames toggle
  /-- It is documented to be callable without arguments. -/
  callable : ∃ signature ∈ directory.signatures name, signature.takesNothing = true
  /-- It is named after the property and some option. -/
  selects : ∃ option, Naming.Selects name property option

/-- The names that select options of a property. -/
def selectorNames (directory : Directory Object) (switched : List Text) (property : Text) :
    Set Text :=
  { name | directory.IsSelector switched property name }

variable {directory : Directory Object} {switched : List Text} {property name : Text}

theorem mem_family_iff :
    name ∈ directory.family switched property ↔
      name ∈ directory.selectorNames switched property := by
  have selects : ((Naming.selection? name).any fun selection => selection.1 == property) = true ↔
      ∃ option, Naming.Selects name property option := by
    simp only [Option.any_eq_true, beq_iff_eq, Prod.exists, Naming.selection?_eq_some_iff]
    constructor
    · rintro ⟨_, option, selects, rfl⟩
      exact ⟨option, selects⟩
    · rintro ⟨option, selects⟩
      exact ⟨property, option, selects, rfl⟩
  simp only [family, List.mem_filter, Bool.and_eq_true, Bool.not_eq_true', selects,
    List.contains_eq_mem, decide_eq_false_iff_not, List.mem_flatMap, not_exists, not_and,
    List.any_eq_true]
  constructor
  · rintro ⟨listed, ⟨unclaimed, callable⟩, selects⟩
    exact ⟨listed, unclaimed, callable, selects⟩
  · rintro ⟨listed, unclaimed, callable, selects⟩
    exact ⟨listed, ⟨unclaimed, callable⟩, selects⟩

theorem nodup_family (directory : Directory Object) (switched : List Text) (property : Text) :
    (directory.family switched property).Nodup :=
  (Text.nodup_distinct _).filter _

/-- There are names enough for a state if there are two, or one and a getter of a whole number. -/
theorem hasFamily_iff :
    directory.HasFamily switched property ↔
      (directory.selectorNames switched property).Nontrivial ∨
        (∃ name, directory.selectorNames switched property = {name}) ∧
          directory.HasIntegerGetter property := by
  have members : directory.selectorNames switched property =
      { name | name ∈ directory.family switched property } := by
    ext name
    exact mem_family_iff.symm
  have distinct := directory.nodup_family switched property
  rw [HasFamily, members]
  generalize directory.family switched property = names at distinct ⊢
  rcases names with _ | ⟨first, _ | ⟨second, others⟩⟩
  · simp
  · simp
  · -- The family has no repetitions, so its first two entries are two names.
    have two : { name | name ∈ first :: second :: others }.Nontrivial := by
      refine ⟨first, by simp, second, by simp, ?_⟩
      rintro rfl
      simp at distinct
    exact iff_of_true (.inl (by simp)) (.inl two)

end Directory

/-- The states of a classification are told from its toggles and the directory. -/
structure Classification.StatesExact {Object : Type} (classification : Classification)
    (directory : Directory Object) : Prop where
  /-- Two selectors found a state, and so does a single one beside a getter of a whole number. -/
  founded : ∀ property, property ∈ classification.states.names ↔
    (directory.selectorNames classification.toggles.names property).Nontrivial ∨
      (∃ name, directory.selectorNames classification.toggles.names property = {name}) ∧
        directory.HasIntegerGetter property
  /-- Each option of a state is there once. -/
  distinct : ∀ property options, (property, options) ∈ classification.states →
    (options.map StateOption.name).Nodup
  /-- The options of a state are those that its selectors select. -/
  selected : ∀ property options, (property, options) ∈ classification.states →
    ∀ option, option ∈ options.map StateOption.name ↔
      ∃ name ∈ directory.selectorNames classification.toggles.names property,
        Naming.Selects name property option

namespace RolePlan

variable {Object : Type} {directory : Directory Object} {state : StatePlan}

/-- The selectors of a planned state give its options their names. -/
theorem map_selector_eq_family (planned : state ∈ (ofDirectory directory).states) :
    (state.selectors.map Selector.option).map (Naming.selector state.property) =
      directory.family ((ofDirectory directory).toggles.map TogglePlan.property)
        state.property := by
  rw [← map_method_eq planned, map_method_eq_family planned]

theorem nodup_options (planned : state ∈ (ofDirectory directory).states) :
    (state.selectors.map Selector.option).Nodup := by
  apply List.Nodup.of_map (Naming.selector state.property)
  rw [map_selector_eq_family planned]
  exact directory.nodup_family _ _

theorem mem_options_iff (planned : state ∈ (ofDirectory directory).states) {option : Text} :
    option ∈ state.selectors.map Selector.option ↔
      ∃ name ∈ directory.family ((ofDirectory directory).toggles.map TogglePlan.property)
        state.property, Naming.Selects name state.property option := by
  rw [← map_method_eq_family planned]
  simp only [List.mem_map, exists_exists_and_eq_and, ← Naming.selection?_eq_some_iff]
  refine exists_congr fun selector => and_congr_right fun member => ?_
  rw [selection?_method planned member, Option.some.injEq, Prod.mk.injEq]
  exact (and_iff_right rfl).symm

end RolePlan

theorem Classification.Reads.statesExact {Object : Type} {directory : Directory Object}
    {classification : Classification}
    (reads : classification.Reads (RolePlan.ofDirectory directory)) :
    classification.StatesExact directory where
  founded property := by
    rw [reads.mem_state_names_iff, Directory.hasFamily_iff]
  distinct := by
    intro property options member
    rcases reads.exists_state member with ⟨state, planned, rfl, front⟩
    exact front.perm.nodup_iff.mpr (RolePlan.nodup_options planned)
  selected := by
    intro property options member option
    rcases reads.exists_state member with ⟨state, planned, rfl, front⟩
    rw [front.perm.mem_iff, RolePlan.mem_options_iff planned,
      ← Directory.family_congr reads.toggle_names_perm]
    simp only [Directory.mem_family_iff]

/-- The states of a class are those that its names found, whatever the probe answers. -/
theorem Directory.classify_statesExact {Object Target : Type} [Probeable Target]
    (directory : Directory Object) (probe : Probe Target) :
    (directory.classify probe).1.StatesExact directory :=
  Classification.Reads.statesExact (directory.reads_classify probe)

end MethodRoles
