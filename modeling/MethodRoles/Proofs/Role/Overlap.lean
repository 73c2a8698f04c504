import MethodRoles.Probe.Scripted
import MethodRoles.Proofs.Role.Family
import Mathlib.Tactic.SplitIfs

/-!
# Properties with two roles

A pair needs a getter that no toggle and no state claims, so its property has no
other role.  A state only asks whether its selectors are claimed.  Therefore a
switched property with a family of selectors is a toggle and a state at once, and
a lookup of it finds the toggle alone.  Every property has one role exactly when no
switched property has such a family (`Directory.classify_oneRole_iff`).
-/

namespace MethodRoles

namespace Classification

/-- No property has two roles, and no toggle hides another role of its property. -/
structure OneRole (classification : Classification) : Prop where
  toggleOrState : ∀ property ∈ classification.toggles.names,
    property ∉ classification.states.names
  toggleOrPair : ∀ property ∈ classification.toggles.names,
    property ∉ classification.pairs.names
  stateOrPair : ∀ property ∈ classification.states.names,
    property ∉ classification.pairs.names
  visible : ∀ property ∈ classification.states.names ++ classification.pairs.names,
    classification.category? property ≠ some .toggle

variable {classification : Classification} {property : Text}

theorem category?_eq_toggle_iff :
    classification.category? property = some .toggle ↔
      property ∈ classification.toggles.names := by
  constructor
  · intro found
    by_contra absent
    -- Whatever else the property is, the toggles come first.
    simp only [category?, List.contains_eq_mem, absent, decide_false, Bool.false_eq_true,
      if_false] at found
    split_ifs at found <;> contradiction
  · intro switched
    simp [category?, switched]

/-- The property of a pair without another role is looked up as a pair. -/
theorem category?_eq_pair (paired : property ∈ classification.pairs.names)
    (unswitched : property ∉ classification.toggles.names)
    (unselected : property ∉ classification.states.names) :
    classification.category? property = some .pair := by
  simp [category?, paired, unswitched, unselected]

variable {Object : Type} {directory : Directory Object}

/-- The property of a pair has no other role. -/
theorem Reads.alone_of_pair (reads : classification.Reads (RolePlan.ofDirectory directory))
    (paired : property ∈ classification.pairs.names) :
    property ∉ classification.toggles.names ∧ property ∉ classification.states.names := by
  rw [reads.pair_names_perm.mem_iff] at paired
  rw [reads.toggle_names_perm.mem_iff, reads.state_names_perm.mem_iff]
  exact ⟨RolePlan.not_mem_toggle_properties paired, RolePlan.not_mem_state_properties paired⟩

end Classification

/--
The property of a pair has no other role, and all properties have one role exactly
when no switched property has a family of selectors.
-/
theorem Directory.classify_oneRole_iff {Object Target : Type} [Probeable Target]
    (directory : Directory Object) (probe : Probe Target) :
    (∀ property ∈ (directory.classify probe).1.pairs.names,
        property ∉ (directory.classify probe).1.toggles.names ∧
          property ∉ (directory.classify probe).1.states.names ∧
            (directory.classify probe).1.category? property = some .pair) ∧
      ((directory.classify probe).1.OneRole ↔
        ∀ property ∈ (directory.classify probe).1.toggles.names,
          ¬ directory.HasFamily (directory.classify probe).1.toggles.names property) := by
  have reads : (directory.classify probe).1.Reads (RolePlan.ofDirectory directory) :=
    directory.reads_classify probe
  constructor
  · intro property paired
    rcases reads.alone_of_pair paired with ⟨unswitched, unselected⟩
    exact ⟨unswitched, unselected,
      Classification.category?_eq_pair paired unswitched unselected⟩
  · constructor
    · intro oneRole property switched family
      exact oneRole.toggleOrState property switched (reads.mem_state_names_iff.mpr family)
    · intro noFamily
      have toggleOrState : ∀ property ∈ (directory.classify probe).1.toggles.names,
          property ∉ (directory.classify probe).1.states.names := by
        intro property switched selected
        exact noFamily property switched (reads.mem_state_names_iff.mp selected)
      constructor
      case toggleOrState => exact toggleOrState
      case toggleOrPair =>
        intro property switched paired
        exact (reads.alone_of_pair paired).1 switched
      case stateOrPair =>
        intro property selected paired
        exact (reads.alone_of_pair paired).2 selected
      case visible =>
        intro property other
        rw [ne_eq, Classification.category?_eq_toggle_iff]
        intro switched
        rcases List.mem_append.mp other with selected | paired
        · exact toggleOrState property switched selected
        · exact (reads.alone_of_pair paired).1 switched

/-- A dimmer, whose mode can be switched on and off and has two options. -/
def dimmerDirectory : Directory ScriptedObject where
  className := "Dimmer".toList
  entries :=
    [("ModeOn".toList, some "V.ModeOn()".toList),
      ("ModeOff".toList, some "V.ModeOff()".toList),
      ("SetModeToDim".toList, some "V.SetModeToDim()".toList),
      ("SetModeToBright".toList, some "V.SetModeToBright()".toList)]
  object? := none

/-- The mode of the dimmer is a toggle and a state, and only the toggle is found. -/
theorem Directory.not_oneRole_dimmer :
    (dimmerDirectory.classify (none : Probe ScriptedObject)).1.toggles.names =
        ["Mode".toList] ∧
      (dimmerDirectory.classify (none : Probe ScriptedObject)).1.states.names =
          ["Mode".toList] ∧
        (dimmerDirectory.classify (none : Probe ScriptedObject)).1.category? "Mode".toList =
            some .toggle ∧
          ¬ (dimmerDirectory.classify (none : Probe ScriptedObject)).1.OneRole := by
  have classified : (dimmerDirectory.classify (none : Probe ScriptedObject)).1 =
      { className := "Dimmer".toList
        toggles := [("Mode".toList, .unresolved)]
        states :=
          [("Mode".toList, [⟨"Dim".toList, .unresolved⟩, ⟨"Bright".toList, .unresolved⟩])]
        pairs := []
        getters := []
        others := [] } := by
    decide +kernel
  rw [classified]
  refine ⟨rfl, rfl, by decide, ?_⟩
  intro oneRole
  apply oneRole.toggleOrState "Mode".toList
  · exact List.mem_singleton_self _
  · exact List.mem_singleton_self _

end MethodRoles
