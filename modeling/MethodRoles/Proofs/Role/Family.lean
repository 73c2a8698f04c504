import MethodRoles.Proofs.Role.Conservation

/-!
# Families of selectors

The selectors of a property are its public methods `SetXToY` that some signature
lets be called without arguments, apart from the names that toggles claim.  A
property has options when there are at least two selectors of it, or one and a
getter that returns a whole number (`Classification.Reads.mem_state_names_iff`).
Whether the property is switched as well is not asked.
-/

namespace MethodRoles

namespace Directory

variable {Object : Type}

/-- The selectors of a property that no switched property claims. -/
def family (directory : Directory Object) (switched : List Text) (property : Text) :
    List Text :=
  directory.publicNames.filter fun name =>
    !(switched.flatMap Classification.toggleNames).contains name &&
      (directory.signatures name).any Signature.takesNothing &&
      (Naming.selection? name).any fun selection => selection.1 == property

/-- A property has a public getter that returns a whole number. -/
def HasIntegerGetter (directory : Directory Object) (property : Text) : Prop :=
  Naming.getter property ∈ directory.publicNames ∧
    ∃ signature ∈ directory.signatures (Naming.getter property),
      signature.isAccessor = true ∧ signature.result.isInteger = true

/-- The selectors of a property are enough for a state. -/
def HasFamily (directory : Directory Object) (switched : List Text) (property : Text) : Prop :=
  2 ≤ (directory.family switched property).length ∨
    directory.family switched property ≠ [] ∧ directory.HasIntegerGetter property

theorem family_congr {directory : Directory Object} {switched others : List Text}
    (same : switched.Perm others) (property : Text) :
    directory.family switched property = directory.family others property := by
  apply List.filter_congr
  intro name _
  have claimed : name ∈ switched.flatMap Classification.toggleNames ↔
      name ∈ others.flatMap Classification.toggleNames := (same.flatMap_right _).mem_iff
  simp only [List.contains_eq_mem, claimed]

theorem hasFamily_congr {directory : Directory Object} {switched others : List Text}
    (same : switched.Perm others) {property : Text} :
    directory.HasFamily switched property ↔ directory.HasFamily others property := by
  rw [HasFamily, HasFamily, family_congr same]

end Directory

/-- Items that stand for names are kept as the names are. -/
theorem map_filter_filterMap {Item : Type} {item? : Text → Option Item} {name : Item → Text}
    (named : ∀ text item, item? text = some item → name item = text) (keeps : Item → Bool)
    (texts : List Text) :
    ((texts.filterMap item?).filter keeps).map name =
      texts.filter fun text => (item? text).any keeps := by
  induction texts with
  | nil => rfl
  | cons text texts induction =>
      rw [List.filterMap_cons, List.filter_cons]
      split
      case h_1 missing =>
        simp only [missing, Option.any_none, Bool.false_eq_true, if_false]
        exact induction
      case h_2 item found =>
        rw [List.filter_cons]
        simp only [found, Option.any_some]
        split
        · rw [List.map_cons, named text item found, induction]
        · exact induction

namespace MethodTable

variable {Object : Type}

theorem any_selector? {table : MethodTable} {claimed : List Text} {name property : Text} :
    ((table.selector? claimed name).any fun selector => selector.property == property) =
      (!claimed.contains name && table.has Signature.takesNothing name &&
        (Naming.selection? name).any fun selection => selection.1 == property) := by
  rw [selector?]
  split
  case isTrue callable =>
    rw [callable, Bool.true_and]
    cases Naming.selection? name <;> rfl
  case isFalse refused =>
    rw [Bool.not_eq_true] at refused
    rw [refused]
    rfl

/-- The state of a property has the family of the property as its selectors. -/
theorem map_method_stateOf (directory : Directory Object) (switched : List Text)
    (property : Text) :
    (((ofDirectory directory).stateOf ((ofDirectory directory).selectors
      (switched.flatMap Classification.toggleNames)) property).selectors.map Selector.method) =
        directory.family switched property := by
  have named (name : Text) (selector : Selector)
      (found : (ofDirectory directory).selector?
        (switched.flatMap Classification.toggleNames) name = some selector) :
      selector.method = name := (selector?_eq_some_iff.mp found).1
  rw [stateOf, selectors, map_filter_filterMap named, names_ofDirectory, Directory.family]
  apply List.filter_congr
  intro name listed
  have documented : (ofDirectory directory).has Signature.takesNothing name =
      (directory.signatures name).any Signature.takesNothing := by
    rw [Bool.eq_iff_iff, has_ofDirectory, List.any_eq_true]
    exact and_iff_right listed
  rw [any_selector?, documented]

theorem hasIntegerGetter_iff {directory : Directory Object} {property : Text} :
    (ofDirectory directory).hasIntegerGetter property = true ↔
      directory.HasIntegerGetter property := by
  rw [hasIntegerGetter, has_ofDirectory, Directory.HasIntegerGetter]
  simp only [Bool.and_eq_true]

theorem mem_state_properties {table : MethodTable} {claimed : List Text} {property : Text} :
    property ∈ (table.states claimed).map StatePlan.property ↔
      (∃ selector ∈ table.selectors claimed, selector.property = property) ∧
        table.isState (table.stateOf (table.selectors claimed) property) = true := by
  simp only [List.mem_map, mem_states_iff]
  constructor
  · rintro ⟨_, ⟨⟨selector, listed, rfl⟩, founded⟩, rfl⟩
    exact ⟨⟨selector, listed, rfl⟩, founded⟩
  · rintro ⟨⟨selector, listed, rfl⟩, founded⟩
    exact ⟨_, ⟨⟨selector, listed, rfl⟩, founded⟩, rfl⟩

end MethodTable

namespace RolePlan

variable {Object : Type}

theorem claims_toggles (toggles : List TogglePlan) :
    claims toggles [] [] =
      (toggles.map TogglePlan.property).flatMap Classification.toggleNames := by
  rw [claims, List.flatMap_nil, List.flatMap_nil, List.append_nil, List.append_nil,
    List.flatMap_map]
  rfl

/-- The selectors of a planned state are the family of its property. -/
theorem map_method_eq_family {directory : Directory Object} {state : StatePlan}
    (planned : state ∈ (ofDirectory directory).states) :
    state.selectors.map Selector.method =
      directory.family ((ofDirectory directory).toggles.map TogglePlan.property)
        state.property := by
  rcases (MethodTable.mem_states_iff.mp planned).1 with ⟨selector, -, rfl⟩
  rw [← MethodTable.map_method_stateOf, ← claims_toggles]
  rfl

/-- A plan has a state for each property with a family, whether it is switched or not. -/
theorem mem_state_properties_iff {directory : Directory Object} {property : Text} :
    property ∈ (ofDirectory directory).states.map StatePlan.property ↔
      directory.HasFamily ((ofDirectory directory).toggles.map TogglePlan.property)
        property := by
  have family := MethodTable.map_method_stateOf directory
    ((ofDirectory directory).toggles.map TogglePlan.property) property
  rw [← claims_toggles] at family
  -- The state of the property has the family as its selectors, so both sides count the same.
  have selected : (∃ selector ∈ (MethodTable.ofDirectory directory).selectors
        (claims (ofDirectory directory).toggles [] []), selector.property = property) ↔
      directory.family ((ofDirectory directory).toggles.map TogglePlan.property)
        property ≠ [] := by
    rw [← family, ne_eq, List.map_eq_nil_iff, MethodTable.stateOf, List.filter_eq_nil_iff]
    simp
  change property ∈ ((MethodTable.ofDirectory directory).states
    (claims (ofDirectory directory).toggles [] [])).map StatePlan.property ↔ _
  rw [MethodTable.mem_state_properties, selected, MethodTable.isState, Bool.or_eq_true,
    decide_eq_true_eq, ← List.length_map Selector.method, family, Directory.HasFamily]
  change _ ∧ (_ ∨ (MethodTable.ofDirectory directory).hasIntegerGetter property = true) ↔ _
  rw [MethodTable.hasIntegerGetter_iff]
  constructor
  · rintro ⟨nonempty, many | integer⟩
    · exact .inl many
    · exact .inr ⟨nonempty, integer⟩
  · rintro (many | ⟨nonempty, integer⟩)
    · exact ⟨List.ne_nil_of_length_pos (by omega), .inl many⟩
    · exact ⟨nonempty, .inr integer⟩

/-- The getter and the setter of a planned pair are not claimed by a toggle or a state. -/
theorem not_mem_claims {directory : Directory Object} {property : Text}
    (planned : property ∈ (ofDirectory directory).pairs.map PairPlan.property) :
    Naming.getter property ∉
        claims (ofDirectory directory).toggles (ofDirectory directory).states [] ∧
      Naming.setter property ∉
        claims (ofDirectory directory).toggles (ofDirectory directory).states [] := by
  rcases List.mem_map.mp planned with ⟨pair, member, rfl⟩
  rcases (exists_pair?_eq_some member).2 with ⟨later, found⟩
  rcases (MethodTable.pair?_eq_some_iff.mp found).2.1 with ⟨getterFree, setterFree⟩
  constructor
  · intro claimed
    exact getterFree (List.mem_append_left later claimed)
  · intro claimed
    exact setterFree (List.mem_append_left later claimed)

theorem not_mem_toggle_properties {directory : Directory Object} {property : Text}
    (planned : property ∈ (ofDirectory directory).pairs.map PairPlan.property) :
    property ∉ (ofDirectory directory).toggles.map TogglePlan.property := by
  intro switched
  rcases List.mem_map.mp switched with ⟨toggle, member, rfl⟩
  apply (not_mem_claims planned).1
  simp only [claims, List.mem_append, List.mem_flatMap]
  exact .inl (.inl ⟨toggle, member, by simp [TogglePlan.claims]⟩)

theorem not_mem_state_properties {directory : Directory Object} {property : Text}
    (planned : property ∈ (ofDirectory directory).pairs.map PairPlan.property) :
    property ∉ (ofDirectory directory).states.map StatePlan.property := by
  intro selected
  rcases List.mem_map.mp selected with ⟨state, member, rfl⟩
  apply (not_mem_claims planned).1
  simp only [claims, List.mem_append, List.mem_flatMap]
  exact .inl (.inr ⟨state, member, by simp [StatePlan.claims]⟩)

end RolePlan

/-! ## Properties of a classification -/

namespace Classification.Reads

variable {Object : Type} {directory : Directory Object} {classification : Classification}
  (reads : classification.Reads (RolePlan.ofDirectory directory))

include reads

theorem toggle_names_perm : classification.toggles.names.Perm
    ((RolePlan.ofDirectory directory).toggles.map TogglePlan.property) :=
  reads.toggles.names_perm (RolePlan.nodup_toggle_properties directory)

theorem state_names_perm : classification.states.names.Perm
    ((RolePlan.ofDirectory directory).states.map StatePlan.property) :=
  reads.states.names_perm (RolePlan.nodup_state_properties directory)

theorem pair_names_perm : classification.pairs.names.Perm
    ((RolePlan.ofDirectory directory).pairs.map PairPlan.property) :=
  reads.pairs.names_perm (RolePlan.nodup_pair_properties directory)

/-- The properties with options are those with a family beside the switched ones. -/
theorem mem_state_names_iff {property : Text} :
    property ∈ classification.states.names ↔
      directory.HasFamily classification.toggles.names property := by
  rw [reads.state_names_perm.mem_iff, RolePlan.mem_state_properties_iff,
    Directory.hasFamily_congr reads.toggle_names_perm]

end Classification.Reads

end MethodRoles
