import MethodRoles.Proofs.Role.Naming
import MethodRoles.Proofs.Text.Distinct
import MethodRoles.Role.Plan
import Mathlib.Data.List.Nodup

/-!
# The roles of a plan

Every role of a plan goes back to one public name of the directory, so no
property founds two roles of one kind.  The selectors of a state stand in the
order of the directory, and each is named after its property and its option.
-/

namespace MethodRoles

namespace Directory

variable {Object : Type}

/-- The public names are the distinct names that may have a role. -/
theorem publicNames_eq_filter (directory : Directory Object) :
    directory.publicNames =
      (Text.distinct directory.methodNames).filter (Naming.isPublic directory.className) :=
  Text.distinct_filter _ _

@[simp]
theorem mem_publicNames {directory : Directory Object} {name : Text} :
    name ∈ directory.publicNames ↔
      name ∈ directory.methodNames ∧ Naming.isPublic directory.className name = true := by
  simp [publicNames]

theorem publicNames_sublist (directory : Directory Object) :
    directory.publicNames.Sublist (Text.distinct directory.methodNames) := by
  rw [publicNames_eq_filter]
  exact List.filter_sublist

/-- The first signature of a method that makes it an accessor returns a type. -/
def Returns (directory : Directory Object) (name : Text) (type : SlotType) : Prop :=
  ∃ before signature after, directory.signatures name = before ++ signature :: after ∧
    (∀ earlier ∈ before, earlier.isAccessor = false) ∧
      signature.isAccessor = true ∧ signature.result = type

end Directory

/-- The names that found roles stand in the order of the names that are walked through. -/
theorem foundInOrder_sublist {Role : Type} {found? : List Text → Text → Option Role}
    {claims : Role → List Text} {founder : Role → Text}
    (founds : ∀ claimed name role, found? claimed name = some role → founder role = name)
    (claimed names : List Text) :
    ((foundInOrder found? claims claimed names).map founder).Sublist names := by
  induction names generalizing claimed with
  | nil => exact List.Sublist.refl _
  | cons name names induction =>
      rw [foundInOrder]
      split
      case h_1 role found =>
        rw [List.map_cons, founds claimed name role found]
        exact (induction _).cons_cons name
      case h_2 => exact (induction claimed).cons name

/-- A role was founded by one of the names, when at least the first claims were made. -/
theorem exists_of_mem_foundInOrder {Role : Type} {found? : List Text → Text → Option Role}
    {claims : Role → List Text} {claimed names : List Text} {role : Role}
    (member : role ∈ foundInOrder found? claims claimed names) :
    ∃ name ∈ names, ∃ later, found? (claimed ++ later) name = some role := by
  induction names generalizing claimed with
  | nil => contradiction
  | cons name names induction =>
      rw [foundInOrder] at member
      split at member
      case h_1 first found =>
        rcases List.mem_cons.mp member with rfl | member
        · exact ⟨name, List.mem_cons_self, [], by rw [List.append_nil, found]⟩
        · rcases induction member with ⟨founder, listed, later, founds⟩
          exact ⟨founder, List.mem_cons_of_mem name listed, claims first ++ later,
            by rw [← List.append_assoc, founds]⟩
      case h_2 =>
        rcases induction member with ⟨founder, listed, later, founds⟩
        exact ⟨founder, List.mem_cons_of_mem name listed, later, founds⟩

namespace MethodTable

variable {Object : Type}

@[simp]
theorem names_ofDirectory (directory : Directory Object) :
    (ofDirectory directory).names = directory.publicNames := by
  simp [ofDirectory, names, Function.comp_def]

theorem nodup_names_ofDirectory (directory : Directory Object) :
    (ofDirectory directory).names.Nodup := by
  rw [names_ofDirectory]
  exact (Text.nodup_distinct _).sublist directory.publicNames_sublist

/-- The table of a directory holds the public names with their signatures. -/
theorem lookup_ofDirectory (directory : Directory Object) (name : Text) :
    (ofDirectory directory).methods.lookup name =
      if name ∈ directory.publicNames then some (directory.signatures name) else none := by
  rw [ofDirectory]
  induction directory.publicNames with
  | nil => rfl
  | cons first others induction =>
      rw [List.map_cons, List.lookup_cons, induction]
      by_cases same : name = first
      · simp [same]
      · simp [same, beq_eq_false_iff_ne.mpr same]

@[simp]
theorem contains_ofDirectory {directory : Directory Object} {name : Text} :
    (ofDirectory directory).contains name = true ↔ name ∈ directory.publicNames := by
  rw [contains, lookup_ofDirectory]
  split <;> simp_all

/-- A method is in the table with a signature that the documentation states. -/
theorem has_ofDirectory {directory : Directory Object} {condition : Signature → Bool}
    {name : Text} :
    (ofDirectory directory).has condition name = true ↔ name ∈ directory.publicNames ∧
      ∃ signature ∈ directory.signatures name, condition signature = true := by
  rw [has, signatures, lookup_ofDirectory]
  split <;> simp_all

/-- The type that a table reads from a method is the result of its first accessor. -/
theorem accessed?_eq_some_iff {directory : Directory Object} {name : Text} {type : SlotType} :
    (ofDirectory directory).accessed? name = some type ↔
      name ∈ directory.publicNames ∧ directory.Returns name type := by
  rw [accessed?, signatures, lookup_ofDirectory]
  split
  case isTrue listed =>
    simp only [Option.getD_some, Option.map_eq_some_iff, List.find?_eq_some_iff_append,
      Bool.not_eq_true', listed, true_and, Directory.Returns]
    constructor
    · rintro ⟨signature, ⟨accessor, before, after, whole, earlier⟩, result⟩
      exact ⟨before, signature, after, whole, earlier, accessor, result⟩
    · rintro ⟨before, signature, after, whole, earlier, accessor, result⟩
      exact ⟨signature, ⟨accessor, before, after, whole, earlier⟩, result⟩
  case isFalse absent => simp [absent]

/-- A toggle is founded by the name that switches its property on. -/
theorem toggle?_eq_some_iff {table : MethodTable} {claimed : List Text} {name : Text}
    {toggle : TogglePlan} :
    table.toggle? claimed name = some toggle ↔
      (name = Naming.switchOn toggle.property ∧ toggle.property ≠ []) ∧
        (name ∉ claimed ∧ Naming.switchOff toggle.property ∉ claimed) ∧
        (table.has Signature.isAction name = true ∧
          table.has Signature.isAction (Naming.switchOff toggle.property) = true) ∧
        toggle.queries = (Naming.queries toggle.property).filter table.contains := by
  rcases toggle with ⟨property, queries⟩
  rw [← Naming.switchedProperty?_eq_some_iff, toggle?]
  split
  case h_1 none =>
    simp [none]
  case h_2 switched found =>
    simp only [found, Option.some.injEq, Option.ite_none_right_eq_some, Bool.and_eq_true,
      Bool.not_eq_true', List.contains_eq_mem, decide_eq_false_iff_not, TogglePlan.mk.injEq]
    constructor
    · rintro ⟨⟨⟨⟨free, offFree⟩, on⟩, off⟩, rfl, rfl⟩
      exact ⟨rfl, ⟨free, offFree⟩, ⟨on, off⟩, rfl⟩
    · rintro ⟨rfl, ⟨free, offFree⟩, ⟨on, off⟩, rfl⟩
      exact ⟨⟨⟨⟨free, offFree⟩, on⟩, off⟩, rfl, rfl⟩

/-- A pair is founded by the getter of its property. -/
theorem pair?_eq_some_iff {table : MethodTable} {claimed : List Text} {name : Text}
    {pair : PairPlan} :
    table.pair? claimed name = some pair ↔
      (name = Naming.getter pair.property ∧ pair.property ≠ []) ∧
        (name ∉ claimed ∧ Naming.setter pair.property ∉ claimed) ∧
        table.isBound pair.property = false ∧
        ∃ type, table.accessed? name = some type ∧
          table.has (fun signature => signature.accepts type)
            (Naming.setter pair.property) = true ∧
          pair.bounded = table.hasBounds pair.property type := by
  rcases pair with ⟨property, bounded⟩
  rw [← Naming.getterProperty?_eq_some_iff, pair?]
  split
  case h_1 read type found accessed =>
    simp only [found, accessed, Option.some.injEq, Option.ite_none_right_eq_some,
      Bool.and_eq_true, Bool.not_eq_true', List.contains_eq_mem, decide_eq_false_iff_not,
      PairPlan.mk.injEq]
    constructor
    · rintro ⟨⟨⟨⟨free, unbound⟩, setterFree⟩, accepts⟩, rfl, rfl⟩
      exact ⟨rfl, ⟨free, setterFree⟩, unbound, type, rfl, accepts, rfl⟩
    · rintro ⟨rfl, ⟨free, setterFree⟩, unbound, _, rfl, accepts, rfl⟩
      exact ⟨⟨⟨⟨free, unbound⟩, setterFree⟩, accepts⟩, rfl, rfl⟩
  case h_2 missing =>
    simp only [reduceCtorEq, false_iff]
    rintro ⟨read, -, -, type, accessed, -⟩
    exact missing property type read accessed

theorem selector?_eq_some_iff {table : MethodTable} {claimed : List Text} {name : Text}
    {selector : Selector} :
    table.selector? claimed name = some selector ↔
      selector.method = name ∧ name ∉ claimed ∧ table.has Signature.takesNothing name = true ∧
        Naming.selection? name = some (selector.property, selector.option) := by
  rcases selector with ⟨method, property, option⟩
  rw [selector?]
  split
  case isTrue allowed =>
    simp only [Bool.and_eq_true, Bool.not_eq_true', List.contains_eq_mem,
      decide_eq_false_iff_not] at allowed
    simp only [Option.map_eq_some_iff, Selector.mk.injEq, allowed, not_false_eq_true, true_and]
    constructor
    · rintro ⟨selection, selected, rfl, rfl, rfl⟩
      exact ⟨rfl, selected⟩
    · rintro ⟨rfl, selected⟩
      exact ⟨_, selected, rfl, rfl, rfl⟩
  case isFalse refused =>
    simp only [reduceCtorEq, false_iff]
    rintro ⟨-, unclaimed, callable, -⟩
    simp [unclaimed, callable] at refused

/-- The selectors stand in the order of the names that they are. -/
theorem map_method_selectors_sublist (table : MethodTable) (claimed : List Text) :
    ((table.selectors claimed).map Selector.method).Sublist table.names := by
  rw [selectors]
  induction table.names with
  | nil => exact List.Sublist.refl _
  | cons name names induction =>
      rw [List.filterMap_cons]
      split
      case h_1 => exact induction.cons name
      case h_2 selector found =>
        rw [List.map_cons, (selector?_eq_some_iff.mp found).1]
        exact induction.cons_cons name

/-- A state is that of one of the properties that some selector selects an option of. -/
theorem mem_states_iff {table : MethodTable} {claimed : List Text} {state : StatePlan} :
    state ∈ table.states claimed ↔
      (∃ selector ∈ table.selectors claimed,
        table.stateOf (table.selectors claimed) selector.property = state) ∧
        table.isState state = true := by
  simp [states]

end MethodTable

theorem Directory.Returns.unique {Object : Type} {directory : Directory Object} {name : Text}
    (listed : name ∈ directory.publicNames) {type other : SlotType}
    (returns : directory.Returns name type) (returnsToo : directory.Returns name other) :
    type = other := by
  have found := MethodTable.accessed?_eq_some_iff.mpr ⟨listed, returns⟩
  rw [MethodTable.accessed?_eq_some_iff.mpr ⟨listed, returnsToo⟩] at found
  exact (Option.some.inj found).symm

namespace RolePlan

variable {Object : Type}

theorem nodup_toggle_properties (directory : Directory Object) :
    ((ofDirectory directory).toggles.map TogglePlan.property).Nodup := by
  apply List.Nodup.of_map Naming.switchOn
  rw [List.map_map]
  exact (MethodTable.nodup_names_ofDirectory directory).sublist
    (foundInOrder_sublist (fun _ _ _ found =>
      (MethodTable.toggle?_eq_some_iff.mp found).1.1.symm) _ _)

theorem nodup_state_properties (directory : Directory Object) :
    ((ofDirectory directory).states.map StatePlan.property).Nodup := by
  have properties (table : MethodTable) (selectors : List Selector) (names : List Text) :
      (names.map (table.stateOf selectors)).map StatePlan.property = names := by
    simp [MethodTable.stateOf, Function.comp_def]
  apply List.Nodup.sublist (List.filter_sublist.map StatePlan.property)
  rw [properties]
  exact Text.nodup_distinct _

theorem nodup_pair_properties (directory : Directory Object) :
    ((ofDirectory directory).pairs.map PairPlan.property).Nodup := by
  apply List.Nodup.of_map Naming.getter
  rw [List.map_map]
  exact (MethodTable.nodup_names_ofDirectory directory).sublist
    (foundInOrder_sublist (fun _ _ _ found =>
      (MethodTable.pair?_eq_some_iff.mp found).1.1.symm) _ _)

/-- The queries of a toggle are those of its property that are public. -/
theorem queries_eq {directory : Directory Object} {toggle : TogglePlan}
    (planned : toggle ∈ (ofDirectory directory).toggles) :
    toggle.queries =
      (Naming.queries toggle.property).filter (MethodTable.ofDirectory directory).contains := by
  rcases exists_of_mem_foundInOrder planned with ⟨name, -, later, found⟩
  exact (MethodTable.toggle?_eq_some_iff.mp found).2.2.2

/-- A pair is founded by its own getter beside the toggles, the states and earlier pairs. -/
theorem exists_pair?_eq_some {directory : Directory Object} {pair : PairPlan}
    (planned : pair ∈ (ofDirectory directory).pairs) :
    Naming.getter pair.property ∈ directory.publicNames ∧
      ∃ later, (MethodTable.ofDirectory directory).pair?
        (claims (ofDirectory directory).toggles (ofDirectory directory).states [] ++ later)
        (Naming.getter pair.property) = some pair := by
  rcases exists_of_mem_foundInOrder planned with ⟨name, listed, later, found⟩
  rw [MethodTable.names_ofDirectory] at listed
  rcases (MethodTable.pair?_eq_some_iff.mp found).1 with ⟨rfl, -⟩
  exact ⟨listed, later, found⟩

/-- A selector of a state is found beside the toggles, and it selects for the state. -/
theorem selector?_eq_some {directory : Directory Object} {state : StatePlan}
    (planned : state ∈ (ofDirectory directory).states) {selector : Selector}
    (member : selector ∈ state.selectors) :
    (MethodTable.ofDirectory directory).selector?
        (claims (ofDirectory directory).toggles [] []) selector.method = some selector ∧
      selector.property = state.property := by
  rcases (MethodTable.mem_states_iff.mp planned).1 with ⟨_, -, rfl⟩
  rcases List.mem_filter.mp member with ⟨listed, same⟩
  rcases List.mem_filterMap.mp listed with ⟨name, -, found⟩
  constructor
  · rw [(MethodTable.selector?_eq_some_iff.mp found).1]
    exact found
  · exact beq_iff_eq.mp same

theorem selection?_method {directory : Directory Object} {state : StatePlan}
    (planned : state ∈ (ofDirectory directory).states) {selector : Selector}
    (member : selector ∈ state.selectors) :
    Naming.selection? selector.method = some (state.property, selector.option) := by
  rcases selector?_eq_some planned member with ⟨found, same⟩
  rw [← same]
  exact (MethodTable.selector?_eq_some_iff.mp found).2.2.2

/-- A selector of a state is named after the property of the state and its own option. -/
theorem method_eq_selector {directory : Directory Object} {state : StatePlan}
    (planned : state ∈ (ofDirectory directory).states) {selector : Selector}
    (member : selector ∈ state.selectors) :
    selector.method = Naming.selector state.property selector.option :=
  Naming.eq_selector_of_selection? (selection?_method planned member)

theorem selectors_ne_nil {directory : Directory Object} {state : StatePlan}
    (planned : state ∈ (ofDirectory directory).states) : state.selectors ≠ [] := by
  rcases (MethodTable.mem_states_iff.mp planned).1 with ⟨selector, listed, rfl⟩
  apply List.ne_nil_of_mem
  exact List.mem_filter.mpr ⟨listed, beq_iff_eq.mpr rfl⟩

/-- A state is readable when its getter is public. -/
theorem readable_iff {directory : Directory Object} {state : StatePlan}
    (planned : state ∈ (ofDirectory directory).states) :
    state.readable = true ↔ Naming.getter state.property ∈ directory.publicNames := by
  rcases (MethodTable.mem_states_iff.mp planned).1 with ⟨_, -, rfl⟩
  exact MethodTable.contains_ofDirectory

/-- The methods of a state are named after its property and its options. -/
theorem map_method_eq {directory : Directory Object} {state : StatePlan}
    (planned : state ∈ (ofDirectory directory).states) :
    state.selectors.map Selector.method =
      (state.selectors.map Selector.option).map (Naming.selector state.property) := by
  rw [List.map_map]
  exact List.map_congr_left fun _ member => method_eq_selector planned member

/-- The options of a state are selected by names that stand in the order of the directory. -/
theorem options_inOrder {directory : Directory Object} {state : StatePlan}
    (planned : state ∈ (ofDirectory directory).states) :
    directory.ListsInOrder
      ((state.selectors.map Selector.option).map (Naming.selector state.property)) := by
  rw [← map_method_eq planned]
  rcases (MethodTable.mem_states_iff.mp planned).1 with ⟨_, -, rfl⟩
  apply Directory.ListsInOrder.of_sublist
  apply (List.filter_sublist.map Selector.method).trans
  apply (MethodTable.map_method_selectors_sublist _ _).trans
  rw [MethodTable.names_ofDirectory]
  exact directory.publicNames_sublist

end RolePlan

end MethodRoles
