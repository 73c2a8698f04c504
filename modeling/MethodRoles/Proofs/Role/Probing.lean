import MethodRoles.Proofs.Role.Plan
import MethodRoles.Proofs.Text.Keyed
import MethodRoles.Role.Probing

/-!
# What a classification takes from its plan

Reading a plan fills in values and nothing else: whatever a probe answers, the
classification has the properties of the plan, bounds where the plan has them,
and the options of each state with at most one of them moved to the front
(`readPlan_reads`).

While the options of a state are read, one list holds the selectors and another the
options with their codes, and the option to put back is found by its place.  The proofs
keep each selector with its code in one list (`readOptions_eq`), so there is no place
to follow.
-/

namespace MethodRoles

/-- The second list is the first with at most one member moved to the front. -/
inductive MovedToFront {Item : Type} : (declared moved : List Item) → Prop where
  /-- Every member stays where it is. -/
  | none (declared : List Item) : MovedToFront declared declared
  /-- The member `active` goes to the front. -/
  | one (before : List Item) (active : Item) (after : List Item) :
      MovedToFront (before ++ active :: after) (active :: (before ++ after))

namespace MovedToFront

variable {Item Image : Type} {declared moved : List Item}

theorem perm (front : MovedToFront declared moved) : moved.Perm declared := by
  cases front with
  | none => exact List.Perm.refl _
  | one before active after => exact List.perm_middle.symm

theorem map (change : Item → Image) (front : MovedToFront declared moved) :
    MovedToFront (declared.map change) (moved.map change) := by
  cases front with
  | none => exact .none _
  | one before active after => simpa using .one _ _ _

end MovedToFront

/-- What every single reading satisfies, the readings of a list satisfy one by one. -/
theorem forall₂_readEach {Item Reading Source : Type} {read : Item → Source → Reading × Source}
    {relation : Item → Reading → Prop}
    (reads : ∀ item source, relation item (read item source).1) (items : List Item)
    (source : Source) : List.Forall₂ relation items (readEach read items source).1 := by
  induction items generalizing source with
  | nil => exact .nil
  | cons item items induction => exact .cons (reads item source) (induction _)

/-- Readings that differ in form alone are made on the same probes. -/
theorem readEach_eq_map {Item Reading Image Source : Type} {read : Item → Source → Reading × Source}
    {other : Item → Source → Image × Source} {image : Reading → Image}
    (same : ∀ item source,
      other item source = (image (read item source).1, (read item source).2))
    (items : List Item) (source : Source) :
    readEach other items source =
      ((readEach read items source).1.map image, (readEach read items source).2) := by
  induction items generalizing source with
  | nil => rfl
  | cons item items induction => simp only [readEach, same, induction, List.map_cons]

namespace Probe

variable {Object : Type} [Probeable Object]

/-- Select an option and read its code, if selecting it succeeds; the selector stays with it. -/
def readOption (getter : Text) (selector : Selector) (probe : Probe Object) :
    (Selector × Resolution Int) × Probe Object :=
  match probe.set selector.method with
  | (true, probe) =>
      match probe.readCode getter with
      | (code, probe) => ((selector, code), probe)
  | (false, probe) => ((selector, .unresolved), probe)

/-- The earliest option with a given code, and the other options. -/
def splitActive? (code : Int) :
    List (Selector × Resolution Int) →
      Option ((Selector × Resolution Int) × List (Selector × Resolution Int))
  | [] => none
  | option :: options =>
      if option.2 = .known code then
        some (option, options)
      else
        (splitActive? code options).map fun split => (split.1, option :: split.2)

/-- Options with their codes, without the methods that select them. -/
def stateOptions (options : List (Selector × Resolution Int)) : List StateOption :=
  options.map fun option => ⟨option.1.option, option.2⟩

/-- Put an object back on the option with the code that it had at the start. -/
def restore (code : Int) (options : List (Selector × Resolution Int))
    (probe : Probe Object) : List StateOption × Probe Object :=
  match splitActive? code options with
  | some (active, others) =>
      (stateOptions (active :: others), (probe.set active.1.method).2)
  | none => (stateOptions options, probe)

/-- Reading options loses none of their selectors. -/
theorem map_fst_readOptions (getter : Text) (selectors : List Selector) (probe : Probe Object) :
    (readEach (readOption getter) selectors probe).1.map Prod.fst = selectors := by
  have own (selector : Selector) (source : Probe Object) :
      selector = (readOption getter selector source).1.1 := by
    rw [readOption]
    split <;> rfl
  have same : List.Forall₂ (fun selector option => selector = option.1) selectors
      (readEach (readOption getter) selectors probe).1 := forall₂_readEach own selectors probe
  rw [← List.forall₂_map_right_iff (R := Eq), List.forall₂_eq_eq_eq] at same
  exact same.symm

/-- The active option is the earliest one with the code, and the others keep their order. -/
theorem eq_of_splitActive? {code : Int} {options others : List (Selector × Resolution Int)}
    {active : Selector × Resolution Int}
    (split : splitActive? code options = some (active, others)) :
    ∃ before after, options = before ++ active :: after ∧ others = before ++ after ∧
      active.2 = .known code ∧ ∀ option ∈ before, option.2 ≠ .known code := by
  induction options generalizing others with
  | nil => simp [splitActive?] at split
  | cons option options induction =>
      rw [splitActive?] at split
      split at split
      case isTrue here =>
        rcases Prod.mk.inj (Option.some.inj split) with ⟨rfl, rfl⟩
        exact ⟨[], options, rfl, rfl, here, by simp⟩
      case isFalse differs =>
        rcases Option.map_eq_some_iff.mp split with ⟨⟨found, later⟩, foundLater, equal⟩
        rcases Prod.mk.inj equal with ⟨rfl, rfl⟩
        rcases induction foundLater with ⟨before, after, rfl, rfl, known, earlier⟩
        refine ⟨option :: before, after, rfl, rfl, known, ?_⟩
        intro other member
        rcases List.mem_cons.mp member with rfl | member
        · exact differs
        · exact earlier other member

/-- No option is active exactly if none has the code. -/
theorem splitActive?_eq_none_iff {code : Int} {options : List (Selector × Resolution Int)} :
    splitActive? code options = none ↔ ∀ option ∈ options, option.2 ≠ .known code := by
  induction options with
  | nil => simp [splitActive?]
  | cons option options induction =>
      rw [splitActive?, List.forall_mem_cons]
      split
      case isTrue here => simp [here]
      case isFalse differs => rw [Option.map_eq_none_iff, induction, and_iff_right differs]

/-- The first option with the code is the active one. -/
theorem splitActive?_append {code : Int} {before after : List (Selector × Resolution Int)}
    {active : Selector × Resolution Int} (known : active.2 = .known code)
    (earlier : ∀ option ∈ before, option.2 ≠ .known code) :
    splitActive? code (before ++ active :: after) = some (active, before ++ after) := by
  induction before with
  | nil => rw [List.nil_append, splitActive?, if_pos known, List.nil_append]
  | cons option before induction =>
      rw [List.forall_mem_cons] at earlier
      rw [List.cons_append, splitActive?, if_neg earlier.1, induction earlier.2]
      rfl

theorem readEach_tryOption (getter : Text) (selectors : List Selector) (probe : Probe Object) :
    readEach (tryOption getter) selectors probe =
      (stateOptions (readEach (readOption getter) selectors probe).1,
        (readEach (readOption getter) selectors probe).2) := by
  have each (selector : Selector) (source : Probe Object) : tryOption getter selector source =
      (⟨(readOption getter selector source).1.1.option, (readOption getter selector source).1.2⟩,
        (readOption getter selector source).2) := by
    rw [tryOption, readOption]
    rcases source.set selector.method with ⟨_ | _, after⟩ <;> rfl
  rw [stateOptions]
  exact readEach_eq_map each selectors probe

/-- The option that is put back is found at the place of its selector. -/
theorem putBack_eq_restore (code : Int) (options : List (Selector × Resolution Int))
    (probe : Probe Object) :
    putBack code (options.map Prod.fst) (stateOptions options) probe =
      restore code options probe := by
  have missing {others : List (Selector × Resolution Int)}
      (differ : ∀ option ∈ others, option.2 ≠ .known code) :
      (stateOptions others).findIdx? (fun option => option.code == .known code) = none := by
    simpa [stateOptions] using differ
  rw [putBack, restore]
  cases split : splitActive? code options with
  | none => rw [missing (splitActive?_eq_none_iff.mp split)]
  | some found =>
      rcases found with ⟨active, others⟩
      rcases eq_of_splitActive? split with ⟨before, after, rfl, rfl, known, earlier⟩
      have place : (stateOptions (before ++ active :: after)).findIdx?
          (fun option => option.code == .known code) = some before.length := by
        rw [stateOptions, List.map_append, List.findIdx?_append, ← stateOptions, missing earlier]
        simp [stateOptions, List.findIdx?_cons, known]
      rw [place]
      simp [stateOptions, List.eraseIdx_append_of_length_le]

/-- Options that are read by their places are read as selectors with their codes. -/
theorem readOptions_eq (getter : Text) (selectors : List Selector) (probe : Probe Object) :
    readOptions getter selectors probe =
      match probe.readCode getter with
      | (.unresolved, probe) => (unresolvedOptions selectors, probe)
      | (.known code, probe) =>
          match readEach (readOption getter) selectors probe with
          | (options, probe) => probe.restore code options := by
  cases probe with
  | none => rfl
  | some object =>
      rw [readOptions, Option.isNone_some, if_neg Bool.false_ne_true]
      rcases readCode getter (some object) with ⟨code | _, probe⟩
      · have put := putBack_eq_restore code (readEach (readOption getter) selectors probe).1
          (readEach (readOption getter) selectors probe).2
        rw [map_fst_readOptions] at put
        simp only [readEach_tryOption]
        exact put
      · rfl

theorem restore_movedToFront (code : Int) (options : List (Selector × Resolution Int))
    (probe : Probe Object) :
    MovedToFront (stateOptions options) (probe.restore code options).1 := by
  rw [restore]
  split
  · rename_i active others split
    rcases eq_of_splitActive? split with ⟨before, after, rfl, rfl, -, -⟩
    exact (MovedToFront.one before active after).map _
  · exact .none _

theorem map_name_stateOptions (options : List (Selector × Resolution Int)) :
    (stateOptions options).map StateOption.name =
      (options.map Prod.fst).map Selector.option := by
  simp [stateOptions, Function.comp_def]

theorem map_name_unresolvedOptions (selectors : List Selector) :
    (unresolvedOptions selectors).map StateOption.name = selectors.map Selector.option := by
  simp [unresolvedOptions, Function.comp_def]

/-- Reading a state lists its options, at most one of them moved to the front. -/
theorem readState_movedToFront (state : StatePlan) (probe : Probe Object) :
    MovedToFront (state.selectors.map Selector.option)
      ((readState state probe).1.map StateOption.name) := by
  rw [readState]
  split
  · rw [readOptions_eq]
    split
    · rw [map_name_unresolvedOptions]
      exact .none _
    · rename_i code probe _
      have listed :=
        map_fst_readOptions (Naming.getter state.property) state.selectors probe
      rw [← listed, ← map_name_stateOptions, listed]
      exact (restore_movedToFront code _ _).map StateOption.name
  · rw [map_name_unresolvedOptions]
    exact .none _

theorem bounds?_isSome_readPair (pair : PairPlan) (probe : Probe Object) :
    (readPair pair probe).1.bounds?.isSome = pair.bounded := by
  rcases hasBounds : pair.bounded with _ | _ <;> simp [readPair, hasBounds]

end Probe

/-- A classification takes from a plan everything but the values that were read. -/
structure Classification.Reads (classification : Classification) (plan : RolePlan) : Prop where
  /-- The toggles are those of the plan. -/
  toggles : Keyed.Related (fun _ _ => True)
    (Keyed.ofList (plan.toggles.map fun toggle => (toggle.property, toggle)))
    classification.toggles
  /-- The states are those of the plan, with the options that their selectors select. -/
  states : Keyed.Related
    (fun state options =>
      MovedToFront (state.selectors.map Selector.option) (options.map StateOption.name))
    (Keyed.ofList (plan.states.map fun state => (state.property, state)))
    classification.states
  /-- The pairs are those of the plan, with bounds where it has them. -/
  pairs : Keyed.Related (fun pair reading => reading.bounds?.isSome = pair.bounded)
    (Keyed.ofList (plan.pairs.map fun pair => (pair.property, pair)))
    classification.pairs
  /-- The getters are those of the plan. -/
  getters : classification.getters = plan.getters
  /-- The other methods are those of the plan. -/
  others : classification.others = plan.others

/-- Whatever a probe answers, reading a plan gives a classification of that plan. -/
theorem Probe.readPlan_reads {Object : Type} [Probeable Object] (plan : RolePlan)
    (probe : Probe Object) : (probe.readPlan plan).1.Reads plan where
  toggles := (Keyed.Related.of_forall₂ (forall₂_readEach (fun _ _ => trivial) _ _)).ofList
  states := (Keyed.Related.of_forall₂ (forall₂_readEach readState_movedToFront _ _)).ofList
  pairs := (Keyed.Related.of_forall₂ (forall₂_readEach bounds?_isSome_readPair _ _)).ofList
  getters := rfl
  others := rfl

end MethodRoles
