import MethodRoles.Proofs.Role.Family
import MethodRoles.Proofs.Role.Restoration

/-!
# The values of a classification are those of the object

A classification with a restorable object tells what the object answers at the start,
although its states are tried before its pairs are read (`Classifier.values_classified`).
A toggle has the state that its first telling query tells, a pair has the value of its
getter and of both bounds, and the options of a state have the codes that their
selectors write, the active one in front.  A value that cannot be read is unresolved
and spoils no other.
-/

namespace MethodRoles

open Probeable

namespace Directory

variable {Made : Type}

/-- A public query answers with a truth value, or with a number that is on unless it is zero. -/
inductive Tells (directory : Directory Made) (answers : Answers) (query : Text) : Bool → Prop where
  | bool {truth : Bool} (listed : query ∈ directory.publicNames)
      (answered : answers query = .ok (.bool truth)) : Tells directory answers query truth
  | int {number : Int} (listed : query ∈ directory.publicNames)
      (answered : answers query = .ok (.int number)) :
      Tells directory answers query (number != 0)

/-- The first query of a property that tells a state tells the given one. -/
def TellsFirst (directory : Directory Made) (answers : Answers) (property : Text)
    (truth : Bool) : Prop :=
  ∃ before query after, Naming.queries property = before ++ query :: after ∧
    directory.Tells answers query truth ∧
      ∀ earlier ∈ before, ∀ other, ¬ directory.Tells answers earlier other

/-- The getter of a property is public and answers with a whole number. -/
def StartsOn (directory : Directory Made) (answers : Answers) (property : Text)
    (code : Int) : Prop :=
  Naming.getter property ∈ directory.publicNames ∧
    answers (Naming.getter property) = .ok (.int code)

end Directory

namespace Classification

/-- The methods that select some options of a property. -/
def optionMethods (property : Text) (options : List StateOption) : List Text :=
  options.map fun option => Naming.selector property option.name

/-- Every value of a classification is one that answers and written codes tell. -/
structure HasValues {Made : Type} (classification : Classification)
    (directory : Directory Made) (answers : Answers) (code? : Text → Option Int) : Prop where
  /-- A toggle has the state that its first telling query tells. -/
  toggles : ∀ property default, (property, default) ∈ classification.toggles →
    (∀ truth, default = .known truth ↔ directory.TellsFirst answers property truth) ∧
      (default = .unresolved ↔
        ∀ query ∈ Naming.queries property, ∀ truth, ¬ directory.Tells answers query truth)
  /-- A pair has the value of its getter. -/
  pairs : ∀ property reading, (property, reading) ∈ classification.pairs →
    ∀ value, reading.default = .known value ↔ answers (Naming.getter property) = .ok value
  /-- Bounds are known when both of them are. -/
  bounds : ∀ property reading, (property, reading) ∈ classification.pairs →
    ∀ bounds, reading.bounds? = some bounds → ∀ least greatest,
      bounds = .known (least, greatest) ↔
        answers (Naming.getter (property ++ Naming.leastSuffix)) = .ok least ∧
          answers (Naming.getter (property ++ Naming.greatestSuffix)) = .ok greatest
  /-- The options of a state that starts on a code have the codes that are written. -/
  codes : ∀ property options, (property, options) ∈ classification.states →
    ∀ start, directory.StartsOn answers property start → ∀ option ∈ options, ∀ code,
      option.code = .known code ↔
        code? (Naming.selector property option.name) = some code
  /-- The earliest option with the code that the state starts on stands in front. -/
  active : ∀ property options, (property, options) ∈ classification.states →
    ∀ start, directory.StartsOn answers property start →
      ∃ first before after, options = first :: (before ++ after) ∧
        optionMethods property (before ++ first :: after) =
          directory.family classification.toggles.names property ∧
        first.code = .known start ∧ ∀ earlier ∈ before, earlier.code ≠ .known start
  /-- The options of any other state are unresolved, in the order of the directory. -/
  inactive : ∀ property options, (property, options) ∈ classification.states →
    (∀ start, ¬ directory.StartsOn answers property start) →
      optionMethods property options =
          directory.family classification.toggles.names property ∧
        ∀ option ∈ options, option.code = .unresolved

end Classification

/-! ## Toggles -/

theorem findSome?_filter {Item Found : Type} (keeps : Item → Bool) (found? : Item → Option Found)
    (items : List Item) :
    (items.filter keeps).findSome? found? =
      items.findSome? fun item => if keeps item then found? item else none := by
  induction items with
  | nil => rfl
  | cons item items induction =>
      rw [List.filter_cons, List.findSome?_cons]
      split
      · rw [List.findSome?_cons, induction]
      · exact induction

theorem Directory.tells_iff {Made : Type} {directory : Directory Made} {answers : Answers}
    {query : Text} {truth : Bool} :
    directory.Tells answers query truth ↔
      (if (MethodTable.ofDirectory directory).contains query then answers.truth? query
        else none) = some truth := by
  constructor
  · intro tells
    cases tells with
    | bool listed answered =>
        rw [if_pos (MethodTable.contains_ofDirectory.mpr listed), Answers.truth?, Answers.value,
          answered]
        rfl
    | int listed answered =>
        rw [if_pos (MethodTable.contains_ofDirectory.mpr listed), Answers.truth?, Answers.value,
          answered]
        rfl
  · intro told
    rw [Option.ite_none_right_eq_some] at told
    rcases told with ⟨listed, told⟩
    have held := MethodTable.contains_ofDirectory.mp listed
    rw [Answers.truth?, Answers.value] at told
    rcases answered : answers query with _ | value
    · simp [answered, Resolution.andThen, Resolution.known?] at told
    · rw [answered] at told
      cases value with
      | bool number =>
          cases told
          exact .bool held answered
      | int number =>
          cases told
          exact .int held answered
      | nothing | float | text | tuple | object => contradiction

namespace TogglePlan

variable {Made : Type} {directory : Directory Made} {answers : Answers} {toggle : TogglePlan}

theorem exists_of_mem_told {code? : Text → Option Int} {property : Text}
    {default : Resolution Bool}
    (member : (property, default) ∈
      ((RolePlan.ofDirectory directory).told answers code?).toggles) :
    ∃ toggle ∈ (RolePlan.ofDirectory directory).toggles,
      toggle.property = property ∧ answers.truth toggle.queries = default :=
  Keyed.exists_of_mem_ofList_zip (RolePlan.nodup_toggle_properties directory) member

theorem truth_eq (planned : toggle ∈ (RolePlan.ofDirectory directory).toggles) :
    answers.truth toggle.queries = .ofOption ((Naming.queries toggle.property).findSome?
      fun query => if (MethodTable.ofDirectory directory).contains query
        then answers.truth? query else none) := by
  rw [Answers.truth, RolePlan.queries_eq planned, findSome?_filter]

theorem truth_eq_known_iff (planned : toggle ∈ (RolePlan.ofDirectory directory).toggles)
    {truth : Bool} :
    answers.truth toggle.queries = .known truth ↔
      directory.TellsFirst answers toggle.property truth := by
  rw [truth_eq planned, Restorable.ofOption_eq_known_iff, List.findSome?_eq_some_iff,
    Directory.TellsFirst]
  simp only [Directory.tells_iff, Option.eq_none_iff_forall_ne_some, ne_eq]

theorem truth_eq_unresolved_iff (planned : toggle ∈ (RolePlan.ofDirectory directory).toggles) :
    answers.truth toggle.queries = .unresolved ↔
      ∀ query ∈ Naming.queries toggle.property, ∀ truth,
        ¬ directory.Tells answers query truth := by
  have unresolved {Content : Type} (option : Option Content) :
      Resolution.ofOption option = .unresolved ↔ option = none := by
    cases option <;> simp [Resolution.ofOption]
  rw [truth_eq planned, unresolved, List.findSome?_eq_none_iff]
  simp only [Directory.tells_iff, Option.eq_none_iff_forall_ne_some, ne_eq]

end TogglePlan

/-! ## Pairs -/

namespace Answers

variable {answers : Answers}

theorem value_eq_known_iff {getter : Text} {value : Value} :
    answers.value getter = .known value ↔ answers getter = .ok value := by
  rw [Answers.value]
  split <;> rename_i answered <;> simp [answered]

theorem bounds_eq_known_iff {property : Text} {least greatest : Value} :
    answers.bounds property = .known (least, greatest) ↔
      answers (Naming.getter (property ++ Naming.leastSuffix)) = .ok least ∧
        answers (Naming.getter (property ++ Naming.greatestSuffix)) = .ok greatest := by
  rw [← value_eq_known_iff, ← value_eq_known_iff, Answers.bounds]
  split
  case h_1 low high => simp [low, high]
  case h_2 unknown =>
    simp only [reduceCtorEq, false_iff]
    rintro ⟨low, high⟩
    exact unknown least greatest low high

end Answers

theorem PairPlan.exists_of_mem_told {Made : Type} {directory : Directory Made}
    {answers : Answers} {code? : Text → Option Int} {property : Text} {reading : PairReading}
    (member : (property, reading) ∈
      ((RolePlan.ofDirectory directory).told answers code?).pairs) :
    ∃ pair ∈ (RolePlan.ofDirectory directory).pairs,
      pair.property = property ∧ pair.told answers = reading :=
  Keyed.exists_of_mem_ofList_zip (RolePlan.nodup_pair_properties directory) member

/-! ## States -/

theorem Directory.StartsOn.code_eq {Made : Type} {directory : Directory Made} {answers : Answers}
    {property : Text} {code : Int} (starts : directory.StartsOn answers property code) :
    answers.code (Naming.getter property) = .known code := by
  rw [Answers.code, Answers.value, starts.2]
  rfl

namespace Probe

/-- With an active option, that option goes to the front and the others keep their order. -/
theorem activeFirst_eq {code : Int} {options : List (Selector × Resolution Int)}
    (exists_active : ∃ option ∈ options, option.2 = .known code) :
    ∃ first before after, activeFirst code options = first :: (before ++ after) ∧
      stateOptions options = before ++ first :: after ∧ first.code = .known code ∧
        ∀ earlier ∈ before, earlier.code ≠ .known code := by
  rcases split : splitActive? code options with _ | ⟨active, others⟩
  · rcases exists_active with ⟨option, member, known⟩
    exact absurd known (Probe.splitActive?_eq_none_iff.mp split option member)
  · rcases eq_of_splitActive? split with ⟨before, after, rfl, rfl, known, differ⟩
    refine ⟨⟨active.1.option, active.2⟩, stateOptions before, stateOptions after, ?_, ?_, known,
      ?_⟩
    · simp [activeFirst, split, stateOptions]
    · simp [stateOptions]
    · intro earlier member
      rcases List.mem_map.mp member with ⟨option, listed, rfl⟩
      exact differ option listed

end Probe

namespace StatePlan

variable {Made : Type} {directory : Directory Made} {answers : Answers}
  {code? : Text → Option Int} {state : StatePlan}

theorem exists_of_mem_told {property : Text} {options : List StateOption}
    (member : (property, options) ∈
      ((RolePlan.ofDirectory directory).told answers code?).states) :
    ∃ state ∈ (RolePlan.ofDirectory directory).states,
      state.property = property ∧ state.told answers code? = options :=
  Keyed.exists_of_mem_ofList_zip (RolePlan.nodup_state_properties directory) member

theorem optionMethods_eq_family (planned : state ∈ (RolePlan.ofDirectory directory).states)
    {options : List StateOption}
    (named : options.map StateOption.name = state.selectors.map Selector.option) :
    Classification.optionMethods state.property options =
      directory.family ((RolePlan.ofDirectory directory).toggles.map TogglePlan.property)
        state.property := by
  rw [← RolePlan.map_method_eq_family planned, RolePlan.map_method_eq planned, ← named,
    List.map_map]
  rfl

theorem map_name_codes :
    (Probe.stateOptions (state.codes code?)).map StateOption.name =
      state.selectors.map Selector.option := by
  simp [Probe.map_name_stateOptions, codes, Function.comp_def]

theorem code_eq_known_iff (planned : state ∈ (RolePlan.ofDirectory directory).states)
    {option : StateOption} (member : option ∈ Probe.stateOptions (state.codes code?))
    {code : Int} :
    option.code = .known code ↔
      code? (Naming.selector state.property option.name) = some code := by
  rcases List.mem_map.mp member with ⟨_, listed, rfl⟩
  rcases List.mem_map.mp listed with ⟨selector, selects, rfl⟩
  rw [← RolePlan.method_eq_selector planned selects]
  exact Restorable.ofOption_eq_known_iff

theorem told_of_start (planned : state ∈ (RolePlan.ofDirectory directory).states) {code : Int}
    (starts : directory.StartsOn answers state.property code) :
    state.told answers code? = activeFirst code (state.codes code?) := by
  rw [StatePlan.told, if_pos ((RolePlan.readable_iff planned).mpr starts.1), starts.code_eq]

end StatePlan

namespace Restorable

variable {Made Object : Type} [Probeable Object] {directory : Directory Made}
  {code? : Text → Option Int} {object : Object} {state : StatePlan}

theorem exists_active (restorable : Restorable directory code? object)
    (planned : state ∈ (RolePlan.ofDirectory directory).states) {code : Int}
    (starts : directory.StartsOn (answer object) state.property code) :
    ∃ option ∈ state.codes code?, option.2 = .known code := by
  rcases (restorable.starts_of_code planned starts.1 starts.code_eq).2 with
    ⟨selector, member, writes⟩
  exact ⟨_, List.mem_map_of_mem member, ofOption_eq_known_iff.mpr writes⟩

theorem told_of_no_start (restorable : Restorable directory code? object)
    (planned : state ∈ (RolePlan.ofDirectory directory).states)
    (never : ∀ code, ¬ directory.StartsOn (answer object) state.property code) :
    state.told (answer object) code? = Probe.unresolvedOptions state.selectors := by
  rw [StatePlan.told]
  split
  case isFalse => rfl
  case isTrue readable =>
    have listed := (RolePlan.readable_iff planned).mp readable
    split
    case h_1 code told =>
      exact absurd ⟨listed, (restorable.starts_of_code planned listed told).1⟩ (never code)
    case h_2 => rfl

theorem reads_told (restorable : Restorable directory code? object) :
    ((RolePlan.ofDirectory directory).told (answer object) code?).Reads
      (RolePlan.ofDirectory directory) := by
  rcases restorable.tells_readPlan object ⟨.start, rfl⟩ with ⟨after, told, -⟩
  have reads := Probe.readPlan_reads (RolePlan.ofDirectory directory) (some object)
  rw [told] at reads
  exact reads

/-- What the answers of a restorable object tell are values of the object itself. -/
theorem hasValues (restorable : Restorable directory code? object) :
    ((RolePlan.ofDirectory directory).told (answer object) code?).HasValues directory
      (answer object) code? := by
  have switched := restorable.reads_told.toggle_names_perm
  constructor
  case toggles =>
    intro property default member
    rcases TogglePlan.exists_of_mem_told member with ⟨plan, planned, rfl, rfl⟩
    constructor
    · intro truth
      exact TogglePlan.truth_eq_known_iff planned
    · exact TogglePlan.truth_eq_unresolved_iff planned
  case pairs =>
    intro property reading member value
    rcases PairPlan.exists_of_mem_told member with ⟨plan, -, rfl, rfl⟩
    exact Answers.value_eq_known_iff
  case bounds =>
    intro property reading member bounds present least greatest
    rcases PairPlan.exists_of_mem_told member with ⟨plan, -, rfl, rfl⟩
    rw [PairPlan.told, Option.ite_none_right_eq_some] at present
    cases present.2
    exact Answers.bounds_eq_known_iff
  case codes =>
    intro property options member start starts option listed code
    rcases StatePlan.exists_of_mem_told member with ⟨plan, planned, rfl, rfl⟩
    rw [StatePlan.told_of_start planned starts] at listed
    apply StatePlan.code_eq_known_iff planned
    rcases Probe.activeFirst_eq (restorable.exists_active planned starts) with
      ⟨first, before, after, front, whole, -, -⟩
    rw [front] at listed
    rw [whole]
    exact List.perm_middle.mem_iff.mpr listed
  case active =>
    intro property options member start starts
    rcases StatePlan.exists_of_mem_told member with ⟨plan, planned, rfl, rfl⟩
    rcases Probe.activeFirst_eq (restorable.exists_active planned starts) with
      ⟨first, before, after, front, whole, known, earlier⟩
    refine ⟨first, before, after, ?_, ?_, known, earlier⟩
    · rw [StatePlan.told_of_start planned starts, front]
    · rw [Directory.family_congr switched, ← whole]
      exact StatePlan.optionMethods_eq_family planned StatePlan.map_name_codes
  case inactive =>
    intro property options member never
    rcases StatePlan.exists_of_mem_told member with ⟨plan, planned, rfl, rfl⟩
    rw [restorable.told_of_no_start planned never]
    constructor
    · rw [Directory.family_congr switched]
      apply StatePlan.optionMethods_eq_family planned
      exact Probe.map_name_unresolvedOptions plan.selectors
    · intro option listed
      rcases List.mem_map.mp listed with ⟨selector, -, rfl⟩
      rfl

end Restorable

namespace Classifier

variable {Object : Type} [Probeable Object]

/-- Every value of a classification is the one that the object had at the start. -/
theorem values_classified (classifier : Classifier Object) {directory : Directory Object}
    {code? : Text → Option Int} {object : Object}
    (restorable : Restorable directory code? object) :
    (classifier.classifyObject directory object).1.last.HasValues directory (answer object)
      code? := by
  rw [(classifier.classifyObject_told restorable).1]
  exact restorable.hasValues

end Classifier

namespace ScriptedObject

/-- A panel that is lit, with a level between two bounds and with two modes. -/
def panelDirectory : Directory ScriptedObject where
  className := "Panel".toList
  entries :=
    [("LitOn".toList, some "V.LitOn()".toList), ("LitOff".toList, some "V.LitOff()".toList),
      ("IsLit".toList, some "V.IsLit() -> bool".toList),
      ("GetLevel".toList, some "V.GetLevel() -> int".toList),
      ("SetLevel".toList, some "V.SetLevel(int)".toList),
      ("GetLevelMinValue".toList, some "V.GetLevelMinValue() -> int".toList),
      ("GetLevelMaxValue".toList, some "V.GetLevelMaxValue() -> int".toList),
      ("SetModeToDim".toList, some "V.SetModeToDim()".toList),
      ("SetModeToBright".toList, some "V.SetModeToBright()".toList),
      ("GetMode".toList, some "V.GetMode() -> int".toList)]
  object? := none

/-- The codes that the modes of the panel write. -/
def panelCode? (method : Text) : Option Int :=
  [("SetModeToDim".toList, 0), ("SetModeToBright".toList, 1)].lookup method

/-- A bright panel that does not answer what its greatest level is. -/
def panel : ScriptedObject where
  className := "Panel".toList
  getters := [("IsLit".toList, [.value (.bool true)]), ("GetLevel".toList, [.value (.int 5)]),
    ("GetLevelMinValue".toList, [.value (.int 0)]), ("GetMode".toList, [.value (.int 1)])]
  setters :=
    [("SetModeToDim".toList, ⟨[("GetMode".toList, .value (.int 0))], none⟩),
      ("SetModeToBright".toList, ⟨[("GetMode".toList, .value (.int 1))], none⟩)]

theorem states_panelDirectory : (RolePlan.ofDirectory panelDirectory).states =
    [⟨"Mode".toList,
        [⟨"SetModeToDim".toList, "Mode".toList, "Dim".toList⟩,
          ⟨"SetModeToBright".toList, "Mode".toList, "Bright".toList⟩], true⟩] := by
  decide +kernel

theorem restorable_panel : Restorable panelDirectory panelCode? panel := by
  apply restorable
  · rw [Settled]
    decide
  · constructor
    · rw [states_panelDirectory]
      decide +kernel
    · have coded : ∀ state ∈ (RolePlan.ofDirectory panelDirectory).states,
          ∀ selector ∈ state.selectors, panelCode? selector.method ≠ none := by
        rw [states_panelDirectory]
        decide
      intro state planned selector member uncoded
      exact absurd uncoded (coded state planned selector member)
  · rw [states_panelDirectory]
    intro state planned
    cases List.mem_singleton.mp planned
    right
    refine ⟨⟨"SetModeToBright".toList, "Mode".toList, "Bright".toList⟩, ?_, 1, ?_, ?_⟩
    · decide
    · decide
    · decide

end ScriptedObject

namespace Classifier

open ScriptedObject

/-- The panel has a toggle, a pair with bounds and a state, and their values are its own. -/
theorem values_classified_panel :
    Restorable panelDirectory panelCode? panel ∧
      ((start ⟨true, []⟩ none).classifyObject panelDirectory panel).1.last.HasValues
        panelDirectory (answer panel) panelCode? ∧
      ((start ⟨true, []⟩ none).classifyObject panelDirectory panel).1.last =
        { className := "Panel".toList
          toggles := [("Lit".toList, .known true)]
          states := [("Mode".toList, [⟨"Bright".toList, .known 1⟩, ⟨"Dim".toList, .known 0⟩])]
          pairs := [("Level".toList, ⟨.known (.int 5), some .unresolved⟩)]
          getters := []
          others := ["IsLit".toList] } := by
  refine ⟨restorable_panel, ?_, ?_⟩
  · exact values_classified (start ⟨true, []⟩ none) restorable_panel
  · decide +kernel

end Classifier

end MethodRoles
