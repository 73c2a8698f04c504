import MethodRoles.Proofs.Probe.Answers
import MethodRoles.Proofs.Role.Probing

/-!
# What the answers of an object tell

An object is restorable for a directory when its getters answer the same until
they are written, each selector of a state either writes its code to the getter
of the state or fails and writes nothing, and each state starts on a code that
one of its selectors writes, if it starts on a code at all.

From a restorable object the readings of a plan are a function of the answers
that the object has at the start and of the codes that its selectors write
(`Restorable.tells_readPlan`), and the reading leaves it with the answers that it had.
-/

namespace MethodRoles

namespace Directory

variable {Made : Type}

/-- Whether a method selects an option of some state of a directory. -/
def Selects (directory : Directory Made) (method : Text) : Prop :=
  ∃ state ∈ (RolePlan.ofDirectory directory).states,
    ∃ selector ∈ state.selectors, selector.method = method

end Directory

open Probeable

/-- An object on which the states of a directory can be tried and put back. -/
structure Restorable {Made Object : Type} [Probeable Object] (directory : Directory Made)
    (code? : Text → Option Int) (object : Object) : Prop where
  /-- Calling a getter changes no answer. -/
  steady : ∀ reached, Reaches directory.Selects object reached →
    ∀ getter, answer (Probeable.get getter reached).2 = answer reached
  /-- A selector with a code writes that code to the getter of its state and nothing else. -/
  written : ∀ reached, Reaches directory.Selects object reached →
    ∀ state ∈ (RolePlan.ofDirectory directory).states, ∀ selector ∈ state.selectors,
      ∀ code, code? selector.method = some code →
        (Probeable.set selector.method reached).1 = .ok () ∧
          answer (Probeable.set selector.method reached).2 =
            Function.update (answer reached) (Naming.getter state.property) (.ok (.int code))
  /-- A selector without a code fails and writes nothing. -/
  refused : ∀ reached, Reaches directory.Selects object reached →
    ∀ state ∈ (RolePlan.ofDirectory directory).states, ∀ selector ∈ state.selectors,
      code? selector.method = none →
        (∃ error, (Probeable.set selector.method reached).1 = .error error) ∧
          answer (Probeable.set selector.method reached).2 = answer reached
  /-- A state with a public getter starts on no number, or on the code of one of its selectors. -/
  start : ∀ state ∈ (RolePlan.ofDirectory directory).states,
    Naming.getter state.property ∈ directory.publicNames →
      (∀ value, answer object (Naming.getter state.property) = .ok value →
        (∀ number, value ≠ .int number) ∧ ∀ truth, value ≠ .bool truth) ∨
      ∃ selector ∈ state.selectors, ∃ code, code? selector.method = some code ∧
        answer object (Naming.getter state.property) = .ok (.int code)

/-! ## Readings of a table of answers -/

namespace Answers

/-- The state of a toggle that a query tells. -/
def truth? (answers : Answers) (query : Text) : Option Bool :=
  ((answers.value query).andThen Value.asToggle?).known?

/-- The state of a toggle that the first telling query tells. -/
def truth (answers : Answers) (queries : List Text) : Resolution Bool :=
  .ofOption (queries.findSome? answers.truth?)

/-- The whole number that a getter returns. -/
def code (answers : Answers) (getter : Text) : Resolution Int :=
  (answers.value getter).andThen Value.asInt?

/-- The bounds of a property. -/
def bounds (answers : Answers) (property : Text) : Resolution (Value × Value) :=
  match answers.value (Naming.getter (property ++ Naming.leastSuffix)),
    answers.value (Naming.getter (property ++ Naming.greatestSuffix)) with
  | .known least, .known greatest => .known (least, greatest)
  | _, _ => .unresolved

end Answers

/-- The codes of the options of a state, by what their selectors write. -/
def StatePlan.codes (code? : Text → Option Int) (state : StatePlan) :
    List (Selector × Resolution Int) :=
  state.selectors.map fun selector => (selector, .ofOption (code? selector.method))

/-- Options with the earliest one that has a given code in front. -/
def activeFirst (code : Int) (options : List (Selector × Resolution Int)) : List StateOption :=
  match Probe.splitActive? code options with
  | some (active, others) => Probe.stateOptions (active :: others)
  | none => Probe.stateOptions options

/-- The options of a state, as answers and written codes tell them. -/
def StatePlan.told (answers : Answers) (code? : Text → Option Int) (state : StatePlan) :
    List StateOption :=
  if state.readable then
    match answers.code (Naming.getter state.property) with
    | .known code => activeFirst code (state.codes code?)
    | .unresolved => Probe.unresolvedOptions state.selectors
  else
    Probe.unresolvedOptions state.selectors

/-- The reading of a pair, as answers tell it. -/
def PairPlan.told (answers : Answers) (pair : PairPlan) : PairReading :=
  ⟨answers.value (Naming.getter pair.property),
    if pair.bounded then some (answers.bounds pair.property) else none⟩

/-- The classification of a plan, as answers and written codes tell it. -/
def RolePlan.told (answers : Answers) (code? : Text → Option Int) (plan : RolePlan) :
    Classification where
  className := plan.className
  toggles := .ofList ((plan.toggles.map TogglePlan.property).zip
    (plan.toggles.map fun toggle => answers.truth toggle.queries))
  states := .ofList ((plan.states.map StatePlan.property).zip
    (plan.states.map (StatePlan.told answers code?)))
  pairs := .ofList ((plan.pairs.map PairPlan.property).zip
    (plan.pairs.map (PairPlan.told answers)))
  getters := plan.getters
  others := plan.others

/-! ## Readings of an object -/

/--
From every state of an object that satisfies an invariant a reading gives the same
result, and it leads to such a state again.
-/
def Probe.Tells {Object Reading : Type} (invariant : Object → Prop)
    (read : Probe Object → Reading × Probe Object) (told : Reading) : Prop :=
  ∀ reached, invariant reached →
    ∃ after, read (some reached) = (told, some after) ∧ invariant after

/-- Readings that tell the same each, one after the other tell it of a whole list. -/
theorem Probe.Tells.readEach {Object Item Reading : Type} {invariant : Object → Prop}
    {read : Item → Probe Object → Reading × Probe Object} {told : Item → Reading}
    {items : List Item} (each : ∀ item ∈ items, Tells invariant (read item) (told item)) :
    Tells invariant (readEach read items) (items.map told) := by
  induction items with
  | nil =>
      intro reached holds
      exact ⟨reached, rfl, holds⟩
  | cons item items induction =>
      intro reached holds
      rcases each item List.mem_cons_self reached holds with ⟨between, first, kept⟩
      rcases induction (fun other member => each other (List.mem_cons_of_mem _ member))
          between kept with ⟨after, others, keptAfter⟩
      refine ⟨after, ?_, keptAfter⟩
      rw [MethodRoles.readEach, first]
      simp only [others, List.map_cons]

section Restorable

variable {Made Object : Type} [Probeable Object]
variable {directory : Directory Made} {code? : Text → Option Int} {object : Object}

/-- A state of an object in which it answers as it did at the start. -/
structure AtRest (directory : Directory Made) (object reached : Object) : Prop where
  /-- Getters and selectors lead to the state. -/
  path : Reaches directory.Selects object reached
  /-- Every getter answers as at the start. -/
  same : answer reached = answer object

/-- A state of an object in which one getter at most answers otherwise than at the start. -/
structure AtRestBut (directory : Directory Made) (object : Object) (getter : Text)
    (reached : Object) : Prop where
  /-- Getters and selectors lead to the state. -/
  path : Reaches directory.Selects object reached
  /-- The other getters answer as at the start. -/
  same : ∀ other, other ≠ getter → answer reached other = answer object other

theorem AtRest.atRestBut {reached : Object} (rest : AtRest directory object reached)
    (getter : Text) : AtRestBut directory object getter reached :=
  ⟨rest.path, fun other _ => congrFun rest.same other⟩

namespace Restorable

theorem tells_get (restorable : Restorable directory code? object) (getter : Text) :
    Probe.Tells (AtRest directory object) (Probe.get getter) ((answer object).value getter) := by
  intro reached rest
  refine ⟨(Probeable.get getter reached).2, ?_, rest.path.get getter, ?_⟩
  · rw [Probe.get_some, rest.same]
  · rw [restorable.steady reached rest.path getter, rest.same]

theorem tells_readToggle (restorable : Restorable directory code? object)
    (queries : List Text) :
    Probe.Tells (AtRest directory object) (Probe.readToggle queries)
      ((answer object).truth queries) := by
  induction queries with
  | nil =>
      intro reached rest
      exact ⟨reached, rfl, rest⟩
  | cons query queries induction =>
      intro reached rest
      rcases restorable.tells_get query reached rest with ⟨between, asked, restBetween⟩
      rcases induction between restBetween with ⟨after, others, restAfter⟩
      rw [Probe.readToggle, asked, Answers.truth, List.findSome?_cons, Answers.truth?]
      rcases told : ((answer object).value query).andThen Value.asToggle? with truth | _
      · exact ⟨between, by simp [told, Resolution.known?, Resolution.ofOption], restBetween⟩
      · refine ⟨after, ?_, restAfter⟩
        simpa [told, Resolution.known?, Answers.truth] using others

theorem tells_readBounds (restorable : Restorable directory code? object) (property : Text) :
    Probe.Tells (AtRest directory object) (Probe.readBounds property)
      ((answer object).bounds property) := by
  intro reached rest
  rcases restorable.tells_get (Naming.getter (property ++ Naming.leastSuffix)) reached rest with
    ⟨between, least, restBetween⟩
  rcases restorable.tells_get (Naming.getter (property ++ Naming.greatestSuffix)) between
    restBetween with ⟨after, greatest, restAfter⟩
  refine ⟨after, ?_, restAfter⟩
  rw [Probe.readBounds, least]
  simp only [greatest, Answers.bounds]
  rcases (answer object).value (Naming.getter (property ++ Naming.leastSuffix)) with low | _ <;>
    rcases (answer object).value (Naming.getter (property ++ Naming.greatestSuffix)) with
      high | _ <;> rfl

theorem tells_readPair (restorable : Restorable directory code? object) (pair : PairPlan) :
    Probe.Tells (AtRest directory object) (Probe.readPair pair)
      (pair.told (answer object)) := by
  intro reached rest
  rcases restorable.tells_get (Naming.getter pair.property) reached rest with
    ⟨between, default, restBetween⟩
  rcases restorable.tells_readBounds pair.property between restBetween with
    ⟨after, bounds, restAfter⟩
  rw [Probe.readPair, default, PairPlan.told]
  rcases bounded : pair.bounded with _ | _
  · exact ⟨between, by simp, restBetween⟩
  · exact ⟨after, by simp [bounds], restAfter⟩

/-- Trying an option reads the code that its selector writes, if it writes one. -/
theorem tells_readOption (restorable : Restorable directory code? object) {state : StatePlan}
    (planned : state ∈ (RolePlan.ofDirectory directory).states) {selector : Selector}
    (member : selector ∈ state.selectors) :
    Probe.Tells (AtRestBut directory object (Naming.getter state.property))
      (Probe.readOption (Naming.getter state.property) selector)
      (selector, .ofOption (code? selector.method)) := by
  intro reached rest
  have selects : directory.Selects selector.method := ⟨state, planned, selector, member, rfl⟩
  have selected := rest.path.set selects
  rcases code : code? selector.method with _ | number
  · rcases restorable.refused reached rest.path state planned selector member code with
      ⟨⟨error, fails⟩, unchanged⟩
    refine ⟨(Probeable.set selector.method reached).2, ?_, selected, ?_⟩
    · rw [Probe.readOption, Probe.set_some_of_error fails]
      rfl
    · rw [unchanged]
      exact rest.same
  · rcases restorable.written reached rest.path state planned selector member number code with
      ⟨succeeds, changed⟩
    refine ⟨(Probeable.get (Naming.getter state.property)
      (Probeable.set selector.method reached).2).2, ?_, selected.get _, ?_⟩
    · rw [Probe.readOption, Probe.set_some_of_ok succeeds]
      simp only [Probe.readCode, Probe.get_some, changed, Answers.value, Function.update_self]
      rfl
    · intro other differs
      rw [restorable.steady _ selected, changed, Function.update_of_ne differs]
      exact rest.same other differs

theorem ofOption_eq_known_iff {Content : Type} {option : Option Content} {content : Content} :
    Resolution.ofOption option = .known content ↔ option = some content := by
  cases option <;> simp [Resolution.ofOption]

/-- Selecting the option with the starting code puts an object back. -/
theorem tells_restore (restorable : Restorable directory code? object) {state : StatePlan}
    (planned : state ∈ (RolePlan.ofDirectory directory).states) {code : Int}
    (starts : answer object (Naming.getter state.property) = .ok (.int code))
    (selectable : ∃ selector ∈ state.selectors, code? selector.method = some code)
    {reached : Object}
    (rest : AtRestBut directory object (Naming.getter state.property) reached) :
    ∃ after, Probe.restore code (state.codes code?) (some reached) =
      (activeFirst code (state.codes code?), some after) ∧ AtRest directory object after := by
  rcases split : Probe.splitActive? code (state.codes code?) with _ | ⟨active, others⟩
  -- Some option has the starting code, so one of them is found to be active.
  · rcases selectable with ⟨selector, member, writes⟩
    refine absurd ?_ (Probe.splitActive?_eq_none_iff.mp split
      (selector, .ofOption (code? selector.method)) (List.mem_map_of_mem member))
    exact ofOption_eq_known_iff.mpr writes
  · rcases Probe.eq_of_splitActive? split with ⟨before, later, whole, -, known, -⟩
    have listed : active ∈ state.codes code? := by
      rw [whole]
      exact List.mem_append_right _ List.mem_cons_self
    rcases List.mem_map.mp listed with ⟨selector, member, rfl⟩
    have writes := ofOption_eq_known_iff.mp known
    rcases restorable.written reached rest.path state planned selector member code writes with
      ⟨succeeds, changed⟩
    refine ⟨(Probeable.set selector.method reached).2, ?_, ?_, ?_⟩
    · simp only [Probe.restore, activeFirst, split, Probe.set_some_of_ok succeeds]
    · exact rest.path.set ⟨state, planned, selector, member, rfl⟩
    -- Trying the options changed one getter alone, and that one has its code again.
    · rw [changed]
      funext other
      by_cases own : other = Naming.getter state.property
      · rw [own, Function.update_self, starts]
      · rw [Function.update_of_ne own, rest.same other own]

theorem tells_readCode (restorable : Restorable directory code? object) (getter : Text) :
    Probe.Tells (AtRest directory object) (Probe.readCode getter)
      ((answer object).code getter) := by
  intro reached rest
  rcases restorable.tells_get getter reached rest with ⟨after, asked, restAfter⟩
  exact ⟨after, by rw [Probe.readCode, asked]; rfl, restAfter⟩

/-- A state that starts on a readable code starts on the code of one of its selectors. -/
theorem starts_of_code (restorable : Restorable directory code? object) {state : StatePlan}
    (planned : state ∈ (RolePlan.ofDirectory directory).states)
    (listed : Naming.getter state.property ∈ directory.publicNames) {code : Int}
    (told : (answer object).code (Naming.getter state.property) = .known code) :
    answer object (Naming.getter state.property) = .ok (.int code) ∧
      ∃ selector ∈ state.selectors, code? selector.method = some code := by
  rw [Answers.code, Answers.value] at told
  rcases restorable.start state planned listed with
    unreadable | ⟨selector, member, number, writes, starts⟩
  · rcases answered : answer object (Naming.getter state.property) with _ | value
    · simp [answered, Resolution.andThen] at told
    · rcases unreadable value answered with ⟨noNumber, noTruth⟩
      cases value <;> simp_all [Resolution.andThen, Value.asInt?, Resolution.ofOption]
  · simp only [starts, Resolution.andThen, Value.asInt?, Resolution.ofOption,
      Resolution.known.injEq] at told
    subst told
    exact ⟨starts, selector, member, writes⟩

/-- Reading a state tells its options with their codes and puts the object back. -/
theorem tells_readState (restorable : Restorable directory code? object) {state : StatePlan}
    (planned : state ∈ (RolePlan.ofDirectory directory).states) :
    Probe.Tells (AtRest directory object) (Probe.readState state)
      (state.told (answer object) code?) := by
  intro reached rest
  rw [Probe.readState, StatePlan.told]
  split
  case isFalse => exact ⟨reached, rfl, rest⟩
  case isTrue readable =>
    rcases restorable.tells_readCode (Naming.getter state.property) reached rest with
      ⟨between, asked, restBetween⟩
    rw [Probe.readOptions_eq, asked]
    rcases told : (answer object).code (Naming.getter state.property) with code | _
    · have listed := (RolePlan.readable_iff planned).mp readable
      rcases restorable.starts_of_code planned listed told with ⟨starts, selectable⟩
      have tries := Probe.Tells.readEach fun _ member =>
        restorable.tells_readOption planned member
      rcases tries between (restBetween.atRestBut _) with ⟨tried, options, restTried⟩
      rcases restorable.tells_restore planned starts selectable restTried with
        ⟨after, restored, restAfter⟩
      refine ⟨after, ?_, restAfter⟩
      simp only [options]
      exact restored
    · exact ⟨between, rfl, restBetween⟩

/-- Reading a plan tells what the answers at the start tell, and puts the object back. -/
theorem tells_readPlan (restorable : Restorable directory code? object) :
    Probe.Tells (AtRest directory object) (Probe.readPlan (RolePlan.ofDirectory directory))
      ((RolePlan.ofDirectory directory).told (answer object) code?) := by
  intro reached rest
  have toggles := Probe.Tells.readEach
    fun (toggle : TogglePlan) (_ : toggle ∈ (RolePlan.ofDirectory directory).toggles) =>
      restorable.tells_readToggle toggle.queries
  have states := Probe.Tells.readEach fun _ planned => restorable.tells_readState planned
  have pairs := Probe.Tells.readEach
    fun (pair : PairPlan) (_ : pair ∈ (RolePlan.ofDirectory directory).pairs) =>
      restorable.tells_readPair pair
  rcases toggles reached rest with ⟨afterToggles, toldToggles, restToggles⟩
  rcases states afterToggles restToggles with ⟨afterStates, toldStates, restStates⟩
  rcases pairs afterStates restStates with ⟨after, toldPairs, restAfter⟩
  refine ⟨after, ?_, restAfter⟩
  rw [Probe.readPlan]
  simp only [toldToggles, toldStates, toldPairs]
  rfl

/-- An object that was put back can be tried again, with the same codes. -/
theorem of_atRest (restorable : Restorable directory code? object) {reached : Object}
    (rest : AtRest directory object reached) : Restorable directory code? reached where
  steady later path := restorable.steady later (rest.path.trans path)
  written later path := restorable.written later (rest.path.trans path)
  refused later path := restorable.refused later (rest.path.trans path)
  start := by
    rw [rest.same]
    exact restorable.start

end Restorable

end Restorable

end MethodRoles
