import MethodRoles.Classifier
import MethodRoles.Proofs.Probe.Scripted
import MethodRoles.Proofs.Role.Sorting
import MethodRoles.Proofs.Role.Told

/-!
# Objects are put back after they were tried

Classifying a class with the values of a restorable object leaves every answer of
the object as it was, and classifying it once more gives the same result
(`Classifier.classifyObject_restores`).  Scripted objects whose selectors write one
code or fail are restorable (`ScriptedObject.restorable`).
-/

namespace MethodRoles

open Probeable

variable {Object : Type} [Probeable Object]

/-- Recording the calls on an object takes nothing from it. -/
theorem Restorable.recorded {Made : Type} {directory : Directory Made}
    {code? : Text → Option Int} {recorded : Recorded Object}
    (restorable : Restorable directory code? recorded.object) :
    Restorable directory code? recorded where
  steady reached path := restorable.steady reached.object path.object
  written reached path := restorable.written reached.object path.object
  refused reached path := restorable.refused reached.object path.object
  start := restorable.start

namespace ScriptedObject

variable {Made : Type} {directory : Directory Made} {code? : Text → Option Int}

/-- The setters of a scripted object whose selectors write one code each or fail. -/
structure SelectsCodes (directory : Directory Made) (code? : Text → Option Int)
    (setters : List (Text × Effect)) : Prop where
  /-- A selector with a code writes it to the getter of its state. -/
  writes : ∀ state ∈ (RolePlan.ofDirectory directory).states, ∀ selector ∈ state.selectors,
    ∀ code, code? selector.method = some code →
      setters.lookup selector.method =
        some ⟨[(Naming.getter state.property, .value (.int code))], none⟩
  /-- A selector without a code fails. -/
  fails : ∀ state ∈ (RolePlan.ofDirectory directory).states, ∀ selector ∈ state.selectors,
    code? selector.method = none →
      setters.lookup selector.method = none ∨
        ∃ fault, setters.lookup selector.method = some ⟨[], some fault⟩

theorem set_of_code {object : ScriptedObject}
    (selects : SelectsCodes directory code? object.setters) {state : StatePlan}
    (planned : state ∈ (RolePlan.ofDirectory directory).states) {selector : Selector}
    (member : selector ∈ state.selectors) {code : Int}
    (writes : code? selector.method = some code) :
    Probeable.set selector.method object =
      (.ok (), object.write [(Naming.getter state.property, .value (.int code))]) := by
  change ScriptedObject.set selector.method object = _
  simp only [ScriptedObject.set, selects.writes state planned selector member code writes]

theorem set_of_no_code {object : ScriptedObject}
    (selects : SelectsCodes directory code? object.setters) {state : StatePlan}
    (planned : state ∈ (RolePlan.ofDirectory directory).states) {selector : Selector}
    (member : selector ∈ state.selectors) (fails : code? selector.method = none) :
    ∃ error, Probeable.set selector.method object = (.error error, object) := by
  change ∃ error, ScriptedObject.set selector.method object = _
  rcases selects.fails state planned selector member fails with missing | ⟨fault, found⟩
  · exact ⟨_, by simp only [ScriptedObject.set, missing]; rfl⟩
  · exact ⟨_, by simp only [ScriptedObject.set, found]; rfl⟩

/-- Getters and selectors keep a settled object settled and its setters as they are. -/
theorem settled_of_reaches {start reached : ScriptedObject} (settled : start.Settled)
    (selects : SelectsCodes directory code? start.setters)
    (path : Reaches directory.Selects start reached) :
    reached.Settled ∧ reached.setters = start.setters := by
  induction path with
  | start => exact ⟨settled, rfl⟩
  | get _ getter induction => rwa [get_of_settled induction.1]
  | set _ allowed induction =>
      rcases allowed with ⟨state, planned, selector, member, rfl⟩
      have selectsNow := induction.2 ▸ selects
      rcases code : code? selector.method with _ | number
      · rcases set_of_no_code selectsNow planned member code with ⟨error, failed⟩
        rwa [failed]
      · rw [set_of_code selectsNow planned member code]
        exact ⟨settled_write induction.1 _, induction.2⟩

/-- A settled object whose selectors write one code or fail is restorable. -/
theorem restorable {object : ScriptedObject} (settled : object.Settled)
    (selects : SelectsCodes directory code? object.setters)
    (starts : ∀ state ∈ (RolePlan.ofDirectory directory).states,
      (∀ value, answer object (Naming.getter state.property) = .ok value →
        (∀ number, value ≠ .int number) ∧ ∀ truth, value ≠ .bool truth) ∨
      ∃ selector ∈ state.selectors, ∃ code, code? selector.method = some code ∧
        answer object (Naming.getter state.property) = .ok (.int code)) :
    Restorable directory code? object where
  steady reached path getter := by
    rw [get_of_settled (settled_of_reaches settled selects path).1]
  written reached path state planned selector member code writes := by
    have same := (settled_of_reaches settled selects path).2
    rw [set_of_code (same ▸ selects) planned member writes]
    exact ⟨rfl, answer_write reached _ _⟩
  refused reached path state planned selector member fails := by
    have same := (settled_of_reaches settled selects path).2
    rcases set_of_no_code (same ▸ selects) planned member fails with ⟨error, failed⟩
    rw [failed]
    exact ⟨⟨error, rfl⟩, rfl⟩
  start state planned _ := starts state planned

/-- A lamp whose modes write codes, two of them the same, and whose colors are texts. -/
def lampDirectory : Directory ScriptedObject where
  className := "Lamp".toList
  entries :=
    [("SetModeToDim".toList, some "V.SetModeToDim()".toList),
      ("SetModeToBlink".toList, some "V.SetModeToBlink()".toList),
      ("SetModeToBright".toList, some "V.SetModeToBright()".toList),
      ("SetModeToFull".toList, some "V.SetModeToFull()".toList),
      ("GetMode".toList, some "V.GetMode() -> int".toList),
      ("SetColorToRed".toList, some "V.SetColorToRed()".toList),
      ("SetColorToBlue".toList, some "V.SetColorToBlue()".toList),
      ("GetColor".toList, some "V.GetColor() -> string".toList)]
  object? := none

/-- The codes that the modes of the lamp write. -/
def lampCode? (method : Text) : Option Int :=
  [("SetModeToDim".toList, 0), ("SetModeToBright".toList, 1),
    ("SetModeToFull".toList, 1)].lookup method

/-- A lamp that is bright and red; it cannot blink, and its color cannot be changed. -/
def lamp : ScriptedObject where
  className := "Lamp".toList
  getters := [("GetMode".toList, [.value (.int 1)]),
    ("GetColor".toList, [.value (.text "red".toList)])]
  setters :=
    [("SetModeToDim".toList, ⟨[("GetMode".toList, .value (.int 0))], none⟩),
      ("SetModeToBlink".toList, ⟨[], some (.native "no".toList)⟩),
      ("SetModeToBright".toList, ⟨[("GetMode".toList, .value (.int 1))], none⟩),
      ("SetModeToFull".toList, ⟨[("GetMode".toList, .value (.int 1))], none⟩)]

theorem states_lampDirectory : (RolePlan.ofDirectory lampDirectory).states =
    [⟨"Mode".toList,
        [⟨"SetModeToDim".toList, "Mode".toList, "Dim".toList⟩,
          ⟨"SetModeToBlink".toList, "Mode".toList, "Blink".toList⟩,
          ⟨"SetModeToBright".toList, "Mode".toList, "Bright".toList⟩,
          ⟨"SetModeToFull".toList, "Mode".toList, "Full".toList⟩], true⟩,
      ⟨"Color".toList,
        [⟨"SetColorToRed".toList, "Color".toList, "Red".toList⟩,
          ⟨"SetColorToBlue".toList, "Color".toList, "Blue".toList⟩], true⟩] := by
  decide +kernel

theorem settled_lamp : lamp.Settled := by
  rw [Settled]
  decide

theorem selectsCodes_lamp : SelectsCodes lampDirectory lampCode? lamp.setters := by
  constructor
  · rw [states_lampDirectory]
    decide +kernel
  · rw [states_lampDirectory]
    simp only [List.forall_mem_cons]
    refine ⟨⟨fun fails => absurd fails (by decide), fun _ => .inr ⟨.native "no".toList, by decide⟩,
      fun fails => absurd fails (by decide), fun fails => absurd fails (by decide),
      List.forall_mem_nil _⟩, ⟨fun _ => .inl (by decide), fun _ => .inl (by decide),
      List.forall_mem_nil _⟩, List.forall_mem_nil _⟩

theorem restorable_lamp : Restorable lampDirectory lampCode? lamp := by
  refine restorable settled_lamp selectsCodes_lamp ?_
  rw [states_lampDirectory]
  simp only [List.forall_mem_cons]
  refine ⟨.inr ⟨⟨"SetModeToBright".toList, "Mode".toList, "Bright".toList⟩, by decide, 1,
    by decide, by decide⟩, .inl ?_, List.forall_mem_nil _⟩
  intro value answered
  have red : answer lamp (Naming.getter "Color".toList) = .ok (.text "red".toList) := by decide
  rw [red, Except.ok.injEq] at answered
  subst answered
  exact ⟨nofun, nofun⟩

end ScriptedObject

namespace Classifier

open ScriptedObject

variable {directory : Directory Object} {code? : Text → Option Int} {object : Object}

/-- Classifying with a restorable object tells what its answers tell and puts it back. -/
theorem classifyObject_told (classifier : Classifier Object)
    (restorable : Restorable directory code? object) :
    (classifier.classifyObject directory object).1.last =
        (RolePlan.ofDirectory directory).told (answer object) code? ∧
      AtRest directory object (classifier.classifyObject directory object).2.1 := by
  have start : AtRest directory (Recorded.borrowed object) (Recorded.borrowed object) :=
    ⟨.start, rfl⟩
  have recorded : Restorable directory code? (Recorded.borrowed object) := restorable.recorded
  rcases recorded.tells_readPlan _ start with ⟨after, classified, rest⟩
  have told : directory.classify (some (Recorded.borrowed object)) =
      ((RolePlan.ofDirectory directory).told (answer object) code?, some after) := by
    rw [directory.classify_eq_readPlan]
    exact classified
  simp only [classifyObject, told]
  exact ⟨trivial, rest.path.object, rest.same⟩

/--
After a restorable object was classified every getter answers as before, and another
classification with the object has the same result.
-/
theorem classifyObject_restores (classifier : Classifier Object)
    (restorable : Restorable directory code? object) :
    (∀ getter, answer (classifier.classifyObject directory object).2.1 getter =
        answer object getter) ∧
      ∀ again : Classifier Object,
        (again.classifyObject directory
            (classifier.classifyObject directory object).2.1).1.last =
          (classifier.classifyObject directory object).1.last := by
  rcases classifier.classifyObject_told restorable with ⟨told, rest⟩
  constructor
  · intro getter
    rw [rest.same]
  · intro again
    rw [told, (again.classifyObject_told (restorable.of_atRest rest)).1, rest.same]

/-- A lamp is put back by a classification, and a second one finds the same. -/
theorem classifyObject_restores_lamp :
    Restorable lampDirectory lampCode? lamp ∧
      (∀ getter, answer ((start ⟨true, []⟩ none).classifyObject lampDirectory lamp).2.1 getter =
          answer lamp getter) ∧
        ∀ again : Classifier ScriptedObject,
          (again.classifyObject lampDirectory
              ((start ⟨true, []⟩ none).classifyObject lampDirectory lamp).2.1).1.last =
            ((start ⟨true, []⟩ none).classifyObject lampDirectory lamp).1.last :=
  ⟨restorable_lamp, classifyObject_restores (start ⟨true, []⟩ none) restorable_lamp⟩

end Classifier

end MethodRoles
