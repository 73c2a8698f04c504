import MethodRoles.Probe.Object
import MethodRoles.Role.Classification
import MethodRoles.Role.Plan

/-!
# Reading the values of a plan

The values of a role are read by calls on a probe that changes on the way.  All
roles of a plan are read toggles first, then states, then pairs, each in the order
of the plan.

Reading a state selects each of its options and puts the object back on the
option whose code it had at the start.  When that code cannot be read nothing is
selected, since it could not be put back.
-/

namespace MethodRoles

/-- Read the items of a list one after the other from a probe that changes on the way. -/
def readEach {Item Reading Source : Type} (read : Item → Source → Reading × Source) :
    List Item → Source → List Reading × Source
  | [], source => ([], source)
  | item :: items, source =>
      let (reading, source) := read item source
      let (readings, source) := readEach read items source
      (reading :: readings, source)

namespace Probe

variable {Object : Type} [Probeable Object]

/-- Read the state of a toggle from the first query that tells it. -/
def readToggle : (queries : List Text) → Probe Object → Resolution Bool × Probe Object
  | [], probe => (.unresolved, probe)
  | query :: queries, probe =>
      match probe.get query with
      | (value, probe) =>
          match value.andThen Value.asToggle? with
          | .known truth => (.known truth, probe)
          | .unresolved => readToggle queries probe

/-- Read a whole number. -/
def readCode (getter : Text) (probe : Probe Object) : Resolution Int × Probe Object :=
  match probe.get getter with
  | (value, probe) => (value.andThen Value.asInt?, probe)

/-- The options of some selectors, about whose codes nothing is known. -/
def unresolvedOptions (selectors : List Selector) : List StateOption :=
  selectors.map fun selector => ⟨selector.option, .unresolved⟩

/-- Select an option and read its code back, if selecting it succeeds. -/
def tryOption (getter : Text) (selector : Selector) (probe : Probe Object) :
    StateOption × Probe Object :=
  match probe.set selector.method with
  | (true, probe) =>
      match probe.readCode getter with
      | (code, probe) => (⟨selector.option, code⟩, probe)
  | (false, probe) => (⟨selector.option, .unresolved⟩, probe)

/--
Put an object back on the first option that has the code of the start, and move that option
to the front.  An option stands at the place of its selector, so its place leads to both.
-/
def putBack (code : Int) (selectors : List Selector) (options : List StateOption)
    (probe : Probe Object) : List StateOption × Probe Object :=
  match options.findIdx? fun option => option.code == .known code with
  | some place =>
      match selectors[place]?, options[place]? with
      | some selector, some active =>
          (active :: options.eraseIdx place, (probe.set selector.method).2)
      | _, _ => (options, probe)
  | none => (options, probe)

/-- Read the codes of the options of a state through its getter. -/
def readOptions (getter : Text) (selectors : List Selector) (probe : Probe Object) :
    List StateOption × Probe Object :=
  if probe.isNone then
    (unresolvedOptions selectors, probe)
  else
    match probe.readCode getter with
    | (.unresolved, probe) => (unresolvedOptions selectors, probe)
    | (.known code, probe) =>
        match readEach (tryOption getter) selectors probe with
        | (options, probe) => probe.putBack code selectors options

/-- Read a state. -/
def readState (state : StatePlan) (probe : Probe Object) : List StateOption × Probe Object :=
  if state.readable then
    probe.readOptions (Naming.getter state.property) state.selectors
  else
    (unresolvedOptions state.selectors, probe)

/-- Read the least and the greatest value of a property. -/
def readBounds (property : Text) (probe : Probe Object) :
    Resolution (Value × Value) × Probe Object :=
  let (least, probe) := probe.get (Naming.getter (property ++ Naming.leastSuffix))
  let (greatest, probe) := probe.get (Naming.getter (property ++ Naming.greatestSuffix))
  match least, greatest with
  | .known least, .known greatest => (.known (least, greatest), probe)
  | _, _ => (.unresolved, probe)

/-- Read a pair. -/
def readPair (pair : PairPlan) (probe : Probe Object) : PairReading × Probe Object :=
  let (default, probe) := probe.get (Naming.getter pair.property)
  if pair.bounded then
    let (bounds, probe) := probe.readBounds pair.property
    (⟨default, some bounds⟩, probe)
  else
    (⟨default, none⟩, probe)

/-- Read all roles of a plan. -/
def readPlan (plan : RolePlan) (probe : Probe Object) : Classification × Probe Object :=
  let (toggles, probe) :=
    readEach (fun toggle : TogglePlan => readToggle toggle.queries) plan.toggles probe
  let (states, probe) := readEach readState plan.states probe
  let (pairs, probe) := readEach readPair plan.pairs probe
  ({ className := plan.className
     toggles := .ofList ((plan.toggles.map TogglePlan.property).zip toggles)
     states := .ofList ((plan.states.map StatePlan.property).zip states)
     pairs := .ofList ((plan.pairs.map PairPlan.property).zip pairs)
     getters := plan.getters
     others := plan.others }, probe)

end Probe

end MethodRoles
