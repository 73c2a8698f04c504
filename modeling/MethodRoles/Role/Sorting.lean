import MethodRoles.Role.Probing

/-!
# Sorting and probing together

The methods of a class are sorted while its object is asked for values.  A sorter
passes the public methods once for each kind of role: toggles, states, pairs and
getters.  Where a method founds a role, the values of the role are read, its names are
taken, and it is entered in the result; names that are taken found no further role, in
this pass or in a later one.  What is left over is listed at the end.

Names, result and object change together on the way, so a sorter holds all three.
-/

namespace MethodRoles

/-- The selectors of one property that were found so far. -/
structure Family where
  /-- The property. -/
  property : Text
  /-- The methods that select its options. -/
  selectors : List Selector

/-- Add a selector to the family of its property, which is a new one at the end if there is none. -/
def Family.join (selector : Selector) : List Family → List Family
  | [] => [⟨selector.property, [selector]⟩]
  | family :: families =>
      if family.property == selector.property then
        ⟨family.property, family.selectors ++ [selector]⟩ :: families
      else
        family :: join selector families

/-- Names, result and object of a sorting under way. -/
structure Sorter (Object : Type) where
  /-- The names that have been taken. -/
  taken : List Text
  /-- The roles that have been entered, with what was read of them. -/
  result : Classification
  /-- The object that values are read from, if there is one. -/
  probe : Probe Object

namespace Sorter

variable {Object : Type}

/-- A sorter that has passed nothing yet. -/
def start (className : Text) (probe : Probe Object) : Sorter Object :=
  ⟨[], { Classification.blank with className := className }, probe⟩

/-- Whether a name is taken. -/
def isTaken (sorter : Sorter Object) (name : Text) : Bool :=
  sorter.taken.contains name

/-- Take some names. -/
def take (sorter : Sorter Object) (names : List Text) : Sorter Object :=
  { sorter with taken := sorter.taken ++ names }

/-- Read something from the object. -/
def read {Reading : Type} (sorter : Sorter Object)
    (reading : Probe Object → Reading × Probe Object) : Reading × Sorter Object :=
  match reading sorter.probe with
  | (value, probe) => (value, { sorter with probe := probe })

/-- Enter a toggle. -/
def enterToggle (sorter : Sorter Object) (property : Text) (truth : Resolution Bool) :
    Sorter Object :=
  { sorter with
    result := { sorter.result with
      toggles := Keyed.insert property truth sorter.result.toggles } }

/-- Enter a state. -/
def enterState (sorter : Sorter Object) (property : Text) (options : List StateOption) :
    Sorter Object :=
  { sorter with
    result := { sorter.result with
      states := Keyed.insert property options sorter.result.states } }

/-- Enter a pair. -/
def enterPair (sorter : Sorter Object) (property : Text) (reading : PairReading) :
    Sorter Object :=
  { sorter with
    result := { sorter.result with
      pairs := Keyed.insert property reading sorter.result.pairs } }

/-- Enter a getter. -/
def enterGetter (sorter : Sorter Object) (name : Text) : Sorter Object :=
  { sorter with result := { sorter.result with getters := sorter.result.getters ++ [name] } }

variable [Probeable Object]

/-- Pass a method: with the one that switches its property off, it may be a toggle. -/
def passToggle (table : MethodTable) (sorter : Sorter Object) (name : Text) : Sorter Object :=
  match Naming.switchedProperty? name with
  | none => sorter
  | some property =>
      let off := Naming.switchOff property
      if sorter.isTaken name || sorter.isTaken off || !table.contains off then
        sorter
      else if !table.has Signature.isAction name || !table.has Signature.isAction off then
        sorter
      else
        let queries := (Naming.queries property).filter table.contains
        let (truth, sorter) := sorter.read (Probe.readToggle queries)
        (sorter.take [name, off, Naming.getter property, Naming.setter property]).enterToggle
          property truth

/-- Pass a method: if it selects an option, it joins the family of its property. -/
def passSelector (table : MethodTable) (sorter : Sorter Object) (families : List Family)
    (name : Text) : List Family :=
  if sorter.isTaken name then
    families
  else
    match Naming.selection? name with
    | none => families
    | some (property, option) =>
        if table.has Signature.takesNothing name then
          Family.join ⟨name, property, option⟩ families
        else
          families

/-- Pass a family: with several options, or with a getter of whole numbers, it is a state. -/
def passFamily (table : MethodTable) (sorter : Sorter Object) (family : Family) :
    Sorter Object :=
  let getter := Naming.getter family.property
  if family.selectors.length < 2 && !table.hasIntegerGetter family.property then
    sorter
  else
    let (options, sorter) :=
      if table.contains getter then
        sorter.read (Probe.readOptions getter family.selectors)
      else
        (Probe.unresolvedOptions family.selectors, sorter)
    let sorter := sorter.take (family.selectors.map Selector.method)
    let sorter := sorter.take
      (getter :: Naming.setter family.property :: Naming.boundGetters family.property)
    sorter.enterState family.property options

/-- Read the bounds of a property, if both have getters that fit its type. -/
def readBounds? (table : MethodTable) (sorter : Sorter Object) (property : Text)
    (type : SlotType) : Option (Resolution (Value × Value)) × Sorter Object :=
  if !type.isScalar || !table.hasBound type (Naming.getter (property ++ Naming.leastSuffix)) ||
      !table.hasBound type (Naming.getter (property ++ Naming.greatestSuffix)) then
    (none, sorter)
  else
    let (bounds, sorter) := sorter.read (Probe.readBounds property)
    (some bounds, sorter)

/--
Pass a method: with a setter that accepts what it returns, it may be a pair.  The getters of
the bounds are taken only if bounds were read.
-/
def passPair (table : MethodTable) (sorter : Sorter Object) (name : Text) : Sorter Object :=
  if sorter.isTaken name then
    sorter
  else
    match Naming.getterProperty? name with
    | none => sorter
    | some property =>
        let setter := Naming.setter property
        if table.isBound property || sorter.isTaken setter then
          sorter
        else
          match table.accessed? name with
          | none => sorter
          | some type =>
              if !table.has (fun signature => signature.accepts type) setter then
                sorter
              else
                let (default, sorter) := sorter.read (Probe.get name)
                let (bounds?, sorter) := sorter.readBounds? table property type
                let sorter := sorter.take [name, setter]
                let sorter :=
                  if bounds?.isSome then sorter.take (Naming.boundGetters property) else sorter
                sorter.enterPair property ⟨default, bounds?⟩

/-- Pass a method: if it reads something, it is a getter. -/
def passGetter (table : MethodTable) (sorter : Sorter Object) (name : Text) : Sorter Object :=
  if sorter.isTaken name || (Naming.getterProperty? name).isNone then
    sorter
  else if table.has Signature.returnsValue name then
    (sorter.take [name]).enterGetter name
  else
    sorter

/-- Pass all methods for the toggles. -/
def passToggles (table : MethodTable) (sorter : Sorter Object) : Sorter Object :=
  table.names.foldl (passToggle table) sorter

/-- Pass all methods for the states: the families are collected first. -/
def passStates (table : MethodTable) (sorter : Sorter Object) : Sorter Object :=
  (table.names.foldl (sorter.passSelector table) []).foldl (passFamily table) sorter

/-- Pass all methods for the pairs. -/
def passPairs (table : MethodTable) (sorter : Sorter Object) : Sorter Object :=
  table.names.foldl (passPair table) sorter

/-- Pass all methods for the getters. -/
def passGetters (table : MethodTable) (sorter : Sorter Object) : Sorter Object :=
  table.names.foldl (passGetter table) sorter

/--
The names of a list that are left over, each where it comes first; `seen` are those that
came before.  A lifecycle name is left over even if it is taken.
-/
def leftOver (sorter : Sorter Object) (className : Text) (seen : List Text) :
    (names : List Text) → List Text
  | [] => []
  | name :: names =>
      if Naming.isSpecial className name || seen.contains name then
        sorter.leftOver className seen names
      else if Naming.isLifecycle name || !sorter.isTaken name then
        name :: sorter.leftOver className (name :: seen) names
      else
        sorter.leftOver className (name :: seen) names

/-- The result of a sorter with what is left over of a directory, and the object. -/
def finish {Source : Type} (sorter : Sorter Object) (directory : Directory Source) :
    Classification × Probe Object :=
  ({ sorter.result with
      others := sorter.leftOver directory.className [] directory.methodNames }, sorter.probe)

end Sorter

/-- Classify the methods of a class with the values that a probe gives. -/
def Directory.classify {Object Target : Type} [Probeable Target] (directory : Directory Object)
    (probe : Probe Target) : Classification × Probe Target :=
  let table := MethodTable.ofDirectory directory
  let sorter := (Sorter.start directory.className probe).passToggles table
  let sorter := sorter.passStates table
  let sorter := sorter.passPairs table
  let sorter := sorter.passGetters table
  sorter.finish directory

end MethodRoles
