import MethodRoles.Role.MethodTable

/-!
# The roles of a class, planned

The methods of a class have their roles by their names and signatures.  Toggles come
first, then states, then pairs of a getter and a setter, then the getters that are
left.  A role claims the names of its property, and a name that is claimed founds no
further role.  Whatever nothing claims is among the other methods, and so is every
lifecycle method.

A plan says which roles there are and which methods of an object would tell their
values, and it calls nothing.  Sorting a class with an object at hand comes to reading
the values of its plan (`Directory.classify_eq_readPlan`).
-/

namespace MethodRoles

/-- A property that is switched on and off. -/
structure TogglePlan where
  /-- The property. -/
  property : Text
  /-- The public methods that ask for its state, in the order they are asked. -/
  queries : List Text
deriving DecidableEq

/-- A method that selects an option of a property. -/
structure Selector where
  /-- The name of the method. -/
  method : Text
  /-- The property. -/
  property : Text
  /-- The option. -/
  option : Text
deriving DecidableEq

/-- A property with options to select. -/
structure StatePlan where
  /-- The property. -/
  property : Text
  /-- The methods that select its options, in the order of the directory. -/
  selectors : List Selector
  /-- Whether its getter is public. -/
  readable : Bool
deriving DecidableEq

/-- A property whose setter takes what its getter returns. -/
structure PairPlan where
  /-- The property. -/
  property : Text
  /-- Whether there are getters for its least and greatest values. -/
  bounded : Bool
deriving DecidableEq

/-- The names that a toggle claims. -/
def TogglePlan.claims (toggle : TogglePlan) : List Text :=
  [Naming.switchOn toggle.property, Naming.switchOff toggle.property,
    Naming.getter toggle.property, Naming.setter toggle.property]

/-- The names that a state claims. -/
def StatePlan.claims (state : StatePlan) : List Text :=
  state.selectors.map Selector.method ++ Naming.getter state.property ::
    Naming.setter state.property :: Naming.boundGetters state.property

/-- The names that a pair claims. -/
def PairPlan.claims (pair : PairPlan) : List Text :=
  Naming.getter pair.property :: Naming.setter pair.property ::
    (if pair.bounded then Naming.boundGetters pair.property else [])

/--
The roles that the names of a list found, in order.  A role is founded only if
the names it needs are not claimed, and then it claims names of its own.
-/
def foundInOrder {Role : Type} (found? : (claimed : List Text) → (name : Text) → Option Role)
    (claims : Role → List Text) (claimed : List Text) : (names : List Text) → List Role
  | [] => []
  | name :: names =>
      match found? claimed name with
      | some role => role :: foundInOrder found? claims (claimed ++ claims role) names
      | none => foundInOrder found? claims claimed names

namespace MethodTable

/-- The toggle that a name founds: both switches are unclaimed actions. -/
def toggle? (table : MethodTable) (claimed : List Text) (name : Text) : Option TogglePlan :=
  match Naming.switchedProperty? name with
  | none => none
  | some property =>
      let off := Naming.switchOff property
      if !claimed.contains name && !claimed.contains off &&
          table.has Signature.isAction name && table.has Signature.isAction off then
        some ⟨property, (Naming.queries property).filter table.contains⟩
      else
        none

/-- The toggles. -/
def toggles (table : MethodTable) : List TogglePlan :=
  foundInOrder table.toggle? TogglePlan.claims [] table.names

/-- The selector that a name is: unclaimed, and callable without arguments. -/
def selector? (table : MethodTable) (claimed : List Text) (name : Text) : Option Selector :=
  if !claimed.contains name && table.has Signature.takesNothing name then
    (Naming.selection? name).map fun selection => ⟨name, selection.1, selection.2⟩
  else
    none

/-- The selectors among the public methods. -/
def selectors (table : MethodTable) (claimed : List Text) : List Selector :=
  table.names.filterMap (table.selector? claimed)

/-- Whether the getter of a property returns a whole number. -/
def hasIntegerGetter (table : MethodTable) (property : Text) : Bool :=
  table.has (fun signature => signature.isAccessor && signature.result.isInteger)
    (Naming.getter property)

/-- One option makes a state only if a whole number tells whether it is selected. -/
def isState (table : MethodTable) (state : StatePlan) : Bool :=
  2 ≤ state.selectors.length || table.hasIntegerGetter state.property

/-- The state of a property, by the selectors of all properties. -/
def stateOf (table : MethodTable) (selectors : List Selector) (property : Text) : StatePlan :=
  ⟨property, selectors.filter fun selector => selector.property == property,
    table.contains (Naming.getter property)⟩

/-- The states, in the order of their first selectors. -/
def states (table : MethodTable) (claimed : List Text) : List StatePlan :=
  let selectors := table.selectors claimed
  ((Text.distinct (selectors.map Selector.property)).map (table.stateOf selectors)).filter
    table.isState

/-- Whether a property is a bound of a property with a public getter and setter. -/
def isBound (table : MethodTable) (property : Text) : Bool :=
  (Naming.boundBases property).any fun base =>
    table.contains (Naming.getter base) && table.contains (Naming.setter base)

/-- Whether a method is an accessor of a scalar with the shape of a given type. -/
def hasBound (table : MethodTable) (type : SlotType) (name : Text) : Bool :=
  table.has (fun signature =>
    signature.isAccessor && signature.result.isScalar && signature.result.sameShape type) name

/-- Whether a property of a given type has getters for both of its bounds. -/
def hasBounds (table : MethodTable) (property : Text) (type : SlotType) : Bool :=
  type.isScalar && table.hasBound type (Naming.getter (property ++ Naming.leastSuffix)) &&
    table.hasBound type (Naming.getter (property ++ Naming.greatestSuffix))

/-- The pair that a name founds: the unclaimed setter accepts what the getter returns. -/
def pair? (table : MethodTable) (claimed : List Text) (name : Text) : Option PairPlan :=
  match Naming.getterProperty? name, table.accessed? name with
  | some property, some type =>
      let setter := Naming.setter property
      if !claimed.contains name && !table.isBound property && !claimed.contains setter &&
          table.has (fun signature => signature.accepts type) setter then
        some ⟨property, table.hasBounds property type⟩
      else
        none
  | _, _ => none

/-- The pairs. -/
def pairs (table : MethodTable) (claimed : List Text) : List PairPlan :=
  foundInOrder table.pair? PairPlan.claims claimed table.names

/-- The unclaimed getters that return a value. -/
def getters (table : MethodTable) (claimed : List Text) : List Text :=
  table.names.filter fun name =>
    !claimed.contains name && (Naming.getterProperty? name).isSome &&
      table.has Signature.returnsValue name

end MethodTable

/-- The roles of the methods of a class. -/
structure RolePlan where
  /-- The name of the class. -/
  className : Text
  /-- The properties that are switched. -/
  toggles : List TogglePlan
  /-- The properties with options. -/
  states : List StatePlan
  /-- The properties that are read and written. -/
  pairs : List PairPlan
  /-- The other methods that read something. -/
  getters : List Text
  /-- The methods without any of these roles. -/
  others : List Text
deriving DecidableEq

namespace RolePlan

/-- The names that the toggles, states and pairs of a class claim. -/
def claims (toggles : List TogglePlan) (states : List StatePlan) (pairs : List PairPlan) :
    List Text :=
  toggles.flatMap TogglePlan.claims ++ states.flatMap StatePlan.claims ++
    pairs.flatMap PairPlan.claims

/-- The names of a directory that are lifecycle names or are not claimed, special names apart. -/
def othersOf {Object : Type} (directory : Directory Object) (claimed : List Text) : List Text :=
  Text.distinct (directory.methodNames.filter fun name =>
    !Naming.isSpecial directory.className name &&
      (Naming.isLifecycle name || !claimed.contains name))

/-- Sort the methods of a directory. -/
def ofDirectory {Object : Type} (directory : Directory Object) : RolePlan :=
  let table := MethodTable.ofDirectory directory
  let toggles := table.toggles
  let states := table.states (claims toggles [] [])
  let pairs := table.pairs (claims toggles states [])
  let getters := table.getters (claims toggles states pairs)
  { className := directory.className
    toggles := toggles
    states := states
    pairs := pairs
    getters := getters
    others := othersOf directory (claims toggles states pairs ++ getters) }

end RolePlan

end MethodRoles
