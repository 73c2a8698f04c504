import MethodRoles.Probe.Value
import MethodRoles.Text.Keyed

/-!
# Classified classes

The result of classifying a class: its toggles, states and pairs by property,
with what was read of each, and the lists of its getters and other methods.  A
name that was sorted into several categories is looked up in the first of them.
-/

namespace MethodRoles

/-- One option of a state. -/
structure StateOption where
  /-- The name of the option. -/
  name : Text
  /-- What the getter of the property returns when the option is selected. -/
  code : Resolution Int
deriving DecidableEq

namespace StateOption

/-- The first of some options with a given name. -/
def find? (options : List StateOption) (name : Text) : Option StateOption :=
  options.find? fun option => option.name == name

end StateOption

/-- What was read of a pair. -/
structure PairReading where
  /-- What its getter returned. -/
  default : Resolution Value
  /-- The least and greatest values, if there are getters for them. -/
  bounds? : Option (Resolution (Value × Value))
deriving DecidableEq

/-- The categories of names. -/
inductive Category where
  | toggle
  | state
  | pair
  | getter
  | other
deriving DecidableEq

/-- The name of a category in reports. -/
def Category.label : Category → Text
  | .toggle => "toggle".toList
  | .state => "state".toList
  | .pair => "get_set".toList
  | .getter => "get".toList
  | .other => "other".toList

/-- The methods of a class by category. -/
structure Classification where
  /-- The name of the class. -/
  className : Text
  /-- The state of each toggle. -/
  toggles : Keyed (Resolution Bool)
  /-- The options of each state. -/
  states : Keyed (List StateOption)
  /-- The reading of each pair. -/
  pairs : Keyed PairReading
  /-- The other methods that read something. -/
  getters : List Text
  /-- The methods without any of these roles. -/
  others : List Text
deriving DecidableEq

namespace Classification

/-- The classification of no class. -/
def blank : Classification :=
  ⟨[], [], [], [], [], []⟩

/-- The category of a property or a method. -/
def category? (classification : Classification) (name : Text) : Option Category :=
  if classification.toggles.names.contains name then
    some .toggle
  else if classification.states.names.contains name then
    some .state
  else if classification.pairs.names.contains name then
    some .pair
  else if classification.getters.contains name then
    some .getter
  else if classification.others.contains name then
    some .other
  else
    none

/-- Whether all categories are empty. -/
def isEmpty (classification : Classification) : Bool :=
  classification.toggles.isEmpty && classification.states.isEmpty &&
    classification.pairs.isEmpty && classification.getters.isEmpty &&
    classification.others.isEmpty

end Classification

end MethodRoles
