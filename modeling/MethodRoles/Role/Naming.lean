import MethodRoles.Scan.Identifier
import MethodRoles.Text.Keyed

/-!
# What method names say

The role of a method shows in its name.  `GetX` and `SetX` read and write a
property, `XOn` and `XOff` switch it, and `SetXToY` selects an option of it.
Some names never have a role: special names are left out altogether, and
lifecycle names are kept apart from the properties.
-/

namespace MethodRoles.Naming

/-- The methods that every class has for its own upkeep. -/
def lifecycleNames : List Text :=
  ["GetClassName", "GetMTime", "Register", "UnRegister", "GetReferenceCount",
    "SetReferenceCount", "AddObserver", "RemoveObserver", "RemoveObservers",
    "RemoveAllObservers", "HasObserver", "GetCommand", "InvokeEvent", "IsA", "IsTypeOf",
    "SafeDownCast", "NewInstance", "GetAddressAsString"].map String.toList

/-- Whether a name is that of a lifecycle method. -/
def isLifecycle (name : Text) : Bool :=
  lifecycleNames.contains name

/-- The names that make and unmake objects. -/
def constructorNames : List Text :=
  ["New", "Delete", "FastDelete"].map String.toList

/-- Whether a name of a class has no role at all. -/
def isSpecial (className name : Text) : Bool :=
  Text.hasInfix ['_', '_'] name || name.head? == some '~' || name == className ||
    constructorNames.contains name

/-- Whether a name of a class may have a role among its properties. -/
def isPublic (className name : Text) : Bool :=
  !isSpecial className name && !isLifecycle name

/-- The name of the getter of a property. -/
def getter (property : Text) : Text :=
  "Get".toList ++ property

/-- The name of the setter of a property. -/
def setter (property : Text) : Text :=
  "Set".toList ++ property

/-- The name that switches a property on. -/
def switchOn (property : Text) : Text :=
  property ++ "On".toList

/-- The name that switches a property off. -/
def switchOff (property : Text) : Text :=
  property ++ "Off".toList

/-- The name that selects an option of a property. -/
def selector (property option : Text) : Text :=
  "Set".toList ++ property ++ "To".toList ++ option

/-- The names that ask for the state of a switched property, in the order they are asked. -/
def queries (property : Text) : List Text :=
  [getter property, "Is".toList ++ property ++ "On".toList, "Is".toList ++ property]

/-- The suffix of the getter of the least value of a property. -/
def leastSuffix : Text :=
  "MinValue".toList

/-- The suffix of the getter of the greatest value of a property. -/
def greatestSuffix : Text :=
  "MaxValue".toList

/-- The suffix of the getter of the written value of a property. -/
def writtenSuffix : Text :=
  "AsString".toList

/-- The suffixes of the getters that belong to another property. -/
def boundSuffixes : List Text :=
  [leastSuffix, greatestSuffix, writtenSuffix]

/-- The getters that belong to a property besides its own. -/
def boundGetters (property : Text) : List Text :=
  boundSuffixes.map fun suffix => getter (property ++ suffix)

/-- A text unless it is empty. -/
def nonempty? (text : Text) : Option Text :=
  if text.isEmpty then none else some text

/-- The property that a getter reads. -/
def getterProperty? (name : Text) : Option Text :=
  (Text.dropLeading? "Get".toList name).bind nonempty?

/-- The property that a name switches on. -/
def switchedProperty? (name : Text) : Option Text :=
  (Text.dropTrailing? "On".toList name).bind nonempty?

/-- The properties that a property may be a bound of, by its suffix. -/
def boundBases (property : Text) : List Text :=
  boundSuffixes.filterMap fun suffix => (Text.dropTrailing? suffix property).bind nonempty?

/-- Whether a text may name an option. -/
def startsOption (text : Text) : Bool :=
  text.head?.any Scan.isUpperOrDigit

/-- The option behind the letters `To` that start a text. -/
def optionAt? (text : Text) : Option Text :=
  (Text.dropLeading? "To".toList text).filter startsOption

/--
The first split of a text at the letters `To` into a property and an option,
where `ahead`, the part already passed, belongs to the property.
-/
def splitOption? (ahead : Text) : Text → Option (Text × Text)
  | [] => none
  | character :: rest =>
      match if ahead.isEmpty then none else optionAt? (character :: rest) with
      | some option => some (ahead, option)
      | none => splitOption? (ahead ++ [character]) rest

/-- The property and the option that a name selects. -/
def selection? (name : Text) : Option (Text × Text) :=
  (Text.dropLeading? "Set".toList name).bind (splitOption? [])

end MethodRoles.Naming
