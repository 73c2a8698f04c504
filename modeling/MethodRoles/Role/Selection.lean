import MethodRoles.Role.Naming
import MethodRoles.Text.Bytes

/-!
# Reading a selector place by place

The letters `To` may stand at several places of a name.  The places are listed by the bytes
in front of them and tried one after the other.  At each of them the property is cut out in
front of the letters and the option behind them, before either is looked at.

Cutting fails at a place inside a character.  There is no answer then, which is not the same
as the answer that the name selects nothing.
-/

namespace MethodRoles.Naming

/-- The property and the option at the first of some places of the letters `To` in a text
that has a property in front of it and an option behind it. -/
def splitAtPlaces (text : Text) : (places : List Nat) → Option (Option (Text × Text))
  | [] => some none
  | place :: places =>
      match Text.firstBytes? place text, Text.afterBytes? (place + 2) text with
      | some property, some option =>
          if !property.isEmpty && startsOption option then
            some (some (property, option))
          else
            splitAtPlaces text places
      | _, _ => none

/-- Read the property and the option that a name selects, if it selects one. -/
def readSelection (name : Text) : Option (Option (Text × Text)) :=
  match Text.dropLeading? "Set".toList name with
  | some text => splitAtPlaces text (Text.placesFrom "To".toList 0 text)
  | none => some none

end MethodRoles.Naming
