import MethodRoles.Scan.Identifier

/-!
# Heads of scripted renderings

A scripted rendering starts with a head: an optional marker that numbers the
overload, the optional letters `V.`, a path of identifiers and an opening round
bracket.  The name of the method is the last identifier of the path.
-/

namespace MethodRoles

/-- A recognised head, with the text that it stands in. -/
structure Head where
  /-- The text without the marker and the blanks around it. -/
  line : Text
  /-- The name of the method. -/
  name : Text
  /-- The text from the opening bracket of the arguments on. -/
  rest : Text
deriving DecidableEq

namespace Head

/-- The text after the digits that start it, if there is at least one. -/
def afterDigits? : Text → Option Text
  | [] => none
  | character :: rest =>
      if character.isDigit then some (rest.dropWhile Char.isDigit) else none

/-- The text after a marker, with the blank that must follow one. -/
def afterMarker? : Text → Option Text
  | '(' :: text =>
      match afterDigits? text with
      | some (')' :: rest) => some rest
      | _ => none
  | text =>
      match afterDigits? text with
      | some ('.' :: rest) => some rest
      | some (')' :: rest) => some rest
      | _ => none

/-- Drop the marker that starts a text; what is no marker stays. -/
def dropMarker (text : Text) : Text :=
  match afterMarker? text with
  | some (character :: rest) =>
      if Text.isBlank character then Text.trimStart (character :: rest) else text
  | _ => text

/-- Drop the letters that stand for the object of the call. -/
def dropReceiver (text : Text) : Text :=
  (Text.dropLeading? ['V', '.'] text).getD text

/-- The head that starts a text. -/
def ofText? (text : Text) : Option Head :=
  let line := dropMarker (Text.trim text)
  match Scan.takePath? (dropReceiver line) with
  | some (name, '(' :: rest) => some ⟨line, name, '(' :: rest⟩
  | _ => none

end Head

end MethodRoles
