import MethodRoles.Overload.Head
import MethodRoles.Scan.Word

/-!
# Reading a head step by step

A reader first looks for a marker, and if there is none, or no blank behind it, it starts
again in front of the text.  Then it reads the receiver, which may be missing, and one
identifier of the path after the other.  Behind the last of them it has to see a bracket.

Where a text without a head is read the answer is that there is none.  There is no answer at
all only where a word would be cut out inside a character.
-/

namespace MethodRoles.Head

open Scan

/-- Read what closes the number of a marker, which may be a point if no bracket opened it;
the answer is whether something does. -/
def readClosing (bracketed : Bool) (reader : Reader) : Option (Bool × Reader) :=
  if bracketed then
    reader.readWord [')']
  else
    match reader.readWord ['.'] with
    | some (false, after) => after.readWord [')']
    | pointed => pointed

/-- Read a marker without the blank behind it; the answer is whether it is complete. -/
def readMarker (reader : Reader) : Option (Bool × Reader) := do
  let (bracketed, inside) ← reader.readWord ['(']
  let (digits, behind) ← inside.readWhile Char.isDigit
  if digits.isEmpty then
    some (false, behind)
  else
    readClosing bracketed behind

/-- Read the marker that starts a text; the answer is the text without it. -/
def readUnmarked (text : Text) : Option Text := do
  let (complete, behind) ← readMarker (.start text)
  if complete && behind.nextSatisfies Text.isBlank then
    some (Text.trimStart behind.rest)
  else
    some text

/-- Read a path, one identifier in each round and then the point that joins the next one to it.
The answer is the last identifier, unless the text or a point has no identifier behind it. -/
def readPath (reader : Reader) : Option (Option Text × Reader) :=
  match _ : reader.readIdentifier with
  | some (some name, behind) =>
      match _ : behind.readWord ['.'] with
      | some (true, joined) => readPath joined
      | some (false, after) => some (some name, after)
      | none => none
  | some (none, behind) => some (none, behind)
  | none => none
termination_by reader.rest.length
decreasing_by
  have taken := Reader.length_rest_of_readIdentifier
    ‹reader.readIdentifier = some (some name, behind)›
  have shorter := Reader.length_rest_of_readWord ‹behind.readWord ['.'] = some (true, joined)›
  omega

/-- Read the head that starts a text, if it has one. -/
def readText (text : Text) : Option (Option Head) := do
  let line ← readUnmarked (Text.trim text)
  let (_, start) ← (Reader.start line).readWord ['V', '.']
  match ← readPath start with
  | (some name, behind) =>
      if behind.nextSatisfies (· == '(') then
        some (some ⟨line, name, behind.rest⟩)
      else
        some none
  | (none, _) => some none

end MethodRoles.Head
