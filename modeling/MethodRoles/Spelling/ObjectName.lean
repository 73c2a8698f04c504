import MethodRoles.Scan.Identifier

/-!
# Names of object classes

A class name is a path of identifiers separated by points and colons.  Its
first identifier begins with an ASCII upper-case letter or with the letters
`vtk`, which is how a class is told from a plain word.
-/

namespace MethodRoles.Spelling

/-- Whether a character separates the segments of a class name. -/
def separatesSegments (character : Char) : Bool :=
  character == '.' || character == ':'

/--
The first segment and the other segments of a path, empty ones included.
-/
def segmentsFrom : Text → Text × List Text
  | [] => ([], [])
  | character :: rest =>
      let (segment, others) := segmentsFrom rest
      if separatesSegments character then
        ([], segment :: others)
      else
        (character :: segment, others)

/-- The segments of a path that are not empty. -/
def segments (path : Text) : List Text :=
  let (segment, others) := segmentsFrom path
  (segment :: others).filter fun segment => !segment.isEmpty

/-- Whether a segment begins as the name of a class does. -/
def beginsClassName (segment : Text) : Bool :=
  Text.startsWith "vtk".toList segment || segment.head?.any Char.isUpper

/-- Whether a spelling is the name of an object class. -/
def isObjectName (spelling : Text) : Bool :=
  match segments spelling with
  | [] => false
  | first :: others =>
      beginsClassName first && (first :: others).all Scan.isIdentifier

end MethodRoles.Spelling
