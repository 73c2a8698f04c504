import MethodRoles.Scan.Bracket
import MethodRoles.Scan.Identifier

/-!
# Reading a text step by step

A reader stands at a place in a text: it holds the part already read and the
part still to read.  Every step moves the place forward and never changes the
whole text, which is the two parts joined.  The scans themselves are those of
the bracket and identifier modules.
-/

namespace MethodRoles.Scan

/-- A place in a text, by the parts on its two sides. -/
structure Reader where
  /-- The part already read. -/
  consumed : Text
  /-- The part still to read. -/
  rest : Text

namespace Reader

/-- The start of a text. -/
def start (text : Text) : Reader :=
  ⟨[], text⟩

/-- The bytes already read. -/
def offset (reader : Reader) : Nat :=
  Text.byteLength reader.consumed

/-- Whether nothing is left to read. -/
def atEnd (reader : Reader) : Bool :=
  reader.rest.isEmpty

/-- The next character, which stays unread. -/
def peek? (reader : Reader) : Option Char :=
  reader.rest.head?

/-- Whether there is a next character and it satisfies a condition. -/
def nextSatisfies (condition : Char → Bool) (reader : Reader) : Bool :=
  reader.peek?.any condition

/-- Whether the unread part starts with a word. -/
def nextIs (word : Text) (reader : Reader) : Bool :=
  Text.startsWith word reader.rest

/-- Read a number of characters, or as many as there are. -/
def skip (count : Nat) (reader : Reader) : Reader :=
  ⟨reader.consumed ++ reader.rest.take count, reader.rest.drop count⟩

/-- Read on until `after`, an end of the unread part, is what is left. -/
def skipTo (after : Text) (reader : Reader) : Reader :=
  reader.skip (reader.rest.length - after.length)

/-- Read one character. -/
def advance (reader : Reader) : Option Char × Reader :=
  (reader.peek?, reader.skip 1)

/-- Read a word if it comes next. -/
def takeWord (word : Text) (reader : Reader) : Bool × Reader :=
  if reader.nextIs word then (true, reader.skip word.length) else (false, reader)

/-- Read characters as long as they satisfy a condition. -/
def takeWhile (condition : Char → Bool) (reader : Reader) : Text × Reader :=
  let taken := reader.rest.takeWhile condition
  (taken, reader.skip taken.length)

/-- Read blanks. -/
def skipBlanks (reader : Reader) : Reader :=
  (reader.takeWhile Text.isBlank).2

/-- Read an identifier if one comes next. -/
def takeIdentifier (reader : Reader) : Option Text × Reader :=
  match takeIdentifier? reader.rest with
  | some (name, after) => (some name, reader.skipTo after)
  | none => (none, reader)

/-- Read a group if an opener comes next; the answer is its inside. -/
def takeGroup (reader : Reader) : Option Text × Reader :=
  match takeGroup? reader.rest with
  | some (inside, after) => (some inside, reader.skipTo after)
  | none => (none, reader)

/-- The text that a reader stands in. -/
def whole (reader : Reader) : Text :=
  reader.consumed ++ reader.rest

@[simp]
theorem whole_start (text : Text) : (start text).whole = text := by
  simp [start, whole]

@[simp]
theorem whole_skip (count : Nat) (reader : Reader) :
    (reader.skip count).whole = reader.whole := by
  simp [skip, whole]

section Steps

variable {reader : Reader} {ahead after : Text} {character : Char}

theorem skip_eq (whole : reader.rest = ahead ++ after) :
    reader.skip ahead.length = ⟨reader.consumed ++ ahead, after⟩ := by
  rw [skip, whole, List.take_left, List.drop_left]

/-- Reading on until the end of the unread part is reading what stands before that end. -/
theorem skipTo_eq (whole : reader.rest = ahead ++ after) :
    reader.skipTo after = ⟨reader.consumed ++ ahead, after⟩ := by
  have count : reader.rest.length - after.length = ahead.length := by
    rw [whole, List.length_append]
    omega
  rw [skipTo, count, skip_eq whole]

theorem advance_eq (whole : reader.rest = character :: after) :
    reader.advance = (some character, ⟨reader.consumed ++ [character], after⟩) := by
  rw [advance, peek?, skip, whole]
  rfl

theorem length_rest_advance_lt (next : reader.peek? = some character) :
    reader.advance.2.rest.length < reader.rest.length := by
  rcases List.head?_eq_some_iff.mp next with ⟨rest, unread⟩
  simp [advance, skip, unread]

end Steps

end Reader

end MethodRoles.Scan
