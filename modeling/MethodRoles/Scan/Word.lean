import MethodRoles.Scan.Reader
import MethodRoles.Text.Bytes

/-!
# Reading words character by character

A reader passes the characters of a word one after the other.  The word is then cut out of
the text in front of which the reader stood, and its length is what that text has more than
the text that is left, in bytes.  A word that is expected is passed by its bytes at once.

Cutting fails inside a character, and there is no answer then.
-/

namespace MethodRoles.Scan.Reader

/-- Read on to the first character that does not satisfy a condition. -/
def passWhile (condition : Char → Bool) (reader : Reader) : Reader :=
  match _ : reader.peek? with
  | none => reader
  | some character =>
      if condition character then passWhile condition reader.advance.2 else reader
termination_by reader.rest.length
decreasing_by exact length_rest_advance_lt ‹reader.peek? = some character›

/-- Read characters as long as they satisfy a condition; the answer is what was read. -/
def readWhile (condition : Char → Bool) (reader : Reader) : Option (Text × Reader) :=
  let after := reader.passWhile condition
  (Text.upTo? after.rest reader.rest).map fun taken => (taken, after)

/-- Read a word if it comes next; the answer is whether it did. -/
def readWord (word : Text) (reader : Reader) : Option (Bool × Reader) :=
  if reader.nextIs word then
    (Text.afterBytes? (Text.byteLength word) reader.rest).map
      fun rest => (true, ⟨reader.consumed ++ word, rest⟩)
  else
    some (false, reader)

/-- Read an identifier if one comes next. -/
def readIdentifier (reader : Reader) : Option (Option Text × Reader) :=
  if reader.nextSatisfies startsIdentifier then
    (reader.readWhile continuesIdentifier).map fun (name, after) => (some name, after)
  else
    some (none, reader)

theorem length_rest_passWhile_le (condition : Char → Bool) (reader : Reader) :
    (reader.passWhile condition).rest.length ≤ reader.rest.length := by
  fun_induction passWhile condition reader with
  | case1 => exact Nat.le_refl _
  | case2 reader character next _ induction =>
      exact Nat.le_trans induction (Nat.le_of_lt (length_rest_advance_lt next))
  | case3 => exact Nat.le_refl _

theorem length_rest_of_readIdentifier {reader after : Reader} {name : Text}
    (found : reader.readIdentifier = some (some name, after)) :
    after.rest.length ≤ reader.rest.length := by
  simp only [readIdentifier, readWhile] at found
  split at found
  case isTrue =>
    simp only [Option.map_map, Option.map_eq_some_iff, Function.comp_apply, Prod.mk.injEq] at found
    rcases found with ⟨_, -, -, rfl⟩
    exact length_rest_passWhile_le continuesIdentifier reader
  case isFalse => simp at found

theorem length_rest_of_readWord {reader after : Reader} {first : Char} {others : Text}
    (found : reader.readWord (first :: others) = some (true, after)) :
    after.rest.length < reader.rest.length := by
  have bytes : ∃ count, Text.byteLength (first :: others) = count + 1 :=
    Nat.exists_eq_add_one.mpr (Nat.add_pos_left first.utf8Size_pos _)
  rcases bytes with ⟨count, bytes⟩
  rw [readWord, bytes] at found
  split at found
  case isTrue =>
    rcases Option.map_eq_some_iff.mp found with ⟨rest, behind, whole⟩
    cases whole
    exact Text.length_afterBytes?_lt behind
  case isFalse => simp at found

end MethodRoles.Scan.Reader
