import MethodRoles.Scan.Reader
import MethodRoles.Text.Bytes

/-!
# Reading a group character by character

A reader at the start of a group reads its opener and then one character after the other,
with the number of groups that are open and the character read last.  It stops behind the
closer of the first group, or at the end of the text.

The inside of the group is then cut out of the text behind the opener.  Its length is not
counted on the way: it is the length of that text less what is left of it before the
closer, in bytes.  Neither taking one off the depth nor taking one length off the other may
go below zero, and cutting fails where a number of bytes ends inside a character.  In all
these cases there is no answer.
-/

namespace MethodRoles.Scan.Reader

/--
Read on with `depth` groups open and `before` read last, where `start` is the text behind
the first opener.  The answer is the inside of that group and the reader behind it.
-/
def passGroup (start : Text) (depth : Nat) (before : Char) (reader : Reader) :
    Option (Text × Reader) :=
  match _ : reader.peek? with
  | none => some (start, reader)
  | some character =>
      if isOpener character then
        passGroup start (depth + 1) character reader.advance.2
      else if isCloser before character then
        match depth with
        | 0 => none
        | 1 => (Text.upTo? reader.rest start).map fun inside => (inside, reader.advance.2)
        | remaining + 2 => passGroup start (remaining + 1) character reader.advance.2
      else
        passGroup start depth character reader.advance.2
termination_by reader.rest.length
decreasing_by all_goals exact length_rest_advance_lt ‹reader.peek? = some character›

/-- Read a group if an opener comes next; the reader stays where it is otherwise. -/
def readGroup (reader : Reader) : Option (Option Text × Reader) :=
  match reader.peek? with
  | some opener =>
      if isOpener opener then
        (passGroup reader.advance.2.rest 1 opener reader.advance.2).map
          fun (inside, after) => (some inside, after)
      else
        some (none, reader)
  | none => some (none, reader)

end MethodRoles.Scan.Reader
