import MethodRoles.Text.Affix

/-!
# Parts of a text by bytes

A place in a text can be told by the number of bytes in front of it.  There is nothing to cut
out at a place that the text does not reach, or that lies inside a character.

The places of a word are listed from the start of the text to its end.  Behind each of them
the search goes on after the word, so no two of them overlap.
-/

namespace MethodRoles.Text

/-- The first bytes of a text, if it has so many and no character is cut in two. -/
def firstBytes? : (count : Nat) → Text → Option Text
  | 0, _ => some []
  | _ + 1, [] => none
  | count + 1, character :: rest =>
      if character.utf8Size ≤ count + 1 then
        (firstBytes? (count + 1 - character.utf8Size) rest).map (character :: ·)
      else
        none

/-- The text behind its first bytes, if it has so many and no character is cut in two. -/
def afterBytes? : (count : Nat) → Text → Option Text
  | 0, text => some text
  | _ + 1, [] => none
  | count + 1, character :: rest =>
      if character.utf8Size ≤ count + 1 then
        afterBytes? (count + 1 - character.utf8Size) rest
      else
        none

/-- The part of a text in front of its last bytes, which are as many as another text has.
There is none if the other text has more bytes, or if a character is cut in two. -/
def upTo? (after text : Text) : Option Text :=
  if byteLength after ≤ byteLength text then
    firstBytes? (byteLength text - byteLength after) text
  else
    none

/-- The places of a word, which has at least one character, in a text behind `passed` bytes. -/
def placesFrom (word : Text) (passed : Nat) : Text → List Nat
  | [] => []
  | character :: rest =>
      if startsWith word (character :: rest) then
        passed :: placesFrom word (passed + byteLength word) (rest.drop (word.length - 1))
      else
        placesFrom word (passed + character.utf8Size) rest
termination_by text => text.length
decreasing_by
  · rw [List.length_drop, List.length_cons]
    omega
  · exact Nat.lt_succ_self rest.length

theorem length_afterBytes?_le {count : Nat} {text rest : Text}
    (found : afterBytes? count text = some rest) : rest.length ≤ text.length := by
  fun_induction afterBytes? count text with
  | case1 =>
      cases found
      exact Nat.le_refl _
  | case2 => contradiction
  | case3 _ _ _ _ induction => exact Nat.le_succ_of_le (induction found)
  | case4 => contradiction

theorem length_afterBytes?_lt {count : Nat} {text rest : Text}
    (found : afterBytes? (count + 1) text = some rest) : rest.length < text.length := by
  cases text with
  | nil => contradiction
  | cons character others =>
      rw [afterBytes?] at found
      split at found
      case isTrue => exact Nat.lt_succ_of_le (length_afterBytes?_le found)
      case isFalse => contradiction

end MethodRoles.Text
