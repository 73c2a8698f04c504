import MethodRoles.Text.Affix

/-!
# Identifiers and dotted paths

An identifier starts with an ASCII letter or an underscore and goes on with
ASCII letters, digits and underscores.  Identifiers joined by points form a
path, and the last of them names the thing that the path leads to.
-/

namespace MethodRoles.Scan

/-- Whether a character can start an identifier. -/
def startsIdentifier (character : Char) : Bool :=
  character.isAlpha || character == '_'

/-- Whether a character can stand inside an identifier. -/
def continuesIdentifier (character : Char) : Bool :=
  character.isAlphanum || character == '_'

/-- Whether a character is an ASCII upper-case letter or digit. -/
def isUpperOrDigit (character : Char) : Bool :=
  character.isUpper || character.isDigit

/-- Whether a whole text is one identifier. -/
def isIdentifier : Text → Bool
  | [] => false
  | character :: rest =>
      startsIdentifier character && rest.all continuesIdentifier

/-- The identifier that starts a text, and the text after it. -/
def takeIdentifier? : Text → Option (Text × Text)
  | [] => none
  | character :: rest =>
      if startsIdentifier character then
        some (character :: rest.takeWhile continuesIdentifier,
          rest.dropWhile continuesIdentifier)
      else
        none

theorem length_takeIdentifier?_lt {text name rest : Text}
    (found : takeIdentifier? text = some (name, rest)) :
    rest.length < text.length := by
  cases text with
  | nil => simp [takeIdentifier?] at found
  | cons character others =>
      rw [takeIdentifier?] at found
      split at found
      · simp only [Option.some.injEq, Prod.mk.injEq] at found
        rw [← found.2]
        exact Nat.lt_succ_of_le (Text.length_dropWhile_le _ others)
      · simp at found

/--
The last identifier of the path that starts a text, and the text after it.  A
point that no identifier follows ends no path.
-/
def takePath? (text : Text) : Option (Text × Text) :=
  match _found : takeIdentifier? text with
  | none => none
  | some (_, '.' :: rest) => takePath? rest
  | some (name, rest) => some (name, rest)
termination_by text.length
decreasing_by
  have shorter := length_takeIdentifier?_lt _found
  simp only [List.length_cons] at shorter
  omega

end MethodRoles.Scan
