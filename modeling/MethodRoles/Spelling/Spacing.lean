import MethodRoles.Text.Affix

/-!
# Normal spacing of a type spelling

Spacing carries little meaning in the spelling of a type.  In the normal form
every run of blanks is one space, there are no blanks at the ends, and a star or
an ampersand stands directly behind what it belongs to.
-/

namespace MethodRoles.Spelling

/-- Whether a character attaches to the word before it. -/
def attaches (character : Char) : Bool :=
  character == '*' || character == '&'

/--
The normal form of the rest of a text; `gap` says that blanks stand between the
rest and a word before it.
-/
def squeezeFrom (gap : Bool) : Text → Text
  | [] => []
  | character :: rest =>
      if Text.isBlank character then
        squeezeFrom true rest
      else if gap && !attaches character then
        ' ' :: character :: squeezeFrom false rest
      else
        character :: squeezeFrom false rest

/-- The normal form of a spelling. -/
def squeeze (spelling : Text) : Text :=
  squeezeFrom false (Text.trimStart spelling)

/--
The normal form in three steps: the words are joined by single spaces, and the space in
front of a star goes, then that in front of an ampersand.  This is the same text as
`squeeze` gives in one pass.
-/
def normalize (spelling : Text) : Text :=
  let collapsed := Text.join [' '] (Text.words spelling)
  Text.replace [' ', '&'] ['&'] (Text.replace [' ', '*'] ['*'] collapsed)

theorem length_squeezeFrom_le (gap : Bool) (text : Text) :
    (squeezeFrom gap text).length ≤ text.length + (if gap then 1 else 0) := by
  fun_induction squeezeFrom gap text <;> simp_all <;> omega

/-- The normal form is never longer. -/
theorem length_squeeze_le (spelling : Text) :
    (squeeze spelling).length ≤ spelling.length :=
  Nat.le_trans (length_squeezeFrom_le false _) (Text.length_trimStart_le spelling)

end MethodRoles.Spelling
