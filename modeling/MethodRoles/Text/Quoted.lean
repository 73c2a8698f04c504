import MethodRoles.Text.Invisible
import MethodRoles.Text.Basic

/-!
# Quoted text

A quoted text stands between double quotes.  Five characters and the null
character have a short escape, a character without a visible form is written by
its hexadecimal number, and every other character stands for itself; a single
quote is one of those.
-/

namespace MethodRoles.Text

/-- The short escape of a character, for the six characters that have one. -/
def shortEscape? : Char → Option Text
  | '\x00' => some ['\\', '0']
  | '\t' => some ['\\', 't']
  | '\n' => some ['\\', 'n']
  | '\x0d' => some ['\\', 'r']
  | '\x22' => some ['\\', '\x22']
  | '\\' => some ['\\', '\\']
  | _ => none

/-- A character by its hexadecimal number, in braces. -/
def numbered (character : Char) : Text :=
  ['\\', 'u', '\x7b'] ++ Nat.toDigits 16 character.toNat ++ ['\x7d']

/-- A character as it stands between the quotes. -/
def quotedChar (character : Char) : Text :=
  match shortEscape? character with
  | some escape => escape
  | none => if isInvisible character then numbered character else [character]

/-- A text between double quotes. -/
def quoted (text : Text) : Text :=
  '\x22' :: text.flatMap quotedChar ++ ['\x22']

/-- The quoted texts of a list, with commas between them and brackets around. -/
def quotedList (texts : List Text) : Text :=
  '[' :: join [',', ' '] (texts.map quoted) ++ [']']

end MethodRoles.Text
