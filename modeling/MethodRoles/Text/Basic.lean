/-!
# Text as a sequence of characters

A text is the list of its characters, so that every scan of the library is a
recursion on the text itself.  This module holds the blanks, trimming, lines,
words and the length in bytes; a blank is any character with the Unicode property
`White_Space`.

Trimming and dropping only ever shorten a text.  The length lemmas at the end
are what the scans of the later modules need for their termination.
-/

namespace MethodRoles

/-- A text is the list of its characters. -/
abbrev Text := List Char

namespace Text

/-- A blank is a character with the Unicode property `White_Space`. -/
def isBlank (character : Char) : Bool :=
  let code := character.toNat
  (0x09 ≤ code && code ≤ 0x0D) || code == 0x20 || code == 0x85 || code == 0xA0 ||
    code == 0x1680 || (0x2000 ≤ code && code ≤ 0x200A) || code == 0x2028 ||
    code == 0x2029 || code == 0x202F || code == 0x205F || code == 0x3000

/-- Drop the blanks at the start of a text. -/
def trimStart (text : Text) : Text :=
  text.dropWhile isBlank

/-- Drop the longest end of a text on which `condition` holds throughout. -/
def dropEndWhile (condition : Char → Bool) (text : Text) : Text :=
  (text.reverse.dropWhile condition).reverse

/-- The longest end of a text on which `condition` holds throughout. -/
def takeEndWhile (condition : Char → Bool) (text : Text) : Text :=
  (text.reverse.takeWhile condition).reverse

/-- Drop the blanks at the end of a text. -/
def trimEnd (text : Text) : Text :=
  dropEndWhile isBlank text

/-- Drop the blanks at both ends of a text. -/
def trim (text : Text) : Text :=
  trimEnd (trimStart text)

/-- The lines of a text, which are separated by line feeds. -/
def lines : Text → List Text
  | [] => [[]]
  | character :: rest =>
      if character = '\n' then
        [] :: lines rest
      else
        match lines rest with
        | [] => [[character]]
        | line :: others => (character :: line) :: others

/-- The words of a text that goes on after `ahead`, the beginning of a word. -/
def wordsFrom (ahead : Text) : Text → List Text
  | [] => if ahead.isEmpty then [] else [ahead]
  | character :: rest =>
      if isBlank character then
        if ahead.isEmpty then wordsFrom [] rest else ahead :: wordsFrom [] rest
      else
        wordsFrom (ahead ++ [character]) rest

/-- The words of a text, which are separated by blanks. -/
def words (text : Text) : List Text :=
  wordsFrom [] text

/-- The number of bytes of a text in UTF-8. -/
def byteLength : Text → Nat
  | [] => 0
  | character :: rest => character.utf8Size + byteLength rest

/-- The decimal digits of a natural number. -/
def ofNat (number : Nat) : Text :=
  Nat.toDigits 10 number

/-- The decimal digits of an integer, after a minus sign if it is negative. -/
def ofInt : Int → Text
  | .ofNat number => ofNat number
  | .negSucc number => '-' :: ofNat (number + 1)

/-- Join texts with a separator between each two of them. -/
def join (separator : Text) : List Text → Text
  | [] => []
  | [text] => text
  | text :: next :: others => text ++ separator ++ join separator (next :: others)

theorem length_dropWhile_le (condition : Char → Bool) (text : Text) :
    (text.dropWhile condition).length ≤ text.length :=
  (List.dropWhile_sublist condition).length_le

theorem length_trimStart_le (text : Text) :
    (trimStart text).length ≤ text.length :=
  length_dropWhile_le isBlank text

theorem length_dropEndWhile_le (condition : Char → Bool) (text : Text) :
    (dropEndWhile condition text).length ≤ text.length := by
  have shorter := length_dropWhile_le condition text.reverse
  simpa [dropEndWhile] using shorter

theorem length_trim_le (text : Text) :
    (trim text).length ≤ text.length :=
  Nat.le_trans (length_dropEndWhile_le isBlank _) (length_trimStart_le text)

theorem dropEndWhile_append_takeEndWhile (condition : Char → Bool) (text : Text) :
    dropEndWhile condition text ++ takeEndWhile condition text = text := by
  have whole := List.takeWhile_append_dropWhile (p := condition) (l := text.reverse)
  rw [dropEndWhile, takeEndWhile, ← List.reverse_append, whole, List.reverse_reverse]

end Text

end MethodRoles
