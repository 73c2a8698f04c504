import MethodRoles.Spelling.Spacing
import MethodRoles.Proofs.Text.Trimming

/-!
# Texts in normal spacing

In normal spacing a blank is a single space between two words, and no star or
ampersand follows it.  Squeezing leaves such a text as it is.

Squeezing passes a text once.  It gives the same as joining the words of the text and
then removing the spaces in front of the stars and of the ampersands
(`squeeze_eq_normalize`).
-/

namespace MethodRoles.Spelling

open Text

/-- A text whose blanks are single spaces, each in front of a character that does not attach. -/
inductive Spaced : Text → Prop where
  | nil : Spaced []
  | mark {character : Char} {rest : Text} (visible : isBlank character = false)
      (spaced : Spaced rest) : Spaced (character :: rest)
  | gap {character : Char} {rest : Text} (visible : isBlank character = false)
      (free : attaches character = false) (spaced : Spaced rest) :
      Spaced (' ' :: character :: rest)

namespace Spaced

theorem of_visible {text : Text} (visible : ∀ character ∈ text, isBlank character = false) :
    Spaced text := by
  induction text with
  | nil => exact nil
  | cons character rest induction =>
      exact mark (visible character List.mem_cons_self)
        (induction fun other member => visible other (List.mem_cons_of_mem _ member))

theorem append {left right : Text} (first : Spaced left) (second : Spaced right) :
    Spaced (left ++ right) := by
  induction first with
  | nil => exact second
  | mark visible _ induction => exact mark visible induction
  | gap visible free _ induction => exact gap visible free induction

/-- The only blanks of a text in normal spacing are spaces. -/
theorem not_mem {text : Text} (spaced : Spaced text) {character : Char}
    (blank : isBlank character = true) (noSpace : character ≠ ' ') : character ∉ text := by
  induction spaced with
  | nil => exact List.not_mem_nil
  | mark visible _ induction =>
      rintro (_ | ⟨_, member⟩)
      · rw [blank] at visible
        contradiction
      · exact induction member
  | gap visible _ _ induction =>
      rintro (_ | ⟨_, _ | ⟨_, member⟩⟩)
      · exact noSpace rfl
      · rw [blank] at visible
        contradiction
      · exact induction member

/-- A space may stand in front of a text that begins a word. -/
theorem space {text : Text} (spaced : Spaced text)
    (starts : ∃ first rest, text = first :: rest ∧ isBlank first = false ∧ attaches first = false) :
    Spaced (' ' :: text) := by
  rcases starts with ⟨first, rest, rfl, visible, free⟩
  cases spaced with
  | mark _ spaced => exact gap visible free spaced
  | gap => exact absurd visible (by decide)

theorem squeezeFrom_eq_self {text : Text} (spaced : Spaced text) :
    squeezeFrom false text = text := by
  induction spaced with
  | nil => rfl
  | mark visible _ induction => simp [squeezeFrom, visible, induction]
  | gap visible free _ induction =>
      have space : isBlank ' ' = true := by decide
      simp [squeezeFrom, space, visible, free, induction]

end Spaced

/-- A text in normal spacing is its own normal form. -/
theorem squeeze_eq_self {text : Text} (starts : StartsVisible text) (spaced : Spaced text) :
    squeeze text = text := by
  rcases starts with ⟨first, rest, rfl, visible⟩
  rw [squeeze, trimStart_cons visible, spaced.squeezeFrom_eq_self]

/-! ## The normal form in steps -/

/-- The rest of a text with single spaces between its words; `gap` is as for `squeezeFrom`. -/
def collapseFrom (gap : Bool) : Text → Text
  | [] => []
  | character :: rest =>
      if isBlank character then
        collapseFrom true rest
      else if gap then
        ' ' :: character :: collapseFrom false rest
      else
        character :: collapseFrom false rest

/-- With a space in front of every word, the words are the rest of a text behind a gap. -/
theorem flatMap_wordsFrom (ahead text : Text) :
    (wordsFrom ahead text).flatMap (fun word => ' ' :: word) =
      if ahead = [] then collapseFrom true text else ' ' :: ahead ++ collapseFrom false text := by
  induction text generalizing ahead with
  | nil => cases ahead <;> rfl
  | cons character rest induction =>
      rw [wordsFrom, collapseFrom, collapseFrom]
      split
      case isTrue blank =>
        cases ahead with
        | nil => simp [induction]
        | cons first others => simp [induction]
      case isFalse visible =>
        rw [induction]
        cases ahead <;> simp

theorem join_words (text : Text) :
    join [' '] (words text) = collapseFrom false (trimStart text) := by
  have joined (items : List Text) :
      join [' '] items = (items.flatMap fun word => ' ' :: word).tail := by
    induction items with
    | nil => rfl
    | cons item others induction =>
        cases others with
        | nil => simp [join]
        | cons next others => rw [join_cons_cons, induction]; simp
  have behind : (collapseFrom true text).tail = collapseFrom false (trimStart text) := by
    induction text with
    | nil => rfl
    | cons character rest induction =>
        cases blank : isBlank character with
        | true => simpa [collapseFrom, trimStart, blank] using induction
        | false => simp [collapseFrom, trimStart, blank]
  rw [joined, words, flatMap_wordsFrom, if_pos rfl, behind]

section Replace

variable {mark character : Char} {rest : Text}

theorem replace_cons_of_ne (noSpace : character ≠ ' ') :
    replace [' ', mark] [mark] (character :: rest) =
      character :: replace [' ', mark] [mark] rest := by
  simp [replace, replaceFrom, startsWith, dropLeading?, noSpace.symm]

theorem replace_space_mark :
    replace [' ', mark] [mark] (' ' :: mark :: rest) = mark :: replace [' ', mark] [mark] rest := by
  simp [replace, replaceFrom, startsWith, dropLeading?]

theorem replace_space_of_ne (differs : character ≠ mark) :
    replace [' ', mark] [mark] (' ' :: character :: rest) =
      ' ' :: replace [' ', mark] [mark] (character :: rest) := by
  simp [replace, replaceFrom, startsWith, dropLeading?, differs.symm]

end Replace

theorem replace_collapseFrom (gap : Bool) (text : Text) :
    replace [' ', '&'] ['&'] (replace [' ', '*'] ['*'] (collapseFrom gap text)) =
      squeezeFrom gap text := by
  induction text generalizing gap with
  | nil => rfl
  | cons character rest induction =>
      rw [collapseFrom, squeezeFrom]
      cases blank : isBlank character with
      | true => exact induction true
      | false =>
          have noSpace : character ≠ ' ' := by
            rintro rfl
            contradiction
          cases gap with
          | false => simp [replace_cons_of_ne noSpace, induction]
          | true =>
              by_cases star : character = '*'
              · subst star
                simp [replace_space_mark, replace_cons_of_ne noSpace, attaches, induction]
              · by_cases ampersand : character = '&'
                · subst ampersand
                  simp [replace_space_of_ne star, replace_cons_of_ne noSpace, replace_space_mark,
                    attaches, induction]
                · simp [replace_space_of_ne star, replace_space_of_ne ampersand,
                    replace_cons_of_ne noSpace, attaches, star, ampersand, induction]

/-- Squeezing a text in one pass gives the normal form of the three steps. -/
theorem squeeze_eq_normalize (spelling : Text) : squeeze spelling = normalize spelling := by
  rw [normalize, join_words, replace_collapseFrom, squeeze]

end MethodRoles.Spelling
