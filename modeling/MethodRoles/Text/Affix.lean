import MethodRoles.Text.Basic

/-!
# Leading and trailing parts of a text

A word is removed from the start or from the end of a text, or the text is
refused; a word in the middle is found or replaced.  The two characterisations
say that removal succeeds exactly when the text is the word joined to the result.
-/

namespace MethodRoles.Text

/-- The text after the word `lead`, if it starts with that word. -/
def dropLeading? : (lead text : Text) → Option Text
  | [], text => some text
  | _ :: _, [] => none
  | expected :: lead, character :: text =>
      if expected = character then dropLeading? lead text else none

/-- The text before the word `tail`, if it ends with that word. -/
def dropTrailing? (tail text : Text) : Option Text :=
  (dropLeading? tail.reverse text.reverse).map List.reverse

/-- Whether a text starts with a word. -/
def startsWith (lead text : Text) : Bool :=
  (dropLeading? lead text).isSome

/-- Whether a text ends with a word. -/
def endsWith (tail text : Text) : Bool :=
  (dropTrailing? tail text).isSome

/-- Whether a word stands somewhere in a text. -/
def hasInfix (word : Text) : Text → Bool
  | [] => word.isEmpty
  | character :: rest =>
      startsWith word (character :: rest) || hasInfix word rest

/--
Replace a word in a text of which the next `passed` characters belong to an occurrence
that has been replaced.
-/
def replaceFrom (word substitute : Text) : (passed : Nat) → Text → Text
  | _, [] => []
  | passed + 1, _ :: rest => replaceFrom word substitute passed rest
  | 0, character :: rest =>
      if startsWith word (character :: rest) then
        substitute ++ replaceFrom word substitute (word.length - 1) rest
      else
        character :: replaceFrom word substitute 0 rest

/-- Replace every occurrence of a nonempty word, from the start of a text on. -/
def replace (word substitute text : Text) : Text :=
  replaceFrom word substitute 0 text

theorem dropLeading?_eq_some_iff {lead text rest : Text} :
    dropLeading? lead text = some rest ↔ text = lead ++ rest := by
  fun_induction dropLeading? lead text with
  | case1 text => simp [eq_comm]
  | case2 => simp
  | case3 expected lead text ih => simp [ih]
  | case4 expected lead character text differ =>
      simp only [reduceCtorEq, List.cons_append, List.cons.injEq, false_iff]
      exact fun equal => differ equal.1.symm

@[simp]
theorem dropLeading?_append (lead rest : Text) : dropLeading? lead (lead ++ rest) = some rest :=
  dropLeading?_eq_some_iff.mpr rfl

@[simp]
theorem startsWith_append (lead rest : Text) : startsWith lead (lead ++ rest) = true := by
  rw [startsWith, dropLeading?_append, Option.isSome_some]

theorem dropLeading?_eq_none_iff {lead text : Text} :
    dropLeading? lead text = none ↔ ∀ rest, text ≠ lead ++ rest := by
  simp only [Option.eq_none_iff_forall_ne_some, ne_eq, dropLeading?_eq_some_iff]

theorem dropTrailing?_eq_some_iff {tail text rest : Text} :
    dropTrailing? tail text = some rest ↔ text = rest ++ tail := by
  simp only [dropTrailing?, Option.map_eq_some_iff, dropLeading?_eq_some_iff]
  constructor
  · rintro ⟨reversed, whole, rfl⟩
    have := congrArg List.reverse whole
    simpa using this
  · rintro rfl
    exact ⟨rest.reverse, by simp, by simp⟩

theorem length_of_dropLeading? {lead text rest : Text}
    (found : dropLeading? lead text = some rest) :
    text.length = lead.length + rest.length := by
  rw [dropLeading?_eq_some_iff] at found
  simp [found]

theorem length_of_dropTrailing? {tail text rest : Text}
    (found : dropTrailing? tail text = some rest) :
    text.length = rest.length + tail.length := by
  rw [dropTrailing?_eq_some_iff] at found
  simp [found]

end MethodRoles.Text
