import MethodRoles.Role.Selection
import MethodRoles.Proofs.Role.Naming
import MethodRoles.Proofs.Text.Bytes

/-!
# The first split of a selector

A name is split at the first letters `To` that have a property in front of them and an
option behind them.  Trying the places of these letters one after the other, by their bytes,
finds the same split and never cuts a character in two (`readSelection_eq`).

Together: a name selects the option behind the shortest property that it can be built from,
it selects nothing exactly if it cannot be built from a property and an option at all, and
different names never select the same (`selectsFirst`).
-/

namespace MethodRoles.Naming

open Text

variable {rest : Text} {character : Char}

/-! ## Trying the places -/

theorem byteLength_to : byteLength "To".toList = 2 := by
  decide

theorem splitOption?_cons (missing : startsWith "To".toList (character :: rest) = false)
    (ahead : Text) :
    splitOption? ahead (character :: rest) = splitOption? (ahead ++ [character]) rest := by
  have noOption : optionAt? (character :: rest) = none := by
    rw [optionAt?, Option.not_isSome_iff_eq_none.mp (Bool.eq_false_iff.mp missing),
      Option.filter_none]
  rw [splitOption?, noOption, ite_self]

/-- At the letters `To` a text is split, unless the property or the option is missing. -/
theorem splitOption?_to (ahead rest : Text) :
    splitOption? ahead ("To".toList ++ rest) =
      if !ahead.isEmpty && startsOption rest then some (ahead, rest)
      else splitOption? (ahead ++ "To".toList) rest := by
  have behind : dropLeading? "To".toList ('T' :: 'o' :: rest) = some rest :=
    dropLeading?_append "To".toList rest
  have option : optionAt? ('T' :: 'o' :: rest) = if startsOption rest then some rest else none := by
    rw [optionAt?, behind, Option.filter_some]
  have later : splitOption? (ahead ++ ['T']) ('o' :: rest) =
      splitOption? (ahead ++ "To".toList) rest := by
    rw [splitOption?_cons rfl, List.append_assoc]
    rfl
  change splitOption? ahead ('T' :: 'o' :: rest) = _
  rw [splitOption?, option, later]
  cases ahead.isEmpty <;> cases startsOption rest <;> rfl

/-- Trying the places of a text finds its first split. -/
theorem splitAtPlaces_placesFrom (ahead text : Text) :
    splitAtPlaces (ahead ++ text) (placesFrom "To".toList (byteLength ahead) text) =
      some (splitOption? ahead text) := by
  -- What was searched moves from the text to the end of `ahead`, one character or two at once.
  generalize searched : byteLength ahead = passed
  fun_induction placesFrom "To".toList passed text generalizing ahead with
  | case1 => rfl
  | case2 passed character rest starts induction =>
      subst searched
      rcases Option.isSome_iff_exists.mp starts with ⟨after, found⟩
      have whole : character :: rest = "To".toList ++ after := dropLeading?_eq_some_iff.mp found
      have behind : rest.drop ("To".toList.length - 1) = after := by
        rw [(List.cons.inj whole).2]
        rfl
      have through : byteLength (ahead ++ "To".toList) = byteLength ahead + 2 := by
        rw [byteLength_append, byteLength_to]
      have option : afterBytes? (byteLength ahead + 2) (ahead ++ ("To".toList ++ after)) =
          some after := by
        rw [← through, ← List.append_assoc, afterBytes?_append]
      rw [behind] at induction ⊢
      rw [whole, splitAtPlaces, firstBytes?_append, option, splitOption?_to]
      dsimp only
      by_cases splits : (!ahead.isEmpty && startsOption after) = true
      · rw [if_pos splits, if_pos splits]
      · rw [if_neg splits, if_neg splits, ← induction _ through, List.append_assoc]
  | case3 passed character rest missing induction =>
      subst searched
      have through : byteLength (ahead ++ [character]) = byteLength ahead + character.utf8Size :=
        byteLength_append ahead [character]
      rw [splitOption?_cons (Bool.eq_false_iff.mpr missing), ← induction _ through,
        List.append_assoc, List.singleton_append]

theorem readSelection_eq (name : Text) : readSelection name = some (selection? name) := by
  rw [readSelection, selection?]
  cases dropLeading? "Set".toList name with
  | none => rfl
  | some text => exact splitAtPlaces_placesFrom [] text

/-- The letters stand 2 and 6 bytes behind `Set`, but no option starts behind the first ones. -/
example :
    readSelection "SetÄTotoTo3D".toList = some (some ("ÄToto".toList, "3D".toList)) := by
  decide +kernel

/-! ## The first split -/

/-- What a name selects. -/
structure SelectsFirst (name : Text) : Prop where
  /-- It selects an option of a property exactly if it is built from them and the property is
  the shortest that it can be built from. -/
  found_iff : ∀ property option,
    selection? name = some (property, option) ↔ Selects name property option
  /-- It selects nothing exactly if it is not built from a property and an option. -/
  none_iff : selection? name = none ↔
    ¬ ∃ property option, name = selector property option ∧ property ≠ [] ∧
      startsOption option = true
  /-- No other name selects the same. -/
  apart : ∀ other, other ≠ name → ∀ selected,
    selection? name = some selected → selection? other ≠ some selected
  /-- Trying the places of the letters `To` by their bytes never cuts a character in two, and
  it comes to the same answer. -/
  stepwise : readSelection name = some (selection? name)

/-- A name selects by its first letters `To` that may split it, and by nothing else. -/
theorem selectsFirst (name : Text) : SelectsFirst name where
  found_iff := fun _ _ => selection?_eq_some_iff
  none_iff := selection?_eq_none_iff
  apart := by
    rintro other differ ⟨property, option⟩ selected selectedToo
    apply differ
    rw [eq_selector_of_selection? selected, eq_selector_of_selection? selectedToo]
  stepwise := readSelection_eq name

end MethodRoles.Naming
