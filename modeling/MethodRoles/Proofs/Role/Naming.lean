import MethodRoles.Role.Naming
import Mathlib.Data.List.Basic

/-!
# Names give back what they are built from

The property behind a getter or a switch, and the property and option behind a
selector, build up the very name that they are read from.  Different properties
have different getters and different switches.

A selector may be read in several ways when the letters `To` occur in it more than
once.  The first of them that may split the name does (`selection?_eq_some_iff`).
-/

namespace MethodRoles.Naming

section Accessors

variable {property other : Text}

theorem switchOn_inj : switchOn property = switchOn other ↔ property = other :=
  List.append_left_inj _

theorem switchOff_inj : switchOff property = switchOff other ↔ property = other :=
  List.append_left_inj _

theorem getter_inj : getter property = getter other ↔ property = other :=
  List.append_right_inj _

theorem setter_inj : setter property = setter other ↔ property = other :=
  List.append_right_inj _

theorem selector_eq_setter (property option : Text) :
    selector property option = setter (property ++ "To".toList ++ option) := by
  simp only [selector, setter, List.append_assoc]

end Accessors

theorem setter_ne_getter (property other : Text) : setter property ≠ getter other := by
  simp [setter, getter]

theorem getLast?_switchOn (property : Text) : (switchOn property).getLast? = some 'n' := by
  rw [switchOn, List.getLast?_append]
  rfl

theorem getLast?_switchOff (property : Text) : (switchOff property).getLast? = some 'f' := by
  rw [switchOff, List.getLast?_append]
  rfl

theorem switchOn_ne_switchOff (property other : Text) : switchOn property ≠ switchOff other := by
  intro same
  have last := getLast?_switchOn property
  rw [same, getLast?_switchOff] at last
  exact absurd last (by decide)

theorem nonempty?_eq_some_iff {text kept : Text} :
    nonempty? text = some kept ↔ text = kept ∧ kept ≠ [] := by
  cases text with
  | nil => simp [nonempty?, eq_comm]
  | cons character rest =>
      simp only [nonempty?, List.isEmpty_cons, Bool.false_eq_true, if_false, Option.some.injEq]
      constructor
      · rintro rfl
        exact ⟨rfl, List.cons_ne_nil _ _⟩
      · exact And.left

/-- A name switches a property on when it is the property with the switch behind it. -/
theorem switchedProperty?_eq_some_iff {name property : Text} :
    switchedProperty? name = some property ↔ name = switchOn property ∧ property ≠ [] := by
  simp only [switchedProperty?, Option.bind_eq_some_iff, Text.dropTrailing?_eq_some_iff,
    nonempty?_eq_some_iff, switchOn]
  constructor
  · rintro ⟨_, whole, rfl, nonempty⟩
    exact ⟨whole, nonempty⟩
  · rintro ⟨whole, nonempty⟩
    exact ⟨property, whole, rfl, nonempty⟩

/-- A name reads a property when it is the property with the letters `Get` before it. -/
theorem getterProperty?_eq_some_iff {name property : Text} :
    getterProperty? name = some property ↔ name = getter property ∧ property ≠ [] := by
  simp only [getterProperty?, Option.bind_eq_some_iff, Text.dropLeading?_eq_some_iff,
    nonempty?_eq_some_iff, getter]
  constructor
  · rintro ⟨_, whole, rfl, nonempty⟩
    exact ⟨whole, nonempty⟩
  · rintro ⟨whole, nonempty⟩
    exact ⟨property, whole, rfl, nonempty⟩

theorem mem_boundBases_iff {property base : Text} :
    base ∈ boundBases property ↔
      base ≠ [] ∧ ∃ suffix ∈ boundSuffixes, property = base ++ suffix := by
  simp only [boundBases, List.mem_filterMap, Option.bind_eq_some_iff,
    Text.dropTrailing?_eq_some_iff, nonempty?_eq_some_iff]
  constructor
  · rintro ⟨suffix, listed, _, whole, rfl, nonempty⟩
    exact ⟨nonempty, suffix, listed, whole⟩
  · rintro ⟨nonempty, suffix, listed, whole⟩
    exact ⟨suffix, listed, base, whole, rfl, nonempty⟩

theorem optionAt?_eq_some_iff {text option : Text} :
    optionAt? text = some option ↔
      text = "To".toList ++ option ∧ startsOption option = true := by
  simp [optionAt?, Option.filter_eq_some_iff, Text.dropLeading?_eq_some_iff]

/-- A name selects an option by the first of its letters `To` that may split it. -/
structure Selects (name property option : Text) : Prop where
  /-- The name is built from the property and the option, -/
  named : name = selector property option
  /-- the property has a name, -/
  nonempty : property ≠ []
  /-- the option starts like one, -/
  starts : startsOption option = true
  /-- and no property before earlier letters would do. -/
  first : ∀ shorter rest, name = selector shorter rest → shorter ≠ [] →
    startsOption rest = true → property.length ≤ shorter.length

/-- The letters `To` behind a part of a text may split it, if `ahead` stands before the text. -/
def SplitsAt (ahead text passed option : Text) : Prop :=
  text = passed ++ "To".toList ++ option ∧ ahead ++ passed ≠ [] ∧ startsOption option = true

section Splits

variable {ahead text passed option rest property : Text} {character : Char}

theorem splitsAt_nil_iff :
    SplitsAt ahead text [] option ↔
      (if ahead.isEmpty then none else optionAt? text) = some option := by
  cases ahead with
  | nil => simp [SplitsAt]
  | cons first others => simp [SplitsAt, optionAt?_eq_some_iff]

theorem splitsAt_cons_iff {first : Char} :
    SplitsAt ahead (character :: rest) (first :: passed) option ↔
      first = character ∧ SplitsAt (ahead ++ [character]) rest passed option := by
  simp only [SplitsAt, List.cons_append, List.cons.injEq, List.append_assoc, ne_eq,
    List.append_eq_nil_iff, reduceCtorEq, and_false, not_false_eq_true, true_and]
  constructor
  · rintro ⟨⟨rfl, whole⟩, starts⟩
    exact ⟨rfl, whole, starts⟩
  · rintro ⟨rfl, whole, starts⟩
    exact ⟨⟨rfl, whole⟩, starts⟩

/-- A text is split at the first letters `To` that may split it. -/
theorem splitOption?_eq_some_iff :
    splitOption? ahead text = some (property, option) ↔
      ∃ passed, property = ahead ++ passed ∧ SplitsAt ahead text passed option ∧
        ∀ shorter rest, SplitsAt ahead text shorter rest → passed.length ≤ shorter.length := by
  -- A letter that is passed over moves from the text to the end of `ahead`.
  induction text generalizing ahead with
  | nil => simp [splitOption?, SplitsAt]
  | cons character text induction =>
      rw [splitOption?]
      split
      case h_1 here found =>
        rw [← splitsAt_nil_iff] at found
        constructor
        · intro split
          rcases Prod.mk.inj (Option.some.inj split) with ⟨rfl, rfl⟩
          exact ⟨[], (List.append_nil _).symm, found, fun _ _ _ => Nat.zero_le _⟩
        · rintro ⟨passed, rfl, splits, first⟩
          rw [List.eq_nil_of_length_eq_zero (Nat.le_zero.mp (first [] here found))] at splits ⊢
          rw [splitsAt_nil_iff] at found splits
          rw [List.append_nil, Option.some.inj (found.symm.trans splits)]
      case h_2 missing =>
        have notHere (rest : Text) : ¬ SplitsAt ahead (character :: text) [] rest := by
          rw [splitsAt_nil_iff, missing]
          exact nofun
        rw [induction]
        constructor
        · rintro ⟨passed, rfl, splits, first⟩
          refine ⟨character :: passed, by simp, splitsAt_cons_iff.mpr ⟨rfl, splits⟩, ?_⟩
          rintro (_ | ⟨letter, shorter⟩) rest other
          · exact absurd other (notHere rest)
          · exact Nat.succ_le_succ (first shorter rest (splitsAt_cons_iff.mp other).2)
        · rintro ⟨_ | ⟨letter, passed⟩, rfl, splits, first⟩
          · exact absurd splits (notHere option)
          · rcases splitsAt_cons_iff.mp splits with ⟨rfl, splits⟩
            refine ⟨passed, by simp, splits, ?_⟩
            intro shorter rest other
            exact Nat.le_of_succ_le_succ
              (first (letter :: shorter) rest (splitsAt_cons_iff.mpr ⟨rfl, other⟩))

/-- A text is not split exactly if no letters `To` may split it. -/
theorem splitOption?_eq_none_iff :
    splitOption? ahead text = none ↔ ∀ passed option, ¬ SplitsAt ahead text passed option := by
  induction text generalizing ahead with
  | nil => simp [splitOption?, SplitsAt]
  | cons character text induction =>
      rw [splitOption?]
      split
      case h_1 option found =>
        rw [← splitsAt_nil_iff] at found
        simp only [reduceCtorEq, false_iff, not_forall, not_not]
        exact ⟨[], option, found⟩
      case h_2 missing =>
        have notHere (option : Text) : ¬ SplitsAt ahead (character :: text) [] option := by
          rw [splitsAt_nil_iff, missing]
          exact nofun
        rw [induction]
        constructor
        · rintro none (_ | ⟨first, passed⟩) option splits
          · exact notHere option splits
          · exact none passed option (splitsAt_cons_iff.mp splits).2
        · intro none passed option splits
          exact none (character :: passed) option (splitsAt_cons_iff.mpr ⟨rfl, splits⟩)

/-- Where nothing stands before a text, its splits are those of the setter that it names. -/
theorem splitsAt_setter_iff :
    SplitsAt [] text passed option ↔
      setter text = selector passed option ∧ passed ≠ [] ∧ startsOption option = true := by
  rw [SplitsAt, List.nil_append, setter, selector, List.append_assoc, List.append_assoc,
    List.append_assoc, List.append_right_inj]

end Splits

/-- A split passes over a part of the text that belongs to the property. -/
theorem exists_of_splitOption? {ahead text property option : Text}
    (split : splitOption? ahead text = some (property, option)) :
    ∃ passed, text = passed ++ "To".toList ++ option ∧ property = ahead ++ passed ∧
      startsOption option = true := by
  rcases splitOption?_eq_some_iff.mp split with ⟨passed, rfl, ⟨whole, -, starts⟩, -⟩
  exact ⟨passed, whole, rfl, starts⟩

theorem eq_of_splitOption? {ahead text property option : Text}
    (split : splitOption? ahead text = some (property, option)) :
    ahead ++ text = property ++ "To".toList ++ option := by
  rcases exists_of_splitOption? split with ⟨passed, rfl, rfl, -⟩
  simp only [List.append_assoc]

theorem selection?_setter (property : Text) :
    selection? (setter property) = splitOption? [] property := by
  have behind : Text.dropLeading? "Set".toList (setter property) = some property :=
    Text.dropLeading?_append "Set".toList property
  rw [selection?, behind]
  rfl

/-- What a name selects is read from its first split. -/
theorem selection?_eq_some_iff {name property option : Text} :
    selection? name = some (property, option) ↔ Selects name property option := by
  constructor
  · intro selected
    rcases Option.bind_eq_some_iff.mp selected with ⟨text, whole, split⟩
    obtain rfl : name = setter text := Text.dropLeading?_eq_some_iff.mp whole
    rcases splitOption?_eq_some_iff.mp split with ⟨passed, rfl, splits, first⟩
    rcases splitsAt_setter_iff.mp splits with ⟨named, nonempty, starts⟩
    exact ⟨named, nonempty, starts, fun shorter rest other filled begins =>
      first shorter rest (splitsAt_setter_iff.mpr ⟨other, filled, begins⟩)⟩
  · rintro ⟨named, nonempty, starts, first⟩
    obtain rfl : name = setter (property ++ "To".toList ++ option) :=
      named.trans (selector_eq_setter property option)
    rw [selection?_setter, splitOption?_eq_some_iff]
    refine ⟨property, rfl, splitsAt_setter_iff.mpr ⟨named, nonempty, starts⟩, ?_⟩
    intro shorter rest other
    rcases splitsAt_setter_iff.mp other with ⟨others, filled, begins⟩
    exact first shorter rest others filled begins

/-- A name selects nothing exactly if it is not built from a property and an option. -/
theorem selection?_eq_none_iff {name : Text} :
    selection? name = none ↔
      ¬ ∃ property option, name = selector property option ∧ property ≠ [] ∧
        startsOption option = true := by
  constructor
  · rintro nothing ⟨property, option, rfl, nonempty, starts⟩
    have named := selector_eq_setter property option
    rw [named, selection?_setter, splitOption?_eq_none_iff] at nothing
    exact nothing property option (splitsAt_setter_iff.mpr ⟨named.symm, nonempty, starts⟩)
  · intro unbuilt
    rw [selection?, Option.bind_eq_none_iff]
    intro text behind
    obtain rfl : name = setter text := Text.dropLeading?_eq_some_iff.mp behind
    rw [splitOption?_eq_none_iff]
    intro passed option splits
    exact unbuilt ⟨passed, option, splitsAt_setter_iff.mp splits⟩

example : selection? "SetTotalToToday".toList = some ("Total".toList, "Today".toList) := by
  decide

/-- A selector is the name of the property and the option that it selects. -/
theorem eq_selector_of_selection? {name property option : Text}
    (selected : selection? name = some (property, option)) :
    name = selector property option :=
  (selection?_eq_some_iff.mp selected).named

theorem optionAt?_append {text option : Text} (found : optionAt? text = some option)
    (more : Text) : optionAt? (text ++ more) = some (option ++ more) := by
  rw [optionAt?_eq_some_iff] at found ⊢
  rcases found with ⟨rfl, starts⟩
  refine ⟨List.append_assoc _ _ _, ?_⟩
  cases option with
  | nil => simp [startsOption] at starts
  | cons first rest => exact starts

/-- Three letters decide whether an option follows. -/
theorem optionAt?_append_eq_none {first second third : Char} {rest : Text}
    (missing : optionAt? (first :: second :: third :: rest) = none) (more : Text) :
    optionAt? (first :: second :: third :: rest ++ more) = none := by
  rw [Option.eq_none_iff_forall_ne_some] at missing ⊢
  intro option found
  rw [optionAt?_eq_some_iff] at found
  rcases found with ⟨whole, starts⟩
  rcases option with _ | ⟨head, tail⟩
  · simp [startsOption] at starts
  · simp only [List.cons_append, String.reduceToList, List.cons.injEq, List.nil_append] at whole
    rcases whole with ⟨rfl, rfl, rfl, -⟩
    exact missing (third :: rest) (optionAt?_eq_some_iff.mpr ⟨rfl, starts⟩)

/-- The first split of a text stays the first when the option goes on. -/
theorem splitOption?_append {ahead text property option : Text}
    (split : splitOption? ahead text = some (property, option)) (more : Text) :
    splitOption? ahead (text ++ more) = some (property, option ++ more) := by
  induction text generalizing ahead with
  | nil => simp [splitOption?] at split
  | cons character rest induction =>
      rw [splitOption?] at split
      rw [List.cons_append, splitOption?]
      split at split
      case h_1 later found =>
        simp only [Option.some.injEq, Prod.mk.injEq] at split
        rcases split with ⟨rfl, rfl⟩
        split at found
        · simp at found
        · rename_i begun
          rw [if_neg begun]
          have longer := optionAt?_append found more
          rw [List.cons_append] at longer
          rw [longer]
      case h_2 missing =>
        have later := induction split
        -- The split lies further on, so the three letters here are all in the text.
        have letters : ∃ second third tail, rest = second :: third :: tail := by
          rcases exists_of_splitOption? split with ⟨passed, whole, -, -⟩
          rcases passed with _ | ⟨second, _ | ⟨third, tail⟩⟩ <;> simp [whole]
        rcases letters with ⟨second, third, tail, rfl⟩
        have stays : (if ahead.isEmpty = true then none
            else optionAt? (character :: (second :: third :: tail ++ more))) = none := by
          split at missing
          · rename_i empty
            rw [if_pos empty]
          · rename_i begun
            rw [if_neg begun]
            exact optionAt?_append_eq_none missing more
        rw [stays]
        exact later

/-- The setter of a property with a selector is no selector itself. -/
theorem selection?_setter_eq_none {property option : Text}
    (selected : selection? (selector property option) = some (property, option)) :
    selection? (setter property) = none := by
  rw [selector_eq_setter, List.append_assoc, selection?_setter] at selected
  rw [selection?_setter, Option.eq_none_iff_forall_ne_some]
  rintro ⟨shorter, rest⟩ split
  -- The first split inside the property would also be the first split of the selector.
  have first := splitOption?_append split ("To".toList ++ option)
  rw [selected, Option.some.injEq, Prod.mk.injEq] at first
  have parts := congrArg List.length (eq_of_splitOption? split)
  rw [← first.1] at parts
  simp only [List.length_append, List.length_nil, String.reduceToList, List.length_cons] at parts
  omega

end MethodRoles.Naming
