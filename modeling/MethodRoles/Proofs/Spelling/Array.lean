import MethodRoles.Proofs.Overload.NativeParameter
import MethodRoles.Proofs.Spelling.Capacity
import Mathlib.Data.Nat.Digits.Defs

/-!
# Arrays

A native array is declared by a name with its dimensions behind it, each in its own
brackets.  The dimensions nest from the outermost to the innermost: a number makes a
tuple of as many elements, and empty brackets make a sequence.

This holds of numbers for which a tuple can be held.  They are used from the innermost
outwards, so the innermost word that is neither such a number nor empty decides: a number
that is too large breaks off the reading, although it has 64 bits and an array of no rows
would need no elements, and any other word leaves the spelling without a type
(`typeOf?_array`).

A generic name with one pair of brackets is no array, since these brackets hold types.
-/

namespace MethodRoles.Spelling

open Text Scan Overload

/-- The number that decimal digits write. -/
def numeral (digits : Text) : Nat :=
  Nat.ofDigits 10 (digits.reverse.map fun digit => digit.toNat - '0'.toNat)

/-- A decimal number of at most 64 bits. -/
structure IsSize (word : Text) : Prop where
  nonempty : word ≠ []
  digits : ∀ character ∈ word, character.isDigit = true
  bounded : numeral word < 2 ^ 64

theorem isSize_iff {word : Text} :
    IsSize word ↔ (word.isEmpty || !word.all Char.isDigit) = false ∧ numeral word < 2 ^ 64 := by
  have written : (word.isEmpty || !word.all Char.isDigit) = false ↔
      word ≠ [] ∧ ∀ character ∈ word, character.isDigit = true := by
    simp
  rw [written]
  exact ⟨fun size => ⟨⟨size.nonempty, size.digits⟩, size.bounded⟩,
    fun ⟨⟨nonempty, digits⟩, bounded⟩ => ⟨nonempty, digits, bounded⟩⟩

instance : DecidablePred IsSize := fun _ =>
  decidable_of_iff _ isSize_iff.symm

theorem IsSize.continues {word : Text} (size : IsSize word) :
    ∀ character ∈ word, continuesIdentifier character = true := fun character member =>
  continuesIdentifier_of_isDigit (size.digits character member)

/-- The type of an array, by the word in its brackets and the type of its elements. -/
def layer (word : Text) (element : SlotType) : SlotType :=
  if word = [] then
    .sequence [element]
  else
    .tuple (numeral word) (List.replicate (numeral word) element)

/-- The names whose only subscript holds types. -/
def genericNames : List Text :=
  ["Tuple", "tuple", "List", "list", "Sequence", "MutableSequence", "Iterable", "Iterator",
    "Optional", "Callable"].map String.toList

/-- Empty brackets, or a number for which a tuple can be held. -/
def IsHeld (word : Text) : Prop :=
  word = [] ∨ IsSize word ∧ SlotType.holds (numeral word) = true

instance : DecidablePred IsHeld := fun word =>
  inferInstanceAs (Decidable (word = [] ∨ IsSize word ∧ SlotType.holds (numeral word) = true))

theorem noSign_of_isSize {word : Text} (size : IsSize word) : '+' ∉ word :=
  fun member => absurd (size.digits '+' member) (by decide)

namespace Form

section Count

variable {word : Text}

/-- A number is put together from its digits in the order in which they stand. -/
theorem foldl_digits (digits : Text) :
    digits.foldl (fun number digit => 10 * number + (digit.toNat - 48)) 0 = numeral digits := by
  have order : (fun number (digit : Char) => 10 * number + (digit.toNat - 48)) =
      fun number digit => (digit.toNat - '0'.toNat) + 10 * number := by
    funext number digit
    exact Nat.add_comm _ _
  rw [numeral, Nat.ofDigits_eq_foldr, List.foldr_map, List.foldr_reverse, order]
  rfl

/-- A word without a sign is read as a number exactly when it is one of at most 64 bits. -/
theorem count?_eq_ite (noSign : '+' ∉ word) :
    count? word = if IsSize word then some (numeral word) else none := by
  have read : count? word =
      if word.isEmpty || !word.all Char.isDigit then none
      else if numeral word < 2 ^ 64 then some (numeral word) else none := by
    rw [← foldl_digits]
    cases word with
    | nil => rfl
    | cons first rest =>
        have differs : first ≠ '+' := by
          rintro rfl
          exact noSign List.mem_cons_self
        simp [count?, differs]
  simp only [read, isSize_iff]
  cases (word.isEmpty || !word.all Char.isDigit) <;> simp

theorem dimension?_eq_ite (nonempty : word ≠ []) (noSign : '+' ∉ word) :
    dimension? word = if IsSize word then some (some (numeral word)) else none := by
  rw [dimension?, List.isEmpty_eq_false_iff.mpr nonempty, count?_eq_ite noSign]
  split <;> simp_all

/-- A word that can be held goes around the elements. -/
theorem nest?_cons_of_isHeld (held : IsHeld word) (outer : List Text) (element : SlotType) :
    nest? (word :: outer) element = nest? outer (layer word element) := by
  rcases held with rfl | ⟨size, holds⟩
  · rfl
  · simp [nest?, dimension?_eq_ite size.nonempty (noSign_of_isSize size), size, dimensioned?,
      SlotType.repeated?, holds, SlotType.repeated, layer, size.nonempty]

/-- A number that is too large breaks off, whatever stands before it. -/
theorem nest?_cons_of_large (size : IsSize word) (large : SlotType.holds (numeral word) = false)
    (outer : List Text) (element : SlotType) : nest? (word :: outer) element = none := by
  simp [nest?, dimension?_eq_ite size.nonempty (noSign_of_isSize size), size, dimensioned?,
    SlotType.repeated?, large]

/-- A word that is no number leaves no type, whatever stands before it. -/
theorem nest?_cons_of_not_isSize (nonempty : word ≠ []) (noSign : '+' ∉ word)
    (noSize : ¬ IsSize word) (outer : List Text) (element : SlotType) :
    nest? (word :: outer) element = some .unknown := by
  simp [nest?, dimension?_eq_ite nonempty noSign, noSize]

/-- Words that can be held nest as dimensions, and what stands before them goes around. -/
theorem nest?_append {words : List Text} (held : ∀ word ∈ words, IsHeld word)
    (outer : List Text) (element : SlotType) :
    nest? (words ++ outer) element =
      nest? outer (words.foldl (fun type word => layer word type) element) := by
  induction words generalizing element with
  | nil => rfl
  | cons word others induction =>
      rcases List.forall_mem_cons.mp held with ⟨here, later⟩
      rw [List.cons_append, nest?_cons_of_isHeld here, induction later, List.foldl_cons]

end Count

theorem ofGeneric_eq_array {base : Text} (notGeneric : base ∉ genericNames) (word : Text) :
    ofGeneric base word = .array base [word] := by
  have listed : ∀ name ∈ tupleNames ++ sequenceNames ++ ["Optional".toList, "Callable".toList],
      name ∈ genericNames := by
    decide
  have differs : ∀ name ∈ tupleNames ++ sequenceNames ++ ["Optional".toList, "Callable".toList],
      base ≠ name := by
    rintro name member rfl
    exact notGeneric (listed base member)
  simp only [List.forall_mem_append, List.forall_mem_cons] at differs
  rcases differs with ⟨⟨tuples, sequences⟩, optional, callable, -⟩
  have noTuple : tupleNames.contains base = false := by
    simpa using fun member => tuples base member rfl
  have noSequence : sequenceNames.contains base = false := by
    simpa using fun member => sequences base member rfl
  rw [ofGeneric, noTuple, noSequence, beq_false_of_ne optional, beq_false_of_ne callable]
  rfl

section Brackets

variable {words : List Text}
  (plain : ∀ word ∈ words, ∀ character ∈ word, continuesIdentifier character = true)

include plain

/-- The words in the brackets behind a name are its subscripts. -/
theorem subscripts?_bracketed : subscripts? (bracketed words) = some words := by
  have opens : isOpener '[' = true := rfl
  induction words with
  | nil => rw [bracketed, List.flatMap_nil, subscripts?]
  | cons word others induction =>
      rcases List.forall_mem_cons.mp plain with ⟨here, later⟩
      have flat : ∀ character ∈ word, isFlat character = true ∧ True := fun character member =>
        ⟨isFlat_of_isNameCharacter (isNameCharacter_of_continues (here character member)), trivial⟩
      have trimmed : trim word = word := trim_eq_self_of_visible fun character member =>
        isBlank_of_continuesIdentifier (here character member)
      have next : trimStart (bracketed others) = bracketed others := by
        cases others <;> rfl
      have taken := takeGroup?_of_nested opens (.inr rfl) (Nested.of_flat flat) (bracketed others)
      rw [List.cons_append] at taken
      rw [bracketed_cons, subscripts?]
      split
      case h_1 missing =>
        rw [taken] at missing
        contradiction
      case h_2 inside after found =>
        rw [taken, Option.some.injEq, Prod.mk.injEq] at found
        rw [← found.1, ← found.2, next, induction later, trimmed]
        rfl

/-- Words in brackets are dimensions, unless they are the only one behind a generic name. -/
theorem ofSubscripted_bracketed {base : Text} (trimmed : trim base = base)
    (notGeneric : words.length = 1 → base ∉ genericNames) :
    ofSubscripted base (bracketed words) = .array base words := by
  rw [ofSubscripted, subscripts?_bracketed plain, trimmed]
  rcases words with _ | ⟨word, _ | ⟨next, others⟩⟩
  · rfl
  · exact ofGeneric_eq_array (notGeneric rfl) word
  · rfl

theorem isNameCharacter_of_mem_bracketed {character : Char}
    (member : character ∈ bracketed words) :
    isNameCharacter character = true ∨ character = '[' ∨ character = ']' := by
  rcases List.mem_flatMap.mp member with ⟨word, listed, member⟩
  simp only [List.cons_append, List.mem_cons, List.mem_append, List.not_mem_nil, or_false]
    at member
  rcases member with opener | member | closer
  · exact .inr (.inl opener)
  · exact .inl (isNameCharacter_of_continues (plain word listed character member))
  · exact .inr (.inr closer)

/-- A name with brackets behind it is read by its brackets. -/
theorem ofText_bracketed {base : Text} (identifier : isIdentifier base = true)
    (nonempty : words ≠ []) :
    ofText (base ++ bracketed words) = ofSubscripted base (bracketed words) := by
  have named := isNameCharacter_of_isIdentifier identifier
  have characters : ∀ character ∈ base ++ bracketed words,
      isNameCharacter character = true ∨ character = '[' ∨ character = ']' := by
    rw [List.forall_mem_append]
    exact ⟨fun character member => .inl (named character member),
      fun _ => isNameCharacter_of_mem_bracketed plain⟩
  have visible : ∀ character ∈ base ++ bracketed words, isBlank character = false := by
    intro character member
    rcases characters character member with inside | rfl | rfl
    · exact isBlank_of_isNameCharacter inside
    · rfl
    · rfl
  have noStar : '*' ∉ base ++ bracketed words :=
    fun member => absurd (characters '*' member) (by decide)
  have noAmpersand : '&' ∉ base ++ bracketed words :=
    fun member => absurd (characters '&' member) (by decide)
  have nonemptyBase := ne_nil_of_isIdentifier identifier
  have noGroup : startsGroup (base ++ bracketed words) = false := by
    rcases List.exists_cons_of_ne_nil nonemptyBase with ⟨first, rest, rfl⟩
    exact startsGroup_cons_of_isNameCharacter (named first List.mem_cons_self) _
  rcases List.exists_cons_of_ne_nil nonempty with ⟨word, others, rfl⟩
  have outside : lookup? (base ++ bracketed (word :: others)) = none :=
    lookup?_eq_none_of_mem (by simp [bracketed_cons])
  have cut : subscripted? (base ++ bracketed (word :: others)) =
      some (base, bracketed (word :: others)) := by
    rw [subscripted?, bracketed_cons,
      cutTop?_append_cons_of_flat (flat_of_isIdentifier identifier (by decide))]
    simp [nonemptyBase]
  rw [ofText_eq_ofNamed (by simp [nonemptyBase]) visible noStar noAmpersand noGroup outside,
    ofNamed, cut]

end Brackets

/-- An identifier is the spelling of a type that needs no part read. -/
theorem exists_ofText_identifier {name : Text} (identifier : isIdentifier name = true) :
    ∃ type, ofText name = .known type := by
  have named := isNameCharacter_of_isIdentifier identifier
  have missing : ∀ character, isNameCharacter character = false → character ∉ name := by
    intro character other member
    exact ne_of_isNameCharacter (named character member) other rfl
  have nonempty := ne_nil_of_isIdentifier identifier
  have visible : ∀ character ∈ name, isBlank character = false :=
    fun character member => isBlank_of_isNameCharacter (named character member)
  have squeezed : squeeze name = name :=
    squeeze_eq_self (Trimmed.of_visible nonempty visible).starts (.of_visible visible)
  cases found : lookup? name with
  | some type => exact ⟨type, by simp [ofText, squeezed, ofSqueezed, nonempty, found]⟩
  | none =>
      have noGroup : startsGroup name = false := by
        rcases List.exists_cons_of_ne_nil nonempty with ⟨first, rest, rfl⟩
        exact startsGroup_cons_of_isNameCharacter (named first List.mem_cons_self) rest
      have noSubscript : subscripted? name = none := by
        rw [subscripted?, cutTop?_eq_none_of_not_mem (missing '[' (by decide))]
      have noTemplate : template? name = none := by
        rw [template?, cutTop?_eq_none_of_not_mem (missing '<' (by decide))]
      rw [ofText_eq_ofNamed nonempty visible (missing '*' (by decide)) (missing '&' (by decide))
        noGroup found, ofNamed, noSubscript, noTemplate]
      dsimp only
      split
      · exact ⟨_, rfl⟩
      · exact ⟨_, rfl⟩

end Form

theorem typeOf?_identifier {name : Text} (identifier : isIdentifier name = true) :
    typeOf? name = some (typeOf name) := by
  rcases Form.exists_ofText_identifier identifier with ⟨type, known⟩
  rw [typeOf?_eq, typeOf_eq, known]
  rfl

section Typed

variable {base : Text} {words : List Text}

theorem typeOf?_bracketed (identifier : isIdentifier base = true)
    (plain : ∀ word ∈ words, ∀ character ∈ word, continuesIdentifier character = true)
    (notGeneric : words.length = 1 → base ∉ genericNames) (nonempty : words ≠ []) :
    typeOf? (base ++ bracketed words) = Form.nest? words.reverse (typeOf base) := by
  have trimmed := trim_eq_self (trimmed_of_isIdentifier identifier)
  rw [typeOf?_eq, Form.ofText_bracketed plain identifier nonempty,
    Form.ofSubscripted_bracketed plain trimmed notGeneric, Form.typeBy?,
    typeOf?_identifier identifier, Option.bind_some]

/--
An array has the type that its dimensions nest from the outermost to the innermost, if every
word is empty or a number for which a tuple can be held.  If not, the innermost word that is
neither decides: a number for which no tuple can be held breaks off the reading, and with any
other word the array has no type.
-/
theorem typeOf?_array (identifier : isIdentifier base = true)
    (notGeneric : words.length = 1 → base ∉ genericNames) :
    typeOf? base = some (typeOf base) ∧
      ((∀ word ∈ words, IsHeld word) →
        typeOf? (base ++ bracketed words) = some (words.foldr layer (typeOf base))) ∧
      ((∀ word ∈ words, ∀ character ∈ word, continuesIdentifier character = true) →
        ∀ outer word inner, words = outer ++ word :: inner → (∀ other ∈ inner, IsHeld other) →
          (IsSize word → SlotType.holds (numeral word) = false →
              typeOf? (base ++ bracketed words) = none) ∧
            (word ≠ [] → ¬ IsSize word →
              typeOf? (base ++ bracketed words) = some .unknown)) := by
  have name := typeOf?_identifier identifier
  refine ⟨name, ?held, ?others⟩
  case held =>
    intro held
    have plain : ∀ word ∈ words, ∀ character ∈ word, continuesIdentifier character = true := by
      intro word member
      rcases held word member with rfl | ⟨size, -⟩
      · exact List.forall_mem_nil _
      · exact size.continues
    by_cases empty : words = []
    · subst empty
      simp [bracketed, name]
    · have nested := Form.nest?_append
        (fun word member => held word (List.mem_reverse.mp member)) [] (typeOf base)
      rw [List.append_nil, List.foldl_reverse] at nested
      rw [typeOf?_bracketed identifier plain notGeneric empty, nested]
      rfl
  case others =>
    rintro plain outer word inner rfl held
    have noSign : '+' ∉ word := fun sign =>
      absurd (plain word (List.mem_append_right outer List.mem_cons_self) '+' sign) (by decide)
    have nested := Form.nest?_append
      (fun other member => held other (List.mem_reverse.mp member)) (word :: outer.reverse)
      (typeOf base)
    rw [typeOf?_bracketed identifier plain notGeneric (by simp), List.reverse_append,
      List.reverse_cons, List.append_assoc, List.singleton_append, nested]
    constructor
    · intro size large
      exact Form.nest?_cons_of_large size large _ _
    · intro nonempty noSize
      exact Form.nest?_cons_of_not_isSize nonempty noSign noSize _ _

end Typed

/-- A tuple of sequences of tuples, an array with a word for a number, and one that is too large. -/
theorem typeOf?_array_grid :
    typeOf? "double[2][][010]".toList = some
        (.tuple 2 (.replicate 2
          (.sequence [.tuple 10 (.replicate 10 (.scalar "float".toList))]))) ∧
      typeOf? "double[2][size][]".toList = some .unknown ∧
        typeOf? "double[size][18446744073709551615][2]".toList = none := by
  have identifier : isIdentifier "double".toList = true := by decide
  refine ⟨?held, ?worded, ?large⟩
  case held =>
    have held : ∀ word ∈ ["2".toList, [], "010".toList], IsHeld word := by decide +kernel
    have element : typeOf "double".toList = .scalar "float".toList := by decide +kernel
    have nested := (typeOf?_array identifier (by decide)).2.1 held
    rw [element] at nested
    exact nested
  case worded =>
    have named : ["2".toList, "size".toList, []].all (·.all continuesIdentifier) = true := by
      decide
    have inner : ∀ word ∈ [[]], IsHeld word := by decide +kernel
    exact ((typeOf?_array identifier (by decide)).2.2
      (fun word member => List.all_eq_true.mp (List.all_eq_true.mp named word member))
      ["2".toList] "size".toList [[]] rfl inner).2 (by decide) (by decide +kernel)
  case large =>
    have named : ["size".toList, "18446744073709551615".toList, "2".toList].all
        (·.all continuesIdentifier) = true := by
      decide
    have inner : ∀ word ∈ ["2".toList], IsHeld word := by decide +kernel
    exact ((typeOf?_array identifier (by decide)).2.2
      (fun word member => List.all_eq_true.mp (List.all_eq_true.mp named word member))
      ["size".toList] "18446744073709551615".toList ["2".toList] rfl inner).1
      (by decide +kernel) (by decide +kernel)

/--
No rows of more elements than can be held: both sizes have 64 bits, and the type that they nest
is the tuple of no elements, but the reading breaks off at the inner one.
-/
theorem not_typed_emptyRows :
    IsSize "0".toList ∧ IsSize "18446744073709551615".toList ∧
      ["0".toList, "18446744073709551615".toList].foldr layer (typeOf "int".toList) =
          .tuple 0 [] ∧
        typeOf? ("int".toList ++ bracketed ["0".toList, "18446744073709551615".toList]) =
          none := by
  refine ⟨by decide, by decide +kernel, rfl, ?_⟩
  decide +kernel

end MethodRoles.Spelling
