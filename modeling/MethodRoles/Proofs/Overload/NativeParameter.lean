import MethodRoles.Overload.Reading
import MethodRoles.Proofs.Spelling.Form
import MethodRoles.Proofs.Text.Lines

/-!
# Names of native parameters

A native parameter is a type, perhaps with a name behind it, and perhaps with the
dimensions of an array behind that.  The name is told from the type by the words
around it, and where it is, dropping it leaves the type with the dimensions
(`parameterSpelling_named`).

So a name does not change the type of its parameter (`typeOf_parameterSpelling_named`),
unless the type is the lone word `unsigned`.  The word behind that one may complete it, as
in the integer of 64 bits, and is never taken for a name (`not_named_unsigned`).
-/

namespace MethodRoles

open Text Scan Spelling

namespace Overload

/-- The spelling of a native type: words with single spaces between them, and stars. -/
inductive IsNativeType : Text → Prop where
  | word {word : Text} (path : ScopedName word) : IsNativeType word
  | words {type word : Text} (first : IsNativeType type) (path : ScopedName word) :
      IsNativeType (type ++ [' '] ++ word)
  | pointer {type gap : Text} (pointed : IsNativeType type) (close : gap = [] ∨ gap = [' ']) :
      IsNativeType (type ++ gap ++ ['*'])

namespace IsNativeType

variable {type : Text}

theorem trimmed (native : IsNativeType type) : Trimmed type := by
  have star : Trimmed ['*'] := .singleton rfl
  induction native with
  | word path => exact path.trimmed
  | words _ path induction => exact induction.around [' '] path.trimmed
  | @pointer _ gap _ _ induction => exact induction.around gap star

/-- No bracket and no equals sign stands in a native type. -/
theorem isFlat (native : IsNativeType type) :
    ∀ character ∈ type, Scan.isFlat character = true ∧ character ≠ '=' := by
  have ofWord : ∀ {word : Text}, ScopedName word →
      ∀ character ∈ word, Scan.isFlat character = true ∧ character ≠ '=' := by
    intro word path character member
    have named := path.isNameCharacter character member
    exact ⟨isFlat_of_isNameCharacter named, ne_of_isNameCharacter named (by decide)⟩
  have space : Scan.isFlat ' ' = true ∧ ' ' ≠ '=' := by decide
  have star : Scan.isFlat '*' = true ∧ '*' ≠ '=' := by decide
  induction native with
  | word path => exact ofWord path
  | words _ path induction =>
      simp only [List.forall_mem_append, List.forall_mem_singleton]
      exact ⟨⟨induction, space⟩, ofWord path⟩
  | pointer _ close induction =>
      simp only [List.forall_mem_append, List.forall_mem_singleton]
      refine ⟨⟨induction, ?_⟩, star⟩
      rcases close with rfl | rfl
      · exact List.forall_mem_nil _
      · exact List.forall_mem_singleton.mpr space

end IsNativeType

/-- The dimensions of an array, each in its brackets. -/
def bracketed (dimensions : List Text) : Text :=
  dimensions.flatMap fun dimension => '[' :: dimension ++ [']']

theorem bracketed_cons (dimension : Text) (others : List Text) :
    bracketed (dimension :: others) = '[' :: (dimension ++ ']' :: bracketed others) := by
  simp [bracketed]

/-- A native parameter with a name and with dimensions. -/
def namedParameter (type name : Text) (dimensions : List Text) : Text :=
  type ++ ' ' :: name ++ bracketed dimensions

section Named

variable {type name : Text} {dimensions : List Text}

theorem trimmed_namedParameter (trimmed : Trimmed type)
    (identifier : isIdentifier name = true) (dimensions : List Text) :
    Trimmed (namedParameter type name dimensions) := by
  rcases List.eq_nil_or_concat dimensions with rfl | ⟨earlier, dimension, rfl⟩
  · simpa [namedParameter, bracketed] using
      trimmed.around [' '] (trimmed_of_isIdentifier identifier)
  · have closer : Trimmed [']'] := .singleton rfl
    have around := trimmed.around (' ' :: name ++ bracketed earlier ++ '[' :: dimension) closer
    simpa [namedParameter, bracketed] using around

theorem nested_bracketed (nested : ∀ dimension ∈ dimensions, Nested (fun _ => True) dimension) :
    Nested (· ≠ '=') (bracketed dimensions) := by
  have opens : isOpener '[' = true := rfl
  induction dimensions with
  | nil => exact .nil
  | cons dimension others induction =>
      rcases List.forall_mem_cons.mp nested with ⟨first, later⟩
      exact (Nested.group opens (.inr rfl) first).append (induction later)

theorem endsNativeType_of_continues {character : Char}
    (continues : continuesIdentifier character = true) : endsNativeType character = false := by
  have named := isNameCharacter_of_continues continues
  have star : character ≠ '*' := ne_of_isNameCharacter named (by decide)
  have reference : character ≠ '&' := ne_of_isNameCharacter named (by decide)
  simp [endsNativeType, isBlank_of_continuesIdentifier continues, star, reference]

/-- A name behind a type is dropped, if neither of them is one of the words that are told apart. -/
theorem dropNativeName_append (trimmed : Trimmed type) (complete : type ∉ openWords)
    (identifier : isIdentifier name = true) (noWord : name ∉ nativeTypeWords) :
    dropNativeName (type ++ ' ' :: name) = type := by
  have stops : (!endsNativeType ' ') = false := rfl
  have continues := continues_of_isIdentifier identifier
  have inside : ∀ character ∈ name, (!endsNativeType character) = true := by
    intro character member
    rw [endsNativeType_of_continues (continues character member)]
    rfl
  have blank : IsBlankLine [' '] := by decide
  have last := takeEndWhile_append_cons stops inside type
  have ahead : trim (dropEndWhile (fun character => !endsNativeType character)
      (type ++ ' ' :: name)) = type := by
    rw [dropEndWhile_append_cons stops inside, blank.trim_append_right, trim_eq_self trimmed]
  simp [dropNativeName, last, ahead, ne_nil_of_isIdentifier identifier, noWord, complete,
    trimmed.ne_nil, List.all_eq_true.mpr continues]

/-- A parameter is read without its name: what is left is its type with its dimensions. -/
theorem parameterSpelling_named (native : IsNativeType type) (complete : type ∉ openWords)
    (identifier : isIdentifier name = true) (noWord : name ∉ nativeTypeWords)
    (nested : ∀ dimension ∈ dimensions, Nested (fun _ => True) dimension) :
    parameterSpelling (namedParameter type name dimensions) = type ++ bracketed dimensions := by
  have named := trimmed_namedParameter native.trimmed identifier
  have declaration : Trimmed (type ++ ' ' :: name) := by
    simpa [namedParameter, bracketed] using named []
  have dropped := dropNativeName_append native.trimmed complete identifier noWord
  have outside : ∀ character ∈ type ++ ' ' :: name,
      Scan.isFlat character = true ∧ character ≠ '=' := by
    rw [List.forall_mem_append, List.forall_mem_cons]
    exact ⟨native.isFlat, by decide, flat_of_isIdentifier identifier (by decide)⟩
  have flat : ∀ character ∈ type ++ ' ' :: name,
      Scan.isFlat character = true ∧ character ≠ '[' := by
    intro character member
    refine ⟨(outside character member).1, ?_⟩
    rintro rfl
    exact absurd (outside '[' member).1 (by decide)
  have whole : beforeTop '=' (namedParameter type name dimensions) =
      namedParameter type name dimensions :=
    beforeTop_eq_self ((Nested.of_flat outside).append (nested_bracketed nested)) (by decide)
  rw [parameterSpelling, whole, trim_eq_self (named dimensions)]
  cases dimensions with
  | nil =>
      have noSubscript : cutTop? '[' (type ++ ' ' :: name) = none :=
        cutTop?_eq_none_of_not_mem fun member => (flat '[' member).2 rfl
      simp [namedParameter, bracketed, noSubscript, dropped]
  | cons dimension others =>
      have cut := cutTop?_append_cons_of_flat flat (dimension ++ ']' :: bracketed others)
      have parts : namedParameter type name (dimension :: others) =
          type ++ ' ' :: name ++ '[' :: (dimension ++ ']' :: bracketed others) := by
        rw [namedParameter, bracketed_cons]
      simp only [parts, cut, trim_eq_self declaration, dropped, bracketed_cons]

/-- Of the words that open a type only one names a type of its own. -/
theorem not_mem_openWords (known : typeOf type ≠ .unknown) (qualified : type ≠ "unsigned".toList) :
    type ∉ openWords := by
  have unknown : ∀ word ∈ openWords, word ≠ "unsigned".toList → typeOf word = .unknown := by
    decide +kernel
  exact fun member => known (unknown type member qualified)

/-- The type of a native parameter is the one that it has without its name. -/
theorem typeOf_parameterSpelling_named (native : IsNativeType type)
    (known : typeOf type ≠ .unknown) (qualified : type ≠ "unsigned".toList)
    (identifier : isIdentifier name = true) (noWord : name ∉ nativeTypeWords)
    (nested : ∀ dimension ∈ dimensions, Nested (fun _ => True) dimension) :
    typeOf (parameterSpelling (namedParameter type name dimensions)) =
      typeOf (type ++ bracketed dimensions) := by
  have complete := not_mem_openWords known qualified
  rw [parameterSpelling_named native complete identifier noWord nested]

end Named

/-- A pointer to long unsigned integers, with a name and with two dimensions. -/
theorem typeOf_parameterSpelling_named_table :
    IsNativeType "unsigned __int64 *".toList ∧
      typeOf (parameterSpelling "unsigned __int64 * table[2][]".toList) =
        typeOf "unsigned __int64 *[2][]".toList := by
  have unsigned : IsNativeType "unsigned".toList := .word (.identifier (by decide))
  have long : IsNativeType "unsigned __int64".toList := .words unsigned (.identifier (by decide))
  have pointer : IsNativeType "unsigned __int64 *".toList := .pointer long (.inr rfl)
  have known : typeOf "unsigned __int64 *".toList ≠ .unknown := by decide +kernel
  have identifier : isIdentifier "table".toList = true := by decide
  have nested : ∀ dimension ∈ ["2".toList, []], Nested (fun _ => True) dimension := by
    rw [List.forall_mem_cons, List.forall_mem_singleton]
    exact ⟨.mark (by decide) trivial, .nil⟩
  have named : "unsigned __int64 * table[2][]".toList =
      namedParameter "unsigned __int64 *".toList "table".toList ["2".toList, []] := by
    decide
  rw [named]
  exact ⟨pointer,
    typeOf_parameterSpelling_named pointer known (by decide) identifier (by decide) nested⟩

/--
Behind the lone word `unsigned` no word is dropped, be it the rest of a type or a name.
-/
theorem not_named_unsigned :
    IsNativeType "unsigned".toList ∧ typeOf "unsigned".toList = .scalar "int".toList ∧
      ∀ name ∈ ["__int64".toList, "flags".toList],
        isIdentifier name = true ∧ name ∉ nativeTypeWords ∧
          typeOf (parameterSpelling (namedParameter "unsigned".toList name [])) ≠
            typeOf ("unsigned".toList ++ bracketed []) := by
  refine ⟨.word (.identifier (by decide)), by decide +kernel, ?_⟩
  decide +kernel

end Overload

end MethodRoles
