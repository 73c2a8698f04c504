import MethodRoles.Spelling.ObjectName
import MethodRoles.Proofs.Scan.Identifier
import MethodRoles.Proofs.Scan.Nested
import MethodRoles.Proofs.Spelling.Spacing

/-!
# The characters of object names

The name of an object class consists of the characters of identifiers and of the
separators of its segments.  These characters are visible, belong to no bracket
and attach to nothing, so no scan takes a name apart.

A scoped name is made of identifiers that are joined by points and doubled
colons.  It is the name of a class when its beginning is that of one.
-/

namespace MethodRoles.Spelling

open Text Scan

/-- Whether a character can stand in an object name. -/
def isNameCharacter (character : Char) : Bool :=
  continuesIdentifier character || separatesSegments character

section Character

variable {character : Char} (named : isNameCharacter character = true)

include named

theorem ne_of_isNameCharacter {other : Char} (outside : isNameCharacter other = false) :
    character ≠ other := by
  rintro rfl
  rw [named] at outside
  contradiction

theorem isBlank_of_isNameCharacter : isBlank character = false := by
  rw [isNameCharacter, Bool.or_eq_true] at named
  rcases named with continues | separates
  · exact isBlank_of_continuesIdentifier continues
  · simp only [separatesSegments, Bool.or_eq_true, beq_iff_eq] at separates
    rcases separates with rfl | rfl <;> decide

theorem isFlat_of_isNameCharacter : isFlat character = true := by
  have differs := @ne_of_isNameCharacter character named
  simp [isFlat, isOpener, isCloser, @differs '(' (by decide), @differs '[' (by decide),
    @differs '<' (by decide), @differs ')' (by decide), @differs ']' (by decide),
    @differs '>' (by decide)]

theorem attaches_of_isNameCharacter : attaches character = false := by
  have differs := @ne_of_isNameCharacter character named
  simp [attaches, @differs '*' (by decide), @differs '&' (by decide)]

end Character

theorem isNameCharacter_of_continues {character : Char}
    (continues : continuesIdentifier character = true) : isNameCharacter character = true := by
  simp [isNameCharacter, continues]

theorem isNameCharacter_of_isIdentifier {name : Text} (identifier : isIdentifier name = true) :
    ∀ character ∈ name, isNameCharacter character = true := fun character member =>
  isNameCharacter_of_continues (continues_of_isIdentifier identifier character member)

/-- No bracket and no mark outside identifiers stands in an identifier. -/
theorem flat_of_isIdentifier {name : Text} (identifier : isIdentifier name = true)
    {mark : Char} (ends : continuesIdentifier mark = false) :
    ∀ character ∈ name, isFlat character = true ∧ character ≠ mark := by
  intro character member
  constructor
  · exact isFlat_of_isNameCharacter (isNameCharacter_of_isIdentifier identifier character member)
  · rintro rfl
    exact not_mem_of_isIdentifier identifier ends member

theorem separatesSegments_of_continues {character : Char}
    (continues : continuesIdentifier character = true) :
    separatesSegments character = false := by
  simp only [separatesSegments, Bool.or_eq_false_iff, beq_eq_false_iff_ne]
  constructor <;> rintro rfl <;> exact absurd continues (by decide)

theorem segmentsFrom_cons_of_separates {character : Char}
    (separates : separatesSegments character = true) (rest : Text) :
    segmentsFrom (character :: rest) =
      ([], (segmentsFrom rest).1 :: (segmentsFrom rest).2) := by
  simp [segmentsFrom, separates]

theorem segmentsFrom_cons_of_not {character : Char}
    (inside : separatesSegments character = false) (rest : Text) :
    segmentsFrom (character :: rest) =
      (character :: (segmentsFrom rest).1, (segmentsFrom rest).2) := by
  simp [segmentsFrom, inside]

/-- A character of a path separates its segments or stands in one of them. -/
theorem mem_segmentsFrom {path : Text} {character : Char} (member : character ∈ path) :
    separatesSegments character = true ∨
      ∃ segment ∈ (segmentsFrom path).1 :: (segmentsFrom path).2, character ∈ segment := by
  induction path with
  | nil => simp at member
  | cons first rest induction =>
      rcases separates : separatesSegments first with _ | _
      · rw [segmentsFrom_cons_of_not separates]
        rcases List.mem_cons.mp member with rfl | later
        · exact .inr ⟨_, List.mem_cons_self, List.mem_cons_self⟩
        · refine (induction later).imp_right ?_
          rintro ⟨segment, listed, inside⟩
          rcases List.mem_cons.mp listed with rfl | listed
          · exact ⟨_, List.mem_cons_self, List.mem_cons_of_mem _ inside⟩
          · exact ⟨segment, List.mem_cons_of_mem _ listed, inside⟩
      · rw [segmentsFrom_cons_of_separates separates]
        rcases List.mem_cons.mp member with rfl | later
        · exact .inl separates
        · refine (induction later).imp_right ?_
          rintro ⟨segment, listed, inside⟩
          exact ⟨segment, List.mem_cons_of_mem _ listed, inside⟩

section Name

variable {name : Text} (objectName : isObjectName name = true)

include objectName

theorem isIdentifier_of_mem_segments {segment : Text} (member : segment ∈ segments name) :
    isIdentifier segment = true := by
  rw [isObjectName] at objectName
  split at objectName
  · rename_i none
    simp [none] at member
  · rename_i first others listed
    rw [Bool.and_eq_true, List.all_eq_true] at objectName
    exact objectName.2 segment (listed ▸ member)

theorem all_isNameCharacter_of_isObjectName : name.all isNameCharacter = true := by
  rw [List.all_eq_true]
  intro character member
  rcases mem_segmentsFrom member with separates | ⟨segment, listed, inside⟩
  · simp [isNameCharacter, separates]
  · have nonempty : segment ≠ [] := List.ne_nil_of_mem inside
    have kept : segment ∈ segments name :=
      List.mem_filter.mpr ⟨listed, by simpa using nonempty⟩
    exact isNameCharacter_of_isIdentifier (isIdentifier_of_mem_segments objectName kept) _ inside

theorem ne_nil_of_isObjectName : name ≠ [] := by
  rintro rfl
  exact absurd objectName (by decide)

end Name

theorem segmentsFrom_append {name : Text}
    (inside : ∀ character ∈ name, separatesSegments character = false) (rest : Text) :
    segmentsFrom (name ++ rest) = (name ++ (segmentsFrom rest).1, (segmentsFrom rest).2) := by
  induction name with
  | nil => rfl
  | cons character others induction =>
      have later := induction fun other member => inside other (List.mem_cons_of_mem _ member)
      rw [List.cons_append, segmentsFrom_cons_of_not (inside character List.mem_cons_self), later]
      rfl

/-- Identifiers that are joined by points and doubled colons. -/
inductive ScopedName : Text → Prop where
  | identifier {name : Text} (identifier : isIdentifier name = true) : ScopedName name
  | joined {name joint rest : Text} (joins : joint = ['.'] ∨ joint = [':', ':'])
      (identifier : isIdentifier name = true) (path : ScopedName rest) :
      ScopedName (name ++ joint ++ rest)

theorem segments_append {name : Text} (identifier : isIdentifier name = true) (rest : Text) :
    segments (name ++ rest) = (name ++ (segmentsFrom rest).1) ::
      (segmentsFrom rest).2.filter fun segment => !segment.isEmpty := by
  have inside := fun character member =>
    separatesSegments_of_continues (continues_of_isIdentifier identifier character member)
  rw [segments, segmentsFrom_append inside]
  simp [ne_nil_of_isIdentifier identifier]

/-- The segments of a scoped name are its identifiers. -/
theorem ScopedName.segments {name : Text} (path : ScopedName name) :
    ∃ first others rest, Spelling.segments name = first :: others ∧
      (∀ segment ∈ first :: others, isIdentifier segment = true) ∧
        name = first ++ rest ∧ ∀ mark ∈ rest.head?, separatesSegments mark = true := by
  induction path with
  | @identifier name identifier =>
      have listed := segments_append identifier []
      simp only [List.append_nil, segmentsFrom, List.filter_nil] at listed
      exact ⟨name, [], [], listed, by simpa using identifier, (List.append_nil name).symm, by simp⟩
  | @joined name joint rest joins identifier _ induction =>
      rcases induction with ⟨first, others, _, listed, identifiers, -⟩
      refine ⟨name, Spelling.segments rest, joint ++ rest, ?_, ?_, List.append_assoc .., ?_⟩
      · rw [List.append_assoc, segments_append identifier]
        rcases joins with rfl | rfl <;>
          simp [Spelling.segments, segmentsFrom, separatesSegments]
      · rw [listed]
        exact List.forall_mem_cons.mpr ⟨identifier, identifiers⟩
      · rcases joins with rfl | rfl <;> simp [separatesSegments]

/-- A word that ends before a mark does not reach behind it. -/
theorem startsWith_of_append_cons {lead ahead after : Text} {mark : Char} (free : mark ∉ lead)
    (starts : startsWith lead (ahead ++ mark :: after) = true) :
    startsWith lead ahead = true := by
  induction lead generalizing ahead with
  | nil => simp [startsWith, dropLeading?]
  | cons expected lead induction =>
      rw [List.mem_cons, not_or] at free
      cases ahead with
      | nil => simp [startsWith, dropLeading?, Ne.symm free.1] at starts
      | cons character ahead =>
          by_cases same : expected = character
          · simp only [startsWith, List.cons_append, dropLeading?, if_pos same] at starts ⊢
            exact induction free.2 starts
          · simp [startsWith, dropLeading?, same] at starts

/-- A scoped name that begins as the name of a class does is one. -/
theorem ScopedName.isObjectName {name : Text} (path : ScopedName name)
    (begins : beginsClassName name = true) : isObjectName name = true := by
  rcases path.segments with ⟨first, others, rest, listed, identifiers, rfl, separated⟩
  have nonempty := ne_nil_of_isIdentifier (identifiers first List.mem_cons_self)
  have beginsFirst : beginsClassName first = true := by
    rw [beginsClassName, Bool.or_eq_true] at begins ⊢
    refine begins.imp ?_ ?_
    · intro starts
      cases rest with
      | nil => simpa using starts
      | cons mark rest =>
          have separates : separatesSegments mark = true := separated mark rfl
          refine startsWith_of_append_cons ?_ starts
          intro member
          have letter : mark = 'v' ∨ mark = 't' ∨ mark = 'k' := by simpa using member
          rcases letter with rfl | rfl | rfl <;> exact absurd separates (by decide)
    · intro upper
      rcases List.exists_cons_of_ne_nil nonempty with ⟨character, later, rfl⟩
      simpa using upper
  rw [Spelling.isObjectName, listed]
  simp only [Bool.and_eq_true, List.all_eq_true]
  exact ⟨beginsFirst, identifiers⟩

theorem ScopedName.isNameCharacter {name : Text} (path : ScopedName name) :
    ∀ character ∈ name, isNameCharacter character = true := by
  induction path with
  | identifier identifier => exact isNameCharacter_of_isIdentifier identifier
  | joined joins identifier _ induction =>
      intro character member
      rcases List.mem_append.mp member with member | member
      · rcases List.mem_append.mp member with member | member
        · exact isNameCharacter_of_isIdentifier identifier character member
        · rcases joins with rfl | rfl <;> simp_all [Spelling.isNameCharacter, separatesSegments]
      · exact induction character member

theorem ScopedName.ne_nil {name : Text} (path : ScopedName name) : name ≠ [] := by
  cases path with
  | identifier identifier => exact ne_nil_of_isIdentifier identifier
  | joined joins identifier _ => simp [ne_nil_of_isIdentifier identifier]

theorem ScopedName.trimmed {name : Text} (path : ScopedName name) : Trimmed name :=
  .of_visible path.ne_nil fun character member =>
    isBlank_of_isNameCharacter (path.isNameCharacter character member)

theorem nested_of_isIdentifier {name : Text} (identifier : isIdentifier name = true)
    {separator : Char} (ends : continuesIdentifier separator = false) :
    Nested (· ≠ separator) name :=
  .of_flat (flat_of_isIdentifier identifier ends)

/-- The first colon of a scoped name is followed by another one. -/
theorem ScopedName.cutFrom?_colon {name : Text} (path : ScopedName name) (before : Char) :
    cutFrom? ':' 0 before name = none ∨
      ∃ ahead after, cutFrom? ':' 0 before name = some (ahead, ':' :: after) := by
  have ends : continuesIdentifier ':' = false := by decide
  induction path generalizing before with
  | @identifier name identifier =>
      have passed :=
        cutFrom?_zero_append (nested_of_isIdentifier identifier ends) (by decide) before []
      exact .inl (by simpa [cutFrom?] using passed)
  | @joined name joint rest joins identifier _ induction =>
      rw [List.append_assoc,
        cutFrom?_zero_append (nested_of_isIdentifier identifier ends) (by decide)]
      rcases joins with rfl | rfl
      · rcases induction '.' with none | ⟨ahead, after, found⟩
        · exact .inl (by simp [cutFrom?, depthAfter, isOpener, isCloser, none])
        · exact .inr ⟨name ++ '.' :: ahead, after,
            by simp [cutFrom?, depthAfter, isOpener, isCloser, found]⟩
      · exact .inr ⟨name, rest, by simp [cutFrom?]⟩

end MethodRoles.Spelling
