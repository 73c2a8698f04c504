import MethodRoles.Proofs.Spelling.ObjectName

/-!
# Class names and their segments

The name of a class consists of identifiers with separators between them, and its
first identifier begins as class names do.  `isObjectName_iff` says that the test
for object names accepts these names and no others.
-/

namespace MethodRoles.Spelling

open Text Scan

/--
A path with the given identifiers as its segments.  A separator stands between any
two of them, and more separators may stand before, between and behind them.
-/
inductive Segmented : List Text → Text → Prop where
  | nil : Segmented [] []
  | mark {character : Char} {listed : List Text} {path : Text}
      (separates : separatesSegments character = true) (later : Segmented listed path) :
      Segmented listed (character :: path)
  | segment {name : Text} {listed : List Text} {path : Text}
      (identifier : isIdentifier name = true)
      (separated : ∀ mark ∈ path.head?, separatesSegments mark = true)
      (later : Segmented listed path) :
      Segmented (name :: listed) (name ++ path)

/-- An empty first segment adds nothing to a path. -/
theorem Segmented.prepend {first : Text} {others : List Text} {path : Text}
    (identifier : first ≠ [] → isIdentifier first = true)
    (separated : ∀ mark ∈ path.head?, separatesSegments mark = true)
    (later : Segmented (others.filter fun segment => !segment.isEmpty) path) :
    Segmented ((first :: others).filter fun segment => !segment.isEmpty) (first ++ path) := by
  rcases List.eq_nil_or_concat first with rfl | ⟨_, _, rfl⟩
  · simpa using later
  · rw [List.filter_cons_of_pos (by simp)]
    exact .segment (identifier (by simp)) separated later

/-- Behind its first segment a path ends, or goes on with a separator. -/
theorem exists_segmented_segmentsFrom {path : Text}
    (identifiers : ∀ segment ∈ (segmentsFrom path).2, segment ≠ [] → isIdentifier segment = true) :
    ∃ rest, path = (segmentsFrom path).1 ++ rest ∧
      (∀ mark ∈ rest.head?, separatesSegments mark = true) ∧
        Segmented ((segmentsFrom path).2.filter fun segment => !segment.isEmpty) rest := by
  induction path with
  | nil => exact ⟨[], rfl, by simp, .nil⟩
  | cons character path induction =>
      rcases separates : separatesSegments character with _ | _
      · rw [segmentsFrom_cons_of_not separates] at identifiers ⊢
        rcases induction identifiers with ⟨rest, whole, separated, later⟩
        exact ⟨rest, congrArg (character :: ·) whole, separated, later⟩
      · rw [segmentsFrom_cons_of_separates separates] at identifiers ⊢
        have ⟨first, others⟩ := List.forall_mem_cons.mp identifiers
        rcases induction others with ⟨rest, whole, separated, later⟩
        refine ⟨character :: path, rfl, by simpa using separates, .mark separates ?_⟩
        have prepended := Segmented.prepend first separated later
        rwa [← whole] at prepended

theorem segmented_segments {path : Text}
    (identifiers : ∀ segment ∈ segments path, isIdentifier segment = true) :
    Segmented (segments path) path := by
  have listed : ∀ segment ∈ (segmentsFrom path).1 :: (segmentsFrom path).2,
      segment ≠ [] → isIdentifier segment = true := fun segment member nonempty =>
    identifiers segment (List.mem_filter.mpr ⟨member, by simpa using nonempty⟩)
  have ⟨first, others⟩ := List.forall_mem_cons.mp listed
  rcases exists_segmented_segmentsFrom others with ⟨rest, whole, separated, later⟩
  have prepended := Segmented.prepend first separated later
  rwa [← whole] at prepended

theorem Segmented.identifiers {listed : List Text} {path : Text}
    (segmented : Segmented listed path) : ∀ segment ∈ listed, isIdentifier segment = true := by
  induction segmented with
  | nil => simp
  | mark _ _ induction => exact induction
  | segment identifier _ _ induction => exact List.forall_mem_cons.mpr ⟨identifier, induction⟩

/-- A path has no other segments than those it is made of. -/
theorem Segmented.segments_eq {listed : List Text} {path : Text}
    (segmented : Segmented listed path) : segments path = listed := by
  induction segmented with
  | nil => rfl
  | mark separates _ induction =>
      rw [segments, segmentsFrom_cons_of_separates separates]
      exact induction
  | @segment name listed path identifier separated _ induction =>
      rw [segments_append identifier]
      cases path with
      | nil => simpa [segments, segmentsFrom] using induction
      | cons mark path =>
          have separates : separatesSegments mark = true := separated mark rfl
          rw [segments, segmentsFrom_cons_of_separates separates] at induction
          rw [segmentsFrom_cons_of_separates separates, List.append_nil]
          exact congrArg (name :: ·) induction

/--
The name of a class: identifiers with separators between them, of which the first
begins with the letters `vtk` or with an upper-case letter.
-/
def IsClassName (name : Text) : Prop :=
  ∃ first others, Segmented (first :: others) name ∧
    ("vtk".toList <+: first ∨ ∃ letter ∈ first.head?, letter.isUpper = true)

theorem beginsClassName_iff {segment : Text} :
    beginsClassName segment = true ↔
      "vtk".toList <+: segment ∨ ∃ letter ∈ segment.head?, letter.isUpper = true := by
  have native : startsWith "vtk".toList segment = true ↔ "vtk".toList <+: segment := by
    rw [startsWith, Option.isSome_iff_exists]
    exact exists_congr fun rest => dropLeading?_eq_some_iff.trans eq_comm
  rw [beginsClassName, Bool.or_eq_true, native, Option.any_eq_true]
  rfl

/-- The test for object names finds the names of classes. -/
theorem isObjectName_iff {name : Text} : isObjectName name = true ↔ IsClassName name := by
  constructor
  · intro objectName
    have segmented := segmented_segments fun _ => isIdentifier_of_mem_segments objectName
    rw [isObjectName] at objectName
    split at objectName
    · contradiction
    · rename_i first others listed
      rw [Bool.and_eq_true, beginsClassName_iff] at objectName
      exact ⟨first, others, listed ▸ segmented, objectName.1⟩
  · rintro ⟨first, others, segmented, begins⟩
    rw [isObjectName, segmented.segments_eq]
    simp only [Bool.and_eq_true, List.all_eq_true]
    exact ⟨beginsClassName_iff.mpr begins, segmented.identifiers⟩

end MethodRoles.Spelling
