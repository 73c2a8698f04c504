import MethodRoles.Proofs.Overload.Filling
import MethodRoles.Proofs.Overload.NormalForm

/-!
# Argument lists without content

An argument list of commas and blanks alone says nothing about any argument, and a
receiver in front of the first comma adds nothing to it.  Such a list makes no
arguments only when it has no comma: otherwise each of its empty items is a hole, and
without a native rendering each hole is an argument of unknown type
(`signature?_emptyItems`).  So not every such list makes no arguments
(`not_withoutArguments_reset`).
-/

namespace MethodRoles

open Text Scan Spelling

namespace Scan

/-- A text of commas and blanks alone. -/
def SaysNothing (text : Text) : Prop :=
  ∀ character ∈ text, character = ',' ∨ isBlank character = true

instance (text : Text) : Decidable (SaysNothing text) :=
  List.decidableBAll (fun character => character = ',' ∨ isBlank character = true) text

variable {text : Text}

/-- Between commas and blanks nothing but blanks is split off. -/
theorem map_trim_piecesFrom (nothing : SaysNothing text) (before : Char) :
    ((piecesFrom ',' 0 before text).1 :: (piecesFrom ',' 0 before text).2).map trim =
      List.replicate (text.count ',' + 1) [] := by
  induction text generalizing before with
  | nil => rfl
  | cons character text induction =>
      rcases List.forall_mem_cons.mp nothing with ⟨here, later⟩
      by_cases comma : character = ','
      · subst comma
        have split := piecesFrom_append_cons (.nil : Nested (· ≠ ',') []) rfl before text
        rw [List.nil_append] at split
        rw [split, List.map_cons, induction later, List.count_cons_self, List.replicate_succ]
        rfl
      · have blank := here.resolve_left comma
        have passed := piecesFrom_zero_append (.mark (isFlat_of_isBlank blank) comma) before text
        rw [List.singleton_append] at passed
        rw [passed, List.map_cons, List.singleton_append, trim_blank_cons blank,
          ← List.map_cons, induction later, List.count_cons_of_ne comma]

end Scan

namespace Overload

/-- An argument list without content, by the number of its items. -/
inductive EmptyItems : (inside : Text) → (count : Nat) → Prop where
  | blanks {inside : Text} (blank : IsBlankLine inside) : EmptyItems inside 0
  | commas {inside : Text} (nothing : SaysNothing inside) (comma : ',' ∈ inside) :
      EmptyItems inside (inside.count ',' + 1)
  | receiver {ahead behind : Text} (blank : IsBlankLine ahead) (nothing : SaysNothing behind) :
      EmptyItems (ahead ++ ("self".toList ++ behind)) (behind.count ',')

theorem nested_of_saysNothing {text : Text} (nothing : SaysNothing text) :
    Nested (fun _ => True) text := by
  apply Nested.of_flat
  intro character member
  refine ⟨?_, trivial⟩
  rcases nothing character member with rfl | blank
  · rfl
  · exact isFlat_of_isBlank blank

theorem nested_receiver {ahead : Text} (blank : IsBlankLine ahead) :
    Nested (· ≠ ',') (ahead ++ "self".toList) := by
  have noComma : isBlank ',' = false := by decide
  have blanks : Nested (· ≠ ',') ahead := by
    apply Nested.of_flat
    intro character member
    refine ⟨isFlat_of_isBlank (blank character member), ?_⟩
    rintro rfl
    rw [blank ',' member] at noComma
    contradiction
  exact blanks.append (nested_of_isIdentifier (by decide) (by decide))

namespace EmptyItems

variable {inside : Text} {count : Nat}

theorem nested (empty : EmptyItems inside count) : Nested (fun _ => True) inside := by
  cases empty with
  | blanks blank =>
      exact nested_of_saysNothing fun character member => .inr (blank character member)
  | commas nothing _ => exact nested_of_saysNothing nothing
  | receiver blank nothing =>
      rw [← List.append_assoc]
      exact (nested_receiver blank).anywhere.append (nested_of_saysNothing nothing)

theorem count_eq_zero_iff (empty : EmptyItems inside count) : count = 0 ↔ ',' ∉ inside := by
  have noComma : isBlank ',' = false := by decide
  have outside : ∀ {text : Text}, IsBlankLine text → ',' ∉ text := by
    intro text blank member
    rw [blank ',' member] at noComma
    contradiction
  cases empty with
  | blanks blank => simpa using outside blank
  | commas _ comma => simpa using comma
  | receiver blank _ => simp [outside blank, List.count_eq_zero]

/-- All items of an argument list without content are empty. -/
theorem argumentItems_eq (empty : EmptyItems inside count) :
    argumentItems inside = List.replicate count [] := by
  cases empty with
  | blanks blank =>
      have all : inside.all isBlank = true := List.all_eq_true.mpr blank
      rw [argumentItems, splitTop, all]
      rfl
  | commas nothing comma =>
      have visible : isBlank ',' = false := by decide
      have content : inside.all isBlank = false :=
        List.all_eq_false.mpr ⟨',', comma, Bool.eq_false_iff.mp visible⟩
      have items : splitTop ',' inside = List.replicate (inside.count ',' + 1) [] := by
        simp only [splitTop, content, ← map_trim_piecesFrom nothing '\x00']
        rfl
      rw [argumentItems, items]
      rfl
  | @receiver ahead behind blank nothing =>
      have letter : isBlank 's' = false := by decide
      have content : (ahead ++ ("self".toList ++ behind)).all isBlank = false := by
        simp [letter]
      have split := piecesFrom_zero_append (nested_receiver blank) '\x00' behind
      have pieces := map_trim_piecesFrom nothing (lastRead '\x00' (ahead ++ "self".toList))
      rw [List.map_cons, List.replicate_succ, List.cons.injEq] at pieces
      have first : trim (ahead ++ "self".toList ++
          (piecesFrom ',' 0 (lastRead '\x00' (ahead ++ "self".toList)) behind).1) =
            "self".toList := by
        rw [(isBlankLine_of_trim_eq_nil pieces.1).trim_append_right, blank.trim_append_left]
        decide
      have items : splitTop ',' (ahead ++ ("self".toList ++ behind)) =
          "self".toList :: List.replicate (behind.count ',') [] := by
        rw [splitTop, content, ← List.append_assoc, split]
        simp only [List.map_cons, first, pieces.2]
        rfl
      rw [argumentItems, items]
      rfl

end EmptyItems

/-- An empty item is a hole, and without a native rendering its type is unknown. -/
theorem argumentTypes_replicate (count : Nat) :
    argumentTypes (List.replicate count []) none = List.replicate count .unknown := by
  have hole : IsHole [] := rfl
  change (List.replicate count []).map (argumentType .unknown) = _
  rw [List.map_replicate, argumentType_of_hole hole]

/--
Without a native rendering each empty item is an argument of unknown type, so an
argument list without content makes no arguments only if it has no comma.
-/
theorem signature?_emptyItems {ahead name inside : Text} {count : Nat}
    (opening : Head.Opening ahead name) (empty : EmptyItems inside count) (after : Text) :
    ∃ signature,
      signature? ⟨some (ahead ++ '(' :: (inside ++ ')' :: after)), none⟩ = some signature ∧
        signature.result = arrowResult after ∧
        signature.arguments = Signature.argumentSlot (List.replicate count .unknown) ∧
        signature.arity = count ∧ (signature.arguments = .absent ↔ ',' ∉ inside) := by
  have present : List.replicate count SlotType.unknown ≠ [.absent] := by
    intro absent
    have member : SlotType.absent ∈ List.replicate count .unknown :=
      absent ▸ List.mem_singleton_self _
    exact absurd (List.eq_of_mem_replicate member) (by decide)
  have arity : (Signature.ofArguments (arrowResult after)
      (List.replicate count .unknown)).arity = count :=
    (Signature.arity_ofArguments present).trans List.length_replicate
  refine ⟨.ofArguments (arrowResult after) (List.replicate count .unknown), ?_, rfl, rfl, arity, ?_⟩
  · change scriptedSignature? _ none = _
    rw [scriptedSignature?_eq, stated?_append opening empty.nested, empty.argumentItems_eq,
      Option.map_some, argumentTypes_replicate, collapseAbsent_eq_self present]
  · rw [← empty.count_eq_zero_iff]
    constructor
    · intro absent
      rw [Signature.arity, absent] at arity
      exact arity.symm
    · rintro rfl
      rfl

/-- A receiver with two commas behind it makes two arguments. -/
theorem signature?_emptyItems_mask :
    Head.Opening "SetMask".toList "SetMask".toList ∧ EmptyItems " self , ,".toList 2 ∧
      signature? ⟨some "SetMask( self , ,) -> int".toList, none⟩ =
        some ⟨.scalar "int".toList, .tuple 2 [.unknown, .unknown]⟩ := by
  have opening : Head.Opening "SetMask".toList "SetMask".toList :=
    .plain (.identifier (by decide)) (by decide)
  have blank : IsBlankLine [' '] := by decide
  have nothing : SaysNothing " , ,".toList := by decide
  have empty : EmptyItems " self , ,".toList 2 := .receiver blank nothing
  have type : arrowResult " -> int".toList = .scalar "int".toList := by decide +kernel
  rcases signature?_emptyItems opening empty " -> int".toList with
    ⟨⟨_, _⟩, found, rfl, rfl, -, -⟩
  rw [type] at found
  exact ⟨opening, empty, found⟩

/-- The arguments of a rendering with a comma alone in its brackets are not absent. -/
theorem not_withoutArguments_reset :
    ¬ ∀ (ahead name inside after : Text) (count : Nat),
      Head.Opening ahead name → EmptyItems inside count →
        ∃ signature,
          signature? ⟨some (ahead ++ '(' :: (inside ++ ')' :: after)), none⟩ = some signature ∧
            signature.arguments = .absent ∧ signature.arity = 0 := by
  intro withoutArguments
  have opening : Head.Opening "V.Reset".toList "Reset".toList :=
    .received (.identifier (by decide))
  have nothing : SaysNothing ", ".toList := by decide
  have empty : EmptyItems ", ".toList 2 := .commas nothing (by decide)
  rcases withoutArguments _ _ _ [] _ opening empty with ⟨signature, found, absent, -⟩
  have reset : signature? ⟨some "V.Reset(, )".toList, none⟩ =
      some ⟨.absent, .tuple 2 [.unknown, .unknown]⟩ := by
    decide +kernel
  rw [← Option.some.inj (reset.symm.trans found)] at absent
  contradiction

end Overload

end MethodRoles
