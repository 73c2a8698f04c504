import MethodRoles.Proofs.Spelling.Regular

/-!
# Displayed types are stable

The written form of a type is a spelling too, and it names the type again, unless
it holds a part that has no spelling of its own: the tuple of no elements, whose
written form is that of nothing, or an object whose name is a fixed spelling.  Every
spelling names a type that is regular, and a regular type without such parts is
written so that it is read back (`typeOf_render_typeOf`).
-/

namespace MethodRoles

open Spelling

namespace SlotType

/-- The types that a type is put together from. -/
def elements : SlotType → List SlotType
  | .tuple _ elements => elements
  | .sequence elements => elements
  | _ => []

/-- A type stands within another, at any depth. -/
inductive Within (part : SlotType) : SlotType → Prop where
  | here : Within part part
  | deeper {type element : SlotType} (member : element ∈ type.elements)
      (within : Within part element) : Within part type

section Parts

variable {part : SlotType}

theorem within_iff {type : SlotType} :
    Within part type ↔ part = type ∨ ∃ element ∈ type.elements, Within part element := by
  constructor
  · rintro (_ | ⟨member, within⟩)
    · exact .inl rfl
    · exact .inr ⟨_, member, within⟩
  · rintro (rfl | ⟨element, member, within⟩)
    · exact .here
    · exact .deeper member within

@[simp]
theorem within_absent_iff : Within part .absent ↔ part = .absent :=
  within_iff.trans (by simp [elements])

@[simp]
theorem within_scalar_iff {name : Text} : Within part (.scalar name) ↔ part = .scalar name :=
  within_iff.trans (by simp [elements])

@[simp]
theorem within_object_iff {className : Text} :
    Within part (.object className) ↔ part = .object className :=
  within_iff.trans (by simp [elements])

@[simp]
theorem within_tuple_iff {arity : Nat} {elements : List SlotType} :
    Within part (.tuple arity elements) ↔
      part = .tuple arity elements ∨ ∃ element ∈ elements, Within part element :=
  within_iff

@[simp]
theorem within_sequence_iff {elements : List SlotType} :
    Within part (.sequence elements) ↔
      part = .sequence elements ∨ ∃ element ∈ elements, Within part element :=
  within_iff

end Parts

/-- A type with no tuple of no elements and no object under a fixed spelling, at any depth. -/
structure Rereadable (type : SlotType) : Prop where
  noEmptyTuple : ∀ elements, ¬ Within (.tuple 0 elements) type
  noFixedName : ∀ className, Within (.object className) type → lookup? className = none

theorem Rereadable.element {type element : SlotType} (rereadable : type.Rereadable)
    (member : element ∈ type.elements) : element.Rereadable where
  noEmptyTuple := fun others within => rereadable.noEmptyTuple others (.deeper member within)
  noFixedName := fun className within => rereadable.noFixedName className (.deeper member within)

/-- A regular type is written so that it is read back if all of its parts are. -/
theorem Regular.written {type : SlotType} (regular : type.Regular)
    (rereadable : type.Rereadable) : type.Written ReadableName := by
  induction regular with
  | absent => exact .absent
  | function => exact .function
  | scalar canonical => exact .scalar canonical
  | object named =>
      exact .object ⟨isObjectName_iff.mpr named, rereadable.noFixedName _ .here⟩
  | @tuple elements _ induction =>
      have nonempty : elements ≠ [] := by
        rintro rfl
        exact rereadable.noEmptyTuple [] .here
      exact .tuple nonempty fun element member =>
        induction element member (rereadable.element member)
  | sequence _ induction =>
      exact .sequence fun element member =>
        induction element member (rereadable.element member)

end SlotType

namespace Spelling

open SlotType

/--
The written form of the type that a spelling names is again a spelling of this type,
if the type holds no tuple of no elements and no object under a fixed spelling.
-/
theorem typeOf_render_typeOf (spelling : Text) (rereadable : (typeOf spelling).Rereadable) :
    typeOf (typeOf spelling).render = typeOf spelling :=
  typeOf_render ((typeOf_regular spelling).written rereadable)

/-- A template, tuples of one element, odd paths and an array of open size stand in one group. -/
theorem typeOf_render_typeOf_nested :
    typeOf (typeOf "(std::vector< .vtkA >,(A:B,),Tuple[void],float[2][])".toList).render =
      typeOf "(std::vector< .vtkA >,(A:B,),Tuple[void],float[2][])".toList := by
  have type : typeOf "(std::vector< .vtkA >,(A:B,),Tuple[void],float[2][])".toList =
      .tuple 4
        [.sequence [.object ".vtkA".toList], .tuple 1 [.object "A:B".toList],
          .tuple 1 [.absent],
          .tuple 2 (.replicate 2 (.sequence [.scalar "float".toList]))] := by
    decide +kernel
  apply typeOf_render_typeOf
  rw [type]
  constructor
  case noEmptyTuple => simp
  case noFixedName =>
    intro className within
    have named : className = ".vtkA".toList ∨ className = "A:B".toList := by simpa using within
    rcases named with rfl | rfl <;> decide

end Spelling

end MethodRoles
