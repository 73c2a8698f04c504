import MethodRoles.SlotType.Shape
import Mathlib.Data.List.Forall2

/-!
# Types of the same shape

Having the same shape is reflexive and symmetric at every depth of the types, also
where the arity of a tuple is not the number of its elements
(`sameShape_refl_symm`).  It is not transitive: the unknown scalar has the shape of
every scalar, and a sequence has the shape of tuples of different sizes.

The recursion compares types, lists of types and leading types, so each fact is
proved for the three of them together.
-/

namespace MethodRoles

namespace ScalarKind

@[simp]
theorem compatible_self (kind : ScalarKind) : kind.compatible kind = true := by
  simp [compatible]

theorem compatible_comm (left right : ScalarKind) :
    left.compatible right = right.compatible left := by
  cases left <;> cases right <;> rfl

end ScalarKind

namespace SlotType

mutual

theorem sameShape_self : ∀ type : SlotType, type.sameShape type = true
  | .absent => rfl
  | .function => rfl
  | .scalar name => (ScalarKind.ofName name).compatible_self
  | .object _ => rfl
  | .tuple _ elements => by
      rw [sameShape, beq_self_eq_true, Bool.true_and]
      exact sameShapes_self elements
  | .sequence elements => sameLeadingShape_self elements

theorem sameShapes_self : ∀ types : List SlotType, sameShapes types types = true
  | [] => rfl
  | type :: others => by
      rw [sameShapes, sameShape_self type, Bool.true_and]
      exact sameShapes_self others

theorem sameLeadingShape_self : ∀ types : List SlotType, sameLeadingShape types types = true
  | [] => rfl
  | type :: _ => sameShape_self type

end

mutual

theorem sameShape_comm : ∀ left right : SlotType, left.sameShape right = right.sameShape left
  | .absent, right => by cases right <;> rfl
  | .function, right => by cases right <;> rfl
  | .scalar left, right => by
      cases right with
      | scalar right => exact ScalarKind.compatible_comm _ _
      | _ => rfl
  | .object _, right => by cases right <;> rfl
  -- A group is compared with a group of its own kind, and through the leading elements
  -- as soon as one of the two is a sequence.
  | .tuple arity left, right => by
      cases right with
      | tuple other right => rw [sameShape, sameShape, sameShapes_comm left right, BEq.comm]
      | sequence right => exact sameLeadingShape_comm left right
      | _ => rfl
  | .sequence left, right => by
      cases right with
      | tuple _ right => exact sameLeadingShape_comm left right
      | sequence right => exact sameLeadingShape_comm left right
      | _ => rfl

theorem sameShapes_comm :
    ∀ left right : List SlotType, sameShapes left right = sameShapes right left
  | [], right => by cases right <;> rfl
  | left :: lefts, right => by
      cases right with
      | nil => rfl
      | cons right rights =>
          rw [sameShapes, sameShapes, sameShape_comm left right, sameShapes_comm lefts rights]

theorem sameLeadingShape_comm :
    ∀ left right : List SlotType, sameLeadingShape left right = sameLeadingShape right left
  | [], right => by cases right <;> rfl
  | left :: _, right => by
      cases right with
      | nil => rfl
      | cons right _ => exact sameShape_comm left right

end

/-- A tuple and a sequence may be compared with the leading element of the sequence first. -/
theorem sameShape_tuple_sequence (arity : Nat) (elements leading : List SlotType) :
    (tuple arity elements).sameShape (sequence leading) = sameLeadingShape leading elements :=
  sameLeadingShape_comm elements leading

/-- Every type has its own shape, and of two types each has the shape of the other or neither. -/
theorem sameShape_refl_symm :
    (∀ type : SlotType, type.sameShape type = true) ∧
      ∀ left right : SlotType, left.sameShape right = right.sameShape left :=
  ⟨sameShape_self, sameShape_comm⟩

-- The unknown scalar stands between two scalars of different kinds.
example :
    (scalar "int".toList).sameShape unknown = true ∧
      unknown.sameShape (scalar "string".toList) = true ∧
        (scalar "int".toList).sameShape (scalar "string".toList) = false := by
  decide

/-- Lists have the same shapes when they agree place by place. -/
theorem sameShapes_iff {left right : List SlotType} :
    sameShapes left right = true ↔
      List.Forall₂ (fun first second => first.sameShape second = true) left right := by
  induction left generalizing right with
  | nil => cases right <;> simp [sameShapes]
  | cons first others induction => cases right <;> simp [sameShapes, induction]

end SlotType

end MethodRoles
