import MethodRoles.Proofs.SlotType.Shape
import MethodRoles.Signature

/-!
# The values that a call accepts

The arguments of a call are one slot, in which a lone group stands as a tuple of one
element, so the slot of one group and the slot of several arguments are both tuples.
The values that a call accepts are told by its argument list nevertheless: a lone
argument takes a value whole, several arguments take the elements of a tuple, and a
call without arguments takes nothing (`accepts_ofArguments_iff`).
-/

namespace MethodRoles

namespace SlotType

/-- A tuple of some elements has the shape of the tuples that agree with it place by place. -/
theorem isTuple_and_sameShape_iff {elements : List SlotType} {type : SlotType} :
    (type.isTuple && (ofElements elements).sameShape type) = true ↔
      ∃ arity others, type = .tuple arity others ∧ arity = elements.length ∧
        List.Forall₂ (fun element other => element.sameShape other = true) elements others := by
  cases type with
  | tuple arity others =>
      simp [isTuple, ofElements, sameShape, sameShapes_iff, eq_comm (a := arity)]
  | _ => simp [isTuple]

end SlotType

namespace Signature

open SlotType

theorem accepts_ofArguments_nil (result value : SlotType) :
    (ofArguments result []).accepts value = false := by
  simp [accepts, ofArguments, argumentSlot, isAbsent]

/-- A lone argument takes a value whole, whether or not it is a group. -/
theorem accepts_ofArguments_singleton (result argument value : SlotType) :
    (ofArguments result [argument]).accepts value =
      (!value.isAbsent && argument.sameShape value) := by
  cases argument <;> cases value <;> rfl

/-- Several arguments take the elements of a tuple. -/
theorem accepts_ofArguments_cons_cons (result first second : SlotType)
    (others : List SlotType) (value : SlotType) :
    (ofArguments result (first :: second :: others)).accepts value =
      (value.isTuple && (ofElements (first :: second :: others)).sameShape value) := by
  cases value <;> rfl

/--
A call accepts the values that have the shape of its only argument, and the tuples
whose elements have the shapes of its two or more arguments, one for one.
-/
theorem accepts_ofArguments_iff (result : SlotType) (arguments : List SlotType)
    (value : SlotType) :
    (ofArguments result arguments).accepts value = true ↔
      value ≠ .absent ∧
        ((∃ argument, arguments = [argument] ∧ argument.sameShape value = true) ∨
          ∃ arity elements, value = .tuple arity elements ∧ arity = elements.length ∧
            elements.length = arguments.length ∧ 2 ≤ arguments.length ∧
              List.Forall₂ (fun argument element => argument.sameShape element = true)
                arguments elements) := by
  match arguments with
  | [] => simp [accepts_ofArguments_nil]
  | [argument] =>
      have present : (!value.isAbsent) = true ↔ value ≠ .absent := by
        cases value <;> simp [isAbsent]
      rw [accepts_ofArguments_singleton, Bool.and_eq_true, present]
      simp
  | first :: second :: others =>
      rw [accepts_ofArguments_cons_cons, isTuple_and_sameShape_iff]
      constructor
      · rintro ⟨arity, elements, rfl, sized, same⟩
        have whole := same.length_eq
        exact ⟨by simp, .inr ⟨arity, elements, rfl, sized.trans whole, whole.symm, by simp, same⟩⟩
      · rintro ⟨-, ⟨argument, lone, -⟩ | ⟨arity, elements, rfl, sized, whole, -, same⟩⟩
        · simp at lone
        · exact ⟨arity, elements, rfl, sized.trans whole, same⟩

end Signature

end MethodRoles
