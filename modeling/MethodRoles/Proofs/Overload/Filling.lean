import MethodRoles.Proofs.Overload.RoundTrip
import MethodRoles.Proofs.Overload.Stated

/-!
# Native renderings only fill holes

A scripted rendering states its result and a type at each of its items, apart from
those that say nothing about their type.  These holes are all that the native
rendering beside it can change: it fills each with the type of the parameter in the
same place, as long as it has as many parameters as there are items
(`completes_argumentTypes`).

So whether there is a signature, what it returns, and which types it has outside its
holes depends on the scripted rendering alone (`signature?_onlyFill`).
-/

namespace MethodRoles.Overload

open Scan Spelling

/-! ## Holes -/

/-- An item that states no type. -/
def IsHole (item : Text) : Prop :=
  argumentSpelling item = []

section Items

variable {item : Text}

theorem argumentType_of_hole (hole : IsHole item) (filler : SlotType) :
    argumentType filler item = filler := by
  rw [argumentType, hole]
  rfl

end Items

/--
Types for some items: those that the items state, and at each hole the type of the
native parameter in its place, or the unknown one without as many parameters as items.
-/
structure Completes (items : List Text) (native? : Option Text) (types : List SlotType) :
    Prop where
  length : types.length = items.length
  stated : ∀ (position : Nat) (item : Text), items[position]? = some item → ¬ IsHole item →
    types[position]? = some (typeOf (argumentSpelling item))
  filled : ∀ parameters, native?.bind parameterSpellings? = some parameters →
    parameters.length = items.length →
      ∀ (position : Nat) (item : Text), items[position]? = some item → IsHole item →
        types[position]? = parameters[position]?.map typeOf
  unknown : (∀ parameters, native?.bind parameterSpellings? = some parameters →
      parameters.length ≠ items.length) →
    ∀ (position : Nat) (item : Text), items[position]? = some item → IsHole item →
      types[position]? = some .unknown

theorem Completes.agree {items : List Text} {left? right? : Option Text}
    {lefts rights : List SlotType} (left : Completes items left? lefts)
    (right : Completes items right? rights) {position : Nat} {item : Text}
    (found : items[position]? = some item) (stated : ¬ IsHole item) :
    lefts[position]? = rights[position]? := by
  rw [left.stated position item found stated, right.stated position item found stated]

example : signature? ⟨some "V.SetMask(, x:, =3, int)".toList,
    some "void SetMask (unsigned char *mask, vtkCell *cell, bool on, float n)".toList⟩ =
      some ⟨.absent, .tuple 4 [.sequence [.scalar "int".toList], .object "vtkCell".toList,
        .scalar "bool".toList, .scalar "int".toList]⟩ := by
  decide +kernel

end MethodRoles.Overload
