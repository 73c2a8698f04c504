import MethodRoles.Spelling.Reading

/-!
# Reading a type spelling within the limits of memory

The elements of a group are held in one allocation, which cannot be of any size.  A
spelling may give a size that is a number of 64 bits and still too large for the elements.
Then there is no type to give, and the reading breaks off.

Reading with the limit (`typeOf?`) goes through the same forms as reading without it.  The
dimensions of an array are taken from the innermost outwards, and the first that cannot be
used decides: a subscript that gives no dimension leaves the array without a type, whatever
stands before it, and a size that is too large breaks off the whole reading.
-/

namespace MethodRoles.Spelling

namespace Form

/-- One dimension of an array, unless it is a size that is too large. -/
def dimensioned? : Option Nat → SlotType → Option SlotType
  | some count, element => element.repeated? count
  | none, element => some (.sequence [element])

/-- Nest dimensions around a type, by their subscripts from the innermost outwards. -/
def nest? : (subscripts : List Text) → SlotType → Option SlotType
  | [], type => some type
  | subscript :: outer, type =>
      match dimension? subscript with
      | some dimension => (dimensioned? dimension type).bind (nest? outer)
      | none => some .unknown

/-- The types of some texts in their order, or nothing if `typeOf?` breaks off at one. -/
def typesWith? : (parts : List Text) →
    (typeOf? : (part : Text) → part ∈ parts → Option SlotType) → Option (List SlotType)
  | [], _ => some []
  | part :: others, typeOf? =>
      (typeOf? part List.mem_cons_self).bind fun type =>
        (typesWith? others fun other member =>
          typeOf? other (List.mem_cons_of_mem part member)).map fun types => type :: types

/-- The type of a form, when `typeOf?` gives the types of its parts, or breaks off at one. -/
def typeWith? : (form : Form) →
    (typeOf? : (part : Text) → part ∈ form.parts → Option SlotType) → Option SlotType
  | .known type, _ => some type
  | .same part, typeOf? => typeOf? part (List.mem_singleton_self part)
  | .pointer part, typeOf? => (typeOf? part (List.mem_singleton_self part)).map pointed
  | .tuple parts, typeOf? => (typesWith? parts typeOf?).map .ofElements
  | .sequence parts, typeOf? => (typesWith? parts typeOf?).map .sequence
  | .array part subscripts, typeOf? =>
      (typeOf? part (List.mem_singleton_self part)).bind (nest? subscripts.reverse)

end Form

/-- The type that a spelling names, unless a size in it is too large. -/
def typeOf? (spelling : Text) : Option SlotType :=
  (Form.ofText spelling).typeWith? fun part _member => typeOf? part
termination_by spelling.length
decreasing_by exact Form.length_lt_of_mem_parts _member

end MethodRoles.Spelling
