import MethodRoles.Spelling.Form.Parts

/-!
# Reading a type spelling

The type of a spelling is the type of its outermost form, with the types of the
parts read in the same way.  Text outside the grammar has the unknown scalar as its
type.  The sizes of arrays have no limit here; `Spelling.Capacity` reads with one.
-/

namespace MethodRoles.Spelling

/-- The type that a spelling names. -/
def typeOf (spelling : Text) : SlotType :=
  (Form.ofText spelling).typeWith fun part _member => typeOf part
termination_by spelling.length
decreasing_by exact Form.length_lt_of_mem_parts _member

/-- The type of a form when every text has a type. -/
def Form.typeBy (typeOf : Text → SlotType) : Form → SlotType
  | .known type => type
  | .same part => typeOf part
  | .pointer part => pointed (typeOf part)
  | .tuple parts => .ofElements (parts.map typeOf)
  | .sequence parts => .sequence (parts.map typeOf)
  | .array part subscripts => arrayOf subscripts (typeOf part)

theorem Form.typeWith_eq_typeBy (form : Form) (typeOf : Text → SlotType) :
    (form.typeWith fun part _ => typeOf part) = form.typeBy typeOf := by
  cases form <;> simp [typeWith, typeBy]

/-- A spelling has the type of its outermost form. -/
theorem typeOf_eq (spelling : Text) :
    typeOf spelling = (Form.ofText spelling).typeBy typeOf := by
  rw [typeOf, Form.typeWith_eq_typeBy]

end MethodRoles.Spelling
