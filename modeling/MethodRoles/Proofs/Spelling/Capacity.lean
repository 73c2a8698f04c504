import MethodRoles.Spelling.Capacity

/-!
# Reading with a limit and without one

Where reading with the limit gives a type, it is the type that reading without it gives
(`typeOf_of_typeOf?`).  So what is known of the types of spellings holds of every type that
is given at all.

The two readings go through the same forms.  They nest the dimensions of an array in
different ways, one over the dimensions of all subscripts and one subscript by subscript
from the innermost outwards.
-/

namespace MethodRoles.Spelling

namespace Form

/-- The type of a form when every text has a type or breaks off. -/
def typeBy? (typeOf? : Text → Option SlotType) : Form → Option SlotType
  | .known type => some type
  | .same part => typeOf? part
  | .pointer part => (typeOf? part).map pointed
  | .tuple parts => (typesWith? parts fun part _ => typeOf? part).map .ofElements
  | .sequence parts => (typesWith? parts fun part _ => typeOf? part).map .sequence
  | .array part subscripts => (typeOf? part).bind (nest? subscripts.reverse)

theorem typeWith?_eq_typeBy? (form : Form) (typeOf? : Text → Option SlotType) :
    (form.typeWith? fun part _ => typeOf? part) = form.typeBy? typeOf? := by
  cases form <;> rfl

theorem dimensions?_append_singleton (outer : List Text) (subscript : Text) :
    dimensions? (outer ++ [subscript]) =
      (dimension? subscript).bind fun dimension =>
        (dimensions? outer).map fun dimensions => dimensions ++ [dimension] := by
  induction outer with
  | nil => cases found : dimension? subscript <;> simp [dimensions?, found]
  | cons first others induction =>
      rw [List.cons_append, dimensions?, dimensions?, induction]
      cases dimension? first <;> cases dimension? subscript <;> cases dimensions? others <;> rfl

section Innermost

variable {subscript : Text} {outer : List Text} {element : SlotType}

/-- The innermost subscript is the first to go around the elements. -/
theorem arrayOf_append_of_dimension {dimension : Option Nat}
    (found : dimension? subscript = some dimension) :
    arrayOf (outer ++ [subscript]) element = arrayOf outer (dimensioned dimension element) := by
  rw [arrayOf, arrayOf, dimensions?_append_singleton, found, Option.bind_some]
  cases dimensions? outer <;> simp

theorem arrayOf_append_of_no_dimension (missing : dimension? subscript = none) :
    arrayOf (outer ++ [subscript]) element = .unknown := by
  rw [arrayOf, dimensions?_append_singleton, missing, Option.bind_none]

end Innermost

theorem dimensioned_of_dimensioned? {dimension : Option Nat} {element type : SlotType}
    (held : dimensioned? dimension element = some type) : dimensioned dimension element = type := by
  cases dimension with
  | none => exact Option.some.inj held
  | some count => exact (Option.ite_none_right_eq_some.mp held).2 |> Option.some.inj

/-- Nesting with the limit gives nothing but the type of the array. -/
theorem arrayOf_of_nest? {subscripts : List Text} {element type : SlotType}
    (nested : nest? subscripts element = some type) :
    arrayOf subscripts.reverse element = type := by
  induction subscripts generalizing element with
  | nil => exact Option.some.inj nested
  | cons subscript outer induction =>
      rw [List.reverse_cons]
      cases found : dimension? subscript with
      | none =>
          rw [nest?, found] at nested
          rw [arrayOf_append_of_no_dimension found]
          exact Option.some.inj nested
      | some dimension =>
          rw [nest?, found] at nested
          rcases Option.bind_eq_some_iff.mp nested with ⟨inner, held, rest⟩
          rw [arrayOf_append_of_dimension found, dimensioned_of_dimensioned? held, induction rest]

theorem map_of_typesWith? {typeOf? : Text → Option SlotType} {typeOf : Text → SlotType}
    {parts : List Text} (agree : ∀ part ∈ parts, ∀ type, typeOf? part = some type →
      typeOf part = type) {types : List SlotType}
    (found : (typesWith? parts fun part _ => typeOf? part) = some types) :
    parts.map typeOf = types := by
  induction parts generalizing types with
  | nil => exact Option.some.inj found
  | cons part others induction =>
      rw [List.forall_mem_cons] at agree
      rcases Option.bind_eq_some_iff.mp found with ⟨type, here, rest⟩
      rcases Option.map_eq_some_iff.mp rest with ⟨later, there, rfl⟩
      rw [List.map_cons, agree.1 type here, induction agree.2 there]

/-- A form has the same type with the limit and without it, if this holds of its parts. -/
theorem typeBy_of_typeBy? {form : Form} {typeOf? : Text → Option SlotType}
    {typeOf : Text → SlotType} (agree : ∀ part ∈ form.parts, ∀ type, typeOf? part = some type →
      typeOf part = type) {type : SlotType} (found : form.typeBy? typeOf? = some type) :
    form.typeBy typeOf = type := by
  cases form with
  | known known => exact Option.some.inj found
  | same part => exact agree part (List.mem_singleton_self part) type found
  | pointer part =>
      rcases Option.map_eq_some_iff.mp found with ⟨target, here, rfl⟩
      rw [typeBy, agree part (List.mem_singleton_self part) target here]
  | tuple parts =>
      rcases Option.map_eq_some_iff.mp found with ⟨types, here, rfl⟩
      exact congrArg SlotType.ofElements (map_of_typesWith? agree here)
  | sequence parts =>
      rcases Option.map_eq_some_iff.mp found with ⟨types, here, rfl⟩
      exact congrArg SlotType.sequence (map_of_typesWith? agree here)
  | array part subscripts =>
      rcases Option.bind_eq_some_iff.mp found with ⟨element, here, nested⟩
      have array := arrayOf_of_nest? nested
      rw [List.reverse_reverse] at array
      rw [typeBy, agree part (List.mem_singleton_self part) element here, array]

end Form

/-- A spelling has the type of its outermost form, or breaks off with it. -/
theorem typeOf?_eq (spelling : Text) :
    typeOf? spelling = (Form.ofText spelling).typeBy? typeOf? := by
  rw [typeOf?, Form.typeWith?_eq_typeBy?]

/-- Whatever type is read with the limit is the type of the spelling. -/
theorem typeOf_of_typeOf? {spelling : Text} {type : SlotType}
    (found : typeOf? spelling = some type) : typeOf spelling = type := by
  rw [typeOf?_eq] at found
  rw [typeOf_eq]
  exact Form.typeBy_of_typeBy? (fun part _member type found => typeOf_of_typeOf? found) found
termination_by spelling.length
decreasing_by exact Form.length_lt_of_mem_parts _member

end MethodRoles.Spelling
