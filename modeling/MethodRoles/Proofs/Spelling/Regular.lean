import MethodRoles.Proofs.Spelling.ClassName
import MethodRoles.Proofs.Spelling.Written

/-!
# The types that spellings name are regular

A type is regular when its tuples hold as many elements as they say, its scalars
have canonical names and its objects have names of classes, at every depth.  Every
spelling names a regular type, whatever text it is (`typeOf_regular`).

A form that needs no part read is where names enter a type: they come from the
vocabulary, from the test for object names, or are the unknown scalar.  All other
forms only put together the types of shorter spellings.
-/

namespace MethodRoles

open Spelling

namespace SlotType

/--
A type with canonical scalars, with names of classes as the names of its objects,
and with tuples of their stated size.
-/
inductive Regular : SlotType → Prop where
  | absent : Regular .absent
  | function : Regular .function
  | scalar {name : Text} (canonical : name ∈ canonicalNames) : Regular (.scalar name)
  | object {className : Text} (named : IsClassName className) : Regular (.object className)
  | tuple {elements : List SlotType} (regular : ∀ element ∈ elements, Regular element) :
      Regular (.tuple elements.length elements)
  | sequence {elements : List SlotType} (regular : ∀ element ∈ elements, Regular element) :
      Regular (.sequence elements)

theorem Regular.unknown : Regular .unknown :=
  .scalar (by decide)

theorem Regular.repeated {element : SlotType} (regular : element.Regular) (count : Nat) :
    (SlotType.repeated element count).Regular := by
  have elements : ∀ copy ∈ List.replicate count element, copy.Regular := by
    intro copy member
    rwa [List.eq_of_mem_replicate member]
  simpa [SlotType.repeated] using Regular.tuple elements

theorem Regular.lone {element : SlotType} (regular : element.Regular) :
    (SlotType.sequence [element]).Regular :=
  .sequence (List.forall_mem_singleton.mpr regular)

end SlotType

namespace Spelling

open SlotType

theorem regular_of_lookup? {spelling : Text} {type : SlotType}
    (found : lookup? spelling = some type) : type.Regular := by
  have listed : ∀ entry ∈ vocabulary,
      entry.2 ∈ .absent :: .function :: canonicalNames.map SlotType.scalar := by
    decide
  rcases List.lookup_eq_some_iff.mp found with ⟨before, after, whole, -⟩
  have member := listed (spelling, type) (by simp [whole])
  rcases List.mem_cons.mp member with rfl | member
  · exact .absent
  · rcases List.mem_cons.mp member with rfl | member
    · exact .function
    · rcases List.mem_map.mp member with ⟨name, canonical, rfl⟩
      exact .scalar canonical

namespace Form

/-- The type of a form is regular if the form needs no part read. -/
def KnownRegular : Form → Prop
  | .known type => type.Regular
  | _ => True

theorem knownRegular_unreadable : unreadable.KnownRegular :=
  Regular.unknown

theorem knownRegular_ofGroup (inside : Text) : (ofGroup inside).KnownRegular := by
  unfold ofGroup
  dsimp only
  split
  · exact Regular.absent
  · split <;> trivial

theorem knownRegular_ofGeneric (base subscript : Text) :
    (ofGeneric base subscript).KnownRegular := by
  unfold ofGeneric
  split
  · -- Without any item the group is absent, but the generic tuple is the one of nothing.
    split
    · trivial
    · exact knownRegular_ofGroup subscript
  · split
    · trivial
    · split
      · trivial
      · split
        · exact Regular.function
        · trivial

theorem knownRegular_ofSubscripted (base subscripts : Text) :
    (ofSubscripted base subscripts).KnownRegular := by
  unfold ofSubscripted
  split
  · exact knownRegular_unreadable
  · exact knownRegular_ofGeneric _ _
  · trivial

theorem knownRegular_object (name : Text) :
    (if isObjectName name then known (.object name) else unreadable).KnownRegular := by
  split
  case isTrue objectName => exact Regular.object (isObjectName_iff.mp objectName)
  case isFalse => exact knownRegular_unreadable

theorem knownRegular_ofTemplate (base arguments : Text) :
    (ofTemplate base arguments).KnownRegular := by
  unfold ofTemplate
  dsimp only
  split
  · trivial
  · split
    · split
      · trivial
      · exact knownRegular_unreadable
    · exact knownRegular_object _

theorem knownRegular_ofBracketed (spelling : Text) : (ofBracketed spelling).KnownRegular := by
  unfold ofBracketed
  split
  · split
    · exact knownRegular_ofGroup _
    · exact knownRegular_unreadable
  · exact knownRegular_unreadable

theorem knownRegular_ofNamed (spelling : Text) : (ofNamed spelling).KnownRegular := by
  unfold ofNamed
  split
  · exact knownRegular_ofSubscripted _ _
  · split
    · exact knownRegular_ofTemplate _ _
    · exact knownRegular_object _

theorem knownRegular_ofSqueezed (spelling : Text) : (ofSqueezed spelling).KnownRegular := by
  unfold ofSqueezed
  split
  · exact knownRegular_unreadable
  · split
    case h_1 type found => exact regular_of_lookup? found
    case h_2 =>
      split
      · trivial
      · split
        · exact knownRegular_ofBracketed spelling
        · split
          · trivial
          · exact knownRegular_ofNamed spelling

theorem pointed_regular {type : SlotType} (regular : type.Regular) : (pointed type).Regular := by
  unfold pointed
  split
  · exact regular
  · exact regular.lone

theorem dimensioned_regular {type : SlotType} (regular : type.Regular) :
    ∀ dimension, (dimensioned dimension type).Regular
  | some count => regular.repeated count
  | none => regular.lone

theorem dimensions_regular {type : SlotType} (regular : type.Regular)
    (dimensions : List (Option Nat)) : (dimensions.foldr dimensioned type).Regular := by
  induction dimensions with
  | nil => exact regular
  | cons dimension others induction => exact dimensioned_regular induction dimension

theorem arrayOf_regular {type : SlotType} (regular : type.Regular) (subscripts : List Text) :
    (arrayOf subscripts type).Regular := by
  unfold arrayOf
  split
  · exact dimensions_regular regular _
  · exact .unknown

/-- A form has a regular type when its parts have one. -/
theorem typeBy_regular {form : Form} {typeOf : Text → SlotType} (known : form.KnownRegular)
    (regular : ∀ part ∈ form.parts, (typeOf part).Regular) : (form.typeBy typeOf).Regular := by
  cases form with
  | known type => exact known
  | same part => exact regular part (List.mem_singleton_self part)
  | pointer part => exact pointed_regular (regular part (List.mem_singleton_self part))
  | tuple parts => exact .tuple (List.forall_mem_map.mpr regular)
  | sequence parts => exact .sequence (List.forall_mem_map.mpr regular)
  | array part subscripts =>
      exact arrayOf_regular (regular part (List.mem_singleton_self part)) subscripts

end Form

/-- Every spelling names a regular type. -/
theorem typeOf_regular (spelling : Text) : (typeOf spelling).Regular := by
  rw [typeOf_eq]
  exact Form.typeBy_regular (Form.knownRegular_ofSqueezed (squeeze spelling))
    fun part _member => typeOf_regular part
termination_by spelling.length
decreasing_by exact Form.length_lt_of_mem_parts _member

end Spelling

end MethodRoles
