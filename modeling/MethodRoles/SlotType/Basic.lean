import MethodRoles.Text.Basic

/-!
# Slot types

A slot is an argument or the result of a method, and its type is what the
documentation says about it: nothing, a function, a named scalar, a reference
to an object of a class, a tuple or a sequence.  A tuple carries its arity
beside its elements, so that an arity stated elsewhere can be compared with
them.

The type is nested through lists, so its equality test is a pair of functions,
one on types and one on lists of types, with the proof that it decides
equality.
-/

namespace MethodRoles

/-- The type of an argument or result of a method. -/
inductive SlotType where
  /-- No value at all. -/
  | absent
  /-- A function to call back. -/
  | function
  /-- A scalar of the named type. -/
  | scalar (name : Text)
  /-- A reference to an object of the named class. -/
  | object (className : Text)
  /-- A group of fixed size. -/
  | tuple (arity : Nat) (elements : List SlotType)
  /-- A group of any size, of which the leading elements are known. -/
  | sequence (elements : List SlotType)

namespace SlotType

mutual

/-- Whether two types are equal. -/
def isEqual : SlotType → SlotType → Bool
  | .absent, .absent => true
  | .function, .function => true
  | .scalar left, .scalar right => left == right
  | .object left, .object right => left == right
  | .tuple leftArity left, .tuple rightArity right =>
      leftArity == rightArity && areEqual left right
  | .sequence left, .sequence right => areEqual left right
  | _, _ => false

/-- Whether two lists of types are equal. -/
def areEqual : List SlotType → List SlotType → Bool
  | [], [] => true
  | left :: lefts, right :: rights => isEqual left right && areEqual lefts rights
  | _, _ => false

end

mutual

theorem isEqual_iff : ∀ left right : SlotType, isEqual left right = true ↔ left = right
  | .absent, right => by cases right <;> simp [isEqual]
  | .function, right => by cases right <;> simp [isEqual]
  | .scalar _, right => by cases right <;> simp [isEqual]
  | .object _, right => by cases right <;> simp [isEqual]
  | .tuple _ elements, right => by
      cases right <;> simp [isEqual, areEqual_iff elements]
  | .sequence elements, right => by
      cases right <;> simp [isEqual, areEqual_iff elements]

theorem areEqual_iff :
    ∀ left right : List SlotType, areEqual left right = true ↔ left = right
  | [], right => by cases right <;> simp [areEqual]
  | left :: lefts, right => by
      cases right <;> simp [areEqual, isEqual_iff left, areEqual_iff lefts]

end

instance : Inhabited SlotType :=
  ⟨.absent⟩

instance : DecidableEq SlotType := fun left right =>
  decidable_of_iff _ (isEqual_iff left right)

/-- The scalar about which nothing is known. -/
def unknown : SlotType :=
  .scalar "unknown".toList

/-- The tuple of some elements. -/
def ofElements (elements : List SlotType) : SlotType :=
  .tuple elements.length elements

/-- The tuple of `count` elements of one type. -/
def repeated (element : SlotType) (count : Nat) : SlotType :=
  .tuple count (List.replicate count element)

/-- The number of bytes that one type takes among the elements of a group. -/
def byteSize : Nat :=
  32

/-- The number of bytes that one allocation has at most. -/
def allocationLimit : Nat :=
  Nat.pow 2 63 - 1

/-- Whether `count` elements of a group are within the limit of one allocation. -/
def holds (count : Nat) : Bool :=
  count * byteSize ≤ allocationLimit

/-- Sizes of up to 58 bits are within the limit. -/
theorem holds_iff {count : Nat} : holds count = true ↔ count < Nat.pow 2 58 := by
  rw [holds, byteSize, allocationLimit, decide_eq_true_eq, Nat.pow_eq, Nat.pow_eq]
  omega

/-- The tuple of `count` elements of one type, if that many can be held. -/
def repeated? (element : SlotType) (count : Nat) : Option SlotType :=
  if holds count then some (element.repeated count) else none

/-- Whether a type says that there is no value. -/
def isAbsent : SlotType → Bool
  | .absent => true
  | _ => false

/-- Whether a type is a scalar. -/
def isScalar : SlotType → Bool
  | .scalar _ => true
  | _ => false

/-- Whether a type is a tuple. -/
def isTuple : SlotType → Bool
  | .tuple _ _ => true
  | _ => false

/-- Whether a type is a sequence. -/
def isSequence : SlotType → Bool
  | .sequence _ => true
  | _ => false

/-- Whether a type is a tuple or a sequence. -/
def isGroup (type : SlotType) : Bool :=
  type.isTuple || type.isSequence

/-- The name of a scalar. -/
def scalarName? : SlotType → Option Text
  | .scalar name => some name
  | _ => none

/-- The names of the scalars that hold whole numbers. -/
def integerNames : List Text :=
  ["int".toList, "long".toList, "bool".toList, "char".toList]

/-- Whether a type is a scalar that holds whole numbers. -/
def isInteger : SlotType → Bool
  | .scalar name => integerNames.contains name
  | _ => false

mutual

/--
The written form of a type.  A tuple stands in round brackets, with a comma
after a lone element; a sequence stands in square brackets and ends with three
points.
-/
def render : SlotType → Text
  | .absent => "None".toList
  | .function => "function".toList
  | .scalar name => name
  | .object className => className
  | .tuple _ [element] => '(' :: render element ++ [',', ')']
  | .tuple _ elements => '(' :: renderListed elements ++ [')']
  | .sequence elements => '[' :: renderLeading elements ++ "...]".toList

/-- The written forms of some types, with commas between them. -/
def renderListed : List SlotType → Text
  | [] => []
  | [element] => render element
  | element :: next :: others => render element ++ [',', ' '] ++ renderListed (next :: others)

/-- The written forms of some types, each with a comma after it. -/
def renderLeading : List SlotType → Text
  | [] => []
  | element :: others => render element ++ [',', ' '] ++ renderLeading others

end

end SlotType

end MethodRoles
