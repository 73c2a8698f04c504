import MethodRoles.SlotType.Basic

/-!
# Shapes of slot types

Two types have the same shape when a value of one can stand for a value of the
other as far as documentation can tell.  Scalars are compared by kind, objects
agree whatever their classes are, tuples agree element by element, and a
sequence agrees with every group whose leading element agrees with its own.
-/

namespace MethodRoles

/-- The kinds of scalars. -/
inductive ScalarKind where
  | numeric
  | textual
  | pointer
  | unknown
deriving DecidableEq

namespace ScalarKind

/-- The names of the numeric scalars. -/
def numericNames : List Text :=
  ["int".toList, "long".toList, "float".toList, "bool".toList, "char".toList]

/-- The kind of the scalar with a given name. -/
def ofName (name : Text) : ScalarKind :=
  if numericNames.contains name then
    .numeric
  else if ["string".toList, "unicode".toList].contains name then
    .textual
  else if name == "pointer".toList then
    .pointer
  else
    .unknown

/-- Two kinds are compatible when they are equal or one of them is unknown. -/
def compatible (left right : ScalarKind) : Bool :=
  left == right || left == .unknown || right == .unknown

end ScalarKind

namespace SlotType

mutual

/--
Whether two types have the same shape.  Between a sequence and another group, the order in
which the leading elements are compared makes no difference (`sameShape_tuple_sequence`).
-/
def sameShape : SlotType → SlotType → Bool
  | .absent, .absent => true
  | .function, .function => true
  | .scalar left, .scalar right =>
      (ScalarKind.ofName left).compatible (ScalarKind.ofName right)
  | .object _, .object _ => true
  | .tuple leftArity left, .tuple rightArity right =>
      leftArity == rightArity && sameShapes left right
  | .sequence left, .sequence right => sameLeadingShape left right
  | .sequence left, .tuple _ right => sameLeadingShape left right
  | .tuple _ left, .sequence right => sameLeadingShape left right
  | _, _ => false

/-- Whether two lists have the same length and the same shapes at each place. -/
def sameShapes : List SlotType → List SlotType → Bool
  | [], [] => true
  | left :: lefts, right :: rights => sameShape left right && sameShapes lefts rights
  | _, _ => false

/-- Whether the leading types of two lists have the same shape, if both lists have one. -/
def sameLeadingShape : List SlotType → List SlotType → Bool
  | left :: _, right :: _ => sameShape left right
  | _, _ => true

end

end SlotType

end MethodRoles
