import MethodRoles.SlotType.Shape

/-!
# Signatures

A signature is one documented way to call a method.  Its arguments are one slot
type: absent when there are none, the type itself for a lone argument that is
no group, and a tuple of the argument types otherwise.  So a lone group and the
group spread over several arguments stay apart.
-/

namespace MethodRoles

/-- One documented way to call a method. -/
structure Signature where
  /-- What the call returns. -/
  result : SlotType
  /-- What the call takes. -/
  arguments : SlotType
deriving DecidableEq

namespace Signature

/-- The slot type of an argument list. -/
def argumentSlot : List SlotType → SlotType
  | [] => .absent
  | [argument] => if argument.isGroup then .ofElements [argument] else argument
  | arguments => .ofElements arguments

/-- The signature with a given result and argument list. -/
def ofArguments (result : SlotType) (arguments : List SlotType) : Signature :=
  ⟨result, argumentSlot arguments⟩

/-- Whether a call takes no arguments. -/
def takesNothing (signature : Signature) : Bool :=
  signature.arguments.isAbsent

/-- Whether a call returns a value. -/
def returnsValue (signature : Signature) : Bool :=
  !signature.result.isAbsent

/-- An action takes no arguments and returns nothing. -/
def isAction (signature : Signature) : Bool :=
  signature.takesNothing && !signature.returnsValue

/-- An accessor takes no arguments and returns a value. -/
def isAccessor (signature : Signature) : Bool :=
  signature.takesNothing && signature.returnsValue

/-- The number of arguments. -/
def arity (signature : Signature) : Nat :=
  match signature.arguments with
  | .absent => 0
  | .tuple arity _ => arity
  | _ => 1

/-- The group that is the only argument, if the arguments are one group. -/
def loneGroup? : SlotType → Option SlotType
  | .tuple 1 [group] => if group.isGroup then some group else none
  | _ => none

/--
Whether a call accepts a value of a given type.  A group is accepted as the
only argument or spread over the arguments; any other value is accepted when
it has the shape of the argument.  Nothing accepts an absent value.
-/
def accepts (signature : Signature) (value : SlotType) : Bool :=
  if value.isAbsent || signature.arguments.isAbsent then
    false
  else if value.isGroup then
    match loneGroup? signature.arguments with
    | some group => group.sameShape value
    | none =>
        ((value.isTuple && signature.arguments.isTuple) ||
            (value.isSequence && signature.arguments.isSequence)) &&
          signature.arguments.sameShape value
  else
    signature.arguments.sameShape value

/-- The written form of the arguments, in round brackets. -/
def renderArguments : SlotType → Text
  | .absent => ['(', ')']
  | .tuple arity elements => (SlotType.tuple arity elements).render
  | argument => '(' :: argument.render ++ [')']

/-- The written form of a signature: its arguments, an arrow and its result. -/
def render (signature : Signature) : Text :=
  renderArguments signature.arguments ++ " -> ".toList ++ signature.result.render

end Signature

end MethodRoles
