import MethodRoles.Probe.Value

/-!
# Live objects and the calls on them

A live object is probed through two kinds of calls without arguments: a getter
returns a value and a setter returns nothing.  Either may fail, and either may
change the object, so a call gives its outcome together with the object after
it.

A recorded object passes every call on and keeps the list of the calls made.  A
probe is an object that may be missing; every reading through a missing or
failing probe is unresolved.
-/

namespace MethodRoles

/-- Why a call on an object failed. -/
inductive CallError where
  /-- The class has no such method. -/
  | missingMethod (className method : Text)
  /-- The method takes another number of arguments. -/
  | wrongArity (className method : Text) (expected : Nat)
  /-- The called code itself failed. -/
  | native (reason : Text)
deriving DecidableEq

namespace CallError

/-- The message of a failed call. -/
def message : CallError → Text
  | .missingMethod className method =>
      '\x27' :: className ++ "' has no method '".toList ++ method ++ ['\x27']
  | .wrongArity className method expected =>
      '\x27' :: className ++ '.' :: method ++ "' expects ".toList ++ Text.ofNat expected ++
        " argument(s)".toList
  | .native reason => "native call failed: ".toList ++ reason

end CallError

/-- Objects whose getters and setters can be called. -/
class Probeable (Object : Type) where
  /-- The class of an object. -/
  className : Object → Text
  /-- Call a getter. -/
  get : Text → Object → Except CallError Value × Object
  /-- Call a setter. -/
  set : Text → Object → Except CallError Unit × Object

/-- One step of probing, as it is recorded. -/
inductive Call where
  /-- An object of a class was created. -/
  | create (className : Text)
  /-- A getter was called. -/
  | get (className method : Text)
  /-- A setter was called. -/
  | set (className method : Text)
deriving DecidableEq

/-- The written form of a recorded step. -/
def Call.render : Call → Text
  | .create className => "new ".toList ++ className
  | .get className method => className ++ '.' :: method
  | .set className method => className ++ '.' :: method

/-- An object with the calls made on it, in order. -/
structure Recorded (Object : Type) where
  /-- The object itself. -/
  object : Object
  /-- The calls so far. -/
  calls : List Call

namespace Recorded

variable {Object : Type} [Probeable Object]

/-- An object that a client brought along. -/
def borrowed (object : Object) : Recorded Object :=
  ⟨object, []⟩

/-- An object that was just created. -/
def created (object : Object) : Recorded Object :=
  ⟨object, [.create (Probeable.className object)]⟩

instance : Probeable (Recorded Object) where
  className recorded := Probeable.className recorded.object
  get method recorded :=
    let (outcome, object) := Probeable.get method recorded.object
    (outcome,
      ⟨object, recorded.calls ++ [.get (Probeable.className recorded.object) method]⟩)
  set method recorded :=
    let (outcome, object) := Probeable.set method recorded.object
    (outcome,
      ⟨object, recorded.calls ++ [.set (Probeable.className recorded.object) method]⟩)

end Recorded

/-- An object to probe, if there is one. -/
abbrev Probe (Object : Type) := Option Object

namespace Probe

variable {Object : Type} [Probeable Object]

/-- Call a getter; a missing object or a failing call leaves the value unresolved. -/
def get (method : Text) : Probe Object → Resolution Value × Probe Object
  | none => (.unresolved, none)
  | some object =>
      match Probeable.get method object with
      | (.ok value, object) => (.known value, some object)
      | (.error _, object) => (.unresolved, some object)

/-- Call a setter; the answer is whether the call was made and succeeded. -/
def set (method : Text) : Probe Object → Bool × Probe Object
  | none => (false, none)
  | some object =>
      match Probeable.set method object with
      | (.ok _, object) => (true, some object)
      | (.error _, object) => (false, some object)

end Probe

end MethodRoles
