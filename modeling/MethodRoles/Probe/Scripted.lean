import MethodRoles.Probe.Object
import MethodRoles.Text.Keyed

/-!
# Scripted objects

A scripted object answers from tables.  Each getter has a list of outcomes, of
which every call uses up the first until one is left.  Each setter has a list of
getters with the outcome that they have from then on, and may fail after that.
-/

namespace MethodRoles

/-- A failure in a script, without the call that it happens in. -/
inductive Fault where
  /-- As if the method were missing. -/
  | missingMethod
  /-- As if the method took another number of arguments. -/
  | wrongArity (expected : Nat)
  /-- A failure of the called code. -/
  | native (reason : Text)
deriving DecidableEq

/-- The error of a call that a fault happens in. -/
def Fault.toError (className method : Text) : Fault → CallError
  | .missingMethod => .missingMethod className method
  | .wrongArity expected => .wrongArity className method expected
  | .native reason => .native reason

/-- What a scripted getter does. -/
inductive Outcome where
  /-- It returns a value. -/
  | value (value : Value)
  /-- It fails. -/
  | fault (fault : Fault)
deriving DecidableEq

/-- What a scripted setter does. -/
structure Effect where
  /-- The getters that change, with their outcomes from then on. -/
  writes : List (Text × Outcome)
  /-- The failure that follows the changes. -/
  fault? : Option Fault
deriving DecidableEq

/-- An object that answers from tables. -/
structure ScriptedObject where
  /-- The class of the object. -/
  className : Text
  /-- The outcomes that each getter has left. -/
  getters : List (Text × List Outcome)
  /-- The effect of each setter. -/
  setters : List (Text × Effect)
deriving DecidableEq

namespace ScriptedObject

/-- Replace what a table holds under a name, or add it at the end. -/
def put {α : Type} (name : Text) (content : α) : List (Text × α) → List (Text × α)
  | [] => [(name, content)]
  | entry :: others =>
      if entry.1 = name then
        (name, content) :: others
      else
        entry :: put name content others

/-- The object with the given tables; of two entries under one name the later one stays. -/
def ofTables (className : Text) (getters : List (Text × List Outcome))
    (setters : List (Text × Effect)) : ScriptedObject :=
  { className := className
    getters := getters.foldl (fun table entry => put entry.1 entry.2 table) []
    setters := setters.foldl (fun table entry => put entry.1 entry.2 table) [] }

/-- The outcomes that the getters have left, in the order of the getters' names. -/
def remainingOutcomes (object : ScriptedObject) : Keyed (List Outcome) :=
  .ofList object.getters

/-- What is left of some outcomes after the first was used. -/
def remaining : List Outcome → List Outcome
  | _ :: next :: others => next :: others
  | outcomes => outcomes

/-- Call a getter. -/
def get (method : Text) (object : ScriptedObject) :
    Except CallError Value × ScriptedObject :=
  match object.getters.lookup method with
  | some (outcome :: others) =>
      let after := { object with
        getters := put method (remaining (outcome :: others)) object.getters }
      match outcome with
      | .value value => (.ok value, after)
      | .fault fault => (.error (fault.toError object.className method), after)
  | _ => (.error (.missingMethod object.className method), object)

/-- Carry out the writes of a setter. -/
def write (writes : List (Text × Outcome)) (object : ScriptedObject) : ScriptedObject :=
  { object with
    getters := writes.foldl (fun getters entry => put entry.1 [entry.2] getters) object.getters }

/-- Call a setter. -/
def set (method : Text) (object : ScriptedObject) :
    Except CallError Unit × ScriptedObject :=
  match object.setters.lookup method with
  | some effect =>
      match effect.fault? with
      | none => (.ok (), object.write effect.writes)
      | some fault =>
          (.error (fault.toError object.className method), object.write effect.writes)
  | none => (.error (.missingMethod object.className method), object)

instance : Probeable ScriptedObject where
  className := className
  get := get
  set := set

end ScriptedObject

end MethodRoles
