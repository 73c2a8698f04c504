import MethodRoles.Probe.Object
import Mathlib.Logic.Function.Basic

/-!
# The answers of an object

In each state an object has one answer for every getter.  Calls take it to other
states, where it may answer differently.  A recorded object answers as the object
that it records, and goes through the same states.
-/

namespace MethodRoles

/-- What each getter returns, or why it fails. -/
abbrev Answers :=
  Text → Except CallError Value

/-- What is known of the value that a getter returns. -/
def Answers.value (answers : Answers) (getter : Text) : Resolution Value :=
  match answers getter with
  | .ok value => .known value
  | .error _ => .unresolved

namespace Probeable

variable {Object : Type} [Probeable Object]

/-- The answers of an object in its present state. -/
def answer (object : Object) : Answers :=
  fun getter => (Probeable.get getter object).1

/-- The states into which getters and the setters of some names take an object. -/
inductive Reaches (setters : Text → Prop) (start : Object) : Object → Prop where
  /-- The state that it starts in. -/
  | start : Reaches setters start start
  /-- The state after a getter was called. -/
  | get {reached : Object} (before : Reaches setters start reached) (getter : Text) :
      Reaches setters start (Probeable.get getter reached).2
  /-- The state after one of the setters was called. -/
  | set {reached : Object} (before : Reaches setters start reached) {setter : Text}
      (allowed : setters setter) : Reaches setters start (Probeable.set setter reached).2

theorem Reaches.trans {setters : Text → Prop} {first second third : Object}
    (before : Reaches setters first second) (after : Reaches setters second third) :
    Reaches setters first third := by
  induction after with
  | start => exact before
  | get _ getter induction => exact induction.get getter
  | set _ allowed induction => exact induction.set allowed

/-- The states of a recorded object are states of the object. -/
theorem Reaches.object {setters : Text → Prop} {recorded reached : Recorded Object}
    (steps : Reaches setters recorded reached) :
    Reaches setters recorded.object reached.object := by
  induction steps with
  | start => exact .start
  | get _ getter induction => exact induction.get getter
  | set _ allowed induction => exact induction.set allowed

end Probeable

namespace Probe

variable {Object : Type} [Probeable Object]

/-- Reading a getter of an object gives its answer. -/
theorem get_some (getter : Text) (object : Object) :
    Probe.get getter (some object) =
      ((Probeable.answer object).value getter, some (Probeable.get getter object).2) := by
  rw [Probe.get, Answers.value, Probeable.answer]
  split <;> rename_i called <;> rw [called]

theorem set_some_of_ok {setter : Text} {object : Object}
    (succeeds : (Probeable.set setter object).1 = .ok ()) :
    Probe.set setter (some object) = (true, some (Probeable.set setter object).2) := by
  rw [Probe.set]
  split <;> rename_i called
  · rw [called]
  · simp [called] at succeeds

theorem set_some_of_error {setter : Text} {object : Object} {error : CallError}
    (fails : (Probeable.set setter object).1 = .error error) :
    Probe.set setter (some object) = (false, some (Probeable.set setter object).2) := by
  rw [Probe.set]
  split <;> rename_i called
  · simp [called] at fails
  · rw [called]

end Probe

end MethodRoles
