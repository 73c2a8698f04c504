import MethodRoles.Probe.Scripted
import MethodRoles.Proofs.Probe.Answers

/-!
# Scripted objects that stay as they are

A scripted object is settled when each of its getters has one outcome left, which
is then its answer for good.  Calling a getter does not change such an object, and
a setter changes exactly the answers of the getters that it writes.
-/

namespace MethodRoles.ScriptedObject

variable {Content : Type}

theorem lookup_cons_eq (entry : Text × Content) (others : List (Text × Content)) (name : Text) :
    (entry :: others).lookup name =
      if name = entry.1 then some entry.2 else others.lookup name := by
  rw [List.lookup_cons]
  by_cases same : name = entry.1
  · simp [same]
  · simp [same, beq_eq_false_iff_ne.mpr same]

theorem put_of_lookup {name : Text} {content : Content} {table : List (Text × Content)}
    (found : table.lookup name = some content) : put name content table = table := by
  induction table with
  | nil => simp at found
  | cons entry others induction =>
      rw [lookup_cons_eq] at found
      rw [put]
      by_cases same : entry.1 = name
      · rw [if_pos same.symm, Option.some.injEq] at found
        rw [if_pos same, ← found, ← same]
      · rw [if_neg (Ne.symm same)] at found
        rw [if_neg same, induction found]

theorem lookup_put (name other : Text) (content : Content) (table : List (Text × Content)) :
    (put name content table).lookup other =
      if other = name then some content else table.lookup other := by
  induction table with
  | nil => rw [put, lookup_cons_eq]
  | cons entry others induction =>
      rw [put]
      by_cases here : entry.1 = name
      · rw [if_pos here, lookup_cons_eq, lookup_cons_eq, here]
        split <;> rfl
      · rw [if_neg here, lookup_cons_eq, lookup_cons_eq, induction]
        by_cases same : other = name
        · have differs : other ≠ entry.1 := same ▸ Ne.symm here
          rw [if_neg differs, if_pos same, if_pos same]
        · rw [if_neg same, if_neg same]

theorem mem_put {name : Text} {content : Content} {table : List (Text × Content)}
    {entry : Text × Content} (member : entry ∈ put name content table) :
    entry = (name, content) ∨ entry ∈ table := by
  induction table with
  | nil => exact Or.inl (List.mem_singleton.mp member)
  | cons first others induction =>
      rw [put] at member
      split at member
      · rcases List.mem_cons.mp member with same | member
        · exact Or.inl same
        · exact Or.inr (List.mem_cons_of_mem _ member)
      · rcases List.mem_cons.mp member with rfl | member
        · exact Or.inr List.mem_cons_self
        · exact (induction member).imp_right (List.mem_cons_of_mem _)

/-- Each getter of an object has one outcome left. -/
def Settled (object : ScriptedObject) : Prop :=
  ∀ entry ∈ object.getters, entry.2.length = 1

/-- The outcome of a getter as an answer of the object. -/
def Outcome.answer (className getter : Text) : Outcome → Except CallError Value
  | .value value => .ok value
  | .fault fault => .error (fault.toError className getter)

/-- An object answers the first outcome that a getter has left. -/
theorem answer_eq (object : ScriptedObject) (getter : Text) :
    Probeable.answer object getter =
      match object.getters.lookup getter with
      | some (outcome :: _) => Outcome.answer object.className getter outcome
      | _ => .error (.missingMethod object.className getter) := by
  change (ScriptedObject.get getter object).1 = _
  rcases found : object.getters.lookup getter with _ | ⟨_ | ⟨outcome, others⟩⟩
  · simp only [ScriptedObject.get, found]
  · simp only [ScriptedObject.get, found]
  · rcases outcome with value | fault <;> simp only [ScriptedObject.get, found] <;> rfl

theorem get_of_settled {object : ScriptedObject} (settled : object.Settled) (getter : Text) :
    (Probeable.get getter object).2 = object := by
  change (ScriptedObject.get getter object).2 = object
  rw [ScriptedObject.get]
  split
  · rename_i outcome others found
    have listed : (getter, outcome :: others) ∈ object.getters := by
      rcases List.lookup_eq_some_iff.mp found with ⟨before, after, whole, -⟩
      rw [whole]
      exact List.mem_append_right _ List.mem_cons_self
    have single := settled _ listed
    have alone : others = [] := by simpa using single
    subst alone
    have kept : put getter (remaining [outcome]) object.getters = object.getters :=
      put_of_lookup found
    rcases outcome with value | fault <;> simp [kept]
  · rfl

theorem settled_write {object : ScriptedObject} (settled : object.Settled)
    (writes : List (Text × Outcome)) : (object.write writes).Settled := by
  rw [Settled, write]
  suffices kept : ∀ table : List (Text × List Outcome),
      (∀ entry ∈ table, entry.2.length = 1) →
        ∀ entry ∈ writes.foldl (fun getters entry => put entry.1 [entry.2] getters) table,
          entry.2.length = 1 from kept object.getters settled
  induction writes with
  | nil => exact fun _ single => single
  | cons first others induction =>
      intro table single
      apply induction
      intro entry member
      rcases mem_put member with rfl | member
      · rfl
      · exact single entry member

/-- Writing one getter changes the answer of that getter alone. -/
theorem answer_write (object : ScriptedObject) (getter : Text) (outcome : Outcome) :
    Probeable.answer (object.write [(getter, outcome)]) =
      Function.update (Probeable.answer object) getter
        (Outcome.answer object.className getter outcome) := by
  funext other
  rw [answer_eq]
  simp only [write, List.foldl_cons, List.foldl_nil, lookup_put]
  by_cases same : other = getter
  · simp [same]
  · rw [if_neg same, Function.update_of_ne same, answer_eq]

end MethodRoles.ScriptedObject
