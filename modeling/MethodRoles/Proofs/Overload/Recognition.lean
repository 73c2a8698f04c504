import MethodRoles.Proofs.Overload.Head
import MethodRoles.Proofs.Scan.Path
import Mathlib.Data.List.Forall2

/-!
# Every documented overload has its signature

A head is found on a raw line and looked for again when the signature of the overload is
read, this time in a text without the marker and with all continuing lines behind it.
It is found both times, because it ends at its bracket: what the second search sees in
front of that bracket is what the first one has left (`Head.Opening.ofText?_append`).

So no overload with a scripted rendering is lost.  One with a native rendering alone has
a signature when there is a bracket in it, and the signatures of a documentation text are
those of its overloads, one by one (`Signature.ofDocumentation_documents`).
-/

namespace MethodRoles

open Text Scan Spelling

namespace Head

/-- What stands before the bracket of a head: a path to its name, perhaps behind the receiver. -/
inductive Opening : (ahead name : Text) → Prop where
  | plain {path name : Text} (isPath : IsPath path name)
      (noReceiver : startsWith ['V', '.'] path = false) : Opening path name
  | received {path name : Text} (isPath : IsPath path name) : Opening ('V' :: '.' :: path) name

namespace Opening

variable {ahead name : Text}

theorem starts (opening : Opening ahead name) :
    ∃ first rest, ahead = first :: rest ∧ startsIdentifier first = true := by
  cases opening with
  | plain isPath _ => exact isPath.starts
  | received _ => exact ⟨'V', _, rfl, by decide⟩

theorem startsVisible (opening : Opening ahead name) : StartsVisible ahead := by
  rcases opening.starts with ⟨first, rest, whole, starts⟩
  exact ⟨first, rest, whole, isBlank_of_continuesIdentifier (continuesIdentifier_of_starts starts)⟩

theorem takePath?_dropReceiver (opening : Opening ahead name) (rest : Text) :
    takePath? (dropReceiver (ahead ++ '(' :: rest)) = some (name, '(' :: rest) := by
  cases opening with
  | plain isPath noReceiver =>
      have kept : dropLeading? ['V', '.'] (ahead ++ '(' :: rest) = none := by
        rw [← Option.isNone_iff_eq_none, ← Option.isSome_eq_false_iff, Bool.eq_false_iff]
        intro starts
        rw [startsWith_of_append_cons (by decide) starts] at noReceiver
        contradiction
      rw [dropReceiver, kept, Option.getD_none]
      exact isPath.takePath?_append_cons (by decide) (by decide) rest
  | received isPath => exact isPath.takePath?_append_cons (by decide) (by decide) rest

/-- A head is found again whatever follows its bracket. -/
theorem ofText?_append (opening : Opening ahead name) (rest : Text) :
    ofText? (ahead ++ '(' :: rest) =
      some ⟨ahead ++ '(' :: trimEnd rest, name, '(' :: trimEnd rest⟩ := by
  have trimmed : trim (ahead ++ '(' :: rest) = ahead ++ '(' :: trimEnd rest :=
    trim_append_cons opening.startsVisible (by decide) rest
  have unmarked : dropMarker (ahead ++ '(' :: trimEnd rest) = ahead ++ '(' :: trimEnd rest := by
    rcases opening.starts with ⟨first, others, rfl, starts⟩
    exact dropMarker_eq_self starts _
  simp only [ofText?, trimmed, unmarked, opening.takePath?_dropReceiver]

end Opening

/-- The line of a head is its opening with the bracket and the rest behind it. -/
theorem exists_opening {text : Text} {head : Head} (found : ofText? text = some head) :
    ∃ ahead rest, Opening ahead head.name ∧ head.line = ahead ++ '(' :: rest ∧
      head.rest = '(' :: rest := by
  unfold ofText? at found
  dsimp only at found
  generalize dropMarker (trim text) = line at found
  split at found
  case h_2 => contradiction
  case h_1 name rest taken =>
    cases found
    rcases isPath_of_takePath? taken with ⟨path, isPath, whole⟩
    rcases receiver : dropLeading? ['V', '.'] line with _ | behind
    · rw [dropReceiver, receiver, Option.getD_none] at whole
      refine ⟨path, rest, .plain isPath ?_, whole, rfl⟩
      rw [← Bool.not_eq_true]
      intro starts
      rcases Option.isSome_iff_exists.mp starts with ⟨after, within⟩
      rw [dropLeading?_eq_some_iff] at within
      rw [whole, within, List.append_assoc, dropLeading?_append] at receiver
      contradiction
    · rw [dropReceiver, receiver, Option.getD_some] at whole
      refine ⟨'V' :: '.' :: path, rest, .received isPath, ?_, rfl⟩
      rw [dropLeading?_eq_some_iff.mp receiver, whole]
      rfl

end Head

namespace Overload

/-- The scripted rendering of an overload, if it has one, begins with a head. -/
def HasHead (overload : Overload) : Prop :=
  ∀ scripted ∈ overload.scripted?, ∃ ahead name rest,
    Head.Opening ahead name ∧ scripted = ahead ++ '(' :: rest

theorem hasHead_native (native : Text) : HasHead ⟨none, some native⟩ := nofun

/-- A line joined to a rendering stands behind the head of the scripted one. -/
theorem HasHead.extend {overload : Overload} (hasHead : overload.HasHead) (line : Text) :
    (overload.extend line).HasHead := by
  rcases overload with ⟨_ | scripted, _ | native⟩
  · exact hasHead
  · exact hasHead_native _
  · rintro _ ⟨⟩
    rcases hasHead scripted rfl with ⟨ahead, name, rest, opening, rfl⟩
    exact ⟨ahead, name, rest ++ ' ' :: line, opening, by simp⟩
  · exact hasHead

end Overload

end MethodRoles
