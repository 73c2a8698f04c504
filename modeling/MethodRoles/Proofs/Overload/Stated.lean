import MethodRoles.Overload.Reading
import MethodRoles.Proofs.Overload.Recognition

/-!
# What a scripted rendering states

A scripted rendering states the items of its arguments and its result.  Its signature
is made of these and of the types that the items have beside a native rendering
(`scriptedSignature?_eq`).  When the text in the brackets is nested, the items are
those of this text, and what stands behind the brackets states the result
(`stated?_append`).
-/

namespace MethodRoles.Overload

open Text Scan

/-- What a scripted rendering states by itself: the items of its arguments and its result. -/
def stated? (scripted : Text) : Option (List Text × SlotType) :=
  (Head.ofText? scripted).bind fun head =>
    (takeGroup? head.rest).map fun group => (argumentItems group.1, arrowResult group.2)

/-- The signature of a scripted rendering is made of what it states and of its argument types. -/
theorem scriptedSignature?_eq (scripted : Text) (native? : Option Text) :
    scriptedSignature? scripted native? = (stated? scripted).map fun stated =>
      .ofArguments stated.2 (collapseAbsent (argumentTypes stated.1 native?)) := by
  rcases found : Head.ofText? scripted with _ | head
  · simp [scriptedSignature?, stated?, found]
  · rcases taken : takeGroup? head.rest with _ | ⟨inside, after⟩ <;>
      simp [scriptedSignature?, stated?, found, taken]

/-- Blanks around the result of a scripted rendering do not matter. -/
theorem arrowResult_trim (text : Text) : arrowResult (trim text) = arrowResult text := by
  have trimmed : trim text = trimEnd (trimStart text) := rfl
  have whole := dropEndWhile_append_takeEndWhile isBlank (trimStart text)
  rw [arrowResult, arrowResult, trimStart_trim, trimmed]
  generalize trimStart text = result at whole
  rcases arrow : dropLeading? ['-', '>'] result with _ | spelling
  · have noArrow : dropLeading? ['-', '>'] (trimEnd result) = none := by
      rw [dropLeading?_eq_none_iff]
      intro spelling found
      rw [trimEnd] at found
      rw [← whole, found, List.append_assoc, dropLeading?_append] at arrow
      contradiction
    rw [noArrow]
  · rw [dropLeading?_eq_some_iff] at arrow
    have kept : trimEnd (['-'] ++ '>' :: spelling) = ['-', '>'] ++ trimEnd spelling :=
      trimEnd_append_cons (by decide) ['-'] spelling
    have behind : dropLeading? ['-', '>'] (['-', '>'] ++ trimEnd spelling) =
        some (trimEnd spelling) := dropLeading?_append ['-', '>'] (trimEnd spelling)
    change result = ['-'] ++ '>' :: spelling at arrow
    rw [arrow, kept, behind]
    simp only [resultType, trim_trimEnd]

theorem arrowResult_trimEnd (text : Text) : arrowResult (trimEnd text) = arrowResult text := by
  rw [← arrowResult_trim (trimEnd text), trim_trimEnd, arrowResult_trim]

/-- What a head, nested text in brackets and a result behind them state. -/
theorem stated?_append {ahead name inside : Text} (opening : Head.Opening ahead name)
    (nested : Nested (fun _ => True) inside) (after : Text) :
    stated? (ahead ++ '(' :: (inside ++ ')' :: after)) =
      some (argumentItems inside, arrowResult after) := by
  have opens : isOpener '(' = true := rfl
  have trimmed : trimEnd (inside ++ ')' :: after) = inside ++ ')' :: trimEnd after :=
    trimEnd_append_cons (by decide) inside after
  have group : takeGroup? ('(' :: (inside ++ ')' :: trimEnd after)) =
      some (inside, trimEnd after) := takeGroup?_of_nested opens (.inl rfl) nested _
  rw [stated?, opening.ofText?_append, trimmed, Option.bind_some, group, Option.map_some,
    arrowResult_trimEnd]

end MethodRoles.Overload
