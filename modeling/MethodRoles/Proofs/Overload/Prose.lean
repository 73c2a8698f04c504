import MethodRoles.Overload.Reading
import MethodRoles.Proofs.Overload.Layout

/-!
# Prose behind a block of overloads

A blank line behind the last overload ends the block unless a head follows it.  So
prose may stand there, whatever it holds further on: native labels and heads in it
document nothing (`ofDocumentation_append_prose`).

The text in front of the prose is arbitrary.  It may end in the middle of a
rendering or in blank lines, and its block may have ended long before.  The blank
lines in it are looked past, but a head that is found behind them stands in the
text itself, because the prose does not begin with one.
-/

namespace MethodRoles.Overload

open Text

section Gathering

variable {lines others : List Text}

theorem headFollows_append_blank (noHead : headFollows others = false) :
    headFollows (lines ++ [] :: others) = headFollows lines := by
  induction lines with
  | nil => exact noHead
  | cons line lines induction =>
      rw [List.cons_append, headFollows, headFollows, induction]

/-- An overload under way is gathered, and so is one whose head follows. -/
theorem gather_ne_nil {underway? : Option Overload}
    (begun : underway?.isSome = true ∨ headFollows lines = true) :
    gather underway? lines ≠ [] := by
  fun_induction gather underway? lines with
  | case1 => simpa [headFollows, Option.isSome_iff_ne_none] using begun
  | case2 line later blank induction =>
      apply induction
      simpa [headFollows, blank] using begun
  | case3 => exact List.cons_ne_nil _ _
  | case4 => exact List.cons_ne_nil _ _
  | case5 _ _ _ _ _ _ _ induction => exact induction (.inl rfl)
  | case6 => exact List.cons_ne_nil _ _
  | case7 _ _ _ _ _ induction => exact induction (.inl rfl)
  | case8 _ _ _ _ _ _ _ induction =>
      exact List.append_ne_nil_of_right_ne_nil _ (induction (.inl rfl))
  | case9 _ _ _ _ _ _ induction => exact induction (.inl rfl)
  | case10 line later content noHead => simp [headFollows, content, noHead] at begun

/-- A blank line that no head follows ends the block, if it has not ended before. -/
theorem gather_append_blank (noHead : headFollows others = false) {underway? : Option Overload}
    (documents : gather underway? lines ≠ []) :
    gather underway? (lines ++ [] :: others) = gather underway? lines := by
  -- A step that keeps or begins an overload leaves one under way, so the rest documents one too.
  fun_induction gather underway? lines with
  | case1 underway? =>
      cases underway? with
      | none => contradiction
      | some underway => simp [gather, noHead]
  | case2 line later blank induction =>
      simp [gather, blank, induction documents]
  | case3 line later blank underway follows induction =>
      have same := induction (gather_ne_nil (.inr follows))
      simp [gather, blank, headFollows_append_blank noHead, follows, same]
  | case4 line later blank underway ends =>
      simp [gather, blank, headFollows_append_blank noHead, ends]
  | case5 line later content native underway labelled awaits induction =>
      simp [gather, content, labelled, awaits, induction documents]
  | case6 line later content native underway labelled complete induction =>
      have same := induction (gather_ne_nil (.inl rfl))
      simp [gather, content, labelled, complete, same]
  | case7 line later content native labelled induction =>
      simp [gather, content, labelled, induction documents]
  | case8 underway? line later content head found unlabelled induction =>
      have same := induction (gather_ne_nil (.inl rfl))
      simp [gather, content, found, unlabelled, same]
  | case9 line later content underway noHead unlabelled induction =>
      simp [gather, content, noHead, unlabelled, induction documents]
  | case10 => contradiction

end Gathering

/-- The first line of a text with content, if there is one, is no head. -/
def BeginsWithoutHead (text : Text) : Prop :=
  ∀ first ∈ (lines text).find? fun line => !(trim line).isEmpty, Head.ofText? first = none

/-- Prose behind a text with overloads documents nothing, if it begins without a head. -/
theorem ofDocumentation_append_prose {documentation prose : Text}
    (documents : ofDocumentation documentation ≠ []) (noHead : BeginsWithoutHead prose) :
    ofDocumentation (documentation ++ '\n' :: '\n' :: prose) = ofDocumentation documentation ∧
      Signature.ofDocumentation (documentation ++ '\n' :: '\n' :: prose) =
        Signature.ofDocumentation documentation := by
  have follows : headFollows ((lines prose).map trim) = false := headFollows_eq_false noHead
  have listed : lines (documentation ++ '\n' :: '\n' :: prose) =
      lines documentation ++ [] :: lines prose := lines_append documentation ('\n' :: prose)
  have overloads : ofDocumentation (documentation ++ '\n' :: '\n' :: prose) =
      ofDocumentation documentation := by
    rw [ofDocumentation, listed, List.map_append, List.map_cons]
    exact gather_append_blank follows documents
  constructor
  · exact overloads
  · rw [Signature.ofDocumentation, overloads, Signature.ofDocumentation]

/-- A wrapped rendering, a blank line between two heads, and blank lines behind the second. -/
def dialText : Text :=
  "V.SetDial(float,\n  int)\n\nV.GetDial() -> int\nC++: int GetDial (\n \n".toList

/-- Prose behind a blank line of its own, with a native label and a head in it. -/
def dialProse : Text :=
  " \nTurns the dial.\nC++: void Reset ()\n\nV.Reset()\n".toList

theorem ofDocumentation_append_prose_dial :
    ofDocumentation dialText =
        [⟨some "V.SetDial(float, int)".toList, none⟩,
          ⟨some "V.GetDial() -> int".toList, some "int GetDial (".toList⟩] ∧
      BeginsWithoutHead dialProse ∧
        ofDocumentation (dialText ++ '\n' :: '\n' :: dialProse) = ofDocumentation dialText ∧
        Signature.ofDocumentation (dialText ++ '\n' :: '\n' :: dialProse) =
          Signature.ofDocumentation dialText := by
  have overloads : ofDocumentation dialText =
      [⟨some "V.SetDial(float, int)".toList, none⟩,
        ⟨some "V.GetDial() -> int".toList, some "int GetDial (".toList⟩] := by
    decide +kernel
  have noHead : BeginsWithoutHead dialProse := by
    rintro _ ⟨⟩
    decide +kernel
  have documents : ofDocumentation dialText ≠ [] := by
    rw [overloads]
    exact List.cons_ne_nil _ _
  exact ⟨overloads, noHead, ofDocumentation_append_prose documents noHead⟩

end MethodRoles.Overload
