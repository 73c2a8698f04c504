import MethodRoles.Proofs.Overload.Line
import MethodRoles.Proofs.Text.Lines

/-!
# Heads behind markers

A marker numbers an overload: digits with a point or a round bracket behind them,
and a blank behind that.  Putting a marker in front of a line with a head, or
blanks around it, leaves the head as it is (`ofText?_append`).

The native label starts no head, so no line is both the start of a scripted
rendering and the start of a native one.
-/

namespace MethodRoles.Head

open Text Scan

/-- The digits of a marker. -/
structure IsNumber (digits : Text) : Prop where
  nonempty : digits ≠ []
  numeric : ∀ digit ∈ digits, digit.isDigit = true

/-- A marker that numbers an overload, with the blank behind it. -/
inductive IsMarker : Text → Prop where
  | plain {digits : Text} {mark blank : Char} (number : IsNumber digits)
      (ends : mark = '.' ∨ mark = ')') (space : isBlank blank = true) :
      IsMarker (digits ++ [mark, blank])
  | bracketed {digits : Text} {blank : Char} (number : IsNumber digits)
      (space : isBlank blank = true) :
      IsMarker ('(' :: digits ++ [')', blank])

theorem isBlank_of_isDigit {digit : Char} (numeric : digit.isDigit = true) :
    isBlank digit = false :=
  isBlank_of_continuesIdentifier (continuesIdentifier_of_isDigit numeric)

theorem afterDigits?_append {digits : Text} (number : IsNumber digits) {mark : Char}
    (ends : mark.isDigit = false) (rest : Text) :
    afterDigits? (digits ++ mark :: rest) = some (mark :: rest) := by
  cases digits with
  | nil => exact absurd rfl number.nonempty
  | cons first others =>
      have later : ∀ digit ∈ others, digit.isDigit = true := by
        intro digit member
        exact number.numeric digit (List.mem_cons_of_mem first member)
      rw [List.cons_append, afterDigits?,
        if_pos (number.numeric first List.mem_cons_self),
        List.dropWhile_append_of_pos later]
      simp [ends]

namespace IsMarker

variable {marker : Text}

theorem startsVisible (isMarker : IsMarker marker) : StartsVisible marker := by
  cases isMarker with
  | @plain digits mark blank number ends space =>
      rcases List.exists_cons_of_ne_nil number.nonempty with ⟨first, others, rfl⟩
      have numeric := number.numeric first List.mem_cons_self
      exact ⟨first, others ++ [mark, blank], rfl, isBlank_of_isDigit numeric⟩
  | bracketed number space =>
      exact ⟨'(', _, rfl, by decide⟩

/-- What stands behind a marker, with the blank that ends the marker. -/
theorem afterMarker?_append (isMarker : IsMarker marker) (rest : Text) :
    ∃ blank, isBlank blank = true ∧
      afterMarker? (marker ++ rest) = some (blank :: rest) := by
  cases isMarker with
  | @plain digits mark blank number ends space =>
      have noDigit : mark.isDigit = false := by
        rcases ends with rfl | rfl <;> rfl
      have after : afterDigits? (digits ++ mark :: blank :: rest) =
          some (mark :: blank :: rest) := afterDigits?_append number noDigit _
      refine ⟨blank, space, ?_⟩
      rw [List.append_assoc, List.cons_append, List.cons_append, List.nil_append]
      unfold afterMarker?
      split
      · -- The number would begin with a bracket.
        rename_i bracket
        rcases List.exists_cons_of_ne_nil number.nonempty with ⟨first, others, rfl⟩
        have numeric := number.numeric first List.mem_cons_self
        rw [(List.cons.inj bracket).1] at numeric
        exact absurd numeric (by decide)
      · rcases ends with rfl | rfl <;> simp only [after]
  | @bracketed digits blank number space =>
      have after : afterDigits? (digits ++ ')' :: blank :: rest) =
          some (')' :: blank :: rest) := afterDigits?_append number rfl _
      refine ⟨blank, space, ?_⟩
      simp [afterMarker?, after]

theorem dropMarker_append (isMarker : IsMarker marker) (rest : Text) :
    dropMarker (marker ++ rest) = trimStart rest := by
  rcases isMarker.afterMarker?_append rest with ⟨blank, space, after⟩
  have dropped : trimStart (blank :: rest) = trimStart rest := by
    simp [trimStart, space]
  rw [dropMarker, after]
  simp only [space, if_true, dropped]

end IsMarker

theorem line_of_ofText? {text : Text} {head : Head} (found : ofText? text = some head) :
    head.line = dropMarker (trim text) := by
  rw [ofText?] at found
  split at found
  · rw [← Option.some.inj found]
  · simp at found

/-- A head is recognised by what is left of a line without its blanks and its marker. -/
theorem ofText?_congr {left right : Text}
    (same : dropMarker (trim left) = dropMarker (trim right)) :
    ofText? left = ofText? right := by
  simp only [ofText?, same]

@[simp]
theorem ofText?_trim (text : Text) : ofText? (trim text) = ofText? text :=
  ofText?_congr (congrArg dropMarker (trim_trim text))

theorem ofText?_eq_none_of_trim_eq_nil {text : Text} (empty : trim text = []) :
    ofText? text = none := by
  have nothing : takePath? [] = none := takePath?_of_missing rfl
  have path : takePath? (dropReceiver (dropMarker (trim text))) = none := by
    rw [empty]
    exact nothing
  simp only [ofText?, path]

theorem trim_ne_nil_of_ofText? {text : Text} {head : Head}
    (found : ofText? text = some head) : trim text ≠ [] := by
  intro empty
  rw [ofText?_eq_none_of_trim_eq_nil empty] at found
  contradiction

/-- Blanks and a marker in front of an unmarked line with a head do not change the head. -/
theorem ofText?_append {ahead marker line : Text} {head : Head}
    (blank : IsBlankLine ahead) (isMarker : marker = [] ∨ IsMarker marker)
    (found : ofText? line = some head) (unmarked : head.line = trim line) :
    ofText? (ahead ++ (marker ++ line)) = some head := by
  rw [← found]
  apply ofText?_congr
  rw [blank.trim_append_left]
  rcases isMarker with rfl | isMarker
  · rfl
  · rw [← line_of_ofText? found, unmarked]
    have trimmed := trimmed_trim (trim_ne_nil_of_ofText? found)
    rcases exists_padding line with ⟨before, behind, blankBefore, blankBehind, whole⟩
    have around : Trimmed (marker ++ (before ++ trim line)) := by
      constructor
      · exact isMarker.startsVisible.append _
      · rcases trimmed.ends with ⟨rest, last, ends, visible⟩
        refine ⟨marker ++ (before ++ rest), last, ?_, visible⟩
        rw [ends]
        simp only [List.append_assoc]
    have kept : trim (marker ++ line) = marker ++ (before ++ trim line) := by
      calc
        trim (marker ++ line)
            = trim (marker ++ (before ++ trim line) ++ behind) := by
              rw [List.append_assoc, List.append_assoc, ← whole]
        _ = trim (marker ++ (before ++ trim line)) := blankBehind.trim_append_right _
        _ = marker ++ (before ++ trim line) := trim_eq_self around
    rcases trimmed.starts with ⟨first, rest, starts, visible⟩
    rw [kept, isMarker.dropMarker_append, blankBefore.trimStart_append, starts,
      trimStart_cons visible]

/-- A line that begins with the native label has no head. -/
theorem ofText?_eq_none_of_nativeLabel {text rest : Text}
    (labelled : trim text = Overload.nativeLabel ++ rest) : ofText? text = none := by
  have path : takePath? (['C'] ++ '+' :: '+' :: ':' :: rest) =
      some (['C'], '+' :: '+' :: ':' :: rest) :=
    takePath?_append_cons (by decide) (by decide) (by decide) _
  have unmarked : dropReceiver (dropMarker (trim text)) =
      ['C'] ++ '+' :: '+' :: ':' :: rest := by
    have letter : startsIdentifier 'C' = true := by decide
    rw [labelled]
    change dropReceiver (dropMarker ('C' :: '+' :: '+' :: ':' :: rest)) = _
    rw [dropMarker_eq_self letter]
    rfl
  simp only [ofText?, unmarked, path]
  rfl

end MethodRoles.Head
