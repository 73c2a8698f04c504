import MethodRoles.Proofs.Text.Trimming
import Mathlib.Data.List.TakeWhile

/-!
# Texts made of lines

A text that joins some lines by line feeds has exactly these lines, as long as
none of them holds a line feed itself.  Trimming a line takes away the blanks
around it and nothing else, so every text is its trimmed part between blanks
(`exists_padding`).
-/

namespace MethodRoles.Text

/-- A text of blanks alone. -/
def IsBlankLine (line : Text) : Prop :=
  ∀ character ∈ line, isBlank character = true

-- The characters of the line are gone through, not all characters there are.
instance (line : Text) : Decidable (IsBlankLine line) :=
  List.decidableBAll (fun character => isBlank character = true) line

theorem IsBlankLine.trimStart_append {ahead : Text}
    (blank : IsBlankLine ahead) (text : Text) :
    trimStart (ahead ++ text) = trimStart text :=
  List.dropWhile_append_of_pos blank

theorem IsBlankLine.trimEnd_append {behind : Text}
    (blank : IsBlankLine behind) (text : Text) :
    trimEnd (text ++ behind) = trimEnd text := by
  have backwards : ∀ character ∈ behind.reverse, isBlank character = true := by
    intro character member
    exact blank character (List.mem_reverse.mp member)
  rw [trimEnd, dropEndWhile, List.reverse_append,
    List.dropWhile_append_of_pos backwards]
  rfl

theorem IsBlankLine.trimStart_eq_nil {line : Text} (blank : IsBlankLine line) :
    trimStart line = [] :=
  List.dropWhile_eq_nil_iff.mpr blank

theorem IsBlankLine.trim_eq_nil {line : Text} (blank : IsBlankLine line) :
    trim line = [] := by
  rw [trim, blank.trimStart_eq_nil]
  rfl

theorem IsBlankLine.trim_append_left {ahead : Text}
    (blank : IsBlankLine ahead) (text : Text) :
    trim (ahead ++ text) = trim text := by
  rw [trim, blank.trimStart_append, trim]

theorem IsBlankLine.trim_append_right {behind : Text}
    (blank : IsBlankLine behind) (text : Text) :
    trim (text ++ behind) = trim text := by
  rw [trim, trim, trimStart, List.dropWhile_append]
  split
  · rename_i empty
    rw [trimStart, List.isEmpty_iff.mp empty]
    exact congrArg trimEnd blank.trimStart_eq_nil
  · rw [blank.trimEnd_append]
    rfl

theorem isBlankLine_takeWhile (text : Text) :
    IsBlankLine (text.takeWhile isBlank) := by
  intro character member
  exact List.mem_takeWhile_imp member

theorem isBlankLine_takeEndWhile (text : Text) :
    IsBlankLine (takeEndWhile isBlank text) := by
  intro character member
  exact isBlankLine_takeWhile text.reverse character (List.mem_reverse.mp member)

/-- A text is its trimmed part between blanks. -/
theorem exists_padding (text : Text) :
    ∃ ahead behind, IsBlankLine ahead ∧ IsBlankLine behind ∧
      text = ahead ++ (trim text ++ behind) := by
  refine ⟨text.takeWhile isBlank, takeEndWhile isBlank (trimStart text),
    isBlankLine_takeWhile text, isBlankLine_takeEndWhile _, ?_⟩
  rw [trim, trimEnd, dropEndWhile_append_takeEndWhile, trimStart,
    List.takeWhile_append_dropWhile]

theorem trim_trimEnd (text : Text) : trim (trimEnd text) = trim text := by
  have whole := dropEndWhile_append_takeEndWhile isBlank text
  calc
    trim (trimEnd text) = trim (trimEnd text ++ takeEndWhile isBlank text) :=
      ((isBlankLine_takeEndWhile text).trim_append_right _).symm
    _ = trim text := congrArg trim whole

theorem isBlankLine_of_trim_eq_nil {text : Text} (empty : trim text = []) :
    IsBlankLine text := by
  rcases exists_padding text with ⟨ahead, behind, blankAhead, blankBehind, whole⟩
  rw [empty, List.nil_append] at whole
  rw [whole]
  intro character member
  rcases List.mem_append.mp member with member | member
  · exact blankAhead character member
  · exact blankBehind character member

theorem isBlank_of_dropWhile {text rest : Text} {first : Char}
    (left : text.dropWhile isBlank = first :: rest) : isBlank first = false := by
  have visible := List.head?_dropWhile_not isBlank text
  rw [left] at visible
  simpa using visible

/-- What trimming leaves of a text begins and ends visibly, unless it leaves nothing. -/
theorem trimmed_trim {text : Text} (content : trim text ≠ []) : Trimmed (trim text) where
  starts := by
    rcases left : trimStart text with _ | ⟨first, rest⟩
    · rw [trim, left] at content
      exact absurd rfl content
    · have visible := isBlank_of_dropWhile left
      refine ⟨first, trimEnd rest, ?_, visible⟩
      rw [trim, left]
      exact trimEnd_append_cons visible [] rest
  ends := by
    rcases left : (trimStart text).reverse.dropWhile isBlank with _ | ⟨last, rest⟩
    · rw [trim, trimEnd, dropEndWhile, left] at content
      exact absurd rfl content
    · refine ⟨rest.reverse, last, ?_, isBlank_of_dropWhile left⟩
      rw [trim, trimEnd, dropEndWhile, left, List.reverse_cons]

@[simp]
theorem trim_trim (text : Text) : trim (trim text) = trim text := by
  by_cases empty : trim text = []
  · rw [empty]
    rfl
  · exact trim_eq_self (trimmed_trim empty)

@[simp]
theorem trimStart_trim (text : Text) : trimStart (trim text) = trim text := by
  by_cases empty : trim text = []
  · rw [empty]
    rfl
  · rcases (trimmed_trim empty).starts with ⟨first, rest, starts, visible⟩
    rw [starts, trimStart_cons visible]

theorem lines_ne_nil (text : Text) : lines text ≠ [] := by
  cases text with
  | nil => exact List.cons_ne_nil _ _
  | cons character rest =>
      rw [lines]
      split
      · exact List.cons_ne_nil _ _
      · split <;> exact List.cons_ne_nil _ _

/-- A line feed parts the lines before it from those behind it. -/
theorem lines_append (text rest : Text) :
    lines (text ++ '\n' :: rest) = lines text ++ lines rest := by
  induction text with
  | nil => rfl
  | cons character text induction =>
      rw [List.cons_append, lines, lines, induction]
      split
      · rfl
      · rcases List.exists_cons_of_ne_nil (lines_ne_nil text) with ⟨line, others, listed⟩
        rw [listed]
        rfl

theorem lines_append_newline {line : Text} (oneLine : '\n' ∉ line) (rest : Text) :
    lines (line ++ '\n' :: rest) = line :: lines rest := by
  rw [lines_append, lines_eq_singleton oneLine, List.singleton_append]

/-- Joined lines are found again. -/
theorem lines_join {written : List Text} (nonempty : written ≠ [])
    (oneLine : ∀ line ∈ written, '\n' ∉ line) : lines (join ['\n'] written) = written := by
  induction written with
  | nil => contradiction
  | cons line others induction =>
      have first := oneLine line List.mem_cons_self
      cases others with
      | nil => exact lines_eq_singleton first
      | cons next others =>
          have later := induction (List.cons_ne_nil next others) fun other member =>
            oneLine other (List.mem_cons_of_mem line member)
          rw [join_cons_cons, List.append_assoc, List.singleton_append,
            lines_append_newline first, later]

end MethodRoles.Text
