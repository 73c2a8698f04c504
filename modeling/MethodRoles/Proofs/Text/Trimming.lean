import MethodRoles.Text.Basic

/-!
# Texts that trimming leaves alone

A text is trimmed when it begins and ends with a visible character.  Trimming
leaves such a text as it is, whatever stands between the two characters, and a
text without a line feed is its only line.
-/

namespace MethodRoles.Text

/-- A text begins with a character that is not blank. -/
def StartsVisible (text : Text) : Prop :=
  ∃ first rest, text = first :: rest ∧ isBlank first = false

theorem StartsVisible.append {ahead : Text} (starts : StartsVisible ahead) (after : Text) :
    StartsVisible (ahead ++ after) := by
  rcases starts with ⟨first, rest, rfl, visible⟩
  exact ⟨first, rest ++ after, rfl, visible⟩

/-- A text begins and ends with a character that is not blank. -/
structure Trimmed (text : Text) : Prop where
  /-- The first character is visible. -/
  starts : StartsVisible text
  /-- The last character is visible. -/
  ends : ∃ ahead last, text = ahead ++ [last] ∧ isBlank last = false

theorem Trimmed.of_visible {text : Text} (nonempty : text ≠ [])
    (visible : ∀ character ∈ text, isBlank character = false) : Trimmed text where
  starts := by
    rcases List.exists_cons_of_ne_nil nonempty with ⟨first, rest, rfl⟩
    exact ⟨first, rest, rfl, visible first List.mem_cons_self⟩
  ends :=
    ⟨text.dropLast, text.getLast nonempty, (List.dropLast_concat_getLast nonempty).symm,
      visible _ (List.getLast_mem nonempty)⟩

theorem Trimmed.singleton {character : Char} (visible : isBlank character = false) :
    Trimmed [character] :=
  .of_visible (List.cons_ne_nil _ _) (List.forall_mem_singleton.mpr visible)

theorem Trimmed.ne_nil {text : Text} (trimmed : Trimmed text) : text ≠ [] := by
  rcases trimmed.starts with ⟨first, rest, rfl, -⟩
  exact List.cons_ne_nil first rest

/-- Anything may stand between two trimmed texts. -/
theorem Trimmed.around {ahead after : Text} (first : Trimmed ahead) (middle : Text)
    (last : Trimmed after) : Trimmed (ahead ++ middle ++ after) where
  starts := (first.starts.append middle).append after
  ends := by
    rcases last.ends with ⟨rest, character, rfl, visible⟩
    exact ⟨ahead ++ middle ++ rest, character, by simp, visible⟩

theorem Trimmed.append {ahead after : Text} (first : Trimmed ahead) (last : Trimmed after) :
    Trimmed (ahead ++ after) := by
  simpa using first.around [] last

theorem dropEndWhile_append_singleton {condition : Char → Bool} {last : Char}
    (kept : condition last = false) (ahead : Text) :
    dropEndWhile condition (ahead ++ [last]) = ahead ++ [last] := by
  simp [dropEndWhile, kept]

section End

variable {condition : Char → Bool} {mark : Char} {last : Text}

/-- The end of a text on which a condition holds begins behind the last other character. -/
theorem takeEndWhile_append_cons (stops : condition mark = false)
    (holds : ∀ character ∈ last, condition character = true) (ahead : Text) :
    takeEndWhile condition (ahead ++ mark :: last) = last := by
  have backwards : ∀ character ∈ last.reverse, condition character = true :=
    fun character member => holds character (List.mem_reverse.mp member)
  rw [takeEndWhile, List.reverse_append, List.reverse_cons, List.append_assoc,
    List.takeWhile_append_of_pos backwards]
  simp [stops]

theorem dropEndWhile_append_cons (stops : condition mark = false)
    (holds : ∀ character ∈ last, condition character = true) (ahead : Text) :
    dropEndWhile condition (ahead ++ mark :: last) = ahead ++ [mark] := by
  have whole := dropEndWhile_append_takeEndWhile condition (ahead ++ mark :: last)
  have apart : ahead ++ mark :: last = ahead ++ [mark] ++ last := by simp
  rw [takeEndWhile_append_cons stops holds] at whole
  exact List.append_cancel_right (whole.trans apart)

end End

theorem trimStart_cons {character : Char} (visible : isBlank character = false) (rest : Text) :
    trimStart (character :: rest) = character :: rest := by
  simp [trimStart, visible]

theorem trim_eq_self {text : Text} (trimmed : Trimmed text) : trim text = text := by
  rcases trimmed.starts with ⟨first, rest, starts, firstVisible⟩
  rcases trimmed.ends with ⟨ahead, last, ends, lastVisible⟩
  rw [trim, starts, trimStart_cons firstVisible, ← starts, ends, trimEnd,
    dropEndWhile_append_singleton lastVisible]

/-- A text without blanks is left alone, also when it is empty. -/
theorem trim_eq_self_of_visible {text : Text}
    (visible : ∀ character ∈ text, isBlank character = false) : trim text = text := by
  cases text with
  | nil => rfl
  | cons first rest => exact trim_eq_self (.of_visible (List.cons_ne_nil first rest) visible)

theorem map_trim_eq_self {items : List Text} (trimmed : ∀ item ∈ items, Trimmed item) :
    items.map trim = items := by
  have same : items.map trim = items.map id :=
    List.map_congr_left fun item member => trim_eq_self (trimmed item member)
  rw [same, List.map_id]

theorem trim_blank_cons {character : Char} (blank : isBlank character = true) (rest : Text) :
    trim (character :: rest) = trim rest := by
  simp [trim, trimStart, blank]

/-- What stands before a visible character is kept when the end is trimmed. -/
theorem trimEnd_append_cons {mark : Char} (visible : isBlank mark = false)
    (ahead after : Text) : trimEnd (ahead ++ mark :: after) = ahead ++ mark :: trimEnd after := by
  rw [trimEnd, trimEnd, dropEndWhile, dropEndWhile, List.reverse_append, List.reverse_cons,
    List.append_assoc, List.dropWhile_append]
  split
  · rename_i blank
    rw [List.isEmpty_iff.mp blank]
    simp [visible]
  · simp

theorem trim_append_cons {ahead : Text} (starts : StartsVisible ahead) {mark : Char}
    (visible : isBlank mark = false) (after : Text) :
    trim (ahead ++ mark :: after) = ahead ++ mark :: trimEnd after := by
  rcases starts with ⟨first, rest, starts, firstVisible⟩
  rw [trim, starts, List.cons_append, trimStart_cons firstVisible, ← List.cons_append, ← starts,
    trimEnd_append_cons visible]

/-- Blanks are trimmed from what is appended to a trimmed text, and only from its end. -/
theorem Trimmed.trim_append {text : Text} (trimmed : Trimmed text) (more : Text) :
    trim (text ++ more) = text ++ trimEnd more := by
  rcases trimmed.starts with ⟨first, rest, starts, firstVisible⟩
  rcases trimmed.ends with ⟨ahead, last, ends, lastVisible⟩
  have kept : trimStart (text ++ more) = text ++ more := by
    rw [starts, List.cons_append, trimStart_cons firstVisible]
  rw [trim, kept, ends, List.append_assoc, List.singleton_append,
    trimEnd_append_cons lastVisible, List.append_assoc, List.singleton_append]

/-- Every end of a trimmed text ends visibly. -/
theorem Trimmed.ends_of_append {ahead after : Text} (trimmed : Trimmed (ahead ++ after))
    (nonempty : after ≠ []) : ∃ middle last, after = middle ++ [last] ∧ isBlank last = false := by
  rcases trimmed.ends with ⟨before, last, ends, visible⟩
  refine ⟨after.dropLast, after.getLast nonempty, (List.dropLast_concat_getLast nonempty).symm, ?_⟩
  have whole : ahead ++ after.dropLast ++ [after.getLast nonempty] = before ++ [last] := by
    rw [List.append_assoc, List.dropLast_concat_getLast, ends]
  rw [(List.cons.inj (List.append_inj' whole rfl).2).1]
  exact visible

theorem lines_eq_singleton {text : Text} (oneLine : '\n' ∉ text) : lines text = [text] := by
  induction text with
  | nil => rfl
  | cons character rest induction =>
      rw [List.mem_cons, not_or] at oneLine
      rw [lines, if_neg (Ne.symm oneLine.1), induction oneLine.2]

theorem join_cons_cons (separator item next : Text) (others : List Text) :
    join separator (item :: next :: others) =
      item ++ separator ++ join separator (next :: others) := rfl

theorem not_mem_join {character : Char} {separator : Text} (between : character ∉ separator)
    {items : List Text} (missing : ∀ item ∈ items, character ∉ item) :
    character ∉ join separator items := by
  induction items with
  | nil => exact List.not_mem_nil
  | cons item others induction =>
      have first := missing item List.mem_cons_self
      have later := induction fun other member => missing other (List.mem_cons_of_mem _ member)
      cases others with
      | nil => exact first
      | cons next others =>
          rw [join_cons_cons, List.mem_append, List.mem_append]
          rintro ((member | member) | member)
          · exact first member
          · exact between member
          · exact later member

end MethodRoles.Text
