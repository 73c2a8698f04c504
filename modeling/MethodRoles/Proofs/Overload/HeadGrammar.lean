import MethodRoles.Proofs.Overload.HeadReading
import MethodRoles.Proofs.Overload.Recognition

/-!
# The grammar of heads

A head is written as an optional marker with blanks behind it, an optional receiver, a path
of identifiers and a bracket.  It is recognised exactly where it is written
(`ofText?_eq_some_iff`): what is read as a marker is no beginning of a path, and the receiver
is also the beginning of a path, so that taking it first loses nothing.

The line of a head is the text behind the marker, and it has no marker of its own.  So the
same head is found in it again, and nothing that is appended to it changes more of the head
than its end (`recognises`).
-/

namespace MethodRoles.Head

open Text Scan

variable {text ahead receiver path name numbering rest : Text} {head : Head}

/-! ## Markers -/

/-- What may stand in front of the line of a head: a marker with blanks behind it, or nothing. -/
inductive IsNumbering : Text → Prop where
  | missing : IsNumbering []
  | marked {marker blanks : Text} (isMarker : IsMarker marker) (blank : IsBlankLine blanks) :
      IsNumbering (marker ++ blanks)

theorem exists_number (found : afterDigits? text = some rest) :
    ∃ digits, IsNumber digits ∧ text = digits ++ rest := by
  rw [afterDigits?_eq] at found
  split at found
  case isTrue => contradiction
  case isFalse nonempty =>
    cases found
    refine ⟨text.takeWhile Char.isDigit, ⟨?_, ?_⟩, List.takeWhile_append_dropWhile.symm⟩
    · rwa [List.isEmpty_iff] at nonempty
    · intro digit member
      exact List.mem_takeWhile_imp member

theorem exists_marker {blank : Char} (found : afterMarker? text = some (blank :: rest))
    (space : isBlank blank = true) : ∃ marker, IsMarker marker ∧ text = marker ++ rest := by
  rcases bracket : dropLeading? ['('] text with _ | inside
  · rw [afterMarker?_plain bracket] at found
    rcases Option.bind_eq_some_iff.mp found with ⟨behind, numbered, closed⟩
    rcases exists_number numbered with ⟨digits, number, rfl⟩
    rcases Option.or_eq_some_iff.mp closed with point | ⟨-, closer⟩
    · rw [dropLeading?_eq_some_iff.mp point]
      exact ⟨digits ++ ['.', blank], .plain number (.inl rfl) space, by simp⟩
    · rw [dropLeading?_eq_some_iff.mp closer]
      exact ⟨digits ++ [')', blank], .plain number (.inr rfl) space, by simp⟩
  · rw [dropLeading?_eq_some_iff.mp bracket] at found ⊢
    rw [List.singleton_append, afterMarker?_bracket] at found
    rcases Option.bind_eq_some_iff.mp found with ⟨behind, numbered, closed⟩
    rcases exists_number numbered with ⟨digits, number, rfl⟩
    rw [dropLeading?_eq_some_iff.mp closed]
    exact ⟨'(' :: digits ++ [')', blank], .bracketed number space, by simp⟩

/-- What is dropped from a text is a marker with all blanks behind it. -/
theorem exists_numbering (text : Text) :
    ∃ numbering, IsNumbering numbering ∧ text = numbering ++ dropMarker text := by
  rw [dropMarker]
  split
  case h_1 blank rest found =>
    split
    case isTrue space =>
      rcases exists_marker found space with ⟨marker, isMarker, whole⟩
      refine ⟨marker ++ rest.takeWhile isBlank, .marked isMarker (isBlankLine_takeWhile rest), ?_⟩
      rw [trimStart, List.dropWhile_cons_of_pos space, List.append_assoc,
        List.takeWhile_append_dropWhile]
      exact whole
    case isFalse => exact ⟨[], .missing, rfl⟩
  case h_2 => exact ⟨[], .missing, rfl⟩

theorem IsNumbering.dropMarker_append (numbered : IsNumbering numbering) {first : Char}
    (starts : startsIdentifier first = true) (rest : Text) :
    dropMarker (numbering ++ first :: rest) = first :: rest := by
  cases numbered with
  | missing => exact dropMarker_eq_self starts rest
  | marked isMarker blank =>
      have visible := isBlank_of_continuesIdentifier (continuesIdentifier_of_starts starts)
      rw [List.append_assoc, isMarker.dropMarker_append, blank.trimStart_append,
        trimStart_cons visible]

/-! ## Receivers and paths -/

/-- Behind a receiver that begins a path there is still a path to the same name. -/
theorem isPath_behind_receiver (isPath : IsPath ('V' :: '.' :: path) name) : IsPath path name := by
  have point : continuesIdentifier '.' = false := by decide
  generalize whole : 'V' :: '.' :: path = text at isPath
  cases isPath with
  | identifier identifier =>
      subst whole
      exact absurd (by simp) (not_mem_of_isIdentifier identifier point)
  | @joined first later _ identifier isPath =>
      -- The point of the receiver is the first one, so the first identifier ends there.
      rcases first with _ | ⟨letter, _ | ⟨second, others⟩⟩
      · contradiction
      · cases whole
        exact isPath
      · have letters := (List.cons.inj whole).2
        obtain rfl : '.' = second := (List.cons.inj letters).1
        exact absurd (by simp) (not_mem_of_isIdentifier identifier point)

/-- A receiver and a path make an opening, also if there is no receiver and the path begins
like one. -/
theorem Opening.of_isPath (isReceiver : IsReceiver receiver) (isPath : IsPath path name) :
    Opening (receiver ++ path) name := by
  rcases isReceiver with rfl | rfl
  · rcases received : startsWith ['V', '.'] path with _ | _
    · exact .plain isPath received
    · rcases Option.isSome_iff_exists.mp received with ⟨rest, found⟩
      obtain rfl : path = 'V' :: '.' :: rest := dropLeading?_eq_some_iff.mp found
      exact .received (isPath_behind_receiver isPath)
  · exact .received isPath

theorem Opening.exists_path (opening : Opening ahead name) :
    ∃ receiver path, IsReceiver receiver ∧ IsPath path name ∧ ahead = receiver ++ path := by
  cases opening with
  | plain isPath _ => exact ⟨[], ahead, .inl rfl, isPath, rfl⟩
  | received isPath => exact ⟨['V', '.'], _, .inr rfl, isPath, rfl⟩

/-! ## Heads -/

/-- A head as it is written in a text without blanks around it. -/
inductive Written : (text : Text) → Head → Prop where
  | intro {numbering receiver path name : Text} (numbered : IsNumbering numbering)
      (isReceiver : IsReceiver receiver) (isPath : IsPath path name) (arguments : Text) :
      Written (numbering ++ (receiver ++ path ++ '(' :: arguments))
        ⟨receiver ++ path ++ '(' :: arguments, name, '(' :: arguments⟩

/-- A head is recognised exactly where it is written. -/
theorem ofText?_eq_some_iff : ofText? text = some head ↔ Written (trim text) head := by
  constructor
  · intro found
    rcases exists_numbering (trim text) with ⟨numbering, numbered, whole⟩
    rcases exists_opening found with ⟨ahead, rest, opening, line, behind⟩
    rcases opening.exists_path with ⟨receiver, path, isReceiver, isPath, rfl⟩
    rw [← line_of_ofText? found] at whole
    rcases head with ⟨_, name, _⟩
    cases line
    cases behind
    rw [whole]
    exact .intro numbered isReceiver isPath rest
  · intro written
    rw [ofText?]
    generalize trim text = line at written
    cases written with
    | intro numbered isReceiver isPath arguments =>
        have opening := Opening.of_isPath isReceiver isPath
        rcases opening.starts with ⟨first, others, whole, starts⟩
        have unmarked := numbered.dropMarker_append starts (others ++ '(' :: arguments)
        rw [← List.cons_append, ← whole] at unmarked
        simp only [unmarked, opening.takePath?_dropReceiver]

/-- A head with more text behind it. -/
def extend (head : Head) (more : Text) : Head :=
  ⟨head.line ++ more, head.name, head.rest ++ more⟩

@[simp]
theorem extend_nil (head : Head) : head.extend [] = head := by
  simp [extend]

theorem Written.extend (written : Written text head) (more : Text) :
    Written (head.line ++ more) (head.extend more) := by
  cases written with
  | intro numbered isReceiver isPath arguments =>
      simpa [Head.extend] using Written.intro .missing isReceiver isPath (arguments ++ more)

theorem Written.trimmed_line (written : Written text head) (trimmed : Trimmed text) :
    Trimmed head.line := by
  cases written with
  | intro numbered isReceiver isPath arguments =>
      have opening := Opening.of_isPath isReceiver isPath
      constructor
      case starts => exact opening.startsVisible.append _
      case ends => exact trimmed.ends_of_append (by simp)

/-- What recognising a head in a text answers. -/
structure Recognises (text : Text) : Prop where
  /-- A head is recognised exactly where it is written in the trimmed text. -/
  found_iff : ∀ head, ofText? text = some head ↔ Written (trim text) head
  /-- The same head is recognised in its own line, -/
  again : ∀ head, ofText? text = some head → ofText? head.line = some head
  /-- and with any text behind the line, up to that text without the blanks at its end. -/
  extended : ∀ head, ofText? text = some head → ∀ more,
    ofText? (head.line ++ more) = some (head.extend (trimEnd more))
  /-- Reading step by step never cuts a character in two, and it comes to the same answer. -/
  stepwise : readText text = some (ofText? text)

/-- Recognising a head follows the grammar of heads, and it is stable. -/
theorem recognises (text : Text) : Recognises text := by
  have extended : ∀ head, ofText? text = some head → ∀ more,
      ofText? (head.line ++ more) = some (head.extend (trimEnd more)) := by
    intro head found more
    have written := ofText?_eq_some_iff.mp found
    have trimmed := written.trimmed_line (trimmed_trim (trim_ne_nil_of_ofText? found))
    rw [ofText?_eq_some_iff, trimmed.trim_append]
    exact written.extend _
  constructor
  case found_iff =>
    intro head
    exact ofText?_eq_some_iff
  case again =>
    intro head found
    have unchanged := extended head found []
    rw [List.append_nil] at unchanged
    rw [unchanged]
    exact congrArg some (extend_nil head)
  case extended => exact extended
  case stepwise => exact readText_eq text

/-- A numbered line is recognised, and so is its own line once the next one is joined to it. -/
theorem recognises_range :
    (ofText? " 2)  V.Light.SetRange(float,".toList =
      some ⟨"V.Light.SetRange(float,".toList, "SetRange".toList, "(float,".toList⟩) ∧
    (ofText? ("V.Light.SetRange(float,".toList ++ " float) -> None ".toList) =
      some ⟨"V.Light.SetRange(float, float) -> None".toList, "SetRange".toList,
        "(float, float) -> None".toList⟩) := by
  have found : ofText? " 2)  V.Light.SetRange(float,".toList =
      some ⟨"V.Light.SetRange(float,".toList, "SetRange".toList, "(float,".toList⟩ := by
    decide +kernel
  exact ⟨found, (recognises _).extended _ found " float) -> None ".toList⟩

end MethodRoles.Head
