import MethodRoles.Text.Basic

/-!
# Scanning bracketed text

Round, square and angle brackets open and close groups.  The kinds are not
matched against each other, only a depth is counted; an angle bracket that
follows a minus sign is the head of an arrow and closes nothing.

Three scans read such text: splitting at a separator outside every group,
cutting at the first such separator, and taking the group that starts a text.
Each keeps the depth and the character read last, and outside a group a closer
leaves the depth at zero.
-/

namespace MethodRoles.Scan

/-- Whether a character opens a group. -/
def isOpener (character : Char) : Bool :=
  character == '(' || character == '[' || character == '<'

/-- Whether a character closes a group, given the character before it. -/
def isCloser (before character : Char) : Bool :=
  character == ')' || character == ']' || (character == '>' && before != '-')

/-- The depth after a character, given the depth and the character before it. -/
def depthAfter (depth : Nat) (before character : Char) : Nat :=
  if isOpener character then
    depth + 1
  else if isCloser before character then
    depth - 1
  else
    depth

/--
The first piece and the other pieces of a text that is split at every
separator outside all groups, when the scan starts at `depth` after `before`.
A bracket is never a separator.
-/
def piecesFrom (separator : Char) (depth : Nat) (before : Char) :
    Text → Text × List Text
  | [] => ([], [])
  | character :: rest =>
      if character == separator && depth == 0 && !isOpener character &&
          !isCloser before character then
        let (piece, pieces) := piecesFrom separator 0 character rest
        ([], piece :: pieces)
      else
        let (piece, pieces) :=
          piecesFrom separator (depthAfter depth before character) character rest
        (character :: piece, pieces)

/--
The trimmed items between the separators outside all groups.  A blank text has
no items; otherwise an empty item between two separators is kept.
-/
def splitTop (separator : Char) (text : Text) : List Text :=
  if text.all Text.isBlank then
    []
  else
    let (piece, pieces) := piecesFrom separator 0 '\x00' text
    (piece :: pieces).map Text.trim

/-- The parts around the first separator at depth zero, from a scan under way. -/
def cutFrom? (separator : Char) (depth : Nat) (before : Char) :
    Text → Option (Text × Text)
  | [] => none
  | character :: rest =>
      if character == separator && depth == 0 then
        some ([], rest)
      else
        match cutFrom? separator (depthAfter depth before character) character rest with
        | some (ahead, after) => some (character :: ahead, after)
        | none => none

/-- The parts of a text around its first separator outside all groups. -/
def cutTop? (separator : Char) (text : Text) : Option (Text × Text) :=
  cutFrom? separator 0 '\x00' text

/-- The part of a text before its first separator outside all groups, or all of it. -/
def beforeTop (separator : Char) (text : Text) : Text :=
  match cutTop? separator text with
  | some (ahead, _) => ahead
  | none => text

/-- The byte offset of the first separator outside all groups. -/
def offsetTop? (separator : Char) (text : Text) : Option Nat :=
  (cutTop? separator text).map fun parts => Text.byteLength parts.1

/--
The inside of a group and the text after its closer, where `inner` groups are
open inside it and `before` was read last.  A group without its closer is all
of the text.
-/
def groupFrom (inner : Nat) (before : Char) : Text → Text × Text
  | [] => ([], [])
  | character :: rest =>
      if isOpener character then
        let (inside, after) := groupFrom (inner + 1) character rest
        (character :: inside, after)
      else if isCloser before character then
        match inner with
        | 0 => ([], rest)
        | remaining + 1 =>
            let (inside, after) := groupFrom remaining character rest
            (character :: inside, after)
      else
        let (inside, after) := groupFrom inner character rest
        (character :: inside, after)

/-- The inside of the group that starts a text, and the text after that group. -/
def takeGroup? : Text → Option (Text × Text)
  | [] => none
  | character :: rest =>
      if isOpener character then some (groupFrom 0 character rest) else none

theorem length_pieces_le (separator : Char) (depth : Nat) (before : Char) (text : Text) :
    (piecesFrom separator depth before text).1.length ≤ text.length ∧
      ∀ piece ∈ (piecesFrom separator depth before text).2,
        piece.length < text.length := by
  induction text generalizing depth before with
  | nil => simp [piecesFrom]
  | cons character rest ih =>
      rw [piecesFrom]
      split
      · obtain ⟨first, others⟩ := ih 0 character
        refine ⟨by simp, fun piece found => ?_⟩
        rcases List.mem_cons.mp found with rfl | found
        · exact Nat.lt_succ_of_le first
        · exact Nat.lt_succ_of_lt (others piece found)
      · obtain ⟨first, others⟩ := ih (depthAfter depth before character) character
        exact ⟨Nat.succ_le_succ first,
          fun piece found => Nat.lt_succ_of_lt (others piece found)⟩

theorem length_le_of_mem_splitTop {separator : Char} {text item : Text}
    (found : item ∈ splitTop separator text) : item.length ≤ text.length := by
  unfold splitTop at found
  split at found
  · simp at found
  · obtain ⟨first, others⟩ := length_pieces_le separator 0 '\x00' text
    obtain ⟨piece, member, trimmed⟩ := List.mem_map.mp found
    rw [← trimmed]
    refine Nat.le_trans (Text.length_trim_le piece) ?_
    rcases List.mem_cons.mp member with same | later
    · exact same ▸ first
    · exact Nat.le_of_lt (others piece later)

theorem eq_of_cutFrom? {separator : Char} {depth : Nat} {before : Char}
    {text ahead after : Text}
    (found : cutFrom? separator depth before text = some (ahead, after)) :
    text = ahead ++ separator :: after := by
  induction text generalizing depth before ahead after with
  | nil => simp [cutFrom?] at found
  | cons character rest ih =>
      rw [cutFrom?] at found
      split at found
      case isTrue here =>
        simp only [Option.some.injEq, Prod.mk.injEq] at found
        obtain ⟨rfl, rfl⟩ := found
        simp_all
      case isFalse =>
        split at found
        case h_1 ahead' after' found' =>
          simp only [Option.some.injEq, Prod.mk.injEq] at found
          obtain ⟨rfl, rfl⟩ := found
          simp [ih found']
        case h_2 => simp at found

/-- Cutting loses only the separator. -/
theorem eq_of_cutTop? {separator : Char} {text ahead after : Text}
    (found : cutTop? separator text = some (ahead, after)) :
    text = ahead ++ separator :: after :=
  eq_of_cutFrom? found

theorem length_groupFrom_le (inner : Nat) (before : Char) (text : Text) :
    (groupFrom inner before text).1.length + (groupFrom inner before text).2.length ≤
      text.length := by
  fun_induction groupFrom inner before text with
  | case1 => simp
  | case2 => simp_all; omega
  | case3 => simp
  | case4 => simp_all; omega
  | case5 => simp_all; omega

/-- A group is shorter than the text that it starts by at least its opener. -/
theorem length_takeGroup?_lt {text inside after : Text}
    (found : takeGroup? text = some (inside, after)) :
    inside.length + after.length < text.length := by
  cases text with
  | nil => simp [takeGroup?] at found
  | cons character rest =>
      rw [takeGroup?] at found
      split at found
      · have shorter := length_groupFrom_le 0 character rest
        simp only [Option.some.injEq] at found
        rw [found] at shorter
        exact Nat.lt_succ_of_le shorter
      · simp at found

end MethodRoles.Scan
