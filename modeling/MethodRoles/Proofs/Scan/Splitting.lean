import MethodRoles.Proofs.Scan.Nested
import MethodRoles.Proofs.Text.Lines
import Mathlib.Data.List.Forall2

/-!
# Splitting and cutting

A text is split at every separator outside its groups, and it is cut at the first one.  The
two scans look at a separator at different moments, and after a cut the rest of the text is
scanned from the start again.  For a separator that is neither a blank nor a bracket nor
the minus sign of an arrow this makes no difference: splitting is cutting again and again
(`splitTop_splitsAtCuts`).

Nothing but blanks is lost by splitting, since every piece is an item between blanks and
the pieces joined by the separator are the text.
-/

namespace MethodRoles.Scan

open Text

variable {separator before other : Char} {depth : Nat} {text ahead after : Text}

/-! ## The scans side by side -/

/-- Only a minus sign before a character has a say in whether it closes a group. -/
theorem isCloser_congr (notArrow : before ≠ '-') (notArrowToo : other ≠ '-') (character : Char) :
    isCloser before character = isCloser other character := by
  rw [isCloser, isCloser, bne_iff_ne.mpr notArrow, bne_iff_ne.mpr notArrowToo]

theorem piecesFrom_congr (notArrow : before ≠ '-') (notArrowToo : other ≠ '-') (depth : Nat)
    (text : Text) :
    piecesFrom separator depth before text = piecesFrom separator depth other text := by
  cases text with
  | nil => rfl
  | cons character rest =>
      rw [piecesFrom, piecesFrom, depthAfter, depthAfter, isCloser_congr notArrow notArrowToo]

/-- Where nothing is cut, nothing is split. -/
theorem piecesFrom_of_cutFrom?_eq_none (uncut : cutFrom? separator depth before text = none) :
    piecesFrom separator depth before text = (text, []) := by
  induction text generalizing depth before with
  | nil => rfl
  | cons character rest induction =>
      rw [cutFrom?] at uncut
      split at uncut
      case isTrue => contradiction
      case isFalse passes =>
        split at uncut
        case h_1 => contradiction
        case h_2 uncutRest =>
          rw [Bool.not_eq_true] at passes
          simp [piecesFrom, passes, induction uncutRest]

/-- What stands before the first cut is the first piece. -/
theorem piecesFrom_of_cutFrom?_eq_some (flat : isFlat separator = true)
    (cut : cutFrom? separator depth before text = some (ahead, after)) :
    piecesFrom separator depth before text =
      (ahead, (piecesFrom separator 0 separator after).1 ::
        (piecesFrom separator 0 separator after).2) := by
  induction text generalizing depth before ahead after with
  | nil => simp [cutFrom?] at cut
  | cons character rest induction =>
      rw [cutFrom?] at cut
      split at cut
      case isTrue here =>
        simp only [Option.some.injEq, Prod.mk.injEq] at cut
        rcases cut with ⟨rfl, rfl⟩
        rw [Bool.and_eq_true, beq_iff_eq, beq_iff_eq] at here
        rcases here with ⟨rfl, rfl⟩
        simp [piecesFrom, isOpener_of_isFlat flat, isCloser_of_isFlat flat]
      case isFalse passes =>
        split at cut
        case h_2 => contradiction
        case h_1 aheadRest afterRest cutRest =>
          simp only [Option.some.injEq, Prod.mk.injEq] at cut
          rcases cut with ⟨rfl, rfl⟩
          rw [Bool.not_eq_true] at passes
          simp [piecesFrom, passes, induction cutRest]

/-- The pieces joined by the separator are the text. -/
theorem join_piecesFrom (separator : Char) (depth : Nat) (before : Char) (text : Text) :
    join [separator] ((piecesFrom separator depth before text).1 ::
      (piecesFrom separator depth before text).2) = text := by
  induction text generalizing depth before with
  | nil => rfl
  | cons character rest induction =>
      rw [piecesFrom]
      split
      case isTrue here =>
        simp only [Bool.and_eq_true, beq_iff_eq] at here
        rw [join_cons_cons, induction, here.1.1.1]
        rfl
      case isFalse =>
        have joined := induction (depthAfter depth before character) character
        cases pieces : (piecesFrom separator (depthAfter depth before character) character rest).2
          with
        | nil =>
            rw [pieces] at joined
            exact congrArg (character :: ·) joined
        | cons piece others =>
            rw [pieces, join_cons_cons] at joined
            rw [join_cons_cons]
            exact congrArg (character :: ·) joined

/-! ## Items -/

theorem splitTop_of_blank (blank : IsBlankLine text) : splitTop separator text = [] :=
  if_pos (List.all_eq_true.mpr blank)

theorem splitTop_of_content (content : ¬ IsBlankLine text) :
    splitTop separator text = ((piecesFrom separator 0 '\x00' text).1 ::
      (piecesFrom separator 0 '\x00' text).2).map trim :=
  if_neg fun blank => content (List.all_eq_true.mp blank)

/-- A piece is an item between blanks. -/
def IsPadded (item piece : Text) : Prop :=
  ∃ ahead behind, IsBlankLine ahead ∧ IsBlankLine behind ∧ piece = ahead ++ (item ++ behind)

/-- A text is made of items with a separator between each two of them, and of blanks around
the separators and at the ends. -/
def IsJoined (separator : Char) (items : List Text) (text : Text) : Prop :=
  ∃ pieces ahead behind, List.Forall₂ IsPadded items pieces ∧ IsBlankLine ahead ∧
    IsBlankLine behind ∧ text = ahead ++ (join [separator] pieces ++ behind)

/-- Splitting loses only blanks. -/
theorem isJoined_splitTop (separator : Char) (text : Text) :
    IsJoined separator (splitTop separator text) text := by
  have nothing : IsBlankLine [] := nofun
  by_cases blank : IsBlankLine text
  · rw [splitTop_of_blank blank]
    exact ⟨[], text, [], .nil, blank, nothing, (List.append_nil text).symm⟩
  · rw [splitTop_of_content blank]
    refine ⟨(piecesFrom separator 0 '\x00' text).1 :: (piecesFrom separator 0 '\x00' text).2,
      [], [], ?_, nothing, nothing, ?_⟩
    · rw [List.forall₂_map_left_iff, List.forall₂_same]
      intro piece _
      exact exists_padding piece
    · rw [join_piecesFrom, List.append_nil, List.nil_append]

/-- A text is split by cutting it again and again. -/
structure SplitsAtCuts (separator : Char) (text : Text) : Prop where
  /-- A text that is not cut is its only item, and it has none if it is blank. -/
  uncut : offsetTop? separator text = none →
    splitTop separator text = if IsBlankLine text then [] else [trim text]
  /-- The text before the first cut is the first item; the others are those of the text
  behind it, where a blank text still makes an empty item. -/
  cut : ∀ offset, offsetTop? separator text = some offset →
    ∃ ahead after, text = ahead ++ separator :: after ∧ byteLength ahead = offset ∧
      splitTop separator text =
        trim ahead :: if IsBlankLine after then [[]] else splitTop separator after
  /-- The items with the separator between them are the text up to blanks. -/
  joined : IsJoined separator (splitTop separator text) text

section Separator

variable (flat : isFlat separator = true)

theorem splitTop_of_cutTop?_eq_none (uncut : cutTop? separator text = none) :
    splitTop separator text = if IsBlankLine text then [] else [trim text] := by
  split
  case isTrue blank => exact splitTop_of_blank blank
  case isFalse content =>
    rw [splitTop_of_content content, piecesFrom_of_cutFrom?_eq_none uncut]
    rfl

include flat

theorem splitTop_of_cutTop?_eq_some (notArrow : separator ≠ '-')
    (visible : isBlank separator = false) (cut : cutTop? separator text = some (ahead, after)) :
    splitTop separator text =
      trim ahead :: if IsBlankLine after then [[]] else splitTop separator after := by
  have content : ¬ IsBlankLine text := by
    intro blank
    rw [eq_of_cutTop? cut] at blank
    have blankToo := blank separator (by simp)
    rw [visible] at blankToo
    contradiction
  -- The scan goes on behind the separator as it would start, for it is at depth zero there.
  have restart : piecesFrom separator 0 separator after = piecesFrom separator 0 '\x00' after :=
    piecesFrom_congr notArrow (by decide) 0 after
  rw [splitTop_of_content content, piecesFrom_of_cutFrom?_eq_some flat cut, restart, List.map_cons]
  split
  case isTrue blank =>
    have missing : separator ∉ after := by
      intro member
      rw [blank separator member] at visible
      contradiction
    have uncut : cutTop? separator after = none := by
      by_contra found
      rcases Option.ne_none_iff_exists'.mp found with ⟨parts, found⟩
      rw [eq_of_cutTop? found] at missing
      simp at missing
    rw [piecesFrom_of_cutFrom?_eq_none uncut, List.map_singleton, blank.trim_eq_nil]
  case isFalse more => rw [splitTop_of_content more]

/-- Splitting at a separator is cutting at it again and again, and it loses only blanks. -/
theorem splitTop_splitsAtCuts (notArrow : separator ≠ '-') (visible : isBlank separator = false)
    (text : Text) : SplitsAtCuts separator text where
  uncut := by
    intro uncut
    exact splitTop_of_cutTop?_eq_none (Option.map_eq_none_iff.mp uncut)
  cut := by
    intro offset found
    rcases Option.map_eq_some_iff.mp found with ⟨⟨ahead, after⟩, cut, length⟩
    exact ⟨ahead, after, eq_of_cutTop? cut, length,
      splitTop_of_cutTop?_eq_some flat notArrow visible cut⟩
  joined := isJoined_splitTop separator text

end Separator

/-- The comma inside a group that an arrow seems to close is no separator. -/
theorem splitTop_splitsAtCuts_arrow :
    isFlat ',' = true ∧ ',' ≠ '-' ∧ isBlank ',' = false ∧
      SplitsAtCuts ',' " <a->b, c> , ) d,".toList ∧
      offsetTop? ',' " <a->b, c> , ) d,".toList = some 11 ∧
      splitTop ',' " <a->b, c> , ) d,".toList = ["<a->b, c>".toList, ") d".toList, []] := by
  have visible : isBlank ',' = false := by decide
  exact ⟨rfl, by decide, visible, splitTop_splitsAtCuts rfl (by decide) visible _, by decide,
    by decide⟩

end MethodRoles.Scan
