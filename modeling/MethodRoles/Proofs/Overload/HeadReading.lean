import MethodRoles.Overload.HeadReading
import MethodRoles.Proofs.Scan.Path
import MethodRoles.Proofs.Scan.Word

/-!
# Heads read step by step

The reader of heads goes back to the start of a text where it has read the beginning of a
marker in vain, and it reads the receiver before it knows whether a path follows.  Neither
makes a difference to what it finds: it never fails to cut out a word, and its answer is the
head that is recognised in the text as a whole (`readText_eq`).
-/

namespace MethodRoles.Head

open Text Scan

theorem afterDigits?_eq (text : Text) :
    afterDigits? text =
      if (text.takeWhile Char.isDigit).isEmpty then none
      else some (text.dropWhile Char.isDigit) := by
  cases text with
  | nil => rfl
  | cons character rest =>
      rw [afterDigits?]
      by_cases digit : character.isDigit = true
      · rw [if_pos digit, List.takeWhile_cons_of_pos digit, List.dropWhile_cons_of_pos digit]
        rfl
      · rw [if_neg digit, List.takeWhile_cons_of_neg digit]
        rfl

theorem afterMarker?_bracket (text : Text) :
    afterMarker? ('(' :: text) = (afterDigits? text).bind (dropLeading? [')']) := by
  rw [afterMarker?]
  generalize afterDigits? text = behind?
  split
  · rfl
  · rename_i noBracket
    cases behind? with
    | none => rfl
    | some behind =>
        have missing : dropLeading? [')'] behind = none :=
          dropLeading?_eq_none_iff.mpr fun rest whole => noBracket rest (congrArg some whole)
        exact missing.symm

theorem afterMarker?_plain {text : Text} (plain : dropLeading? ['('] text = none) :
    afterMarker? text = (afterDigits? text).bind fun behind =>
      (dropLeading? ['.'] behind).or (dropLeading? [')'] behind) := by
  unfold afterMarker?
  split
  · contradiction
  · generalize afterDigits? text = behind?
    split
    · rfl
    · rfl
    · rename_i noPoint noBracket
      cases behind? with
      | none => rfl
      | some behind =>
          have missing : dropLeading? ['.'] behind = none :=
            dropLeading?_eq_none_iff.mpr fun rest whole => noPoint rest (congrArg some whole)
          have missingToo : dropLeading? [')'] behind = none :=
            dropLeading?_eq_none_iff.mpr fun rest whole => noBracket rest (congrArg some whole)
          rw [Option.bind_some, missing, missingToo]
          rfl

theorem readClosing_bracketed (reader : Reader) :
    ∃ complete behind, readClosing true reader = some (complete, behind) ∧
      dropLeading? [')'] reader.rest = if complete then some behind.rest else none := by
  rcases Reader.readWord_cases [')'] reader with ⟨after, found, read⟩ | ⟨missing, read⟩
  · exact ⟨true, _, read, found⟩
  · exact ⟨false, _, read, missing⟩

theorem readClosing_plain (reader : Reader) :
    ∃ complete behind, readClosing false reader = some (complete, behind) ∧
      (dropLeading? ['.'] reader.rest).or (dropLeading? [')'] reader.rest) =
        if complete then some behind.rest else none := by
  rw [readClosing, if_neg Bool.false_ne_true]
  rcases Reader.readWord_cases ['.'] reader with ⟨after, point, read⟩ | ⟨noPoint, read⟩
  · rw [read, point]
    exact ⟨true, _, rfl, rfl⟩
  · rw [read, noPoint]
    exact readClosing_bracketed reader

/-- Behind a complete marker stands what follows a marker in the text. -/
theorem readMarker_eq (reader : Reader) :
    ∃ complete behind, readMarker reader = some (complete, behind) ∧
      afterMarker? reader.rest = if complete then some behind.rest else none := by
  simp only [readMarker, Reader.readWhile_eq, Reader.takeWhile_eq, Option.bind_eq_bind]
  rcases Reader.readWord_cases ['('] reader with ⟨inside, found, bracket⟩ | ⟨plain, bracket⟩
  · have bracketed : reader.rest = '(' :: inside := dropLeading?_eq_some_iff.mp found
    rw [bracket, bracketed, afterMarker?_bracket, afterDigits?_eq]
    simp only [Option.bind_some]
    split
    · exact ⟨false, _, rfl, rfl⟩
    · exact readClosing_bracketed _
  · rw [bracket, afterMarker?_plain plain, afterDigits?_eq]
    simp only [Option.bind_some]
    split
    · exact ⟨false, _, rfl, rfl⟩
    · exact readClosing_plain _

theorem readUnmarked_eq (text : Text) : readUnmarked text = some (dropMarker text) := by
  rcases readMarker_eq (.start text) with ⟨complete, behind, read, left⟩
  have left : afterMarker? text = if complete then some behind.rest else none := left
  rw [readUnmarked, read, dropMarker, left]
  cases complete with
  | false => rfl
  | true =>
      simp only [Option.bind_eq_bind, Option.bind_some, Bool.true_and, if_true,
        Reader.nextSatisfies, Reader.peek?]
      cases behind.rest with
      | nil => rfl
      | cons character rest =>
          rw [List.head?_cons, Option.any_some]
          exact (apply_ite some _ _ _).symm

/-- The path that a reader reads is the path that starts what is left of the text. -/
theorem readPath_eq (reader : Reader) :
    ∃ last? behind, readPath reader = some (last?, behind) ∧
      takePath? reader.rest = last?.map fun last => (last, behind.rest) := by
  fun_induction readPath reader with
  | case1 reader name behind read joined point induction =>
      rcases induction with ⟨last?, after, readLater, later⟩
      have taken := Reader.takeIdentifier?_of_readIdentifier read
      rw [Reader.rest_of_readWord point] at taken
      exact ⟨last?, after, readLater, (takePath?_of_point taken).trans later⟩
  | case2 reader name behind read after noPoint =>
      rcases Reader.missing_of_readWord noPoint with ⟨rfl, ends⟩
      have taken := Reader.takeIdentifier?_of_readIdentifier read
      exact ⟨some name, after, rfl, takePath?_of_end taken ends⟩
  | case3 reader name behind read fails =>
      rw [Reader.readWord_eq] at fails
      contradiction
  | case4 reader behind read =>
      refine ⟨none, behind, rfl, ?_⟩
      exact takePath?_of_missing (Reader.takeIdentifier?_of_readIdentifier read)
  | case5 reader fails =>
      rw [Reader.readIdentifier_eq] at fails
      contradiction

/-- Reading step by step recognises the same heads. -/
theorem readText_eq (text : Text) : readText text = some (ofText? text) := by
  have receiver : ∃ found start, (Reader.start (dropMarker (trim text))).readWord ['V', '.'] =
      some (found, start) ∧ start.rest = dropReceiver (dropMarker (trim text)) := by
    rw [dropReceiver]
    rcases Reader.readWord_cases ['V', '.'] (.start (dropMarker (trim text))) with
      ⟨after, found, read⟩ | ⟨missing, read⟩
    · exact ⟨true, _, read, (congrArg (Option.getD · _) found).symm⟩
    · exact ⟨false, _, read, (congrArg (Option.getD · _) missing).symm⟩
  rcases receiver with ⟨found, start, receiver, unread⟩
  rcases readPath_eq start with ⟨last?, ⟨consumed, behind⟩, read, path⟩
  simp only [readText, readUnmarked_eq, receiver, read, Option.bind_eq_bind, Option.bind_some]
  rw [ofText?, ← unread, path]
  cases last? with
  | none => rfl
  | some last =>
      simp only [Option.map_some, Reader.nextSatisfies, Reader.peek?]
      cases behind with
      | nil => rfl
      | cons mark rest =>
          by_cases bracket : mark = '('
          · subst bracket
            rfl
          · simp [bracket]

end MethodRoles.Head
