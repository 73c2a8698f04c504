import MethodRoles.Scan.Word
import MethodRoles.Proofs.Scan.Path
import MethodRoles.Proofs.Text.Bytes

/-!
# Words read character by character

Cutting a word out of the text by its bytes never fails, because the reader stands behind
whole characters.  So reading character by character comes to the same as the scans of the
text: as long as a condition holds (`readWhile_eq`), over a word that comes next
(`readWord_eq`) and over an identifier (`readIdentifier_eq`).
-/

namespace MethodRoles.Scan.Reader

open Text

variable {reader : Reader}

/-! ## Characters that satisfy a condition -/

theorem passWhile_eq (condition : Char → Bool) (reader : Reader) :
    reader.passWhile condition =
      ⟨reader.consumed ++ reader.rest.takeWhile condition, reader.rest.dropWhile condition⟩ := by
  fun_induction passWhile condition reader with
  | case1 reader next =>
      have unread : reader.rest = [] := List.head?_eq_none_iff.mp next
      rw [unread, List.takeWhile_nil, List.dropWhile_nil, List.append_nil, ← unread]
  | case2 reader character next holds induction =>
      rcases List.head?_eq_some_iff.mp next with ⟨rest, unread⟩
      rw [induction, advance_eq unread, unread, List.takeWhile_cons_of_pos holds,
        List.dropWhile_cons_of_pos holds, List.append_assoc, List.singleton_append]
  | case3 reader character next fails =>
      rcases List.head?_eq_some_iff.mp next with ⟨rest, unread⟩
      rw [unread, List.takeWhile_cons_of_neg fails, List.dropWhile_cons_of_neg fails,
        List.append_nil, ← unread]

theorem takeWhile_eq (condition : Char → Bool) (reader : Reader) :
    reader.takeWhile condition =
      (reader.rest.takeWhile condition,
        ⟨reader.consumed ++ reader.rest.takeWhile condition,
          reader.rest.dropWhile condition⟩) := by
  have whole : reader.rest = reader.rest.takeWhile condition ++ reader.rest.dropWhile condition :=
    List.takeWhile_append_dropWhile.symm
  rw [takeWhile, skip_eq whole]

/-- Cutting out the characters that were passed gives those that satisfy the condition. -/
theorem readWhile_eq (condition : Char → Bool) (reader : Reader) :
    reader.readWhile condition = some (reader.takeWhile condition) := by
  have taken := upTo?_append (reader.rest.takeWhile condition) (reader.rest.dropWhile condition)
  rw [List.takeWhile_append_dropWhile] at taken
  simp only [readWhile, passWhile_eq, taken, takeWhile_eq, Option.map_some]

/-! ## Words -/

/-- Passing a word by its bytes is reading it. -/
theorem readWord_eq (word : Text) (reader : Reader) :
    reader.readWord word = some (reader.takeWord word) := by
  rw [readWord, takeWord]
  split
  case isTrue next =>
    rcases Option.isSome_iff_exists.mp next with ⟨after, found⟩
    have whole : reader.rest = word ++ after := dropLeading?_eq_some_iff.mp found
    rw [skip_eq whole, whole, afterBytes?_append]
    rfl
  case isFalse => rfl

/-- A word is read where it comes next, and nothing is read where it does not. -/
theorem readWord_cases (word : Text) (reader : Reader) :
    (∃ after, dropLeading? word reader.rest = some after ∧
      reader.readWord word = some (true, ⟨reader.consumed ++ word, after⟩)) ∨
    (dropLeading? word reader.rest = none ∧ reader.readWord word = some (false, reader)) := by
  rw [readWord_eq, takeWord, nextIs, startsWith]
  rcases found : dropLeading? word reader.rest with _ | after
  · exact .inr ⟨rfl, rfl⟩
  · have whole : reader.rest = word ++ after := dropLeading?_eq_some_iff.mp found
    rw [skip_eq whole]
    exact .inl ⟨after, rfl, rfl⟩

theorem rest_of_readWord {word : Text} {behind : Reader}
    (read : reader.readWord word = some (true, behind)) : reader.rest = word ++ behind.rest := by
  rcases readWord_cases word reader with ⟨after, found, passed⟩ | ⟨-, missing⟩
  · rw [read] at passed
    cases passed
    exact dropLeading?_eq_some_iff.mp found
  · rw [read] at missing
    cases missing

theorem missing_of_readWord {word : Text} {behind : Reader}
    (read : reader.readWord word = some (false, behind)) :
    behind = reader ∧ ∀ after, reader.rest ≠ word ++ after := by
  rcases readWord_cases word reader with ⟨after, -, passed⟩ | ⟨noWord, missing⟩
  · rw [read] at passed
    cases passed
  · rw [read] at missing
    cases missing
    exact ⟨rfl, dropLeading?_eq_none_iff.mp noWord⟩

/-! ## Identifiers -/

/-- Reading an identifier character by character is taking it from the text. -/
theorem readIdentifier_eq (reader : Reader) :
    reader.readIdentifier = some reader.takeIdentifier := by
  rw [readIdentifier, takeIdentifier, readWhile_eq, takeWhile_eq, nextSatisfies, peek?]
  cases unread : reader.rest with
  | nil => rfl
  | cons character rest =>
      by_cases starts : startsIdentifier character = true
      · have continues := continuesIdentifier_of_starts starts
        have whole : reader.rest = (character :: rest.takeWhile continuesIdentifier) ++
            rest.dropWhile continuesIdentifier := by
          rw [unread, List.cons_append, List.takeWhile_append_dropWhile]
        rw [takeIdentifier?, if_pos starts, List.takeWhile_cons_of_pos continues,
          List.dropWhile_cons_of_pos continues, List.head?_cons, Option.any_some, if_pos starts]
        dsimp only
        rw [skipTo_eq whole]
        rfl
      · rw [takeIdentifier?, if_neg starts, List.head?_cons, Option.any_some, if_neg starts]

theorem takeIdentifier?_of_readIdentifier {name? : Option Text} {behind : Reader}
    (read : reader.readIdentifier = some (name?, behind)) :
    takeIdentifier? reader.rest = name?.map fun name => (name, behind.rest) := by
  rw [readIdentifier_eq, takeIdentifier, Option.some.injEq] at read
  split at read
  case h_1 name after taken =>
    rw [skipTo_eq (eq_append_of_takeIdentifier? taken).2] at read
    cases read
    exact taken
  case h_2 missing =>
    cases read
    exact missing

end MethodRoles.Scan.Reader
