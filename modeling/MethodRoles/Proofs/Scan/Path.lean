import MethodRoles.Proofs.Scan.Identifier

/-!
# Paths of identifiers

A path consists of identifiers with points between them, and its last identifier is
what the path leads to.  Only paths are read as paths, and a path in front of a mark
that neither continues it nor joins it is read whole, whatever follows the mark.
-/

namespace MethodRoles.Scan

open Text

/-- A path of identifiers with points between them, by the last identifier. -/
inductive IsPath : (path last : Text) → Prop where
  | identifier {name : Text} (identifier : isIdentifier name = true) : IsPath name name
  | joined {name path last : Text} (identifier : isIdentifier name = true)
      (later : IsPath path last) : IsPath (name ++ '.' :: path) last

theorem eq_append_of_takeIdentifier? {text name rest : Text}
    (found : takeIdentifier? text = some (name, rest)) :
    isIdentifier name = true ∧ text = name ++ rest := by
  cases text with
  | nil => simp [takeIdentifier?] at found
  | cons first others =>
      rw [takeIdentifier?] at found
      split at found
      case isTrue starts =>
        simp only [Option.some.injEq, Prod.mk.injEq] at found
        rcases found with ⟨rfl, rfl⟩
        constructor
        · rw [isIdentifier, starts, Bool.true_and, List.all_takeWhile]
        · rw [List.cons_append, List.takeWhile_append_dropWhile]
      case isFalse => contradiction

theorem takePath?_joined {name : Text} (identifier : isIdentifier name = true) (rest : Text) :
    takePath? (name ++ '.' :: rest) = takePath? rest :=
  takePath?_of_point (takeIdentifier?_append_cons identifier (by decide) rest)

/-- What is read as a path is one. -/
theorem isPath_of_takePath? {text last rest : Text} (found : takePath? text = some (last, rest)) :
    ∃ path, IsPath path last ∧ text = path ++ rest := by
  fun_induction takePath? text with
  | case1 => contradiction
  | case2 text name after taken induction =>
      rcases eq_append_of_takeIdentifier? taken with ⟨identifier, rfl⟩
      rcases induction found with ⟨path, later, rfl⟩
      exact ⟨name ++ '.' :: path, .joined identifier later, by simp⟩
  | case3 text name after noPoint taken =>
      rcases eq_append_of_takeIdentifier? taken with ⟨identifier, rfl⟩
      simp only [Option.some.injEq, Prod.mk.injEq] at found
      rcases found with ⟨rfl, rfl⟩
      exact ⟨name, .identifier identifier, rfl⟩

namespace IsPath

variable {path last : Text}

theorem starts (isPath : IsPath path last) :
    ∃ first rest, path = first :: rest ∧ startsIdentifier first = true := by
  cases isPath with
  | identifier identifier => exact starts_of_isIdentifier identifier
  | joined identifier _ =>
      rcases starts_of_isIdentifier identifier with ⟨first, rest, rfl, starts⟩
      exact ⟨first, _, rfl, starts⟩

/-- A path is read up to the first mark that does not belong to it. -/
theorem takePath?_append_cons (isPath : IsPath path last) {mark : Char}
    (ends : continuesIdentifier mark = false) (noPoint : mark ≠ '.') (after : Text) :
    takePath? (path ++ mark :: after) = some (last, mark :: after) := by
  induction isPath with
  | identifier identifier => exact Scan.takePath?_append_cons identifier ends noPoint after
  | joined identifier _ induction =>
      rw [List.append_assoc, List.cons_append, takePath?_joined identifier, induction]

end IsPath

end MethodRoles.Scan
