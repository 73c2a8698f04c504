import MethodRoles.Text.Bytes

/-!
# Cutting texts where they were joined

The number of bytes of a text in front of another is a place between two characters, so
cutting there succeeds and gives back the two texts.
-/

namespace MethodRoles.Text

theorem byteLength_append (ahead after : Text) :
    byteLength (ahead ++ after) = byteLength ahead + byteLength after := by
  induction ahead with
  | nil => simp [byteLength]
  | cons character rest induction =>
      rw [List.cons_append, byteLength, byteLength, induction, Nat.add_assoc]

theorem firstBytes?_cons (character : Char) (count : Nat) (rest : Text) :
    firstBytes? (character.utf8Size + count) (character :: rest) =
      (firstBytes? count rest).map (character :: ·) := by
  obtain ⟨bytes, size⟩ := Nat.exists_eq_add_one.mpr character.utf8Size_pos
  rw [size, Nat.add_right_comm, firstBytes?, size, if_pos (by omega)]
  congr 2
  omega

theorem afterBytes?_cons (character : Char) (count : Nat) (rest : Text) :
    afterBytes? (character.utf8Size + count) (character :: rest) = afterBytes? count rest := by
  obtain ⟨bytes, size⟩ := Nat.exists_eq_add_one.mpr character.utf8Size_pos
  rw [size, Nat.add_right_comm, afterBytes?, size, if_pos (by omega)]
  congr 1
  omega

/-- As many bytes as a text has are cut out where the text stands. -/
theorem firstBytes?_append (ahead after : Text) :
    firstBytes? (byteLength ahead) (ahead ++ after) = some ahead := by
  induction ahead with
  | nil => cases after <;> rfl
  | cons character rest induction =>
      rw [byteLength, List.cons_append, firstBytes?_cons, induction]
      rfl

/-- Behind as many bytes as a text has stands what follows the text. -/
theorem afterBytes?_append (ahead after : Text) :
    afterBytes? (byteLength ahead) (ahead ++ after) = some after := by
  induction ahead with
  | nil => rw [byteLength, List.nil_append, afterBytes?]
  | cons character rest induction =>
      rw [byteLength, List.cons_append, afterBytes?_cons, induction]

theorem upTo?_append (ahead after : Text) : upTo? after (ahead ++ after) = some ahead := by
  have length := byteLength_append ahead after
  have count : byteLength (ahead ++ after) - byteLength after = byteLength ahead := by omega
  rw [upTo?, if_pos (by omega), count, firstBytes?_append]

end MethodRoles.Text
