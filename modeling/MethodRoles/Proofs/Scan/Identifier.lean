import MethodRoles.Scan.Identifier
import MethodRoles.Proofs.Text.Trimming

/-!
# Identifiers at the start of a text

An identifier is read up to the first character that continues no identifier, and
a path up to the first character that neither continues an identifier nor joins
two.  The characters of identifiers are visible.
-/

namespace MethodRoles.Scan

open Text

/-- The printable ASCII characters are visible. -/
theorem isBlank_of_toNat {character : Char} (low : 33 ≤ character.toNat)
    (high : character.toNat ≤ 126) : isBlank character = false := by
  simp only [isBlank, Bool.or_eq_false_iff, Bool.and_eq_false_iff, decide_eq_false_iff_not,
    beq_eq_false_iff_ne]
  omega

theorem isUpper_iff_toNat {character : Char} :
    character.isUpper = true ↔ 65 ≤ character.toNat ∧ character.toNat ≤ 90 := by
  change decide ('A'.val ≤ character.val ∧ character.val ≤ 'Z'.val) = true ↔ _
  rw [decide_eq_true_eq, UInt32.le_iff_toNat_le, UInt32.le_iff_toNat_le]
  rfl

theorem isLower_iff_toNat {character : Char} :
    character.isLower = true ↔ 97 ≤ character.toNat ∧ character.toNat ≤ 122 := by
  change (decide ('a'.val ≤ character.val) && decide (character.val ≤ 'z'.val)) = true ↔ _
  rw [Bool.and_eq_true, decide_eq_true_eq, decide_eq_true_eq, UInt32.le_iff_toNat_le,
    UInt32.le_iff_toNat_le]
  rfl

theorem isAlpha_iff_toNat {character : Char} :
    character.isAlpha = true ↔ (65 ≤ character.toNat ∧ character.toNat ≤ 90) ∨
      (97 ≤ character.toNat ∧ character.toNat ≤ 122) := by
  change (character.isUpper || character.isLower) = true ↔ _
  rw [Bool.or_eq_true, isUpper_iff_toNat, isLower_iff_toNat]

theorem isBlank_of_continuesIdentifier {character : Char}
    (continues : continuesIdentifier character = true) : isBlank character = false := by
  rw [continuesIdentifier, Bool.or_eq_true, Char.isAlphanum, Bool.or_eq_true, isAlpha_iff_toNat,
    Char.isDigit_iff_toNat] at continues
  change (_ ∨ (48 ≤ character.toNat ∧ character.toNat ≤ 57)) ∨ _ at continues
  rcases continues with alphanumeric | underscore
  · exact isBlank_of_toNat (by omega) (by omega)
  · rw [beq_iff_eq.mp underscore]
    decide

theorem continuesIdentifier_of_starts {character : Char}
    (starts : startsIdentifier character = true) : continuesIdentifier character = true := by
  rw [startsIdentifier, Bool.or_eq_true] at starts
  rcases starts with letter | underscore
  · simp [continuesIdentifier, Char.isAlphanum, letter]
  · simp [continuesIdentifier, underscore]

theorem continuesIdentifier_of_isDigit {character : Char} (digit : character.isDigit = true) :
    continuesIdentifier character = true := by
  simp [continuesIdentifier, Char.isAlphanum, digit]

theorem isDigit_of_startsIdentifier {character : Char}
    (starts : startsIdentifier character = true) : character.isDigit = false := by
  rw [startsIdentifier, Bool.or_eq_true, isAlpha_iff_toNat] at starts
  rcases starts with letter | underscore
  · rw [← Bool.not_eq_true, Char.isDigit_iff_toNat]
    change ¬ (48 ≤ character.toNat ∧ character.toNat ≤ 57)
    omega
  · rw [beq_iff_eq.mp underscore]
    decide

variable {name : Text}

theorem starts_of_isIdentifier (identifier : isIdentifier name = true) :
    ∃ first rest, name = first :: rest ∧ startsIdentifier first = true := by
  cases name with
  | nil => simp [isIdentifier] at identifier
  | cons first rest =>
      rw [isIdentifier, Bool.and_eq_true] at identifier
      exact ⟨first, rest, rfl, identifier.1⟩

theorem ne_nil_of_isIdentifier (identifier : isIdentifier name = true) : name ≠ [] := by
  rintro rfl
  simp [isIdentifier] at identifier

theorem continues_of_isIdentifier (identifier : isIdentifier name = true) :
    ∀ character ∈ name, continuesIdentifier character = true := by
  cases name with
  | nil => simp
  | cons first rest =>
      rw [isIdentifier, Bool.and_eq_true, List.all_eq_true] at identifier
      intro character member
      rcases List.mem_cons.mp member with rfl | member
      · exact continuesIdentifier_of_starts identifier.1
      · exact identifier.2 character member

theorem not_mem_of_isIdentifier (identifier : isIdentifier name = true) {character : Char}
    (ends : continuesIdentifier character = false) : character ∉ name := by
  intro member
  rw [continues_of_isIdentifier identifier character member] at ends
  contradiction

theorem trimmed_of_isIdentifier (identifier : isIdentifier name = true) : Trimmed name :=
  .of_visible (ne_nil_of_isIdentifier identifier) fun character member =>
    isBlank_of_continuesIdentifier (continues_of_isIdentifier identifier character member)

/-- An identifier is read up to the first character that does not continue it. -/
theorem takeIdentifier?_append_cons (identifier : isIdentifier name = true) {mark : Char}
    (ends : continuesIdentifier mark = false) (after : Text) :
    takeIdentifier? (name ++ mark :: after) = some (name, mark :: after) := by
  cases name with
  | nil => simp [isIdentifier] at identifier
  | cons first rest =>
      rw [isIdentifier, Bool.and_eq_true, List.all_eq_true] at identifier
      have stops : ∀ character ∈ rest, continuesIdentifier character = true := identifier.2
      rw [List.cons_append, takeIdentifier?, if_pos identifier.1,
        List.takeWhile_append_of_pos stops, List.dropWhile_append_of_pos stops]
      simp [ends]

section Rounds

variable {text rest : Text}

theorem takePath?_of_missing (missing : takeIdentifier? text = none) : takePath? text = none := by
  rw [takePath?]
  split
  · rfl
  · rename_i found
    rw [missing] at found
    contradiction
  · rename_i found
    rw [missing] at found
    contradiction

theorem takePath?_of_point (taken : takeIdentifier? text = some (name, '.' :: rest)) :
    takePath? text = takePath? rest := by
  rw [takePath?]
  split
  · rename_i found
    rw [taken] at found
    contradiction
  · rename_i found
    rw [taken] at found
    cases found
    rfl
  · rename_i noPoint found
    rw [taken] at found
    cases found
    exact absurd rfl (noPoint rest)

theorem takePath?_of_end (taken : takeIdentifier? text = some (name, rest))
    (noPoint : ∀ after, rest ≠ '.' :: after) : takePath? text = some (name, rest) := by
  rw [takePath?]
  split
  · rename_i found
    rw [taken] at found
    contradiction
  · rename_i found
    rw [taken] at found
    cases found
    exact absurd rfl (noPoint _)
  · rename_i found
    rw [taken] at found
    exact found.symm

end Rounds

/-- A path of one identifier ends where the identifier does. -/
theorem takePath?_append_cons (identifier : isIdentifier name = true) {mark : Char}
    (ends : continuesIdentifier mark = false) (noPoint : mark ≠ '.') (after : Text) :
    takePath? (name ++ mark :: after) = some (name, mark :: after) := by
  apply takePath?_of_end (takeIdentifier?_append_cons identifier ends after)
  intro rest point
  exact noPoint (List.cons.inj point).1

end MethodRoles.Scan
