import MethodRoles.Scan.Bracket
import MethodRoles.Proofs.Text.Trimming

/-!
# Scans of properly nested text

A text is nested when each group in it is opened and closed inside it.  A scan
that reads a nested text is at the depth at which it began, so splitting and
cutting pass over the text unless the separator stands outside its groups, and
the group around the text ends behind it.

The characters that may stand outside all groups are a parameter of the grammar;
inside a group every character may stand.
-/

namespace MethodRoles.Scan

open Text

/-- Whether a character is no bracket. -/
def isFlat (character : Char) : Bool :=
  !isOpener character && !isCloser '\x00' character

theorem isOpener_of_isFlat {character : Char} (flat : isFlat character = true) :
    isOpener character = false := by
  rw [isFlat, Bool.and_eq_true, Bool.not_eq_true'] at flat
  exact flat.1

theorem isCloser_of_isFlat {character : Char} (flat : isFlat character = true) (before : Char) :
    isCloser before character = false := by
  simp only [isFlat, isCloser, Bool.and_eq_true, Bool.not_eq_true', Bool.or_eq_false_iff] at flat ⊢
  have notAngle : character ≠ '>' := by simpa using flat.2.2
  exact ⟨flat.2.1, by simp [notAngle]⟩

theorem isFlat_of_isBlank {character : Char} (blank : isBlank character = true) :
    isFlat character = true := by
  have differs : ∀ bracket, isBlank bracket = false → character ≠ bracket := by
    rintro bracket visible rfl
    rw [blank] at visible
    contradiction
  simp [isFlat, isOpener, isCloser, differs '(' (by decide), differs '[' (by decide),
    differs '<' (by decide), differs ')' (by decide), differs ']' (by decide),
    differs '>' (by decide)]

/-- A text whose groups are closed, with only some characters outside all groups. -/
inductive Nested : (allowed : Char → Prop) → Text → Prop where
  | nil {allowed : Char → Prop} : Nested allowed []
  | mark {allowed : Char → Prop} {character : Char} (flat : isFlat character = true)
      (outside : allowed character) : Nested allowed [character]
  | append {allowed : Char → Prop} {left right : Text} (first : Nested allowed left)
      (second : Nested allowed right) : Nested allowed (left ++ right)
  | group {allowed : Char → Prop} {opener closer : Char} {inside : Text}
      (opens : isOpener opener = true) (closes : closer = ')' ∨ closer = ']')
      (nested : Nested (fun _ => True) inside) : Nested allowed (opener :: inside ++ [closer])

namespace Nested

variable {allowed : Char → Prop} {text : Text}

theorem mono (nested : Nested allowed text) {permitted : Char → Prop}
    (weaker : ∀ character, allowed character → permitted character) : Nested permitted text := by
  induction nested with
  | nil => exact nil
  | mark flat outside => exact mark flat (weaker _ outside)
  | append _ _ firstInduction secondInduction =>
      exact (firstInduction weaker).append (secondInduction weaker)
  | group opens closes nested _ => exact group opens closes nested

theorem anywhere (nested : Nested allowed text) : Nested (fun _ => True) text :=
  nested.mono fun _ _ => trivial

theorem of_flat (flat : ∀ character ∈ text, isFlat character = true ∧ allowed character) :
    Nested allowed text := by
  induction text with
  | nil => exact nil
  | cons character rest induction =>
      have first := flat character List.mem_cons_self
      have others := induction fun other member => flat other (List.mem_cons_of_mem _ member)
      exact (mark first.1 first.2).append others

theorem join {separator : Text} (between : Nested allowed separator) {items : List Text}
    (nested : ∀ item ∈ items, Nested allowed item) :
    Nested allowed (Text.join separator items) := by
  induction items with
  | nil => exact nil
  | cons item others induction =>
      have first := nested item List.mem_cons_self
      have later := induction fun other member => nested other (List.mem_cons_of_mem _ member)
      cases others with
      | nil => exact first
      | cons next others => exact (first.append between).append later

end Nested

theorem isOpener_of_closes {closer : Char} (closes : closer = ')' ∨ closer = ']') :
    isOpener closer = false := by
  rcases closes with rfl | rfl <;> decide

theorem isCloser_of_closes {closer : Char} (closes : closer = ')' ∨ closer = ']')
    (before : Char) : isCloser before closer = true := by
  rcases closes with rfl | rfl <;> simp [isCloser]

section Depth

variable {before character : Char} {depth : Nat}

theorem depthAfter_of_isOpener (opens : isOpener character = true) :
    depthAfter depth before character = depth + 1 := by
  rw [depthAfter, if_pos opens]

theorem depthAfter_of_closes (closes : character = ')' ∨ character = ']') :
    depthAfter (depth + 1) before character = depth := by
  simp [depthAfter, isOpener_of_closes closes, isCloser_of_closes closes]

theorem depthAfter_of_isFlat (flat : isFlat character = true) :
    depthAfter depth before character = depth := by
  simp [depthAfter, isOpener_of_isFlat flat, isCloser_of_isFlat flat]

end Depth

/-- The character read last behind a text, if `before` was read last ahead of it. -/
def lastRead (before : Char) (text : Text) : Char :=
  text.foldl (fun _ character => character) before

@[simp]
theorem lastRead_nil (before : Char) : lastRead before [] = before := rfl

@[simp]
theorem lastRead_cons (before character : Char) (rest : Text) :
    lastRead before (character :: rest) = lastRead character rest := rfl

@[simp]
theorem lastRead_append (before : Char) (left right : Text) :
    lastRead before (left ++ right) = lastRead (lastRead before left) right :=
  List.foldl_append

variable {allowed : Char → Prop} {text : Text}

/-- A group goes on behind nested text. -/
theorem groupFrom_append (nested : Nested allowed text) (inner : Nat) (before : Char)
    (after : Text) :
    groupFrom inner before (text ++ after) =
      (text ++ (groupFrom inner (lastRead before text) after).1,
        (groupFrom inner (lastRead before text) after).2) := by
  induction nested generalizing inner before after with
  | nil => rfl
  | mark flat _ =>
      simp [groupFrom, isOpener_of_isFlat flat, isCloser_of_isFlat flat]
  | append first second firstInduction secondInduction =>
      rw [List.append_assoc, firstInduction, secondInduction, List.append_assoc, lastRead_append]
  | group opens closes nested induction =>
      simp [groupFrom, opens, induction, isOpener_of_closes closes, isCloser_of_closes closes]

/-- The group around nested text. -/
theorem takeGroup?_of_nested {opener closer : Char} (opens : isOpener opener = true)
    (closes : closer = ')' ∨ closer = ']') (nested : Nested allowed text) (after : Text) :
    takeGroup? (opener :: text ++ closer :: after) = some (text, after) := by
  rw [List.cons_append, takeGroup?, if_pos opens, groupFrom_append nested]
  simp [groupFrom, isOpener_of_closes closes, isCloser_of_closes closes]

/-- Cutting passes over nested text without the separator outside its groups. -/
theorem cutFrom?_append (nested : Nested allowed text) {separator : Char}
    (flat : isFlat separator = true) {depth : Nat}
    (free : depth = 0 → ∀ character, allowed character → character ≠ separator)
    (before : Char) (after : Text) :
    cutFrom? separator depth before (text ++ after) =
      (cutFrom? separator depth (lastRead before text) after).map
        fun parts => (text ++ parts.1, parts.2) := by
  induction nested generalizing depth before after with
  | nil => simp
  | @mark _ character flatHere outside =>
      have passes : ¬ (character = separator ∧ depth = 0) :=
        fun both => free both.2 character outside both.1
      simp only [List.cons_append, List.nil_append, cutFrom?, Bool.and_eq_true, beq_iff_eq,
        if_neg passes, depthAfter_of_isFlat flatHere, lastRead_cons, lastRead_nil]
      cases cutFrom? separator depth character after <;> rfl
  | append first second firstInduction secondInduction =>
      rw [List.append_assoc, firstInduction free, secondInduction free, lastRead_append,
        Option.map_map]
      simp [Function.comp_def]
  -- Inside the group the depth is positive, so no character there is a separator.
  | @group _ opener closer inside opens closes nested induction =>
      have differs : opener ≠ separator := by
        rintro rfl
        rw [isOpener_of_isFlat flat] at opens
        contradiction
      have deep : depth + 1 = 0 → ∀ character, True → character ≠ separator :=
        fun zero => absurd zero (Nat.succ_ne_zero depth)
      have passed : cutFrom? separator (depth + 1) opener (inside ++ closer :: after) =
          (cutFrom? separator depth closer after).map
            fun parts => (inside ++ closer :: parts.1, parts.2) := by
        simp only [induction deep, cutFrom?, depthAfter_of_closes closes]
        cases cutFrom? separator depth closer after <;> simp
      simp only [List.cons_append, List.append_assoc, List.nil_append, cutFrom?,
        depthAfter_of_isOpener opens, passed, lastRead_cons, lastRead_append, lastRead_nil]
      cases cutFrom? separator depth closer after <;> simp [differs]

/-- Splitting passes over nested text without the separator outside its groups. -/
theorem piecesFrom_append (nested : Nested allowed text) {separator : Char} {depth : Nat}
    (free : depth = 0 → ∀ character, allowed character → character ≠ separator)
    (before : Char) (after : Text) :
    piecesFrom separator depth before (text ++ after) =
      (text ++ (piecesFrom separator depth (lastRead before text) after).1,
        (piecesFrom separator depth (lastRead before text) after).2) := by
  induction nested generalizing depth before after with
  | nil => rfl
  | @mark _ character flatHere outside =>
      have passes : ¬ (character = separator ∧ depth = 0) :=
        fun both => free both.2 character outside both.1
      simp [piecesFrom, passes, depthAfter_of_isFlat flatHere]
  | append first second firstInduction secondInduction =>
      rw [List.append_assoc, firstInduction free, secondInduction free, lastRead_append,
        List.append_assoc]
  | @group _ opener closer inside opens closes nested induction =>
      have deep : depth + 1 = 0 → ∀ character, True → character ≠ separator :=
        fun zero => absurd zero (Nat.succ_ne_zero depth)
      simp [piecesFrom, opens, depthAfter_of_isOpener opens, induction deep,
        depthAfter_of_closes closes]

section Separator

variable {separator : Char}

theorem cutFrom?_zero_append (nested : Nested (· ≠ separator) text)
    (flat : isFlat separator = true) (before : Char) (after : Text) :
    cutFrom? separator 0 before (text ++ after) =
      (cutFrom? separator 0 (lastRead before text) after).map
        fun parts => (text ++ parts.1, parts.2) :=
  cutFrom?_append nested flat (fun _ _ => id) before after

theorem cutTop?_eq_none (nested : Nested (· ≠ separator) text)
    (flat : isFlat separator = true) : cutTop? separator text = none := by
  have passed := cutFrom?_zero_append nested flat '\x00' []
  simpa [cutTop?, cutFrom?] using passed

theorem cutTop?_append_cons (nested : Nested (· ≠ separator) text)
    (flat : isFlat separator = true) (after : Text) :
    cutTop? separator (text ++ separator :: after) = some (text, after) := by
  rw [cutTop?, cutFrom?_zero_append nested flat]
  simp [cutFrom?]

/-- Behind text without brackets even a bracket is found, where it opens its group. -/
theorem cutTop?_append_cons_of_flat
    (flat : ∀ character ∈ text, isFlat character = true ∧ character ≠ separator) (after : Text) :
    cutTop? separator (text ++ separator :: after) = some (text, after) := by
  rw [cutTop?]
  generalize '\x00' = before
  induction text generalizing before with
  | nil => simp [cutFrom?]
  | cons character text induction =>
      rcases List.forall_mem_cons.mp flat with ⟨⟨here, differs⟩, later⟩
      simp [cutFrom?, differs, depthAfter_of_isFlat here, induction later]

theorem beforeTop_eq_self (nested : Nested (· ≠ separator) text)
    (flat : isFlat separator = true) : beforeTop separator text = text := by
  rw [beforeTop, cutTop?_eq_none nested flat]

theorem beforeTop_append_cons (nested : Nested (· ≠ separator) text)
    (flat : isFlat separator = true) (after : Text) :
    beforeTop separator (text ++ separator :: after) = text := by
  rw [beforeTop, cutTop?_append_cons nested flat]

theorem piecesFrom_zero_append (nested : Nested (· ≠ separator) text) (before : Char)
    (after : Text) :
    piecesFrom separator 0 before (text ++ after) =
      (text ++ (piecesFrom separator 0 (lastRead before text) after).1,
        (piecesFrom separator 0 (lastRead before text) after).2) :=
  piecesFrom_append nested (fun _ _ => id) before after

theorem piecesFrom_of_nested (nested : Nested (· ≠ separator) text) (before : Char) :
    piecesFrom separator 0 before text = (text, []) := by
  have passed := piecesFrom_zero_append nested before []
  simpa [piecesFrom] using passed

theorem piecesFrom_append_cons (nested : Nested (· ≠ separator) text)
    (flat : isFlat separator = true) (before : Char) (after : Text) :
    piecesFrom separator 0 before (text ++ separator :: after) =
      (text, (piecesFrom separator 0 separator after).1 ::
        (piecesFrom separator 0 separator after).2) := by
  rw [piecesFrom_zero_append nested]
  simp [piecesFrom, isOpener_of_isFlat flat, isCloser_of_isFlat flat]

/-- The pieces of joined items are the items, each but the first behind a space. -/
theorem piecesFrom_join (flat : isFlat separator = true) (spaced : separator ≠ ' ')
    {item : Text} {items : List Text}
    (nested : ∀ other ∈ item :: items, Nested (· ≠ separator) other) (before : Char) :
    piecesFrom separator 0 before (Text.join [separator, ' '] (item :: items)) =
      (item, items.map (' ' :: ·)) := by
  induction items generalizing item before with
  | nil => exact piecesFrom_of_nested (nested item List.mem_cons_self) before
  | cons next others induction =>
      have first := nested item List.mem_cons_self
      have later : ∀ other ∈ next :: others, Nested (· ≠ separator) other :=
        fun other member => nested other (List.mem_cons_of_mem _ member)
      have space : piecesFrom separator 0 separator
          (' ' :: Text.join [separator, ' '] (next :: others)) =
            (' ' :: next, others.map (' ' :: ·)) := by
        simp [piecesFrom, Ne.symm spaced, depthAfter, isOpener, isCloser, induction later]
      rw [Text.join_cons_cons, List.append_assoc, List.cons_append, List.cons_append,
        List.nil_append, piecesFrom_append_cons first flat, space, List.map_cons]

end Separator

/-- Splitting at a separator gives the trimmed items that it joins. -/
theorem splitTop_join {separator : Char} (flat : isFlat separator = true)
    (spaced : separator ≠ ' ') {items : List Text}
    (nested : ∀ item ∈ items, Nested (· ≠ separator) item)
    (starts : ∀ item ∈ items, StartsVisible item) :
    splitTop separator (Text.join [separator, ' '] items) = items.map trim := by
  cases items with
  | nil => rfl
  | cons item others =>
      have visible : (Text.join [separator, ' '] (item :: others)).all isBlank = false := by
        rcases starts item List.mem_cons_self with ⟨first, rest, rfl, visible⟩
        cases others <;> simp [Text.join, visible]
      have space : isBlank ' ' = true := by decide
      simp [splitTop, visible, piecesFrom_join flat spaced nested, trim_blank_cons space]

end MethodRoles.Scan
