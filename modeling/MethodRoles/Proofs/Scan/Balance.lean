import MethodRoles.Scan.Group
import MethodRoles.Proofs.Text.Bytes
import MethodRoles.Proofs.Scan.Splitting

/-!
# Balance of brackets

The balance of a text is the number of its openers less the number of its closers.  A group
goes on as long as no beginning of the text behind its opener has a negative balance, and
it ends with the first character that makes it negative (`scanned_groupFrom`).  So the group
that a reader takes is the text before the end of the shortest beginning whose balance is
minus one, or all of the text if there is none, and reading it character by character comes
to the same (`Reader.takesBalanced`).

The scans for separators never let their depth fall below zero.  Inside a group that was
taken this makes no difference: no beginning of it has a negative balance, so the depth
that the scans keep is the balance.
-/

namespace MethodRoles.Scan

open Text

variable {before other character : Char} {text rest ahead after inside : Text}
  {inner depth : Nat} {bound : Int}

/-! ## Openers less closers -/

/-- The number of openers in a text. -/
def openers (text : Text) : Nat :=
  text.countP isOpener

/-- The number of closers in a text, ahead of which `before` was read. -/
def closers (before : Char) (text : Text) : Nat :=
  ((before :: text).zip text).countP fun pair => isCloser pair.1 pair.2

/-- The number of openers less the number of closers. -/
def balance (before : Char) (text : Text) : Int :=
  openers text - closers before text

/-- What a character adds to the balance. -/
def balanceOf (before character : Char) : Int :=
  if isOpener character then 1 else if isCloser before character then -1 else 0

theorem isCloser_of_isOpener (opens : isOpener character = true) (before : Char) :
    isCloser before character = false := by
  simp only [isOpener, Bool.or_eq_true, beq_iff_eq] at opens
  rcases opens with (rfl | rfl) | rfl <;> rfl

@[simp]
theorem balance_nil (before : Char) : balance before [] = 0 := rfl

theorem balance_cons (before character : Char) (rest : Text) :
    balance before (character :: rest) = balanceOf before character + balance character rest := by
  have opened : openers (character :: rest) =
      openers rest + if isOpener character then 1 else 0 := List.countP_cons
  have closed : closers before (character :: rest) =
      closers character rest + if isCloser before character then 1 else 0 := List.countP_cons
  rw [balance, balance, balanceOf, opened, closed]
  by_cases opens : isOpener character = true
  · rw [if_pos opens, if_pos opens, isCloser_of_isOpener opens]
    simp only [Bool.false_eq_true, if_false]
    omega
  · rw [if_neg opens, if_neg opens]
    split <;> omega

/-- Only a minus sign before a text has a say in its balance. -/
theorem balance_congr (notArrow : before ≠ '-') (notArrowToo : other ≠ '-') (text : Text) :
    balance before text = balance other text := by
  cases text with
  | nil => rfl
  | cons character rest =>
      rw [balance_cons, balance_cons, balanceOf, balanceOf, isCloser_congr notArrow notArrowToo]

/-- No beginning of a text has a balance below a bound. -/
def StaysAbove (bound : Int) (before : Char) (text : Text) : Prop :=
  ∀ ahead, ahead <+: text → bound ≤ balance before ahead

theorem staysAbove_nil (low : bound ≤ 0) : StaysAbove bound before [] := by
  intro ahead part
  rw [List.prefix_nil.mp part]
  exact low

theorem staysAbove_cons_iff :
    StaysAbove bound before (character :: rest) ↔
      bound ≤ 0 ∧ StaysAbove (bound - balanceOf before character) character rest := by
  simp only [StaysAbove, List.prefix_cons_iff]
  constructor
  · intro above
    refine ⟨above [] (.inl rfl), fun ahead part => ?_⟩
    have added := above (character :: ahead) (.inr ⟨ahead, rfl, part⟩)
    rw [balance_cons] at added
    omega
  · rintro ⟨low, above⟩ ahead (rfl | ⟨ahead, rfl, part⟩)
    · exact low
    · have added := above ahead part
      rw [balance_cons]
      omega

/-! ## The end of a group -/

/-- The inside of a group and the text after it, by the balance of the text behind its
opener, where `inner` groups are open inside it. -/
inductive Scanned (inner : Nat) (before : Char) : (text : Text) → Text × Text → Prop where
  | closed (inside after : Text) (closer : Char)
      (closes : balance before (inside ++ [closer]) = -(inner + 1 : Int))
      (above : StaysAbove (-inner) before inside) :
      Scanned inner before (inside ++ closer :: after) (inside, after)
  | unclosed {text : Text} (above : StaysAbove (-inner) before text) :
      Scanned inner before text (text, [])

/-- One more character in front is one more inside the group. -/
theorem Scanned.cons {deeper : Nat} {parts : Text × Text}
    (scanned : Scanned deeper character rest parts)
    (moved : (deeper : Int) = inner + balanceOf before character) :
    Scanned inner before (character :: rest) (character :: parts.1, parts.2) := by
  have raised : ∀ {text : Text}, StaysAbove (-deeper) character text →
      StaysAbove (-inner) before (character :: text) := by
    intro text above
    rw [staysAbove_cons_iff]
    refine ⟨by omega, fun ahead part => ?_⟩
    have added := above ahead part
    omega
  cases scanned with
  | closed inside after closer closes above =>
      refine .closed (character :: inside) after closer ?_ (raised above)
      rw [List.cons_append, balance_cons, closes]
      omega
  | unclosed above => exact .unclosed (raised above)

/-- A group ends where its balance falls below that of its opener. -/
theorem scanned_groupFrom (inner : Nat) (before : Char) (text : Text) :
    Scanned inner before text (groupFrom inner before text) := by
  fun_induction groupFrom inner before text with
  | case1 inner before => exact .unclosed (staysAbove_nil (by omega))
  | case2 inner before character rest opens inside after parts induction =>
      rw [parts] at induction
      refine induction.cons ?_
      rw [balanceOf, if_pos opens]
      omega
  | case3 before character rest flat closes =>
      refine .closed [] rest character ?_ (staysAbove_nil (by omega))
      simp [balance_cons, balanceOf, flat, closes]
  | case4 before character rest flat closes inner inside after parts induction =>
      rw [parts] at induction
      refine induction.cons ?_
      rw [balanceOf, if_neg flat, if_pos closes]
      omega
  | case5 inner before character rest flat passes inside after parts induction =>
      rw [parts] at induction
      refine induction.cons ?_
      rw [balanceOf, if_neg flat, if_neg passes]
      omega

/-- The shortest beginning of a text with a balance of minus one.  The group whose opener
stands before the text is over at its end. -/
structure EndsGroup (opener : Char) (text through : Text) : Prop where
  part : through <+: text
  balance_eq : balance opener through = -1
  shortest : ∀ ahead, ahead <+: text → balance opener ahead = -1 →
    through.length ≤ ahead.length

theorem endsGroup_of_staysAbove {opener closer : Char}
    (closes : balance opener (inside ++ [closer]) = -1) (above : StaysAbove 0 opener inside)
    (after : Text) : EndsGroup opener (inside ++ closer :: after) (inside ++ [closer]) where
  part := ⟨after, by rw [List.append_assoc, List.singleton_append]⟩
  balance_eq := closes
  shortest := by
    intro ahead part low
    by_contra shorter
    rw [List.length_append, List.length_singleton] at shorter
    have partToo : ahead <+: inside :=
      List.prefix_of_prefix_length_le part (List.prefix_append inside _) (by omega)
    have high := above ahead partToo
    omega

/-! ## The depth of the scans -/

/-- The depth behind a text, by the steps that both scans for separators make. -/
def depthThrough (depth : Nat) (before : Char) : Text → Nat
  | [] => depth
  | character :: rest => depthThrough (depthAfter depth before character) character rest

/-- The depth of a text that never falls below its start is its balance. -/
theorem depthThrough_eq_balance (above : StaysAbove (-depth) before text) :
    (depthThrough depth before text : Int) = depth + balance before text := by
  induction text generalizing depth before with
  | nil => simp [depthThrough]
  | cons character rest induction =>
      rw [staysAbove_cons_iff] at above
      have low : -(depth : Int) - balanceOf before character ≤ 0 :=
        above.2 [] List.nil_prefix
      have moved : (depthAfter depth before character : Int) =
          depth + balanceOf before character := by
        rw [balanceOf] at low ⊢
        rw [depthAfter]
        split_ifs at low ⊢ <;> omega
      rw [depthThrough, induction, balance_cons, moved]
      · omega
      · intro ahead part
        have added := above.2 ahead part
        omega

/-- Pieces followed by those of the text behind them, into which the last piece runs on. -/
def runOn : (piece : Text) → (pieces : List Text) → (behind : Text × List Text) →
    Text × List Text
  | piece, [], behind => (piece ++ behind.1, behind.2)
  | piece, next :: pieces, behind =>
      (piece, (runOn next pieces behind).1 :: (runOn next pieces behind).2)

theorem runOn_cons (character : Char) (piece : Text) (pieces : List Text)
    (behind : Text × List Text) :
    runOn (character :: piece) pieces behind =
      (character :: (runOn piece pieces behind).1, (runOn piece pieces behind).2) := by
  cases pieces <;> rfl

/-- Behind the start of a text splitting goes on at the depth that the start has led to. -/
theorem piecesFrom_append_eq_runOn (separator : Char) (depth : Nat) (before : Char)
    (ahead after : Text) :
    piecesFrom separator depth before (ahead ++ after) =
      runOn (piecesFrom separator depth before ahead).1 (piecesFrom separator depth before ahead).2
        (piecesFrom separator (depthThrough depth before ahead) (lastRead before ahead) after) := by
  induction ahead generalizing depth before with
  | nil => rfl
  | cons character rest induction =>
      rw [List.cons_append, piecesFrom, piecesFrom, depthThrough, lastRead_cons]
      split
      case isTrue here =>
        simp only [Bool.and_eq_true, Bool.not_eq_true', beq_iff_eq] at here
        rcases here with ⟨⟨⟨-, rfl⟩, flat⟩, noCloser⟩
        rw [induction, depthAfter, flat, noCloser]
        rfl
      case isFalse =>
        rw [induction, runOn_cons]

/-- Behind a text that is not cut, cutting goes on at the depth that the text has led to. -/
theorem cutFrom?_append_of_uncut {separator : Char}
    (uncut : cutFrom? separator depth before ahead = none) (after : Text) :
    cutFrom? separator depth before (ahead ++ after) =
      (cutFrom? separator (depthThrough depth before ahead) (lastRead before ahead) after).map
        fun parts => (ahead ++ parts.1, parts.2) := by
  induction ahead generalizing depth before with
  | nil => simp [depthThrough]
  | cons character rest induction =>
      rw [cutFrom?] at uncut
      split at uncut
      case isTrue => contradiction
      case isFalse passes =>
        split at uncut
        case h_1 => contradiction
        case h_2 uncutRest =>
          rw [List.cons_append, cutFrom?, if_neg passes, induction uncutRest, depthThrough,
            lastRead_cons]
          cases cutFrom? separator
            (depthThrough (depthAfter depth before character) character rest)
            (lastRead character rest) after <;> rfl

/-- The depth that the scans for separators keep is the balance, everywhere in a text. -/
structure DepthIsBalance (text : Text) : Prop where
  /-- No beginning closes more groups than it opens, -/
  nonneg : ∀ ahead, ahead <+: text → 0 ≤ balance '\x00' ahead
  /-- so the depth behind it is its balance; -/
  depth_eq : ∀ ahead, ahead <+: text →
    (depthThrough 0 '\x00' ahead : Int) = balance '\x00' ahead
  /-- behind it splitting goes on at that depth, -/
  split : ∀ separator ahead after, text = ahead ++ after →
    piecesFrom separator 0 '\x00' text =
      runOn (piecesFrom separator 0 '\x00' ahead).1 (piecesFrom separator 0 '\x00' ahead).2
        (piecesFrom separator (balance '\x00' ahead).toNat (lastRead '\x00' ahead) after)
  /-- and so does cutting, if it has not been cut. -/
  cut : ∀ separator ahead after, text = ahead ++ after → cutTop? separator ahead = none →
    cutTop? separator text =
      (cutFrom? separator (balance '\x00' ahead).toNat (lastRead '\x00' ahead) after).map
        fun parts => (ahead ++ parts.1, parts.2)

theorem StaysAbove.depthIsBalance (above : StaysAbove 0 '\x00' text) : DepthIsBalance text := by
  have depth_eq : ∀ ahead, ahead <+: text →
      (depthThrough 0 '\x00' ahead : Int) = balance '\x00' ahead := by
    intro ahead part
    have aboveAhead : StaysAbove (-(0 : Nat)) '\x00' ahead :=
      fun start partToo => above start (partToo.trans part)
    rw [depthThrough_eq_balance aboveAhead]
    omega
  have depth_eq_toNat : ∀ ahead after, text = ahead ++ after →
      (balance '\x00' ahead).toNat = depthThrough 0 '\x00' ahead := by
    rintro ahead after rfl
    have same := depth_eq ahead (List.prefix_append ahead after)
    omega
  constructor
  case nonneg => exact above
  case depth_eq => exact depth_eq
  case split =>
    intro separator ahead after whole
    rw [depth_eq_toNat ahead after whole, whole, piecesFrom_append_eq_runOn]
  case cut =>
    intro separator ahead after whole uncut
    rw [depth_eq_toNat ahead after whole, whole, cutTop?, cutFrom?_append_of_uncut uncut]

/-! ## Readers -/

namespace Reader

variable {reader : Reader} {opener : Char}

/-- The text behind a group is the end of the text behind the opener. -/
theorem exists_eq_append_groupFrom (inner : Nat) (before : Char) (text : Text) :
    ∃ ahead, text = ahead ++ (groupFrom inner before text).2 := by
  have scanned := scanned_groupFrom inner before text
  generalize groupFrom inner before text = parts at scanned
  cases scanned with
  | closed inside after closer => exact ⟨inside ++ [closer], by simp⟩
  | unclosed => exact ⟨text, (List.append_nil text).symm⟩

theorem skipTo_advance (whole : reader.rest = character :: rest) (inner : Nat) (before : Char) :
    reader.advance.2.skipTo (groupFrom inner before rest).2 =
      reader.skipTo (groupFrom inner before rest).2 := by
  rcases exists_eq_append_groupFrom inner before rest with ⟨ahead, split⟩
  have wholeToo : reader.rest = (character :: ahead) ++ (groupFrom inner before rest).2 := by
    rw [whole, List.cons_append, ← split]
  rw [skipTo_eq wholeToo, advance_eq whole, skipTo_eq split, List.append_assoc]
  rfl

/-- One round of reading on: what the next character does to the depth. -/
theorem passGroup_cons (whole : reader.rest = character :: rest) (start : Text) (depth : Nat)
    (before : Char) :
    passGroup start depth before reader =
      if isOpener character then passGroup start (depth + 1) character reader.advance.2
      else if isCloser before character then
        match depth with
        | 0 => none
        | 1 => (upTo? reader.rest start).map fun inside => (inside, reader.advance.2)
        | remaining + 2 => passGroup start (remaining + 1) character reader.advance.2
      else passGroup start depth character reader.advance.2 := by
  have next : reader.peek? = some character := by rw [peek?, whole, List.head?_cons]
  rw [passGroup]
  split
  case h_1 nothing => rw [next] at nothing; contradiction
  case h_2 found foundNext =>
    rw [next] at foundNext
    cases foundNext
    rfl

/-- Reading on with some groups open gives what a scan of the unread part gives. -/
theorem passGroup_eq (taken : Text) (inner : Nat) (before : Char) (reader : Reader) :
    passGroup (taken ++ reader.rest) (inner + 1) before reader =
      some (taken ++ (groupFrom inner before reader.rest).1,
        reader.skipTo (groupFrom inner before reader.rest).2) := by
  generalize unread : reader.rest = text
  induction text generalizing taken inner before reader with
  | nil =>
      have next : reader.peek? = none := by rw [peek?, unread, List.head?_nil]
      have whole : reader.rest = [] ++ [] := unread
      have stays : reader.skipTo [] = reader := by
        rw [skipTo_eq whole, List.append_nil, ← unread]
      rw [passGroup, groupFrom, stays]
      split
      case h_1 => rfl
      case h_2 found => rw [next] at found; contradiction
  | cons character rest induction =>
      have unreadBehind : reader.advance.2.rest = rest := by rw [advance_eq unread]
      -- Whatever the depth, the character joins those taken and the reader moves behind it.
      have goesOn : ∀ deeper,
          passGroup (taken ++ character :: rest) (deeper + 1) character reader.advance.2 =
            some (taken ++ character :: (groupFrom deeper character rest).1,
              reader.skipTo (groupFrom deeper character rest).2) := by
        intro deeper
        rw [List.append_cons taken character rest,
          induction (taken ++ [character]) deeper character reader.advance.2 unreadBehind,
          skipTo_advance unread, List.append_assoc, List.singleton_append]
      rw [passGroup_cons unread, groupFrom.eq_def]
      dsimp only
      by_cases opens : isOpener character = true
      · rw [if_pos opens, if_pos opens, goesOn]
      · rw [if_neg opens, if_neg opens]
        by_cases closes : isCloser before character = true
        · rw [if_pos closes, if_pos closes]
          cases inner with
          | zero =>
              have whole : reader.rest = [character] ++ rest := unread
              have behind : reader.advance.2 = reader.skipTo rest := by
                rw [advance_eq unread, skipTo_eq whole]
              rw [unread, upTo?_append, behind, List.append_nil]
              rfl
          | succ inner => exact goesOn inner
        · rw [if_neg closes, if_neg closes, goesOn]

/-- Reading a group character by character never fails, and it is taking the group. -/
theorem readGroup_eq (reader : Reader) : reader.readGroup = some reader.takeGroup := by
  rw [readGroup, takeGroup]
  cases unread : reader.rest with
  | nil =>
      rw [peek?, unread]
      rfl
  | cons opener behind =>
      have unreadBehind : reader.advance.2.rest = behind := by rw [advance_eq unread]
      have next : reader.peek? = some opener := by rw [peek?, unread, List.head?_cons]
      rw [next, takeGroup?]
      by_cases opens : isOpener opener = true
      · have passed := passGroup_eq [] 0 opener reader.advance.2
        rw [unreadBehind, skipTo_advance unread] at passed
        simp only [List.nil_append, Nat.zero_add] at passed
        rw [if_pos opens]
        dsimp only
        rw [if_pos opens, unreadBehind, passed]
        rfl
      · rw [if_neg opens]
        dsimp only
        rw [if_neg opens]

/-- Behind an opener a group ends with its closer, or else with the text. -/
theorem takeGroup_cases (opens : isOpener opener = true) (unread : reader.rest = opener :: rest) :
    (∃ inside closer after, rest = inside ++ closer :: after ∧
      balance opener (inside ++ [closer]) = -1 ∧ StaysAbove 0 opener inside ∧
      reader.takeGroup =
        (some inside, ⟨reader.consumed ++ opener :: (inside ++ [closer]), after⟩)) ∨
    (StaysAbove 0 opener rest ∧
      reader.takeGroup = (some rest, ⟨reader.consumed ++ opener :: rest, []⟩)) := by
  have taken : reader.takeGroup =
      (some (groupFrom 0 opener rest).1, reader.skipTo (groupFrom 0 opener rest).2) := by
    rw [takeGroup, unread, takeGroup?, if_pos opens]
  have scanned := scanned_groupFrom 0 opener rest
  generalize groupFrom 0 opener rest = parts at scanned taken
  cases scanned with
  | closed inside after closer closes above =>
      have whole : reader.rest = opener :: (inside ++ [closer]) ++ after := by simp [unread]
      rw [skipTo_eq whole] at taken
      exact .inl ⟨inside, closer, after, rfl, closes, above, taken⟩
  | unclosed above =>
      have whole : reader.rest = opener :: rest ++ [] := by simp [unread]
      rw [skipTo_eq whole] at taken
      exact .inr ⟨above, taken⟩

theorem takeGroup_of_not_isOpener
    (flat : ∀ opener behind, reader.rest = opener :: behind → isOpener opener = false) :
    reader.takeGroup = (none, reader) := by
  rw [takeGroup]
  cases unread : reader.rest with
  | nil => rfl
  | cons opener behind =>
      rw [takeGroup?, flat opener behind unread]
      rfl

theorem depthIsBalance_of_takeGroup {behind : Reader}
    (taken : reader.takeGroup = (some inside, behind)) : DepthIsBalance inside := by
  by_cases flat : ∀ opener behind, reader.rest = opener :: behind → isOpener opener = false
  · rw [takeGroup_of_not_isOpener flat] at taken
    cases taken
  · simp only [not_forall, Bool.not_eq_false] at flat
    rcases flat with ⟨opener, rest, unread, opens⟩
    have notArrow : opener ≠ '-' := by
      rintro rfl
      contradiction
    have above : StaysAbove 0 opener inside := by
      rcases takeGroup_cases opens unread with
        ⟨_, _, _, -, -, above, whole⟩ | ⟨above, whole⟩
      all_goals
        rw [taken] at whole
        cases whole
        exact above
    refine StaysAbove.depthIsBalance fun ahead part => ?_
    rw [balance_congr (by decide) notArrow]
    exact above ahead part

/-- What taking a group answers, and where it leaves the reader. -/
structure TakesBalanced (reader : Reader) : Prop where
  /-- If the balance behind an opener comes to minus one, the group is what stands before
  the closer where it first does so, and the reader stands behind that closer. -/
  closed : ∀ opener behind, reader.rest = opener :: behind → isOpener opener = true →
    (∃ ahead, ahead <+: behind ∧ balance opener ahead = -1) →
    ∃ inside closer after, behind = inside ++ closer :: after ∧
      EndsGroup opener behind (inside ++ [closer]) ∧
      reader.takeGroup =
        (some inside, ⟨reader.consumed ++ opener :: (inside ++ [closer]), after⟩)
  /-- If it never does, the group is all of the text and the reader stands at its end. -/
  unclosed : ∀ opener behind, reader.rest = opener :: behind → isOpener opener = true →
    (∀ ahead, ahead <+: behind → balance opener ahead ≠ -1) →
    reader.takeGroup = (some behind, ⟨reader.consumed ++ opener :: behind, []⟩)
  /-- Where no opener comes next there is no group and the reader stays where it is. -/
  refused : (∀ opener behind, reader.rest = opener :: behind → isOpener opener = false) →
    reader.takeGroup = (none, reader)
  /-- Reading character by character never cuts a character in two, and it comes to the
  same answer. -/
  stepwise : reader.readGroup = some reader.takeGroup
  /-- Inside a group that was taken the depth of the scans for separators is the balance. -/
  exact : ∀ inside after, reader.takeGroup = (some inside, after) → DepthIsBalance inside

/-- Taking a group takes exactly the text that is balanced behind the opener. -/
theorem takesBalanced (reader : Reader) : reader.TakesBalanced where
  closed := by
    rintro opener behind unread opens ⟨ahead, part, low⟩
    rcases takeGroup_cases opens unread with
      ⟨inside, closer, after, rfl, closes, above, taken⟩ | ⟨above, -⟩
    · exact ⟨inside, closer, after, rfl, endsGroup_of_staysAbove closes above after, taken⟩
    · have high := above ahead part
      omega
  unclosed := by
    intro opener behind unread opens high
    rcases takeGroup_cases opens unread with
      ⟨inside, closer, after, rfl, closes, -, -⟩ | ⟨-, taken⟩
    · exact absurd closes (high _ ⟨after, List.append_assoc ..⟩)
    · exact taken
  refused := takeGroup_of_not_isOpener
  stepwise := readGroup_eq reader
  exact := fun _ _ => depthIsBalance_of_takeGroup

/-- Neither the arrow nor the group inside ends the group. -/
example :
    (takeGroup ⟨[], "<a->[b], c> d".toList⟩).1 = some "a->[b], c".toList ∧
      (takeGroup ⟨[], "<a->[b], c> d".toList⟩).2.rest = " d".toList := by
  decide

end Reader

end MethodRoles.Scan
