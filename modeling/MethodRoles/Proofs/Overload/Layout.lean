import MethodRoles.Proofs.Overload.Head
import Mathlib.Data.List.Chain

/-!
# Laid out documentation texts are read back

The overloads of a method are laid out one below the other.  A scripted rendering
starts with a head, perhaps behind a marker, and a native rendering starts with
the native label.  Either may go on over further lines.  Blank lines may stand
where a scripted rendering starts, and prose may follow behind a blank line.

Reading a text that is laid out in this way gives back its overloads, each
rendering joined to one line (`Layout.ofDocumentation_document`).  The reader sees
one line after the other, so the proof follows the overload that is under way: the
first line of an entry ends it, and the other lines of the entry extend the next.
-/

namespace MethodRoles.Overload

open Text

/-! ## Layouts -/

/-- A line that continues the rendering in front of it. -/
structure Continues (line : Text) : Prop where
  content : ¬ IsBlankLine line
  noHead : Head.ofText? line = none
  noLabel : startsWith nativeLabel (trim line) = false

/-- A rendering over one line or several, the first with a label behind some blanks. -/
structure Rendering where
  ahead : Text
  label : Text
  first : Text
  others : List Text

namespace Rendering

/-- The lines of a rendering. -/
def lines (rendering : Rendering) : List Text :=
  (rendering.ahead ++ (rendering.label ++ rendering.first)) :: rendering.others

/-- The pieces of a rendering, trimmed and joined, without the label. -/
def text (rendering : Rendering) : Text :=
  join [' '] ((rendering.first :: rendering.others).map trim)

/-- The label is a marker, if there is one, and an unmarked head follows. -/
structure IsScripted (rendering : Rendering) : Prop where
  ahead : IsBlankLine rendering.ahead
  label : rendering.label = [] ∨ Head.IsMarker rendering.label
  head : ∃ head, Head.ofText? rendering.first = some head ∧ head.line = trim rendering.first
  others : ∀ line ∈ rendering.others, Continues line

/-- The label is the native one. -/
structure IsNative (rendering : Rendering) : Prop where
  ahead : IsBlankLine rendering.ahead
  label : rendering.label = nativeLabel
  others : ∀ line ∈ rendering.others, Continues line

end Rendering

/-- An overload as it is laid out, with the blank lines in front of a scripted rendering. -/
inductive Entry where
  | headed (gap : List Text) (scripted : Rendering) (native? : Option Rendering)
  | nativeOnly (native : Rendering)

namespace Entry

/-- The lines of an entry. -/
def lines : Entry → List Text
  | .headed gap scripted native? =>
      gap ++ (scripted.lines ++ (native?.map Rendering.lines).getD [])
  | .nativeOnly native => native.lines

/-- The overload of an entry. -/
def overload : Entry → Overload
  | .headed _ scripted native? => ⟨some scripted.text, native?.map Rendering.text⟩
  | .nativeOnly native => ⟨none, some native.text⟩

theorem lines_ne_nil (entry : Entry) : entry.lines ≠ [] := by
  cases entry <;> simp [lines, Rendering.lines]

inductive WellFormed : Entry → Prop where
  | headed {gap : List Text} {scripted : Rendering} {native? : Option Rendering}
      (blank : ∀ line ∈ gap, IsBlankLine line) (isScripted : scripted.IsScripted)
      (isNative : ∀ native ∈ native?, native.IsNative) :
      WellFormed (.headed gap scripted native?)
  | nativeOnly {native : Rendering} (isNative : native.IsNative) :
      WellFormed (.nativeOnly native)

end Entry

/-- Behind an overload without a native rendering no native rendering stands alone. -/
def MayPrecede (earlier later : Overload) : Prop :=
  later.scripted? = none → earlier.native? ≠ none

/-- What may stand behind the last overload: nothing, or blank lines and then no head. -/
inductive EndsBlock : List Text → Prop where
  | nothing : EndsBlock []
  | prose {line : Text} {others : List Text} (blank : IsBlankLine line)
      (noHead : ∀ next ∈ others.find? fun other => !(trim other).isEmpty,
        Head.ofText? next = none) :
      EndsBlock (line :: others)

/-- A documentation text by its lines. -/
structure Layout where
  before : List Text
  entries : List Entry
  after : List Text

namespace Layout

/-- The lines of a layout. -/
def lines (layout : Layout) : List Text :=
  layout.before ++ (layout.entries.flatMap Entry.lines ++ layout.after)

/-- The documentation text with the lines of a layout. -/
def document (layout : Layout) : Text :=
  join ['\n'] layout.lines

/-- The overloads of a layout. -/
def overloads (layout : Layout) : List Overload :=
  layout.entries.map Entry.overload

theorem lines_ne_nil {layout : Layout} (nonempty : layout.entries ≠ []) : layout.lines ≠ [] := by
  rcases List.exists_cons_of_ne_nil nonempty with ⟨entry, others, whole⟩
  have content := entry.lines_ne_nil
  simp [lines, whole, content]

structure WellFormed (layout : Layout) : Prop where
  before : ∀ line ∈ layout.before, IsBlankLine line
  nonempty : layout.entries ≠ []
  entries : ∀ entry ∈ layout.entries, entry.WellFormed
  order : layout.overloads.IsChain MayPrecede
  after : EndsBlock layout.after
  oneLine : ∀ line ∈ layout.lines, '\n' ∉ line

end Layout

/-! ## Single lines -/

theorem nativeText?_eq_none_of_head {line : Text} {head : Head}
    (found : Head.ofText? line = some head) : nativeText? (trim line) = none := by
  rw [nativeText?, Option.map_eq_none_iff, dropLeading?_eq_none_iff]
  intro rest labelled
  rw [Head.ofText?_eq_none_of_nativeLabel labelled] at found
  contradiction

/-- The native text behind a label, whatever blanks stand around it. -/
theorem trim_nativeLabel {ahead : Text} (blank : IsBlankLine ahead) (first : Text) :
    trim (ahead ++ (nativeLabel ++ first)) = nativeLabel ++ trimEnd first := by
  have starts : StartsVisible ['C', '+', '+'] := ⟨'C', ['+', '+'], rfl, by decide⟩
  rw [blank.trim_append_left]
  exact trim_append_cons starts (by decide) first

theorem nativeText?_nativeLabel (first : Text) :
    nativeText? (nativeLabel ++ trimEnd first) = some (trim first) := by
  have behind : dropLeading? nativeLabel (nativeLabel ++ trimEnd first) =
      some (trimEnd first) := dropLeading?_append nativeLabel (trimEnd first)
  rw [nativeText?, behind, Option.map_some, trim_trimEnd]

namespace Continues

variable {line : Text}

theorem trim_isEmpty (continues : Continues line) : (trim line).isEmpty = false := by
  rw [List.isEmpty_eq_false_iff]
  intro empty
  exact continues.content (isBlankLine_of_trim_eq_nil empty)

theorem nativeText?_eq_none (continues : Continues line) :
    nativeText? (trim line) = none := by
  have unlabelled := continues.noLabel
  rw [startsWith, Option.isSome_eq_false_iff, Option.isNone_iff_eq_none] at unlabelled
  rw [nativeText?, unlabelled, Option.map_none]

end Continues

/-! ## Lines of an overload under way -/

theorem join_cons_append (separator first next : Text) (others : List Text) :
    join separator ((first ++ separator ++ next) :: others) =
      join separator (first :: next :: others) := by
  cases others with
  | nil => rfl
  | cons other others =>
      rw [join_cons_cons, join_cons_cons, join_cons_cons]
      simp only [List.append_assoc]

theorem foldl_extend_scripted (text : Text) (lines : List Text) :
    lines.foldl (fun overload line => extend line overload) ⟨some text, none⟩ =
      ⟨some (join [' '] (text :: lines)), none⟩ := by
  induction lines generalizing text with
  | nil => rfl
  | cons line others induction =>
      rw [List.foldl_cons, extend, induction, ← join_cons_append]
      simp

theorem foldl_extend_native (scripted? : Option Text) (text : Text) (lines : List Text) :
    lines.foldl (fun overload line => extend line overload) ⟨scripted?, some text⟩ =
      ⟨scripted?, some (join [' '] (text :: lines))⟩ := by
  induction lines generalizing text with
  | nil => rfl
  | cons line others induction =>
      rw [List.foldl_cons, extend, induction, ← join_cons_append]
      simp

/-- Lines that continue a rendering extend the overload that is under way. -/
theorem gather_continuations {lines : List Text} (continues : ∀ line ∈ lines, Continues line)
    (underway : Overload) (rest : List Text) :
    gather (some underway) (lines.map trim ++ rest) =
      gather (some ((lines.map trim).foldl (fun overload line => extend line overload)
        underway)) rest := by
  induction lines generalizing underway with
  | nil => rfl
  | cons line others induction =>
      rcases List.forall_mem_cons.mp continues with ⟨first, later⟩
      rw [List.map_cons, List.cons_append, gather]
      simp only [first.trim_isEmpty, first.nativeText?_eq_none, Head.ofText?_trim, first.noHead]
      exact induction later _

/-- A line with a head ends the overload under way and starts another one. -/
theorem gather_head {line : Text} {head : Head} (found : Head.ofText? line = some head)
    (underway? : Option Overload) (rest : List Text) :
    gather underway? (trim line :: rest) =
      underway?.toList ++ gather (some ⟨some head.line, none⟩) rest := by
  have content : (trim line).isEmpty = false :=
    List.isEmpty_eq_false_iff.mpr (Head.trim_ne_nil_of_ofText? found)
  cases underway? <;> rw [gather] <;>
    simp only [content, nativeText?_eq_none_of_head found, Head.ofText?_trim, found] <;> rfl

/-- Without an overload under way blank lines are skipped. -/
theorem gather_none_blanks {gap : List Text} (blank : ∀ line ∈ gap, IsBlankLine line)
    (rest : List Text) : gather none (gap.map trim ++ rest) = gather none rest := by
  induction gap with
  | nil => rfl
  | cons line others induction =>
      rcases List.forall_mem_cons.mp blank with ⟨first, later⟩
      rw [List.map_cons, first.trim_eq_nil]
      exact induction later

theorem headFollows_blanks {gap : List Text} (blank : ∀ line ∈ gap, IsBlankLine line)
    (rest : List Text) : headFollows (gap.map trim ++ rest) = headFollows rest := by
  induction gap with
  | nil => rfl
  | cons line others induction =>
      rcases List.forall_mem_cons.mp blank with ⟨first, later⟩
      rw [List.map_cons, first.trim_eq_nil]
      exact induction later

/-- Blank lines in front of a line with a head change nothing. -/
theorem gather_blanks_head {gap : List Text} (blank : ∀ line ∈ gap, IsBlankLine line)
    {line : Text} {head : Head} (found : Head.ofText? line = some head)
    (underway? : Option Overload) (rest : List Text) :
    gather underway? (gap.map trim ++ trim line :: rest) =
      underway?.toList ++ gather (some ⟨some head.line, none⟩) rest := by
  cases gap with
  | nil => exact gather_head found underway? rest
  | cons first others =>
      rcases List.forall_mem_cons.mp blank with ⟨empty, later⟩
      rw [List.map_cons, empty.trim_eq_nil, List.cons_append]
      cases underway? with
      | none =>
          change gather none (others.map trim ++ trim line :: rest) = _
          rw [gather_none_blanks later, gather_head found]
      | some underway =>
          have content : (trim line).isEmpty = false :=
            List.isEmpty_eq_false_iff.mpr (Head.trim_ne_nil_of_ofText? found)
          have follows : headFollows (others.map trim ++ trim line :: rest) = true := by
            rw [headFollows_blanks later, headFollows, content, Head.ofText?_trim, found]
            rfl
          rw [gather]
          simp only [List.isEmpty_nil, if_true, follows]
          rw [gather_none_blanks later, gather_head found]
          rfl

/-! ## Renderings and entries -/

theorem gather_scripted {gap : List Text} (blank : ∀ line ∈ gap, IsBlankLine line)
    {scripted : Rendering} (isScripted : scripted.IsScripted) (underway? : Option Overload)
    (rest : List Text) :
    gather underway? (gap.map trim ++ (scripted.lines.map trim ++ rest)) =
      underway?.toList ++ gather (some ⟨some scripted.text, none⟩) rest := by
  rcases isScripted.head with ⟨head, found, unmarked⟩
  have foundBehind : Head.ofText? (scripted.ahead ++ (scripted.label ++ scripted.first)) =
      some head := Head.ofText?_append isScripted.ahead isScripted.label found unmarked
  rw [Rendering.lines, List.map_cons, List.cons_append, gather_blanks_head blank foundBehind,
    gather_continuations isScripted.others, foldl_extend_scripted, unmarked]
  rfl

section Native

variable {rendering : Rendering} (isNative : rendering.IsNative)

include isNative

theorem Rendering.IsNative.trim_first :
    trim (rendering.ahead ++ (rendering.label ++ rendering.first)) =
      nativeLabel ++ trimEnd rendering.first := by
  rw [isNative.label, trim_nativeLabel isNative.ahead]

/-- A native rendering behind a scripted one belongs to the same overload. -/
theorem gather_native_awaited (scripted : Text) (rest : List Text) :
    gather (some ⟨some scripted, none⟩) (rendering.lines.map trim ++ rest) =
      gather (some ⟨some scripted, some rendering.text⟩) rest := by
  have content : (nativeLabel ++ trimEnd rendering.first).isEmpty = false := rfl
  rw [Rendering.lines, List.map_cons, isNative.trim_first, List.cons_append, gather]
  simp only [content, nativeText?_nativeLabel]
  change gather (some ⟨some scripted, some (trim rendering.first)⟩) _ = _
  rw [gather_continuations isNative.others, foldl_extend_native]
  rfl

/-- A native rendering that no scripted one awaits is an overload of its own. -/
theorem gather_native_alone {underway? : Option Overload}
    (complete : ∀ underway ∈ underway?, underway.native? ≠ none) (rest : List Text) :
    gather underway? (rendering.lines.map trim ++ rest) =
      underway?.toList ++ gather (some ⟨none, some rendering.text⟩) rest := by
  have content : (nativeLabel ++ trimEnd rendering.first).isEmpty = false := rfl
  have alone : gather (some ⟨none, some (trim rendering.first)⟩)
      (rendering.others.map trim ++ rest) =
        gather (some ⟨none, some rendering.text⟩) rest := by
    rw [gather_continuations isNative.others, foldl_extend_native]
    rfl
  rw [Rendering.lines, List.map_cons, isNative.trim_first, List.cons_append]
  cases underway? with
  | none =>
      rw [gather]
      simp only [content, nativeText?_nativeLabel]
      exact alone
  | some underway =>
      have taken : underway.awaitsNative = false := by
        have filled := complete underway rfl
        rw [awaitsNative, Option.isNone_eq_false_iff.mpr (Option.isSome_iff_ne_none.mpr filled),
          Bool.and_false]
      rw [gather]
      simp only [content, nativeText?_nativeLabel, taken]
      exact congrArg (underway :: ·) alone

end Native

/-- An entry ends the overload under way and leaves its own under way. -/
theorem gather_entry {entry : Entry} (wellFormed : entry.WellFormed)
    {underway? : Option Overload}
    (order : ∀ underway ∈ underway?, MayPrecede underway entry.overload) (rest : List Text) :
    gather underway? (entry.lines.map trim ++ rest) =
      underway?.toList ++ gather (some entry.overload) rest := by
  cases wellFormed with
  | @headed gap scripted native? blank isScripted isNative =>
      rw [Entry.lines, List.map_append, List.append_assoc, List.map_append, List.append_assoc,
        gather_scripted blank isScripted]
      congr 1
      cases native? with
      | none => rfl
      | some native => exact gather_native_awaited (isNative native rfl) _ rest
  | nativeOnly isNative =>
      exact gather_native_alone isNative (fun underway member => order underway member rfl) rest

theorem headFollows_eq_false {lines : List Text}
    (noHead : ∀ next ∈ lines.find? fun other => !(trim other).isEmpty,
      Head.ofText? next = none) :
    headFollows (lines.map trim) = false := by
  induction lines with
  | nil => rfl
  | cons line others induction =>
      rw [List.map_cons, headFollows]
      rcases content : (trim line).isEmpty with _ | _
      · have here : Head.ofText? line = none :=
          noHead line (List.find?_cons_of_pos (by simp [content]))
        simp [Head.ofText?_trim, here]
      · rw [if_pos rfl]
        apply induction
        intro next found
        apply noHead next
        rw [List.find?_cons_of_neg (by simp [content])]
        exact found

/-- Nothing behind the last overload is read. -/
theorem gather_after {after : List Text} (ends : EndsBlock after) (underway : Overload) :
    gather (some underway) (after.map trim) = [underway] := by
  cases ends with
  | nothing => rfl
  | prose blank noHead =>
      rw [List.map_cons, blank.trim_eq_nil, gather]
      simp [headFollows_eq_false noHead]

/-- The entries of a block are gathered in order, behind the overload under way. -/
theorem gather_entries {entries : List Entry}
    (wellFormed : ∀ entry ∈ entries, entry.WellFormed) {underway : Overload}
    (order : (underway :: entries.map Entry.overload).IsChain MayPrecede)
    {after : List Text} (ends : EndsBlock after) :
    gather (some underway) ((entries.flatMap Entry.lines ++ after).map trim) =
      underway :: entries.map Entry.overload := by
  induction entries generalizing underway with
  | nil => exact gather_after ends underway
  | cons entry others induction =>
      rcases List.forall_mem_cons.mp wellFormed with ⟨first, later⟩
      rw [List.map_cons, List.isChain_cons_cons] at order
      have follows : ∀ earlier ∈ some underway, MayPrecede earlier entry.overload := by
        rintro _ ⟨⟩
        exact order.1
      rw [List.flatMap_cons, List.append_assoc, List.map_append, gather_entry first follows,
        induction later order.2]
      rfl

/-- The overloads of a laid out documentation text are read back in order. -/
theorem Layout.ofDocumentation_document {layout : Layout} (wellFormed : layout.WellFormed) :
    ofDocumentation layout.document = layout.overloads := by
  rcases layout with ⟨before, entries, after⟩
  cases entries with
  | nil => exact absurd rfl wellFormed.nonempty
  | cons entry others =>
      rcases List.forall_mem_cons.mp wellFormed.entries with ⟨first, later⟩
      have follows : ∀ earlier ∈ (none : Option Overload),
          MayPrecede earlier entry.overload := by
        intro earlier member
        contradiction
      rw [ofDocumentation, document,
        lines_join (lines_ne_nil wellFormed.nonempty) wellFormed.oneLine, Layout.lines,
        List.map_append, gather_none_blanks wellFormed.before, List.flatMap_cons,
        List.append_assoc, List.map_append, gather_entry first follows]
      exact gather_entries later wellFormed.order wellFormed.after

/-- Four overloads between blank lines and prose. -/
def Layout.light : Layout where
  before := [[], " ".toList]
  entries :=
    [.nativeOnly ⟨[], nativeLabel, " Lamp ()".toList, []⟩,
      .headed [] ⟨"\t".toList, "(2) ".toList, "V.SetLight(float, ".toList, ["   float)".toList]⟩
        (some ⟨[], nativeLabel, "void SetLight (double,".toList, ["  double)".toList]⟩),
      .nativeOnly ⟨" ".toList, nativeLabel, " void SetLight (int)".toList, []⟩,
      .headed [[]] ⟨[], [], "SetMode(self) -> None".toList, []⟩ none]
  after := [[], "Sets how the lamp shines.".toList, "V.SetLight()".toList]

theorem Layout.wellFormed_light : Layout.light.WellFormed where
  before := by decide
  nonempty := by decide
  entries := by
    have number : Head.IsNumber ['2'] := ⟨List.cons_ne_nil _ _, List.forall_mem_singleton.mpr rfl⟩
    have marker : Head.IsMarker "(2) ".toList := .bracketed number (by decide)
    have float : Continues "   float)".toList := ⟨by decide, by decide +kernel, by decide⟩
    have double : Continues "  double)".toList := ⟨by decide, by decide +kernel, by decide⟩
    simp only [light, List.forall_mem_cons]
    refine ⟨.nativeOnly ⟨by decide, rfl, List.forall_mem_nil _⟩,
      .headed (List.forall_mem_nil _) ?_ ?_,
      .nativeOnly ⟨by decide, rfl, List.forall_mem_nil _⟩, .headed (by decide) ?_ nofun,
      List.forall_mem_nil _⟩
    · have head : Head.ofText? "V.SetLight(float, ".toList =
          some ⟨"V.SetLight(float,".toList, "SetLight".toList, "(float,".toList⟩ := by
        decide +kernel
      exact ⟨by decide, .inr marker, ⟨_, head, rfl⟩, List.forall_mem_singleton.mpr float⟩
    · rintro _ ⟨⟩
      exact ⟨by decide, rfl, List.forall_mem_singleton.mpr double⟩
    · have head : Head.ofText? "SetMode(self) -> None".toList =
          some ⟨"SetMode(self) -> None".toList, "SetMode".toList, "(self) -> None".toList⟩ := by
        decide +kernel
      exact ⟨by decide, .inl rfl, ⟨_, head, rfl⟩, List.forall_mem_nil _⟩
  order := by
    simp [overloads, light, Entry.overload, MayPrecede]
  after := by
    refine .prose (by decide) ?_
    rintro _ ⟨⟩
    decide +kernel
  oneLine := by decide

/-- The overloads of the light are read from its documentation text. -/
theorem Layout.ofDocumentation_document_light :
    Layout.light.WellFormed ∧
      ofDocumentation Layout.light.document =
        [⟨none, some "Lamp ()".toList⟩,
          ⟨some "V.SetLight(float, float)".toList, some "void SetLight (double, double)".toList⟩,
          ⟨none, some "void SetLight (int)".toList⟩,
          ⟨some "SetMode(self) -> None".toList, none⟩] := by
  have overloads := Layout.ofDocumentation_document Layout.wellFormed_light
  exact ⟨Layout.wellFormed_light, overloads⟩

end MethodRoles.Overload
