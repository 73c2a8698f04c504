import MethodRoles.Overload.Head
import MethodRoles.Text.Affix

/-!
# The overloads of a documentation text

A documentation text starts with a block of overloads.  Each overload has a
scripted rendering, which starts with a head, a native rendering, which starts
with the native label, or the first followed by the second.  Any other line that
directly follows a rendering continues it.

A blank line ends the block unless the next line with content is a head, so the
prose after the block is never read.  A text that starts with neither a head nor
the native label documents no overload.
-/

namespace MethodRoles

/-- One documented overload, by its renderings, each joined to one line. -/
structure Overload where
  /-- The rendering in the scripting language. -/
  scripted? : Option Text
  /-- The rendering in the native language. -/
  native? : Option Text
deriving DecidableEq

namespace Overload

/-- The label before a native rendering. -/
def nativeLabel : Text :=
  "C++:".toList

/-- The native rendering on a line. -/
def nativeText? (line : Text) : Option Text :=
  (Text.dropLeading? nativeLabel line).map Text.trim

/-- Whether the first line with content is a head. -/
def headFollows : List Text → Bool
  | [] => false
  | line :: others => if line.isEmpty then headFollows others else (Head.ofText? line).isSome

/-- Continue the last rendering of an overload with a line. -/
def extend (line : Text) : Overload → Overload
  | ⟨scripted?, some native⟩ => ⟨scripted?, some (native ++ ' ' :: line)⟩
  | ⟨some scripted, none⟩ => ⟨some (scripted ++ ' ' :: line), none⟩
  | ⟨none, none⟩ => ⟨none, none⟩

/-- Whether a native rendering on the next line belongs to an overload. -/
def awaitsNative (overload : Overload) : Bool :=
  overload.scripted?.isSome && overload.native?.isNone

/--
The overloads that some trimmed lines document, the one under way first.  Without
one under way, blank lines are skipped.
-/
def gather (underway? : Option Overload) : List Text → List Overload
  | [] => underway?.toList
  | line :: others =>
      if line.isEmpty then
        match underway? with
        | none => gather none others
        | some overload =>
            if headFollows others then overload :: gather none others else [overload]
      else
        match nativeText? line, Head.ofText? line, underway? with
        | some native, _, some overload =>
            if overload.awaitsNative then
              gather (some ⟨overload.scripted?, some native⟩) others
            else
              overload :: gather (some ⟨none, some native⟩) others
        | some native, _, none => gather (some ⟨none, some native⟩) others
        | none, some head, _ =>
            underway?.toList ++ gather (some ⟨some head.line, none⟩) others
        | none, none, some overload => gather (some (overload.extend line)) others
        | none, none, none => []

/-- The overloads at the start of a documentation text, in order. -/
def ofDocumentation (documentation : Text) : List Overload :=
  gather none ((Text.lines documentation).map Text.trim)

end Overload

end MethodRoles
