import MethodRoles.Overload.Reading
import MethodRoles.Proofs.Spelling.Written

/-!
# Documentation of one line

A line that consists of a head, its bracketed arguments, an arrow and the written
form of a result documents one overload.  Its signature has the types of the
items between the brackets, whatever the items are, and the result behind the
arrow (`ofDocumentation_line`).
-/

namespace MethodRoles

open Text Scan Spelling

/-- A word that no identifier holds does not start a text that an identifier and a bracket start. -/
theorem dropLeading?_eq_none_of_isIdentifier {name lead : Text}
    (identifier : isIdentifier name = true) (noBracket : '(' ∉ lead) {mark : Char}
    (member : mark ∈ lead) (ends : continuesIdentifier mark = false) (rest : Text) :
    dropLeading? lead (name ++ '(' :: rest) = none := by
  -- The word would end before the bracket, and so within the identifier.
  rw [dropLeading?_eq_none_iff]
  intro after found
  have starts : startsWith lead (name ++ '(' :: rest) = true := by
    rw [found, startsWith_append]
  rcases Option.isSome_iff_exists.mp (startsWith_of_append_cons noBracket starts) with
    ⟨tail, within⟩
  rw [dropLeading?_eq_some_iff] at within
  have inside : mark ∈ name := within ▸ List.mem_append_left tail member
  exact not_mem_of_isIdentifier identifier ends inside

namespace Head

/-- The letters that a head may begin with. -/
def IsReceiver (receiver : Text) : Prop :=
  receiver = [] ∨ receiver = ['V', '.']

variable {receiver name : Text}

theorem dropMarker_eq_self {first : Char} (starts : startsIdentifier first = true)
    (rest : Text) : dropMarker (first :: rest) = first :: rest := by
  have noBracket : first ≠ '(' := by
    rintro rfl
    exact absurd starts (by decide)
  have noMarker : afterMarker? (first :: rest) = none := by
    unfold afterMarker?
    split
    · rename_i bracket
      exact absurd (List.cons.inj bracket).1 noBracket
    · simp [afterDigits?, isDigit_of_startsIdentifier starts]
  rw [dropMarker, noMarker]

theorem starts_of_isReceiver (isReceiver : IsReceiver receiver)
    (identifier : isIdentifier name = true) :
    ∃ first rest, receiver ++ name = first :: rest ∧ startsIdentifier first = true := by
  rcases isReceiver with rfl | rfl
  · exact starts_of_isIdentifier identifier
  · exact ⟨'V', '.' :: name, rfl, by decide⟩

theorem dropReceiver_append (isReceiver : IsReceiver receiver)
    (identifier : isIdentifier name = true) (rest : Text) :
    dropReceiver (receiver ++ name ++ '(' :: rest) = name ++ '(' :: rest := by
  rcases isReceiver with rfl | rfl
  · have point : '.' ∈ ['V', '.'] := by decide
    rw [dropReceiver, List.nil_append,
      dropLeading?_eq_none_of_isIdentifier identifier (by decide) point (by decide),
      Option.getD_none]
  · rfl

/-- The head of a line that begins with a receiver, an identifier and a bracket. -/
theorem ofText?_eq_some (isReceiver : IsReceiver receiver)
    (identifier : isIdentifier name = true) {rest : Text}
    (trimmed : Trimmed (receiver ++ name ++ '(' :: rest)) :
    ofText? (receiver ++ name ++ '(' :: rest) =
      some ⟨receiver ++ name ++ '(' :: rest, name, '(' :: rest⟩ := by
  have unmarked : dropMarker (receiver ++ name ++ '(' :: rest) =
      receiver ++ name ++ '(' :: rest := by
    rcases starts_of_isReceiver isReceiver identifier with ⟨first, later, whole, starts⟩
    rw [whole]
    exact dropMarker_eq_self starts _
  have path : takePath? (name ++ '(' :: rest) = some (name, '(' :: rest) :=
    takePath?_append_cons identifier (by decide) (by decide) rest
  simp only [ofText?, trim_eq_self trimmed, unmarked, dropReceiver_append isReceiver identifier,
    path]

end Head

namespace Overload

variable {receiver name : Text}

/-- A line with a head is no native rendering. -/
theorem nativeText?_eq_none (isReceiver : Head.IsReceiver receiver)
    (identifier : isIdentifier name = true) (rest : Text) :
    nativeText? (receiver ++ name ++ '(' :: rest) = none := by
  have unlabelled : dropLeading? nativeLabel (receiver ++ name ++ '(' :: rest) = none := by
    rcases isReceiver with rfl | rfl
    · have plus : '+' ∈ nativeLabel := by decide
      exact dropLeading?_eq_none_of_isIdentifier identifier (by decide) plus (by decide) rest
    · rfl
  rw [nativeText?, unlabelled, Option.map_none]

/-- A lone line with a head is the scripted rendering of one overload. -/
theorem gather_singleton {line : Text} {head : Head} (content : line.isEmpty = false)
    (noNative : nativeText? line = none) (found : Head.ofText? line = some head) :
    gather none [line] = [⟨some head.line, none⟩] := by
  simp [gather, content, noNative, found]

/-- The result behind an arrow is the type that is written there. -/
theorem arrowResult_render {result : SlotType} (written : result.Written ReadableName) :
    arrowResult (" -> ".toList ++ result.render) = result := by
  have item := SlotType.item_render written
  have space : isBlank ' ' = true := by decide
  have kept : dropEndWhile (· == ';') result.render = result.render := by
    rcases item.ends with ⟨ahead, last, whole, -, noSemicolon⟩
    rw [whole]
    apply dropEndWhile_append_singleton
    exact beq_eq_false_iff_ne.mpr noSemicolon
  have content : result.render.isEmpty = false :=
    List.isEmpty_eq_false_iff.mpr item.trimmed.ne_nil
  change resultType (' ' :: result.render) = result
  rw [resultType, trim_blank_cons space, trim_eq_self item.trimmed, kept,
    trim_eq_self item.trimmed, content]
  exact typeOf_render written

/-- A line with a head, some text in brackets and a result behind an arrow. -/
def documentLine (receiver name inside : Text) (result : SlotType) : Text :=
  receiver ++ name ++ '(' :: (inside ++ ')' :: (" -> ".toList ++ result.render))

section Line

variable {inside : Text} {result : SlotType} (isReceiver : Head.IsReceiver receiver)
  (identifier : isIdentifier name = true) (written : result.Written ReadableName)

include isReceiver identifier written

theorem trimmed_documentLine (inside : Text) :
    Trimmed (documentLine receiver name inside result) := by
  have ends := (SlotType.item_render written).trimmed
  have starts : StartsVisible (receiver ++ name) := by
    rcases Head.starts_of_isReceiver isReceiver identifier with ⟨first, rest, whole, starts⟩
    exact ⟨first, rest, whole,
      isBlank_of_continuesIdentifier (continuesIdentifier_of_starts starts)⟩
  constructor
  · exact starts.append _
  · rcases ends.ends with ⟨ahead, last, whole, visible⟩
    refine ⟨receiver ++ name ++ '(' :: (inside ++ ')' :: (" -> ".toList ++ ahead)), last, ?_,
      visible⟩
    rw [documentLine, whole]
    simp only [List.append_assoc, List.cons_append]

theorem newline_not_mem_documentLine (oneLine : '\n' ∉ inside) :
    '\n' ∉ documentLine receiver name inside result := by
  have noneInName : '\n' ∉ name := not_mem_of_isIdentifier identifier (by decide)
  have noneInReceiver : '\n' ∉ receiver := by
    rcases isReceiver with rfl | rfl <;> decide
  have noneInResult : '\n' ∉ result.render :=
    (SlotType.item_render written).spaced.not_mem (by decide) (by decide)
  simp [documentLine, noneInReceiver, noneInName, oneLine, noneInResult]

/-- A line documents the types of the items in its brackets and its result. -/
theorem ofDocumentation_documentLine (nested : Nested (fun _ => True) inside)
    (oneLine : '\n' ∉ inside) :
    Signature.ofDocumentation (documentLine receiver name inside result) =
      [.ofArguments result
        (collapseAbsent ((argumentItems inside).map (argumentType .unknown)))] := by
  have trimmed := trimmed_documentLine isReceiver identifier written inside
  have head : Head.ofText? (documentLine receiver name inside result) =
      some ⟨documentLine receiver name inside result, name,
        '(' :: (inside ++ ')' :: (" -> ".toList ++ result.render))⟩ :=
    Head.ofText?_eq_some isReceiver identifier trimmed
  have overloads : ofDocumentation (documentLine receiver name inside result) =
      [⟨some (documentLine receiver name inside result), none⟩] := by
    rw [ofDocumentation,
      lines_eq_singleton (newline_not_mem_documentLine isReceiver identifier written oneLine),
      List.map_singleton, trim_eq_self trimmed]
    exact gather_singleton (List.isEmpty_eq_false_iff.mpr trimmed.ne_nil)
      (nativeText?_eq_none isReceiver identifier _) head
  have opens : isOpener '(' = true := rfl
  have group : takeGroup? ('(' :: (inside ++ ')' :: (" -> ".toList ++ result.render))) =
      some (inside, " -> ".toList ++ result.render) :=
    takeGroup?_of_nested opens (.inl rfl) nested _
  have signature : scriptedSignature? (documentLine receiver name inside result) none =
      some (.ofArguments result
        (collapseAbsent ((argumentItems inside).map (argumentType .unknown)))) := by
    simp only [scriptedSignature?, head, group, arrowResult_render written]
    rfl
  rw [Signature.ofDocumentation, overloads, List.filterMap_cons, signature?, signature]
  rfl

end Line

end Overload

end MethodRoles
