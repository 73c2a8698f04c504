import MethodRoles.Spelling.Form.Basic
import MethodRoles.Proofs.Spelling.ObjectName

/-!
# Forms of bracketed spellings and of names

A spelling in normal spacing that is one group has the form of its inside, and an
object name outside the vocabulary has the object itself as its form.  No earlier
test of `Form.ofSqueezed` applies to either: a bracket begins no fixed spelling
and ends no reference, and a name holds none of the characters that the tests
look for.
-/

namespace MethodRoles.Spelling

open Text Scan

theorem dropLeading?_eq_none_of_head? {lead text : Text} {character : Char}
    (differs : lead.head? ≠ some character) (nonempty : lead ≠ []) :
    dropLeading? lead (character :: text) = none := by
  rcases List.exists_cons_of_ne_nil nonempty with ⟨first, rest, rfl⟩
  rw [dropLeading?, if_neg (by simpa using differs)]

theorem dropLeading?_eq_none_of_mem {lead text : Text} {character : Char}
    (member : character ∈ lead) (missing : character ∉ text) : dropLeading? lead text = none := by
  rw [dropLeading?_eq_none_iff]
  intro rest found
  rw [found] at missing
  exact missing (List.mem_append_left _ member)

theorem dropTrailing?_eq_none_of_mem {tail text : Text} {character : Char}
    (member : character ∈ tail) (missing : character ∉ text) : dropTrailing? tail text = none := by
  rw [Option.eq_none_iff_forall_ne_some]
  intro rest found
  rw [dropTrailing?_eq_some_iff.mp found] at missing
  exact missing (List.mem_append_right _ member)

theorem dropTrailing?_eq_none_of_getLast? {tail text : Text} {character : Char}
    (differs : tail.getLast? ≠ some character) (nonempty : tail ≠ []) :
    dropTrailing? tail (text ++ [character]) = none := by
  rw [Option.eq_none_iff_forall_ne_some]
  intro rest found
  have whole := congrArg List.getLast? (dropTrailing?_eq_some_iff.mp found)
  rw [List.getLast?_concat, List.getLast?_append] at whole
  rcases last : tail.getLast? with _ | final
  · exact nonempty (List.getLast?_eq_none_iff.mp last)
  · rw [last, Option.some_or] at whole
    exact differs (last.trans whole.symm)

theorem cutTop?_eq_none_of_not_mem {separator : Char} {text : Text}
    (missing : separator ∉ text) : cutTop? separator text = none := by
  rw [Option.eq_none_iff_forall_ne_some]
  rintro ⟨ahead, after⟩ found
  rw [eq_of_cutTop? found] at missing
  simp at missing

/-- The brackets that a group can begin with. -/
def BeginsGroup (character : Char) : Prop :=
  character = '(' ∨ character = '['

/-- A text is no fixed spelling if it has a property that no fixed spelling has. -/
theorem lookup?_eq_none_of_outside (property : Text → Prop)
    (outside : ∀ entry ∈ vocabulary, ¬ property entry.1) {text : Text} (holds : property text) :
    lookup? text = none := by
  rw [lookup?, List.lookup_eq_none_iff]
  intro entry listed
  rw [bne_iff_ne]
  rintro rfl
  exact outside entry listed holds

theorem lookup?_eq_none_of_beginsGroup {opener : Char} (begins : BeginsGroup opener)
    (rest : Text) : lookup? (opener :: rest) = none := by
  have outside : ∀ entry ∈ vocabulary,
      ¬ (entry.1.head? = some '(' ∨ entry.1.head? = some '[') := by
    decide
  exact lookup?_eq_none_of_outside
    (fun text => text.head? = some '(' ∨ text.head? = some '[') outside
    (begins.imp (congrArg some) (congrArg some))

theorem lookup?_eq_none_of_mem {text : Text} (member : '[' ∈ text) : lookup? text = none := by
  have outside : ∀ entry ∈ vocabulary, ¬ '[' ∈ entry.1 := by decide
  exact lookup?_eq_none_of_outside (fun text => '[' ∈ text) outside member

theorem startsGroup_cons_of_isNameCharacter {first : Char}
    (named : isNameCharacter first = true) (rest : Text) :
    Form.startsGroup (first :: rest) = false := by
  have noRound : first ≠ '(' := ne_of_isNameCharacter named (by decide)
  have noSquare : first ≠ '[' := ne_of_isNameCharacter named (by decide)
  simp [Form.startsGroup, noRound, noSquare]

theorem afterQualifier?_eq_none_of_beginsGroup {opener : Char} (begins : BeginsGroup opener)
    (rest : Text) : Form.afterQualifier? (opener :: rest) = none := by
  have outside : ∀ qualifier ∈ qualifiers,
      (qualifier.head? ≠ some '(' ∧ qualifier.head? ≠ some '[') ∧ qualifier ≠ [] := by
    decide
  rw [Form.afterQualifier?, List.findSome?_eq_none_iff]
  intro qualifier listed
  have ⟨⟨round, square⟩, nonempty⟩ := outside qualifier listed
  rcases begins with rfl | rfl
  · exact dropLeading?_eq_none_of_head? round nonempty
  · exact dropLeading?_eq_none_of_head? square nonempty

theorem beforeReference?_eq_none_of_closes {closer : Char}
    (closes : closer = ')' ∨ closer = ']') (text : Text) :
    Form.beforeReference? (text ++ [closer]) = none := by
  have reference : dropTrailing? ['&'] (text ++ [closer]) = none :=
    dropTrailing?_eq_none_of_getLast? (by rcases closes with rfl | rfl <;> decide) (by decide)
  have constant : dropTrailing? " const".toList (text ++ [closer]) = none :=
    dropTrailing?_eq_none_of_getLast? (by rcases closes with rfl | rfl <;> decide) (by decide)
  rw [Form.beforeReference?, reference, constant]
  rfl

theorem afterQualifier?_eq_none_of_not_mem {text : Text} (noSpace : ' ' ∉ text) :
    Form.afterQualifier? text = none := by
  have spaced : ∀ qualifier ∈ qualifiers, ' ' ∈ qualifier := by decide
  rw [Form.afterQualifier?, List.findSome?_eq_none_iff]
  intro qualifier listed
  exact dropLeading?_eq_none_of_mem (spaced qualifier listed) noSpace

theorem beforeReference?_eq_none_of_not_mem {text : Text} (noAmpersand : '&' ∉ text)
    (noSpace : ' ' ∉ text) : Form.beforeReference? text = none := by
  have spaced : ' ' ∈ " const".toList := by decide
  rw [Form.beforeReference?, dropTrailing?_eq_none_of_mem List.mem_cons_self noAmpersand,
    dropTrailing?_eq_none_of_mem spaced noSpace]
  rfl

/-- A spelling that is one group has the form of the group. -/
theorem Form.ofText_group {opener closer : Char} {inside : Text} (begins : BeginsGroup opener)
    (closes : closer = ')' ∨ closer = ']') (nested : Nested (fun _ => True) inside)
    (spaced : Spaced inside) :
    Form.ofText (opener :: inside ++ [closer]) = Form.ofGroup inside := by
  have opens : isOpener opener = true ∧ isBlank opener = false ∧
      startsGroup (opener :: (inside ++ [closer])) = true := by
    rcases begins with rfl | rfl <;> exact ⟨by decide, by decide, rfl⟩
  have visible : isBlank closer = false := by
    rcases closes with rfl | rfl <;> decide
  have squeezed : squeeze (opener :: inside ++ [closer]) = opener :: inside ++ [closer] :=
    squeeze_eq_self ⟨opener, _, rfl, opens.2.1⟩
      ((Spaced.mark opens.2.1 spaced).append (.mark visible .nil))
  have noReference := beforeReference?_eq_none_of_closes closes (opener :: inside)
  have group := takeGroup?_of_nested opens.1 closes nested []
  rw [List.cons_append] at squeezed noReference group ⊢
  rw [ofText, squeezed, ofSqueezed]
  simp [lookup?_eq_none_of_beginsGroup begins, afterQualifier?_eq_none_of_beginsGroup begins,
    noReference, opens.2.2, ofBracketed, group]

/-- A spelling without blanks, stars and references is read as a name, if it begins no group. -/
theorem Form.ofText_eq_ofNamed {text : Text} (nonempty : text ≠ [])
    (visible : ∀ character ∈ text, isBlank character = false) (noStar : '*' ∉ text)
    (noAmpersand : '&' ∉ text) (noGroup : startsGroup text = false)
    (outside : lookup? text = none) : ofText text = ofNamed text := by
  have noSpace : ' ' ∉ text := fun member => absurd (visible ' ' member) (by decide)
  have squeezed : squeeze text = text :=
    squeeze_eq_self (Trimmed.of_visible nonempty visible).starts (.of_visible visible)
  have noQualifier : afterQualifier? text = none :=
    afterQualifier?_eq_none_of_not_mem noSpace
  have noReference : beforeReference? text = none :=
    beforeReference?_eq_none_of_not_mem noAmpersand noSpace
  have noPointer : dropTrailing? ['*'] text = none :=
    dropTrailing?_eq_none_of_mem List.mem_cons_self noStar
  rw [ofText, squeezed, ofSqueezed]
  simp [nonempty, outside, noQualifier, noReference, noGroup, noPointer]

/-- An object name outside the vocabulary names an object. -/
theorem Form.ofText_objectName {name : Text} (objectName : isObjectName name = true)
    (outside : lookup? name = none) : Form.ofText name = .known (.object name) := by
  have named := List.all_eq_true.mp (all_isNameCharacter_of_isObjectName objectName)
  have missing : ∀ character, isNameCharacter character = false → character ∉ name := by
    intro character other member
    exact ne_of_isNameCharacter (named character member) other rfl
  have nonempty := ne_nil_of_isObjectName objectName
  have visible : ∀ character ∈ name, isBlank character = false :=
    fun character member => isBlank_of_isNameCharacter (named character member)
  have noGroup : startsGroup name = false := by
    rcases List.exists_cons_of_ne_nil nonempty with ⟨first, rest, rfl⟩
    exact startsGroup_cons_of_isNameCharacter (named first List.mem_cons_self) rest
  have noSubscript : subscripted? name = none := by
    rw [subscripted?, cutTop?_eq_none_of_not_mem (missing '[' (by decide))]
  have noTemplate : template? name = none := by
    rw [template?, cutTop?_eq_none_of_not_mem (missing '<' (by decide))]
  rw [ofText_eq_ofNamed nonempty visible (missing '*' (by decide)) (missing '&' (by decide))
    noGroup outside]
  simp [ofNamed, noSubscript, noTemplate, objectName]

/-- Trimmed items joined by commas are the items of their group. -/
theorem Form.groupItems_join {items : List Text}
    (nested : ∀ item ∈ items, Nested (· ≠ ',') item) (trimmed : ∀ item ∈ items, Trimmed item) :
    groupItems (Text.join [',', ' '] items) = items := by
  have split : splitTop ',' (Text.join [',', ' '] items) = items := by
    rw [splitTop_join (by decide) (by decide) nested
      fun item member => (trimmed item member).starts, map_trim_eq_self trimmed]
  have noEmpty : items.getLast? ≠ some [] := fun last =>
    (trimmed [] (List.mem_of_getLast? last)).ne_nil rfl
  simp [groupItems, split, noEmpty]

/-- A comma behind a lone item ends its group. -/
theorem Form.groupItems_append_comma {item : Text} (nested : Nested (· ≠ ',') item)
    (trimmed : Trimmed item) : groupItems (item ++ [',']) = [item] := by
  have split : splitTop ',' (item ++ [',']) = [item, []] := by
    have visible : (item ++ [',']).all isBlank = false := by
      simpa using fun _ => (by decide : isBlank ',' = false)
    simp only [splitTop, visible, piecesFrom_append_cons nested (by decide), piecesFrom,
      List.map_cons, trim_eq_self trimmed]
    rfl
  simp [groupItems, split]

/-- A group of items that all say something is a tuple. -/
theorem Form.ofGroup_eq_tuple {inside : Text} {items : List Text}
    (listed : groupItems inside = items) (nonempty : items ≠ []) (noEmpty : [] ∉ items)
    (noEllipsis : ellipsis ∉ items) : ofGroup inside = .tuple items := by
  have someContent : items.all List.isEmpty = false := by
    rcases List.exists_mem_of_ne_nil items nonempty with ⟨item, member⟩
    rw [List.all_eq_false]
    refine ⟨item, member, ?_⟩
    rw [List.isEmpty_iff]
    rintro rfl
    exact noEmpty member
  simp [ofGroup, listed, someContent, noEllipsis]

/-- A group that ends with three points is a sequence of the items before them. -/
theorem Form.ofGroup_eq_sequence {inside : Text} {items : List Text}
    (listed : groupItems inside = items ++ [ellipsis]) (noEmpty : [] ∉ items)
    (noEllipsis : ellipsis ∉ items) : ofGroup inside = .sequence items := by
  have someContent : (items ++ [ellipsis]).all List.isEmpty = false := by
    simp [ellipsis]
  have known : ∀ item ∈ items, (item != ellipsis) = true := by
    intro item member
    rw [bne_iff_ne]
    rintro rfl
    exact noEllipsis member
  have filled : ∀ item ∈ items, (!item.isEmpty) = true := by
    intro item member
    rw [Bool.not_eq_true', List.isEmpty_eq_false_iff]
    rintro rfl
    exact noEmpty member
  have leading : (items ++ [ellipsis]).takeWhile (· != ellipsis) = items := by
    rw [List.takeWhile_append_of_pos known]
    simp
  simp only [ofGroup, listed, someContent, leading, List.filter_eq_self.mpr filled]
  simp

end MethodRoles.Spelling
