import MethodRoles.Spelling.Reading
import MethodRoles.Proofs.Spelling.Form

/-!
# Written forms are read back

The written form of a type stands in normal spacing, closes its own brackets and
has no comma outside them, so it is one item wherever it stands.  When the scalars
of the type are canonical, its tuples hold as many elements as they say, at least
one, and its objects have names that no fixed spelling takes, the type of the
written form is the type itself (`typeOf_render`).
-/

namespace MethodRoles

open Text Scan Spelling

namespace SlotType

/-- The names of the scalars that a spelling can name. -/
def canonicalNames : List Text :=
  ["int", "long", "float", "string", "bool", "char", "unicode", "pointer", "unknown"].map
    String.toList

/--
A type with canonical scalars and with tuples of their stated size, at least one,
whose objects have names of a given kind.
-/
inductive Written (isName : Text → Prop) : SlotType → Prop where
  | absent : Written isName .absent
  | function : Written isName .function
  | scalar {name : Text} (canonical : name ∈ canonicalNames) : Written isName (.scalar name)
  | object {className : Text} (named : isName className) : Written isName (.object className)
  | tuple {elements : List SlotType} (nonempty : elements ≠ [])
      (written : ∀ element ∈ elements, Written isName element) :
      Written isName (.tuple elements.length elements)
  | sequence {elements : List SlotType} (written : ∀ element ∈ elements, Written isName element) :
      Written isName (.sequence elements)

theorem Written.mono {isName : Text → Prop} {type : SlotType} (written : type.Written isName)
    {isOther : Text → Prop} (weaker : ∀ name, isName name → isOther name) :
    type.Written isOther := by
  induction written with
  | absent => exact absent
  | function => exact function
  | scalar canonical => exact scalar canonical
  | object named => exact object (weaker _ named)
  | tuple nonempty _ induction => exact tuple nonempty induction
  | sequence _ induction => exact sequence induction

theorem renderListed_eq_join (elements : List SlotType) :
    renderListed elements = Text.join [',', ' '] (elements.map render) := by
  induction elements with
  | nil => rfl
  | cons element others induction =>
      cases others with
      | nil => simp [renderListed, Text.join]
      | cons next others =>
          rw [renderListed, induction]
          simp [join_cons_cons]

theorem renderLeading_append (elements : List SlotType) (last : Text) :
    renderLeading elements ++ last = Text.join [',', ' '] (elements.map render ++ [last]) := by
  induction elements with
  | nil => rfl
  | cons element others induction =>
      rw [renderLeading, List.append_assoc, induction, List.map_cons, List.cons_append]
      rcases List.exists_cons_of_ne_nil
        (List.append_ne_nil_of_right_ne_nil (others.map render) (List.cons_ne_nil last [])) with
        ⟨next, later, listed⟩
      rw [listed, join_cons_cons]

end SlotType

namespace Spelling

/-- A text that is one item of a group, from its first character to its last. -/
structure Item (text : Text) : Prop where
  /-- Its brackets are closed, and neither comma nor equals sign stands outside them. -/
  nested : Nested (fun character => character ≠ ',' ∧ character ≠ '=') text
  /-- It stands in normal spacing. -/
  spaced : Spaced text
  /-- It begins a word. -/
  starts : ∃ first rest, text = first :: rest ∧ isBlank first = false ∧ attaches first = false
  /-- It ends with a visible character that is no semicolon. -/
  ends : ∃ ahead last, text = ahead ++ [last] ∧ isBlank last = false ∧ last ≠ ';'

namespace Item

variable {text : Text}

theorem trimmed (item : Item text) : Trimmed text where
  starts := by
    rcases item.starts with ⟨first, rest, whole, visible, -⟩
    exact ⟨first, rest, whole, visible⟩
  ends := by
    rcases item.ends with ⟨ahead, last, whole, visible, -⟩
    exact ⟨ahead, last, whole, visible⟩

theorem nested_comma (item : Item text) : Nested (· ≠ ',') text :=
  item.nested.mono fun _ both => both.1

theorem nested_equals (item : Item text) : Nested (· ≠ '=') text :=
  item.nested.mono fun _ both => both.2

theorem of_name (nonempty : text ≠ []) (all : text.all isNameCharacter = true) : Item text := by
  have named := List.all_eq_true.mp all
  constructor
  · apply Nested.of_flat
    intro character member
    have name := named character member
    exact ⟨isFlat_of_isNameCharacter name, ne_of_isNameCharacter name (by decide),
      ne_of_isNameCharacter name (by decide)⟩
  · apply Spaced.of_visible
    intro character member
    exact isBlank_of_isNameCharacter (named character member)
  · rcases List.exists_cons_of_ne_nil nonempty with ⟨first, rest, rfl⟩
    have head := named first List.mem_cons_self
    exact ⟨first, rest, rfl, isBlank_of_isNameCharacter head, attaches_of_isNameCharacter head⟩
  · have last := named _ (List.getLast_mem nonempty)
    exact ⟨text.dropLast, text.getLast nonempty, (List.dropLast_concat_getLast nonempty).symm,
      isBlank_of_isNameCharacter last, ne_of_isNameCharacter last (by decide)⟩

theorem of_group {opener closer : Char} (begins : BeginsGroup opener)
    (closes : closer = ')' ∨ closer = ']') (nested : Nested (fun _ => True) text)
    (spaced : Spaced text) : Item (opener :: text ++ [closer]) := by
  have opens : isOpener opener = true ∧ isBlank opener = false ∧ attaches opener = false := by
    rcases begins with rfl | rfl <;> decide
  have visible : isBlank closer = false ∧ closer ≠ ';' := by
    rcases closes with rfl | rfl <;> decide
  exact {
    nested := .group opens.1 closes nested
    spaced := (Spaced.mark opens.2.1 spaced).append (.mark visible.1 .nil)
    starts := ⟨opener, text ++ [closer], rfl, opens.2⟩
    ends := ⟨opener :: text, closer, rfl, visible⟩ }

/-- Items joined by commas stand in normal spacing. -/
theorem spaced_join {items : List Text} (single : ∀ item ∈ items, Item item) :
    Spaced (Text.join [',', ' '] items) := by
  induction items with
  | nil => exact .nil
  | cons item others induction =>
      have first := single item List.mem_cons_self
      have later := induction fun other member => single other (List.mem_cons_of_mem _ member)
      cases others with
      | nil => exact first.spaced
      | cons next others =>
          have starts : ∃ character rest, Text.join [',', ' '] (next :: others) =
              character :: rest ∧ isBlank character = false ∧ attaches character = false := by
            rcases (single next (by simp)).starts with ⟨character, rest, rfl, begins⟩
            cases others with
            | nil => exact ⟨character, rest, rfl, begins⟩
            | cons last others => exact ⟨character, _, rfl, begins⟩
          rw [join_cons_cons, List.append_assoc]
          exact first.spaced.append (.mark (by decide) (later.space starts))

theorem nested_separator : Nested (fun _ => True) [',', ' '] := by
  have comma : Nested (fun _ => True) [','] := .mark (by decide) trivial
  have space : Nested (fun _ => True) [' '] := .mark (by decide) trivial
  exact comma.append space

/-- Items joined by commas close their brackets. -/
theorem nested_join {items : List Text} (single : ∀ item ∈ items, Item item) :
    Nested (fun _ => True) (Text.join [',', ' '] items) :=
  .join nested_separator fun item member => (single item member).nested.anywhere

theorem ellipsis : Item Form.ellipsis := by
  apply of_name <;> decide

theorem append_ellipsis {items : List Text} (single : ∀ item ∈ items, Item item) :
    ∀ item ∈ items ++ [Form.ellipsis], Item item := by
  intro item member
  rcases List.mem_append.mp member with leading | last
  · exact single item leading
  · rw [List.mem_singleton.mp last]
    exact ellipsis

end Item

/-- The items of a tuple as they stand in its brackets; a comma follows a lone item. -/
def tupleText : List Text → Text
  | [item] => item ++ [',']
  | items => Text.join [',', ' '] items

section Tuple

variable {items : List Text} (single : ∀ item ∈ items, Item item)

include single

theorem nested_tupleText : Nested (fun _ => True) (tupleText items) := by
  unfold tupleText
  split
  · exact (single _ List.mem_cons_self).nested.anywhere.append (.mark (by decide) trivial)
  · exact Item.nested_join single

theorem spaced_tupleText : Spaced (tupleText items) := by
  unfold tupleText
  split
  · exact (single _ List.mem_cons_self).spaced.append (.mark (by decide) .nil)
  · exact Item.spaced_join single

theorem groupItems_tupleText : Form.groupItems (tupleText items) = items := by
  unfold tupleText
  split
  · have item := single _ List.mem_cons_self
    exact Form.groupItems_append_comma item.nested_comma item.trimmed
  · exact Form.groupItems_join (fun item member => (single item member).nested_comma)
      fun item member => (single item member).trimmed

end Tuple

/-- The name of an object that no fixed spelling takes. -/
def ReadableName (name : Text) : Prop :=
  isObjectName name = true ∧ lookup? name = none

end Spelling

namespace SlotType

theorem render_tuple (arity : Nat) (elements : List SlotType) :
    render (.tuple arity elements) = '(' :: tupleText (elements.map render) ++ [')'] := by
  match elements with
  | [] =>
      change '(' :: renderListed [] ++ [')'] = _
      rw [renderListed_eq_join, List.map_nil, tupleText]
      exact nofun
  | [element] =>
      change '(' :: element.render ++ [',', ')'] = _
      simp [tupleText]
  | first :: second :: others =>
      change '(' :: renderListed (first :: second :: others) ++ [')'] = _
      rw [renderListed_eq_join, List.map_cons, List.map_cons, tupleText]
      exact nofun

theorem render_sequence (elements : List SlotType) :
    render (.sequence elements) =
      '[' :: Text.join [',', ' '] (elements.map render ++ [Form.ellipsis]) ++ [']'] := by
  change '[' :: renderLeading elements ++ (Form.ellipsis ++ [']']) = _
  rw [← renderLeading_append, List.cons_append, List.cons_append, List.append_assoc]

theorem item_of_mem_canonicalNames {name : Text} (canonical : name ∈ canonicalNames) :
    Item name := by
  have named : ∀ other ∈ canonicalNames, other ≠ [] ∧ other.all isNameCharacter = true := by
    decide
  exact .of_name (named name canonical).1 (named name canonical).2

/-- The written form of a type is one item. -/
theorem item_render {type : SlotType} (written : type.Written ReadableName) :
    Item type.render := by
  induction written with
  | absent => exact .of_name (by decide) (by decide)
  | function => exact .of_name (by decide) (by decide)
  | scalar canonical => exact item_of_mem_canonicalNames canonical
  | object named =>
      exact .of_name (ne_nil_of_isObjectName named.1) (all_isNameCharacter_of_isObjectName named.1)
  | tuple _ _ induction =>
      have single := List.forall_mem_map.mpr induction
      rw [render_tuple]
      exact .of_group (.inl rfl) (.inl rfl) (nested_tupleText single) (spaced_tupleText single)
  | sequence _ induction =>
      have single := Item.append_ellipsis (List.forall_mem_map.mpr induction)
      rw [render_sequence]
      exact .of_group (.inr rfl) (.inr rfl) (Item.nested_join single) (Item.spaced_join single)

/-- A word that is no scalar, no object name and no group is the written form of no type. -/
theorem render_ne {type : SlotType} (written : type.Written ReadableName) {word : Text}
    (noWord : word ∉ "None".toList :: "function".toList :: canonicalNames)
    (noName : isObjectName word = false) (noGroup : Form.startsGroup word = false) :
    type.render ≠ word := by
  rintro rfl
  cases written with
  | absent => exact noWord List.mem_cons_self
  | function => exact noWord (List.mem_cons_of_mem _ List.mem_cons_self)
  | scalar canonical =>
      exact noWord (List.mem_cons_of_mem _ (List.mem_cons_of_mem _ canonical))
  | @object className named =>
      change isObjectName className = false at noName
      rw [named.1] at noName
      contradiction
  | tuple =>
      rw [render_tuple] at noGroup
      exact absurd noGroup (by simp [Form.startsGroup])
  | sequence =>
      rw [render_sequence] at noGroup
      exact absurd noGroup (by simp [Form.startsGroup])

section Elements

variable {elements : List SlotType}
  (written : ∀ element ∈ elements, element.Written ReadableName)

include written

theorem items_map_render : ∀ item ∈ elements.map render, Item item :=
  List.forall_mem_map.mpr fun element member => item_render (written element member)

theorem nil_not_mem_map_render : [] ∉ elements.map render :=
  fun member => (items_map_render written [] member).trimmed.ne_nil rfl

theorem ellipsis_not_mem_map_render : Form.ellipsis ∉ elements.map render := by
  intro member
  rcases List.mem_map.mp member with ⟨element, listed, same⟩
  exact render_ne (written element listed) (by decide) (by decide) (by decide) same

end Elements

end SlotType

namespace Spelling

open SlotType

theorem typeOf_of_ofText {spelling : Text} {type : SlotType}
    (known : Form.ofText spelling = .known type) : typeOf spelling = type := by
  rw [typeOf_eq, known, Form.typeBy]

theorem ofText_of_mem_canonicalNames {name : Text} (canonical : name ∈ canonicalNames) :
    Form.ofText name = .known (.scalar name) := by
  simp only [canonicalNames, List.map_cons, List.map_nil, List.mem_cons, List.not_mem_nil,
    or_false] at canonical
  rcases canonical with rfl | rfl | rfl | rfl | rfl | rfl | rfl | rfl | rfl <;> rfl

/-- Reading the written forms of types that are read back gives the types. -/
theorem map_typeOf_render {elements : List SlotType}
    (readBack : ∀ element ∈ elements, typeOf element.render = element) :
    (elements.map render).map typeOf = elements := by
  rw [List.map_map]
  have same : elements.map (typeOf ∘ render) = elements.map id := List.map_congr_left readBack
  rw [same, List.map_id]

section Elements

variable {elements : List SlotType}
  (written : ∀ element ∈ elements, element.Written ReadableName)

include written

theorem ofText_render_tuple (nonempty : elements ≠ []) (arity : Nat) :
    Form.ofText (render (.tuple arity elements)) = .tuple (elements.map render) := by
  have single := items_map_render written
  rw [render_tuple, Form.ofText_group (.inl rfl) (.inl rfl) (nested_tupleText single)
    (spaced_tupleText single)]
  exact Form.ofGroup_eq_tuple (groupItems_tupleText single) (by simpa using nonempty)
    (nil_not_mem_map_render written) (ellipsis_not_mem_map_render written)

theorem ofText_render_sequence :
    Form.ofText (render (.sequence elements)) = .sequence (elements.map render) := by
  have single := Item.append_ellipsis (items_map_render written)
  have listed := Form.groupItems_join (fun item member => (single item member).nested_comma)
    fun item member => (single item member).trimmed
  rw [render_sequence, Form.ofText_group (.inr rfl) (.inr rfl) (Item.nested_join single)
    (Item.spaced_join single)]
  exact Form.ofGroup_eq_sequence listed (nil_not_mem_map_render written)
    (ellipsis_not_mem_map_render written)

end Elements

/-- The type of the written form of a type is the type. -/
theorem typeOf_render {type : SlotType} (written : type.Written ReadableName) :
    typeOf type.render = type := by
  induction written with
  | absent => exact typeOf_of_ofText rfl
  | function => exact typeOf_of_ofText rfl
  | scalar canonical => exact typeOf_of_ofText (ofText_of_mem_canonicalNames canonical)
  | object named => exact typeOf_of_ofText (Form.ofText_objectName named.1 named.2)
  | tuple nonempty written induction =>
      rw [typeOf_eq, ofText_render_tuple written nonempty, Form.typeBy,
        map_typeOf_render induction, ofElements]
  | sequence written induction =>
      rw [typeOf_eq, ofText_render_sequence written, Form.typeBy, map_typeOf_render induction]

end Spelling

end MethodRoles
