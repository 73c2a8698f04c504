import MethodRoles.Proofs.Overload.Line

/-!
# Signatures are read back from their lines

A signature can be documented in two ways.  The legacy line names the types of the
arguments alone; the annotated line names each argument before its type, and may
state a default behind it.  Both lines give the signature back
(`Signature.ofDocumentation_lines`).

Class names are what makes the two forms hard to tell apart: a doubled colon in a
class name is no annotation, and the colon of an annotation is never followed by
another one.
-/

namespace MethodRoles

open Text Scan Spelling

/-- The name of a class: scoped, begun as class names are, and taken by no fixed spelling. -/
structure ClassPath (name : Text) : Prop where
  /-- It consists of identifiers joined by points and doubled colons. -/
  path : ScopedName name
  /-- It begins with an upper-case letter or with the letters of a native class. -/
  begins : beginsClassName name = true
  /-- No fixed spelling is written as it is. -/
  outside : lookup? name = none

theorem ClassPath.readable {name : Text} (className : ClassPath name) : ReadableName name :=
  ⟨className.path.isObjectName className.begins, className.outside⟩

namespace SlotType

/-- A type that a line can state, with class paths as the names of its objects. -/
abbrev WellFormed (type : SlotType) : Prop :=
  type.Written ClassPath

variable {type : SlotType} (wellFormed : type.WellFormed)

include wellFormed

theorem Written.readable : type.Written ReadableName :=
  wellFormed.mono fun _ className => className.readable

theorem Written.item : Item type.render :=
  item_render wellFormed.readable

/-- The first colon outside all groups of a written type is followed by another one. -/
theorem Written.cutTop?_colon :
    cutTop? ':' type.render = none ∨
      ∃ ahead after, cutTop? ':' type.render = some (ahead, ':' :: after) := by
  cases wellFormed with
  | absent => exact .inl (by decide)
  | function => exact .inl (by decide)
  | scalar canonical =>
      have noColon : ∀ name ∈ canonicalNames, ':' ∉ name := by decide
      exact .inl (cutTop?_eq_none_of_not_mem (noColon _ canonical))
  | object className => exact className.path.cutFrom?_colon '\x00'
  | tuple nonempty written =>
      have single := items_map_render fun element member => (written element member).readable
      have opens : isOpener '(' = true := rfl
      rw [render_tuple]
      exact .inl (cutTop?_eq_none (.group opens (.inl rfl) (nested_tupleText single)) (by decide))
  | sequence written =>
      have single := Item.append_ellipsis
        (items_map_render fun element member => (written element member).readable)
      have opens : isOpener '[' = true := rfl
      rw [render_sequence]
      exact .inl (cutTop?_eq_none (.group opens (.inr rfl) (Item.nested_join single)) (by decide))

theorem Written.head?_ne_colon : type.render.head? ≠ some ':' := by
  cases wellFormed with
  | absent => decide
  | function => decide
  | scalar canonical =>
      have noColon : ∀ name ∈ canonicalNames, name.head? ≠ some ':' := by decide
      exact noColon _ canonical
  | @object name className =>
      intro colon
      have begins := className.begins
      rcases List.head?_eq_some_iff.mp colon with ⟨rest, whole⟩
      change name = ':' :: rest at whole
      rw [whole] at begins
      simp [beginsClassName, startsWith, dropLeading?] at begins
  | tuple =>
      simp [render_tuple]
  | sequence =>
      simp [render_sequence]

end SlotType

/-- An argument in a line, with its name and its default. -/
structure Parameter where
  /-- The name in front of the type. -/
  name : Text
  /-- The type. -/
  type : SlotType
  /-- The text of the default. -/
  default? : Option Text

namespace Parameter

/-- The annotated form of a parameter. -/
def render (parameter : Parameter) : Text :=
  parameter.name ++ ':' :: parameter.type.render ++
    match parameter.default? with
    | some default => '=' :: default
    | none => []

/-- Whether a character is no line feed, no comma and no bracket. -/
def standsInDefault (character : Char) : Bool :=
  not (['\n', ',', '(', ')', '[', ']', '<', '>'].contains character)

/-- A parameter that a line can state. -/
structure WellFormed (parameter : Parameter) : Prop where
  /-- The name is an identifier. -/
  identifier : isIdentifier parameter.name = true
  /-- The type is well formed. -/
  type : parameter.type.WellFormed
  /-- The default stands on one line and holds neither commas nor brackets. -/
  default : ∀ default ∈ parameter.default?, default.all standsInDefault = true

variable {parameter : Parameter}

theorem isArgumentName_of_isIdentifier {name : Text} (identifier : isIdentifier name = true) :
    Overload.isArgumentName name = true := by
  have continues := continues_of_isIdentifier identifier
  have noStar : name.dropWhile (· == '*') = name := by
    rcases starts_of_isIdentifier identifier with ⟨first, rest, rfl, starts⟩
    have differs : first ≠ '*' := by
      rintro rfl
      exact absurd starts (by decide)
    simp [differs]
  have nonempty := ne_nil_of_isIdentifier identifier
  rw [Overload.isArgumentName, trim_eq_self (trimmed_of_isIdentifier identifier), noStar]
  simpa [nonempty] using continues

/-- The text in front of a default. -/
theorem WellFormed.trimmed_annotation (wellFormed : parameter.WellFormed) :
    Trimmed (parameter.name ++ ':' :: parameter.type.render) := by
  have around := (trimmed_of_isIdentifier wellFormed.identifier).around [':']
    wellFormed.type.item.trimmed
  simpa using around

theorem WellFormed.nested_annotation (wellFormed : parameter.WellFormed) :
    Nested (fun character => character ≠ ',' ∧ character ≠ '=')
      (parameter.name ++ ':' :: parameter.type.render) := by
  have named : Nested (fun character => character ≠ ',' ∧ character ≠ '=') parameter.name :=
    .of_flat fun character member =>
      have name := isNameCharacter_of_isIdentifier wellFormed.identifier character member
      ⟨isFlat_of_isNameCharacter name, ne_of_isNameCharacter name (by decide),
        ne_of_isNameCharacter name (by decide)⟩
  have colon : Nested (fun character => character ≠ ',' ∧ character ≠ '=') [':'] :=
    .mark (by decide) ⟨by decide, by decide⟩
  exact named.append (colon.append wellFormed.type.item.nested)

theorem WellFormed.isFlat_of_mem_default (wellFormed : parameter.WellFormed) {default : Text}
    (stated : default ∈ parameter.default?) :
    ∀ character ∈ default, isFlat character = true ∧ character ≠ ',' ∧ character ≠ '\n' := by
  intro character member
  have outside := List.all_eq_true.mp (wellFormed.default default stated) character member
  simp only [standsInDefault, List.contains_cons, List.contains_nil, Bool.or_false,
    Bool.not_or, Bool.and_eq_true, Bool.not_eq_true', beq_eq_false_iff_ne] at outside
  rcases outside with ⟨newline, comma, round, closedRound, square, closedSquare, angle, closedAngle⟩
  refine ⟨?_, comma, newline⟩
  simp [isFlat, isOpener, isCloser, round, closedRound, square, closedSquare, angle, closedAngle]

theorem WellFormed.nested_render (wellFormed : parameter.WellFormed) :
    Nested (· ≠ ',') parameter.render := by
  have annotation := wellFormed.nested_annotation.mono fun _ both => both.1
  rw [render]
  split
  · rename_i default stated
    have flat := wellFormed.isFlat_of_mem_default stated
    have equals : Nested (· ≠ ',') ['='] := .mark (by decide) (by decide)
    exact annotation.append (equals.append (.of_flat fun character member =>
      ⟨(flat character member).1, (flat character member).2.1⟩))
  · simpa using annotation

theorem WellFormed.startsVisible_render (wellFormed : parameter.WellFormed) :
    StartsVisible parameter.render :=
  wellFormed.trimmed_annotation.starts.append _

theorem WellFormed.newline_not_mem_render (wellFormed : parameter.WellFormed) :
    '\n' ∉ parameter.render := by
  have noneInName : '\n' ∉ parameter.name :=
    not_mem_of_isIdentifier wellFormed.identifier (by decide)
  have noneInType : '\n' ∉ parameter.type.render :=
    wellFormed.type.item.spaced.not_mem (by decide) (by decide)
  rw [render]
  split
  · rename_i default stated
    have noneInDefault : '\n' ∉ default := fun member =>
      (wellFormed.isFlat_of_mem_default stated _ member).2.2 rfl
    simp [noneInName, noneInType, noneInDefault]
  · simp [noneInName, noneInType]

/-- The type spelling behind an annotation, without the default. -/
theorem WellFormed.argumentSpelling_render (wellFormed : parameter.WellFormed) :
    Overload.argumentSpelling (trim parameter.render) = parameter.type.render := by
  have trimmed := wellFormed.trimmed_annotation
  have equals := wellFormed.nested_annotation.mono fun _ both => both.2
  have withoutDefault : beforeTop '=' (trim parameter.render) =
      parameter.name ++ ':' :: parameter.type.render := by
    rw [render]
    split
    · rw [trim_append_cons trimmed.starts (by decide), beforeTop_append_cons equals (by decide)]
    · rw [List.append_nil, trim_eq_self trimmed, beforeTop_eq_self equals (by decide)]
  have cut : cutTop? ':' (parameter.name ++ ':' :: parameter.type.render) =
      some (parameter.name, parameter.type.render) :=
    cutTop?_append_cons (nested_of_isIdentifier wellFormed.identifier (by decide)) (by decide) _
  simp [Overload.argumentSpelling, withoutDefault, trim_eq_self trimmed, cut,
    wellFormed.type.head?_ne_colon, isArgumentName_of_isIdentifier wellFormed.identifier,
    trim_eq_self wellFormed.type.item.trimmed]

end Parameter

namespace Overload

/-- A written type without an annotation is its own spelling. -/
theorem argumentSpelling_render {type : SlotType} (wellFormed : type.WellFormed) :
    argumentSpelling type.render = type.render := by
  have item := wellFormed.item
  rw [argumentSpelling, beforeTop_eq_self item.nested_equals (by decide),
    trim_eq_self item.trimmed]
  -- A colon that another one follows cannot end an argument name.
  rcases wellFormed.cutTop?_colon with none | ⟨ahead, after, found⟩
  · simp [none]
  · simp [found]

theorem argumentType_eq {item : Text} {type : SlotType} (wellFormed : type.WellFormed)
    (spelled : argumentSpelling item = type.render) (filler : SlotType) :
    argumentType filler item = type := by
  have content : type.render.isEmpty = false :=
    List.isEmpty_eq_false_iff.mpr wellFormed.item.trimmed.ne_nil
  rw [argumentType, spelled, content]
  exact typeOf_render wellFormed.readable

/-- The items of a legacy line are the written types. -/
theorem argumentItems_join_types {types : List SlotType}
    (wellFormed : ∀ type ∈ types, type.WellFormed) :
    argumentItems (Text.join [',', ' '] (types.map SlotType.render)) =
      types.map SlotType.render := by
  have items := SlotType.items_map_render fun type member => (wellFormed type member).readable
  have split : splitTop ',' (Text.join [',', ' '] (types.map SlotType.render)) =
      types.map SlotType.render := by
    rw [splitTop_join (by decide) (by decide) (fun item member => (items item member).nested_comma)
      fun item member => (items item member).trimmed.starts]
    exact map_trim_eq_self fun item member => (items item member).trimmed
  rw [argumentItems, split]
  cases types with
  | nil => rfl
  | cons first others =>
      have noReceiver : first.render ≠ "self".toList :=
        SlotType.render_ne (wellFormed first List.mem_cons_self).readable (by decide) (by decide)
          (by decide)
      simpa using noReceiver

/-- The items of an annotated line are the trimmed parameters. -/
theorem argumentItems_join_parameters {parameters : List Parameter}
    (wellFormed : ∀ parameter ∈ parameters, parameter.WellFormed) :
    argumentItems (Text.join [',', ' '] ("self".toList :: parameters.map Parameter.render)) =
      parameters.map fun parameter => trim parameter.render := by
  have nested : ∀ item ∈ "self".toList :: parameters.map Parameter.render,
      Nested (· ≠ ',') item := by
    rw [List.forall_mem_cons, List.forall_mem_map]
    constructor
    · exact nested_of_isIdentifier (by decide) (by decide)
    · intro parameter member
      exact (wellFormed parameter member).nested_render
  have starts : ∀ item ∈ "self".toList :: parameters.map Parameter.render,
      StartsVisible item := by
    rw [List.forall_mem_cons, List.forall_mem_map]
    constructor
    · exact ⟨'s', "elf".toList, rfl, by decide⟩
    · intro parameter member
      exact (wellFormed parameter member).startsVisible_render
  have receiver : trim "self".toList = "self".toList := by decide
  rw [argumentItems, splitTop_join (by decide) (by decide) nested starts, List.map_cons, receiver]
  simp

theorem collapseAbsent_eq_self {types : List SlotType} (present : types ≠ [.absent]) :
    collapseAbsent types = types := by
  unfold collapseAbsent
  split
  · contradiction
  · rfl

end Overload

namespace Signature

open Overload

/-- The line that states the types of the arguments alone. -/
def legacyLine (method : Text) (result : SlotType) (arguments : List SlotType) : Text :=
  documentLine ['V', '.'] method (Text.join [',', ' '] (arguments.map SlotType.render)) result

/-- The line that states the receiver and each argument with its name. -/
def annotatedLine (method : Text) (result : SlotType) (parameters : List Parameter) : Text :=
  documentLine [] method
    (Text.join [',', ' '] ("self".toList :: parameters.map Parameter.render)) result

variable {method : Text} {result : SlotType}

/-- Reading the items of some arguments gives their types. -/
theorem map_argumentType {Argument : Type} {arguments : List Argument} {item : Argument → Text}
    {type : Argument → SlotType} (wellFormed : ∀ argument ∈ arguments, (type argument).WellFormed)
    (spelled : ∀ argument ∈ arguments,
      argumentSpelling (item argument) = (type argument).render) :
    (arguments.map item).map (argumentType .unknown) = arguments.map type := by
  rw [List.map_map]
  apply List.map_congr_left
  intro argument member
  exact argumentType_eq (wellFormed argument member) (spelled argument member) .unknown

/-- The legacy line of a signature documents the signature. -/
theorem ofDocumentation_legacyLine (identifier : isIdentifier method = true)
    (resultWellFormed : result.WellFormed) {arguments : List SlotType}
    (wellFormed : ∀ argument ∈ arguments, argument.WellFormed)
    (present : arguments ≠ [.absent]) :
    ofDocumentation (legacyLine method result arguments) = [ofArguments result arguments] := by
  have items := SlotType.items_map_render fun type member => (wellFormed type member).readable
  have oneLine : '\n' ∉ Text.join [',', ' '] (arguments.map SlotType.render) :=
    (Item.spaced_join items).not_mem (by decide) (by decide)
  have types : (arguments.map SlotType.render).map (argumentType .unknown) = arguments.map id :=
    map_argumentType wellFormed fun type member => argumentSpelling_render (wellFormed type member)
  rw [legacyLine, ofDocumentation_documentLine (.inr rfl) identifier resultWellFormed.readable
    (Item.nested_join items) oneLine, argumentItems_join_types wellFormed, types, List.map_id,
    collapseAbsent_eq_self present]

/-- The annotated line of a signature documents the signature. -/
theorem ofDocumentation_annotatedLine (identifier : isIdentifier method = true)
    (resultWellFormed : result.WellFormed) {parameters : List Parameter}
    (wellFormed : ∀ parameter ∈ parameters, parameter.WellFormed)
    (present : parameters.map Parameter.type ≠ [.absent]) :
    ofDocumentation (annotatedLine method result parameters) =
      [ofArguments result (parameters.map Parameter.type)] := by
  have nested : ∀ item ∈ "self".toList :: parameters.map Parameter.render,
      Nested (fun _ => True) item := by
    rw [List.forall_mem_cons, List.forall_mem_map]
    constructor
    · have receiver : isIdentifier "self".toList = true := by decide
      have ends : continuesIdentifier ',' = false := by decide
      exact (nested_of_isIdentifier receiver ends).anywhere
    · intro parameter member
      exact (wellFormed parameter member).nested_render.anywhere
  have oneLine : ∀ item ∈ "self".toList :: parameters.map Parameter.render, '\n' ∉ item := by
    rw [List.forall_mem_cons, List.forall_mem_map]
    constructor
    · decide
    · intro parameter member
      exact (wellFormed parameter member).newline_not_mem_render
  have types : (parameters.map fun parameter => trim parameter.render).map
      (argumentType .unknown) = parameters.map Parameter.type :=
    map_argumentType (fun parameter member => (wellFormed parameter member).type)
      fun parameter member => (wellFormed parameter member).argumentSpelling_render
  rw [annotatedLine, ofDocumentation_documentLine (.inl rfl) identifier resultWellFormed.readable
    (.join Item.nested_separator nested) (not_mem_join (by decide) oneLine),
    argumentItems_join_parameters wellFormed, types, collapseAbsent_eq_self present]

/-- Both lines of a signature document the signature and nothing else. -/
theorem ofDocumentation_lines (identifier : isIdentifier method = true)
    (resultWellFormed : result.WellFormed) {parameters : List Parameter}
    (wellFormed : ∀ parameter ∈ parameters, parameter.WellFormed)
    (present : parameters.map Parameter.type ≠ [.absent]) :
    ofDocumentation (legacyLine method result (parameters.map Parameter.type)) =
        [ofArguments result (parameters.map Parameter.type)] ∧
      ofDocumentation (annotatedLine method result parameters) =
        [ofArguments result (parameters.map Parameter.type)] := by
  constructor
  · refine ofDocumentation_legacyLine identifier resultWellFormed ?_ present
    exact List.forall_mem_map.mpr fun parameter member => (wellFormed parameter member).type
  · exact ofDocumentation_annotatedLine identifier resultWellFormed wellFormed present

/-- A parameter with a scoped class name and without a default. -/
def targetParameter : Parameter :=
  ⟨"target".toList, .object "Scene::Node".toList, none⟩

/-- A parameter with a nested type and a default that holds a colon. -/
def pathParameter : Parameter :=
  ⟨"path".toList, .sequence [.tuple 1 [.scalar "float".toList]], some "a:b = c".toList⟩

theorem wellFormed_targetParameter : targetParameter.WellFormed where
  identifier := by decide
  type :=
    have path : ScopedName ("Scene".toList ++ [':', ':'] ++ "Node".toList) :=
      .joined (.inr rfl) (by decide) (.identifier (by decide))
    .object ⟨path, by decide, by decide⟩
  default := nofun

theorem wellFormed_pathParameter : pathParameter.WellFormed where
  identifier := by decide
  type := by
    have scalar : (SlotType.scalar "float".toList).WellFormed := .scalar (by decide)
    have lone : (SlotType.tuple 1 [.scalar "float".toList]).WellFormed :=
      .tuple (List.cons_ne_nil _ _) (List.forall_mem_singleton.mpr scalar)
    exact .sequence (List.forall_mem_singleton.mpr lone)
  default := by decide

/-- Both lines of a method with two arguments document it. -/
theorem ofDocumentation_lines_move :
    ofDocumentation (legacyLine "Move".toList .absent
        [targetParameter.type, pathParameter.type]) =
        [ofArguments .absent [targetParameter.type, pathParameter.type]] ∧
      ofDocumentation (annotatedLine "Move".toList .absent [targetParameter, pathParameter]) =
        [ofArguments .absent [targetParameter.type, pathParameter.type]] := by
  have wellFormed : ∀ parameter ∈ [targetParameter, pathParameter], parameter.WellFormed :=
    List.forall_mem_cons.mpr
      ⟨wellFormed_targetParameter, List.forall_mem_singleton.mpr wellFormed_pathParameter⟩
  exact ofDocumentation_lines (by decide) .absent wellFormed (by decide)

example : annotatedLine "Move".toList .absent [targetParameter, pathParameter] =
    "Move(self, target:Scene::Node, path:[(float,), ...]=a:b = c) -> None".toList := by
  decide

end Signature

end MethodRoles
