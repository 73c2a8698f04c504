import MethodRoles.Scan.Bracket
import MethodRoles.Spelling.ObjectName
import MethodRoles.Spelling.Spacing
import MethodRoles.Spelling.Vocabulary

/-!
# The outermost form of a type spelling

A spelling either names a type at once or is built from shorter spellings: it
may mean the same as one of them, point to one, group several, or be an array
of one.  `Form.ofText` finds that outermost form and leaves the parts unread.

The tests run in a fixed order: the vocabulary first, then what may be dropped
at either end, then brackets, stars, subscripts and template arguments, and the
name of an object class last.
-/

namespace MethodRoles.Spelling

/-- The outermost form of a spelling, over the spellings of its parts. -/
inductive Form where
  /-- The spelling of a type that needs no part read. -/
  | known (type : SlotType)
  /-- Another way to write the type of a shorter spelling. -/
  | same (part : Text)
  /-- A pointer. -/
  | pointer (part : Text)
  /-- A group with one element for each part. -/
  | tuple (parts : List Text)
  /-- A group of any size with known leading elements. -/
  | sequence (parts : List Text)
  /-- An array, by the texts in its brackets from the outermost to the innermost. -/
  | array (part : Text) (subscripts : List Text)

namespace Form

/-- The spellings inside a form. -/
def parts : Form → List Text
  | .known _ => []
  | .same part => [part]
  | .pointer part => [part]
  | .tuple parts => parts
  | .sequence parts => parts
  | .array part _ => [part]

/-- A pointer to an object is the object; a pointer to anything else is an array of it. -/
def pointed : SlotType → SlotType
  | .object className => .object className
  | type => .sequence [type]

/-- The decimal number that a text writes, with at most one plus sign before it. -/
def count? (text : Text) : Option Nat :=
  let digits := match text with
    | '+' :: digits => digits
    | digits => digits
  if digits.isEmpty || !digits.all Char.isDigit then
    none
  else
    let number := digits.foldl (fun number digit => 10 * number + (digit.toNat - 48)) 0
    if number < Nat.pow 2 64 then some number else none

/-- The dimension that a subscript gives; an empty subscript leaves the size open. -/
def dimension? (subscript : Text) : Option (Option Nat) :=
  if subscript.isEmpty then some none else (count? subscript).map some

/-- The dimensions that some subscripts give, if every one of them gives one. -/
def dimensions? : List Text → Option (List (Option Nat))
  | [] => some []
  | subscript :: others =>
      match dimension? subscript, dimensions? others with
      | some dimension, some dimensions => some (dimension :: dimensions)
      | _, _ => none

/-- One dimension of an array: a tuple of the given size, or a sequence without one. -/
def dimensioned : Option Nat → SlotType → SlotType
  | some count, element => .repeated element count
  | none, element => .sequence [element]

/--
The type of an array with elements of one type.  A subscript that gives no dimension leaves
the array without a type.
-/
def arrayOf (subscripts : List Text) (element : SlotType) : SlotType :=
  match dimensions? subscripts with
  | some dimensions => dimensions.foldr dimensioned element
  | none => .unknown

/-- The type of a form, when `typeOf` gives the types of its parts. -/
def typeWith : (form : Form) → (typeOf : (part : Text) → part ∈ form.parts → SlotType) → SlotType
  | .known type, _ => type
  | .same part, typeOf => typeOf part (List.mem_singleton_self part)
  | .pointer part, typeOf => pointed (typeOf part (List.mem_singleton_self part))
  | .tuple parts, typeOf =>
      .ofElements (parts.attach.map fun part => typeOf part.1 part.2)
  | .sequence parts, typeOf =>
      .sequence (parts.attach.map fun part => typeOf part.1 part.2)
  | .array part subscripts, typeOf =>
      arrayOf subscripts (typeOf part (List.mem_singleton_self part))

/-- The form of text that fits no form. -/
def unreadable : Form :=
  .known .unknown

/-- The items of a group; one empty item after the last comma is no item. -/
def groupItems (inside : Text) : List Text :=
  let items := Scan.splitTop ',' inside
  if items.length > 1 && items.getLast? == some [] then items.dropLast else items

/-- Three points, which stand for any number of further elements. -/
def ellipsis : Text :=
  "...".toList

/--
The form of a group, by the text inside its brackets.  Without any item that
says something it is absent, and three points end the elements that are known.
-/
def ofGroup (inside : Text) : Form :=
  let items := groupItems inside
  if items.all List.isEmpty then
    .known .absent
  else if items.contains ellipsis then
    .sequence ((items.takeWhile (· != ellipsis)).filter fun item => !item.isEmpty)
  else
    .tuple items

/-- The trimmed insides of the groups that make up a text, blanks between them apart. -/
def subscripts? (text : Text) : Option (List Text) :=
  match text with
  | [] => some []
  | character :: others =>
      match _found : Scan.takeGroup? (character :: others) with
      | none => none
      | some (inside, after) =>
          (subscripts? (Text.trimStart after)).map (Text.trim inside :: ·)
termination_by text.length
decreasing_by
  have shorter := Scan.length_takeGroup?_lt _found
  have trimmed := Text.length_trimStart_le after
  omega

/-- The form of a name with one subscript, which may be a generic name. -/
def ofGeneric (base subscript : Text) : Form :=
  if tupleNames.contains base then
    match ofGroup subscript with
    | .known .absent => .tuple []
    | form => form
  else if sequenceNames.contains base then
    .sequence ((Scan.splitTop ',' subscript).filter fun item =>
      !item.isEmpty && item != ellipsis)
  else if base == "Optional".toList then
    .same subscript
  else if base == "Callable".toList then
    .known .function
  else
    .array base [subscript]

/-- The form of a spelling with subscripts, by the text before them and their text. -/
def ofSubscripted (base subscripts : Text) : Form :=
  match subscripts? subscripts with
  | none => unreadable
  | some [subscript] => ofGeneric (Text.trim base) subscript
  | some subscripts => .array (Text.trim base) subscripts

/-- The form of a template with arguments. -/
def ofTemplate (base arguments : Text) : Form :=
  let items := Scan.splitTop ',' arguments
  if containerTemplates.contains base then
    .sequence items
  else if holderTemplates.contains base then
    match items with
    | [item] => .same item
    | _ => unreadable
  else if isObjectName base then
    .known (.object base)
  else
    unreadable

/-- The spelling after its first qualifier. -/
def afterQualifier? (spelling : Text) : Option Text :=
  qualifiers.findSome? fun qualifier => Text.dropLeading? qualifier spelling

/-- The spelling before what leaves the type of a referenced value as it is. -/
def beforeReference? (spelling : Text) : Option Text :=
  Text.dropTrailing? ['&'] spelling <|> Text.dropTrailing? " const".toList spelling

/-- The base of a template and its arguments, when an angle bracket ends the spelling. -/
def template? (spelling : Text) : Option (Text × Text) :=
  match Scan.cutTop? '<' spelling with
  | some (base, arguments) =>
      match Text.dropTrailing? ['>'] arguments with
      | some arguments => if base.isEmpty then none else some (base, arguments)
      | none => none
  | none => none

/-- The base of a subscripted spelling and its subscripts with their brackets. -/
def subscripted? (spelling : Text) : Option (Text × Text) :=
  match Scan.cutTop? '[' spelling with
  | some (base, subscripts) =>
      if base.isEmpty then none else some (base, '[' :: subscripts)
  | none => none

/-- Whether a spelling starts with a round or a square bracket. -/
def startsGroup (spelling : Text) : Bool :=
  spelling.head? == some '(' || spelling.head? == some '['

/-- The form of a group that must be all of the spelling. -/
def ofBracketed (spelling : Text) : Form :=
  match Scan.takeGroup? spelling with
  | some (inside, after) => if after.all Text.isBlank then ofGroup inside else unreadable
  | none => unreadable

/-- The form of a spelling that ends in no star and starts with no bracket. -/
def ofNamed (spelling : Text) : Form :=
  match subscripted? spelling with
  | some (base, subscripts) => ofSubscripted base subscripts
  | none =>
      match template? spelling with
      | some (base, arguments) => ofTemplate (Text.trim base) arguments
      | none => if isObjectName spelling then .known (.object spelling) else unreadable

/-- The form of a spelling in normal spacing. -/
def ofSqueezed (spelling : Text) : Form :=
  if spelling.isEmpty then
    unreadable
  else
    match lookup? spelling with
    | some type => .known type
    | none =>
        match afterQualifier? spelling <|> beforeReference? spelling with
        | some part => .same part
        | none =>
            if startsGroup spelling then
              ofBracketed spelling
            else
              match Text.dropTrailing? ['*'] spelling with
              | some part => .pointer part
              | none => ofNamed spelling

/-- The outermost form of a spelling. -/
def ofText (spelling : Text) : Form :=
  ofSqueezed (squeeze spelling)

end Form

end MethodRoles.Spelling
