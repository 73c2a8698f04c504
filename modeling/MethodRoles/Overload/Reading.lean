import MethodRoles.Overload.Block
import MethodRoles.Signature
import MethodRoles.Spelling.Reading

/-!
# Signatures of overloads

A scripted rendering gives the signature of an overload.  Its native rendering
only fills arguments that the scripted one leaves without a type, and only when
both have the same number of arguments.  An overload with a native rendering
alone takes its signature from that.
-/

namespace MethodRoles

namespace Overload

/-- The type of a result text: absent if it is empty, semicolons at its end apart. -/
def resultType (text : Text) : SlotType :=
  let spelling := Text.trim (Text.dropEndWhile (· == ';') (Text.trim text))
  if spelling.isEmpty then .absent else Spelling.typeOf spelling

/-- The type behind the arrow of a scripted rendering. -/
def arrowResult (text : Text) : SlotType :=
  match Text.dropLeading? ['-', '>'] (Text.trimStart text) with
  | some result => resultType result
  | none => .absent

/-- A list whose only argument is absent is the empty list. -/
def collapseAbsent : List SlotType → List SlotType
  | [.absent] => []
  | arguments => arguments

/-- Whether a text can name an argument before its type. -/
def isArgumentName (text : Text) : Bool :=
  let name := (Text.trim text).dropWhile (· == '*')
  !name.isEmpty && name.all Scan.continuesIdentifier

/--
The type spelling of a scripted argument, without its name and its default.  A
doubled colon belongs to a qualified name and follows no argument name.
-/
def argumentSpelling (item : Text) : Text :=
  let item := Text.trim (Scan.beforeTop '=' item)
  match Scan.cutTop? ':' item with
  | some (name, type) =>
      if type.head? != some ':' && isArgumentName name then Text.trim type else item
  | none => item

/-- The words of a native type that are no argument names. -/
def nativeTypeWords : List Text :=
  ["int", "long", "short", "char", "double", "float", "bool", "unsigned", "signed", "const",
    "void"].map String.toList

/-- The words that are no type without the word that follows them. -/
def openWords : List Text :=
  ["const", "unsigned", "signed", "struct", "class"].map String.toList

/-- Whether a character ends the type in front of an argument name. -/
def endsNativeType (character : Char) : Bool :=
  Text.isBlank character || character == '*' || character == '&'

/-- Drop the argument name at the end of a native declaration without dimensions. -/
def dropNativeName (declaration : Text) : Text :=
  let name := Text.takeEndWhile (fun character => !endsNativeType character) declaration
  let type := Text.trim
    (Text.dropEndWhile (fun character => !endsNativeType character) declaration)
  if !name.isEmpty && name.all Scan.continuesIdentifier && !nativeTypeWords.contains name &&
      !type.isEmpty && !openWords.contains type then
    type
  else
    declaration

/-- The type spelling of a native parameter, without its name and its default. -/
def parameterSpelling (parameter : Text) : Text :=
  let parameter := Text.trim (Scan.beforeTop '=' parameter)
  match Scan.cutTop? '[' parameter with
  | some (declaration, dimensions) =>
      dropNativeName (Text.trim declaration) ++ '[' :: dimensions
  | none => dropNativeName parameter

/-- The type spellings of the parameters of a native rendering, if it has a bracket. -/
def parameterSpellings? (native : Text) : Option (List Text) :=
  match Scan.takeGroup? (native.dropWhile (· != '(')) with
  | some (parameters, _) => some ((Scan.splitTop ',' parameters).map parameterSpelling)
  | none => none

/-- The items of a scripted argument list, without the receiver at its start. -/
def argumentItems (inside : Text) : List Text :=
  match Scan.splitTop ',' inside with
  | [] => []
  | first :: others => if first == "self".toList then others else first :: others

/-- The type of a scripted argument; `filler` is the type for one that states none. -/
def argumentType (filler : SlotType) (item : Text) : SlotType :=
  let spelling := argumentSpelling item
  if spelling.isEmpty then filler else Spelling.typeOf spelling

/-- The types of the native parameters, if there are `count` of them. -/
def fillers? (count : Nat) (native? : Option Text) : Option (List SlotType) :=
  match native?.bind parameterSpellings? with
  | some spellings =>
      if spellings.length = count then some (spellings.map Spelling.typeOf) else none
  | none => none

/-- The types of the scripted arguments, with the native ones where they state none. -/
def argumentTypes (items : List Text) (native? : Option Text) : List SlotType :=
  match fillers? items.length native? with
  | some fillers => List.zipWith argumentType fillers items
  | none => items.map (argumentType .unknown)

/-- The signature of a scripted rendering beside an optional native one. -/
def scriptedSignature? (scripted : Text) (native? : Option Text) : Option Signature :=
  match Head.ofText? scripted with
  | none => none
  | some head =>
      match Scan.takeGroup? head.rest with
      | none => none
      | some (inside, after) =>
          let arguments := argumentTypes (argumentItems inside) native?
          some (.ofArguments (arrowResult after) (collapseAbsent arguments))

/-- Whether a character can stand inside a native method name. -/
def continuesNativeName (character : Char) : Bool :=
  Scan.continuesIdentifier character || character == '~'

/-- The result type that stands in front of a native method name. -/
def nativeResult (ahead : Text) : SlotType :=
  let spelling := Text.trim (Text.dropEndWhile continuesNativeName (Text.trimEnd ahead))
  if spelling.isEmpty then .absent else Spelling.typeOf spelling

/-- The signature of a native rendering. -/
def nativeSignature? (native : Text) : Option Signature :=
  match parameterSpellings? native with
  | none => none
  | some spellings =>
      some (.ofArguments (nativeResult (native.takeWhile (· != '(')))
        (collapseAbsent (spellings.map Spelling.typeOf)))

/-- The signature of an overload. -/
def signature? : Overload → Option Signature
  | ⟨some scripted, native?⟩ => scriptedSignature? scripted native?
  | ⟨none, some native⟩ => nativeSignature? native
  | ⟨none, none⟩ => none

end Overload

namespace Signature

/-- The signatures that a documentation text states, in order. -/
def ofDocumentation (documentation : Text) : List Signature :=
  (Overload.ofDocumentation documentation).filterMap Overload.signature?

end Signature

end MethodRoles
