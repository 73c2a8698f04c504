import MethodRoles.Directory
import MethodRoles.Overload.Reading
import MethodRoles.Role.Naming

/-!
# The methods of a class with their signatures

A method table holds the public methods of a class in the order in which the
directory first lists them, each with the signatures that its documentation
states.  A name that is not in the table has no signatures.
-/

namespace MethodRoles

/-- The names of a directory that may have a role, each once. -/
def Directory.publicNames {Object : Type} (directory : Directory Object) : List Text :=
  Text.distinct (directory.methodNames.filter (Naming.isPublic directory.className))

/-- The signatures that the documentation of a method states. -/
def Directory.signatures {Object : Type} (directory : Directory Object) (method : Text) :
    List Signature :=
  match directory.documentation? method with
  | some documentation => Signature.ofDocumentation documentation
  | none => []

/-- Public methods with their signatures. -/
structure MethodTable where
  /-- The methods. -/
  methods : List (Text × List Signature)

namespace MethodTable

/-- The table of a directory. -/
def ofDirectory {Object : Type} (directory : Directory Object) : MethodTable :=
  ⟨directory.publicNames.map fun name => (name, directory.signatures name)⟩

/-- The public names, in order. -/
def names (table : MethodTable) : List Text :=
  table.methods.map Prod.fst

/-- Whether a method is in the table. -/
def contains (table : MethodTable) (name : Text) : Bool :=
  (table.methods.lookup name).isSome

/-- The signatures of a method. -/
def signatures (table : MethodTable) (name : Text) : List Signature :=
  (table.methods.lookup name).getD []

/-- Whether some signature of a method satisfies a condition. -/
def has (table : MethodTable) (condition : Signature → Bool) (name : Text) : Bool :=
  (table.signatures name).any condition

/-- What the first accessor among the signatures of a method returns. -/
def accessed? (table : MethodTable) (name : Text) : Option SlotType :=
  ((table.signatures name).find? Signature.isAccessor).map Signature.result

end MethodTable

end MethodRoles
