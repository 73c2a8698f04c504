import MethodRoles.Inheritance.Forest
import MethodRoles.Directory
import MethodRoles.Text.Quoted

/-!
# The registry of classes

A registry holds classes with their own methods, beside the forest of their
names.  A class is registered under a parent that is registered already.

A class is looked at in two ways: by its own methods alone, or with the methods
that it inherits, where its own come first and hide those of the same name
further up.
-/

namespace MethodRoles

/-- A method with its documentation. -/
structure MethodEntry where
  /-- The name of the method. -/
  name : Text
  /-- Its documentation. -/
  documentation : Text
deriving DecidableEq

/-- A class with the methods that it declares itself. -/
structure ClassRecord (Object : Type) where
  /-- The name of the class. -/
  name : Text
  /-- The class that it inherits from. -/
  parent? : Option Text
  /-- Its own methods, in the order of their first declaration. -/
  methods : List MethodEntry
  /-- A fresh object; an abstract class has none. -/
  object? : Option Object

namespace ClassRecord

variable {Object : Type}

/-- An abstract class without parent and methods. -/
def named (name : Text) : ClassRecord Object :=
  ⟨name, none, [], none⟩

/-- Replace the entry with the name of another one by that one, or add it at the end. -/
def declareIn (entry : MethodEntry) : List MethodEntry → List MethodEntry
  | [] => [entry]
  | other :: others =>
      if other.name = entry.name then entry :: others else other :: declareIn entry others

/-- Declare a method; declaring it again replaces its documentation. -/
def declare (record : ClassRecord Object) (name documentation : Text) : ClassRecord Object :=
  { record with methods := declareIn ⟨name, documentation⟩ record.methods }

/-- The entry of a method that the class declares itself. -/
def method? (record : ClassRecord Object) (name : Text) : Option MethodEntry :=
  record.methods.find? fun entry => entry.name == name

/-- Whether no object of the class can be made. -/
def isAbstract (record : ClassRecord Object) : Bool :=
  record.object?.isNone

/-- The directory of the methods that the class declares itself. -/
def ownDirectory (record : ClassRecord Object) : Directory Object :=
  ⟨record.name, record.methods.map fun entry => (entry.name, some entry.documentation),
    record.object?⟩

/-- The description of a class in reports. -/
def describe (record : ClassRecord Object) : Text :=
  "NativeClass \x7b name: ".toList ++ Text.quoted record.name ++ ", parent: ".toList ++
    (match record.parent? with
      | some parent => "Some(".toList ++ Text.quoted parent ++ [')']
      | none => "None".toList) ++
    ", methods: ".toList ++ Text.ofNat record.methods.length ++ ", abstract: ".toList ++
    (if record.isAbstract then "true".toList else "false".toList) ++ " \x7d".toList

end ClassRecord

/-- Registered classes and the forest of their names. -/
structure Registry (Object : Type) where
  /-- The classes, in the order in which they were registered. -/
  records : List (ClassRecord Object)
  /-- The forest of their names. -/
  forest : Forest

namespace Registry

variable {Object : Type}

/-- The registry without classes. -/
def empty : Registry Object :=
  ⟨[], .empty⟩

/-- The number of classes. -/
def size (registry : Registry Object) : Nat :=
  registry.records.length

/-- The class registered under a name. -/
def find? (registry : Registry Object) (name : Text) : Option (ClassRecord Object) :=
  registry.records.find? fun record => record.name == name

/-- Whether a class is registered under a name. -/
def contains (registry : Registry Object) (name : Text) : Bool :=
  (registry.find? name).isSome

/-- Register a class.  A name in use is reported before an unknown parent. -/
def register (registry : Registry Object) (record : ClassRecord Object) :
    Except InheritanceError (Registry Object) :=
  if registry.contains record.name then
    .error (.duplicateClass record.name)
  else
    match registry.forest.add record.name record.parent? with
    | .error error => .error error
    | .ok forest => .ok ⟨registry.records ++ [record], forest⟩

/-- The names of the classes, level after level from the roots. -/
def classNames (registry : Registry Object) : List Text :=
  registry.forest.byLevel

/-- A class followed by the registered classes above it, from the nearest up. -/
def lineage (registry : Registry Object) (record : ClassRecord Object) :
    List (ClassRecord Object) :=
  record :: (registry.forest.ancestors record.name).filterMap registry.find?

/-- The directory of a class with the methods that it inherits. -/
def directoryOf (registry : Registry Object) (record : ClassRecord Object) :
    Directory Object :=
  ⟨record.name,
    Text.distinctByName
      ((registry.lineage record).flatMap fun ancestor => ancestor.ownDirectory.entries),
    record.object?⟩

/-- The directory, inherited methods included, of the class registered under a name. -/
def directory (registry : Registry Object) (name : Text) :
    Except InheritanceError (Directory Object) :=
  match registry.find? name with
  | some record => .ok (registry.directoryOf record)
  | none => .error (.unknownClass name)

/-- The directory of the own methods of the class registered under a name. -/
def ownDirectory (registry : Registry Object) (name : Text) :
    Except InheritanceError (Directory Object) :=
  match registry.find? name with
  | some record => .ok record.ownDirectory
  | none => .error (.unknownClass name)

/-- The description of a registry in reports. -/
def describe (registry : Registry Object) : Text :=
  "ClassRegistry \x7b classes: ".toList ++ Text.quotedList registry.classNames ++
    " \x7d".toList

/-- The description in reports of a class as the registry shows it. -/
def describeView (registry : Registry Object) (name : Text) :
    Except InheritanceError Text :=
  match registry.find? name with
  | some record =>
      .ok ("ClassView \x7b registry: ".toList ++ registry.describe ++ ", class: ".toList ++
        record.describe ++ " \x7d".toList)
  | none => .error (.unknownClass name)

end Registry

end MethodRoles
