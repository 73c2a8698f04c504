import MethodRoles.Text.Keyed

/-!
# Directories of classes

A directory is what is known about a class from outside: its name, the names of
its methods as they are listed, with their documentation, and a fresh object if
one can be made.  Names may be listed more than once; the documentation of a
name is that of its first entry.
-/

namespace MethodRoles

/-- What is known about a class from outside. -/
structure Directory (Object : Type) where
  /-- The name of the class. -/
  className : Text
  /-- The listed methods with their documentation. -/
  entries : List (Text × Option Text)
  /-- A fresh object; an abstract class has none. -/
  object? : Option Object

namespace Directory

variable {Object : Type}

/-- The names of the methods, as they are listed. -/
def methodNames (directory : Directory Object) : List Text :=
  directory.entries.map Prod.fst

/-- The documentation of a method. -/
def documentation? (directory : Directory Object) (method : Text) : Option Text :=
  (directory.entries.lookup method).join

/-- Whether a method is listed. -/
def hasMethod (directory : Directory Object) (method : Text) : Bool :=
  directory.methodNames.contains method

end Directory

end MethodRoles
