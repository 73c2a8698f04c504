import Mathlib.Init
import MethodRoles.Inheritance.Registry

/-!
# Classes with an index of their methods

Beside the list of its methods a class keeps the place of each of them in that list, by
its name.  The two change together: a method that is declared again is replaced at its
place, and any other one is put at the end, where its place is noted.

A method is then looked up by going to its place, without a search.  A place behind the
end of the list would be a fault there, and it is a result of its own here.
-/

namespace MethodRoles

/-- A place behind the end of a list was gone to. -/
structure OutOfRange where
  /-- The place. -/
  place : Nat
  /-- The length of the list. -/
  size : Nat
deriving DecidableEq

/-- A name is hashed as a string. -/
instance : Hashable Text :=
  ⟨fun name => hash (String.ofList name)⟩

/-- Methods in a list, with the places that are noted for their names. -/
structure MethodIndex where
  /-- The methods. -/
  entries : List MethodEntry
  /-- The places by name. -/
  places : Std.HashMap Text Nat

namespace MethodIndex

/-- No methods. -/
def empty : MethodIndex :=
  ⟨[], ∅⟩

/-- The names of the methods, in their order. -/
def names (index : MethodIndex) : List Text :=
  index.entries.map MethodEntry.name

/-- The method at a place. -/
def entryAt (index : MethodIndex) (place : Nat) : Except OutOfRange MethodEntry :=
  match index.entries[place]? with
  | some entry => .ok entry
  | none => .error ⟨place, index.entries.length⟩

/-- Put another method at a place. -/
def replaceAt (index : MethodIndex) (place : Nat) (entry : MethodEntry) :
    Except OutOfRange MethodIndex :=
  if place < index.entries.length then
    .ok ⟨index.entries.set place entry, index.places⟩
  else
    .error ⟨place, index.entries.length⟩

/-- Put a method at the end and note its place. -/
def append (index : MethodIndex) (entry : MethodEntry) : MethodIndex :=
  ⟨index.entries ++ [entry], index.places.insert entry.name index.entries.length⟩

/-- Declare a method; declaring it again replaces it where it stands. -/
def declare (index : MethodIndex) (entry : MethodEntry) : Except OutOfRange MethodIndex :=
  match index.places[entry.name]? with
  | some place => index.replaceAt place entry
  | none => .ok (index.append entry)

/-- The method with a name, if a place is noted for it. -/
def method? (index : MethodIndex) (name : Text) : Except OutOfRange (Option MethodEntry) :=
  match index.places[name]? with
  | some place => (index.entryAt place).map some
  | none => .ok none

/-- The documentation of a method. -/
def documentation? (index : MethodIndex) (name : Text) : Except OutOfRange (Option Text) :=
  (index.method? name).map (Option.map MethodEntry.documentation)

/-- Whether a place is noted for a name. -/
def hasMethod (index : MethodIndex) (name : Text) : Bool :=
  index.places.contains name

end MethodIndex

/-- A call that adds to the description of a class. -/
inductive BuilderCall (Object : Type) where
  /-- Declare a method. -/
  | declare (entry : MethodEntry)
  /-- Set the parent. -/
  | withParent (parent : Text)
  /-- Make the class concrete. -/
  | concrete (object : Object)

namespace BuilderCall

variable {Object : Type}

/-- The method that a call declares. -/
def entry? : BuilderCall Object → Option MethodEntry
  | declare entry => some entry
  | _ => none

end BuilderCall

/-- A class that looks its own methods up by their places. -/
structure IndexedClass (Object : Type) where
  /-- The name of the class. -/
  name : Text
  /-- The class that it inherits from. -/
  parent? : Option Text
  /-- Its own methods. -/
  index : MethodIndex
  /-- A fresh object; an abstract class has none. -/
  object? : Option Object

namespace IndexedClass

variable {Object : Type}

/-- An abstract class without parent and methods. -/
def named (name : Text) : IndexedClass Object :=
  ⟨name, none, .empty, none⟩

/-- What a call makes of a class. -/
def after (indexed : IndexedClass Object) :
    BuilderCall Object → Except OutOfRange (IndexedClass Object)
  | .declare entry => do
      let index ← indexed.index.declare entry
      return { indexed with index }
  | .withParent parent => return { indexed with parent? := some parent }
  | .concrete object => return { indexed with object? := some object }

/-- Build a class from its name by some calls in turn. -/
def build (name : Text) (calls : List (BuilderCall Object)) :
    Except OutOfRange (IndexedClass Object) :=
  calls.foldlM after (named name)

/-- The class without its noted places. -/
def toRecord (indexed : IndexedClass Object) : ClassRecord Object :=
  ⟨indexed.name, indexed.parent?, indexed.index.entries, indexed.object?⟩

end IndexedClass

namespace ClassRecord

variable {Object : Type}

/-- What a call makes of a class that is searched for its methods. -/
def after (record : ClassRecord Object) : BuilderCall Object → ClassRecord Object
  | .declare entry => record.declare entry.name entry.documentation
  | .withParent parent => { record with parent? := some parent }
  | .concrete object => { record with object? := some object }

/-- Build a class that is searched for its methods from its name by some calls in turn. -/
def build (name : Text) (calls : List (BuilderCall Object)) : ClassRecord Object :=
  calls.foldl after (named name)

end ClassRecord

end MethodRoles
