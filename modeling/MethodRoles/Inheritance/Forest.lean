import MethodRoles.Text.Basic

/-!
# Forests of classes

A forest lists classes in the order in which they were added, each with its
parent if it has one.  It is grown class by class, each under a parent that is
already there, or built at once from pairs in any order.

The walks upwards and downwards are bounded by the number of classes.  In a
forest no chain of parents is longer than that, so the bound cuts nothing off.
-/

namespace MethodRoles

/-- Why a class is not found or not accepted. -/
inductive InheritanceError where
  /-- The class is there already. -/
  | duplicateClass (className : Text)
  /-- The class names a parent that is not there. -/
  | unknownParent (className parent : Text)
  /-- The class is not there. -/
  | unknownClass (className : Text)
  /-- The parents of some class never end. -/
  | cycle (className : Text)
deriving DecidableEq

namespace InheritanceError

/-- The message of an error. -/
def message : InheritanceError → Text
  | .duplicateClass className => "duplicate class: ".toList ++ className
  | .unknownParent className parent =>
      "class '".toList ++ className ++ "' names unknown parent '".toList ++ parent ++ ['\x27']
  | .unknownClass className => "unknown class: ".toList ++ className
  | .cycle className => "inheritance cycle through '".toList ++ className ++ ['\x27']

end InheritanceError

/-- A class with its parent. -/
structure ClassLink where
  /-- The class. -/
  name : Text
  /-- Its parent; a class without one is a root. -/
  parent? : Option Text
deriving DecidableEq

/-- Classes with their parents, in the order in which they were added. -/
structure Forest where
  /-- The classes. -/
  links : List ClassLink
deriving DecidableEq

namespace Forest

/-- The forest without classes. -/
def empty : Forest :=
  ⟨[]⟩

/-- The number of classes. -/
def size (forest : Forest) : Nat :=
  forest.links.length

/-- Whether a class is there. -/
def contains (forest : Forest) (className : Text) : Bool :=
  forest.links.any fun link => link.name == className

/-- The parent of a class. -/
def parent? (forest : Forest) (className : Text) : Option Text :=
  (forest.links.find? fun link => link.name == className).bind ClassLink.parent?

/-- The classes right below a class, in the order in which they were added. -/
def children (forest : Forest) (className : Text) : List Text :=
  (forest.links.filter fun link => link.parent? == some className).map ClassLink.name

/-- The classes without a parent, in the order in which they were added. -/
def roots (forest : Forest) : List Text :=
  (forest.links.filter fun link => link.parent?.isNone).map ClassLink.name

/-- The first `bound` parents above a class, from the nearest up. -/
def ancestorsWithin (forest : Forest) : (bound : Nat) → Text → List Text
  | 0, _ => []
  | bound + 1, className =>
      match forest.parent? className with
      | none => []
      | some parent => parent :: forest.ancestorsWithin bound parent

/-- The classes above a class, from the nearest up. -/
def ancestors (forest : Forest) (className : Text) : List Text :=
  forest.ancestorsWithin forest.size className

/-- The classes at most `bound` steps below a class, each before those below it. -/
def descendantsWithin (forest : Forest) : (bound : Nat) → Text → List Text
  | 0, _ => []
  | bound + 1, className =>
      (forest.children className).flatMap fun child =>
        child :: forest.descendantsWithin bound child

/-- The classes below a class, each before those below it, siblings as they were added. -/
def descendants (forest : Forest) (className : Text) : List Text :=
  forest.descendantsWithin forest.size className

/-- The number of classes above a class. -/
def level? (forest : Forest) (className : Text) : Option Nat :=
  if forest.contains className then some (forest.ancestors className).length else none

/-- At most `bound` levels, the first of which is given. -/
def levelsWithin (forest : Forest) : (bound : Nat) → List Text → List (List Text)
  | 0, _ => []
  | bound + 1, level =>
      if level.isEmpty then
        []
      else
        level :: forest.levelsWithin bound (level.flatMap forest.children)

/-- The classes by level, from the roots down. -/
def levels (forest : Forest) : List (List Text) :=
  forest.levelsWithin forest.size forest.roots

/-- All classes, level after level. -/
def byLevel (forest : Forest) : List Text :=
  forest.levels.flatten

/-- Add a class.  An unknown parent is reported before a class that is there already. -/
def add (forest : Forest) (className : Text) (parent? : Option Text) :
    Except InheritanceError Forest :=
  match parent?.filter fun parent => !forest.contains parent with
  | some parent => .error (.unknownParent className parent)
  | none =>
      if forest.contains className then
        .error (.duplicateClass className)
      else
        .ok ⟨forest.links ++ [⟨className, parent?⟩]⟩

/-- The first class that occurs a second time, given the classes before. -/
def repeated? (before : List Text) : List ClassLink → Option Text
  | [] => none
  | link :: others =>
      if before.contains link.name then some link.name else repeated? (link.name :: before) others

/-- The first class whose parent is not there, with that parent. -/
def orphan? (forest : Forest) : Option (Text × Text) :=
  forest.links.findSome? fun link =>
    (link.parent?.filter fun parent => !forest.contains parent).map (link.name, ·)

/-- Whether the parents of a class end at a root within `bound` classes. -/
def reachesRoot (forest : Forest) : (bound : Nat) → Text → Bool
  | 0, _ => false
  | bound + 1, className =>
      match forest.parent? className with
      | none => true
      | some parent => forest.reachesRoot bound parent

/-- Whether the parents of every class end at a root. -/
def isAcyclic (forest : Forest) : Bool :=
  forest.links.all fun link => forest.reachesRoot forest.size link.name

/--
The forest of some classes in any order, when `isCyclic` finds the circles.  A
class listed twice is reported first, an unknown parent next and a cycle last, by
the first class listed.
-/
def ofLinksBy (isCyclic : Forest → Bool) (links : List ClassLink) :
    Except InheritanceError Forest :=
  let forest : Forest := ⟨links⟩
  match repeated? [] links, forest.orphan? with
  | some className, _ => .error (.duplicateClass className)
  | none, some (className, parent) => .error (.unknownParent className parent)
  | none, none =>
      if isCyclic forest then
        .error (.cycle ((links.head?.map ClassLink.name).getD []))
      else
        .ok forest

/-- Whether the parents of some class run in a circle. -/
def isCyclic (forest : Forest) : Bool :=
  !forest.isAcyclic

/-- The forest of some classes in any order. -/
def ofLinks (links : List ClassLink) : Except InheritanceError Forest :=
  ofLinksBy isCyclic links

end Forest

end MethodRoles
