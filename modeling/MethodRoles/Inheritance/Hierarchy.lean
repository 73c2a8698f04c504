import MethodRoles.Inheritance.Registry

/-!
# Hierarchies of classes

A hierarchy answers three questions about a class: what its parent is, what its
children are and whether an object of it can be made.  The answers come from
finite tables that nobody has checked, so parents and children need not agree
and either may run in a circle.

Both walks stop at what they have seen.  The measure of the upward walk counts
the table entries whose parent is still new; that of the downward walk counts
the waiting classes and the children of all classes that are still new.
-/

namespace MethodRoles

/-- Answers about classes, looked up by first match. -/
structure Hierarchy (Object : Type) where
  /-- The parents of classes. -/
  parents : List (Text × Text)
  /-- The children of classes. -/
  childLists : List (Text × List Text)
  /-- The objects of the classes that are not abstract. -/
  objects : List (Text × Object)

namespace Hierarchy

variable {Object : Type}

/-- The parent of a class. -/
def parent? (hierarchy : Hierarchy Object) (className : Text) : Option Text :=
  hierarchy.parents.lookup className

/-- The children of a class. -/
def children (hierarchy : Hierarchy Object) (className : Text) : List Text :=
  (hierarchy.childLists.lookup className).getD []

/-- A fresh object of a class. -/
def instantiate? (hierarchy : Hierarchy Object) (className : Text) : Option Object :=
  hierarchy.objects.lookup className

/-- The number of entries that lead to a class not seen yet. -/
def unseenParents (seen : List Text) : List (Text × Text) → Nat
  | [] => 0
  | entry :: others => (if entry.2 ∈ seen then 0 else 1) + unseenParents seen others

/-- The number of children in the entries of classes not seen yet. -/
def unseenChildren (seen : List Text) : List (Text × List Text) → Nat
  | [] => 0
  | entry :: others =>
      (if entry.1 ∈ seen then 0 else entry.2.length) + unseenChildren seen others

theorem unseenParents_cons_le (className : Text) (seen : List Text)
    (entries : List (Text × Text)) :
    unseenParents (className :: seen) entries ≤ unseenParents seen entries := by
  induction entries with
  | nil => simp [unseenParents]
  | cons entry others ih =>
      simp only [unseenParents, List.mem_cons]
      split <;> split <;> simp_all
      omega

theorem unseenParents_cons_lt {className parent : Text} {seen : List Text}
    {entries : List (Text × Text)} (found : entries.lookup className = some parent)
    (unseen : parent ∉ seen) :
    unseenParents (parent :: seen) entries < unseenParents seen entries := by
  induction entries with
  | nil => simp at found
  | cons entry others ih =>
      have bound := unseenParents_cons_le parent seen others
      rw [List.lookup_cons] at found
      simp only [unseenParents, List.mem_cons]
      split at found
      · simp only [Option.some.injEq] at found
        simp [found, unseen]
        omega
      · have later := ih found
        by_cases here : entry.2 = parent
        · simp only [here, true_or, ↓reduceIte, unseen]
          omega
        · simp only [here, false_or]
          omega

theorem unseenChildren_cons_le (className : Text) (seen : List Text)
    (entries : List (Text × List Text)) :
    unseenChildren (className :: seen) entries ≤ unseenChildren seen entries := by
  induction entries with
  | nil => simp [unseenChildren]
  | cons entry others ih =>
      simp only [unseenChildren, List.mem_cons]
      split <;> split <;> simp_all
      omega

theorem unseenChildren_cons_add_le {className : Text} {seen : List Text}
    (unseen : className ∉ seen) (entries : List (Text × List Text)) :
    ((entries.lookup className).getD []).length + unseenChildren (className :: seen) entries ≤
      unseenChildren seen entries := by
  induction entries with
  | nil => simp [unseenChildren]
  | cons entry others ih =>
      have bound := unseenChildren_cons_le className seen others
      rw [List.lookup_cons]
      simp only [unseenChildren, List.mem_cons]
      split
      · rename_i same
        simp only [beq_iff_eq] at same
        subst same
        simp [unseen]
        omega
      · rename_i differs
        have distinct : ¬ entry.1 = className := fun same => by
          simp [same] at differs
        simp only [distinct, false_or]
        omega

/-- The classes above a class up to the first that is seen already. -/
def climb (hierarchy : Hierarchy Object) (seen : List Text) (className : Text) : List Text :=
  match _found : hierarchy.parent? className with
  | none => []
  | some parent =>
      if _unseen : parent ∈ seen then
        []
      else
        parent :: hierarchy.climb (parent :: seen) parent
termination_by unseenParents seen hierarchy.parents
decreasing_by exact unseenParents_cons_lt _found _unseen

/-- The classes above a class, from the nearest up, until one would be listed again. -/
def ancestors (hierarchy : Hierarchy Object) (className : Text) : List Text :=
  hierarchy.climb [] className

/-- The classes that a walk enters when some classes are waiting and some are seen. -/
def descend (hierarchy : Hierarchy Object) (seen : List Text) : (waiting : List Text) → List Text
  | [] => []
  | next :: waiting =>
      if _unseen : next ∈ seen then
        hierarchy.descend seen waiting
      else
        next :: hierarchy.descend (next :: seen) (hierarchy.children next ++ waiting)
termination_by waiting => waiting.length + unseenChildren seen hierarchy.childLists
decreasing_by
  · simp
  · have := unseenChildren_cons_add_le _unseen hierarchy.childLists
    simp only [List.length_append, List.length_cons, children]
    omega

/-- The classes below a class, each entered once, depth first in the order of the children. -/
def descendants (hierarchy : Hierarchy Object) (className : Text) : List Text :=
  hierarchy.descend [] (hierarchy.children className)

end Hierarchy

/-- A registry as a hierarchy. -/
def Registry.toHierarchy {Object : Type} (registry : Registry Object) : Hierarchy Object where
  parents := registry.forest.links.filterMap fun link =>
    link.parent?.map fun parent => (link.name, parent)
  childLists := registry.forest.links.map fun link =>
    (link.name, registry.forest.children link.name)
  objects := registry.records.filterMap fun record =>
    record.object?.map fun object => (record.name, object)

end MethodRoles
