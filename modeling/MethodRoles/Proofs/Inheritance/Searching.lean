import MethodRoles.Inheritance.Hierarchy
import Mathlib.Data.List.Chain
import Mathlib.Data.List.Nodup
import Mathlib.Logic.Relation

/-!
# Searching any hierarchy

The tables of a hierarchy may hold anything: a class may be listed below several others,
and parents and children may run in a circle.  The walks end all the same.  Each round of
the walk down takes a class off the stack, and only classes that are new put others on
it, so there are no more rounds than children in the tables.

The stack is a device.  What the walk down lists is what a recursive search enters that
goes into every child not seen before, in the order in which it enters them
(`Hierarchy.searches_iff`).  These are exactly the classes that can be reached by going
from class to child.  The walk up follows the parents until there is none or the next one
is listed already (`Hierarchy.walksEnd`).
-/

namespace MethodRoles

namespace Hierarchy

variable {Object : Type}

/-- A class is listed among the children of another one. -/
def IsChild (hierarchy : Hierarchy Object) (upper lower : Text) : Prop :=
  lower ∈ hierarchy.children upper

/--
A stack is emptied, without a bound, in a number of rounds.  A class that is taken off
and was not seen before is entered, and its children are put on top.
-/
inductive Empties (hierarchy : Hierarchy Object) :
    (seen waiting entered : List Text) → (rounds : Nat) → Prop where
  | done (seen : List Text) : Empties hierarchy seen [] [] 0
  | skip {seen waiting entered : List Text} {next : Text} {rounds : Nat} (known : next ∈ seen)
      (later : Empties hierarchy seen waiting entered rounds) :
      Empties hierarchy seen (next :: waiting) entered (rounds + 1)
  | enter {seen waiting entered : List Text} {next : Text} {rounds : Nat} (new : next ∉ seen)
      (later : Empties hierarchy (next :: seen) (hierarchy.children next ++ waiting) entered
        rounds) :
      Empties hierarchy seen (next :: waiting) (next :: entered) (rounds + 1)

/--
A recursive search goes through siblings in turn.  It enters each one not seen before,
searches the children of that one, and goes on with all that it has entered as seen.
-/
inductive Searches (hierarchy : Hierarchy Object) :
    (seen siblings entered : List Text) → Prop where
  | done (seen : List Text) : Searches hierarchy seen [] []
  | skip {seen siblings entered : List Text} {next : Text} (known : next ∈ seen)
      (others : Searches hierarchy seen siblings entered) :
      Searches hierarchy seen (next :: siblings) entered
  | enter {seen siblings inside entered : List Text} {next : Text} (new : next ∉ seen)
      (below : Searches hierarchy (next :: seen) (hierarchy.children next) inside)
      (others : Searches hierarchy (inside.reverse ++ next :: seen) siblings entered) :
      Searches hierarchy seen (next :: siblings) (next :: inside ++ entered)

variable {hierarchy : Hierarchy Object} {seen waiting siblings entered : List Text}
  {className upper lower : Text}

/-! ## The stack -/

theorem unseenChildren_nil (entries : List (Text × List Text)) :
    unseenChildren [] entries = (entries.flatMap Prod.snd).length := by
  induction entries with
  | nil => rfl
  | cons entry others induction => simp [unseenChildren, induction]

theorem exists_empties_descend (hierarchy : Hierarchy Object) (seen waiting : List Text) :
    ∃ rounds ≤ waiting.length + unseenChildren seen hierarchy.childLists,
      hierarchy.Empties seen waiting (hierarchy.descend seen waiting) rounds := by
  fun_induction hierarchy.descend seen waiting with
  | case1 seen => exact ⟨0, Nat.zero_le _, .done seen⟩
  | case2 seen next waiting known induction =>
      rcases induction with ⟨rounds, bound, empties⟩
      refine ⟨rounds + 1, ?_, .skip known empties⟩
      rw [List.length_cons]
      omega
  | case3 seen next waiting new induction =>
      rcases induction with ⟨rounds, bound, empties⟩
      refine ⟨rounds + 1, ?_, .enter new empties⟩
      have pushed := unseenChildren_cons_add_le new hierarchy.childLists
      rw [List.length_append, children] at bound
      rw [List.length_cons]
      omega

/-! ## The recursive search -/

theorem Searches.unique (searches : hierarchy.Searches seen siblings entered)
    {others : List Text} (searchesToo : hierarchy.Searches seen siblings others) :
    entered = others := by
  induction searches generalizing others with
  | done => cases searchesToo; rfl
  | skip known _ induction =>
      cases searchesToo with
      | skip _ searchesToo => exact induction searchesToo
      | enter new => exact absurd known new
  | enter new _ _ inside later =>
      cases searchesToo with
      | skip known => exact absurd known new
      | enter _ insideToo laterToo =>
          cases inside insideToo
          rw [later laterToo]

/-- A search through two lists of siblings ends the first before it begins the second. -/
theorem Searches.split {first second : List Text}
    (searches : hierarchy.Searches seen (first ++ second) entered) :
    ∃ inside later, entered = inside ++ later ∧ hierarchy.Searches seen first inside ∧
      hierarchy.Searches (inside.reverse ++ seen) second later := by
  induction first generalizing seen entered with
  | nil => exact ⟨[], entered, rfl, .done seen, searches⟩
  | cons next first induction =>
      cases searches with
      | skip known others =>
          rcases induction others with ⟨inside, later, rfl, searches, rest⟩
          exact ⟨inside, later, rfl, .skip known searches, rest⟩
      | @enter _ _ below _ _ new searchesBelow others =>
          rcases induction others with ⟨inside, later, rfl, searches, rest⟩
          refine ⟨next :: below ++ inside, later, ?_, .enter new searchesBelow searches, ?_⟩
          · rw [List.append_assoc]
          · simpa using rest

/-- The classes that the stack gives are those that the recursive search enters. -/
theorem searches_descend (hierarchy : Hierarchy Object) (seen waiting : List Text) :
    hierarchy.Searches seen waiting (hierarchy.descend seen waiting) := by
  fun_induction hierarchy.descend seen waiting with
  | case1 seen => exact .done seen
  | case2 seen next waiting known induction => exact .skip known induction
  | case3 seen next waiting new induction =>
      -- The stack holds the children and the siblings in one list.
      rcases induction.split with ⟨inside, later, whole, below, others⟩
      rw [whole]
      exact .enter new below others

theorem searches_iff : hierarchy.Searches seen waiting entered ↔
    entered = hierarchy.descend seen waiting := by
  constructor
  · intro searches
    exact searches.unique (hierarchy.searches_descend seen waiting)
  · rintro rfl
    exact hierarchy.searches_descend seen waiting

/-! ## The classes that are entered -/

theorem fresh_descend (hierarchy : Hierarchy Object) (seen waiting : List Text) :
    (hierarchy.descend seen waiting).Nodup ∧ (hierarchy.descend seen waiting).Disjoint seen := by
  fun_induction hierarchy.descend seen waiting with
  | case1 seen => exact ⟨List.nodup_nil, List.disjoint_nil_left seen⟩
  | case2 seen next waiting known induction => exact induction
  | case3 seen next waiting new induction =>
      rcases induction with ⟨distinct, fresh⟩
      rcases List.disjoint_cons_right.mp fresh with ⟨unentered, fresh⟩
      exact ⟨distinct.cons unentered, List.disjoint_cons_left.mpr ⟨new, fresh⟩⟩

theorem nodup_descendants (hierarchy : Hierarchy Object) (className : Text) :
    (hierarchy.descendants className).Nodup :=
  (hierarchy.fresh_descend [] (hierarchy.children className)).1

/-- Every class that waits is seen at the end. -/
theorem seen_of_mem_waiting (waits : className ∈ waiting) :
    className ∈ seen ∨ className ∈ hierarchy.descend seen waiting := by
  fun_induction hierarchy.descend seen waiting with
  | case1 seen => contradiction
  | case2 seen next waiting known induction =>
      rcases List.mem_cons.mp waits with rfl | waits
      · exact .inl known
      · exact induction waits
  | case3 seen next waiting new induction =>
      rcases List.mem_cons.mp waits with rfl | waits
      · exact .inr List.mem_cons_self
      · have later := induction (List.mem_append_right _ waits)
        grind

/-- Every child of a class that is entered is seen at the end. -/
theorem seen_of_isChild (inside : upper ∈ hierarchy.descend seen waiting)
    (isChild : hierarchy.IsChild upper lower) :
    lower ∈ seen ∨ lower ∈ hierarchy.descend seen waiting := by
  fun_induction hierarchy.descend seen waiting with
  | case1 seen => contradiction
  | case2 seen next waiting known induction => exact induction inside
  | case3 seen next waiting new induction =>
      have later : lower ∈ next :: seen ∨
          lower ∈ hierarchy.descend (next :: seen) (hierarchy.children next ++ waiting) := by
        rcases List.mem_cons.mp inside with rfl | inside
        · exact seen_of_mem_waiting (List.mem_append_left _ isChild)
        · exact induction inside
      grind

/-- A class is entered on a path whose other classes were all entered before it. -/
theorem exists_path_of_descend_eq {before after : List Text}
    (split : hierarchy.descend seen waiting = before ++ className :: after) :
    ∃ first ∈ waiting, Relation.ReflTransGen
      (fun upper lower => hierarchy.IsChild upper lower ∧ upper ∈ before) first className := by
  fun_induction hierarchy.descend seen waiting generalizing before with
  | case1 seen => simp at split
  | case2 seen next waiting known induction =>
      rcases induction split with ⟨first, waits, path⟩
      exact ⟨first, List.mem_cons_of_mem next waits, path⟩
  | case3 seen next waiting new induction =>
      rcases before with _ | ⟨other, before⟩
      · cases split
        exact ⟨className, List.mem_cons_self, .refl⟩
      · rw [List.cons_append, List.cons.injEq] at split
        rcases split with ⟨same, split⟩
        subst other
        rcases induction split with ⟨first, waits, path⟩
        have longer : Relation.ReflTransGen
            (fun upper lower => hierarchy.IsChild upper lower ∧ upper ∈ next :: before)
            first className :=
          Relation.ReflTransGen.mono
            (fun _ _ step => ⟨step.1, List.mem_cons_of_mem next step.2⟩) _ _ path
        rcases List.mem_append.mp waits with isChild | waits
        · exact ⟨next, List.mem_cons_self, .head ⟨isChild, List.mem_cons_self⟩ longer⟩
        · exact ⟨first, List.mem_cons_of_mem next waits, longer⟩

theorem exists_path_of_descendants_eq {before after : List Text}
    (split : hierarchy.descendants upper = before ++ lower :: after) :
    ∃ child, hierarchy.IsChild upper child ∧ Relation.ReflTransGen
      (fun first second => hierarchy.IsChild first second ∧ first ∈ before) child lower :=
  exists_path_of_descend_eq split

/-- The classes below a class are those that can be reached from child to child. -/
theorem mem_descendants_iff : lower ∈ hierarchy.descendants upper ↔
    Relation.TransGen hierarchy.IsChild upper lower := by
  constructor
  · intro inside
    rcases List.append_of_mem inside with ⟨before, after, split⟩
    rcases exists_path_of_descendants_eq split with ⟨child, isChild, path⟩
    exact .head' isChild (Relation.ReflTransGen.mono (fun _ _ step => step.1) _ _ path)
  · intro below
    have seen : lower ∈ [] ∨ lower ∈ hierarchy.descendants upper := by
      induction below with
      | single isChild => exact seen_of_mem_waiting isChild
      | tail _ isChild induction =>
          exact seen_of_isChild (induction.resolve_left List.not_mem_nil) isChild
    exact seen.resolve_left List.not_mem_nil

/-! ## The walk up -/

theorem unseenParents_nil (entries : List (Text × Text)) :
    unseenParents [] entries = entries.length := by
  induction entries with
  | nil => rfl
  | cons entry others induction =>
      simp [unseenParents, induction, Nat.add_comm]

theorem length_climb_le (hierarchy : Hierarchy Object) (seen : List Text) (className : Text) :
    (hierarchy.climb seen className).length ≤ unseenParents seen hierarchy.parents := by
  fun_induction hierarchy.climb seen className with
  | case1 => exact Nat.zero_le _
  | case2 => exact Nat.zero_le _
  | case3 seen className parent found new induction =>
      exact Nat.lt_of_le_of_lt induction (unseenParents_cons_lt found new)

theorem fresh_climb (hierarchy : Hierarchy Object) (seen : List Text) (className : Text) :
    (hierarchy.climb seen className).Nodup ∧ (hierarchy.climb seen className).Disjoint seen := by
  fun_induction hierarchy.climb seen className with
  | case1 => exact ⟨List.nodup_nil, List.disjoint_nil_left _⟩
  | case2 => exact ⟨List.nodup_nil, List.disjoint_nil_left _⟩
  | case3 seen className parent found new induction =>
      rcases induction with ⟨distinct, fresh⟩
      rcases List.disjoint_cons_right.mp fresh with ⟨unlisted, fresh⟩
      exact ⟨distinct.cons unlisted, List.disjoint_cons_left.mpr ⟨new, fresh⟩⟩

/-- Each class of the walk up is followed by its parent. -/
theorem isChain_climb (hierarchy : Hierarchy Object) (seen : List Text) (className : Text) :
    List.IsChain (fun lower upper => hierarchy.parent? lower = some upper)
      (className :: hierarchy.climb seen className) := by
  fun_induction hierarchy.climb seen className with
  | case1 => exact .singleton _
  | case2 => exact .singleton _
  | case3 seen className parent found new induction => exact .cons_cons found induction

/-- The walk up ends at a class without a parent or before one that is seen already. -/
theorem end_of_climb {highest : Text}
    (last : (className :: hierarchy.climb seen className).getLast? = some highest) :
    hierarchy.parent? highest = none ∨ ∃ parent, hierarchy.parent? highest = some parent ∧
      (parent ∈ seen ∨ parent ∈ hierarchy.climb seen className) := by
  fun_induction hierarchy.climb seen className with
  | case1 seen className noParent =>
      cases last
      exact .inl noParent
  | case2 seen className parent found known =>
      cases last
      exact .inr ⟨parent, found, .inl known⟩
  | case3 seen className parent found new induction =>
      rw [List.getLast?_cons_cons] at last
      rcases induction last with noParent | ⟨next, foundToo, listed⟩
      · exact .inl noParent
      · refine .inr ⟨next, foundToo, ?_⟩
        grind

/-! ## Hierarchies without circles -/

/-- No class is below itself. -/
def Acyclic (hierarchy : Hierarchy Object) : Prop :=
  ∀ className, ¬ Relation.TransGen hierarchy.IsChild className className

theorem mem_childLists_of_isChild (isChild : hierarchy.IsChild upper lower) :
    ∃ names, (upper, names) ∈ hierarchy.childLists ∧ lower ∈ names := by
  rw [IsChild, children] at isChild
  cases found : hierarchy.childLists.lookup upper with
  | none => simp [found] at isChild
  | some names =>
      rw [found, Option.getD_some] at isChild
      rcases List.lookup_eq_some_iff.mp found with ⟨before, after, split, -⟩
      exact ⟨names, by simp [split], isChild⟩

/-- A hierarchy is acyclic if the children of each class rank higher than the class. -/
theorem acyclic_of_rank (rank : Text → Nat)
    (higher : ∀ entry ∈ hierarchy.childLists, ∀ child ∈ entry.2, rank entry.1 < rank child) :
    hierarchy.Acyclic := by
  have increases {upper lower : Text} (below : Relation.TransGen hierarchy.IsChild upper lower) :
      rank upper < rank lower := by
    have step {upper lower : Text} (isChild : hierarchy.IsChild upper lower) :
        rank upper < rank lower := by
      rcases mem_childLists_of_isChild isChild with ⟨names, listed, member⟩
      exact higher _ listed lower member
    induction below with
    | single isChild => exact step isChild
    | tail _ isChild induction => exact induction.trans (step isChild)
  intro className circle
  exact Nat.lt_irrefl _ (increases circle)

/-! ## Both walks -/

/-- What the walks from a class list, whatever the tables of the hierarchy hold. -/
structure WalksEnd (hierarchy : Hierarchy Object) (className : Text) : Prop where
  /-- The stack is emptied, in as many rounds at most as children are ever put on it. -/
  empties : ∃ rounds, hierarchy.Empties [] (hierarchy.children className)
      (hierarchy.descendants className) rounds ∧
    rounds ≤ (hierarchy.children className).length +
      (hierarchy.childLists.flatMap Prod.snd).length
  /-- The walk down lists the classes in the order in which the recursive search enters them, -/
  searches : ∀ entered, hierarchy.Searches [] (hierarchy.children className) entered ↔
    entered = hierarchy.descendants className
  /-- each of them once, -/
  distinctBelow : (hierarchy.descendants className).Nodup
  /-- and they are those that can be reached by one step to a child or more. -/
  reached : ∀ lower, lower ∈ hierarchy.descendants className ↔
    Relation.TransGen hierarchy.IsChild className lower
  /-- The walk up takes as many steps at most as the table of parents has entries. -/
  ends : (hierarchy.ancestors className).length ≤ hierarchy.parents.length
  /-- It goes from each class to its parent, -/
  follows : List.IsChain (fun lower upper => hierarchy.parent? lower = some upper)
    (className :: hierarchy.ancestors className)
  /-- lists no class twice -/
  distinctAbove : (hierarchy.ancestors className).Nodup
  /-- and ends at a class without a parent or before a class that is listed already. -/
  highest : ∀ highest, (className :: hierarchy.ancestors className).getLast? = some highest →
    hierarchy.parent? highest = none ∨
      ∃ parent ∈ hierarchy.ancestors className, hierarchy.parent? highest = some parent

/-- Both walks end in every hierarchy, circles or not, and list what they ought to. -/
theorem walksEnd (hierarchy : Hierarchy Object) (className : Text) :
    hierarchy.WalksEnd className where
  empties := by
    rcases hierarchy.exists_empties_descend [] (hierarchy.children className) with
      ⟨rounds, bound, empties⟩
    rw [unseenChildren_nil] at bound
    exact ⟨rounds, empties, bound⟩
  searches := fun _ => searches_iff
  distinctBelow := hierarchy.nodup_descendants className
  reached := fun _ => mem_descendants_iff
  ends := by
    rw [← unseenParents_nil]
    exact hierarchy.length_climb_le [] className
  follows := hierarchy.isChain_climb [] className
  distinctAbove := (hierarchy.fresh_climb [] className).1
  highest := by
    intro highest last
    rcases end_of_climb last with noParent | ⟨parent, found, listed⟩
    · exact .inl noParent
    · exact .inr ⟨parent, listed.resolve_left List.not_mem_nil, found⟩

end Hierarchy

end MethodRoles
