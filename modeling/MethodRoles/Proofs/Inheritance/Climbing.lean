import MethodRoles.Proofs.Inheritance.Growth
import Mathlib.Data.List.Perm.Subperm
import Mathlib.Order.WellFounded

/-!
# Walks through a forest

The walks of a forest are cut off after as many steps as there are classes.  The
relations here are the same walks without a bound: `Climbs` goes from parent to parent
until there is none, and `Visits` empties a stack of classes, putting the children of
each class on top of it.

In a well-formed forest the classes above a class are distinct, so there are fewer of
them than classes.  Hence the bounded walks are the whole walks, which therefore end
(`Forest.WellFormed.climbs` and `Forest.WellFormed.visits`).
-/

namespace MethodRoles

namespace Forest

/-- Going up from a class, without a bound, ends at a root after some classes. -/
inductive Climbs (forest : Forest) : Text → List Text → Prop where
  | root {className : Text} (noParent : forest.parent? className = none) :
      Climbs forest className []
  | up {className parent : Text} {above : List Text}
      (found : forest.parent? className = some parent) (climbs : Climbs forest parent above) :
      Climbs forest className (parent :: above)

/-- Emptying a stack of classes, without a bound, ends after some classes are visited. -/
inductive Visits (forest : Forest) : List Text → List Text → Prop where
  | done : Visits forest [] []
  | visit {next : Text} {waiting visited : List Text}
      (visits : Visits forest (forest.children next ++ waiting) visited) :
      Visits forest (next :: waiting) (next :: visited)

/-- Parents can be followed from a class for ever. -/
def NeverEnds (forest : Forest) (className : Text) : Prop :=
  ∃ path : Nat → Text, path 0 = className ∧
    ∀ step, forest.IsParent (path (step + 1)) (path step)

variable {forest : Forest} {className parent child : Text} {above : List Text}

theorem Climbs.unique (climbs : Climbs forest className above) {others : List Text}
    (climbsToo : Climbs forest className others) : above = others := by
  induction climbs generalizing others with
  | root noParent =>
      cases climbsToo with
      | root => rfl
      | up found => simp [noParent] at found
  | up found _ induction =>
      cases climbsToo with
      | root noParent => simp [noParent] at found
      | up foundToo climbsToo =>
          cases Option.some.inj (found.symm.trans foundToo)
          rw [induction climbsToo]

/-- A walk up that stops before its bound has come to a root. -/
theorem climbs_ancestorsWithin {bound : Nat}
    (stopped : (forest.ancestorsWithin bound className).length < bound) :
    Climbs forest className (forest.ancestorsWithin bound className) := by
  induction bound generalizing className with
  | zero => simp at stopped
  | succ bound induction =>
      rw [ancestorsWithin] at stopped ⊢
      split
      case h_1 noParent => exact .root noParent
      case h_2 parent found =>
        simp only [found, List.length_cons, Nat.add_lt_add_iff_right] at stopped
        exact .up found (induction stopped)

/-! ## Circles -/

theorem neverEnds_iff : forest.NeverEnds className ↔ ¬ Acc forest.IsParent className :=
  not_acc_iff_exists_descending_chain.symm

theorem neverEnds_of_circle
    (circle : Relation.TransGen forest.IsParent className className) :
    forest.NeverEnds className := by
  rw [neverEnds_iff]
  intro accessible
  have upward := accessible.transGen
  clear accessible
  induction upward with
  | intro className _ induction => exact induction className circle circle

theorem Climbs.not_neverEnds (climbs : Climbs forest className above)
    (distinct : forest.names.Nodup) : ¬ forest.NeverEnds className := by
  rw [neverEnds_iff, not_not]
  induction climbs with
  | root noParent =>
      constructor
      intro parent isParent
      rw [← parent?_eq_some_iff distinct, noParent] at isParent
      contradiction
  | up found _ induction =>
      constructor
      intro other isParent
      rw [← parent?_eq_some_iff distinct, found] at isParent
      exact Option.some.inj isParent ▸ induction

/-! ## The classes above a class -/

section Graph

variable (graph : forest.IsGraph)

include graph

theorem transGen_of_mem_ancestorsWithin {bound : Nat} {upper : Text}
    (member : upper ∈ forest.ancestorsWithin bound className) :
    Relation.TransGen forest.IsParent upper className := by
  induction bound generalizing className with
  | zero => simp [ancestorsWithin] at member
  | succ bound induction =>
      rw [ancestorsWithin] at member
      split at member
      · simp at member
      case h_2 parent found =>
        have isParent := (parent?_eq_some_iff graph.distinct).mp found
        rcases List.mem_cons.mp member with rfl | later
        · exact .single isParent
        · exact (induction later).tail isParent

theorem mem_names_of_transGen {upper : Text}
    (above : Relation.TransGen forest.IsParent upper className) : upper ∈ forest.names := by
  rcases Relation.TransGen.head'_iff.mp above with ⟨lower, isParent, -⟩
  exact graph.closed isParent

/-- A walk up meets no class twice. -/
theorem nodup_ancestorsWithin (acyclic : forest.Acyclic) (bound : Nat) (className : Text) :
    (className :: forest.ancestorsWithin bound className).Nodup := by
  induction bound generalizing className with
  | zero => exact List.nodup_singleton className
  | succ bound induction =>
      rw [List.nodup_cons]
      constructor
      · intro member
        exact acyclic className (transGen_of_mem_ancestorsWithin graph member)
      · rw [ancestorsWithin]
        split
        · exact List.nodup_nil
        · exact induction _

theorem length_ancestorsWithin_lt (acyclic : forest.Acyclic) (listed : className ∈ forest.names)
    (bound : Nat) : (forest.ancestorsWithin bound className).length < forest.size := by
  have among : className :: forest.ancestorsWithin bound className ⊆ forest.names := by
    intro upper member
    rcases List.mem_cons.mp member with rfl | member
    · exact listed
    · exact mem_names_of_transGen graph (transGen_of_mem_ancestorsWithin graph member)
  have shorter := (nodup_ancestorsWithin graph acyclic bound className).subperm among
  rw [← length_names]
  exact shorter.length_le

/-- In a graph without circles going up ends, and the bound cuts nothing off. -/
theorem climbs_ancestors (acyclic : forest.Acyclic) (className : Text) :
    Climbs forest className (forest.ancestors className) := by
  by_cases listed : className ∈ forest.names
  · exact climbs_ancestorsWithin (length_ancestorsWithin_lt graph acyclic listed _)
  · have noParent := parent?_eq_none_of_not_mem listed
    have nothing : forest.ancestors className = [] := by
      rw [ancestors]
      cases forest.size with
      | zero => rfl
      | succ bound => rw [ancestorsWithin, noParent]
    rw [nothing]
    exact .root noParent

theorem acyclic_iff :
    forest.Acyclic ↔ ∀ className ∈ forest.names, ¬ forest.NeverEnds className := by
  constructor
  · intro acyclic className _
    exact (climbs_ancestors graph acyclic className).not_neverEnds graph.distinct
  · intro ends className circle
    exact ends className (mem_names_of_transGen graph circle) (neverEnds_of_circle circle)

end Graph

/-! ## Walks in a well-formed forest -/

section WellFormed

variable (wellFormed : forest.WellFormed)

include wellFormed

theorem WellFormed.climbs (className : Text) :
    Climbs forest className (forest.ancestors className) :=
  climbs_ancestors wellFormed.toIsGraph wellFormed.acyclic className

theorem WellFormed.ancestors_of_parent (isParent : forest.IsParent parent child) :
    forest.ancestors child = parent :: forest.ancestors parent := by
  have found := (parent?_eq_some_iff wellFormed.distinct).mpr isParent
  exact (wellFormed.climbs child).unique (.up found (wellFormed.climbs parent))

theorem WellFormed.length_ancestors_lt (listed : className ∈ forest.names) :
    (forest.ancestors className).length < forest.size :=
  length_ancestorsWithin_lt wellFormed.toIsGraph wellFormed.acyclic listed _

theorem WellFormed.length_ancestors_of_mem_children (member : child ∈ forest.children parent) :
    (forest.ancestors child).length = (forest.ancestors parent).length + 1 := by
  rw [wellFormed.ancestors_of_parent (mem_children_iff.mp member), List.length_cons]

/-- Going down further than the forest is deep finds nothing new. -/
theorem WellFormed.descendantsWithin_succ {bound : Nat}
    (enough : forest.size ≤ (forest.ancestors className).length + bound + 1) :
    forest.descendantsWithin (bound + 1) className =
      forest.descendantsWithin bound className := by
  induction bound generalizing className with
  | zero =>
      have childless : forest.children className = [] := by
        rw [List.eq_nil_iff_forall_not_mem]
        intro child member
        have inside := wellFormed.length_ancestors_lt (mem_children_iff.mp member).mem_names
        rw [wellFormed.length_ancestors_of_mem_children member] at inside
        omega
      simp only [descendantsWithin, childless, List.flatMap_nil]
  | succ bound induction =>
      rw [descendantsWithin, descendantsWithin]
      apply List.flatMap_congr
      intro child member
      rw [induction]
      rw [wellFormed.length_ancestors_of_mem_children member]
      omega

/-- The classes below a class are its children, each followed by the classes below it. -/
theorem WellFormed.descendants_eq (className : Text) :
    forest.descendants className =
      (forest.children className).flatMap fun child => child :: forest.descendants child := by
  have stable : forest.descendantsWithin (forest.size + 1) className =
      forest.descendants className :=
    wellFormed.descendantsWithin_succ (by omega)
  rw [← stable, descendantsWithin]
  rfl

/-- Emptying a stack ends, with each class on it followed by the classes below it. -/
theorem WellFormed.visits (waiting : List Text) :
    Visits forest waiting
      (waiting.flatMap fun className => className :: forest.descendants className) := by
  -- The induction is on the number of classes still to visit, which the stack itself may exceed.
  generalize count : (waiting.flatMap fun className =>
    className :: forest.descendants className).length = left
  induction left generalizing waiting with
  | zero =>
      cases waiting with
      | nil => exact .done
      | cons next waiting => simp at count
  | succ left induction =>
      cases waiting with
      | nil => simp at count
      | cons next waiting =>
          have pushed : (next :: waiting).flatMap
              (fun className => className :: forest.descendants className) =
              next :: (forest.children next ++ waiting).flatMap
                fun className => className :: forest.descendants className := by
            rw [List.flatMap_cons, List.cons_append, wellFormed.descendants_eq next,
              List.flatMap_append]
          rw [pushed] at count ⊢
          exact .visit (induction _ (Nat.succ.inj count))

end WellFormed

end Forest

end MethodRoles
