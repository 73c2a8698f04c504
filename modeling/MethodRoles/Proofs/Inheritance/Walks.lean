import MethodRoles.Inheritance.Hierarchy
import MethodRoles.Proofs.Inheritance.Registration

/-!
# Guarded walks

A hierarchy walks up and down on its own, by the answers about single classes, and
stops at what it has seen.  A forest walks without such a guard.  Where the hierarchy
answers as the forest does and the walk of the forest meets no class twice, the guard
never stops anything, so both walks are the same (`Follows.climb_eq` and
`Follows.descend_eq`).

In a well-formed forest no walk meets a class twice: a class that two siblings have
below them would have two chains of parents.  Hence both ways of walking agree in every
registry (`Registry.registerAll_walks`).
-/

namespace MethodRoles

namespace Forest

variable {forest : Forest} {className upper lower : Text}

/-! ## The classes below a class -/

section Graph

variable (graph : forest.IsGraph)

theorem transGen_of_mem_descendantsWithin {bound : Nat}
    (member : lower ∈ forest.descendantsWithin bound className) :
    Relation.TransGen forest.IsParent className lower := by
  induction bound generalizing className with
  | zero => simp [descendantsWithin] at member
  | succ bound induction =>
      rw [descendantsWithin, List.mem_flatMap] at member
      rcases member with ⟨child, listed, inside⟩
      have isParent := mem_children_iff.mp listed
      rcases List.mem_cons.mp inside with rfl | below
      · exact .single isParent
      · exact .head isParent (induction below)

include graph

/-- Of two classes above or at a third one, one is above or at the other. -/
theorem IsGraph.chain {first second : Text}
    (aboveFirst : Relation.ReflTransGen forest.IsParent first lower)
    (aboveSecond : Relation.ReflTransGen forest.IsParent second lower) :
    Relation.ReflTransGen forest.IsParent first second ∨
      Relation.ReflTransGen forest.IsParent second first := by
  have unique : Relator.RightUnique (Function.swap forest.IsParent) :=
    fun _ _ _ isParent isOther => isParent.unique graph.distinct isOther
  rw [← Relation.reflTransGen_swap] at aboveFirst aboveSecond
  rcases Relation.ReflTransGen.total_of_right_unique unique aboveFirst aboveSecond with
    upward | upward
  · exact .inr (Relation.reflTransGen_swap.mp upward)
  · exact .inl (Relation.reflTransGen_swap.mp upward)

variable (acyclic : forest.Acyclic)

include acyclic

/-- No class is above another one with the same parent. -/
theorem IsGraph.eq_of_siblings {first second : Text}
    (isParent : forest.IsParent className first) (isParentToo : forest.IsParent className second)
    (above : Relation.ReflTransGen forest.IsParent first second) : first = second := by
  rcases Relation.reflTransGen_iff_eq_or_transGen.mp above with same | above
  · exact same.symm
  · rcases Relation.TransGen.tail'_iff.mp above with ⟨parent, above, isOther⟩
    cases isOther.unique graph.distinct isParentToo
    exact absurd (Relation.TransGen.head' isParent above) (acyclic className)

/-- A walk down meets no class twice. -/
theorem nodup_descendantsWithin (bound : Nat) (className : Text) :
    (className :: forest.descendantsWithin bound className).Nodup := by
  induction bound generalizing className with
  | zero => exact List.nodup_singleton className
  | succ bound induction =>
      rw [List.nodup_cons]
      constructor
      · intro member
        exact acyclic className (transGen_of_mem_descendantsWithin member)
      · rw [descendantsWithin, List.nodup_flatMap]
        refine ⟨fun child _ => induction child, ?_⟩
        have reaches : ∀ {child lower}, lower ∈ child :: forest.descendantsWithin bound child →
            Relation.ReflTransGen forest.IsParent child lower := by
          intro child lower member
          rcases List.mem_cons.mp member with rfl | below
          · exact .refl
          · exact (transGen_of_mem_descendantsWithin below).to_reflTransGen
        -- Of two siblings above one class, one would be above the other.
        refine (nodup_children graph.distinct className).pairwise_of_forall_ne ?_
        intro first firstListed second secondListed differ lower inFirst inSecond
        have isParent := mem_children_iff.mp firstListed
        have isParentToo := mem_children_iff.mp secondListed
        rcases graph.chain (reaches inFirst) (reaches inSecond) with above | above
        · exact differ (graph.eq_of_siblings acyclic isParent isParentToo above)
        · exact differ (graph.eq_of_siblings acyclic isParentToo isParent above).symm

end Graph

section WellFormed

variable (wellFormed : forest.WellFormed)

include wellFormed

theorem WellFormed.mem_ancestors_iff :
    upper ∈ forest.ancestors className ↔ Relation.TransGen forest.IsParent upper className := by
  constructor
  · exact transGen_of_mem_ancestorsWithin wellFormed.toIsGraph
  · intro above
    induction above with
    | single isParent =>
        rw [wellFormed.ancestors_of_parent isParent]
        exact List.mem_cons_self
    | tail _ isParent induction =>
        rw [wellFormed.ancestors_of_parent isParent]
        exact List.mem_cons_of_mem _ induction

theorem WellFormed.mem_descendants_iff :
    lower ∈ forest.descendants className ↔
      Relation.TransGen forest.IsParent className lower := by
  constructor
  · exact transGen_of_mem_descendantsWithin
  · intro below
    induction below using Relation.TransGen.head_induction_on with
    | single isParent =>
        rw [wellFormed.descendants_eq, List.mem_flatMap]
        exact ⟨lower, mem_children_iff.mpr isParent, List.mem_cons_self⟩
    | @head _ child isParent _ induction =>
        rw [wellFormed.descendants_eq, List.mem_flatMap]
        exact ⟨child, mem_children_iff.mpr isParent, List.mem_cons_of_mem _ induction⟩

theorem WellFormed.nodup_ancestors (className : Text) :
    (className :: forest.ancestors className).Nodup :=
  nodup_ancestorsWithin wellFormed.toIsGraph wellFormed.acyclic _ className

theorem WellFormed.nodup_descendants (className : Text) :
    (className :: forest.descendants className).Nodup :=
  nodup_descendantsWithin wellFormed.toIsGraph wellFormed.acyclic _ className

theorem WellFormed.visits_children (className : Text) :
    Visits forest (forest.children className) (forest.descendants className) := by
  rw [wellFormed.descendants_eq]
  exact wellFormed.visits (forest.children className)

end WellFormed

end Forest

/-! ## Walking with a guard -/

namespace Hierarchy

variable {Object : Type} {hierarchy : Hierarchy Object} {forest : Forest}

/-- A hierarchy gives the answers of a forest about single classes. -/
structure Follows (hierarchy : Hierarchy Object) (forest : Forest) : Prop where
  parent?_eq : ∀ className, hierarchy.parent? className = forest.parent? className
  children_eq : ∀ className, hierarchy.children className = forest.children className

variable (follows : hierarchy.Follows forest)

include follows

/-- If going up meets neither a class twice nor one that is seen, the guard changes nothing. -/
theorem Follows.climb_eq {className : Text} {above : List Text}
    (climbs : forest.Climbs className above) {seen : List Text} (distinct : above.Nodup)
    (fresh : above.Disjoint seen) : hierarchy.climb seen className = above := by
  induction climbs generalizing seen with
  | root noParent =>
      rw [climb]
      split
      · rfl
      case h_2 parent found =>
        rw [follows.parent?_eq, noParent] at found
        contradiction
  | @up className parent above found _ induction =>
      rcases List.disjoint_cons_left.mp fresh with ⟨unseen, later⟩
      rcases List.nodup_cons.mp distinct with ⟨new, rest⟩
      rw [climb]
      split
      case h_1 none =>
        rw [follows.parent?_eq, found] at none
        contradiction
      case h_2 other foundToo =>
        rw [follows.parent?_eq, found] at foundToo
        cases foundToo
        rw [dif_neg unseen, induction rest (List.disjoint_cons_right.mpr ⟨new, later⟩)]

/-- If a walk down meets neither a class twice nor one that is seen, the guard changes nothing. -/
theorem Follows.descend_eq {waiting visited : List Text} (visits : forest.Visits waiting visited)
    {seen : List Text} (distinct : visited.Nodup) (fresh : visited.Disjoint seen) :
    hierarchy.descend seen waiting = visited := by
  induction visits generalizing seen with
  | done => rw [descend]
  | @visit next waiting visited _ induction =>
      rcases List.disjoint_cons_left.mp fresh with ⟨unseen, later⟩
      rcases List.nodup_cons.mp distinct with ⟨new, rest⟩
      rw [descend, dif_neg unseen, follows.children_eq,
        induction rest (List.disjoint_cons_right.mpr ⟨new, later⟩)]

theorem Follows.ancestors_eq (wellFormed : forest.WellFormed) (className : Text) :
    hierarchy.ancestors className = forest.ancestors className :=
  follows.climb_eq (wellFormed.climbs className)
    (wellFormed.nodup_ancestors className).of_cons (List.disjoint_nil_right _)

theorem Follows.descendants_eq (wellFormed : forest.WellFormed) (className : Text) :
    hierarchy.descendants className = forest.descendants className := by
  rw [descendants, follows.children_eq]
  exact follows.descend_eq (wellFormed.visits_children className)
    (wellFormed.nodup_descendants className).of_cons (List.disjoint_nil_right _)

end Hierarchy

/-! ## The hierarchy of a registry -/

namespace Registry

variable {Object : Type} {registry : Registry Object}

theorem mem_parents_iff {parent child : Text} :
    (child, parent) ∈ registry.toHierarchy.parents ↔ registry.forest.IsParent parent child := by
  simp only [toHierarchy, List.mem_filterMap, Option.map_eq_some_iff, Prod.mk.injEq]
  constructor
  · rintro ⟨⟨_, _⟩, listed, _, declared, rfl, rfl⟩
    cases declared
    exact listed
  · intro isParent
    exact ⟨_, isParent, parent, rfl, rfl, rfl⟩

theorem nodup_parents (distinct : registry.forest.names.Nodup) :
    (registry.toHierarchy.parents.map Prod.fst).Nodup := by
  have names : registry.toHierarchy.parents.map Prod.fst =
      (registry.forest.links.filter fun link => link.parent?.isSome).map ClassLink.name := by
    rw [toHierarchy, ← List.filterMap_eq_filter, List.map_filterMap, List.map_filterMap]
    congr 1
    funext link
    rcases link with ⟨_, _ | _⟩ <;> rfl
  rw [names]
  exact distinct.sublist (List.filter_sublist.map _)

theorem toHierarchy_follows (graph : registry.forest.IsGraph) :
    registry.toHierarchy.Follows registry.forest where
  parent?_eq := by
    intro className
    apply Option.ext
    intro parent
    rw [Hierarchy.parent?, Text.lookup_eq_some_iff_of_nodup (nodup_parents graph.distinct),
      mem_parents_iff, Forest.parent?_eq_some_iff graph.distinct]
  children_eq := by
    intro className
    have table : registry.toHierarchy.childLists =
        registry.forest.names.map fun name => (name, registry.forest.children name) := by
      rw [Forest.names, List.map_map]
      rfl
    rw [Hierarchy.children, table]
    by_cases listed : className ∈ registry.forest.names
    · rw [List.lookup_graph _ listed, Option.getD_some]
    · have absent : (registry.forest.names.map fun name =>
          (name, registry.forest.children name)).lookup className = none := by
        rw [List.lookup_eq_none_iff, List.forall_mem_map]
        intro name member
        rw [bne_iff_ne]
        rintro rfl
        exact listed member
      have childless : registry.forest.children className = [] := by
        rw [List.eq_nil_iff_forall_not_mem]
        intro child member
        exact listed (graph.closed (Forest.mem_children_iff.mp member))
      rw [absent, childless, Option.getD_none]

/--
The walks of a registry up and down from a class.  The walks of the forest have a
bound on their steps, which they never meet: they are the walks that end by themselves.
-/
structure Walks (registry : Registry Object) (className : Text) : Prop where
  /-- Going up, the forest comes to a root, -/
  climbs : registry.forest.Climbs className (registry.forest.ancestors className)
  /-- and going down, it runs out of classes. -/
  visits : registry.forest.Visits (registry.forest.children className)
    (registry.forest.descendants className)
  /-- The guarded walk up is that of the forest. -/
  ancestors_eq : registry.toHierarchy.ancestors className = registry.forest.ancestors className
  /-- The guarded walk down is that of the forest. -/
  descendants_eq :
    registry.toHierarchy.descendants className = registry.forest.descendants className
  /-- The classes above a class are distinct, and the class is not among them. -/
  distinctAbove : (className :: registry.forest.ancestors className).Nodup
  /-- The classes below a class are distinct, and the class is not among them. -/
  distinctBelow : (className :: registry.forest.descendants className).Nodup
  /-- The children of a class are those registered under it, in the order of registration, -/
  children_eq : registry.forest.children className =
    (registry.records.filter fun record => record.parent? == some className).map ClassRecord.name
  /-- and the classes below it are the children, each followed by the classes below the child. -/
  byChildren : registry.forest.descendants className =
    (registry.forest.children className).flatMap fun child =>
      child :: registry.forest.descendants child
  /-- A class is below another one exactly if that one is above it. -/
  mem_descendants_iff : ∀ lower, lower ∈ registry.forest.descendants className ↔
    className ∈ registry.forest.ancestors lower

theorem InStep.walks (inStep : registry.InStep) (className : Text) :
    registry.Walks className where
  climbs := inStep.wellFormed.climbs className
  visits := inStep.wellFormed.visits_children className
  ancestors_eq :=
    (toHierarchy_follows inStep.wellFormed.toIsGraph).ancestors_eq inStep.wellFormed className
  descendants_eq :=
    (toHierarchy_follows inStep.wellFormed.toIsGraph).descendants_eq inStep.wellFormed className
  distinctAbove := inStep.wellFormed.nodup_ancestors className
  distinctBelow := inStep.wellFormed.nodup_descendants className
  children_eq := by
    rw [Forest.children, inStep.linked, List.filter_map, List.map_map]
    rfl
  byChildren := inStep.wellFormed.descendants_eq className
  mem_descendants_iff := by
    intro lower
    rw [inStep.wellFormed.mem_descendants_iff, inStep.wellFormed.mem_ancestors_iff]

/--
After any registrations the guarded walks of the hierarchy and the walks of the forest
list the same classes in the same order, whatever class they start from.
-/
theorem registerAll_walks (records : List (ClassRecord Object)) (className : Text) :
    (registerAll records).2.Walks className :=
  (InStep.empty.callAll records).walks className

end Registry

end MethodRoles
