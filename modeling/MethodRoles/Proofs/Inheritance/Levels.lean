import MethodRoles.Proofs.Inheritance.Building
import Mathlib.Data.List.Nodup

/-!
# The levels of a forest

The classes with the same number of classes above them form a generation, and the
levels of a well-formed forest are its generations down to the last one that is not
empty.  So the levels, put one after the other, hold every class once and each class
after its parent.

A forest is grown from nothing or from links by calls, of which some may fail.  All
such forests are well formed, so the above holds of every one of them
(`Forest.Grown.isFiniteForest`).
-/

namespace MethodRoles

namespace Forest

/-- The classes that `depth` steps lead down to from the roots. -/
def generation (forest : Forest) : (depth : Nat) → List Text
  | 0 => forest.roots
  | depth + 1 => (forest.generation depth).flatMap forest.children

/-- Going down level by level, without a bound, ends after some levels. -/
inductive Layers (forest : Forest) : List Text → List (List Text) → Prop where
  | done : Layers forest [] []
  | layer {level : List Text} {below : List (List Text)} (nonempty : level ≠ [])
      (layers : Layers forest (level.flatMap forest.children) below) :
      Layers forest level (level :: below)

variable {forest : Forest} {className parent child : Text} {depth : Nat}

/-- A walk by levels goes through the generations down to the first empty one. -/
theorem Layers.eq_map_generation {levels : List (List Text)} (depth : Nat)
    (layers : Layers forest (forest.generation depth) levels) :
    levels = (List.range levels.length).map (fun step => forest.generation (depth + step)) ∧
      forest.generation (depth + levels.length) = [] := by
  generalize start : forest.generation depth = level at layers
  induction layers generalizing depth with
  | done => exact ⟨rfl, start⟩
  | @layer level below _ _ induction =>
      rcases induction (depth + 1) (by rw [generation, start]) with ⟨listed, last⟩
      constructor
      · rw [List.length_cons, List.range_succ_eq_map, List.map_cons, List.map_map,
          Nat.add_zero, start]
        congr 1
        rw [listed]
        simp [Function.comp_def, Nat.add_right_comm, Nat.add_assoc]
      · rw [List.length_cons, ← Nat.add_assoc, Nat.add_right_comm]
        exact last

theorem level?_eq_some_iff :
    forest.level? className = some depth ↔
      className ∈ forest.names ∧ (forest.ancestors className).length = depth := by
  rw [level?, ← contains_iff]
  split <;> simp_all

section WellFormed

variable (wellFormed : forest.WellFormed)

include wellFormed

/-- The members of a generation are the classes of one depth. -/
theorem WellFormed.mem_generation_iff :
    className ∈ forest.generation depth ↔
      className ∈ forest.names ∧ (forest.ancestors className).length = depth := by
  induction depth generalizing className with
  | zero =>
      rw [generation, mem_roots_iff wellFormed.distinct, List.length_eq_zero_iff]
      apply and_congr_right
      intro _
      constructor
      · intro noParent
        exact (wellFormed.climbs className).unique (.root noParent)
      · intro nothing
        have climbs := wellFormed.climbs className
        rw [nothing] at climbs
        cases climbs with
        | root noParent => exact noParent
  | succ depth induction =>
      simp only [generation, List.mem_flatMap, induction]
      constructor
      · rintro ⟨parent, ⟨_, deep⟩, member⟩
        rw [wellFormed.length_ancestors_of_mem_children member, deep]
        exact ⟨(mem_children_iff.mp member).mem_names, rfl⟩
      · rintro ⟨_, deep⟩
        have climbs := wellFormed.climbs className
        rcases above : forest.ancestors className with _ | ⟨parent, others⟩
        · simp [above] at deep
        · rw [above] at climbs
          cases climbs with
          | up found _ =>
            have isParent := (parent?_eq_some_iff wellFormed.distinct).mp found
            have member := mem_children_iff.mpr isParent
            refine ⟨parent, ⟨wellFormed.closed isParent, ?_⟩, member⟩
            rw [wellFormed.length_ancestors_of_mem_children member] at deep
            exact Nat.succ.inj deep

theorem WellFormed.generation_eq_nil (deep : forest.size ≤ depth) :
    forest.generation depth = [] := by
  rw [List.eq_nil_iff_forall_not_mem]
  intro className member
  rcases wellFormed.mem_generation_iff.mp member with ⟨listed, rfl⟩
  have inside := wellFormed.length_ancestors_lt listed
  omega

theorem WellFormed.layers_levelsWithin {bound : Nat} (enough : forest.size ≤ depth + bound) :
    Layers forest (forest.generation depth)
      (forest.levelsWithin bound (forest.generation depth)) := by
  induction bound generalizing depth with
  | zero =>
      have empty : forest.generation depth = [] := wellFormed.generation_eq_nil enough
      rw [empty]
      exact .done
  | succ bound induction =>
      rw [levelsWithin]
      split
      case isTrue empty =>
        rw [List.isEmpty_iff.mp empty]
        exact .done
      case isFalse nonempty =>
        refine .layer (fun empty => nonempty (List.isEmpty_iff.mpr empty)) ?_
        rw [← generation]
        exact induction (by omega)

/-- Going down level by level ends, and the bound cuts nothing off. -/
theorem WellFormed.layers : Layers forest forest.roots forest.levels :=
  wellFormed.layers_levelsWithin (Nat.le_of_eq (Nat.zero_add _).symm)

theorem WellFormed.levels_eq :
    forest.levels = (List.range forest.levels.length).map forest.generation := by
  have listed := (Layers.eq_map_generation 0 wellFormed.layers).1
  simpa using listed

theorem WellFormed.generation_length_levels :
    ∀ depth, forest.levels.length ≤ depth → forest.generation depth = [] := by
  have last := (Layers.eq_map_generation 0 wellFormed.layers).2
  rw [Nat.zero_add] at last
  intro depth deep
  induction depth, deep using Nat.le_induction with
  | base => exact last
  | succ depth _ induction => rw [generation, induction, List.flatMap_nil]

theorem WellFormed.mem_levels_iff :
    (∃ level, forest.levels[depth]? = some level ∧ className ∈ level) ↔
      className ∈ forest.generation depth := by
  rw [wellFormed.levels_eq]
  by_cases shallow : depth < forest.levels.length
  · simp [List.getElem?_range shallow]
  · have deep : forest.levels.length ≤ depth := Nat.le_of_not_lt shallow
    simp [deep, wellFormed.generation_length_levels depth deep]

/-! ## All levels, one after the other -/

theorem WellFormed.byLevel_eq :
    forest.byLevel = (List.range forest.levels.length).flatMap forest.generation := by
  rw [byLevel, wellFormed.levels_eq, List.flatMap_def]
  simp

theorem WellFormed.mem_byLevel_iff : className ∈ forest.byLevel ↔ className ∈ forest.names := by
  rw [wellFormed.byLevel_eq, List.mem_flatMap]
  constructor
  · rintro ⟨depth, _, member⟩
    exact (wellFormed.mem_generation_iff.mp member).1
  · intro listed
    have member := wellFormed.mem_generation_iff.mpr ⟨listed, rfl⟩
    refine ⟨_, ?_, member⟩
    rw [List.mem_range]
    by_contra deep
    rw [wellFormed.generation_length_levels _ (Nat.le_of_not_lt deep)] at member
    contradiction

theorem WellFormed.nodup_generation (depth : Nat) : (forest.generation depth).Nodup := by
  induction depth with
  | zero => exact nodup_roots wellFormed.distinct
  | succ depth induction =>
      rw [generation, List.nodup_flatMap]
      constructor
      · intro parent _
        exact nodup_children wellFormed.distinct parent
      · refine induction.imp ?_
        intro left right differ child leftMember rightMember
        rw [mem_children_iff] at leftMember rightMember
        exact differ (leftMember.unique wellFormed.distinct rightMember)

theorem WellFormed.nodup_byLevel : forest.byLevel.Nodup := by
  rw [wellFormed.byLevel_eq, List.nodup_flatMap]
  constructor
  · intro depth _
    exact wellFormed.nodup_generation depth
  · refine List.nodup_range.imp ?_
    intro left right differ className leftMember rightMember
    rw [wellFormed.mem_generation_iff] at leftMember rightMember
    exact differ (leftMember.2.symm.trans rightMember.2)

theorem WellFormed.length_byLevel : forest.byLevel.length = forest.size := by
  rw [← length_names]
  apply List.Perm.length_eq
  rw [List.perm_ext_iff_of_nodup wellFormed.nodup_byLevel wellFormed.distinct]
  exact fun _ => wellFormed.mem_byLevel_iff

/-- No class stands before its parent. -/
theorem WellFormed.pairwise_byLevel :
    forest.byLevel.Pairwise fun earlier later => ¬ forest.IsParent later earlier := by
  -- The depths never decrease, and a parent is less deep than its child.
  have ascending : forest.byLevel.Pairwise fun earlier later =>
      (forest.ancestors earlier).length ≤ (forest.ancestors later).length := by
    rw [wellFormed.byLevel_eq, List.pairwise_flatMap]
    constructor
    · intro depth _
      refine List.pairwise_of_forall_mem_list ?_
      intro earlier earlierMember later laterMember
      rw [wellFormed.mem_generation_iff] at earlierMember laterMember
      exact Nat.le_of_eq (earlierMember.2.trans laterMember.2.symm)
    · refine List.pairwise_lt_range.imp ?_
      intro upper lower above earlier earlierMember later laterMember
      rw [wellFormed.mem_generation_iff] at earlierMember laterMember
      rw [earlierMember.2, laterMember.2]
      exact Nat.le_of_lt above
  refine ascending.imp ?_
  intro earlier later notDeeper isParent
  rw [wellFormed.length_ancestors_of_mem_children (mem_children_iff.mpr isParent)] at notDeeper
  omega

theorem WellFormed.idxOf_byLevel_lt (isParent : forest.IsParent parent child) :
    forest.byLevel.idxOf parent < forest.byLevel.idxOf child := by
  have parentMember := wellFormed.mem_byLevel_iff.mpr (wellFormed.closed isParent)
  have childMember := wellFormed.mem_byLevel_iff.mpr isParent.mem_names
  have differ : parent ≠ child := by
    rintro rfl
    exact wellFormed.acyclic parent (.single isParent)
  by_contra notBefore
  have before : forest.byLevel.idxOf child < forest.byLevel.idxOf parent := by
    refine lt_of_le_of_ne (Nat.le_of_not_lt notBefore) ?_
    intro same
    exact differ ((List.idxOf_inj childMember).mp same).symm
  have apart := List.pairwise_iff_getElem.mp wellFormed.pairwise_byLevel _ _
    (List.idxOf_lt_length_of_mem childMember) (List.idxOf_lt_length_of_mem parentMember) before
  rw [List.getElem_idxOf, List.getElem_idxOf] at apart
  exact apart isParent

end WellFormed

/-! ## Forests that calls have grown -/

/--
A forest without classes or of some links, after any number of calls that add a class,
whatever became of each of them.
-/
inductive Grown (isCyclic : Forest → Bool) : Forest → Prop where
  | empty : Grown isCyclic .empty
  | linked {links : List ClassLink} {forest : Forest}
      (built : ofLinksBy isCyclic links = .ok forest) : Grown isCyclic forest
  | called {forest : Forest} (grown : Grown isCyclic forest) (className : Text)
      (parent? : Option Text) : Grown isCyclic ((addClass className parent?).call forest).2

theorem WellFormed.call_addClass (wellFormed : forest.WellFormed) (className : Text)
    (parent? : Option Text) : ((addClass className parent?).call forest).2.WellFormed := by
  rw [Forest.call_addClass]
  cases added : forest.add className parent? with
  | ok later => exact wellFormed.add added
  | error error => exact wellFormed

theorem Grown.wellFormed {isCyclic : Forest → Bool} (decides : DecidesCycles isCyclic)
    (grown : Grown isCyclic forest) : forest.WellFormed := by
  induction grown with
  | empty => exact .empty
  | linked built => exact .ofLinksBy decides built
  | called _ className parent? induction => exact induction.call_addClass className parent?

/-- A call that fails leaves the forest as it was. -/
theorem call_addClass_of_error {parent? : Option Text} {error : InheritanceError}
    (failed : ((addClass className parent?).call forest).1 = .error error) :
    ((addClass className parent?).call forest).2 = forest := by
  rw [call_addClass] at failed ⊢
  split at failed
  · contradiction
  · rfl

/-- A finite forest, of which every walk ends and the levels hold every class. -/
structure IsFiniteForest (forest : Forest) : Prop where
  /-- No class is listed twice. -/
  distinct : forest.names.Nodup
  /-- No class has two parents. -/
  oneParent : ∀ parent other className, className ∈ forest.children parent →
    className ∈ forest.children other → parent = other
  /-- No class is above itself. -/
  acyclic : forest.Acyclic
  /-- Going up from any class ends. -/
  climbs : ∀ className, Climbs forest className (forest.ancestors className)
  /-- Going down from any class ends. -/
  visits : ∀ className,
    Visits forest (forest.children className) (forest.descendants className)
  /-- Going down level by level ends. -/
  layers : Layers forest forest.roots forest.levels
  /-- The levels hold no class twice, -/
  byLevel_distinct : forest.byLevel.Nodup
  /-- every class, -/
  mem_byLevel : ∀ className, className ∈ forest.byLevel ↔ forest.contains className = true
  /-- and as many classes as there are. -/
  length_byLevel : forest.byLevel.length = forest.size
  /-- The level of a class is the place of the level that holds it. -/
  level?_iff : ∀ className depth, forest.level? className = some depth ↔
    ∃ level, forest.levels[depth]? = some level ∧ className ∈ level
  /-- A class comes after its parent. -/
  parentFirst : ∀ parent child, forest.parent? child = some parent →
    forest.byLevel.idxOf parent < forest.byLevel.idxOf child
  /-- The children of a class are the classes whose parent it is. -/
  children_iff : ∀ parent child,
    child ∈ forest.children parent ↔ forest.parent? child = some parent

theorem WellFormed.isFiniteForest (wellFormed : forest.WellFormed) : forest.IsFiniteForest where
  distinct := wellFormed.distinct
  oneParent := by
    intro parent other className below belowToo
    rw [mem_children_iff] at below belowToo
    exact below.unique wellFormed.distinct belowToo
  acyclic := wellFormed.acyclic
  climbs := wellFormed.climbs
  visits := by
    intro className
    rw [wellFormed.descendants_eq]
    exact wellFormed.visits _
  layers := wellFormed.layers
  byLevel_distinct := wellFormed.nodup_byLevel
  mem_byLevel := by
    intro className
    rw [wellFormed.mem_byLevel_iff, contains_iff]
  length_byLevel := wellFormed.length_byLevel
  level?_iff := by
    intro className depth
    rw [level?_eq_some_iff, wellFormed.mem_levels_iff, wellFormed.mem_generation_iff]
  parentFirst := by
    intro parent child found
    exact wellFormed.idxOf_byLevel_lt ((parent?_eq_some_iff wellFormed.distinct).mp found)
  children_iff := by
    intro parent child
    rw [mem_children_iff, parent?_eq_some_iff wellFormed.distinct]

/--
Every forest that calls have grown is a finite forest covered by its levels, and a call
that fails changes nothing.
-/
theorem Grown.coveredByLevels {isCyclic : Forest → Bool} (decides : DecidesCycles isCyclic)
    (grown : Grown isCyclic forest) :
    forest.IsFiniteForest ∧
      ∀ className parent? error, ((addClass className parent?).call forest).1 = .error error →
        ((addClass className parent?).call forest).2 = forest :=
  ⟨(grown.wellFormed decides).isFiniteForest, fun _ _ _ => call_addClass_of_error⟩

/-- Two classes, of which the one below the other is listed first. -/
def shuffledLinks : List ClassLink :=
  [⟨"Leaf".toList, some "Root".toList⟩, ⟨"Root".toList, none⟩]

/-- The forest of two classes after a call that has failed and one that has added a third. -/
def threeLevelForest : Forest :=
  ((addClass "Bud".toList (some "Leaf".toList)).call
    ((addClass "Bud".toList (some "Bud".toList)).call ⟨shuffledLinks⟩).2).2

theorem grown_threeLevelForest : Grown isCyclic threeLevelForest := by
  have built : ofLinksBy isCyclic shuffledLinks = .ok ⟨shuffledLinks⟩ := by decide
  exact ((Grown.linked built).called _ _).called _ _

theorem Grown.coveredByLevels_threeLevelForest :
    DecidesCycles isCyclic ∧ Grown isCyclic threeLevelForest ∧
      threeLevelForest.levels = [["Root".toList], ["Leaf".toList], ["Bud".toList]] ∧
        threeLevelForest.IsFiniteForest :=
  ⟨decidesCycles_isCyclic, grown_threeLevelForest, by decide,
    (Grown.coveredByLevels decidesCycles_isCyclic grown_threeLevelForest).1⟩

end Forest

end MethodRoles
