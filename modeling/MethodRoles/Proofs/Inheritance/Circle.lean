import MethodRoles.Proofs.Inheritance.Building
import Mathlib.Dynamics.PeriodicPts.Defs

/-!
# Circles and the class they are reported by

Links in which some class is above itself are refused.  The refusal names the class that
is listed first, and that class need not be on a circle: its parents may end at a root, or
lead to a circle that it is not part of (`Forest.reportsCircle`).  So a class that is
reported does not always return to itself (`Forest.not_returns_spare`).

Which of the three it is can be read off the walk up from the class.  A walk that goes on
for more steps than there are classes has met some class twice, and a class that returns
to itself does so within as many steps as there are classes.
-/

namespace MethodRoles

namespace Forest

/-- One step up of a walk, which ends behind a root. -/
def up (forest : Forest) (place : Option Text) : Option Text :=
  place.bind forest.parent?

/-- Following the parents from a class comes back to it. -/
def Returns (forest : Forest) (className : Text) : Prop :=
  ∃ steps, forest.up^[steps + 1] (some className) = some className

variable {forest : Forest} {className upper lower other : Text} {steps bound : Nat}

/-! ## Steps of a walk up -/

theorem up_some (forest : Forest) (className : Text) :
    forest.up (some className) = forest.parent? className := rfl

theorem iterate_up_none (forest : Forest) (steps : Nat) : forest.up^[steps] none = none :=
  Function.iterate_fixed rfl steps

theorem returns_iff_mem_periodicPts :
    forest.Returns className ↔ some className ∈ Function.periodicPts forest.up := by
  constructor
  · rintro ⟨steps, back⟩
    exact Function.mk_mem_periodicPts (Nat.succ_pos steps) back
  · rintro ⟨steps, positive, back⟩
    refine ⟨steps - 1, ?_⟩
    rw [Nat.sub_add_cancel positive]
    exact back

theorem mem_ancestorsWithin_iff :
    upper ∈ forest.ancestorsWithin bound className ↔
      ∃ steps < bound, forest.up^[steps + 1] (some className) = some upper := by
  induction bound generalizing className with
  | zero => simp [ancestorsWithin]
  | succ bound induction =>
      rw [ancestorsWithin, Nat.exists_lt_succ_left]
      simp only [Function.iterate_succ_apply, Function.iterate_zero_apply, up_some]
      cases found : forest.parent? className with
      | none =>
          have ended : forest.up none = none := rfl
          simp [ended, iterate_up_none]
      | some parent =>
          simp only [List.mem_cons, induction, Function.iterate_succ_apply, Option.some.injEq,
            eq_comm]

/-- A climb to a root is a walk that ends. -/
theorem exists_climbs_of_iterate_up (ended : forest.up^[steps] (some className) = none) :
    ∃ above, Climbs forest className above := by
  induction steps generalizing className with
  | zero => contradiction
  | succ steps induction =>
      rw [Function.iterate_succ_apply, up_some] at ended
      cases found : forest.parent? className with
      | none => exact ⟨[], .root found⟩
      | some parent =>
          rw [found] at ended
          rcases induction ended with ⟨above, climbs⟩
          exact ⟨parent :: above, .up found climbs⟩

section Distinct

variable (distinct : forest.names.Nodup)

include distinct

theorem transGen_iff_iterate_up :
    Relation.TransGen forest.IsParent upper lower ↔
      ∃ steps, forest.up^[steps + 1] (some lower) = some upper := by
  constructor
  · intro above
    induction above with
    | single isParent => exact ⟨0, (parent?_eq_some_iff distinct).mpr isParent⟩
    | @tail middle lower _ isParent induction =>
        rcases induction with ⟨steps, reached⟩
        refine ⟨steps + 1, ?_⟩
        rw [Function.iterate_succ_apply, up_some, (parent?_eq_some_iff distinct).mpr isParent]
        exact reached
  · rintro ⟨steps, reached⟩
    induction steps generalizing lower with
    | zero => exact .single ((parent?_eq_some_iff distinct).mp reached)
    | succ steps induction =>
        rw [Function.iterate_succ_apply, up_some] at reached
        cases found : forest.parent? lower with
        | none =>
            rw [found, iterate_up_none] at reached
            contradiction
        | some middle =>
            rw [found] at reached
            exact (induction reached).tail ((parent?_eq_some_iff distinct).mp found)

/-- The classes that return to themselves are those that are above themselves. -/
theorem returns_iff_transGen :
    forest.Returns className ↔ Relation.TransGen forest.IsParent className className :=
  (transGen_iff_iterate_up distinct).symm

theorem Climbs.not_returns {above : List Text} (climbs : Climbs forest className above) :
    ¬ forest.Returns className := by
  intro returns
  have circle := (returns_iff_transGen distinct).mp returns
  exact climbs.not_neverEnds distinct (neverEnds_of_circle circle)

theorem reflTransGen_of_iterate_up (reached : forest.up^[steps] (some lower) = some upper) :
    Relation.ReflTransGen forest.IsParent upper lower := by
  cases steps with
  | zero =>
      cases Option.some.inj reached
      exact .refl
  | succ steps => exact ((transGen_iff_iterate_up distinct).mpr ⟨steps, reached⟩).to_reflTransGen

end Distinct

/-! ## Walks among finitely many classes -/

section Graph

variable (graph : forest.IsGraph)

include graph

theorem mem_names_of_iterate_up (listed : lower ∈ forest.names)
    (reached : forest.up^[steps] (some lower) = some upper) : upper ∈ forest.names := by
  rcases (reflTransGen_of_iterate_up graph.distinct reached).cases_head with
    same | ⟨child, isParent, -⟩
  · exact same ▸ listed
  · exact graph.closed isParent

/-- A walk that meets no class twice has no more steps than there are classes. -/
theorem le_size_of_injOn (listed : className ∈ forest.names) {count : Nat}
    (goesOn : ∀ steps < count, forest.up^[steps] (some className) ≠ none)
    (apart : Set.InjOn (fun steps => forest.up^[steps] (some className)) (Set.Iio count)) :
    count ≤ forest.size := by
  have distinct : ((List.range count).map fun steps =>
      forest.up^[steps] (some className)).Nodup := by
    apply List.Nodup.map_on _ List.nodup_range
    intro earlier before later after same
    exact apart (List.mem_range.mp before) (List.mem_range.mp after) same
  have among : ((List.range count).map fun steps => forest.up^[steps] (some className)) ⊆
      forest.names.map some := by
    intro place member
    rcases List.mem_map.mp member with ⟨steps, before, rfl⟩
    rcases Option.ne_none_iff_exists'.mp (goesOn steps (List.mem_range.mp before)) with
      ⟨upper, reached⟩
    rw [reached]
    exact List.mem_map_of_mem (mem_names_of_iterate_up graph listed reached)
  have shorter := (distinct.subperm among).length_le
  rw [List.length_map, List.length_map, List.length_range, length_names] at shorter
  exact shorter

/-- A class that returns to itself does so within as many steps as there are classes. -/
theorem returns_iff_mem_ancestors :
    forest.Returns className ↔ className ∈ forest.ancestors className := by
  rw [ancestors, mem_ancestorsWithin_iff]
  constructor
  · intro returns
    have listed : className ∈ forest.names :=
      mem_names_of_transGen graph ((returns_iff_transGen graph.distinct).mp returns)
    have positive := Function.minimalPeriod_pos_of_mem_periodicPts
      (returns_iff_mem_periodicPts.mp returns)
    have back := Function.iterate_minimalPeriod (f := forest.up) (x := some className)
    -- A walk that had ended before would not come back.
    have goesOn : ∀ steps < Function.minimalPeriod forest.up (some className),
        forest.up^[steps] (some className) ≠ none := by
      intro steps before ended
      rw [← Nat.sub_add_cancel before.le, Function.iterate_add_apply, ended,
        iterate_up_none] at back
      contradiction
    have short := le_size_of_injOn graph listed goesOn Function.iterate_injOn_Iio_minimalPeriod
    refine ⟨Function.minimalPeriod forest.up (some className) - 1, by omega, ?_⟩
    rw [Nat.sub_add_cancel positive]
    exact back
  · rintro ⟨steps, -, back⟩
    exact ⟨steps, back⟩

/-- A walk that never ends comes to a class that returns to itself. -/
theorem exists_returns_of_iterate_up (listed : className ∈ forest.names)
    (goesOn : ∀ steps, forest.up^[steps] (some className) ≠ none) :
    ∃ other, forest.Returns other ∧ Relation.ReflTransGen forest.IsParent other className := by
  have repeated : ¬ Set.InjOn (fun steps => forest.up^[steps] (some className))
      (Set.Iio (forest.size + 1)) := by
    intro apart
    exact absurd (le_size_of_injOn graph listed (fun steps _ => goesOn steps) apart)
      (Nat.not_succ_le_self _)
  obtain ⟨earlier, later, before, same⟩ : ∃ earlier later, earlier < later ∧
      forest.up^[earlier] (some className) = forest.up^[later] (some className) := by
    simp only [Set.InjOn, not_forall] at repeated
    rcases repeated with ⟨first, -, second, -, same, differ⟩
    rcases Nat.lt_or_gt_of_ne differ with before | after
    · exact ⟨first, second, before, same⟩
    · exact ⟨second, first, after, same.symm⟩
  rcases Option.ne_none_iff_exists'.mp (goesOn earlier) with ⟨other, reached⟩
  refine ⟨other, ⟨later - earlier - 1, ?_⟩, reflTransGen_of_iterate_up graph.distinct reached⟩
  rw [Nat.sub_add_cancel (Nat.sub_pos_of_lt before), ← reached, ← Function.iterate_add_apply,
    Nat.sub_add_cancel before.le, same]

theorem climbs_or_returns (listed : className ∈ forest.names) :
    (∃ above, Climbs forest className above) ∨
      ∃ other, forest.Returns other ∧
        Relation.ReflTransGen forest.IsParent other className := by
  by_cases ended : ∃ steps, forest.up^[steps] (some className) = none
  · rcases ended with ⟨steps, ended⟩
    exact .inl (exists_climbs_of_iterate_up ended)
  · exact .inr (exists_returns_of_iterate_up graph listed (not_exists.mp ended))

end Graph

/-! ## The report -/

section Report

variable {isCyclic : Forest → Bool} {links : List ClassLink}

theorem ofLinksBy_eq_cycle_iff :
    ofLinksBy isCyclic links = .error (.cycle className) ↔
      repeated? [] links = none ∧ (Forest.mk links).orphan? = none ∧
        isCyclic ⟨links⟩ = true ∧ (links.head?.map ClassLink.name).getD [] = className := by
  rw [ofLinksBy]
  split
  case h_1 found => simp [found]
  case h_2 once found => simp [once, found]
  case h_3 once known =>
    simp only [once, known, true_and]
    split <;> simp [*]

theorem isGraph_iff :
    (Forest.mk links).IsGraph ↔
      repeated? [] links = none ∧ (Forest.mk links).orphan? = none := by
  rw [repeated?_eq_none_iff, orphan?_eq_none_iff]
  constructor
  · intro graph
    exact ⟨⟨graph.distinct, fun _ _ => List.not_mem_nil⟩, fun _ _ => graph.closed⟩
  · rintro ⟨⟨distinct, -⟩, closed⟩
    exact ⟨distinct, fun {parent child} => closed parent child⟩

/-- When a circle is reported, by which class, and where the parents of that class lead. -/
structure ReportsCircle (isCyclic : Forest → Bool) (links : List ClassLink) : Prop where
  /-- Distinct classes with listed parents are refused if some class returns to itself, and
  the class that is listed first is named. -/
  reported_iff : ∀ className, ofLinksBy isCyclic links = .error (.cycle className) ↔
    (Forest.mk links).IsGraph ∧ (∃ other, (Forest.mk links).Returns other) ∧
      links.head?.map ClassLink.name = some className
  /-- The named class returns to itself if the walk up, which is as long as there are
  classes, meets it again. -/
  returns_iff : ∀ className, ofLinksBy isCyclic links = .error (.cycle className) →
    ((Forest.mk links).Returns className ↔ className ∈ (Forest.mk links).ancestors className)
  /-- Its parents end at a root, and then it does not return, or they lead to some class
  that does. -/
  course : ∀ className, ofLinksBy isCyclic links = .error (.cycle className) →
    ((∃ above, Climbs ⟨links⟩ className above) ∧ ¬ (Forest.mk links).Returns className) ∨
      ∃ other, (Forest.mk links).Returns other ∧
        Relation.ReflTransGen (Forest.mk links).IsParent other className

theorem ofLinksBy_eq_cycle_iff_returns (decides : DecidesCycles isCyclic) :
    ofLinksBy isCyclic links = .error (.cycle className) ↔
      (Forest.mk links).IsGraph ∧ (∃ other, (Forest.mk links).Returns other) ∧
        links.head?.map ClassLink.name = some className := by
  rw [ofLinksBy_eq_cycle_iff, ← and_assoc, ← isGraph_iff]
  apply and_congr_right
  intro graph
  rw [decides _ graph]
  simp only [← returns_iff_transGen graph.distinct]
  apply and_congr_right
  rintro ⟨other, returns⟩
  -- A class that returns is listed, so there is a class that is listed first.
  have listed : other ∈ (Forest.mk links).names :=
    mem_names_of_transGen graph ((returns_iff_transGen graph.distinct).mp returns)
  cases links with
  | nil => exact absurd listed List.not_mem_nil
  | cons first others => simp

/-- A circle is reported by the class listed first, wherever its parents lead. -/
theorem reportsCircle (decides : DecidesCycles isCyclic) (links : List ClassLink) :
    ReportsCircle isCyclic links where
  reported_iff := fun _ => ofLinksBy_eq_cycle_iff_returns decides
  returns_iff := by
    intro className reported
    exact returns_iff_mem_ancestors ((ofLinksBy_eq_cycle_iff_returns decides).mp reported).1
  course := by
    intro className reported
    rcases (ofLinksBy_eq_cycle_iff_returns decides).mp reported with ⟨graph, -, first⟩
    have listed : className ∈ (Forest.mk links).names := by
      rcases Option.map_eq_some_iff.mp first with ⟨link, head, rfl⟩
      exact List.mem_map_of_mem (List.mem_of_head? head)
    rcases climbs_or_returns graph listed with ⟨above, climbs⟩ | leads
    · exact .inl ⟨⟨above, climbs⟩, climbs.not_returns graph.distinct⟩
    · exact .inr leads

end Report

/-- A class without a parent ahead of a class that is its own parent. -/
def spareLinks : List ClassLink :=
  [⟨"Spare".toList, none⟩, ⟨"Loop".toList, some "Loop".toList⟩]

theorem ofLinks_spareLinks : ofLinks spareLinks = .error (.cycle "Spare".toList) := by
  decide

theorem reportsCircle_spareLinks :
    DecidesCycles isCyclic ∧ ReportsCircle isCyclic spareLinks ∧
      ofLinksBy isCyclic spareLinks = .error (.cycle "Spare".toList) :=
  ⟨decidesCycles_isCyclic, reportsCircle decidesCycles_isCyclic spareLinks, ofLinks_spareLinks⟩

/-- The class by which a circle is reported may be a root. -/
theorem not_returns_spare :
    ¬ ∀ (links : List ClassLink) (className : Text),
      ofLinks links = .error (.cycle className) → (Forest.mk links).Returns className := by
  intro returns
  have climbs : Climbs ⟨spareLinks⟩ "Spare".toList [] := .root (by decide)
  exact climbs.not_returns (by decide) (returns spareLinks _ ofLinks_spareLinks)

end Forest

end MethodRoles
