import MethodRoles.Proofs.Inheritance.Climbing

/-!
# Building a forest from links

A forest is built from links in any order.  It is refused when a class is listed twice,
otherwise when a parent is not listed, and otherwise when the parents of some listed
class never end; in all other cases it is the forest of exactly those links.  Neither
the kind of the outcome nor the answers about a class depend on the order of the links
(`Forest.accountsFor_ofLinksBy`).

The test for circles is a parameter.  All that is used of it is that it finds out
whether a graph of classes has a circle, which the walks up to the roots do
(`Forest.decidesCycles_isCyclic`).
-/

namespace MethodRoles

namespace Forest

/-- A test finds out whether some class of a graph is above itself. -/
def DecidesCycles (isCyclic : Forest → Bool) : Prop :=
  ∀ forest : Forest, forest.IsGraph →
    (isCyclic forest = true ↔
      ∃ className, Relation.TransGen forest.IsParent className className)

variable {forest : Forest} {className : Text} {links others : List ClassLink}

/-! ## The test by walking up -/

theorem reachesRoot_iff {bound : Nat} :
    forest.reachesRoot bound className = true ↔
      (forest.ancestorsWithin bound className).length < bound := by
  induction bound generalizing className with
  | zero => simp [reachesRoot]
  | succ bound induction =>
      rw [reachesRoot, ancestorsWithin]
      cases forest.parent? className with
      | none => simp
      | some parent => simp [induction]

theorem IsGraph.isAcyclic_iff (graph : forest.IsGraph) :
    forest.isAcyclic = true ↔ forest.Acyclic := by
  simp only [isAcyclic, List.all_eq_true, reachesRoot_iff]
  constructor
  · intro stopped
    rw [acyclic_iff graph]
    intro className listed
    rcases List.mem_map.mp listed with ⟨link, member, rfl⟩
    exact (climbs_ancestorsWithin (stopped link member)).not_neverEnds graph.distinct
  · intro acyclic link member
    exact length_ancestorsWithin_lt graph acyclic (List.mem_map_of_mem member) forest.size

/-- Walking up from every class finds the circles. -/
theorem decidesCycles_isCyclic : DecidesCycles isCyclic := by
  intro forest graph
  rw [isCyclic, Bool.not_eq_true', ← Bool.not_eq_true, graph.isAcyclic_iff, Acyclic]
  simp

/-! ## The three defects -/

theorem repeated?_eq_none_iff {before : List Text} :
    repeated? before links = none ↔
      (Forest.mk links).names.Nodup ∧ ∀ name ∈ (Forest.mk links).names, name ∉ before := by
  induction links generalizing before with
  | nil => simp [repeated?, names]
  | cons link links induction =>
      rw [repeated?]
      by_cases repeated : link.name ∈ before
      · simp [repeated, names]
      · simp only [List.contains_eq_mem, repeated, decide_false, Bool.false_eq_true, if_false,
          induction, names, List.map_cons, List.nodup_cons, List.mem_cons, not_or]
        constructor
        · rintro ⟨distinct, apart⟩
          refine ⟨⟨fun member => (apart _ member).1 rfl, distinct⟩, ?_⟩
          rintro name (rfl | member)
          · exact repeated
          · exact (apart name member).2
        · rintro ⟨⟨new, distinct⟩, apart⟩
          refine ⟨distinct, fun name member => ⟨?_, apart name (.inr member)⟩⟩
          rintro rfl
          exact new member

theorem orphan?_eq_none_iff :
    forest.orphan? = none ↔
      ∀ parent child, forest.IsParent parent child → parent ∈ forest.names := by
  simp only [orphan?, List.findSome?_eq_none_iff, Option.map_eq_none_iff,
    Option.filter_eq_none_iff, Bool.not_eq_true', contains_eq_false_iff, not_not]
  constructor
  · intro known parent child isParent
    exact known _ isParent parent rfl
  · rintro known ⟨child, parent?⟩ listed parent rfl
    exact known parent child listed

section Outcome

variable {isCyclic : Forest → Bool}

theorem ofLinksBy_of_repeated (repeated : ¬ (Forest.mk links).names.Nodup) :
    ∃ className, ofLinksBy isCyclic links = .error (.duplicateClass className) := by
  have found : repeated? [] links ≠ none := fun none =>
    repeated (repeated?_eq_none_iff.mp none).1
  rcases Option.ne_none_iff_exists'.mp found with ⟨className, found⟩
  exact ⟨className, by rw [ofLinksBy, found]⟩

section Distinct

variable (distinct : (Forest.mk links).names.Nodup)

include distinct

theorem repeated?_of_nodup : repeated? [] links = none :=
  repeated?_eq_none_iff.mpr ⟨distinct, fun _ _ => List.not_mem_nil⟩

theorem ofLinksBy_of_orphan {parent child : Text}
    (isParent : (Forest.mk links).IsParent parent child)
    (unknown : parent ∉ (Forest.mk links).names) :
    ∃ className parent, ofLinksBy isCyclic links = .error (.unknownParent className parent) := by
  have found : (Forest.mk links).orphan? ≠ none := fun none =>
    unknown (orphan?_eq_none_iff.mp none parent child isParent)
  rcases Option.ne_none_iff_exists'.mp found with ⟨⟨className, parent⟩, found⟩
  exact ⟨className, parent, by rw [ofLinksBy, repeated?_of_nodup distinct, found]⟩

end Distinct

section Graph

variable (decides : DecidesCycles isCyclic) (graph : (Forest.mk links).IsGraph)

include decides graph

theorem ofLinksBy_of_graph :
    ((Forest.mk links).Acyclic → ofLinksBy isCyclic links = .ok ⟨links⟩) ∧
      (¬ (Forest.mk links).Acyclic →
        ∃ className, ofLinksBy isCyclic links = .error (.cycle className)) := by
  have known : (Forest.mk links).orphan? = none :=
    orphan?_eq_none_iff.mpr fun _ _ => graph.closed
  have circles := decides _ graph
  simp only [ofLinksBy, repeated?_of_nodup graph.distinct, known]
  constructor
  · intro acyclic
    rw [if_neg]
    rw [circles, not_exists]
    exact acyclic
  · intro circle
    rw [if_pos]
    · exact ⟨_, rfl⟩
    · rw [circles]
      exact not_forall_not.mp circle

end Graph

/-- Everything that building a forest can do. -/
theorem ofLinksBy_cases (decides : DecidesCycles isCyclic) (links : List ClassLink) :
    (¬ (Forest.mk links).names.Nodup ∧
        ∃ className, ofLinksBy isCyclic links = .error (.duplicateClass className)) ∨
      ((Forest.mk links).names.Nodup ∧
        (∃ parent child, (Forest.mk links).IsParent parent child ∧
          parent ∉ (Forest.mk links).names) ∧
        ∃ className parent,
          ofLinksBy isCyclic links = .error (.unknownParent className parent)) ∨
      ((Forest.mk links).IsGraph ∧ ¬ (Forest.mk links).Acyclic ∧
        ∃ className, ofLinksBy isCyclic links = .error (.cycle className)) ∨
      (Forest.mk links).WellFormed ∧ ofLinksBy isCyclic links = .ok ⟨links⟩ := by
  by_cases distinct : (Forest.mk links).names.Nodup
  · right
    by_cases orphan : ∃ parent child, (Forest.mk links).IsParent parent child ∧
        parent ∉ (Forest.mk links).names
    · left
      rcases orphan with ⟨parent, child, isParent, unknown⟩
      exact ⟨distinct, ⟨parent, child, isParent, unknown⟩,
        ofLinksBy_of_orphan distinct isParent unknown⟩
    · right
      have graph : (Forest.mk links).IsGraph := ⟨distinct, fun {parent child} isParent => by
        by_contra unknown
        exact orphan ⟨parent, child, isParent, unknown⟩⟩
      by_cases acyclic : (Forest.mk links).Acyclic
      · exact .inr ⟨⟨graph, acyclic⟩, (ofLinksBy_of_graph decides graph).1 acyclic⟩
      · exact .inl ⟨graph, acyclic, (ofLinksBy_of_graph decides graph).2 acyclic⟩
  · exact .inl ⟨distinct, ofLinksBy_of_repeated distinct⟩

/-- Links that are built into a forest are the links of a well-formed one. -/
theorem WellFormed.ofLinksBy (decides : DecidesCycles isCyclic)
    (built : ofLinksBy isCyclic links = .ok forest) : forest.WellFormed := by
  rcases ofLinksBy_cases decides links with
    ⟨-, _, refused⟩ | ⟨-, -, _, _, refused⟩ | ⟨-, -, _, refused⟩ | ⟨wellFormed, accepted⟩
  · simp [refused] at built
  · simp [refused] at built
  · simp [refused] at built
  · rw [accepted] at built
    exact Except.ok.inj built ▸ wellFormed

/-! ## The order of the links -/

theorem Climbs.congr {left right : Forest} {above : List Text}
    (parents : ∀ className, left.parent? className = right.parent? className)
    (climbs : Climbs left className above) : Climbs right className above := by
  induction climbs with
  | root noParent => exact .root ((parents _).symm.trans noParent)
  | up found _ induction => exact .up ((parents _).symm.trans found) induction

/-- Two outcomes of one kind, with the same answers about every class. -/
inductive SameOutcome :
    Except InheritanceError Forest → Except InheritanceError Forest → Prop where
  | duplicate {left right : Text} :
      SameOutcome (.error (.duplicateClass left)) (.error (.duplicateClass right))
  | orphan {left leftParent right rightParent : Text} :
      SameOutcome (.error (.unknownParent left leftParent))
        (.error (.unknownParent right rightParent))
  | circle {left right : Text} : SameOutcome (.error (.cycle left)) (.error (.cycle right))
  | built {left right : Forest}
      (contains : ∀ className, left.contains className = right.contains className)
      (parent? : ∀ className, left.parent? className = right.parent? className)
      (ancestors : ∀ className, left.ancestors className = right.ancestors className)
      (level? : ∀ className, left.level? className = right.level? className) :
      SameOutcome (.ok left) (.ok right)

section Permutation

variable (permuted : links.Perm others)

include permuted

theorem isParent_perm : (Forest.mk links).IsParent = (Forest.mk others).IsParent := by
  funext parent child
  exact propext permuted.mem_iff

theorem names_perm : (Forest.mk links).names.Perm (Forest.mk others).names :=
  permuted.map _

theorem IsGraph.perm (graph : (Forest.mk links).IsGraph) : (Forest.mk others).IsGraph where
  distinct := (names_perm permuted).nodup_iff.mp graph.distinct
  closed := by
    intro parent child isParent
    rw [← isParent_perm permuted] at isParent
    exact (names_perm permuted).mem_iff.mp (graph.closed isParent)

theorem WellFormed.perm (wellFormed : (Forest.mk links).WellFormed) :
    (Forest.mk others).WellFormed where
  toIsGraph := wellFormed.toIsGraph.perm permuted
  acyclic := by
    rw [Acyclic, ← isParent_perm permuted]
    exact wellFormed.acyclic

/-- Two well-formed forests of the same links answer alike about every class. -/
theorem WellFormed.sameOutcome (wellFormed : (Forest.mk links).WellFormed) :
    SameOutcome (.ok ⟨links⟩) (.ok ⟨others⟩) := by
  have wellFormedToo := wellFormed.perm permuted
  have parents : ∀ className,
      (Forest.mk links).parent? className = (Forest.mk others).parent? className := by
    intro className
    ext parent
    rw [parent?_eq_some_iff wellFormed.distinct, parent?_eq_some_iff wellFormedToo.distinct,
      isParent_perm permuted]
  have contains : ∀ className,
      (Forest.mk links).contains className = (Forest.mk others).contains className := by
    intro className
    rw [Bool.eq_iff_iff, contains_iff, contains_iff, (names_perm permuted).mem_iff]
  have ancestors : ∀ className,
      (Forest.mk links).ancestors className = (Forest.mk others).ancestors className := by
    intro className
    exact ((wellFormed.climbs className).congr parents).unique (wellFormedToo.climbs className)
  refine .built contains parents ancestors ?_
  intro className
  rw [level?, level?, contains, ancestors]

end Permutation

/-! ## The kind of the outcome -/

section Kind

variable (decides : DecidesCycles isCyclic)

include decides

theorem ofLinksBy_duplicate_iff :
    (∃ className, ofLinksBy isCyclic links = .error (.duplicateClass className)) ↔
      ¬ (Forest.mk links).names.Nodup := by
  constructor
  · rintro ⟨className, refused⟩
    rcases ofLinksBy_cases decides links with
      ⟨repeated, -⟩ | ⟨-, -, _, _, orphan⟩ | ⟨-, -, _, circle⟩ | ⟨-, built⟩
    · exact repeated
    · simp [orphan] at refused
    · simp [circle] at refused
    · simp [built] at refused
  · exact ofLinksBy_of_repeated

theorem ofLinksBy_orphan_iff (distinct : (Forest.mk links).names.Nodup) :
    (∃ className parent, ofLinksBy isCyclic links = .error (.unknownParent className parent)) ↔
      ∃ parent child, (Forest.mk links).IsParent parent child ∧
        parent ∉ (Forest.mk links).names := by
  constructor
  · rintro ⟨className, parent, refused⟩
    rcases ofLinksBy_cases decides links with
      ⟨repeated, -⟩ | ⟨-, orphan, -⟩ | ⟨-, -, _, circle⟩ | ⟨-, built⟩
    · exact absurd distinct repeated
    · exact orphan
    · simp [circle] at refused
    · simp [built] at refused
  · rintro ⟨parent, child, isParent, unknown⟩
    exact ofLinksBy_of_orphan distinct isParent unknown

theorem ofLinksBy_cycle_iff (graph : (Forest.mk links).IsGraph) :
    (∃ className, ofLinksBy isCyclic links = .error (.cycle className)) ↔
      ∃ className ∈ (Forest.mk links).names, (Forest.mk links).NeverEnds className := by
  have outcome := ofLinksBy_of_graph decides graph
  have circle : ¬ (Forest.mk links).Acyclic ↔
      ∃ className ∈ (Forest.mk links).names, (Forest.mk links).NeverEnds className := by
    rw [acyclic_iff graph]
    simp only [not_forall, not_not, exists_prop]
  rw [← circle]
  constructor
  · rintro ⟨className, refused⟩ acyclic
    simp [outcome.1 acyclic] at refused
  · exact outcome.2

/-- The outcome for links in another order is the same. -/
theorem sameOutcome_ofLinksBy (permuted : links.Perm others) :
    SameOutcome (ofLinksBy isCyclic links) (ofLinksBy isCyclic others) := by
  rcases ofLinksBy_cases decides links with
    ⟨repeated, _, refused⟩ | ⟨distinct, ⟨parent, child, isParent, unknown⟩, _, _, refused⟩ |
      ⟨graph, circle, _, refused⟩ | ⟨wellFormed, accepted⟩
  · rw [(names_perm permuted).nodup_iff] at repeated
    rcases ofLinksBy_of_repeated repeated with ⟨_, refusedToo⟩
    rw [refused, refusedToo]
    exact .duplicate
  · rw [(names_perm permuted).nodup_iff] at distinct
    rw [isParent_perm permuted] at isParent
    rw [(names_perm permuted).mem_iff] at unknown
    rcases ofLinksBy_of_orphan distinct isParent unknown with ⟨_, _, refusedToo⟩
    rw [refused, refusedToo]
    exact .orphan
  · rw [Acyclic, isParent_perm permuted] at circle
    rcases (ofLinksBy_of_graph decides (graph.perm permuted)).2 circle with ⟨_, refusedToo⟩
    rw [refused, refusedToo]
    exact .circle
  · have wellFormedToo := wellFormed.perm permuted
    have acceptedToo := (ofLinksBy_of_graph decides wellFormedToo.toIsGraph).1 wellFormedToo.acyclic
    rw [accepted, acceptedToo]
    exact wellFormed.sameOutcome permuted

end Kind

/-- What becomes of some links, by what is wrong with them, and in any other order. -/
structure AccountsFor (isCyclic : Forest → Bool) (links : List ClassLink) : Prop where
  /-- A class that is listed twice is reported first. -/
  duplicate :
    (∃ className, ofLinksBy isCyclic links = .error (.duplicateClass className)) ↔
      ¬ (Forest.mk links).names.Nodup
  /-- A parent that is not listed is reported next. -/
  orphan : (Forest.mk links).names.Nodup →
    ((∃ className parent,
        ofLinksBy isCyclic links = .error (.unknownParent className parent)) ↔
      ∃ parent child, (Forest.mk links).IsParent parent child ∧
        parent ∉ (Forest.mk links).names)
  /-- Parents that never end are reported last. -/
  circle : (Forest.mk links).IsGraph →
    ((∃ className, ofLinksBy isCyclic links = .error (.cycle className)) ↔
      ∃ className ∈ (Forest.mk links).names, (Forest.mk links).NeverEnds className)
  /-- Without a defect there is a forest of these classes with these parents. -/
  built : (Forest.mk links).IsGraph →
    (∀ className ∈ (Forest.mk links).names, ¬ (Forest.mk links).NeverEnds className) →
      ∃ forest, ofLinksBy isCyclic links = .ok forest ∧
        (∀ className, forest.contains className = true ↔
          className ∈ (Forest.mk links).names) ∧
        ∀ link ∈ links, forest.parent? link.name = link.parent?
  /-- The order of the links does not matter. -/
  permuted : ∀ others, links.Perm others →
    SameOutcome (ofLinksBy isCyclic links) (ofLinksBy isCyclic others)

/-- Exactly the forests are built, in any order of their links. -/
theorem accountsFor_ofLinksBy (decides : DecidesCycles isCyclic) (links : List ClassLink) :
    AccountsFor isCyclic links where
  duplicate := ofLinksBy_duplicate_iff decides
  orphan := ofLinksBy_orphan_iff decides
  circle := ofLinksBy_cycle_iff decides
  built := by
    intro graph ends
    have acyclic := (acyclic_iff graph).mpr ends
    refine ⟨⟨links⟩, (ofLinksBy_of_graph decides graph).1 acyclic, fun _ => contains_iff, ?_⟩
    intro link listed
    exact parent?_of_mem graph.distinct listed
  permuted := fun _ permuted => sameOutcome_ofLinksBy decides permuted

end Outcome

/-- Links in which a class stands before its parent, beside two classes in a circle. -/
def tangledLinks : List ClassLink :=
  [⟨"Leaf".toList, some "Root".toList⟩, ⟨"Root".toList, none⟩,
    ⟨"Left".toList, some "Right".toList⟩, ⟨"Right".toList, some "Left".toList⟩]

/-- A circle is found away from the class that is listed first. -/
theorem accountsFor_tangledLinks :
    DecidesCycles isCyclic ∧ AccountsFor isCyclic tangledLinks ∧
      ofLinksBy isCyclic tangledLinks = .error (.cycle "Leaf".toList) ∧
        ofLinksBy isCyclic (tangledLinks.take 2) = .ok ⟨tangledLinks.take 2⟩ :=
  ⟨decidesCycles_isCyclic, accountsFor_ofLinksBy decidesCycles_isCyclic tangledLinks,
    by decide, by decide⟩

end Forest

end MethodRoles
