import MethodRoles.Proofs.Inheritance.Levels

/-!
# Classes one by one and all at once

Adding classes one by one succeeds exactly when each of them is new and its parent is
there when its turn comes (`Forest.callAll_adding_eq_ok_iff`).  Building a forest at once
puts in all classes first and looks at the parents afterwards, so it accepts such a
list as well, and the two forests are the same.  Conversely the classes of a forest
can be added one by one in some order, for instance level by level
(`Forest.waysAgree`).
-/

namespace MethodRoles

namespace Forest

variable {forest : Forest} {links done rest : List ClassLink}

/-! ## Building in passes -/

/-- A class without its parent. -/
def bare (link : ClassLink) : ClassLink :=
  ⟨link.name, none⟩

theorem names_bare (done rest : List ClassLink) :
    (Forest.mk (done ++ rest.map bare)).names = (Forest.mk (done ++ rest)).names := by
  simp [names, bare, Function.comp_def]

theorem contains_append (forest : Forest) (link : ClassLink) (name : Text) :
    (forest.append link).contains name = (name == link.name || forest.contains name) := by
  rw [Bool.eq_iff_iff, contains_iff, names_append, Bool.or_eq_true, contains_iff, beq_iff_eq,
    List.mem_append, List.mem_singleton, or_comm]

/-- The first pass puts in all classes, unless one of them is there when its turn comes. -/
theorem call_addRoots {before : List Text}
    (known : ∀ name, before.contains name = forest.contains name) :
    match repeated? before links with
    | some className =>
        ((forM links fun link => addRoot link.name).call forest).1 =
          .error (.duplicateClass className)
    | none =>
        (forM links fun link => addRoot link.name).call forest =
          (.ok (), ⟨forest.links ++ links.map bare⟩) := by
  induction links generalizing forest before with
  | nil => simp [repeated?, List.forM_nil]
  | cons link links induction =>
      rw [repeated?, known, List.forM_cons, Update.call_bind, call_addRoot]
      cases duplicate : forest.contains link.name with
      | true => rfl
      | false =>
          have added : ∀ name, (link.name :: before).contains name =
              (forest.append (bare link)).contains name := by
            intro name
            rw [List.contains_cons, known, contains_append, bare]
          have later := induction added
          simpa [append, bare] using later

/-- Putting a class under its parent leaves the classes before and behind it as they are. -/
theorem attach_bare {link : ClassLink} {parent : Text}
    (distinct : (Forest.mk (done ++ link :: rest)).names.Nodup)
    (declared : link.parent? = some parent) :
    (Forest.mk (done ++ (link :: rest).map bare)).attach link.name parent =
      ⟨(done ++ [link]) ++ rest.map bare⟩ := by
  have apart : (∀ other ∈ done, other.name ≠ link.name) ∧
      ∀ other ∈ rest, other.name ≠ link.name := by
    simp only [names, List.map_append, List.map_cons, List.nodup_append, List.nodup_cons,
      List.mem_map, List.mem_cons] at distinct
    constructor
    · intro other member
      exact distinct.2.2 _ ⟨other, member, rfl⟩ _ (.inl rfl)
    · intro other member same
      exact distinct.2.1.1 ⟨other, member, same⟩
  have before : link.name ∉ (Forest.mk done).names := by
    intro member
    rcases List.mem_map.mp member with ⟨other, listed, same⟩
    exact apart.1 other listed same
  have behind : link.name ∉ (Forest.mk (rest.map bare)).names := by
    intro member
    rw [← List.nil_append (rest.map bare), names_bare, List.nil_append] at member
    rcases List.mem_map.mp member with ⟨other, listed, same⟩
    exact apart.2 other listed same
  have whole : (⟨link.name, some parent⟩ : ClassLink) = link := by
    rw [← declared]
  rw [List.map_cons, ← List.singleton_append, attach_links_append, attach_links_append,
    attach_of_not_mem before, attach_of_not_mem behind]
  simp [attach, bare, whole]

theorem call_attachLink (forest : Forest) (link : ClassLink) :
    (attachLink link).call forest =
      match link.parent? with
      | none => (.ok (), forest)
      | some parent =>
          if forest.contains parent then
            (.ok (), forest.attach link.name parent)
          else
            (.error (.unknownParent link.name parent), forest) := by
  rw [attachLink]
  cases link.parent? with
  | none => rfl
  | some parent => cases listed : forest.contains parent <;> simp [Update.call_bind, listed]

/-- The second pass puts each class under its parent, unless some parent is not there. -/
theorem call_attachAll (distinct : (Forest.mk (done ++ rest)).names.Nodup) :
    match rest.findSome? (fun link => (link.parent?.filter fun parent =>
        !(Forest.mk (done ++ rest)).contains parent).map (link.name, ·)) with
    | some (className, parent) =>
        ((forM rest attachLink).call ⟨done ++ rest.map bare⟩).1 =
          .error (.unknownParent className parent)
    | none =>
        (forM rest attachLink).call ⟨done ++ rest.map bare⟩ = (.ok (), ⟨done ++ rest⟩) := by
  induction rest generalizing done with
  | nil => simp [List.forM_nil]
  | cons link rest induction =>
      have moved : done ++ link :: rest = (done ++ [link]) ++ rest := by simp
      have known : ∀ name, (Forest.mk (done ++ (link :: rest).map bare)).contains name =
          (Forest.mk (done ++ link :: rest)).contains name := by
        intro name
        rw [Bool.eq_iff_iff, contains_iff, contains_iff, names_bare]
      rw [moved] at distinct
      have later := induction distinct
      rw [← moved] at distinct later
      rw [List.findSome?_cons, List.forM_cons, Update.call_bind, call_attachLink]
      cases declared : link.parent? with
      | none =>
          have whole : bare link = link := by
            rw [bare, ← declared]
          simpa [whole] using later
      | some parent =>
          cases listed : (Forest.mk (done ++ link :: rest)).contains parent with
          | false => simp only [known, listed, Option.filter_some, Bool.not_false, if_true,
              Option.map_some, Bool.false_eq_true, if_false]
          | true =>
              simp only [known, listed, Option.filter_some, Bool.not_true, Bool.false_eq_true,
                if_false, Option.map_none, if_true, attach_bare distinct declared]
              exact later

/-- Building a forest in passes gives the forest of the links or reports what is wrong with them. -/
theorem call_build (isCyclic : Forest → Bool) (links : List ClassLink) :
    match ofLinksBy isCyclic links with
    | .ok forest => (build isCyclic links).call .empty = (.ok (), forest)
    | .error error => ((build isCyclic links).call .empty).1 = .error error := by
  have nothing : ∀ name, ([] : List Text).contains name = Forest.empty.contains name :=
    fun _ => rfl
  have roots := @call_addRoots _ links _ nothing
  rw [build, ofLinksBy]
  cases repeated : repeated? [] links with
  | some className =>
      rw [repeated] at roots
      exact Update.call_bind_of_error roots _
  | none =>
      have distinct : (Forest.mk ([] ++ links)).names.Nodup := (repeated?_eq_none_iff.mp repeated).1
      have parents := call_attachAll distinct
      rw [repeated] at roots
      rw [Update.call_bind, roots]
      cases orphan : (Forest.mk links).orphan? with
      | some missing =>
          rw [List.nil_append, ← orphan?, orphan] at parents
          exact Update.call_bind_of_error parents _
      | none =>
          rw [List.nil_append, ← orphan?, orphan] at parents
          have attached : (forM links attachLink).call ⟨Forest.empty.links ++ links.map bare⟩ =
            (.ok (), ⟨links⟩) := parents
          simp only [Update.call_bind, attached, Update.call_get]
          cases isCyclic ⟨links⟩ <;> rfl

theorem eq_of_ofLinksBy {isCyclic : Forest → Bool}
    (built : ofLinksBy isCyclic links = .ok forest) : forest = ⟨links⟩ := by
  rw [ofLinksBy] at built
  split at built
  · contradiction
  · contradiction
  · split at built
    · contradiction
    · exact (Except.ok.inj built).symm

/-! ## Adding one by one -/

/-- Each class is new when its turn comes, and its parent is there already. -/
def ParentsFirst : (before : List Text) → List ClassLink → Prop
  | _, [] => True
  | before, link :: others =>
      link.name ∉ before ∧ (∀ parent ∈ link.parent?, parent ∈ before) ∧
        ParentsFirst (before ++ [link.name]) others

/-- The calls that add some classes one by one. -/
def adding (links : List ClassLink) : List (Update Forest Unit) :=
  links.map fun link => addClass link.name link.parent?

theorem call_addClass_of_new {link : ClassLink} (new : link.name ∉ forest.names)
    (known : ∀ parent ∈ link.parent?, parent ∈ forest.names) :
    (addClass link.name link.parent?).call forest = (.ok (), forest.append link) := by
  rw [call_addClass]
  rcases add_cases forest link.name link.parent? with
    ⟨parent, declared, missing, -⟩ | ⟨-, duplicate, -⟩ | ⟨-, -, grown⟩
  · exact absurd (known parent declared) missing
  · exact absurd duplicate new
  · rw [grown]
    rfl

theorem call_addClass_eq_ok_iff {link : ClassLink} :
    ((addClass link.name link.parent?).call forest).1 = .ok () ↔
      link.name ∉ forest.names ∧ ∀ parent ∈ link.parent?, parent ∈ forest.names := by
  constructor
  · intro succeeds
    rw [call_addClass] at succeeds
    rcases add_cases forest link.name link.parent? with
      ⟨_, -, -, failed⟩ | ⟨-, -, failed⟩ | ⟨known, new, -⟩
    · simp [failed] at succeeds
    · simp [failed] at succeeds
    · exact ⟨new, known⟩
  · rintro ⟨new, known⟩
    rw [call_addClass_of_new new known]

/-- All calls succeed exactly if every class comes once and after its parent. -/
theorem callAll_adding_eq_ok_iff :
    (∀ outcome ∈ (Update.callAll (adding links) forest).1, outcome = .ok ()) ↔
      ParentsFirst forest.names links := by
  induction links generalizing forest with
  | nil => simp [adding, Update.callAll, ParentsFirst]
  | cons link links induction =>
      change (∀ outcome ∈ ((addClass link.name link.parent?).call forest).1 ::
        (Update.callAll (adding links) ((addClass link.name link.parent?).call forest).2).1,
          outcome = .ok ()) ↔ _
      rw [List.forall_mem_cons, call_addClass_eq_ok_iff, ParentsFirst, and_assoc]
      refine and_congr_right fun new => and_congr_right fun known => ?_
      rw [call_addClass_of_new new known, induction, names_append]

theorem callAll_adding (inOrder : ParentsFirst forest.names links) :
    (Update.callAll (adding links) forest).2 = ⟨forest.links ++ links⟩ := by
  induction links generalizing forest with
  | nil => simp [adding, Update.callAll]
  | cons link links induction =>
      rcases inOrder with ⟨new, known, later⟩
      rw [← names_append] at later
      change (Update.callAll (adding links) ((addClass link.name link.parent?).call forest).2).2 = _
      rw [call_addClass_of_new new known, induction later]
      simp [append]

theorem WellFormed.appendAll (wellFormed : forest.WellFormed)
    (inOrder : ParentsFirst forest.names links) :
    (Forest.mk (forest.links ++ links)).WellFormed := by
  induction links generalizing forest with
  | nil => simpa using wellFormed
  | cons link links induction =>
      rcases inOrder with ⟨new, known, later⟩
      rw [← names_append] at later
      simpa [Forest.append] using induction (wellFormed.append known new) later

section WellFormed

variable (wellFormed : forest.WellFormed)

include wellFormed

theorem WellFormed.links_eq_map :
    forest.links = forest.names.map fun name => ⟨name, forest.parent? name⟩ := by
  rw [names, List.map_map]
  conv_lhs => rw [← List.map_id forest.links]
  apply List.map_congr_left
  intro link listed
  rw [id, Function.comp_apply, parent?_of_mem wellFormed.distinct listed]

/-- Level by level every class comes once and after its parent. -/
theorem WellFormed.parentsFirst_byLevel :
    ParentsFirst [] (forest.byLevel.map fun name => ⟨name, forest.parent? name⟩) := by
  -- The induction is on the classes that are left, behind those that have come already.
  suffices remaining : ∀ before rest, before ++ rest = forest.byLevel →
      ParentsFirst before (rest.map fun name => ⟨name, forest.parent? name⟩) from
    remaining [] forest.byLevel rfl
  intro before rest
  induction rest generalizing before with
  | nil => exact fun _ => trivial
  | cons name rest induction =>
      intro whole
      have distinct := wellFormed.nodup_byLevel
      have ordered := wellFormed.pairwise_byLevel
      rw [← whole] at distinct ordered
      refine ⟨?_, ?_, induction _ (by rw [← whole, List.append_assoc]; rfl)⟩
      · intro repeated
        exact (List.nodup_append.mp distinct).2.2 name repeated name List.mem_cons_self rfl
      · intro parent found
        have isParent := (parent?_eq_some_iff wellFormed.distinct).mp found
        have listed := wellFormed.mem_byLevel_iff.mpr (wellFormed.closed isParent)
        rw [← whole, List.mem_append, List.mem_cons] at listed
        rcases listed with earlier | rfl | later
        · exact earlier
        · exact absurd (.single isParent) (wellFormed.acyclic parent)
        · have behind := (List.pairwise_cons.mp (List.pairwise_append.mp ordered).2.1).1
          exact absurd isParent (behind parent later)

theorem WellFormed.exists_parentsFirst :
    ∃ order : List ClassLink, order.Perm forest.links ∧ ParentsFirst [] order := by
  refine ⟨_, ?_, wellFormed.parentsFirst_byLevel⟩
  have listed : forest.byLevel.Perm forest.names :=
    (List.perm_ext_iff_of_nodup wellFormed.nodup_byLevel wellFormed.distinct).mpr
      fun _ => wellFormed.mem_byLevel_iff
  conv_rhs => rw [wellFormed.links_eq_map]
  exact listed.map _

end WellFormed

/-! ## Both ways -/

/-- Two forests give the same answers to all questions, in the same order. -/
structure SameAnswers (left right : Forest) : Prop where
  size : left.size = right.size
  contains : ∀ className, left.contains className = right.contains className
  parent? : ∀ className, left.parent? className = right.parent? className
  children : ∀ className, left.children className = right.children className
  ancestors : ∀ className, left.ancestors className = right.ancestors className
  descendants : ∀ className, left.descendants className = right.descendants className
  level? : ∀ className, left.level? className = right.level? className
  roots : left.roots = right.roots
  levels : left.levels = right.levels
  byLevel : left.byLevel = right.byLevel

theorem SameAnswers.refl (forest : Forest) : SameAnswers forest forest :=
  ⟨rfl, fun _ => rfl, fun _ => rfl, fun _ => rfl, fun _ => rfl, fun _ => rfl, fun _ => rfl,
    rfl, rfl, rfl⟩

/-- Adding some classes one by one and building a forest of them at once lead to the same. -/
structure WaysAgree (isCyclic : Forest → Bool) (links : List ClassLink) : Prop where
  /-- Classes that can be added in their order can be built, and the forests answer alike. -/
  atOnce : (∀ outcome ∈ (Update.callAll (adding links) .empty).1, outcome = .ok ()) →
    ∃ built, ofLinksBy isCyclic links = .ok built ∧
      (build isCyclic links).call .empty = (.ok (), built) ∧
        SameAnswers built (Update.callAll (adding links) .empty).2
  /-- Classes that can be built can all be added in some order. -/
  oneByOne : ∀ built, ofLinksBy isCyclic links = .ok built →
    ∃ order : List ClassLink, order.Perm links ∧
      ∀ outcome ∈ (Update.callAll (adding order) .empty).1, outcome = .ok ()

theorem waysAgree {isCyclic : Forest → Bool} (decides : DecidesCycles isCyclic)
    (links : List ClassLink) : WaysAgree isCyclic links where
  atOnce := by
    intro succeed
    have inOrder : ParentsFirst Forest.empty.names links := callAll_adding_eq_ok_iff.mp succeed
    have wellFormed : (Forest.mk links).WellFormed := WellFormed.empty.appendAll inOrder
    have built := (ofLinksBy_of_graph decides wellFormed.toIsGraph).1 wellFormed.acyclic
    have inPasses := call_build isCyclic links
    rw [built] at inPasses
    have grown : (Update.callAll (adding links) .empty).2 = ⟨links⟩ := callAll_adding inOrder
    exact ⟨⟨links⟩, built, inPasses, grown ▸ SameAnswers.refl _⟩
  oneByOne := by
    intro built accepted
    have wellFormed := WellFormed.ofLinksBy decides accepted
    rcases wellFormed.exists_parentsFirst with ⟨order, permuted, inOrder⟩
    rw [eq_of_ofLinksBy accepted] at permuted
    exact ⟨order, permuted, callAll_adding_eq_ok_iff.mpr inOrder⟩

/-- A class listed before its parent can be built at once but added only in the other order. -/
theorem waysAgree_shuffledLinks :
    DecidesCycles isCyclic ∧ WaysAgree isCyclic shuffledLinks ∧
      ofLinksBy isCyclic shuffledLinks = .ok ⟨shuffledLinks⟩ ∧
        (Update.callAll (adding shuffledLinks) .empty).1 =
          [.error (.unknownParent "Leaf".toList "Root".toList), .ok ()] ∧
        (Update.callAll (adding shuffledLinks.reverse) .empty).1 = [.ok (), .ok ()] :=
  ⟨decidesCycles_isCyclic, waysAgree decidesCycles_isCyclic shuffledLinks, by decide, by decide,
    by decide⟩

end Forest

end MethodRoles
