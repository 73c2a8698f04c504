import MethodRoles.Inheritance.Update
import MethodRoles.Proofs.Text.Distinct
import Mathlib.Logic.Relation

/-!
# Growing a forest

A forest is well formed when it lists every class once, each under a parent that it
lists too, and no class is above itself.  The answers about parents and children are
then those of the listed links.

Adding a class keeps a forest well formed, because a new class is above nothing.  A
call that adds a class has the outcome of `Forest.add`, and it changes nothing when it
fails, although it is made of steps that change the forest one after the other
(`Forest.call_addClass`).
-/

namespace MethodRoles

namespace Forest

/-- The names of the classes, in the order in which they were added. -/
def names (forest : Forest) : List Text :=
  forest.links.map ClassLink.name

/-- A class is listed under a parent. -/
def IsParent (forest : Forest) (parent child : Text) : Prop :=
  ⟨child, some parent⟩ ∈ forest.links

/-- The classes are distinct and their parents are among them. -/
structure IsGraph (forest : Forest) : Prop where
  distinct : forest.names.Nodup
  closed : ∀ {parent child}, forest.IsParent parent child → parent ∈ forest.names

/-- No class is above itself. -/
def Acyclic (forest : Forest) : Prop :=
  ∀ className, ¬ Relation.TransGen forest.IsParent className className

/-- The classes are distinct, their parents are among them, and none is above itself. -/
structure WellFormed (forest : Forest) : Prop extends forest.IsGraph where
  acyclic : forest.Acyclic

variable {forest : Forest} {className parent child : Text} {parent? : Option Text}

theorem length_names (forest : Forest) : forest.names.length = forest.size :=
  List.length_map _

theorem contains_iff : forest.contains className = true ↔ className ∈ forest.names := by
  simp [contains, names, List.any_eq_true]

theorem contains_eq_false_iff :
    forest.contains className = false ↔ className ∉ forest.names := by
  rw [← contains_iff, Bool.not_eq_true]

theorem IsParent.mem_names (isParent : forest.IsParent parent child) : child ∈ forest.names :=
  List.mem_map.mpr ⟨_, isParent, rfl⟩

theorem mem_children_iff : child ∈ forest.children parent ↔ forest.IsParent parent child := by
  simp only [children, List.mem_map, List.mem_filter, beq_iff_eq]
  constructor
  · rintro ⟨⟨_, _⟩, ⟨listed, rfl⟩, rfl⟩
    exact listed
  · intro isParent
    exact ⟨_, ⟨isParent, rfl⟩, rfl⟩

section Distinct

variable (distinct : forest.names.Nodup)

include distinct

/-- The parent that is listed with a class is the one that is found. -/
theorem parent?_of_mem (listed : ⟨className, parent?⟩ ∈ forest.links) :
    forest.parent? className = parent? := by
  rw [Forest.parent?, (Text.find?_eq_some_iff_of_nodup distinct).mpr ⟨listed, rfl⟩,
    Option.bind_some]

theorem parent?_eq_some_iff :
    forest.parent? child = some parent ↔ forest.IsParent parent child := by
  constructor
  · intro found
    rcases Option.bind_eq_some_iff.mp found with ⟨⟨name, parent?⟩, first, rfl⟩
    rcases (Text.find?_eq_some_iff_of_nodup distinct).mp first with ⟨listed, rfl⟩
    exact listed
  · exact parent?_of_mem distinct

theorem IsParent.unique {other : Text} (isParent : forest.IsParent parent child)
    (isOther : forest.IsParent other child) : parent = other := by
  rw [← parent?_eq_some_iff distinct] at isParent isOther
  exact Option.some.inj (isParent.symm.trans isOther)

theorem mem_roots_iff :
    className ∈ forest.roots ↔
      className ∈ forest.names ∧ forest.parent? className = none := by
  simp only [roots, List.mem_map, List.mem_filter, Option.isNone_iff_eq_none]
  constructor
  · rintro ⟨⟨name, parent?⟩, ⟨listed, rfl⟩, rfl⟩
    exact ⟨List.mem_map_of_mem listed, parent?_of_mem distinct listed⟩
  · rintro ⟨member, root⟩
    rcases List.mem_map.mp member with ⟨⟨name, parent?⟩, listed, rfl⟩
    rw [parent?_of_mem distinct listed] at root
    exact ⟨_, ⟨listed, root⟩, rfl⟩

theorem nodup_children (className : Text) : (forest.children className).Nodup :=
  distinct.sublist (List.filter_sublist.map _)

theorem nodup_roots : forest.roots.Nodup :=
  distinct.sublist (List.filter_sublist.map _)

end Distinct

/-- A class without a parent in a list has none to be found. -/
theorem parent?_eq_none_of_not_mem (missing : className ∉ forest.names) :
    forest.parent? className = none := by
  have absent : forest.links.find? (fun link => link.name == className) = none := by
    rw [List.find?_eq_none]
    intro link member
    simp only [beq_iff_eq]
    rintro rfl
    exact missing (List.mem_map_of_mem member)
  rw [Forest.parent?, absent, Option.bind_none]

/-- Everything that adding a class can do. -/
theorem add_cases (forest : Forest) (className : Text) (parent? : Option Text) :
    (∃ parent, parent? = some parent ∧ parent ∉ forest.names ∧
        forest.add className parent? = .error (.unknownParent className parent)) ∨
      (∀ parent ∈ parent?, parent ∈ forest.names) ∧ className ∈ forest.names ∧
          forest.add className parent? = .error (.duplicateClass className) ∨
        (∀ parent ∈ parent?, parent ∈ forest.names) ∧ className ∉ forest.names ∧
          forest.add className parent? = .ok ⟨forest.links ++ [⟨className, parent?⟩]⟩ := by
  have known : (∀ parent ∈ parent?, parent ∈ forest.names) →
      parent?.filter (fun parent => !forest.contains parent) = none := by
    intro listed
    rw [Option.filter_eq_none_iff]
    intro parent member
    simpa [contains_iff] using listed parent member
  by_cases listed : ∀ parent ∈ parent?, parent ∈ forest.names
  · right
    by_cases duplicate : className ∈ forest.names
    · left
      refine ⟨listed, duplicate, ?_⟩
      simp [add, known listed, contains_iff.mpr duplicate]
    · right
      refine ⟨listed, duplicate, ?_⟩
      simp [add, known listed, contains_eq_false_iff.mpr duplicate]
  · left
    rcases parent? with _ | parent
    · simp at listed
    · have missing : parent ∉ forest.names := by simpa using listed
      have unknown : (some parent).filter (fun parent => !forest.contains parent) =
          some parent := by
        simp [Option.filter, contains_eq_false_iff.mpr missing]
      refine ⟨parent, rfl, missing, ?_⟩
      rw [add, unknown]

/-- The forest with one more class at the end. -/
def append (forest : Forest) (link : ClassLink) : Forest :=
  ⟨forest.links ++ [link]⟩

section Append

variable (wellFormed : forest.WellFormed) {link : ClassLink}
  (known : ∀ parent ∈ link.parent?, parent ∈ forest.names) (new : link.name ∉ forest.names)

theorem isParent_append_iff :
    (forest.append link).IsParent parent child ↔
      forest.IsParent parent child ∨ link = ⟨child, some parent⟩ := by
  simp [append, IsParent, eq_comm]

theorem names_append : (forest.append link).names = forest.names ++ [link.name] := by
  simp [append, names]

include wellFormed known new

/-- A new class is above nothing. -/
theorem not_isParent_append : ¬ (forest.append link).IsParent link.name child := by
  rw [isParent_append_iff]
  rintro (isParent | same)
  · exact new (wellFormed.closed isParent)
  · exact new (known link.name (congrArg ClassLink.parent? same))

theorem transGen_of_append
    (above : Relation.TransGen (forest.append link).IsParent parent child)
    (old : child ≠ link.name) : Relation.TransGen forest.IsParent parent child := by
  have kept : ∀ {upper lower}, (forest.append link).IsParent upper lower →
      lower ≠ link.name → forest.IsParent upper lower := by
    intro upper lower isParent old
    refine (isParent_append_iff.mp isParent).resolve_right ?_
    rintro rfl
    exact old rfl
  induction above with
  | single isParent => exact .single (kept isParent old)
  | @tail middle lower _ isParent induction =>
      refine .tail (induction ?_) (kept isParent old)
      rintro rfl
      exact not_isParent_append wellFormed known new isParent

theorem WellFormed.append : (forest.append link).WellFormed where
  distinct := by
    rw [names_append, ← List.concat_eq_append]
    exact wellFormed.distinct.concat new
  closed := by
    intro parent child isParent
    rw [names_append, List.mem_append]
    left
    rcases isParent_append_iff.mp isParent with isParent | rfl
    · exact wellFormed.closed isParent
    · exact known parent rfl
  acyclic := by
    intro className circle
    refine wellFormed.acyclic className
      (transGen_of_append wellFormed known new circle ?_)
    rintro rfl
    rcases Relation.TransGen.head'_iff.mp circle with ⟨child, isParent, -⟩
    exact not_isParent_append wellFormed known new isParent

end Append

theorem WellFormed.empty : Forest.empty.WellFormed where
  distinct := List.nodup_nil
  closed := nofun
  acyclic := by
    intro className circle
    rcases Relation.TransGen.head'_iff.mp circle with ⟨child, isParent, -⟩
    exact absurd isParent List.not_mem_nil

/-- Adding a class keeps a forest well formed. -/
theorem WellFormed.add {later : Forest} (wellFormed : forest.WellFormed)
    (added : forest.add className parent? = .ok later) : later.WellFormed := by
  rcases add_cases forest className parent? with
    ⟨parent, -, -, failed⟩ | ⟨-, -, failed⟩ | ⟨known, new, grown⟩
  · rw [failed] at added
    contradiction
  · rw [failed] at added
    contradiction
  · rw [grown] at added
    cases added
    exact wellFormed.append known new

/-- The step that puts in a class changes nothing when it fails. -/
theorem call_addRoot (forest : Forest) (className : Text) :
    (addRoot className).call forest =
      if forest.contains className then
        (.error (.duplicateClass className), forest)
      else
        (.ok (), forest.append ⟨className, none⟩) := by
  cases duplicate : forest.contains className <;>
    simp [addRoot, Update.call_bind, duplicate, append]

/-- Only a class that is there is put under a parent. -/
theorem attach_of_not_mem (missing : className ∉ forest.names) :
    forest.attach className parent = forest := by
  have kept : forest.links.map (fun link =>
      if link.name = className then ⟨className, some parent⟩ else link) = forest.links := by
    conv_rhs => rw [← List.map_id forest.links]
    apply List.map_congr_left
    intro link member
    rw [if_neg, id]
    rintro rfl
    exact missing (List.mem_map_of_mem member)
  rw [attach, kept]

/-- The parts of a list of classes are looked through on their own. -/
theorem attach_links_append (before after : List ClassLink) :
    (Forest.mk (before ++ after)).attach className parent =
      ⟨((Forest.mk before).attach className parent).links ++
        ((Forest.mk after).attach className parent).links⟩ := by
  simp only [attach, List.map_append]

theorem attach_append (new : className ∉ forest.names) :
    (forest.append ⟨className, none⟩).attach className parent =
      forest.append ⟨className, some parent⟩ := by
  rw [append, attach_links_append, attach_of_not_mem new]
  simp [attach, append]

/-- A call gives the outcome of adding the class, and a failing one changes nothing. -/
theorem call_addClass (forest : Forest) (className : Text) (parent? : Option Text) :
    (addClass className parent?).call forest =
      match forest.add className parent? with
      | .ok later => (.ok (), later)
      | .error error => (.error error, forest) := by
  rcases add_cases forest className parent? with
    ⟨parent, rfl, missing, failed⟩ | ⟨known, duplicate, failed⟩ | ⟨known, new, grown⟩
  · rw [failed, addClass, Update.call_bind, Update.call_get]
    simp [contains_eq_false_iff.mpr missing]
  · rw [failed]
    cases parent? with
    | none => simp [addClass, call_addRoot, contains_iff.mpr duplicate]
    | some parent =>
        simp [addClass, Update.call_bind, call_addRoot, contains_iff.mpr duplicate,
          contains_iff.mpr (known parent rfl)]
  · rw [grown]
    cases parent? with
    | none => simp [addClass, call_addRoot, contains_eq_false_iff.mpr new, append]
    | some parent =>
        simp [addClass, Update.call_bind, call_addRoot, contains_eq_false_iff.mpr new,
          contains_iff.mpr (known parent rfl), attach_append new]
        rfl

end Forest

end MethodRoles
