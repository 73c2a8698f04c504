import MethodRoles.Probe.Scripted
import MethodRoles.Proofs.Role.Independence
import MethodRoles.Proofs.Role.SameMethods

/-!
# The order of a directory

Most of a classification does not depend on the order in which a directory lists its
methods: all other categories follow from the toggles.  The toggles depend on it where
one of them claims a switch of another as its getter or its setter.  Of two such
properties the one that is listed first is switched, and it may keep the other from
being switched.

Hence all orders of a directory have the same categories exactly if its switches are
apart (`Directory.classify_reordered`).
-/

namespace MethodRoles

namespace Directory

variable {Object : Type}

/-- No switch of a property that can be switched is an accessor of another such property. -/
def SwitchesApart (directory : Directory Object) : Prop :=
  ∀ property other, directory.CanSwitch property → directory.CanSwitch other →
    ¬ Naming.Crosses other property

/-- The properties that can be switched. -/
def switchable (directory : Directory Object) : List Text :=
  (directory.publicNames.filterMap Naming.switchedProperty?).filter directory.CanSwitch

theorem mem_switchable_iff {directory : Directory Object} {property : Text} :
    property ∈ directory.switchable ↔ directory.CanSwitch property := by
  rw [switchable, List.mem_filter, decide_eq_true_eq, and_iff_right_iff_imp]
  rintro ⟨nonempty, ⟨listed, -⟩, -⟩
  exact List.mem_filterMap.mpr
    ⟨_, listed, Naming.switchedProperty?_eq_some_iff.mpr ⟨rfl, nonempty⟩⟩

instance (directory : Directory Object) : Decidable directory.SwitchesApart :=
  decidable_of_iff (∀ property ∈ directory.switchable, ∀ other ∈ directory.switchable,
      ¬ Naming.Crosses other property) <| by
    simp only [mem_switchable_iff, SwitchesApart]
    exact forall_congr' fun _ => forall_comm

theorem SameMethods.switchesApart_iff {left right : Directory Object}
    (same : left.SameMethods right) : left.SwitchesApart ↔ right.SwitchesApart := by
  simp only [SwitchesApart, same.canSwitch_iff]

end Directory

namespace Classification

/-- Two classifications have the same categories, but for the order in which they are listed. -/
structure SameCategories (left right : Classification) : Prop where
  toggles : left.toggles.names = right.toggles.names
  states : left.states.names = right.states.names
  options : ∀ property lefts rights,
    (property, lefts) ∈ left.states → (property, rights) ∈ right.states →
      (lefts.map StateOption.name).Perm (rights.map StateOption.name)
  pairs : left.pairs.names = right.pairs.names
  bounded : left.boundedProperties = right.boundedProperties
  getters : left.getters.Perm right.getters
  others : left.others.Perm right.others

section Reads

variable {Object : Type} {directory : Directory Object} {classification : Classification}
  (reads : classification.Reads (RolePlan.ofDirectory directory))

include reads

theorem Reads.boundedProperties_perm :
    classification.boundedProperties.Perm
      (((RolePlan.ofDirectory directory).pairs.filter PairPlan.bounded).map
        PairPlan.property) := by
  have distinct : (((RolePlan.ofDirectory directory).pairs.map fun pair =>
      (pair.property, pair)).map Prod.fst).Nodup := by
    simpa [Function.comp_def] using RolePlan.nodup_pair_properties directory
  have kept : classification.boundedProperties = _ :=
    reads.pairs.names_filter_eq fun _ _ bounded => bounded
  rw [kept]
  have ordered := ((Keyed.ofList_perm distinct).filter fun entry => entry.2.bounded).map Prod.fst
  rw [List.filter_map, List.map_map] at ordered
  exact ordered

theorem Reads.boundedProperties_increasing :
    classification.boundedProperties.Pairwise (· < ·) :=
  reads.pairs.names_increasing.sublist (List.filter_sublist.map _)

end Reads

/-- Directories of the same methods with the same toggles have the same categories. -/
theorem SameCategories.of_reads {Object : Type} {left right : Directory Object}
    (same : left.SameMethods right) {first second : Classification}
    (reads : first.Reads (RolePlan.ofDirectory left))
    (readsToo : second.Reads (RolePlan.ofDirectory right))
    (switched : first.toggles.names.Perm second.toggles.names) :
    SameCategories first second := by
  have planned := (reads.toggle_names_perm.symm.trans switched).trans readsToo.toggle_names_perm
  constructor
  case toggles =>
    exact Keyed.eq_of_increasing switched reads.toggles.names_increasing
      readsToo.toggles.names_increasing
  case states =>
    refine Keyed.eq_of_increasing ?_ reads.states.names_increasing
      readsToo.states.names_increasing
    exact (reads.state_names_perm.trans (RolePlan.state_properties_perm same planned)).trans
      readsToo.state_names_perm.symm
  case options =>
    intro property lefts rights member memberToo
    rcases reads.exists_state member with ⟨state, founded, rfl, front⟩
    rcases readsToo.exists_state memberToo with ⟨other, foundedToo, one, frontToo⟩
    exact (front.perm.trans (RolePlan.options_perm same planned founded foundedToo one.symm)).trans
      frontToo.perm.symm
  case pairs =>
    refine Keyed.eq_of_increasing ?_ reads.pairs.names_increasing readsToo.pairs.names_increasing
    exact (reads.pair_names_perm.trans ((RolePlan.pairs_perm same planned).map _)).trans
      readsToo.pair_names_perm.symm
  case bounded =>
    refine Keyed.eq_of_increasing ?_ reads.boundedProperties_increasing
      readsToo.boundedProperties_increasing
    exact (reads.boundedProperties_perm.trans
      (((RolePlan.pairs_perm same planned).filter _).map _)).trans
        readsToo.boundedProperties_perm.symm
  case getters =>
    rw [reads.getters, readsToo.getters]
    exact RolePlan.getters_perm same planned
  case others =>
    rw [reads.others, readsToo.others]
    exact RolePlan.others_perm same planned

end Classification

namespace Directory

variable {Object : Type} {directory left right : Directory Object} {property : Text}

/-- Any public name can be listed first. -/
theorem exists_first (listed : property ∈ directory.publicNames) :
    ∃ reordered : Directory Object, reordered.Reorders directory ∧
      reordered.publicNames.head? = some property := by
  rcases mem_publicNames.mp listed with ⟨named, isPublic⟩
  rcases List.mem_map.mp named with ⟨entry, member, rfl⟩
  rcases List.append_of_mem member with ⟨before, after, whole⟩
  refine ⟨{ directory with entries := entry :: (before ++ after) }, ⟨rfl, ?_⟩, ?_⟩
  · rw [whole]
    exact List.perm_middle.symm
  · rw [publicNames, methodNames, List.map_cons, List.filter_cons_of_pos isPublic, Text.distinct,
      List.head?_cons]

theorem SwitchesApart.mem_toggle_properties_iff (apart : directory.SwitchesApart) :
    property ∈ (RolePlan.ofDirectory directory).toggles.map TogglePlan.property ↔
      directory.CanSwitch property := by
  constructor
  · exact RolePlan.canSwitch_of_mem
  · intro canSwitch
    rcases RolePlan.switched_or_crossed canSwitch with planned | ⟨other, planned, crosses⟩
    · exact planned
    · exact absurd crosses (apart property other canSwitch (RolePlan.canSwitch_of_mem planned))

theorem SwitchesApart.toggle_properties_perm (same : left.SameMethods right)
    (apart : left.SwitchesApart) :
    ((RolePlan.ofDirectory left).toggles.map TogglePlan.property).Perm
      ((RolePlan.ofDirectory right).toggles.map TogglePlan.property) := by
  rw [List.perm_ext_iff_of_nodup (RolePlan.nodup_toggle_properties left)
    (RolePlan.nodup_toggle_properties right)]
  intro property
  rw [apart.mem_toggle_properties_iff, same.canSwitch_iff,
    (same.switchesApart_iff.mp apart).mem_toggle_properties_iff]

/-- What the classifications of two orders of a directory have in common. -/
structure AgreeUpToCrossing (directory : Directory Object) (left right : Classification) :
    Prop where
  /-- All categories are the same if the switches are apart, -/
  apart : directory.SwitchesApart → left.SameCategories right
  /-- and they are the same if the toggles are. -/
  switched : left.toggles.names = right.toggles.names → left.SameCategories right
  /-- Where only one order switches a property, a toggle of the other order crosses it. -/
  crossed : ∀ property ∈ left.toggles.names, property ∉ right.toggles.names →
    ∃ other ∈ right.toggles.names, Naming.Crosses other property

theorem AgreeUpToCrossing.of_reads {first second : Classification}
    (leftSame : left.SameMethods directory) (rightSame : right.SameMethods directory)
    (reads : first.Reads (RolePlan.ofDirectory left))
    (readsToo : second.Reads (RolePlan.ofDirectory right)) :
    directory.AgreeUpToCrossing first second := by
  have same : left.SameMethods right := leftSame.trans rightSame.symm
  constructor
  case apart =>
    intro apart
    have planned := (leftSame.switchesApart_iff.mpr apart).toggle_properties_perm same
    exact .of_reads same reads readsToo
      ((reads.toggle_names_perm.trans planned).trans readsToo.toggle_names_perm.symm)
  case switched =>
    intro switched
    exact .of_reads same reads readsToo (.of_eq switched)
  case crossed =>
    intro property switched unswitched
    rw [reads.toggle_names_perm.mem_iff] at switched
    have canSwitch := same.canSwitch_iff.mp (RolePlan.canSwitch_of_mem switched)
    simp only [readsToo.toggle_names_perm.mem_iff] at unswitched ⊢
    exact (RolePlan.switched_or_crossed canSwitch).resolve_left unswitched

/-- If the switches are not apart, two orders have different toggles. -/
theorem exists_reorders_of_not_switchesApart (distinct : directory.methodNames.Nodup)
    (crossed : ¬ directory.SwitchesApart) :
    ∃ left right : Directory Object, left.Reorders directory ∧ right.Reorders directory ∧
      ∃ property, property ∈ (RolePlan.ofDirectory left).toggles.map TogglePlan.property ∧
        property ∉ (RolePlan.ofDirectory right).toggles.map TogglePlan.property := by
  simp only [SwitchesApart, not_forall, not_not] at crossed
  rcases crossed with ⟨property, other, canSwitch, canSwitchToo, crosses⟩
  rcases exists_first canSwitch.2.1.1 with ⟨left, reorders, first⟩
  rcases exists_first canSwitchToo.2.1.1 with ⟨right, reordersToo, firstToo⟩
  rw [← (reorders.sameMethods distinct).canSwitch_iff] at canSwitch
  rw [← (reordersToo.sameMethods distinct).canSwitch_iff] at canSwitchToo
  refine ⟨left, right, reorders, reordersToo, property, ?_, ?_⟩
  · exact (RolePlan.toggles_of_first canSwitch first).1
  · intro planned
    exact (RolePlan.toggles_of_first canSwitchToo firstToo).2 property planned crosses

/--
Two orders of a directory agree in all but toggles that get into each other's way, and
if the switches of the directory are not apart, some two orders differ in their toggles.
-/
theorem classify_reordered (directory : Directory Object)
    (distinct : directory.methodNames.Nodup) :
    (∀ {First Second : Type} [Probeable First] [Probeable Second] (left right : Directory Object)
        (first : Probe First) (second : Probe Second),
      left.Reorders directory → right.Reorders directory →
        directory.AgreeUpToCrossing (left.classify first).1 (right.classify second).1) ∧
      (¬ directory.SwitchesApart →
        ∃ left right : Directory Object, left.Reorders directory ∧ right.Reorders directory ∧
          ∀ {First Second : Type} [Probeable First] [Probeable Second] (first : Probe First)
            (second : Probe Second), (left.classify first).1.toggles.names ≠
              (right.classify second).1.toggles.names) := by
  constructor
  · intro First Second _ _ left right first second reorders reordersToo
    exact .of_reads (reorders.sameMethods distinct) (reordersToo.sameMethods distinct)
      (left.reads_classify first) (right.reads_classify second)
  · intro crossed
    rcases exists_reorders_of_not_switchesApart distinct crossed with
      ⟨left, right, reorders, reordersToo, property, switched, unswitched⟩
    refine ⟨left, right, reorders, reordersToo, ?_⟩
    intro First Second _ _ first second toggles
    have reads : (left.classify first).1.Reads (RolePlan.ofDirectory left) :=
      left.reads_classify first
    have readsToo : (right.classify second).1.Reads (RolePlan.ofDirectory right) :=
      right.reads_classify second
    rw [← reads.toggle_names_perm.mem_iff, toggles, readsToo.toggle_names_perm.mem_iff] at switched
    exact unswitched switched

/-- A directory listed from behind. -/
def reversed (directory : Directory Object) : Directory Object :=
  { directory with entries := directory.entries.reverse }

theorem reversed_reorders (directory : Directory Object) :
    directory.reversed.Reorders directory :=
  ⟨rfl, List.reverse_perm _⟩

/-- A gauge, which has methods of every role. -/
def gaugeDirectory : Directory ScriptedObject where
  className := "Gauge".toList
  entries :=
    [("LightOn".toList, some "V.LightOn()".toList),
      ("LightOff".toList, some "V.LightOff()".toList),
      ("SetModeToDim".toList, some "V.SetModeToDim()".toList),
      ("SetModeToBright".toList, some "V.SetModeToBright()".toList),
      ("GetLevel".toList, some "V.GetLevel() -> float".toList),
      ("GetLevelMinValue".toList, some "V.GetLevelMinValue() -> float".toList),
      ("GetLevelMaxValue".toList, some "V.GetLevelMaxValue() -> float".toList),
      ("SetLevel".toList, some "V.SetLevel(float)".toList),
      ("GetLabel".toList, some "V.GetLabel() -> string".toList),
      ("Reset".toList, some "V.Reset()".toList)]
  object? := none

/-- Listing the gauge from behind leaves its categories as they are. -/
theorem classify_reordered_gauge :
    gaugeDirectory.methodNames.Nodup ∧ gaugeDirectory.SwitchesApart ∧
      Classification.SameCategories
        (gaugeDirectory.classify (none : Probe ScriptedObject)).1
        (gaugeDirectory.reversed.classify (none : Probe ScriptedObject)).1 := by
  have distinct : gaugeDirectory.methodNames.Nodup := by decide +kernel
  have apart : gaugeDirectory.SwitchesApart := by decide +kernel
  have orders := (classify_reordered gaugeDirectory distinct).1 gaugeDirectory
    gaugeDirectory.reversed (none : Probe ScriptedObject) (none : Probe ScriptedObject)
    ⟨rfl, List.Perm.refl _⟩ gaugeDirectory.reversed_reorders
  exact ⟨distinct, apart, orders.apart apart⟩

/-- Two lamps, of which one is switched by the names of the accessors of the other. -/
def lampsDirectory : Directory ScriptedObject where
  className := "Lamps".toList
  entries :=
    [("LampOnOn".toList, some "V.LampOnOn()".toList),
      ("LampOnOff".toList, some "V.LampOnOff()".toList),
      ("GetLampOn".toList, some "V.GetLampOn()".toList),
      ("GetLampOff".toList, some "V.GetLampOff()".toList)]
  object? := none

/-- Only listed from behind the lamps have both toggles. -/
theorem not_sameCategories_lamps :
    lampsDirectory.methodNames.Nodup ∧ lampsDirectory.reversed.Reorders lampsDirectory ∧
      ¬ Classification.SameCategories
        (lampsDirectory.classify (none : Probe ScriptedObject)).1
        (lampsDirectory.reversed.classify (none : Probe ScriptedObject)).1 := by
  refine ⟨by decide +kernel, lampsDirectory.reversed_reorders, ?_⟩
  intro same
  have first : (lampsDirectory.classify (none : Probe ScriptedObject)).1.toggles.names =
      ["LampOn".toList] := by
    decide +kernel
  have second : (lampsDirectory.reversed.classify
      (none : Probe ScriptedObject)).1.toggles.names = ["GetLamp".toList, "LampOn".toList] := by
    decide +kernel
  have toggles := same.toggles
  rw [first, second] at toggles
  exact absurd toggles (by decide)

end Directory

end MethodRoles
