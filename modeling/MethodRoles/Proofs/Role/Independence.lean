import MethodRoles.Classifier
import MethodRoles.Proofs.Role.Sorting

/-!
# Roles do not depend on what objects answer

Two classifications of one directory have the same roles, whatever the objects
answer that their values are read from, and whether there is an object at all
(`Classifier.sameRoles`).  So neither the policy nor the hierarchy has a say in
them.  Only the first place among the options of a state may differ.

A sorter asks the object for values between its decisions, and its decisions go by the
names that were taken before.  Which names these are does not depend on the answers:
two sortings run side by side, since each reads the plan of the directory
(`Directory.classify_eq_readPlan`).
-/

namespace MethodRoles

namespace Classification

/-- The properties that are read and written within known bounds. -/
def boundedProperties (classification : Classification) : List Text :=
  (classification.pairs.filter fun entry => entry.2.bounds?.isSome).map Prod.fst

/--
Two lists of options hold the same ones, each in the order of the directory but
for one option at most that stands in front.
-/
structure SameOptions {Object : Type} (directory : Directory Object) (property : Text)
    (lefts rights : List Text) : Prop where
  /-- The lists differ in order alone. -/
  perm : lefts.Perm rights
  /-- Both come from the order of the directory by one move to the front. -/
  declared : ∃ declared : List Text,
    directory.ListsInOrder (declared.map (Naming.selector property)) ∧
      MovedToFront declared lefts ∧ MovedToFront declared rights

/-- Two classifications of a directory agree in all but what was read of the values. -/
structure SameRoles {Object : Type} (directory : Directory Object)
    (left right : Classification) : Prop where
  /-- The same properties are switched. -/
  toggles : left.toggles.names = right.toggles.names
  /-- The same properties have options. -/
  states : left.states.names = right.states.names
  /-- The same properties are read and written. -/
  pairs : left.pairs.names = right.pairs.names
  /-- The same of these have bounds. -/
  bounded : left.boundedProperties = right.boundedProperties
  /-- The same methods are getters, in the same order. -/
  getters : left.getters = right.getters
  /-- The same methods are left over, in the same order. -/
  others : left.others = right.others
  /-- The options of each state are the same but for their order. -/
  options : ∀ property lefts rights,
    (property, lefts) ∈ left.states → (property, rights) ∈ right.states →
      SameOptions directory property (lefts.map StateOption.name) (rights.map StateOption.name)

variable {Object : Type} {directory : Directory Object}

/-- The planned state of a property, with the order in which its options are read. -/
theorem Reads.exists_state {classification : Classification}
    (reads : classification.Reads (RolePlan.ofDirectory directory)) {property : Text}
    {options : List StateOption} (member : (property, options) ∈ classification.states) :
    ∃ state ∈ (RolePlan.ofDirectory directory).states, state.property = property ∧
      MovedToFront (state.selectors.map Selector.option) (options.map StateOption.name) :=
  reads.states.exists_item (RolePlan.nodup_state_properties directory) member

theorem SameRoles.of_reads {left right : Classification}
    (leftReads : left.Reads (RolePlan.ofDirectory directory))
    (rightReads : right.Reads (RolePlan.ofDirectory directory)) :
    SameRoles directory left right where
  toggles := leftReads.toggles.names_eq.symm.trans rightReads.toggles.names_eq
  states := leftReads.states.names_eq.symm.trans rightReads.states.names_eq
  pairs := leftReads.pairs.names_eq.symm.trans rightReads.pairs.names_eq
  bounded := (leftReads.pairs.names_filter_eq fun _ _ bounded => bounded).trans
    (rightReads.pairs.names_filter_eq fun _ _ bounded => bounded).symm
  getters := leftReads.getters.trans rightReads.getters.symm
  others := leftReads.others.trans rightReads.others.symm
  options := by
    intro property lefts rights leftMember rightMember
    rcases leftReads.exists_state leftMember with ⟨state, planned, rfl, leftFront⟩
    rcases rightReads.exists_state rightMember with ⟨other, otherPlanned, same, rightFront⟩
    -- The states of a plan have different properties, so both sides mean one state.
    have one : other = state :=
      List.inj_on_of_nodup_map (RolePlan.nodup_state_properties directory)
        otherPlanned planned same
    subst other
    exact ⟨leftFront.perm.trans rightFront.perm.symm,
      state.selectors.map Selector.option, RolePlan.options_inOrder planned, leftFront, rightFront⟩

end Classification

namespace Classifier

variable {Object : Type} [Probeable Object]

theorem reads_classifyClass (classifier : Classifier Object) (directory : Directory Object) :
    (classifier.classifyClass directory).1.last.Reads (RolePlan.ofDirectory directory) :=
  directory.reads_classify _

theorem reads_classifyObject (classifier : Classifier Object) (directory : Directory Object)
    (object : Object) :
    (classifier.classifyObject directory object).1.last.Reads
      (RolePlan.ofDirectory directory) := by
  have reads := directory.reads_classify (some (Recorded.borrowed object))
  rw [classifyObject]
  split <;> rename_i classified <;> rw [classified] at reads <;> exact reads

/--
The roles that a class has are the same for any two objects or none, and hence
for any two policies and hierarchies.
-/
theorem sameRoles (directory : Directory Object) :
    (∀ {Left Right : Type} [Probeable Left] [Probeable Right] (first : Probe Left)
        (second : Probe Right), Classification.SameRoles directory
          (directory.classify first).1 (directory.classify second).1) ∧
      (∀ left right : Classifier Object, Classification.SameRoles directory
        (left.classifyClass directory).1.last (right.classifyClass directory).1.last) ∧
      ∀ (left right : Classifier Object) (object : Object), Classification.SameRoles directory
        (left.classifyClass directory).1.last
        (right.classifyObject directory object).1.last := by
  refine ⟨?probes, ?classes, ?objects⟩
  case probes =>
    intro Left Right _ _ first second
    exact .of_reads (directory.reads_classify first) (directory.reads_classify second)
  case classes =>
    intro left right
    exact .of_reads (left.reads_classifyClass directory) (right.reads_classifyClass directory)
  case objects =>
    intro left right object
    exact .of_reads (left.reads_classifyClass directory)
      (right.reads_classifyObject directory object)

end Classifier

end MethodRoles
