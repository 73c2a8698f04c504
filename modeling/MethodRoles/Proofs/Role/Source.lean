import MethodRoles.Proofs.Inheritance.Searching
import MethodRoles.Proofs.Role.Calls

/-!
# Where the object comes from

A class is classified with the values of one fresh object or of none.  `ProbePolicy.search`
is the search for that object with a note of every class that is asked for one; it finds
what `ProbePolicy.source?` says.  `ProbePolicy.Seeks` says which classes are asked.  The
class itself comes first, and the classes below and above it follow only if it is abstract
and a hierarchy is to be used.  No class is asked that is not allowed, and nothing is
asked any more once there is an object (`Classifier.classifyClass_findsProbe`).

The classes below are asked in the order of the walk down, which enters a class before
those below it.  So an object from a subclass is from a topmost one: on some path to it no
class before it could have given an object (`ProbePolicy.source?_topmost`).  It need not
be from a most derived one, since classes further down are not asked any more.
-/

namespace MethodRoles

/-- A class that is asked for a fresh object, and what it gives. -/
structure Request (Object : Type) where
  /-- The class that is asked. -/
  className : Text
  /-- The object that it gives; an abstract class gives none. -/
  object? : Option Object

/-- A search that notes the requests it makes. -/
abbrev Search (Object : Type) : Type → Type :=
  StateM (List (Request Object))

variable {Object : Type}

/-- The object that a request has created, with its class. -/
def Request.created? (request : Request Object) : Option (Text × Object) :=
  request.object?.map fun object => (request.className, object)

/-- Ask a class for an object. -/
def Search.ask (className : Text) (object? : Option Object) :
    Search Object (Option Object) := do
  modify fun requests => requests ++ [⟨className, object?⟩]
  return object?

/-- What is done with the answer to a request is done after the request is noted. -/
theorem Search.run_ask_bind {Result : Type} (className : Text) (object? : Option Object)
    (continuation : Option Object → Search Object Result) (requests : List (Request Object)) :
    (ask className object? >>= continuation).run requests =
      (continuation object?).run (requests ++ [⟨className, object?⟩]) :=
  rfl

/-- The request of a class that a hierarchy makes objects of. -/
def Hierarchy.request (hierarchy : Hierarchy Object) (className : Text) : Request Object :=
  ⟨className, hierarchy.instantiate? className⟩

namespace ProbePolicy

/-- Ask the allowed ones of some classes in turn until one gives an object. -/
def searchAmong (policy : ProbePolicy) (hierarchy : Hierarchy Object) :
    (candidates : List Text) → Search Object (Option (Text × Object))
  | [] => return none
  | candidate :: others => do
      if policy.allows candidate then
        match ← Search.ask candidate (hierarchy.instantiate? candidate) with
        | some object => return some (candidate, object)
        | none => policy.searchAmong hierarchy others
      else
        policy.searchAmong hierarchy others

/-- Look for a fresh object to classify a class with. -/
def search (policy : ProbePolicy) (hierarchy? : Option (Hierarchy Object))
    (directory : Directory Object) : Search Object (Option (Text × Object)) := do
  if policy.allows directory.className then
    match ← Search.ask directory.className directory.object? with
    | some object => return some (directory.className, object)
    | none =>
        match hierarchy? with
        | some hierarchy =>
            if policy.usesHierarchy then
              policy.searchAmong hierarchy (hierarchy.related directory.className)
            else
              return none
        | none => return none
  else
    return none

end ProbePolicy

/-- A class is allowed, and a hierarchy can make an object of it. -/
def ProbePolicy.Usable (policy : ProbePolicy) (hierarchy : Hierarchy Object)
    (className : Text) : Prop :=
  policy.allows className = true ∧ (hierarchy.instantiate? className).isSome = true

/-! ## Which classes are asked -/

/-- Of some classes those are asked that come before the first with an object, and that one. -/
inductive Hierarchy.StopsAtFirst (hierarchy : Hierarchy Object) :
    (classes asked : List Text) → Option (Text × Object) → Prop where
  | exhausted {classes : List Text}
      (abstract : ∀ other ∈ classes, hierarchy.instantiate? other = none) :
      StopsAtFirst hierarchy classes classes none
  | found {before after : List Text} {className : Text} {object : Object}
      (abstract : ∀ other ∈ before, hierarchy.instantiate? other = none)
      (made : hierarchy.instantiate? className = some object) :
      StopsAtFirst hierarchy (before ++ className :: after) (before ++ [className])
        (some (className, object))

/-- The requests that a search makes for a class, and the object that it finds. -/
inductive ProbePolicy.Seeks (policy : ProbePolicy) (hierarchy? : Option (Hierarchy Object))
    (directory : Directory Object) : List (Request Object) → Option (Text × Object) → Prop where
  /-- For a class that is not allowed nothing is asked. -/
  | forbidden (notAllowed : policy.allows directory.className = false) :
      Seeks policy hierarchy? directory [] none
  /-- A class that gives an object itself is asked alone, -/
  | own {object : Object} (allowed : policy.allows directory.className = true)
      (made : directory.object? = some object) :
      Seeks policy hierarchy? directory [⟨directory.className, some object⟩]
        (some (directory.className, object))
  /-- and so is an abstract class if no hierarchy is used or none is there. -/
  | alone (allowed : policy.allows directory.className = true)
      (abstract : directory.object? = none)
      (unrelated : policy.usesHierarchy = false ∨ hierarchy? = none) :
      Seeks policy hierarchy? directory [⟨directory.className, none⟩] none
  /-- Otherwise the allowed classes below and above it are asked up to the first object. -/
  | related {hierarchy : Hierarchy Object} {asked : List Text} {source? : Option (Text × Object)}
      (allowed : policy.allows directory.className = true)
      (abstract : directory.object? = none) (used : policy.usesHierarchy = true)
      (attached : hierarchy? = some hierarchy)
      (stops : hierarchy.StopsAtFirst
        ((hierarchy.descendants directory.className ++
          hierarchy.ancestors directory.className).filter policy.allows) asked source?) :
      Seeks policy hierarchy? directory
        (⟨directory.className, none⟩ :: asked.map hierarchy.request) source?

namespace Hierarchy.StopsAtFirst

variable {hierarchy : Hierarchy Object} {classes asked : List Text}
  {source? : Option (Text × Object)}

theorem cons_of_abstract {className : Text}
    (abstract : hierarchy.instantiate? className = none)
    (stops : hierarchy.StopsAtFirst classes asked source?) :
    hierarchy.StopsAtFirst (className :: classes) (className :: asked) source? := by
  cases stops with
  | exhausted others => exact .exhausted (List.forall_mem_cons.mpr ⟨abstract, others⟩)
  | found others made => exact .found (List.forall_mem_cons.mpr ⟨abstract, others⟩) made

theorem subset (stops : hierarchy.StopsAtFirst classes asked source?) : asked ⊆ classes := by
  cases stops with
  | exhausted => exact List.Subset.refl classes
  | found => grind

theorem findSome?_eq (stops : hierarchy.StopsAtFirst classes asked source?) :
    (classes.findSome? fun className =>
      (hierarchy.instantiate? className).map fun object => (className, object)) = source? := by
  cases stops with
  | exhausted abstract =>
      rw [List.findSome?_eq_none_iff]
      intro other member
      rw [abstract other member, Option.map_none]
  | found abstract made =>
      rw [List.findSome?_append, List.findSome?_eq_none_iff.mpr, Option.none_or,
        List.findSome?_cons, made, Option.map_some]
      intro other member
      rw [abstract other member, Option.map_none]

/-- The requests up to the first object have created that one alone. -/
theorem filterMap_created? (stops : hierarchy.StopsAtFirst classes asked source?) :
    (asked.map hierarchy.request).filterMap Request.created? = source?.toList := by
  cases stops with
  | exhausted abstract =>
      rw [List.filterMap_map, Option.toList_none, List.filterMap_eq_nil_iff]
      intro other member
      simp [Request.created?, request, abstract other member]
  | @found before _ className _ abstract made =>
      have nothing : before.filterMap (Request.created? ∘ hierarchy.request) = [] := by
        rw [List.filterMap_eq_nil_iff]
        intro other member
        simp [Request.created?, request, abstract other member]
      rw [List.filterMap_map, List.filterMap_append, nothing]
      simp [Request.created?, request, made]

theorem isSome_of_mem (stops : hierarchy.StopsAtFirst classes asked source?)
    {className : Text} (member : className ∈ classes)
    (made : (hierarchy.instantiate? className).isSome = true) : source?.isSome = true := by
  cases stops with
  | exhausted abstract => simp [abstract className member] at made
  | found => rfl

end Hierarchy.StopsAtFirst

namespace ProbePolicy

variable {policy : ProbePolicy} {hierarchy : Hierarchy Object}
  {hierarchy? : Option (Hierarchy Object)} {directory : Directory Object}
  {requests : List (Request Object)} {source? : Option (Text × Object)}

/-- Asking some classes in turn asks the allowed ones and stops at the first object. -/
theorem exists_run_searchAmong (policy : ProbePolicy) (hierarchy : Hierarchy Object)
    (candidates : List Text) (requests : List (Request Object)) :
    ∃ asked source?,
      hierarchy.StopsAtFirst (candidates.filter policy.allows) asked source? ∧
        (policy.searchAmong hierarchy candidates).run requests =
          (source?, requests ++ asked.map hierarchy.request) := by
  induction candidates generalizing requests with
  | nil => exact ⟨[], none, .exhausted nofun, by simp [searchAmong]; rfl⟩
  | cons candidate others induction =>
      cases allowed : policy.allows candidate with
      | false =>
          rcases induction requests with ⟨asked, source?, stops, run⟩
          rw [List.filter_cons_of_neg (by simp [allowed])]
          refine ⟨asked, source?, stops, ?_⟩
          simpa [searchAmong, allowed] using run
      | true =>
          rw [List.filter_cons_of_pos allowed]
          cases made : hierarchy.instantiate? candidate with
          | none =>
              rcases induction (requests ++ [⟨candidate, none⟩]) with
                ⟨asked, source?, stops, run⟩
              refine ⟨candidate :: asked, source?, stops.cons_of_abstract made, ?_⟩
              rw [searchAmong, if_pos allowed, made, Search.run_ask_bind]
              simpa [Hierarchy.request, made] using run
          | some object =>
              refine ⟨[candidate], some (candidate, object), ?_, ?_⟩
              · exact @Hierarchy.StopsAtFirst.found _ _ [] _ _ _ nofun made
              · rw [searchAmong, if_pos allowed, made, Search.run_ask_bind]
                simp [Hierarchy.request, made]
                rfl

theorem exists_run_search (policy : ProbePolicy) (hierarchy? : Option (Hierarchy Object))
    (directory : Directory Object) :
    ∃ requests source?, policy.Seeks hierarchy? directory requests source? ∧
      (policy.search hierarchy? directory).run [] = (source?, requests) := by
  cases allowed : policy.allows directory.className with
  | false =>
      refine ⟨[], none, .forbidden allowed, ?_⟩
      simp [search, allowed]
      rfl
  | true =>
      simp only [search, allowed, if_true, Search.run_ask_bind, List.nil_append]
      cases made : directory.object? with
      | some object => exact ⟨_, _, .own allowed made, rfl⟩
      | none =>
          cases attached : hierarchy? with
          | none => exact ⟨_, _, .alone allowed made (.inr rfl), rfl⟩
          | some hierarchy =>
              cases used : policy.usesHierarchy with
              | false => exact ⟨_, _, .alone allowed made (.inl used), rfl⟩
              | true =>
                  rcases policy.exists_run_searchAmong hierarchy
                    (hierarchy.related directory.className) [⟨directory.className, none⟩] with
                    ⟨asked, source?, stops, run⟩
                  exact ⟨_, source?, .related allowed made used rfl stops, run⟩

section Seeks

variable (seeks : policy.Seeks hierarchy? directory requests source?)

include seeks

/-- The search finds the object that is classified with. -/
theorem Seeks.source?_eq : policy.source? hierarchy? directory = source? := by
  cases seeks with
  | forbidden notAllowed => simp [ProbePolicy.source?, notAllowed]
  | own allowed made => simp [ProbePolicy.source?, allowed, made]
  | alone allowed abstract unrelated =>
      rcases unrelated with unused | rfl
      · cases hierarchy? <;> simp [ProbePolicy.source?, allowed, abstract, unused]
      · simp [ProbePolicy.source?, allowed, abstract]
  | related allowed abstract used attached stops =>
      simp only [ProbePolicy.source?, allowed, abstract, used, attached, if_true]
      exact stops.findSome?_eq

theorem Seeks.allowed : ∀ request ∈ requests, policy.allows request.className = true := by
  cases seeks with
  | forbidden => exact nofun
  | own allowed => exact List.forall_mem_singleton.mpr allowed
  | alone allowed => exact List.forall_mem_singleton.mpr allowed
  | related allowed _ _ _ stops =>
      refine List.forall_mem_cons.mpr ⟨allowed, List.forall_mem_map.mpr ?_⟩
      intro className member
      exact (List.mem_filter.mp (stops.subset member)).2

/-- A search creates no other object than the one that it finds. -/
theorem Seeks.filterMap_created? :
    requests.filterMap Request.created? = source?.toList := by
  cases seeks with
  | forbidden | own | alone => rfl
  | related _ _ _ _ stops => exact stops.filterMap_created?

theorem Seeks.isSome_of_related {hierarchy : Hierarchy Object}
    (attached : hierarchy? = some hierarchy) (used : policy.usesHierarchy = true)
    (allowed : policy.allows directory.className = true)
    {className : Text} (member : className ∈ hierarchy.related directory.className)
    (usable : policy.Usable hierarchy className) : source?.isSome = true := by
  cases seeks with
  | forbidden notAllowed => simp [allowed] at notAllowed
  | own _ made => rfl
  | alone _ _ unrelated => simp [used, attached] at unrelated
  | related _ _ _ attachedToo stops =>
      cases attached.symm.trans attachedToo
      exact stops.isSome_of_mem (List.mem_filter.mpr ⟨member, usable.1⟩) usable.2

end Seeks

end ProbePolicy

/-! ## The calls on the object -/

/-- The calls on a recorded object go on, and none of them creates an object. -/
def Recorded.Continues (before after : Recorded Object) : Prop :=
  ∃ calls, after.calls = before.calls ++ calls ∧
    ∀ call ∈ calls, ∀ className, call ≠ .create className

theorem Recorded.Continues.append {before after : Recorded Object}
    (continues : before.Continues after) {call : Call}
    (calls : ∀ className, call ≠ .create className) (object : Object) :
    before.Continues ⟨object, after.calls ++ [call]⟩ := by
  rcases continues with ⟨earlier, same, others⟩
  refine ⟨earlier ++ [call], ?_, List.forall_mem_append.mpr ⟨others, ?_⟩⟩
  · rw [same, List.append_assoc]
  · exact List.forall_mem_singleton.mpr calls

section Probeable

variable [Probeable Object]

theorem Probe.keeps_continues (start : Probe (Recorded Object)) (gets sets : Text → Prop) :
    Probe.Keeps gets sets (Option.Rel Recorded.Continues start) where
  get := by
    intro probe method _ continues
    cases continues with
    | none => exact .none
    | some continues =>
        rw [Probe.snd_get_recorded]
        exact .some (continues.append (by simp) _)
  set := by
    intro probe method _ continues
    cases continues with
    | none => exact .none
    | some continues =>
        rw [Probe.snd_set_recorded]
        exact .some (continues.append (by simp) _)

/-- Whatever is read of a probe, only getters and setters are called on it. -/
theorem Probe.continues_readPlan (plan : RolePlan) (probe : Probe (Recorded Object)) :
    Option.Rel Recorded.Continues probe (probe.readPlan plan).2 := by
  refine (probe.keeps_continues plan.Asks plan.Selects).readPlan ?_
  cases probe with
  | none => exact .none
  | some recorded => exact .some ⟨[], (List.append_nil _).symm, nofun⟩

namespace Classifier

/--
How a classifier comes by an object of a class: the requests that it makes, and what
becomes of the object that they create.
-/
structure FindsProbe (classifier : Classifier Object) (directory : Directory Object)
    (requests : List (Request Object)) : Prop where
  /-- The requests are those of the search, which finds the object that is classified with. -/
  run : (classifier.policy.search classifier.hierarchy? directory).run [] =
    (classifier.policy.source? classifier.hierarchy? directory, requests)
  /-- They come in order, and no more of them than needed. -/
  seeks : classifier.policy.Seeks classifier.hierarchy? directory requests
    (classifier.policy.source? classifier.hierarchy? directory)
  /-- No class is asked that is not allowed. -/
  allowed : ∀ request ∈ requests, classifier.policy.allows request.className = true
  /-- One object at most is created, that which is found. -/
  created : requests.filterMap Request.created? =
    (classifier.policy.source? classifier.hierarchy? directory).toList
  /-- An object is found if some related class may be asked and can give one. -/
  found : ∀ hierarchy, classifier.hierarchy? = some hierarchy →
    classifier.policy.usesHierarchy = true →
      classifier.policy.allows directory.className = true →
        ∀ className ∈ hierarchy.descendants directory.className ++
            hierarchy.ancestors directory.className,
          classifier.policy.Usable hierarchy className →
            (classifier.policy.source? classifier.hierarchy? directory).isSome = true
  /-- The class is classified with that object, or with none if there is none. -/
  probed : (classifier.classifyClass directory).1.last = (directory.classify
    ((classifier.policy.source? classifier.hierarchy? directory).map fun source =>
      Recorded.created source.2)).1
  /-- The calls begin with the creation of that object, and none of the others creates one. -/
  calls : ∃ calls, (classifier.classifyClass directory).2 =
      (classifier.policy.source? classifier.hierarchy? directory).toList.map
        (fun source => Call.create (Probeable.className source.2)) ++ calls ∧
    ∀ call ∈ calls, ∀ className, call ≠ .create className

theorem exists_calls_classifyClass (classifier : Classifier Object)
    (directory : Directory Object) :
    ∃ calls, (classifier.classifyClass directory).2 =
        (classifier.policy.source? classifier.hierarchy? directory).toList.map
          (fun source => Call.create (Probeable.className source.2)) ++ calls ∧
      ∀ call ∈ calls, ∀ className, call ≠ .create className := by
  rw [calls_classifyClass]
  generalize classifier.policy.source? classifier.hierarchy? directory = source?
  have continues := Probe.continues_readPlan (RolePlan.ofDirectory directory)
    (source?.map fun source => Recorded.created source.2)
  generalize (Probe.readPlan (RolePlan.ofDirectory directory)
    (source?.map fun source => Recorded.created source.2)).2 = after at continues ⊢
  cases source? with
  | none =>
      cases continues
      exact ⟨[], rfl, nofun⟩
  | some source =>
      cases continues with
      | some continues =>
          rcases continues with ⟨calls, same, others⟩
          refine ⟨calls, ?_, others⟩
          rw [Option.map_some, Option.getD_some, same]
          rfl

theorem classifyClass_findsProbe (classifier : Classifier Object)
    (directory : Directory Object) :
    ∃ requests, classifier.FindsProbe directory requests := by
  rcases classifier.policy.exists_run_search classifier.hierarchy? directory with
    ⟨requests, source?, seeks, run⟩
  cases seeks.source?_eq
  refine ⟨requests, run, seeks, seeks.allowed, seeks.filterMap_created?, ?found, rfl,
    classifier.exists_calls_classifyClass directory⟩
  case found =>
    intro hierarchy attached used allowed className member usable
    exact seeks.isSome_of_related attached used allowed member usable

end Classifier

end Probeable

/-! ## Objects from below -/

namespace ProbePolicy

/-- A class below another one that gives an object, and above which none does. -/
structure Topmost (policy : ProbePolicy) (hierarchy : Hierarchy Object)
    (upper lower : Text) : Prop where
  /-- It is allowed and can give an object, -/
  usable : policy.Usable hierarchy lower
  /-- which no other class can on some path down to it. -/
  path : ∃ child, hierarchy.IsChild upper child ∧ Relation.ReflTransGen
    (fun first second => hierarchy.IsChild first second ∧ ¬ policy.Usable hierarchy first)
    child lower
  /-- No class before it on the walk down can, and those further down are met after it. -/
  before : ∃ before after, hierarchy.descendants upper = before ++ lower :: after ∧
    (∀ other ∈ before, ¬ policy.Usable hierarchy other) ∧
      ∀ further, Relation.TransGen hierarchy.IsChild lower further →
        policy.Usable hierarchy further → further = lower ∨ further ∈ after

variable {policy : ProbePolicy} {hierarchy : Hierarchy Object} {directory : Directory Object}
  {upper lower : Text} {object : Object}

theorem eq_and_usable_of_mem_filter {candidates : List Text}
    (found : (candidates.filter policy.allows).findSome? (fun candidate =>
      (hierarchy.instantiate? candidate).map fun object => (candidate, object)) =
        some (lower, object)) : lower ∈ candidates ∧ policy.Usable hierarchy lower := by
  rcases List.exists_of_findSome?_eq_some found with ⟨candidate, member, made⟩
  rcases Option.map_eq_some_iff.mp made with ⟨_, made, same⟩
  cases same
  rcases List.mem_filter.mp member with ⟨listed, allowed⟩
  exact ⟨listed, allowed, by simp [made]⟩

/-- The first related class that gives an object is topmost if it is a class below. -/
theorem topmost_of_relatedSource?
    (found : policy.relatedSource? hierarchy upper = some (lower, object))
    (below : lower ∈ hierarchy.descendants upper) : policy.Topmost hierarchy upper lower := by
  rcases List.append_of_mem below with ⟨before, after, split⟩
  have unusable : ∀ other ∈ before, ¬ policy.Usable hierarchy other := by
    rw [relatedSource?, Hierarchy.related, split, List.append_assoc, List.filter_append,
      List.findSome?_append] at found
    rcases Option.or_eq_some_iff.mp found with earlier | ⟨earlier, -⟩
    · -- The walk down lists no class twice, so the object cannot be from before.
      have distinct := hierarchy.nodup_descendants upper
      rw [split, List.nodup_append'] at distinct
      exact absurd List.mem_cons_self
        (distinct.2.2 (eq_and_usable_of_mem_filter earlier).1)
    · intro other member usable
      have nothing := List.findSome?_eq_none_iff.mp earlier other
        (List.mem_filter.mpr ⟨member, usable.1⟩)
      rw [Option.map_eq_none_iff] at nothing
      exact absurd usable.2 (by simp [nothing])
  constructor
  case usable => exact (eq_and_usable_of_mem_filter found).2
  case path =>
    rcases Hierarchy.exists_path_of_descendants_eq split with ⟨child, isChild, path⟩
    refine ⟨child, isChild, Relation.ReflTransGen.mono ?_ _ _ path⟩
    intro first second step
    exact ⟨step.1, unusable first step.2⟩
  case before =>
    refine ⟨before, after, split, unusable, ?_⟩
    intro further deeper usable
    have listed : further ∈ hierarchy.descendants upper :=
      Hierarchy.mem_descendants_iff.mpr ((Hierarchy.mem_descendants_iff.mp below).trans deeper)
    rw [split, List.mem_append, List.mem_cons] at listed
    exact listed.resolve_left fun early => unusable further early usable

/-- The object of an abstract class is from a topmost one if it is from a class below. -/
theorem source?_topmost (policy : ProbePolicy) (hierarchy : Hierarchy Object)
    (abstract : directory.object? = none)
    (found : policy.source? (some hierarchy) directory = some (lower, object))
    (below : lower ∈ hierarchy.descendants directory.className) :
    policy.Topmost hierarchy directory.className lower := by
  simp only [source?, abstract, Option.ite_none_right_eq_some] at found
  exact topmost_of_relatedSource? found.2.2 below

end ProbePolicy

/-- Displays are devices and touchscreens are displays; devices alone are abstract. -/
def displayHierarchy : Hierarchy ScriptedObject where
  parents := [("Display".toList, "Device".toList), ("Touchscreen".toList, "Display".toList)]
  childLists := [("Device".toList, ["Display".toList]), ("Display".toList, ["Touchscreen".toList])]
  objects := [("Display".toList, ⟨"Display".toList, [], []⟩),
    ("Touchscreen".toList, ⟨"Touchscreen".toList, [], []⟩)]

/-- The abstract class of the devices. -/
def deviceDirectory : Directory ScriptedObject :=
  ⟨"Device".toList, [], none⟩

/-- A display is made for a device: it is met first on the walk down. -/
theorem ProbePolicy.source?_deviceDirectory :
    (⟨true, []⟩ : ProbePolicy).source? (some displayHierarchy) deviceDirectory =
      some ("Display".toList, ⟨"Display".toList, [], []⟩) := by
  decide +kernel

theorem Hierarchy.display_mem_descendants :
    "Display".toList ∈ displayHierarchy.descendants deviceDirectory.className :=
  mem_descendants_iff.mpr (.single (List.mem_singleton_self _))

theorem ProbePolicy.source?_topmost_device :
    deviceDirectory.object? = none ∧
      (⟨true, []⟩ : ProbePolicy).source? (some displayHierarchy) deviceDirectory =
        some ("Display".toList, ⟨"Display".toList, [], []⟩) ∧
      "Display".toList ∈ displayHierarchy.descendants deviceDirectory.className ∧
      (⟨true, []⟩ : ProbePolicy).Topmost displayHierarchy deviceDirectory.className
        "Display".toList := by
  refine ⟨rfl, source?_deviceDirectory, Hierarchy.display_mem_descendants, ?_⟩
  exact source?_topmost _ _ rfl source?_deviceDirectory Hierarchy.display_mem_descendants

/-- A display stands in for a device, although a touchscreen is further down. -/
theorem ProbePolicy.not_mostDerived_device :
    ¬ ∀ (policy : ProbePolicy) (hierarchy : Hierarchy ScriptedObject)
        (directory : Directory ScriptedObject) (className : Text) (object : ScriptedObject),
      hierarchy.Acyclic → policy.usesHierarchy = true →
        policy.allows directory.className = true → directory.object? = none →
          policy.source? (some hierarchy) directory = some (className, object) →
            className ∈ hierarchy.descendants directory.className →
              ∀ lower, Relation.TransGen hierarchy.IsChild className lower →
                ¬ policy.Usable hierarchy lower := by
  intro mostDerived
  have acyclic : displayHierarchy.Acyclic :=
    Hierarchy.acyclic_of_rank List.length (by decide)
  have isChild : displayHierarchy.IsChild "Display".toList "Touchscreen".toList :=
    List.mem_singleton_self _
  refine mostDerived ⟨true, []⟩ displayHierarchy deviceDirectory _ _ acyclic rfl (by decide) rfl
    source?_deviceDirectory Hierarchy.display_mem_descendants "Touchscreen".toList
    (.single isChild) ?_
  exact ⟨by decide, rfl⟩

end MethodRoles
