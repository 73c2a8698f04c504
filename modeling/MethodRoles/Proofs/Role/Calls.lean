import MethodRoles.Probe.Scripted
import MethodRoles.Proofs.Probe.Answers
import MethodRoles.Proofs.Role.Family
import MethodRoles.Proofs.Role.Independence

/-!
# The calls that a classification makes

Reading a plan asks the queries of its toggles, the getters of its states and its
pairs and the getters of bounds, and it sets the selectors of its states.  All these
methods are public, so no special and no lifecycle method is called, and none of
them is the setter of a classified property (`Classifier.calls_classified`).

A switch of one property may be a query of another, and then it is called as a
getter; a setter that is called is never a switch.
-/

namespace MethodRoles

/-- A step that creates an object or calls one of some getters or setters. -/
inductive Call.Among (gets sets : Text → Prop) : Call → Prop where
  | create (className : Text) : Among gets sets (.create className)
  | get (className : Text) {method : Text} (asked : gets method) :
      Among gets sets (.get className method)
  | set (className : Text) {method : Text} (selected : sets method) :
      Among gets sets (.set className method)

/-- The method that a step calls. -/
def Call.method? : Call → Option Text
  | .create _ => none
  | .get _ method => some method
  | .set _ method => some method

/-- What every single reading keeps, the readings of a list keep together. -/
theorem readEach_keeps {Item Reading Source : Type} {read : Item → Source → Reading × Source}
    {invariant : Source → Prop} {items : List Item}
    (each : ∀ item ∈ items, ∀ source, invariant source → invariant (read item source).2)
    {source : Source} (holds : invariant source) :
    invariant (readEach read items source).2 := by
  induction items generalizing source with
  | nil => exact holds
  | cons item items induction =>
      apply induction
      · intro other member
        exact each other (List.mem_cons_of_mem item member)
      · exact each item List.mem_cons_self source holds

/-! ## What reading keeps -/

namespace Probe

/-- Calling some getters and some setters keeps what is known of a probe. -/
structure Keeps {Object : Type} [Probeable Object] (gets sets : Text → Prop)
    (invariant : Probe Object → Prop) : Prop where
  get : ∀ {probe : Probe Object} {method : Text}, gets method → invariant probe →
    invariant (probe.get method).2
  set : ∀ {probe : Probe Object} {method : Text}, sets method → invariant probe →
    invariant (probe.set method).2

section Keeps

variable {Object : Type} [Probeable Object] {gets sets : Text → Prop}
  {invariant : Probe Object → Prop} {probe : Probe Object}
  (keeps : Keeps gets sets invariant)

include keeps

theorem Keeps.readToggle {queries : List Text} (asked : ∀ query ∈ queries, gets query)
    (holds : invariant probe) : invariant (probe.readToggle queries).2 := by
  induction queries generalizing probe with
  | nil => exact holds
  | cons query queries induction =>
      have first := keeps.get (asked query List.mem_cons_self) holds
      rw [Probe.readToggle]
      rcases called : probe.get query with ⟨value, after⟩
      rw [called] at first
      simp only
      split
      · exact first
      · apply induction _ first
        intro other member
        exact asked other (List.mem_cons_of_mem query member)

theorem Keeps.readCode {getter : Text} (asked : gets getter) (holds : invariant probe) :
    invariant (probe.readCode getter).2 :=
  keeps.get asked holds

theorem Keeps.readOption {getter : Text} (asked : gets getter) {selector : Selector}
    (selected : sets selector.method) (holds : invariant probe) :
    invariant (Probe.readOption getter selector probe).2 := by
  have tried := keeps.set selected holds
  rw [Probe.readOption]
  rcases called : probe.set selector.method with ⟨succeeds, after⟩
  rw [called] at tried
  cases succeeds with
  | true => exact keeps.readCode asked tried
  | false => exact tried

/-- The option that is put back is one of those that were tried. -/
theorem Keeps.restore {options : List (Selector × Resolution Int)}
    (selected : ∀ option ∈ options, sets option.1.method) (code : Int)
    (holds : invariant probe) : invariant (probe.restore code options).2 := by
  rw [Probe.restore]
  split
  case h_1 active others split =>
    rcases Probe.eq_of_splitActive? split with ⟨before, after, rfl, -, -, -⟩
    refine keeps.set ?_ holds
    exact selected active (List.mem_append_right before List.mem_cons_self)
  case h_2 => exact holds

theorem Keeps.readOptions {getter : Text} (asked : gets getter) {selectors : List Selector}
    (selected : ∀ selector ∈ selectors, sets selector.method) (holds : invariant probe) :
    invariant (probe.readOptions getter selectors).2 := by
  have begun := keeps.readCode asked holds
  rw [Probe.readOptions_eq]
  rcases called : probe.readCode getter with ⟨code, after⟩
  rw [called] at begun
  cases code with
  | unresolved => exact begun
  | known code =>
      have each : ∀ selector ∈ selectors, ∀ source : Probe Object,
          invariant source → invariant (Probe.readOption getter selector source).2 := by
        intro selector member source kept
        exact keeps.readOption asked (selected selector member) kept
      refine keeps.restore ?_ code (readEach_keeps each begun)
      intro option member
      apply selected
      rw [← Probe.map_fst_readOptions getter selectors after]
      exact List.mem_map_of_mem member

theorem Keeps.readState {state : StatePlan}
    (asked : state.readable = true → gets (Naming.getter state.property))
    (selected : state.readable = true → ∀ selector ∈ state.selectors, sets selector.method)
    (holds : invariant probe) : invariant (probe.readState state).2 := by
  rw [Probe.readState]
  split
  case isTrue readable => exact keeps.readOptions (asked readable) (selected readable) holds
  case isFalse => exact holds

theorem Keeps.readBounds {property : Text}
    (least : gets (Naming.getter (property ++ Naming.leastSuffix)))
    (greatest : gets (Naming.getter (property ++ Naming.greatestSuffix)))
    (holds : invariant probe) : invariant (probe.readBounds property).2 := by
  have low := keeps.get least holds
  rw [Probe.readBounds]
  rcases first : probe.get (Naming.getter (property ++ Naming.leastSuffix)) with ⟨lowest, between⟩
  rw [first] at low
  have high := keeps.get greatest low
  simp only
  rcases second : Probe.get (Naming.getter (property ++ Naming.greatestSuffix)) between with
    ⟨highest, after⟩
  rw [second] at high
  simp only
  split <;> exact high

theorem Keeps.readPair {pair : PairPlan} (asked : gets (Naming.getter pair.property))
    (least : pair.bounded = true → gets (Naming.getter (pair.property ++ Naming.leastSuffix)))
    (greatest : pair.bounded = true →
      gets (Naming.getter (pair.property ++ Naming.greatestSuffix)))
    (holds : invariant probe) : invariant (probe.readPair pair).2 := by
  have read := keeps.get asked holds
  rw [Probe.readPair]
  rcases called : probe.get (Naming.getter pair.property) with ⟨default, after⟩
  rw [called] at read
  simp only
  split
  case isTrue bounded => exact keeps.readBounds (least bounded) (greatest bounded) read
  case isFalse => exact read

end Keeps

end Probe

namespace RolePlan

/-- The getters that reading a plan may call. -/
inductive Asks (plan : RolePlan) : Text → Prop where
  | query {toggle : TogglePlan} (planned : toggle ∈ plan.toggles) {query : Text}
      (listed : query ∈ toggle.queries) : Asks plan query
  | state {state : StatePlan} (planned : state ∈ plan.states) (readable : state.readable = true) :
      Asks plan (Naming.getter state.property)
  | pair {pair : PairPlan} (planned : pair ∈ plan.pairs) :
      Asks plan (Naming.getter pair.property)
  | least {pair : PairPlan} (planned : pair ∈ plan.pairs) (bounded : pair.bounded = true) :
      Asks plan (Naming.getter (pair.property ++ Naming.leastSuffix))
  | greatest {pair : PairPlan} (planned : pair ∈ plan.pairs) (bounded : pair.bounded = true) :
      Asks plan (Naming.getter (pair.property ++ Naming.greatestSuffix))

/-- The setters that reading a plan may call. -/
inductive Selects (plan : RolePlan) : Text → Prop where
  | selector {state : StatePlan} (planned : state ∈ plan.states)
      (readable : state.readable = true) {selector : Selector}
      (member : selector ∈ state.selectors) : Selects plan selector.method

end RolePlan

/-- Reading a plan keeps what the getters that it asks and the setters that it selects keep. -/
theorem Probe.Keeps.readPlan {Object : Type} [Probeable Object] {plan : RolePlan}
    {invariant : Probe Object → Prop} {probe : Probe Object}
    (keeps : Probe.Keeps plan.Asks plan.Selects invariant) (holds : invariant probe) :
    invariant (probe.readPlan plan).2 := by
  have toggles : ∀ toggle ∈ plan.toggles, ∀ source : Probe Object, invariant source →
      invariant (source.readToggle toggle.queries).2 := by
    intro toggle planned source kept
    refine keeps.readToggle ?_ kept
    intro query listed
    exact .query planned listed
  have states : ∀ state ∈ plan.states, ∀ source : Probe Object, invariant source →
      invariant (source.readState state).2 := by
    intro state planned source kept
    refine keeps.readState ?_ ?_ kept
    · intro readable
      exact .state planned readable
    · intro readable selector member
      exact .selector planned readable member
  have pairs : ∀ pair ∈ plan.pairs, ∀ source : Probe Object, invariant source →
      invariant (source.readPair pair).2 := by
    intro pair planned source kept
    exact keeps.readPair (.pair planned) (.least planned) (.greatest planned) kept
  exact readEach_keeps pairs (readEach_keeps states (readEach_keeps toggles holds))

namespace Probe

variable {Object : Type} {gets sets : Text → Prop}

/-- The calls that were made on a probe so far are among some. -/
def CallsAmong (gets sets : Text → Prop) (probe : Probe (Recorded Object)) : Prop :=
  ∀ recorded ∈ probe, ∀ call ∈ recorded.calls, call.Among gets sets

theorem CallsAmong.append {recorded : Recorded Object}
    (among : CallsAmong gets sets (some recorded)) {call : Call}
    (allowed : call.Among gets sets) (object : Object) :
    CallsAmong gets sets (some ⟨object, recorded.calls ++ [call]⟩) := by
  rintro _ ⟨⟩ other member
  rcases List.mem_append.mp member with before | last
  · exact among recorded rfl other before
  · rw [List.mem_singleton.mp last]
    exact allowed

section Recorded

variable [Probeable Object]

/-- A getter that is called on a recorded object is noted. -/
theorem snd_get_recorded (method : Text) (recorded : Recorded Object) :
    (Probe.get method (some recorded)).2 =
      some ⟨(Probeable.get method recorded.object).2,
        recorded.calls ++ [.get (Probeable.className recorded.object) method]⟩ := by
  rw [Probe.get_some]
  rfl

/-- A setter that is called on a recorded object is noted, whether it succeeds or not. -/
theorem snd_set_recorded (method : Text) (recorded : Recorded Object) :
    (Probe.set method (some recorded)).2 =
      some ⟨(Probeable.set method recorded.object).2,
        recorded.calls ++ [.set (Probeable.className recorded.object) method]⟩ := by
  rcases outcome : (Probeable.set method recorded).1 with error | _
  · rw [Probe.set_some_of_error outcome]
    rfl
  · rw [Probe.set_some_of_ok outcome]
    rfl

theorem keeps_callsAmong :
    Keeps gets sets (CallsAmong gets sets : Probe (Recorded Object) → Prop) where
  get := by
    intro probe method asked among
    cases probe with
    | none => exact among
    | some recorded =>
        rw [snd_get_recorded]
        exact among.append (.get _ asked) _
  set := by
    intro probe method selected among
    cases probe with
    | none => exact among
    | some recorded =>
        rw [snd_set_recorded]
        exact among.append (.set _ selected) _

end Recorded

end Probe

/-! ## What a classification says of the calls -/

namespace Classification

/-- The getters that tell the values of a classification. -/
inductive Asks (classification : Classification) : Text → Prop where
  | query {property query : Text} (switched : property ∈ classification.toggles.names)
      (listed : query ∈ Naming.queries property) : Asks classification query
  | state {property : Text} (selected : property ∈ classification.states.names) :
      Asks classification (Naming.getter property)
  | pair {property : Text} (paired : property ∈ classification.pairs.names) :
      Asks classification (Naming.getter property)
  | least {property : Text} (paired : property ∈ classification.boundedProperties) :
      Asks classification (Naming.getter (property ++ Naming.leastSuffix))
  | greatest {property : Text} (paired : property ∈ classification.boundedProperties) :
      Asks classification (Naming.getter (property ++ Naming.greatestSuffix))

/-- The setters that select the options of a classification. -/
inductive Selects (classification : Classification) : Text → Prop where
  | option {property : Text} {options : List StateOption}
      (selected : (property, options) ∈ classification.states) {option : StateOption}
      (member : option ∈ options) :
      Selects classification (Naming.selector property option.name)

/-- Every call is one that a classification of a directory accounts for. -/
structure ExplainsCalls {Object : Type} (classification : Classification)
    (directory : Directory Object) (calls : List Call) : Prop where
  /-- The getters that are called are public and tell a value of the classification. -/
  asked : ∀ className method, Call.get className method ∈ calls →
    method ∈ directory.publicNames ∧ classification.Asks method
  /-- The setters that are called are public selectors with a call without arguments. -/
  selected : ∀ className method, Call.set className method ∈ calls →
    method ∈ directory.publicNames ∧ classification.Selects method ∧
      ∃ signature ∈ directory.signatures method, signature.takesNothing = true
  /-- No special and no lifecycle method is called. -/
  ordinary : ∀ call ∈ calls, ∀ method, call.method? = some method →
    Naming.isSpecial directory.className method = false ∧ Naming.isLifecycle method = false
  /-- No property of the classification is set. -/
  unset : ∀ call ∈ calls, ∀ property ∈ classification.toggles.names ++
      classification.states.names ++ classification.pairs.names,
    call.method? ≠ some (Naming.setter property)
  /-- No switch is called as a setter. -/
  unswitched : ∀ property ∈ classification.toggles.names, ∀ className,
    Call.set className (Naming.switchOn property) ∉ calls ∧
      Call.set className (Naming.switchOff property) ∉ calls
  /-- A switch that is called as a getter is a query of a toggle or the getter of a state. -/
  queried : ∀ property ∈ classification.toggles.names, ∀ className method,
    method = Naming.switchOn property ∨ method = Naming.switchOff property →
      Call.get className method ∈ calls →
        ∃ other, other ∈ classification.toggles.names ∧ method ∈ Naming.queries other ∨
          other ∈ classification.states.names ∧ method = Naming.getter other

end Classification

namespace Naming

/-- A query is no setter: it starts with other letters. -/
theorem setter_not_mem_queries (property other : Text) : setter property ∉ queries other := by
  simp [setter, queries, getter]

/-- The getters of the least and greatest values end in another letter than the switches. -/
theorem getLast?_boundGetter {suffix : Text}
    (bound : suffix = leastSuffix ∨ suffix = greatestSuffix) (property : Text) :
    (getter (property ++ suffix)).getLast? = some 'e' := by
  rw [getter, List.getLast?_append, List.getLast?_append]
  rcases bound with rfl | rfl <;> rfl

end Naming

namespace RolePlan

variable {Object : Type} {directory : Directory Object} {method property : Text}

/-- A bounded pair has public getters for its least and its greatest value. -/
theorem boundGetters_public {pair : PairPlan} (planned : pair ∈ (ofDirectory directory).pairs)
    (bounded : pair.bounded = true) :
    Naming.getter (pair.property ++ Naming.leastSuffix) ∈ directory.publicNames ∧
      Naming.getter (pair.property ++ Naming.greatestSuffix) ∈ directory.publicNames := by
  rcases (exists_pair?_eq_some planned).2 with ⟨later, found⟩
  rcases (MethodTable.pair?_eq_some_iff.mp found).2.2.2 with ⟨type, -, -, bounds⟩
  rw [bounds, MethodTable.hasBounds, Bool.and_eq_true, Bool.and_eq_true] at bounded
  rcases bounded with ⟨⟨-, least⟩, greatest⟩
  exact ⟨(MethodTable.has_ofDirectory.mp least).1, (MethodTable.has_ofDirectory.mp greatest).1⟩

theorem Asks.mem_publicNames (asks : (ofDirectory directory).Asks method) :
    method ∈ directory.publicNames := by
  cases asks with
  | query planned listed =>
      rw [queries_eq planned, List.mem_filter] at listed
      exact MethodTable.contains_ofDirectory.mp listed.2
  | state planned readable => exact (readable_iff planned).mp readable
  | pair planned => exact (exists_pair?_eq_some planned).1
  | least planned bounded => exact (boundGetters_public planned bounded).1
  | greatest planned bounded => exact (boundGetters_public planned bounded).2

theorem Asks.ne_setter (asks : (ofDirectory directory).Asks method) (property : Text) :
    method ≠ Naming.setter property := by
  cases asks with
  | query planned listed =>
      rw [queries_eq planned, List.mem_filter] at listed
      rintro rfl
      exact Naming.setter_not_mem_queries property _ listed.1
  | state | pair | least | greatest => exact (Naming.setter_ne_getter property _).symm

/-- A switch that a plan asks is a query of a toggle or the getter of a state. -/
theorem Asks.of_switch (asks : (ofDirectory directory).Asks method)
    (switched : property ∈ (ofDirectory directory).toggles.map TogglePlan.property)
    (switches : method = Naming.switchOn property ∨ method = Naming.switchOff property) :
    ∃ other, other ∈ (ofDirectory directory).toggles.map TogglePlan.property ∧
        method ∈ Naming.queries other ∨
      other ∈ (ofDirectory directory).states.map StatePlan.property ∧
        method = Naming.getter other := by
  have ending : method.getLast? ≠ some 'e' := by
    rcases switches with rfl | rfl
    · simp [Naming.getLast?_switchOn]
    · simp [Naming.getLast?_switchOff]
  cases asks with
  | query planned listed =>
      rw [queries_eq planned, List.mem_filter] at listed
      exact ⟨_, .inl ⟨List.mem_map_of_mem planned, listed.1⟩⟩
  | state planned _ => exact ⟨_, .inr ⟨List.mem_map_of_mem planned, rfl⟩⟩
  | pair planned =>
      -- The getter of a pair is not claimed, and a toggle claims its switches.
      refine absurd ?_ (not_mem_claims (List.mem_map_of_mem planned)).1
      rcases List.mem_map.mp switched with ⟨toggle, member, rfl⟩
      simp only [claims, List.mem_append, List.mem_flatMap]
      apply Or.inl
      apply Or.inl
      refine ⟨toggle, member, ?_⟩
      rcases switches with same | same <;> simp [TogglePlan.claims, same]
  | least => exact absurd (Naming.getLast?_boundGetter (.inl rfl) _) ending
  | greatest => exact absurd (Naming.getLast?_boundGetter (.inr rfl) _) ending

theorem Selects.mem_publicNames (selects : (ofDirectory directory).Selects method) :
    method ∈ directory.publicNames ∧
      ∃ signature ∈ directory.signatures method, signature.takesNothing = true := by
  cases selects with
  | selector planned _ member =>
      rcases selector?_eq_some planned member with ⟨found, -⟩
      exact MethodTable.has_ofDirectory.mp (MethodTable.selector?_eq_some_iff.mp found).2.2.1

/-- No toggle claims a setter that a plan selects. -/
theorem Selects.not_mem_toggleNames (selects : (ofDirectory directory).Selects method)
    (switched : property ∈ (ofDirectory directory).toggles.map TogglePlan.property) :
    method ∉ Classification.toggleNames property := by
  cases selects with
  | selector planned _ member =>
      rcases selector?_eq_some planned member with ⟨found, -⟩
      have free := (MethodTable.selector?_eq_some_iff.mp found).2.1
      rw [claims_toggles, List.mem_flatMap] at free
      intro claimed
      exact free ⟨property, switched, claimed⟩

/-- A setter that a plan selects sets no property that has a role. -/
theorem Selects.ne_setter (selects : (ofDirectory directory).Selects method)
    (classified : property ∈ (ofDirectory directory).toggles.map TogglePlan.property ++
      (ofDirectory directory).states.map StatePlan.property ++
        (ofDirectory directory).pairs.map PairPlan.property) :
    method ≠ Naming.setter property := by
  intro same
  rw [List.mem_append, List.mem_append] at classified
  rcases classified with (switched | selected) | paired
  · apply selects.not_mem_toggleNames switched
    simp [Classification.toggleNames, same]
  -- A setter of a property with options splits into no shorter property and option.
  · rcases List.mem_map.mp selected with ⟨other, otherPlanned, rfl⟩
    rcases List.exists_mem_of_ne_nil _ (selectors_ne_nil otherPlanned) with ⟨option, listed⟩
    have split := selection?_method otherPlanned listed
    rw [method_eq_selector otherPlanned listed] at split
    have none := Naming.selection?_setter_eq_none split
    cases selects with
    | selector planned _ member =>
        rw [← same, selection?_method planned member] at none
        contradiction
  · cases selects with
    | @selector state planned _ _ member =>
        apply (not_mem_claims paired).2
        rw [← same, claims, List.mem_append, List.mem_append]
        apply Or.inl
        apply Or.inr
        rw [List.mem_flatMap]
        exact ⟨state, planned, List.mem_append_left _ (List.mem_map_of_mem member)⟩

end RolePlan

namespace Classification.Reads

variable {Object : Type} {directory : Directory Object} {classification : Classification}
  (reads : classification.Reads (RolePlan.ofDirectory directory)) {method : Text}

include reads

theorem asks (asked : (RolePlan.ofDirectory directory).Asks method) :
    classification.Asks method := by
  have bounded {pair : PairPlan} (planned : pair ∈ (RolePlan.ofDirectory directory).pairs)
      (bounded : pair.bounded = true) : pair.property ∈ classification.boundedProperties := by
    rcases reads.pairs.exists_content (RolePlan.nodup_pair_properties directory) planned with
      ⟨reading, found, same⟩
    exact List.mem_map.mpr
      ⟨(pair.property, reading), List.mem_filter.mpr ⟨found, same.trans bounded⟩, rfl⟩
  cases asked with
  | query planned listed =>
      rw [RolePlan.queries_eq planned, List.mem_filter] at listed
      apply Asks.query _ listed.1
      exact reads.toggle_names_perm.mem_iff.mpr (List.mem_map_of_mem planned)
  | state planned _ =>
      apply Asks.state
      exact reads.state_names_perm.mem_iff.mpr (List.mem_map_of_mem planned)
  | pair planned =>
      apply Asks.pair
      exact reads.pair_names_perm.mem_iff.mpr (List.mem_map_of_mem planned)
  | least planned holds => exact .least (bounded planned holds)
  | greatest planned holds => exact .greatest (bounded planned holds)

theorem selects (selected : (RolePlan.ofDirectory directory).Selects method) :
    classification.Selects method := by
  cases selected with
  | @selector state planned _ selector member =>
      rcases reads.states.exists_content (RolePlan.nodup_state_properties directory) planned with
        ⟨options, found, front⟩
      have named : selector.option ∈ options.map StateOption.name :=
        front.perm.mem_iff.mpr (List.mem_map_of_mem member)
      rcases List.mem_map.mp named with ⟨option, listed, same⟩
      rw [RolePlan.method_eq_selector planned member, ← same]
      exact .option found listed

theorem explainsCalls {calls : List Call}
    (among : ∀ call ∈ calls, call.Among (RolePlan.ofDirectory directory).Asks
      (RolePlan.ofDirectory directory).Selects) :
    classification.ExplainsCalls directory calls := by
  have gets {className method : Text} (called : Call.get className method ∈ calls) :
      (RolePlan.ofDirectory directory).Asks method := by
    cases among _ called
    assumption
  have sets {className method : Text} (called : Call.set className method ∈ calls) :
      (RolePlan.ofDirectory directory).Selects method := by
    cases among _ called
    assumption
  have called {call : Call} (made : call ∈ calls) {method : Text}
      (names : call.method? = some method) :
      (RolePlan.ofDirectory directory).Asks method ∨
        (RolePlan.ofDirectory directory).Selects method := by
    cases among call made with
    | create => contradiction
    | get _ asked =>
        cases names
        exact .inl asked
    | set _ selected =>
        cases names
        exact .inr selected
  have switched {property : Text} (member : property ∈ classification.toggles.names) :=
    reads.toggle_names_perm.mem_iff.mp member
  constructor
  case asked =>
    intro className method made
    exact ⟨(gets made).mem_publicNames, reads.asks (gets made)⟩
  case selected =>
    intro className method made
    rcases (sets made).mem_publicNames with ⟨listed, documented⟩
    exact ⟨listed, reads.selects (sets made), documented⟩
  case ordinary =>
    intro call made method names
    have listed : method ∈ directory.publicNames := by
      rcases called made names with asks | selects
      · exact asks.mem_publicNames
      · exact selects.mem_publicNames.1
    simpa [Naming.isPublic] using (Directory.mem_publicNames.mp listed).2
  case unset =>
    intro call made property classified names
    have planned := (((reads.toggle_names_perm.append reads.state_names_perm).append
      reads.pair_names_perm).mem_iff).mp classified
    rcases called made names with asks | selects
    · exact asks.ne_setter property rfl
    · exact selects.ne_setter planned rfl
  case unswitched =>
    intro property member className
    constructor
    · intro made
      apply (sets made).not_mem_toggleNames (switched member)
      simp [toggleNames]
    · intro made
      apply (sets made).not_mem_toggleNames (switched member)
      simp [toggleNames]
  case queried =>
    intro property member className method switches made
    rcases (gets made).of_switch (switched member) switches with ⟨other, toggle | state⟩
    · exact ⟨other, .inl ⟨reads.toggle_names_perm.mem_iff.mpr toggle.1, toggle.2⟩⟩
    · exact ⟨other, .inr ⟨reads.state_names_perm.mem_iff.mpr state.1, state.2⟩⟩

end Classification.Reads

namespace Classifier

variable {Object : Type} [Probeable Object]

/-- The calls are those that are noted while the plan of the class is read. -/
theorem calls_classifyClass (classifier : Classifier Object) (directory : Directory Object) :
    (classifier.classifyClass directory).2 =
      ((Probe.readPlan (RolePlan.ofDirectory directory)
        ((classifier.policy.source? classifier.hierarchy? directory).map fun source =>
          Recorded.created source.2)).2.map Recorded.calls).getD [] := by
  rw [classifyClass, directory.classify_eq_readPlan]

theorem among_classifyClass (classifier : Classifier Object) (directory : Directory Object) :
    ∀ call ∈ (classifier.classifyClass directory).2,
      call.Among (RolePlan.ofDirectory directory).Asks
        (RolePlan.ofDirectory directory).Selects := by
  have created : Probe.CallsAmong (RolePlan.ofDirectory directory).Asks
      (RolePlan.ofDirectory directory).Selects
      ((classifier.policy.source? classifier.hierarchy? directory).map
        fun source => Recorded.created source.2) := by
    intro recorded made call member
    rcases Option.map_eq_some_iff.mp made with ⟨source, -, rfl⟩
    rw [List.mem_singleton.mp member]
    exact .create _
  have read := Probe.keeps_callsAmong.readPlan created
  intro call member
  rw [calls_classifyClass] at member
  cases probed : (Probe.readPlan (RolePlan.ofDirectory directory)
      ((classifier.policy.source? classifier.hierarchy? directory).map
        fun source => Recorded.created source.2)).2 with
  | none =>
      rw [probed] at member
      contradiction
  | some recorded =>
      rw [probed] at member
      exact read recorded probed call member

theorem among_classifyObject (classifier : Classifier Object) (directory : Directory Object)
    (object : Object) :
    ∀ call ∈ (classifier.classifyObject directory object).2.2,
      call.Among (RolePlan.ofDirectory directory).Asks
        (RolePlan.ofDirectory directory).Selects := by
  have borrowed : Probe.CallsAmong (RolePlan.ofDirectory directory).Asks
      (RolePlan.ofDirectory directory).Selects (some (Recorded.borrowed object)) := by
    rintro _ ⟨⟩ call member
    contradiction
  have read := Probe.keeps_callsAmong.readPlan borrowed
  intro call member
  rw [classifyObject] at member
  split at member
  case h_1 classification recorded classified =>
    rw [directory.classify_eq_readPlan] at classified
    rw [classified] at read
    exact read recorded rfl call member
  case h_2 => contradiction

/--
Whatever an object answers, a classification explains every call that was made for it,
on a fresh object as well as on a given one.
-/
theorem calls_classified (classifier : Classifier Object) (directory : Directory Object) :
    (classifier.classifyClass directory).1.last.ExplainsCalls directory
        (classifier.classifyClass directory).2 ∧
      ∀ object : Object,
        (classifier.classifyObject directory object).1.last.ExplainsCalls directory
          (classifier.classifyObject directory object).2.2 := by
  constructor
  · apply (classifier.reads_classifyClass directory).explainsCalls
    exact classifier.among_classifyClass directory
  · intro object
    apply (classifier.reads_classifyObject directory object).explainsCalls
    exact classifier.among_classifyObject directory object

end Classifier

/-- A door with two switched properties; a query of one has the name of a switch of the other. -/
def doorDirectory : Directory ScriptedObject where
  className := "Door".toList
  entries :=
    [("IsOpenOn".toList, some "V.IsOpenOn()".toList),
      ("IsOpenOff".toList, some "V.IsOpenOff()".toList),
      ("OpenOn".toList, some "V.OpenOn()".toList),
      ("OpenOff".toList, some "V.OpenOff()".toList)]
  object? := some ⟨"Door".toList, [("IsOpenOn".toList, [.value (.int 1)])], []⟩

/-- Whether the door is open is asked with the name that switches another property on. -/
theorem Classifier.calls_switch_door :
    ¬ ∀ property ∈ ((start ⟨true, []⟩ none).classifyClass doorDirectory).1.last.toggles.names,
      ∀ className, Call.get className (Naming.switchOn property) ∉
        ((start ⟨true, []⟩ none).classifyClass doorDirectory).2 := by
  intro never
  apply never "IsOpen".toList
  · decide +kernel
  · show Call.get "Door".toList _ ∈ _
    decide +kernel

end MethodRoles
