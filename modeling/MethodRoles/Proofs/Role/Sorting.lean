import MethodRoles.Proofs.Role.Plan
import MethodRoles.Proofs.Role.Probing
import MethodRoles.Role.Sorting
import Mathlib.Data.List.Induction

/-!
# A sorter follows the plan

A sorter reads the object between two decisions, and what it has taken decides what comes
next.  Still it enters just the roles of the plan, which knows no object, and reads them
in the order of the plan (`Directory.classify_eq_readPlan`).

For each pass one lemma says what passing one method or family does: nothing, or entering
the role that the plan has for it under the names taken so far.  By induction a pass
enters the roles that the plan founds in order.
-/

namespace MethodRoles

/-! ## Families -/

namespace Family

/-- The family of a property among some selectors. -/
def among (selectors : List Selector) (property : Text) : Family :=
  ⟨property, selectors.filter fun selector => selector.property == property⟩

/-- The families of some selectors, in the order of their first selectors. -/
def ofSelectors (selectors : List Selector) : List Family :=
  (Text.distinct (selectors.map Selector.property)).map (among selectors)

section Join

variable {selectors : List Selector} {selector : Selector}

theorem among_append_own : among (selectors ++ [selector]) selector.property =
    ⟨selector.property, (among selectors selector.property).selectors ++ [selector]⟩ := by
  simp [among]

theorem among_append_of_ne {property : Text} (differ : selector.property ≠ property) :
    among (selectors ++ [selector]) property = among selectors property := by
  simp [among, differ]

theorem join_map {properties : List Text} (distinct : properties.Nodup) :
    join selector (properties.map (among selectors)) =
      properties.map (among (selectors ++ [selector])) ++
        if selector.property ∈ properties then [] else [⟨selector.property, [selector]⟩] := by
  induction properties with
  | nil => rfl
  | cons property properties induction =>
      rcases List.nodup_cons.mp distinct with ⟨new, distinct⟩
      rw [List.map_cons, join, List.map_cons]
      split
      case isTrue same =>
        have own : property = selector.property := beq_iff_eq.mp same
        subst own
        have untouched : properties.map (among (selectors ++ [selector])) =
            properties.map (among selectors) :=
          List.map_congr_left fun other member =>
            among_append_of_ne fun same => new (same ▸ member)
        rw [untouched, among_append_own, if_pos List.mem_cons_self, List.append_nil]
        rfl
      case isFalse differs =>
        have differ : selector.property ≠ property := fun same => differs (beq_iff_eq.mpr same.symm)
        rw [induction distinct, among_append_of_ne differ, List.cons_append]
        simp [differ]

end Join

/-- One more selector joins its family, which is the last one if it is new. -/
theorem join_ofSelectors (selectors : List Selector) (selector : Selector) :
    join selector (ofSelectors selectors) = ofSelectors (selectors ++ [selector]) := by
  rw [ofSelectors, join_map (Text.nodup_distinct _), ofSelectors, List.map_append,
    List.map_singleton, Text.distinct_append_singleton]
  simp only [Text.mem_distinct]
  split
  case isTrue known =>
    rw [List.append_nil]
  case isFalse new =>
    have alone : (among selectors selector.property).selectors = [] := by
      rw [among, List.filter_eq_nil_iff]
      intro other member same
      exact new (beq_iff_eq.mp same ▸ List.mem_map_of_mem member)
    rw [List.map_append, List.map_singleton, among_append_own, alone, List.nil_append]

theorem foldl_join (selectors : List Selector) :
    selectors.foldl (fun families selector => join selector families) [] =
      ofSelectors selectors := by
  induction selectors using List.reverseRecOn with
  | nil => rfl
  | append_singleton selectors selector induction =>
      rw [List.foldl_append, induction]
      exact join_ofSelectors selectors selector

end Family

/-! ## Roles that are entered -/

/-- One of the lists of a classification that are ordered by property. -/
structure Shelf (Content : Type) where
  /-- The list. -/
  entries : Classification → Keyed Content
  /-- The classification with another list in its place. -/
  replace : Classification → Keyed Content → Classification
  entries_replace : ∀ classification others,
    entries (replace classification others) = others
  replace_replace : ∀ classification others last,
    replace (replace classification others) last = replace classification last
  replace_entries : ∀ classification, replace classification (entries classification) =
    classification

namespace Shelf

/-- The toggles. -/
def toggles : Shelf (Resolution Bool) :=
  ⟨Classification.toggles, fun classification others => { classification with toggles := others },
    fun _ _ => rfl, fun _ _ _ => rfl, fun _ => rfl⟩

/-- The states. -/
def states : Shelf (List StateOption) :=
  ⟨Classification.states, fun classification others => { classification with states := others },
    fun _ _ => rfl, fun _ _ _ => rfl, fun _ => rfl⟩

/-- The pairs. -/
def pairs : Shelf PairReading :=
  ⟨Classification.pairs, fun classification others => { classification with pairs := others },
    fun _ _ => rfl, fun _ _ _ => rfl, fun _ => rfl⟩

end Shelf

/-- A kind of roles: what they claim, how they are read, and where they are entered. -/
structure RoleKind (Object Role Content : Type) where
  /-- The property of a role. -/
  property : Role → Text
  /-- The names that a role claims. -/
  claims : Role → List Text
  /-- The reading of a role. -/
  read : Role → Probe Object → Content × Probe Object
  /-- The list that roles are entered in. -/
  shelf : Shelf Content

namespace RoleKind

variable {Object Role Content : Type} (kind : RoleKind Object Role Content)

/-- Read a role, take its names, and enter it. -/
def enter (sorter : Sorter Object) (role : Role) : Sorter Object :=
  ⟨sorter.taken ++ kind.claims role,
    kind.shelf.replace sorter.result
      (Keyed.insert (kind.property role) (kind.read role sorter.probe).1
        (kind.shelf.entries sorter.result)),
    (kind.read role sorter.probe).2⟩

/-- Entering roles one after the other reads them all in turn. -/
theorem foldl_enter (roles : List Role) (sorter : Sorter Object) :
    roles.foldl kind.enter sorter =
      ⟨sorter.taken ++ roles.flatMap kind.claims,
        kind.shelf.replace sorter.result
          (((roles.map kind.property).zip (readEach kind.read roles sorter.probe).1).foldl
            (fun ordered entry => Keyed.insert entry.1 entry.2 ordered)
            (kind.shelf.entries sorter.result)),
        (readEach kind.read roles sorter.probe).2⟩ := by
  induction roles generalizing sorter with
  | nil => simp [readEach, kind.shelf.replace_entries]
  | cons role roles induction =>
      rw [List.foldl_cons, induction]
      simp [enter, readEach, kind.shelf.entries_replace, kind.shelf.replace_replace]

/-- A pass that enters what each name founds enters what the names found in order. -/
theorem foldl_eq_foldl_foundInOrder {found? : List Text → Text → Option Role}
    {pass : Sorter Object → Text → Sorter Object}
    (passes : ∀ sorter name,
      pass sorter name = (found? sorter.taken name).elim sorter (kind.enter sorter))
    (names : List Text) (sorter : Sorter Object) :
    names.foldl pass sorter =
      (foundInOrder found? kind.claims sorter.taken names).foldl kind.enter sorter := by
  induction names generalizing sorter with
  | nil => rfl
  | cons name names induction =>
      rw [List.foldl_cons, foundInOrder, passes, induction]
      cases found? sorter.taken name with
      | none => rfl
      | some role => rfl

section Kinds

variable [Probeable Object]

/-- The toggles. -/
def toggle : RoleKind Object TogglePlan (Resolution Bool) :=
  ⟨TogglePlan.property, TogglePlan.claims, fun toggle => Probe.readToggle toggle.queries,
    .toggles⟩

/-- The states. -/
def state : RoleKind Object StatePlan (List StateOption) :=
  ⟨StatePlan.property, StatePlan.claims, Probe.readState, .states⟩

/-- The pairs. -/
def pair : RoleKind Object PairPlan PairReading :=
  ⟨PairPlan.property, PairPlan.claims, Probe.readPair, .pairs⟩

end Kinds

end RoleKind

/-! ## The passes -/

namespace RolePlan

variable (toggles : List TogglePlan) (states : List StatePlan) (pairs : List PairPlan)

theorem claims_eq_flatMap : claims toggles [] [] = toggles.flatMap TogglePlan.claims := by
  simp [claims]

theorem claims_append_states :
    claims toggles states [] = claims toggles [] [] ++ states.flatMap StatePlan.claims := by
  simp [claims]

theorem claims_append_pairs :
    claims toggles states pairs = claims toggles states [] ++ pairs.flatMap PairPlan.claims := by
  simp [claims]

end RolePlan

namespace MethodTable

/-- A method with a signature is in the table. -/
theorem contains_of_has {table : MethodTable} {condition : Signature → Bool} {name : Text}
    (has : table.has condition name = true) : table.contains name = true := by
  rw [MethodTable.has, signatures] at has
  rw [contains]
  cases found : table.methods.lookup name with
  | none => simp [found] at has
  | some listed => rfl

/-- Whether a method is a getter that no role claims. -/
def isGetter (table : MethodTable) (claimed : List Text) (name : Text) : Bool :=
  !claimed.contains name && (Naming.getterProperty? name).isSome &&
    table.has Signature.returnsValue name

theorem getters_eq_filter (table : MethodTable) (claimed : List Text) :
    table.getters claimed = table.names.filter (table.isGetter claimed) :=
  rfl

/-- A name that is claimed makes no difference to the others. -/
theorem isGetter_append_of_ne {table : MethodTable} {claimed : List Text} {name other : Text}
    (differ : other ≠ name) :
    table.isGetter (claimed ++ [name]) other = table.isGetter claimed other := by
  simp [isGetter, differ]

end MethodTable

namespace Sorter

variable {Object : Type} [Probeable Object] {table : MethodTable}

/-- Passing a method enters the toggle that it founds beside the names taken. -/
theorem passToggle_eq (sorter : Sorter Object) (name : Text) :
    sorter.passToggle table name =
      (table.toggle? sorter.taken name).elim sorter (RoleKind.toggle.enter sorter) := by
  rw [passToggle, MethodTable.toggle?]
  cases found : Naming.switchedProperty? name with
  | none => rfl
  | some property =>
      have named : name = Naming.switchOn property :=
        (Naming.switchedProperty?_eq_some_iff.mp found).1
      by_cases founds : (!sorter.taken.contains name &&
          !sorter.taken.contains (Naming.switchOff property) && table.has Signature.isAction name &&
            table.has Signature.isAction (Naming.switchOff property)) = true
      · simp only [Bool.and_eq_true, Bool.not_eq_true'] at founds
        rcases founds with ⟨⟨⟨free, offFree⟩, acts⟩, offActs⟩
        simp only [isTaken, free, offFree, acts, offActs, MethodTable.contains_of_has offActs]
        subst named
        rfl
      · simp only [founds]
        split
        · rfl
        case isFalse free =>
          split
          · rfl
          case isFalse acts =>
            simp only [isTaken, Bool.or_eq_true, not_or, Bool.not_eq_true, Bool.not_eq_false']
              at free acts
            simp only [free, acts] at founds
            exact absurd rfl founds

omit [Probeable Object] in
/-- Passing a method adds the selector that it is to the families. -/
theorem passSelector_eq (sorter : Sorter Object) (families : List Family) (name : Text) :
    sorter.passSelector table families name =
      (table.selector? sorter.taken name).elim families
        fun selector => Family.join selector families := by
  rw [passSelector, MethodTable.selector?, isTaken]
  cases sorter.taken.contains name with
  | true => rfl
  | false =>
      cases Naming.selection? name with
      | none => simp
      | some selection => cases table.has Signature.takesNothing name <;> rfl

omit [Probeable Object] in
/-- The families that a sorter collects are those of the selectors beside the names taken. -/
theorem foldl_passSelector (sorter : Sorter Object) :
    table.names.foldl (sorter.passSelector table) [] =
      Family.ofSelectors (table.selectors sorter.taken) := by
  have passes (names : List Text) (families : List Family) :
      names.foldl (sorter.passSelector table) families =
        (names.filterMap (table.selector? sorter.taken)).foldl
          (fun families selector => Family.join selector families) families := by
    induction names generalizing families with
    | nil => rfl
    | cons name names induction =>
        rw [List.foldl_cons, passSelector_eq, List.filterMap_cons, induction]
        cases table.selector? sorter.taken name <;> rfl
  rw [passes, ← Family.foldl_join, MethodTable.selectors]

/-- Passing a family enters the state of its property, if there is one. -/
theorem passFamily_eq (sorter : Sorter Object) (selectors : List Selector) (property : Text) :
    sorter.passFamily table (Family.among selectors property) =
      if table.isState (table.stateOf selectors property) then
        RoleKind.state.enter sorter (table.stateOf selectors property)
      else
        sorter := by
  have few (count : Nat) : decide (count < 2) = !decide (2 ≤ count) := by
    rw [← decide_not]
    simp
  have refuses : (decide ((Family.among selectors property).selectors.length < 2) &&
      !table.hasIntegerGetter property) = !table.isState (table.stateOf selectors property) := by
    rw [few, ← Bool.not_or]
    rfl
  have reads : (if table.contains (Naming.getter property) then
        sorter.read (Probe.readOptions (Naming.getter property)
          (Family.among selectors property).selectors)
      else
        (Probe.unresolvedOptions (Family.among selectors property).selectors, sorter)) =
      sorter.read (Probe.readState (table.stateOf selectors property)) := by
    rw [read, read, Probe.readState, MethodTable.stateOf]
    dsimp only
    split <;> rfl
  have named : (Family.among selectors property).property = property := rfl
  rw [passFamily]
  simp only [named, refuses, reads]
  cases table.isState (table.stateOf selectors property) with
  | false => rfl
  | true =>
      simp [read, take, enterState, RoleKind.enter, RoleKind.state, Shelf.states, StatePlan.claims,
        MethodTable.stateOf, Family.among]

theorem readBounds?_eq (sorter : Sorter Object) (property : Text) (type : SlotType) :
    sorter.readBounds? table property type =
      if table.hasBounds property type then
        (some (Probe.readBounds property sorter.probe).1,
          { sorter with probe := (Probe.readBounds property sorter.probe).2 })
      else
        (none, sorter) := by
  rw [readBounds?, ← Bool.not_and, ← Bool.not_and, ← MethodTable.hasBounds]
  cases table.hasBounds property type <;> rfl

/-- Passing a method enters the pair that it founds beside the names taken. -/
theorem passPair_eq (sorter : Sorter Object) (name : Text) :
    sorter.passPair table name =
      (table.pair? sorter.taken name).elim sorter (RoleKind.pair.enter sorter) := by
  rw [passPair, MethodTable.pair?]
  cases found : Naming.getterProperty? name with
  | none => simp
  | some property =>
      have named : name = Naming.getter property :=
        (Naming.getterProperty?_eq_some_iff.mp found).1
      cases accessed : table.accessed? name with
      | none => simp
      | some type =>
          by_cases founds : (!sorter.taken.contains name && !table.isBound property &&
              !sorter.taken.contains (Naming.setter property) &&
                table.has (fun signature => signature.accepts type) (Naming.setter property)) = true
          · simp only [Bool.and_eq_true, Bool.not_eq_true'] at founds
            rcases founds with ⟨⟨⟨free, unbound⟩, setterFree⟩, accepts⟩
            simp only [isTaken, free, unbound, setterFree, accepts, read, readBounds?_eq]
            subst named
            cases table.hasBounds property type <;>
              simp [take, enterPair, RoleKind.enter, RoleKind.pair, Shelf.pairs, PairPlan.claims,
                Probe.readPair]
          · simp only [founds]
            split
            · rfl
            case isFalse free =>
              split
              · rfl
              case isFalse unbound =>
                split
                · rfl
                case isFalse accepts =>
                  simp only [isTaken, Bool.or_eq_true, not_or, Bool.not_eq_true,
                    Bool.not_eq_false'] at free unbound accepts
                  simp only [free, unbound, accepts] at founds
                  exact absurd rfl founds

omit [Probeable Object] in
theorem passGetter_eq (sorter : Sorter Object) (name : Text) :
    sorter.passGetter table name =
      if table.isGetter sorter.taken name then (sorter.take [name]).enterGetter name
      else sorter := by
  rw [passGetter, isTaken, MethodTable.isGetter]
  cases sorter.taken.contains name <;> cases Naming.getterProperty? name <;> rfl

omit [Probeable Object] in
/-- A pass enters the getters among names that differ, and takes them. -/
theorem foldl_passGetter {names : List Text} (distinct : names.Nodup) (sorter : Sorter Object) :
    names.foldl (passGetter table) sorter =
      { sorter with
        taken := sorter.taken ++ names.filter (table.isGetter sorter.taken)
        result := { sorter.result with
          getters := sorter.result.getters ++ names.filter (table.isGetter sorter.taken) } } := by
  induction names generalizing sorter with
  | nil => simp
  | cons name names induction =>
      rcases List.nodup_cons.mp distinct with ⟨new, distinct⟩
      rw [List.foldl_cons, passGetter_eq]
      split
      case isTrue founds =>
        have later : names.filter (table.isGetter (sorter.taken ++ [name])) =
            names.filter (table.isGetter sorter.taken) :=
          List.filter_congr fun other member =>
            MethodTable.isGetter_append_of_ne fun same => new (same ▸ member)
        rw [induction distinct, List.filter_cons_of_pos founds]
        simp [take, enterGetter, later]
      case isFalse refused =>
        rw [induction distinct, List.filter_cons_of_neg refused]

omit [Probeable Object] in
/-- What is left over is what no claim and no special name keeps out. -/
theorem leftOver_eq (sorter : Sorter Object) (className : Text) (seen names : List Text) :
    sorter.leftOver className seen names =
      (Text.distinct (names.filter fun name => !Naming.isSpecial className name &&
        (Naming.isLifecycle name || !sorter.taken.contains name))).filter (· ∉ seen) := by
  induction names generalizing seen with
  | nil => rfl
  | cons name names induction =>
      rw [leftOver, isTaken]
      split
      case isTrue passed =>
        rw [induction, List.filter_cons]
        split
        case isTrue kept =>
          have known : name ∈ seen := by
            simp only [Bool.and_eq_true, Bool.not_eq_true'] at kept
            simpa [kept.1] using passed
          rw [Text.filter_distinct_cons, if_pos known]
        case isFalse => rfl
      case isFalse fresh =>
        simp only [Bool.or_eq_true, not_or, Bool.not_eq_true] at fresh
        have new : name ∉ seen := by simpa using fresh.2
        rw [List.filter_cons, fresh.1, Bool.not_false, Bool.true_and]
        split
        case isTrue stays =>
          rw [induction, Text.filter_distinct_cons, if_neg new]
        case isFalse goes =>
          -- A name that is not kept is not among those kept later, so having seen it is nothing.
          rw [induction]
          apply List.filter_congr
          intro other member
          have differ : other ≠ name := by
            rintro rfl
            rw [Text.mem_distinct, List.mem_filter, Bool.and_eq_true] at member
            exact goes member.2.2
          simp [differ]

/-- The first pass enters the toggles of the table. -/
theorem passToggles_eq (sorter : Sorter Object) :
    sorter.passToggles table =
      (foundInOrder table.toggle? TogglePlan.claims sorter.taken table.names).foldl
        RoleKind.toggle.enter sorter :=
  RoleKind.toggle.foldl_eq_foldl_foundInOrder passToggle_eq table.names sorter

/-- The second pass enters the states beside the names taken. -/
theorem passStates_eq (sorter : Sorter Object) :
    sorter.passStates table =
      (table.states sorter.taken).foldl RoleKind.state.enter sorter := by
  rw [passStates, foldl_passSelector, Family.ofSelectors, MethodTable.states, List.foldl_map,
    List.foldl_filter, List.foldl_map]
  simp only [passFamily_eq]

/-- The third pass enters the pairs beside the names taken. -/
theorem passPairs_eq (sorter : Sorter Object) :
    sorter.passPairs table = (table.pairs sorter.taken).foldl RoleKind.pair.enter sorter :=
  RoleKind.pair.foldl_eq_foldl_foundInOrder passPair_eq table.names sorter

omit [Probeable Object] in
/-- The last pass enters the getters beside the names taken. -/
theorem passGetters_eq (distinct : table.names.Nodup) (sorter : Sorter Object) :
    sorter.passGetters table =
      { sorter with
        taken := sorter.taken ++ table.getters sorter.taken
        result := { sorter.result with
          getters := sorter.result.getters ++ table.getters sorter.taken } } := by
  rw [passGetters, foldl_passGetter distinct, MethodTable.getters_eq_filter]

end Sorter

/--
Sorting the methods of a directory while its object is read enters the roles of the plan
with what reading the plan gives, and it leaves the same object.
-/
theorem Directory.classify_eq_readPlan {Object Target : Type} [Probeable Target]
    (directory : Directory Object) (probe : Probe Target) :
    directory.classify probe = probe.readPlan (RolePlan.ofDirectory directory) := by
  let table := MethodTable.ofDirectory directory
  let plan := RolePlan.ofDirectory directory
  let toggles := readEach RoleKind.toggle.read plan.toggles probe
  let states := readEach RoleKind.state.read plan.states toggles.2
  let pairs := readEach RoleKind.pair.read plan.pairs states.2
  let begun := Sorter.start directory.className probe
  have afterToggles : begun.passToggles table =
      ⟨RolePlan.claims plan.toggles [] [],
        { Classification.blank with
          className := directory.className
          toggles := .ofList ((plan.toggles.map TogglePlan.property).zip toggles.1) },
        toggles.2⟩ := by
    rw [Sorter.passToggles_eq, RoleKind.foldl_enter, RolePlan.claims_eq_flatMap]
    rfl
  have afterStates : (begun.passToggles table).passStates table =
      ⟨RolePlan.claims plan.toggles plan.states [],
        { Classification.blank with
          className := directory.className
          toggles := .ofList ((plan.toggles.map TogglePlan.property).zip toggles.1)
          states := .ofList ((plan.states.map StatePlan.property).zip states.1) },
        states.2⟩ := by
    rw [afterToggles, Sorter.passStates_eq, RoleKind.foldl_enter,
      RolePlan.claims_append_states plan.toggles plan.states]
    rfl
  have afterPairs : ((begun.passToggles table).passStates table).passPairs table =
      ⟨RolePlan.claims plan.toggles plan.states plan.pairs,
        { Classification.blank with
          className := directory.className
          toggles := .ofList ((plan.toggles.map TogglePlan.property).zip toggles.1)
          states := .ofList ((plan.states.map StatePlan.property).zip states.1)
          pairs := .ofList ((plan.pairs.map PairPlan.property).zip pairs.1) },
        pairs.2⟩ := by
    rw [afterStates, Sorter.passPairs_eq, RoleKind.foldl_enter,
      RolePlan.claims_append_pairs plan.toggles plan.states plan.pairs]
    rfl
  have leftOver (sorter : Sorter Target) :
      sorter.leftOver directory.className [] directory.methodNames =
        RolePlan.othersOf directory sorter.taken := by
    rw [Sorter.leftOver_eq, RolePlan.othersOf]
    simp
  calc directory.classify probe
      = ((((begun.passToggles table).passStates table).passPairs table).passGetters
          table).finish directory := rfl
    _ = probe.readPlan plan := by
        rw [afterPairs, Sorter.passGetters_eq (MethodTable.nodup_names_ofDirectory directory),
          Sorter.finish, leftOver]
        rfl

/-- Whatever a probe answers, a directory is classified as its plan says. -/
theorem Directory.reads_classify {Object Target : Type} [Probeable Target]
    (directory : Directory Object) (probe : Probe Target) :
    (directory.classify probe).1.Reads (RolePlan.ofDirectory directory) := by
  rw [classify_eq_readPlan]
  exact Probe.readPlan_reads _ probe

end MethodRoles
