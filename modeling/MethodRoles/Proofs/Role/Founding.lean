import MethodRoles.Proofs.Role.Family

/-!
# What keeps a role from being founded

Every public name is looked at once, beside the names that the roles founded so far
claim.  So a property that could found a role has one, unless a role of the same kind
claims a name that it needs.

Toggles do get into each other's way: a property that could be switched is a toggle,
or else one of its switches is the getter or the setter of a toggle
(`RolePlan.switched_or_crossed`).  Pairs do not: a getter that an earlier pair claims
belongs to the bounds of that pair, and such a property founds no pair anyway.
Therefore pairs are found as if there were no other ones (`RolePlan.mem_pairs_iff`).
-/

namespace MethodRoles

/-- A name founds its role unless some of the founded roles claim what it needs. -/
theorem exists_earlier_of_mem {Role : Type} (found? : List Text → Text → Option Role)
    (claims : Role → List Text) (claimed : List Text) {names : List Text} {name : Text}
    (listed : name ∈ names) :
    ∃ earlier ⊆ foundInOrder found? claims claimed names,
      ∀ role, found? (claimed ++ earlier.flatMap claims) name = some role →
        role ∈ foundInOrder found? claims claimed names := by
  induction names generalizing claimed with
  | nil => contradiction
  | cons first names induction =>
      rw [foundInOrder]
      rcases List.mem_cons.mp listed with rfl | listed
      · refine ⟨[], List.nil_subset _, ?_⟩
        intro role found
        rw [List.flatMap_nil, List.append_nil] at found
        rw [found]
        exact List.mem_cons_self
      · split
        case h_1 role _ =>
          rcases induction (claimed ++ claims role) listed with ⟨earlier, founded, founds⟩
          refine ⟨role :: earlier, List.cons_subset_cons role founded, ?_⟩
          intro other found
          rw [List.flatMap_cons, ← List.append_assoc] at found
          exact List.mem_cons_of_mem role (founds other found)
        case h_2 => exact induction claimed listed

theorem not_mem_append_flatMap {Role : Type} {claims : Role → List Text} {claimed : List Text}
    {earlier : List Role} {name : Text} (free : name ∉ claimed)
    (unclaimed : ∀ role ∈ earlier, name ∉ claims role) :
    name ∉ claimed ++ earlier.flatMap claims := by
  rw [List.mem_append, List.mem_flatMap]
  rintro (member | ⟨role, founded, member⟩)
  · exact free member
  · exact unclaimed role founded member

namespace Naming

/-- A switch of a property is the getter or the setter of another one. -/
def Crosses (other property : Text) : Prop :=
  other ≠ property ∧ (switchOn property ∈ [getter other, setter other] ∨
    switchOff property ∈ [getter other, setter other])

variable {property other : Text}

instance : Decidable (Crosses other property) :=
  inferInstanceAs (Decidable (_ ∧ (_ ∨ _)))

/-- A toggle that claims a switch of another property claims it as an accessor of its own. -/
theorem crosses_of_mem_toggleNames (distinct : other ≠ property)
    (claimed : switchOn property ∈ Classification.toggleNames other ∨
      switchOff property ∈ Classification.toggleNames other) : Crosses other property := by
  refine ⟨distinct, ?_⟩
  rcases claimed with on | off
  · left
    rw [Classification.toggleNames, List.mem_cons, List.mem_cons, switchOn_inj] at on
    rcases on with same | same | accessor
    · exact absurd same.symm distinct
    · exact absurd same (switchOn_ne_switchOff property other)
    · exact accessor
  · right
    rw [Classification.toggleNames, List.mem_cons, List.mem_cons, switchOff_inj] at off
    rcases off with same | same | accessor
    · exact absurd same.symm (switchOn_ne_switchOff other property)
    · exact absurd same.symm distinct
    · exact accessor

end Naming

namespace Directory

variable {Object : Type}

/-- A public method has a signature of an action. -/
def HasAction (directory : Directory Object) (name : Text) : Prop :=
  name ∈ directory.publicNames ∧
    ∃ signature ∈ directory.signatures name, signature.isAction = true

/-- Both switches of a property are actions. -/
def CanSwitch (directory : Directory Object) (property : Text) : Prop :=
  property ≠ [] ∧ directory.HasAction (Naming.switchOn property) ∧
    directory.HasAction (Naming.switchOff property)

instance (directory : Directory Object) : DecidablePred directory.HasAction := fun name =>
  inferInstanceAs (Decidable (name ∈ directory.publicNames ∧
    ∃ signature ∈ directory.signatures name, signature.isAction = true))

instance (directory : Directory Object) : DecidablePred directory.CanSwitch := fun property =>
  inferInstanceAs (Decidable (property ≠ [] ∧ directory.HasAction (Naming.switchOn property) ∧
    directory.HasAction (Naming.switchOff property)))

end Directory

namespace RolePlan

variable {Object : Type} {directory : Directory Object} {property : Text}

/-! ## Toggles -/

theorem canSwitch_of_toggle? {claimed : List Text} {name : Text} {toggle : TogglePlan}
    (found : (MethodTable.ofDirectory directory).toggle? claimed name = some toggle) :
    directory.CanSwitch toggle.property := by
  rcases MethodTable.toggle?_eq_some_iff.mp found with ⟨⟨rfl, nonempty⟩, -, ⟨on, off⟩, -⟩
  exact ⟨nonempty, MethodTable.has_ofDirectory.mp on, MethodTable.has_ofDirectory.mp off⟩

theorem toggle?_eq_some_of_canSwitch (canSwitch : directory.CanSwitch property)
    {claimed : List Text} (onFree : Naming.switchOn property ∉ claimed)
    (offFree : Naming.switchOff property ∉ claimed) :
    (MethodTable.ofDirectory directory).toggle? claimed (Naming.switchOn property) =
      some ⟨property,
        (Naming.queries property).filter (MethodTable.ofDirectory directory).contains⟩ := by
  rcases canSwitch with ⟨nonempty, on, off⟩
  exact MethodTable.toggle?_eq_some_iff.mpr ⟨⟨rfl, nonempty⟩, ⟨onFree, offFree⟩,
    ⟨MethodTable.has_ofDirectory.mpr on, MethodTable.has_ofDirectory.mpr off⟩, rfl⟩

theorem canSwitch_of_mem
    (planned : property ∈ (ofDirectory directory).toggles.map TogglePlan.property) :
    directory.CanSwitch property := by
  rcases List.mem_map.mp planned with ⟨toggle, member, rfl⟩
  rcases exists_of_mem_foundInOrder member with ⟨name, -, later, found⟩
  exact canSwitch_of_toggle? found

/--
A property that can be switched is a toggle, or one of its switches is the getter or
the setter of a toggle.
-/
theorem switched_or_crossed (canSwitch : directory.CanSwitch property) :
    property ∈ (ofDirectory directory).toggles.map TogglePlan.property ∨
      ∃ other ∈ (ofDirectory directory).toggles.map TogglePlan.property,
        Naming.Crosses other property := by
  by_contra! missing
  rcases missing with ⟨absent, uncrossed⟩
  have listed : Naming.switchOn property ∈ (MethodTable.ofDirectory directory).names := by
    rw [MethodTable.names_ofDirectory]
    exact canSwitch.2.1.1
  rcases exists_earlier_of_mem (MethodTable.ofDirectory directory).toggle? TogglePlan.claims []
    listed with ⟨earlier, founded, founds⟩
  have free : ∀ toggle ∈ earlier, ¬ (Naming.switchOn property ∈ toggle.claims ∨
      Naming.switchOff property ∈ toggle.claims) := by
    intro toggle member claimed
    have planned : toggle.property ∈
        (ofDirectory directory).toggles.map TogglePlan.property :=
      List.mem_map_of_mem (founded member)
    have distinct : toggle.property ≠ property := fun same => absent (same ▸ planned)
    exact uncrossed toggle.property planned
      (Naming.crosses_of_mem_toggleNames distinct claimed)
  apply absent
  refine List.mem_map.mpr ⟨_, founds _ (toggle?_eq_some_of_canSwitch canSwitch ?_ ?_), rfl⟩
  · exact not_mem_append_flatMap List.not_mem_nil
      fun toggle member claimed => free toggle member (.inl claimed)
  · exact not_mem_append_flatMap List.not_mem_nil
      fun toggle member claimed => free toggle member (.inr claimed)

/-- The property that the first public name switches on is a toggle that bars those it crosses. -/
theorem toggles_of_first (canSwitch : directory.CanSwitch property)
    (first : directory.publicNames.head? = some (Naming.switchOn property)) :
    property ∈ (ofDirectory directory).toggles.map TogglePlan.property ∧
      ∀ other ∈ (ofDirectory directory).toggles.map TogglePlan.property,
        ¬ Naming.Crosses property other := by
  rcases List.head?_eq_some_iff.mp first with ⟨rest, listed⟩
  have found := toggle?_eq_some_of_canSwitch canSwitch List.not_mem_nil List.not_mem_nil
  have toggles : (ofDirectory directory).toggles =
      ⟨property, (Naming.queries property).filter (MethodTable.ofDirectory directory).contains⟩ ::
        foundInOrder (MethodTable.ofDirectory directory).toggle? TogglePlan.claims
          ([] ++ Classification.toggleNames property) rest := by
    change foundInOrder (MethodTable.ofDirectory directory).toggle? TogglePlan.claims []
      (MethodTable.ofDirectory directory).names = _
    rw [MethodTable.names_ofDirectory, listed, foundInOrder, found]
    rfl
  rw [toggles, List.map_cons]
  refine ⟨List.mem_cons_self, ?_⟩
  rintro other planned ⟨distinct, accessor⟩
  rcases List.mem_cons.mp planned with rfl | planned
  · exact distinct rfl
  · rcases List.mem_map.mp planned with ⟨toggle, member, rfl⟩
    rcases exists_of_mem_foundInOrder member with ⟨name, -, later, foundToo⟩
    rcases MethodTable.toggle?_eq_some_iff.mp foundToo with ⟨⟨rfl, -⟩, ⟨onFree, offFree⟩, -⟩
    rcases accessor with on | off
    · apply onFree
      simp only [Classification.toggleNames, List.mem_append, List.mem_cons] at on ⊢
      tauto
    · apply offFree
      simp only [Classification.toggleNames, List.mem_append, List.mem_cons] at off ⊢
      tauto

/-! ## Pairs -/

theorem isBound_append {pair : PairPlan} (planned : pair ∈ (ofDirectory directory).pairs)
    {suffix : Text} (listed : suffix ∈ Naming.boundSuffixes) :
    (MethodTable.ofDirectory directory).isBound (pair.property ++ suffix) = true := by
  rcases exists_pair?_eq_some planned with ⟨getterPublic, later, found⟩
  rcases MethodTable.pair?_eq_some_iff.mp found with ⟨⟨-, nonempty⟩, -, -, type, -, accepts, -⟩
  refine List.any_eq_true.mpr ⟨pair.property,
    Naming.mem_boundBases_iff.mpr ⟨nonempty, suffix, listed, rfl⟩, ?_⟩
  rw [Bool.and_eq_true, MethodTable.contains_ofDirectory, MethodTable.contains_ofDirectory]
  exact ⟨getterPublic, (MethodTable.has_ofDirectory.mp accepts).1⟩

/-- A planned pair claims the accessors of no other property that may found a pair. -/
theorem property_eq_of_mem_claims {pair : PairPlan} (planned : pair ∈ (ofDirectory directory).pairs)
    (unbound : (MethodTable.ofDirectory directory).isBound property = false)
    (claimed : Naming.getter property ∈ pair.claims ∨ Naming.setter property ∈ pair.claims) :
    pair.property = property := by
  have setterFree : Naming.setter property ∉
      (if pair.bounded then Naming.boundGetters pair.property else []) := by
    split
    · intro member
      rcases List.mem_map.mp member with ⟨suffix, -, same⟩
      exact Naming.setter_ne_getter _ _ same.symm
    · exact List.not_mem_nil
  -- A getter among the bounds of the pair would make its property a bound of that pair.
  have getterFree : Naming.getter property ∉
      (if pair.bounded then Naming.boundGetters pair.property else []) := by
    split
    · intro member
      rcases List.mem_map.mp member with ⟨suffix, listed, same⟩
      rw [← Naming.getter_inj.mp same, isBound_append planned listed] at unbound
      contradiction
    · exact List.not_mem_nil
  simp only [PairPlan.claims, List.mem_cons, getterFree, setterFree, or_false,
    Naming.getter_inj, Naming.setter_inj, Naming.setter_ne_getter,
    (Naming.setter_ne_getter _ _).symm, false_or, or_self] at claimed
  exact claimed.symm

theorem pair?_of_append {claimed later : List Text} {pair : PairPlan}
    (found : (MethodTable.ofDirectory directory).pair? (claimed ++ later)
      (Naming.getter pair.property) = some pair) :
    (MethodTable.ofDirectory directory).pair? claimed (Naming.getter pair.property) =
      some pair := by
  rw [MethodTable.pair?_eq_some_iff] at found ⊢
  rcases found with ⟨named, ⟨getterFree, setterFree⟩, founds⟩
  exact ⟨named, ⟨fun member => getterFree (List.mem_append_left later member),
    fun member => setterFree (List.mem_append_left later member)⟩, founds⟩

/-- A pair is planned exactly if its getter founds it beside the toggles and the states alone. -/
theorem mem_pairs_iff {pair : PairPlan} :
    pair ∈ (ofDirectory directory).pairs ↔
      (MethodTable.ofDirectory directory).pair?
        (claims (ofDirectory directory).toggles (ofDirectory directory).states [])
        (Naming.getter pair.property) = some pair := by
  constructor
  · intro planned
    rcases (exists_pair?_eq_some planned).2 with ⟨later, found⟩
    exact pair?_of_append found
  · intro found
    by_contra absent
    rcases MethodTable.pair?_eq_some_iff.mp found with
      ⟨named, ⟨getterFree, setterFree⟩, unbound, type, accessed, accepts⟩
    have listed : Naming.getter pair.property ∈ (MethodTable.ofDirectory directory).names := by
      rw [MethodTable.names_ofDirectory]
      exact (MethodTable.accessed?_eq_some_iff.mp accessed).1
    rcases exists_earlier_of_mem (MethodTable.ofDirectory directory).pair? PairPlan.claims
      (claims (ofDirectory directory).toggles (ofDirectory directory).states []) listed with
      ⟨earlier, founded, founds⟩
    have free : ∀ other ∈ earlier, ¬ (Naming.getter pair.property ∈ other.claims ∨
        Naming.setter pair.property ∈ other.claims) := by
      intro other member claimed
      have planned : other ∈ (ofDirectory directory).pairs := founded member
      rcases (exists_pair?_eq_some planned).2 with ⟨later, foundToo⟩
      have alone := pair?_of_append foundToo
      rw [property_eq_of_mem_claims planned unbound claimed, found] at alone
      cases alone
      exact absent planned
    apply absent
    refine founds pair (MethodTable.pair?_eq_some_iff.mpr
      ⟨named, ⟨?_, ?_⟩, unbound, type, accessed, accepts⟩)
    · exact not_mem_append_flatMap getterFree
        fun other member claimed => free other member (.inl claimed)
    · exact not_mem_append_flatMap setterFree
        fun other member claimed => free other member (.inr claimed)

end RolePlan

end MethodRoles
