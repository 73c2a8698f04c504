import MethodRoles.Proofs.Role.Founding

/-!
# Directories of the same methods

Two directories of a class may list the same methods in another order.  Their tables
answer alike, so what only asks for single names is the same for both: which properties
can be switched, which selectors a property has and which pairs are founded.

A plan goes through the names in order, but apart from the toggles this leaves no trace.
When the toggles of two such directories are the same properties, so are the states with
their options and the pairs with their bounds, and the same names are left over for the
getters and the other methods (`RolePlan.pairs_perm` and its neighbours).
-/

namespace MethodRoles

namespace Directory

variable {Object : Type}

/-- A directory lists the methods of another one, in any order. -/
structure Reorders (reordered directory : Directory Object) : Prop where
  className_eq : reordered.className = directory.className
  entries_perm : reordered.entries.Perm directory.entries

/-- Two directories of a class have the same methods with the same documentation. -/
structure SameMethods (left right : Directory Object) : Prop where
  className_eq : left.className = right.className
  mem_methodNames_iff : ∀ name, name ∈ left.methodNames ↔ name ∈ right.methodNames
  documentation?_eq : ∀ name, left.documentation? name = right.documentation? name

theorem SameMethods.symm {left right : Directory Object} (same : left.SameMethods right) :
    right.SameMethods left where
  className_eq := same.className_eq.symm
  mem_methodNames_iff := fun name => (same.mem_methodNames_iff name).symm
  documentation?_eq := fun name => (same.documentation?_eq name).symm

theorem SameMethods.trans {left middle right : Directory Object} (same : left.SameMethods middle)
    (later : middle.SameMethods right) : left.SameMethods right where
  className_eq := same.className_eq.trans later.className_eq
  mem_methodNames_iff := fun name =>
    (same.mem_methodNames_iff name).trans (later.mem_methodNames_iff name)
  documentation?_eq := fun name =>
    (same.documentation?_eq name).trans (later.documentation?_eq name)

/-- Distinct methods keep their documentation in any order. -/
theorem Reorders.sameMethods {reordered directory : Directory Object}
    (reorders : reordered.Reorders directory) (distinct : directory.methodNames.Nodup) :
    reordered.SameMethods directory where
  className_eq := reorders.className_eq
  mem_methodNames_iff := fun _ => (reorders.entries_perm.map Prod.fst).mem_iff
  documentation?_eq := by
    intro name
    have distinctToo := (reorders.entries_perm.map Prod.fst).nodup_iff.mpr distinct
    have found : reordered.entries.lookup name = directory.entries.lookup name := by
      apply Option.ext
      intro documentation
      rw [Text.lookup_eq_some_iff_of_nodup distinctToo, reorders.entries_perm.mem_iff,
        ← Text.lookup_eq_some_iff_of_nodup distinct]
    rw [documentation?, documentation?, found]

namespace SameMethods

variable {left right : Directory Object} (same : left.SameMethods right)

include same

theorem mem_publicNames_iff {name : Text} :
    name ∈ left.publicNames ↔ name ∈ right.publicNames := by
  rw [mem_publicNames, mem_publicNames, same.mem_methodNames_iff, same.className_eq]

theorem publicNames_perm : left.publicNames.Perm right.publicNames :=
  (List.perm_ext_iff_of_nodup (Text.nodup_distinct _) (Text.nodup_distinct _)).mpr
    fun _ => same.mem_publicNames_iff

theorem signatures_eq (name : Text) : left.signatures name = right.signatures name := by
  rw [signatures, signatures, same.documentation?_eq]

theorem hasAction_iff {name : Text} : left.HasAction name ↔ right.HasAction name := by
  rw [HasAction, HasAction, same.mem_publicNames_iff, same.signatures_eq]

theorem canSwitch_iff {property : Text} :
    left.CanSwitch property ↔ right.CanSwitch property := by
  rw [CanSwitch, CanSwitch, same.hasAction_iff, same.hasAction_iff]

theorem hasIntegerGetter_iff {property : Text} :
    left.HasIntegerGetter property ↔ right.HasIntegerGetter property := by
  rw [HasIntegerGetter, HasIntegerGetter, same.mem_publicNames_iff, same.signatures_eq]

variable {switched others : List Text} (agree : switched.Perm others)

include agree

theorem family_perm (property : Text) :
    (left.family switched property).Perm (right.family others property) := by
  rw [family_congr agree, family, family]
  simp only [same.signatures_eq]
  exact same.publicNames_perm.filter _

theorem hasFamily_iff {property : Text} :
    left.HasFamily switched property ↔ right.HasFamily others property := by
  have families := same.family_perm agree property
  rw [HasFamily, HasFamily, families.length_eq, same.hasIntegerGetter_iff, ne_eq, ne_eq,
    ← List.length_eq_zero_iff, ← List.length_eq_zero_iff, families.length_eq]

end SameMethods

end Directory

namespace MethodTable

variable {Object : Type} {left right : Directory Object} (same : left.SameMethods right)

include same

theorem lookup_congr (name : Text) :
    (ofDirectory left).methods.lookup name = (ofDirectory right).methods.lookup name := by
  simp only [lookup_ofDirectory, same.mem_publicNames_iff, same.signatures_eq]

theorem signatures_congr : (ofDirectory left).signatures = (ofDirectory right).signatures := by
  funext name
  rw [signatures, signatures, lookup_congr same]

theorem contains_congr : (ofDirectory left).contains = (ofDirectory right).contains := by
  funext name
  rw [contains, contains, lookup_congr same]

theorem has_congr : (ofDirectory left).has = (ofDirectory right).has := by
  funext condition name
  rw [has, has, signatures_congr same]

theorem pair?_congr {claimed others : List Text} (agree : ∀ name, name ∈ claimed ↔ name ∈ others)
    (name : Text) :
    (ofDirectory left).pair? claimed name = (ofDirectory right).pair? others name := by
  have accessed : (ofDirectory left).accessed? name = (ofDirectory right).accessed? name := by
    rw [accessed?, accessed?, signatures_congr same]
  have isBound : (ofDirectory left).isBound = (ofDirectory right).isBound := by
    funext property
    rw [MethodTable.isBound, MethodTable.isBound, contains_congr same]
  have hasBounds : (ofDirectory left).hasBounds = (ofDirectory right).hasBounds := by
    funext property type
    simp only [MethodTable.hasBounds, hasBound, has_congr same]
  apply Option.ext
  intro pair
  rw [pair?_eq_some_iff, pair?_eq_some_iff, agree, agree, accessed, isBound, hasBounds,
    has_congr same]

end MethodTable

namespace RolePlan

variable {Object : Type} {left right : Directory Object}

/-- The options of a state are those behind the names of its family. -/
theorem map_option_eq {directory : Directory Object} {state : StatePlan}
    (planned : state ∈ (ofDirectory directory).states) :
    state.selectors.map Selector.option =
      (state.selectors.map Selector.method).filterMap fun name =>
        (Naming.selection? name).map Prod.snd := by
  rw [List.filterMap_map, ← List.filterMap_eq_map]
  apply List.filterMap_congr
  intro selector member
  simp [selection?_method planned member]

section Reordered

variable (same : left.SameMethods right)
  (switched : ((ofDirectory left).toggles.map TogglePlan.property).Perm
    ((ofDirectory right).toggles.map TogglePlan.property))

include same switched

theorem state_properties_perm :
    ((ofDirectory left).states.map StatePlan.property).Perm
      ((ofDirectory right).states.map StatePlan.property) := by
  rw [List.perm_ext_iff_of_nodup (nodup_state_properties left) (nodup_state_properties right)]
  intro property
  rw [mem_state_properties_iff, mem_state_properties_iff, same.hasFamily_iff switched]

theorem selectors_perm {state other : StatePlan} (planned : state ∈ (ofDirectory left).states)
    (plannedToo : other ∈ (ofDirectory right).states) (one : state.property = other.property) :
    (state.selectors.map Selector.method).Perm (other.selectors.map Selector.method) := by
  rw [map_method_eq_family planned, map_method_eq_family plannedToo, one]
  exact same.family_perm switched other.property

theorem options_perm {state other : StatePlan} (planned : state ∈ (ofDirectory left).states)
    (plannedToo : other ∈ (ofDirectory right).states) (one : state.property = other.property) :
    (state.selectors.map Selector.option).Perm (other.selectors.map Selector.option) := by
  rw [map_option_eq planned, map_option_eq plannedToo]
  exact (selectors_perm same switched planned plannedToo one).filterMap _

theorem mem_state_claims {name : Text}
    (claimed : name ∈ (ofDirectory left).states.flatMap StatePlan.claims) :
    name ∈ (ofDirectory right).states.flatMap StatePlan.claims := by
  rcases List.mem_flatMap.mp claimed with ⟨state, planned, member⟩
  have listed := (state_properties_perm same switched).mem_iff.mp (List.mem_map_of_mem planned)
  rcases List.mem_map.mp listed with ⟨other, plannedToo, one⟩
  have claims : state.claims.Perm other.claims := by
    rw [StatePlan.claims, StatePlan.claims, one]
    exact (selectors_perm same switched planned plannedToo one.symm).append_right _
  exact List.mem_flatMap.mpr ⟨other, plannedToo, claims.mem_iff.mp member⟩

theorem mem_claims_iff (name : Text) :
    name ∈ claims (ofDirectory left).toggles (ofDirectory left).states [] ↔
      name ∈ claims (ofDirectory right).toggles (ofDirectory right).states [] := by
  have toggles : name ∈ claims (ofDirectory left).toggles [] [] ↔
      name ∈ claims (ofDirectory right).toggles [] [] := by
    rw [claims_toggles, claims_toggles]
    exact (switched.flatMap_right _).mem_iff
  have states : name ∈ (ofDirectory left).states.flatMap StatePlan.claims ↔
      name ∈ (ofDirectory right).states.flatMap StatePlan.claims :=
    ⟨mem_state_claims same switched, mem_state_claims same.symm switched.symm⟩
  simp only [claims, List.flatMap_nil, List.append_nil, List.mem_append] at toggles ⊢
  rw [toggles, states]

theorem pairs_perm : (ofDirectory left).pairs.Perm (ofDirectory right).pairs := by
  have distinct : ∀ directory : Directory Object, (ofDirectory directory).pairs.Nodup :=
    fun directory => (nodup_pair_properties directory).of_map
  rw [List.perm_ext_iff_of_nodup (distinct left) (distinct right)]
  intro pair
  rw [mem_pairs_iff, mem_pairs_iff,
    MethodTable.pair?_congr same (mem_claims_iff same switched)]

theorem mem_ownedNames_iff (name : Text) :
    name ∈ ownedNames left ↔ name ∈ ownedNames right := by
  have before := mem_claims_iff same switched name
  have pairs := ((pairs_perm same switched).flatMap_right PairPlan.claims).mem_iff (a := name)
  simp only [ownedNames, claims, List.flatMap_nil, List.append_nil, List.mem_append] at before ⊢
  rw [before, pairs]

theorem getters_perm : (ofDirectory left).getters.Perm (ofDirectory right).getters := by
  rw [List.perm_ext_iff_of_nodup (getters_inOrder left).distinct (getters_inOrder right).distinct]
  intro name
  rw [mem_getters_iff, mem_getters_iff, same.mem_publicNames_iff,
    mem_ownedNames_iff same switched, MethodTable.has_congr same]

theorem others_perm : (ofDirectory left).others.Perm (ofDirectory right).others := by
  rw [List.perm_ext_iff_of_nodup (others_inOrder left).distinct (others_inOrder right).distinct]
  intro name
  rw [mem_others_iff, mem_others_iff, same.mem_methodNames_iff, same.className_eq,
    mem_ownedNames_iff same switched, (getters_perm same switched).mem_iff]

end Reordered

end RolePlan

end MethodRoles
