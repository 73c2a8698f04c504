import MethodRoles.Directory
import Mathlib.Data.List.Nodup

/-!
# Lists without repetitions

Dropping the repetitions of a list keeps its members, and it keeps them in the
order in which the list first mentions them (`distinct_pairwise_idxOf`).  Of entries with
names the first with each name is kept, so lookups find the same.  Names
that a directory lists are in order when each is there once and none comes before
one that the directory mentions earlier.
-/

namespace MethodRoles

namespace Text

@[simp]
theorem mem_distinct {name : Text} {names : List Text} :
    name ∈ distinct names ↔ name ∈ names := by
  induction names with
  | nil => simp [distinct]
  | cons first others induction =>
      by_cases same : name = first <;> simp [distinct, induction, same]

/-- The first places of the members of a list increase along its distinct members. -/
theorem distinct_pairwise_idxOf (names : List Text) :
    (distinct names).Pairwise fun earlier later =>
      names.idxOf earlier < names.idxOf later := by
  induction names with
  | nil => exact List.Pairwise.nil
  | cons first others induction =>
      rw [distinct, List.pairwise_cons]
      constructor
      · intro later member
        have differ : later ≠ first := by simpa using (List.mem_filter.mp member).2
        rw [List.idxOf_cons_self, List.idxOf_cons_ne _ differ.symm]
        exact Nat.succ_pos _
      · refine (induction.filter _).imp_of_mem ?_
        intro earlier later earlierMember laterMember before
        have earlierDiffers : earlier ≠ first := by
          simpa using (List.mem_filter.mp earlierMember).2
        have laterDiffers : later ≠ first := by
          simpa using (List.mem_filter.mp laterMember).2
        rw [List.idxOf_cons_ne _ earlierDiffers.symm, List.idxOf_cons_ne _ laterDiffers.symm]
        exact Nat.succ_lt_succ before

theorem nodup_of_pairwise_idxOf {listed names : List Text}
    (ordered : names.Pairwise fun earlier later =>
      listed.idxOf earlier < listed.idxOf later) : names.Nodup := by
  apply ordered.imp
  intro earlier later before same
  exact Nat.lt_irrefl _ (same ▸ before)

theorem nodup_distinct (names : List Text) : (distinct names).Nodup :=
  nodup_of_pairwise_idxOf (distinct_pairwise_idxOf names)

/-- Of items with distinct names, the first with a given name is the one that has it. -/
theorem find?_eq_some_iff_of_nodup {Item : Type} {nameOf : Item → Text} {items : List Item}
    (distinct : (items.map nameOf).Nodup) {name : Text} {item : Item} :
    items.find? (fun other => nameOf other == name) = some item ↔
      item ∈ items ∧ nameOf item = name := by
  constructor
  · intro found
    exact ⟨List.mem_of_find?_eq_some found, by simpa using List.find?_some found⟩
  · rintro ⟨member, rfl⟩
    have present : (items.find? fun other => nameOf other == nameOf item).isSome = true :=
      List.find?_isSome.mpr ⟨item, member, beq_self_eq_true _⟩
    rcases Option.isSome_iff_exists.mp present with ⟨first, found⟩
    have same : nameOf first = nameOf item := by simpa using List.find?_some found
    rw [found, List.inj_on_of_nodup_map distinct (List.mem_of_find?_eq_some found) member same]

/-- Among entries with distinct names, the value found under a name is the one it stands with. -/
theorem lookup_eq_some_iff_of_nodup {Value : Type} {entries : List (Text × Value)}
    (distinct : (entries.map Prod.fst).Nodup) {name : Text} {value : Value} :
    entries.lookup name = some value ↔ (name, value) ∈ entries := by
  rw [List.lookup_eq_some_iff]
  constructor
  · rintro ⟨before, after, rfl, -⟩
    exact List.mem_append_right before List.mem_cons_self
  · intro member
    rcases List.append_of_mem member with ⟨before, after, rfl⟩
    refine ⟨before, after, rfl, ?_⟩
    intro entry earlier
    rw [List.map_append, List.nodup_append'] at distinct
    rw [bne_iff_ne]
    rintro rfl
    exact distinct.2.2 (List.mem_map_of_mem earlier) List.mem_cons_self

/-- Leaving out some names commutes with dropping repetitions. -/
theorem distinct_filter (keeps : Text → Bool) (names : List Text) :
    distinct (names.filter keeps) = (distinct names).filter keeps := by
  induction names with
  | nil => rfl
  | cons first others induction =>
      by_cases kept : keeps first = true
      · rw [List.filter_cons_of_pos kept, distinct, distinct, List.filter_cons_of_pos kept,
          induction, List.filter_comm]
      · rw [List.filter_cons_of_neg kept, distinct, List.filter_cons_of_neg kept, induction,
          List.filter_filter]
        apply List.filter_congr
        intro name _
        by_cases same : name = first <;> simp_all

/-- Distinct names are all kept, and of those behind them the ones that do not occur before. -/
theorem distinct_append {names : List Text} (nodup : names.Nodup) (others : List Text) :
    distinct (names ++ others) = names ++ (distinct others).filter (· ∉ names) := by
  induction names with
  | nil => simp
  | cons name names induction =>
      rcases List.nodup_cons.mp nodup with ⟨new, nodup⟩
      rw [List.cons_append, distinct, induction nodup, List.filter_append, List.filter_filter,
        List.cons_append]
      congr 2
      · rw [List.filter_eq_self]
        intro other member
        rw [bne_iff_ne]
        rintro rfl
        exact new member
      · apply List.filter_congr
        intro other _
        rw [Bool.eq_iff_iff]
        simp

/-- The first of some names is one of those outside a list unless the list has it. -/
theorem filter_distinct_cons (name : Text) (names seen : List Text) :
    (distinct (name :: names)).filter (· ∉ seen) =
      if name ∈ seen then (distinct names).filter (· ∉ seen)
      else name :: (distinct names).filter (· ∉ name :: seen) := by
  rw [distinct]
  split
  case isTrue known =>
    rw [List.filter_cons_of_neg (by simpa using known), List.filter_filter]
    apply List.filter_congr
    intro other _
    by_cases same : other = name <;> simp [same, known]
  case isFalse new =>
    rw [List.filter_cons_of_pos (by simpa using new), List.filter_filter]
    congr 1
    apply List.filter_congr
    intro other _
    by_cases same : other = name <;> simp [same]

/-- A name at the end is kept if it is new. -/
theorem distinct_append_singleton (names : List Text) (name : Text) :
    distinct (names ++ [name]) =
      if name ∈ names then distinct names else distinct names ++ [name] := by
  induction names with
  | nil => rfl
  | cons first others induction =>
      rw [List.cons_append, distinct, distinct, induction]
      by_cases same : name = first
      · subst same
        by_cases member : name ∈ others <;> simp [member]
      · by_cases member : name ∈ others <;> simp [member, same]

/-! ## Entries by name -/

section Entries

variable {Content : Type}

theorem map_fst_distinctByName (entries : List (Text × Content)) :
    (distinctByName entries).map Prod.fst = distinct (entries.map Prod.fst) := by
  induction entries with
  | nil => rfl
  | cons entry entries induction =>
      rw [distinctByName, List.map_cons, List.map_cons, distinct, ← induction, List.filter_map]
      rfl

theorem lookup_filter_ne {name other : Text} (differ : name ≠ other)
    (entries : List (Text × Content)) :
    (entries.filter fun entry => entry.1 != other).lookup name = entries.lookup name := by
  induction entries with
  | nil => rfl
  | cons entry entries induction =>
      by_cases same : entry.1 = other
      · subst same
        rw [List.filter_cons_of_neg (by simp), induction, List.lookup_cons,
          beq_false_of_ne differ]
      · rw [List.filter_cons_of_pos (by simpa using same), List.lookup_cons, List.lookup_cons,
          induction]

/-- The first entry with a name is kept. -/
theorem lookup_distinctByName (entries : List (Text × Content)) (name : Text) :
    (distinctByName entries).lookup name = entries.lookup name := by
  induction entries with
  | nil => rfl
  | cons entry entries induction =>
      rw [distinctByName, List.lookup_cons, List.lookup_cons]
      split
      · rfl
      case h_2 differs =>
        rw [lookup_filter_ne (by simpa using differs), induction]

end Entries

end Text

namespace Directory

variable {Object : Type}

/--
Some names of a directory, each once, in the order in which it first lists them.
-/
structure ListsInOrder (directory : Directory Object) (names : List Text) : Prop where
  /-- The directory lists every one of them. -/
  listed : ∀ name ∈ names, name ∈ directory.methodNames
  /-- No name occurs twice. -/
  distinct : names.Nodup
  /-- A name comes after those that the directory mentions earlier. -/
  ordered : names.Pairwise fun earlier later =>
    directory.methodNames.idxOf earlier < directory.methodNames.idxOf later

theorem ListsInOrder.of_sublist {directory : Directory Object} {names : List Text}
    (part : names.Sublist (Text.distinct directory.methodNames)) :
    directory.ListsInOrder names where
  listed _ member := Text.mem_distinct.mp (part.mem member)
  distinct := (Text.nodup_distinct _).sublist part
  ordered := (Text.distinct_pairwise_idxOf _).sublist part

end Directory

end MethodRoles
