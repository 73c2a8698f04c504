import MethodRoles.Text.Keyed
import Mathlib.Data.Char
import Mathlib.Data.List.Forall2
import Mathlib.Data.List.Lex
import Mathlib.Data.List.Nodup

/-!
# Entries under names, ordered and related

Ordering some entries by name neither loses nor invents an entry as long as no
name occurs twice (`ofList_perm`).

Two lists of entries are related when they have the same names in the same
places and the contents under each name are related.  Ordering keeps entries
related (`Related.ofList`): where an entry goes depends on the names alone.
-/

namespace MethodRoles.Keyed

variable {Left Right : Type}

@[simp]
theorem names_nil : names ([] : Keyed Left) = [] :=
  rfl

@[simp]
theorem names_cons (entry : Text × Left) (others : Keyed Left) :
    names (entry :: others) = entry.1 :: names others :=
  rfl

/-- An entry under a new name only joins the entries that are there. -/
theorem insert_perm {name : Text} {content : Left} {entries : Keyed Left}
    (fresh : name ∉ entries.names) :
    (insert name content entries).Perm ((name, content) :: entries) := by
  induction entries with
  | nil => exact List.Perm.refl _
  | cons entry others induction =>
      rw [names_cons, List.mem_cons, not_or] at fresh
      rw [insert, if_neg fresh.1]
      split
      · exact List.Perm.refl _
      · exact ((induction fresh.2).cons entry).trans (List.Perm.swap _ _ _)

theorem foldl_insert_perm (entries : List (Text × Left)) (ordered : Keyed Left)
    (distinct : ((ordered ++ entries).map Prod.fst).Nodup) :
    (entries.foldl (fun ordered entry => insert entry.1 entry.2 ordered) ordered).Perm
      (ordered ++ entries) := by
  induction entries generalizing ordered with
  | nil => simp
  | cons entry others induction =>
      have moved : ((entry :: ordered) ++ others).Perm (ordered ++ entry :: others) :=
        List.perm_middle.symm
      have distinctMoved := (moved.map Prod.fst).nodup_iff.mpr distinct
      have fresh : entry.1 ∉ ordered.names := by
        intro member
        rw [List.cons_append, List.map_cons, List.nodup_cons, List.map_append] at distinctMoved
        exact distinctMoved.1 (List.mem_append_left _ member)
      have inserted : (insert entry.1 entry.2 ordered).Perm (entry :: ordered) :=
        insert_perm fresh
      have kept := (inserted.append_right others).trans moved
      exact (induction _ ((kept.map Prod.fst).nodup_iff.mpr distinct)).trans kept

/-- Ordering entries with distinct names permutes them. -/
theorem ofList_perm {entries : List (Text × Left)} (distinct : (entries.map Prod.fst).Nodup) :
    (ofList entries).Perm entries :=
  foldl_insert_perm entries [] distinct

/-- Items ordered by distinct names are found under their own names. -/
theorem mem_ofList_map {Item : Type} {key : Item → Text} {items : List Item}
    (distinct : (items.map key).Nodup) {name : Text} {item : Item} :
    (name, item) ∈ ofList (items.map fun item => (key item, item)) ↔
      item ∈ items ∧ key item = name := by
  have distinctNames : ((items.map fun item => (key item, item)).map Prod.fst).Nodup := by
    simpa [Function.comp_def] using distinct
  rw [(ofList_perm distinctNames).mem_iff, List.mem_map]
  constructor
  · rintro ⟨found, member, equal⟩
    rcases Prod.mk.inj equal with ⟨rfl, rfl⟩
    exact ⟨member, rfl⟩
  · rintro ⟨member, rfl⟩
    exact ⟨item, member, rfl⟩

/-- Contents that are computed from items are found under the names of the items. -/
theorem exists_of_mem_ofList_zip {Item : Type} {key : Item → Text} {content : Item → Left}
    {items : List Item} (distinct : (items.map key).Nodup) {name : Text} {found : Left}
    (member : (name, found) ∈ ofList ((items.map key).zip (items.map content))) :
    ∃ item ∈ items, key item = name ∧ content item = found := by
  rw [List.zip_map'] at member
  have distinctNames :
      ((items.map fun item => (key item, content item)).map Prod.fst).Nodup := by
    simpa [Function.comp_def] using distinct
  rcases List.mem_map.mp ((ofList_perm distinctNames).mem_iff.mp member) with
    ⟨item, listed, equal⟩
  rcases Prod.mk.inj equal with ⟨named, same⟩
  exact ⟨item, listed, named, same⟩

/-- An insertion brings in no other name than its own. -/
theorem mem_names_insert {name other : Text} {content : Left} {entries : Keyed Left}
    (member : other ∈ (insert name content entries).names) :
    other = name ∨ other ∈ entries.names := by
  induction entries with
  | nil => simpa [insert] using member
  | cons entry others induction =>
      rw [insert] at member
      split at member
      · simpa using member
      · split at member
        case isTrue same =>
          rw [names_cons, List.mem_cons] at member ⊢
          exact member.imp_right .inr
        case isFalse =>
          rw [names_cons, List.mem_cons] at member ⊢
          rcases member with here | later
          · exact .inr (.inl here)
          · exact (induction later).imp_right .inr

theorem insert_increasing {name : Text} {content : Left} {entries : Keyed Left}
    (increasing : entries.names.Pairwise (· < ·)) :
    (insert name content entries).names.Pairwise (· < ·) := by
  induction entries with
  | nil => exact List.pairwise_singleton _ _
  | cons entry others induction =>
      rw [names_cons, List.pairwise_cons] at increasing
      rcases increasing with ⟨least, rest⟩
      rw [insert]
      split
      case isTrue before =>
        rw [names_cons, names_cons, List.pairwise_cons, List.pairwise_cons]
        refine ⟨List.forall_mem_cons.mpr ⟨before, ?_⟩, least, rest⟩
        exact fun other member => before.trans (least other member)
      case isFalse notBefore =>
        split
        case isTrue same =>
          rw [names_cons, List.pairwise_cons]
          exact ⟨same ▸ least, rest⟩
        case isFalse differs =>
          rw [names_cons, List.pairwise_cons]
          refine ⟨?_, induction rest⟩
          intro other member
          rcases mem_names_insert member with rfl | listed
          · exact lt_of_le_of_ne (not_lt.mp notBefore) (Ne.symm differs)
          · exact least other listed

/-- Ordered entries stand in the order of their names. -/
theorem ofList_increasing (entries : List (Text × Left)) :
    (ofList entries).names.Pairwise (· < ·) := by
  have folded : ∀ ordered : Keyed Left, ordered.names.Pairwise (· < ·) →
      (entries.foldl (fun ordered entry => insert entry.1 entry.2 ordered)
        ordered).names.Pairwise (· < ·) := by
    induction entries with
    | nil => exact fun _ increasing => increasing
    | cons entry others induction =>
        exact fun ordered increasing => induction _ (insert_increasing increasing)
  exact folded [] List.Pairwise.nil

/-- Two lists of the same names in their order are one list. -/
theorem eq_of_increasing {lefts rights : List Text} (same : lefts.Perm rights)
    (left : lefts.Pairwise (· < ·)) (right : rights.Pairwise (· < ·)) : lefts = rights :=
  same.eq_of_pairwise (fun _ _ _ _ before after => absurd after before.asymm) left right

/-- Entries with the same names in the same places and related contents. -/
def Related (relation : Left → Right → Prop) :
    List (Text × Left) → List (Text × Right) → Prop :=
  List.Forall₂ fun left right => left.1 = right.1 ∧ relation left.2 right.2

namespace Related

variable {relation : Left → Right → Prop}
variable {lefts : List (Text × Left)} {rights : List (Text × Right)}

theorem names_eq (related : Related relation lefts rights) :
    lefts.map Prod.fst = rights.map Prod.fst := by
  induction related with
  | nil => rfl
  | cons same _ induction => simp [same.1, induction]

theorem insert {name : Text} {left : Left} {right : Right} (content : relation left right)
    (related : Related relation lefts rights) :
    Related relation (insert name left lefts) (insert name right rights) := by
  induction related with
  | nil => exact .cons ⟨rfl, content⟩ .nil
  | @cons leftEntry rightEntry _ _ same others induction =>
      simp only [Keyed.insert, same.1]
      split
      · exact .cons ⟨rfl, content⟩ (.cons same others)
      · split
        · exact .cons ⟨rfl, content⟩ others
        · exact .cons same induction

theorem foldl_insert {orderedLefts : Keyed Left} {orderedRights : Keyed Right}
    (related : Related relation lefts rights)
    (ordered : Related relation orderedLefts orderedRights) :
    Related relation
      (lefts.foldl (fun ordered entry => Keyed.insert entry.1 entry.2 ordered) orderedLefts)
      (rights.foldl (fun ordered entry => Keyed.insert entry.1 entry.2 ordered)
        orderedRights) := by
  induction related generalizing orderedLefts orderedRights with
  | nil => exact ordered
  | @cons leftEntry rightEntry _ _ same _ induction =>
      simp only [List.foldl_cons, same.1]
      exact induction (ordered.insert same.2)

/-- Ordering by name keeps entries related. -/
theorem ofList (related : Related relation lefts rights) :
    Related relation (ofList lefts) (ofList rights) :=
  foldl_insert related .nil

/-- Naming related items alike keeps them related. -/
theorem of_forall₂ {Item : Type} {key : Item → Text} {items : List Item}
    {contents : List Right} {relation : Item → Right → Prop}
    (related : List.Forall₂ relation items contents) :
    Related relation (items.map fun item => (key item, item)) ((items.map key).zip contents) := by
  induction related with
  | nil => exact .nil
  | cons content _ induction => exact .cons ⟨rfl, content⟩ induction

/-- Related contents that are kept alike leave the same names. -/
theorem names_filter_eq {keepsLeft : Left → Bool} {keepsRight : Right → Bool}
    (alike : ∀ left right, relation left right → keepsRight right = keepsLeft left)
    (related : Related relation lefts rights) :
    (rights.filter fun entry => keepsRight entry.2).map Prod.fst =
      (lefts.filter fun entry => keepsLeft entry.2).map Prod.fst := by
  induction related with
  | nil => rfl
  | cons same _ induction =>
      simp only [List.filter_cons, alike _ _ same.2]
      split
      · simp [same.1, induction]
      · exact induction

/-- Each entry on the left has a related one under its name on the right. -/
theorem exists_right (related : Related relation lefts rights) {name : Text} {left : Left}
    (member : (name, left) ∈ lefts) :
    ∃ right, (name, right) ∈ rights ∧ relation left right := by
  induction related with
  | nil => simp at member
  | @cons leftEntry rightEntry _ _ same _ induction =>
      rcases List.mem_cons.mp member with rfl | member
      · have entry : (name, rightEntry.2) = rightEntry := Prod.ext same.1 rfl
        exact ⟨rightEntry.2, entry ▸ List.mem_cons_self, same.2⟩
      · rcases induction member with ⟨right, found, content⟩
        exact ⟨right, List.mem_cons_of_mem _ found, content⟩

/-- Each entry on the right has a related one under its name on the left. -/
theorem exists_left (related : Related relation lefts rights) {name : Text} {right : Right}
    (member : (name, right) ∈ rights) :
    ∃ left, (name, left) ∈ lefts ∧ relation left right := by
  have flipped : Related (flip relation) rights lefts :=
    related.flip.imp fun _ _ same => ⟨same.1.symm, same.2⟩
  exact flipped.exists_right member

variable {Item : Type} {key : Item → Text} {items : List Item}
variable {contents : List (Text × Right)} {reading : Item → Right → Prop}

/-- Contents that are related to ordered items have the names of the items. -/
theorem names_perm (distinct : (items.map key).Nodup)
    (related : Related reading (Keyed.ofList (items.map fun item => (key item, item))) contents) :
    (Keyed.names contents).Perm (items.map key) := by
  have keys : (items.map fun item => (key item, item)).map Prod.fst = items.map key := by
    simp [Function.comp_def]
  have ordered := (ofList_perm (keys ▸ distinct)).map Prod.fst
  rw [keys, related.names_eq] at ordered
  exact ordered

/-- Contents that are related to ordered items stand in the order of their names. -/
theorem names_increasing {entries : List (Text × Item)}
    (related : Related reading (Keyed.ofList entries) contents) :
    (Keyed.names contents).Pairwise (· < ·) := by
  have ordered := ofList_increasing entries
  rw [Keyed.names, related.names_eq] at ordered
  exact ordered

/-- Each content that is related to ordered items comes from one of them. -/
theorem exists_item (distinct : (items.map key).Nodup)
    (related : Related reading (Keyed.ofList (items.map fun item => (key item, item))) contents)
    {name : Text} {content : Right} (member : (name, content) ∈ contents) :
    ∃ item ∈ items, key item = name ∧ reading item content := by
  rcases related.exists_left member with ⟨item, found, content⟩
  rcases (mem_ofList_map distinct).mp found with ⟨listed, named⟩
  exact ⟨item, listed, named, content⟩

/-- Each of the ordered items has its content under its name. -/
theorem exists_content (distinct : (items.map key).Nodup)
    (related : Related reading (Keyed.ofList (items.map fun item => (key item, item))) contents)
    {item : Item} (member : item ∈ items) :
    ∃ content, (key item, content) ∈ contents ∧ reading item content :=
  related.exists_right ((mem_ofList_map distinct).mpr ⟨member, rfl⟩)

/-- What the contents list under their names, the items list themselves. -/
theorem mem_flatMap_iff (distinct : (items.map key).Nodup)
    (related : Related reading (Keyed.ofList (items.map fun item => (key item, item))) contents)
    {listed : Text × Right → List Text} {itself : Item → List Text} {member : Text}
    (same : ∀ item ∈ items, ∀ content, reading item content →
      (member ∈ listed (key item, content) ↔ member ∈ itself item)) :
    member ∈ contents.flatMap listed ↔ member ∈ items.flatMap itself := by
  simp only [List.mem_flatMap]
  constructor
  · rintro ⟨⟨name, content⟩, found, belongs⟩
    rcases related.exists_item distinct found with ⟨item, planned, rfl, read⟩
    exact ⟨item, planned, (same item planned content read).mp belongs⟩
  · rintro ⟨item, planned, belongs⟩
    rcases related.exists_content distinct planned with ⟨content, found, read⟩
    exact ⟨(key item, content), found, (same item planned content read).mpr belongs⟩

end Related

end MethodRoles.Keyed
