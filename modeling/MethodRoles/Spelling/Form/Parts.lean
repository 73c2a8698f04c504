import MethodRoles.Spelling.Form.Basic

/-!
# The parts of a form are shorter

Every part of the outermost form of a spelling is shorter than the spelling
(`length_lt_of_mem_parts`), so a reading of the parts may recurse on the length
of the text.  The lemmas follow the definition of the form case by case.
-/

namespace MethodRoles.Spelling

namespace Form

theorem length_le_of_mem_groupItems {inside item : Text}
    (member : item ∈ groupItems inside) : item.length ≤ inside.length := by
  unfold groupItems at member
  dsimp only at member
  split at member
  · exact Scan.length_le_of_mem_splitTop ((List.dropLast_sublist _).mem member)
  · exact Scan.length_le_of_mem_splitTop member

theorem length_le_of_mem_parts_ofGroup {inside part : Text}
    (member : part ∈ (ofGroup inside).parts) : part.length ≤ inside.length := by
  unfold ofGroup at member
  dsimp only at member
  split at member
  · simp [parts] at member
  · split at member
    · exact length_le_of_mem_groupItems
        ((List.takeWhile_sublist _).mem (List.mem_filter.mp member).1)
    · exact length_le_of_mem_groupItems member

theorem length_lt_of_mem_subscripts? {text : Text} {subscripts : List Text}
    (found : subscripts? text = some subscripts) {subscript : Text}
    (member : subscript ∈ subscripts) : subscript.length < text.length := by
  fun_induction subscripts? text generalizing subscripts with
  | case1 => simp_all
  | case2 => simp at found
  | case3 character others inside after taken ih =>
      obtain ⟨later, foundLater, rfl⟩ := Option.map_eq_some_iff.mp found
      have shorter := Scan.length_takeGroup?_lt taken
      rcases List.mem_cons.mp member with rfl | member
      · have trimmed := Text.length_trim_le inside
        omega
      · have shorterLater := ih foundLater member
        have trimmed := Text.length_trimStart_le after
        omega

theorem length_lt_of_mem_parts_ofGeneric {base subscript part : Text} {bound : Nat}
    (shorterBase : base.length < bound) (shorterSubscript : subscript.length < bound)
    (member : part ∈ (ofGeneric base subscript).parts) : part.length < bound := by
  unfold ofGeneric at member
  split at member
  · split at member
    · simp [parts] at member
    · exact Nat.lt_of_le_of_lt (length_le_of_mem_parts_ofGroup member) shorterSubscript
  · split at member
    · exact Nat.lt_of_le_of_lt
        (Scan.length_le_of_mem_splitTop (List.mem_filter.mp member).1) shorterSubscript
    · split at member
      · simp only [parts, List.mem_singleton] at member
        exact member ▸ shorterSubscript
      · split at member
        · simp [parts] at member
        · simp only [parts, List.mem_singleton] at member
          exact member ▸ shorterBase

theorem length_lt_of_mem_parts_ofSubscripted {base subscripts part : Text} {bound : Nat}
    (shorterBase : base.length < bound) (shorterSubscripts : subscripts.length ≤ bound)
    (member : part ∈ (ofSubscripted base subscripts).parts) : part.length < bound := by
  have trimmed := Text.length_trim_le base
  unfold ofSubscripted at member
  split at member
  case h_1 => simp [unreadable, parts] at member
  case h_2 subscript found =>
    have shorter := length_lt_of_mem_subscripts? found (List.mem_singleton_self subscript)
    exact length_lt_of_mem_parts_ofGeneric (by omega) (by omega) member
  case h_3 =>
    simp only [parts, List.mem_singleton] at member
    subst member
    omega

theorem length_le_of_mem_parts_ofTemplate {base arguments part : Text}
    (member : part ∈ (ofTemplate base arguments).parts) :
    part.length ≤ arguments.length := by
  unfold ofTemplate at member
  dsimp only at member
  split at member
  · exact Scan.length_le_of_mem_splitTop member
  · split at member
    · split at member
      case h_1 item items =>
        simp only [parts, List.mem_singleton] at member
        subst member
        exact Scan.length_le_of_mem_splitTop (items ▸ List.mem_singleton_self part)
      case h_2 => simp [unreadable, parts] at member
    · split at member <;> simp [unreadable, parts] at member

theorem length_pos_of_mem_qualifiers :
    ∀ qualifier ∈ qualifiers, 0 < qualifier.length := by
  decide

theorem length_lt_of_afterQualifier? {spelling part : Text}
    (found : afterQualifier? spelling = some part) : part.length < spelling.length := by
  obtain ⟨qualifier, listed, dropped⟩ := List.exists_of_findSome?_eq_some found
  have whole := Text.length_of_dropLeading? dropped
  have nonempty := length_pos_of_mem_qualifiers qualifier listed
  omega

theorem length_lt_of_beforeReference? {spelling part : Text}
    (found : beforeReference? spelling = some part) : part.length < spelling.length := by
  unfold beforeReference? at found
  rw [Option.orElse_eq_orElse, Option.orElse_eq_or, Option.or_eq_some_iff] at found
  rcases found with dropped | ⟨-, dropped⟩
  · simp [Text.length_of_dropTrailing? dropped]
  · simp [Text.length_of_dropTrailing? dropped]

theorem length_lt_of_mem_parts_ofBracketed {spelling part : Text}
    (member : part ∈ (ofBracketed spelling).parts) : part.length < spelling.length := by
  unfold ofBracketed at member
  split at member
  case h_1 inside after taken =>
    have shorter := Scan.length_takeGroup?_lt taken
    split at member
    · have := length_le_of_mem_parts_ofGroup member
      omega
    · simp [unreadable, parts] at member
  case h_2 => simp [unreadable, parts] at member

theorem length_lt_of_mem_parts_ofNamed {spelling part : Text}
    (member : part ∈ (ofNamed spelling).parts) : part.length < spelling.length := by
  unfold ofNamed at member
  split at member
  case h_1 base subscripts found =>
    unfold subscripted? at found
    split at found
    case h_1 ahead after cut =>
      have whole := congrArg List.length (Scan.eq_of_cutTop? cut)
      simp only [List.length_append, List.length_cons] at whole
      split at found
      · simp at found
      · rename_i nonempty
        have positive : 0 < ahead.length := by
          simpa [List.isEmpty_iff, List.length_pos_iff] using nonempty
        simp only [Option.some.injEq, Prod.mk.injEq] at found
        obtain ⟨rfl, rfl⟩ := found
        refine length_lt_of_mem_parts_ofSubscripted ?_ ?_ member
        · omega
        · simp only [List.length_cons]
          omega
    case h_2 => simp at found
  case h_2 =>
    split at member
    case h_1 base arguments found =>
      unfold template? at found
      split at found
      case h_1 ahead after cut =>
        have whole := congrArg List.length (Scan.eq_of_cutTop? cut)
        simp only [List.length_append, List.length_cons] at whole
        split at found
        case h_1 inner dropped =>
          have shorter := Text.length_of_dropTrailing? dropped
          split at found
          · simp at found
          · simp only [Option.some.injEq, Prod.mk.injEq] at found
            obtain ⟨rfl, rfl⟩ := found
            have := length_le_of_mem_parts_ofTemplate member
            omega
        case h_2 => simp at found
      case h_2 => simp at found
    case h_2 => split at member <;> simp [unreadable, parts] at member

theorem length_lt_of_mem_parts_ofSqueezed {spelling part : Text}
    (member : part ∈ (ofSqueezed spelling).parts) : part.length < spelling.length := by
  unfold ofSqueezed at member
  split at member
  · simp [unreadable, parts] at member
  · split at member
    · simp [parts] at member
    · split at member
      case h_1 shorter found =>
        simp only [parts, List.mem_singleton] at member
        subst member
        rw [Option.orElse_eq_orElse, Option.orElse_eq_or, Option.or_eq_some_iff] at found
        rcases found with found | ⟨-, found⟩
        · exact length_lt_of_afterQualifier? found
        · exact length_lt_of_beforeReference? found
      case h_2 =>
        split at member
        · exact length_lt_of_mem_parts_ofBracketed member
        · split at member
          case h_1 shorter dropped =>
            simp only [parts, List.mem_singleton] at member
            subst member
            simp [Text.length_of_dropTrailing? dropped]
          case h_2 => exact length_lt_of_mem_parts_ofNamed member

/-- A part is shorter than the spelling that it is a part of. -/
theorem length_lt_of_mem_parts {spelling part : Text}
    (member : part ∈ (ofText spelling).parts) : part.length < spelling.length :=
  Nat.lt_of_lt_of_le (length_lt_of_mem_parts_ofSqueezed member) (length_squeeze_le spelling)

end Form

end MethodRoles.Spelling
