import MethodRoles.Spelling.Reading
import MethodRoles.Proofs.Text.Lines
import Mathlib.Logic.Relation

/-!
# Spellings that differ in their blanks

A text is respaced by putting one run of blanks in the place of another, and by
blanks where they say nothing: at its ends and in front of a star or an ampersand.
Two texts have one normal form exactly when the one can be respaced into the other
(`squeeze_eq_squeeze_iff`), so the normal form keeps what respacing keeps and nothing
else.  The form of a spelling is found in its normal form, so respacing a spelling
never changes its type (`typeOf_respaced`).
-/

namespace MethodRoles.Spelling

open Text

/-- One change of the blanks in a text. -/
inductive Respacing : Text → Text → Prop where
  /-- One run of blanks takes the place of another. -/
  | run {blanks others : Text} (blank : IsBlankLine blanks) (nonempty : blanks ≠ [])
      (otherBlank : IsBlankLine others) (otherNonempty : others ≠ []) (ahead after : Text) :
      Respacing (ahead ++ blanks ++ after) (ahead ++ others ++ after)
  /-- Blanks are put at the start. -/
  | start {blanks : Text} (blank : IsBlankLine blanks) (text : Text) :
      Respacing text (blanks ++ text)
  /-- Blanks are put at the end. -/
  | finish {blanks : Text} (blank : IsBlankLine blanks) (text : Text) :
      Respacing text (text ++ blanks)
  /-- Blanks are put in front of a star or an ampersand. -/
  | attached {blanks : Text} (blank : IsBlankLine blanks) {mark : Char}
      (attached : mark = '*' ∨ mark = '&') (ahead after : Text) :
      Respacing (ahead ++ mark :: after) (ahead ++ blanks ++ mark :: after)

/-- Texts that are respaced into each other, in any number of changes and in both directions. -/
abbrev Respaced : Text → Text → Prop :=
  Relation.EqvGen Respacing

/-- Of a run of blanks the normal form only knows whether there is one. -/
theorem squeezeFrom_append_of_blank {blanks : Text} (blank : IsBlankLine blanks) (gap : Bool)
    (after : Text) :
    squeezeFrom gap (blanks ++ after) = squeezeFrom (gap || !blanks.isEmpty) after := by
  induction blanks generalizing gap with
  | nil => simp
  | cons first others induction =>
      rcases List.forall_mem_cons.mp blank with ⟨here, later⟩
      simp [squeezeFrom, here, induction later]

/-- In front of a character that attaches no blanks are known. -/
theorem squeezeFrom_cons_of_attached {mark : Char} (attached : mark = '*' ∨ mark = '&')
    (gap : Bool) (after : Text) :
    squeezeFrom gap (mark :: after) = mark :: squeezeFrom false after := by
  have visible : isBlank mark = false ∧ attaches mark = true := by
    rcases attached with rfl | rfl <;> decide
  simp [squeezeFrom, visible]

/-- What stands ahead of two texts does not matter if they are squeezed alike behind anything. -/
theorem squeezeFrom_append_congr {left right : Text}
    (alike : ∀ gap, squeezeFrom gap left = squeezeFrom gap right) (ahead : Text) (gap : Bool) :
    squeezeFrom gap (ahead ++ left) = squeezeFrom gap (ahead ++ right) := by
  induction ahead generalizing gap with
  | nil => exact alike gap
  | cons character others induction => simp only [List.cons_append, squeezeFrom, induction]

/-- The normal form is what is left of a squeezed text without a space at its start. -/
theorem trimStart_squeezeFrom (gap : Bool) (text : Text) :
    trimStart (squeezeFrom gap text) = squeeze text := by
  induction text generalizing gap with
  | nil => rfl
  | cons character rest induction =>
      cases visible : isBlank character with
      | true =>
          have dropped : squeeze (character :: rest) = squeeze rest := by
            simp [squeeze, trimStart, visible]
          rw [squeezeFrom, if_pos visible, induction, dropped]
      | false =>
          have space : isBlank ' ' = true := by decide
          have kept : squeeze (character :: rest) = character :: squeezeFrom false rest := by
            simp [squeeze, squeezeFrom, trimStart, visible]
          rw [kept, squeezeFrom, if_neg (by simp [visible])]
          split <;> simp [trimStart, visible, space]

theorem squeeze_append_congr {left right : Text}
    (alike : ∀ gap, squeezeFrom gap left = squeezeFrom gap right) (ahead : Text) :
    squeeze (ahead ++ left) = squeeze (ahead ++ right) := by
  rw [← trimStart_squeezeFrom false, squeezeFrom_append_congr alike, trimStart_squeezeFrom]

/-- Respacing keeps the normal form. -/
theorem Respacing.squeeze_eq {left right : Text} (respacing : Respacing left right) :
    squeeze left = squeeze right := by
  cases respacing with
  | run blank nonempty otherBlank otherNonempty ahead after =>
      rw [List.append_assoc, List.append_assoc]
      apply squeeze_append_congr
      intro gap
      rw [squeezeFrom_append_of_blank blank, squeezeFrom_append_of_blank otherBlank,
        List.isEmpty_eq_false_iff.mpr nonempty, List.isEmpty_eq_false_iff.mpr otherNonempty]
  | start blank => rw [squeeze, squeeze, blank.trimStart_append]
  | @finish blanks blank =>
      have nothing : ∀ gap, squeezeFrom gap [] = squeezeFrom gap blanks := by
        intro gap
        have behind := squeezeFrom_append_of_blank blank gap []
        rw [List.append_nil] at behind
        rw [behind, squeezeFrom, squeezeFrom]
      simpa using squeeze_append_congr nothing left
  | attached blank attached ahead after =>
      rw [List.append_assoc]
      apply squeeze_append_congr
      intro gap
      rw [squeezeFrom_append_of_blank blank, squeezeFrom_cons_of_attached attached,
        squeezeFrom_cons_of_attached attached]

theorem Respaced.squeeze_eq {left right : Text} (respaced : Respaced left right) :
    squeeze left = squeeze right := by
  induction respaced with
  | rel _ _ respacing => exact respacing.squeeze_eq
  | refl _ => rfl
  | symm _ _ _ induction => exact induction.symm
  | trans _ _ _ _ _ first second => exact first.trans second

/-- Behind any text, blanks and the text behind them are respaced into their squeezed form. -/
theorem respaced_squeezeFrom {blanks : Text} (blank : IsBlankLine blanks) (ahead text : Text) :
    Respaced (ahead ++ blanks ++ text) (ahead ++ squeezeFrom (!blanks.isEmpty) text) := by
  induction text generalizing blanks ahead with
  | nil =>
      rw [squeezeFrom, List.append_nil, List.append_nil]
      exact .symm _ _ (.rel _ _ (.finish blank ahead))
  | cons character rest induction =>
      have onward : ∀ passed : Text, Respaced (passed ++ character :: rest)
          (passed ++ character :: squeezeFrom false rest) := by
        intro passed
        simpa using induction (List.forall_mem_nil _) (passed ++ [character])
      rw [squeezeFrom]
      split
      -- One more blank joins those that were passed.
      case isTrue here =>
        have longer : IsBlankLine (blanks ++ [character]) :=
          List.forall_mem_append.mpr ⟨blank, List.forall_mem_singleton.mpr here⟩
        have known : (!(blanks ++ [character]).isEmpty) = true := by simp
        have respaced := induction longer ahead
        rw [known] at respaced
        simpa using respaced
      case isFalse =>
        split
        -- A word is next, and the blanks in front of it become one space.
        case isTrue free =>
          have nonempty : blanks ≠ [] := by
            rintro rfl
            simp at free
          have space : IsBlankLine [' '] := by decide
          have respaced := onward (ahead ++ [' '])
          rw [List.append_assoc ahead [' '] (character :: squeezeFrom false rest)] at respaced
          exact .trans _ _ _ (.rel _ _ (.run blank nonempty space (by simp) ahead _)) respaced
        -- There were no blanks, or none that count in front of this character.
        case isFalse kept =>
          refine .trans _ (ahead ++ character :: rest) _ ?_ (onward ahead)
          rcases List.eq_nil_or_concat blanks with rfl | ⟨_, _, rfl⟩
          · rw [List.append_nil]
            exact .refl _
          · have attached : character = '*' ∨ character = '&' :=
              or_iff_not_imp_left.mpr (by simpa [attaches] using kept)
            exact .symm _ _ (.rel _ _ (.attached blank attached ahead rest))

/-- Every text is respaced into its normal form. -/
theorem respaced_squeeze (text : Text) : Respaced text (squeeze text) := by
  have blank : IsBlankLine (text.takeWhile isBlank) := fun character member =>
    List.mem_takeWhile_imp member
  have start : Respaced (trimStart text) text := by
    have respacing := Respacing.start blank (trimStart text)
    rw [trimStart, List.takeWhile_append_dropWhile] at respacing
    exact .rel _ _ respacing
  exact .trans _ _ _ (.symm _ _ start) (respaced_squeezeFrom (List.forall_mem_nil _) [] _)

/-- Two texts have one normal form exactly when they are respaced into each other. -/
theorem squeeze_eq_squeeze_iff {left right : Text} :
    squeeze left = squeeze right ↔ Respaced left right := by
  constructor
  · intro same
    have first := respaced_squeeze left
    have second := respaced_squeeze right
    rw [← same] at second
    exact .trans _ _ _ first (.symm _ _ second)
  · exact Respaced.squeeze_eq

/-- Respacing a spelling leaves the type that it names. -/
theorem typeOf_respaced {spelling respelled : Text} (respaced : Respaced spelling respelled) :
    typeOf spelling = typeOf respelled := by
  rw [typeOf_eq, typeOf_eq, Form.ofText, Form.ofText, squeeze_eq_squeeze_iff.mpr respaced]

/-- Tabs, wide spaces and no spaces at all in a constant reference to a pointer. -/
theorem typeOf_respaced_reference :
    Respaced "const vtkDataSet*&".toList "\tconst\u3000\u2003vtkDataSet \u00a0* &\n".toList ∧
      typeOf "const vtkDataSet*&".toList =
        typeOf "\tconst\u3000\u2003vtkDataSet \u00a0* &\n".toList := by
  have respaced : Respaced "const vtkDataSet*&".toList
      "\tconst\u3000\u2003vtkDataSet \u00a0* &\n".toList :=
    squeeze_eq_squeeze_iff.mp (by decide)
  exact ⟨respaced, typeOf_respaced respaced⟩

end MethodRoles.Spelling
