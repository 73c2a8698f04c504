import Mathlib.Logic.ExistsUnique
import MethodRoles.Overload.Reading
import MethodRoles.Proofs.Spelling.Regular

/-!
# Documented signatures are in normal form

Every type in a documented signature is regular, and its arguments are written in
the one way that argument lists are: nothing, a lone type that is no group, a lone
group in a tuple of its own, or a tuple of several arguments.  One argument list
alone reads like that, a list of one absent argument apart, which reads like the
empty list (`Signature.ofDocumentation_normal`).

Arguments are taken from two renderings and from nowhere else: a type comes from a
spelling, is unknown, or is absent.  A list of one absent argument is collapsed
before a signature is made of it, by either rendering.
-/

namespace MethodRoles

open Spelling SlotType

namespace Overload

theorem collapseAbsent_ne (arguments : List SlotType) :
    collapseAbsent arguments ≠ [.absent] := by
  unfold collapseAbsent
  split
  · exact List.cons_ne_nil _ _ ∘ Eq.symm
  · assumption

theorem mem_of_mem_collapseAbsent {arguments : List SlotType} {argument : SlotType}
    (member : argument ∈ collapseAbsent arguments) : argument ∈ arguments := by
  unfold collapseAbsent at member
  split at member
  · contradiction
  · exact member

/-- Where a spelling may be missing, another type stands for its type. -/
theorem typeOf_or_regular {missing : SlotType} (regular : missing.Regular) (spelling : Text) :
    (if spelling.isEmpty then missing else typeOf spelling).Regular := by
  split
  · exact regular
  · exact typeOf_regular spelling

theorem resultType_regular (text : Text) : (resultType text).Regular :=
  typeOf_or_regular .absent _

theorem arrowResult_regular (text : Text) : (arrowResult text).Regular := by
  unfold arrowResult
  split
  · exact resultType_regular _
  · exact .absent

theorem nativeResult_regular (ahead : Text) : (nativeResult ahead).Regular :=
  typeOf_or_regular .absent _

theorem argumentType_regular {filler : SlotType} (regular : filler.Regular) (item : Text) :
    (argumentType filler item).Regular :=
  typeOf_or_regular regular _

theorem map_typeOf_regular (spellings : List Text) :
    ∀ type ∈ spellings.map typeOf, type.Regular :=
  List.forall_mem_map.mpr fun spelling _ => typeOf_regular spelling

theorem fillers?_regular {count : Nat} {native? : Option Text} {fillers : List SlotType}
    (found : fillers? count native? = some fillers) : ∀ filler ∈ fillers, filler.Regular := by
  unfold fillers? at found
  split at found
  · rename_i spellings _
    split at found
    · rw [← Option.some.inj found]
      exact map_typeOf_regular spellings
    · contradiction
  · contradiction

/-- An argument without a type is filled with a type that is regular as well. -/
theorem argumentTypes_regular (items : List Text) (native? : Option Text) :
    ∀ argument ∈ argumentTypes items native?, argument.Regular := by
  unfold argumentTypes
  split
  · rename_i fillers found
    rw [← List.map_uncurry_zip_eq_zipWith, List.forall_mem_map]
    rintro ⟨filler, item⟩ paired
    exact argumentType_regular (fillers?_regular found filler (List.of_mem_zip paired).1) item
  · exact List.forall_mem_map.mpr fun item _ => argumentType_regular .unknown item

end Overload

namespace Signature

/-- The argument list that an argument slot stands for. -/
def argumentList : SlotType → List SlotType
  | .absent => []
  | .tuple _ elements => elements
  | argument => [argument]

theorem argumentList_argumentSlot {arguments : List SlotType} (collapsed : arguments ≠ [.absent]) :
    argumentList (argumentSlot arguments) = arguments := by
  match arguments with
  | [] => rfl
  | [argument] =>
      -- A lone tuple is a group, so the tuple of the slot is another one around it.
      cases argument with
      | absent => contradiction
      | function | scalar _ | object _ | tuple _ _ | sequence _ => rfl
  | _ :: _ :: _ => rfl

/-- Two argument lists of one signature are the same list. -/
theorem eq_of_ofArguments_eq {result : SlotType} {arguments others : List SlotType}
    (collapsed : arguments ≠ [.absent]) (collapsedOthers : others ≠ [.absent])
    (same : ofArguments result arguments = ofArguments result others) : arguments = others :=
  calc
    arguments = argumentList (ofArguments result arguments).arguments :=
      (argumentList_argumentSlot collapsed).symm
    _ = argumentList (ofArguments result others).arguments := by rw [same]
    _ = others := argumentList_argumentSlot collapsedOthers

theorem arity_ofArguments {result : SlotType} {arguments : List SlotType}
    (collapsed : arguments ≠ [.absent]) :
    (ofArguments result arguments).arity = arguments.length := by
  match arguments with
  | [] => rfl
  | [argument] =>
      cases argument with
      | absent => contradiction
      | function | scalar _ | object _ | tuple _ _ | sequence _ => rfl
  | _ :: _ :: _ => rfl

theorem argumentSlot_regular {arguments : List SlotType}
    (regular : ∀ argument ∈ arguments, argument.Regular) : (argumentSlot arguments).Regular := by
  unfold argumentSlot
  split
  · exact .absent
  · split
    · exact .tuple regular
    · exact List.forall_mem_singleton.mp regular
  · exact .tuple regular

/-- The argument slots that argument lists are written as. -/
inductive ArgumentForm : SlotType → Prop where
  | nothing : ArgumentForm .absent
  | single {argument : SlotType} (present : argument ≠ .absent)
      (lone : argument.isGroup = false) : ArgumentForm argument
  | grouped {group : SlotType} (isGroup : group.isGroup = true) : ArgumentForm (.tuple 1 [group])
  | several {arity : Nat} {elements : List SlotType} (many : 2 ≤ arity) :
      ArgumentForm (.tuple arity elements)

theorem argumentForm_argumentSlot {arguments : List SlotType} (collapsed : arguments ≠ [.absent]) :
    ArgumentForm (argumentSlot arguments) := by
  match arguments with
  | [] => exact .nothing
  | [argument] =>
      rw [argumentSlot]
      split
      case isTrue isGroup => exact .grouped isGroup
      case isFalse lone =>
        refine .single ?_ (Bool.eq_false_iff.mpr lone)
        rintro rfl
        exact collapsed rfl
  | first :: second :: others => exact .several (by simp)

/-- A signature in normal form. -/
structure Normal (signature : Signature) : Prop where
  /-- The type of the result is regular. -/
  result : signature.result.Regular
  /-- The types of the arguments are regular. -/
  arguments : signature.arguments.Regular
  /-- The arguments are written as argument lists are. -/
  form : ArgumentForm signature.arguments
  /-- One argument list makes the signature, a lone absent argument apart. -/
  reading : ∃! arguments : List SlotType,
    arguments ≠ [.absent] ∧ signature = .ofArguments signature.result arguments
  /-- The arity is the length of that list. -/
  arity : ∀ arguments : List SlotType, arguments ≠ [.absent] →
    signature = .ofArguments signature.result arguments → signature.arity = arguments.length

theorem ofArguments_normal {result : SlotType} {arguments : List SlotType}
    (regularResult : result.Regular) (regular : ∀ argument ∈ arguments, argument.Regular)
    (collapsed : arguments ≠ [.absent]) : (ofArguments result arguments).Normal where
  result := regularResult
  arguments := argumentSlot_regular regular
  form := argumentForm_argumentSlot collapsed
  reading :=
    ⟨arguments, ⟨collapsed, rfl⟩, fun _ other =>
      eq_of_ofArguments_eq other.1 collapsed other.2.symm⟩
  arity := fun _ collapsedOther same =>
    (congrArg Signature.arity same).trans (arity_ofArguments collapsedOther)

end Signature

namespace Overload

open Signature

theorem ofArguments_collapseAbsent_normal {result : SlotType} {arguments : List SlotType}
    (regularResult : result.Regular) (regular : ∀ argument ∈ arguments, argument.Regular) :
    (ofArguments result (collapseAbsent arguments)).Normal :=
  ofArguments_normal regularResult
    (fun argument member => regular argument (mem_of_mem_collapseAbsent member))
    (collapseAbsent_ne arguments)

theorem scriptedSignature?_normal {scripted : Text} {native? : Option Text} {signature : Signature}
    (found : scriptedSignature? scripted native? = some signature) : signature.Normal := by
  unfold scriptedSignature? at found
  split at found
  · contradiction
  · split at found
    · contradiction
    · rename_i inside after _
      rw [← Option.some.inj found]
      exact ofArguments_collapseAbsent_normal (arrowResult_regular after)
        (argumentTypes_regular (argumentItems inside) native?)

theorem nativeSignature?_normal {native : Text} {signature : Signature}
    (found : nativeSignature? native = some signature) : signature.Normal := by
  unfold nativeSignature? at found
  split at found
  · contradiction
  · rename_i spellings _
    rw [← Option.some.inj found]
    exact ofArguments_collapseAbsent_normal (nativeResult_regular _) (map_typeOf_regular spellings)

/-- The signature of an overload is in normal form, whichever rendering it is read from. -/
theorem signature?_normal {overload : Overload} {signature : Signature}
    (found : overload.signature? = some signature) : signature.Normal := by
  unfold signature? at found
  split at found
  · exact scriptedSignature?_normal found
  · exact nativeSignature?_normal found
  · contradiction

end Overload

namespace Signature

/-- Every signature that a documentation text states is in normal form. -/
theorem ofDocumentation_normal (documentation : Text) :
    ∀ signature ∈ ofDocumentation documentation, signature.Normal := by
  intro signature member
  rcases List.mem_filterMap.mp member with ⟨overload, _, found⟩
  exact Overload.signature?_normal found

/-- A line with a group, a class name and an array of arrays among its arguments. -/
def rangeLine : Text :=
  "V.SetRange((float, float), vtkCommand.EventIds, int[2][]) -> Tuple[int]".toList

/-- The signature that the line documents. -/
def rangeSignature : Signature where
  result := .tuple 1 [.scalar "int".toList]
  arguments := .tuple 3
    [.tuple 2 [.scalar "float".toList, .scalar "float".toList],
      .object "vtkCommand.EventIds".toList,
      .tuple 2 [.sequence [.scalar "int".toList], .sequence [.scalar "int".toList]]]

theorem ofDocumentation_normal_range :
    ofDocumentation rangeLine = [rangeSignature] ∧ rangeSignature.Normal := by
  have documented : ofDocumentation rangeLine = [rangeSignature] := by decide +kernel
  refine ⟨documented, ofDocumentation_normal rangeLine rangeSignature ?_⟩
  rw [documented]
  exact List.mem_singleton_self rangeSignature

end Signature

end MethodRoles
