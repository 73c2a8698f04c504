import MethodRoles.Inheritance.MethodIndex
import MethodRoles.Proofs.Inheritance.Overlay

/-!
# Looking methods up by their places

The places that are noted are in step with the list of methods when exactly the names of
the list have one, and each the place where it stands.  Declaring a method keeps the two in
step and goes to no place behind the end (`MethodIndex.InStep.declare`).

So a class that is built by any calls of the builder lists every declared method once, in
the order of the first declarations and as it was declared last, and it answers every
question about a method as a search of that list does (`IndexedClass.build_answers`).
-/

namespace MethodRoles

/-! ## Declaring in the list -/

namespace ClassRecord

variable {entry old other : MethodEntry} {methods : List MethodEntry}

theorem declareIn_eq_append (new : entry.name ∉ methods.map MethodEntry.name) :
    declareIn entry methods = methods ++ [entry] := by
  induction methods with
  | nil => rfl
  | cons first others induction =>
      rw [List.map_cons, List.mem_cons, not_or] at new
      rw [declareIn, if_neg (Ne.symm new.1), induction new.2, List.cons_append]

section Distinct

variable (distinct : (methods.map MethodEntry.name).Nodup)

include distinct

theorem declareIn_eq_set {place : Nat} (found : methods[place]? = some old)
    (same : old.name = entry.name) : declareIn entry methods = methods.set place entry := by
  induction methods generalizing place with
  | nil => simp at found
  | cons first others induction =>
      rw [List.map_cons, List.nodup_cons] at distinct
      cases place with
      | zero =>
          cases Option.some.inj found
          rw [declareIn, if_pos same, List.set_cons_zero]
      | succ place =>
          rw [List.getElem?_cons_succ] at found
          have differs : first.name ≠ entry.name := by
            intro equal
            rw [equal, ← same] at distinct
            exact distinct.1 (List.mem_map_of_mem (List.mem_of_getElem? found))
          rw [declareIn, if_neg differs, induction distinct.2 found, List.set_cons_succ]

/-- Behind a declaration every method is the declared one or has another name. -/
theorem mem_declareIn (member : other ∈ declareIn entry methods) :
    other = entry ∨ other ∈ methods ∧ other.name ≠ entry.name := by
  induction methods with
  | nil => exact .inl (List.mem_singleton.mp member)
  | cons first others induction =>
      rw [List.map_cons, List.nodup_cons] at distinct
      rw [declareIn] at member
      split at member
      case isTrue same =>
        rcases List.mem_cons.mp member with rfl | later
        · exact .inl rfl
        · refine .inr ⟨List.mem_cons_of_mem first later, fun equal => distinct.1 ?_⟩
          rw [same, ← equal]
          exact List.mem_map_of_mem later
      case isFalse differs =>
        rcases List.mem_cons.mp member with rfl | later
        · exact .inr ⟨List.mem_cons_self, differs⟩
        · rcases induction distinct.2 later with rfl | ⟨before, apart⟩
          · exact .inl rfl
          · exact .inr ⟨List.mem_cons_of_mem first before, apart⟩

end Distinct

end ClassRecord

/-- A list holds the methods of some declarations, made one after the other. -/
structure HoldsDeclared (methods declared : List MethodEntry) : Prop where
  /-- No name occurs twice, -/
  distinct : (methods.map MethodEntry.name).Nodup
  /-- the names are those of the declarations, in the order of their first ones, -/
  names_eq : methods.map MethodEntry.name = Text.distinct (declared.map MethodEntry.name)
  /-- and each method is as its last declaration says. -/
  last : ∀ entry ∈ methods, ∃ before after,
    declared = before ++ entry :: after ∧ entry.name ∉ after.map MethodEntry.name

theorem HoldsDeclared.nil : HoldsDeclared [] [] where
  distinct := List.nodup_nil
  names_eq := rfl
  last := nofun

theorem HoldsDeclared.declareIn {methods declared : List MethodEntry}
    (holds : HoldsDeclared methods declared) (entry : MethodEntry) :
    HoldsDeclared (ClassRecord.declareIn entry methods) (declared ++ [entry]) := by
  have names : (ClassRecord.declareIn entry methods).map MethodEntry.name =
      Text.distinct ((declared ++ [entry]).map MethodEntry.name) := by
    rw [ClassRecord.names_declareIn, holds.names_eq, List.map_append, List.map_singleton,
      Text.distinct_append_singleton]
    simp only [Text.mem_distinct]
  constructor
  case distinct =>
    rw [names]
    exact Text.nodup_distinct _
  case names_eq => exact names
  case last =>
    intro other member
    rcases ClassRecord.mem_declareIn holds.distinct member with rfl | ⟨earlier, differs⟩
    · exact ⟨declared, [], rfl, List.not_mem_nil⟩
    · rcases holds.last other earlier with ⟨before, after, rfl, silent⟩
      refine ⟨before, after ++ [entry], List.append_assoc _ _ _, ?_⟩
      rw [List.map_append, List.mem_append, not_or, List.map_singleton, List.mem_singleton]
      exact ⟨silent, differs⟩

/-! ## Places in step with the list -/

namespace MethodIndex

/-- A place is noted for a name exactly if a method of that name stands there. -/
structure InStep (index : MethodIndex) : Prop where
  place_iff : ∀ {name : Text} {place : Nat},
    index.places[name]? = some place ↔ index.names[place]? = some name

variable {index : MethodIndex} {entry : MethodEntry} {name : Text} {place : Nat}

theorem InStep.empty : MethodIndex.empty.InStep where
  place_iff := by simp [MethodIndex.empty, names]

section InStep

variable (inStep : index.InStep)

include inStep

theorem InStep.nodup_names : index.names.Nodup := by
  rw [List.nodup_iff_getElem?_ne_getElem?]
  intro earlier later before inside same
  have found := List.getElem?_eq_getElem inside
  have first := inStep.place_iff.mpr (same.trans found)
  rw [inStep.place_iff.mpr found] at first
  exact Nat.ne_of_gt before (Option.some.inj first)

/-- Where a place is noted, the method of that name stands. -/
theorem InStep.exists_entry (noted : index.places[name]? = some place) :
    ∃ entry, index.entries[place]? = some entry ∧ entry.name = name := by
  have stands := inStep.place_iff.mp noted
  rw [names, List.getElem?_map, Option.map_eq_some_iff] at stands
  exact stands

theorem InStep.not_mem_names (unknown : index.places[name]? = none) : name ∉ index.names := by
  intro member
  rcases List.mem_iff_getElem?.mp member with ⟨place, stands⟩
  rw [inStep.place_iff.mpr stands] at unknown
  contradiction

/-! ## Declarations -/

theorem InStep.replaceAt (noted : index.places[entry.name]? = some place) :
    InStep ⟨index.entries.set place entry, index.places⟩ where
  place_iff := by
    intro name other
    -- The name at the place is the one that stood there before, so no name moves.
    have kept : (index.entries.set place entry).map MethodEntry.name = index.names := by
      rcases inStep.exists_entry noted with ⟨old, stands, same⟩
      rcases List.getElem?_eq_some_iff.mp stands with ⟨inside, rfl⟩
      rw [List.map_set, ← same, ← List.getElem_map MethodEntry.name (h := by simpa using inside),
        List.set_getElem_self, names]
    rw [inStep.place_iff, ← kept]
    rfl

theorem InStep.append (unknown : index.places[entry.name]? = none) :
    (index.append entry).InStep where
  place_iff := by
    intro name place
    have new := inStep.not_mem_names unknown
    have names_eq : (index.append entry).names = index.names ++ [entry.name] := by
      simp [MethodIndex.append, names]
    have length : index.names.length = index.entries.length := List.length_map _
    rw [names_eq, MethodIndex.append, Std.HashMap.getElem?_insert]
    by_cases same : entry.name = name
    · subst same
      rw [if_pos (beq_self_eq_true _), Option.some.injEq, ← length]
      constructor
      · rintro rfl
        exact List.getElem?_concat_length
      · intro stands
        by_contra elsewhere
        rw [List.getElem?_append] at stands
        split at stands
        case isTrue => exact new (List.mem_of_getElem? stands)
        case isFalse behind =>
          have inside := (List.getElem?_eq_some_iff.mp stands).1
          rw [List.length_singleton] at inside
          omega
    · rw [if_neg (by simpa using same), inStep.place_iff, List.getElem?_append]
      split
      case isTrue => rfl
      case isFalse behind =>
        rw [List.getElem?_eq_none (Nat.le_of_not_lt behind), List.getElem?_singleton]
        split <;> simp [same]

/-- Declaring a method goes to no place behind the end and keeps list and places in step. -/
theorem InStep.declare (entry : MethodEntry) :
    ∃ later, index.declare entry = .ok later ∧ later.InStep ∧
      later.entries = ClassRecord.declareIn entry index.entries := by
  rw [MethodIndex.declare]
  cases noted : index.places[entry.name]? with
  | some place =>
      rcases inStep.exists_entry noted with ⟨old, stands, same⟩
      have inside := (List.getElem?_eq_some_iff.mp stands).1
      refine ⟨⟨index.entries.set place entry, index.places⟩, ?_, inStep.replaceAt noted,
        (ClassRecord.declareIn_eq_set inStep.nodup_names stands same).symm⟩
      simp only [MethodIndex.replaceAt, if_pos inside]
  | none =>
      exact ⟨index.append entry, rfl, inStep.append noted,
        (ClassRecord.declareIn_eq_append (inStep.not_mem_names noted)).symm⟩

/-! ## Questions -/

/-- The method at the noted place is the one that a search finds. -/
theorem InStep.method?_eq (name : Text) :
    index.method? name = .ok (index.entries.find? fun entry => entry.name == name) := by
  rw [method?]
  cases noted : index.places[name]? with
  | some place =>
      rcases inStep.exists_entry noted with ⟨entry, stands, same⟩
      have found : index.entries.find? (fun other => other.name == name) = some entry :=
        (Text.find?_eq_some_iff_of_nodup inStep.nodup_names).mpr
          ⟨List.mem_of_getElem? stands, same⟩
      simp only [entryAt, stands, found]
      rfl
  | none =>
      have missing : index.entries.find? (fun other => other.name == name) = none := by
        rw [List.find?_eq_none]
        intro other member
        rw [beq_iff_eq]
        rintro rfl
        exact inStep.not_mem_names noted (List.mem_map_of_mem member)
      rw [missing]

theorem InStep.hasMethod_eq (name : Text) :
    index.hasMethod name = (index.entries.find? fun entry => entry.name == name).isSome := by
  rw [hasMethod, Std.HashMap.contains_eq_isSome_getElem?, Bool.eq_iff_iff,
    Option.isSome_iff_exists, List.find?_isSome]
  simp only [inStep.place_iff, ← List.mem_iff_getElem?, names, List.mem_map, beq_iff_eq]

end InStep

/-- Every question about a method is answered as by a search of the list. -/
structure AnswersAsSearch (index : MethodIndex) : Prop where
  /-- The entry of a method, -/
  method?_eq : ∀ name,
    index.method? name = .ok (index.entries.find? fun entry => entry.name == name)
  /-- its documentation, -/
  documentation?_eq : ∀ name, index.documentation? name =
    .ok ((index.entries.find? fun entry => entry.name == name).map MethodEntry.documentation)
  /-- and whether it is there. -/
  hasMethod_eq : ∀ name,
    index.hasMethod name = (index.entries.find? fun entry => entry.name == name).isSome

theorem InStep.answersAsSearch (inStep : index.InStep) : index.AnswersAsSearch where
  method?_eq := inStep.method?_eq
  documentation?_eq := by
    intro name
    rw [documentation?, inStep.method?_eq]
    rfl
  hasMethod_eq := inStep.hasMethod_eq

end MethodIndex

/-! ## Classes that are built -/

namespace IndexedClass

variable {Object : Type} {indexed : IndexedClass Object} {record : ClassRecord Object}
  {declared : List MethodEntry}

/-- A class with noted places stands for one that is searched, after some declarations. -/
structure StandsFor (indexed : IndexedClass Object) (record : ClassRecord Object)
    (declared : List MethodEntry) : Prop where
  record_eq : indexed.toRecord = record
  inStep : indexed.index.InStep
  holds : HoldsDeclared record.methods declared

theorem StandsFor.named (name : Text) :
    StandsFor (.named name : IndexedClass Object) (.named name) [] :=
  ⟨rfl, .empty, .nil⟩

/-- No call of the builder fails, and it does the same to the class that is searched. -/
theorem StandsFor.after (standsFor : indexed.StandsFor record declared)
    (call : BuilderCall Object) :
    ∃ later, indexed.after call = .ok later ∧
      later.StandsFor (record.after call) (declared ++ call.entry?.toList) := by
  rcases standsFor with ⟨rfl, inStep, holds⟩
  cases call with
  | declare entry =>
      rcases inStep.declare entry with ⟨index, declares, inStepToo, entries⟩
      refine ⟨{ indexed with index }, ?_, ?_, inStepToo, holds.declareIn entry⟩
      · rw [IndexedClass.after, declares]
        rfl
      · simp only [toRecord, ClassRecord.after, ClassRecord.declare, entries]
  | withParent parent =>
      refine ⟨{ indexed with parent? := some parent }, rfl, rfl, inStep, ?_⟩
      change HoldsDeclared indexed.index.entries (declared ++ [])
      rw [List.append_nil]
      exact holds
  | concrete object =>
      refine ⟨{ indexed with object? := some object }, rfl, rfl, inStep, ?_⟩
      change HoldsDeclared indexed.index.entries (declared ++ [])
      rw [List.append_nil]
      exact holds

theorem StandsFor.foldlM_after (standsFor : indexed.StandsFor record declared)
    (calls : List (BuilderCall Object)) :
    ∃ built, calls.foldlM IndexedClass.after indexed = .ok built ∧
      built.StandsFor (calls.foldl ClassRecord.after record)
        (declared ++ calls.filterMap BuilderCall.entry?) := by
  induction calls generalizing indexed record declared with
  | nil =>
      refine ⟨indexed, rfl, ?_⟩
      rw [List.filterMap_nil, List.append_nil]
      exact standsFor
  | cons call calls induction =>
      rcases standsFor.after call with ⟨later, called, standsForToo⟩
      rcases induction standsForToo with ⟨built, run, final⟩
      refine ⟨built, ?_, ?_⟩
      · rw [List.foldlM_cons, called]
        exact run
      · have calls_eq : (call :: calls).filterMap BuilderCall.entry? =
            call.entry?.toList ++ calls.filterMap BuilderCall.entry? := by
          rw [List.filterMap_cons]
          cases call.entry? <;> rfl
        rw [calls_eq, ← List.append_assoc]
        exact final

/--
Building a class by any calls succeeds.  Its methods are those that the calls declare, and
questions about them are answered by their places as by a search.
-/
theorem build_answers (name : Text) (calls : List (BuilderCall Object)) :
    ∃ built, build name calls = .ok built ∧ built.toRecord = .build name calls ∧
      HoldsDeclared built.index.entries (calls.filterMap BuilderCall.entry?) ∧
      built.index.InStep ∧ built.index.AnswersAsSearch := by
  rcases (StandsFor.named name).foldlM_after calls with ⟨built, run, record_eq, inStep, holds⟩
  rw [List.nil_append, ← record_eq] at holds
  exact ⟨built, run, record_eq, holds, inStep, inStep.answersAsSearch⟩

end IndexedClass

end MethodRoles
