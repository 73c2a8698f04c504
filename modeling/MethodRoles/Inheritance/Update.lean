import MethodRoles.Inheritance.Registry

/-!
# Calls that change a forest or a registry

A class is added to a forest in steps: its parent is looked up, the class is put
in without a parent, and then it is put under its parent.  A forest of many classes
is built with the same steps in another order: all classes are put in before any is
put under its parent.  A registry changes its forest first and its own list
afterwards.  Any step may fail, and what the steps before it have changed stays
changed, so a call leaves a state behind whatever becomes of it.
-/

namespace MethodRoles

/-- A call that may fail and leaves a state behind in either case. -/
abbrev Update (State : Type) : Type → Type :=
  ExceptT InheritanceError (StateM State)

namespace Update

variable {State Result : Type}

/-- What becomes of a call, and the state that it leaves. -/
def call (update : Update State Result) (state : State) :
    Except InheritanceError Result × State :=
  (update.run.run state).run

/-- Make some calls in turn, each on the state that the one before it has left. -/
def callAll : List (Update State Result) → State →
    List (Except InheritanceError Result) × State
  | [], state => ([], state)
  | update :: others, state =>
      let (outcome, next) := update.call state
      let (outcomes, last) := callAll others next
      (outcome :: outcomes, last)

@[simp]
theorem call_pure (result : Result) (state : State) :
    (pure result : Update State Result).call state = (.ok result, state) :=
  rfl

@[simp]
theorem call_get (state : State) : (get : Update State State).call state = (.ok state, state) :=
  rfl

@[simp]
theorem call_set (next state : State) :
    (set next : Update State PUnit).call state = (.ok ⟨⟩, next) :=
  rfl

@[simp]
theorem call_modify (change : State → State) (state : State) :
    (modify change : Update State PUnit).call state = (.ok ⟨⟩, change state) :=
  rfl

@[simp]
theorem call_throw (error : InheritanceError) (state : State) :
    (throw error : Update State Result).call state = (.error error, state) :=
  rfl

/-- A call that goes on after another one starts with what that one leaves, or fails with it. -/
theorem call_bind {Next : Type} (update : Update State Result)
    (continuation : Result → Update State Next) (state : State) :
    (update >>= continuation).call state =
      match update.call state with
      | (.ok result, later) => (continuation result).call later
      | (.error error, later) => (.error error, later) := by
  unfold call ExceptT.run StateT.run Id.run
  simp only [bind, ExceptT.bind, ExceptT.mk, StateT.bind, ExceptT.bindCont]
  cases update state with
  | mk outcome later => cases outcome <;> rfl

/-- A call that fails is not gone on with. -/
theorem call_bind_of_error {Next : Type} {update : Update State Result} {state : State}
    {error : InheritanceError} (failed : (update.call state).1 = .error error)
    (continuation : Result → Update State Next) :
    ((update >>= continuation).call state).1 = .error error := by
  rw [call_bind]
  rcases called : update.call state with ⟨outcome, later⟩
  rw [called] at failed
  cases failed
  rfl

end Update

namespace Forest

/-- Put in a class without a parent. -/
def addRoot (className : Text) : Update Forest Unit := do
  let forest ← get
  if forest.contains className then
    throw (.duplicateClass className)
  set (Forest.mk (forest.links ++ [⟨className, none⟩]))

/-- Put a class under a parent. -/
def attach (className parent : Text) (forest : Forest) : Forest :=
  ⟨forest.links.map fun link =>
    if link.name = className then ⟨className, some parent⟩ else link⟩

/-- Add a class step by step. -/
def addClass (className : Text) : (parent? : Option Text) → Update Forest Unit
  | none => addRoot className
  | some parent => do
      let forest ← get
      if !forest.contains parent then
        throw (.unknownParent className parent)
      addRoot className
      modify (attach className parent)

/-- Put a class that is there under its parent, if it has one. -/
def attachLink (link : ClassLink) : Update Forest Unit :=
  match link.parent? with
  | none => pure ()
  | some parent => do
      let forest ← get
      if !forest.contains parent then
        throw (.unknownParent link.name parent)
      modify (attach link.name parent)

/--
Build a forest of some classes in any order.  First all classes are put in, then each
is put under its parent, and the circles are looked for at the end.
-/
def build (isCyclic : Forest → Bool) (links : List ClassLink) : Update Forest Unit := do
  forM links fun link => addRoot link.name
  forM links attachLink
  let forest ← get
  if isCyclic forest then
    throw (.cycle ((links.head?.map ClassLink.name).getD []))

end Forest

namespace Registry

variable {Object : Type}

/-- Make a call on the forest of a registry. -/
def onForest {Result : Type} (update : Update Forest Result) :
    Update (Registry Object) Result :=
  ExceptT.mk fun registry =>
    let (outcome, forest) := update.call registry.forest
    (outcome, ⟨registry.records, forest⟩)

/-- Register a class step by step. -/
def registerClass (record : ClassRecord Object) : Update (Registry Object) Unit := do
  let registry ← get
  if registry.contains record.name then
    throw (.duplicateClass record.name)
  onForest (Forest.addClass record.name record.parent?)
  modify fun registry => ⟨registry.records ++ [record], registry.forest⟩

/-- What becomes of registering some classes in turn, and the registry that is left. -/
def registerAll (records : List (ClassRecord Object)) :
    List (Except InheritanceError Unit) × Registry Object :=
  Update.callAll (records.map registerClass) empty

end Registry

end MethodRoles
