import MethodRoles.Proofs.Role.Probing

/-!
# How the options of a state are tried

`Probe.Protocol` says in what order the methods of an object are called when the options
of a state are read, whatever the object answers and however the calls change it.  The
getter comes first.  If it tells no number, nothing else is called.  Otherwise every
selector is set in turn, and the getter is asked again after each that succeeds.  At the
end the earliest option that has the code of the start is set once more, if there is one.

Reading the options of a recorded object makes exactly these calls and gives exactly the
options of the protocol (`Probe.readOptions_protocol`).
-/

namespace MethodRoles

namespace Probe

variable {Object : Type} [Probeable Object]

/--
The code that an outcome of a getter tells: a whole number tells itself and a truth value
one or zero.  Any other value tells none, and neither does a failure.
-/
def codeOf : Except CallError Value → Resolution Int
  | .ok (.int number) => .known number
  | .ok (.bool true) => .known 1
  | .ok (.bool false) => .known 0
  | _ => .unresolved

/-- The code is what the value is when it is read as a whole number. -/
theorem codeOf_ok (value : Value) : codeOf (.ok value) = .ofOption value.asInt? := by
  cases value with
  | bool truth => cases truth <;> rfl
  | _ => rfl

/-- What is called to try one option, the code that it is found to have, and the object left. -/
inductive Trial (getter : Text) (selector : Selector) (before : Object) :
    Resolution Int → List Call → Object → Prop where
  /-- A selector that fails is the only call. -/
  | refused {error : CallError} {after : Object}
      (failed : Probeable.set selector.method before = (.error error, after)) :
      Trial getter selector before .unresolved
        [.set (Probeable.className before) selector.method] after
  /-- After a selector that succeeds the getter tells the code. -/
  | selected {between after : Object} {outcome : Except CallError Value}
      (succeeded : Probeable.set selector.method before = (.ok (), between))
      (asked : Probeable.get getter between = (outcome, after)) :
      Trial getter selector before (codeOf outcome)
        [.set (Probeable.className before) selector.method,
          .get (Probeable.className between) getter] after

/-- Options are tried one after the other, each on the object that the one before has left. -/
inductive Trials (getter : Text) :
    Object → List (Selector × Resolution Int) → List Call → Object → Prop where
  | done (object : Object) : Trials getter object [] [] object
  | next {before between after : Object} {selector : Selector} {code : Resolution Int}
      {tried : List (Selector × Resolution Int)} {calls others : List Call}
      (trial : Trial getter selector before code calls between)
      (trials : Trials getter between tried others after) :
      Trials getter before ((selector, code) :: tried) (calls ++ others) after

/-- The options that reading a state gives, the calls that it makes, and the object left. -/
inductive Protocol (getter : Text) (selectors : List Selector) (start : Object) :
    List StateOption → List Call → Object → Prop where
  /-- A getter that tells no number is the only call. -/
  | unreadable {outcome : Except CallError Value} {after : Object}
      (asked : Probeable.get getter start = (outcome, after))
      (unknown : codeOf outcome = .unresolved) :
      Protocol getter selectors start
        (selectors.map fun selector => ⟨selector.option, .unresolved⟩)
        [.get (Probeable.className start) getter] after
  /-- Without an option that has the starting code nothing is put back. -/
  | unmatched {outcome : Except CallError Value} {code : Int} {between after : Object}
      {tried : List (Selector × Resolution Int)} {calls : List Call}
      (asked : Probeable.get getter start = (outcome, between))
      (known : codeOf outcome = .known code)
      (trials : Trials getter between tried calls after)
      (declared : tried.map Prod.fst = selectors)
      (differ : ∀ option ∈ tried, option.2 ≠ .known code) :
      Protocol getter selectors start
        (tried.map fun option => ⟨option.1.option, option.2⟩)
        (.get (Probeable.className start) getter :: calls) after
  /-- The earliest option with the starting code is set again and stands in front. -/
  | restored {outcome : Except CallError Value} {code : Int} {between last after : Object}
      {earlier later : List (Selector × Resolution Int)} {active : Selector × Resolution Int}
      {calls : List Call} {result : Except CallError Unit}
      (asked : Probeable.get getter start = (outcome, between))
      (known : codeOf outcome = .known code)
      (trials : Trials getter between (earlier ++ active :: later) calls last)
      (declared : (earlier ++ active :: later).map Prod.fst = selectors)
      (same : active.2 = .known code)
      (differ : ∀ option ∈ earlier, option.2 ≠ .known code)
      (putBack : Probeable.set active.1.method last = (result, after)) :
      Protocol getter selectors start
        ((active :: (earlier ++ later)).map fun option => ⟨option.1.option, option.2⟩)
        (.get (Probeable.className start) getter :: calls ++
          [.set (Probeable.className last) active.1.method]) after

/-! ## Single calls -/

theorem readCode_recorded {getter : Text} {before after : Object}
    {outcome : Except CallError Value} (asked : Probeable.get getter before = (outcome, after))
    (log : List Call) :
    readCode getter (some (⟨before, log⟩ : Recorded Object)) =
      (codeOf outcome, some ⟨after, log ++ [.get (Probeable.className before) getter]⟩) := by
  have recorded : Probeable.get getter (⟨before, log⟩ : Recorded Object) =
      (outcome, ⟨after, log ++ [.get (Probeable.className before) getter]⟩) := by
    simp only [Probeable.get, asked]
  rw [readCode, Probe.get, recorded]
  cases outcome with
  | error error => rfl
  | ok value =>
      rw [codeOf_ok]
      rfl

theorem set_recorded {setter : Text} {before after : Object} {outcome : Except CallError Unit}
    (called : Probeable.set setter before = (outcome, after)) (log : List Call) :
    Probe.set setter (some (⟨before, log⟩ : Recorded Object)) =
      (outcome.isOk, some ⟨after, log ++ [.set (Probeable.className before) setter]⟩) := by
  have recorded : Probeable.set setter (⟨before, log⟩ : Recorded Object) =
      (outcome, ⟨after, log ++ [.set (Probeable.className before) setter]⟩) := by
    simp only [Probeable.set, called]
  rw [Probe.set, recorded]
  cases outcome <;> rfl

/-! ## Single options -/

section Trial

variable {getter : Text} {selector : Selector} {before after : Object} {code : Resolution Int}
  {calls : List Call}

theorem Trial.readOption (trial : Trial getter selector before code calls after)
    (log : List Call) :
    Probe.readOption getter selector (some (⟨before, log⟩ : Recorded Object)) =
      ((selector, code), some ⟨after, log ++ calls⟩) := by
  rw [Probe.readOption]
  cases trial with
  | refused failed =>
      rw [set_recorded failed]
      rfl
  | selected succeeded asked =>
      rw [set_recorded succeeded]
      simp only [Except.isOk, Except.toBool, readCode_recorded asked, List.append_assoc,
        List.cons_append, List.nil_append]

theorem Trial.exists (getter : Text) (selector : Selector) (before : Object) :
    ∃ code calls after, Trial getter selector before code calls after := by
  rcases called : Probeable.set selector.method before with ⟨error | ⟨⟩, between⟩
  · exact ⟨_, _, _, .refused called⟩
  · exact ⟨_, _, _, .selected called rfl⟩

end Trial

/-! ## All options -/

theorem Trials.readEach {getter : Text} {before after : Object}
    {tried : List (Selector × Resolution Int)} {calls : List Call}
    (trials : Trials getter before tried calls after) (log : List Call) :
    MethodRoles.readEach (Probe.readOption getter) (tried.map Prod.fst)
        (some (⟨before, log⟩ : Recorded Object)) =
      (tried, some ⟨after, log ++ calls⟩) := by
  induction trials generalizing log with
  | done object => simp [MethodRoles.readEach]
  | next trial _ induction =>
      rw [List.map_cons, MethodRoles.readEach, trial.readOption]
      simp only [induction, List.append_assoc]

theorem Trials.exists (getter : Text) (selectors : List Selector) (before : Object) :
    ∃ tried calls after, Trials getter before tried calls after ∧
      tried.map Prod.fst = selectors := by
  induction selectors generalizing before with
  | nil => exact ⟨[], [], before, .done before, rfl⟩
  | cons selector selectors induction =>
      rcases Trial.exists getter selector before with ⟨code, calls, between, trial⟩
      rcases induction between with ⟨tried, others, after, trials, declared⟩
      refine ⟨_, _, after, .next trial trials, ?_⟩
      rw [List.map_cons, declared]

section Protocol

variable {getter : Text} {selectors : List Selector} {start after : Object}
  {options : List StateOption} {calls : List Call}

/-- Reading the options follows the protocol. -/
theorem Protocol.readOptions (protocol : Protocol getter selectors start options calls after)
    (log : List Call) :
    Probe.readOptions getter selectors (some (⟨start, log⟩ : Recorded Object)) =
      (options, some ⟨after, log ++ calls⟩) := by
  rw [Probe.readOptions_eq]
  cases protocol with
  | unreadable asked unknown =>
      rw [readCode_recorded asked, unknown]
      rfl
  | unmatched asked known trials declared differ =>
      rw [readCode_recorded asked, known, ← declared]
      simp only [trials.readEach, restore, splitActive?_eq_none_iff.mpr differ, stateOptions,
        List.append_assoc, List.cons_append, List.nil_append]
  | restored asked known trials declared same differ putBack =>
      rw [readCode_recorded asked, known, ← declared]
      simp only [trials.readEach, restore, splitActive?_append same differ, set_recorded putBack,
        stateOptions, List.append_assoc, List.cons_append, List.nil_append]

/-- The protocol says what to do on every object. -/
theorem Protocol.exists (getter : Text) (selectors : List Selector) (start : Object) :
    ∃ options calls after, Protocol getter selectors start options calls after := by
  rcases asked : Probeable.get getter start with ⟨outcome, between⟩
  rcases known : codeOf outcome with code | _
  · rcases Trials.exists getter selectors between with ⟨tried, calls, last, trials, declared⟩
    rcases split : splitActive? code tried with _ | ⟨active, others⟩
    · exact ⟨_, _, _, .unmatched asked known trials declared (splitActive?_eq_none_iff.mp split)⟩
    · rcases eq_of_splitActive? split with ⟨earlier, later, rfl, -, same, differ⟩
      exact ⟨_, _, _, .restored asked known trials declared same differ rfl⟩
  · exact ⟨_, _, _, .unreadable asked known⟩

theorem Protocol.unique (protocol : Protocol getter selectors start options calls after)
    {otherOptions : List StateOption} {otherCalls : List Call} {otherAfter : Object}
    (other : Protocol getter selectors start otherOptions otherCalls otherAfter) :
    otherOptions = options ∧ otherCalls = calls ∧ otherAfter = after := by
  have same := (other.readOptions []).symm.trans (protocol.readOptions [])
  simpa [and_comm] using same

/-- No option is lost and none is doubled. -/
theorem Protocol.movedToFront (protocol : Protocol getter selectors start options calls after) :
    MovedToFront (selectors.map Selector.option) (options.map StateOption.name) := by
  cases protocol with
  | unreadable => simpa [Function.comp_def] using MovedToFront.none (selectors.map Selector.option)
  | unmatched _ _ _ declared _ =>
      rw [← declared]
      simpa [Function.comp_def] using MovedToFront.none _
  | @restored _ _ _ _ _ earlier later active _ _ _ _ _ declared _ _ _ =>
      rw [← declared]
      simpa [Function.comp_def] using
        MovedToFront.one (earlier.map fun option => option.1.option) active.1.option
          (later.map fun option => option.1.option)

end Protocol

/--
Reading the options of a state makes the calls of the protocol, in their order and no
others, and gives the options that the protocol says, whatever the object does.
-/
theorem readOptions_protocol (getter : Text) (selectors : List Selector)
    (recorded : Recorded Object) :
    ∃ options calls after,
      readOptions getter selectors (some recorded) =
          (options, some ⟨after, recorded.calls ++ calls⟩) ∧
        Protocol getter selectors recorded.object options calls after ∧
        (∀ otherOptions otherCalls otherAfter,
          Protocol getter selectors recorded.object otherOptions otherCalls otherAfter →
            otherOptions = options ∧ otherCalls = calls ∧ otherAfter = after) ∧
        MovedToFront (selectors.map Selector.option) (options.map StateOption.name) := by
  rcases Protocol.exists getter selectors recorded.object with ⟨options, calls, after, protocol⟩
  exact ⟨options, calls, after, protocol.readOptions recorded.calls, protocol,
    fun _ _ _ other => protocol.unique other, protocol.movedToFront⟩

end Probe

end MethodRoles
