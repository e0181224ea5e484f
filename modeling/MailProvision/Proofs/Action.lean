import MailProvision.Action

/-!
# Running actions

What a chain of actions comes to, given what its first link comes to. With these a run is followed
link by link, without looking into how actions are chained.
-/

namespace MailProvision

section MapError

variable {Failure Other Value : Type} (convert : Failure → Other)

@[simp]
theorem mapError_ok (value : Value) :
    (Except.ok value : Except Failure Value).mapError convert = .ok value :=
  rfl

@[simp]
theorem mapError_error (failure : Failure) :
    (Except.error failure : Except Failure Value).mapError convert = .error (convert failure) :=
  rfl

theorem mapError_eq_ok_iff {outcome : Except Failure Value} {value : Value} :
    outcome.mapError convert = .ok value ↔ outcome = .ok value := by
  cases outcome with
  | error failure =>
      constructor
      · rintro ⟨⟩
      · rintro ⟨⟩
  | ok other =>
      constructor
      · rintro ⟨⟩
        rfl
      · rintro ⟨⟩
        rfl

theorem mapError_eq_error_iff {outcome : Except Failure Value} {other : Other} :
    outcome.mapError convert = .error other ↔
      ∃ failure, outcome = .error failure ∧ convert failure = other := by
  cases outcome with
  | error failure => simp
  | ok value => simp

end MapError

section Map

variable {Failure First Second : Type} (convert : First → Second)

@[simp]
theorem map_ok (value : First) :
    (Except.ok value : Except Failure First).map convert = .ok (convert value) :=
  rfl

@[simp]
theorem map_error (failure : Failure) :
    (Except.error failure : Except Failure First).map convert = .error failure :=
  rfl

theorem map_eq_error_iff {outcome : Except Failure First} {failure : Failure} :
    outcome.map convert = .error failure ↔ outcome = .error failure := by
  cases outcome with
  | error other => simp
  | ok value => simp

end Map

theorem bind_eq_ok_iff {Failure First Second : Type} {first : Except Failure First}
    {next : First → Except Failure Second} {result : Second} :
    first >>= next = .ok result ↔ ∃ value, first = .ok value ∧ next value = .ok result := by
  constructor
  · intro succeeded
    cases first with
    | error failure => cases succeeded
    | ok value => exact ⟨value, rfl, succeeded⟩
  · rintro ⟨value, rfl, succeeded⟩
    exact succeeded

namespace Action

variable {State Failure Value Result : Type}

theorem bind_of_ok {first : Action State Failure Value}
    {next : Value → Action State Failure Result} {state after : State} {value : Value}
    {trace : List Activity}
    (succeeded : first state = { result := .ok value, state := after, trace }) :
    (first >>= next) state =
      { result := (next value after).result
        state := (next value after).state
        trace := trace ++ (next value after).trace } := by
  change andThen first next state = _
  simp only [andThen, succeeded]

theorem bind_of_error {first : Action State Failure Value}
    {next : Value → Action State Failure Result} {state after : State} {failure : Failure}
    {trace : List Activity}
    (failed : first state = { result := .error failure, state := after, trace }) :
    (first >>= next) state = { result := .error failure, state := after, trace } := by
  change andThen first next state = _
  simp only [andThen, failed]

theorem bind_result {first : Action State Failure Value}
    {next : Value → Action State Failure Result} {state : State} {value : Value}
    (succeeded : (first state).result = .ok value) :
    ((first >>= next) state).result = (next value (first state).state).result := by
  cases ran : first state with
  | mk result after trace =>
      rw [ran] at succeeded
      cases succeeded
      rw [bind_of_ok ran]

theorem bind_state {first : Action State Failure Value} {next : Value → Action State Failure Result}
    {state : State} {value : Value} (succeeded : (first state).result = .ok value) :
    ((first >>= next) state).state = (next value (first state).state).state := by
  cases ran : first state with
  | mk result after trace =>
      rw [ran] at succeeded
      cases succeeded
      rw [bind_of_ok ran]

theorem bind_state_of_error {first : Action State Failure Value}
    {next : Value → Action State Failure Result} {state : State} {failure : Failure}
    (failed : (first state).result = .error failure) :
    ((first >>= next) state).state = (first state).state := by
  cases ran : first state with
  | mk result after trace =>
      rw [ran] at failed
      cases failed
      rw [bind_of_error ran]

/-- A chain succeeds if and only if both of its links do. -/
theorem bind_ok_iff {first : Action State Failure Value}
    {next : Value → Action State Failure Result} {state : State} {result : Result} :
    ((first >>= next) state).result = .ok result ↔
      ∃ value, (first state).result = .ok value ∧
        (next value (first state).state).result = .ok result := by
  cases ran : first state with
  | mk outcome after trace =>
      cases outcome with
      | error failure =>
          rw [bind_of_error ran]
          constructor
          · rintro ⟨⟩
          · rintro ⟨value, ⟨⟩, _⟩
      | ok value =>
          rw [bind_of_ok ran]
          constructor
          · intro succeeded
            exact ⟨value, rfl, succeeded⟩
          · rintro ⟨_, ⟨⟩, succeeded⟩
            exact succeeded

/-- A chain fails if and only if one of its links does, the second one after the first. -/
theorem bind_error_iff {first : Action State Failure Value}
    {next : Value → Action State Failure Result} {state : State} {failure : Failure} :
    ((first >>= next) state).result = .error failure ↔
      (first state).result = .error failure ∨
        ∃ value, (first state).result = .ok value ∧
          (next value (first state).state).result = .error failure := by
  cases ran : first state with
  | mk outcome after trace =>
      cases outcome with
      | error other =>
          rw [bind_of_error ran]
          simp
      | ok value =>
          rw [bind_of_ok ran]
          simp

/-- An action whose value is converted at the end. -/
theorem bind_pure_run (convert : Value → Result) (action : Action State Failure Value)
    (state : State) :
    (action >>= fun value => pure (convert value)) state =
      { result := (action state).result.map convert
        state := (action state).state
        trace := (action state).trace } := by
  cases ran : action state with
  | mk result after trace =>
      cases result with
      | error failure => rw [bind_of_error ran, map_error]
      | ok value =>
          rw [bind_of_ok ran, map_ok]
          simp only [pure, done, List.append_nil]

theorem report_run (event : Event) (state : State) :
    (report event : Action State Failure Unit) state =
      { result := .ok (), state, trace := [.event event] } :=
  rfl

/-- A report of what the action answers changes nothing but the trace. -/
theorem bind_report (event : Value → Event) (action : Action State Failure Value) (state : State) :
    ((action >>= fun value => report (event value) >>= fun _ => pure value) state).result =
        (action state).result ∧
      ((action >>= fun value => report (event value) >>= fun _ => pure value) state).state =
        (action state).state := by
  cases ran : action state with
  | mk result after trace =>
      cases result with
      | error failure =>
          rw [bind_of_error ran]
          exact ⟨rfl, rfl⟩
      | ok value =>
          rw [bind_of_ok ran]
          exact ⟨rfl, rfl⟩

theorem mapFailure_of_ok {Other : Type} (convert : Failure → Other)
    {action : Action State Failure Value} {state after : State} {value : Value}
    {trace : List Activity}
    (succeeded : action state = { result := .ok value, state := after, trace }) :
    action.mapFailure convert state = { result := .ok value, state := after, trace } := by
  simp only [mapFailure, succeeded, mapError_ok]

theorem mapFailure_of_error {Other : Type} (convert : Failure → Other)
    {action : Action State Failure Value} {state after : State} {failure : Failure}
    {trace : List Activity}
    (failed : action state = { result := .error failure, state := after, trace }) :
    action.mapFailure convert state =
      { result := .error (convert failure), state := after, trace } := by
  simp only [mapFailure, failed, mapError_error]

theorem onFailure_of_ok (repair : State → State) {action : Action State Failure Value}
    {state after : State} {value : Value} {trace : List Activity}
    (succeeded : action state = { result := .ok value, state := after, trace }) :
    action.onFailure repair state = { result := .ok value, state := after, trace } := by
  simp only [onFailure, succeeded]

theorem onFailure_of_error (repair : State → State) {action : Action State Failure Value}
    {state after : State} {failure : Failure} {trace : List Activity}
    (failed : action state = { result := .error failure, state := after, trace }) :
    action.onFailure repair state =
      { result := .error failure, state := repair after, trace } := by
  simp only [onFailure, failed]

@[simp]
theorem onFailure_result (repair : State → State) (action : Action State Failure Value)
    (state : State) : (action.onFailure repair state).result = (action state).result := by
  simp only [onFailure]
  split
  · rfl
  · rfl

theorem onFailure_state_of_ok (repair : State → State) {action : Action State Failure Value}
    {state : State} {value : Value} (succeeded : (action state).result = .ok value) :
    (action.onFailure repair state).state = (action state).state := by
  simp only [onFailure, succeeded]

theorem onFailureReport_of_ok (event? : Failure → Option Event)
    {action : Action State Failure Value} {state after : State} {value : Value}
    {trace : List Activity}
    (succeeded : action state = { result := .ok value, state := after, trace }) :
    action.onFailureReport event? state = { result := .ok value, state := after, trace } := by
  simp only [onFailureReport, succeeded]

theorem onFailureReport_of_error (event? : Failure → Option Event)
    {action : Action State Failure Value} {state after : State} {failure : Failure}
    {trace : List Activity}
    (failed : action state = { result := .error failure, state := after, trace }) :
    action.onFailureReport event? state =
      { result := .error failure
        state := after
        trace := trace ++ ((event? failure).map Activity.event).toList } := by
  simp only [onFailureReport, failed]

/-- The action never changes what is read off the state. -/
def Keeps {Part : Type} (read : State → Part) (action : Action State Failure Value) : Prop :=
  ∀ state, read (action state).state = read state

namespace Keeps

variable {Part : Type} {read : State → Part}

theorem of_still {action : Action State Failure Value}
    (still : ∀ state, (action state).state = state) : action.Keeps read := by
  intro state
  rw [still]

theorem bind {first : Action State Failure Value} {next : Value → Action State Failure Result}
    (before : first.Keeps read) (after : ∀ value, (next value).Keeps read) :
    (first >>= next).Keeps read := by
  intro state
  have kept := before state
  cases ran : first state with
  | mk outcome reached trace =>
      rw [ran] at kept
      cases outcome with
      | error failure =>
          rw [bind_of_error ran]
          exact kept
      | ok value =>
          rw [bind_of_ok ran]
          exact (after value reached).trans kept

theorem mapFailure {Other : Type} {action : Action State Failure Value}
    (keeps : action.Keeps read) (convert : Failure → Other) :
    (action.mapFailure convert).Keeps read :=
  keeps

/-- Work on one part of a whole leaves what does not depend on that part. -/
theorem within {Whole : Type} {read : Whole → Part} {part : Whole → State}
    {replace : State → Whole → Whole}
    (apart : ∀ state whole, read (replace state whole) = read whole)
    (action : Action State Failure Value) : (action.within part replace).Keeps read := by
  intro whole
  exact apart _ whole

end Keeps

/-- Whatever the action fails with is of one kind. -/
def FailsOnly (kind : Failure → Prop) (action : Action State Failure Value) : Prop :=
  ∀ state failure, (action state).result = .error failure → kind failure

namespace FailsOnly

variable {kind : Failure → Prop}

theorem of_ok {action : Action State Failure Value} {value : State → Value}
    (succeeds : ∀ state, (action state).result = .ok (value state)) : action.FailsOnly kind := by
  intro state failure failed
  cases (succeeds state).symm.trans failed

theorem ofExcept {Other : Type} {convert : Other → Failure} {result : Except Other Value}
    (converted : ∀ fault, kind (convert fault)) :
    (Action.ofExcept (result.mapError convert) : Action State Failure Value).FailsOnly kind := by
  intro state failure failed
  rcases (mapError_eq_error_iff convert).1 failed with ⟨fault, _, rfl⟩
  exact converted fault

theorem bind {first : Action State Failure Value} {next : Value → Action State Failure Result}
    (before : first.FailsOnly kind) (after : ∀ value, (next value).FailsOnly kind) :
    (first >>= next).FailsOnly kind := by
  intro state failure failed
  rcases bind_error_iff.1 failed with unmade | ⟨value, _, unmade⟩
  · exact before state failure unmade
  · exact after value _ failure unmade

end FailsOnly

end Action

end MailProvision
