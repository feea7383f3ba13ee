import PaymentSystem.Model.CircuitBreaker

namespace PaymentModel

open CircuitBreaker BreakerRun

variable {name : String} {options : CircuitBreakerOptions} {breaker : CircuitBreaker} {run next : BreakerRun}
  {now : Int}

theorem execute_pass (passes : breaker.state ≠ .opened) : breaker.execute name options now = (.ok (), breaker) := by
  rw [execute, if_neg passes]

theorem execute_probe (shut : breaker.state = .opened)
    (elapsed : options.resetTimeout.le (.finite (now - breaker.lastFailureTime : Int)) = true) :
    breaker.execute name options now = (.ok (), breaker.transitionTo .halfOpen) := by
  rw [execute, if_pos shut, if_pos elapsed]

theorem execute_reject (name : String) (shut : breaker.state = .opened)
    (waits : ¬options.resetTimeout.le (.finite (now - breaker.lastFailureTime : Int)) = true) :
    ∃ e, breaker.execute name options now = (.error e, breaker) := by
  rw [execute, if_pos shut, if_neg waits]
  exact ⟨_, rfl⟩

/-- A rejected call finds the breaker open and leaves it as it is. -/
theorem execute_rejected {e : JsError} (rejected : (breaker.execute name options now).1 = .error e) :
    breaker.execute name options now = (.error e, breaker) := by
  by_cases shut : breaker.state = .opened
  · by_cases elapsed : options.resetTimeout.le (.finite (now - breaker.lastFailureTime : Int)) = true
    · rw [execute_probe shut elapsed] at rejected
      cases rejected
    · obtain ⟨e', same⟩ := execute_reject name shut elapsed
      rw [same] at rejected ⊢
      cases rejected
      rfl
  · rw [execute_pass shut] at rejected
    cases rejected

namespace BreakerRun

@[simp] theorem note_breaker (run : BreakerRun) (o : BreakerNote) : (run.note o).breaker = run.breaker := rfl

@[simp] theorem note_clock (run : BreakerRun) (o : BreakerNote) : (run.note o).clock = run.clock := rfl

@[simp] theorem note_calls (run : BreakerRun) (o : BreakerNote) : (run.note o).calls = run.calls := rfl

@[simp] theorem note_running (run : BreakerRun) (o : BreakerNote) : (run.note o).running = run.running := rfl

@[simp] theorem note_trace (run : BreakerRun) (o : BreakerNote) :
    (run.note o).trace = (run.clock, o) :: run.trace := rfl

@[simp] theorem become_breaker (run : BreakerRun) (breaker : CircuitBreaker) :
    (run.become breaker).breaker = breaker := by
  unfold become
  split <;> rfl

@[simp] theorem become_clock (run : BreakerRun) (breaker : CircuitBreaker) :
    (run.become breaker).clock = run.clock := by
  unfold become
  split <;> rfl

@[simp] theorem become_calls (run : BreakerRun) (breaker : CircuitBreaker) :
    (run.become breaker).calls = run.calls := by
  unfold become
  split <;> rfl

@[simp] theorem become_running (run : BreakerRun) (breaker : CircuitBreaker) :
    (run.become breaker).running = run.running := by
  unfold become
  split <;> rfl

theorem become_trace (run : BreakerRun) (breaker : CircuitBreaker) :
    (run.become breaker).trace =
      if breaker.state = run.breaker.state then run.trace else (run.clock, .entered breaker.state) :: run.trace := by
  unfold become
  split <;> rfl

/-- What an action can do. -/
inductive Moves (options : CircuitBreakerOptions) (run : BreakerRun) : BreakerRun → Prop
  | wait (now : Int) (later : run.clock ≤ now) : Moves options run { run with clock := now }
  | pass (passes : run.breaker.state ≠ .opened) :
    Moves options run ({ run with
      calls := run.calls + 1
      running := (run.calls, run.breaker.state) :: run.running }.note (.invoked run.calls))
  | probe (shut : run.breaker.state = .opened)
    (elapsed : options.resetTimeout.le (.finite (run.clock - run.breaker.lastFailureTime : Int)) = true) :
    Moves options run (({ run with
      breaker := run.breaker.transitionTo .halfOpen
      calls := run.calls + 1
      running := (run.calls, .halfOpen) :: run.running }.note (.entered .halfOpen)).note (.invoked run.calls))
  | reject (shut : run.breaker.state = .opened) :
    Moves options run ({ run with calls := run.calls + 1 }.note (.rejected run.calls))
  | settle (call : Nat) (success : Bool) (runs : ∃ entry ∈ run.running, entry.1 = call) :
    Moves options run (({ run with running := run.running.filter fun entry => entry.1 ≠ call }.note
      (.settled call success)).become (run.breaker.settle options run.clock success))

theorem act_pass (name : String) (options : CircuitBreakerOptions) (passes : run.breaker.state ≠ .opened) :
    run.act name options .execute = some ({ run with
      calls := run.calls + 1
      running := (run.calls, run.breaker.state) :: run.running }.note (.invoked run.calls)) := by
  simp only [act, execute_pass passes, become, if_true]

theorem act_probe (name : String) (shut : run.breaker.state = .opened)
    (elapsed : options.resetTimeout.le (.finite (run.clock - run.breaker.lastFailureTime : Int)) = true) :
    run.act name options .execute = some (({ run with
      breaker := run.breaker.transitionTo .halfOpen
      calls := run.calls + 1
      running := (run.calls, .halfOpen) :: run.running }.note (.entered .halfOpen)).note (.invoked run.calls)) := by
  simp only [act, execute_probe shut elapsed, become, transitionTo, shut, reduceCtorEq, if_false]
  rfl

theorem act_settle (name : String) {call : Nat} (success : Bool) (runs : ∃ entry ∈ run.running, entry.1 = call) :
    run.act name options (.settle call success) =
      some (({ run with running := run.running.filter fun entry => entry.1 ≠ call }.note
        (.settled call success)).become (run.breaker.settle options run.clock success)) := by
  simp only [act]
  rw [if_pos]
  simpa using runs

theorem Step.moves (step : Step name options run next) : Moves options run next := by
  obtain ⟨action, acted⟩ := step
  cases action with
  | wait now =>
    simp only [act] at acted
    split at acted
    · rename_i later
      cases acted
      exact .wait now later
    · cases acted
  | execute =>
    by_cases shut : run.breaker.state = .opened
    · by_cases elapsed : options.resetTimeout.le (.finite (run.clock - run.breaker.lastFailureTime : Int)) = true
      · rw [act_probe name shut elapsed] at acted
        cases acted
        exact .probe shut elapsed
      · obtain ⟨e, same⟩ := execute_reject name shut elapsed
        simp only [act, same, become, if_true] at acted
        cases acted
        exact .reject shut
    · rw [act_pass name options shut] at acted
      cases acted
      exact .pass shut
  | settle call success =>
    by_cases runs : ∃ entry ∈ run.running, entry.1 = call
    · rw [act_settle name success runs] at acted
      cases acted
      exact .settle call success runs
    · simp only [act] at acted
      rw [if_neg (by simpa using runs)] at acted
      cases acted

/-- What a list of actions leads to and a check finds there. -/
theorem steps_of_acts (name : String) (options : CircuitBreakerOptions) (run : BreakerRun)
    (actions : List BreakerAction) (check : BreakerRun → Bool)
    (shown : (run.acts name options actions).any check = true) :
    ∃ next, Steps name options run next ∧ check next = true := by
  induction actions generalizing run with
  | nil => exact ⟨run, .refl, shown⟩
  | cons action actions ih =>
    obtain ⟨last, ran, checked⟩ := (Option.any_eq_true _ _).mp shown
    obtain ⟨next, acted, rest⟩ := Option.bind_eq_some_iff.mp ran
    obtain ⟨last, steps, checked⟩ := ih next ((Option.any_eq_true _ _).mpr ⟨last, rest, checked⟩)
    exact ⟨last, .head ⟨action, acted⟩ steps, checked⟩

theorem Steps.keep (property : BreakerRun → Prop)
    (kept : ∀ run next, property run → Moves options run next → property next)
    (steps : Steps name options run next) (held : property run) : property next := by
  induction steps with
  | refl => exact held
  | tail _ step ih => exact kept _ _ ih step.moves

end BreakerRun

theorem state_checkThreshold : (breaker.checkThreshold options).state = breaker.state ∨
    (breaker.checkThreshold options).state = .opened := by
  unfold checkThreshold
  split
  · exact .inl rfl
  · split
    · exact .inr rfl
    · exact .inl rfl

theorem lastFailureTime_checkThreshold :
    (breaker.checkThreshold options).lastFailureTime = breaker.lastFailureTime := by
  unfold checkThreshold
  split
  · rfl
  · split <;> rfl

theorem onFailure_lastFailureTime : (breaker.onFailure options now).lastFailureTime = now := by
  simp only [onFailure]
  split
  · rfl
  · rw [lastFailureTime_checkThreshold]
    rfl

/-- A failure opens a half-open breaker, and at most opens any other. -/
theorem onFailure_state : (breaker.onFailure options now).state = .opened ∨
    (breaker.state ≠ .halfOpen ∧ (breaker.onFailure options now).state = breaker.state) := by
  simp only [onFailure]
  split
  · exact .inl rfl
  · rename_i other
    exact state_checkThreshold.symm.imp_right fun same => ⟨other, same⟩

theorem settle_opened (options : CircuitBreakerOptions) (now : Int) (shut : breaker.state = .opened)
    (success : Bool) :
    (breaker.settle options now success).state = .opened ∧
      ((breaker.settle options now success).lastFailureTime = breaker.lastFailureTime ∨
        (breaker.settle options now success).lastFailureTime = now) := by
  cases success with
  | true =>
    simp [settle, onSuccess, shut, recordResult]
  | false =>
    exact ⟨onFailure_state.elim id fun same => same.2.trans shut, .inr onFailure_lastFailureTime⟩

theorem settle_opens {success : Bool} (before : breaker.state ≠ .opened)
    (opens : (breaker.settle options now success).state = .opened) :
    (breaker.settle options now success).lastFailureTime = now := by
  cases success with
  | false => exact onFailure_lastFailureTime
  | true =>
    simp only [settle, onSuccess, if_true] at opens
    split at opens
    · rename_i half
      split at opens
      · cases opens
      · exact (before opens).elim
    · exact (before opens).elim

/-- A breaker that an outcome leaves half open has counted a success. -/
theorem settle_halfOpen {success : Bool} (half : (breaker.settle options now success).state = .halfOpen) :
    breaker.state = .halfOpen ∧ success = true ∧
      (breaker.settle options now success).halfOpenSuccesses = breaker.halfOpenSuccesses + 1 ∧
      ¬options.halfOpenSuccessThreshold.le (.finite (breaker.halfOpenSuccesses + 1 : Nat)) = true := by
  cases success with
  | true =>
    simp only [settle, onSuccess, if_true] at half ⊢
    split at half
    · rename_i probing
      split at half
      · cases half
      · rename_i below
        refine ⟨probing, trivial, ?_, below⟩
        rw [if_pos probing, if_neg below]
    · rename_i other
      exact (other half).elim
  | false =>
    rcases onFailure_state with opens | ⟨other, same⟩
    · cases opens.symm.trans half
    · exact (other (same.symm.trans half)).elim

theorem settle_closes {success : Bool} (half : breaker.state = .halfOpen)
    (closes : (breaker.settle options now success).state = .closed) :
    success = true ∧
      options.halfOpenSuccessThreshold.le (.finite (breaker.halfOpenSuccesses + 1 : Nat)) = true := by
  cases success with
  | true =>
    simp only [settle, onSuccess, if_true, half] at closes
    split at closes
    · rename_i reached
      exact ⟨rfl, reached⟩
    · cases closes
  | false =>
    rcases onFailure_state with opens | ⟨other, _⟩
    · cases opens.symm.trans closes
    · exact (other half).elim

end PaymentModel
