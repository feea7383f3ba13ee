import PaymentSystem.Properties.OpenCircuit
import PaymentSystem.Proof.BreakerWindow

namespace PaymentModel

open CircuitBreaker BreakerRun

variable {name : String} {options : CircuitBreakerOptions} {breaker : CircuitBreaker} {run : BreakerRun}

/-- A call of `execute` while no other one is running: when it is made, and when and how its function settles. -/
structure SoloCall where
  start : Int
  finish : Int
  success : Bool

/-- The calls are made one after the other, from `clock` on. -/
def NonOverlapping : Int → List SoloCall → Prop
  | _, [] => True
  | clock, call :: calls => clock ≤ call.start ∧ call.start ≤ call.finish ∧ NonOverlapping call.finish calls

/-- The reference automaton. Closed it keeps the outcomes of all calls since it closed, open the time of the
    last failure, half open the number of successes since it became half open. -/
inductive ReferenceBreaker where
  | closed (outcomes : List Bool)
  | opened (lastFailure : Int)
  | halfOpen (successes : Nat)
  deriving DecidableEq

namespace ReferenceBreaker

def admits (options : CircuitBreakerOptions) : ReferenceBreaker → SoloCall → Bool
  | .opened lastFailure, call => options.resetTimeout.le (.finite (call.start - lastFailure : Int))
  | .closed _, _ | .halfOpen _, _ => true

/-- After a call that is let through half open. -/
def probed (options : CircuitBreakerOptions) (successes : Nat) (call : SoloCall) : ReferenceBreaker :=
  if call.success then
    if (Number.finite successes).lt options.halfOpenSuccessThreshold ∧
        options.halfOpenSuccessThreshold.le (.finite (successes + 1 : Nat)) then .closed []
    else .halfOpen (successes + 1)
  else .opened call.finish

def after (options : CircuitBreakerOptions) : ReferenceBreaker → SoloCall → ReferenceBreaker
  | .closed outcomes, call =>
    if Trips options outcomes call.success then .opened call.finish else .closed (outcomes ++ [call.success])
  | .opened lastFailure, call =>
    if (opened lastFailure).admits options call then probed options 0 call else .opened lastFailure
  | .halfOpen successes, call => probed options successes call

/-- Which calls are let through, and the state after the last one. -/
def calls (options : CircuitBreakerOptions) (state : ReferenceBreaker) : List SoloCall → List Bool × ReferenceBreaker
  | [] => ([], state)
  | call :: rest =>
    let next := (state.after options call).calls options rest
    (state.admits options call :: next.1, next.2)

/-- The breaker is in this state. -/
def Meets (options : CircuitBreakerOptions) : ReferenceBreaker → CircuitBreaker → Prop
  | .closed outcomes, breaker =>
    breaker.state = .closed ∧ breaker.results = lastOutcomes options.windowSize outcomes
  | .opened lastFailure, breaker => breaker.state = .opened ∧ breaker.lastFailureTime = lastFailure
  | .halfOpen successes, breaker =>
    breaker.state = .halfOpen ∧ breaker.halfOpenSuccesses = successes ∧
      (Number.finite successes).lt options.halfOpenSuccessThreshold = true

end ReferenceBreaker

/-- `execute` and the end of its function, on the fields of the breaker alone. -/
def CircuitBreaker.solo (name : String) (options : CircuitBreakerOptions) (breaker : CircuitBreaker)
    (call : SoloCall) : Bool × CircuitBreaker :=
  match breaker.execute name options call.start with
  | (.ok (), begun) => (true, begun.settle options call.finish call.success)
  | (.error _, begun) => (false, begun)

/-- The call in a run; it has been let through if its function is running. -/
def BreakerRun.solo (name : String) (options : CircuitBreakerOptions) (run : BreakerRun) (call : SoloCall) :
    Option (Bool × BreakerRun) :=
  (run.acts name options [.wait call.start, .execute]).bind fun begun =>
    if begun.running.isEmpty then some (false, begun)
    else (begun.acts name options [.wait call.finish, .settle run.calls call.success]).map fun ended => (true, ended)

def BreakerRun.solos (name : String) (options : CircuitBreakerOptions) (run : BreakerRun) :
    List SoloCall → Option (List Bool × BreakerRun)
  | [] => some ([], run)
  | call :: calls =>
    (run.solo name options call).bind fun ended =>
      (ended.2.solos name options calls).map fun last => (ended.1 :: last.1, last.2)

open ReferenceBreaker

theorem settle_probed {successes : Nat} (half : breaker.state = .halfOpen)
    (counted : breaker.halfOpenSuccesses = successes)
    (below : (Number.finite successes).lt options.halfOpenSuccessThreshold = true)
    (known : Number.le (.finite 1) options.halfOpenSuccessThreshold = true) (call : SoloCall) :
    (probed options successes call).Meets options (breaker.settle options call.finish call.success) := by
  cases is : call.success with
  | false =>
    simp only [probed, is, Bool.false_eq_true, if_false, settle]
    have opens : (breaker.onFailure options call.finish).state = .opened :=
      onFailure_state.resolve_right fun other => other.1 half
    exact ⟨opens, onFailure_lastFailureTime⟩
  | true =>
    by_cases reached : options.halfOpenSuccessThreshold.le (.finite (successes + 1 : Nat)) = true
    · have closes : (probed options successes call) = .closed [] := by
        simp only [probed, is, if_true, below, reached, and_self]
      rw [closes]
      have recorded : (breaker.settle options call.finish true) =
          { breaker with state := .closed, results := [], halfOpenSuccesses := 0 } := by
        simp only [settle, onSuccess, if_true, half, counted, reached]
        rfl
      rw [recorded]
      exact ⟨rfl, (lastOutcomes_nil _).symm⟩
    · have stays : (probed options successes call) = .halfOpen (successes + 1) := by
        simp only [probed, is, if_true, reached, and_false, if_false, Bool.false_eq_true]
      rw [stays]
      have recorded : (breaker.settle options call.finish true) =
          { breaker with halfOpenSuccesses := successes + 1 } := by
        simp only [settle, onSuccess, if_true, half, counted, reached, if_false, Bool.false_eq_true]
      rw [recorded]
      exact ⟨half, rfl, Number.lt_of_not_le known reached⟩

/-- One call keeps the breaker in the state of the automaton, and is let through by both or by neither. -/
theorem solo_meets (name : String) (sized : Number.le (.finite 1) options.windowSize = true)
    (known : Number.le (.finite 1) options.halfOpenSuccessThreshold = true) {state : ReferenceBreaker}
    (meets : state.Meets options breaker) (call : SoloCall) :
    (breaker.solo name options call).1 = state.admits options call ∧
      (state.after options call).Meets options (breaker.solo name options call).2 := by
  cases state with
  | closed outcomes =>
    obtain ⟨closed, tracked⟩ := meets
    have passes : breaker.state ≠ .opened := by simp [closed]
    rw [CircuitBreaker.solo, execute_pass passes]
    refine ⟨rfl, ?_⟩
    have settled := settle_closed sized closed tracked call.finish call.success
    by_cases trips : Trips options outcomes call.success
    · rw [if_pos trips] at settled
      simp only [after, if_pos trips]
      exact ⟨settled.2, settle_opens passes settled.2⟩
    · rw [if_neg trips] at settled
      simp only [after, if_neg trips]
      exact ⟨settled.2, settled.1⟩
  | opened lastFailure =>
    obtain ⟨shut, rfl⟩ := meets
    by_cases elapsed : options.resetTimeout.le (.finite (call.start - breaker.lastFailureTime : Int)) = true
    · have admitted : (opened breaker.lastFailureTime).admits options call = true := elapsed
      rw [CircuitBreaker.solo, execute_probe shut elapsed, admitted]
      refine ⟨rfl, ?_⟩
      simp only [after, if_pos admitted]
      have half : (breaker.transitionTo .halfOpen).state = .halfOpen := rfl
      have none : (breaker.transitionTo .halfOpen).halfOpenSuccesses = 0 := rfl
      have below : (Number.finite (0 : Nat)).lt options.halfOpenSuccessThreshold = true := by
        refine Number.lt_of_not_le known fun reached => ?_
        have one_le_zero := Number.between known reached
        exact absurd one_le_zero (by decide)
      exact settle_probed half none below known call
    · have rejected : ¬(opened breaker.lastFailureTime).admits options call = true := elapsed
      obtain ⟨e, same⟩ := execute_reject name shut elapsed
      rw [CircuitBreaker.solo, same, Bool.eq_false_iff.mpr rejected]
      refine ⟨rfl, ?_⟩
      simp only [after, if_neg rejected]
      exact ⟨shut, rfl⟩
  | halfOpen successes =>
    obtain ⟨half, counted, below⟩ := meets
    have passes : breaker.state ≠ .opened := by simp [half]
    rw [CircuitBreaker.solo, execute_pass passes]
    exact ⟨rfl, settle_probed half counted below known call⟩

theorem acts_wait (run : BreakerRun) {now : Int} (later : run.clock ≤ now) (actions : List BreakerAction) :
    run.acts name options (.wait now :: actions) = BreakerRun.acts name options { run with clock := now } actions := by
  simp only [BreakerRun.acts, act, if_pos later, Option.bind_some]

theorem execute_admitted (run : BreakerRun) {begun : CircuitBreaker}
    (admitted : run.breaker.execute name options run.clock = (.ok (), begun)) :
    ∃ next, run.act name options .execute = some next ∧ next.breaker = begun ∧ next.clock = run.clock ∧
      next.running = (run.calls, begun.state) :: run.running := by
  simp only [act, admitted]
  exact ⟨_, rfl, by simp, by simp, by simp⟩

theorem execute_refused (run : BreakerRun) {e : JsError} {begun : CircuitBreaker}
    (refused : run.breaker.execute name options run.clock = (.error e, begun)) :
    ∃ next, run.act name options .execute = some next ∧ next.breaker = begun ∧ next.clock = run.clock ∧
      next.running = run.running := by
  simp only [act, refused]
  exact ⟨_, rfl, by simp, by simp, by simp⟩

theorem settle_last (name : String) (options : CircuitBreakerOptions) (run : BreakerRun) {call : Nat}
    {state : CircuitState} (last : run.running = [(call, state)]) (success : Bool) :
    ∃ next, run.act name options (.settle call success) = some next ∧
      next.breaker = run.breaker.settle options run.clock success ∧ next.clock = run.clock ∧ next.running = [] := by
  have runs : ∃ entry ∈ run.running, entry.1 = call := ⟨_, last ▸ List.mem_singleton_self _, rfl⟩
  rw [act_settle name success runs]
  exact ⟨_, rfl, by simp, by simp, by simp [last]⟩

/-- A call in a run does to the breaker what it does to the fields alone, and leaves nothing running. -/
theorem solo_run (name : String) (options : CircuitBreakerOptions) {call : SoloCall} (idle : run.running = [])
    (later : run.clock ≤ call.start) (lasts : call.start ≤ call.finish) : ∃ next,
    run.solo name options call = some ((run.breaker.solo name options call).1, next) ∧
      next.breaker = (run.breaker.solo name options call).2 ∧ next.running = [] ∧ next.clock ≤ call.finish := by
  cases executed : run.breaker.execute name options call.start with
  | mk outcome begun =>
    rw [BreakerRun.solo, acts_wait run later, CircuitBreaker.solo, executed]
    cases outcome with
    | error e =>
      obtain ⟨next, acted, becomes, clock, running⟩ := execute_refused { run with clock := call.start } executed
      have none : next.running = [] := running.trans idle
      refine ⟨next, ?_, becomes, none, clock.trans_le lasts⟩
      simp [BreakerRun.acts, acted, none]
    | ok _ =>
      obtain ⟨next, acted, becomes, clock, running⟩ := execute_admitted { run with clock := call.start } executed
      have one : next.running = [(run.calls, begun.state)] := running.trans (congrArg _ idle)
      obtain ⟨last, settled, ends, finish, none⟩ := settle_last name options
        { next with clock := call.finish } one call.success
      refine ⟨last, ?_, ends.trans (by rw [becomes]), none, finish.le⟩
      have rest : next.acts name options [.wait call.finish, .settle run.calls call.success] = some last := by
        rw [acts_wait next (clock.trans_le lasts), BreakerRun.acts, settled]
        rfl
      have begins : BreakerRun.acts name options { run with clock := call.start } [.execute] = some next := by
        rw [BreakerRun.acts, acted]
        rfl
      rw [begins, Option.bind_some, one, rest]
      rfl

/-- Calls that do not overlap take the breaker through the states of the reference automaton. -/
theorem solos_meet (sized : Number.le (.finite 1) options.windowSize = true)
    (known : Number.le (.finite 1) options.halfOpenSuccessThreshold = true) {calls : List SoloCall} {clock : Int}
    (ordered : NonOverlapping clock calls) {state : ReferenceBreaker} (idle : run.running = [])
    (later : run.clock ≤ clock) (meets : state.Meets options run.breaker) : ∃ last,
      run.solos name options calls = some ((state.calls options calls).1, last) ∧
        (state.calls options calls).2.Meets options last.breaker := by
  induction calls generalizing run clock state with
  | nil => exact ⟨run, rfl, meets⟩
  | cons call calls ih =>
    obtain ⟨starts, lasts, ordered⟩ := ordered
    obtain ⟨next, called, becomes, idle', later'⟩ := solo_run name options idle (later.trans starts) lasts
    have one := solo_meets name sized known meets call
    rw [← becomes] at one
    obtain ⟨last, rest, reached⟩ := ih ordered idle' later' one.2
    refine ⟨last, ?_, reached⟩
    rw [BreakerRun.solos, called, Option.bind_some, rest, Option.map_some, one.1]
    rfl

/-- With calls that do not overlap the breaker is its reference automaton: it lets the same calls through
    and is in the same state after each of them. -/
theorem sequential_breaker_is_reference (name : String) (sized : Number.le (.finite 1) options.windowSize = true)
    (known : Number.le (.finite 1) options.halfOpenSuccessThreshold = true) {clock : Int} {calls : List SoloCall}
    (ordered : NonOverlapping clock calls) : ∃ run,
      BreakerRun.solos name options { clock } calls = some (((ReferenceBreaker.closed []).calls options calls).1, run) ∧
        ((ReferenceBreaker.closed []).calls options calls).2.Meets options run.breaker :=
  solos_meet sized known ordered rfl le_rfl ⟨rfl, (lastOutcomes_nil _).symm⟩

/-- Two successes and two failures, a call while the breaker is open, two successes when the timeout is over,
    and a failure. -/
def soloCalls : List SoloCall :=
  [⟨0, 10, true⟩, ⟨10, 20, true⟩, ⟨20, 30, false⟩, ⟨30, 40, false⟩, ⟨139, 139, true⟩, ⟨140, 150, true⟩,
    ⟨150, 160, true⟩, ⟨160, 170, false⟩]

theorem sequential_breaker_is_reference_tested : ∃ run,
    BreakerRun.solos "test-cb" testOptions { clock := 0 } soloCalls =
      some ([true, true, true, true, false, true, true, true], run) ∧
    run.breaker.state = .closed ∧ run.breaker.results = [false] := by
  have sized : Number.le (.finite 1) testOptions.windowSize = true := by decide +kernel
  have known : Number.le (.finite 1) testOptions.halfOpenSuccessThreshold = true := by decide +kernel
  have ordered : NonOverlapping 0 soloCalls := by simp [NonOverlapping, soloCalls]
  have path : (ReferenceBreaker.closed []).calls testOptions soloCalls =
      ([true, true, true, true, false, true, true, true], .closed [false]) := by decide +kernel
  obtain ⟨run, called, meets⟩ := sequential_breaker_is_reference "test-cb" sized known ordered
  rw [path] at called meets
  obtain ⟨closed, tracked⟩ := meets
  exact ⟨run, called, closed, tracked.trans (by decide +kernel)⟩

end PaymentModel
