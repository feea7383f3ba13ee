import PaymentSystem.Properties.OpenCircuit

namespace PaymentModel

open CircuitBreaker BreakerRun

variable {name : String} {options : CircuitBreakerOptions} {run next : BreakerRun} {t : Int}
  {o : BreakerNote} {trace : List (Int × BreakerNote)}

/-- The notes since the breaker last became half open. -/
def period (trace : List (Int × BreakerNote)) : List (Int × BreakerNote) :=
  trace.takeWhile fun entry => entry.2 ≠ .entered .halfOpen

def successes (trace : List (Int × BreakerNote)) : List Nat :=
  trace.filterMap fun entry => match entry.2 with
    | .settled call true => some call
    | _ => none

def admittedIn (trace : List (Int × BreakerNote)) (call : Nat) : Bool :=
  trace.any fun entry => entry.2 = .invoked call

/-- The calls admitted in the present half-open period that have succeeded in it. -/
def probes (trace : List (Int × BreakerNote)) : List Nat :=
  (successes (period trace)).filter (admittedIn (period trace))

theorem period_cons (kept : o ≠ .entered .halfOpen) : period ((t, o) :: trace) = (t, o) :: period trace := by
  rw [period, List.takeWhile_cons_of_pos (by simpa using kept)]
  rfl

theorem period_entered : period ((t, .entered .halfOpen) :: trace) = [] := by
  rw [period, List.takeWhile_cons_of_neg (by simp)]

@[simp] theorem successes_succeeded (call : Nat) :
    successes ((t, .settled call true) :: trace) = call :: successes trace := rfl

theorem successes_other (other : ∀ call, o ≠ .settled call true) :
    successes ((t, o) :: trace) = successes trace := by
  rw [successes, List.filterMap_cons_none]
  · rfl
  · split
    · rename_i is
      exact (other _ is).elim
    · rfl

theorem successes_period : (successes (period trace)).Sublist (successes trace) :=
  (List.takeWhile_sublist _).filterMap _

theorem successes_become (run : BreakerRun) (breaker : CircuitBreaker) :
    successes (run.become breaker).trace = successes run.trace := by
  rw [become_trace]
  split
  · rfl
  · exact successes_other (by simp)

/-- No call succeeds twice. -/
structure SuccessOnce (run : BreakerRun) : Prop where
  distinct : (successes run.trace).Nodup
  past : ∀ call ∈ successes run.trace, call < run.calls
  running : ∀ entry ∈ run.running, entry.1 < run.calls ∧ entry.1 ∉ successes run.trace

theorem SuccessOnce.initial (clock : Int) : SuccessOnce { clock } where
  distinct := List.nodup_nil
  past := by simp [successes]
  running := by simp

theorem SuccessOnce.invoke {state : CircuitState} (once : SuccessOnce run)
    (same : successes next.trace = successes run.trace) (calls : next.calls = run.calls + 1)
    (running : next.running = (run.calls, state) :: run.running) : SuccessOnce next where
  distinct := same ▸ once.distinct
  past call member := by
    have := once.past call (same ▸ member)
    omega
  running entry member := by
    rw [same, calls]
    rcases List.mem_cons.mp (running ▸ member) with rfl | before
    · refine ⟨Nat.lt_succ_self _, fun old => ?_⟩
      exact Nat.lt_irrefl _ (once.past _ old)
    · exact (once.running entry before).imp_left Nat.lt_succ_of_lt

theorem SuccessOnce.moves (once : SuccessOnce run) (moves : Moves options run next) : SuccessOnce next := by
  cases moves with
  | wait now later => exact ⟨once.distinct, once.past, once.running⟩
  | pass passes => exact once.invoke (successes_other (by simp)) rfl rfl
  | probe shut elapsed =>
    refine once.invoke ?_ rfl rfl
    exact (successes_other (by simp)).trans (successes_other (by simp))
  | reject shut =>
    have same : successes ((run.clock, .rejected run.calls) :: run.trace) = successes run.trace :=
      successes_other (by simp)
    refine ⟨same ▸ once.distinct, fun call member => ?_, fun entry member => ?_⟩
    · exact Nat.lt_succ_of_lt (once.past call (same ▸ member))
    · exact ⟨Nat.lt_succ_of_lt (once.running entry member).1, same ▸ (once.running entry member).2⟩
  | settle call success runs =>
    obtain ⟨entry, member, rfl⟩ := runs
    obtain ⟨bound, new⟩ := once.running entry member
    constructor <;> simp only [successes_become, become_running, become_calls, note_trace, note_calls, note_running]
    · cases success with
      | true => exact List.nodup_cons.mpr ⟨new, once.distinct⟩
      | false => exact once.distinct
    · cases success with
      | true => exact List.forall_mem_cons.mpr ⟨bound, once.past⟩
      | false => exact once.past
    · intro other member
      obtain ⟨member, differs⟩ := List.mem_filter.mp member
      obtain ⟨bound', new'⟩ := once.running other member
      refine ⟨bound', ?_⟩
      cases success with
      | true =>
        rw [successes_succeeded, List.mem_cons, not_or]
        exact ⟨of_decide_eq_true differs, new'⟩
      | false => exact new'

/-- A half-open breaker counts the successes of its period and stays below the threshold. -/
def Counted (options : CircuitBreakerOptions) (run : BreakerRun) : Prop :=
  run.breaker.state = .halfOpen →
    run.breaker.halfOpenSuccesses = (successes (period run.trace)).length ∧
      ¬options.halfOpenSuccessThreshold.le (.finite run.breaker.halfOpenSuccesses) = true

theorem Counted.moves (probed : Number.le (.finite 1) options.halfOpenSuccessThreshold = true)
    (counted : Counted options run) (moves : Moves options run next) : Counted options next := by
  intro half
  cases moves with
  | wait now later => exact counted half
  | pass passes =>
    simp only [note_trace, note_breaker]
    rw [period_cons (by simp), successes_other (by simp)]
    exact counted half
  | probe shut elapsed =>
    simp only [note_trace, note_breaker]
    rw [period_cons (by simp), successes_other (by simp), period_entered]
    refine ⟨rfl, ?_⟩
    cases threshold : options.halfOpenSuccessThreshold with
    | finite q =>
      rw [threshold] at probed
      simp only [Number.le, decide_eq_true_eq, not_le] at probed ⊢
      exact lt_of_lt_of_le (by simp [transitionTo]) probed
    | nan | infinity => simp [Number.le]
    | negInfinity =>
      rw [threshold] at probed
      cases probed
  | reject shut => cases shut.symm.trans half
  | settle call success runs =>
    rw [become_breaker] at half ⊢
    obtain ⟨before, rfl, successes, below⟩ := settle_halfOpen half
    obtain ⟨count, _⟩ := counted before
    rw [become_trace, note_breaker, if_pos (half.trans before.symm), note_trace, period_cons (by simp),
      successes_succeeded, List.length_cons, successes, count]
    exact ⟨rfl, by rwa [← count]⟩

theorem counted (probed : Number.le (.finite 1) options.halfOpenSuccessThreshold = true)
    (reached : Reachable name options run) : Counted options run ∧ SuccessOnce run := by
  obtain ⟨clock, steps⟩ := reached
  constructor
  · exact steps.keep _ (fun _ _ counted moves => counted.moves probed moves) fun half => by cases half
  · exact steps.keep _ (fun _ _ once moves => once.moves moves) (.initial clock)

/-- The threshold is reached by the successes of one period, none of them to spare. -/
theorem closing_step (probed : Number.le (.finite 1) options.halfOpenSuccessThreshold = true)
    (reached : Reachable name options run) (step : BreakerRun.Step name options run next)
    (half : run.breaker.state = .halfOpen) (closes : next.breaker.state = .closed) :
    ∃ n, (successes (period next.trace)).length = n + 1 ∧
      options.halfOpenSuccessThreshold.le (.finite (n + 1 : Nat)) = true ∧
      ¬options.halfOpenSuccessThreshold.le (.finite n) = true := by
  obtain ⟨count, below⟩ := (counted probed reached).1 half
  cases step.moves with
  | wait | pass => cases half.symm.trans closes
  | probe shut | reject shut => cases half.symm.trans shut
  | settle call success runs =>
    rw [become_breaker] at closes
    obtain ⟨rfl, reaches⟩ := settle_closes half closes
    refine ⟨run.breaker.halfOpenSuccesses, ?_, reaches, below⟩
    rw [become_trace, note_breaker, if_neg (by simp [closes, half]), note_trace, period_cons (by simp [closes]),
      period_cons (by simp), successes_other (by simp), successes_succeeded, List.length_cons, count]

/-- A breaker closes on as many successful probes as its options ask for exactly when no call of an
    earlier period succeeded in the half-open period. -/
theorem closed_by_probes_iff (probed : Number.le (.finite 1) options.halfOpenSuccessThreshold = true)
    (reached : Reachable name options run) (step : BreakerRun.Step name options run next)
    (half : run.breaker.state = .halfOpen) (closes : next.breaker.state = .closed) :
    (probes next.trace).Nodup ∧
      (options.halfOpenSuccessThreshold.le (.finite (probes next.trace).length) = true ↔
        ∀ call ∈ successes (period next.trace), admittedIn (period next.trace) call = true) := by
  obtain ⟨n, length, reaches, below⟩ := closing_step probed reached step half closes
  have reached' : Reachable name options next := by
    obtain ⟨clock, steps⟩ := reached
    exact ⟨clock, steps.tail step⟩
  refine ⟨((counted probed reached').2.distinct.sublist successes_period).filter _, ?_⟩
  rw [← List.length_filter_eq_length_iff, length]
  constructor
  · intro enough
    have few : (probes next.trace).length ≤ n + 1 := length ▸ List.length_filter_le _ _
    by_contra fewer
    refine below (Number.le_trans_finite enough ?_)
    exact_mod_cast Nat.le_of_lt_succ (lt_of_le_of_ne few fewer)
  · intro all
    rw [probes, all]
    exact reaches

/-- A run whose next action closes the half-open breaker, with a check of the probes that did it. -/
theorem closing_of_acts (name : String) (options : CircuitBreakerOptions) (actions : List BreakerAction)
    (last : BreakerAction) (check : List Nat → Bool)
    (shown : ((({ clock := 0 } : BreakerRun).acts name options actions).any fun run =>
      run.breaker.state = .halfOpen && (run.act name options last).any fun next =>
        next.breaker.state = .closed && check (probes next.trace)) = true) :
    ∃ run next, Reachable name options run ∧ BreakerRun.Step name options run next ∧ run.breaker.state = .halfOpen ∧
      next.breaker.state = .closed ∧ check (probes next.trace) = true := by
  obtain ⟨run, steps, shown⟩ := steps_of_acts _ _ _ _ _ shown
  simp only [Bool.and_eq_true, decide_eq_true_eq, Option.any_eq_true] at shown
  obtain ⟨half, next, acted, closes, checked⟩ := shown
  exact ⟨run, next, ⟨0, steps⟩, ⟨last, acted⟩, half, closes, checked⟩

/-- Two probes close the breaker of the tests. -/
theorem closed_by_probes_tested : ∃ run next : BreakerRun, Reachable "test-cb" testOptions run ∧
    BreakerRun.Step "test-cb" testOptions run next ∧ run.breaker.state = .halfOpen ∧ next.breaker.state = .closed ∧
      probes next.trace = [5, 4] ∧
      (testOptions.halfOpenSuccessThreshold.le (.finite (probes next.trace).length) = true ↔
        ∀ call ∈ successes (period next.trace), admittedIn (period next.trace) call = true) := by
  obtain ⟨run, next, reached, step, half, closes, checked⟩ := closing_of_acts "test-cb" testOptions
    [.execute, .settle 0 true, .execute, .settle 1 true, .execute, .settle 2 false, .execute, .settle 3 false,
      .wait 150, .execute, .settle 4 true, .execute] (.settle 5 true) (fun calls => calls = [5, 4])
    (by decide +kernel)
  exact ⟨run, next, reached, step, half, closes, of_decide_eq_true checked,
    (closed_by_probes_iff (by decide +kernel) reached step half closes).2⟩

/-- Three calls admitted before the breaker of the gateway opened close it when they succeed after
    the reset timeout; the one probe is still running. -/
theorem closed_without_probes : ¬∀ run next : BreakerRun,
    Reachable "payment-gateway" gatewayCircuitBreakerOptions run →
      BreakerRun.Step "payment-gateway" gatewayCircuitBreakerOptions run next → run.breaker.state = .halfOpen →
        next.breaker.state = .closed →
          gatewayCircuitBreakerOptions.halfOpenSuccessThreshold.le (.finite (probes next.trace).length) = true := by
  obtain ⟨run, next, reached, step, half, closes, checked⟩ := closing_of_acts "payment-gateway"
    gatewayCircuitBreakerOptions (List.replicate 13 .execute ++ (List.range 10).map (.settle · false) ++
      [.wait 30000, .execute, .settle 10 true, .settle 11 true]) (.settle 12 true) (fun calls => calls = [])
    (by decide +kernel)
  intro enough
  have three := enough run next reached step half closes
  rw [of_decide_eq_true checked] at three
  exact absurd three (by decide +kernel)

end PaymentModel
