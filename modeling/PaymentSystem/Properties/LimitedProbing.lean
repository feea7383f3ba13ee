import Mathlib.Algebra.Order.Field.Basic
import Mathlib.Data.Rat.Floor
import PaymentSystem.Proof.BreakerMoves

namespace PaymentModel

open CircuitBreaker BreakerRun

variable {name : String} {options : CircuitBreakerOptions} {breaker : CircuitBreaker} {run next : BreakerRun}

/-- The unfinished calls that were admitted while the breaker was half open. -/
def probing (run : BreakerRun) : Nat := run.running.countP fun entry => entry.2 = .halfOpen

/-- The options under which a breaker can become half open: failures can fill the window and reach
    the threshold, and the reset timeout ends. -/
def CircuitBreakerOptions.CanProbe (options : CircuitBreakerOptions) : Prop :=
  (options.windowSize = .nan ∨ ∃ n : Nat, options.windowSize = .finite (n + 1 : Nat)) ∧
    options.failureThreshold.le (.finite 1) = true ∧ options.resetTimeout.lt .infinity = true

/-- A breaker that has never been half open. -/
def Unprobed (run : BreakerRun) : Prop :=
  run.breaker.state ≠ .halfOpen ∧ ∀ entry ∈ run.running, entry.2 ≠ .halfOpen

theorem Unprobed.initial (clock : Int) : Unprobed { clock } := ⟨by simp, by simp⟩

theorem Unprobed.probing (unprobed : Unprobed run) : probing run = 0 := by
  rw [PaymentModel.probing, List.countP_eq_zero]
  intro entry member
  simpa using unprobed.2 entry member

/-- Only a call after the reset timeout makes a breaker half open. -/
theorem Unprobed.moves (unprobed : Unprobed run) (moves : Moves options run next)
    (shut : run.breaker.state = .opened → options.resetTimeout.lt .infinity = false) : Unprobed next := by
  cases moves with
  | wait | reject => exact unprobed
  | pass passes => exact ⟨unprobed.1, List.forall_mem_cons.mpr ⟨unprobed.1, unprobed.2⟩⟩
  | probe opened elapsed =>
    have never := shut opened
    cases timeout : options.resetTimeout <;> rw [timeout] at never elapsed <;> cases never <;> cases elapsed
  | settle call success runs =>
    refine ⟨fun half => ?_, fun entry member => ?_⟩
    · rw [become_breaker] at half
      exact unprobed.1 (settle_halfOpen half).1
    · rw [become_running] at member
      exact unprobed.2 entry (List.mem_filter.mp member).1

theorem failureRate_le_one {threshold : Number} {results : List Bool}
    (reached : threshold.le (failureRate results) = true) : threshold.le (.finite 1) = true := by
  unfold failureRate at reached
  split at reached
  · cases threshold <;> cases reached
  · rename_i some
    refine Number.le_trans_finite reached ?_
    have positive : (0 : Rat) < results.length := by exact_mod_cast Nat.pos_of_ne_zero some
    rw [div_le_one positive]
    exact_mod_cast List.countP_le_length

/-- A breaker that has always been closed, with results of which a property holds. -/
structure Calm (property : List Bool → Prop) (run : BreakerRun) : Prop where
  closed : run.breaker.state = .closed
  results : property run.breaker.results
  unprobed : Unprobed run

theorem Calm.moves {property : List Bool → Prop} (calm : Calm property run) (moves : Moves options run next)
    (record : ∀ (breaker : CircuitBreaker) (success : Bool), property breaker.results →
      property (breaker.recordResult options success).results)
    (below : ∀ breaker : CircuitBreaker, property breaker.results → breaker.checkThreshold options = breaker) :
    Calm property next := by
  obtain ⟨closed, results, unprobed⟩ := calm
  have unprobed := unprobed.moves moves fun shut => by cases closed.symm.trans shut
  cases moves with
  | wait | pass | reject => exact ⟨closed, results, unprobed⟩
  | probe shut => cases closed.symm.trans shut
  | settle call success runs =>
    have settled : (run.breaker.settle options run.clock success).state = .closed ∧
        property (run.breaker.settle options run.clock success).results := by
      cases success with
      | true =>
        simp only [settle, onSuccess, closed, reduceCtorEq, if_true, if_false]
        exact ⟨closed, record _ _ results⟩
      | false =>
        have recorded := record { run.breaker with lastFailureTime := run.clock } false results
        simp only [settle, onFailure, closed, reduceCtorEq, if_false, Bool.false_eq_true] at recorded ⊢
        rw [below _ recorded]
        exact ⟨rfl, recorded⟩
    exact ⟨by rw [become_breaker]; exact settled.1, by rw [become_breaker]; exact settled.2, unprobed⟩

/-- A breaker stays closed when its results keep a property under which the threshold is not met. -/
theorem calm_of_results (property : List Bool → Prop) (fresh : property [])
    (record : ∀ (breaker : CircuitBreaker) (success : Bool), property breaker.results →
      property (breaker.recordResult options success).results)
    (below : ∀ breaker : CircuitBreaker, property breaker.results → breaker.checkThreshold options = breaker)
    (reached : Reachable name options run) : Calm property run := by
  obtain ⟨clock, steps⟩ := reached
  exact steps.keep _ (fun _ _ calm moves => calm.moves moves record below) ⟨rfl, fresh, .initial clock⟩

theorem checkThreshold_high (high : ¬options.failureThreshold.le (.finite 1) = true) :
    breaker.checkThreshold options = breaker := by
  unfold checkThreshold
  split
  · rfl
  · rw [if_neg fun reached => high (failureRate_le_one reached)]

/-- A window that never fills up. -/
def Slack (options : CircuitBreakerOptions) (results : List Bool) : Prop :=
  results = [] ∨ Number.lt (.finite results.length) options.windowSize = true

theorem Slack.checkThreshold (slack : Slack options breaker.results) :
    breaker.checkThreshold options = breaker := by
  unfold CircuitBreaker.checkThreshold
  split
  · rfl
  · rename_i filled
    have empty := slack.resolve_right filled
    have never : options.failureThreshold.le (failureRate breaker.results) = false := by
      rw [empty]
      cases options.failureThreshold <;> rfl
    rw [never]
    rfl

theorem Slack.recordResult (odd : ¬(options.windowSize = .nan ∨ ∃ n : Nat, options.windowSize = .finite (n + 1 : Nat)))
    (slack : Slack options breaker.results) (success : Bool) :
    Slack options (breaker.recordResult options success).results := by
  obtain ⟨number, whole⟩ := not_or.mp odd
  have length : (breaker.results ++ [success]).length = breaker.results.length + 1 := by simp
  simp only [CircuitBreaker.recordResult]
  split
  · rcases slack with empty | short
    · exact .inl (by simp [empty])
    · refine .inr ?_
      rwa [List.length_drop, length, Nat.add_sub_cancel]
  · rename_i fits
    refine .inr ?_
    rw [length] at fits ⊢
    cases window : options.windowSize with
    | nan => exact (number window).elim
    | negInfinity =>
      rw [window] at fits
      exact (fits rfl).elim
    | infinity => rfl
    | finite q =>
      rw [window] at fits
      simp only [Number.lt, decide_eq_true_eq, not_lt] at fits ⊢
      refine lt_of_le_of_ne fits fun same => whole ⟨breaker.results.length, ?_⟩
      rw [window, same]

theorem unprobed_of_options (reached : Reachable name options run) (never : ¬options.CanProbe) : Unprobed run := by
  by_cases window : options.windowSize = .nan ∨ ∃ n : Nat, options.windowSize = .finite (n + 1 : Nat)
  · by_cases threshold : options.failureThreshold.le (.finite 1) = true
    · have timeout : options.resetTimeout.lt .infinity = false := by
        by_contra ends
        exact never ⟨window, threshold, by simpa using ends⟩
      obtain ⟨clock, steps⟩ := reached
      exact steps.keep _ (fun _ _ unprobed moves => unprobed.moves moves fun _ => timeout) (.initial clock)
    · exact (calm_of_results (fun _ => True) trivial (fun _ _ _ => trivial)
        (fun _ _ => checkThreshold_high threshold) reached).unprobed
  · exact (calm_of_results (Slack options) (.inl rfl)
      (fun _ success slack => slack.recordResult window success) (fun _ slack => slack.checkThreshold)
      reached).unprobed

theorem fail_once (reached : Reachable name options run) (passes : run.breaker.state ≠ .opened) :
    ∃ next, Reachable name options next ∧ next.breaker = run.breaker.onFailure options run.clock ∧
      next.clock = run.clock := by
  obtain ⟨clock, steps⟩ := reached
  have invoked := steps.tail ⟨.execute, act_pass name options passes⟩
  have failed := invoked.tail ⟨.settle run.calls false, act_settle name false ⟨_, List.mem_cons_self, rfl⟩⟩
  exact ⟨_, ⟨clock, failed⟩, by rw [become_breaker]; rfl, by rw [become_clock]; rfl⟩

theorem failureRate_failures (k : Nat) : failureRate (List.replicate (k + 1) false) = .finite 1 := by
  have positive : ((k : Rat) + 1) ≠ 0 := by exact_mod_cast Nat.succ_ne_zero k
  simp [failureRate, List.countP_replicate, div_self positive]

theorem onFailure_failures {k : Nat} (closed : breaker.state = .closed)
    (results : breaker.results = List.replicate k false)
    (fits : options.windowSize.lt (.finite (k + 1 : Nat)) = false) (now : Int) :
    (Number.lt (.finite (k + 1 : Nat)) options.windowSize = true →
      (breaker.onFailure options now).state = .closed ∧
        (breaker.onFailure options now).results = List.replicate (k + 1) false) ∧
    (Number.lt (.finite (k + 1 : Nat)) options.windowSize = false →
      options.failureThreshold.le (.finite 1) = true → (breaker.onFailure options now).state = .opened) := by
  have appended : List.replicate k false ++ [false] = List.replicate (k + 1) false := by
    rw [List.replicate_succ']
  simp only [onFailure, closed, reduceCtorEq, if_false, CircuitBreaker.recordResult, results, appended,
    List.length_replicate, fits, Bool.false_eq_true, checkThreshold]
  constructor
  · intro short
    rw [if_pos short]
    exact ⟨rfl, rfl⟩
  · intro filled low
    rw [if_neg (by rw [filled]; decide), failureRate_failures, if_pos low]
    rfl

theorem failures_reached {n : Nat} (window : options.windowSize = .finite (n + 1 : Nat)) (name : String) (k : Nat)
    (short : k ≤ n) : ∃ run, Reachable name options run ∧ run.breaker.state = .closed ∧
      run.breaker.results = List.replicate k false := by
  induction k with
  | zero => exact ⟨{ clock := 0 }, ⟨0, .refl⟩, rfl, rfl⟩
  | succ k ih =>
    obtain ⟨run, reached, closed, results⟩ := ih (by omega)
    obtain ⟨next, reached, failed, _⟩ := fail_once reached (by simp [closed])
    have fits : options.windowSize.lt (.finite (k + 1 : Nat)) = false := by
      simp only [window, Number.lt, decide_eq_false_iff_not, not_lt]
      exact_mod_cast (by omega : k + 1 ≤ n + 1)
    have short : Number.lt (.finite (k + 1 : Nat)) options.windowSize = true := by
      simp only [window, Number.lt, decide_eq_true_eq]
      exact_mod_cast (by omega : k + 1 < n + 1)
    obtain ⟨closed', results'⟩ := (onFailure_failures closed results fits run.clock).1 short
    exact ⟨next, reached, by rw [failed, closed'], by rw [failed, results']⟩

theorem opened_reached (possible : options.CanProbe) (name : String) :
    ∃ run, Reachable name options run ∧ run.breaker.state = .opened := by
  obtain ⟨window, threshold, _⟩ := possible
  rcases window with window | ⟨n, window⟩
  · have fresh : Reachable name options { clock := 0 } := ⟨0, .refl⟩
    obtain ⟨next, reached, failed, _⟩ := fail_once fresh (by simp)
    have fits : options.windowSize.lt (.finite (0 + 1 : Nat)) = false := by rw [window]; rfl
    have filled : Number.lt (.finite (0 + 1 : Nat)) options.windowSize = false := by rw [window]; rfl
    exact ⟨next, reached, failed ▸ (onFailure_failures rfl rfl fits 0).2 filled threshold⟩
  · obtain ⟨run, reached, closed, results⟩ := failures_reached window name n (le_refl n)
    obtain ⟨next, reached, failed, _⟩ := fail_once reached (by simp [closed])
    have fits : options.windowSize.lt (.finite (n + 1 : Nat)) = false := by
      simp only [window, Number.lt, lt_irrefl, decide_false]
    have filled : Number.lt (.finite (n + 1 : Nat)) options.windowSize = false := by
      simp only [window, Number.lt, lt_irrefl, decide_false]
    exact ⟨next, reached, failed ▸ (onFailure_failures closed results fits run.clock).2 filled threshold⟩

theorem elapses {timeout : Number} (ends : timeout.lt .infinity = true) (s now : Int) :
    ∃ later, now ≤ later ∧ timeout.le (.finite (later - s : Int)) = true := by
  cases timeout with
  | nan | infinity => cases ends
  | negInfinity => exact ⟨now, le_refl _, rfl⟩
  | finite q =>
    refine ⟨max now (s + ⌈q⌉), le_max_left _ _, ?_⟩
    simp only [Number.le, decide_eq_true_eq]
    exact le_trans (Int.le_ceil q) (by exact_mod_cast (by omega : ⌈q⌉ ≤ max now (s + ⌈q⌉) - s))

theorem halfOpen_reached (possible : options.CanProbe) (name : String) :
    ∃ run, Reachable name options run ∧ run.breaker.state = .halfOpen := by
  obtain ⟨run, ⟨clock, steps⟩, shut⟩ := opened_reached possible name
  obtain ⟨later, passed, elapsed⟩ := elapses possible.2.2 run.breaker.lastFailureTime run.clock
  have waited : BreakerRun.Step name options run { run with clock := later } := ⟨.wait later, by simp [act, passed]⟩
  exact ⟨_, ⟨clock, (steps.tail waited).tail ⟨.execute, act_probe name shut elapsed⟩⟩, rfl⟩

/-- A half-open breaker lets any number of calls through. -/
theorem probing_unbounded (possible : options.CanProbe) (name : String) (bound : Nat) :
    ∃ run, Reachable name options run ∧ run.breaker.state = .halfOpen ∧ bound ≤ probing run := by
  induction bound with
  | zero =>
    obtain ⟨run, reached, half⟩ := halfOpen_reached possible name
    exact ⟨run, reached, half, Nat.zero_le _⟩
  | succ bound ih =>
    obtain ⟨run, ⟨clock, steps⟩, half, many⟩ := ih
    have passes : run.breaker.state ≠ .opened := by simp [half]
    refine ⟨_, ⟨clock, steps.tail ⟨.execute, act_pass name options passes⟩⟩, half, ?_⟩
    simp only [probing, note_running, half]
    rw [List.countP_cons_of_pos (by simp)]
    exact Nat.succ_le_succ many

/-- The number of unfinished half-open calls is bounded exactly when the breaker cannot become half
    open. -/
theorem limited_probing_iff (name : String) (options : CircuitBreakerOptions) :
    (∃ bound, ∀ run, Reachable name options run → probing run ≤ bound) ↔ ¬options.CanProbe := by
  constructor
  · rintro ⟨bound, limited⟩ possible
    obtain ⟨run, reached, _, many⟩ := probing_unbounded possible name (bound + 1)
    have := limited run reached
    omega
  · intro never
    exact ⟨0, fun run reached => (unprobed_of_options reached never).probing.le⟩

/-- The breaker of the gateway lets more calls probe than any bound allows. -/
theorem probing_unlimited :
    ¬∃ bound, ∀ run, Reachable "payment-gateway" gatewayCircuitBreakerOptions run → probing run ≤ bound := by
  rintro ⟨bound, limited⟩
  have possible : gatewayCircuitBreakerOptions.CanProbe := ⟨.inr ⟨9, by decide +kernel⟩, by decide +kernel, rfl⟩
  obtain ⟨run, reached, _, many⟩ := probing_unbounded possible "payment-gateway" (bound + 1)
  have := limited run reached
  omega

end PaymentModel
