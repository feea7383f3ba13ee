import PaymentSystem.Proof.BreakerMoves

namespace PaymentModel

open CircuitBreaker BreakerRun

variable {name : String} {options : CircuitBreakerOptions} {run next : BreakerRun} {t : Int}

/-- The gate of a breaker that opened at time `t`, when the calls of `old` had been made. -/
structure Guarded (options : CircuitBreakerOptions) (t : Int) (old : List (Int × BreakerNote))
    (run : BreakerRun) : Prop where
  clock : t ≤ run.clock
  gate : (run.breaker.state = .opened ∧ t ≤ run.breaker.lastFailureTime) ∨
    options.resetTimeout.le (.finite (run.clock - t : Int)) = true
  late : ∀ t' call, (t', .invoked call) ∈ run.trace →
    (t', .invoked call) ∈ old ∨ options.resetTimeout.le (.finite (t' - t : Int)) = true

theorem elapsed_later {a : Number} {s t now : Int} (elapsed : a.le (.finite (now - s : Int)) = true)
    (earlier : t ≤ s) : a.le (.finite (now - t : Int)) = true :=
  Number.le_trans_finite elapsed (by exact_mod_cast (by omega : now - s ≤ now - t))

theorem elapsed_longer {a : Number} {t now later : Int} (elapsed : a.le (.finite (now - t : Int)) = true)
    (passed : now ≤ later) : a.le (.finite (later - t : Int)) = true :=
  Number.le_trans_finite elapsed (by exact_mod_cast (by omega : now - t ≤ later - t))

theorem Guarded.moves {old : List (Int × BreakerNote)} (guarded : Guarded options t old run)
    (moves : Moves options run next) : Guarded options t old next := by
  obtain ⟨clock, gate, late⟩ := guarded
  cases moves with
  | wait now later =>
    refine ⟨le_trans clock later, ?_, late⟩
    exact gate.imp_right fun elapsed => elapsed_longer elapsed later
  | pass passes =>
    have elapsed := gate.resolve_left fun shut => passes shut.1
    refine ⟨clock, gate, ?_⟩
    intro t' call member
    rcases List.mem_cons.mp member with here | before
    · cases here
      exact .inr elapsed
    · exact late t' call before
  | probe shut elapsed =>
    have elapsed : options.resetTimeout.le (.finite (run.clock - t : Int)) = true :=
      gate.elim (fun shut => elapsed_later elapsed shut.2) id
    refine ⟨clock, .inr elapsed, ?_⟩
    intro t' call member
    rcases List.mem_cons.mp member with here | member
    · cases here
      exact .inr elapsed
    · rcases List.mem_cons.mp member with here | before
      · cases here
      · exact late t' call before
  | reject shut =>
    refine ⟨clock, gate, ?_⟩
    intro t' call member
    rcases List.mem_cons.mp member with here | before
    · cases here
    · exact late t' call before
  | settle call success runs =>
    refine ⟨by simpa using clock, ?_, ?_⟩
    · simp only [become_breaker, become_clock, note_clock]
      rcases gate with ⟨shut, last⟩ | elapsed
      · have settled := settle_opened options run.clock shut success
        refine .inl ⟨settled.1, ?_⟩
        rcases settled.2 with same | same <;> rw [same]
        · exact last
        · exact clock
      · exact .inr elapsed
    · intro t' call' member
      rw [become_trace] at member
      split at member <;> simp only [note_trace, List.mem_cons, Prod.mk.injEq, reduceCtorEq, and_false,
        false_or] at member <;> exact late t' call' member

theorem guarded_of_opening (moves : Moves options run next) (before : run.breaker.state ≠ .opened)
    (opens : next.breaker.state = .opened) : Guarded options next.clock next.trace next := by
  refine ⟨le_refl _, .inl ⟨opens, ?_⟩, fun _ _ member => .inl member⟩
  cases moves with
  | wait | pass => exact (before opens).elim
  | probe => cases opens
  | reject shut => exact (before shut).elim
  | settle call success runs =>
    rw [become_breaker] at opens
    rw [become_breaker, become_clock]
    exact (settle_opens before opens).ge

/-- No function is called before `resetTimeout` has passed since the breaker opened, and a rejected
    call leaves the breaker as it was. -/
theorem open_means_no_calls {opened later : BreakerRun} (step : BreakerRun.Step name options run opened)
    (before : run.breaker.state ≠ .opened) (opens : opened.breaker.state = .opened)
    (steps : BreakerRun.Steps name options opened later) :
    (∀ t call, (t, .invoked call) ∈ later.trace →
      (t, .invoked call) ∈ opened.trace ∨ options.resetTimeout.le (.finite (t - opened.clock : Int)) = true) ∧
    ∀ next e, later.act name options .execute = some next →
      (later.breaker.execute name options later.clock).1 = .error e → next.breaker = later.breaker := by
  constructor
  · exact (steps.keep _ (fun _ _ guarded moves => guarded.moves moves)
      (guarded_of_opening step.moves before opens)).late
  · intro next e acted rejected
    simp only [act, execute_rejected rejected] at acted
    cases acted
    simp

/-- The options of the unit tests. -/
def testOptions : CircuitBreakerOptions where
  windowSize := .finite 4
  resetTimeout := .finite 100
  halfOpenSuccessThreshold := .finite 2

/-- The breaker of the tests trips at its second failure; 150 ms later a call goes through. -/
theorem open_means_no_calls_tested : ∃ run opened later : BreakerRun,
    BreakerRun.Step "test-cb" testOptions run opened ∧ run.breaker.state = .closed ∧ opened.breaker.state = .opened ∧
      BreakerRun.Steps "test-cb" testOptions opened later ∧ (150, .invoked 4) ∈ later.trace ∧
      ∀ t call, (t, .invoked call) ∈ later.trace →
        (t, .invoked call) ∈ opened.trace ∨ testOptions.resetTimeout.le (.finite (t - opened.clock : Int)) = true := by
  obtain ⟨run, _, shown⟩ := steps_of_acts "test-cb" testOptions { clock := 0 }
    [.execute, .settle 0 true, .execute, .settle 1 true, .execute, .settle 2 false, .execute]
    (fun run => run.breaker.state = .closed &&
      (run.act "test-cb" testOptions (.settle 3 false)).any fun opened => opened.breaker.state = .opened &&
        (opened.acts "test-cb" testOptions [.wait 150, .execute]).any fun later =>
          later.trace.contains (150, .invoked 4)) (by decide +kernel)
  simp only [Bool.and_eq_true, decide_eq_true_eq, Option.any_eq_true] at shown
  obtain ⟨before, opened, acted, opens, last⟩ := shown
  obtain ⟨later, steps, invoked⟩ := steps_of_acts _ _ _ _ _ ((Option.any_eq_true _ _).mpr last)
  have trips : BreakerRun.Step "test-cb" testOptions run opened := ⟨.settle 3 false, acted⟩
  exact ⟨run, opened, later, trips, before, opens, steps, by simpa using invoked,
    (open_means_no_calls trips (by simp [before]) opens steps).1⟩

end PaymentModel
