import PaymentSystem.Properties.OpenCircuit
import PaymentSystem.Proof.BreakerWindow

namespace PaymentModel

open CircuitBreaker BreakerRun

variable {name : String} {options : CircuitBreakerOptions} {start run next : BreakerRun} {outcomes : List Bool}

/-- The outcomes since the breaker last changed its state, the oldest first. -/
def outcomesSince : List (Int × BreakerNote) → List Bool
  | [] => []
  | (_, .settled _ success) :: trace => outcomesSince trace ++ [success]
  | (_, .entered _) :: _ => []
  | _ :: trace => outcomesSince trace

/-- What is true of a closed breaker: the window holds the last outcomes, and it is below the threshold if
    one of the outcomes from the one on that filled it is a failure. -/
structure Watched (options : CircuitBreakerOptions) (run : BreakerRun) : Prop where
  tracked : run.breaker.results = lastOutcomes options.windowSize (outcomesSince run.trace)
  below : ∀ count : Nat, options.windowSize = .finite count → false ∈ (outcomesSince run.trace).drop (count - 1) →
    ¬(options.failureThreshold.times count).le (.finite (failures run.breaker.results)) = true

theorem failures_append (first second : List Bool) :
    failures (first ++ second) = failures first + failures second := List.countP_append ..

/-- A success brings no failure into the window. -/
theorem failures_after_success {count : Nat} (some : 0 < count) (outcomes : List Bool) :
    failures ((outcomes ++ [true]).rtake count) ≤ failures (outcomes.rtake count) := by
  obtain ⟨rest, rfl⟩ : ∃ rest, count = rest + 1 := ⟨count - 1, by omega⟩
  have shorter : (outcomes.rtake rest).Sublist (outcomes.rtake (rest + 1)) :=
    List.drop_sublist_drop_left outcomes (by omega)
  rw [List.rtake_concat_succ, failures_append]
  have fewer : failures (outcomes.rtake rest) ≤ failures (outcomes.rtake (rest + 1)) := shorter.countP_le
  exact fewer

theorem closes_empty (shut : run.breaker.state ≠ .closed) {now : Int} {success : Bool}
    (closes : (run.breaker.settle options now success).state = .closed) :
    (run.breaker.settle options now success).results = [] := by
  cases is : run.breaker.state with
  | closed => exact (shut is).elim
  | opened =>
    have stays := (settle_opened options now is success).1
    cases closes.symm.trans stays
  | halfOpen =>
    have succeeded := settle_closes is closes
    obtain ⟨rfl, reached⟩ := succeeded
    simp only [settle, onSuccess, if_true, is, reached]
    rfl

theorem outcomesSince_settled (run : BreakerRun) (call : Nat) (success : Bool) (breaker : CircuitBreaker) :
    outcomesSince (({ run with running := run.running.filter fun entry => entry.1 ≠ call }.note
      (.settled call success)).become breaker).trace =
        if breaker.state = run.breaker.state then outcomesSince run.trace ++ [success] else [] := by
  by_cases same : breaker.state = run.breaker.state
  · rw [if_pos same, become_trace]
    simp [same, outcomesSince]
  · rw [if_neg same, become_trace]
    simp [same, outcomesSince]

theorem Watched.settle (sized : Number.le (.finite 1) options.windowSize = true) (watched : Watched options run)
    (closed : run.breaker.state = .closed) (call : Nat) (success : Bool)
    (stays : (run.breaker.settle options run.clock success).state = .closed) :
    Watched options (({ run with running := run.running.filter fun entry => entry.1 ≠ call }.note
      (.settled call success)).become (run.breaker.settle options run.clock success)) := by
  have settled := settle_closed sized closed watched.tracked run.clock success
  have passes : ¬Trips options (outcomesSince run.trace) success := by
    intro trips
    rw [if_pos trips, stays] at settled
    cases settled.2
  have trace := outcomesSince_settled run call success (run.breaker.settle options run.clock success)
  rw [if_pos (stays.trans closed.symm)] at trace
  refine ⟨by rw [become_breaker, trace, settled.1], ?_⟩
  intro count is failed
  have counted : (1 : Rat) ≤ count := by simpa [is, Number.le] using sized
  have some : 0 < count := by exact_mod_cast counted
  rw [trace] at failed
  rw [become_breaker, settled.1, is, lastOutcomes_whole]
  cases success with
  | false =>
    have there : count ≤ (outcomesSince run.trace ++ [false]).length := by
      have within := List.length_pos_of_mem failed
      rw [List.length_drop] at within
      omega
    exact fun reached => passes ⟨rfl, count, there, is, reached⟩
  | true =>
    have earlier : false ∈ (outcomesSince run.trace).drop (count - 1) := by
      rw [List.drop_append, List.mem_append] at failed
      exact failed.resolve_right fun last => Bool.noConfusion (List.mem_singleton.mp (List.mem_of_mem_drop last))
    have before := watched.below count is earlier
    rw [watched.tracked, is, lastOutcomes_whole] at before
    have fewer := failures_after_success some (outcomesSince run.trace)
    exact fun reached => before (Number.le_trans_finite reached (by exact_mod_cast fewer))

theorem watched_moves (sized : Number.le (.finite 1) options.windowSize = true)
    (watched : run.breaker.state = .closed → Watched options run) (moves : Moves options run next)
    (closed : next.breaker.state = .closed) : Watched options next := by
  cases moves with
  | wait | pass => exact ⟨(watched closed).tracked, (watched closed).below⟩
  | probe => cases closed
  | reject shut => cases shut.symm.trans closed
  | settle call success runs =>
    rw [become_breaker] at closed
    by_cases before : run.breaker.state = .closed
    · exact (watched before).settle sized before call success closed
    · have none := outcomesSince_settled run call success (run.breaker.settle options run.clock success)
      rw [if_neg fun same => before (same.symm.trans closed)] at none
      constructor
      · rw [become_breaker, none, closes_empty before closed, lastOutcomes_nil]
      · intro count is failed
        rw [none, List.drop_nil] at failed
        cases failed

theorem watched_start (start : BreakerRun) : Watched options start.reset where
  tracked := (lastOutcomes_nil _).symm
  below := by
    intro count _ failed
    simp [BreakerRun.reset, outcomesSince] at failed

/-- The threshold is checked at failures only. While the breaker is closed, a window that is full is below it
    if one of the calls that ended since the window filled up has failed. -/
theorem closed_window_below_threshold {threshold : Rat} (sized : Number.le (.finite 1) options.windowSize = true)
    (rate : options.failureThreshold = .finite threshold) (steps : BreakerRun.Steps name options start.reset run)
    (closed : run.breaker.state = .closed) (full : options.windowSize = .finite run.breaker.results.length)
    (failed : false ∈ (outcomesSince run.trace).drop (run.breaker.results.length - 1)) :
    (failures run.breaker.results : Rat) < threshold * run.breaker.results.length := by
  have watched := steps.keep (fun run => run.breaker.state = .closed → Watched options run)
    (fun _ _ held moves => watched_moves sized held moves) fun _ => watched_start start
  have below := (watched closed).below _ full failed
  rw [rate] at below
  simpa [Number.times, Number.le] using below

theorem closed_window_below_threshold_tested : ∃ run : BreakerRun,
    BreakerRun.Steps "test-cb" testOptions ({ clock := 0 } : BreakerRun).reset run ∧ run.breaker.state = .closed ∧
      run.breaker.results = [true, true, false, true] ∧ (failures run.breaker.results : Rat) < 1 / 2 * 4 := by
  obtain ⟨run, steps, shown⟩ := steps_of_acts "test-cb" testOptions ({ clock := 0 } : BreakerRun).reset
    [.execute, .settle 0 true, .execute, .settle 1 true, .execute, .execute, .settle 3 true, .settle 2 false,
      .execute, .settle 4 true]
    (fun run => run.breaker.state = .closed && run.breaker.results = [true, true, false, true] &&
      ((outcomesSince run.trace).drop 3).contains false) (by decide +kernel)
  simp only [Bool.and_eq_true, decide_eq_true_eq, List.contains_iff_mem] at shown
  obtain ⟨⟨closed, results⟩, failed⟩ := shown
  have full : testOptions.windowSize = .finite run.breaker.results.length := by rw [results]; decide +kernel
  have below := closed_window_below_threshold (by decide +kernel) rfl steps closed full (by rw [results]; exact failed)
  exact ⟨run, steps, closed, results, by simpa [results] using below⟩

/-- Two failures and then two successes fill the window of the tests: the breaker stays closed at its
    threshold. -/
theorem closed_window_at_threshold : ∃ run : BreakerRun, BreakerRun.Reachable "test-cb" testOptions run ∧
    run.breaker.state = .closed ∧ testOptions.windowSize = .finite run.breaker.results.length ∧
      testOptions.failureThreshold = .finite (1 / 2) ∧
        ¬(failures run.breaker.results : Rat) < 1 / 2 * run.breaker.results.length := by
  obtain ⟨run, steps, shown⟩ := steps_of_acts "test-cb" testOptions { clock := 0 }
    [.execute, .settle 0 false, .execute, .settle 1 false, .execute, .settle 2 true, .execute, .settle 3 true]
    (fun run => run.breaker.state = .closed && run.breaker.results = [false, false, true, true]) (by decide +kernel)
  simp only [Bool.and_eq_true, decide_eq_true_eq] at shown
  obtain ⟨closed, results⟩ := shown
  refine ⟨run, ⟨0, steps⟩, closed, ?_, rfl, ?_⟩ <;> rw [results] <;> decide +kernel

end PaymentModel
