import Mathlib.Data.List.DropRight
import Mathlib.Tactic.Linarith
import PaymentSystem.Proof.BreakerMoves

namespace PaymentModel

open CircuitBreaker BreakerRun

namespace Number

/-- `number * count`. -/
def times (number : Number) (count : Nat) : Number :=
  match number with
  | .finite value => .finite (value * count)
  | other => if count = 0 then .nan else other

theorem lt_of_not_le {number : Number} {value : Rat} (known : Number.le (.finite 1) number = true)
    (above : ¬number.le (.finite value) = true) : (Number.finite value).lt number = true := by
  cases number with
  | finite other =>
    simp only [le, decide_eq_true_eq] at above
    simpa only [lt, decide_eq_true_eq] using lt_of_not_ge above
  | nan | negInfinity => cases known
  | infinity => rfl

theorem between {number : Number} {low high : Rat} (above : Number.le (.finite low) number = true)
    (below : number.le (.finite high) = true) : low ≤ high := by
  cases number with
  | finite value =>
    simp only [le, decide_eq_true_eq] at above below
    linarith
  | nan | negInfinity => cases above
  | infinity => cases below

end Number

def failures (results : List Bool) : Nat := results.countP fun success => !success

/-- The last `min(size, n)` of `n` outcomes. -/
def lastOutcomes (size : Number) (outcomes : List Bool) : List Bool :=
  match size with
  | .finite size => outcomes.rtake size.floor.toNat
  | _ => outcomes

variable {options : CircuitBreakerOptions} {breaker : CircuitBreaker} {outcomes : List Bool} {size : Number}
  {success : Bool}

theorem lastOutcomes_nil (size : Number) : lastOutcomes size [] = [] := by
  cases size with
  | finite value => exact List.rtake_nil _
  | nan | negInfinity | infinity => rfl

theorem length_rtake (count : Nat) (outcomes : List Bool) :
    (outcomes.rtake count).length = min count outcomes.length := by
  rw [List.rtake, List.length_drop]
  omega

theorem rtake_all {count : Nat} (fits : outcomes.length ≤ count) : outcomes.rtake count = outcomes := by
  rw [List.rtake, Nat.sub_eq_zero_of_le fits, List.drop_zero]

theorem drop_one_rtake {count : Nat} (more : count < outcomes.length) :
    (outcomes.rtake (count + 1)).drop 1 = outcomes.rtake count := by
  rw [List.rtake, List.rtake, List.drop_drop]
  congr 1
  omega

theorem floor_fits {value : Rat} (count : Nat) (atLeast : 1 ≤ value) :
    value < count ↔ value.floor.toNat < count := by
  have whole : (1 : Int) ≤ value.floor := Rat.le_floor_iff.mpr (by simpa using atLeast)
  have below : value < ((count : Int) : Rat) ↔ value.floor < count := (Rat.floor_lt_iff).symm
  rw [Int.cast_natCast] at below
  rw [below]
  omega

/-- A tracked outcome pushes the oldest one out of a full window. -/
theorem recordResult_results (sized : Number.le (.finite 1) options.windowSize = true)
    (tracked : breaker.results = lastOutcomes options.windowSize outcomes) (success : Bool) :
    (breaker.recordResult options success).results = lastOutcomes options.windowSize (outcomes ++ [success]) := by
  unfold recordResult
  rw [tracked]
  cases is : options.windowSize with
  | nan | negInfinity =>
    rw [is] at sized
    cases sized
  | infinity => rfl
  | finite value =>
    rw [is] at sized
    have atLeast : 1 ≤ value := by simpa [Number.le] using sized
    have whole : (1 : Int) ≤ value.floor := Rat.le_floor_iff.mpr (by simpa using atLeast)
    obtain ⟨count, floor⟩ : ∃ count, value.floor.toNat = count + 1 := ⟨value.floor.toNat - 1, by omega⟩
    simp only [lastOutcomes, Number.lt, decide_eq_true_eq, floor_fits _ atLeast, floor, List.rtake_concat_succ,
      List.length_append, length_rtake, List.length_singleton]
    split
    · rename_i full
      have more : count < outcomes.length := by omega
      have held : 1 ≤ (outcomes.rtake (count + 1)).length := by
        rw [length_rtake]
        omega
      rw [List.drop_append_of_le_length held, drop_one_rtake more]
    · rename_i room
      have fits : outcomes.length ≤ count := by omega
      rw [rtake_all fits, rtake_all (Nat.le_succ_of_le fits)]

/-- A call that ends with `success` opens a closed breaker, by the words of its specification: it fails,
    `windowSize` outcomes are there, which is then a whole number, and `failureThreshold * windowSize` of the
    last ones are failures. -/
def Trips (options : CircuitBreakerOptions) (outcomes : List Bool) (success : Bool) : Prop :=
  success = false ∧ ∃ count ≤ (outcomes ++ [success]).length, options.windowSize = .finite count ∧
    (options.failureThreshold.times count).le (.finite (failures ((outcomes ++ [success]).rtake count))) = true

instance : Decidable (Trips options outcomes success) := inferInstanceAs (Decidable (_ ∧ _))

theorem lastOutcomes_whole (count : Nat) (outcomes : List Bool) :
    lastOutcomes (.finite count) outcomes = outcomes.rtake count := by
  have floor : (count : Rat).floor = count := by
    exact_mod_cast Rat.floor_intCast count
  rw [lastOutcomes, floor, Int.toNat_natCast]

theorem length_lastOutcomes (sized : Number.le (.finite 1) size = true) (outcomes : List Bool) :
    Number.le (.finite (lastOutcomes size outcomes).length) size = true := by
  cases size with
  | nan | negInfinity => cases sized
  | infinity => rfl
  | finite value =>
    have atLeast : 1 ≤ value := by simpa [Number.le] using sized
    have fits : ¬value < ((lastOutcomes (.finite value) outcomes).length : Nat) := by
      rw [floor_fits _ atLeast, lastOutcomes, length_rtake]
      omega
    simpa [Number.le] using fits

/-- The window holds as many outcomes as its size says when that is a number of outcomes, and so many are there. -/
theorem lastOutcomes_full (sized : Number.le (.finite 1) size = true) :
    Number.lt (.finite (lastOutcomes size outcomes).length) size = false ↔
      ∃ count ≤ outcomes.length, size = .finite count := by
  constructor
  · intro full
    have fits := length_lastOutcomes sized outcomes
    cases size with
    | nan | negInfinity => cases sized
    | infinity => cases full
    | finite value =>
      simp only [Number.lt, decide_eq_false_iff_not, not_lt] at full
      simp only [Number.le, decide_eq_true_eq] at fits
      refine ⟨(lastOutcomes (.finite value) outcomes).length, ?_, congrArg Number.finite (le_antisymm full fits)⟩
      rw [lastOutcomes, length_rtake]
      omega
  · rintro ⟨count, there, rfl⟩
    rw [lastOutcomes_whole, length_rtake, Nat.min_eq_left there]
    simp [Number.lt]

theorem failureRate_reaches {threshold : Number} {results : List Bool} (nonempty : 0 < results.length) :
    threshold.le (failureRate results) = true ↔
      (threshold.times results.length).le (.finite (failures results)) = true := by
  have rate : failureRate results = .finite (failures results / results.length) := if_neg nonempty.ne'
  have positive : (0 : Rat) < results.length := by exact_mod_cast nonempty
  rw [rate]
  cases threshold with
  | finite value =>
    simp only [Number.times, Number.le, decide_eq_true_eq]
    exact le_div_iff₀ positive
  | nan | negInfinity | infinity => simp [Number.times, nonempty.ne', Number.le]

/-- The threshold is checked at a failure, on the window that holds the failure. -/
theorem checkThreshold_state (sized : Number.le (.finite 1) options.windowSize = true)
    (tracked : breaker.results = lastOutcomes options.windowSize (outcomes ++ [false])) :
    (breaker.checkThreshold options).state = if Trips options outcomes false then .opened else breaker.state := by
  have full : Number.lt (.finite (lastOutcomes options.windowSize (outcomes ++ [false])).length) options.windowSize =
      false ↔ ∃ count ≤ (outcomes ++ [false]).length, options.windowSize = .finite count := lastOutcomes_full sized
  unfold checkThreshold
  rw [tracked]
  by_cases room : Number.lt (.finite (lastOutcomes options.windowSize (outcomes ++ [false])).length)
      options.windowSize = true
  · rw [if_pos room, if_neg]
    rintro ⟨_, count, there, is, _⟩
    rw [full.mpr ⟨count, there, is⟩] at room
    cases room
  · rw [if_neg room]
    obtain ⟨count, there, is⟩ := full.mp (Bool.eq_false_iff.mpr room)
    have counted : (1 : Rat) ≤ count := by simpa [is, Number.le] using sized
    have counts : 0 < count := by exact_mod_cast counted
    have held : ((outcomes ++ [false]).rtake count).length = count := by
      rw [length_rtake, Nat.min_eq_left there]
    rw [is, lastOutcomes_whole]
    have trips : options.failureThreshold.le (failureRate ((outcomes ++ [false]).rtake count)) = true ↔
        Trips options outcomes false := by
      rw [failureRate_reaches (by rw [held]; exact counts), held]
      refine ⟨fun reached => ⟨rfl, count, there, is, reached⟩, ?_⟩
      rintro ⟨_, other, _, same, reached⟩
      rw [is, Number.finite.injEq, Nat.cast_inj] at same
      rwa [same]
    by_cases reached : Trips options outcomes false
    · rw [if_pos (trips.mpr reached), if_pos reached]
      rfl
    · rw [if_neg (trips.not.mpr reached), if_neg reached]

theorem checkThreshold_results : (breaker.checkThreshold options).results = breaker.results := by
  unfold checkThreshold
  split
  · rfl
  · split <;> rfl

/-- What an outcome does to a closed breaker. -/
theorem settle_closed (sized : Number.le (.finite 1) options.windowSize = true) (closed : breaker.state = .closed)
    (tracked : breaker.results = lastOutcomes options.windowSize outcomes) (now : Int) (success : Bool) :
    (breaker.settle options now success).results = lastOutcomes options.windowSize (outcomes ++ [success]) ∧
      (breaker.settle options now success).state = if Trips options outcomes success then .opened else .closed := by
  cases success with
  | true =>
    have other : ¬breaker.state = .halfOpen := by simp [closed]
    have passes : ¬Trips options outcomes true := fun trips => Bool.noConfusion trips.1
    rw [if_neg passes]
    simp only [settle, onSuccess, if_true, if_neg other]
    exact ⟨recordResult_results sized tracked true, closed⟩
  | false =>
    have other : ¬breaker.state = .halfOpen := by simp [closed]
    simp only [settle, onFailure, Bool.false_eq_true, if_false, if_neg other]
    have recorded : (({ breaker with lastFailureTime := now } : CircuitBreaker).recordResult options false).results =
        lastOutcomes options.windowSize (outcomes ++ [false]) := recordResult_results sized tracked false
    rw [checkThreshold_results, checkThreshold_state sized recorded]
    exact ⟨recorded, by rw [← closed]; rfl⟩

end PaymentModel
