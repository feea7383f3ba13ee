import PaymentSystem.Model.Listing
import PaymentSystem.Proof.Doubles

namespace PaymentModel

open JsNumber

/-- What the controller promises of the pagination, and of the `skip` that the service computes from it. -/
def InRange (filters : PaymentListFilters) : Prop :=
  ∃ page limit skip : Nat, filters.page = .finite page ∧ 1 ≤ page ∧
    filters.limit = .finite limit ∧ 1 ≤ limit ∧ limit ≤ maxPageSize ∧ filters.skip Number.double = .finite skip

namespace Number

theorem double_of_lt {n : Nat} (fits : (n : Rat) < overflowBound) : double n = .finite (nearestDouble n) := by
  have finite := (nearestDouble_finite_iff n).mpr fits
  have sign : ¬(n : Rat) < 0 := not_lt.mpr (Nat.cast_nonneg n)
  unfold double
  dsimp only
  rw [abs_of_nonneg (Nat.cast_nonneg n), if_neg (not_le.mpr finite), if_neg sign]
  split
  · rename_i zero
    have small : n < 2 ^ 53 := by
      rw [Nat.cast_eq_zero.mp zero]
      exact Nat.two_pow_pos 53
    rw [nearestDouble_small small, zero]
  · rfl

theorem double_of_ge {n : Nat} (beyond : overflowBound ≤ (n : Rat)) : double n = .infinity := by
  have infinite := not_lt.mp fun finite => not_lt.mpr beyond ((nearestDouble_finite_iff n).mp finite)
  have positive : (0 : Rat) < overflowBound := by
    rw [overflowBound_eq.1]
    positivity
  have sign : ¬(n : Rat) < 0 := not_lt.mpr (Nat.cast_nonneg n)
  unfold double
  dsimp only
  rw [abs_of_nonneg (Nat.cast_nonneg n), if_pos infinite, if_neg sign, if_neg (positive.trans_le beyond).ne']

theorem double_natural {n : Nat} (some : 0 < n) :
    double n = .infinity ∨ ∃ m : Nat, 0 < m ∧ nearestDouble n = m ∧ double n = .finite m := by
  rcases lt_or_ge (n : Rat) overflowBound with fits | beyond
  · obtain ⟨m, is, positive⟩ := nearestDouble_natural n
    exact .inr ⟨m, positive some, is, by rw [double_of_lt fits, is]⟩
  · exact .inl (double_of_ge beyond)

theorem max_one_natural {m : Nat} (some : 0 < m) : max (.finite 1) (.finite m) = .finite m := by
  have least : (1 : Rat) ≤ m := by exact_mod_cast some
  simp only [max, lt, reduceCtorEq, or_self, if_false, decide_eq_true_eq]
  split
  · rfl
  · rename_i most
    rw [le_antisymm least (not_lt.mp most)]

theorem double_not_positive {value : Int} (below : value ≤ 0) : (Number.finite 1).lt (double value) = false := by
  obtain ⟨m, is, _⟩ := nearestDouble_natural value.natAbs
  have sign : (value : Rat) ≤ 0 := by exact_mod_cast below
  have size : |(value : Rat)| = (value.natAbs : Rat) := by
    rw [Nat.cast_natAbs, Int.cast_abs]
  have positive : (0 : Rat) ≤ m := Nat.cast_nonneg m
  unfold double
  dsimp only
  rw [size, is]
  split
  · simp [lt]
  · rename_i nonzero
    rw [if_pos (lt_of_le_of_ne sign nonzero), if_pos (lt_of_le_of_ne sign nonzero)]
    split
    · rfl
    · simp only [lt, decide_eq_false_iff_not, not_lt]
      linarith

theorem double_ne_nan (x : Rat) : double x ≠ .nan := by
  unfold double
  dsimp only
  split_ifs <;> simp

/-- The lower bound of the page and of the limit. -/
theorem max_one_double (value : Int) : max (.finite 1) (double value) = double (value.toNat ⊔ 1 : Nat) := by
  rcases lt_or_ge 0 value with positive | below
  · obtain ⟨n, rfl⟩ := Int.eq_ofNat_of_zero_le positive.le
    have some : 0 < n := by omega
    have clamped : (n : Int).toNat ⊔ 1 = n := by
      rw [Int.toNat_natCast]
      exact sup_eq_left.mpr some
    rw [clamped, Int.cast_natCast]
    rcases double_natural some with is | ⟨m, some, _, is⟩
    · rw [is]
      rfl
    · rw [is]
      exact max_one_natural some
  · have clamped : value.toNat ⊔ 1 = 1 := by
      rw [Int.toNat_of_nonpos below]
      rfl
    have few : ((1 : Nat) : Rat) < overflowBound := by
      have far := overflowBound_between.1
      rw [Nat.cast_one]
      linarith
    have one : double (1 : Nat) = .finite 1 := by
      rw [double_of_lt few, nearestDouble_small (by norm_num), Nat.cast_one]
    rw [clamped, one, max, if_neg (by simp [double_ne_nan]), double_not_positive below]
    rfl

theorem min_natural (m : Nat) : min (.finite maxPageSize) (.finite m) = .finite (m ⊓ maxPageSize : Nat) := by
  simp only [min, lt, reduceCtorEq, or_self, if_false, decide_eq_true_eq, Nat.cast_lt]
  split
  · rename_i less
    rw [inf_eq_left.mpr less.le]
  · rename_i more
    rw [inf_eq_right.mpr (not_lt.mp more)]

/-- The upper bound of the limit. -/
theorem min_maxPageSize {n : Nat} (some : 0 < n) :
    min (.finite maxPageSize) (double n) = .finite (n ⊓ maxPageSize : Nat) := by
  rcases nearestDouble_natCast n with ⟨small, is⟩ | ⟨k, q, bits, low, _, _, is⟩
  · have few : (n : Rat) < 2 ^ 53 := by exact_mod_cast small
    have fits : (n : Rat) < overflowBound := by
      have far := overflowBound_between.1
      linarith
    rw [double_of_lt fits, is]
    exact min_natural n
  · have least := Nat.log2_self_le some.ne'
    have scale : 2 ^ 52 ≤ 2 ^ Nat.log2 n := Nat.pow_le_pow_right Nat.two_pos (by omega)
    have many : maxPageSize ≤ n := by
      unfold maxPageSize
      omega
    rw [inf_eq_right.mpr many]
    rcases double_natural some with beyond | ⟨m, _, same, fits⟩
    · rw [beyond]
      rfl
    · rw [fits, min_natural]
      have large : maxPageSize ≤ m := by
        rw [is] at same
        have equal : q * 2 ^ k = m := by exact_mod_cast same
        have product := Nat.mul_le_mul low (Nat.one_le_two_pow (n := k))
        unfold maxPageSize
        omega
      rw [inf_eq_right.mpr large]

/-- A page that is not too large for its limit has a `skip`. -/
theorem skip_finite_iff {n p limit : Nat} (is : nearestDouble n = p) (some : 0 < p) (fits : (p : Rat) < 2 ^ 1024)
    (most : limit ≤ maxPageSize) :
    (∃ skip : Nat, ((sub double (.finite p) (.finite 1)).mul double (.finite limit)) = .finite skip) ↔
      (p : Rat) * limit < overflowBound := by
  have prev : (p : Rat) - 1 = (p - 1 : Nat) := by
    rw [Nat.cast_sub some, Nat.cast_one]
  have far := overflowBound_between.1
  have rounded : ∃ m : Nat, double ((p - 1 : Nat) : Rat) = .finite m ∧ (m = p ∨ (m ≤ 2 ^ 54 ∧ p ≤ 2 ^ 54)) := by
    rcases nearestDouble_prev is with few | back
    · obtain ⟨m, rounds, _⟩ := nearestDouble_natural (p - 1)
      have below : ((p - 1 : Nat) : Rat) < 2 ^ 54 := by exact_mod_cast (by omega : p - 1 < 2 ^ 54)
      have finite : ((p - 1 : Nat) : Rat) < overflowBound := by linarith
      exact ⟨m, by rw [double_of_lt finite, rounds], .inr ⟨nearestDouble_le (by omega) rounds, few⟩⟩
    · have finite := (nearestDouble_finite_iff (p - 1)).mp (by rw [back]; exact fits)
      exact ⟨p, by rw [double_of_lt finite, back], .inl rfl⟩
  obtain ⟨m, rounded, near⟩ := rounded
  have product : (m : Rat) * limit < overflowBound ↔ (p : Rat) * limit < overflowBound := by
    rcases near with rfl | ⟨few, few'⟩
    · rfl
    · have small : ∀ q : Nat, q ≤ 2 ^ 54 → (q : Rat) * limit < overflowBound := by
        intro q fewer
        have scaled : (q : Rat) * limit ≤ 2 ^ 54 * 100 := by exact_mod_cast Nat.mul_le_mul fewer most
        exact scaled.trans_lt far
      exact iff_of_true (small m few) (small p few')
  simp only [sub, prev, rounded, mul]
  have cast : (m : Rat) * limit = (m * limit : Nat) := by push_cast; rfl
  rw [← product, cast]
  constructor
  · rintro ⟨skip, is⟩
    refine not_le.mp fun beyond => ?_
    rw [double_of_ge beyond] at is
    cases is
  · intro fits
    obtain ⟨skip, is, _⟩ := nearestDouble_natural (m * limit)
    exact ⟨skip, by rw [double_of_lt fits, is]⟩

end Number

theorem inRange_iff {filters : PaymentListFilters} {n limit : Nat} (pageIs : filters.page = Number.double n)
    (some : 0 < n) (limitIs : filters.limit = .finite limit) (least : 1 ≤ limit) (most : limit ≤ maxPageSize) :
    InRange filters ↔ nearestDouble n * limit < overflowBound := by
  rcases lt_or_ge (n : Rat) overflowBound with fits | beyond
  · obtain ⟨p, is, positive⟩ := nearestDouble_natural n
    have finite := (nearestDouble_finite_iff n).mpr fits
    rw [Number.double_of_lt fits, is] at pageIs
    rw [is] at finite
    rw [is, ← Number.skip_finite_iff is (positive some) finite most]
    constructor
    · rintro ⟨_, _, skip, _, _, _, _, _, computed⟩
      rw [PaymentListFilters.skip, pageIs, limitIs] at computed
      exact ⟨skip, computed⟩
    · rintro ⟨skip, computed⟩
      refine ⟨p, limit, skip, pageIs, positive some, limitIs, least, most, ?_⟩
      rw [PaymentListFilters.skip, pageIs, limitIs]
      exact computed
  · rw [Number.double_of_ge beyond] at pageIs
    have infinite := not_lt.mp fun finite => not_lt.mpr beyond ((nearestDouble_finite_iff n).mp finite)
    have least' : (1 : Rat) ≤ limit := by exact_mod_cast least
    have positive : (0 : Rat) ≤ nearestDouble n := le_trans (by positivity) infinite
    have large : overflowBound ≤ nearestDouble n * limit :=
      (overflowBound_between.2.trans infinite).trans (le_mul_of_one_le_right positive least')
    constructor
    · rintro ⟨_, _, _, is, _⟩
      cases pageIs.symm.trans is
    · intro fits
      exact (not_lt.mpr large fits).elim

theorem inRange_read {query : ListQuery} {page limit : Int} (readPage : readInteger query.pageText = some page)
    (readLimit : readInteger query.limitText = some limit) : InRange query.filters ↔
      nearestDouble (max page 1 : Int) * (min (max limit 1) maxPageSize : Int) < overflowBound := by
  have pageIs : query.filters.page = Number.double (page.toNat ⊔ 1 : Nat) := by
    simp only [ListQuery.filters, parseInt, readPage]
    exact Number.max_one_double page
  have limitIs : query.filters.limit = .finite ((limit.toNat ⊔ 1) ⊓ maxPageSize : Nat) := by
    simp only [ListQuery.filters, parseInt, readLimit]
    rw [Number.max_one_double, Number.min_maxPageSize (by omega)]
  have samePage : (max page 1 : Int) = (page.toNat ⊔ 1 : Nat) := by omega
  have sameLimit : (min (max limit 1) maxPageSize : Int) = ((limit.toNat ⊔ 1) ⊓ maxPageSize : Nat) := by omega
  rw [samePage, sameLimit, Int.cast_natCast, Int.cast_natCast]
  exact inRange_iff pageIs (by omega) limitIs (by unfold maxPageSize; omega) (by omega)

/-- The pagination is in range exactly when both parameters start with a number, and the page with the limit
    does not lead beyond the doubles. -/
theorem paging_in_range_iff (query : ListQuery) : InRange query.filters ↔
    ∃ page limit : Int, readInteger query.pageText = some page ∧ readInteger query.limitText = some limit ∧
      nearestDouble (max page 1 : Int) * (min (max limit 1) maxPageSize : Int) < overflowBound := by
  cases readPage : readInteger query.pageText with
  | none =>
    have page : query.filters.page = .nan := by
      simp only [ListQuery.filters, parseInt, readPage]
      rfl
    constructor
    · rintro ⟨_, _, _, is, _⟩
      cases page.symm.trans is
    · rintro ⟨_, _, read, _⟩
      cases read
  | some page =>
    cases readLimit : readInteger query.limitText with
    | none =>
      have limit : query.filters.limit = .nan := by
        simp only [ListQuery.filters, parseInt, readLimit]
        rfl
      constructor
      · rintro ⟨_, _, _, _, _, is, _⟩
        cases limit.symm.trans is
      · rintro ⟨_, _, _, read, _⟩
        cases read
    | some limit =>
      rw [inRange_read readPage readLimit]
      constructor
      · exact fun fits => ⟨page, limit, rfl, rfl, fits⟩
      · rintro ⟨_, _, samePage, sameLimit, fits⟩
        cases samePage
        cases sameLimit
        exact fits

theorem paging_out_of_range : ¬InRange ({ page := some "abc" } : ListQuery).filters := by
  rintro ⟨page, _, _, is, _⟩
  have nan : ({ page := some "abc" } : ListQuery).filters.page = .nan := by decide +kernel
  rw [nan] at is
  cases is

end PaymentModel
