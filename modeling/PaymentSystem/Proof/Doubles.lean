import Mathlib.Tactic.Linarith
import Mathlib.Tactic.Positivity
import Mathlib.Tactic.Ring
import PaymentSystem.Model.JsonParse

namespace PaymentModel

namespace JsNumber

/-- The doubles end here: what is less rounds to a finite one. -/
def overflowBound : Rat := 2 ^ 1024 - 2 ^ 970

theorem roundHalfEven_near (x : Rat) : x - 1 / 2 ≤ roundHalfEven x ∧ (roundHalfEven x : Rat) ≤ x + 1 / 2 := by
  have low := Rat.floor_le x
  have high : x < (x.floor + 1 : Int) := Rat.floor_lt_iff.mp (lt_add_one _)
  push_cast at high
  unfold roundHalfEven
  split
  · constructor <;> linarith
  · split
    · push_cast
      constructor <;> linarith
    · split
      · constructor <;> linarith
      · push_cast
        constructor <;> linarith

/-- Half way between two integers the even one is taken. -/
theorem roundHalfEven_even {x : Rat} {n : Int} (halfway : x = n + 1 / 2) (even : n % 2 = 1) :
    roundHalfEven x = n + 1 := by
  have floor : x.floor = n := by
    apply le_antisymm
    · have below : x.floor < n + 1 := Rat.floor_lt_iff.mpr (by push_cast; linarith)
      omega
    · exact Rat.le_floor_iff.mpr (by linarith)
  unfold roundHalfEven
  rw [floor, if_neg (by rw [halfway]; linarith), if_neg (by rw [halfway]; linarith), if_neg (by omega)]

theorem roundHalfEven_lt {x : Rat} {n : Int} (even : n % 2 = 0) : roundHalfEven x < n ↔ x < n - 1 / 2 := by
  obtain ⟨above, below⟩ := roundHalfEven_near x
  constructor
  · intro less
    have whole : (roundHalfEven x : Rat) ≤ n - 1 := by exact_mod_cast Int.le_sub_one_of_lt less
    refine lt_of_le_of_ne (by linarith) fun tie => ?_
    have up := roundHalfEven_even (x := x) (n := n - 1) (by rw [tie]; push_cast; ring) (by omega)
    omega
  · intro less
    have strict : (roundHalfEven x : Rat) < n := by linarith
    exact_mod_cast strict

theorem roundHalfEven_intCast (n : Int) : roundHalfEven n = n := by
  have near := roundHalfEven_near n
  have below : roundHalfEven n < n + 1 := by
    have strict : (roundHalfEven n : Rat) < n + 1 := by linarith
    exact_mod_cast strict
  have above : n - 1 < roundHalfEven n := by
    have strict : (n : Rat) - 1 < roundHalfEven n := by linarith
    exact_mod_cast strict
  omega

theorem binaryExponent_natCast {n : Nat} (some : n ≠ 0) : binaryExponent n = Nat.log2 n := by
  have whole : ¬(n : Rat) < (2 : Rat) ^ ((Nat.log2 n : Nat) : Int) := by
    have least := Nat.log2_self_le some
    rw [zpow_natCast, not_lt]
    exact_mod_cast least
  have one : Nat.log2 1 = 0 := by decide
  simp only [binaryExponent, Rat.num_natCast, Rat.den_natCast, Int.natAbs_natCast, one, Nat.cast_zero, sub_zero,
    if_neg whole]

/-- Naturals of at most 53 bits are doubles. -/
theorem nearestDouble_small {n : Nat} (small : n < 2 ^ 53) : nearestDouble n = n := by
  by_cases zero : n = 0
  · subst zero
    decide +kernel
  · have bits : Nat.log2 n ≤ 52 := by
      have few := (Nat.log2_lt zero).mpr small
      omega
    obtain ⟨spare, is⟩ : ∃ spare : Nat, (Nat.log2 n : Int) - 52 = -spare := ⟨52 - Nat.log2 n, by omega⟩
    have unit : max (binaryExponent n - 52) (-1074) = -(spare : Int) := by
      rw [binaryExponent_natCast zero]
      omega
    have positive : (0 : Rat) < 2 ^ spare := by positivity
    have scaled : (n : Rat) / (2 : Rat) ^ (-(spare : Int)) = ((n * 2 ^ spare : Nat) : Int) := by
      rw [zpow_neg, zpow_natCast, div_inv_eq_mul]
      push_cast
      rfl
    unfold nearestDouble
    dsimp only
    rw [unit, scaled, roundHalfEven_intCast, zpow_neg, zpow_natCast]
    push_cast
    exact mul_inv_cancel_right₀ positive.ne' (n : Rat)

/-- A natural of more bits is rounded to 53 of them. -/
theorem nearestDouble_large {n k : Nat} (bits : Nat.log2 n = 52 + k) :
    nearestDouble n = roundHalfEven ((n : Rat) / 2 ^ k) * 2 ^ k := by
  have zero : n ≠ 0 := by
    rintro rfl
    have none : Nat.log2 0 = 0 := by decide
    omega
  have unit : max (binaryExponent n - 52) (-1074) = (k : Int) := by
    rw [binaryExponent_natCast zero]
    omega
  unfold nearestDouble
  dsimp only
  rw [unit, zpow_natCast]

theorem quotient_bounds {n k : Nat} (bits : Nat.log2 n = 52 + k) (some : n ≠ 0) :
    (2 : Rat) ^ 52 ≤ n / 2 ^ k ∧ (n : Rat) / 2 ^ k < 2 ^ 53 := by
  have positive : (0 : Rat) < 2 ^ k := by positivity
  have least := Nat.log2_self_le some
  have most := Nat.lt_log2_self (n := n)
  rw [bits] at least most
  constructor
  · rw [le_div_iff₀ positive, ← pow_add]
    exact_mod_cast least
  · rw [div_lt_iff₀ positive, ← pow_add]
    have same : 53 + k = 52 + k + 1 := by omega
    rw [same]
    exact_mod_cast most

theorem rounded_bounds {n k : Nat} (bits : Nat.log2 n = 52 + k) (some : n ≠ 0) :
    2 ^ 52 ≤ roundHalfEven ((n : Rat) / 2 ^ k) ∧ roundHalfEven ((n : Rat) / 2 ^ k) ≤ 2 ^ 53 := by
  obtain ⟨low, high⟩ := quotient_bounds bits some
  obtain ⟨above, below⟩ := roundHalfEven_near ((n : Rat) / 2 ^ k)
  constructor
  · have strict : (2 : Rat) ^ 52 - 1 < roundHalfEven ((n : Rat) / 2 ^ k) := by linarith
    have whole : (2 ^ 52 - 1 : Int) < roundHalfEven ((n : Rat) / 2 ^ k) := by exact_mod_cast strict
    omega
  · have strict : (roundHalfEven ((n : Rat) / 2 ^ k) : Rat) < 2 ^ 53 + 1 := by linarith
    have whole : roundHalfEven ((n : Rat) / 2 ^ k) < (2 ^ 53 + 1 : Int) := by exact_mod_cast strict
    omega

/-- A natural is small, or its double is an integer of 53 bits times a power of two. -/
theorem nearestDouble_natCast (n : Nat) : (n < 2 ^ 53 ∧ nearestDouble n = n) ∨
    ∃ k m : Nat, Nat.log2 n = 52 + k ∧ 2 ^ 52 ≤ m ∧ m ≤ 2 ^ 53 ∧
      roundHalfEven ((n : Rat) / 2 ^ k) = m ∧ nearestDouble n = (m * 2 ^ k : Nat) := by
  by_cases small : n < 2 ^ 53
  · exact .inl ⟨small, nearestDouble_small small⟩
  · have some : n ≠ 0 := by
      rintro rfl
      exact small (by decide)
    have many : 53 ≤ Nat.log2 n := by
      by_contra few
      exact small ((Nat.log2_lt some).mp (by omega))
    obtain ⟨k, bits⟩ : ∃ k, Nat.log2 n = 52 + k := ⟨Nat.log2 n - 52, by omega⟩
    obtain ⟨low, high⟩ := rounded_bounds bits some
    obtain ⟨m, is⟩ := Int.eq_ofNat_of_zero_le (le_trans (by norm_num) low)
    refine .inr ⟨k, m, bits, by omega, by omega, is, ?_⟩
    rw [nearestDouble_large bits, is]
    push_cast
    rfl

theorem log2_bounds {n k : Nat} (bits : Nat.log2 n = 52 + k) (some : n ≠ 0) :
    (2 : Rat) ^ 52 * 2 ^ k ≤ n ∧ (n : Rat) < 2 ^ 53 * 2 ^ k := by
  have positive : (0 : Rat) < 2 ^ k := by positivity
  obtain ⟨low, high⟩ := quotient_bounds bits some
  exact ⟨(le_div_iff₀ positive).mp low, (div_lt_iff₀ positive).mp high⟩

theorem power_between {low high : Nat} (le : low ≤ high) : (2 : Rat) ^ low ≤ 2 ^ high :=
  pow_le_pow_right₀ (by norm_num) le

theorem overflowBound_eq : overflowBound = (2 ^ 54 - 1) * 2 ^ 970 ∧ (2 : Rat) ^ 1024 = 2 ^ 54 * 2 ^ 970 := by
  have top : (2 : Rat) ^ 1024 = 2 ^ 54 * 2 ^ 970 := pow_add 2 54 970
  refine ⟨?_, top⟩
  rw [overflowBound, top]
  generalize (2 : Rat) ^ 970 = u
  ring

/-- The bound is far beyond the naturals that are exact, and below the next power of two. -/
theorem overflowBound_between : (2 : Rat) ^ 54 * 100 < overflowBound ∧ overflowBound ≤ 2 ^ 1024 := by
  have unit : (2 : Rat) ^ 54 ≤ 2 ^ 970 := power_between (by omega)
  constructor
  · rw [overflowBound_eq.1]
    calc (2 : Rat) ^ 54 * 100 < (2 ^ 54 - 1) * 2 ^ 54 := by norm_num
      _ ≤ (2 ^ 54 - 1) * 2 ^ 970 := mul_le_mul_of_nonneg_left unit (by norm_num)
  · exact sub_le_self _ (by positivity)

/-- In the last binade a natural rounds to less than `2 ^ 1024` if its quotient rounds to less than `2 ^ 53`. -/
theorem top_binade {n m : Nat} (rounded : roundHalfEven ((n : Rat) / 2 ^ 971) = m) :
    (m : Rat) * 2 ^ 971 < 2 ^ 54 * 2 ^ 970 ↔ (n : Rat) < (2 ^ 54 - 1) * 2 ^ 970 := by
  have twice : (2 : Rat) ^ 971 = 2 * 2 ^ 970 := pow_succ' 2 970
  have unit : (0 : Rat) < 2 ^ 970 := by positivity
  have half : (m : Int) < 2 ^ 53 ↔ (n : Rat) / 2 ^ 971 < ((2 ^ 53 : Int) : Rat) - 1 / 2 :=
    rounded ▸ roundHalfEven_lt (by norm_num)
  rw [div_lt_iff₀ (by positivity), twice] at half
  rw [twice]
  generalize (2 : Rat) ^ 970 = u at unit half ⊢
  have carried : (2 : Rat) ^ 54 * u = 2 ^ 53 * (2 * u) := by ring
  have bound : (((2 ^ 53 : Int) : Rat) - 1 / 2) * (2 * u) = (2 ^ 54 - 1) * u := by
    push_cast
    ring
  have whole : (m : Rat) * (2 * u) < 2 ^ 54 * u ↔ (m : Int) < 2 ^ 53 := by
    rw [carried, mul_lt_mul_iff_left₀ (by linarith)]
    norm_cast
  rw [whole, half, bound]

/-- A natural is rounded to a finite double exactly when it is below the bound. -/
theorem nearestDouble_finite_iff (n : Nat) : nearestDouble n < 2 ^ 1024 ↔ (n : Rat) < overflowBound := by
  have unit : (2 : Rat) ^ 53 ≤ 2 ^ 970 := power_between (by omega)
  rw [overflowBound_eq.1, overflowBound_eq.2]
  rcases nearestDouble_natCast n with ⟨small, is⟩ | ⟨k, m, bits, low, high, rounded, is⟩
  · have fits : (n : Rat) < 2 ^ 53 := by exact_mod_cast small
    rw [is]
    generalize (2 : Rat) ^ 970 = u at unit
    constructor <;> intro _ <;> linarith
  · have some : n ≠ 0 := by
      rintro rfl
      have none : Nat.log2 0 = 0 := by decide
      omega
    obtain ⟨least, most⟩ := log2_bounds bits some
    have low' : (2 : Rat) ^ 52 ≤ m := by exact_mod_cast low
    have high' : (m : Rat) ≤ 2 ^ 53 := by exact_mod_cast high
    have positive : (0 : Rat) < 2 ^ k := by positivity
    rw [is, Nat.cast_mul, Nat.cast_pow, Nat.cast_two]
    rcases Nat.lt_trichotomy k 971 with less | rfl | more
    · have scale : (2 : Rat) ^ k ≤ 2 ^ 970 := power_between (by omega)
      generalize (2 : Rat) ^ 970 = u at unit scale
      generalize (2 : Rat) ^ k = v at most positive scale
      have product : m * v ≤ 2 ^ 53 * v := mul_le_mul_of_nonneg_right high' positive.le
      constructor <;> intro _ <;> linarith
    · exact top_binade rounded
    · have scale : (2 : Rat) ^ 972 ≤ 2 ^ k := power_between (by omega)
      have quadruple : (2 : Rat) ^ 972 = 4 * 2 ^ 970 := by
        rw [pow_add 2 2 970]
        norm_num
      rw [quadruple] at scale
      generalize (2 : Rat) ^ 970 = u at unit scale
      generalize (2 : Rat) ^ k = v at least positive scale
      have product : 2 ^ 52 * v ≤ m * v := mul_le_mul_of_nonneg_right low' positive.le
      constructor <;> intro _ <;> linarith

theorem roundHalfEven_below {n : Int} {x : Rat} (below : x ≤ n)
    (close : (n : Rat) - 1 / 2 < x ∨ (x = n - 1 / 2 ∧ n % 2 = 0)) : roundHalfEven x = n := by
  rcases close with close | ⟨tie, even⟩
  · obtain ⟨above', below'⟩ := roundHalfEven_near x
    have low : n - 1 < roundHalfEven x := by
      have strict : (n : Rat) - 1 < roundHalfEven x := by linarith
      exact_mod_cast strict
    have high : roundHalfEven x < n + 1 := by
      have strict : (roundHalfEven x : Rat) < n + 1 := by linarith
      exact_mod_cast strict
    omega
  · have up := roundHalfEven_even (x := x) (n := n - 1) (by rw [tie]; push_cast; ring) (by omega)
    omega

/-- The integer before a double rounds back to it: within a binade by less than half a unit. -/
theorem nearestDouble_pred_inside {m k : Nat} (low : 2 ^ 52 < m) (high : m < 2 ^ 53) (large : 2 ≤ k) :
    nearestDouble ((m * 2 ^ k - 1 : Nat) : Rat) = (m * 2 ^ k : Nat) := by
  have four : 2 ^ 2 ≤ 2 ^ k := Nat.pow_le_pow_right Nat.two_pos large
  have four' : (4 : Rat) ≤ 2 ^ k := by exact_mod_cast four
  have positive : (0 : Rat) < 2 ^ k := by positivity
  have above : 2 ^ 52 * 2 ^ k + 2 ^ k ≤ m * 2 ^ k := by
    rw [← Nat.succ_mul]
    exact Nat.mul_le_mul_right (2 ^ k) low
  have bits : Nat.log2 (m * 2 ^ k - 1) = 52 + k := by
    have lower : 2 ^ (52 + k) = 2 ^ 52 * 2 ^ k := pow_add 2 52 k
    have upper : 2 ^ (52 + k + 1) = 2 * (2 ^ 52 * 2 ^ k) := by rw [pow_succ', lower]
    have below := Nat.mul_le_mul_right (2 ^ k) high.le
    rw [Nat.log2_eq_iff (by omega), upper, lower]
    omega
  have rounded : roundHalfEven (((m * 2 ^ k - 1 : Nat) : Rat) / 2 ^ k) = (m : Int) := by
    rw [Nat.cast_sub (by omega), Nat.cast_mul, Nat.cast_pow, Nat.cast_two, Nat.cast_one]
    refine roundHalfEven_below ?_ (.inl ?_)
    · rw [div_le_iff₀ positive, Int.cast_natCast]
      linarith
    · rw [lt_div_iff₀ positive, Int.cast_natCast]
      linarith
  rw [nearestDouble_large bits, rounded]
  push_cast
  rfl

/-- And before a power of two, where the doubles lie closer, by half a unit at most, and then to the even one. -/
theorem nearestDouble_pred_power {j : Nat} (large : 1 ≤ j) :
    nearestDouble ((2 ^ 52 * 2 ^ (j + 1) - 1 : Nat) : Rat) = (2 ^ 52 * 2 ^ (j + 1) : Nat) := by
  have two : 2 ^ 1 ≤ 2 ^ j := Nat.pow_le_pow_right Nat.two_pos large
  have two' : (2 : Rat) ≤ 2 ^ j := by exact_mod_cast two
  have unit : (0 : Rat) < 2 ^ j := by positivity
  have next : 2 ^ (j + 1) = 2 * 2 ^ j := pow_succ' 2 j
  have bits : Nat.log2 (2 ^ 52 * 2 ^ (j + 1) - 1) = 52 + j := by
    have lower : 2 ^ (52 + j) = 2 ^ 52 * 2 ^ j := pow_add 2 52 j
    have upper : 2 ^ (52 + j + 1) = 2 * (2 ^ 52 * 2 ^ j) := by rw [pow_succ', lower]
    rw [Nat.log2_eq_iff (by omega), upper, lower, next]
    omega
  have rounded : roundHalfEven (((2 ^ 52 * 2 ^ (j + 1) - 1 : Nat) : Rat) / 2 ^ j) = (2 ^ 53 : Int) := by
    rw [Nat.cast_sub (by omega), next]
    push_cast
    refine roundHalfEven_below ?_ ?_
    · rw [div_le_iff₀ unit]
      push_cast
      linarith
    · rcases two'.lt_or_eq with more | same
      · left
        rw [lt_div_iff₀ unit]
        push_cast
        linarith
      · right
        rw [← same]
        norm_num
  rw [nearestDouble_large bits, rounded, next]
  push_cast
  ring

/-- Between a double of more than 54 bits and its predecessor the next integer is rounded back. -/
theorem nearestDouble_pred {m k : Nat} (low : 2 ^ 52 ≤ m) (high : m < 2 ^ 53) (large : 2 ≤ k) :
    nearestDouble ((m * 2 ^ k - 1 : Nat) : Rat) = (m * 2 ^ k : Nat) := by
  rcases low.lt_or_eq with more | rfl
  · exact nearestDouble_pred_inside more high large
  · obtain ⟨j, rfl⟩ : ∃ j, k = j + 1 := ⟨k - 1, by omega⟩
    exact nearestDouble_pred_power (by omega)

theorem nearestDouble_natural (n : Nat) : ∃ m : Nat, nearestDouble n = m ∧ (0 < n → 0 < m) := by
  rcases nearestDouble_natCast n with ⟨_, is⟩ | ⟨k, m, _, low, _, _, is⟩
  · exact ⟨n, is, id⟩
  · exact ⟨m * 2 ^ k, is, fun _ => Nat.mul_pos (by omega) (Nat.two_pow_pos k)⟩

/-- The predecessor of a double is a double, or so close that it is rounded back. -/
theorem nearestDouble_prev {n p : Nat} (is : nearestDouble n = p) :
    p ≤ 2 ^ 54 ∨ nearestDouble ((p - 1 : Nat) : Rat) = p := by
  rcases nearestDouble_natCast n with ⟨small, same⟩ | ⟨k, m, _, low, high, _, same⟩
  · rw [is] at same
    have equal : p = n := by exact_mod_cast same
    omega
  · rw [is] at same
    have equal : p = m * 2 ^ k := by exact_mod_cast same
    subst equal
    rcases high.lt_or_eq with less | rfl
    · rcases Nat.lt_or_ge k 2 with few | many
      · have scale : 2 ^ k ≤ 2 ^ 1 := Nat.pow_le_pow_right Nat.two_pos (by omega)
        have product := Nat.mul_le_mul high scale
        exact .inl (by omega)
      · exact .inr (nearestDouble_pred low less many)
    · have next : 2 ^ 53 * 2 ^ k = 2 ^ 52 * 2 ^ (k + 1) := by
        rw [pow_succ' 2 k]
        omega
      rcases Nat.lt_or_ge k 1 with few | many
      · obtain rfl : k = 0 := by omega
        exact .inl (by omega)
      · rw [next]
        exact .inr (nearestDouble_pred le_rfl (by omega) (by omega))

theorem nearestDouble_le {n m : Nat} (few : n < 2 ^ 54) (is : nearestDouble n = m) : m ≤ 2 ^ 54 := by
  rcases nearestDouble_natCast n with ⟨small, same⟩ | ⟨k, q, bits, _, high, _, same⟩
  · rw [is] at same
    have equal : m = n := by exact_mod_cast same
    omega
  · rw [is] at same
    have equal : m = q * 2 ^ k := by exact_mod_cast same
    have some : n ≠ 0 := by
      rintro rfl
      have none : Nat.log2 0 = 0 := by decide
      omega
    have short := (Nat.log2_lt some).mpr few
    have scale : 2 ^ k ≤ 2 ^ 1 := Nat.pow_le_pow_right Nat.two_pos (by omega)
    have product := Nat.mul_le_mul high scale
    omega

end JsNumber

end PaymentModel
