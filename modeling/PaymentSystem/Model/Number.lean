import Mathlib.Algebra.Order.Field.Rat

namespace PaymentModel

/-- A `number` an option may hold; finite arithmetic is exact. An option given as `undefined`
    compares as `nan` does. -/
inductive Number where
  | nan
  | negInfinity
  | finite (value : Rat)
  | infinity
  deriving DecidableEq

namespace Number

def lt : Number → Number → Bool
  | .finite a, .finite b => a < b
  | .negInfinity, .finite _ | .negInfinity, .infinity | .finite _, .infinity => true
  | _, _ => false

def le : Number → Number → Bool
  | .finite a, .finite b => a ≤ b
  | .nan, _ | _, .nan => false
  | .negInfinity, _ | _, .infinity => true
  | _, _ => false

theorem le_trans_finite {a : Number} {x y : Rat} (below : a.le (.finite x) = true) (rises : x ≤ y) :
    a.le (.finite y) = true := by
  cases a with
  | finite q =>
    simp only [le, decide_eq_true_eq] at below ⊢
    exact le_trans below rises
  | nan | infinity => cases below
  | negInfinity => rfl

end Number

end PaymentModel
