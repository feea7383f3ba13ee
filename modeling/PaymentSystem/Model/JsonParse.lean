import Mathlib.Algebra.Order.Field.Rat
import Mathlib.Data.List.Sort
import PaymentSystem.Model.JsonText

namespace PaymentModel

namespace JsNumber

/-- The `e` with `2 ^ e ≤ x < 2 ^ (e + 1)`, for a positive `x`. -/
def binaryExponent (x : Rat) : Int :=
  let guess := (Nat.log2 x.num.natAbs : Int) - Nat.log2 x.den
  if x < (2 : Rat) ^ guess then guess - 1 else guess

/-- The `n` with `10 ^ (n - 1) ≤ x < 10 ^ n`, for a positive `x`. -/
def decimalExponent (x : Rat) : Int :=
  let guess := ((Nat.repr x.num.natAbs).length : Int) - (Nat.repr x.den).length
  if x < (10 : Rat) ^ guess then guess else guess + 1

def roundHalfEven (x : Rat) : Int :=
  if x - x.floor < 1 / 2 then x.floor
  else if 1 / 2 < x - x.floor then x.floor + 1
  else if x.floor % 2 = 0 then x.floor
  else x.floor + 1

/-- A positive `x` with 53 significant bits, and no bit below the least subnormal. -/
def nearestDouble (x : Rat) : Rat :=
  let unit := (2 : Rat) ^ max (binaryExponent x - 52) (-1074)
  roundHalfEven (x / unit) * unit

/-- The digits of `Number::toString` and their exponent: as few as identify the double, and of these
    the closest to it. Seventeen digits identify every double. -/
def shortestDigits (x : Rat) : Nat × Int :=
  let n := decimalExponent x
  let digits (k : Nat) : Option (Nat × Int) :=
    let unit := (10 : Rat) ^ (n - k)
    let low := (x / unit).floor.toNat
    let below := x / unit - low
    let lowFirst := below < 1 / 2 ∨ (below = 1 / 2 ∧ low % 2 = 0)
    ((if lowFirst then [low, low + 1] else [low + 1, low]).find? fun (d : Nat) =>
      nearestDouble ((d : Rat) * unit) = x).map fun d => (d, n - k)
  ((List.range 17).findSome? fun k => digits (k + 1)).getD (0, 0)

/-- The number that a literal with this value evaluates to; `none` is an infinity. -/
def toDouble (n : JsNumber) : Option JsNumber :=
  if n.mantissa = 0 then some n
  else
    let x := nearestDouble |n.value|
    if (2 : Rat) ^ 1024 ≤ x then none
    else if x = 0 then some (ofDecimal false 0 0)
    else some (ofDecimal (n.mantissa < 0) (shortestDigits x).1 (shortestDigits x).2)

end JsNumber

/-- The array index a property key stands for. -/
def arrayIndex (key : JsString) : Option Nat :=
  let digits := key.map fun unit => Char.ofNat unit.toNat
  let index := Nat.ofDigitChars 10 digits 0
  if digits ≠ [] ∧ digits.all Char.isDigit ∧ (digits.head? ≠ some '0' ∨ digits.length = 1) ∧ index < 2 ^ 32 - 1 then
    some index
  else none

namespace JsonValue

/-- A property of that name is overwritten where it is, or it comes last. -/
def define (members : List (JsString × JsonValue)) (key : JsString) (value : JsonValue) :
    List (JsString × JsonValue) :=
  if members.any fun member => member.1 = key then
    members.map fun member => if member.1 = key then (key, value) else member
  else members ++ [(key, value)]

/-- The order of `OrdinaryOwnPropertyKeys`: array indices in ascending order, then the other keys. -/
def inPropertyOrder (members : List (JsString × JsonValue)) : List (JsString × JsonValue) :=
  ((members.filter fun member => (arrayIndex member.1).isSome).insertionSort fun a b =>
      (arrayIndex a.1).getD 0 ≤ (arrayIndex b.1).getD 0) ++
    members.filter fun member => (arrayIndex member.1).isNone

/-- The members an object has when its members are defined one after the other. -/
def properties (members : List (JsString × JsonValue)) : List (JsString × JsonValue) :=
  inPropertyOrder (members.foldl (fun defined member => define defined member.1 member.2) [])

mutual

/-- The value that `JSON.parse` makes of what is written, as far as `JSON.stringify` shows it: a number
    beyond the doubles is an infinity, which is printed as `null`. -/
def evaluate : JsonValue → JsonValue
  | .number value => (value.toDouble.map JsonValue.number).getD .null
  | .array items => .array (evaluateItems items)
  | .object members => .object (properties (evaluateMembers members))
  | value => value

def evaluateItems : List JsonValue → List JsonValue
  | [] => []
  | item :: items => evaluate item :: evaluateItems items

def evaluateMembers : List (JsString × JsonValue) → List (JsString × JsonValue)
  | [] => []
  | (key, value) :: members => (key, evaluate value) :: evaluateMembers members

end

end JsonValue

/-- `JSON.parse`; `none` is a `SyntaxError`. -/
def jsonParse (text : String) : Option JsonValue := (readJson text.toList).map JsonValue.evaluate

end PaymentModel
