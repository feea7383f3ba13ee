namespace PaymentModel

/-- A finite number as ECMAScript prints it: `mantissa * 10 ^ exponent` with no trailing zero in
    the mantissa. -/
structure JsNumber where
  mantissa : Int
  exponent : Int
  canonical : mantissa % 10 ≠ 0 ∨ (mantissa = 0 ∧ exponent = 0)
  deriving DecidableEq

namespace JsNumber

def value (n : JsNumber) : Rat :=
  if 0 ≤ n.exponent then n.mantissa * (10 : Rat) ^ n.exponent.toNat
  else n.mantissa / (10 : Rat) ^ (-n.exponent).toNat

/-- The digits of `n` without its trailing zeros, and how many zeros those are. -/
def trimZeros (n : Nat) : Nat × Nat :=
  if n ≠ 0 ∧ n % 10 = 0 then ((trimZeros (n / 10)).1, (trimZeros (n / 10)).2 + 1) else (n, 0)
termination_by n
decreasing_by all_goals omega

theorem trimZeros_zero : trimZeros 0 = (0, 0) := by
  rw [trimZeros]; rfl

theorem trimZeros_digits {n : Nat} (nonzero : n ≠ 0) : (trimZeros n).1 % 10 ≠ 0 := by
  fun_induction trimZeros n with
  | case1 n more ih => exact ih (by omega)
  | case2 n last =>
    intro zero
    exact last ⟨nonzero, zero⟩

def ofNat (n : Nat) : JsNumber :=
  ⟨(trimZeros n).1, (trimZeros n).2, by
    by_cases zero : n = 0
    · subst zero
      rw [trimZeros_zero]
      exact .inr ⟨rfl, rfl⟩
    · have := trimZeros_digits zero
      omega⟩

/-- `Number::toString` for the digits and the position of the decimal point. -/
def toText (n : JsNumber) : String :=
  let digits := (Nat.repr n.mantissa.natAbs).toList
  let k := digits.length
  let point := n.exponent + k
  let sign := if n.mantissa < 0 then "-" else ""
  let zeros (count : Nat) := String.ofList (List.replicate count '0')
  sign ++
    if k ≤ point ∧ point ≤ 21 then String.ofList digits ++ zeros (point.toNat - k)
    else if 0 < point ∧ point ≤ 21 then
      String.ofList (digits.take point.toNat) ++ "." ++ String.ofList (digits.drop point.toNat)
    else if -6 < point ∧ point ≤ 0 then "0." ++ zeros (-point).toNat ++ String.ofList digits
    else
      let scale := point - 1
      let fraction := if k = 1 then "" else "." ++ String.ofList (digits.drop 1)
      String.ofList (digits.take 1) ++ fraction ++ "e" ++ (if scale < 0 then "-" else "+") ++
        Nat.repr scale.natAbs

end JsNumber

/-- A JSON value; the fields of an object stand in property order. -/
inductive Json where
  | null
  | bool (value : Bool)
  | number (value : JsNumber)
  | string (value : String)
  | array (items : List Json)
  | object (fields : List (String × Json))

namespace Json

def hexDigit (n : Nat) : Char := Char.ofNat (if n < 10 then 48 + n else 87 + n)

/-- The escapes of `QuoteJSONString`. -/
def quoteChar (c : Char) : List Char :=
  let backslash := Char.ofNat 92
  match c.toNat with
  | 8 => [backslash, 'b']
  | 9 => [backslash, 't']
  | 10 => [backslash, 'n']
  | 12 => [backslash, 'f']
  | 13 => [backslash, 'r']
  | 34 => [backslash, c]
  | 92 => [backslash, c]
  | code => if code < 32 then [backslash, 'u', '0', '0', hexDigit (code / 16), hexDigit (code % 16)] else [c]

def quote (text : String) : String :=
  let mark := String.singleton (Char.ofNat 34)
  mark ++ String.ofList (text.toList.flatMap quoteChar) ++ mark

def separated (items : List String) : String := String.intercalate "," items

/-- The members an object prints: all of them in order, or the listed keys that it has. -/
def chosen (keys : Option (List String)) (members : List (String × String)) : List String :=
  let print := fun (member : String × String) => quote member.1 ++ ":" ++ member.2
  match keys with
  | none => members.map print
  | some listed => listed.filterMap fun key => (members.find? fun member => member.1 = key).map print

mutual

/-- `JSON.stringify`, with an array of keys as the replacer or without one. -/
def stringify (keys : Option (List String)) : Json → String
  | .null => "null"
  | .bool value => if value then "true" else "false"
  | .number value => value.toText
  | .string value => quote value
  | .array items => "[" ++ separated (stringifyItems keys items) ++ "]"
  | .object fields => "\x7b" ++ separated (chosen keys (stringifyFields keys fields)) ++ "\x7d"

def stringifyItems (keys : Option (List String)) : List Json → List String
  | [] => []
  | item :: items => stringify keys item :: stringifyItems keys items

def stringifyFields (keys : Option (List String)) : List (String × Json) → List (String × String)
  | [] => []
  | (key, value) :: fields => (key, stringify keys value) :: stringifyFields keys fields

end

/-- `value.key`; `none` is `undefined`. -/
def field (value : Json) (key : String) : Option Json :=
  match value with
  | .object fields => (fields.find? fun entry => entry.1 = key).map Prod.snd
  | _ => none

/-- `value.key === text`. -/
def fieldIs (value : Json) (key text : String) : Bool :=
  match value.field key with
  | some (.string actual) => actual = text
  | _ => false

def truthy : Option Json → Bool
  | none | some .null => false
  | some (.bool value) => value
  | some (.number value) => value.mantissa ≠ 0
  | some (.string value) => value ≠ ""
  | some (.array _) | some (.object _) => true

mutual

/-- What a template literal prints for the value. -/
def templateText : Json → String
  | .null => "null"
  | .bool value => if value then "true" else "false"
  | .number value => value.toText
  | .string value => value
  | .array items => separated (templateItems items)
  | .object _ => "[object Object]"

def templateItems : List Json → List String
  | [] => []
  | .null :: items => "" :: templateItems items
  | item :: items => templateText item :: templateItems items

end

def template : Option Json → String
  | none => "undefined"
  | some value => templateText value

end Json

end PaymentModel
