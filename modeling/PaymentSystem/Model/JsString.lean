import PaymentSystem.Model.Json

namespace PaymentModel

/-- A string of ECMAScript: any sequence of UTF-16 code units. -/
abbrev JsString : Type := List UInt16

def isHighSurrogate (unit : UInt16) : Bool := 0xD800 ≤ unit.toNat ∧ unit.toNat < 0xDC00

def isLowSurrogate (unit : UInt16) : Bool := 0xDC00 ≤ unit.toNat ∧ unit.toNat < 0xE000

/-- The character of a surrogate pair. -/
def pairChar (high low : UInt16) : Char :=
  Char.ofNat (0x10000 + (high.toNat - 0xD800) * 0x400 + (low.toNat - 0xDC00))

def utf16OfChar (c : Char) : JsString :=
  if c.toNat < 0x10000 then [UInt16.ofNat c.toNat]
  else [UInt16.ofNat (0xD800 + (c.toNat - 0x10000) / 0x400), UInt16.ofNat (0xDC00 + (c.toNat - 0x10000) % 0x400)]

def utf16 (text : String) : JsString := text.toList.flatMap utf16OfChar

/-- Strings compare by their code units. -/
def unitsLe : JsString → JsString → Bool
  | [], _ => true
  | _ :: _, [] => false
  | a :: as, b :: bs => if a = b then unitsLe as bs else a.toNat < b.toNat

/-- What is printed for a unit that is not part of a surrogate pair: a lone surrogate is escaped. -/
def quoteUnit (unit : UInt16) : List Char :=
  if isHighSurrogate unit || isLowSurrogate unit then
    [Char.ofNat 92, 'u', Json.hexDigit (unit.toNat / 0x1000), Json.hexDigit (unit.toNat / 0x100 % 16),
      Json.hexDigit (unit.toNat / 16 % 16), Json.hexDigit (unit.toNat % 16)]
  else Json.quoteChar (Char.ofNat unit.toNat)

/-- `QuoteJSONString` without the quotation marks. -/
def quoteUnits : JsString → List Char
  | [] => []
  | [unit] => quoteUnit unit
  | high :: low :: units =>
    if isHighSurrogate high && isLowSurrogate low then pairChar high low :: quoteUnits units
    else quoteUnit high ++ quoteUnits (low :: units)

/-- The characters of a string; a lone surrogate is replaced by U+FFFD. -/
def wellFormed : JsString → List Char
  | [] => []
  | [unit] => [wellFormedUnit unit]
  | high :: low :: units =>
    if isHighSurrogate high && isLowSurrogate low then pairChar high low :: wellFormed units
    else wellFormedUnit high :: wellFormed (low :: units)
where
  wellFormedUnit (unit : UInt16) : Char :=
    if isHighSurrogate unit || isLowSurrogate unit then Char.ofNat 0xFFFD else Char.ofNat unit.toNat

/-- `Buffer.from` of a string: its UTF-8 bytes. -/
def bufferFrom (text : JsString) : ByteArray := (String.ofList (wellFormed text)).toUTF8

end PaymentModel
