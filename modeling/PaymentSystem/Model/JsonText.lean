import PaymentSystem.Model.JsString

namespace PaymentModel

/-- A JSON value with the strings of ECMAScript; the members of an object stand in property order. -/
inductive JsonValue where
  | null
  | bool (value : Bool)
  | number (value : JsNumber)
  | string (value : JsString)
  | array (items : List JsonValue)
  | object (members : List (JsString × JsonValue))

def quotationMark : Char := Char.ofNat 34
def reverseSolidus : Char := Char.ofNat 92
def leftBrace : Char := Char.ofNat 123
def rightBrace : Char := Char.ofNat 125

namespace JsonValue

mutual

/-- `JSON.stringify` without a replacer. -/
def stringify : JsonValue → List Char
  | .null => ['n', 'u', 'l', 'l']
  | .bool value => if value then ['t', 'r', 'u', 'e'] else ['f', 'a', 'l', 's', 'e']
  | .number value => value.toText.toList
  | .string value => quotationMark :: (quoteUnits value ++ [quotationMark])
  | .array items => '[' :: ([','].intercalate (stringifyItems items) ++ [']'])
  | .object members => leftBrace :: ([','].intercalate (stringifyMembers members) ++ [rightBrace])

def stringifyItems : List JsonValue → List (List Char)
  | [] => []
  | item :: items => stringify item :: stringifyItems items

def stringifyMembers : List (JsString × JsonValue) → List (List Char)
  | [] => []
  | (key, value) :: members =>
    (quotationMark :: (quoteUnits key ++ quotationMark :: ':' :: stringify value)) :: stringifyMembers members

end

end JsonValue

/-- The lexical elements of a JSON text; `scalar` stands for a number or one of the three names. -/
inductive Token where
  | beginArray | endArray | beginObject | endObject | colon | comma
  | text (value : JsString)
  | scalar (value : JsonValue)

namespace JsNumber

/-- The number with these digits, `digits * 10 ^ exponent`. -/
def ofDecimal (negative : Bool) (digits : Nat) (exponent : Int) : JsNumber :=
  if nonzero : digits = 0 then ⟨0, 0, .inr ⟨rfl, rfl⟩⟩
  else
    ⟨if negative then -((trimZeros digits).1 : Int) else (trimZeros digits).1, exponent + (trimZeros digits).2, by
      have := trimZeros_digits nonzero
      split <;> omega⟩

def isExponentMark (c : Char) : Bool := c = 'e' || c = 'E'

/-- The value of a run of digits; there has to be one at least. -/
def readDigits (text : List Char) : Option Nat :=
  if text ≠ [] ∧ text.all Char.isDigit then some (Nat.ofDigitChars 10 text 0) else none

/-- The exponent of a number, from its mark on. -/
def readExponent : List Char → Option Int
  | [] => some 0
  | mark :: text =>
    if isExponentMark mark then
      match text with
      | '-' :: digits => (readDigits digits).map fun (n : Nat) => -(n : Int)
      | '+' :: digits => (readDigits digits).map fun (n : Nat) => (n : Int)
      | digits => (readDigits digits).map fun (n : Nat) => (n : Int)
    else none

/-- A number without its sign. -/
def readUnsigned (negative : Bool) (text : List Char) : Option JsNumber :=
  let whole := text.takeWhile Char.isDigit
  let rest := text.dropWhile Char.isDigit
  if whole = [] ∨ (whole.head? = some '0' ∧ 1 < whole.length) then none
  else
    match rest with
    | '.' :: rest =>
      let fraction := rest.takeWhile Char.isDigit
      if fraction = [] then none
      else (readExponent (rest.dropWhile Char.isDigit)).map fun exponent =>
        ofDecimal negative (Nat.ofDigitChars 10 (whole ++ fraction) 0) (exponent - fraction.length)
    | rest => (readExponent rest).map fun exponent => ofDecimal negative (Nat.ofDigitChars 10 whole 0) exponent

/-- The decimal number a JSON number literal stands for. -/
def read : List Char → Option JsNumber
  | '-' :: text => readUnsigned true text
  | text => readUnsigned false text

end JsNumber

/-- Where the lexer is inside a lexical element. -/
inductive LexState where
  | start
  | name (letters : List Char)
  | number (literal : List Char)
  | string (units : JsString)
  | escape (units : JsString)
  | hex (units : JsString) (value : Nat) (missing : Nat)

namespace LexState

def isSpace (c : Char) : Bool := c = ' ' || c = Char.ofNat 9 || c = Char.ofNat 10 || c = Char.ofNat 13

def isNumberChar (c : Char) : Bool := c.isDigit || c = '-' || c = '+' || c = '.' || JsNumber.isExponentMark c

def hexValue (c : Char) : Option Nat :=
  if c.isDigit then some (c.toNat - 48)
  else if 'a' ≤ c ∧ c ≤ 'f' then some (c.toNat - 87)
  else if 'A' ≤ c ∧ c ≤ 'F' then some (c.toNat - 55)
  else none

def nameToken (letters : List Char) : Option Token :=
  if letters = ['n', 'u', 'l', 'l'] then some (.scalar .null)
  else if letters = ['t', 'r', 'u', 'e'] then some (.scalar (.bool true))
  else if letters = ['f', 'a', 'l', 's', 'e'] then some (.scalar (.bool false))
  else none

/-- The lexical elements that end where the next character, or the end of the text, cannot continue them. -/
def finish : LexState → Option (List Token)
  | .start => some []
  | .name letters => (nameToken letters).map fun token => [token]
  | .number literal => (JsNumber.read literal).map fun value => [.scalar (.number value)]
  | _ => none

def begin (c : Char) : Option (List Token × LexState) :=
  if isSpace c then some ([], .start)
  else if c = '[' then some ([.beginArray], .start)
  else if c = ']' then some ([.endArray], .start)
  else if c = leftBrace then some ([.beginObject], .start)
  else if c = rightBrace then some ([.endObject], .start)
  else if c = ':' then some ([.colon], .start)
  else if c = ',' then some ([.comma], .start)
  else if c = quotationMark then some ([], .string [])
  else if c.isDigit || c = '-' then some ([], .number [c])
  else if c.isLower then some ([], .name [c])
  else none

/-- What stands for the character after a reverse solidus. -/
def unescape (c : Char) : Option UInt16 :=
  if c = quotationMark ∨ c = reverseSolidus ∨ c = '/' then some (UInt16.ofNat c.toNat)
  else if c = 'b' then some 8
  else if c = 't' then some 9
  else if c = 'n' then some 10
  else if c = 'f' then some 12
  else if c = 'r' then some 13
  else none

def next : LexState → Char → Option (List Token × LexState)
  | .start, c => begin c
  | .name letters, c =>
    if c.isLower then some ([], .name (letters ++ [c]))
    else (finish (.name letters)).bind fun tokens => (begin c).map (Prod.map (tokens ++ ·) id)
  | .number literal, c =>
    if isNumberChar c then some ([], .number (literal ++ [c]))
    else (finish (.number literal)).bind fun tokens => (begin c).map (Prod.map (tokens ++ ·) id)
  | .string units, c =>
    if c = quotationMark then some ([.text units], .start)
    else if c = reverseSolidus then some ([], .escape units)
    else if c.toNat < 32 then none
    else some ([], .string (units ++ utf16OfChar c))
  | .escape units, c =>
    if c = 'u' then some ([], .hex units 0 4)
    else (unescape c).map fun unit => ([], .string (units ++ [unit]))
  | .hex units value missing, c => (hexValue c).map fun digit =>
    if missing ≤ 1 then ([], .string (units ++ [UInt16.ofNat (16 * value + digit)]))
    else ([], .hex units (16 * value + digit) (missing - 1))

end LexState

def lex : LexState → List Char → Option (List Token)
  | state, [] => state.finish
  | state, c :: text => (state.next c).bind fun step => (lex step.2 text).map (step.1 ++ ·)

/-- An array or an object that is not closed yet. -/
inductive Frame where
  | items (items : List JsonValue)
  | member (members : List (JsString × JsonValue)) (key : JsString)

/-- What the parser expects next. -/
inductive ParseState where
  | expectValue (frames : List Frame)
  | expectItemOrEnd (frames : List Frame)
  | expectKeyOrEnd (frames : List Frame)
  | expectKey (members : List (JsString × JsonValue)) (frames : List Frame)
  | expectColon (members : List (JsString × JsonValue)) (key : JsString) (frames : List Frame)
  | afterItem (items : List JsonValue) (frames : List Frame)
  | afterMember (members : List (JsString × JsonValue)) (frames : List Frame)
  | done (value : JsonValue)

namespace ParseState

/-- The state after a value. -/
def deliver (value : JsonValue) : List Frame → ParseState
  | [] => .done value
  | .items items :: frames => .afterItem (items ++ [value]) frames
  | .member members key :: frames => .afterMember (members ++ [(key, value)]) frames

def beginValue (frames : List Frame) : Token → Option ParseState
  | .scalar value => some (deliver value frames)
  | .text value => some (deliver (.string value) frames)
  | .beginArray => some (.expectItemOrEnd frames)
  | .beginObject => some (.expectKeyOrEnd frames)
  | _ => none

def next : ParseState → Token → Option ParseState
  | .expectValue frames, token => beginValue frames token
  | .expectItemOrEnd frames, .endArray => some (deliver (.array []) frames)
  | .expectItemOrEnd frames, token => beginValue (.items [] :: frames) token
  | .expectKeyOrEnd frames, .endObject => some (deliver (.object []) frames)
  | .expectKeyOrEnd frames, .text key => some (.expectColon [] key frames)
  | .expectKey members frames, .text key => some (.expectColon members key frames)
  | .expectColon members key frames, .colon => some (.expectValue (.member members key :: frames))
  | .afterItem items frames, .comma => some (.expectValue (.items items :: frames))
  | .afterItem items frames, .endArray => some (deliver (.array items) frames)
  | .afterMember members frames, .comma => some (.expectKey members frames)
  | .afterMember members frames, .endObject => some (deliver (.object members) frames)
  | _, _ => none

end ParseState

def readTokens : ParseState → List Token → Option JsonValue
  | .done value, [] => some value
  | _, [] => none
  | state, token :: tokens => (state.next token).bind fun state => readTokens state tokens

/-- The value a JSON text describes, with its members as they are written. -/
def readJson (text : List Char) : Option JsonValue := (lex .start text).bind (readTokens (.expectValue []))

end PaymentModel
