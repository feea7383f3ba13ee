import PaymentSystem.Async.Paging
import PaymentSystem.Model.JsonParse
import PaymentSystem.Model.Number
import PaymentSystem.Model.PaymentService

namespace PaymentModel

open Async

namespace Number

/-- `Math.max`. -/
def max (a b : Number) : Number := if a = .nan ∨ b = .nan then .nan else if a.lt b then b else a

/-- `Math.min`. -/
def min (a b : Number) : Number := if a = .nan ∨ b = .nan then .nan else if b.lt a then b else a

/-- `Math.ceil`. -/
def ceil : Number → Number
  | .finite value => .finite value.ceil
  | other => other

/-- The double next to `x`. -/
def double (x : Rat) : Number :=
  let nearest := JsNumber.nearestDouble |x|
  if x = 0 then .finite 0
  else if (2 : Rat) ^ 1024 ≤ nearest then if x < 0 then .negInfinity else .infinity
  else .finite (if x < 0 then -nearest else nearest)

def ofSign (sign : Int) : Number := if 0 < sign then .infinity else if sign < 0 then .negInfinity else .nan

def sign : Number → Int
  | .nan => 0
  | .negInfinity => -1
  | .infinity => 1
  | .finite value => if 0 < value then 1 else if value < 0 then -1 else 0

section

variable (round : Rat → Number)

/-- `a - b`; `round` is what becomes of an exact result. -/
def sub (a b : Number) : Number :=
  match a, b with
  | .finite x, .finite y => round (x - y)
  | .nan, _ | _, .nan | .infinity, .infinity | .negInfinity, .negInfinity => .nan
  | .infinity, _ | _, .negInfinity => .infinity
  | .negInfinity, _ | _, .infinity => .negInfinity

def mul (a b : Number) : Number :=
  match a, b with
  | .finite x, .finite y => round (x * y)
  | .nan, _ | _, .nan => .nan
  | a, b => ofSign (a.sign * b.sign)

/-- `a / b`, without the sign of a zero. -/
def div (a b : Number) : Number :=
  match a, b with
  | .finite x, .finite y => if y = 0 then ofSign (sign (.finite x)) else round (x / y)
  | .nan, _ | _, .nan => .nan
  | .finite _, _ => .finite 0
  | a, .finite y => ofSign (a.sign * if y = 0 then 1 else sign (.finite y))
  | _, _ => .nan

end

/-- The value of an `Int` argument of Prisma that is not negative. -/
def natural? : Number → Option Nat
  | .finite value => if value.den = 1 ∧ 0 ≤ value.num then some value.num.toNat else none
  | _ => none

end Number

/-- What `parseInt` skips before a number. -/
def isStrWhiteSpace (c : Char) : Bool :=
  [0x9, 0xA, 0xB, 0xC, 0xD, 0x20, 0xA0, 0x1680, 0x2028, 0x2029, 0x202F, 0x205F, 0x3000, 0xFEFF].contains c.toNat ||
    (0x2000 ≤ c.toNat && c.toNat ≤ 0x200A)

def digitValue (c : Char) : Option Nat :=
  if '0' ≤ c ∧ c ≤ '9' then some (c.toNat - 48)
  else if 'a' ≤ c ∧ c ≤ 'f' then some (c.toNat - 87)
  else if 'A' ≤ c ∧ c ≤ 'F' then some (c.toNat - 55)
  else none

/-- The radix `parseInt` finds, and the text after its prefix. -/
def splitRadix : List Char → Nat × List Char
  | '0' :: 'x' :: rest | '0' :: 'X' :: rest => (16, rest)
  | rest => (10, rest)

/-- The integer that `parseInt` reads at the start of the text; `none` if there is no digit. -/
def readInteger (text : String) : Option Int :=
  let trimmed := text.toList.dropWhile isStrWhiteSpace
  let unsigned := if trimmed.head? = some '-' ∨ trimmed.head? = some '+' then trimmed.drop 1 else trimmed
  let (radix, rest) := splitRadix unsigned
  let digits := (rest.map digitValue).takeWhile fun digit => digit.any fun value => value < radix
  if digits.isEmpty then none
  else
    let value : Nat := digits.foldl (fun sofar digit => sofar * radix + digit.getD 0) 0
    some (if trimmed.head? = some '-' then -value else value)

/-- `parseInt`. -/
def parseInt (text : String) : Number :=
  match readInteger text with
  | none => .nan
  | some value => Number.double value

def pageSize : Nat := 20

def maxPageSize : Nat := 100

/-- The query of `GET /payments`, with the parameters as strings. -/
structure ListQuery where
  page : Option String := none
  limit : Option String := none
  status : Option String := none
  merchantId : Option String := none
  fromDate : Option String := none
  toDate : Option String := none

structure PaginationParams where
  page : Number
  limit : Number

/-- What `PaymentListFilters` adds to the pagination. -/
structure PaymentFilters where
  status : Option String := none
  merchantId : Option String := none
  fromDate : Option String := none
  toDate : Option String := none

structure PaymentListFilters extends PaginationParams, PaymentFilters

/-- `String(value || default)`. -/
def queryText (value : Option String) (default : String) : String :=
  if truthy value then value.getD "" else default

namespace ListQuery

variable (query : ListQuery)

def pageText : String := queryText query.page "1"

def limitText : String := queryText query.limit (Nat.repr pageSize)

/-- The filters that the controller's `listPayments` passes to the service. -/
def filters : PaymentListFilters where
  page := Number.max (.finite 1) (parseInt query.pageText)
  limit := Number.min (.finite maxPageSize) (Number.max (.finite 1) (parseInt query.limitText))
  status := query.status
  merchantId := query.merchantId
  fromDate := query.fromDate
  toDate := query.toDate

end ListQuery

/-- The `where` clause of `listPayments`; a date is the time it stands for, or `none` if it is invalid. -/
structure PaymentWhere where
  status : Option String
  merchantId : Option String
  createdAtGte : Option (Option Int)
  createdAtLte : Option (Option Int)

namespace PaymentWhere

def paymentStatuses : List PaymentStatus :=
  [.created, .pending, .processing, .success, .failed, .retryScheduled, .permanentlyFailed, .cancelled]

variable (condition : PaymentWhere)

/-- Prisma rejects a status that is none of the enumeration, and an invalid date. -/
def accepted : Bool :=
  (condition.status.all fun text => paymentStatuses.any fun status => status.text = text) &&
    condition.createdAtGte.all Option.isSome && condition.createdAtLte.all Option.isSome

def holds (payment : Payment) : Bool :=
  (condition.status.all fun text => payment.status.text = text) &&
    (condition.merchantId.all fun merchantId => payment.merchantId = merchantId) &&
      (condition.createdAtGte.all fun date => date.any fun time => time ≤ (payment.createdAt : Int)) &&
        condition.createdAtLte.all fun date => date.any fun time => (payment.createdAt : Int) ≤ time

end PaymentWhere

section

variable (newDate : String → Option Int)

/-- The `where` clause that is built from the filters; `newDate` is `new Date` of a string. -/
def paymentWhere (filters : PaymentFilters) : PaymentWhere where
  status := orNull filters.status
  merchantId := orNull filters.merchantId
  createdAtGte := (orNull filters.fromDate).map newDate
  createdAtLte := (orNull filters.toDate).map newDate

def matching (payments : List Payment) (filters : PaymentFilters) : List Payment :=
  payments.filter (paymentWhere newDate filters).holds

/-- `payment.findMany` ordered by `createdAt`, for an order in which Postgres returns the rows. -/
def paymentFindMany (condition : PaymentWhere) {rows : List Payment}
    (answer : Descending Payment.createdAt rows) (skip take : Number) : Option (List Payment) :=
  if condition.accepted then
    skip.natural?.bind fun skip => take.natural?.map fun take => (answer.list.drop skip).take take
  else none

structure PaginatedResponse where
  data : List PaymentResponse
  page : Number
  limit : Number
  total : Nat
  totalPages : Number
  hasNext : Bool
  hasPrevious : Bool

variable (round : Rat → Number)

/-- `skip` of `listPayments`. -/
def PaymentListFilters.skip (filters : PaymentListFilters) : Number :=
  ((filters.page.sub round (.finite 1)).mul round filters.limit)

/-- `listPayments` of the service on an unchanging table; it fails when Prisma rejects the query. -/
def listPayments (payments : List Payment) (filters : PaymentListFilters)
    (answer : Descending Payment.createdAt (matching newDate payments filters.toPaymentFilters)) :
    Option PaginatedResponse :=
  let found := paymentFindMany (paymentWhere newDate filters.toPaymentFilters) answer (filters.skip round) filters.limit
  found.map fun rows =>
    let total := (matching newDate payments filters.toPaymentFilters).length
    let totalPages := (Number.div round (.finite total) filters.limit).ceil
    { data := rows.map toPaymentResponse
      page := filters.page
      limit := filters.limit
      total
      totalPages
      hasNext := filters.page.lt totalPages
      hasPrevious := Number.lt (.finite 1) filters.page }

end

end PaymentModel
