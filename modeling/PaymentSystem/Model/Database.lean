import PaymentSystem.Async.Table
import PaymentSystem.Model.Constants
import PaymentSystem.Model.Helpers
import PaymentSystem.Model.Uuid

namespace PaymentModel

open Async

/-- A row of `payments`; `amount` counts hundredths, as `DECIMAL(12,2)` stores it. -/
structure Payment where
  id : Uuid
  amount : Int
  currency : String
  status : PaymentStatus
  merchantId : String
  customerEmail : String
  description : Option String
  gatewayReference : Option String
  idempotencyKey : Option String
  retryCount : Nat
  maxRetries : Nat
  errorCode : Option String
  errorMessage : Option String
  version : Nat
  metadata : Option Json
  processedAt : Option Nat
  createdAt : Nat
  updatedAt : Nat

/-- `GatewayResult` of types/index.ts. -/
structure GatewayResult where
  success : Bool
  gatewayReference : Option String := none
  errorCode : Option String := none
  errorMessage : Option String := none
  pendingWebhook : Bool := false

/-- `additionalData` of a transition; the outer `none` is `undefined`. -/
structure AdditionalData where
  reason : Option String := none
  gatewayReference : Option String := none
  processedAt : Option Nat := none
  errorCode : Option (Option String) := none
  errorMessage : Option (Option String) := none

/-- The `eventData` of the audit events. -/
inductive EventData where
  | created (amount : JsNumber) (currency merchantId : String)
  | transition (additional : AdditionalData) (version : Nat)
  | gatewayResponse (result : GatewayResult)
  | reason (text : String)
  | retry (attempt : Nat) (delayMs nextRetryAt : Int)
  | webhook (eventId : String) (gatewayReference timestamp : Option Json)

structure PaymentEvent where
  paymentId : Uuid
  fromStatus : Option PaymentStatus
  toStatus : PaymentStatus
  eventType : EventType
  eventData : EventData

structure WebhookEvent where
  paymentId : Uuid
  eventId : String
  payload : Json
  signature : String
  status : WebhookEventStatus

/-- `PaymentResponse`, with the amount as decimal text. -/
structure PaymentResponse where
  id : Uuid
  amount : String
  currency : String
  status : PaymentStatus
  merchantId : String
  customerEmail : String
  description : Option String
  gatewayReference : Option String
  retryCount : Nat
  maxRetries : Nat
  errorCode : Option String
  errorMessage : Option String
  metadata : Option Json
  processedAt : Option Nat
  createdAt : Nat
  updatedAt : Nat

/-- The bodies `res.json` is given by the payment routes. -/
inductive ResponseBody where
  | payment (data : PaymentResponse) (message : String)
  | error (code message : String) (details : Option Json)
  | received (message : String)

structure IdempotencyKey where
  key : String
  requestPath : String
  requestBodyHash : String
  responseCode : Option Nat
  responseBody : Option ResponseBody
  status : IdempotencyKeyStatus
  expiresAt : Rat

structure Db where
  payments : Table Uuid Payment Payment.id := .empty
  paymentEvents : List PaymentEvent := []
  webhookEvents : Table String WebhookEvent WebhookEvent.eventId := .empty
  idempotencyKeys : Table String IdempotencyKey IdempotencyKey.key := .empty

/-- A body of database statements: it reads the clock of the database and either commits its
    result or rolls back with an error. -/
def Tx (α : Type) : Type := Nat → Db → Except JsError (α × Db)

namespace Tx

variable {α β : Type}

instance : Monad Tx where
  pure value := fun _ db => .ok (value, db)
  bind body f := fun now db =>
    match body now db with
    | .ok (value, db') => f value now db'
    | .error e => .error e

instance : MonadExcept JsError Tx where
  throw e := fun _ _ => .error e
  tryCatch body f := fun now db =>
    match body now db with
    | .ok result => .ok result
    | .error e => f e now db

def clock : Tx Nat := fun now db => .ok (now, db)
def read : Tx Db := fun _ db => .ok (db, db)
def write (db : Db) : Tx Unit := fun _ _ => .ok ((), db)

theorem bind_ok {body : Tx α} {f : α → Tx β} {now : Nat} {db db' : Db} {value : β}
    (h : (body >>= f) now db = .ok (value, db')) :
    ∃ first middle, body now db = .ok (first, middle) ∧ f first now middle = .ok (value, db') := by
  change (match body now db with
    | .ok (first, middle) => f first now middle
    | .error e => .error e) = _ at h
  cases ran : body now db with
  | error e => simp [ran] at h
  | ok result => exact ⟨result.1, result.2, rfl, by simpa [ran] using h⟩

theorem bind_error {body : Tx α} {f : α → Tx β} {now : Nat} {db : Db} {e : JsError}
    (h : (body >>= f) now db = .error e) :
    body now db = .error e ∨
      ∃ first middle, body now db = .ok (first, middle) ∧ f first now middle = .error e := by
  change (match body now db with
    | .ok (first, middle) => f first now middle
    | .error e => .error e) = _ at h
  cases ran : body now db with
  | error e' => exact .inl (by simpa [ran] using h)
  | ok result => exact .inr ⟨result.1, result.2, rfl, by simpa [ran] using h⟩

theorem tryCatch_ok {body : Tx α} {f : JsError → Tx α} {now : Nat} {db : Db} {result : α × Db}
    (h : body now db = .ok result) : (tryCatch body f : Tx α) now db = .ok result := by
  change (match body now db with
    | .ok result => Except.ok result
    | .error e => f e now db) = _
  rw [h]

theorem tryCatch_error {body : Tx α} {f : JsError → Tx α} {now : Nat} {db : Db} {e : JsError}
    (h : body now db = .error e) : (tryCatch body f : Tx α) now db = f e now db := by
  change (match body now db with
    | .ok result => Except.ok result
    | .error e => f e now db) = _
  rw [h]

end Tx

def uniqueViolation : JsError := .prisma "P2002" "Unique constraint failed"
def foreignKeyViolation : JsError := .prisma "P2003" "Foreign key constraint violated"
def valueTooLong : JsError := .prisma "P2000" "The provided value is too long for the column's type"
def valueOutOfRange : JsError := .prisma "P2020" "Value out of range for the type"
def recordNotFound : JsError :=
  .prisma "P2025"
    "An operation failed because it depends on one or more records that were required but not found"
def inconsistentColumn : JsError := .prisma "P2023" "Inconsistent column data: Error creating UUID"
def validationFailure : JsError := .other "Invalid prisma client invocation"
def invalidByteSequence : JsError := .other "invalid byte sequence for encoding UTF8: 0x00"

def Tx.require (condition : Bool) (e : JsError) : Tx Unit := if condition then pure () else throw e

/-- Postgres keeps no U+0000, neither in a text nor inside `jsonb`. -/
def nullFree (text : String) : Bool := !text.toList.contains (Char.ofNat 0)

mutual

def Json.nullFree : Json → Bool
  | .string value => PaymentModel.nullFree value
  | .array items => itemsNullFree items
  | .object fields => fieldsNullFree fields
  | .null | .bool _ | .number _ => true

def Json.itemsNullFree : List Json → Bool
  | [] => true
  | item :: items => item.nullFree && itemsNullFree items

def Json.fieldsNullFree : List (String × Json) → Bool
  | [] => true
  | (key, value) :: fields => PaymentModel.nullFree key && value.nullFree && fieldsNullFree fields

end

/-- `VARCHAR(limit)` refuses a text that goes on behind the limit, unless with spaces. -/
def fitsVarchar (limit : Nat) (text : String) : Bool := (text.toList.drop limit).all (· = ' ')

/-- What `VARCHAR(limit)` keeps of such a text. -/
def cutText (limit : Nat) (text : String) : String := String.ofList (text.toList.take limit)

namespace Tx

def text (value : Option String) : Tx Unit := require (value.all nullFree) invalidByteSequence

def varchar (limit : Nat) (value : Option String) : Tx Unit := do
  text value
  require (value.all (fitsVarchar limit)) valueTooLong

def jsonb (value : Option Json) : Tx Unit := require (value.all Json.nullFree) invalidByteSequence

end Tx

/-- `DECIMAL(12,2)`: two fraction digits, rounded half away from zero, and at most ten digits
    before the point. -/
def decimal12_2 (x : Rat) : Option Int :=
  let hundredths := if 0 ≤ x then (x * 100 + 1 / 2).floor else -((-x * 100 + 1 / 2).floor)
  if hundredths.natAbs < 10 ^ 12 then some hundredths else none

/-- `Decimal.toString` of a stored amount. -/
def amountText (amount : Int) : String :=
  let whole := Nat.repr (amount.natAbs / 100)
  let cents := amount.natAbs % 100
  let fraction := if cents = 0 then ""
    else if cents % 10 = 0 then "." ++ Nat.repr (cents / 10)
    else if cents < 10 then ".0" ++ Nat.repr cents
    else "." ++ Nat.repr cents
  (if amount < 0 then "-" else "") ++ whole ++ fraction

/-- The columns `createPayment` fills in. -/
structure PaymentCreateInput where
  id : Uuid
  amount : Rat
  currency : String
  status : PaymentStatus
  merchantId : String
  customerEmail : String
  description : Option String
  idempotencyKey : Option String
  maxRetries : Nat
  metadata : Option Json

/-- The row with the column defaults of the schema. -/
def PaymentCreateInput.row (data : PaymentCreateInput) (amount : Int) (now : Nat) : Payment where
  id := data.id
  amount := amount
  currency := cutText 3 data.currency
  status := data.status
  merchantId := cutText 64 data.merchantId
  customerEmail := cutText 255 data.customerEmail
  description := data.description
  gatewayReference := none
  idempotencyKey := data.idempotencyKey.map (cutText 255)
  retryCount := 0
  maxRetries := data.maxRetries
  errorCode := none
  errorMessage := none
  version := 1
  metadata := data.metadata
  processedAt := none
  createdAt := now
  updatedAt := now

/-- A column update; `none` leaves the column alone, the counters are increments. -/
structure PaymentUpdateInput where
  status : Option PaymentStatus := none
  gatewayReference : Option (Option String) := none
  processedAt : Option Nat := none
  errorCode : Option (Option String) := none
  errorMessage : Option (Option String) := none
  retryCount : Nat := 0
  version : Nat := 0

def PaymentUpdateInput.apply (data : PaymentUpdateInput) (now : Nat) (row : Payment) : Payment :=
  { row with
    status := data.status.getD row.status
    gatewayReference := (data.gatewayReference.map fun text => text.map (cutText 255)).getD row.gatewayReference
    processedAt := data.processedAt <|> row.processedAt
    errorCode := (data.errorCode.map fun text => text.map (cutText 64)).getD row.errorCode
    errorMessage := data.errorMessage.getD row.errorMessage
    retryCount := row.retryCount + data.retryCount
    version := row.version + data.version
    updatedAt := now }

def Db.payment (db : Db) (id : Uuid) : Option Payment := db.payments.find id

/-- `payment.create`, with the unique indexes on `id` and `idempotency_key`. -/
def paymentCreate (data : PaymentCreateInput) : Tx Payment := do
  let now ← Tx.clock
  let db ← Tx.read
  Tx.varchar 3 (some data.currency)
  Tx.varchar 64 (some data.merchantId)
  Tx.varchar 255 (some data.customerEmail)
  Tx.text data.description
  Tx.varchar 255 data.idempotencyKey
  Tx.jsonb data.metadata
  match decimal12_2 data.amount with
  | none => throw valueOutOfRange
  | some amount =>
    let row := data.row amount now
    Tx.require (row.idempotencyKey.isNone ||
      db.payments.rows.all fun other => other.idempotencyKey ≠ row.idempotencyKey) uniqueViolation
    match db.payments.insert row with
    | none => throw uniqueViolation
    | some payments =>
      Tx.write { db with payments }
      pure row

/-- `payment.update` with `where: { id, version }`. -/
def paymentUpdate (id : Uuid) (version : Nat) (data : PaymentUpdateInput) : Tx Payment := do
  let now ← Tx.clock
  let db ← Tx.read
  match db.payment id with
  | none => throw recordNotFound
  | some row =>
    if row.version ≠ version then throw recordNotFound
    else do
      Tx.varchar 255 (data.gatewayReference.getD none)
      Tx.varchar 64 (data.errorCode.getD none)
      Tx.text (data.errorMessage.getD none)
      let updated := data.apply now row
      Tx.write { db with payments := db.payments.replace updated }
      pure updated

/-- The texts of a gateway result, as its event stores them. -/
def GatewayResult.nullFree (result : GatewayResult) : Bool :=
  result.gatewayReference.all PaymentModel.nullFree && result.errorCode.all PaymentModel.nullFree &&
    result.errorMessage.all PaymentModel.nullFree

/-- Whether `jsonb` takes the data of an event. All but the result of the gateway is made of the
    program's own texts and of texts that the same transaction keeps in a column or has read from one. -/
def EventData.nullFree : EventData → Bool
  | .gatewayResponse result => result.nullFree
  | .created .. | .transition .. | .reason _ | .retry .. | .webhook .. => true

/-- `paymentEvent.create`; `payment_id` refers to a payment. -/
def paymentEventCreate (event : PaymentEvent) : Tx Unit := do
  let db ← Tx.read
  Tx.require event.eventData.nullFree invalidByteSequence
  Tx.require (db.payment event.paymentId).isSome foreignKeyViolation
  Tx.write { db with paymentEvents := db.paymentEvents ++ [event] }

/-- The body that all transitions share: the guarded update, then its audit event. -/
def recordedUpdate (id : Uuid) (version : Nat) (data : PaymentUpdateInput) (event : Payment → PaymentEvent) :
    Tx Payment := do
  let updated ← paymentUpdate id version data
  paymentEventCreate (event updated)
  pure updated

/-- The row that `webhook_events` keeps. -/
def WebhookEvent.row (event : WebhookEvent) : WebhookEvent :=
  { event with eventId := cutText 255 event.eventId, signature := cutText 512 event.signature }

/-- `webhookEvent.create`; `event_id` is unique and `payment_id` refers to a payment. -/
def webhookEventCreate (event : WebhookEvent) : Tx Unit := do
  let db ← Tx.read
  Tx.varchar 255 (some event.eventId)
  Tx.varchar 512 (some event.signature)
  Tx.jsonb (some event.payload)
  Tx.require (db.payment event.paymentId).isSome foreignKeyViolation
  match db.webhookEvents.insert event.row with
  | none => throw uniqueViolation
  | some webhookEvents => Tx.write { db with webhookEvents }

def idempotencyKeyCreate (row : IdempotencyKey) : Tx Unit := do
  let db ← Tx.read
  Tx.varchar 255 (some row.key)
  Tx.varchar 255 (some row.requestPath)
  match db.idempotencyKeys.insert
    { row with key := cutText 255 row.key, requestPath := cutText 255 row.requestPath } with
  | none => throw uniqueViolation
  | some idempotencyKeys => Tx.write { db with idempotencyKeys }

/-- `idempotencyKey.updateMany` with `where: { key }`. -/
def idempotencyKeyUpdateMany (key : String) (responseCode : Nat) (responseBody : ResponseBody) :
    Tx Unit := do
  let db ← Tx.read
  match db.idempotencyKeys.find key with
  | none => pure ()
  | some row =>
    let completed := { row with
      status := .completed
      responseCode := some responseCode
      responseBody := some responseBody }
    Tx.write { db with idempotencyKeys := db.idempotencyKeys.replace completed }

end PaymentModel
