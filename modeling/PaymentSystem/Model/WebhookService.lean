import PaymentSystem.Model.DistributedLock

namespace PaymentModel

open Async

variable (site : Deployment)

inductive WebhookResult where
  | processed | ignored
  deriving DecidableEq

/-- The value that `{ set: value }` writes; any other JSON stands for itself. -/
def operand : Json → Json
  | .object [("set", value)] => value
  | value => value

/-- An optional column given as JSON: `undefined` leaves it alone, and what writes neither `null` nor a
    string is refused. -/
def optionalText : Option Json → Except JsError (Option (Option String))
  | none => .ok none
  | some value =>
    match operand value with
    | .null => .ok (some none)
    | .string text => .ok (some (some text))
    | _ => .error validationFailure

/-- The payment a payload is about: its `paymentId` in whatever spelling of a UUID. -/
def namedPayment (payload : Json) : Except JsError Uuid :=
  match payload.field "paymentId" with
  | some (.string text) =>
    match Uuid.parse text with
    | some paymentId => .ok paymentId
    | none => .error inconsistentColumn
  | _ => .error validationFailure

def webhookTarget (payload : Json) : PaymentStatus :=
  if payload.fieldIs "status" "success" then .success else .failed

/-- The `updateData` of a webhook. -/
def webhookUpdate (payload : Json) (targetStatus : PaymentStatus) (now : Nat) :
    Except JsError PaymentUpdateInput := do
  let gatewayReference ← optionalText (payload.field "gatewayReference")
  let reported := Json.truthy (payload.field "errorCode")
  let errorCode ← if reported then optionalText (payload.field "errorCode") else pure none
  let errorMessage ←
    if reported then
      if Json.truthy (payload.field "errorMessage") then optionalText (payload.field "errorMessage")
      else pure (some none)
    else pure none
  pure {
    status := some targetStatus
    gatewayReference
    processedAt := if targetStatus = .success then some now else none
    errorCode
    errorMessage
    version := 1 }

/-- `webhookEvent.create` for a payload. -/
def createWebhookEvent (payload : Json) (signature eventId : String) (status : WebhookEventStatus) : Tx Unit :=
  match namedPayment payload with
  | .ok paymentId => webhookEventCreate { paymentId, eventId, payload, signature, status }
  | .error e => throw e

def recordWebhookEvent (payload : Json) (signature eventId : String) (status : WebhookEventStatus) :
    Promise Unit := do
  if status = .duplicate then
    let now ← ask .dateNow
    ask (.statement (createWebhookEvent payload signature (eventId ++ "_dup_" ++ Nat.repr now) status))
  else
    ask (.statement (createWebhookEvent payload signature eventId status))

/-- Row, audit event and webhook event of an accepted webhook. -/
def processWebhookInTx (paymentId : Uuid) (payload : Json) (signature eventId : String)
    (payment : Payment) (targetStatus : PaymentStatus) (now : Nat) : Tx Payment := do
  match webhookUpdate payload targetStatus now with
  | .error e => throw e
  | .ok updateData =>
    let updated ← recordedUpdate paymentId payment.version updateData fun _ => {
      paymentId
      fromStatus := some payment.status
      toStatus := targetStatus
      eventType := .webhookReceived
      eventData := .webhook eventId (payload.field "gatewayReference") (payload.field "timestamp") }
    createWebhookEvent payload signature eventId .processed
    pure updated

def processWebhookLocked (payload : Json) (signature eventId : String) : Promise WebhookResult := do
  match namedPayment payload with
  | .error e => throw e
  | .ok paymentId =>
    match ← ask (.paymentFindUnique .processWebhook paymentId) with
    | none =>
      recordWebhookEvent payload signature eventId .rejected
      pure .ignored
    | some payment =>
      if payment.status ∈ terminalStates then
        recordWebhookEvent payload signature eventId .rejected
        pure .ignored
      else if !isValidStateTransition payment.status (webhookTarget payload) then
        recordWebhookEvent payload signature eventId .rejected
        pure .ignored
      else
        let now ← ask .dateNow
        let _ ← ask (.transaction
          (processWebhookInTx paymentId payload signature eventId payment (webhookTarget payload) now))
        pure .processed

/-- `webhookEvent.findUnique`, which refuses U+0000 as the insert does. -/
def findWebhookEvent (eventId : String) : Promise (Option WebhookEvent) :=
  if nullFree eventId then ask (.webhookEventFindUnique eventId) else throw invalidByteSequence

def processWebhook (payload : Json) (signature : String) : Promise WebhookResult := do
  match verifyWebhookSignature site (Json.stringify none payload) signature with
  | .error e => throw e
  | .ok false => throw (unauthorizedError "Invalid webhook signature")
  | .ok true =>
    match payload.field "eventId" with
    | some (.string eventId) =>
      match ← findWebhookEvent eventId with
      | some _ =>
        recordWebhookEvent payload signature eventId .duplicate
        pure .ignored
      | none =>
        withLock (paymentLockKey (Json.template (payload.field "paymentId"))) site.lockTtlMs
          (processWebhookLocked payload signature eventId)
    | _ => throw validationFailure

end PaymentModel
