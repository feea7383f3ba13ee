import PaymentSystem.Model.PaymentService
import PaymentSystem.Model.WebhookService

namespace PaymentModel

open Async

variable (site : Deployment)

/-- `res.status(code).json(body)` as the handlers of one request see it. -/
abbrev Responder : Type := Nat → ResponseBody → Promise Unit

def originalJson : Responder := fun code body => ask (.respond code body)

def errorHandler (json : Responder) : JsError → Promise Unit
  | .app error => json error.statusCode (.error error.code error.message error.details)
  | error =>
    json 500 (.error "INTERNAL_ERROR"
      (if site.nodeEnv = some "development" then error.message else "An unexpected error occurred") none)

/-- The validated body as JSON, in the key order of the schema. -/
def CreatePaymentRequest.json (request : CreatePaymentRequest) : Json :=
  .object ([("amount", .number request.amount), ("currency", .string request.currency),
    ("merchantId", .string request.merchantId), ("customerEmail", .string request.customerEmail)] ++
    (request.description.map fun text => ("description", Json.string text)).toList ++
    (request.metadata.map fun fields => ("metadata", Json.object fields)).toList)

/-- The handler of the router and, for an error, that of the application; `json` is given the
    `request.path` of either. -/
def initiatePayment (request : PostRequest) (json : String → Responder) : Promise Unit :=
  tryCatch
    (do
      let payment ← createPayment site request.body request.idempotencyKey
      json request.path 201 (.payment payment "Payment created and queued for processing"))
    (errorHandler site (json request.fullPath))

def redisKey (idempotencyKey : String) : String := "idempotency:" ++ idempotencyKey

def idempotencyTtlSeconds : Rat := site.idempotencyTtlHours * 3600

/-- The intercepted `res.json`: both writes are started and not awaited. -/
def cachingJson (request : PostRequest) (idempotencyKey path : String) : Responder := fun code body => do
  Program.start (.recordSet (redisKey idempotencyKey)
    (.completed path (hashBody site request.body.json) code body) (idempotencyTtlSeconds site))
  Program.start (.statement (idempotencyKeyUpdateMany idempotencyKey code body))
  ask (.respond code body)

/-- How the middleware leaves its `try` block when it does not throw: with an answer of its own, or
    with the intercepted response installed. -/
inductive IdempotencyOutcome where
  | answered
  | proceed

/-- Mark the key as processing in Redis and in Postgres. What `SET NX` reports is not used, and an
    error of the insert is ignored. -/
def markProcessing (request : PostRequest) (idempotencyKey : String) : Promise IdempotencyOutcome := do
  let requestHash := hashBody site request.body.json
  let _ ← ask (.recordSetNx (redisKey idempotencyKey) (.processing request.path requestHash)
    (idempotencyTtlSeconds site))
  let now ← ask .dateNow
  tryCatch
    (ask (.statement (idempotencyKeyCreate {
      key := idempotencyKey
      requestPath := request.path
      requestBodyHash := requestHash
      responseCode := none
      responseBody := none
      status := .processing
      expiresAt := now + idempotencyTtlSeconds site * 1000 })))
    fun _ => pure ()
  pure .proceed

def keyReuseBody : ResponseBody :=
  .error "IDEMPOTENCY_KEY_REUSE" "Idempotency key was already used with a different request body" none

def idempotencyCheck (request : PostRequest) (idempotencyKey : String) : Promise IdempotencyOutcome := do
  let requestHash := hashBody site request.body.json
  match ← ask (.recordGet (redisKey idempotencyKey)) with
  | some cached =>
    if cached.requestBodyHash ≠ requestHash then
      originalJson 422 keyReuseBody
      pure .answered
    else
      match cached with
      | .completed _ _ responseCode responseBody =>
        originalJson responseCode responseBody
        pure .answered
      | .processing .. => throw (.app (idempotencyConflictError idempotencyKey))
  | none => markProcessing site request idempotencyKey

/-- The middleware in front of `handler`; `next` is called with the response it leaves behind. -/
def idempotency (request : PostRequest) (handler : (String → Responder) → Promise Unit) : Promise Unit := do
  match request.idempotencyKey with
  | none =>
    ask (.next none)
    handler fun _ => originalJson
  | some idempotencyKey =>
    if idempotencyKey = "" then
      ask (.next none)
      handler fun _ => originalJson
    else
      let outcome ← tryCatch (idempotencyCheck site request idempotencyKey) fun error => do
        errorHandler site originalJson error
        pure .answered
      match outcome with
      | .answered => pure ()
      | .proceed =>
        ask (.next (some idempotencyKey))
        handler (cachingJson site request idempotencyKey)

/-- `POST /payments` behind the validator. -/
def postPayments (request : PostRequest) : Promise Unit :=
  idempotency site request (initiatePayment site request)

/-- `POST /payments/:id/cancel`. -/
def postCancel (paymentId : String) : Promise Unit :=
  tryCatch
    (do
      let payment ← cancelPayment paymentId
      originalJson 200 (.payment payment "Payment cancelled successfully"))
    (errorHandler site originalJson)

/-- `POST /webhooks/gateway`. -/
def handleGatewayWebhook (payload : Json) (signature : Option String) : Promise Unit :=
  match signature with
  | none => missingSignature
  | some signature =>
    if signature = "" then missingSignature
    else
      tryCatch
        (do
          let result ← processWebhook site payload signature
          originalJson 200 (.received
            (if result = .ignored then "Webhook ignored (invalid state transition or duplicate)"
            else "Webhook processed successfully")))
        (errorHandler site originalJson)
where
  missingSignature : Promise Unit :=
    originalJson 401 (.error "MISSING_SIGNATURE" "X-Webhook-Signature header is required" none)

end PaymentModel
