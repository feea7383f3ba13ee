import PaymentSystem.Model.DistributedLock

namespace PaymentModel

open Async

variable (site : Deployment)

def enqueuePayment (paymentId : Uuid) : Promise Unit := ask (.processQueueAdd ⟨paymentId⟩)

def enqueueRetry (paymentId : Uuid) (attempt : Nat) (delayMs : Int) : Promise Unit :=
  ask (.retryQueueAdd ⟨paymentId, attempt⟩ delayMs)

/-- The columns a transition writes: the new status and version, and those of its additional data
    that are set. -/
def transitionUpdate (toStatus : PaymentStatus) (additionalData : AdditionalData) : PaymentUpdateInput where
  status := some toStatus
  version := 1
  gatewayReference :=
    if truthy additionalData.gatewayReference then some additionalData.gatewayReference else none
  processedAt := additionalData.processedAt
  errorCode := additionalData.errorCode
  errorMessage := additionalData.errorMessage
  retryCount := if toStatus = .retryScheduled then 1 else 0

/-- `transitionStateInTx`: the check is made on the status the caller expects, the version ties it
    to the row. The messages name the payment as the caller `spelled` it. -/
def transitionStateInTx (paymentId : Uuid) (fromStatus toStatus : PaymentStatus) (expectedVersion : Nat)
    (additionalData : AdditionalData) (spelled : String) : Tx Payment :=
  if isValidStateTransition fromStatus toStatus then
    tryCatch
      (recordedUpdate paymentId expectedVersion (transitionUpdate toStatus additionalData) fun updated => {
        paymentId
        fromStatus := some fromStatus
        toStatus
        eventType := .stateChange
        eventData := .transition additionalData updated.version })
      fun e =>
        match e with
        | .prisma "P2025" _ =>
          throw (conflictError
            ("Optimistic lock conflict — payment '" ++ spelled ++ "' was modified concurrently")
            (some (.object [("paymentId", .string spelled),
              ("expectedVersion", .number (.ofNat expectedVersion))])))
        | e => throw e
  else
    throw (conflictError
      ("Invalid state transition from '" ++ fromStatus.text ++ "' to '" ++ toStatus.text ++ "'")
      (some (.object [("paymentId", .string spelled), ("fromStatus", .string fromStatus.text),
        ("toStatus", .string toStatus.text)])))

def transitionState (paymentId : Uuid) (fromStatus toStatus : PaymentStatus) (expectedVersion : Nat)
    (additionalData : AdditionalData := {}) (spelled : String := paymentId.text) : Promise Payment :=
  ask (.transaction (transitionStateInTx paymentId fromStatus toStatus expectedVersion additionalData spelled))

def toPaymentResponse (payment : Payment) : PaymentResponse where
  id := payment.id
  amount := amountText payment.amount
  currency := payment.currency
  status := payment.status
  merchantId := payment.merchantId
  customerEmail := payment.customerEmail
  description := payment.description
  gatewayReference := payment.gatewayReference
  retryCount := payment.retryCount
  maxRetries := payment.maxRetries
  errorCode := payment.errorCode
  errorMessage := payment.errorMessage
  metadata := payment.metadata
  processedAt := payment.processedAt
  createdAt := payment.createdAt
  updatedAt := payment.updatedAt

/-- The row `createPayment` inserts. -/
def createPaymentData (paymentId : Uuid) (data : CreatePaymentRequest) (idempotencyKey : Option String) :
    PaymentCreateInput where
  id := paymentId
  amount := data.amount.value
  currency := data.currency.toUpper
  status := .created
  merchantId := data.merchantId
  customerEmail := data.customerEmail
  description := orNull data.description
  idempotencyKey := orNull idempotencyKey
  maxRetries := site.maxRetries
  metadata := data.metadata.map .object

def createPaymentInTx (paymentId : Uuid) (data : CreatePaymentRequest) (idempotencyKey : Option String) :
    Tx Payment := do
  let created ← paymentCreate (createPaymentData site paymentId data idempotencyKey)
  paymentEventCreate {
    paymentId := created.id
    fromStatus := none
    toStatus := .created
    eventType := .stateChange
    eventData := .created data.amount data.currency data.merchantId }
  transitionStateInTx created.id .created .pending created.version
    { reason := some "Payment created and queued for processing" } created.id

def createPayment (data : CreatePaymentRequest) (idempotencyKey : Option String) : Promise PaymentResponse := do
  let paymentId ← ask .generateId
  let payment ← ask (.transaction (createPaymentInTx site paymentId data idempotencyKey))
  enqueuePayment paymentId
  pure (toPaymentResponse payment)

def breakerOpenError : JsError :=
  circuitBreakerOpenError "Circuit breaker 'payment-gateway' is open — service temporarily unavailable"

/-- `gatewayCircuitBreaker.execute` around the gateway; whether the breaker admits the call is left
    to the environment. -/
def executeGateway (paymentId : Uuid) (payment : Payment) : Promise GatewayPaymentResponse := do
  if ← ask (.breakerAdmits paymentId) then
    ask (.gatewaySend {
      paymentId
      amount := payment.amount
      currency := payment.currency
      merchantId := payment.merchantId
      customerEmail := payment.customerEmail
      description := orNull payment.description })
    ask (.gatewayReceive paymentId)
  else
    throw breakerOpenError

def gatewayResult (response : GatewayPaymentResponse) : GatewayResult where
  success := response.success
  gatewayReference := some response.gatewayReference
  errorCode := response.errorCode
  errorMessage := response.errorMessage
  pendingWebhook := response.pending

/-- What is made of an error of the gateway call; an unexpected one is treated as retryable. -/
def gatewayFailure : JsError → GatewayResult
  | .app { name := .gatewayError gatewayCode _, message, .. } =>
    { success := false, errorCode := some gatewayCode, errorMessage := some message }
  | e => { success := false, errorCode := some GatewayErrorCode.internalError, errorMessage := some e.message }

def callGateway (paymentId : Uuid) (payment : Payment) : Promise GatewayResult :=
  tryCatch
    (do
      let response ← executeGateway paymentId payment
      pure (gatewayResult response))
    fun e => pure (gatewayFailure e)

def canRetry (errorCode : String) (payment : Payment) : Bool :=
  isRetryableError errorCode && payment.retryCount < payment.maxRetries

def gatewayResponseRecorded (paymentId : Uuid) (result : GatewayResult) : Tx Unit :=
  paymentEventCreate {
    paymentId
    fromStatus := some .processing
    toStatus := .processing
    eventType := .gatewayResponse
    eventData := .gatewayResponse result }

/-- The update of the pending branch keeps the version. -/
def gatewayReferenceUpdate (paymentId : Uuid) (currentVersion : Nat) (gatewayReference : Option String) :
    Tx Unit := do
  let _ ← paymentUpdate paymentId currentVersion { gatewayReference := some (orNull gatewayReference) }

/-- The second half of the failure branch: the payment is read again and given up when no retry is
    left. -/
def decideRetry (paymentId : Uuid) (errorCode : Option String) : Promise Unit := do
  let updatedPayment ← ask (.paymentFindUnique (.retryDecision errorCode) paymentId)
  match updatedPayment with
  | none => pure ()
  | some payment =>
    if truthy errorCode && !canRetry (errorCode.getD "") payment then
      let _ ← transitionState paymentId .failed .permanentlyFailed payment.version

def handlePaymentResult (paymentId : Uuid) (result : GatewayResult) (currentVersion : Nat) :
    Promise Unit := do
  ask (.statement (gatewayResponseRecorded paymentId result))
  if result.success then
    let processedAt ← ask .dateNow
    let _ ← transitionState paymentId .processing .success currentVersion
      { gatewayReference := result.gatewayReference, processedAt := some processedAt }
  else if result.pendingWebhook then
    ask (.statement (gatewayReferenceUpdate paymentId currentVersion result.gatewayReference))
  else
    let _ ← transitionState paymentId .processing .failed currentVersion
      { errorCode := some (orNull result.errorCode), errorMessage := some (orNull result.errorMessage) }
    decideRetry paymentId result.errorCode

/-- The body of `processPayment` under the lock; a payment that is not `PENDING` is skipped. -/
def processPaymentLocked (paymentId : Uuid) : Promise Unit := do
  match ← ask (.paymentFindUnique .processPayment paymentId) with
  | none => throw (notFoundError "Payment" paymentId.text)
  | some payment =>
    if payment.status ≠ .pending then pure ()
    else
      let processing ← transitionState paymentId .pending .processing payment.version
      let result ← callGateway paymentId payment
      handlePaymentResult paymentId result processing.version

def processPayment (paymentId : Uuid) : Promise Unit :=
  withLock (paymentLockKey paymentId) site.lockTtlMs (processPaymentLocked paymentId)

/-- The id comes from the path, in whatever spelling of a UUID; no other text is looked up. -/
def cancelPayment (paymentId : String) : Promise PaymentResponse := do
  match Uuid.parse paymentId with
  | none => throw inconsistentColumn
  | some id =>
    match ← ask (.paymentFindUnique .cancelPayment id) with
    | none => throw (notFoundError "Payment" paymentId)
    | some payment =>
      if payment.status ∈ terminalStates then
        throw (conflictError
          ("Payment is already in terminal state '" ++ payment.status.text ++ "' and cannot be cancelled"))
      else if payment.status ≠ .created ∧ payment.status ≠ .pending then
        throw (conflictError ("Payment in '" ++ payment.status.text ++
          "' state cannot be cancelled — only CREATED or PENDING payments can be cancelled"))
      else
        let updated ← transitionState id payment.status .cancelled payment.version
          { reason := some "Cancelled by user" } paymentId
        pure (toPaymentResponse updated)

end PaymentModel
