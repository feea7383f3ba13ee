import PaymentSystem.Model.PaymentService

namespace PaymentModel

open Async

variable (site : Deployment)

/-- The transaction that gives a failed payment up, for the row read before. -/
def permanentlyFailInTx (paymentId : Uuid) (payment : Payment) : Tx Payment :=
  recordedUpdate paymentId payment.version { status := some .permanentlyFailed, version := 1 } fun _ => {
    paymentId
    fromStatus := some .failed
    toStatus := .permanentlyFailed
    eventType := .stateChange
    eventData := .reason
      (if truthy payment.errorCode then "Non-retryable error: " ++ payment.errorCode.getD ""
      else "Max retries (" ++ Nat.repr payment.maxRetries ++ ") exceeded") }

def scheduleRetryInTx (paymentId : Uuid) (expectedVersion currentAttempt : Nat)
    (delayMs nextRetryAt : Int) : Tx Payment :=
  recordedUpdate paymentId expectedVersion
    { status := some .retryScheduled, retryCount := 1, version := 1 } fun _ => {
      paymentId
      fromStatus := some .failed
      toStatus := .retryScheduled
      eventType := .retryScheduled
      eventData := .retry (currentAttempt + 1) delayMs nextRetryAt }

/-- The attempt number is the caller's, the version that of the row read here. -/
def scheduleRetry (paymentId : Uuid) (currentAttempt : Nat) : Promise Unit := do
  let random ← ask .mathRandom
  let delay := calculateBackoffDelay site currentAttempt random
  match ← ask (.paymentFindUnique (.scheduleRetry currentAttempt) paymentId) with
  | none => pure ()
  | some payment =>
    if payment.status ≠ .failed then pure ()
    else
      let now ← ask .dateNow
      let _ ← ask (.transaction
        (scheduleRetryInTx paymentId payment.version currentAttempt (mathRound delay) (now + delay).floor))
      enqueueRetry paymentId (currentAttempt + 1) (mathRound delay)

def handleFailedProcessing (paymentId : Uuid) : Promise Unit := do
  match ← ask (.paymentFindUnique .handleFailedProcessing paymentId) with
  | none => pure ()
  | some payment =>
    if payment.status ≠ .failed then pure ()
    else if truthy payment.errorCode && canRetry (payment.errorCode.getD "") payment then
      scheduleRetry site paymentId payment.retryCount
    else
      let _ ← ask (.transaction (permanentlyFailInTx paymentId payment))

def executeRetryInTx (paymentId : Uuid) (expectedVersion : Nat) : Tx Payment :=
  recordedUpdate paymentId expectedVersion { status := some .pending, version := 1 } fun _ => {
    paymentId
    fromStatus := some .retryScheduled
    toStatus := .pending
    eventType := .stateChange
    eventData := .reason "Retry delay elapsed — re-enqueued for processing" }

def executeRetry (paymentId : Uuid) : Promise Unit := do
  match ← ask (.paymentFindUnique .executeRetry paymentId) with
  | none => pure ()
  | some payment =>
    if payment.status ≠ .retryScheduled then pure ()
    else
      let _ ← ask (.transaction (executeRetryInTx paymentId payment.version))
      enqueuePayment paymentId

end PaymentModel
