import PaymentSystem.Proof.Transactions

namespace PaymentModel

open Async

/-- The result `processPayment` makes of the end of its gateway call. -/
def GatewayOutcome.result : GatewayOutcome → GatewayResult
  | .response value => gatewayResult value
  | .thrown e => gatewayFailure e

/-- The second read of `handlePaymentResult` finds that the payment is to be given up. -/
def givesUp (errorCode : Option String) (payment : Payment) : Bool :=
  truthy errorCode && !canRetry (errorCode.getD "") payment

/-- `handleFailedProcessing` finds that the payment is to be retried. -/
def retries (payment : Payment) : Bool :=
  truthy payment.errorCode && canRetry (payment.errorCode.getD "") payment

/-- The same version decides alike about a retry. -/
theorem Before.retries {old current : Payment} (before : Before old current)
    (version : current.version = old.version) : retries current = retries old := by
  simp only [PaymentModel.retries, canRetry, before.errorCode version, before.retryCount version,
    before.maxRetries]

theorem Seen.retries {db : Db} {p : Uuid} {row current : Payment} (seen : Seen db p row)
    (found : db.payment p = some current) (version : current.version = row.version) :
    retries current = retries row := by
  obtain ⟨other, found', before⟩ := seen
  rw [found] at found'
  cases found'
  exact before.retries version

/-- A commit that leaves its thread nothing to follow it up with: neither a payment to enqueue nor
    a failed one to decide about. -/
def Commit.Closed (commit : Commit) : Prop :=
  ∀ row, commit.row = some row →
    row.status ≠ .pending ∧ row.status ≠ .retryScheduled ∧ (row.status = .failed → commit.webhookEvents ≠ [])

/-- The newest notes of a thread oblige it to nothing further. -/
def Settled : List Obs → Prop
  | .processing _ :: _ => False
  | .retrying _ :: _ => False
  | .uuid _ :: .processing _ :: _ => False
  | .locked _ _ :: .uuid _ :: .processing _ :: _ => False
  | .read .processPayment (some row) :: _ => row.status ≠ .pending
  | .read .executeRetry (some row) :: _ => row.status ≠ .retryScheduled
  | .read (.retryDecision errorCode) (some row) :: _ => givesUp errorCode row = false
  | .committed commit :: _ => commit.Closed
  | _ => True

/-- The lock that a webhook takes: its key has the payment as the payload spells it. -/
abbrev webhookLockKey (payload : Json) : String := paymentLockKey (Json.template (payload.field "paymentId"))

/-- A process worker inside the lock of its payment. -/
def Working (p : Uuid) (h : List Obs) : Prop :=
  ∃ token : Uuid, h = [.locked (paymentLockKey p) token, .uuid token, .processing ⟨p⟩]

/-- Status edge and kind of an audit event. -/
structure PaymentEvent.Is (event : PaymentEvent) (fromStatus toStatus : PaymentStatus) (eventType : EventType) :
    Prop where
  fromStatus : event.fromStatus = some fromStatus
  toStatus : event.toStatus = toStatus
  eventType : event.eventType = eventType

/-- A worker that has just moved its payment to `PROCESSING`. -/
inductive Entered (p : Uuid) (processing : Payment) : List Obs → Prop
  | intro {commit : Commit} {event : PaymentEvent} {row : Payment} {h : List Obs} (working : Working p h)
    (pending : row.status = .pending) (returned : commit.row = some processing)
    (events : commit.paymentEvents = [event]) (paymentId : event.paymentId = p)
    (is : event.Is .pending .processing .stateChange)
    (status : processing.status = .processing) :
    Entered p processing (.committed commit :: .read .processPayment (some row) :: h)

/-- The attempt of that worker has come to `result`. -/
inductive Attempted (p : Uuid) (processing : Payment) : GatewayResult → List Obs → Prop
  | refused {h : List Obs} (entered : Entered p processing h) :
    Attempted p processing (gatewayFailure breakerOpenError) (.breakerOpen p :: h)
  | answered {outcome : GatewayOutcome} {h : List Obs} (entered : Entered p processing h) :
    Attempted p processing outcome.result (.gatewayAnswered p outcome :: .gatewayCalled p :: h)

/-- The result is noted in the audit log. -/
inductive Recorded (p : Uuid) (processing : Payment) (result : GatewayResult) : List Obs → Prop
  | intro {commit : Commit} {h : List Obs} (attempted : Attempted p processing result h)
    (returned : commit.row = none) : Recorded p processing result (.committed commit :: h)

/-- The worker has just moved its payment to `FAILED`. -/
inductive Failed (p : Uuid) (errorCode : Option String) (failed : Payment) : List Obs → Prop
  | intro {processing : Payment} {result : GatewayResult} {commit : Commit} {h : List Obs}
    (recorded : Recorded p processing result h) (unsuccessful : result.success = false)
    (final : result.pendingWebhook = false) (code : result.errorCode = errorCode)
    (returned : commit.row = some failed) (status : failed.status = .failed)
    (version : failed.version = processing.version + 1) (events : commit.webhookEvents = [])
    (stored : failed.errorCode = (orNull errorCode).map (cutText 64)) :
    Failed p errorCode failed (.committed commit :: h)

/-- What the middleware's insert into `idempotency_keys` may leave in the history. -/
def Bookkeeping (o : Obs) : Prop :=
  o = .fault ∨ o = .rolledBack ∨ ∃ commit, o = .committed commit ∧ commit.row = none

/-- A request that may be let through to its handler. -/
inductive Admissible (request : PostRequest) : List Obs → Prop
  | unkeyed (noKey : orNull request.idempotencyKey = none) : Admissible request [.posted request]
  | keyed {key : String} {written : Bool} {h : List Obs} (hasKey : orNull request.idempotencyKey = some key)
    (stored : ∀ o ∈ h, Bookkeeping o) :
    Admissible request
      (h ++ [.claim (redisKey key) written, .recordRead (redisKey key) none, .posted request])

def createdMessage : String := "Payment created and queued for processing"

/-- The handler of an admitted request has come to its answer. -/
inductive Concluded (request : PostRequest) : Nat → ResponseBody → List Obs → Prop
  | created {id : Uuid} {row : Payment} {commit : Commit} {h : List Obs} (admissible : Admissible request h)
    (returned : commit.row = some row) :
    Concluded request 201 (.payment (toPaymentResponse row) createdMessage)
      (.enqueued ⟨id⟩ :: .committed commit :: .uuid id :: .admitted (orNull request.idempotencyKey) :: h)
  | refused {id : Uuid} {code : Nat} {body : ResponseBody} {h : List Obs} (newer : List Obs)
    (admissible : Admissible request h) (failed : newer ≠ [])
    (notes : ∀ o ∈ newer, o = .fault ∨ o = .rolledBack) :
    Concluded request code body
      (newer ++ .uuid id :: .admitted (orNull request.idempotencyKey) :: h)
  | lost {id : Uuid} {code : Nat} {body : ResponseBody} {row : Payment} {commit : Commit} {h : List Obs}
    (newer : List Obs) (admissible : Admissible request h) (returned : commit.row = some row) :
    Concluded request code body
      (.fault :: newer ++ .committed commit :: .uuid id :: .admitted (orNull request.idempotencyKey) :: h)

/-- The calls thread `t` may make, with what it knows at each of the places that make them. -/
inductive Issued (site : Deployment) (t : Nat) (w : World) : Call → Prop
  | generateId (begins : Settled (w.history t) ∨ ∃ job, w.history t = [.processing job]) :
    Issued site t w .generateId
  | dateNow : Issued site t w .dateNow
  | mathRandom : Issued site t w .mathRandom
  | lockSet {key : String} {token : Uuid} {ttl : Int} {h : List Obs} (own : w.history t = .uuid token :: h)
    (scope : ∀ job h', h = .processing job :: h' → key = paymentLockKey job.paymentId) :
    Issued site t w (.lockSet key token ttl)
  | lockRelease {key token : String} (held : Obs.locked key token ∈ w.history t)
    (settled : Settled (w.history t)) : Issued site t w (.lockRelease key token)
  | findProcess {p : Uuid} (working : Working p (w.history t)) :
    Issued site t w (.paymentFindUnique .processPayment p)
  | findDecision {p : Uuid} {errorCode : Option String} {failed : Payment}
    (own : Failed p errorCode failed (w.history t)) (seen : Seen w.db p failed) :
    Issued site t w (.paymentFindUnique (.retryDecision errorCode) p)
  | findFailed {p : Uuid} (settled : Settled (w.history t)) :
    Issued site t w (.paymentFindUnique .handleFailedProcessing p)
  | findSchedule {p : Uuid} {row : Payment} {h : List Obs}
    (own : w.history t = .read .handleFailedProcessing (some row) :: h) (left : row.retryCount < row.maxRetries)
    (seen : Seen w.db p row) : Issued site t w (.paymentFindUnique (.scheduleRetry row.retryCount) p)
  | findRetry {job : RetryJob} (own : w.history t = [.retrying job]) :
    Issued site t w (.paymentFindUnique .executeRetry job.paymentId)
  | findCancel {spelled : String} {p : Uuid} (own : w.history t = [.cancelling spelled])
    (reads : Uuid.parse spelled = some p) : Issued site t w (.paymentFindUnique .cancelPayment p)
  | findWebhook {p token : Uuid} {signature : String} {payload : Json}
    (own : w.history t = [.locked (webhookLockKey payload) token, .uuid token, .webhook payload (some signature)])
    (names : namedPayment payload = .ok p) :
    Issued site t w (.paymentFindUnique .processWebhook p)
  | findEvent {eventId : String} (settled : Settled (w.history t)) : Issued site t w (.webhookEventFindUnique eventId)
  | create {request : PostRequest} {id : Uuid} {h : List Obs}
    (own : w.history t = .uuid id :: .admitted (orNull request.idempotencyKey) :: h)
    (admissible : Admissible request h) :
    Issued site t w (.transaction (createPaymentInTx site id request.body request.idempotencyKey))
  | enter {p : Uuid} {row : Payment} {h : List Obs}
    (own : w.history t = .read .processPayment (some row) :: h) (working : Working p h)
    (pending : row.status = .pending) (seen : Seen w.db p row) :
    Issued site t w (.transaction (transitionStateInTx p .pending .processing row.version {} p))
  | succeed {p : Uuid} {processing : Payment} {result : GatewayResult} {processedAt : Nat}
    (recorded : Recorded p processing result (w.history t)) (successful : result.success = true)
    (seen : Seen w.db p processing) :
    Issued site t w (.transaction (transitionStateInTx p .processing .success processing.version
      { gatewayReference := result.gatewayReference, processedAt := some processedAt } p))
  | fail {p : Uuid} {processing : Payment} {result : GatewayResult}
    (recorded : Recorded p processing result (w.history t)) (unsuccessful : result.success = false)
    (final : result.pendingWebhook = false) (seen : Seen w.db p processing) :
    Issued site t w (.transaction (transitionStateInTx p .processing .failed processing.version
      { errorCode := some (orNull result.errorCode), errorMessage := some (orNull result.errorMessage) } p))
  | giveUp {p : Uuid} {errorCode : Option String} {failed row : Payment} {h : List Obs}
    (own : w.history t = .read (.retryDecision errorCode) (some row) :: h) (rejected : Failed p errorCode failed h)
    (exhausted : givesUp errorCode row = true)
    (agrees : row.version = failed.version → row.errorCode = failed.errorCode) (seen : Seen w.db p row) :
    Issued site t w (.transaction (transitionStateInTx p .failed .permanentlyFailed row.version {} p))
  | cancel {spelled : String} {p : Uuid} {row : Payment} {data : AdditionalData}
    (own : w.history t = [.read .cancelPayment (some row), .cancelling spelled])
    (reads : Uuid.parse spelled = some p) (seen : Seen w.db p row) :
    Issued site t w (.transaction (transitionStateInTx p row.status .cancelled row.version data spelled))
  | permanentlyFail {p : Uuid} {row : Payment} {h : List Obs}
    (own : w.history t = .read .handleFailedProcessing (some row) :: h) (failed : row.status = .failed)
    (decided : retries row = false) (seen : Seen w.db p row) :
    Issued site t w (.transaction (permanentlyFailInTx p row))
  | schedule {p : Uuid} {row first : Payment} {delayMs nextRetryAt : Int} {h : List Obs}
    (own : w.history t = .read (.scheduleRetry first.retryCount) (some row) ::
      .read .handleFailedProcessing (some first) :: h)
    (failed : row.status = .failed) (left : first.retryCount < first.maxRetries)
    (limit : row.maxRetries = first.maxRetries) (agrees : row.version = first.version → retries row = true)
    (seen : Seen w.db p row) :
    Issued site t w
      (.transaction (scheduleRetryInTx p row.version first.retryCount delayMs nextRetryAt))
  | retry {job : RetryJob} {row : Payment} (own : w.history t = [.read .executeRetry (some row), .retrying job])
    (scheduled : row.status = .retryScheduled) (seen : Seen w.db job.paymentId row) :
    Issued site t w (.transaction (executeRetryInTx job.paymentId row.version))
  | settle {p token : Uuid} {signature eventId : String} {row : Payment} {payload : Json} {now : Nat}
    (own : w.history t = [.read .processWebhook (some row), .locked (webhookLockKey payload) token, .uuid token,
      .webhook payload (some signature)])
    (names : namedPayment payload = .ok p)
    (valid : isValidStateTransition row.status (webhookTarget payload) = true) (seen : Seen w.db p row)
    (signed : verifyWebhookSignature site (Json.stringify none payload) signature = .ok true)
    (delivered : payload.field "eventId" = some (.string eventId)) :
    Issued site t w
      (.transaction (processWebhookInTx p payload signature eventId row (webhookTarget payload) now))
  | recordResponse {p : Uuid} {processing : Payment} {result : GatewayResult}
    (attempted : Attempted p processing result (w.history t)) :
    Issued site t w (.statement (gatewayResponseRecorded p result))
  | reference {p : Uuid} {processing : Payment} {result : GatewayResult} {gatewayReference : Option String}
    (recorded : Recorded p processing result (w.history t)) (seen : Seen w.db p processing) :
    Issued site t w (.statement (gatewayReferenceUpdate p processing.version gatewayReference))
  | recordWebhook {payload : Json} {signature eventId : String} {status : WebhookEventStatus}
    (unprocessed : status ≠ .processed) (settled : Settled (w.history t)) :
    Issued site t w (.statement (createWebhookEvent payload signature eventId status))
  | storeKey {row : IdempotencyKey} (settled : Settled (w.history t)) :
    Issued site t w (.statement (idempotencyKeyCreate row))
  | completeKey {key : String} {code : Nat} {body : ResponseBody} (own : w.history t = []) :
    Issued site t w (.statement (idempotencyKeyUpdateMany key code body))
  | enqueue {p : Uuid} {row : Payment} {commit : Commit} {h : List Obs}
    (own : w.history t = .committed commit :: h) (returned : commit.row = some row)
    (pending : row.status = .pending) (id : row.id = p) : Issued site t w (.processQueueAdd ⟨p⟩)
  | enqueueRetry {p : Uuid} {attempt : Nat} {delayMs nextRetryAt delay : Int} {row : Payment}
    {event : PaymentEvent} {commit : Commit} {h : List Obs} (own : w.history t = .committed commit :: h)
    (returned : commit.row = some row) (scheduled : row.status = .retryScheduled) (id : row.id = p)
    (events : commit.paymentEvents = [event]) (data : event.eventData = .retry attempt delayMs nextRetryAt) :
    Issued site t w (.retryQueueAdd ⟨p, attempt⟩ delay)
  | processFinished {job : ProcessJob} {success : Bool} (settled : Settled (w.history t)) :
    Issued site t w (.processJobFinished job success)
  | retryFinished {job : RetryJob} {success : Bool} (settled : Settled (w.history t)) :
    Issued site t w (.retryJobFinished job success)
  | breaker {p : Uuid} {processing : Payment} (entered : Entered p processing (w.history t)) :
    Issued site t w (.breakerAdmits p)
  | send {request : GatewayPaymentRequest} {processing : Payment}
    (entered : Entered request.paymentId processing (w.history t)) : Issued site t w (.gatewaySend request)
  | receive {p : Uuid} {processing : Payment} {h : List Obs} (own : w.history t = .gatewayCalled p :: h)
    (entered : Entered p processing h) : Issued site t w (.gatewayReceive p)
  | recordGet {request : PostRequest} {key : String} (own : w.history t = [.posted request])
    (hasKey : orNull request.idempotencyKey = some key) : Issued site t w (.recordGet (redisKey key))
  | recordSetNx {request : PostRequest} {key : String} {ttl : Rat}
    (own : w.history t = [.recordRead (redisKey key) none, .posted request])
    (hasKey : orNull request.idempotencyKey = some key) :
    Issued site t w (.recordSetNx (redisKey key)
      (.processing request.path (hashBody site request.body.json)) ttl)
  | recordSet {parent code : Nat} {request : PostRequest} {key path : String} {body : ResponseBody} {ttl : Rat}
    {h : List Obs} (own : w.history t = []) (hasKey : orNull request.idempotencyKey = some key)
    (started : h <:+ w.history parent) (concluded : Concluded request code body h) :
    Issued site t w (.recordSet (redisKey key)
      (.completed path (hashBody site request.body.json) code body) ttl)
  | next {request : PostRequest} (admissible : Admissible request (w.history t)) :
    Issued site t w (.next (orNull request.idempotencyKey))
  | respond {code : Nat} {body : ResponseBody} (settled : Settled (w.history t)) :
    Issued site t w (.respond code body)

end PaymentModel
