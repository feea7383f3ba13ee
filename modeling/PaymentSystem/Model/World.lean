import PaymentSystem.Async.JobQueue
import PaymentSystem.Async.Pool
import PaymentSystem.Model.Database

namespace PaymentModel

open Async

/-- `CreatePaymentRequest`, as `createPaymentSchema` lets it through. -/
structure CreatePaymentRequest where
  amount : JsNumber
  currency : String
  merchantId : String
  customerEmail : String
  description : Option String
  metadata : Option (List (String × Json))

/-- What `createPaymentSchema` says about the texts that go into bounded columns. -/
structure CreatePaymentRequest.Bounded (data : CreatePaymentRequest) : Prop where
  currency : data.currency.length ≤ 3
  merchantId : data.merchantId.length ≤ 64
  customerEmail : data.customerEmail.length ≤ 255

/-- HTTP strips the blanks at the end of a header that is sent once. -/
def isHeaderValue (value : String) : Bool := value.toList.getLast? ≠ some ' '

/-- A `POST /payments` request behind the validator: `path` is read inside the router, `fullPath`
    outside. -/
structure PostRequest where
  idempotencyKey : Option String
  path : String
  fullPath : String
  body : CreatePaymentRequest
  bounded : body.Bounded
  trimmed : idempotencyKey.all isHeaderValue = true

/-- The record the idempotency middleware keeps in Redis. -/
inductive IdempotencyRecord where
  | processing (requestPath requestBodyHash : String)
  | completed (requestPath requestBodyHash : String) (responseCode : Nat) (responseBody : ResponseBody)

def IdempotencyRecord.requestBodyHash : IdempotencyRecord → String
  | .processing _ hash => hash
  | .completed _ hash _ _ => hash

structure ProcessJob where
  paymentId : Uuid
  deriving DecidableEq

def ProcessJob.jobId (job : ProcessJob) : String := "process_" ++ job.paymentId.text

structure RetryJob where
  paymentId : Uuid
  attempt : Nat
  deriving DecidableEq

def RetryJob.jobId (job : RetryJob) : String := "retry_" ++ job.paymentId.text ++ "_" ++ Nat.repr job.attempt

/-- `GatewayPaymentResponse`; `pending` says that its status is "pending". -/
structure GatewayPaymentResponse where
  success : Bool
  gatewayReference : String
  pending : Bool
  errorCode : Option String
  errorMessage : Option String

/-- `GatewayPaymentRequest`, with the amount in hundredths. -/
structure GatewayPaymentRequest where
  paymentId : Uuid
  amount : Int
  currency : String
  merchantId : String
  customerEmail : String
  description : Option String

/-- How a call of `gatewaySimulator.processPayment` ends. -/
inductive GatewayOutcome where
  | response (value : GatewayPaymentResponse)
  | thrown (error : JsError)

/-- The reads of a payment row, by the place in the source that makes them. -/
inductive ReadSite where
  | processPayment
  | retryDecision (errorCode : Option String)
  | handleFailedProcessing
  | scheduleRetry (currentAttempt : Nat)
  | executeRetry
  | cancelPayment
  | processWebhook

/-- What a commit added, and the row its transaction returned. -/
structure Commit where
  row : Option Payment
  paymentEvents : List PaymentEvent
  webhookEvents : List WebhookEvent

/-- What a thread, or the environment on its behalf, has done so far. -/
inductive Obs where
  | posted (request : PostRequest)
  | cancelling (paymentId : String)
  | webhook (payload : Json) (signature : Option String)
  | processing (job : ProcessJob)
  | retrying (job : RetryJob)
  | uuid (id : Uuid)
  | fault
  | lockBusy (key : String)
  | locked (key token : String)
  | unlocked (key token : String)
  | read (site : ReadSite) (row : Option Payment)
  | eventFound (event : WebhookEvent)
  | committed (commit : Commit)
  | rolledBack
  | breakerOpen (paymentId : Uuid)
  | gatewayCalled (paymentId : Uuid)
  | gatewayAnswered (paymentId : Uuid) (outcome : GatewayOutcome)
  | enqueued (job : ProcessJob)
  | retryEnqueued (job : RetryJob)
  | recordRead (key : String) (record : Option IdempotencyRecord)
  | claim (key : String) (written : Bool)
  | admitted (key : Option String)
  | responded (code : Nat) (body : ResponseBody)

/-- Postgres, Redis and the queues, and the history of what the threads did, newest first. -/
structure World where
  db : Db := {}
  locks : String → Option String := fun _ => none
  records : String → Option IdempotencyRecord := fun _ => none
  processQueue : JobQueue ProcessJob ProcessJob.jobId := {}
  retryQueue : JobQueue RetryJob RetryJob.jobId := {}
  trace : List (Nat × Obs) := []

/-- The awaited calls of the services. -/
inductive Call where
  | generateId
  | dateNow
  | mathRandom
  | lockSet (key token : String) (ttlSeconds : Int)
  | lockRelease (key token : String)
  | paymentFindUnique (site : ReadSite) (id : Uuid)
  | webhookEventFindUnique (eventId : String)
  | transaction (body : Tx Payment)
  | statement (body : Tx Unit)
  | processQueueAdd (job : ProcessJob)
  | retryQueueAdd (job : RetryJob) (delayMs : Int)
  | processJobFinished (job : ProcessJob) (success : Bool)
  | retryJobFinished (job : RetryJob) (success : Bool)
  | breakerAdmits (paymentId : Uuid)
  | gatewaySend (request : GatewayPaymentRequest)
  | gatewayReceive (paymentId : Uuid)
  | recordGet (key : String)
  | recordSetNx (key : String) (record : IdempotencyRecord) (ttlSeconds : Rat)
  | recordSet (key : String) (record : IdempotencyRecord) (ttlSeconds : Rat)
  | next (key : Option String)
  | respond (code : Nat) (body : ResponseBody)

@[reducible] def Call.Answer : Call → Type
  | .generateId => Uuid
  | .dateNow => Nat
  | .mathRandom => Rat
  | .lockSet .. => Bool
  | .lockRelease .. => Bool
  | .paymentFindUnique .. => Option Payment
  | .webhookEventFindUnique .. => Option WebhookEvent
  | .transaction _ => Payment
  | .breakerAdmits _ => Bool
  | .gatewayReceive _ => GatewayPaymentResponse
  | .recordGet _ => Option IdempotencyRecord
  | .recordSetNx .. => Bool
  | _ => Unit

abbrev calls : Signature := ⟨Call, Call.Answer⟩

abbrev Promise := Program calls JsError

abbrev ask (c : Call) : Promise c.Answer := @Program.ask calls JsError c

/-- Whether a call to a store fails, and whether it does so after its effect took place. -/
inductive Fault where
  | none | before | after
  deriving DecidableEq

/-- What the environment decides about one call; every call uses its own part of it. -/
structure Choice where
  fault : Fault := .none
  uuid : Uuid := .zero
  now : Nat := 0
  random : Rat := 0
  admits : Bool := true
  outcome : GatewayOutcome := .thrown (.other "")

namespace World

def payment (w : World) (id : Uuid) : Option Payment := w.db.payment id

def log (w : World) (t : Nat) (o : Obs) : World := { w with trace := (t, o) :: w.trace }

def connectionLost : JsError := .other "Connection is closed"

/-- A store call with effect `effect`, answer `answer` and the note the thread takes of it. -/
def remote {α : Type} (w : World) (t : Nat) (fault : Fault) (answer : Except JsError α) (effect : World)
    (note : Option Obs) : Except JsError α × World :=
  match fault with
  | .none => (answer, note.elim effect (effect.log t))
  | .before => (.error connectionLost, w.log t .fault)
  | .after => (.error connectionLost, effect.log t .fault)

/-- What `db` adds to the database of `w`. -/
def added (w : World) (row : Option Payment) (db : Db) : Commit where
  row := row
  paymentEvents := db.paymentEvents.drop w.db.paymentEvents.length
  webhookEvents := db.webhookEvents.rows.drop w.db.webhookEvents.rows.length

/-- The world after a committed body, with what the commit added in the history. -/
def commit (w : World) (t : Nat) (row : Option Payment) (db : Db) : World :=
  { w with db }.log t (.committed (w.added row db))

def database {α : Type} (w : World) (t : Nat) (choice : Choice) (body : Tx α) (row : α → Option Payment) :
    Except JsError α × World :=
  match body choice.now w.db with
  | .ok (value, db) => w.remote t choice.fault (.ok value) (w.commit t (row value) db) none
  | .error e => w.remote t choice.fault (.error e) (w.log t .rolledBack) none

def setLock (w : World) (key : String) (token : Option String) : World :=
  { w with locks := Function.update w.locks key token }

def setRecord (w : World) (key : String) (record : Option IdempotencyRecord) : World :=
  { w with records := Function.update w.records key record }

end World

/-- Finished jobs the queues keep: `removeOnComplete` and `removeOnFail`. -/
def keepCompleted : Nat := 1000
def keepFailed : Nat := 5000

open World in
/-- One call of thread `t`. A generated id is new, `Math.random` stays below 1, the breaker and the
    gateway answer what the environment chooses. -/
def perform (t : Nat) : (c : Call) → Choice → World → Option (Except JsError c.Answer × World)
  | .generateId, choice, w =>
    if w.trace.any fun entry => match entry.2 with
      | .uuid id => id = choice.uuid
      | _ => false
    then none
    else some (.ok choice.uuid, w.log t (.uuid choice.uuid))
  | .dateNow, choice, w => some (.ok choice.now, w)
  | .mathRandom, choice, w =>
    if 0 ≤ choice.random ∧ choice.random < 1 then some (.ok choice.random, w) else none
  | .lockSet key token _, choice, w =>
    match w.locks key with
    | some _ => some (w.remote t choice.fault (.ok false) w (some (.lockBusy key)))
    | none => some (w.remote t choice.fault (.ok true) (w.setLock key (some token)) (some (.locked key token)))
  | .lockRelease key token, choice, w =>
    let w' := w.log t (.unlocked key token)
    if w.locks key = some token then some (w'.remote t choice.fault (.ok true) (w'.setLock key none) none)
    else some (w'.remote t choice.fault (.ok false) w' none)
  | .paymentFindUnique site id, choice, w =>
    some (w.remote t choice.fault (.ok (w.payment id)) w (some (.read site (w.payment id))))
  | .webhookEventFindUnique eventId, choice, w =>
    let found := w.db.webhookEvents.find eventId
    some (w.remote t choice.fault (.ok found) w (found.map .eventFound))
  | .transaction body, choice, w => some (w.database t choice body some)
  | .statement body, choice, w => some (w.database t choice body fun _ => none)
  | .processQueueAdd job, choice, w =>
    some (w.remote t choice.fault (.ok ())
      ({ w with processQueue := w.processQueue.add job }.log t (.enqueued job)) none)
  | .retryQueueAdd job _, choice, w =>
    some (w.remote t choice.fault (.ok ())
      ({ w with retryQueue := w.retryQueue.addDelayed job }.log t (.retryEnqueued job)) none)
  | .processJobFinished job success, choice, w =>
    some (w.remote t choice.fault (.ok ())
      { w with processQueue := w.processQueue.finish job t success keepCompleted keepFailed } none)
  | .retryJobFinished job success, choice, w =>
    some (w.remote t choice.fault (.ok ())
      { w with retryQueue := w.retryQueue.finish job t success keepCompleted keepFailed } none)
  | .breakerAdmits paymentId, choice, w =>
    some (.ok choice.admits, if choice.admits then w else w.log t (.breakerOpen paymentId))
  | .gatewaySend request, _, w => some (.ok (), w.log t (.gatewayCalled request.paymentId))
  | .gatewayReceive paymentId, choice, w =>
    let w' := w.log t (.gatewayAnswered paymentId choice.outcome)
    match choice.outcome with
    | .response value => some (.ok value, w')
    | .thrown e => some (.error e, w')
  | .recordGet key, choice, w =>
    some (w.remote t choice.fault (.ok (w.records key)) w (some (.recordRead key (w.records key))))
  | .recordSetNx key record _, choice, w =>
    match w.records key with
    | some _ => some (w.remote t choice.fault (.ok false) (w.log t (.claim key false)) none)
    | none =>
      some (w.remote t choice.fault (.ok true) ((w.setRecord key (some record)).log t (.claim key true)) none)
  | .recordSet key record _, choice, w =>
    some (w.remote t choice.fault (.ok ()) (w.setRecord key (some record)) none)
  | .next key, _, w => some (.ok (), w.log t (.admitted key))
  | .respond code body, _, w => some (.ok (), w.log t (.responded code body))

end PaymentModel
