import PaymentSystem.Async.Protocol
import PaymentSystem.Model.System

namespace PaymentModel

open Async

/-- The calls that have to do neither with a lock nor with the gateway. -/
def Routine : Call → Prop
  | .lockSet .. | .lockRelease .. | .breakerAdmits _ | .gatewaySend _ | .gatewayReceive _ => False
  | _ => True

/-- The calls of the workers, which answer no client and store no answer. -/
def Inner : Call → Prop
  | .respond .. | .recordSetNx .. | .recordSet .. => False
  | _ => True

variable {site : Deployment} {α : Type} {p : Uuid} {property : Call → Prop}

theorem all_withLock {fn : Promise α} {key : String} {ttl : Rat} (body : fn.All property)
    (generates : property .generateId) (takes : ∀ token seconds, property (.lockSet key token seconds))
    (releases : ∀ token, property (.lockRelease key token)) : (withLock key ttl fn).All property := by
  refine .bind (.bind (.ask generates) fun token => .bind (.ask (takes _ _)) fun acquired => .pure _) fun token => ?_
  cases token with
  | none => exact .throw _
  | some token => exact .ensure body (.bind (.ask (releases _)) fun _ => .pure _)

/-- What a worker does with the result of an attempt, and about a failed payment. -/
abbrev Settling (p : Promise α) : Prop := p.All fun c => Routine c ∧ Inner c

theorem settling_decideRetry {errorCode : Option String} : Settling (decideRetry p errorCode) := by
  refine .bind (.ask ⟨trivial, trivial⟩) fun found => ?_
  cases found with
  | none => exact .pure _
  | some payment =>
    dsimp only
    split
    · exact .bind (.ask ⟨trivial, trivial⟩) fun _ => .pure _
    · exact .pure _

theorem settling_handlePaymentResult {result : GatewayResult} {version : Nat} :
    Settling (handlePaymentResult p result version) := by
  refine .bind (.ask ⟨trivial, trivial⟩) fun _ => ?_
  split
  · exact .bind (.ask ⟨trivial, trivial⟩) fun _ => .bind (.ask ⟨trivial, trivial⟩) fun _ => .pure _
  · split
    · exact .ask ⟨trivial, trivial⟩
    · exact .bind (.ask ⟨trivial, trivial⟩) fun _ => settling_decideRetry

theorem settling_handleFailedProcessing : Settling (handleFailedProcessing site p) := by
  refine .bind (.ask ⟨trivial, trivial⟩) fun found => ?_
  cases found with
  | none => exact .pure _
  | some payment =>
    dsimp only
    split
    · exact .pure _
    · split
      · refine .bind (.ask ⟨trivial, trivial⟩) fun random => .bind (.ask ⟨trivial, trivial⟩) fun found => ?_
        cases found with
        | none => exact .pure _
        | some payment =>
          dsimp only
          split
          · exact .pure _
          · exact .bind (.ask ⟨trivial, trivial⟩) fun _ => .bind (.ask ⟨trivial, trivial⟩) fun _ => .ask ⟨trivial, trivial⟩
      · exact .bind (.ask ⟨trivial, trivial⟩) fun _ => .pure _

theorem settling_startRetryWorker (job : RetryJob) : Settling (startRetryWorker job) := by
  refine .bind (.tryCatch (.bind (.bind (.ask ⟨trivial, trivial⟩) fun found => ?_) fun _ => .pure _) fun _ => .pure _)
    fun _ => .ask ⟨trivial, trivial⟩
  cases found with
  | none => exact .pure _
  | some payment =>
    dsimp only
    split
    · exact .pure _
    · exact .bind (.ask ⟨trivial, trivial⟩) fun _ => .ask ⟨trivial, trivial⟩

/-- How a process worker goes on when `processPayment` throws. -/
theorem settling_recovery {error : JsError} :
    Settling (do tryCatch (handleFailedProcessing site p) fun _ => pure (); throw error : Promise Unit) :=
  .bind (.tryCatch settling_handleFailedProcessing fun _ => .pure _) fun _ => .throw _

abbrev Plainly (p : Promise α) : Prop := p.All Routine

theorem plainly_errorHandler {json : Responder} (answers : ∀ code body, Plainly (json code body)) (e : JsError) :
    Plainly (errorHandler site json e) := by
  cases e <;> exact answers _ _

theorem plainly_originalJson (code : Nat) (body : ResponseBody) : Plainly (originalJson code body) := .ask trivial

theorem plainly_postCancel {spelled : String} : Plainly (postCancel site spelled) := by
  refine .tryCatch (.bind ?_ fun _ => plainly_originalJson _ _) (plainly_errorHandler plainly_originalJson)
  unfold cancelPayment
  cases Uuid.parse spelled with
  | none => exact .throw _
  | some p =>
    refine .bind (.ask trivial) fun found => ?_
    cases found with
    | none => exact .throw _
    | some payment =>
      dsimp only
      split
      · exact .throw _
      · split
        · exact .throw _
        · exact .bind (.ask trivial) fun _ => .pure _

theorem plainly_initiatePayment {json : String → Responder} (request : PostRequest)
    (answers : ∀ path code body, Plainly (json path code body)) : Plainly (initiatePayment site request json) := by
  refine .tryCatch (.bind ?_ fun _ => answers _ _ _) (plainly_errorHandler (answers _))
  exact .bind (.ask trivial) fun _ => .bind (.ask trivial) fun _ => .bind (.ask trivial) fun _ => .pure _

theorem plainly_idempotencyCheck (request : PostRequest) (key : String) :
    Plainly (idempotencyCheck site request key) := by
  refine .bind (.ask trivial) fun cached => ?_
  cases cached with
  | none =>
    refine .bind (.ask trivial) fun _ => .bind (.ask trivial) fun _ => ?_
    exact .bind (.tryCatch (.ask trivial) fun _ => .pure _) fun _ => .pure _
  | some cached =>
    dsimp only
    split
    · exact .bind (plainly_originalJson _ _) fun _ => .pure _
    · cases cached with
      | processing => exact .throw _
      | completed => exact .bind (plainly_originalJson _ _) fun _ => .pure _

theorem plainly_postPayments (request : PostRequest) : Plainly (postPayments site request) := by
  have direct : Plainly (do ask (.next none); initiatePayment site request fun _ => originalJson) :=
    .bind (.ask trivial) fun _ => plainly_initiatePayment request fun _ => plainly_originalJson
  unfold postPayments idempotency
  cases request.idempotencyKey with
  | none => exact direct
  | some key =>
    dsimp only
    split
    · exact direct
    · refine .bind (.tryCatch (plainly_idempotencyCheck ..) fun error => ?_) fun outcome => ?_
      · exact .bind (plainly_errorHandler plainly_originalJson _) fun _ => .pure _
      · cases outcome with
        | answered => exact .pure _
        | proceed =>
          refine .bind (.ask trivial) fun _ => plainly_initiatePayment request fun path code body => ?_
          exact .bind (.start trivial) fun _ => .bind (.start trivial) fun _ => .ask trivial

theorem plainly_recordWebhookEvent {payload : Json} {signature eventId : String} {status : WebhookEventStatus} :
    Plainly (recordWebhookEvent payload signature eventId status) := by
  unfold recordWebhookEvent
  split
  · exact .bind (.ask trivial) fun _ => .ask trivial
  · exact .ask trivial

theorem plainly_findWebhookEvent (eventId : String) : Plainly (findWebhookEvent eventId) := by
  unfold findWebhookEvent
  split
  · exact .ask trivial
  · exact .throw _

theorem plainly_processWebhookLocked {payload : Json} {signature eventId : String} :
    Plainly (processWebhookLocked payload signature eventId) := by
  have ignored : Plainly (do recordWebhookEvent payload signature eventId .rejected; pure WebhookResult.ignored) :=
    .bind plainly_recordWebhookEvent fun _ => .pure _
  unfold processWebhookLocked
  cases namedPayment payload with
  | error e => exact .throw _
  | ok p =>
    refine .bind (.ask trivial) fun found => ?_
    cases found with
    | none => exact ignored
    | some payment =>
      dsimp only
      split
      · exact ignored
      · split
        · exact ignored
        · exact .bind (.ask trivial) fun _ => .bind (.ask trivial) fun _ => .pure _

section Handlers

variable {S : Type} {P : Protocol calls JsError S} (routine : ∀ c, Routine c → P.Keeps P.start c)

include routine

theorem returns_plainly {program : Promise α} (plainly : Plainly program) : P.Returns program :=
  .of_all (plainly.weaken routine)

theorem returns_settling {program : Promise α} (settling : Settling program) : P.Returns program :=
  returns_plainly routine (settling.weaken fun _ => And.left)

theorem returns_startProcessWorker (job : ProcessJob) (locked : P.Returns (processPayment site job.paymentId)) :
    P.Returns (startProcessWorker site job) := by
  have handles : P.Returns (processWorkerHandler site job) :=
    locked.tryCatch fun _ => returns_settling routine settling_recovery
  have succeeds : P.Returns (succeeds (processWorkerHandler site job)) :=
    (handles.bind fun _ => .of_all (.pure _)).tryCatch fun _ => .of_all (.pure _)
  exact succeeds.bind fun _ => returns_plainly routine (.ask trivial)

theorem returns_handleGatewayWebhook {payload : Json} {signature : Option String}
    (locked : ∀ key ttl signature eventId,
      P.Returns (withLock key ttl (processWebhookLocked payload signature eventId))) :
    P.Returns (handleGatewayWebhook site payload signature) := by
  have processes : ∀ signature, P.Returns (processWebhook site payload signature) := by
    intro signature
    unfold processWebhook
    split
    · exact .of_all (.throw _)
    · exact .of_all (.throw _)
    · split
      · rename_i eventId _
        refine (returns_plainly routine (plainly_findWebhookEvent eventId)).bind fun found => ?_
        cases found with
        | some _ => exact (returns_plainly routine plainly_recordWebhookEvent).bind fun _ => .of_all (.pure _)
        | none => exact locked ..
      · exact .of_all (.throw _)
  have missing : P.Returns handleGatewayWebhook.missingSignature := returns_plainly routine (plainly_originalJson _ _)
  unfold handleGatewayWebhook
  split
  · exact missing
  · split
    · exact missing
    · refine ((processes _).bind fun _ => returns_plainly routine (plainly_originalJson _ _)).tryCatch fun _ => ?_
      exact returns_plainly routine (plainly_errorHandler plainly_originalJson _)

/-- Every handler returns to where a thread begins if what it does under a lock does. -/
theorem returns_started {n : Nat} {e : Event} {w w' : World} {started : List (Promise Unit)}
    (process : ∀ p, P.Returns (processPayment site p))
    (webhook : ∀ key ttl payload signature eventId,
      P.Returns (withLock key ttl (processWebhookLocked payload signature eventId)))
    (occurred : occur site n e w = some (w', started)) : ∀ program ∈ started, P.Returns program := by
  have one : ∀ {only : Promise Unit}, P.Returns only → ∀ program ∈ [only], P.Returns program := by
    intro only returns program member
    cases List.mem_singleton.mp member
    exact returns
  cases e with
  | post request =>
    cases occurred
    exact one (returns_plainly routine (plainly_postPayments request))
  | cancel p =>
    cases occurred
    exact one (returns_plainly routine plainly_postCancel)
  | webhook payload signature =>
    cases occurred
    exact one (returns_handleGatewayWebhook routine fun key ttl => webhook key ttl payload)
  | deliverProcess job =>
    obtain ⟨queue, _, same⟩ := Option.map_eq_some_iff.mp occurred
    cases same
    exact one (returns_startProcessWorker routine job (process job.paymentId))
  | deliverRetry job =>
    obtain ⟨queue, _, same⟩ := Option.map_eq_some_iff.mp occurred
    cases same
    exact one (returns_settling routine (settling_startRetryWorker job))
  | stallProcess | stallRetry | retryDelayElapsed =>
    obtain ⟨queue, _, same⟩ := Option.map_eq_some_iff.mp occurred
    cases same
    exact fun _ member => nomatch member
  | expireLock | expireRecord =>
    cases occurred
    exact fun _ member => nomatch member

end Handlers

end PaymentModel
