import PaymentSystem.Proof.Runs

namespace PaymentModel

open Async

variable {site : Deployment} {R : Condition} {α : Type} {pool : Pool calls JsError World}

/-- Locks are set for `LOCK_TTL_MS`, in whole seconds. -/
def SetsFor (site : Deployment) : Call → Prop
  | .lockSet _ _ ttlSeconds => ttlSeconds = (site.lockTtlMs / 1000).ceil
  | _ => True

/-- All locks that a program sets are set for that time. -/
abbrev Timed (site : Deployment) (p : Promise α) : Prop := p.All (SetsFor site)

theorem timed_transitionState (paymentId : Uuid) (fromStatus toStatus : PaymentStatus) (expectedVersion : Nat)
    (additionalData : AdditionalData) :
    Timed site (transitionState paymentId fromStatus toStatus expectedVersion additionalData) := .ask trivial

theorem timed_withLock {key : String} {fn : Promise α} (body : Timed site fn) :
    Timed site (withLock key site.lockTtlMs fn) := by
  refine .bind (.bind (.ask trivial) fun token => .bind (.ask rfl) fun acquired => .pure _) fun token => ?_
  cases token with
  | none => exact .throw _
  | some token => exact .ensure body (.bind (.ask trivial) fun _ => .pure _)

theorem timed_decideRetry (paymentId : Uuid) (errorCode : Option String) :
    Timed site (decideRetry paymentId errorCode) := by
  refine .bind (.ask trivial) fun updatedPayment => ?_
  cases updatedPayment with
  | none => exact .pure _
  | some payment =>
    dsimp only
    split
    · exact .bind (timed_transitionState ..) fun _ => .pure _
    · exact .pure _

theorem timed_handlePaymentResult (paymentId : Uuid) (result : GatewayResult) (currentVersion : Nat) :
    Timed site (handlePaymentResult paymentId result currentVersion) := by
  refine .bind (.ask trivial) fun _ => ?_
  split
  · exact .bind (.ask trivial) fun _ => .bind (timed_transitionState ..) fun _ => .pure _
  · split
    · exact .ask trivial
    · exact .bind (timed_transitionState ..) fun _ => timed_decideRetry ..

theorem timed_callGateway (paymentId : Uuid) (payment : Payment) : Timed site (callGateway paymentId payment) := by
  refine .tryCatch (.bind (.bind (.ask trivial) fun admits => ?_) fun _ => .pure _) fun _ => .pure _
  split
  · exact .bind (.ask trivial) fun _ => .ask trivial
  · exact .throw _

theorem timed_processPayment (paymentId : Uuid) : Timed site (processPayment site paymentId) := by
  refine timed_withLock (.bind (.ask trivial) fun found => ?_)
  cases found with
  | none => exact .throw _
  | some payment =>
    dsimp only
    split
    · exact .pure _
    · exact .bind (timed_transitionState ..) fun _ => .bind (timed_callGateway ..) fun _ =>
        timed_handlePaymentResult ..

theorem timed_handleFailedProcessing (paymentId : Uuid) :
    Timed site (handleFailedProcessing site paymentId) := by
  refine .bind (.ask trivial) fun found => ?_
  cases found with
  | none => exact .pure _
  | some payment =>
    dsimp only
    split
    · exact .pure _
    · split
      · refine .bind (.ask trivial) fun random => .bind (.ask trivial) fun found => ?_
        cases found with
        | none => exact .pure _
        | some payment =>
          dsimp only
          split
          · exact .pure _
          · exact .bind (.ask trivial) fun _ => .bind (.ask trivial) fun _ => .ask trivial
      · exact .bind (.ask trivial) fun _ => .pure _

theorem timed_startProcessWorker (job : ProcessJob) : Timed site (startProcessWorker site job) := by
  refine .bind (.tryCatch (.bind ?_ fun _ => .pure _) fun _ => .pure _) fun _ => .ask trivial
  refine .tryCatch (timed_processPayment _) fun error => ?_
  exact .bind (.tryCatch (timed_handleFailedProcessing _) fun _ => .pure _) fun _ => .throw _

theorem timed_startRetryWorker (job : RetryJob) : Timed site (startRetryWorker job) := by
  refine .bind (.tryCatch (.bind (.bind (.ask trivial) fun found => ?_) fun _ => .pure _) fun _ => .pure _)
    fun _ => .ask trivial
  cases found with
  | none => exact .pure _
  | some payment =>
    dsimp only
    split
    · exact .pure _
    · exact .bind (.ask trivial) fun _ => .ask trivial

theorem timed_errorHandler {json : Responder} (answers : ∀ code body, Timed site (json code body)) (e : JsError) :
    Timed site (errorHandler site json e) := by
  cases e <;> exact answers _ _

theorem timed_originalJson (code : Nat) (body : ResponseBody) : Timed site (originalJson code body) := .ask trivial

theorem timed_postCancel (paymentId : String) : Timed site (postCancel site paymentId) := by
  refine .tryCatch (.bind ?_ fun _ => timed_originalJson _ _) (timed_errorHandler timed_originalJson)
  unfold cancelPayment
  split
  · exact .throw _
  · refine .bind (.ask trivial) fun found => ?_
    cases found with
    | none => exact .throw _
    | some payment =>
      dsimp only
      split
      · exact .throw _
      · split
        · exact .throw _
        · exact .bind (.ask trivial) fun _ => .pure _

theorem timed_initiatePayment {json : String → Responder} (request : PostRequest)
    (answers : ∀ path code body, Timed site (json path code body)) :
    Timed site (initiatePayment site request json) := by
  refine .tryCatch (.bind ?_ fun _ => answers _ _ _) (timed_errorHandler (answers _))
  exact .bind (.ask trivial) fun _ => .bind (.ask trivial) fun _ => .bind (.ask trivial) fun _ => .pure _

theorem timed_idempotencyCheck (request : PostRequest) (idempotencyKey : String) :
    Timed site (idempotencyCheck site request idempotencyKey) := by
  refine .bind (.ask trivial) fun cached => ?_
  cases cached with
  | none =>
    refine .bind (.ask trivial) fun _ => .bind (.ask trivial) fun _ => ?_
    exact .bind (.tryCatch (.ask trivial) fun _ => .pure _) fun _ => .pure _
  | some cached =>
    dsimp only
    split
    · exact .bind (timed_originalJson _ _) fun _ => .pure _
    · cases cached with
      | processing => exact .throw _
      | completed => exact .bind (timed_originalJson _ _) fun _ => .pure _

theorem timed_postPayments (request : PostRequest) : Timed site (postPayments site request) := by
  have direct : Timed site (do ask (.next none); initiatePayment site request fun _ => originalJson) :=
    .bind (.ask trivial) fun _ => timed_initiatePayment request fun _ => timed_originalJson
  unfold postPayments idempotency
  cases request.idempotencyKey with
  | none => exact direct
  | some idempotencyKey =>
    dsimp only
    split
    · exact direct
    · refine .bind (.tryCatch (timed_idempotencyCheck ..) fun error => ?_) fun outcome => ?_
      · exact .bind (timed_errorHandler timed_originalJson _) fun _ => .pure _
      · cases outcome with
        | answered => exact .pure _
        | proceed =>
          refine .bind (.ask trivial) fun _ => timed_initiatePayment request fun path code body => ?_
          exact .bind (.start trivial) fun _ => .bind (.start trivial) fun _ => .ask trivial

theorem timed_recordWebhookEvent (payload : Json) (signature eventId : String) (status : WebhookEventStatus) :
    Timed site (recordWebhookEvent payload signature eventId status) := by
  unfold recordWebhookEvent
  split
  · exact .bind (.ask trivial) fun _ => .ask trivial
  · exact .ask trivial

theorem timed_processWebhookLocked (payload : Json) (signature eventId : String) :
    Timed site (processWebhookLocked payload signature eventId) := by
  have ignored : Timed site (do recordWebhookEvent payload signature eventId .rejected; pure WebhookResult.ignored) :=
    .bind (timed_recordWebhookEvent ..) fun _ => .pure _
  unfold processWebhookLocked
  split
  · exact .throw _
  · refine .bind (.ask trivial) fun found => ?_
    cases found with
    | none => exact ignored
    | some payment =>
      dsimp only
      split
      · exact ignored
      · split
        · exact ignored
        · exact .bind (.ask trivial) fun _ => .bind (.ask trivial) fun _ => .pure _

theorem timed_findWebhookEvent (eventId : String) : Timed site (findWebhookEvent eventId) := by
  unfold findWebhookEvent
  split
  · exact .ask trivial
  · exact .throw _

theorem timed_handleGatewayWebhook (payload : Json) (signature : Option String) :
    Timed site (handleGatewayWebhook site payload signature) := by
  have missing : Timed site handleGatewayWebhook.missingSignature := timed_originalJson _ _
  cases signature with
  | none => exact missing
  | some signature =>
    unfold handleGatewayWebhook
    dsimp only
    split
    · exact missing
    · refine .tryCatch (.bind ?_ fun _ => timed_originalJson _ _) (timed_errorHandler timed_originalJson)
      unfold processWebhook
      split
      · exact .throw _
      · exact .throw _
      · split
        · refine .bind (timed_findWebhookEvent _) fun seen => ?_
          cases seen with
          | none => exact timed_withLock (timed_processWebhookLocked ..)
          | some _ => exact .bind (timed_recordWebhookEvent ..) fun _ => .pure _
        · exact .throw _

theorem timed (reached : Reached site R pool) : ∀ p ∈ pool.threads, Timed site p := by
  refine Machine.Reachable.all ?_ reached
  intro n e w w' started occurred
  cases e with
  | post request =>
    cases occurred
    exact List.forall_mem_singleton.mpr (timed_postPayments request)
  | cancel paymentId =>
    cases occurred
    exact List.forall_mem_singleton.mpr (timed_postCancel paymentId)
  | webhook payload signature =>
    cases occurred
    exact List.forall_mem_singleton.mpr (timed_handleGatewayWebhook payload signature)
  | deliverProcess job =>
    obtain ⟨queue, _, same⟩ := Option.map_eq_some_iff.mp occurred
    cases same
    exact List.forall_mem_singleton.mpr (timed_startProcessWorker job)
  | deliverRetry job =>
    obtain ⟨queue, _, same⟩ := Option.map_eq_some_iff.mp occurred
    cases same
    exact List.forall_mem_singleton.mpr (timed_startRetryWorker job)
  | stallProcess | stallRetry | retryDelayElapsed =>
    obtain ⟨queue, _, same⟩ := Option.map_eq_some_iff.mp occurred
    cases same
    simp
  | expireLock | expireRecord =>
    cases occurred
    simp

end PaymentModel
