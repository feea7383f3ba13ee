import PaymentSystem.Proof.Fencing
import PaymentSystem.Proof.Ledger

namespace PaymentModel

open Async

/-- The signature was made with the secret of the gateway, for the payload that is stored with it. -/
def WebhookEvent.Authentic (site : Deployment) (event : WebhookEvent) : Prop :=
  verifyWebhookSignature site (Json.stringify none event.payload) event.signature = .ok true

/-- The request that `executeGateway` makes for a row. -/
def gatewayRequest (row : Payment) : GatewayPaymentRequest where
  paymentId := row.id
  amount := row.amount
  currency := row.currency
  merchantId := row.merchantId
  customerEmail := row.customerEmail
  description := orNull row.description

/-- A request to the gateway is about a stored payment and has its terms. -/
def Billed (db : Db) (request : GatewayPaymentRequest) : Prop :=
  ∃ row, db.payment request.paymentId = some row ∧ request = gatewayRequest row

/-- What a call may do to the database by itself: it keeps what is stored and takes authentic webhooks only. -/
def Lawful (site : Deployment) : Call → Prop
  | .transaction body => body.Keeps (Db.Retains (WebhookEvent.Authentic site))
  | .statement body => body.Keeps (Db.Retains (WebhookEvent.Authentic site))
  | .gatewaySend _ => False
  | _ => True

/-- What all threads promise each other about the database. -/
def ledger (site : Deployment) : Guarantee (system site) where
  grants w w' := w.db.Retains (WebhookEvent.Authentic site) w'.db
  asks w
    | .gatewaySend request => Billed w.db request
    | _ => True
  refl _ := .refl _
  trans := .trans
  event := by
    intro n e w w' started occurred
    rw [(occur_note occurred).1]
    exact .refl _

variable {site : Deployment} {R : Condition} {α : Type} {t : Nat} {w w' : World} {c : Call} {p : Uuid}
  {payment : Payment} {pool next : Pool calls JsError World}

abbrev Harmless (site : Deployment) (p : Promise α) : Prop := p.All (Lawful site)

theorem Lawful.harmless (lawful : Lawful site c) : (ledger site).Harmless c := by
  intro t w
  refine ⟨?_, ?_⟩
  · cases c with
    | gatewaySend request => exact lawful.elim
    | _ => trivial
  · intro choice outcome w' performed
    have wrote : ∀ {β : Type} {body : Tx β} {row : β → Option Payment} {outcome : Except JsError β},
        body.Keeps (Db.Retains (WebhookEvent.Authentic site)) →
        w.database t choice body row = (outcome, w') → w.db.Retains (WebhookEvent.Authentic site) w'.db := by
      intro β body row outcome keeps ended
      rcases World.database_effect ended with ⟨value, ran⟩ | ⟨same, _⟩
      · exact keeps _ _ _ _ ran
      · rw [same]
        exact .refl _
    by_cases reads : c.writes = false
    · change w.db.Retains _ w'.db
      rw [perform_db performed reads]
      exact .refl _
    · cases c with
      | transaction body | statement body => exact wrote lawful (Option.some.inj performed)
      | _ => exact absurd rfl reads

theorem billed_of_terms {db : Db} {current : Payment} (found : db.payment p = some current) (id : payment.id = p)
    (same : current.terms = payment.terms) : Billed db (gatewayRequest payment) := by
  refine ⟨current, by rw [← id] at found; exact found, ?_⟩
  simp only [Payment.terms, Terms.mk.injEq] at same
  obtain ⟨amount, currency, merchantId, customerEmail, description, _⟩ := same
  simp only [gatewayRequest, amount, currency, merchantId, customerEmail, description, payment_id found, id]

theorem harmless_transitionState {fromStatus toStatus : PaymentStatus} {version : Nat} {data : AdditionalData} :
    Harmless site (transitionState p fromStatus toStatus version data) := .ask transitionStateInTx_retains

theorem harmless_withLock {key : String} {ttl : Rat} {fn : Promise α} (body : Harmless site fn) :
    Harmless site (withLock key ttl fn) := by
  refine .bind (.bind (.ask trivial) fun token => .bind (.ask trivial) fun acquired => .pure _) fun token => ?_
  cases token with
  | none => exact .throw _
  | some token => exact .ensure body (.bind (.ask trivial) fun _ => .pure _)

theorem harmless_decideRetry {errorCode : Option String} : Harmless site (decideRetry p errorCode) := by
  refine .bind (.ask trivial) fun updatedPayment => ?_
  cases updatedPayment with
  | none => exact .pure _
  | some payment =>
    dsimp only
    split
    · exact .bind harmless_transitionState fun _ => .pure _
    · exact .pure _

theorem harmless_handlePaymentResult {result : GatewayResult} {version : Nat} :
    Harmless site (handlePaymentResult p result version) := by
  refine .bind (.ask paymentEventCreate_retains) fun _ => ?_
  split
  · exact .bind (.ask trivial) fun _ => .bind harmless_transitionState fun _ => .pure _
  · split
    · exact .ask gatewayReferenceUpdate_retains
    · exact .bind harmless_transitionState fun _ => harmless_decideRetry

theorem harmless_handleFailedProcessing : Harmless site (handleFailedProcessing site p) := by
  refine .bind (.ask trivial) fun found => ?_
  cases found with
  | none => exact .pure _
  | some payment =>
    dsimp only
    split
    · exact .pure _
    · split
      · refine .bind (.ask trivial) fun random => .bind (.ask trivial) fun found => ?_
        cases found with
        | none => exact .pure _
        | some payment =>
          dsimp only
          split
          · exact .pure _
          · exact .bind (.ask trivial) fun _ => .bind (.ask recordedUpdate_retains) fun _ => .ask trivial
      · exact .bind (.ask recordedUpdate_retains) fun _ => .pure _

theorem harmless_startRetryWorker (job : RetryJob) : Harmless site (startRetryWorker job) := by
  refine .bind (.tryCatch (.bind (.bind (.ask trivial) fun found => ?_) fun _ => .pure _) fun _ => .pure _)
    fun _ => .ask trivial
  cases found with
  | none => exact .pure _
  | some payment =>
    dsimp only
    split
    · exact .pure _
    · exact .bind (.ask recordedUpdate_retains) fun _ => .ask trivial

theorem harmless_originalJson (code : Nat) (body : ResponseBody) : Harmless site (originalJson code body) := .ask trivial

theorem harmless_errorHandler {json : Responder} (answers : ∀ code body, Harmless site (json code body)) (e : JsError) :
    Harmless site (errorHandler site json e) := by
  cases e <;> exact answers _ _

theorem harmless_postCancel (spelled : String) : Harmless site (postCancel site spelled) := by
  refine .tryCatch (.bind ?_ fun _ => harmless_originalJson _ _) (harmless_errorHandler harmless_originalJson)
  unfold cancelPayment
  split
  · exact .throw _
  · refine .bind (.ask trivial) fun found => ?_
    cases found with
    | none => exact .throw _
    | some payment =>
      dsimp only
      split
      · exact .throw _
      · split
        · exact .throw _
        · exact .bind (.ask transitionStateInTx_retains) fun _ => .pure _

theorem harmless_initiatePayment {json : String → Responder} (request : PostRequest)
    (answers : ∀ path code body, Harmless site (json path code body)) :
    Harmless site (initiatePayment site request json) := by
  refine .tryCatch (.bind ?_ fun _ => answers _ _ _) (harmless_errorHandler (answers _))
  exact .bind (.ask trivial) fun _ => .bind (.ask createPaymentInTx_retains) fun _ =>
    .bind (.ask trivial) fun _ => .pure _

theorem harmless_idempotencyCheck (request : PostRequest) (key : String) :
    Harmless site (idempotencyCheck site request key) := by
  refine .bind (.ask trivial) fun cached => ?_
  cases cached with
  | none =>
    refine .bind (.ask trivial) fun _ => .bind (.ask trivial) fun _ => ?_
    exact .bind (.tryCatch (.ask idempotencyKeyCreate_retains) fun _ => .pure _) fun _ => .pure _
  | some cached =>
    dsimp only
    split
    · exact .bind (harmless_originalJson _ _) fun _ => .pure _
    · cases cached with
      | processing => exact .throw _
      | completed => exact .bind (harmless_originalJson _ _) fun _ => .pure _

theorem harmless_postPayments (request : PostRequest) : Harmless site (postPayments site request) := by
  have direct : Harmless site (do ask (.next none); initiatePayment site request fun _ => originalJson) :=
    .bind (.ask trivial) fun _ => harmless_initiatePayment request fun _ => harmless_originalJson
  unfold postPayments idempotency
  cases request.idempotencyKey with
  | none => exact direct
  | some key =>
    dsimp only
    split
    · exact direct
    · refine .bind (.tryCatch (harmless_idempotencyCheck ..) fun error => ?_) fun outcome => ?_
      · exact .bind (harmless_errorHandler harmless_originalJson _) fun _ => .pure _
      · cases outcome with
        | answered => exact .pure _
        | proceed =>
          refine .bind (.ask trivial) fun _ => harmless_initiatePayment request fun path code body => ?_
          exact .bind (.start trivial) fun _ => .bind (.start idempotencyKeyUpdateMany_retains) fun _ => .ask trivial

section Webhook

variable {payload : Json} {signature eventId : String}
  (signed : verifyWebhookSignature site (Json.stringify none payload) signature = .ok true)

include signed

theorem authentic_row (paymentId : Uuid) (eventId : String) (status : WebhookEventStatus) :
    (WebhookEvent.row { paymentId, eventId, payload, signature, status }).Authentic site := by
  change verifyWebhookSignature site (Json.stringify none payload) (cutText 512 signature) = .ok true
  rw [cutText_signature signed, signed]

theorem harmless_recordWebhookEvent {status : WebhookEventStatus} :
    Harmless site (recordWebhookEvent payload signature eventId status) := by
  unfold recordWebhookEvent
  split
  · exact .bind (.ask trivial) fun _ => .ask (createWebhookEvent_retains fun _ => authentic_row signed ..)
  · exact .ask (createWebhookEvent_retains fun _ => authentic_row signed ..)

theorem harmless_processWebhookLocked : Harmless site (processWebhookLocked payload signature eventId) := by
  have ignored : Harmless site (do recordWebhookEvent payload signature eventId .rejected; pure WebhookResult.ignored) :=
    .bind (harmless_recordWebhookEvent signed) fun _ => .pure _
  unfold processWebhookLocked
  split
  · exact .throw _
  · refine .bind (.ask trivial) fun found => ?_
    cases found with
    | none => exact ignored
    | some payment =>
      dsimp only
      split
      · exact ignored
      · split
        · exact ignored
        · refine .bind (.ask trivial) fun _ => .bind (.ask ?_) fun _ => .pure _
          exact processWebhookInTx_retains fun _ => authentic_row signed ..

end Webhook

theorem harmless_findWebhookEvent (eventId : String) : Harmless site (findWebhookEvent eventId) := by
  unfold findWebhookEvent
  split
  · exact .ask trivial
  · exact .throw _

theorem harmless_handleGatewayWebhook (payload : Json) (signature : Option String) :
    Harmless site (handleGatewayWebhook site payload signature) := by
  have missing : Harmless site handleGatewayWebhook.missingSignature := harmless_originalJson _ _
  cases signature with
  | none => exact missing
  | some signature =>
    unfold handleGatewayWebhook
    dsimp only
    split
    · exact missing
    · refine .tryCatch (.bind ?_ fun _ => harmless_originalJson _ _) (harmless_errorHandler harmless_originalJson)
      unfold processWebhook
      split
      · exact .throw _
      · exact .throw _
      · rename_i signed
        split
        · refine .bind (harmless_findWebhookEvent _) fun seen => ?_
          cases seen with
          | none => exact harmless_withLock (harmless_processWebhookLocked signed)
          | some _ => exact .bind (harmless_recordWebhookEvent signed) fun _ => .pure _
        · exact .throw _

/-- A program that keeps the promise of the ledger when thread `t` runs it from `w` on. -/
abbrev Promises (site : Deployment) (t : Nat) (p : Promise α) (w : World) : Prop :=
  (ledger site).contract.Safe t p (fun _ _ => True) (fun _ _ => True) w

theorem safe_of_harmless {p : Promise α} {ok : α → World → Prop} (harmless : Harmless site p)
    (returns : ∀ value w', (ledger site).grants w w' → ok value w') :
    (ledger site).contract.Safe t p ok (fun _ _ => True) w :=
  Guarantee.safe_of_all (Program.All.weaken harmless fun _ lawful => lawful.harmless) returns fun _ _ _ => trivial

theorem promises_of_harmless {p : Promise α} (harmless : Harmless site p) : Promises site t p w :=
  safe_of_harmless harmless fun _ _ _ => trivial

theorem Promises.bind {β : Type} {p : Promise α} {f : α → Promise β} (first : Promises site t p w)
    (rest : ∀ value w', Promises site t (f value) w') : Promises site t (p >>= f) w :=
  Contract.Safe.bind (Contract.Safe.weaken first (fun value w' _ => rest value w') fun _ _ held => held)

theorem Promises.tryCatch {p : Promise α} {f : JsError → Promise α} (first : Promises site t p w)
    (handler : ∀ e w', Promises site t (f e) w') : Promises site t (MonadExcept.tryCatch p f) w :=
  Contract.Safe.tryCatch (Contract.Safe.weaken first (fun _ _ held => held) fun e w' _ => handler e w')

theorem Promises.ensure {p : Promise α} {cleanup : Promise Unit} (body : Promises site t p w)
    (cleans : ∀ w', Promises site t cleanup w') : Promises site t (p.ensure cleanup) w :=
  Contract.Safe.ensure (Contract.Safe.weaken body (fun _ w' _ => cleans w') fun _ w' _ => cleans w')

/-- The payment that was read is still stored, with the terms it had. -/
def Stands (p : Uuid) (payment : Payment) (w : World) : Prop :=
  payment.id = p ∧ ∃ current, w.payment p = some current ∧ current.terms = payment.terms

theorem Stands.later (stands : Stands p payment w) (grants : (ledger site).grants w w') : Stands p payment w' := by
  obtain ⟨id, current, found, terms⟩ := stands
  obtain ⟨current', found', terms'⟩ := grants.payments p current found
  exact ⟨id, current', found', terms'.trans terms⟩

theorem promises_callGateway (stands : Stands p payment w) : Promises site t (callGateway p payment) w := by
  refine Promises.tryCatch (Promises.bind (Contract.Safe.bind ?_) fun _ _ => promises_of_harmless (.pure _))
    fun _ _ => promises_of_harmless (.pure _)
  refine safe_of_harmless (.ask trivial) ?_
  intro admits w₁ grants
  split
  · refine Contract.Safe.bind (Guarantee.safe_ask ?_ ?_)
    · intro w₂ grants'
      obtain ⟨id, current, found, terms⟩ := (stands.later grants).later grants'
      refine ⟨?_, ?_⟩
      · have billed := billed_of_terms found id terms
        rwa [gatewayRequest, id] at billed
      · intro choice outcome w₃ performed
        cases performed
        exact .refl _
    · intro w₂ choice outcome w₃ w₄ _ performed _ _
      cases performed
      exact promises_of_harmless (.ask trivial)
  · exact promises_of_harmless (.throw _)

theorem promises_processPaymentLocked : Promises site t (processPaymentLocked p) w := by
  refine Contract.Safe.bind (Guarantee.safe_ask (fun w₁ _ => Lawful.harmless ?_ t w₁) ?_)
  · trivial
  intro w₁ choice outcome w₂ w₃ _ performed grants _
  have answered := World.remote_cases (Option.some.inj performed)
  rcases answered with ⟨_, rfl, same⟩ | ⟨_, rfl, _⟩ | ⟨_, rfl, _⟩
  · dsimp only
    cases found : w₁.payment p with
    | none => exact promises_of_harmless (.throw _)
    | some payment =>
      have here : Stands p payment w₂ := by
        rw [same]
        exact ⟨payment_id found, payment, found, rfl⟩
      have stands := here.later grants
      dsimp only
      split
      · exact promises_of_harmless (.pure _)
      · refine Contract.Safe.bind (Guarantee.safe_of_all (harmless_transitionState.weaken fun _ lawful =>
          lawful.harmless) ?_ fun _ _ _ => trivial)
        intro processing w₄ grants'
        refine Promises.bind (promises_callGateway (stands.later grants')) fun result w₅ => ?_
        exact promises_of_harmless harmless_handlePaymentResult
  · trivial
  · trivial

theorem promises_startProcessWorker (job : ProcessJob) : Promises site t (startProcessWorker site job) w := by
  refine Promises.bind (Promises.tryCatch (Promises.bind (Promises.tryCatch ?_ ?_)
    fun _ _ => promises_of_harmless (.pure _)) fun _ _ => promises_of_harmless (.pure _))
    fun _ _ => promises_of_harmless (.ask trivial)
  · refine Promises.bind (Promises.bind (promises_of_harmless (.ask trivial)) fun token w₁ =>
      Promises.bind (promises_of_harmless (.ask trivial)) fun acquired w₂ => promises_of_harmless (.pure _)) ?_
    intro token w₁
    cases token with
    | none => exact promises_of_harmless (.throw _)
    | some token =>
      refine Promises.ensure promises_processPaymentLocked fun w₂ => ?_
      exact promises_of_harmless (.bind (.ask trivial) fun _ => .pure _)
  · intro e w₁
    refine promises_of_harmless ?_
    exact .bind (.tryCatch harmless_handleFailedProcessing fun _ => .pure _) fun _ => .throw _

theorem ledger_starts (site : Deployment) : (ledger site).contract.Starts := by
  intro n e w w' started occurred _ i program found
  have member := List.mem_of_getElem? found
  cases e with
  | post request =>
    cases occurred
    cases List.mem_singleton.mp member
    exact promises_of_harmless (harmless_postPayments request)
  | cancel p =>
    cases occurred
    cases List.mem_singleton.mp member
    exact promises_of_harmless (harmless_postCancel p)
  | webhook payload signature =>
    cases occurred
    cases List.mem_singleton.mp member
    exact promises_of_harmless (harmless_handleGatewayWebhook payload signature)
  | deliverProcess job =>
    obtain ⟨queue, _, same⟩ := Option.map_eq_some_iff.mp occurred
    cases same
    cases List.mem_singleton.mp member
    exact promises_startProcessWorker job
  | deliverRetry job =>
    obtain ⟨queue, _, same⟩ := Option.map_eq_some_iff.mp occurred
    cases same
    cases List.mem_singleton.mp member
    exact promises_of_harmless (harmless_startRetryWorker job)
  | stallProcess | stallRetry | retryDelayElapsed =>
    obtain ⟨queue, _, same⟩ := Option.map_eq_some_iff.mp occurred
    cases same
    cases member
  | expireLock | expireRecord =>
    cases occurred
    cases member

end PaymentModel
