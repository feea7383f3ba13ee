import PaymentSystem.Proof.Deeds
import PaymentSystem.Proof.Fencing
import PaymentSystem.Proof.Ledger
import PaymentSystem.Proof.Walks

namespace PaymentModel

open Async

/-- The audit events of a payment. -/
def Db.trail (db : Db) (p : Uuid) : List PaymentEvent := db.paymentEvents.filter fun event => event.paymentId = p

/-- Payments that are stored and not named keep their row and their audit events. -/
structure Db.Spares (named : Uuid → Prop) (db db' : Db) : Prop where
  payment : ∀ q, ¬named q → (db.payment q).isSome → db'.payment q = db.payment q
  trail : ∀ q, ¬named q → (db.payment q).isSome → db'.trail q = db.trail q

/-- A note of what has started a thread. -/
def Obs.starts : Obs → Bool
  | .posted _ | .cancelling _ | .webhook .. | .processing _ | .retrying _ => true
  | _ => false

/-- The thread runs a job of the payment. -/
def WorksOn (p : Uuid) (h : List Obs) : Prop := .processing ⟨p⟩ ∈ h ∨ ∃ attempt, .retrying ⟨p, attempt⟩ ∈ h

/-- A client has asked for the payment, in whatever spelling of its id: to cancel it, or in a webhook. -/
def AskedFor (p : Uuid) (h : List Obs) : Prop :=
  (∃ spelled, .cancelling spelled ∈ h ∧ Uuid.parse spelled = some p) ∨
    ∃ payload signature, .webhook payload signature ∈ h ∧
      Uuid.parse (Json.template (payload.field "paymentId")) = some p

/-- The calls of a thread that works on the payments of `worker` and was asked for those of `client`. -/
def Minds (worker client : Uuid → Prop) : Call → Prop
  | .paymentFindUnique place q => worker q ∨ (place = .cancelPayment ∨ place = .processWebhook) ∧ client q
  | .transaction body => body.Keeps (Db.Spares fun q => worker q ∨ client q)
  | .statement body => body.Keeps (Db.Spares fun q => worker q ∨ client q)
  | .lockSet key .. | .lockRelease key _ => ∀ q : Uuid, key = paymentLockKey q → worker q ∨ client q
  | .breakerAdmits q | .gatewayReceive q => worker q
  | .gatewaySend request => worker request.paymentId
  | .retryQueueAdd job _ | .retryJobFinished job _ => worker job.paymentId
  | .processJobFinished job _ => worker job.paymentId
  | _ => True

variable {site : Deployment} {α : Type} {named worker client : Uuid → Prop} {db db' : Db} {p q : Uuid}
  {old row new : Payment} {event : PaymentEvent} {version : Nat}

theorem Db.Spares.of_transition (moved : Transition db db' p old new event) (names : named p) : db.Spares named db' := by
  have other : ∀ {q}, ¬named q → q ≠ p := fun unnamed same => unnamed (same ▸ names)
  constructor
  · intro q unnamed _
    rw [moved.payment, if_neg (other unnamed)]
  · intro q unnamed _
    have foreign : event.paymentId ≠ q := fun same => other unnamed (same.symm.trans moved.paymentId)
    rw [Db.trail, moved.paymentEvents, List.filter_append, Db.trail]
    simp [foreign]

theorem Db.Spares.of_payments (payments : db'.payments = db.payments)
    (paymentEvents : db'.paymentEvents = db.paymentEvents) : db.Spares named db' where
  payment q _ _ := by rw [Db.payment, payments, Db.payment]
  trail q _ _ := by rw [Db.trail, paymentEvents, Db.trail]

theorem spares_transitionStateInTx {fromStatus toStatus : PaymentStatus} {data : AdditionalData} {spelled : String}
    (names : named p) :
    (transitionStateInTx p fromStatus toStatus version data spelled).Keeps (Db.Spares named) := by
  intro now db row db' ran
  obtain ⟨_, _, _, moved, _⟩ := transitionStateInTx_ok ran
  exact .of_transition moved names

theorem spares_permanentlyFailInTx (names : named p) : (permanentlyFailInTx p row).Keeps (Db.Spares named) := by
  intro now db row db' ran
  obtain ⟨_, _, _, moved, _⟩ := permanentlyFailInTx_ok ran
  exact .of_transition moved names

theorem spares_scheduleRetryInTx {attempt : Nat} {delayMs nextRetryAt : Int} (names : named p) :
    (scheduleRetryInTx p version attempt delayMs nextRetryAt).Keeps (Db.Spares named) := by
  intro now db row db' ran
  obtain ⟨_, _, _, moved, _⟩ := scheduleRetryInTx_ok ran
  exact .of_transition moved names

theorem spares_executeRetryInTx (names : named p) : (executeRetryInTx p version).Keeps (Db.Spares named) := by
  intro now db row db' ran
  obtain ⟨_, _, _, moved, _⟩ := executeRetryInTx_ok ran
  exact .of_transition moved names

theorem spares_processWebhookInTx {payload : Json} {signature eventId : String} {now : Nat}
    (field : namedPayment payload = .ok p) (names : named p) :
    (processWebhookInTx p payload signature eventId row (webhookTarget payload) now).Keeps (Db.Spares named) := by
  intro now db row db' ran
  obtain ⟨_, _, _, moved, _⟩ := processWebhookInTx_ok field ran
  exact .of_transition moved names

/-- A new payment touches none that is stored. -/
theorem spares_createPaymentInTx {id : Uuid} {data : CreatePaymentRequest} {key : Option String} :
    (createPaymentInTx site id data key).Keeps (Db.Spares named) := by
  intro now db row db' ran
  obtain ⟨_, created, moved, creation⟩ := createPaymentInTx_creates ran
  have other : ∀ {q}, (db.payment q).isSome → q ≠ id := by
    rintro q stored rfl
    rw [creation.absent] at stored
    cases stored
  constructor
  · intro q _ stored
    rw [creation.payment, if_neg (other stored)]
  · intro q _ stored
    have first : created.paymentId ≠ q := fun same => other stored (same.symm.trans creation.createdId)
    have second : moved.paymentId ≠ q := fun same => other stored (same.symm.trans creation.movedId)
    rw [Db.trail, creation.paymentEvents, List.filter_append, Db.trail]
    simp [first, second]

theorem spares_gatewayResponseRecorded {result : GatewayResult} (names : named p) :
    (gatewayResponseRecorded p result).Keeps (Db.Spares named) := by
  intro now db value db' ran
  obtain ⟨_, rfl⟩ := paymentEventCreate_ok ran
  refine ⟨fun _ _ _ => rfl, fun q unnamed _ => ?_⟩
  have foreign : p ≠ q := fun same => unnamed (same ▸ names)
  simp [Db.trail, List.filter_append, foreign]

theorem spares_gatewayReferenceUpdate {reference : Option String} (names : named p) :
    (gatewayReferenceUpdate p version reference).Keeps (Db.Spares named) := by
  intro now db value db' ran
  obtain ⟨new, db₁, updated, ran⟩ := Tx.bind_ok ran
  obtain ⟨old, found, _, applied, rfl⟩ := paymentUpdate_ok updated
  cases ran
  have id : new.id = p := by
    rw [applied]
    exact (payment_id found : old.id = p)
  refine ⟨fun q unnamed _ => ?_, fun _ _ _ => rfl⟩
  have foreign : q ≠ p := fun same => unnamed (same ▸ names)
  rw [Db.payment, find_replaced found id, if_neg foreign]
  rfl

theorem spares_createWebhookEvent {payload : Json} {signature eventId : String} {status : WebhookEventStatus} :
    (createWebhookEvent payload signature eventId status).Keeps (Db.Spares named) := by
  intro now db value db' ran
  obtain ⟨_, _, _, _, rfl⟩ := createWebhookEvent_ok ran
  exact .of_payments rfl rfl

theorem spares_idempotencyKeyCreate {row : IdempotencyKey} : (idempotencyKeyCreate row).Keeps (Db.Spares named) := by
  intro now db value db' ran
  have same := idempotencyKeyCreate_ok ran
  exact .of_payments same.payments same.paymentEvents

theorem spares_idempotencyKeyUpdateMany {key : String} {code : Nat} {body : ResponseBody} :
    (idempotencyKeyUpdateMany key code body).Keeps (Db.Spares named) := by
  intro now db value db' ran
  have same := idempotencyKeyUpdateMany_ok ran
  exact .of_payments same.payments same.paymentEvents

abbrev Minding (worker client : Uuid → Prop) (program : Promise α) : Prop := program.All (Minds worker client)

theorem paymentLockKey_inj {spelled other : String} : paymentLockKey spelled = paymentLockKey other ↔
    spelled = other := String.append_right_inj _

theorem minding_withLock {fn : Promise α} {ttl : Rat} {spelled : String} (body : Minding worker client fn)
    (names : ∀ q : Uuid, spelled = q.text → worker q ∨ client q) :
    Minding worker client (withLock (paymentLockKey spelled) ttl fn) :=
  all_withLock body trivial (fun _ _ q same => names q (paymentLockKey_inj.mp same))
    fun _ q same => names q (paymentLockKey_inj.mp same)

section Workers

variable (works : worker p)

include works

theorem minding_transitionState {fromStatus toStatus : PaymentStatus} {data : AdditionalData} :
    Minding worker client (transitionState p fromStatus toStatus version data) :=
  .ask (spares_transitionStateInTx (.inl works))

theorem minding_decideRetry {errorCode : Option String} : Minding worker client (decideRetry p errorCode) := by
  refine .bind (.ask (.inl works)) fun found => ?_
  cases found with
  | none => exact .pure _
  | some payment =>
    dsimp only
    split
    · exact .bind (minding_transitionState works) fun _ => .pure _
    · exact .pure _

theorem minding_handlePaymentResult {result : GatewayResult} :
    Minding worker client (handlePaymentResult p result version) := by
  refine .bind (.ask (spares_gatewayResponseRecorded (.inl works))) fun _ => ?_
  split
  · exact .bind (.ask trivial) fun _ => .bind (minding_transitionState works) fun _ => .pure _
  · split
    · exact .ask (spares_gatewayReferenceUpdate (.inl works))
    · exact .bind (minding_transitionState works) fun _ => minding_decideRetry works

theorem minding_callGateway {payment : Payment} : Minding worker client (callGateway p payment) := by
  refine .tryCatch (.bind (.bind (.ask works) fun admits => ?_) fun _ => .pure _) fun _ => .pure _
  split
  · exact .bind (.ask works) fun _ => .ask works
  · exact .throw _

theorem minding_processPaymentLocked : Minding worker client (processPaymentLocked p) := by
  refine .bind (.ask (.inl works)) fun found => ?_
  cases found with
  | none => exact .throw _
  | some payment =>
    dsimp only
    split
    · exact .pure _
    · exact .bind (minding_transitionState works) fun _ => .bind (minding_callGateway works) fun _ =>
        minding_handlePaymentResult works

theorem minding_handleFailedProcessing : Minding worker client (handleFailedProcessing site p) := by
  refine .bind (.ask (.inl works)) fun found => ?_
  cases found with
  | none => exact .pure _
  | some payment =>
    dsimp only
    split
    · exact .pure _
    · split
      · refine .bind (.ask trivial) fun random => .bind (.ask (.inl works)) fun found => ?_
        cases found with
        | none => exact .pure _
        | some payment =>
          dsimp only
          split
          · exact .pure _
          · exact .bind (.ask trivial) fun _ => .bind (.ask (spares_scheduleRetryInTx (.inl works))) fun _ => .ask works
      · exact .bind (.ask (spares_permanentlyFailInTx (.inl works))) fun _ => .pure _

end Workers

theorem minding_startProcessWorker (job : ProcessJob) (works : worker job.paymentId) :
    Minding worker client (startProcessWorker site job) := by
  have locked : Minding worker client (processPayment site job.paymentId) :=
    minding_withLock (minding_processPaymentLocked works) fun q same => .inl (Uuid.ext_text same ▸ works)
  refine .bind (.tryCatch (.bind (.tryCatch locked fun _ => ?_) fun _ => .pure _) fun _ => .pure _) fun _ => .ask works
  exact .bind (.tryCatch (minding_handleFailedProcessing works) fun _ => .pure _) fun _ => .throw _

theorem minding_startRetryWorker (job : RetryJob) (works : worker job.paymentId) :
    Minding worker client (startRetryWorker job) := by
  refine .bind (.tryCatch (.bind (.bind (.ask (.inl works)) fun found => ?_) fun _ => .pure _) fun _ => .pure _)
    fun _ => .ask works
  cases found with
  | none => exact .pure _
  | some payment =>
    dsimp only
    split
    · exact .pure _
    · exact .bind (.ask (spares_executeRetryInTx (.inl works))) fun _ => .ask trivial

theorem minding_errorHandler {json : Responder} (answers : ∀ code body, Minding worker client (json code body))
    (e : JsError) : Minding worker client (errorHandler site json e) := by
  cases e <;> exact answers _ _

theorem minding_originalJson (code : Nat) (body : ResponseBody) : Minding worker client (originalJson code body) :=
  .ask trivial

theorem minding_postCancel {spelled : String} (asked : ∀ q, Uuid.parse spelled = some q → client q) :
    Minding worker client (postCancel site spelled) := by
  refine .tryCatch (.bind ?_ fun _ => minding_originalJson _ _) (minding_errorHandler minding_originalJson)
  unfold cancelPayment
  split
  · exact .throw _
  · rename_i p reads
    refine .bind (.ask (.inr ⟨.inl rfl, asked p reads⟩)) fun found => ?_
    cases found with
    | none => exact .throw _
    | some payment =>
      dsimp only
      split
      · exact .throw _
      · split
        · exact .throw _
        · exact .bind (.ask (spares_transitionStateInTx (.inr (asked p reads)))) fun _ => .pure _

/-- The text of the payload that the lock is taken for spells the payment that it names. -/
theorem parse_named {payload : Json} (names : namedPayment payload = .ok p) :
    Uuid.parse (Json.template (payload.field "paymentId")) = some p := by
  unfold namedPayment at names
  split at names
  · rename_i field
    split at names
    · rename_i reads
      cases names
      rw [field]
      exact reads
    · cases names
  · cases names

theorem minding_recordWebhookEvent {payload : Json} {signature eventId : String} {status : WebhookEventStatus} :
    Minding worker client (recordWebhookEvent payload signature eventId status) := by
  unfold recordWebhookEvent
  split
  · exact .bind (.ask trivial) fun _ => .ask spares_createWebhookEvent
  · exact .ask spares_createWebhookEvent

theorem minding_processWebhookLocked {payload : Json} {signature eventId : String}
    (asked : ∀ q, Uuid.parse (Json.template (payload.field "paymentId")) = some q → client q) :
    Minding worker client (processWebhookLocked payload signature eventId) := by
  have ignored : Minding worker client
      (do recordWebhookEvent payload signature eventId .rejected; pure WebhookResult.ignored) :=
    .bind minding_recordWebhookEvent fun _ => .pure _
  unfold processWebhookLocked
  split
  · exact .throw _
  · rename_i p names
    have asked : client p := asked p (parse_named names)
    refine .bind (.ask (.inr ⟨.inr rfl, asked⟩)) fun found => ?_
    cases found with
    | none => exact ignored
    | some payment =>
      dsimp only
      split
      · exact ignored
      · split
        · exact ignored
        · exact .bind (.ask trivial) fun _ => .bind (.ask (spares_processWebhookInTx names (.inr asked))) fun _ =>
            .pure _

theorem minding_findWebhookEvent {eventId : String} : Minding worker client (findWebhookEvent eventId) := by
  unfold findWebhookEvent
  split
  · exact .ask trivial
  · exact .throw _

theorem minding_handleGatewayWebhook {payload : Json} {signature : Option String}
    (asked : ∀ q, Uuid.parse (Json.template (payload.field "paymentId")) = some q → client q) :
    Minding worker client (handleGatewayWebhook site payload signature) := by
  have missing : Minding worker client handleGatewayWebhook.missingSignature := minding_originalJson _ _
  unfold handleGatewayWebhook
  split
  · exact missing
  · split
    · exact missing
    · refine .tryCatch (.bind ?_ fun _ => minding_originalJson _ _) (minding_errorHandler minding_originalJson)
      unfold processWebhook
      split
      · exact .throw _
      · exact .throw _
      · split
        · refine .bind minding_findWebhookEvent fun found => ?_
          cases found with
          | some _ => exact .bind minding_recordWebhookEvent fun _ => .pure _
          | none =>
            refine minding_withLock (minding_processWebhookLocked asked) fun q same => .inr (asked q ?_)
            rw [same, Uuid.parse_text]
        · exact .throw _

theorem minding_initiatePayment {json : String → Responder} (request : PostRequest)
    (answers : ∀ path code body, Minding worker client (json path code body)) :
    Minding worker client (initiatePayment site request json) := by
  refine .tryCatch (.bind ?_ fun _ => answers _ _ _) (minding_errorHandler (answers _))
  exact .bind (.ask trivial) fun _ => .bind (.ask spares_createPaymentInTx) fun _ =>
    .bind (.ask trivial) fun _ => .pure _

theorem minding_idempotencyCheck (request : PostRequest) (key : String) :
    Minding worker client (idempotencyCheck site request key) := by
  refine .bind (.ask trivial) fun cached => ?_
  cases cached with
  | none =>
    refine .bind (.ask trivial) fun _ => .bind (.ask trivial) fun _ => ?_
    exact .bind (.tryCatch (.ask spares_idempotencyKeyCreate) fun _ => .pure _) fun _ => .pure _
  | some cached =>
    dsimp only
    split
    · exact .bind (minding_originalJson _ _) fun _ => .pure _
    · cases cached with
      | processing => exact .throw _
      | completed => exact .bind (minding_originalJson _ _) fun _ => .pure _

theorem minding_postPayments (request : PostRequest) : Minding worker client (postPayments site request) := by
  have direct : Minding worker client (do ask (.next none); initiatePayment site request fun _ => originalJson) :=
    .bind (.ask trivial) fun _ => minding_initiatePayment request fun _ => minding_originalJson
  unfold postPayments idempotency
  cases request.idempotencyKey with
  | none => exact direct
  | some key =>
    dsimp only
    split
    · exact direct
    · refine .bind (.tryCatch (minding_idempotencyCheck ..) fun error => ?_) fun outcome => ?_
      · exact .bind (minding_errorHandler minding_originalJson _) fun _ => .pure _
      · cases outcome with
        | answered => exact .pure _
        | proceed =>
          refine .bind (.ask trivial) fun _ => minding_initiatePayment request fun path code body => ?_
          exact .bind (.start trivial) fun _ => .bind (.start spares_idempotencyKeyUpdateMany) fun _ => .ask trivial

theorem Db.Spares.weaken {named' : Uuid → Prop} (spares : db.Spares named db') (more : ∀ q, named q → named' q) :
    db.Spares named' db' where
  payment q unnamed := spares.payment q fun names => unnamed (more q names)
  trail q unnamed := spares.trail q fun names => unnamed (more q names)

theorem Minds.weaken {worker' client' : Uuid → Prop} {c : Call} (minds : Minds worker client c)
    (workers : ∀ q, worker q → worker' q) (clients : ∀ q, client q → client' q) : Minds worker' client' c := by
  have either : ∀ q, worker q ∨ client q → worker' q ∨ client' q := fun q => Or.imp (workers q) (clients q)
  cases c with
  | paymentFindUnique place q => exact Or.imp (workers q) (And.imp_right (clients q)) minds
  | transaction | statement => exact fun now db value db' ran => (minds now db value db' ran).weaken either
  | lockSet | lockRelease => exact fun q key => either q (minds q key)
  | breakerAdmits | gatewayReceive | gatewaySend | retryQueueAdd | retryJobFinished | processJobFinished =>
    exact workers _ minds
  | _ => trivial

/-- What a thread has left to do minds the payments that it was started for. A thread that nothing has started makes
    the one call that it is there for. -/
inductive Minded (t : Nat) (program : Promise Unit) (w : World) : Prop
  | works (begun : ∃ o ∈ w.history t, o.starts = true)
    (minds : Minding (fun q => WorksOn q (w.history t)) (fun q => AskedFor q (w.history t)) program)
  | lone {c : Call} (fresh : w.history t = []) (only : program = .call c fun _ => .done (.ok ()))
  | finished (ended : program.ended = true)

variable {R : Condition} {t n : Nat} {w w' : World} {h h' : List Obs} {pool : Pool calls JsError World}

theorem WorksOn.mono (works : WorksOn p h) (grown : ∀ o ∈ h, o ∈ h') : WorksOn p h' :=
  works.imp (grown _) fun ⟨attempt, member⟩ => ⟨attempt, grown _ member⟩

theorem AskedFor.mono (asked : AskedFor p h) (grown : ∀ o ∈ h, o ∈ h') : AskedFor p h' :=
  asked.imp (fun ⟨spelled, member, reads⟩ => ⟨spelled, grown _ member, reads⟩)
    fun ⟨payload, signature, member, names⟩ => ⟨payload, signature, grown _ member, names⟩

theorem minded_starts {e : Event} {started : List (Promise Unit)} (occurred : occur site n e w = some (w', started))
    (fresh : w.history n = []) {i : Nat} {program : Promise Unit} (found : started[i]? = some program) :
    Minded (n + i) program w' := by
  have member := List.mem_of_getElem? found
  have begun : ∀ {o : Obs} (w' : World), w'.trace = (n, o) :: w.trace → w'.history n = [o] := by
    intro o w' same
    rw [World.history_cons_self same, fresh]
  have single : ∀ {p : Promise Unit}, [p][i]? = some program → i = 0 ∧ p = program := by
    intro p found
    cases i with
    | zero => exact ⟨rfl, Option.some.inj found⟩
    | succ i => cases found
  cases e with
  | post request =>
    cases occurred
    obtain ⟨rfl, rfl⟩ := single found
    have own := begun (w.log n (.posted request)) rfl
    exact .works ⟨_, own ▸ List.mem_singleton_self _, rfl⟩ (minding_postPayments request)
  | cancel p =>
    cases occurred
    obtain ⟨rfl, rfl⟩ := single found
    have own := begun (w.log n (.cancelling p)) rfl
    exact .works ⟨_, own ▸ List.mem_singleton_self _, rfl⟩
      (minding_postCancel fun q reads => .inl ⟨_, own ▸ List.mem_singleton_self _, reads⟩)
  | webhook payload signature =>
    cases occurred
    obtain ⟨rfl, rfl⟩ := single found
    have own := begun (w.log n (.webhook payload signature)) rfl
    exact .works ⟨_, own ▸ List.mem_singleton_self _, rfl⟩
      (minding_handleGatewayWebhook fun q reads => .inr ⟨_, _, own ▸ List.mem_singleton_self _, reads⟩)
  | deliverProcess job =>
    obtain ⟨queue, _, same⟩ := Option.map_eq_some_iff.mp occurred
    cases same
    obtain ⟨rfl, rfl⟩ := single found
    have own := begun ({ w with processQueue := queue }.log n (.processing job)) rfl
    exact .works ⟨_, own ▸ List.mem_singleton_self _, rfl⟩
      (minding_startProcessWorker job (.inl (own ▸ List.mem_singleton_self _)))
  | deliverRetry job =>
    obtain ⟨queue, _, same⟩ := Option.map_eq_some_iff.mp occurred
    cases same
    obtain ⟨rfl, rfl⟩ := single found
    have own := begun ({ w with retryQueue := queue }.log n (.retrying job)) rfl
    exact .works ⟨_, own ▸ List.mem_singleton_self _, rfl⟩
      (minding_startRetryWorker job (.inr ⟨_, own ▸ List.mem_singleton_self _⟩))
  | stallProcess | stallRetry | retryDelayElapsed =>
    obtain ⟨queue, _, same⟩ := Option.map_eq_some_iff.mp occurred
    cases same
    cases member
  | expireLock | expireRecord =>
    cases occurred
    cases member

theorem perform_grows {c : Call} {choice : Choice} {outcome : Except JsError c.Answer}
    (performed : perform t c choice w = some (outcome, w')) : ∀ o ∈ w.history t, o ∈ w'.history t := by
  obtain ⟨notes, took, _⟩ := perform_does performed
  intro o member
  rw [took.own]
  exact List.mem_append_right _ member

theorem minded (reached : Reached site R pool) :
    ∀ t program, pool.threads[t]? = some program → Minded t program pool.world := by
  induction reached with
  | start => exact fun t program found => by simp at found
  | step before _ stepped ih =>
    refine ((conduct site).keeps (conduct_starts site) (fresh_start site) before).pass stepped ?_ ?_ ?_ ?_ ih
    · intro n e w w' started occurred fresh i program found
      exact minded_starts occurred (fresh n (Nat.le_refl n)) found
    · intro t c rest choice outcome w w' minded _ performed
      have grown := perform_grows performed
      cases minded with
      | works begun minds =>
        obtain ⟨o, member, starts⟩ := begun
        refine .works ⟨o, grown o member, starts⟩ ((minds.2 outcome).weaken fun c minds => ?_)
        exact minds.weaken (fun q works => works.mono grown) fun q asked => asked.mono grown
      | lone fresh only =>
        cases only
        exact .finished rfl
      | finished ended => cases ended
    · intro t c rest w minded
      cases minded with
      | works begun minds => exact ⟨.works begun minds.2, fun u fresh => .lone fresh rfl⟩
      | lone fresh only => cases only
      | finished ended => cases ended
    · intro t program w w' minded rely
      cases minded with
      | works begun minds =>
        rw [← rely.1] at begun minds
        exact .works begun minds
      | lone fresh only => exact .lone (rely.1.trans fresh) only
      | finished ended => exact .finished ended

end PaymentModel
