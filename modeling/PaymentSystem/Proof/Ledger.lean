import PaymentSystem.Async.Guarantee
import PaymentSystem.Proof.Runs

namespace PaymentModel

open Async

/-- What a payment is about: the columns that no update writes. -/
structure Terms where
  amount : Int
  currency : String
  merchantId : String
  customerEmail : String
  description : Option String
  idempotencyKey : Option String
  maxRetries : Nat
  metadata : Option Json
  createdAt : Nat

def Payment.terms (row : Payment) : Terms where
  amount := row.amount
  currency := row.currency
  merchantId := row.merchantId
  customerEmail := row.customerEmail
  description := row.description
  idempotencyKey := row.idempotencyKey
  maxRetries := row.maxRetries
  metadata := row.metadata
  createdAt := row.createdAt

/-- The same request for an idempotency key, and a response once there is one. -/
structure IdempotencyKey.Retained (old new : IdempotencyKey) : Prop where
  requestPath : new.requestPath = old.requestPath
  requestBodyHash : new.requestBodyHash = old.requestBodyHash
  expiresAt : new.expiresAt = old.expiresAt
  completed : old.status = .completed → new.status = .completed

/-- Nothing that was stored is lost: payments keep their terms, the two logs are only appended to, and the
    rows of idempotency keys keep their requests. The webhooks that are added are accepted ones. -/
structure Db.Retains (accepts : WebhookEvent → Prop) (db db' : Db) : Prop where
  payments : ∀ p row, db.payment p = some row → ∃ current, db'.payment p = some current ∧ current.terms = row.terms
  paymentEvents : db.paymentEvents <+: db'.paymentEvents
  webhookEvents : ∃ received, db'.webhookEvents.rows = db.webhookEvents.rows ++ received ∧
    ∀ event ∈ received, accepts event
  idempotencyKeys : ∀ key row, db.idempotencyKeys.find key = some row →
    ∃ current, db'.idempotencyKeys.find key = some current ∧ row.Retained current

/-- Whenever the body commits, the database before and after are in the relation. -/
def Tx.Keeps {α : Type} (relation : Db → Db → Prop) (body : Tx α) : Prop :=
  ∀ now db value db', body now db = .ok (value, db') → relation db db'

variable {α β : Type} {accepts : WebhookEvent → Prop} {db db' db'' : Db} {p id : Uuid} {version now : Nat}

namespace Tx.Keeps

variable {relation : Db → Db → Prop}

theorem bind {body : Tx α} {f : α → Tx β} (trans : ∀ {a b c}, relation a b → relation b c → relation a c)
    (first : body.Keeps relation) (rest : ∀ value, (f value).Keeps relation) : (body >>= f).Keeps relation := by
  intro now db value db' ran
  obtain ⟨_, middle, ran, ran'⟩ := Tx.bind_ok ran
  exact trans (first _ _ _ _ ran) (rest _ _ _ _ _ ran')

theorem pure (refl : ∀ db, relation db db) (value : α) : (Pure.pure value : Tx α).Keeps relation := by
  intro now db value db' ran
  cases ran
  exact refl db

theorem throw (e : JsError) : (MonadExcept.throw e : Tx α).Keeps relation := by
  intro now db value db' ran
  cases ran

end Tx.Keeps

theorem IdempotencyKey.Retained.refl (row : IdempotencyKey) : row.Retained row := ⟨rfl, rfl, rfl, id⟩

namespace Db.Retains

theorem refl (db : Db) : db.Retains accepts db where
  payments _ row found := ⟨row, found, rfl⟩
  paymentEvents := List.prefix_rfl
  webhookEvents := ⟨[], (List.append_nil _).symm, by simp⟩
  idempotencyKeys _ row found := ⟨row, found, .refl row⟩

theorem trans (first : db.Retains accepts db') (second : db'.Retains accepts db'') : db.Retains accepts db'' where
  payments p row found := by
    obtain ⟨middle, found', terms⟩ := first.payments p row found
    obtain ⟨last, found'', terms'⟩ := second.payments p middle found'
    exact ⟨last, found'', terms'.trans terms⟩
  paymentEvents := first.paymentEvents.trans second.paymentEvents
  webhookEvents := by
    obtain ⟨received, rows, accepted⟩ := first.webhookEvents
    obtain ⟨received', rows', accepted'⟩ := second.webhookEvents
    refine ⟨received ++ received', by rw [rows', rows, List.append_assoc], ?_⟩
    intro event member
    exact (List.mem_append.mp member).elim (accepted event) (accepted' event)
  idempotencyKeys key row found := by
    obtain ⟨middle, found', kept⟩ := first.idempotencyKeys key row found
    obtain ⟨last, found'', kept'⟩ := second.idempotencyKeys key middle found'
    exact ⟨last, found'', {
      requestPath := kept'.requestPath.trans kept.requestPath
      requestBodyHash := kept'.requestBodyHash.trans kept.requestBodyHash
      expiresAt := kept'.expiresAt.trans kept.expiresAt
      completed := fun done => kept'.completed (kept.completed done) }⟩

theorem bind {body : Tx α} {f : α → Tx β} (first : body.Keeps (Db.Retains accepts))
    (rest : ∀ value, (f value).Keeps (Db.Retains accepts)) : (body >>= f).Keeps (Db.Retains accepts) :=
  Tx.Keeps.bind trans first rest

end Db.Retains

theorem paymentCreate_retains {data : PaymentCreateInput} : (paymentCreate data).Keeps (Db.Retains accepts) := by
  intro now db created db' ran
  obtain ⟨amount, payments, _, _, _, _, inserted, rfl⟩ := paymentCreate_ok ran
  refine { Db.Retains.refl db with payments := fun p row found => ⟨row, ?_, rfl⟩ }
  have other : p ≠ created.id := by
    rintro rfl
    rw [Db.payment, (Table.insert_some inserted).1] at found
    cases found
  rw [Db.payment, Table.find_insert inserted, if_neg other]
  exact found

theorem paymentUpdate_retains {id : Uuid} {version : Nat} {data : PaymentUpdateInput} :
    (paymentUpdate id version data).Keeps (Db.Retains accepts) := by
  intro now db updated db' ran
  obtain ⟨old, found, _, rfl, rfl⟩ := paymentUpdate_ok ran
  refine { Db.Retains.refl db with payments := fun p row found' => ?_ }
  have same : (data.apply now old).id = id := (payment_id found : old.id = id)
  rw [Db.payment, find_replaced found same]
  split
  · rename_i here
    subst here
    cases found.symm.trans found'
    exact ⟨_, rfl, rfl⟩
  · exact ⟨row, found', rfl⟩

theorem paymentEventCreate_retains {event : PaymentEvent} : (paymentEventCreate event).Keeps (Db.Retains accepts) := by
  intro now db value db' ran
  obtain ⟨_, rfl⟩ := paymentEventCreate_ok ran
  exact { Db.Retains.refl db with paymentEvents := List.prefix_append .. }

theorem webhookEventCreate_retains {event : WebhookEvent} (accepted : accepts event.row) :
    (webhookEventCreate event).Keeps (Db.Retains accepts) := by
  intro now db value db' ran
  obtain ⟨webhookEvents, inserted, rfl⟩ := webhookEventCreate_ok ran
  exact { (Db.Retains.refl db : db.Retains accepts db) with
    webhookEvents := ⟨[event.row], (Table.insert_some inserted).2, List.forall_mem_singleton.mpr accepted⟩ }

theorem recordedUpdate_retains {id : Uuid} {version : Nat} {data : PaymentUpdateInput}
    {event : Payment → PaymentEvent} : (recordedUpdate id version data event).Keeps (Db.Retains accepts) := by
  refine Db.Retains.bind paymentUpdate_retains fun updated => ?_
  exact Db.Retains.bind paymentEventCreate_retains fun _ => Tx.Keeps.pure Db.Retains.refl _

theorem transitionStateInTx_retains {p : Uuid} {fromStatus toStatus : PaymentStatus} {version : Nat}
    {data : AdditionalData} {spelled : String} :
    (transitionStateInTx p fromStatus toStatus version data spelled).Keeps (Db.Retains accepts) := by
  intro now db updated db' ran
  exact recordedUpdate_retains _ _ _ _ (transitionStateInTx_ran ran)

theorem createPaymentInTx_retains {site : Deployment} {id : Uuid} {data : CreatePaymentRequest}
    {key : Option String} : (createPaymentInTx site id data key).Keeps (Db.Retains accepts) := by
  refine Db.Retains.bind paymentCreate_retains fun created => ?_
  exact Db.Retains.bind paymentEventCreate_retains fun _ => transitionStateInTx_retains

theorem gatewayReferenceUpdate_retains {p : Uuid} {version : Nat} {reference : Option String} :
    (gatewayReferenceUpdate p version reference).Keeps (Db.Retains accepts) :=
  Db.Retains.bind paymentUpdate_retains fun _ => Tx.Keeps.pure Db.Retains.refl _

theorem createWebhookEvent_retains {payload : Json} {signature eventId : String} {status : WebhookEventStatus}
    (accepted : ∀ paymentId, accepts (WebhookEvent.row { paymentId, eventId, payload, signature, status })) :
    (createWebhookEvent payload signature eventId status).Keeps (Db.Retains accepts) := by
  unfold createWebhookEvent
  split
  · exact webhookEventCreate_retains (accepted _)
  · exact Tx.Keeps.throw _

theorem processWebhookInTx_retains {p : Uuid} {payload : Json} {signature eventId : String} {row : Payment}
    {toStatus : PaymentStatus} {now : Nat}
    (accepted : ∀ paymentId,
      accepts (WebhookEvent.row { paymentId, eventId, payload, signature, status := .processed })) :
    (processWebhookInTx p payload signature eventId row toStatus now).Keeps (Db.Retains accepts) := by
  unfold processWebhookInTx
  split
  · exact Tx.Keeps.throw _
  · refine Db.Retains.bind recordedUpdate_retains fun updated => ?_
    exact Db.Retains.bind (createWebhookEvent_retains accepted) fun _ => Tx.Keeps.pure Db.Retains.refl _

theorem idempotencyKeyCreate_retains {row : IdempotencyKey} : (idempotencyKeyCreate row).Keeps (Db.Retains accepts) := by
  intro now db value db' ran
  unfold idempotencyKeyCreate at ran
  rw [Tx.read_bind] at ran
  obtain ⟨_, db₁, checked, ran⟩ := Tx.bind_ok ran
  cases Tx.varchar_ok checked
  obtain ⟨_, db₂, checked', ran⟩ := Tx.bind_ok ran
  cases Tx.varchar_ok checked'
  cases inserted : db.idempotencyKeys.insert
    { row with key := cutText 255 row.key, requestPath := cutText 255 row.requestPath } with
  | none =>
    simp only [inserted] at ran
    cases ran
  | some idempotencyKeys =>
    simp only [inserted] at ran
    cases ran
    refine { Db.Retains.refl db with idempotencyKeys := fun key old found => ⟨old, ?_, .refl old⟩ }
    have other : key ≠ cutText 255 row.key := by
      rintro rfl
      rw [(Table.insert_some inserted).1] at found
      cases found
    rw [Table.find_insert inserted, if_neg other]
    exact found

theorem idempotencyKeyUpdateMany_retains {key : String} {code : Nat} {body : ResponseBody} :
    (idempotencyKeyUpdateMany key code body).Keeps (Db.Retains accepts) := by
  intro now db value db' ran
  unfold idempotencyKeyUpdateMany at ran
  rw [Tx.read_bind] at ran
  cases found : db.idempotencyKeys.find key with
  | none =>
    simp only [found] at ran
    cases ran
    exact .refl db
  | some row =>
    simp only [found] at ran
    cases ran
    refine { Db.Retains.refl db with idempotencyKeys := fun other old found' => ?_ }
    rw [Table.find_replace]
    split
    · rename_i here
      have same : other = key := here.trans (Table.key_of_find found : row.key = key)
      subst same
      cases found.symm.trans found'
      refine ⟨_, by rw [found]; rfl, ?_⟩
      exact ⟨rfl, rfl, rfl, fun _ => rfl⟩
    · exact ⟨old, found', .refl old⟩

end PaymentModel
