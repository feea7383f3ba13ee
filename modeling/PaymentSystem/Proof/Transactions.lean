import PaymentSystem.Proof.History

namespace PaymentModel

open Async

variable {α β : Type} {now : Nat} {db db' : Db}

theorem Tx.require_ok {condition : Bool} {e : JsError} {value : Unit}
    (h : Tx.require condition e now db = .ok (value, db')) : condition = true ∧ db' = db := by
  unfold Tx.require at h
  split at h
  · cases h
    exact ⟨‹_›, rfl⟩
  · cases h

theorem Tx.text_ok {text : Option String} {value : Unit} (h : Tx.text text now db = .ok (value, db')) : db' = db :=
  (Tx.require_ok h).2

theorem Tx.jsonb_ok {json : Option Json} {value : Unit} (h : Tx.jsonb json now db = .ok (value, db')) : db' = db :=
  (Tx.require_ok h).2

theorem Tx.varchar_ok {limit : Nat} {text : Option String} {value : Unit}
    (h : Tx.varchar limit text now db = .ok (value, db')) : db' = db := by
  obtain ⟨_, db₁, read, h⟩ := Tx.bind_ok h
  cases Tx.text_ok read
  exact (Tx.require_ok h).2

theorem Tx.bind_run {body : Tx α} {f : α → Tx β} {value : α} (ran : body now db = .ok (value, db')) :
    (body >>= f) now db = f value now db' := by
  simp only [bind, ran]

theorem Tx.clock_bind (f : Nat → Tx α) : (Tx.clock >>= f) now db = f now now db := rfl

theorem Tx.read_bind (f : Db → Tx α) : (Tx.read >>= f) now db = f db now db := rfl

/-- The update writes no text. -/
structure PaymentUpdateInput.Textless (data : PaymentUpdateInput) : Prop where
  gatewayReference : data.gatewayReference.getD none = none
  errorCode : data.errorCode.getD none = none
  errorMessage : data.errorMessage.getD none = none

/-- The row that an update finds, in the version it asks for, and what it makes of it. -/
theorem paymentUpdate_ok {id : Uuid} {version : Nat} {data : PaymentUpdateInput} {updated : Payment}
    (h : paymentUpdate id version data now db = .ok (updated, db')) :
    ∃ row, db.payment id = some row ∧ row.version = version ∧ updated = data.apply now row ∧
      db' = { db with payments := db.payments.replace updated } := by
  unfold paymentUpdate at h
  rw [Tx.clock_bind, Tx.read_bind] at h
  cases found : db.payment id with
  | none =>
    simp only [found] at h
    cases h
  | some row =>
    by_cases same : row.version = version
    · simp only [found, same, ne_eq, not_true_eq_false, if_false] at h
      obtain ⟨_, db₁, checked, h⟩ := Tx.bind_ok h
      cases Tx.varchar_ok checked
      obtain ⟨_, db₂, checked', h⟩ := Tx.bind_ok h
      cases Tx.varchar_ok checked'
      obtain ⟨_, db₃, checked'', h⟩ := Tx.bind_ok h
      cases Tx.text_ok checked''
      cases h
      exact ⟨row, rfl, same, rfl, rfl⟩
    · simp only [found, ne_eq, same, not_false_eq_true, if_true] at h
      cases h

/-- An update that sets no text fails only because the version is gone. -/
theorem paymentUpdate_error {id : Uuid} {version : Nat} {data : PaymentUpdateInput} {e : JsError}
    (textless : data.Textless)
    (h : paymentUpdate id version data now db = .error e) :
    ∀ row, db.payment id = some row → row.version ≠ version := by
  intro row found same
  unfold paymentUpdate at h
  rw [Tx.clock_bind, Tx.read_bind] at h
  simp only [found, same, ne_eq, not_true_eq_false, if_false, textless.gatewayReference, textless.errorCode,
    textless.errorMessage] at h
  cases h

theorem paymentEventCreate_ok {event : PaymentEvent} {value : Unit}
    (h : paymentEventCreate event now db = .ok (value, db')) :
    (db.payment event.paymentId).isSome ∧ db' = { db with paymentEvents := db.paymentEvents ++ [event] } := by
  unfold paymentEventCreate at h
  rw [Tx.read_bind] at h
  obtain ⟨_, db₁, taken, h⟩ := Tx.bind_ok h
  cases (Tx.require_ok taken).2
  obtain ⟨_, db₂, checked, h⟩ := Tx.bind_ok h
  obtain ⟨present, rfl⟩ := Tx.require_ok checked
  cases h
  exact ⟨present, rfl⟩

theorem paymentEventCreate_takes {event : PaymentEvent} {value : Unit}
    (h : paymentEventCreate event now db = .ok (value, db')) : event.eventData.nullFree = true := by
  unfold paymentEventCreate at h
  rw [Tx.read_bind] at h
  obtain ⟨_, _, taken, _⟩ := Tx.bind_ok h
  exact (Tx.require_ok taken).1

theorem paymentEventCreate_error {event : PaymentEvent} {e : JsError} (takes : event.eventData.nullFree = true)
    (h : paymentEventCreate event now db = .error e) : db.payment event.paymentId = none := by
  unfold paymentEventCreate at h
  rw [Tx.read_bind] at h
  cases found : db.payment event.paymentId with
  | none => rfl
  | some row =>
    simp only [found, takes] at h
    cases h

theorem webhookEventCreate_ok {event : WebhookEvent} {value : Unit}
    (h : webhookEventCreate event now db = .ok (value, db')) :
    ∃ webhookEvents, db.webhookEvents.insert event.row = some webhookEvents ∧ db' = { db with webhookEvents } := by
  unfold webhookEventCreate at h
  rw [Tx.read_bind] at h
  obtain ⟨_, db₁, checked, h⟩ := Tx.bind_ok h
  cases Tx.varchar_ok checked
  obtain ⟨_, db₂, checked', h⟩ := Tx.bind_ok h
  cases Tx.varchar_ok checked'
  obtain ⟨_, db₃, read, h⟩ := Tx.bind_ok h
  cases Tx.jsonb_ok read
  obtain ⟨_, db₄, known, h⟩ := Tx.bind_ok h
  cases (Tx.require_ok known).2
  cases inserted : db.webhookEvents.insert event.row with
  | none =>
    simp only [inserted] at h
    cases h
  | some webhookEvents =>
    simp only [inserted] at h
    cases h
    exact ⟨webhookEvents, rfl, rfl⟩

/-- The payments, their events and the webhook events are untouched. -/
structure Db.SameLedger (db db' : Db) : Prop where
  payments : db'.payments = db.payments
  paymentEvents : db'.paymentEvents = db.paymentEvents
  webhookEvents : db'.webhookEvents = db.webhookEvents

theorem idempotencyKeyCreate_ok {row : IdempotencyKey} {value : Unit}
    (h : idempotencyKeyCreate row now db = .ok (value, db')) : db.SameLedger db' := by
  unfold idempotencyKeyCreate at h
  rw [Tx.read_bind] at h
  obtain ⟨_, db₁, checked, h⟩ := Tx.bind_ok h
  cases Tx.varchar_ok checked
  obtain ⟨_, db₂, checked', h⟩ := Tx.bind_ok h
  cases Tx.varchar_ok checked'
  cases inserted : db.idempotencyKeys.insert
    { row with key := cutText 255 row.key, requestPath := cutText 255 row.requestPath } with
  | none =>
    simp only [inserted] at h
    cases h
  | some idempotencyKeys =>
    simp only [inserted] at h
    cases h
    exact ⟨rfl, rfl, rfl⟩

theorem idempotencyKeyUpdateMany_ok {key : String} {code : Nat} {body : ResponseBody} {value : Unit}
    (h : idempotencyKeyUpdateMany key code body now db = .ok (value, db')) : db.SameLedger db' := by
  unfold idempotencyKeyUpdateMany at h
  rw [Tx.read_bind] at h
  cases found : db.idempotencyKeys.find key with
  | none =>
    simp only [found] at h
    cases h
    exact ⟨rfl, rfl, rfl⟩
  | some row =>
    simp only [found] at h
    cases h
    exact ⟨rfl, rfl, rfl⟩

/-- One transition of payment `p`: the row goes from `old` to `new`, the version grows by one, and
    the audit log gains `event`. -/
structure Transition (db db' : Db) (p : Uuid) (old new : Payment) (event : PaymentEvent) : Prop where
  found : db.payment p = some old
  payments : db'.payments = db.payments.replace new
  paymentEvents : db'.paymentEvents = db.paymentEvents ++ [event]
  paymentId : event.paymentId = p
  id : new.id = p
  status : new.status = event.toStatus
  version : new.version = old.version + 1
  retryCount : new.retryCount = old.retryCount + if event.toStatus = .retryScheduled then 1 else 0
  maxRetries : new.maxRetries = old.maxRetries
  idempotencyKey : new.idempotencyKey = old.idempotencyKey
  moves : event.fromStatus.isSome
  kind : event.eventType ≠ .gatewayResponse

theorem find_replaced {payments : Table Uuid Payment Payment.id} {old new : Payment} {p : Uuid}
    (found : payments.find p = some old) (id : new.id = p) (q : Uuid) :
    (payments.replace new).find q = if q = p then some new else payments.find q := by
  rw [Table.find_replace, id]
  by_cases same : q = p
  · subst same
    simp [found]
  · simp [same]

theorem Transition.payment {p : Uuid} {old new : Payment} {event : PaymentEvent}
    (moved : Transition db db' p old new event) (q : Uuid) :
    db'.payment q = if q = p then some new else db.payment q := by
  unfold Db.payment
  rw [moved.payments, find_replaced moved.found moved.id]

theorem Transition.extends {p : Uuid} {old new : Payment} {event : PaymentEvent}
    (moved : Transition db db' p old new event) : db.Extends db' := by
  intro q row found
  rw [moved.payment]
  by_cases same : q = p
  · subst same
    have := moved.found
    rw [found] at this
    cases this
    have version := moved.version
    refine ⟨new, by simp, ?_⟩
    exact {
      id := moved.id.trans (payment_id found).symm
      maxRetries := moved.maxRetries
      idempotencyKey := moved.idempotencyKey
      version := by omega
      status := by omega
      retryCount := by omega
      errorCode := by omega }
  · exact ⟨row, by simp [same, found], .refl row⟩

/-- What an update has to set to be one step of the state machine. -/
structure PaymentUpdateInput.Moves (data : PaymentUpdateInput) (toStatus : PaymentStatus) : Prop where
  status : data.status = some toStatus
  version : data.version = 1
  retryCount : data.retryCount = if toStatus = .retryScheduled then 1 else 0

theorem recordedUpdate_ok {id : Uuid} {version : Nat} {data : PaymentUpdateInput}
    {event : Payment → PaymentEvent} {updated : Payment}
    (h : recordedUpdate id version data event now db = .ok (updated, db')) :
    ∃ row, db.payment id = some row ∧ row.version = version ∧ updated = data.apply now row ∧
      db' = { db with
        payments := db.payments.replace updated
        paymentEvents := db.paymentEvents ++ [event updated] } := by
  unfold recordedUpdate at h
  obtain ⟨updated', db₁, ran, h⟩ := Tx.bind_ok h
  obtain ⟨row, found, same, applied, rfl⟩ := paymentUpdate_ok ran
  obtain ⟨_, db₂, logged, h⟩ := Tx.bind_ok h
  cases (paymentEventCreate_ok logged).2
  cases h
  exact ⟨row, found, same, applied, rfl⟩

theorem recordedUpdate_error {id : Uuid} {version : Nat} {data : PaymentUpdateInput}
    {event : Payment → PaymentEvent} {e : JsError} (h : recordedUpdate id version data event now db = .error e)
    (about : ∀ row, (event row).paymentId = id) (takes : ∀ row, (event row).eventData.nullFree = true)
    (textless : data.Textless) :
    ∀ row, db.payment id = some row → row.version ≠ version := by
  unfold recordedUpdate at h
  rcases Tx.bind_error h with failed | ⟨updated, db₁, ran, h⟩
  · exact paymentUpdate_error textless failed
  · obtain ⟨row, found, _, applied, rfl⟩ := paymentUpdate_ok ran
    exfalso
    rcases Tx.bind_error h with failed | ⟨_, _, _, h⟩
    · have absent := paymentEventCreate_error (takes updated) failed
      have id_eq : updated.id = id := by
        rw [applied]
        exact (payment_id found : row.id = id)
      rw [about, Db.payment, find_replaced found id_eq] at absent
      simp at absent
    · cases h

theorem recordedUpdate_transition {id : Uuid} {version : Nat} {data : PaymentUpdateInput}
    {event : Payment → PaymentEvent} {updated : Payment} {toStatus : PaymentStatus}
    (h : recordedUpdate id version data event now db = .ok (updated, db')) (sets : data.Moves toStatus)
    (about : ∀ row, (event row).paymentId = id) (target : ∀ row, (event row).toStatus = toStatus)
    (moves : ∀ row, (event row).fromStatus.isSome) (kind : ∀ row, (event row).eventType ≠ .gatewayResponse) :
    ∃ row, row.version = version ∧ Transition db db' id row updated (event updated) ∧
      db'.webhookEvents = db.webhookEvents := by
  obtain ⟨row, found, same, applied, rfl⟩ := recordedUpdate_ok h
  refine ⟨row, same, ?_, rfl⟩
  exact {
    found
    payments := rfl
    paymentEvents := rfl
    paymentId := about _
    id := by rw [applied]; exact (payment_id found : row.id = id)
    status := by rw [target, applied]; simp [PaymentUpdateInput.apply, sets.status]
    version := by rw [applied]; simp [PaymentUpdateInput.apply, sets.version]
    retryCount := by rw [target, applied]; simp [PaymentUpdateInput.apply, sets.retryCount]
    maxRetries := by rw [applied]; rfl
    idempotencyKey := by rw [applied]; rfl
    moves := moves _
    kind := kind _ }

end PaymentModel
