import PaymentSystem.Proof.Discipline
import PaymentSystem.Proof.Writes

namespace PaymentModel

open Async

variable {now version : Nat} {db db' : Db} {p : Uuid} {spelled : String} {old updated : Payment}
  {event : PaymentEvent}

/-- What a transition does to the webhook events: nothing, or it adds the one it reports on. -/
inductive Reports (db db' : Db) (p : Uuid) (event : PaymentEvent) : Prop
  | plain (kind : event.eventType ≠ .webhookReceived) (same : db'.webhookEvents = db.webhookEvents)
  | webhook {eventId : String} {gatewayReference timestamp : Option Json} {webhookEvent : WebhookEvent}
    (kind : event.eventType = .webhookReceived)
    (data : event.eventData = .webhook eventId gatewayReference timestamp)
    (paymentId : webhookEvent.paymentId = p) (eventId_eq : webhookEvent.eventId = cutText 255 eventId)
    (status : webhookEvent.status = .processed)
    (inserted : db.webhookEvents.insert webhookEvent = some db'.webhookEvents)

theorem transitionStateInTx_valid {fromStatus toStatus : PaymentStatus} {data : AdditionalData}
    (h : transitionStateInTx p fromStatus toStatus version data spelled now db = .ok (updated, db')) :
    isValidStateTransition fromStatus toStatus = true := by
  unfold transitionStateInTx at h
  by_cases valid : isValidStateTransition fromStatus toStatus = true
  · exact valid
  · simp only [valid] at h
    cases h

/-- The audit event of a transition. -/
abbrev transitionEvent (p : Uuid) (fromStatus toStatus : PaymentStatus) (data : AdditionalData)
    (updated : Payment) : PaymentEvent where
  paymentId := p
  fromStatus := some fromStatus
  toStatus
  eventType := .stateChange
  eventData := .transition data updated.version

/-- A valid transition is the guarded update with its audit event; only the error differs. -/
theorem transitionStateInTx_recorded {fromStatus toStatus : PaymentStatus}
    (valid : isValidStateTransition fromStatus toStatus = true) (p : Uuid) (version : Nat)
    (data : AdditionalData) (spelled : String) (now : Nat) (db : Db) :
    ∃ outcome, recordedUpdate p version (transitionUpdate toStatus data) (transitionEvent p fromStatus toStatus data)
        now db = outcome ∧
      match outcome with
      | .ok result => transitionStateInTx p fromStatus toStatus version data spelled now db = .ok result
      | .error _ => ∃ e, transitionStateInTx p fromStatus toStatus version data spelled now db = .error e := by
  refine ⟨_, rfl, ?_⟩
  unfold transitionStateInTx
  simp only [valid, if_true]
  generalize recordedUpdate p version (transitionUpdate toStatus data) _ = body
  cases ran : body now db with
  | ok result => exact Tx.tryCatch_ok ran
  | error e =>
    simp only [Tx.tryCatch_error ran]
    split <;> exact ⟨_, rfl⟩

theorem transitionStateInTx_ran {fromStatus toStatus : PaymentStatus} {data : AdditionalData}
    (h : transitionStateInTx p fromStatus toStatus version data spelled now db = .ok (updated, db')) :
    recordedUpdate p version (transitionUpdate toStatus data) (transitionEvent p fromStatus toStatus data) now db =
      .ok (updated, db') := by
  obtain ⟨outcome, ran, same⟩ := transitionStateInTx_recorded (transitionStateInTx_valid h) p version data
    spelled now db
  cases outcome with
  | error e =>
    obtain ⟨e', failed⟩ := same
    rw [h] at failed
    cases failed
  | ok result =>
    simp only [h] at same
    cases same
    exact ran

theorem transitionStateInTx_ok {fromStatus toStatus : PaymentStatus} {data : AdditionalData}
    (h : transitionStateInTx p fromStatus toStatus version data spelled now db = .ok (updated, db')) :
    ∃ old event, old.version = version ∧ Transition db db' p old updated event ∧
      event.Is fromStatus toStatus .stateChange ∧ Reports db db' p event := by
  obtain ⟨old, found, moved, webhookEvents⟩ := recordedUpdate_transition (transitionStateInTx_ran h) ⟨rfl, rfl, rfl⟩
    (fun _ => rfl) (fun _ => rfl) (fun _ => rfl) (fun _ => by simp)
  exact ⟨old, _, found, moved, ⟨rfl, rfl, rfl⟩, .plain (by simp) webhookEvents⟩

theorem transitionStateInTx_errorCode {fromStatus toStatus : PaymentStatus} {data : AdditionalData}
    (h : transitionStateInTx p fromStatus toStatus version data spelled now db = .ok (updated, db')) :
    ∃ old, db.payment p = some old ∧ updated.errorCode =
      (data.errorCode.map fun text => text.map (cutText 64)).getD old.errorCode := by
  obtain ⟨old, found, _, applied, _⟩ := recordedUpdate_ok (transitionStateInTx_ran h)
  exact ⟨old, found, by rw [applied]; rfl⟩

/-- A transition without additional data fails only because the version is gone. -/
theorem transitionStateInTx_error {fromStatus toStatus : PaymentStatus} {e : JsError}
    (valid : isValidStateTransition fromStatus toStatus = true)
    (h : transitionStateInTx p fromStatus toStatus version {} spelled now db = .error e) :
    ∀ row, db.payment p = some row → row.version ≠ version := by
  obtain ⟨outcome, ran, same⟩ := transitionStateInTx_recorded valid p version {} spelled now db
  cases outcome with
  | ok result =>
    simp only [h] at same
    cases same
  | error e' => exact recordedUpdate_error ran (fun _ => rfl) (fun _ => rfl) ⟨rfl, rfl, rfl⟩

theorem permanentlyFailInTx_ok {row : Payment}
    (h : permanentlyFailInTx p row now db = .ok (updated, db')) :
    ∃ old event, old.version = row.version ∧ Transition db db' p old updated event ∧
      event.Is .failed .permanentlyFailed .stateChange ∧ Reports db db' p event := by
  obtain ⟨old, found, moved, webhookEvents⟩ := recordedUpdate_transition h ⟨rfl, rfl, rfl⟩
    (fun _ => rfl) (fun _ => rfl) (fun _ => rfl) (fun _ => by simp)
  exact ⟨old, _, found, moved, ⟨rfl, rfl, rfl⟩, .plain (by simp) webhookEvents⟩

theorem scheduleRetryInTx_ok {attempt : Nat} {delayMs nextRetryAt : Int}
    (h : scheduleRetryInTx p version attempt delayMs nextRetryAt now db = .ok (updated, db')) :
    ∃ old event, old.version = version ∧ Transition db db' p old updated event ∧
      event.Is .failed .retryScheduled .retryScheduled ∧
      event.eventData = .retry (attempt + 1) delayMs nextRetryAt ∧ Reports db db' p event := by
  obtain ⟨old, found, moved, webhookEvents⟩ := recordedUpdate_transition h ⟨rfl, rfl, rfl⟩
    (fun _ => rfl) (fun _ => rfl) (fun _ => rfl) (fun _ => by simp)
  exact ⟨old, _, found, moved, ⟨rfl, rfl, rfl⟩, rfl, .plain (by simp) webhookEvents⟩

theorem executeRetryInTx_ok (h : executeRetryInTx p version now db = .ok (updated, db')) :
    ∃ old event, old.version = version ∧ Transition db db' p old updated event ∧
      event.Is .retryScheduled .pending .stateChange ∧ Reports db db' p event := by
  obtain ⟨old, found, moved, webhookEvents⟩ := recordedUpdate_transition h ⟨rfl, rfl, rfl⟩
    (fun _ => rfl) (fun _ => rfl) (fun _ => rfl) (fun _ => by simp)
  exact ⟨old, _, found, moved, ⟨rfl, rfl, rfl⟩, .plain (by simp) webhookEvents⟩

theorem executeRetryInTx_error {e : JsError} (h : executeRetryInTx p version now db = .error e) :
    ∀ row, db.payment p = some row → row.version ≠ version :=
  recordedUpdate_error h (fun _ => rfl) (fun _ => rfl) ⟨rfl, rfl, rfl⟩

theorem webhookUpdate_moves {payload : Json} {toStatus : PaymentStatus} {at_ : Nat} {data : PaymentUpdateInput}
    (target : toStatus ≠ .retryScheduled) (h : webhookUpdate payload toStatus at_ = .ok data) :
    data.Moves toStatus := by
  unfold webhookUpdate at h
  simp only [bind, Except.bind, pure, Except.pure] at h
  repeat' split at h
  all_goals cases h
  all_goals exact ⟨rfl, rfl, by simp [target]⟩

theorem webhookTarget_ne {payload : Json} : webhookTarget payload ≠ .retryScheduled := by
  unfold webhookTarget
  split <;> simp

theorem createWebhookEvent_ok {payload : Json} {signature eventId : String} {status : WebhookEventStatus}
    {value : Unit} (h : createWebhookEvent payload signature eventId status now db = .ok (value, db')) :
    ∃ paymentId, namedPayment payload = .ok paymentId ∧ ∃ webhookEvents,
      db.webhookEvents.insert (WebhookEvent.row { paymentId, eventId, payload, signature, status }) =
        some webhookEvents ∧ db' = { db with webhookEvents } := by
  unfold createWebhookEvent at h
  cases names : namedPayment payload with
  | error e =>
    simp only [names] at h
    cases h
  | ok paymentId =>
    simp only [names] at h
    exact ⟨paymentId, rfl, webhookEventCreate_ok h⟩

/-- The audit event of a webhook that is processed. -/
abbrev webhookAudit (p : Uuid) (row : Payment) (payload : Json) (eventId : String) : PaymentEvent where
  paymentId := p
  fromStatus := some row.status
  toStatus := webhookTarget payload
  eventType := .webhookReceived
  eventData := .webhook eventId (payload.field "gatewayReference") (payload.field "timestamp")

/-- The write of a webhook is the guarded update with its audit event, and the webhook event. -/
theorem processWebhookInTx_ran {payload : Json} {signature eventId : String} {row : Payment} {at_ : Nat} :
    processWebhookInTx p payload signature eventId row (webhookTarget payload) at_ now db = .ok (updated, db') ↔
      ∃ data db₁, webhookUpdate payload (webhookTarget payload) at_ = .ok data ∧
        recordedUpdate p row.version data (fun _ => webhookAudit p row payload eventId) now db = .ok (updated, db₁) ∧
        createWebhookEvent payload signature eventId .processed now db₁ = .ok ((), db') := by
  unfold processWebhookInTx
  cases built : webhookUpdate payload (webhookTarget payload) at_ with
  | error e =>
    constructor
    · intro h
      cases h
    · rintro ⟨_, _, is, _⟩
      cases is
  | ok data =>
    constructor
    · intro h
      obtain ⟨_, db₁, ran, h⟩ := Tx.bind_ok h
      obtain ⟨_, db₂, reported, h⟩ := Tx.bind_ok h
      cases h
      exact ⟨data, db₁, rfl, ran, reported⟩
    · rintro ⟨_, db₁, is, ran, reported⟩
      cases is
      dsimp only
      rw [Tx.bind_run ran, Tx.bind_run reported]
      rfl

theorem processWebhookInTx_ok {payload : Json} {signature eventId : String} {row : Payment} {at_ : Nat}
    (names : namedPayment payload = .ok p)
    (h : processWebhookInTx p payload signature eventId row (webhookTarget payload) at_ now db =
      .ok (updated, db')) :
    ∃ old event, old.version = row.version ∧ Transition db db' p old updated event ∧
      event.Is row.status (webhookTarget payload) .webhookReceived ∧
      event.eventData = .webhook eventId (payload.field "gatewayReference") (payload.field "timestamp") ∧
      Reports db db' p event := by
  obtain ⟨data, db₁, built, ran, reported⟩ := processWebhookInTx_ran.mp h
  obtain ⟨old, same, moved, webhookEvents⟩ := recordedUpdate_transition ran
    (webhookUpdate_moves webhookTarget_ne built) (fun _ => rfl) (fun _ => rfl) (fun _ => rfl) (fun _ => by simp)
  obtain ⟨paymentId, names', inserted_events, inserted, rfl⟩ := createWebhookEvent_ok reported
  rw [names] at names'
  cases names'
  rw [webhookEvents] at inserted
  refine ⟨old, _, same, { moved with }, ?_, rfl, ?_⟩
  · exact ⟨rfl, rfl, rfl⟩
  · exact .webhook rfl rfl rfl rfl rfl inserted

theorem Transition.seen (moved : Transition db db' p old updated event) : Seen db' p updated :=
  .of_payment (by simp [moved.payment])

theorem Transition.added {w : World} {row : Option Payment} (moved : Transition w.db db' p old updated event) :
    (w.added row db').paymentEvents = [event] := by
  simp [World.added, moved.paymentEvents]

theorem Reports.added {w : World} {row : Option Payment} (reports : Reports w.db db' p event)
    (kind : event.eventType ≠ .webhookReceived) : (w.added row db').webhookEvents = [] := by
  cases reports with
  | plain _ same => simp [World.added, same]
  | webhook kind' => exact (kind kind').elim

theorem Reports.reported {w : World} {row : Option Payment} (reports : Reports w.db db' p event)
    (kind : event.eventType = .webhookReceived) : (w.added row db').webhookEvents ≠ [] := by
  cases reports with
  | plain kind' _ => exact (kind' kind).elim
  | webhook _ _ _ _ _ inserted => simp [World.added, (Table.insert_some inserted).2]

/-- The commit of `createPayment`: a new payment, in `PENDING` after two events. -/
structure Creation (db db' : Db) (id : Uuid) (key : Option String) (limit : Nat) (row : Payment)
    (created moved : PaymentEvent) : Prop where
  absent : db.payment id = none
  payment : ∀ q, db'.payment q = if q = id then some row else db.payment q
  paymentEvents : db'.paymentEvents = db.paymentEvents ++ [created, moved]
  webhookEvents : db'.webhookEvents = db.webhookEvents
  createdId : created.paymentId = id
  createdFrom : created.fromStatus = none
  createdKind : created.eventType = .stateChange
  movedId : moved.paymentId = id
  move : moved.Is .created .pending .stateChange
  rowId : row.id = id
  status : row.status = .pending
  version : row.version = 2
  retryCount : row.retryCount = 0
  maxRetries : row.maxRetries = limit
  idempotencyKey : row.idempotencyKey = key

/-- What the insert of a payment has checked, and the row it has put into the table. -/
theorem paymentCreate_ok {data : PaymentCreateInput} {created : Payment}
    (h : paymentCreate data now db = .ok (created, db')) :
    ∃ amount payments, data.Fits ∧ decimal12_2 data.amount = some amount ∧ created = data.row amount now ∧
      (created.idempotencyKey.isNone ||
        db.payments.rows.all fun other => other.idempotencyKey ≠ created.idempotencyKey) = true ∧
      db.payments.insert created = some payments ∧ db' = { db with payments } := by
  unfold paymentCreate at h
  rw [Tx.clock_bind, Tx.read_bind] at h
  obtain ⟨_, db₁, currency, h⟩ := Tx.bind_ok h
  cases Tx.varchar_ok currency
  obtain ⟨_, db₂, merchantId, h⟩ := Tx.bind_ok h
  cases Tx.varchar_ok merchantId
  obtain ⟨_, db₃, customerEmail, h⟩ := Tx.bind_ok h
  cases Tx.varchar_ok customerEmail
  obtain ⟨_, db₄, described, h⟩ := Tx.bind_ok h
  have description := (Tx.require_ok described).1
  cases (Tx.require_ok described).2
  obtain ⟨_, db₅, idempotencyKey, h⟩ := Tx.bind_ok h
  cases Tx.varchar_ok idempotencyKey
  obtain ⟨_, db₆, annotated, h⟩ := Tx.bind_ok h
  have metadata := (Tx.require_ok annotated).1
  cases (Tx.require_ok annotated).2
  have fits : data.Fits := ⟨Tx.varchar_fits currency, Tx.varchar_fits merchantId, Tx.varchar_fits customerEmail,
    description, Tx.varchar_fits idempotencyKey, metadata⟩
  cases stored : decimal12_2 data.amount with
  | none =>
    simp only [stored] at h
    cases h
  | some amount =>
    simp only [stored] at h
    obtain ⟨_, db₇, checked, h⟩ := Tx.bind_ok h
    have unique := (Tx.require_ok checked).1
    cases (Tx.require_ok checked).2
    cases inserted : db.payments.insert (data.row amount now) with
    | none =>
      simp only [inserted] at h
      cases h
    | some payments =>
      simp only [inserted] at h
      cases h
      exact ⟨amount, payments, fits, rfl, rfl, unique, inserted, rfl⟩

theorem orNull_eq_some {text : Option String} {value : String} (h : orNull text = some value) :
    text = some value := by
  unfold orNull at h
  split at h
  · exact h
  · cases h

theorem headerValue_last {key : Option String} {text : String} (trimmed : key.all isHeaderValue = true)
    (sent : key = some text) : text.toList.getLast? ≠ some ' ' :=
  of_decide_eq_true ((Option.all_eq_true _ _).mp trimmed text sent)

/-- The key of a request is stored as it was sent. -/
theorem cutKey_eq {key : Option String} (trimmed : key.all isHeaderValue = true)
    (fits : FitsColumn 255 (orNull key) = true) : (orNull key).map (cutText 255) = orNull key := by
  cases stored : orNull key with
  | none => rfl
  | some text =>
    rw [stored] at fits
    exact congrArg some (cutText_eq (FitsColumn.short fits (headerValue_last trimmed (orNull_eq_some stored))))

/-- The first audit event of a payment. -/
abbrev creationEvent (id : Uuid) (data : CreatePaymentRequest) : PaymentEvent where
  paymentId := id
  fromStatus := none
  toStatus := .created
  eventType := .stateChange
  eventData := .created data.amount data.currency data.merchantId

theorem createPaymentInTx_creates {site : Deployment} {id : Uuid} {data : CreatePaymentRequest}
    {key : Option String} (h : createPaymentInTx site id data key now db = .ok (updated, db')) :
    (createPaymentData site id data key).Fits ∧ ∃ created moved,
      Creation db db' id ((orNull key).map (cutText 255)) site.maxRetries updated created moved := by
  unfold createPaymentInTx at h
  obtain ⟨row, db₁, ran, h⟩ := Tx.bind_ok h
  obtain ⟨amount, payments, fits, _, rfl, _, inserted, rfl⟩ := paymentCreate_ok ran
  obtain ⟨_, db₂, logged, h⟩ := Tx.bind_ok h
  cases (paymentEventCreate_ok logged).2
  obtain ⟨old, event, version, moved, is, reports⟩ := transitionStateInTx_ok h
  obtain ⟨absent, _⟩ := Table.insert_some inserted
  have found := moved.found
  unfold Db.payment at found
  rw [Table.find_insert inserted] at found
  simp only [if_true] at found
  cases found
  refine ⟨fits, creationEvent id data, event, ?_⟩
  exact {
    absent
    payment := by
      intro q
      rw [moved.payment]
      unfold Db.payment
      rw [Table.find_insert inserted]
      by_cases same : q = id
      · simp [PaymentCreateInput.row, createPaymentData, same]
      · simp [PaymentCreateInput.row, createPaymentData, same]
    paymentEvents := by
      rw [moved.paymentEvents]
      exact List.append_assoc ..
    webhookEvents := by
      cases reports with
      | plain _ same => exact same
      | webhook kind => rw [is.eventType] at kind; cases kind
    createdId := rfl
    createdFrom := rfl
    createdKind := rfl
    movedId := moved.paymentId
    move := is
    rowId := moved.id
    status := moved.status.trans is.toStatus
    version := moved.version
    retryCount := by rw [moved.retryCount, is.toStatus]; rfl
    maxRetries := moved.maxRetries
    idempotencyKey := moved.idempotencyKey }

theorem createPaymentInTx_ok {site : Deployment} {id : Uuid} {data : CreatePaymentRequest}
    {key : Option String} (trimmed : key.all isHeaderValue = true)
    (h : createPaymentInTx site id data key now db = .ok (updated, db')) :
    ∃ created moved, Creation db db' id (orNull key) site.maxRetries updated created moved := by
  obtain ⟨fits, creation⟩ := createPaymentInTx_creates h
  rw [← cutKey_eq trimmed fits.idempotencyKey]
  exact creation

theorem Creation.added {w : World} {id : Uuid} {key : Option String} {limit : Nat} {row : Payment}
    {returned : Option Payment} {created moved : PaymentEvent}
    (creation : Creation w.db db' id key limit row created moved) :
    (w.added returned db').paymentEvents = [created, moved] := by
  simp [World.added, creation.paymentEvents]

theorem Creation.extends {id : Uuid} {key : Option String} {limit : Nat} {row : Payment}
    {created moved : PaymentEvent} (creation : Creation db db' id key limit row created moved) :
    db.Extends db' := by
  intro q old found
  rw [creation.payment]
  by_cases same : q = id
  · subst same
    rw [creation.absent] at found
    cases found
  · exact ⟨old, by simp [same, found], .refl old⟩

end PaymentModel
