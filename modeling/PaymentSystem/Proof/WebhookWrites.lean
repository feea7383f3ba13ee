import PaymentSystem.Proof.Commits
import PaymentSystem.Proof.Writes

namespace PaymentModel

open Async

/-- The row of the event can be stored: its columns take the id, the signature and the payload, and the id that
    the column keeps is new. -/
structure EventStorable (db : Db) (payload : Json) (signature eventId : String) : Prop where
  id : FitsColumn 255 (some eventId) = true
  signed : FitsColumn 512 (some signature) = true
  payload : payload.nullFree = true
  fresh : db.webhookEvents.find (cutText 255 eventId) = none

/-- A webhook that can be stored: what it writes has the types of the columns, which take it, and so does its
    event. The reference that the payment has stored is not among the conditions. -/
structure Storable (db : Db) (payload : Json) (signature eventId : String) (now : Nat) : Prop where
  update : ∃ data, webhookUpdate payload (webhookTarget payload) now = .ok data ∧ data.Fits
  event : EventStorable db payload signature eventId

variable {db db' : Db} {p : Uuid} {signature eventId : String} {payload : Json} {old row updated : Payment}
  {now version : Nat} {data : PaymentUpdateInput} {status : WebhookEventStatus}

/-- The webhook of an accepted payload is the row with its status and its reference. -/
structure Settles (payload : Json) (old new : Payment) : Prop where
  status : new.status = webhookTarget payload
  version : new.version = old.version + 1
  gatewayReference : ∀ value reference, payload.field "gatewayReference" = some value →
    operand value = .string reference → new.gatewayReference = some (cutText 255 reference)

theorem webhookUpdate_settles (built : webhookUpdate payload (webhookTarget payload) version = .ok data) :
    Settles payload old (data.apply now old) := by
  have moves := webhookUpdate_moves webhookTarget_ne built
  refine ⟨by simp [PaymentUpdateInput.apply, moves.status], by simp [PaymentUpdateInput.apply, moves.version], ?_⟩
  intro value reference field text
  have read : optionalText (some value) = .ok (some (some reference)) := by simp only [optionalText, text]
  have set : data.gatewayReference = some (some reference) := by
    unfold webhookUpdate at built
    rw [field, read] at built
    simp only [bind, Except.bind, pure, Except.pure] at built
    repeat' split at built
    all_goals cases built
    all_goals rfl
  simp [PaymentUpdateInput.apply, set]

/-- The row of the event is stored by a single statement, and only then. -/
theorem webhookEventCreate_iff : (∃ db', webhookEventCreate { paymentId := p, eventId, payload, signature, status } now
    db = .ok ((), db')) ↔ (db.payment p).isSome = true ∧ EventStorable db payload signature eventId := by
  constructor
  · rintro ⟨db', ran⟩
    obtain ⟨fits, known, fresh⟩ := webhookEventCreate_fits ran
    exact ⟨known, fits.eventId, fits.signature, fits.payload, fresh⟩
  · rintro ⟨known, id, signed, free, fresh⟩
    exact webhookEventCreate_run now _ ⟨id, signed, free⟩ known fresh

/-- The write of a webhook succeeds exactly when the payment has the version that was read and the
    webhook can be stored. -/
theorem processWebhookInTx_iff {at_ : Nat} (names : namedPayment payload = .ok p) :
    (∃ updated db', processWebhookInTx p payload signature eventId row (webhookTarget payload) at_ now db =
      .ok (updated, db')) ↔
    (∃ current, db.payment p = some current ∧ current.version = row.version) ∧
      Storable db payload signature eventId at_ := by
  constructor
  · rintro ⟨updated, db', ran⟩
    obtain ⟨old, _, version, moved, _⟩ := processWebhookInTx_ok names ran
    refine ⟨⟨old, moved.found, version⟩, ?_⟩
    obtain ⟨data, db₁, built, recorded, reported⟩ := processWebhookInTx_ran.mp ran
    obtain ⟨_, _, _, _, rfl⟩ := recordedUpdate_ok recorded
    obtain ⟨_, _, put, _⟩ := Tx.bind_ok recorded
    simp only [createWebhookEvent, names] at reported
    obtain ⟨_, id, signed, free, fresh⟩ := webhookEventCreate_iff.mp ⟨_, reported⟩
    exact ⟨⟨data, built, paymentUpdate_fits put⟩, id, signed, free, fresh⟩
  · rintro ⟨⟨current, found, version⟩, ⟨data, built, fits⟩, id, signed, free, fresh⟩
    obtain ⟨db₁, ran, same, settled⟩ := recordedUpdate_run now (fun _ => webhookAudit p row payload eventId) found
      version fits (fun _ => rfl) fun _ => rfl
    obtain ⟨db₂, reported⟩ := webhookEventCreate_iff.mpr
      ⟨by rw [settled]; rfl, id, signed, free, by rw [same]; exact fresh⟩
    refine ⟨data.apply now current, db₂, processWebhookInTx_ran.mpr ⟨data, db₁, built, ran, ?_⟩⟩
    simp only [createWebhookEvent, names]
    exact reported

theorem processWebhookInTx_settles {at_ : Nat} (names : namedPayment payload = .ok p)
    (ran : processWebhookInTx p payload signature eventId row (webhookTarget payload) at_ now db =
      .ok (updated, db')) : ∃ current, db.payment p = some current ∧ current.version = row.version ∧
      db'.payment p = some updated ∧ Settles payload current updated := by
  obtain ⟨old, _, version, moved, _⟩ := processWebhookInTx_ok names ran
  refine ⟨old, moved.found, version, by rw [moved.payment, if_pos rfl], ?_⟩
  obtain ⟨data, db₁, built, recorded, _⟩ := processWebhookInTx_ran.mp ran
  obtain ⟨current, found, _, rfl, _⟩ := recordedUpdate_ok recorded
  cases moved.found.symm.trans found
  exact webhookUpdate_settles built

/-- What `webhookEvent.create` needs: a payment, and an event that can be stored. -/
structure Recordable (db : Db) (payload : Json) (signature eventId : String) : Prop where
  payment : ∃ p row, namedPayment payload = .ok p ∧ db.payment p = some row
  event : EventStorable db payload signature eventId

theorem createWebhookEvent_iff :
    (∃ value db', createWebhookEvent payload signature eventId status now db = .ok (value, db')) ↔
      Recordable db payload signature eventId := by
  constructor
  · rintro ⟨value, db', ran⟩
    obtain ⟨paymentId, names, _⟩ := createWebhookEvent_ok ran
    simp only [createWebhookEvent, names] at ran
    obtain ⟨known, event⟩ := webhookEventCreate_iff.mp ⟨_, ran⟩
    obtain ⟨row, found⟩ := Option.isSome_iff_exists.mp known
    exact ⟨⟨paymentId, row, names, found⟩, event⟩
  · rintro ⟨⟨paymentId, row, names, found⟩, event⟩
    obtain ⟨db', ran⟩ := webhookEventCreate_iff.mpr ⟨by rw [found]; rfl, event⟩
    refine ⟨(), db', ?_⟩
    simp only [createWebhookEvent, names]
    exact ran

/-- One row is added for the payload. -/
def RecordsOne (payload : Json) (signature : String) (db db' : Db) : Prop :=
  ∃ record : WebhookEvent, record.payload = payload ∧ record.signature = cutText 512 signature ∧
    db'.webhookEvents.rows = db.webhookEvents.rows ++ [record]

/-- One row is added, and no payment changes. -/
structure RecordsOnly (payload : Json) (signature : String) (db db' : Db) : Prop where
  one : RecordsOne payload signature db db'
  payments : db'.payments = db.payments

/-- One row is added, and the payment is settled. -/
structure RecordsSettlement (payload : Json) (signature : String) (db db' : Db) : Prop where
  one : RecordsOne payload signature db db'
  settles : ∃ p old new, namedPayment payload = .ok p ∧ db.payment p = some old ∧
    Settles payload old new ∧ ∀ q, db'.payment q = if q = p then some new else db.payment q

theorem createWebhookEvent_records {value : Unit}
    (ran : createWebhookEvent payload signature eventId status now db = .ok (value, db')) :
    RecordsOnly payload signature db db' := by
  obtain ⟨paymentId, _, webhookEvents, inserted, rfl⟩ := createWebhookEvent_ok ran
  exact ⟨⟨_, rfl, rfl, (Table.insert_some inserted).2⟩, rfl⟩

theorem processWebhookInTx_records {at_ : Nat} (names : namedPayment payload = .ok p)
    (ran : processWebhookInTx p payload signature eventId row (webhookTarget payload) at_ now db =
      .ok (updated, db')) : RecordsSettlement payload signature db db' := by
  obtain ⟨old, _, _, moved, _⟩ := processWebhookInTx_ok names ran
  obtain ⟨current, found, _, settled, settles⟩ := processWebhookInTx_settles names ran
  refine ⟨?_, p, current, updated, names, found, settles, moved.payment⟩
  obtain ⟨data, db₁, built, recorded, reported⟩ := processWebhookInTx_ran.mp ran
  obtain ⟨_, _, _, _, same⟩ := recordedUpdate_ok recorded
  obtain ⟨record, payload, signature, rows⟩ := (createWebhookEvent_records reported).one
  refine ⟨record, payload, signature, ?_⟩
  rw [rows, same]

end PaymentModel
