import PaymentSystem.Proof.Schemas
import PaymentSystem.Proof.WebhookCalls

namespace PaymentModel

open Async

/-- One webhook call: what it is given, what it meets and what it leaves. -/
structure Delivery where
  before : World
  payload : Json
  body : WebhookPayload
  signature : String
  choices : List Choice
  outcome : Except JsError WebhookResult
  after : World

namespace Delivery

variable (site : Deployment) (formats : Formats) (t : Nat)

/-- A well-formed payload, correctly signed, is delivered while its lock is free, and no call fails by itself. -/
structure Runs (delivery : Delivery) : Prop where
  wellFormed : webhookPayloadSchema formats delivery.payload = .ok delivery.body
  signed : verifyWebhookSignature site (Json.stringify none delivery.payload) delivery.signature = .ok true
  free : delivery.before.locks (paymentLockKey delivery.body.paymentId) = none
  quiet : ∀ choice ∈ delivery.choices, choice.fault = .none
  ran : (system site).execute t (processWebhook site delivery.payload delivery.signature) delivery.before
    delivery.choices = some (delivery.outcome, delivery.after)

/-- The call returns, and it adds one row to `webhook_events`. -/
def Acknowledged (delivery : Delivery) : Prop :=
  (∃ result, delivery.outcome = .ok result) ∧
    RecordsOne delivery.payload delivery.signature delivery.before.db delivery.after.db

/-- The id of the row of a duplicate, with the clock that the call reads. -/
def duplicateId (delivery : Delivery) : String :=
  delivery.body.eventId ++ "_dup_" ++ Nat.repr (choiceAt delivery.choices 1).now

/-- The payment exists and the columns take the texts; the event ids that are stored are new, also that of the
    row of a duplicate. -/
structure Admissible (delivery : Delivery) : Prop where
  nullFree : delivery.payload.nullFree = true
  payment : ∃ p row, Uuid.parse delivery.body.paymentId = some p ∧ delivery.before.payment p = some row
  new : delivery.before.db.webhookEvents.find delivery.body.eventId = none →
    FitsColumn 255 (some delivery.body.eventId) = true ∧
      delivery.before.db.webhookEvents.find (cutText 255 delivery.body.eventId) = none
  update : delivery.before.db.webhookEvents.find delivery.body.eventId = none →
    ∀ p row, Uuid.parse delivery.body.paymentId = some p → delivery.before.payment p = some row →
      row.status = .processing → FitsColumn 255 (some delivery.body.gatewayReference) = true ∧
        FitsColumn 64 (orNull delivery.body.errorCode) = true
  duplicate : delivery.before.db.webhookEvents.find delivery.body.eventId ≠ none →
    FitsColumn 255 (some delivery.duplicateId) = true ∧
      delivery.before.db.webhookEvents.find (cutText 255 delivery.duplicateId) = none

end Delivery

/-- Deliveries one after the other. -/
inductive Deliveries (site : Deployment) (formats : Formats) (t : Nat) : World → List Delivery → World → Prop
  | nil {w : World} : Deliveries site formats t w [] w
  | cons {delivery : Delivery} {rest : List Delivery} {w' : World} (runs : delivery.Runs site formats t)
    (later : Deliveries site formats t delivery.after rest w') :
    Deliveries site formats t delivery.before (delivery :: rest) w'

variable {site : Deployment} {formats : Formats} {t : Nat} {w w' : World} {delivery : Delivery}
  {deliveries : List Delivery} {payload : Json} {body : WebhookPayload} {signature : String}

theorem faultAt_quiet {choices : List Choice} (quiet : ∀ choice ∈ choices, choice.fault = .none) (n : Nat) :
    faultAt choices n = .none := by
  unfold faultAt choiceAt
  rw [List.getD_eq_getElem?_getD]
  cases found : choices[n]? with
  | none => rfl
  | some choice => exact quiet choice (List.mem_of_getElem? found)

theorem Json.nullFree_of_mem {fields : List (String × Json)} (free : Json.fieldsNullFree fields = true)
    {entry : String × Json} (member : entry ∈ fields) : entry.2.nullFree = true := by
  induction fields with
  | nil => cases member
  | cons first rest ih =>
    simp only [Json.fieldsNullFree, Bool.and_eq_true] at free
    rcases List.mem_cons.mp member with rfl | member
    · exact free.1.2
    · exact ih free.2 member

theorem Json.nullFree_field {member : String} {value : Json} (free : payload.nullFree = true)
    (field : payload.field member = some value) : value.nullFree = true := by
  cases payload with
  | object fields =>
    obtain ⟨entry, found, rfl⟩ := Option.map_eq_some_iff.mp field
    exact nullFree_of_mem (by simpa only [Json.nullFree] using free) (List.mem_of_find?_eq_some found)
  | null | bool _ | number _ | string _ | array _ => cases field

theorem Json.nullFree_text {member : String} {text : Option String} (free : payload.nullFree = true)
    (field : payload.field member = text.map Json.string) : text.all PaymentModel.nullFree = true := by
  cases text with
  | none => rfl
  | some text =>
    have plain := nullFree_field free field
    rwa [Json.nullFree] at plain

theorem optionalText_map (text : Option String) : optionalText (text.map Json.string) = .ok (text.map some) := by
  cases text <;> rfl

theorem truthy_map (text : Option String) : Json.truthy (text.map Json.string) = truthy text := by
  cases text <;> rfl

theorem webhookUpdate_read (at_ : Nat) (reads : body.Reads payload) :
    ∃ data, webhookUpdate payload (webhookTarget payload) at_ = .ok data ∧
      data.gatewayReference.getD none = some body.gatewayReference ∧
      data.errorCode.getD none = orNull body.errorCode ∧
      (data.errorMessage.getD none = body.errorMessage ∨ data.errorMessage.getD none = none) := by
  have reference : optionalText (some (.string body.gatewayReference)) = .ok (some (some body.gatewayReference)) := rfl
  unfold webhookUpdate
  rw [reads.gatewayReference, reads.errorCode, reads.errorMessage, reference, truthy_map, truthy_map,
    optionalText_map, optionalText_map]
  unfold orNull
  cases truthy body.errorCode with
  | false => exact ⟨_, rfl, rfl, rfl, .inr rfl⟩
  | true =>
    have written (text : Option String) : (text.map some).getD none = text := by cases text <;> rfl
    cases truthy body.errorMessage with
    | false => exact ⟨_, rfl, rfl, written _, .inr rfl⟩
    | true => exact ⟨_, rfl, rfl, written _, .inl (written _)⟩

/-- The columns take the texts that a well-formed body writes. -/
theorem webhookUpdate_fits {at_ : Nat} (reads : body.Reads payload) (free : payload.nullFree = true) :
    (∃ data, webhookUpdate payload (webhookTarget payload) at_ = .ok data ∧ data.Fits) ↔
      FitsColumn 255 (some body.gatewayReference) = true ∧ FitsColumn 64 (orNull body.errorCode) = true := by
  obtain ⟨data, built, reference, code, message⟩ := webhookUpdate_read at_ reads
  constructor
  · rintro ⟨data', built', fits⟩
    cases built.symm.trans built'
    exact ⟨reference ▸ fits.gatewayReference, code ▸ fits.errorCode⟩
  · rintro ⟨fits, fits'⟩
    refine ⟨data, built, by rwa [reference], by rwa [code], ?_⟩
    rcases message with message | message
    · rw [message]
      exact Json.nullFree_text free reads.errorMessage
    · rw [message]
      rfl

theorem namedPayment_iff {p : Uuid} (reads : body.Reads payload) :
    namedPayment payload = .ok p ↔ Uuid.parse body.paymentId = some p := by
  unfold namedPayment
  rw [reads.paymentId]
  dsimp only
  cases Uuid.parse body.paymentId <;> simp

/-- A call whose payload the database can read goes on to its write. -/
theorem Delivery.Runs.proceeds (runs : delivery.Runs site formats t) (admissible : delivery.Admissible) :
    ∃ path, Proceeds site delivery.before delivery.payload delivery.signature delivery.choices
      delivery.body.eventId path := by
  have reads := webhookPayloadSchema_ok runs.wellFormed
  have quiet := faultAt_quiet runs.quiet
  have plain : nullFree delivery.body.eventId = true := by
    simpa only [Json.nullFree] using Json.nullFree_field admissible.nullFree reads.eventId
  have checked : Checked site delivery.payload delivery.signature delivery.body.eventId delivery.choices :=
    ⟨runs.signed, reads.eventId, plain, quiet 0⟩
  obtain ⟨p, row, names, found⟩ := admissible.payment
  by_cases new : delivery.before.db.webhookEvents.find delivery.body.eventId = none
  · have enters : Enters delivery.before delivery.payload delivery.body.eventId p delivery.choices := by
      refine ⟨new, (namedPayment_iff reads).mpr names, ?_, quiet 2, quiet 3⟩
      rw [webhookLockKey, reads.paymentId]
      exact runs.free
    by_cases processing : row.status = .processing
    · exact ⟨_, .processed checked enters found processing⟩
    · refine ⟨_, .rejected checked enters fun other found' => ?_⟩
      cases found.symm.trans found'
      exact processing
  · exact ⟨_, .duplicate checked new⟩

theorem Delivery.Runs.can_iff (runs : delivery.Runs site formats t) {path : WebhookPath} (proceeds :
      Proceeds site delivery.before delivery.payload delivery.signature delivery.choices delivery.body.eventId path) :
    path.Can delivery.before.db delivery.payload delivery.signature delivery.body.eventId delivery.choices ↔
      delivery.Admissible := by
  have reads := webhookPayloadSchema_ok runs.wellFormed
  have signed := signature_fits runs.signed
  have payment (eventId : String)
      (recordable : Recordable delivery.before.db delivery.payload delivery.signature eventId) :
      ∃ p row, Uuid.parse delivery.body.paymentId = some p ∧ delivery.before.payment p = some row := by
    obtain ⟨p, row, names, found⟩ := recordable.payment
    exact ⟨p, row, (namedPayment_iff reads).mp names, found⟩
  have recordable (admissible : delivery.Admissible) {eventId : String} (id : FitsColumn 255 (some eventId) = true)
      (fresh : delivery.before.db.webhookEvents.find (cutText 255 eventId) = none) :
      Recordable delivery.before.db delivery.payload delivery.signature eventId := by
    obtain ⟨p, row, names, found⟩ := admissible.payment
    exact ⟨⟨p, row, (namedPayment_iff reads).mpr names, found⟩, id, signed, admissible.nullFree, fresh⟩
  cases proceeds with
  | duplicate _ seen =>
    constructor
    · intro can
      exact ⟨can.event.payload, payment _ can, fun new => (seen new).elim, fun new => (seen new).elim,
        fun _ => ⟨can.event.id, can.event.fresh⟩⟩
    · intro admissible
      obtain ⟨id, fresh⟩ := admissible.duplicate seen
      exact recordable admissible id fresh
  | rejected _ enters refuses =>
    constructor
    · intro can
      refine ⟨can.event.payload, payment _ can, fun _ => ⟨can.event.id, can.event.fresh⟩, ?_,
        fun seen => (seen enters.new).elim⟩
      intro _ p row names found is
      cases ((namedPayment_iff reads).mpr names).symm.trans enters.names
      exact (refuses row found is).elim
    · intro admissible
      obtain ⟨id, fresh⟩ := admissible.new enters.new
      exact recordable admissible id fresh
  | processed _ enters found processing =>
    have names := (namedPayment_iff reads).mp enters.names
    constructor
    · rintro ⟨update, id, _, free, fresh⟩
      exact ⟨free, ⟨_, _, names, found⟩, fun _ => ⟨id, fresh⟩,
        fun _ _ _ _ _ _ => (webhookUpdate_fits reads free).mp update, fun seen => (seen enters.new).elim⟩
    · rintro ⟨free, _, new, update, _⟩
      obtain ⟨id, fresh⟩ := new enters.new
      exact ⟨(webhookUpdate_fits reads free).mpr (update enters.new _ _ names found processing), id, signed, free,
        fresh⟩

/-- A call is acknowledged and recorded exactly when its rows can be written. -/
theorem Delivery.Runs.acknowledged_iff (runs : delivery.Runs site formats t) :
    delivery.Acknowledged ↔ delivery.Admissible := by
  have quiet := faultAt_quiet runs.quiet
  have acknowledged : ∀ outcome after, WebhookRun site delivery.before delivery.payload delivery.signature
      delivery.choices outcome after → ((∃ result, outcome = .ok result) ∧
        RecordsOne delivery.payload delivery.signature delivery.before.db after.db ↔ delivery.Admissible) := by
    intro outcome after run
    cases run with
    | stops refused =>
      constructor
      · rintro ⟨⟨_, is⟩, _⟩
        cases is
      · intro admissible
        obtain ⟨path, proceeds⟩ := runs.proceeds admissible
        exact (refused _ _ proceeds).elim
    | @writes _ eventId path _ proceeds written =>
      cases proceeds.checked.event.symm.trans (webhookPayloadSchema_ok runs.wellFormed).eventId
      have released : path.Released delivery.choices := by
        cases path with
        | duplicate => trivial
        | rejected => exact quiet 5
        | processed => exact quiet 6
      rw [written.answers, runs.can_iff proceeds]
      constructor
      · rintro ⟨⟨can, _⟩, _⟩
        exact can
      · intro can
        have unfailing : faultAt delivery.choices path.writeAt ≠ .before := by
          rw [quiet]
          decide
        exact ⟨⟨can, quiet _, released⟩, (written.takes ((runs.can_iff proceeds).mpr can) unfailing).one⟩
  exact acknowledged _ _ (solo_processWebhook.execute runs.ran)

/-- In every sequence of deliveries, the calls that are acknowledged and recorded are those whose rows can be
    written. -/
theorem deliveries_acknowledged_iff (delivered : Deliveries site formats t w deliveries w') :
    (∀ delivery ∈ deliveries, delivery.Acknowledged) ↔ ∀ delivery ∈ deliveries, delivery.Admissible := by
  induction delivered with
  | nil => simp
  | cons runs _ ih => rw [List.forall_mem_cons, List.forall_mem_cons, ih, runs.acknowledged_iff]

/-- When all calls are acknowledged, the table holds one row for each of them, in their order. -/
theorem deliveries_rows (delivered : Deliveries site formats t w deliveries w')
    (acknowledged : ∀ delivery ∈ deliveries, delivery.Acknowledged) : ∃ records : List WebhookEvent,
      records.map WebhookEvent.payload = deliveries.map Delivery.payload ∧
      w'.db.webhookEvents.rows = w.db.webhookEvents.rows ++ records := by
  induction delivered with
  | nil => exact ⟨[], rfl, (List.append_nil _).symm⟩
  | cons runs _ ih =>
    obtain ⟨⟨_, record, payload, _, added⟩, rest⟩ := List.forall_mem_cons.mp acknowledged
    obtain ⟨records, payloads, rows⟩ := ih rest
    refine ⟨record :: records, ?_, ?_⟩
    · rw [List.map_cons, List.map_cons, payload, payloads]
    · rw [rows, added, List.append_assoc, List.singleton_append]

def sampleSuccess : Json := sampleWebhook "success" none

def sampleSuccessBody : WebhookPayload where
  eventId := "evt_1"
  paymentId := sampleId '0'
  status := "success"
  gatewayReference := "gw_1"
  errorCode := none
  errorMessage := none
  timestamp := "2026-01-05T10:00:00.000Z"

theorem sampleSuccess_wellFormed : webhookPayloadSchema sampleFormats sampleSuccess = .ok sampleSuccessBody := rfl

/-- The call that delivers the sample payload. -/
def deliverSuccess (w : World) (choices : List Choice) : Option (Except JsError WebhookResult × World) :=
  (system sampleSite).execute 0 (processWebhook sampleSite sampleSuccess
    (generateWebhookSignature sampleSite (Json.stringify none sampleSuccess))) w choices

abbrev successDelivery (w : World) (choices : List Choice) (result : Except JsError WebhookResult × World) :
    Delivery where
  before := w
  payload := sampleSuccess
  body := sampleSuccessBody
  signature := generateWebhookSignature sampleSite (Json.stringify none sampleSuccess)
  choices
  outcome := result.1
  after := result.2

theorem successDelivery_runs {choices : List Choice} {result : Except JsError WebhookResult × World}
    (free : w.locks (paymentLockKey (sampleId '0')) = none) (quiet : ∀ choice ∈ choices, choice.fault = .none)
    (ran : deliverSuccess w choices = some result) :
    (successDelivery w choices result).Runs sampleSite sampleFormats 0 where
  wellFormed := sampleSuccess_wellFormed
  signed := verifyWebhookSignature_own _
  free := free
  quiet := quiet
  ran := ran

theorem deliveries_acknowledged_processed : ∃ delivery after,
    Deliveries sampleSite sampleFormats 0 processingWorld [delivery] after ∧
      ∀ call ∈ [delivery], call.Acknowledged := by
  have ends : (deliverSuccess processingWorld (quietChoices 'c' 5)).isSome = true := by decide +kernel
  obtain ⟨result, ran⟩ := Option.isSome_iff_exists.mp ends
  have runs := successDelivery_runs rfl (by simp [quietChoices]) ran
  have delivered : Deliveries sampleSite sampleFormats 0 processingWorld
      [successDelivery processingWorld (quietChoices 'c' 5) result] _ := .cons runs .nil
  refine ⟨_, _, delivered, (deliveries_acknowledged_iff delivered).mpr ?_⟩
  have free : sampleSuccess.nullFree = true := by decide
  have names : Uuid.parse sampleSuccessBody.paymentId = some (sampleId '0') := Uuid.parse_text _
  have event : FitsColumn 255 (some "evt_1") = true := by decide
  have reference : FitsColumn 255 (some "gw_1") = true := by decide
  rw [List.forall_mem_singleton]
  exact ⟨free, ⟨_, processingRow, names, rfl⟩, fun _ => ⟨event, rfl⟩, fun _ _ _ _ _ _ => ⟨reference, rfl⟩,
    fun seen => (seen rfl).elim⟩

/-- Nothing is recorded of a payment that does not exist, and two duplicates of one millisecond collide. -/
theorem deliveries_unacknowledged :
    (∃ delivery after, Deliveries sampleSite sampleFormats 0 {} [delivery] after ∧
      (∃ e, delivery.outcome = .error e) ∧ after.db.webhookEvents.rows = [] ∧ ¬delivery.Acknowledged) ∧
    ∃ first second third after, Deliveries sampleSite sampleFormats 0 processingWorld [first, second, third] after ∧
      (∃ e, third.outcome = .error e) ∧ ¬third.Acknowledged := by
  have unacknowledged {delivery : Delivery} {e : JsError} (threw : delivery.outcome = .error e) :
      ¬delivery.Acknowledged := by
    rintro ⟨⟨result, is⟩, _⟩
    rw [threw] at is
    cases is
  constructor
  · have ends : (deliverSuccess {} (quietChoices 'c' 4)).any (fun result =>
        !result.1.isOk && result.2.db.webhookEvents.rows.isEmpty) = true := by decide +kernel
    obtain ⟨⟨outcome, after⟩, ran, shown⟩ := (Option.any_eq_true _ _).mp ends
    obtain ⟨threw, empty⟩ := Bool.and_eq_true_iff.mp shown
    have runs := successDelivery_runs rfl (by simp [quietChoices]) ran
    cases outcome with
    | ok value => cases threw
    | error e => exact ⟨_, _, .cons runs .nil, ⟨e, rfl⟩, List.isEmpty_iff.mp empty, unacknowledged rfl⟩
  · have ends : ((deliverSuccess processingWorld (quietChoices 'c' 5)).bind fun first =>
        (deliverSuccess first.2 [{}, {}, {}]).bind fun second =>
          (deliverSuccess second.2 [{}, {}, {}]).map fun third => (first, second, third)).any (fun results =>
        results.1.2.locks (paymentLockKey (sampleId '0')) = none &&
          results.2.1.2.locks (paymentLockKey (sampleId '0')) = none && !results.2.2.1.isOk) = true := by
      decide +kernel
    obtain ⟨⟨first, second, outcome, after⟩, ran, shown⟩ := (Option.any_eq_true _ _).mp ends
    obtain ⟨free, threw⟩ := Bool.and_eq_true_iff.mp shown
    obtain ⟨free, free'⟩ := Bool.and_eq_true_iff.mp free
    obtain ⟨_, ran₁, ran⟩ := Option.bind_eq_some_iff.mp ran
    obtain ⟨_, ran₂, ran⟩ := Option.bind_eq_some_iff.mp ran
    obtain ⟨_, ran₃, is⟩ := Option.map_eq_some_iff.mp ran
    cases is
    have runs₁ := successDelivery_runs rfl (by simp [quietChoices]) ran₁
    have runs₂ := successDelivery_runs (of_decide_eq_true free) (by simp) ran₂
    have runs₃ := successDelivery_runs (of_decide_eq_true free') (by simp) ran₃
    cases outcome with
    | ok value => cases threw
    | error e => exact ⟨_, _, _, _, .cons runs₁ (.cons runs₂ (.cons runs₃ .nil)), ⟨e, rfl⟩, unacknowledged rfl⟩

end PaymentModel
