import PaymentSystem.Proof.Transactions

namespace PaymentModel

open Async

/-- `VARCHAR(limit)` takes the text. -/
def FitsColumn (limit : Nat) (text : Option String) : Bool :=
  text.all fun text => nullFree text && fitsVarchar limit text

/-- The columns take what an update writes. -/
structure PaymentUpdateInput.Fits (data : PaymentUpdateInput) : Prop where
  gatewayReference : FitsColumn 255 (data.gatewayReference.getD none) = true
  errorCode : FitsColumn 64 (data.errorCode.getD none) = true
  errorMessage : (data.errorMessage.getD none).all nullFree = true

/-- The columns take a new payment. -/
structure PaymentCreateInput.Fits (data : PaymentCreateInput) : Prop where
  currency : FitsColumn 3 (some data.currency) = true
  merchantId : FitsColumn 64 (some data.merchantId) = true
  customerEmail : FitsColumn 255 (some data.customerEmail) = true
  description : data.description.all nullFree = true
  idempotencyKey : FitsColumn 255 data.idempotencyKey = true
  metadata : data.metadata.all Json.nullFree = true

/-- The columns take a webhook event. -/
structure WebhookEvent.Fits (event : WebhookEvent) : Prop where
  eventId : FitsColumn 255 (some event.eventId) = true
  signature : FitsColumn 512 (some event.signature) = true
  payload : event.payload.nullFree = true

variable {db db' : Db} {p : Uuid} {row updated : Payment} {event : PaymentEvent} {now version : Nat}
  {data : PaymentUpdateInput}

theorem cutText_eq {limit : Nat} {text : String} (short : text.length ≤ limit) : cutText limit text = text := by
  rw [← String.length_toList] at short
  rw [cutText, List.take_of_length_le short, String.ofList_toList]

theorem cutText_map_iff {limit : Nat} {text : Option String} :
    text.map (cutText limit) = text ↔ ∀ value ∈ text, value.length ≤ limit := by
  cases text with
  | none => simp
  | some value =>
    constructor
    · rintro same _ ⟨⟩
      have length := congrArg String.length (Option.some.inj same)
      rw [cutText, String.length_ofList, List.length_take] at length
      omega
    · exact fun short => congrArg some (cutText_eq (short value rfl))

theorem FitsColumn.of_short {limit : Nat} {text : String} (free : nullFree text = true)
    (short : text.length ≤ limit) : FitsColumn limit (some text) = true := by
  rw [← String.length_toList] at short
  simp [FitsColumn, free, fitsVarchar, List.drop_of_length_le short]

theorem verifyWebhookSignature_same {site : Deployment} {text signature : String}
    (signed : verifyWebhookSignature site text signature = .ok true) :
    signature = generateWebhookSignature site text := by
  unfold verifyWebhookSignature at signed
  dsimp only at signed
  split at signed
  · cases signed
  · split at signed
    · cases signed
    · exact (of_decide_eq_true (Except.ok.inj signed)).symm

theorem null_not_hexDigit : Char.ofNat 0 ∉ hexDigits := by decide

/-- An accepted signature has 71 plain characters. -/
theorem signature_short {site : Deployment} {text signature : String}
    (signed : verifyWebhookSignature site text signature = .ok true) :
    nullFree signature = true ∧ signature.length = 71 := by
  rw [verifyWebhookSignature_same signed, generateWebhookSignature]
  obtain ⟨length, digits⟩ := (Bool.and_eq_true _ _).mp (site.hmacSha256_hex site.webhookSecret text)
  constructor
  · have free : Char.ofNat 0 ∉ (site.hmacSha256 site.webhookSecret text).toList :=
      fun member => null_not_hexDigit (of_decide_eq_true (List.all_eq_true.mp digits _ member))
    simp [nullFree, String.toList_append, free]
  · rw [String.length_append, of_decide_eq_true length]
    rfl

theorem signature_fits {site : Deployment} {text signature : String}
    (signed : verifyWebhookSignature site text signature = .ok true) : FitsColumn 512 (some signature) = true := by
  obtain ⟨free, length⟩ := signature_short signed
  exact FitsColumn.of_short free (by omega)

theorem cutText_signature {site : Deployment} {text signature : String}
    (signed : verifyWebhookSignature site text signature = .ok true) : cutText 512 signature = signature :=
  cutText_eq (by have := (signature_short signed).2; omega)

/-- A cut text is none of the shorter ones, unless it was one before. -/
theorem cutText_mem {limit : Nat} {text : String} {texts : List String} (short : ∀ code ∈ texts, code.length < limit) :
    cutText limit text ∈ texts ↔ text ∈ texts := by
  by_cases fits : text.length ≤ limit
  · rw [cutText_eq fits]
  · constructor
    · intro member
      have shorter := short _ member
      rw [cutText, String.length_ofList, List.length_take, String.length_toList] at shorter
      omega
    · intro member
      exact absurd (short _ member) (by omega)

/-- A text without a space at its end is kept whole or refused. -/
theorem FitsColumn.short {limit : Nat} {text : String} (fits : FitsColumn limit (some text) = true)
    (trimmed : text.toList.getLast? ≠ some ' ') : text.length ≤ limit := by
  refine by_contra fun long => trimmed ?_
  rw [← String.length_toList] at long
  have spaces : ∀ c ∈ text.toList.drop limit, c = ' ' := by
    have kept := ((Bool.and_eq_true _ _).mp (show (nullFree text && fitsVarchar limit text) = true from fits)).2
    simpa [fitsVarchar] using kept
  have last : (text.toList.drop limit).getLast? = text.toList.getLast? := by rw [List.getLast?_drop, if_neg long]
  rw [← last]
  have rest : text.toList.drop limit ≠ [] := by simpa using long
  rw [List.getLast?_eq_some_getLast rest, spaces _ (List.getLast_mem rest)]

theorem Tx.require_run {condition : Bool} {e : JsError} (holds : condition = true) :
    Tx.require condition e now db = .ok ((), db) := by
  subst holds
  rfl

theorem Tx.text_run {text : Option String} (free : text.all nullFree = true) :
    Tx.text text now db = .ok ((), db) := Tx.require_run free

theorem Tx.jsonb_run {json : Option Json} (free : json.all Json.nullFree = true) :
    Tx.jsonb json now db = .ok ((), db) := Tx.require_run free

theorem Tx.varchar_run {limit : Nat} {text : Option String} (fits : FitsColumn limit text = true) :
    Tx.varchar limit text now db = .ok ((), db) := by
  cases text with
  | none => rfl
  | some text =>
    obtain ⟨free, cut⟩ := (Bool.and_eq_true _ _).mp (show (nullFree text && fitsVarchar limit text) = true from fits)
    rw [Tx.varchar, Tx.bind_run (Tx.text_run (show (some text).all nullFree = true from free))]
    exact Tx.require_run cut

theorem Tx.varchar_fits {limit : Nat} {text : Option String} {value : Unit}
    (ran : Tx.varchar limit text now db = .ok (value, db')) : FitsColumn limit text = true := by
  obtain ⟨_, db₁, read, ran⟩ := Tx.bind_ok ran
  have free := (Tx.require_ok read).1
  have cut := (Tx.require_ok ran).1
  cases text with
  | none => rfl
  | some text => exact (Bool.and_eq_true _ _).mpr ⟨free, cut⟩

theorem paymentUpdate_run (found : db.payment p = some row) (same : row.version = version) (fits : data.Fits) :
    paymentUpdate p version data now db =
      .ok (data.apply now row, { db with payments := db.payments.replace (data.apply now row) }) := by
  unfold paymentUpdate
  rw [Tx.clock_bind, Tx.read_bind]
  simp only [found, same, ne_eq, not_true_eq_false, if_false]
  rw [Tx.bind_run (Tx.varchar_run fits.gatewayReference), Tx.bind_run (Tx.varchar_run fits.errorCode),
    Tx.bind_run (Tx.text_run fits.errorMessage)]
  rfl

theorem paymentEventCreate_run (known : (db.payment event.paymentId).isSome = true)
    (takes : event.eventData.nullFree = true) :
    paymentEventCreate event now db = .ok ((), { db with paymentEvents := db.paymentEvents ++ [event] }) := by
  unfold paymentEventCreate
  rw [Tx.read_bind, Tx.bind_run (Tx.require_run takes), Tx.bind_run (Tx.require_run known)]
  rfl

theorem recordedUpdate_run (now : Nat) (build : Payment → PaymentEvent) (found : db.payment p = some row)
    (same : row.version = version) (fits : data.Fits) (about : ∀ row, (build row).paymentId = p)
    (takes : ∀ row, (build row).eventData.nullFree = true) :
    ∃ db', recordedUpdate p version data build now db = .ok (data.apply now row, db') ∧
      db'.webhookEvents = db.webhookEvents ∧ db'.payment p = some (data.apply now row) := by
  have id : (data.apply now row).id = p := (payment_id found : row.id = p)
  have present : Table.find (db.payments.replace (data.apply now row)) p = some (data.apply now row) := by
    rw [find_replaced found id, if_pos rfl]
  refine ⟨{ db with
    payments := db.payments.replace (data.apply now row)
    paymentEvents := db.paymentEvents ++ [build (data.apply now row)] }, ?_, rfl, present⟩
  unfold recordedUpdate
  rw [Tx.bind_run (paymentUpdate_run found same fits)]
  rw [Tx.bind_run (paymentEventCreate_run (by rw [about, Db.payment, present]; rfl) (takes _))]
  rfl

theorem webhookEventCreate_run (now : Nat) (webhookEvent : WebhookEvent) (fits : webhookEvent.Fits)
    (known : (db.payment webhookEvent.paymentId).isSome = true)
    (fresh : db.webhookEvents.find webhookEvent.row.eventId = none) :
    ∃ db', webhookEventCreate webhookEvent now db = .ok ((), db') := by
  obtain ⟨webhookEvents, inserted⟩ : ∃ webhookEvents, db.webhookEvents.insert webhookEvent.row = some webhookEvents :=
    Table.insert_absent fresh
  unfold webhookEventCreate
  rw [Tx.read_bind, Tx.bind_run (Tx.varchar_run fits.eventId), Tx.bind_run (Tx.varchar_run fits.signature),
    Tx.bind_run (Tx.jsonb_run (show (some webhookEvent.payload).all Json.nullFree = true from fits.payload)),
    Tx.bind_run (Tx.require_run known)]
  simp only [inserted]
  exact ⟨_, rfl⟩

theorem webhookEventCreate_fits {webhookEvent : WebhookEvent} {value : Unit}
    (ran : webhookEventCreate webhookEvent now db = .ok (value, db')) :
    webhookEvent.Fits ∧ (db.payment webhookEvent.paymentId).isSome = true ∧
      db.webhookEvents.find webhookEvent.row.eventId = none := by
  obtain ⟨webhookEvents, inserted, _⟩ := webhookEventCreate_ok ran
  unfold webhookEventCreate at ran
  rw [Tx.read_bind] at ran
  obtain ⟨_, db₁, id, ran⟩ := Tx.bind_ok ran
  cases Tx.varchar_ok id
  obtain ⟨_, db₂, signed, ran⟩ := Tx.bind_ok ran
  cases Tx.varchar_ok signed
  obtain ⟨_, db₃, stored, ran⟩ := Tx.bind_ok ran
  obtain ⟨payload, rfl⟩ := Tx.require_ok stored
  obtain ⟨_, db₄, known, _⟩ := Tx.bind_ok ran
  exact ⟨⟨Tx.varchar_fits id, Tx.varchar_fits signed, payload⟩, (Tx.require_ok known).1,
    (Table.insert_some inserted).1⟩

theorem paymentUpdate_fits (ran : paymentUpdate p version data now db = .ok (updated, db')) : data.Fits := by
  obtain ⟨row, found, same, _, _⟩ := paymentUpdate_ok ran
  unfold paymentUpdate at ran
  rw [Tx.clock_bind, Tx.read_bind] at ran
  simp only [found, same, ne_eq, not_true_eq_false, if_false] at ran
  obtain ⟨_, db₁, reference, ran⟩ := Tx.bind_ok ran
  obtain ⟨_, db₂, code, ran⟩ := Tx.bind_ok ran
  obtain ⟨_, db₃, message, _⟩ := Tx.bind_ok ran
  exact ⟨Tx.varchar_fits reference, Tx.varchar_fits code, (Tx.require_ok message).1⟩

end PaymentModel
