import Mathlib.Tactic.Linarith
import PaymentSystem.Proof.Runs
import PaymentSystem.Proof.Schemas
import PaymentSystem.Proof.Writes

namespace PaymentModel

open Async

variable {site : Deployment} {db db' : Db} {data : PaymentCreateInput} {created : Payment} {now : Nat} {id : Uuid}
  {request : CreatePaymentRequest} {key : Option String} {x : Rat} {cents : Int}

theorem floor_add_half (n : Int) : ((n : Rat) + 1 / 2).floor = n := by
  apply le_antisymm
  · have below : ((n : Rat) + 1 / 2).floor < n + 1 := by
      rw [Rat.floor_lt_iff]
      push_cast
      linarith
    omega
  · rw [Rat.le_floor_iff]
    linarith

theorem decimal12_2_cents (exact : (cents : Rat) / 100 = x) :
    decimal12_2 x = if cents.natAbs < 10 ^ 12 then some cents else none := by
  have scaled : x * 100 = cents := by
    rw [← exact]
    exact div_mul_cancel₀ _ (by decide)
  unfold decimal12_2
  split
  · rw [scaled, floor_add_half]
  · have negated : -x * 100 = ((-cents : Int) : Rat) := by
      rw [neg_mul, scaled]
      exact (Int.cast_neg cents).symm
    rw [negated, floor_add_half, Int.neg_neg]

theorem cents_lt (exact : (cents : Rat) / 100 = x) : x < 10 ^ 10 ↔ cents < 10 ^ 12 := by
  have scaled : (10 ^ 10 * 100 : Rat) = ((10 ^ 12 : Int) : Rat) := by norm_num
  rw [← exact, div_lt_iff₀ (by decide +kernel), scaled, Int.cast_lt]

/-- No payment has the id or the idempotency key. -/
structure Unused (db : Db) (id : Uuid) (key : Option String) : Prop where
  id : db.payment id = none
  key : ∀ other ∈ db.payments.rows, key.isSome = true → other.idempotencyKey ≠ key

theorem keyUnused_iff : (key.isNone || db.payments.rows.all fun other => other.idempotencyKey ≠ key) = true ↔
    ∀ other ∈ db.payments.rows, key.isSome = true → other.idempotencyKey ≠ key := by
  cases key <;> simp

/-- With columns that take the row, the insert depends on its amount and its keys. -/
theorem paymentCreate_checks (fits : data.Fits) : paymentCreate data now db =
    (match decimal12_2 data.amount with
      | none => throw valueOutOfRange
      | some amount => do
        let row := data.row amount now
        Tx.require (row.idempotencyKey.isNone ||
          db.payments.rows.all fun other => other.idempotencyKey ≠ row.idempotencyKey) uniqueViolation
        match db.payments.insert row with
        | none => throw uniqueViolation
        | some payments =>
          Tx.write { db with payments }
          pure row : Tx Payment) now db := by
  unfold paymentCreate
  rw [Tx.clock_bind, Tx.read_bind, Tx.bind_run (Tx.varchar_run fits.currency),
    Tx.bind_run (Tx.varchar_run fits.merchantId), Tx.bind_run (Tx.varchar_run fits.customerEmail),
    Tx.bind_run (Tx.text_run fits.description), Tx.bind_run (Tx.varchar_run fits.idempotencyKey)]
  exact Tx.bind_run (Tx.jsonb_run fits.metadata)

theorem paymentCreate_run (now : Nat) (fits : data.Fits)
    (unused : Unused db data.id (data.idempotencyKey.map (cutText 255)))
    (amount : decimal12_2 data.amount = some cents) :
    ∃ payments, db.payments.insert (data.row cents now) = some payments ∧
      paymentCreate data now db = .ok (data.row cents now, { db with payments }) := by
  have absent : db.payments.find (data.row cents now).id = none := unused.id
  obtain ⟨payments, inserted⟩ := Table.insert_absent absent
  refine ⟨payments, inserted, ?_⟩
  rw [paymentCreate_checks fits]
  simp only [amount]
  rw [Tx.bind_run (Tx.require_run ?_)]
  · simp only [inserted]
    rfl
  · exact keyUnused_iff.mpr unused.key

theorem paymentCreate_outOfRange (now : Nat) (db : Db) (fits : data.Fits) (amount : decimal12_2 data.amount = none) :
    paymentCreate data now db = .error valueOutOfRange := by
  rw [paymentCreate_checks fits]
  simp only [amount]
  rfl

/-- The transaction of `createPayment` commits the row that it inserts, with the amount of the column. -/
theorem createPaymentInTx_inserted {updated : Payment}
    (ran : createPaymentInTx site id request key now db = .ok (updated, db')) :
    (createPaymentData site id request key).Fits ∧ Unused db id ((orNull key).map (cutText 255)) ∧
      decimal12_2 request.amount.value = some updated.amount := by
  unfold createPaymentInTx at ran
  obtain ⟨row, db₁, put, ran⟩ := Tx.bind_ok ran
  obtain ⟨_, payments, fits, amount, rfl, unique, inserted, rfl⟩ := paymentCreate_ok put
  refine ⟨fits, ⟨(Table.insert_some inserted).1, keyUnused_iff.mp unique⟩, amount.trans ?_⟩
  obtain ⟨_, db₂, logged, ran⟩ := Tx.bind_ok ran
  cases (paymentEventCreate_ok logged).2
  obtain ⟨old, found, _, applied, _⟩ := recordedUpdate_ok (transitionStateInTx_ran ran)
  unfold Db.payment at found
  rw [Table.find_insert inserted, if_pos rfl] at found
  cases found
  rw [applied]
  rfl

theorem transitionStateInTx_run {p : Uuid} {row : Payment} {version : Nat} {fromStatus toStatus : PaymentStatus}
    (now : Nat) (data : AdditionalData) (valid : isValidStateTransition fromStatus toStatus = true)
    (found : db.payment p = some row) (same : row.version = version)
    (fits : (transitionUpdate toStatus data).Fits) (spelled : String) :
    ∃ db', transitionStateInTx p fromStatus toStatus version data spelled now db =
        .ok ((transitionUpdate toStatus data).apply now row, db') ∧
      db'.payment p = some ((transitionUpdate toStatus data).apply now row) := by
  obtain ⟨db', ran, _, present⟩ := recordedUpdate_run now (transitionEvent p fromStatus toStatus data) found same
    fits (fun _ => rfl) fun _ => rfl
  obtain ⟨_, is, transition⟩ := transitionStateInTx_recorded valid p version data spelled now db
  rw [ran] at is
  subst is
  exact ⟨db', transition, present⟩

theorem createPaymentInTx_run (now : Nat) (fits : (createPaymentData site id request key).Fits)
    (unused : Unused db id ((orNull key).map (cutText 255)))
    (amount : decimal12_2 request.amount.value = some cents) :
    ∃ updated db', createPaymentInTx site id request key now db = .ok (updated, db') ∧
      db'.payment id = some updated ∧ updated.amount = cents := by
  obtain ⟨payments, inserted, put⟩ := paymentCreate_run now fits unused amount
  have known : Table.find payments id = some ((createPaymentData site id request key).row cents now) :=
    (Table.find_insert inserted id).trans (if_pos rfl)
  let logged : Db := { db with payments, paymentEvents := db.paymentEvents ++ [creationEvent id request] }
  have logs : paymentEventCreate (creationEvent id request) now { db with payments } = .ok ((), logged) :=
    paymentEventCreate_run (congrArg Option.isSome known) rfl
  have found : logged.payment id = some ((createPaymentData site id request key).row cents now) := known
  obtain ⟨db', moved, present⟩ := transitionStateInTx_run now
    { reason := some "Payment created and queued for processing" }
    (rfl : isValidStateTransition .created .pending = true) found rfl ⟨rfl, rfl, rfl⟩ id
  refine ⟨_, db', ?_, present, rfl⟩
  unfold createPaymentInTx
  rw [Tx.bind_run put]
  exact (Tx.bind_run logs).trans moved

/-- The payment is created with the amount the body asks for. -/
def StoresAmount (site : Deployment) (body : Json) (request : CreatePaymentRequest) (id : Uuid) (key : Option String)
    (now : Nat) (db : Db) : Prop :=
  ∃ payment db' amount, createPaymentInTx site id request key now db = .ok (payment, db') ∧
    db'.payment id = some payment ∧ body.field "amount" = some (.number amount) ∧
    (payment.amount : Rat) / 100 = amount.value ∧ 0 < payment.amount

/-- The amount of the body is a number of whole hundredths with at most ten digits before the point. -/
def Representable (body : Json) : Prop :=
  ∃ amount, body.field "amount" = some (.number amount) ∧ amount.value < 10 ^ 10 ∧
    ∃ cents : Int, (cents : Rat) / 100 = amount.value

/-- No text of the request holds a U+0000, which the store refuses. -/
structure CreatePaymentRequest.NullFree (request : CreatePaymentRequest) : Prop where
  merchantId : nullFree request.merchantId = true
  customerEmail : nullFree request.customerEmail = true
  description : (orNull request.description).all nullFree = true
  metadata : (request.metadata.map Json.object).all Json.nullFree = true

theorem supportedCurrencies_upper : ∀ code ∈ supportedCurrencies, FitsColumn 3 (some code.toUpper) = true := by
  decide +kernel

/-- The columns take an accepted request, unless one of its texts holds a U+0000. -/
theorem CreatePaymentRequest.Valid.fits_iff (valid : request.Valid) (site : Deployment) (id : Uuid) :
    (createPaymentData site id request key).Fits ↔ request.NullFree ∧ FitsColumn 255 (orNull key) = true := by
  have free {limit : Nat} {text : String} (fits : FitsColumn limit (some text) = true) : nullFree text = true :=
    ((Bool.and_eq_true _ _).mp (show (nullFree text && fitsVarchar limit text) = true from fits)).1
  constructor
  · rintro ⟨_, merchantId, customerEmail, description, short, metadata⟩
    exact ⟨⟨free merchantId, free customerEmail, description, metadata⟩, short⟩
  · rintro ⟨⟨merchantId, customerEmail, description, metadata⟩, short⟩
    exact ⟨supportedCurrencies_upper _ valid.currency, FitsColumn.of_short merchantId valid.bounded.merchantId,
      FitsColumn.of_short customerEmail valid.bounded.customerEmail, description, short, metadata⟩

/-- Of the accepted bodies, those are stored as asked whose amount the column represents and whose texts the
    store takes. -/
theorem createPayment_amount_iff {formats : Formats} {body : Json}
    (accepted : createPaymentSchema formats body = .ok request) : StoresAmount site body request id key now db ↔
      Representable body ∧ request.NullFree ∧ FitsColumn 255 (orNull key) = true ∧
        Unused db id ((orNull key).map (cutText 255)) := by
  obtain ⟨requested, valid⟩ := createPaymentSchema_ok accepted
  constructor
  · rintro ⟨payment, db', amount, ran, _, is, exactly, positive⟩
    obtain ⟨fits, unused, stored⟩ := createPaymentInTx_inserted ran
    obtain ⟨free, short⟩ := (valid.fits_iff site id).mp fits
    rw [requested] at is
    cases is
    rw [decimal12_2_cents exactly] at stored
    have bounded : payment.amount.natAbs < 10 ^ 12 := by
      by_contra large
      rw [if_neg large] at stored
      cases stored
    have below : request.amount.value < 10 ^ 10 := (cents_lt exactly).mpr (by omega)
    exact ⟨⟨_, requested, below, payment.amount, exactly⟩, free, short, unused⟩
  · rintro ⟨⟨amount, is, bounded, cents, exactly⟩, free, short, unused⟩
    rw [requested] at is
    cases is
    have positive : 0 < cents := by
      have := valid.positive
      rw [← exactly, lt_div_iff₀ (by decide +kernel), zero_mul] at this
      exact Int.cast_pos.mp this
    have below := (cents_lt exactly).mp bounded
    have stored : decimal12_2 request.amount.value = some cents :=
      (decimal12_2_cents exactly).trans (if_pos (by omega))
    have fits := (valid.fits_iff site id).mpr ⟨free, short⟩
    obtain ⟨payment, db', ran, present, rfl⟩ := createPaymentInTx_run now fits unused stored
    exact ⟨payment, db', _, ran, present, requested, exactly, positive⟩

def samplePaymentBody (amount : JsNumber) : Json :=
  .object [("amount", .number amount), ("currency", .string "usd"), ("merchantId", .string "merchant_1"),
    ("customerEmail", .string "ada@example.com")]

def sampleAmountRequest (amount : JsNumber) : CreatePaymentRequest where
  amount
  currency := "USD"
  merchantId := "merchant_1"
  customerEmail := "ada@example.com"
  description := none
  metadata := none

theorem samplePaymentBody_accepted (amount : JsNumber) (positive : 0 < amount.value)
    (bounded : amount.value ≤ 99999999999999 / 100) :
    createPaymentSchema sampleFormats (samplePaymentBody amount) = .ok (sampleAmountRequest amount) := by
  have first : (NumberCheck.positive "Amount must be positive").fails amount = none := if_neg (not_le.mpr positive)
  have second : (NumberCheck.max (99999999999999 / 100) "Amount exceeds maximum limit").fails amount = none :=
    if_neg (not_lt.mpr bounded)
  have number : amountSchema.key "amount" (samplePaymentBody amount) = pure amount := by
    change (⟨some amount, _⟩ : Parsed JsNumber) = _
    simp only [List.filterMap_cons, first, second, List.filterMap_nil]
    rfl
  have members : createPaymentMembers sampleFormats (samplePaymentBody amount) = pure (sampleAmountRequest amount) := by
    unfold createPaymentMembers
    rw [number]
    rfl
  exact Parsed.result_ok.mpr members

theorem unused_empty (id : Uuid) (key : Option String) : Unused {} id key where
  id := rfl
  key _ member := absurd member List.not_mem_nil

theorem sampleAmountRequest_nullFree (amount : JsNumber) : (sampleAmountRequest amount).NullFree where
  merchantId := show nullFree "merchant_1" = true by decide
  customerEmail := show nullFree "ada@example.com" = true by decide
  description := rfl
  metadata := rfl

theorem createPayment_amount_sample : StoresAmount sampleSite (samplePaymentBody ⟨4999, -2, by decide⟩)
    (sampleAmountRequest ⟨4999, -2, by decide⟩) (sampleId '0') none 0 {} := by
  have accepted := samplePaymentBody_accepted ⟨4999, -2, by decide⟩ (by decide +kernel) (by decide +kernel)
  exact (createPayment_amount_iff accepted).mpr
    ⟨⟨_, rfl, by decide +kernel, 4999, by decide +kernel⟩, sampleAmountRequest_nullFree _, rfl, unused_empty _ _⟩

def tenthOfCent : JsNumber := ⟨1, -3, by decide⟩

def tenBillion : JsNumber := ⟨1, 10, by decide⟩

theorem sampleAmountRequest_valid (amount : JsNumber) (positive : 0 < amount.value)
    (bounded : amount.value ≤ 99999999999999 / 100) : (sampleAmountRequest amount).Valid :=
  (createPaymentSchema_ok (samplePaymentBody_accepted amount positive bounded)).2

/-- Both amounts are accepted: the first is stored as zero, the second is refused by the column. -/
theorem createPayment_changes_amount :
    (createPaymentSchema sampleFormats (samplePaymentBody tenthOfCent) = .ok (sampleAmountRequest tenthOfCent) ∧
      (∃ payment db', createPaymentInTx sampleSite (sampleId '0') (sampleAmountRequest tenthOfCent) none 0 {} =
        .ok (payment, db') ∧ payment.amount = 0) ∧
      ¬StoresAmount sampleSite (samplePaymentBody tenthOfCent) (sampleAmountRequest tenthOfCent) (sampleId '0')
        none 0 {}) ∧
    (createPaymentSchema sampleFormats (samplePaymentBody tenBillion) = .ok (sampleAmountRequest tenBillion) ∧
      createPaymentInTx sampleSite (sampleId '0') (sampleAmountRequest tenBillion) none 0 {} =
        .error valueOutOfRange ∧
      ¬StoresAmount sampleSite (samplePaymentBody tenBillion) (sampleAmountRequest tenBillion) (sampleId '0')
        none 0 {}) := by
  have unkeyed : FitsColumn 255 (orNull none) = true := rfl
  have rounded : decimal12_2 tenthOfCent.value = some 0 := by decide +kernel
  have small := sampleAmountRequest_valid tenthOfCent (by decide +kernel) (by decide +kernel)
  have large := sampleAmountRequest_valid tenBillion (by decide +kernel) (by decide +kernel)
  have refused : createPaymentInTx sampleSite (sampleId '0') (sampleAmountRequest tenBillion) none 0 {} =
      .error valueOutOfRange := by
    have fits := (large.fits_iff sampleSite (sampleId '0')).mpr ⟨sampleAmountRequest_nullFree _, unkeyed⟩
    have insert := paymentCreate_outOfRange 0 {} fits (by decide +kernel)
    unfold createPaymentInTx
    simp only [bind, insert]
  have accepted := samplePaymentBody_accepted tenthOfCent (by decide +kernel) (by decide +kernel)
  have accepted' := samplePaymentBody_accepted tenBillion (by decide +kernel) (by decide +kernel)
  refine ⟨⟨accepted, ?_, ?_⟩, accepted', refused, ?_⟩
  · have fits := (small.fits_iff sampleSite (sampleId '0')).mpr ⟨sampleAmountRequest_nullFree _, unkeyed⟩
    obtain ⟨payment, db', ran, _, amount⟩ := createPaymentInTx_run 0 fits (unused_empty _ _) rounded
    exact ⟨payment, db', ran, amount⟩
  · rintro ⟨payment, db', _, ran, _, _, _, positive⟩
    obtain ⟨_, _, stored⟩ := createPaymentInTx_inserted ran
    rw [show (sampleAmountRequest tenthOfCent).amount = tenthOfCent from rfl, rounded] at stored
    have := Option.some.inj stored
    omega
  · rintro ⟨payment, db', _, ran, _⟩
    rw [refused] at ran
    cases ran

end PaymentModel
