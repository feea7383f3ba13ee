import PaymentSystem.Proof.Orders
import PaymentSystem.Proof.Validation

namespace PaymentModel

open Async

variable {site : Deployment} {R : Condition} {t : Nat} {pool later : Pool calls JsError World}

/-- Whatever happens, the store only grows: payments keep their terms and do not reuse a version, the audit
    log and the webhook events are appended to, and the webhooks that are added were signed by the gateway. -/
theorem store_only_grows (reached : Reached site R pool) {labels : List (Label Choice Event)}
    (ran : (system site).run R pool labels = some later) :
    pool.world.db.Retains (WebhookEvent.Authentic site) later.world.db ∧ pool.world.db.Extends later.world.db := by
  refine ⟨(ledger site).run (ledger_starts site) reached ran, ?_⟩
  exact lasting_of_steps (fun w => pool.world.db.Extends w.db) (fun _ _ _ held step => held.trans step.extends) reached
    (.refl _) ran

theorem store_only_grows_settled : ∃ pool later : Pool calls JsError World, Reached sampleSite .free pool ∧
    (pool.world.payment (sampleId '0')).any (fun row => row.status = .processing) = true ∧
    (later.world.payment (sampleId '0')).any (fun row => row.status = .success) = true ∧
    pool.world.db.Retains (WebhookEvent.Authentic sampleSite) later.world.db := by
  obtain ⟨pool, reached, shown⟩ := reached_of_run sampleSite .free (creation ++ attempt 1 'a' approved)
    (fun pool => (pool.world.payment (sampleId '0')).any (fun row => row.status = .processing) &&
      ((system sampleSite).run .free pool (acts 1 [{}, {}, {}])).any fun later =>
        (later.world.payment (sampleId '0')).any fun row => row.status = .success) (by decide +kernel)
  obtain ⟨processing, rest⟩ := Bool.and_eq_true_iff.mp shown
  obtain ⟨later, ran, success⟩ := (Option.any_eq_true _ _).mp rest
  exact ⟨pool, later, reached, processing, success, (store_only_grows reached ran).1⟩

theorem orNull_orNull (text : Option String) : orNull (orNull text) = orNull text := by
  by_cases holds : truthy text = true
  · have same : orNull text = text := if_pos holds
    rw [same, same]
  · have none : orNull text = none := if_neg holds
    rw [none]
    rfl

/-- The request to the gateway that a thread is about to make. -/
def requested (pool : Pool calls JsError World) (t : Nat) : Option GatewayPaymentRequest :=
  match pool.threads[t]? with
  | some (.call (.gatewaySend request) _) => some request
  | _ => none

/-- The gateway is asked for what was ordered: a request to it has the stored payment's id, and the amount,
    the currency and the parties of the request that the payment was created for. -/
theorem charges_as_ordered (reached : Reached site R pool) {request : GatewayPaymentRequest}
    (asks : requested pool t = some request) :
    ∃ row u order, pool.world.payment request.paymentId = some row ∧ Orders pool.world u order request.paymentId ∧
      decimal12_2 order.body.amount.value = some request.amount ∧ request = {
        paymentId := row.id
        amount := row.amount
        currency := order.body.currency.toUpper
        merchantId := order.body.merchantId
        customerEmail := order.body.customerEmail
        description := orNull order.body.description } := by
  unfold requested at asks
  split at asks
  · rename_i running
    cases asks
    obtain ⟨row, found, is⟩ := (ledger site).asked (ledger_starts site) reached running
    obtain ⟨u, order, orders, fulfils⟩ := all_ordered reached _ _ found
    have terms := fulfils.terms
    simp only [Payment.terms, PostRequest.terms, Terms.mk.injEq] at terms
    obtain ⟨_, currency, merchantId, customerEmail, description, _⟩ := terms
    refine ⟨row, u, order, found, orders, ?_, ?_⟩
    · rw [is]
      exact fulfils.amount
    · rw [is]
      simp only [gatewayRequest, currency, merchantId, customerEmail, description, orNull_orNull]
  · cases asks

theorem charges_as_ordered_sample : ∃ (pool : Pool calls JsError World) (request : GatewayPaymentRequest),
    Reached sampleSite .free pool ∧ requested pool 1 = some request ∧ ∃ u order,
      Orders pool.world u order request.paymentId ∧ decimal12_2 order.body.amount.value = some request.amount := by
  obtain ⟨pool, reached, shown⟩ := reached_of_run sampleSite .free
    (creation ++ .event (.deliverProcess ⟨sampleId '0'⟩) :: acts 1 [{ uuid := sampleId 'a' }, {}, {}, {}, {}])
    (fun pool => (requested pool 1).isSome) (by decide +kernel)
  obtain ⟨request, asks⟩ := Option.isSome_iff_exists.mp shown
  obtain ⟨_, u, order, _, orders, amount, _⟩ := charges_as_ordered reached asks
  exact ⟨pool, request, reached, asks, u, order, orders, amount⟩

/-- What the validator and the columns promise of a stored payment. -/
structure Payment.WellFormed (formats : Formats) (row : Payment) : Prop where
  amount : 0 ≤ row.amount ∧ row.amount < 10 ^ 12
  currency : row.currency ∈ supportedCurrencies
  merchantId : 1 ≤ utf16Length row.merchantId ∧ utf16Length row.merchantId ≤ 64
  customerEmail : formats.email row.customerEmail = true ∧ utf16Length row.customerEmail ≤ 255
  description : ∀ text ∈ row.description, text ≠ "" ∧ utf16Length text ≤ 500
  idempotencyKey : ∀ key ∈ row.idempotencyKey, key ≠ "" ∧ key.length ≤ 255
  metadata : ∀ value ∈ row.metadata, ∃ fields, value = .object fields ∧ ∀ entry ∈ fields, entry.1 ≠ "__proto__"
  maxRetries : row.maxRetries ≤ 10

/-- The requests come through the validator of the route. -/
def ValidatesPosts (formats : Formats) (R : Condition) : Prop :=
  ∀ w request, R.event w (.post request) = true → ∃ body, createPaymentSchema formats body = .ok request.body

theorem decimal12_2_nonneg {x : Rat} {hundredths : Int} (positive : 0 < x) (stored : decimal12_2 x = some hundredths) :
    0 ≤ hundredths ∧ hundredths < 10 ^ 12 := by
  have least : (0 : Int) ≤ (x * 100 + 1 / 2).floor := by
    rw [Rat.le_floor_iff]
    push_cast
    linarith
  unfold decimal12_2 at stored
  rw [if_pos positive.le] at stored
  simp only at stored
  split at stored
  · cases stored
    omega
  · cases stored

theorem supported_toUpper : ∀ code ∈ supportedCurrencies, code.toUpper = code := by decide +kernel

theorem orNull_present {text : Option String} {value : String} (is : orNull text = some value) :
    text = some value ∧ value ≠ "" := by
  have present := orNull_eq_some is
  refine ⟨present, ?_⟩
  rintro rfl
  rw [present] at is
  cases is

/-- Payments that come through the validator are well formed, in every state that is reached. -/
theorem stored_payments_well_formed {formats : Formats} (validates : ValidatesPosts formats R)
    (reached : Reached site R pool) {p : Uuid} {row : Payment} (found : pool.world.payment p = some row) :
    row.WellFormed formats := by
  obtain ⟨t, order, orders, fulfils⟩ := all_ordered reached p row found
  obtain ⟨_, posted⟩ := posted_admitted reached orders.posted.1
  obtain ⟨body, success⟩ := validates _ _ posted
  have accepted := createPaymentMembers_iff.mp (Schema.object_ok success)
  have terms := fulfils.terms
  simp only [Payment.terms, PostRequest.terms, Terms.mk.injEq] at terms
  obtain ⟨_, currency, merchantId, customerEmail, description, key, maxRetries, metadata, _⟩ := terms
  obtain ⟨_, _, _, _, supported⟩ := accepted.currency
  constructor
  · exact decimal12_2_nonneg accepted.amount.2.1 fulfils.amount
  · rw [currency, supported_toUpper _ supported]
    exact supported
  · rw [merchantId]
    exact accepted.merchantId.2
  · rw [customerEmail]
    exact accepted.customerEmail.2
  · intro text is
    rw [description] at is
    obtain ⟨present, nonempty⟩ := orNull_present is
    exact ⟨nonempty, accepted.description.2 text present⟩
  · intro text is
    have fits := fulfils.idempotencyKey
    rw [is] at fits
    rw [key] at is
    exact ⟨(orNull_present is).2, FitsColumn.short fits (headerValue_last order.trimmed (orNull_present is).1)⟩
  · intro value is
    rw [metadata] at is
    obtain ⟨fields, present, rfl⟩ := Option.map_eq_some_iff.mp is
    have member := accepted.metadata
    rw [present] at member
    obtain ⟨all, _, rfl⟩ := member
    exact ⟨_, rfl, fun entry listed => of_decide_eq_true (List.mem_filter.mp listed).2⟩
  · rw [maxRetries]
    exact site.maxRetries_le

/-- Nothing is posted but the sample order. -/
def sampleOrders : Condition where
  call _ _ _ _ := true
  event _
    | .post { body := ⟨amount, currency, merchantId, customerEmail, none, none⟩, .. } =>
      amount = (sampleOrder none trimmed_none).body.amount && currency = "USD" && merchantId = "merchant_1" &&
        customerEmail = "ada@example.com"
    | .post _ => false
    | _ => true

theorem sampleOrders_validates : ValidatesPosts sampleFormats sampleOrders := by
  rintro w ⟨key, path, fullPath, ⟨amount, currency, merchantId, customerEmail, description, metadata⟩, _, _⟩ admitted
  cases description with
  | some text => cases admitted
  | none =>
    cases metadata with
    | some fields => cases admitted
    | none =>
      simp only [sampleOrders, Bool.and_eq_true, decide_eq_true_eq] at admitted
      obtain ⟨⟨⟨rfl, rfl⟩, rfl⟩, rfl⟩ := admitted
      exact ⟨_, samplePaymentBody_accepted (sampleOrder none).body.amount (by decide +kernel) (by decide +kernel)⟩

theorem stored_payments_well_formed_sample : ∃ (pool : Pool calls JsError World) (row : Payment),
    Reached sampleSite sampleOrders pool ∧ pool.world.payment (sampleId '0') = some row ∧
    row.WellFormed sampleFormats := by
  obtain ⟨pool, reached, shown⟩ := reached_of_run sampleSite sampleOrders creation
    (fun pool => (pool.world.payment (sampleId '0')).isSome) (by decide +kernel)
  obtain ⟨row, found⟩ := Option.isSome_iff_exists.mp shown
  exact ⟨pool, row, reached, found, stored_payments_well_formed sampleOrders_validates reached found⟩

end PaymentModel
