import PaymentSystem.Model.Schemas

namespace PaymentModel

namespace Parsed

variable {α β : Type} {parsed : Parsed α} {value : α} {issues : List Issue}

theorem result_ok : parsed.result = .ok value ↔ parsed = pure value := by
  obtain ⟨found, issues⟩ := parsed
  unfold result
  cases found with
  | none =>
    constructor
    · intro success
      cases success
    · intro success
      cases success
  | some found =>
    by_cases none : issues = []
    · simp only [none, if_true]
      constructor
      · intro success
        cases success
        rfl
      · intro success
        cases success
        rfl
    · simp only [none, if_false]
      constructor
      · intro success
        cases success
      · intro success
        cases success
        exact absurd rfl none

theorem seq_pure {f : Parsed (α → β)} {x : Parsed α} {result : β} (success : f <*> x = pure result) :
    ∃ build value, f = pure build ∧ x = pure value ∧ build value = result := by
  obtain ⟨build, first⟩ := f
  obtain ⟨value, second⟩ := x
  have values : build <*> value = some result := congrArg Parsed.value success
  have issues : first ++ second = [] := congrArg Parsed.issues success
  obtain ⟨rfl, rfl⟩ := List.append_eq_nil_iff.mp issues
  cases build with
  | none => cases values
  | some build =>
    cases value with
    | none => cases values
    | some value =>
      cases values
      exact ⟨build, value, rfl, rfl, rfl⟩

theorem map_pure {f : α → β} {x : Parsed α} {result : β} (success : f <$> x = pure result) :
    ∃ value, x = pure value ∧ f value = result := by
  obtain ⟨build, value, is, found, same⟩ := seq_pure (f := pure f) success
  cases is
  exact ⟨value, found, same⟩

end Parsed

variable {formats : Formats} {path : List String} {data : Option Json} {text result : String}

theorem StringCheck.runAll_cons {check : StringCheck} {checks : List StringCheck}
    (success : runAll formats path text (check :: checks) = pure result) :
    (check.run formats text).2 = none ∧ runAll formats path (check.run formats text).1 checks = pure result := by
  have values : (runAll formats path (check.run formats text).1 checks).value = some result :=
    congrArg Parsed.value success
  have issues := congrArg Parsed.issues success
  obtain ⟨passed, rest⟩ := List.append_eq_nil_iff.mp issues
  have passed : (check.run formats text).2 = none := by simpa using passed
  cases parsed : runAll formats path (check.run formats text).1 checks with
  | mk found left =>
    rw [parsed] at values rest
    cases values
    cases rest
    exact ⟨passed, rfl⟩

theorem StringCheck.runAll_nil (success : runAll formats path text [] = pure result) : text = result :=
  Option.some.inj (congrArg Parsed.value success)

theorem Schema.string_pure {checks : List StringCheck} {required : String}
    (success : Schema.string formats checks required path data = pure result) :
    ∃ text, data = some (.string text) ∧ StringCheck.runAll formats path text checks = pure result := by
  unfold Schema.string at success
  split at success
  · exact ⟨_, rfl, success⟩
  · cases success

theorem Schema.number_pure {checks : List NumberCheck} {required : String} {n : JsNumber}
    (success : Schema.number checks required path data = pure n) :
    data = some (.number n) ∧ ∀ check ∈ checks, check.fails n = none := by
  unfold Schema.number at success
  split at success
  · rename_i m
    have same : m = n := Option.some.inj (congrArg Parsed.value success)
    subst same
    have issues := congrArg Parsed.issues success
    have passed : checks.filterMap (fun check => check.fails m) = [] := List.map_eq_nil_iff.mp issues
    exact ⟨rfl, List.filterMap_eq_nil_iff.mp passed⟩
  · cases success

theorem Schema.refine_pure {α : Type} {schema : Schema α} {holds : α → Bool} {message : String} {value : α}
    (success : schema.refine holds message path data = pure value) :
    schema path data = pure value ∧ holds value = true := by
  unfold Schema.refine at success
  cases parsed : schema path data with
  | mk found issues =>
    rw [parsed] at success
    cases found with
    | none => cases success
    | some found =>
      have same : found = value := Option.some.inj (congrArg Parsed.value success)
      subst same
      obtain ⟨rfl, passed⟩ := List.append_eq_nil_iff.mp (congrArg Parsed.issues success)
      refine ⟨rfl, ?_⟩
      by_contra fails
      rw [if_neg fails] at passed
      cases passed

theorem Schema.object_ok {α : Type} {members : Json → Parsed α} {body : Json} {value : α}
    (success : Schema.object members body = .ok value) : members body = pure value := by
  unfold Schema.object at success
  split at success
  · exact Parsed.result_ok.mp success
  · cases Parsed.result_ok.mp success

/-- What the service relies on in an accepted request. -/
structure CreatePaymentRequest.Valid (request : CreatePaymentRequest) : Prop where
  positive : 0 < request.amount.value
  currency : request.currency ∈ supportedCurrencies
  merchantId : utf16Length request.merchantId ≤ 64
  customerEmail : utf16Length request.customerEmail ≤ 255

theorem length_le_utf16Length (text : String) : text.length ≤ utf16Length text := by
  have counted : ∀ chars : List Char, chars.length ≤ (chars.map fun c => if c.toNat < 65536 then 1 else 2).sum := by
    intro chars
    induction chars with
    | nil => exact Nat.le_refl 0
    | cons c chars ih =>
      rw [List.map_cons, List.sum_cons, List.length_cons]
      split <;> omega
  exact counted text.toList

theorem supportedCurrencies_length : ∀ code ∈ supportedCurrencies, code.length = 3 := by decide

theorem CreatePaymentRequest.Valid.bounded {request : CreatePaymentRequest} (valid : request.Valid) :
    request.Bounded where
  currency := (supportedCurrencies_length _ valid.currency).le
  merchantId := (length_le_utf16Length _).trans valid.merchantId
  customerEmail := (length_le_utf16Length _).trans valid.customerEmail

theorem NumberCheck.positive_passed {n : JsNumber} {message : String}
    (passed : (NumberCheck.positive message).fails n = none) : 0 < n.value := by
  by_contra other
  have fails : (NumberCheck.positive message).fails n = some message := if_pos (not_lt.mp other)
  rw [passed] at fails
  cases fails

theorem StringCheck.max_passed {bound : Nat} {message : String}
    (passed : ((StringCheck.max bound message).run formats text).2 = none) : utf16Length text ≤ bound := by
  by_contra other
  have fails : ((StringCheck.max bound message).run formats text).2 = some message := if_pos (not_le.mp other)
  rw [passed] at fails
  cases fails

theorem merchantIdSchema_pure (success : merchantIdSchema formats path data = pure result) :
    utf16Length result ≤ 64 := by
  obtain ⟨text, _, checked⟩ := Schema.string_pure success
  have bounded := StringCheck.runAll_cons (StringCheck.runAll_cons checked).2
  rw [← StringCheck.runAll_nil bounded.2]
  exact StringCheck.max_passed bounded.1

theorem customerEmailSchema_pure (success : customerEmailSchema formats path data = pure result) :
    utf16Length result ≤ 255 := by
  obtain ⟨text, _, checked⟩ := Schema.string_pure success
  have bounded := StringCheck.runAll_cons (StringCheck.runAll_cons checked).2
  rw [← StringCheck.runAll_nil bounded.2]
  exact StringCheck.max_passed bounded.1

theorem createPaymentSchema_ok {body : Json} {request : CreatePaymentRequest}
    (success : createPaymentSchema formats body = .ok request) :
    body.field "amount" = some (.number request.amount) ∧ request.Valid := by
  obtain ⟨withDescription, metadata, described, _, rfl⟩ := Parsed.seq_pure (Schema.object_ok success)
  obtain ⟨withEmail, description, emailed, _, rfl⟩ := Parsed.seq_pure described
  obtain ⟨withMerchant, customerEmail, sold, email, rfl⟩ := Parsed.seq_pure emailed
  obtain ⟨withCurrency, merchantId, priced, merchant, rfl⟩ := Parsed.seq_pure sold
  obtain ⟨withAmount, currency, counted, supported, rfl⟩ := Parsed.seq_pure priced
  obtain ⟨amount, requested, rfl⟩ := Parsed.map_pure counted
  obtain ⟨is, passed⟩ := Schema.number_pure requested
  refine ⟨is, ?_⟩
  exact {
    positive := NumberCheck.positive_passed (passed _ (.head _))
    currency := List.contains_iff_mem.mp (Schema.refine_pure supported).2
    merchantId := merchantIdSchema_pure merchant
    customerEmail := customerEmailSchema_pure email }

theorem StringCheck.runAll_text {checks : List StringCheck} (kept : ∀ check ∈ checks, check ≠ .toUpperCase)
    (success : runAll formats path text checks = pure result) : text = result := by
  induction checks generalizing text with
  | nil => exact runAll_nil success
  | cons check checks ih =>
    obtain ⟨first, rest⟩ := List.forall_mem_cons.mp kept
    have same : (check.run formats text).1 = text := by
      cases check with
      | toUpperCase => exact absurd rfl first
      | min | max | length | email | uuid | datetime => rfl
    have success := (runAll_cons success).2
    rw [same] at success
    exact ih rest success

theorem Schema.string_read {checks : List StringCheck} {required : String}
    (success : Schema.string formats checks required path data = pure result)
    (kept : ∀ check ∈ checks, check ≠ .toUpperCase) : data = some (.string result) := by
  obtain ⟨text, is, checked⟩ := Schema.string_pure success
  rw [is, StringCheck.runAll_text kept checked]

theorem Schema.optional_read {value : Option String}
    (success : (Schema.string formats []).optional path data = pure value) : data = value.map Json.string := by
  cases data with
  | none =>
    cases success
    rfl
  | some json =>
    obtain ⟨text, read, rfl⟩ := Parsed.map_pure success
    exact Schema.string_read read (by simp)

theorem Schema.enum_pure {options : List String} (success : Schema.enum options path data = pure result) :
    data = some (.string result) ∧ result ∈ options := by
  unfold Schema.enum at success
  split at success
  · split at success
    · rename_i text member
      have same : text = result := Option.some.inj (congrArg Parsed.value success)
      rw [← same]
      exact ⟨rfl, member⟩
    · cases success
  · cases success

/-- The members of a webhook's body. -/
structure WebhookPayload.Reads (body : WebhookPayload) (payload : Json) : Prop where
  eventId : payload.field "eventId" = some (.string body.eventId)
  paymentId : payload.field "paymentId" = some (.string body.paymentId)
  status : payload.field "status" = some (.string body.status)
  listed : body.status ∈ ["success", "failed"]
  gatewayReference : payload.field "gatewayReference" = some (.string body.gatewayReference)
  errorCode : payload.field "errorCode" = body.errorCode.map Json.string
  errorMessage : payload.field "errorMessage" = body.errorMessage.map Json.string
  timestamp : payload.field "timestamp" = some (.string body.timestamp)

theorem webhookPayloadSchema_ok {payload : Json} {body : WebhookPayload}
    (success : webhookPayloadSchema formats payload = .ok body) : body.Reads payload := by
  obtain ⟨withMessage, timestamp, explained, timed, rfl⟩ := Parsed.seq_pure (Schema.object_ok success)
  obtain ⟨withCode, errorMessage, coded, message, rfl⟩ := Parsed.seq_pure explained
  obtain ⟨withReference, errorCode, referred, code, rfl⟩ := Parsed.seq_pure coded
  obtain ⟨withStatus, gatewayReference, settled, reference, rfl⟩ := Parsed.seq_pure referred
  obtain ⟨withPayment, status, about, target, rfl⟩ := Parsed.seq_pure settled
  obtain ⟨withEvent, paymentId, named, payment, rfl⟩ := Parsed.seq_pure about
  obtain ⟨eventId, event, rfl⟩ := Parsed.map_pure named
  obtain ⟨status, listed⟩ := Schema.enum_pure target
  exact {
    eventId := Schema.string_read event (by simp)
    paymentId := Schema.string_read payment (by simp)
    status, listed
    gatewayReference := Schema.string_read reference (by simp)
    errorCode := Schema.optional_read code
    errorMessage := Schema.optional_read message
    timestamp := Schema.string_read timed (by simp) }

/-- The formats for the sample: an address has an at sign. -/
def sampleFormats : Formats where
  email text := text.toList.contains '@'
  uuid text := text.length = 36
  datetime text := text.toList.getLast? = some 'Z'
  toUpperCase text := String.ofList (text.toList.map Char.toUpper)

end PaymentModel
