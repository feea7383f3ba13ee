import PaymentSystem.Model.PaymentsRoute
import PaymentSystem.Proof.Validation
import PaymentSystem.Properties.Amounts

namespace PaymentModel

variable {formats : Formats} {body : Json} {request : CreatePaymentRequest}

/-- The validator of `POST /payments` accepts exactly the bodies all of whose members can be read, and it
    reports on a member of a refused object exactly when that member cannot. The route goes on with the request
    of an accepted body only, and answers any other one with its issues. -/
theorem validation_exact (formats : Formats) (body : Json) :
    (∀ request, createPaymentSchema formats body = .ok request ↔
      (∃ fields, body = .object fields) ∧ Accepted formats body request) ∧
    (∀ issues fields, body = .object fields → createPaymentSchema formats body = .error issues → ∀ path,
      (∃ issue ∈ issues, issue.path = path) ↔ ∃ name, path = [name] ∧ Refused formats body name) ∧
    ∀ site key path fullPath trimmed,
      (∃ request : PostRequest, createPaymentSchema formats body = .ok request.body ∧
        paymentsRoute site formats key path fullPath trimmed body = postPayments site request) ∨
      ∃ issues, createPaymentSchema formats body = .error issues ∧
        paymentsRoute site formats key path fullPath trimmed body = originalJson 400 (validationError issues) := by
  refine ⟨fun request => ⟨fun success => ?_, ?_⟩, ?_, ?_⟩
  · refine ⟨?_, createPaymentMembers_iff.mp (Schema.object_ok success)⟩
    cases body with
    | object fields => exact ⟨fields, rfl⟩
    | null | bool | number | string | array => cases success
  · rintro ⟨⟨fields, rfl⟩, accepted⟩
    exact Parsed.result_ok.mpr (createPaymentMembers_iff.mpr accepted)
  · rintro issues fields rfl failed path
    have reported := Parsed.result_error failed
    rw [← reported, createPaymentMembers_issues]
    constructor
    · rintro ⟨issue, member, rfl⟩
      obtain ⟨entry, listed, here⟩ := List.mem_flatMap.mp member
      refine ⟨entry.1, memberIssues_located entry listed issue here, memberIssues_refused.mp ⟨entry, listed, rfl, ?_⟩⟩
      exact List.ne_nil_of_mem here
    · rintro ⟨name, rfl, refused⟩
      obtain ⟨entry, listed, rfl, issues⟩ := memberIssues_refused.mpr refused
      obtain ⟨issue, here⟩ := List.exists_mem_of_ne_nil _ issues
      exact ⟨issue, List.mem_flatMap.mpr ⟨entry, listed, here⟩, memberIssues_located entry listed issue here⟩
  · intro site key path fullPath trimmed
    cases parsed : createPaymentSchema formats body with
    | ok data =>
      have bounded := (createPaymentSchema_ok parsed).2.bounded
      let request : PostRequest := { idempotencyKey := key, path, fullPath, body := data, bounded, trimmed }
      exact .inl ⟨request, rfl, paymentsRoute_ok request parsed⟩
    | error issues => exact .inr ⟨issues, rfl, validate_error parsed⟩

/-- An accepted request is accepted again as the service prints it, and read as the same request. -/
theorem validation_idempotent (fixes : ∀ code ∈ supportedCurrencies, formats.toUpperCase code = code)
    (success : createPaymentSchema formats body = .ok request) :
    createPaymentSchema formats request.json = .ok request := by
  have accepted := createPaymentMembers_iff.mp (Schema.object_ok success)
  obtain ⟨_, _, _, _, supported⟩ := accepted.currency
  refine Parsed.result_ok.mpr (createPaymentMembers_iff.mpr ?_)
  exact {
    amount := ⟨rfl, accepted.amount.2⟩
    currency := ⟨request.currency, rfl, supported_length _ supported, (fixes _ supported).symm, supported⟩
    merchantId := ⟨rfl, accepted.merchantId.2⟩
    customerEmail := ⟨rfl, accepted.customerEmail.2⟩
    description := ⟨request.json_description, accepted.description.2⟩
    metadata := by
      rw [request.json_metadata]
      exact accepted.metadata.again }

theorem validation_idempotent_sample :
    createPaymentSchema sampleFormats (sampleOrder none).body.json = .ok (sampleOrder none).body :=
  validation_idempotent (by decide +kernel)
    (samplePaymentBody_accepted ⟨4999, -2, by decide⟩ (by decide +kernel) (by decide +kernel))

end PaymentModel
