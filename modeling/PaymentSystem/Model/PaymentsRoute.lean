import PaymentSystem.Proof.Schemas

namespace PaymentModel

variable {α : Type}

def formatZodErrors (issues : List Issue) : Json :=
  .array (issues.map fun issue =>
    .object [("field", .string (String.intercalate "." issue.path)), ("message", .string issue.message)])

/-- The answer to a body with issues. -/
def validationError (issues : List Issue) : ResponseBody :=
  .error "VALIDATION_ERROR" "Request validation failed"
    (some (.object [("target", .string "body"), ("errors", formatZodErrors issues)]))

/-- `validate(schema)` for the body of a request, in front of `next`. -/
def validate (schema : Json → Except (List Issue) α) (body : Json)
    (next : ∀ data, schema body = .ok data → Promise Unit) : Promise Unit :=
  match parsed : schema body with
  | .error issues => originalJson 400 (validationError issues)
  | .ok data => next data parsed

/-- `POST /payments` as the router wires it. -/
def paymentsRoute (site : Deployment) (formats : Formats) (idempotencyKey : Option String) (path fullPath : String)
    (trimmed : idempotencyKey.all isHeaderValue = true) (body : Json) : Promise Unit :=
  validate (createPaymentSchema formats) body fun data accepted => postPayments site {
    idempotencyKey
    path
    fullPath
    body := data
    bounded := (createPaymentSchema_ok accepted).2.bounded
    trimmed }

variable {site : Deployment} {formats : Formats} {schema : Json → Except (List Issue) α} {body : Json}
  {next : ∀ data, schema body = .ok data → Promise Unit}

theorem validate_ok {data : α} (accepted : schema body = .ok data) :
    validate schema body next = next data accepted := by
  unfold validate
  split
  · rename_i issues refused
    cases accepted.symm.trans refused
  · rename_i other parsed
    cases accepted.symm.trans parsed
    rfl

theorem validate_error {issues : List Issue} (refused : schema body = .error issues) :
    validate schema body next = originalJson 400 (validationError issues) := by
  unfold validate
  split
  · rename_i other parsed
    cases refused.symm.trans parsed
    rfl
  · rename_i data parsed
    cases refused.symm.trans parsed

/-- An accepted body is the request that the middleware and the handler are given. -/
theorem paymentsRoute_ok (request : PostRequest) (accepted : createPaymentSchema formats body = .ok request.body) :
    paymentsRoute site formats request.idempotencyKey request.path request.fullPath request.trimmed body =
      postPayments site request := validate_ok accepted

end PaymentModel
