import PaymentSystem.Model.Json

namespace PaymentModel

/-- The subclasses of `AppError`, with the fields they add. -/
inductive AppErrorName where
  | unauthorizedError | notFoundError | conflictError | idempotencyConflictError
  | gatewayError (gatewayCode : String) (isRetryable : Bool)
  | circuitBreakerOpenError | lockAcquisitionError
  | rateLimitError (retryAfter : Nat)

structure AppError where
  name : AppErrorName
  message : String
  statusCode : Nat
  code : String
  details : Option Json := none

/-- What a rejected promise carries: an `AppError`, a `PrismaClientKnownRequestError`, or any
    other `Error`. -/
inductive JsError where
  | app (error : AppError)
  | prisma (code message : String)
  | other (message : String)

def JsError.message : JsError → String
  | .app error => error.message
  | .prisma _ message => message
  | .other message => message

def unauthorizedError (message : String) : JsError :=
  .app { name := .unauthorizedError, message, statusCode := 401, code := "UNAUTHORIZED" }

def notFoundError (resource identifier : String) : JsError :=
  .app {
    name := .notFoundError
    message := if identifier = "" then resource ++ " not found"
      else resource ++ " with ID '" ++ identifier ++ "' not found"
    statusCode := 404
    code := "NOT_FOUND" }

def conflictError (message : String) (details : Option Json := none) : JsError :=
  .app { name := .conflictError, message, statusCode := 409, code := "CONFLICT", details }

def idempotencyConflictError (key : String) : AppError where
  name := .idempotencyConflictError
  message := "Request with idempotency key '" ++ key ++ "' is already being processed"
  statusCode := 409
  code := "IDEMPOTENCY_CONFLICT"
  details := some (.object [("idempotencyKey", .string key)])

def gatewayError (message gatewayCode : String) (isRetryable : Bool) : JsError :=
  .app {
    name := .gatewayError gatewayCode isRetryable
    message
    statusCode := 502
    code := "GATEWAY_ERROR"
    details := some (.object [("gatewayCode", .string gatewayCode), ("isRetryable", .bool isRetryable)]) }

def circuitBreakerOpenError (message : String) : JsError :=
  .app { name := .circuitBreakerOpenError, message, statusCode := 503, code := "CIRCUIT_BREAKER_OPEN" }

def lockAcquisitionError (resource : String) : JsError :=
  .app {
    name := .lockAcquisitionError
    message := "Could not acquire lock for resource '" ++ resource ++ "' — it is currently being processed"
    statusCode := 423
    code := "LOCK_ACQUISITION_FAILED" }

def rateLimitError (retryAfterSeconds : Nat) : JsError :=
  .app {
    name := .rateLimitError retryAfterSeconds
    message := "Rate limit exceeded. Retry after " ++ Nat.repr retryAfterSeconds ++ " seconds"
    statusCode := 429
    code := "RATE_LIMIT_EXCEEDED"
    details := some (.object [("retryAfter", .number (.ofNat retryAfterSeconds))]) }

end PaymentModel
