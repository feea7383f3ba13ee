namespace PaymentModel

/-- `PaymentStatus` of constants.ts, the `PaymentStatus` enum of the database. -/
inductive PaymentStatus where
  | created | pending | processing | success | failed | retryScheduled | permanentlyFailed | cancelled
  deriving DecidableEq, Repr

def terminalStates : List PaymentStatus := [.success, .permanentlyFailed, .cancelled]

def validTransitions : PaymentStatus → List PaymentStatus
  | .created => [.pending, .cancelled]
  | .pending => [.processing, .cancelled]
  | .processing => [.success, .failed]
  | .failed => [.retryScheduled, .permanentlyFailed]
  | .retryScheduled => [.pending]
  | .success => []
  | .permanentlyFailed => []
  | .cancelled => []

def isValidStateTransition (fromStatus toStatus : PaymentStatus) : Bool :=
  (validTransitions fromStatus).contains toStatus

/-- The text of a status, as it stands in messages. -/
def PaymentStatus.text : PaymentStatus → String
  | .created => "CREATED"
  | .pending => "PENDING"
  | .processing => "PROCESSING"
  | .success => "SUCCESS"
  | .failed => "FAILED"
  | .retryScheduled => "RETRY_SCHEDULED"
  | .permanentlyFailed => "PERMANENTLY_FAILED"
  | .cancelled => "CANCELLED"

namespace GatewayErrorCode

def insufficientFunds : String := "INSUFFICIENT_FUNDS"
def cardExpired : String := "CARD_EXPIRED"
def fraudDetected : String := "FRAUD_DETECTED"
def gatewayTimeout : String := "GATEWAY_TIMEOUT"
def networkError : String := "NETWORK_ERROR"
def internalError : String := "INTERNAL_ERROR"

end GatewayErrorCode

def retryableErrors : List String :=
  [GatewayErrorCode.gatewayTimeout, GatewayErrorCode.networkError, GatewayErrorCode.internalError]

def isRetryableError (errorCode : String) : Bool := retryableErrors.contains errorCode

def supportedCurrencies : List String := ["USD", "EUR", "GBP", "INR", "JPY", "AUD", "CAD"]

inductive EventType where
  | stateChange | retryScheduled | webhookReceived | gatewayRequest | gatewayResponse
  | lockAcquired | lockReleased | error
  deriving DecidableEq, Repr

inductive WebhookEventStatus where
  | processed | rejected | duplicate
  deriving DecidableEq, Repr

inductive IdempotencyKeyStatus where
  | processing | completed
  deriving DecidableEq, Repr

theorem isValidStateTransition_terminal {fromStatus toStatus : PaymentStatus}
    (terminal : fromStatus ∈ terminalStates) : isValidStateTransition fromStatus toStatus = false := by
  simp only [terminalStates, List.mem_cons, List.not_mem_nil, or_false] at terminal
  rcases terminal with rfl | rfl | rfl <;> rfl

/-- The targets a webhook can choose are open to a payment in `PROCESSING` only. -/
theorem processing_of_settles {fromStatus toStatus : PaymentStatus}
    (valid : isValidStateTransition fromStatus toStatus = true)
    (settles : toStatus = .success ∨ toStatus = .failed) : fromStatus = .processing := by
  rcases settles with rfl | rfl <;> cases fromStatus <;> first | rfl | cases valid

end PaymentModel
