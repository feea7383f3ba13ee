import Mathlib.Tactic.Linarith
import PaymentSystem.Model.JsonParse
import PaymentSystem.Model.World

namespace PaymentModel

open JsNumber (nearestDouble)

structure GatewaySimulatorConfig where
  instantSuccessRate : Rat := nearestDouble (4 / 10)
  delayedSuccessRate : Rat := nearestDouble (15 / 100)
  instantFailureRate : Rat := nearestDouble (2 / 10)
  timeoutRate : Rat := nearestDouble (1 / 10)
  networkErrorRate : Rat := nearestDouble (1 / 10)
  webhookOnlyRate : Rat := nearestDouble (5 / 100)
  minDelayMs : Rat := 2000
  maxDelayMs : Rat := 5000
  timeoutMs : Rat := 10000

inductive GatewayScenario where
  | instantSuccess | delayedSuccess | instantFailure | timeout | networkError | webhookOnly
  deriving DecidableEq

namespace GatewaySimulator

variable (config : GatewaySimulatorConfig)

def failureScenarios : List (String × String) :=
  [(GatewayErrorCode.insufficientFunds, "Card has insufficient balance"),
    (GatewayErrorCode.cardExpired, "Card has expired"),
    (GatewayErrorCode.fraudDetected, "Transaction flagged by fraud prevention"),
    (GatewayErrorCode.internalError, "Gateway internal server error")]

/-- The first scenario whose cumulative rate, a sum of doubles, exceeds the draw. -/
def pick (rand cumulative : Rat) : List (GatewayScenario × Rat) → GatewayScenario
  | [] => .instantSuccess
  | (name, probability) :: scenarios =>
    let cumulative := nearestDouble (cumulative + probability)
    if rand < cumulative then name else pick rand cumulative scenarios

def selectScenario (rand : Rat) : GatewayScenario :=
  pick rand 0 [(.instantSuccess, config.instantSuccessRate), (.delayedSuccess, config.delayedSuccessRate),
    (.instantFailure, config.instantFailureRate), (.timeout, config.timeoutRate),
    (.networkError, config.networkErrorRate), (.webhookOnly, config.webhookOnlyRate)]

def success (gatewayReference : String) : GatewayOutcome :=
  .response { success := true, gatewayReference, pending := false, errorCode := none, errorMessage := none }

def failure (gatewayReference : String) (scenario : String × String) : GatewayOutcome :=
  .response {
    success := false
    gatewayReference
    pending := false
    errorCode := some scenario.1
    errorMessage := some scenario.2 }

/-- The outcome of a scenario and the time it takes, for the second draw of `Math.random()`. -/
def play (gatewayReference : String) (draw : Rat) : GatewayScenario → GatewayOutcome × Rat
  | .instantSuccess => (success gatewayReference, 0)
  | .delayedSuccess =>
    (success gatewayReference, config.minDelayMs + draw * (config.maxDelayMs - config.minDelayMs))
  | .instantFailure =>
    ((failureScenarios[(draw * failureScenarios.length).floor.toNat]?.map (failure gatewayReference)).getD
      (.thrown (.other "Cannot read properties of undefined")), 0)
  | .timeout =>
    (.thrown (gatewayError "Gateway request timed out" GatewayErrorCode.gatewayTimeout true), config.timeoutMs + 1000)
  | .networkError =>
    (.thrown (gatewayError "Failed to connect to payment gateway" GatewayErrorCode.networkError true), 0)
  | .webhookOnly =>
    (.response { success := false, gatewayReference, pending := true, errorCode := none, errorMessage := none }, 0)

/-- `processPayment` of the simulator, for a generated id and two draws of `Math.random()`. -/
def processPayment (uuid : String) (rand draw : Rat) : GatewayOutcome × Rat :=
  play config ("gw_" ++ String.ofList ((uuid.toList.filter (· ≠ '-')).take 16)) draw (selectScenario config rand)

/-- The callback of `onWebhook`: the application registers none. -/
def webhookCallback : Option (String → Bool → String → Promise Unit) := none

/-- `handleWebhookOnly` sets the timer of a delivery for a registered callback only. -/
def schedulesWebhook : Bool := webhookCallback.isSome

/-- The longest time a scenario of the default settings takes. -/
def longestScenario : Rat := 11000

theorem play_duration (gatewayReference : String) {draw : Rat} (most : draw < 1) (scenario : GatewayScenario) :
    (play {} gatewayReference draw scenario).2 ≤ longestScenario := by
  cases scenario with
  | delayedSuccess =>
    simp only [play, longestScenario]
    linarith
  | instantSuccess | instantFailure | timeout | networkError | webhookOnly => norm_num [play, longestScenario]

end GatewaySimulator

end PaymentModel
