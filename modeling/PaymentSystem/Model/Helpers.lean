import Mathlib.Algebra.Order.Field.Rat
import Mathlib.Data.List.Sort
import PaymentSystem.Model.Config
import PaymentSystem.Model.Errors
import PaymentSystem.Model.JsString

namespace PaymentModel

variable (site : Deployment)

/-- `hashBody`: the keys of the body, sorted, are the replacer of `JSON.stringify`. -/
def hashBody (body : Json) : String :=
  let keys := match body with
    | .object fields => (fields.map Prod.fst).insertionSort fun a b => unitsLe (utf16 a) (utf16 b)
    | _ => []
  site.sha256 (Json.stringify (some keys) body)

/-- `calculateBackoffDelay` with its optional parameters, for the draw `random` of `Math.random()`. -/
def backoffDelay (attempt : Nat) (baseDelay maxDelay random : Rat) : Rat :=
  let exponentialDelay := baseDelay * 2 ^ attempt
  let jitter := random * baseDelay
  min (exponentialDelay + jitter) maxDelay

/-- `calculateBackoffDelay` with the delays of the configuration. -/
def calculateBackoffDelay (attempt : Nat) (random : Rat) : Rat :=
  backoffDelay attempt site.retryBaseDelayMs site.retryMaxDelayMs random

/-- `Math.round`. -/
def mathRound (x : Rat) : Int := (x + 1 / 2).floor

def utf16Length (text : String) : Nat :=
  (text.toList.map fun c => if c.toNat < 65536 then 1 else 2).sum

def generateWebhookSignature (payload : String) : String :=
  "sha256=" ++ site.hmacSha256 site.webhookSecret payload

/-- `verifyWebhookSignature`: the guard compares lengths in UTF-16 units, `timingSafeEqual` throws
    on buffers of different byte length. -/
def verifyWebhookSignature (payload signature : String) : Except JsError Bool :=
  let expected := generateWebhookSignature site payload
  if utf16Length expected ≠ utf16Length signature then .ok false
  else if expected.utf8ByteSize ≠ signature.utf8ByteSize then
    .error (.other "Input buffers must have the same byte length")
  else .ok (expected = signature)

/-- Truthiness of an optional string. -/
def truthy : Option String → Bool
  | none => false
  | some text => text ≠ ""

/-- `value || null`. -/
def orNull (value : Option String) : Option String := if truthy value then value else none

end PaymentModel
