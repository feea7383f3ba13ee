import Mathlib.Data.Rat.Defs
import PaymentSystem.Model.Uuid

namespace PaymentModel

/-- The part of the environment the payment flow reads, within the bounds of `envSchema`. -/
structure Config where
  maxRetries : Nat
  retryBaseDelayMs : Rat
  retryMaxDelayMs : Rat
  lockTtlMs : Rat
  idempotencyTtlHours : Rat
  webhookSecret : String
  nodeEnv : Option String
  maxRetries_le : maxRetries ≤ 10
  retryBaseDelayMs_ge : 100 ≤ retryBaseDelayMs
  retryMaxDelayMs_ge : 1000 ≤ retryMaxDelayMs
  lockTtlMs_ge : 5000 ≤ lockTtlMs
  idempotencyTtlHours_ge : 1 ≤ idempotencyTtlHours
  webhookSecret_length : 10 ≤ webhookSecret.length
  nodeEnv_mode : ∀ mode ∈ nodeEnv, mode ∈ ["development", "production", "test"]

/-- The 32 bytes of a digest as `digest('hex')` prints them. -/
def isHexDigest (text : String) : Bool := text.length = 64 && text.toList.all fun c => c ∈ hexDigits

/-- A configured server and the digests of the platform's crypto module, as hex strings. -/
structure Deployment extends Config where
  sha256 : String → String
  hmacSha256 : String → String → String
  hmacSha256_hex : ∀ key text, isHexDigest (hmacSha256 key text) = true

end PaymentModel
