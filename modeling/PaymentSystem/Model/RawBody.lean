import PaymentSystem.Model.JsonParse
import PaymentSystem.Model.Signatures

namespace PaymentModel

/-- The limit of `express.json`, in bytes. -/
def jsonBodyLimit : Nat := 1024 * 1024

/-- The `type` of an error of `express.json`. -/
inductive BodyError where
  | entityTooLarge
  | entityParseFailed
  deriving DecidableEq

/-- The decoder of the body drops one byte order mark at its start. -/
def withoutBom (body : String) : String :=
  match body.toList with
  | '\uFEFF' :: text => String.ofList text
  | _ => body

/-- `express.json({ limit: '1mb' })`: it is strict, so that a text with another value than an object or an
    array is refused. -/
def expressJson (body : String) : Except BodyError JsonValue :=
  if jsonBodyLimit < body.utf8ByteSize then .error .entityTooLarge
  else if withoutBom body = "" then .ok (.object [])
  else
    match jsonParse (withoutBom body) with
    | some (.object members) => .ok (.object members)
    | some (.array items) => .ok (.array items)
    | _ => .error .entityParseFailed

namespace JsonValue

/-- The check of `processWebhook`: the payload is printed again. -/
def verifyWebhook (hmac : Hmac) (secret : JsString) (payload : JsonValue) (signature : JsString) :
    Except JsError Bool :=
  JsString.verifyWebhookSignature hmac (utf16 (String.ofList payload.stringify)) signature secret

end JsonValue

/-- A webhook request with this body gets past the check of its signature. -/
def AcceptsSignature (hmac : Hmac) (secret : JsString) (body : String) (signature : JsString) : Prop :=
  ∃ payload, expressJson body = .ok payload ∧ payload.verifyWebhook hmac secret signature = .ok true

end PaymentModel
