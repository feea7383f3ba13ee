import PaymentSystem.Model.Helpers

namespace PaymentModel

/-- `createHmac('sha256', key).update(data).digest('hex')`, for the bytes of the key and of the data. -/
abbrev Hmac : Type := ByteArray → ByteArray → String

def isHexDigit (c : Char) : Bool := c.isDigit || (97 ≤ c.toNat && c.toNat ≤ 102)

/-- What is documented of the digest: 64 hexadecimal digits. -/
structure Hmac.Hex (hmac : Hmac) : Prop where
  length : ∀ key data, (hmac key data).length = 64
  digits : ∀ key data, ∀ c ∈ (hmac key data).toList, isHexDigit c = true

/-- `crypto.timingSafeEqual`. -/
def timingSafeEqual (a b : ByteArray) : Except JsError Bool :=
  if a.size ≠ b.size then .error (.other "Input buffers must have the same byte length")
  else .ok (a.data = b.data)

namespace JsString

/-- `generateWebhookSignature` on strings of any code units. -/
def generateWebhookSignature (hmac : Hmac) (payload secret : JsString) : JsString :=
  utf16 ("sha256=" ++ hmac (bufferFrom secret) (bufferFrom payload))

/-- `verifyWebhookSignature` on strings of any code units. -/
def verifyWebhookSignature (hmac : Hmac) (payload signature secret : JsString) : Except JsError Bool :=
  let expected := generateWebhookSignature hmac payload secret
  if expected.length ≠ signature.length then .ok false
  else timingSafeEqual (bufferFrom expected) (bufferFrom signature)

end JsString

end PaymentModel
