import PaymentSystem.Model.RawBody
import PaymentSystem.Proof.JsonKeys
import PaymentSystem.Proof.SettledValues
import PaymentSystem.Proof.Signatures

namespace PaymentModel

variable {hmac : Hmac} {secret signature : JsString} {body printed : String}

/-- The check of the service is that of the value, for a payload whose strings are well formed. -/
theorem verifyWebhook_toValue {site : Deployment} (payload : Json) (signature : String)
    (digest : ∀ text, site.hmacSha256 site.webhookSecret text = hmac site.webhookSecret.toUTF8 text.toUTF8) :
    verifyWebhookSignature site (Json.stringify none payload) signature =
      payload.toValue.verifyWebhook hmac (utf16 site.webhookSecret) (utf16 signature) := by
  rw [verifyWebhookSignature_utf16 _ _ (digest _), JsonValue.verifyWebhook, ← Json.stringify_toList,
    String.ofList_toList]

theorem generateWebhookSignature_inj (injective : Function.Injective (hmac (bufferFrom secret)))
    (same : JsString.generateWebhookSignature hmac (utf16 printed) secret =
      JsString.generateWebhookSignature hmac (utf16 body) secret) : printed = body := by
  have texts := utf16_injective same
  have digests : hmac (bufferFrom secret) (bufferFrom (utf16 printed)) =
      hmac (bufferFrom secret) (bufferFrom (utf16 body)) := String.append_right_inj _ |>.mp texts
  have bytes := injective digests
  rw [bufferFrom_utf16, bufferFrom_utf16] at bytes
  exact String.toByteArray_inj.mp bytes

/-- A text that starts with a byte order mark is no JSON. -/
theorem withoutBom_of_parsed {value : JsonValue} (parsed : jsonParse body = some value) : withoutBom body = body := by
  unfold withoutBom
  split
  · rename_i text marked
    rw [jsonParse, marked] at parsed
    cases parsed
  · rfl

theorem expressJson_object {members : List (JsString × JsonValue)} (parsed : jsonParse body = some (.object members)) :
    expressJson body = if jsonBodyLimit < body.utf8ByteSize then .error .entityTooLarge else .ok (.object members) := by
  have nonempty : body ≠ "" := by
    rintro rfl
    cases parsed
  unfold expressJson
  rw [withoutBom_of_parsed parsed, if_neg nonempty, parsed]

theorem settled_of_printed {payload : JsonValue} (parsed : jsonParse body = some payload)
    (same : body.toList = payload.stringify) : payload.Settled := by
  obtain ⟨written, read, value⟩ := Option.map_eq_some_iff.mp parsed
  rw [same, readJson_stringify] at read
  cases read
  exact (JsonValue.evaluate_eq_iff payload).mp value

theorem jsonParse_settled {value : JsonValue} (settled : value.Settled) (printed : body.toList = value.stringify) :
    jsonParse body = some value := by
  unfold jsonParse
  rw [printed, readJson_stringify, Option.map_some, (JsonValue.evaluate_eq_iff value).mpr settled]

/-- A signature is compared with that of the text that `JSON.stringify` prints. -/
theorem acceptsSignature_printed (digits : ∀ key data, ∀ c ∈ (hmac key data).toList, isHexDigit c = true)
    (ascii : Ascii signature) {members : List (JsString × JsonValue)}
    (parsed : jsonParse body = some (.object members)) :
    AcceptsSignature hmac secret body signature ↔ body.utf8ByteSize ≤ jsonBodyLimit ∧
      signature = JsString.generateWebhookSignature hmac (utf16 (String.ofList (JsonValue.object members).stringify))
        secret := by
  have expected := (generateWebhookSignature_ascii digits
    (utf16 (String.ofList (JsonValue.object members).stringify)) secret).1
  have verified : (JsonValue.object members).verifyWebhook hmac secret signature = _ :=
    verifyWebhookSignature_ascii expected ascii
  unfold AcceptsSignature
  rw [expressJson_object parsed]
  by_cases large : jsonBodyLimit < body.utf8ByteSize
  · rw [if_pos large]
    constructor
    · rintro ⟨payload, accepted, _⟩
      cases accepted
    · rintro ⟨small, _⟩
      omega
  · rw [if_neg large]
    constructor
    · rintro ⟨payload, accepted, is⟩
      cases accepted
      rw [verified] at is
      exact ⟨by omega, of_decide_eq_true (Except.ok.inj is)⟩
    · rintro ⟨_, same⟩
      exact ⟨_, rfl, verified.trans (congrArg Except.ok (decide_eq_true same))⟩

/-- The signature that is accepted is the one of the bytes received. -/
def AuthenticatesReceived (hmac : Hmac) (secret : JsString) (body : String) : Prop :=
  ∀ signature, Ascii signature → (AcceptsSignature hmac secret body signature ↔
    signature = JsString.generateWebhookSignature hmac (utf16 body) secret)

/-- The bodies that are authenticated as they are received are those that `JSON.stringify` prints. -/
theorem authenticatesReceived_iff (digits : ∀ key data, ∀ c ∈ (hmac key data).toList, isHexDigit c = true)
    (injective : Function.Injective (hmac (bufferFrom secret)))
    (isObject : ∃ members, jsonParse body = some (.object members)) :
    AuthenticatesReceived hmac secret body ↔
      body.utf8ByteSize ≤ jsonBodyLimit ∧ ∃ value : JsonValue, value.Settled ∧ body.toList = value.stringify := by
  obtain ⟨members, parsed⟩ := isObject
  constructor
  · intro exactly
    have ascii := (generateWebhookSignature_ascii digits (utf16 body) secret).1
    obtain ⟨small, same⟩ := (acceptsSignature_printed digits ascii parsed).mp ((exactly _ ascii).mpr rfl)
    have text := congrArg String.toList (generateWebhookSignature_inj injective same)
    rw [String.toList_ofList] at text
    exact ⟨small, _, settled_of_printed parsed text, text⟩
  · rintro ⟨small, value, settled, text⟩ signature ascii
    rw [jsonParse_settled settled text] at parsed
    cases parsed
    rw [acceptsSignature_printed digits ascii (jsonParse_settled settled text), ← text, String.ofList_toList]
    exact and_iff_right small

def spacedBody : String := "\x7b\"eventId\": \"e1\"\x7d"

def printedBody : String := "\x7b\"eventId\":\"e1\"\x7d"

def hexText (bytes : List UInt8) : List Char :=
  bytes.flatMap fun byte => [Json.hexDigit (byte.toNat / 16), Json.hexDigit (byte.toNat % 16)]

def spacedDigest : String := "f51308b7e8af536b68756844af2e0d0c8ceb992c2addfce92b5187c68de44646"

def printedDigest : String := "e9f78747c2099b36566f315cffca2cc692d55b057e13e8acfc2b5f2c87ef6826"

/-- An injective function with the digests of the two bodies. -/
def injectiveHmac : Hmac := fun _ data =>
  if data.data = spacedBody.toUTF8.data then spacedDigest
  else if data.data = printedBody.toUTF8.data then printedDigest
  else String.ofList ('0' :: hexText data.data.toList)

theorem isHexDigit_hexDigit : ∀ {n : Nat}, n < 16 → isHexDigit (Json.hexDigit n) = true := by decide

theorem hexDigit_inj {m n : Nat} (first : m < 16) (second : n < 16) (same : Json.hexDigit m = Json.hexDigit n) :
    m = n := by
  have value := hexValue_hexDigit first
  rw [same, hexValue_hexDigit second] at value
  exact (Option.some.inj value).symm

theorem hexText_digits {bytes : List UInt8} : ∀ c ∈ hexText bytes, isHexDigit c = true := by
  intro c member
  obtain ⟨byte, _, digit⟩ := List.mem_flatMap.mp member
  have bound : byte.toNat < 256 := byte.toNat_lt
  rcases List.mem_pair.mp digit with rfl | rfl
  · exact isHexDigit_hexDigit (by omega)
  · exact isHexDigit_hexDigit (by omega)

theorem hexText_length (bytes : List UInt8) : (hexText bytes).length = 2 * bytes.length := by
  induction bytes with
  | nil => rfl
  | cons byte bytes ih =>
    have rest : (hexText (byte :: bytes)).length = (hexText bytes).length + 2 := rfl
    rw [rest, ih, List.length_cons]
    omega

theorem hexText_inj : ∀ {a b : List UInt8}, hexText a = hexText b → a = b
  | [], [], _ => rfl
  | a :: as, b :: bs, same => by
    have small : a.toNat < 256 := a.toNat_lt
    have small' : b.toNat < 256 := b.toNat_lt
    obtain ⟨high, same⟩ := List.cons.inj same
    obtain ⟨low, rest⟩ := List.cons.inj same
    have high := hexDigit_inj (by omega) (by omega) high
    have low := hexDigit_inj (by omega) (by omega) low
    have value : a.toNat = b.toNat := by omega
    rw [UInt8.toNat_inj.mp value, hexText_inj rest]

theorem injectiveHmac_digits : ∀ key data, ∀ c ∈ (injectiveHmac key data).toList, isHexDigit c = true := by
  intro key data
  unfold injectiveHmac
  split
  · exact List.all_eq_true.mp (by decide : spacedDigest.toList.all isHexDigit = true)
  · split
    · exact List.all_eq_true.mp (by decide : printedDigest.toList.all isHexDigit = true)
    · rw [String.toList_ofList]
      exact List.forall_mem_cons.mpr ⟨rfl, hexText_digits⟩

/-- The digests that are not listed have an odd length. -/
theorem injectiveHmac_injective (key : ByteArray) : Function.Injective (injectiveHmac key) := by
  have odd (digest : String) (even : digest.length = 64) (data : ByteArray) :
      digest ≠ String.ofList ('0' :: hexText data.data.toList) := by
    rintro rfl
    rw [String.length_ofList, List.length_cons, hexText_length] at even
    omega
  have different : spacedDigest ≠ printedDigest := by decide
  intro a b same
  unfold injectiveHmac at same
  split at same
  · rename_i first
    split at same
    · rename_i second
      exact ByteArray.ext (first.trans second.symm)
    · split at same
      · exact (different same).elim
      · exact (odd spacedDigest rfl b same).elim
  · split at same
    · rename_i first
      split at same
      · exact (different same.symm).elim
      · split at same
        · rename_i second
          exact ByteArray.ext (first.trans second.symm)
        · exact (odd printedDigest rfl b same).elim
    · split at same
      · exact (odd spacedDigest rfl a same.symm).elim
      · split at same
        · exact (odd printedDigest rfl a same.symm).elim
        · have digits := (List.cons.inj (String.ofList_injective same)).2
          exact ByteArray.ext (Array.toList_inj.mp (hexText_inj digits))

theorem printedBody_stringify :
    printedBody.toList = (JsonValue.object [(utf16 "eventId", .string (utf16 "e1"))]).stringify := by decide

theorem spacedBody_parsed : jsonParse spacedBody = some (.object [(utf16 "eventId", .string (utf16 "e1"))]) := by
  have read : readJson spacedBody.toList = some (.object [(utf16 "eventId", .string (utf16 "e1"))]) := rfl
  unfold jsonParse
  rw [read]
  rfl

theorem samplePayload_settled : (JsonValue.object [(utf16 "eventId", .string (utf16 "e1"))]).Settled :=
  ⟨List.nodup_singleton _, List.pairwise_singleton _ _, trivial, trivial⟩

def webhookSecretText : JsString := utf16 "webhook-secret-key"

theorem authenticatesReceived_printed : AuthenticatesReceived injectiveHmac webhookSecretText printedBody :=
  (authenticatesReceived_iff injectiveHmac_digits (injectiveHmac_injective _)
    ⟨_, jsonParse_settled samplePayload_settled printedBody_stringify⟩).mpr
    ⟨by decide, _, samplePayload_settled, printedBody_stringify⟩

/-- With a space in the body, the signature of what it is printed to is accepted, and its own is not. -/
theorem spacedBody_refused : (∃ members, jsonParse spacedBody = some (.object members)) ∧
    AcceptsSignature injectiveHmac webhookSecretText spacedBody
      (JsString.generateWebhookSignature injectiveHmac (utf16 printedBody) webhookSecretText) ∧
    ¬AcceptsSignature injectiveHmac webhookSecretText spacedBody
      (JsString.generateWebhookSignature injectiveHmac (utf16 spacedBody) webhookSecretText) ∧
    ¬AuthenticatesReceived injectiveHmac webhookSecretText spacedBody := by
  have ascii (text : JsString) := (generateWebhookSignature_ascii injectiveHmac_digits text webhookSecretText).1
  have printed (text : JsString) : AcceptsSignature injectiveHmac webhookSecretText spacedBody
      (JsString.generateWebhookSignature injectiveHmac text webhookSecretText) ↔
      spacedBody.utf8ByteSize ≤ jsonBodyLimit ∧
        JsString.generateWebhookSignature injectiveHmac text webhookSecretText =
          JsString.generateWebhookSignature injectiveHmac (utf16 printedBody) webhookSecretText := by
    rw [acceptsSignature_printed injectiveHmac_digits (ascii text) spacedBody_parsed, ← printedBody_stringify,
      String.ofList_toList]
  have refused : ¬AcceptsSignature injectiveHmac webhookSecretText spacedBody
      (JsString.generateWebhookSignature injectiveHmac (utf16 spacedBody) webhookSecretText) := by
    intro accepted
    have same := ((printed _).mp accepted).2
    exact absurd (generateWebhookSignature_inj (injectiveHmac_injective _) same) (by decide)
  refine ⟨⟨_, spacedBody_parsed⟩, (printed _).mpr ⟨by decide, rfl⟩, refused, ?_⟩
  intro exactly
  exact refused ((exactly _ (ascii _)).mpr rfl)

end PaymentModel
