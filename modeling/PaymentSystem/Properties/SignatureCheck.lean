import PaymentSystem.Proof.Signatures

namespace PaymentModel

variable {hmac : Hmac}

/-- The check answers, and it accepts the expected signature only. -/
def Exact (hmac : Hmac) (payload signature secret : JsString) : Prop :=
  ∃ answer, JsString.verifyWebhookSignature hmac payload signature secret = .ok answer ∧
    (answer = true ↔ signature = JsString.generateWebhookSignature hmac payload secret)

/-- The check throws for the strings that have the length of a signature and are not ASCII; it is exact for
    all others. -/
theorem verifyWebhookSignature_iff (hex : hmac.Hex) (payload signature secret : JsString) :
    Exact hmac payload signature secret ↔ signature.length ≠ 71 ∨ Ascii signature := by
  obtain ⟨expected, length⟩ := generateWebhookSignature_ascii hex.digits payload secret
  rw [hex.length] at length
  by_cases ascii : Ascii signature
  · refine ⟨fun _ => .inr ascii, fun _ => ⟨_, verifyWebhookSignature_ascii expected ascii, ?_⟩⟩
    exact decide_eq_true_iff
  · unfold Exact JsString.verifyWebhookSignature
    dsimp only
    rw [length]
    by_cases long : signature.length = 71
    · have longer : ¬71 = (bufferFrom signature).size := by
        intro same
        rw [bufferFrom_size, ← long] at same
        exact ascii ((length_le_utf8Length signature).2 same.symm)
      unfold timingSafeEqual
      rw [if_neg (by omega), bufferFrom_ascii expected, length, if_pos longer]
      constructor
      · rintro ⟨answer, is, _⟩
        cases is
      · rintro (other | is)
        · exact (other long).elim
        · exact (ascii is).elim
    · rw [if_pos (by omega)]
      refine ⟨fun _ => .inl long, fun _ => ⟨false, rfl, nofun, fun same => ?_⟩⟩
      rw [same] at long
      exact (long length).elim

/-- A function that returns the digest of the sample payload. -/
def sampleHmac : Hmac := fun _ _ => sampleDigest
where sampleDigest := "0e006f637160b34d9a8f244fe401e17d31660f571040066355fea3bb46dcc439"

theorem sampleHmac_hex : sampleHmac.Hex where
  length _ _ := (by decide : sampleHmac.sampleDigest.length = 64)
  digits _ _ := List.all_eq_true.mp (by decide : sampleHmac.sampleDigest.toList.all isHexDigit = true)

def samplePayload : JsString := utf16 "\x7b\"eventId\":\"evt_1\"\x7d"

def sampleSecret : JsString := utf16 "webhook-secret-key"

def sampleSignature : JsString := JsString.generateWebhookSignature sampleHmac samplePayload sampleSecret

theorem verifyWebhookSignature_sample : Exact sampleHmac samplePayload sampleSignature sampleSecret :=
  (verifyWebhookSignature_iff sampleHmac_hex _ _ _).mpr
    (.inr (generateWebhookSignature_ascii sampleHmac_hex.digits samplePayload sampleSecret).1)

/-- A header of the right length with one letter that has two bytes. -/
def accentedSignature : JsString := sampleSignature.take 70 ++ [0xE9]

theorem verifyWebhookSignature_throws : accentedSignature.length = 71 ∧
    (∃ e, JsString.verifyWebhookSignature sampleHmac samplePayload accentedSignature sampleSecret = .error e) ∧
    ¬Exact sampleHmac samplePayload accentedSignature sampleSecret := by
  have throws : ∃ e, JsString.verifyWebhookSignature sampleHmac samplePayload accentedSignature sampleSecret =
      .error e := ⟨_, rfl⟩
  refine ⟨by decide +kernel, throws, ?_⟩
  obtain ⟨e, threw⟩ := throws
  rintro ⟨answer, is, _⟩
  rw [threw] at is
  cases is

end PaymentModel
