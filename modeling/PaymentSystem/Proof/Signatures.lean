import PaymentSystem.Model.Signatures
import PaymentSystem.Proof.JsString

namespace PaymentModel

variable {text other signature payload secret : JsString} {unit high low : UInt16} {c : Char} {hmac : Hmac}

/-- Every unit is an ASCII character. -/
def Ascii (text : JsString) : Prop := ∀ unit ∈ text, unit.toNat < 128

/-- The length of the UTF-8 bytes of the characters. -/
def utf8Length (chars : List Char) : Nat := (chars.map Char.utf8Size).sum

theorem utf8Length_cons (chars : List Char) : utf8Length (c :: chars) = c.utf8Size + utf8Length chars := by
  simp [utf8Length]

theorem utf8ByteSize_ofList (chars : List Char) : (String.ofList chars).utf8ByteSize = utf8Length chars := by
  induction chars with
  | nil => rfl
  | cons c chars ih =>
    have split : String.ofList (c :: chars) = String.singleton c ++ String.ofList chars := by
      rw [← String.toList_inj]
      simp
    rw [split, String.utf8ByteSize_append, String.utf8ByteSize_singleton, ih, utf8Length_cons]

theorem bufferFrom_size : (bufferFrom text).size = utf8Length (wellFormed text) := utf8ByteSize_ofList _

theorem utf8Size_eq_one : c.utf8Size = 1 ↔ c.toNat < 128 := by
  rw [Char.utf8Size_eq_one_iff, UInt32.le_iff_toNat_le]
  exact Nat.lt_succ_iff.symm

theorem utf8Size_pairChar (h : isHighSurrogate high = true) (l : isLowSurrogate low = true) :
    (pairChar high low).utf8Size = 4 := by
  have value := pairChar_toNat h l
  rw [Char.utf8Size_eq_four_iff, UInt32.lt_iff_toNat_lt]
  change 0xffff < (pairChar high low).toNat
  omega

theorem wellFormedUnit_ascii (single : (wellFormed.wellFormedUnit unit).utf8Size = 1) : unit.toNat < 128 := by
  unfold wellFormed.wellFormedUnit at single
  split at single
  · cases single
  · rename_i plain
    rw [utf8Size_eq_one, plain_toNat plain] at single
    exact single

/-- A string has at least as many bytes as units, and as many only if it is ASCII. -/
theorem length_le_utf8Length (text : JsString) : text.length ≤ utf8Length (wellFormed text) ∧
    (utf8Length (wellFormed text) = text.length → Ascii text) := by
  fun_induction wellFormed text with
  | case1 => exact ⟨Nat.le_refl _, nofun⟩
  | case2 unit =>
    have positive := Char.utf8Size_pos (wellFormed.wellFormedUnit unit)
    have bytes : utf8Length [wellFormed.wellFormedUnit unit] = (wellFormed.wellFormedUnit unit).utf8Size :=
      utf8Length_cons []
    rw [bytes, List.length_singleton]
    refine ⟨positive, fun single => ?_⟩
    simpa [Ascii] using wellFormedUnit_ascii single
  | case3 high low units pair ih =>
    obtain ⟨h, l⟩ := Bool.and_eq_true_iff.mp pair
    have bytes := utf8Size_pairChar h l
    have shorter := ih.1
    rw [utf8Length_cons, bytes, List.length_cons, List.length_cons]
    refine ⟨by omega, fun same => ?_⟩
    omega
  | case4 high low units alone ih =>
    have positive := Char.utf8Size_pos (wellFormed.wellFormedUnit high)
    have shorter := ih.1
    rw [utf8Length_cons, List.length_cons]
    refine ⟨by omega, fun same => ?_⟩
    have single : (wellFormed.wellFormedUnit high).utf8Size = 1 := by omega
    have ascii := ih.2 (by omega)
    exact List.forall_mem_cons.mpr ⟨wellFormedUnit_ascii single, ascii⟩

theorem plain_of_ascii (ascii : unit.toNat < 128) : ¬(isHighSurrogate unit || isLowSurrogate unit) = true := by
  rw [Bool.or_eq_true, isHighSurrogate_iff, isLowSurrogate_iff]
  omega

theorem wellFormed_ascii (ascii : Ascii text) : wellFormed text = text.map fun unit => Char.ofNat unit.toNat := by
  induction text with
  | nil => rfl
  | cons unit units ih =>
    obtain ⟨here, rest⟩ := List.forall_mem_cons.mp ascii
    rw [wellFormed_plain (plain_of_ascii here), ih rest, List.map_cons]

theorem bufferFrom_ascii (ascii : Ascii text) : (bufferFrom text).size = text.length := by
  rw [bufferFrom_size, wellFormed_ascii ascii]
  induction text with
  | nil => rfl
  | cons unit units ih =>
    obtain ⟨here, rest⟩ := List.forall_mem_cons.mp ascii
    have single : (Char.ofNat unit.toNat).utf8Size = 1 := by
      rw [utf8Size_eq_one, plain_toNat (plain_of_ascii here)]
      exact here
    rw [List.map_cons, utf8Length_cons, ih rest, single, List.length_cons, Nat.add_comm]

theorem utf16_wellFormed (ascii : Ascii text) : utf16 (String.ofList (wellFormed text)) = text := by
  induction text with
  | nil => rfl
  | cons unit units ih =>
    obtain ⟨here, rest⟩ := List.forall_mem_cons.mp ascii
    rw [wellFormed_plain (plain_of_ascii here), utf16_cons, ih rest, utf16OfChar_ofNat (plain_of_ascii here),
      List.singleton_append]

theorem bufferFrom_injective (ascii : Ascii text) (ascii' : Ascii other) (same : bufferFrom text = bufferFrom other) :
    text = other := by
  have strings : String.ofList (wellFormed text) = String.ofList (wellFormed other) := String.toByteArray_inj.mp same
  rw [← utf16_wellFormed ascii, strings, utf16_wellFormed ascii']

theorem utf16_ascii {letters : String} (ascii : ∀ c ∈ letters.toList, c.toNat < 128) :
    Ascii (utf16 letters) ∧ (utf16 letters).length = letters.length := by
  rw [← String.ofList_toList (s := letters)] at ascii ⊢
  generalize letters.toList = chars at ascii ⊢
  induction chars with
  | nil => exact ⟨nofun, rfl⟩
  | cons c chars ih =>
    rw [String.toList_ofList] at ascii ih
    obtain ⟨here, rest⟩ := List.forall_mem_cons.mp ascii
    obtain ⟨ascii, length⟩ := ih rest
    have single : utf16OfChar c = [UInt16.ofNat c.toNat] := if_pos (by omega)
    have value : (UInt16.ofNat c.toNat).toNat = c.toNat := UInt16.toNat_ofNat_of_lt' (show _ < 65536 by omega)
    rw [utf16_cons, single, List.singleton_append]
    refine ⟨List.forall_mem_cons.mpr ⟨by rwa [value], ascii⟩, ?_⟩
    rw [List.length_cons, length, String.length_ofList, String.length_ofList, List.length_cons]

theorem isHexDigit_ascii (digit : isHexDigit c = true) : c.toNat < 128 := by
  unfold isHexDigit at digit
  rcases Bool.or_eq_true_iff.mp digit with digit | letter
  · have bound := (Char.isDigit_iff_toNat.mp digit).2
    have nine : '9'.toNat = 57 := rfl
    omega
  · simp only [Bool.and_eq_true, decide_eq_true_eq] at letter
    omega

/-- The expected signature is ASCII when the digest is hexadecimal. -/
theorem generateWebhookSignature_ascii (digits : ∀ key data, ∀ c ∈ (hmac key data).toList, isHexDigit c = true)
    (payload secret : JsString) :
    Ascii (JsString.generateWebhookSignature hmac payload secret) ∧
      (JsString.generateWebhookSignature hmac payload secret).length =
        7 + (hmac (bufferFrom secret) (bufferFrom payload)).length := by
  have letters : ∀ c ∈ ("sha256=" ++ hmac (bufferFrom secret) (bufferFrom payload)).toList, c.toNat < 128 := by
    intro c member
    rw [String.toList_append] at member
    rcases List.mem_append.mp member with first | digit
    · have all : ("sha256=".toList.all fun c => c.toNat < 128) = true := by decide
      exact of_decide_eq_true (List.all_eq_true.mp all c first)
    · exact isHexDigit_ascii (digits _ _ c digit)
  obtain ⟨ascii, length⟩ := utf16_ascii letters
  refine ⟨ascii, length.trans ?_⟩
  rw [String.length_append]
  rfl

/-- Two ASCII strings have different lengths, or their bytes are compared. -/
theorem verifyWebhookSignature_ascii (expected : Ascii (JsString.generateWebhookSignature hmac payload secret))
    (ascii : Ascii signature) : JsString.verifyWebhookSignature hmac payload signature secret =
      .ok (signature = JsString.generateWebhookSignature hmac payload secret) := by
  unfold JsString.verifyWebhookSignature timingSafeEqual
  generalize JsString.generateWebhookSignature hmac payload secret = text at expected ⊢
  dsimp only
  rw [bufferFrom_ascii expected, bufferFrom_ascii ascii]
  by_cases same : text.length = signature.length
  · have bytes : (bufferFrom text).data = (bufferFrom signature).data ↔ signature = text :=
      ⟨fun data => (bufferFrom_injective expected ascii (ByteArray.ext data)).symm, fun same => same ▸ rfl⟩
    rw [if_neg (not_not.mpr same), if_neg (not_not.mpr same), decide_eq_decide.mpr bytes]
  · have different : signature ≠ text := fun equal => same (congrArg List.length equal.symm)
    rw [if_pos same, decide_eq_false different]

theorem bufferFrom_utf16 (letters : String) : bufferFrom (utf16 letters) = letters.toUTF8 := by
  rw [bufferFrom, wellFormed_utf16, String.ofList_toList]

theorem utf16_length (letters : String) : (utf16 letters).length = utf16Length letters := by
  unfold utf16 utf16Length
  rw [List.length_flatMap]
  congr 2
  funext c
  unfold utf16OfChar
  split <;> rfl

/-- On text, the check of the service is the check of its code units. -/
theorem verifyWebhookSignature_utf16 {site : Deployment} (payload signature : String)
    (digest : site.hmacSha256 site.webhookSecret payload = hmac site.webhookSecret.toUTF8 payload.toUTF8) :
    verifyWebhookSignature site payload signature =
      JsString.verifyWebhookSignature hmac (utf16 payload) (utf16 signature) (utf16 site.webhookSecret) := by
  have expected : JsString.generateWebhookSignature hmac (utf16 payload) (utf16 site.webhookSecret) =
      utf16 (generateWebhookSignature site payload) := by
    unfold JsString.generateWebhookSignature generateWebhookSignature
    rw [bufferFrom_utf16, bufferFrom_utf16, digest]
  unfold verifyWebhookSignature JsString.verifyWebhookSignature timingSafeEqual
  dsimp only
  rw [expected, utf16_length, utf16_length, bufferFrom_utf16, bufferFrom_utf16]
  have bytes : (generateWebhookSignature site payload).toUTF8.data = signature.toUTF8.data ↔
      generateWebhookSignature site payload = signature := ByteArray.ext_iff.symm.trans String.toByteArray_inj
  have sizes (letters : String) : letters.toUTF8.size = letters.utf8ByteSize := rfl
  rw [sizes, sizes, decide_eq_decide.mpr bytes]

end PaymentModel
