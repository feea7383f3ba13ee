import PaymentSystem.Model.JsString

namespace PaymentModel

variable {units : JsString} {unit high low : UInt16} {c : Char}

theorem toNat_ofNat {n : Nat} (valid : n.isValidChar) : (Char.ofNat n).toNat = n := by
  unfold Char.ofNat
  rw [dif_pos valid]
  rfl

theorem isValidChar_of_small {n : Nat} (small : n < 0xD800) : n.isValidChar := .inl small

theorem isValidChar_of_large {n : Nat} (large : 0xE000 ≤ n) (bounded : n < 0x110000) : n.isValidChar :=
  .inr ⟨by omega, bounded⟩

theorem unit_eq (unit : UInt16) {n : Nat} (same : n = unit.toNat) : UInt16.ofNat n = unit := by
  subst same
  exact UInt16.ofNat_toNat

theorem isHighSurrogate_iff : isHighSurrogate unit = true ↔ 0xD800 ≤ unit.toNat ∧ unit.toNat < 0xDC00 := by
  simp [isHighSurrogate]

theorem isLowSurrogate_iff : isLowSurrogate unit = true ↔ 0xDC00 ≤ unit.toNat ∧ unit.toNat < 0xE000 := by
  simp [isLowSurrogate]

theorem pairChar_toNat (h : isHighSurrogate high = true) (l : isLowSurrogate low = true) :
    (pairChar high low).toNat = 0x10000 + (high.toNat - 0xD800) * 0x400 + (low.toNat - 0xDC00) := by
  rw [isHighSurrogate_iff] at h
  rw [isLowSurrogate_iff] at l
  exact toNat_ofNat (isValidChar_of_large (by omega) (by omega))

theorem utf16OfChar_pairChar (h : isHighSurrogate high = true) (l : isLowSurrogate low = true) :
    utf16OfChar (pairChar high low) = [high, low] := by
  have value := pairChar_toNat h l
  rw [isHighSurrogate_iff] at h
  rw [isLowSurrogate_iff] at l
  unfold utf16OfChar
  rw [if_neg (by omega), unit_eq high (by omega), unit_eq low (by omega)]

theorem plain_toNat (plain : ¬(isHighSurrogate unit || isLowSurrogate unit) = true) :
    (Char.ofNat unit.toNat).toNat = unit.toNat := by
  rw [Bool.or_eq_true, isHighSurrogate_iff, isLowSurrogate_iff] at plain
  have bound : unit.toNat < 65536 := unit.toNat_lt
  apply toNat_ofNat
  by_cases small : unit.toNat < 0xD800
  · exact isValidChar_of_small small
  · exact isValidChar_of_large (by omega) (by omega)

theorem utf16OfChar_ofNat (plain : ¬(isHighSurrogate unit || isLowSurrogate unit) = true) :
    utf16OfChar (Char.ofNat unit.toNat) = [unit] := by
  have bound : unit.toNat < 65536 := unit.toNat_lt
  unfold utf16OfChar
  rw [plain_toNat plain, if_pos bound, unit_eq unit rfl]

theorem ne_of_toNat {d : Char} (different : c.toNat ≠ d.toNat) : c ≠ d := fun same => different (congrArg _ same)

/-- A character is one unit that is no surrogate, or a surrogate pair. -/
theorem utf16OfChar_cases (c : Char) :
    (∃ unit, utf16OfChar c = [unit] ∧ ¬(isHighSurrogate unit || isLowSurrogate unit) = true ∧
      Char.ofNat unit.toNat = c) ∨
    ∃ high low, utf16OfChar c = [high, low] ∧ isHighSurrogate high = true ∧ isLowSurrogate low = true ∧
      pairChar high low = c := by
  have valid : c.toNat < 0xD800 ∨ (0xDFFF < c.toNat ∧ c.toNat < 0x110000) := c.valid
  unfold utf16OfChar
  split
  · rename_i small
    have value : (UInt16.ofNat c.toNat).toNat = c.toNat := UInt16.toNat_ofNat_of_lt' small
    refine .inl ⟨_, rfl, ?_, by rw [value, Char.ofNat_toNat]⟩
    rw [Bool.or_eq_true, isHighSurrogate_iff, isLowSurrogate_iff, value]
    omega
  · have high : (UInt16.ofNat (0xD800 + (c.toNat - 0x10000) / 0x400)).toNat =
        0xD800 + (c.toNat - 0x10000) / 0x400 := UInt16.toNat_ofNat_of_lt' (show _ < 65536 by omega)
    have low : (UInt16.ofNat (0xDC00 + (c.toNat - 0x10000) % 0x400)).toNat =
        0xDC00 + (c.toNat - 0x10000) % 0x400 := UInt16.toNat_ofNat_of_lt' (show _ < 65536 by omega)
    refine .inr ⟨_, _, rfl, ?_, ?_, ?_⟩
    · rw [isHighSurrogate_iff, high]
      omega
    · rw [isLowSurrogate_iff, low]
      omega
    · have same : 0x10000 + (0xD800 + (c.toNat - 0x10000) / 0x400 - 0xD800) * 0x400 +
          (0xDC00 + (c.toNat - 0x10000) % 0x400 - 0xDC00) = c.toNat := by omega
      rw [pairChar, high, low, same, Char.ofNat_toNat]

theorem utf16_cons {text : List Char} : utf16 (String.ofList (c :: text)) =
    utf16OfChar c ++ utf16 (String.ofList text) := by
  simp [utf16]

theorem quoteChar_plain (mark : c.toNat ≠ 34) (escape : c.toNat ≠ 92) (printable : 32 ≤ c.toNat) :
    Json.quoteChar c = [c] := by
  unfold Json.quoteChar
  dsimp only
  split
  case h_8 => rw [if_neg (by omega)]
  all_goals omega

theorem quoteUnits_plain (plain : ¬(isHighSurrogate unit || isLowSurrogate unit) = true) :
    quoteUnits (unit :: units) = Json.quoteChar (Char.ofNat unit.toNat) ++ quoteUnits units := by
  have single : quoteUnit unit = Json.quoteChar (Char.ofNat unit.toNat) := if_neg plain
  have low : isHighSurrogate unit = false := by
    simp only [Bool.or_eq_true, not_or, Bool.not_eq_true] at plain
    exact plain.1
  cases units with
  | nil => exact single.trans (List.append_nil _).symm
  | cons next units => rw [quoteUnits, low, Bool.false_and, if_neg Bool.false_ne_true, single]

/-- What is printed for a well-formed string is printed character by character. -/
theorem quoteUnits_utf16 (text : String) : quoteUnits (utf16 text) = text.toList.flatMap Json.quoteChar := by
  rw [← String.ofList_toList (s := text)]
  generalize text.toList = chars
  rw [String.toList_ofList]
  induction chars with
  | nil => rfl
  | cons c chars ih =>
    rw [utf16_cons, List.flatMap_cons]
    rcases utf16OfChar_cases c with ⟨unit, is, plain, same⟩ | ⟨high, low, is, h, l, same⟩
    · rw [is, List.singleton_append, quoteUnits_plain plain, ih, same]
    · have large := pairChar_toNat h l
      rw [same] at large
      rw [is, List.cons_append, List.singleton_append, quoteUnits, h, l, Bool.and_self, if_pos rfl, ih, same,
        quoteChar_plain (by omega) (by omega) (by omega), List.singleton_append]

theorem wellFormed_plain (plain : ¬(isHighSurrogate unit || isLowSurrogate unit) = true) :
    wellFormed (unit :: units) = Char.ofNat unit.toNat :: wellFormed units := by
  have single : wellFormed.wellFormedUnit unit = Char.ofNat unit.toNat := if_neg plain
  have low : isHighSurrogate unit = false := by
    simp only [Bool.or_eq_true, not_or, Bool.not_eq_true] at plain
    exact plain.1
  cases units with
  | nil => exact congrArg (fun c => [c]) single
  | cons next units => rw [wellFormed, low, Bool.false_and, if_neg Bool.false_ne_true, single]

theorem wellFormed_utf16 (text : String) : wellFormed (utf16 text) = text.toList := by
  rw [← String.ofList_toList (s := text)]
  generalize text.toList = chars
  rw [String.toList_ofList]
  induction chars with
  | nil => rfl
  | cons c chars ih =>
    rw [utf16_cons]
    rcases utf16OfChar_cases c with ⟨unit, is, plain, same⟩ | ⟨high, low, is, h, l, same⟩
    · rw [is, List.singleton_append, wellFormed_plain plain, ih, same]
    · rw [is, List.cons_append, List.singleton_append, wellFormed, h, l, Bool.and_self, if_pos rfl, ih, same]

theorem utf16_injective : Function.Injective utf16 := by
  intro a b same
  have texts := wellFormed_utf16 a
  rw [same, wellFormed_utf16] at texts
  exact String.toList_inj.mp texts.symm

end PaymentModel
