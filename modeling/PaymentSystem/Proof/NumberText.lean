import Mathlib.Algebra.Order.Field.Rat
import PaymentSystem.Model.JsonText

namespace PaymentModel

namespace JsNumber

theorem trimZeros_scaled {m : Nat} (last : m % 10 ≠ 0) (j : Nat) : trimZeros (m * 10 ^ j) = (m, j) := by
  induction j with
  | zero =>
    rw [trimZeros, if_neg (by omega)]
    simp
  | succ j ih =>
    have positive : 0 < m * 10 ^ j := Nat.mul_pos (by omega) (Nat.pow_pos (by decide))
    have whole : m * 10 ^ (j + 1) / 10 = m * 10 ^ j := by
      rw [Nat.pow_succ, ← Nat.mul_assoc, Nat.mul_div_cancel _ (by decide)]
    rw [trimZeros, if_pos, whole, ih]
    rw [Nat.pow_succ, ← Nat.mul_assoc]
    omega

theorem ext' {a b : JsNumber} (mantissa : a.mantissa = b.mantissa) (exponent : a.exponent = b.exponent) : a = b := by
  obtain ⟨_, _, _⟩ := a
  obtain ⟨_, _, _⟩ := b
  cases mantissa
  cases exponent
  rfl

/-- A canonical number is read from its digits and any zeros that follow them. -/
theorem ofDecimal_scaled (n : JsNumber) (j : Nat) (exponent : Int) (same : exponent + j = n.exponent) :
    n.mantissa ≠ 0 →
      ofDecimal (decide (n.mantissa < 0)) (n.mantissa.natAbs * 10 ^ j) exponent = n := by
  intro nonzero
  have last : n.mantissa.natAbs % 10 ≠ 0 := by
    have := n.canonical
    omega
  have positive : n.mantissa.natAbs * 10 ^ j ≠ 0 :=
    Nat.mul_ne_zero (by omega) (Nat.pos_iff_ne_zero.mp (Nat.pow_pos (by decide)))
  unfold ofDecimal
  rw [dif_neg positive]
  apply ext'
  · simp only [trimZeros_scaled last, decide_eq_true_eq]
    split <;> omega
  · simp only [trimZeros_scaled last, same]

theorem ofDecimal_zero (n : JsNumber) (zero : n.mantissa = 0) (negative : Bool) (exponent : Int) :
    ofDecimal negative 0 exponent = n := by
  unfold ofDecimal
  rw [dif_pos rfl]
  apply ext'
  · exact zero.symm
  · have := n.canonical
    dsimp only
    omega

/-- The digits of the mantissa. -/
def digits (n : JsNumber) : List Char := Nat.toDigits 10 n.mantissa.natAbs

theorem digits_digit {n : JsNumber} : ∀ c ∈ n.digits, c.isDigit = true := by
  intro c member
  exact Nat.isDigit_of_mem_toDigits (by decide) (by decide) member

theorem head_toDigits {m : Nat} (positive : 0 < m) : (Nat.toDigits 10 m).head? ≠ some '0' := by
  induction m using Nat.strongRecOn with
  | ind m ih =>
    rw [Nat.toDigits_eq_if (by decide)]
    split
    · rename_i small
      rw [List.head?_cons]
      intro zero
      have := congrArg Char.toNat (Option.some.inj zero)
      rw [Nat.toNat_digitChar_of_lt_ten small] at this
      simp at this
      omega
    · have shorter := ih (m / 10) (by omega) (by omega)
      cases digits : Nat.toDigits 10 (m / 10) with
      | nil => exact (Nat.toDigits_ne_nil digits).elim
      | cons d rest => rwa [digits] at shorter

/-- `toText` without the sign, as characters. -/
def unsigned (n : JsNumber) : List Char :=
  let k := n.digits.length
  let point := n.exponent + k
  if k ≤ point ∧ point ≤ 21 then n.digits ++ List.replicate (point.toNat - k) '0'
  else if 0 < point ∧ point ≤ 21 then n.digits.take point.toNat ++ '.' :: n.digits.drop point.toNat
  else if -6 < point ∧ point ≤ 0 then '0' :: '.' :: (List.replicate (-point).toNat '0' ++ n.digits)
  else
    n.digits.take 1 ++ ((if k = 1 then [] else '.' :: n.digits.drop 1) ++
      'e' :: ((if point - 1 < 0 then ['-'] else ['+']) ++ Nat.toDigits 10 (point - 1).natAbs))

theorem toText_toList (n : JsNumber) :
    n.toText.toList = if n.mantissa < 0 then '-' :: n.unsigned else n.unsigned := by
  have dot : ".".toList = ['.'] := rfl
  have zero : "0.".toList = ['0', '.'] := rfl
  have mark : "e".toList = ['e'] := rfl
  have minus : "-".toList = ['-'] := rfl
  have plus : "+".toList = ['+'] := rfl
  have empty : "".toList = [] := rfl
  unfold toText unsigned digits
  simp only [apply_ite String.toList, String.toList_append, String.toList_ofList, Nat.toList_repr, dot, zero, mark,
    minus, plus, empty, List.cons_append, List.append_assoc, List.nil_append]
  split <;> rfl

theorem span_digits {digits : List Char} (rest : List Char) (all : ∀ c ∈ digits, c.isDigit = true)
    (stops : ∀ c ∈ rest.head?, c.isDigit = false) :
    (digits ++ rest).takeWhile Char.isDigit = digits ∧ (digits ++ rest).dropWhile Char.isDigit = rest := by
  rw [List.takeWhile_append_of_pos all, List.dropWhile_append_of_pos all]
  cases rest with
  | nil => simp
  | cons c rest => simp [stops c rfl]

structure IsDigits (text : List Char) : Prop where
  nonempty : text ≠ []
  all : ∀ c ∈ text, c.isDigit = true

/-- The digits before the point do not begin with a zero, unless that is all. -/
structure IsWhole (text : List Char) : Prop extends IsDigits text where
  leading : text.head? = some '0' → text.length = 1

theorem not_digit_of_mark {c : Char} (mark : isExponentMark c = true) : c.isDigit = false := by
  unfold isExponentMark at mark
  simp only [Bool.or_eq_true, decide_eq_true_eq] at mark
  rcases mark with rfl | rfl <;> rfl

theorem IsWhole.guard {whole : List Char} (is : IsWhole whole) :
    ¬(whole = [] ∨ (whole.head? = some '0' ∧ 1 < whole.length)) := by
  rintro (none | ⟨zero, longer⟩)
  · exact is.nonempty none
  · have := is.leading zero
    omega

theorem readUnsigned_whole (negative : Bool) {whole : List Char} (rest : List Char) {exponent : Int}
    (is : IsWhole whole) (stops : ∀ c ∈ rest.head?, isExponentMark c = true)
    (read : readExponent rest = some exponent) :
    readUnsigned negative (whole ++ rest) = some (ofDecimal negative (Nat.ofDigitChars 10 whole 0) exponent) := by
  obtain ⟨taken, dropped⟩ := span_digits rest is.all fun c head => not_digit_of_mark (stops c head)
  unfold readUnsigned
  simp only [taken, dropped]
  rw [if_neg is.guard]
  split
  · have dot := stops '.' rfl
    cases dot
  · rw [read]
    rfl

theorem readUnsigned_fraction (negative : Bool) {whole fraction : List Char} (rest : List Char) {exponent : Int}
    (is : IsWhole whole) (digits : IsDigits fraction) (stops : ∀ c ∈ rest.head?, isExponentMark c = true)
    (read : readExponent rest = some exponent) : readUnsigned negative (whole ++ '.' :: (fraction ++ rest)) =
      some (ofDecimal negative (Nat.ofDigitChars 10 (whole ++ fraction) 0) (exponent - fraction.length)) := by
  obtain ⟨taken, dropped⟩ := span_digits ('.' :: (fraction ++ rest)) is.all (by rintro c ⟨⟩; rfl)
  obtain ⟨taken', dropped'⟩ := span_digits rest digits.all fun c head => not_digit_of_mark (stops c head)
  unfold readUnsigned
  simp only [taken, dropped]
  rw [if_neg is.guard]
  simp only [taken', dropped']
  rw [if_neg digits.nonempty, read]
  rfl

theorem isDigits_toDigits (m : Nat) : IsDigits (Nat.toDigits 10 m) where
  nonempty := Nat.toDigits_ne_nil
  all _ member := Nat.isDigit_of_mem_toDigits (by decide) (by decide) member

theorem readDigits_toDigits (m : Nat) : readDigits (Nat.toDigits 10 m) = some m := by
  unfold readDigits
  rw [if_pos ⟨Nat.toDigits_ne_nil, List.all_eq_true.mpr (isDigits_toDigits m).all⟩, Nat.ofDigitChars_ten_toDigits]

theorem readExponent_printed (scale : Int) :
    readExponent ('e' :: ((if scale < 0 then ['-'] else ['+']) ++ Nat.toDigits 10 scale.natAbs)) = some scale := by
  by_cases negative : scale < 0
  · rw [if_pos negative]
    change (readDigits (Nat.toDigits 10 scale.natAbs)).map (fun (n : Nat) => -(n : Int)) = _
    rw [readDigits_toDigits, Option.map_some]
    exact congrArg some (by omega)
  · rw [if_neg negative]
    change (readDigits (Nat.toDigits 10 scale.natAbs)).map (fun (n : Nat) => (n : Int)) = _
    rw [readDigits_toDigits, Option.map_some]
    exact congrArg some (by omega)

theorem isWhole_zero : IsWhole ['0'] where
  nonempty := by simp
  all := by simp
  leading _ := rfl

theorem isWhole_of_digits {m : Nat} (positive : 0 < m) {text : List Char} (nonempty : text ≠ [])
    (all : ∀ c ∈ text, c.isDigit = true) (head : text.head? = (Nat.toDigits 10 m).head?) : IsWhole text where
  nonempty := nonempty
  all := all
  leading zero := (head_toDigits positive (head ▸ zero)).elim

theorem isDigits_zeros {digits : List Char} (is : IsDigits digits) (zeros : Nat) :
    IsDigits (List.replicate zeros '0' ++ digits) where
  nonempty := by simp [is.nonempty]
  all c member := by
    rcases List.mem_append.mp member with member | member
    · rw [List.eq_of_mem_replicate member]
      rfl
    · exact is.all c member

theorem isDigits_drop {m count : Nat} (shorter : count < (Nat.toDigits 10 m).length) :
    IsDigits ((Nat.toDigits 10 m).drop count) where
  nonempty := by simpa using shorter
  all c member := (isDigits_toDigits m).all c (List.mem_of_mem_drop member)

theorem isWhole_take {m count : Nat} (positive : 0 < m) (some_digit : 0 < count) :
    IsWhole ((Nat.toDigits 10 m).take count) := by
  refine isWhole_of_digits positive ?_ (fun c member => (isDigits_toDigits m).all c (List.mem_of_mem_take member)) ?_
  · have digits := (isDigits_toDigits m).nonempty
    rw [Ne, List.take_eq_nil_iff, not_or]
    exact ⟨by omega, digits⟩
  · rw [List.head?_take, if_neg (by omega)]

variable {negative : Bool} {m : Nat}

theorem readUnsigned_integer (positive : 0 < m) (zeros : Nat) :
    readUnsigned negative (Nat.toDigits 10 m ++ List.replicate zeros '0') =
      some (ofDecimal negative (m * 10 ^ zeros) 0) := by
  have whole : IsWhole (Nat.toDigits 10 m ++ List.replicate zeros '0') := by
    apply isWhole_of_digits positive
    · simp
    · intro c member
      rcases List.mem_append.mp member with member | member
      · exact (isDigits_toDigits m).all c member
      · rw [List.eq_of_mem_replicate member]
        rfl
    · cases digits : Nat.toDigits 10 m with
      | nil => exact (Nat.toDigits_ne_nil digits).elim
      | cons d rest => rfl
  have read := readUnsigned_whole negative [] whole (by simp) rfl
  rwa [List.append_nil, Nat.ofDigitChars_append, Nat.ofDigitChars_ten_toDigits, Nat.ofDigitChars_replicate_zero,
    Nat.mul_comm] at read

theorem readUnsigned_pointed {count : Nat} (positive : 0 < m) (some_digit : 0 < count)
    (shorter : count < (Nat.toDigits 10 m).length) :
    readUnsigned negative ((Nat.toDigits 10 m).take count ++ '.' :: (Nat.toDigits 10 m).drop count) =
      some (ofDecimal negative m (-((Nat.toDigits 10 m).length - count : Nat))) := by
  have read := readUnsigned_fraction negative [] (isWhole_take positive some_digit) (isDigits_drop shorter)
    (by simp) rfl
  rwa [List.append_nil, List.take_append_drop, List.length_drop, Nat.ofDigitChars_ten_toDigits, Int.zero_sub] at read

theorem readUnsigned_small (zeros : Nat) :
    readUnsigned negative ('0' :: '.' :: (List.replicate zeros '0' ++ Nat.toDigits 10 m)) =
      some (ofDecimal negative m (-(zeros + (Nat.toDigits 10 m).length : Nat))) := by
  have read := readUnsigned_fraction negative [] isWhole_zero (isDigits_zeros (isDigits_toDigits m) zeros)
    (by simp) rfl
  rw [List.append_nil, List.length_append, List.length_replicate, Int.zero_sub] at read
  have value : Nat.ofDigitChars 10 (['0'] ++ (List.replicate zeros '0' ++ Nat.toDigits 10 m)) 0 = m := by
    rw [Nat.ofDigitChars_append, Nat.ofDigitChars_append, Nat.ofDigitChars_replicate_zero]
    exact Nat.ofDigitChars_ten_toDigits
  rwa [value] at read

theorem readUnsigned_scientific (positive : 0 < m) (scale : Int) :
    readUnsigned negative ((Nat.toDigits 10 m).take 1 ++
      ((if (Nat.toDigits 10 m).length = 1 then [] else '.' :: (Nat.toDigits 10 m).drop 1) ++
        'e' :: ((if scale < 0 then ['-'] else ['+']) ++ Nat.toDigits 10 scale.natAbs))) =
      some (ofDecimal negative m (scale - ((Nat.toDigits 10 m).length - 1 : Nat))) := by
  have mark : ∀ c ∈ ('e' :: ((if scale < 0 then ['-'] else ['+']) ++ Nat.toDigits 10 scale.natAbs)).head?,
      isExponentMark c = true := by
    rintro c ⟨⟩
    rfl
  have whole := isWhole_take positive Nat.one_pos
  split
  · rename_i single
    have all : (Nat.toDigits 10 m).take 1 = Nat.toDigits 10 m := List.take_of_length_le (by omega)
    rw [all] at whole ⊢
    have read := readUnsigned_whole negative _ whole mark (readExponent_printed scale)
    rw [Nat.ofDigitChars_ten_toDigits] at read
    rw [List.nil_append, read, single, Nat.sub_self, Int.natCast_zero, Int.sub_zero]
  · rename_i several
    have longer : 1 < (Nat.toDigits 10 m).length := by
      have : 0 < (Nat.toDigits 10 m).length := Nat.length_toDigits_pos
      omega
    have read := readUnsigned_fraction negative _ whole (isDigits_drop longer) mark
      (readExponent_printed scale)
    rwa [List.take_append_drop, List.length_drop, Nat.ofDigitChars_ten_toDigits] at read

/-- What is printed without the sign is read as the number with that sign. -/
theorem readUnsigned_unsigned (n : JsNumber) (nonzero : n.mantissa ≠ 0) :
    readUnsigned (decide (n.mantissa < 0)) n.unsigned = some n := by
  have positive : 0 < n.mantissa.natAbs := by omega
  have exactly : ∀ exponent, exponent = n.exponent →
      some (ofDecimal (decide (n.mantissa < 0)) n.mantissa.natAbs exponent) = some n := by
    intro exponent same
    have unscaled := ofDecimal_scaled n 0 exponent (by omega) nonzero
    rw [Nat.pow_zero, Nat.mul_one] at unscaled
    rw [unscaled]
  have long : 0 < n.digits.length := Nat.length_toDigits_pos
  unfold unsigned
  dsimp only
  split
  · exact (readUnsigned_integer positive _).trans (congrArg some (ofDecimal_scaled n _ 0 (by omega) nonzero))
  · split
    · exact (readUnsigned_pointed positive (by omega) (show _ < n.digits.length by omega)).trans
        (exactly _ (show -((n.digits.length - _ : Nat) : Int) = _ by omega))
    · split
      · exact (readUnsigned_small _).trans (exactly _ (show -((_ + n.digits.length : Nat) : Int) = _ by omega))
      · exact (readUnsigned_scientific positive _).trans
          (exactly _ (show _ - ((n.digits.length - 1 : Nat) : Int) = _ by omega))

theorem toDigits_cons (m : Nat) : ∃ d rest, Nat.toDigits 10 m = d :: rest ∧ d.isDigit = true := by
  have digits := isDigits_toDigits m
  cases written : Nat.toDigits 10 m with
  | nil => exact (Nat.toDigits_ne_nil written).elim
  | cons d rest => exact ⟨d, rest, rfl, digits.all d (by simp [written])⟩

theorem unsigned_head (n : JsNumber) : ∃ d rest, n.unsigned = d :: rest ∧ d.isDigit = true := by
  obtain ⟨d, rest, written, digit⟩ := toDigits_cons n.mantissa.natAbs
  unfold unsigned digits
  rw [written]
  dsimp only
  split
  · exact ⟨d, _, rfl, digit⟩
  · split
    · rename_i pointed
      obtain ⟨count, is⟩ : ∃ count, (n.exponent + (d :: rest).length).toNat = count + 1 :=
        ⟨(n.exponent + (d :: rest).length).toNat - 1, by omega⟩
      rw [is]
      exact ⟨d, _, rfl, digit⟩
    · split
      · exact ⟨'0', _, rfl, rfl⟩
      · exact ⟨d, _, rfl, digit⟩

theorem read_positive {text : List Char} {d : Char} {rest : List Char} (head : text = d :: rest)
    (digit : d.isDigit = true) : read text = readUnsigned false text := by
  subst head
  unfold read
  split
  · rename_i minus
    cases minus
    cases digit
  · rfl

/-- What is printed for a number is read as that number. -/
theorem read_toText (n : JsNumber) : read n.toText.toList = some n := by
  rw [toText_toList]
  by_cases negative : n.mantissa < 0
  · rw [if_pos negative]
    have unsigned := readUnsigned_unsigned n (by omega)
    rwa [decide_eq_true negative] at unsigned
  · obtain ⟨d, rest, head, digit⟩ := unsigned_head n
    rw [if_neg negative, read_positive head digit]
    by_cases zero : n.mantissa = 0
    · have written : n.unsigned = ['0'] := by
        have canonical := n.canonical
        have exponent : n.exponent = 0 := by omega
        unfold unsigned digits
        rw [zero, exponent]
        rfl
      rw [written]
      exact congrArg some (ofDecimal_zero n zero false 0)
    · have unsigned := readUnsigned_unsigned n zero
      rwa [decide_eq_false negative] at unsigned

end JsNumber

end PaymentModel
