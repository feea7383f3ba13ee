import Mathlib.Data.List.Forall2
import PaymentSystem.Proof.JsString
import PaymentSystem.Proof.NumberText

namespace PaymentModel

theorem hexValue_hexDigit : ∀ {d : Nat}, d < 16 → LexState.hexValue (Json.hexDigit d) = some d := by
  decide

variable {units acc : JsString} {unit high low : UInt16} {c : Char} {rest : List Char}

theorem lex_cons (next : LexState) {state : LexState} {tokens : List Token}
    (steps : state.next c = some (tokens, next)) :
    lex state (c :: rest) = (lex next rest).map (tokens ++ ·) := by
  rw [lex, steps, Option.bind_some]

theorem lex_on (next : LexState) {state : LexState} (steps : state.next c = some ([], next)) :
    lex state (c :: rest) = lex next rest := by
  rw [lex_cons next steps]
  exact Option.map_id' ..

theorem lex_hex (value missing digit : Nat) (is : digit < 16) (more : 1 < missing) :
    lex (.hex acc value missing) (Json.hexDigit digit :: rest) =
      lex (.hex acc (16 * value + digit) (missing - 1)) rest := by
  apply lex_on
  rw [LexState.next, hexValue_hexDigit is, Option.map_some, if_neg (by omega)]

theorem lex_hex_last (unit : UInt16) (value digit : Nat) (is : digit < 16) (same : 16 * value + digit = unit.toNat) :
    lex (.hex acc value 1) (Json.hexDigit digit :: rest) = lex (.string (acc ++ [unit])) rest := by
  apply lex_on
  rw [LexState.next, hexValue_hexDigit is, Option.map_some, if_pos (Nat.le_refl 1), same, unit_eq unit rfl]

theorem lex_escaped (a b c d : Nat) (is : a < 16 ∧ b < 16 ∧ c < 16 ∧ d < 16)
    (same : 16 * (16 * (16 * a + b) + c) + d = unit.toNat) :
    lex (.string acc) (reverseSolidus :: 'u' :: Json.hexDigit a :: Json.hexDigit b :: Json.hexDigit c ::
      Json.hexDigit d :: rest) = lex (.string (acc ++ [unit])) rest := by
  rw [lex_on (.escape acc) rfl, lex_on (.hex acc 0 4) rfl, lex_hex _ _ _ is.1 (by decide),
    lex_hex _ _ _ is.2.1 (by decide), lex_hex _ _ _ is.2.2.1 (by decide),
    lex_hex_last unit _ _ is.2.2.2 (by omega)]

theorem lex_plain (mark : c ≠ quotationMark) (escape : c ≠ reverseSolidus) (printable : 32 ≤ c.toNat) :
    lex (.string acc) (c :: rest) = lex (.string (acc ++ utf16OfChar c)) rest := by
  apply lex_on
  rw [LexState.next, if_neg mark, if_neg escape, if_neg (by omega)]

theorem lex_unescaped (other : c ≠ 'u') (stands : LexState.unescape c = some unit) :
    lex (.string acc) (reverseSolidus :: c :: rest) = lex (.string (acc ++ [unit])) rest := by
  rw [lex_on (.escape acc) rfl]
  apply lex_on
  rw [LexState.next, if_neg other, stands]
  rfl

/-- What is printed for a unit is read as that unit. -/
theorem lex_quoteUnit : lex (.string acc) (quoteUnit unit ++ rest) = lex (.string (acc ++ [unit])) rest := by
  unfold quoteUnit
  have bound : unit.toNat < 65536 := unit.toNat_lt
  split
  · apply lex_escaped _ _ _ _ ⟨by omega, by omega, by omega, by omega⟩
    omega
  · rename_i plain
    have value := plain_toNat plain
    have stands {n : Nat} (is : unit.toNat = n) {c : Char} (escaped : LexState.unescape c = some (UInt16.ofNat n)) :
        LexState.unescape c = some unit := by rw [escaped, unit_eq unit is.symm]
    unfold Json.quoteChar
    rw [value]
    dsimp only
    split
    case h_8 =>
      split
      · exact lex_escaped 0 0 (unit.toNat / 16) (unit.toNat % 16) (by omega) (by omega)
      · rename_i mark escape control
        rw [List.singleton_append, lex_plain, utf16OfChar_ofNat plain]
        · exact ne_of_toNat (by rw [value]; exact mark)
        · exact ne_of_toNat (by rw [value]; exact escape)
        · omega
    all_goals
      rename_i is
      try rw [is]
      exact lex_unescaped (by decide) (stands is rfl)

/-- What is printed for a string is read as that string. -/
theorem lex_quoteUnits : lex (.string acc) (quoteUnits units ++ quotationMark :: rest) =
    (lex .start rest).map (.text (acc ++ units) :: ·) := by
  fun_induction quoteUnits units generalizing acc with
  | case1 =>
    rw [List.nil_append, lex_cons .start rfl, List.append_nil]
    rfl
  | case2 unit =>
    rw [lex_quoteUnit, lex_cons .start rfl]
    rfl
  | case3 high low units paired ih =>
    obtain ⟨h, l⟩ := Bool.and_eq_true_iff.mp paired
    have value := pairChar_toNat h l
    rw [List.cons_append, lex_plain, ih, utf16OfChar_pairChar h l]
    · simp
    · exact ne_of_toNat (show _ ≠ 34 by omega)
    · exact ne_of_toNat (show _ ≠ 92 by omega)
    · omega
  | case4 high low units unpaired ih =>
    rw [List.append_assoc, lex_quoteUnit, ih]
    simp

/-- What may come after a value inside a JSON text. -/
def Ends (rest : List Char) : Prop := ∀ c ∈ rest.head?, c = ',' ∨ c = ']' ∨ c = rightBrace

/-- A lexical element ends with the text, or where the next character begins another one. -/
theorem lex_finish {state : LexState} {tokens : List Token} (finishes : state.finish = some tokens)
    (stops : ∀ c ∈ rest.head?, state.next c = (LexState.begin c).map (Prod.map (tokens ++ ·) id)) :
    lex state rest = (lex .start rest).map (tokens ++ ·) := by
  cases rest with
  | nil =>
    rw [lex, finishes, lex, LexState.finish, Option.map_some, List.append_nil]
  | cons c rest =>
    rw [lex, lex, stops c rfl, LexState.next]
    cases LexState.begin c with
    | none => rfl
    | some step =>
      simp only [Option.map_some, Option.bind_some, Prod.map, id_eq, Option.map_map]
      congr 1
      funext more
      exact List.append_assoc ..

theorem ends_cons (closes : c = ',' ∨ c = ']' ∨ c = rightBrace) : Ends (c :: rest) := by
  rintro _ ⟨⟩
  exact closes

theorem lex_name {letters more : List Char} {token : Token} (lower : ∀ c ∈ more, c.isLower = true)
    (names : LexState.nameToken (letters ++ more) = some token) (ends : Ends rest) :
    lex (.name letters) (more ++ rest) = (lex .start rest).map (token :: ·) := by
  induction more generalizing letters with
  | nil =>
    have finishes : (LexState.name letters).finish = some [token] := by
      rw [LexState.finish, ← List.append_nil letters, names]
      rfl
    apply lex_finish finishes
    intro c next
    have upper : ¬c.isLower = true := by rcases ends c next with rfl | rfl | rfl <;> decide
    rw [LexState.next, if_neg upper, finishes]
    rfl
  | cons c more ih =>
    rw [List.cons_append, lex_on (.name (letters ++ [c]))]
    · exact ih (fun c member => lower c (List.mem_cons_of_mem _ member)) (by simpa using names)
    · rw [LexState.next, if_pos (lower c (List.mem_cons_self ..))]

theorem lex_number {literal more : List Char} {value : JsNumber} (chars : ∀ c ∈ more, LexState.isNumberChar c = true)
    (reads : JsNumber.read (literal ++ more) = some value) (ends : Ends rest) :
    lex (.number literal) (more ++ rest) = (lex .start rest).map (.scalar (.number value) :: ·) := by
  induction more generalizing literal with
  | nil =>
    have finishes : (LexState.number literal).finish = some [.scalar (.number value)] := by
      rw [LexState.finish, ← List.append_nil literal, reads]
      rfl
    apply lex_finish finishes
    intro c next
    have other : ¬LexState.isNumberChar c = true := by rcases ends c next with rfl | rfl | rfl <;> decide
    rw [LexState.next, if_neg other, finishes]
    rfl
  | cons c more ih =>
    rw [List.cons_append, lex_on (.number (literal ++ [c]))]
    · exact ih (fun c member => chars c (List.mem_cons_of_mem _ member)) (by simpa using reads)
    · rw [LexState.next, if_pos (chars c (List.mem_cons_self ..))]

theorem isNumberChar_digit (digit : c.isDigit = true) : LexState.isNumberChar c = true := by
  simp [LexState.isNumberChar, digit]

theorem unsigned_chars (n : JsNumber) : ∀ c ∈ n.unsigned, LexState.isNumberChar c = true := by
  have digits : ∀ c ∈ n.digits, LexState.isNumberChar c = true := fun c member =>
    isNumberChar_digit (JsNumber.digits_digit c member)
  have zeros : ∀ count, ∀ c ∈ List.replicate count '0', LexState.isNumberChar c = true := by
    intro count c member
    rw [List.eq_of_mem_replicate member]
    rfl
  have scale : ∀ m, ∀ c ∈ Nat.toDigits 10 m, LexState.isNumberChar c = true := fun m c member =>
    isNumberChar_digit ((JsNumber.isDigits_toDigits m).all c member)
  have point : LexState.isNumberChar '.' = true := rfl
  have fraction : ∀ count, ∀ c ∈ '.' :: n.digits.drop count, LexState.isNumberChar c = true := by
    intro count
    exact List.forall_mem_cons.mpr ⟨point, fun c member => digits c (List.mem_of_mem_drop member)⟩
  have whole : ∀ count, ∀ c ∈ n.digits.take count, LexState.isNumberChar c = true :=
    fun count c member => digits c (List.mem_of_mem_take member)
  unfold JsNumber.unsigned
  dsimp only
  split
  · exact List.forall_mem_append.mpr ⟨digits, zeros _⟩
  · split
    · exact List.forall_mem_append.mpr ⟨whole _, fraction _⟩
    · split
      · exact List.forall_mem_cons.mpr ⟨rfl, List.forall_mem_cons.mpr ⟨point,
          List.forall_mem_append.mpr ⟨zeros _, digits⟩⟩⟩
      · refine List.forall_mem_append.mpr ⟨whole _, List.forall_mem_append.mpr ⟨?_, List.forall_mem_cons.mpr ⟨rfl,
          List.forall_mem_append.mpr ⟨?_, scale _⟩⟩⟩⟩
        · split
          · exact fun _ none => nomatch none
          · exact fraction 1
        · split <;> exact List.forall_mem_singleton.mpr rfl

theorem toText_cons (n : JsNumber) : ∃ c more, n.toText.toList = c :: more ∧ (c.isDigit || c = '-') = true ∧
    ∀ c ∈ more, LexState.isNumberChar c = true := by
  obtain ⟨d, more, head, digit⟩ := JsNumber.unsigned_head n
  have chars := unsigned_chars n
  rw [JsNumber.toText_toList]
  split
  · exact ⟨'-', n.unsigned, rfl, rfl, chars⟩
  · rw [head] at chars ⊢
    exact ⟨d, more, rfl, by simp [digit], fun c member => chars c (List.mem_cons_of_mem _ member)⟩

theorem begin_number (first : (c.isDigit || c = '-') = true) : LexState.begin c = some ([], .number [c]) := by
  rcases Bool.or_eq_true_iff.mp first with digit | minus
  · have bounds : 48 ≤ c.toNat ∧ c.toNat ≤ 57 := Char.isDigit_iff_toNat.mp digit
    have other {d : Char} (far : d.toNat < 48 ∨ 57 < d.toNat) : c ≠ d := ne_of_toNat (by omega)
    have space : ¬LexState.isSpace c = true := by
      simp only [LexState.isSpace, Bool.or_eq_true, decide_eq_true_eq, not_or]
      exact ⟨⟨⟨other (by decide), other (by decide)⟩, other (by decide)⟩, other (by decide)⟩
    unfold LexState.begin
    rw [if_neg space, if_neg (other (by decide)), if_neg (other (by decide)), if_neg (other (by decide)),
      if_neg (other (by decide)), if_neg (other (by decide)), if_neg (other (by decide)), if_neg (other (by decide)),
      if_pos first]
  · obtain rfl := of_decide_eq_true minus
    rfl

/-- What is printed for a number is one lexical element. -/
theorem lex_toText (value : JsNumber) (ends : Ends rest) : lex .start (value.toText.toList ++ rest) =
    (lex .start rest).map (.scalar (.number value) :: ·) := by
  obtain ⟨c, more, written, first, chars⟩ := toText_cons value
  have reads := JsNumber.read_toText value
  rw [written] at reads ⊢
  rw [List.cons_append, lex_on (.number [c])]
  · exact lex_number chars reads ends
  · exact begin_number first

mutual

/-- The lexical elements of what is printed for a value. -/
def JsonValue.tokens : JsonValue → List Token
  | .string value => [.text value]
  | .array items => .beginArray :: ([.comma].intercalate (tokensItems items) ++ [.endArray])
  | .object members => .beginObject :: ([.comma].intercalate (tokensMembers members) ++ [.endObject])
  | value => [.scalar value]

def JsonValue.tokensItems : List JsonValue → List (List Token)
  | [] => []
  | item :: items => JsonValue.tokens item :: JsonValue.tokensItems items

def JsonValue.tokensMembers : List (JsString × JsonValue) → List (List Token)
  | [] => []
  | (key, value) :: members => (.text key :: .colon :: JsonValue.tokens value) :: JsonValue.tokensMembers members

end

/-- Wherever it stands, the text is read as these lexical elements. -/
def Lexes (text : List Char) (tokens : List Token) : Prop := ∀ rest, Ends rest →
  lex .start (text ++ rest) = (lex .start rest).map (tokens ++ ·)

theorem Lexes.intercalate {texts : List (List Char)} {elements : List (List Token)}
    (lexes : List.Forall₂ Lexes texts elements) : Lexes ([','].intercalate texts) ([.comma].intercalate elements) := by
  induction lexes with
  | nil =>
    intro rest _
    simp
  | @cons text element texts elements first others ih =>
    intro rest ends
    cases others with
    | nil => simpa using first rest ends
    | @cons text' element' texts elements second others =>
      have comma : lex .start (',' :: ([','].intercalate (text' :: texts) ++ rest)) =
          (lex .start ([','].intercalate (text' :: texts) ++ rest)).map ([.comma] ++ ·) :=
        lex_cons .start rfl
      rw [List.intercalate_cons_cons, List.intercalate_cons_cons, List.append_assoc, List.append_assoc,
        List.singleton_append, first _ (ends_cons (.inl rfl)), comma, ih rest ends]
      simp [Function.comp_def]

theorem Lexes.enclosed {text : List Char} {elements : List Token} {opening closing : Char} {opens closes : Token}
    (lexes : Lexes text elements) (opened : LexState.start.next opening = some ([opens], .start))
    (closed : LexState.start.next closing = some ([closes], .start)) (bracket : closing = ']' ∨ closing = rightBrace) :
    Lexes (opening :: (text ++ [closing])) (opens :: (elements ++ [closes])) := by
  intro rest _
  rw [List.cons_append, lex_cons .start opened, List.append_assoc, List.singleton_append,
    lexes _ (ends_cons (.inr bracket)), lex_cons .start closed]
  simp [Function.comp_def]

theorem lexes_string (value : JsString) :
    Lexes (quotationMark :: (quoteUnits value ++ [quotationMark])) [.text value] := by
  intro rest _
  rw [List.cons_append, lex_on (.string []) rfl, List.append_assoc, List.singleton_append, lex_quoteUnits]
  rfl

theorem lexes_name {letters : List Char} {first : Char} {more : List Char} {token : Token}
    (written : letters = first :: more) (begins : LexState.start.next first = some ([], .name [first]))
    (lower : more.all Char.isLower = true) (names : LexState.nameToken letters = some token) :
    Lexes letters [token] := by
  subst written
  intro rest ends
  rw [List.cons_append, lex_on (.name [first]) begins]
  exact lex_name (List.all_eq_true.mp lower) names ends

mutual

theorem lexes_stringify : (value : JsonValue) → Lexes value.stringify value.tokens
  | .null => lexes_name rfl rfl rfl rfl
  | .bool true => lexes_name rfl rfl rfl rfl
  | .bool false => lexes_name rfl rfl rfl rfl
  | .number value => fun _ ends => lex_toText value ends
  | .string value => lexes_string value
  | .array items => (Lexes.intercalate (lexes_items items)).enclosed rfl rfl (.inl rfl)
  | .object members => (Lexes.intercalate (lexes_members members)).enclosed rfl rfl (.inr rfl)

theorem lexes_items : (items : List JsonValue) →
    List.Forall₂ Lexes (JsonValue.stringifyItems items) (JsonValue.tokensItems items)
  | [] => .nil
  | item :: items => .cons (lexes_stringify item) (lexes_items items)

theorem lexes_members : (members : List (JsString × JsonValue)) →
    List.Forall₂ Lexes (JsonValue.stringifyMembers members) (JsonValue.tokensMembers members)
  | [] => .nil
  | (key, value) :: members => by
    refine .cons (fun rest ends => ?_) (lexes_members members)
    rw [List.cons_append, lex_on (.string []) rfl, List.append_assoc, List.cons_append, lex_quoteUnits,
      List.cons_append, lex_cons .start rfl, lexes_stringify value rest ends]
    simp [Function.comp_def]

end

variable {frames : List Frame} {more : List Token}

theorem readTokens_cons (next : ParseState) {state : ParseState} {token : Token}
    (steps : state.next token = some next) :
    readTokens state (token :: more) = readTokens next more := by
  cases state <;> rw [readTokens, steps, Option.bind_some]

theorem intercalate_head {α : Type} (separator first : List α) (others : List (List α)) :
    ∃ rest, separator.intercalate (first :: others) = first ++ rest := by
  cases others with
  | nil => exact ⟨[], by simp⟩
  | cons second others => exact ⟨_, by rw [List.intercalate_cons_cons, List.append_assoc]⟩

theorem readTokens_firstItem (value : JsonValue) : readTokens (.expectItemOrEnd frames) (value.tokens ++ more) =
    readTokens (.expectValue (.items [] :: frames)) (value.tokens ++ more) := by
  cases value <;> rfl

mutual

/-- The parser delivers the value whose lexical elements it is given. -/
theorem readTokens_value (frames : List Frame) (more : List Token) : (value : JsonValue) →
    readTokens (.expectValue frames) (value.tokens ++ more) = readTokens (.deliver value frames) more
  | .null | .bool _ | .number _ | .string _ => readTokens_cons _ rfl
  | .array [] => rfl
  | .array (item :: items) => by
    have read := readTokens_items [] frames more (item :: items) (by simp)
    obtain ⟨others, head⟩ := intercalate_head [.comma] item.tokens (JsonValue.tokensItems items)
    rw [JsonValue.tokensItems, head, List.append_assoc, ← readTokens_firstItem] at read
    rw [JsonValue.tokens, JsonValue.tokensItems, List.cons_append, readTokens_cons (.expectItemOrEnd frames) rfl,
      head, List.append_assoc, List.append_assoc]
    exact read
  | .object [] => rfl
  | .object ((key, value) :: members) => by
    have read := readTokens_members [] frames more ((key, value) :: members) (by simp)
    obtain ⟨others, head⟩ := intercalate_head [.comma] (.text key :: .colon :: value.tokens)
      (JsonValue.tokensMembers members)
    rw [JsonValue.tokensMembers, head] at read
    rw [JsonValue.tokens, JsonValue.tokensMembers, List.cons_append, readTokens_cons (.expectKeyOrEnd frames) rfl,
      head, List.append_assoc]
    exact read

theorem readTokens_items (items : List JsonValue) (frames : List Frame) (more : List Token) :
    (left : List JsonValue) → left ≠ [] → readTokens (.expectValue (.items items :: frames))
      ([.comma].intercalate (JsonValue.tokensItems left) ++ .endArray :: more) =
        readTokens (.deliver (.array (items ++ left)) frames) more
  | [], some_left => absurd rfl some_left
  | [item], _ => by
    rw [JsonValue.tokensItems, JsonValue.tokensItems, List.intercalate_singleton, readTokens_value]
    exact readTokens_cons _ rfl
  | item :: next :: left, _ => by
    have rest := readTokens_items (items ++ [item]) frames more (next :: left) (by simp)
    rw [JsonValue.tokensItems, JsonValue.tokensItems, List.intercalate_cons_cons, List.append_assoc, List.append_assoc,
      readTokens_value]
    refine (readTokens_cons _ rfl).trans ?_
    rw [JsonValue.tokensItems, List.append_assoc] at rest
    exact rest

theorem readTokens_members (members : List (JsString × JsonValue)) (frames : List Frame) (more : List Token) :
    (left : List (JsString × JsonValue)) → left ≠ [] → readTokens (.expectKey members frames)
      ([.comma].intercalate (JsonValue.tokensMembers left) ++ .endObject :: more) =
        readTokens (.deliver (.object (members ++ left)) frames) more
  | [], some_left => absurd rfl some_left
  | [(key, value)], _ => by
    rw [JsonValue.tokensMembers, JsonValue.tokensMembers, List.intercalate_singleton, List.cons_append,
      List.cons_append, readTokens_cons (.expectColon members key frames) rfl,
      readTokens_cons (.expectValue (.member members key :: frames)) rfl, readTokens_value]
    exact readTokens_cons _ rfl
  | (key, value) :: next :: left, _ => by
    have rest := readTokens_members (members ++ [(key, value)]) frames more (next :: left) (by simp)
    rw [JsonValue.tokensMembers, JsonValue.tokensMembers, List.intercalate_cons_cons, List.append_assoc,
      List.append_assoc, List.cons_append, List.cons_append,
      readTokens_cons (.expectColon members key frames) rfl,
      readTokens_cons (.expectValue (.member members key :: frames)) rfl, readTokens_value]
    refine (readTokens_cons _ rfl).trans ?_
    rw [JsonValue.tokensMembers, List.append_assoc] at rest
    exact rest

end

/-- What `JSON.stringify` prints describes the value that it has been given. -/
theorem readJson_stringify (value : JsonValue) : readJson value.stringify = some value := by
  have lexed := lexes_stringify value [] (fun _ none => nomatch none)
  rw [List.append_nil] at lexed
  have read := readTokens_value [] [] value
  unfold readJson
  rw [lexed, show lex .start [] = some [] from rfl, Option.map_some, Option.bind_some, read]
  rfl

theorem JsonValue.stringify_injective : Function.Injective JsonValue.stringify := by
  intro a b same
  have read := readJson_stringify a
  rw [same, readJson_stringify] at read
  exact (Option.some.inj read).symm

end PaymentModel
