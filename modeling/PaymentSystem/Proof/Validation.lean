import PaymentSystem.Proof.Schemas

namespace PaymentModel

/-- The member of an amount. -/
def AmountMember (data : Option Json) (amount : JsNumber) : Prop :=
  data = some (.number amount) ∧ 0 < amount.value ∧ amount.value ≤ 99999999999999 / 100

/-- The member of a currency: a code of three letters, in upper case one of the supported ones. -/
def CurrencyMember (formats : Formats) (data : Option Json) (currency : String) : Prop :=
  ∃ text, data = some (.string text) ∧ utf16Length text = 3 ∧ currency = formats.toUpperCase text ∧
    currency ∈ supportedCurrencies

def MerchantMember (data : Option Json) (merchantId : String) : Prop :=
  data = some (.string merchantId) ∧ 1 ≤ utf16Length merchantId ∧ utf16Length merchantId ≤ 64

def EmailMember (formats : Formats) (data : Option Json) (customerEmail : String) : Prop :=
  data = some (.string customerEmail) ∧ formats.email customerEmail = true ∧ utf16Length customerEmail ≤ 255

def DescriptionMember (data : Option Json) (description : Option String) : Prop :=
  data = description.map Json.string ∧ ∀ text ∈ description, utf16Length text ≤ 500

def MetadataMember (data : Option Json) (metadata : Option (List (String × Json))) : Prop :=
  match metadata with
  | none => data = none
  | some fields => ∃ all, data = some (.object all) ∧ fields = all.filter fun entry => entry.1 ≠ "__proto__"

/-- A body that is accepted, and what is made of it. -/
structure Accepted (formats : Formats) (body : Json) (request : CreatePaymentRequest) : Prop where
  amount : AmountMember (body.field "amount") request.amount
  currency : CurrencyMember formats (body.field "currency") request.currency
  merchantId : MerchantMember (body.field "merchantId") request.merchantId
  customerEmail : EmailMember formats (body.field "customerEmail") request.customerEmail
  description : DescriptionMember (body.field "description") request.description
  metadata : MetadataMember (body.field "metadata") request.metadata

/-- A member of the body that no value can be read from. -/
inductive Refused (formats : Formats) (body : Json) : String → Prop
  | amount (wrong : ∀ amount, ¬AmountMember (body.field "amount") amount) : Refused formats body "amount"
  | currency (wrong : ∀ currency, ¬CurrencyMember formats (body.field "currency") currency) :
    Refused formats body "currency"
  | merchantId (wrong : ∀ merchantId, ¬MerchantMember (body.field "merchantId") merchantId) :
    Refused formats body "merchantId"
  | customerEmail (wrong : ∀ customerEmail, ¬EmailMember formats (body.field "customerEmail") customerEmail) :
    Refused formats body "customerEmail"
  | description (wrong : ∀ description, ¬DescriptionMember (body.field "description") description) :
    Refused formats body "description"
  | metadata (wrong : ∀ metadata, ¬MetadataMember (body.field "metadata") metadata) : Refused formats body "metadata"

/-- A schema that says what is wrong: it gives up with an issue only, and its issues are at its path. -/
structure Schema.Reports {α : Type} (schema : Schema α) : Prop where
  silent : ∀ path data, (schema path data).value = none → (schema path data).issues ≠ []
  located : ∀ path data, ∀ issue ∈ (schema path data).issues, issue.path = path

variable {α β : Type} {formats : Formats} {path : List String} {data : Option Json} {body : Json}
  {text result name : String} {request : CreatePaymentRequest}

namespace Parsed

theorem map_iff {f : α → β} {x : Parsed α} {result : β} :
    f <$> x = pure result ↔ ∃ value, x = pure value ∧ f value = result := by
  refine ⟨map_pure, ?_⟩
  rintro ⟨value, rfl, rfl⟩
  rfl

theorem result_error {parsed : Parsed α} {issues : List Issue} (failed : parsed.result = .error issues) :
    parsed.issues = issues := by
  unfold result at failed
  split at failed
  · split at failed
    · cases failed
    · cases failed
      rfl
  · cases failed
    rfl

end Parsed

theorem StringCheck.runAll_iff {check : StringCheck} {checks : List StringCheck} :
    runAll formats path text (check :: checks) = pure result ↔
      (check.run formats text).2 = none ∧ runAll formats path (check.run formats text).1 checks = pure result := by
  refine ⟨runAll_cons, ?_⟩
  rintro ⟨passed, rest⟩
  simp only [runAll, passed, rest]
  rfl

theorem StringCheck.runAll_nil_iff : runAll formats path text [] = pure result ↔ text = result := by
  refine ⟨runAll_nil, ?_⟩
  rintro rfl
  rfl

theorem Schema.string_iff {checks : List StringCheck} {required : String} :
    Schema.string formats checks required path data = pure result ↔
      ∃ text, data = some (.string text) ∧ StringCheck.runAll formats path text checks = pure result := by
  refine ⟨string_pure, ?_⟩
  rintro ⟨text, rfl, ran⟩
  exact ran

theorem Schema.number_iff {checks : List NumberCheck} {required : String} {n : JsNumber} :
    Schema.number checks required path data = pure n ↔
      data = some (.number n) ∧ ∀ check ∈ checks, check.fails n = none := by
  refine ⟨number_pure, ?_⟩
  rintro ⟨rfl, passed⟩
  simp only [number, List.filterMap_eq_nil_iff.mpr passed]
  rfl

theorem Schema.refine_iff {schema : Schema α} {holds : α → Bool} {message : String} {value : α} :
    schema.refine holds message path data = pure value ↔ schema path data = pure value ∧ holds value = true := by
  refine ⟨refine_pure, ?_⟩
  rintro ⟨parsed, passes⟩
  simp only [refine, parsed]
  change Parsed.mk (some value) ([] ++ if holds value = true then [] else _) = _
  rw [if_pos passes]
  rfl

theorem Schema.optional_iff {schema : Schema α} {value : Option α} :
    schema.optional path data = pure value ↔
      (data = none ∧ value = none) ∨ ∃ present, data.isSome ∧ schema path data = pure present ∧ value = some present := by
  cases data with
  | none =>
    change pure none = pure value ↔ _
    constructor
    · intro parsed
      cases parsed
      exact .inl ⟨rfl, rfl⟩
    · rintro (⟨_, rfl⟩ | ⟨_, present, _⟩)
      · rfl
      · cases present
  | some json =>
    simp only [optional, Parsed.map_iff]
    constructor
    · rintro ⟨present, parsed, rfl⟩
      exact .inr ⟨present, rfl, parsed, rfl⟩
    · rintro (⟨is, _⟩ | ⟨present, _, parsed, rfl⟩)
      · cases is
      · exact ⟨present, parsed, rfl⟩

theorem passes_iff {condition : Prop} [Decidable condition] {message : String} :
    (if condition then some message else none) = none ↔ ¬condition := by simp

theorem amountSchema_iff {amount : JsNumber} : amountSchema path data = pure amount ↔ AmountMember data amount := by
  rw [amountSchema, Schema.number_iff]
  simp only [AmountMember, List.forall_mem_cons, List.not_mem_nil, false_imp_iff, implies_true, and_true,
    NumberCheck.fails, passes_iff, not_le, not_lt]

theorem currencySchema_iff : currencySchema formats path data = pure result ↔ CurrencyMember formats data result := by
  rw [currencySchema, Schema.refine_iff, Schema.string_iff]
  simp only [StringCheck.runAll_iff, StringCheck.runAll_nil_iff, StringCheck.run, CurrencyMember, List.contains_iff_mem,
    passes_iff, not_not, true_and]
  constructor
  · rintro ⟨⟨text, is, length, rfl⟩, supported⟩
    exact ⟨text, is, length, rfl, supported⟩
  · rintro ⟨text, is, length, rfl, supported⟩
    exact ⟨⟨text, is, length, rfl⟩, supported⟩

theorem merchantIdSchema_iff : merchantIdSchema formats path data = pure result ↔ MerchantMember data result := by
  rw [merchantIdSchema, Schema.string_iff]
  simp only [StringCheck.runAll_iff, StringCheck.runAll_nil_iff, StringCheck.run, MerchantMember, passes_iff, not_lt]
  constructor
  · rintro ⟨text, is, least, most, rfl⟩
    exact ⟨is, least, most⟩
  · rintro ⟨is, least, most⟩
    exact ⟨result, is, least, most, rfl⟩

theorem customerEmailSchema_iff :
    customerEmailSchema formats path data = pure result ↔ EmailMember formats data result := by
  rw [customerEmailSchema, Schema.string_iff]
  simp only [StringCheck.runAll_iff, StringCheck.runAll_nil_iff, StringCheck.run, EmailMember, passes_iff, not_lt]
  constructor
  · rintro ⟨text, is, email, most, rfl⟩
    exact ⟨is, by simpa using email, most⟩
  · rintro ⟨is, email, most⟩
    exact ⟨result, is, by simpa using email, most, rfl⟩

theorem descriptionSchema_iff {description : Option String} :
    descriptionSchema formats path data = pure description ↔ DescriptionMember data description := by
  rw [descriptionSchema, Schema.optional_iff]
  simp only [Schema.string_iff, StringCheck.runAll_iff, StringCheck.runAll_nil_iff, StringCheck.run, DescriptionMember,
    passes_iff, not_lt]
  constructor
  · rintro (⟨rfl, rfl⟩ | ⟨_, _, ⟨text, rfl, most, rfl⟩, rfl⟩)
    · simp
    · exact ⟨rfl, by simpa using most⟩
  · rintro ⟨rfl, most⟩
    cases description with
    | none => exact .inl ⟨rfl, rfl⟩
    | some text => exact .inr ⟨text, rfl, ⟨text, rfl, most text rfl, rfl⟩, rfl⟩

theorem metadataSchema_iff {metadata : Option (List (String × Json))} :
    Schema.record.optional path data = pure metadata ↔ MetadataMember data metadata := by
  rw [Schema.optional_iff]
  cases metadata with
  | none => simp [MetadataMember]
  | some fields =>
    simp only [MetadataMember, reduceCtorEq, and_false, false_or, Option.some.injEq]
    constructor
    · rintro ⟨_, _, parsed, rfl⟩
      unfold Schema.record at parsed
      split at parsed
      · cases parsed
        exact ⟨_, rfl, rfl⟩
      · cases parsed
    · rintro ⟨all, rfl, rfl⟩
      exact ⟨_, rfl, rfl, rfl⟩

theorem createPaymentMembers_iff :
    createPaymentMembers formats body = pure request ↔ Accepted formats body request := by
  constructor
  · intro success
    obtain ⟨_, metadata, described, extra, rfl⟩ := Parsed.seq_pure success
    obtain ⟨_, description, emailed, text, rfl⟩ := Parsed.seq_pure described
    obtain ⟨_, customerEmail, sold, email, rfl⟩ := Parsed.seq_pure emailed
    obtain ⟨_, merchantId, priced, merchant, rfl⟩ := Parsed.seq_pure sold
    obtain ⟨_, currency, counted, code, rfl⟩ := Parsed.seq_pure priced
    obtain ⟨amount, requested, rfl⟩ := Parsed.map_pure counted
    exact {
      amount := amountSchema_iff.mp requested
      currency := currencySchema_iff.mp code
      merchantId := merchantIdSchema_iff.mp merchant
      customerEmail := customerEmailSchema_iff.mp email
      description := descriptionSchema_iff.mp text
      metadata := metadataSchema_iff.mp extra }
  · intro accepted
    unfold createPaymentMembers Schema.key
    rw [amountSchema_iff.mpr accepted.amount, currencySchema_iff.mpr accepted.currency,
      merchantIdSchema_iff.mpr accepted.merchantId, customerEmailSchema_iff.mpr accepted.customerEmail,
      descriptionSchema_iff.mpr accepted.description, metadataSchema_iff.mpr accepted.metadata]
    rfl

namespace Schema.Reports

theorem invalidType {expected required : String} :
    (PaymentModel.invalidType expected required path data : Parsed α).issues ≠ [] ∧
      ∀ issue ∈ (PaymentModel.invalidType expected required path data : Parsed α).issues, issue.path = path := by
  refine ⟨List.cons_ne_nil _ _, ?_⟩
  intro issue member
  cases List.mem_singleton.mp member
  rfl

theorem number (checks : List NumberCheck) (required : String) : (Schema.number checks required).Reports where
  silent path data gaveUp := by
    unfold Schema.number at gaveUp ⊢
    split at gaveUp
    · cases gaveUp
    · exact invalidType.1
  located path data issue member := by
    unfold Schema.number at member
    split at member
    · obtain ⟨_, _, rfl⟩ := List.mem_map.mp member
      rfl
    · exact invalidType.2 issue member

theorem runAll (path : List String) (text : String) (checks : List StringCheck) :
    (StringCheck.runAll formats path text checks).value.isSome ∧
      ∀ issue ∈ (StringCheck.runAll formats path text checks).issues, issue.path = path := by
  induction checks generalizing text with
  | nil => simp [StringCheck.runAll]
  | cons check checks ih =>
    obtain ⟨value, located⟩ := ih (check.run formats text).1
    refine ⟨value, ?_⟩
    intro issue member
    rcases List.mem_append.mp member with here | rest
    · obtain ⟨_, _, rfl⟩ := List.mem_map.mp here
      rfl
    · exact located issue rest

theorem string (checks : List StringCheck) (required : String) : (Schema.string formats checks required).Reports where
  silent path data gaveUp := by
    unfold Schema.string at gaveUp ⊢
    split at gaveUp
    · rename_i text
      have present : (StringCheck.runAll formats path text checks).value.isSome := (runAll path text checks).1
      rw [gaveUp] at present
      cases present
    · exact invalidType.1
  located path data issue member := by
    unfold Schema.string at member
    split at member
    · exact (runAll path _ checks).2 issue member
    · exact invalidType.2 issue member

theorem refine {schema : Schema α} (reports : schema.Reports) (holds : α → Bool) (message : String) :
    (schema.refine holds message).Reports where
  silent path data gaveUp := by
    have silent := reports.silent path data
    unfold Schema.refine at gaveUp ⊢
    cases parsed : schema path data with
    | mk found issues =>
      rw [parsed] at gaveUp silent
      cases found with
      | none => exact silent rfl
      | some value => cases gaveUp
  located path data issue member := by
    have located := reports.located path data
    unfold Schema.refine at member
    cases parsed : schema path data with
    | mk found issues =>
      rw [parsed] at member located
      cases found with
      | none => exact located issue member
      | some value =>
        rcases List.mem_append.mp member with here | rest
        · exact located issue here
        · split at rest
          · cases rest
          · cases List.mem_singleton.mp rest
            rfl

theorem record : Schema.record.Reports where
  silent path data gaveUp := by
    unfold Schema.record at gaveUp ⊢
    split at gaveUp
    · cases gaveUp
    · exact invalidType.1
  located path data issue member := by
    unfold Schema.record at member
    split at member
    · cases member
    · exact invalidType.2 issue member

theorem optional {schema : Schema α} (reports : schema.Reports) : schema.optional.Reports where
  silent path data gaveUp := by
    cases data with
    | none => cases gaveUp
    | some json =>
      have inner : (schema path (some json)).value = none := by
        cases parsed : (schema path (some json)).value with
        | none => rfl
        | some value =>
          change (some some <*> (schema path (some json)).value) = none at gaveUp
          rw [parsed] at gaveUp
          cases gaveUp
      exact reports.silent path _ inner
  located path data issue member := by
    cases data with
    | none => cases member
    | some json => exact reports.located path _ issue member

theorem refused_iff {schema : Schema α} (reports : schema.Reports) :
    (schema path data).issues ≠ [] ↔ ∀ value, schema path data ≠ pure value := by
  constructor
  · rintro issues value parsed
    rw [parsed] at issues
    exact issues rfl
  · intro refused none
    cases parsed : (schema path data).value with
    | none => exact reports.silent path data parsed none
    | some value =>
      refine refused value ?_
      cases whole : schema path data
      rw [whole] at none parsed
      cases none
      cases parsed
      rfl

end Schema.Reports

/-- The members of the body, with the issues of each. -/
def memberIssues (formats : Formats) (body : Json) : List (String × List Issue) :=
  [("amount", (amountSchema.key "amount" body).issues), ("currency", ((currencySchema formats).key "currency" body).issues),
    ("merchantId", ((merchantIdSchema formats).key "merchantId" body).issues),
    ("customerEmail", ((customerEmailSchema formats).key "customerEmail" body).issues),
    ("description", ((descriptionSchema formats).key "description" body).issues),
    ("metadata", (Schema.record.optional.key "metadata" body).issues)]

theorem createPaymentMembers_issues :
    (createPaymentMembers formats body).issues = (memberIssues formats body).flatMap Prod.snd := by
  simp only [memberIssues, List.flatMap_cons, List.flatMap_nil, List.append_nil]
  change (((((([] ++ _) ++ _) ++ _) ++ _) ++ _) ++ _) = _
  simp only [List.nil_append, List.append_assoc]

theorem memberIssues_located : ∀ entry ∈ memberIssues formats body, ∀ issue ∈ entry.2, issue.path = [entry.1] := by
  simp only [memberIssues, List.forall_mem_cons, List.not_mem_nil, false_imp_iff, implies_true, and_true]
  refine ⟨?_, ?_, ?_, ?_, ?_, ?_⟩
  · exact (Schema.Reports.number _ _).located _ _
  · exact ((Schema.Reports.string _ _).refine _ _).located _ _
  · exact (Schema.Reports.string _ _).located _ _
  · exact (Schema.Reports.string _ _).located _ _
  · exact (Schema.Reports.string _ _).optional.located _ _
  · exact Schema.Reports.record.optional.located _ _

theorem memberIssues_refused : (∃ entry ∈ memberIssues formats body, entry.1 = name ∧ entry.2 ≠ []) ↔
    Refused formats body name := by
  have amount : (amountSchema.key "amount" body).issues ≠ [] ↔ ∀ n, ¬AmountMember (body.field "amount") n := by
    refine (Schema.Reports.number _ _).refused_iff.trans (forall_congr' fun n => not_congr ?_)
    exact amountSchema_iff
  have currency : ((currencySchema formats).key "currency" body).issues ≠ [] ↔
      ∀ text, ¬CurrencyMember formats (body.field "currency") text := by
    refine ((Schema.Reports.string _ _).refine _ _).refused_iff.trans (forall_congr' fun text => not_congr ?_)
    exact currencySchema_iff
  have merchantId : ((merchantIdSchema formats).key "merchantId" body).issues ≠ [] ↔
      ∀ text, ¬MerchantMember (body.field "merchantId") text := by
    refine (Schema.Reports.string _ _).refused_iff.trans (forall_congr' fun text => not_congr ?_)
    exact merchantIdSchema_iff
  have customerEmail : ((customerEmailSchema formats).key "customerEmail" body).issues ≠ [] ↔
      ∀ text, ¬EmailMember formats (body.field "customerEmail") text := by
    refine (Schema.Reports.string _ _).refused_iff.trans (forall_congr' fun text => not_congr ?_)
    exact customerEmailSchema_iff
  have description : ((descriptionSchema formats).key "description" body).issues ≠ [] ↔
      ∀ text, ¬DescriptionMember (body.field "description") text := by
    refine (Schema.Reports.string _ _).optional.refused_iff.trans (forall_congr' fun text => not_congr ?_)
    exact descriptionSchema_iff
  have metadata : (Schema.record.optional.key "metadata" body).issues ≠ [] ↔
      ∀ fields, ¬MetadataMember (body.field "metadata") fields := by
    refine Schema.Reports.record.optional.refused_iff.trans (forall_congr' fun fields => not_congr ?_)
    exact metadataSchema_iff
  simp only [memberIssues, List.exists_mem_cons_iff, List.not_mem_nil, false_and, exists_false, or_false, amount,
    currency, merchantId, customerEmail, description, metadata]
  constructor
  · rintro (⟨rfl, wrong⟩ | ⟨rfl, wrong⟩ | ⟨rfl, wrong⟩ | ⟨rfl, wrong⟩ | ⟨rfl, wrong⟩ | ⟨rfl, wrong⟩)
    · exact .amount wrong
    · exact .currency wrong
    · exact .merchantId wrong
    · exact .customerEmail wrong
    · exact .description wrong
    · exact .metadata wrong
  · rintro (wrong | wrong | wrong | wrong | wrong | wrong)
    · exact .inl ⟨rfl, wrong⟩
    · exact .inr (.inl ⟨rfl, wrong⟩)
    · exact .inr (.inr (.inl ⟨rfl, wrong⟩))
    · exact .inr (.inr (.inr (.inl ⟨rfl, wrong⟩)))
    · exact .inr (.inr (.inr (.inr (.inl ⟨rfl, wrong⟩))))
    · exact .inr (.inr (.inr (.inr (.inr ⟨rfl, wrong⟩))))

theorem CreatePaymentRequest.json_description :
    request.json.field "description" = request.description.map Json.string := by
  obtain ⟨_, _, _, _, description, metadata⟩ := request
  cases description <;> cases metadata <;> rfl

theorem CreatePaymentRequest.json_metadata : request.json.field "metadata" = request.metadata.map Json.object := by
  obtain ⟨_, _, _, _, description, metadata⟩ := request
  cases description <;> cases metadata <;> rfl

theorem MetadataMember.again {metadata : Option (List (String × Json))} (member : MetadataMember data metadata) :
    MetadataMember (metadata.map Json.object) metadata := by
  cases metadata with
  | none => rfl
  | some fields =>
    obtain ⟨all, _, rfl⟩ := member
    refine ⟨_, rfl, ?_⟩
    rw [List.filter_filter]
    simp

theorem supported_length : ∀ code ∈ supportedCurrencies, utf16Length code = 3 := by decide +kernel

end PaymentModel
