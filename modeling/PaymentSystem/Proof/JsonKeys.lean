import PaymentSystem.Proof.JsonText

namespace PaymentModel

namespace Json

mutual

/-- The value with the code units of its strings. -/
def toValue : Json → JsonValue
  | .null => .null
  | .bool value => .bool value
  | .number value => .number value
  | .string value => .string (utf16 value)
  | .array items => .array (itemValues items)
  | .object fields => .object (fieldValues fields)

def itemValues : List Json → List JsonValue
  | [] => []
  | item :: items => toValue item :: itemValues items

def fieldValues : List (String × Json) → List (JsString × JsonValue)
  | [] => []
  | (key, value) :: fields => (utf16 key, toValue value) :: fieldValues fields

end

mutual

theorem toValue_inj : {a b : Json} → a.toValue = b.toValue → a = b
  | .null, .null, _ => rfl
  | .bool _, .bool _, same => by
    cases same
    rfl
  | .number _, .number _, same => by
    cases same
    rfl
  | .string _, .string _, same => congrArg Json.string (utf16_injective (JsonValue.string.inj same))
  | .array _, .array _, same => congrArg Json.array (itemValues_inj (JsonValue.array.inj same))
  | .object _, .object _, same => congrArg Json.object (fieldValues_inj (JsonValue.object.inj same))

theorem itemValues_inj : {a b : List Json} → itemValues a = itemValues b → a = b
  | [], [], _ => rfl
  | _ :: _, _ :: _, same => by
    obtain ⟨first, rest⟩ := List.cons.inj same
    rw [toValue_inj first, itemValues_inj rest]

theorem fieldValues_inj : {a b : List (String × Json)} → fieldValues a = fieldValues b → a = b
  | [], [], _ => rfl
  | (_, _) :: _, (_, _) :: _, same => by
    obtain ⟨first, rest⟩ := List.cons.inj same
    obtain ⟨key, value⟩ := Prod.mk.inj first
    rw [utf16_injective key, toValue_inj value, fieldValues_inj rest]

end

theorem quote_toList (text : String) :
    (quote text).toList = quotationMark :: (quoteUnits (utf16 text) ++ [quotationMark]) := by
  unfold quote
  simp [quoteUnits_utf16, quotationMark]

mutual

/-- `JSON.stringify` without a replacer prints the code units of the strings. -/
theorem stringify_toList : (value : Json) → (stringify none value).toList = value.toValue.stringify
  | .null | .bool true | .bool false => rfl
  | .number value => rfl
  | .string value => quote_toList value
  | .array items => by
    rw [stringify, separated, String.toList_append, String.toList_append, String.toList_intercalate,
      stringifyItems_toList items]
    simp [toValue, JsonValue.stringify]
  | .object fields => by
    rw [stringify, separated, chosen, String.toList_append, String.toList_append, String.toList_intercalate,
      stringifyFields_toList fields]
    simp [toValue, JsonValue.stringify, leftBrace, rightBrace]

theorem stringifyItems_toList : (items : List Json) →
    (stringifyItems none items).map String.toList = JsonValue.stringifyItems (itemValues items)
  | [] => rfl
  | item :: items => by
    rw [stringifyItems, List.map_cons, stringify_toList item, stringifyItems_toList items]
    rfl

theorem stringifyFields_toList : (fields : List (String × Json)) →
    ((stringifyFields none fields).map fun member => quote member.1 ++ ":" ++ member.2).map String.toList =
      JsonValue.stringifyMembers (fieldValues fields)
  | [] => rfl
  | (key, value) :: fields => by
    rw [stringifyFields, List.map_cons, List.map_cons, stringifyFields_toList fields, String.toList_append,
      String.toList_append, quote_toList, stringify_toList value]
    simp [fieldValues, JsonValue.stringifyMembers]

end

theorem stringify_injective : Function.Injective (stringify none) := by
  intro a b same
  have printed := congrArg String.toList same
  rw [stringify_toList, stringify_toList] at printed
  exact toValue_inj (JsonValue.stringify_injective printed)

mutual

/-- The value as a replacer array leaves it: every object has the listed keys that it has, in the
    order of the list. -/
def listed (keys : List String) : Json → Json
  | .array items => .array (listedItems keys items)
  | .object fields => .object (keys.filterMap fun key => (listedFields keys fields).find? fun entry => entry.1 = key)
  | value => value

def listedItems (keys : List String) : List Json → List Json
  | [] => []
  | item :: items => listed keys item :: listedItems keys items

def listedFields (keys : List String) : List (String × Json) → List (String × Json)
  | [] => []
  | (key, value) :: fields => (key, listed keys value) :: listedFields keys fields

end

variable {keys : List String}

theorem stringifyFields_eq (replacer : Option (List String)) (fields : List (String × Json)) :
    stringifyFields replacer fields = fields.map fun entry => (entry.1, stringify replacer entry.2) := by
  induction fields with
  | nil => rfl
  | cons entry fields ih => rw [List.map_cons, ← ih, stringifyFields]

theorem find_map {α β : Type} (print : α → β) (key : String) (entries : List (String × α)) :
    (entries.map fun entry => (entry.1, print entry.2)).find? (fun entry => entry.1 = key) =
      (entries.find? fun entry => entry.1 = key).map fun entry => (entry.1, print entry.2) := by
  rw [List.find?_map]
  rfl

mutual

/-- With an array of keys as the replacer, the value that it leaves is printed. -/
theorem stringify_listed : (value : Json) → stringify (some keys) value = stringify none (value.listed keys)
  | .null | .bool _ | .number _ | .string _ => rfl
  | .array items => by
    rw [stringify, stringifyItems_listed items]
    rfl
  | .object fields => by
    rw [stringify, stringifyFields_listed fields, listed, stringify, stringifyFields_eq, stringifyFields_eq, chosen,
      chosen, List.map_map, List.map_filterMap]
    simp only [find_map, Option.map_map]

theorem stringifyItems_listed : (items : List Json) →
    stringifyItems (some keys) items = stringifyItems none (listedItems keys items)
  | [] => rfl
  | item :: items => by
    rw [stringifyItems, stringify_listed item, stringifyItems_listed items]
    rfl

theorem stringifyFields_listed : (fields : List (String × Json)) →
    stringifyFields (some keys) fields = stringifyFields none (listedFields keys fields)
  | [] => rfl
  | (key, value) :: fields => by
    rw [stringifyFields, stringify_listed value, stringifyFields_listed fields]
    rfl

end

end Json

end PaymentModel
