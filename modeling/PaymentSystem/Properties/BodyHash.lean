import PaymentSystem.Model.Routes
import PaymentSystem.Proof.JsonKeys
import PaymentSystem.Proof.Runs

namespace PaymentModel

/-- The order of `Array.prototype.sort` on strings. -/
def keyLe (a b : String) : Prop := unitsLe (utf16 a) (utf16 b) = true

instance : DecidableRel keyLe := fun a b => inferInstanceAs (Decidable (unitsLe (utf16 a) (utf16 b) = true))

theorem unitsLe_total : ∀ a b : JsString, unitsLe a b = true ∨ unitsLe b a = true
  | [], _ => .inl (by rw [unitsLe])
  | _ :: _, [] => .inr (by rw [unitsLe])
  | a :: as, b :: bs => by
    by_cases same : a = b
    · subst same
      simpa [unitsLe] using unitsLe_total as bs
    · have different : a.toNat ≠ b.toNat := fun h => same (UInt16.toNat.inj h)
      simp only [unitsLe, same, Ne.symm same, if_false, decide_eq_true_eq]
      omega

theorem unitsLe_cons {a b : UInt16} {as bs : JsString} : unitsLe (a :: as) (b :: bs) = true ↔
    a.toNat < b.toNat ∨ (a = b ∧ unitsLe as bs = true) := by
  by_cases same : a = b
  · subst same
    simp [unitsLe]
  · simp [unitsLe, same]

theorem unitsLe_trans : ∀ {a b c : JsString}, unitsLe a b = true → unitsLe b c = true → unitsLe a c = true
  | [], _, _, _, _ => by rw [unitsLe]
  | _ :: _, [], _, first, _ => by simp [unitsLe] at first
  | _ :: _, _ :: _, [], _, second => by simp [unitsLe] at second
  | a :: as, b :: bs, c :: cs, first, second => by
    rw [unitsLe_cons] at first second ⊢
    rcases first with less | ⟨rfl, first⟩
    · rcases second with less' | ⟨rfl, _⟩
      · exact .inl (Nat.lt_trans less less')
      · exact .inl less
    · rcases second with less | ⟨rfl, second⟩
      · exact .inl less
      · exact .inr ⟨rfl, unitsLe_trans first second⟩

theorem unitsLe_antisymm : ∀ {a b : JsString}, unitsLe a b = true → unitsLe b a = true → a = b
  | [], [], _, _ => rfl
  | [], _ :: _, _, second => by simp [unitsLe] at second
  | _ :: _, [], first, _ => by simp [unitsLe] at first
  | a :: as, b :: bs, first, second => by
    rw [unitsLe_cons] at first second
    rcases first with less | ⟨rfl, first⟩
    · rcases second with less' | ⟨rfl, _⟩ <;> omega
    · rcases second with less | ⟨_, second⟩
      · omega
      · rw [unitsLe_antisymm first second]

instance : Std.Total keyLe := ⟨fun _ _ => unitsLe_total _ _⟩

instance : IsTrans String keyLe := ⟨fun _ _ _ first second => unitsLe_trans first second⟩

theorem keyLe_antisymm {a b : String} (first : keyLe a b) (second : keyLe b a) : a = b :=
  utf16_injective (unitsLe_antisymm first second)

def sortKeys (keys : List String) : List String := keys.insertionSort keyLe

namespace Json

def sortFields (fields : List (String × Json)) : List (String × Json) :=
  fields.insertionSort fun a b => keyLe a.1 b.1

mutual

/-- The value with the keys of every object in order. -/
def ordered : Json → Json
  | .array items => .array (orderedItems items)
  | .object fields => .object (sortFields (orderedFields fields))
  | value => value

def orderedItems : List Json → List Json
  | [] => []
  | item :: items => ordered item :: orderedItems items

def orderedFields : List (String × Json) → List (String × Json)
  | [] => []
  | (key, value) :: fields => (key, ordered value) :: orderedFields fields

end

/-- The same JSON value up to the order of the keys, at every depth. -/
def Same (a b : Json) : Prop := a.ordered = b.ordered

mutual

/-- The value with no other keys in its objects than the listed ones. -/
def pruned (keys : List String) : Json → Json
  | .array items => .array (prunedItems keys items)
  | .object fields => .object ((prunedFields keys fields).filter fun entry => entry.1 ∈ keys)
  | value => value

def prunedItems (keys : List String) : List Json → List Json
  | [] => []
  | item :: items => pruned keys item :: prunedItems keys items

def prunedFields (keys : List String) : List (String × Json) → List (String × Json)
  | [] => []
  | (key, value) :: fields => (key, pruned keys value) :: prunedFields keys fields

end

mutual

/-- No object has two members of one name. -/
def DistinctKeys : Json → Prop
  | .array items => DistinctItems items
  | .object fields => (fields.map Prod.fst).Nodup ∧ DistinctFields fields
  | _ => True

def DistinctItems : List Json → Prop
  | [] => True
  | item :: items => DistinctKeys item ∧ DistinctItems items

def DistinctFields : List (String × Json) → Prop
  | [] => True
  | (_, value) :: fields => DistinctKeys value ∧ DistinctFields fields

end

def keys : Json → List String
  | .object fields => fields.map Prod.fst
  | _ => []

variable {keys : List String} {fields : List (String × Json)}

theorem orderedFields_eq (fields : List (String × Json)) :
    orderedFields fields = fields.map fun entry => (entry.1, entry.2.ordered) := by
  induction fields with
  | nil => rfl
  | cons entry fields ih => rw [List.map_cons, ← ih, orderedFields]

theorem prunedFields_keys (fields : List (String × Json)) :
    (prunedFields keys fields).map Prod.fst = fields.map Prod.fst := by
  induction fields with
  | nil => rfl
  | cons entry fields ih => rw [prunedFields, List.map_cons, ih, List.map_cons]

theorem find_entry {entry : String × Json} (nodup : (fields.map Prod.fst).Nodup) {key : String} :
    (fields.find? fun entry => entry.1 = key) = some entry ↔ entry ∈ fields ∧ entry.1 = key := by
  constructor
  · intro found
    exact ⟨List.mem_of_find?_eq_some found, by simpa using List.find?_some found⟩
  · rintro ⟨member, rfl⟩
    cases found : fields.find? fun other => other.1 = entry.1 with
    | none => exact (List.find?_eq_none.mp found entry member (by simp)).elim
    | some other =>
      have same : other.1 = entry.1 := by simpa using List.find?_some found
      rw [List.inj_on_of_nodup_map nodup (List.mem_of_find?_eq_some found) member same]

theorem filterMap_find (nodup : (fields.map Prod.fst).Nodup) (distinct : keys.Nodup) :
    ((sortKeys keys).filterMap fun key => fields.find? fun entry => entry.1 = key) =
      sortFields (fields.filter fun entry => entry.1 ∈ keys) := by
  have sorted : (sortKeys keys).Nodup := (List.perm_insertionSort keyLe keys).nodup_iff.mpr distinct
  have looked : ∀ entry, (entry ∈ (sortKeys keys).filterMap fun key => fields.find? fun entry => entry.1 = key) ↔
      entry ∈ fields ∧ entry.1 ∈ keys := by
    intro entry
    simp only [List.mem_filterMap, find_entry nodup, sortKeys, List.mem_insertionSort]
    exact ⟨fun ⟨key, listed, member, same⟩ => ⟨member, same ▸ listed⟩, fun ⟨member, listed⟩ => ⟨_, listed, member, rfl⟩⟩
  have kept : ∀ entry, entry ∈ sortFields (fields.filter fun entry => entry.1 ∈ keys) ↔
      entry ∈ fields ∧ entry.1 ∈ keys := by
    intro entry
    simp [sortFields]
  apply @List.Perm.eq_of_pairwise _ fun a b : String × Json => keyLe a.1 b.1
  · intro a b first second le ge
    exact List.inj_on_of_nodup_map nodup ((looked a).mp first).1 ((kept b).mp second).1 (keyLe_antisymm le ge)
  · refine List.Pairwise.filterMap _ ?_ (List.pairwise_insertionSort keyLe keys)
    intro first second le a found b found'
    rw [((find_entry nodup).mp found).2, ((find_entry nodup).mp found').2]
    exact le
  · have total : Std.Total fun a b : String × Json => keyLe a.1 b.1 := ⟨fun _ _ => unitsLe_total _ _⟩
    have trans : IsTrans (String × Json) fun a b => keyLe a.1 b.1 := ⟨fun _ _ _ => unitsLe_trans⟩
    exact List.pairwise_insertionSort _ _
  · refine (List.perm_ext_iff_of_nodup ?_ ?_).mpr fun entry => (looked entry).trans (kept entry).symm
    · refine sorted.filterMap fun first second entry found found' => ?_
      rw [← ((find_entry nodup).mp found).2, ((find_entry nodup).mp found').2]
    · exact (List.perm_insertionSort _ _).nodup_iff.mpr (nodup.of_map.filter _)

mutual

/-- What the replacer array of sorted keys leaves of a value is the pruned value, in order. -/
theorem listed_eq (distinct : keys.Nodup) : (value : Json) → value.DistinctKeys →
    value.listed (sortKeys keys) = (value.pruned keys).ordered
  | .null, _ | .bool _, _ | .number _, _ | .string _, _ => rfl
  | .array items, each => congrArg Json.array (listedItems_eq distinct items each)
  | .object fields, each => by
    obtain ⟨nodup, each⟩ := each
    have filtered : orderedFields ((prunedFields keys fields).filter fun entry => entry.1 ∈ keys) =
        (orderedFields (prunedFields keys fields)).filter fun entry => entry.1 ∈ keys := by
      rw [orderedFields_eq, orderedFields_eq, List.filter_map]
      rfl
    have nodup' : ((orderedFields (prunedFields keys fields)).map Prod.fst).Nodup := by
      rw [orderedFields_eq, List.map_map]
      exact (prunedFields_keys fields).symm ▸ nodup
    rw [listed, listedFields_eq distinct fields each, filterMap_find nodup' distinct, pruned, ordered, filtered]

theorem listedItems_eq (distinct : keys.Nodup) : (items : List Json) → DistinctItems items →
    listedItems (sortKeys keys) items = orderedItems (prunedItems keys items)
  | [], _ => rfl
  | item :: items, each => by
    rw [listedItems, listed_eq distinct item each.1, listedItems_eq distinct items each.2]
    rfl

theorem listedFields_eq (distinct : keys.Nodup) : (fields : List (String × Json)) → DistinctFields fields →
    listedFields (sortKeys keys) fields = orderedFields (prunedFields keys fields)
  | [], _ => rfl
  | (key, value) :: fields, each => by
    rw [listedFields, listed_eq distinct value each.1, listedFields_eq distinct fields each.2]
    rfl

end

end Json

variable {site : Deployment} {first second : List (String × Json)}

/-- The hash is that of the body as the sorted keys of the body leave it. -/
theorem hashBody_listed (site : Deployment) (fields : List (String × Json)) : hashBody site (.object fields) =
    site.sha256 (Json.stringify none ((Json.object fields).listed (sortKeys (Json.object fields).keys))) := by
  rw [← Json.stringify_listed]
  rfl

theorem Json.Same.printed {a b : Json} (same : a.Same b) : stringify none a.ordered = stringify none b.ordered :=
  congrArg (stringify none) same

end PaymentModel
