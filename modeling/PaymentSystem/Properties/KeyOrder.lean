import PaymentSystem.Properties.BodyHash
import PaymentSystem.Properties.CachedAnswers

namespace PaymentModel

open Async

namespace Json

mutual

/-- The values differ at most in the order in which the keys of their objects are listed. -/
inductive Reordered : Json → Json → Prop
  | refl (value : Json) : Reordered value value
  | array {items others : List Json} (each : ReorderedItems items others) : Reordered (.array items) (.array others)
  | object {fields middle others : List (String × Json)} (each : ReorderedFields fields middle)
    (order : middle.Perm others) : Reordered (.object fields) (.object others)

inductive ReorderedItems : List Json → List Json → Prop
  | nil : ReorderedItems [] []
  | cons {item other : Json} {items others : List Json} (first : Reordered item other)
    (rest : ReorderedItems items others) : ReorderedItems (item :: items) (other :: others)

inductive ReorderedFields : List (String × Json) → List (String × Json) → Prop
  | nil : ReorderedFields [] []
  | cons {key : String} {value other : Json} {fields others : List (String × Json)} (first : Reordered value other)
    (rest : ReorderedFields fields others) : ReorderedFields ((key, value) :: fields) ((key, other) :: others)

end

variable {fields others : List (String × Json)}

theorem listedFields_eq_map (keys : List String) (fields : List (String × Json)) :
    listedFields keys fields = fields.map fun entry => (entry.1, entry.2.listed keys) := by
  induction fields with
  | nil => rfl
  | cons entry fields ih => rw [List.map_cons, ← ih, listedFields]

theorem listedFields_keys (keys : List String) (fields : List (String × Json)) :
    (listedFields keys fields).map Prod.fst = fields.map Prod.fst := by
  rw [listedFields_eq_map, List.map_map]
  rfl

/-- A member is found by its key wherever it stands. -/
theorem find_perm (nodup : (fields.map Prod.fst).Nodup) (order : fields.Perm others) (key : String) :
    (fields.find? fun entry => entry.1 = key) = others.find? fun entry => entry.1 = key := by
  have nodup' : (others.map Prod.fst).Nodup := (order.map Prod.fst).nodup_iff.mp nodup
  ext entry
  rw [find_entry nodup, find_entry nodup', order.mem_iff]

theorem ReorderedFields.keys : {fields others : List (String × Json)} → ReorderedFields fields others →
    fields.map Prod.fst = others.map Prod.fst
  | _, _, .nil => rfl
  | _, _, .cons _ rest => by rw [List.map_cons, List.map_cons, rest.keys]

mutual

/-- A replacer array leaves the same of two values that differ in the order of keys. -/
theorem Reordered.listed (keys : List String) : {value other : Json} → Reordered value other →
    value.DistinctKeys → value.listed keys = other.listed keys
  | _, _, .refl _, _ => rfl
  | _, _, .array each, distinct => congrArg Json.array (each.listed keys distinct)
  | _, _, @Reordered.object fields middle others each order, ⟨nodup, distinct⟩ => by
    have left : listedFields keys fields = listedFields keys middle := each.listed keys distinct
    have right : (listedFields keys middle).Perm (listedFields keys others) := by
      rw [listedFields_eq_map, listedFields_eq_map]
      exact order.map _
    have nodup' : ((listedFields keys middle).map Prod.fst).Nodup := by
      rw [← left, listedFields_keys]
      exact nodup
    rw [Json.listed, Json.listed, left, funext (find_perm nodup' right)]

theorem ReorderedItems.listed (keys : List String) : {items others : List Json} → ReorderedItems items others →
    DistinctItems items → listedItems keys items = listedItems keys others
  | _, _, .nil, _ => rfl
  | _, _, .cons first rest, distinct => by
    rw [listedItems, listedItems, first.listed keys distinct.1, rest.listed keys distinct.2]

theorem ReorderedFields.listed (keys : List String) : {fields others : List (String × Json)} →
    ReorderedFields fields others → DistinctFields fields → listedFields keys fields = listedFields keys others
  | _, _, .nil, _ => rfl
  | _, _, .cons first rest, distinct => by
    rw [listedFields, listedFields, first.listed keys distinct.1, rest.listed keys distinct.2]

end

theorem Reordered.keys {first second : List (String × Json)} (reordered : Reordered (.object first) (.object second)) :
    (Json.object first).keys.Perm (Json.object second).keys := by
  cases reordered with
  | refl => exact .refl _
  | object each order =>
    rw [Json.keys, Json.keys, each.keys]
    exact order.map Prod.fst

end Json

theorem sortKeys_perm {keys others : List String} (order : keys.Perm others) : sortKeys keys = sortKeys others := by
  apply @List.Perm.eq_of_pairwise _ keyLe
  · exact fun _ _ _ _ le ge => keyLe_antisymm le ge
  · exact List.pairwise_insertionSort keyLe keys
  · exact List.pairwise_insertionSort keyLe others
  · exact ((List.perm_insertionSort keyLe keys).trans order).trans (List.perm_insertionSort keyLe others).symm

/-- With this record under its key, the middleware answers the request as the one that has left the record. -/
def Honours (site : Deployment) (request : PostRequest) (key : String) (cached : IdempotencyRecord) : Prop :=
  ∃ next, idempotencyCheck site request key = .call (.recordGet (redisKey key)) next ∧
    next (.ok (some cached)) = match cached with
      | .completed _ _ code body => (do
        originalJson code body
        pure .answered)
      | .processing .. => throw (.app (idempotencyConflictError key))

/-- What is sent under the key differs from the body at most in the order of keys. -/
def Reserialises (key : String) (body : Json) (w : World) : Prop :=
  ∀ t request, .posted request ∈ w.history t → orNull request.idempotencyKey = some key →
    ∃ fields, request.body.json = .object fields ∧ body.Reordered (.object fields)

/-- A request under the key has left the record. -/
def Left (site : Deployment) (key : String) (w : World) (record : IdempotencyRecord) : Prop :=
  ∃ t request, .posted request ∈ w.history t ∧ orNull request.idempotencyKey = some key ∧
    record.requestBodyHash = hashBody site request.body.json

/-- The records of a key, and those that were read there, are left by requests under the key. -/
structure RecordsLeft (site : Deployment) (key : String) (w : World) : Prop where
  stored : ∀ record, w.records (redisKey key) = some record → Left site key w record
  read : ∀ t record, .recordRead (redisKey key) (some record) ∈ w.history t → Left site key w record

variable {site : Deployment} {R : Condition} {t : Nat} {w w' : World} {key : String} {request : PostRequest}
  {record cached : IdempotencyRecord} {pool : Pool calls JsError World} {first : List (String × Json)}

theorem hashBody_reordered {second : List (String × Json)} (distinct : (Json.object first).DistinctKeys)
    (reordered : Json.Reordered (.object first) (.object second)) :
    hashBody site (.object first) = hashBody site (.object second) := by
  rw [hashBody_listed, hashBody_listed, sortKeys_perm reordered.keys]
  exact congrArg (fun value => site.sha256 (Json.stringify none value)) (reordered.listed _ distinct)

theorem honours_of_eq (same : cached.requestBodyHash = hashBody site request.body.json) :
    Honours site request key cached := by
  refine ⟨_, rfl, ?_⟩
  change (if _ then _ else _) = _
  refine (if_neg (not_not.mpr same)).trans ?_
  cases cached <;> rfl

theorem Left.later (left : Left site key w record) (grown : w.trace <:+ w'.trace) : Left site key w' record := by
  obtain ⟨t, request, posted, hasKey, hash⟩ := left
  exact ⟨t, request, (World.history_suffix grown t).subset posted, hasKey, hash⟩

theorem Concluded.posted {code : Nat} {body : ResponseBody} {h : List Obs} (concluded : Concluded request code body h) :
    .posted request ∈ h := by
  have last : ∀ {h}, Admissible request h → .posted request ∈ h := fun admissible =>
    List.mem_of_getLast? admissible.last
  cases concluded with
  | created admissible => simp [last admissible]
  | refused newer admissible => simp [last admissible]
  | lost newer admissible => simp [last admissible]

theorem Leaves.left (leaves : Leaves site R t key w w') (found : w'.records (redisKey key) = some record) :
    w.records (redisKey key) = some record ∨ Left site key w record := by
  cases leaves with
  | same kept => exact .inl (kept ▸ found)
  | claimed hasKey posted free stored =>
    cases stored.symm.trans found
    exact .inr ⟨t, _, posted, hasKey, rfl⟩
  | answered hasKey started concluded stored =>
    cases stored.symm.trans found
    exact .inr ⟨_, _, started.subset concluded.posted, hasKey, rfl⟩
  | expired _ none => cases none.symm.trans found

theorem Step.readRecord (step : Step site R t w w')
    (trace : w'.trace = (t, .recordRead (redisKey key) (some record)) :: w.trace) :
    w.records (redisKey key) = some record := by
  generalize is : Obs.recordRead (redisKey key) (some record) = o at trace
  cases step.adds trace with
  | note issued admitted noted =>
    cases noted with
    | recordRead =>
      obtain ⟨rfl, found⟩ := Obs.recordRead.inj is
      exact found.symm
    | _ => cases is
  | arrive arrives => cases arrives <;> cases is
  | fault | commit | lock | enqueue | enqueueRetry | claim | deliverProcess | deliverRetry => cases is

theorem RecordsLeft.step (records : RecordsLeft site key w) (step : Step site R t w w') : RecordsLeft site key w' where
  stored record found := by
    rcases (step.leaves key).left found with before | left
    · exact (records.stored record before).later step.grows
    · exact left.later step.grows
  read u record member := by
    rcases step.history u with same | ⟨o, rfl, trace, own⟩
    · exact (records.read u record (same ▸ member)).later step.grows
    · rcases List.mem_cons.mp (own ▸ member) with new | before
      · cases new
        exact (records.stored record (step.readRecord trace)).later step.grows
      · exact (records.read u record before).later step.grows

theorem recordsLeft (reached : Reached site R pool) : RecordsLeft site key pool.world :=
  invariant_of_steps (RecordsLeft site key) ⟨by rintro _ ⟨⟩, by rintro _ _ ⟨⟩⟩
    (fun _ _ _ records step => records.step step) reached

/-- The hash of a body is that of every reordering of its keys, and as long as the requests under a key are
    reorderings of one body, none of them is refused for the record that it reads. -/
theorem key_order_ignored (distinct : (Json.object first).DistinctKeys) :
    (∀ second, Json.Reordered (.object first) (.object second) →
      hashBody site (.object first) = hashBody site (.object second)) ∧
    ∀ R pool key, Reached site R pool → Reserialises key (.object first) pool.world →
      ∀ t request cached, .posted request ∈ pool.world.history t → orNull request.idempotencyKey = some key →
        .recordRead (redisKey key) (some cached) ∈ pool.world.history t → Honours site request key cached := by
  refine ⟨fun second => hashBody_reordered distinct, ?_⟩
  intro R pool key reached reserialises t request cached posted hasKey read
  obtain ⟨u, earlier, posted', hasKey', hash⟩ := (recordsLeft reached).read t cached read
  obtain ⟨fields, body, reordered⟩ := reserialises t request posted hasKey
  obtain ⟨fields', body', reordered'⟩ := reserialises u earlier posted' hasKey'
  apply honours_of_eq
  rw [hash, body, body', ← hashBody_reordered distinct reordered, ← hashBody_reordered distinct reordered']

/-- An order under the key `order-1` that carries metadata. -/
def orderTagged (metadata : List (String × Json)) : PostRequest :=
  { keyedOrder with
    body := orderBody (sampleOrder none trimmed_none).body.amount (some metadata)
    bounded := orderBody_bounded .. }

def tags : List (String × Json) :=
  [("note", .string "gift"), ("lines", .array [.object [("sku", .string "A-1"), ("count", .number (.ofNat 2))]])]

def tagsReordered : List (String × Json) :=
  [("lines", .array [.object [("count", .number (.ofNat 2)), ("sku", .string "A-1")]]), ("note", .string "gift")]

/-- What is sent has one of these bodies. -/
def Obs.carries (bodies : List Json) : Obs → Bool
  | .posted request => bodies.any fun body => request.body.json.stringify none = body.stringify none
  | _ => true

def Obs.findsAnswer (key : String) : Obs → Bool
  | .recordRead place (some cached) => place = redisKey key && cached.answers 201
  | _ => false

theorem Obs.carries_iff {bodies : List Json} :
    (Obs.posted request).carries bodies = true ↔ request.body.json ∈ bodies := by
  simp only [carries, List.any_eq_true, decide_eq_true_eq, Json.stringify_injective.eq_iff, exists_eq_right']

theorem Obs.findsAnswer_iff {o : Obs} : o.findsAnswer key = true ↔
    ∃ path hash body, o = .recordRead (redisKey key) (some (.completed path hash 201 body)) := by
  unfold findsAnswer
  split
  · simp only [Bool.and_eq_true, decide_eq_true_eq, IdempotencyRecord.answers_iff]
    constructor
    · rintro ⟨rfl, path, hash, body, rfl⟩
      exact ⟨path, hash, body, rfl⟩
    · rintro ⟨path, hash, body, same⟩
      cases same
      exact ⟨rfl, path, hash, body, rfl⟩
  · rename_i other
    refine ⟨fun never => Bool.noConfusion never, ?_⟩
    rintro ⟨path, hash, body, rfl⟩
    exact (other _ _ rfl).elim

theorem tags_reordered : Json.Reordered (.object tags) (.object tagsReordered) := by
  refine .object (.cons (.refl _) (.cons (.array (.cons ?_ .nil)) .nil)) (.swap _ _ _)
  exact .object (.cons (.refl _) (.cons (.refl _) .nil)) (.swap _ _ _)

theorem orderTagged_reordered :
    (orderTagged tags).body.json.Reordered (orderTagged tagsReordered).body.json := by
  refine .object ?_ (.refl _)
  exact .cons (.refl _) (.cons (.refl _) (.cons (.refl _) (.cons (.refl _) (.cons tags_reordered .nil))))

theorem orderTagged_distinct : (orderTagged tags).body.json.DistinctKeys := by
  refine ⟨(by decide : ["amount", "currency", "merchantId", "customerEmail", "metadata"].Nodup), ?_⟩
  refine ⟨trivial, trivial, trivial, trivial, ⟨(by decide : ["note", "lines"].Nodup), trivial, ⟨?_, trivial⟩, trivial⟩,
    trivial⟩
  exact ⟨(by decide : ["sku", "count"].Nodup), trivial, trivial, trivial⟩

/-- The second request lists the keys of its metadata in another order, at two depths, and gets the response to
    the first one. -/
theorem key_order_ignored_replayed : ∃ pool request path hash body, Reached sampleSite .free pool ∧
    .posted request ∈ pool.world.history 3 ∧ request.body.json = (orderTagged tagsReordered).body.json ∧
    .recordRead (redisKey "order-1") (some (.completed path hash 201 body)) ∈ pool.world.history 3 ∧
    Honours sampleSite request "order-1" (.completed path hash 201 body) := by
  obtain ⟨pool, reached, shown⟩ := reached_of_run sampleSite .free
    (.event (.post (orderTagged tags)) ::
      acts 0 [{}, {}, {}, {}, {}, { uuid := sampleId '0' }, {}, {}, {}, {}, {}] ++ acts 1 [{}] ++ acts 2 [{}] ++
      .event (.post (orderTagged tagsReordered)) :: acts 3 [{}, {}])
    (fun pool => (pool.world.trace.all fun entry =>
        entry.2.carries [(orderTagged tags).body.json, (orderTagged tagsReordered).body.json]) &&
      ((pool.world.history 3).any fun o =>
        o.posts "order-1" && o.carries [(orderTagged tagsReordered).body.json]) &&
      (pool.world.history 3).any (Obs.findsAnswer "order-1")) (by decide +kernel)
  simp only [Bool.and_eq_true, List.all_eq_true, List.any_eq_true] at shown
  obtain ⟨⟨bodies, o, posted, posts, carries⟩, found, read, finds⟩ := shown
  obtain ⟨request, rfl, hasKey⟩ := Obs.posts_iff.mp posts
  obtain ⟨path, hash, body, rfl⟩ := Obs.findsAnswer_iff.mp finds
  have sent : request.body.json = (orderTagged tagsReordered).body.json := by
    simpa using Obs.carries_iff.mp carries
  refine ⟨pool, request, path, hash, body, reached, posted, sent, read, ?_⟩
  refine (key_order_ignored orderTagged_distinct).2 .free pool "order-1" reached ?_ 3 request _ posted hasKey read
  intro t other member _
  have one := Obs.carries_iff.mp (bodies _ (World.mem_history.mp member))
  rcases List.mem_cons.mp one with same | same
  · exact ⟨_, same, .refl _⟩
  · exact ⟨_, List.mem_singleton.mp same, orderTagged_reordered⟩

end PaymentModel
