import PaymentSystem.Proof.Evolution

namespace PaymentModel

open Async

/-- The middleware has called `next` for a request with that key. -/
def Obs.admits (key : String) : Obs → Bool
  | .admitted (some other) => other = key
  | _ => false

def Obs.posts (key : String) : Obs → Bool
  | .posted request => orNull request.idempotencyKey = some key
  | _ => false

/-- The threads that the middleware has let through under a key, one entry a call of `next`. -/
def admissions (key : String) (trace : List (Nat × Obs)) : List Nat :=
  (trace.filter fun entry => entry.2.admits key).map Prod.fst

/-- The record of the key does not expire and every `SET NX` finds none there. -/
def claimsFree (key : String) : Condition where
  call _ w c _ :=
    match c with
    | .recordSetNx other _ _ => other = redisKey key → (w.records other).isNone
    | _ => true
  event _ e :=
    match e with
    | .expireRecord other => other ≠ redisKey key
    | _ => true

/-- The requests under a key have one claim between them. -/
structure Exclusive (key : String) (w : World) : Prop where
  unclaimed : w.records (redisKey key) = none → ∀ t written, (t, .claim (redisKey key) written) ∉ w.trace
  claimant : ∀ t u written written', (t, .claim (redisKey key) written) ∈ w.trace →
    (u, .claim (redisKey key) written') ∈ w.trace → t = u
  claimed : ∀ t, (t, .admitted (some key)) ∈ w.trace → ∃ written, (t, .claim (redisKey key) written) ∈ w.trace
  once : (admissions key w.trace).length ≤ 1

/-- What a step from `w` to `w'` leaves under a key: the record that was there, one of a request under the key,
    or none when it expires. -/
inductive Leaves (site : Deployment) (R : Condition) (t : Nat) (key : String) (w w' : World) : Prop
  | same (kept : w'.records (redisKey key) = w.records (redisKey key))
  | claimed {request : PostRequest} (hasKey : orNull request.idempotencyKey = some key)
    (posted : .posted request ∈ w.history t) (free : w.records (redisKey key) = none)
    (record : w'.records (redisKey key) = some (.processing request.path (hashBody site request.body.json)))
  | answered {request : PostRequest} {parent code : Nat} {path : String} {body : ResponseBody} {h : List Obs}
    (hasKey : orNull request.idempotencyKey = some key) (started : h <:+ w.history parent)
    (concluded : Concluded request code body h)
    (record : w'.records (redisKey key) =
      some (.completed path (hashBody site request.body.json) code body))
  | expired (admitted : R.event w (.expireRecord (redisKey key)) = true) (record : w'.records (redisKey key) = none)

variable {site : Deployment} {R : Condition} {t u : Nat} {w w' : World} {key : String} {request : PostRequest}
  {h : List Obs} {pool : Pool calls JsError World}

theorem Obs.admits_iff {o : Obs} : o.admits key = true ↔ o = .admitted (some key) := by
  cases o with
  | admitted other => cases other <;> simp [Obs.admits]
  | _ => simp [Obs.admits]

theorem Obs.posts_iff {o : Obs} :
    o.posts key = true ↔ ∃ request, o = .posted request ∧ orNull request.idempotencyKey = some key := by
  cases o with
  | posted request => simp [Obs.posts]
  | _ => simp [Obs.posts]

theorem mem_admissions {trace : List (Nat × Obs)} :
    t ∈ admissions key trace ↔ (t, .admitted (some key)) ∈ trace := by
  simp [admissions, Obs.admits_iff]

theorem Admissible.claim (admissible : Admissible request h) (hasKey : orNull request.idempotencyKey = some key) :
    ∃ written, .claim (redisKey key) written ∈ h := by
  cases admissible with
  | unkeyed noKey =>
    rw [noKey] at hasKey
    cases hasKey
  | keyed hasKey' stored =>
    rw [hasKey'] at hasKey
    cases hasKey
    exact ⟨_, List.mem_append_right _ (List.mem_cons_self ..)⟩

theorem Admissible.not_admitted (admissible : Admissible request h) (other : Option String) :
    .admitted other ∉ h := by
  cases admissible with
  | unkeyed => simp
  | keyed _ stored =>
    intro member
    rcases List.mem_append.mp member with note | rest
    · rcases stored _ note with is | is | ⟨_, is, _⟩ <;> cases is
    · simp at rest

theorem redisKey_injective {other : String} (same : redisKey other = redisKey key) : other = key := by
  simpa [redisKey] using same

theorem Step.leaves (step : Step site R t w w') (key : String) : Leaves site R t key w w' := by
  cases step with
  | claim issued free =>
    cases issued with
    | @recordSetNx request other _ own hasKey =>
      by_cases same : other = key
      · subst same
        exact .claimed hasKey (by simp [own]) free (by simp [World.setRecord])
      · have different : redisKey key ≠ redisKey other := fun is => same (redisKey_injective is.symm)
        exact .same (by simp [World.setRecord, different])
  | store issued =>
    cases issued with
    | @recordSet _ _ request other _ _ _ _ _ hasKey started concluded =>
      by_cases same : other = key
      · subst same
        exact .answered hasKey started concluded (Function.update_self ..)
      · have different : redisKey key ≠ redisKey other := fun is => same (redisKey_injective is.symm)
        exact .same (by simp [World.setRecord, different])
  | @expireRecord other admitted =>
    by_cases same : other = redisKey key
    · subst same
      exact .expired admitted (by simp [World.setRecord])
    · exact .same (by simp [World.setRecord, Ne.symm same])
  | note | fault | transaction | statement | lock | orphan | unlock | expireLock | enqueue | enqueueRetry
  | processFinished | retryFinished | arrive | deliverProcess | deliverRetry | stallProcess | stallRetry
  | elapse => exact .same rfl

/-- A claim is the first one for a record, or finds one there. -/
theorem Step.claimed (step : Step site R t w w') {written : Bool}
    (trace : w'.trace = (t, .claim key written) :: w.trace) :
    (w.records key = none ∧ w'.records key ≠ none) ∨
      ∃ record ttl choice, w.records key ≠ none ∧ R.call t w (.recordSetNx key record ttl) choice = true := by
  cases step.adds trace with
  | claim free present => exact .inl ⟨free, present⟩
  | note _ admitted noted =>
    cases noted with
    | claimLost found => exact .inr ⟨_, _, _, by simp [found], admitted⟩
  | arrive arrives => cases arrives

theorem Issued.admissible {other : Option String} (issued : Issued site t w (.next other)) :
    ∃ request, orNull request.idempotencyKey = other ∧ Admissible request (w.history t) := by
  cases issued with
  | next admissible => exact ⟨_, rfl, admissible⟩

theorem Step.admits (step : Step site R t w w') (trace : w'.trace = (t, .admitted (some key)) :: w.trace) :
    ∃ request, orNull request.idempotencyKey = some key ∧ Admissible request (w.history t) := by
  cases step.adds trace with
  | note issued _ noted =>
    cases noted
    exact issued.admissible
  | arrive arrives => cases arrives

theorem admissions_cons (t : Nat) (o : Obs) (trace : List (Nat × Obs)) :
    admissions key ((t, o) :: trace) = if o.admits key then t :: admissions key trace else admissions key trace := by
  by_cases admits : o.admits key = true <;> simp [admissions, admits]

theorem Step.recordLasts (step : Step site (claimsFree key) t w w') (absent : w'.records (redisKey key) = none) :
    w.records (redisKey key) = none := by
  cases step.leaves key with
  | same kept => rw [← kept, absent]
  | claimed _ _ _ record | answered _ _ _ record =>
    rw [absent] at record
    cases record
  | expired admitted => exact absurd rfl (of_decide_eq_true admitted)

theorem Step.claimedFirst (step : Step site (claimsFree key) t w w') {written : Bool}
    (trace : w'.trace = (t, .claim (redisKey key) written) :: w.trace) :
    w.records (redisKey key) = none ∧ w'.records (redisKey key) ≠ none := by
  rcases step.claimed trace with first | ⟨_, _, _, present, admitted⟩
  · exact first
  · have free := of_decide_eq_true admitted rfl
    exact (present (Option.isNone_iff_eq_none.mp free)).elim

/-- Whoever was let through before has the same claim, hence is this thread, which was not. -/
theorem Exclusive.first (exclusive : Exclusive key w) (hasKey : orNull request.idempotencyKey = some key)
    (admissible : Admissible request (w.history t)) : admissions key w.trace = [] := by
  rw [List.eq_nil_iff_forall_not_mem]
  intro u member
  obtain ⟨written, claim⟩ := admissible.claim hasKey
  obtain ⟨written', claim'⟩ := exclusive.claimed u (mem_admissions.mp member)
  obtain rfl := exclusive.claimant t u _ _ (World.mem_history.mp claim) claim'
  exact admissible.not_admitted _ (World.mem_history.mpr (mem_admissions.mp member))

theorem Exclusive.step (exclusive : Exclusive key w) (step : Step site (claimsFree key) t w w') :
    Exclusive key w' := by
  rcases step.trace with same | ⟨o, same⟩
  · constructor
    · rw [same]
      exact fun none => exclusive.unclaimed (step.recordLasts none)
    · rw [same]
      exact exclusive.claimant
    · rw [same]
      exact exclusive.claimed
    · rw [same]
      exact exclusive.once
  · constructor <;> rw [same]
    · intro none u written member
      rcases List.mem_cons.mp member with new | before
      · cases new
        exact (step.claimedFirst same).2 none
      · exact exclusive.unclaimed (step.recordLasts none) u written before
    · intro u v written written' member member'
      rcases List.mem_cons.mp member with new | before <;> rcases List.mem_cons.mp member' with new' | before'
      · cases new
        cases new'
        rfl
      · cases new
        exact (exclusive.unclaimed (step.claimedFirst same).1 _ _ before').elim
      · cases new'
        exact (exclusive.unclaimed (step.claimedFirst same).1 _ _ before).elim
      · exact exclusive.claimant u v written written' before before'
    · intro u member
      rcases List.mem_cons.mp member with new | before
      · cases new
        obtain ⟨request, hasKey, admissible⟩ := step.admits same
        obtain ⟨written, claim⟩ := admissible.claim hasKey
        exact ⟨written, List.mem_cons_of_mem _ (World.mem_history.mp claim)⟩
      · obtain ⟨written, claim⟩ := exclusive.claimed u before
        exact ⟨written, List.mem_cons_of_mem _ claim⟩
    · rw [admissions_cons]
      split
      · rename_i admits
        rw [Obs.admits_iff.mp admits] at same
        obtain ⟨request, hasKey, admissible⟩ := step.admits same
        rw [exclusive.first hasKey admissible]
        exact Nat.le_refl 1
      · exact exclusive.once

theorem exclusive (reached : Reached site (claimsFree key) pool) : Exclusive key pool.world :=
  invariant_of_steps (Exclusive key) ⟨by simp, by simp, by simp, by simp [admissions]⟩
    (fun _ _ _ exclusive step => exclusive.step step) reached

/-- While the record of a key lasts and every `SET NX` finds none there, the middleware lets one
    request through under the key at most, and answers the others with what is stored, 409 or 422. -/
theorem requests_let_through (reached : Reached site (claimsFree key) pool) :
    (admissions key pool.world.trace).length ≤ 1 ∧
      ∀ t program request, pool.threads[t]? = some program → program.ended = true →
        (pool.world.history t).getLast? = some (.posted request) → orNull request.idempotencyKey = some key →
        t ∈ admissions key pool.world.trace ∨ Answered key (pool.world.history t) := by
  refine ⟨(exclusive reached).once, ?_⟩
  intro t program request found ended last hasKey
  rcases (ended_final reached found ended).2 request key last hasKey with admitted | answered
  · exact .inl (mem_admissions.mpr (World.mem_history.mp admitted))
  · exact .inr answered

/-- The request of thread 3 comes after the response to that of thread 0, and gets it again. -/
theorem requests_let_through_repeated : ∃ pool, Reached sampleSite (claimsFree "order-1") pool ∧
    admissions "order-1" pool.world.trace = [0] ∧ Answered "order-1" (pool.world.history 3) := by
  obtain ⟨pool, reached, shown⟩ := reached_of_run sampleSite (claimsFree "order-1")
    (.event (.post keyedOrder) ::
      acts 0 [{}, {}, {}, {}, {}, { uuid := sampleId '0' }, {}, {}, {}, {}, {}] ++ acts 1 [{}] ++ acts 2 [{}] ++
      .event (.post keyedOrder) :: acts 3 [{}, {}])
    (fun pool => admissions "order-1" pool.world.trace = [0] ∧ (pool.threads[3]?.any Program.ended) = true ∧
      ((pool.world.history 3).getLast?.any (Obs.posts "order-1")) = true) (by decide +kernel)
  obtain ⟨first, ends, posts⟩ := of_decide_eq_true shown
  obtain ⟨program, found, ended⟩ := (Option.any_eq_true _ _).mp ends
  obtain ⟨o, last, posted⟩ := (Option.any_eq_true _ _).mp posts
  obtain ⟨request, rfl, hasKey⟩ := Obs.posts_iff.mp posted
  rcases (requests_let_through reached).2 3 program request found ended last hasKey with again | answered
  · rw [first] at again
    simp at again
  · exact ⟨pool, reached, first, answered⟩

/-- Both requests find no record, and what `SET NX` reports to the second one is not used. -/
theorem requests_let_through_twice : ∃ pool, Reached sampleSite .free pool ∧
    admissions "order-1" pool.world.trace = [1, 0] := by
  obtain ⟨pool, reached, shown⟩ := reached_of_run sampleSite .free
    ([.event (.post keyedOrder), .event (.post keyedOrder)] ++
      acts 0 [{}] ++ acts 1 [{}] ++ acts 0 [{}, {}, {}, {}] ++ acts 1 [{}, {}, {}, {}])
    (fun pool => admissions "order-1" pool.world.trace = [1, 0]) (by decide +kernel)
  exact ⟨pool, reached, of_decide_eq_true shown⟩

end PaymentModel
