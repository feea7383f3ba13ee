import PaymentSystem.Proof.Requests

namespace PaymentModel

open Async

variable {site : Deployment} {t : Nat} {w w' : World} {h newer : List Obs} {request : PostRequest} {key : String}

theorem settled_of_bookkeeping (notes : ∀ o ∈ newer, Bookkeeping o) (settled : Settled h) :
    Settled (newer ++ h) := by
  cases newer with
  | nil => exact settled
  | cons o newer =>
    rcases notes o (List.mem_cons_self ..) with rfl | rfl | ⟨commit, rfl, silent⟩
    · trivial
    · trivial
    · exact closed_of_silent silent

theorem final_of_bookkeeping (notes : ∀ o ∈ w.history t, Bookkeeping o) :
    Settled (w.history t) ∧ Handled (w.history t) := by
  refine ⟨?_, ?_⟩
  · have settled := settled_of_bookkeeping (h := []) notes trivial
    rwa [List.append_nil] at settled
  · intro request key last
    rcases notes _ (List.mem_of_getLast? last) with is | is | ⟨commit, is, _⟩ <;> cases is

theorem orNull_some {value : String} (nonempty : value ≠ "") : orNull (some value) = some value := by
  simp [orNull, truthy, nonempty]

/-- The first write of the intercepted response, in a thread of its own. -/
theorem lone_recordSet (parent : Nat) {u code : Nat} {body : ResponseBody} {path : String} {ttl : Rat}
    (new : w.history u = []) (hasKey : orNull request.idempotencyKey = some key) (started : h <:+ w.history parent)
    (concluded : Concluded request code body h) :
    (conduct site).Lone u (.recordSet (redisKey key)
      (.completed path (hashBody site request.body.json) code body) ttl) w := by
  intro w' moved
  have own : w'.history u = [] := moved.own.trans new
  refine ⟨.recordSet own hasKey (started.trans (World.history_suffix moved.trace parent)) concluded, ?_⟩
  intro choice outcome w'' performed final later
  have same : final.history u = w''.history u := later.own
  refine final_of_bookkeeping ?_
  rw [same]
  rcases World.remote_cases (Option.some.inj performed) with ⟨_, _, rfl⟩ | ⟨_, _, rfl⟩ | ⟨_, _, rfl⟩
  · change ∀ o ∈ w'.history u, Bookkeeping o
    rw [own]
    simp
  · rw [World.history_log_self, own]
    simp [Bookkeeping]
  · rw [World.history_log_self]
    change ∀ o ∈ Obs.fault :: w'.history u, Bookkeeping o
    rw [own]
    simp [Bookkeeping]

theorem lone_completeKey {u code : Nat} {body : ResponseBody} (new : w.history u = []) :
    (conduct site).Lone u (.statement (idempotencyKeyUpdateMany key code body)) w := by
  intro w' moved
  have own : w'.history u = [] := moved.own.trans new
  refine ⟨.completeKey own, ?_⟩
  intro choice outcome w'' performed final later
  have same : final.history u = w''.history u := later.own
  refine final_of_bookkeeping ?_
  obtain ⟨o, newer, notes, noted, _⟩ := statement_notes performed
  rw [same, noted, own, List.append_nil]
  exact notes

/-- A response that may end an admitted request. -/
def Responds (site : Deployment) (t : Nat) (request : PostRequest) (json : Responder) : Prop :=
  ∀ {code body w h}, Rests t h w → Concluded request code body (w.history t) →
    Conducts site t (json code body) (fun _ => Rests t h) (fun _ _ => False) w

theorem responds_originalJson : Responds site t request originalJson := by
  intro code body w h rests _
  apply conducts_respond rfl rests.1
  exact fun w' own' _ => (Rests.of_own [_] own' trivial).widen rests.2

theorem responds_cachingJson (hasKey : orNull request.idempotencyKey = some key) (path : String) :
    Responds site t request (cachingJson site request key path) := by
  intro code body w h rests concluded
  apply Contract.Safe.bind
  apply Contract.Safe.start
  · intro w₁ moved u new
    have same : w₁.history t = w.history t := moved.own
    exact lone_recordSet t new hasKey (same ▸ List.suffix_refl (w.history t)) concluded
  · intro w₁ moved
    apply Contract.Safe.bind
    apply Contract.Safe.start
    · exact fun w₂ _ u new => lone_completeKey new
    · intro w₂ moved'
      have own : w₂.history t = w.history t := moved'.own.trans moved.own
      apply conducts_respond own rests.1
      exact fun w' own' _ => (Rests.of_own [_] own' trivial).widen rests.2

theorem conducts_errorHandler_responds {json : Responder} {error : JsError}
    (responds : Responds site t request json) (rests : Rests t h w)
    (concluded : ∀ code body, Concluded request code body (w.history t)) :
    Conducts site t (errorHandler site json error) (fun _ => Rests t h) (fun _ _ => False) w := by
  cases error with
  | app | prisma | other => exact responds rests (concluded _ _)

/-- `createPayment` for an admitted request: every way it ends concludes the request. -/
theorem conducts_createPayment (own : w.history t = .admitted (orNull request.idempotencyKey) :: h)
    (admissible : Admissible request h) :
    Conducts site t (createPayment site request.body request.idempotencyKey)
      (fun payment w' => Rests t (.admitted (orNull request.idempotencyKey) :: h) w' ∧
        Concluded request 201 (.payment payment createdMessage) (w'.history t))
      (fun _ w' => Rests t (.admitted (orNull request.idempotencyKey) :: h) w' ∧
        ∀ code body, Concluded request code body (w'.history t)) w := by
  apply Contract.Safe.bind
  apply conducts_generateId own (.inl trivial)
  intro id w₁ own₁ _
  apply Contract.Safe.bind
  apply conducts_transaction own₁ (fun w' own' _ => .create own' admissible)
  · intro payment commit w₂ ran
    obtain ⟨w₃, now, db, returned, _⟩ := ran.committed
    obtain ⟨created, moved, creation⟩ := createPaymentInTx_ok request.trimmed returned
    apply Contract.Safe.bind
    apply conducts_enqueue ran.own (fun w' own' _ =>
      .enqueue own' ran.returned creation.status creation.rowId)
    · intro w₄ own₄ _
      refine Contract.Safe.pure fun w₅ moved => ?_
      have own₅ := moved.own.trans own₄
      refine ⟨.of_own [_, _, _] own₅ trivial, ?_⟩
      rw [own₅]
      exact .created admissible ran.returned
    · intro e w₄ own₄ _
      rcases own₄ with before | after
      · refine ⟨.of_own [_, _, _] before trivial, fun code body => ?_⟩
        rw [before]
        exact .lost [] admissible ran.returned
      · refine ⟨.of_own [_, _, _, _] after trivial, fun code body => ?_⟩
        rw [after]
        exact .lost [.enqueued ⟨id⟩] admissible ran.returned
  · intro e w₂ own₂ _
    refine ⟨(threw_of_transaction own₂).widen.rests, fun code body => ?_⟩
    rcases own₂ with own₂ | own₂ | own₂ | ⟨commit, row, returned, own₂⟩
    · rw [own₂]
      exact .refused [.fault] admissible (by simp) (by simp)
    · rw [own₂]
      exact .refused [.rolledBack] admissible (by simp) (by simp)
    · rw [own₂]
      exact .refused [.fault, .rolledBack] admissible (by simp) (by simp)
    · rw [own₂]
      exact .lost [] admissible returned

theorem conducts_initiatePayment {json : String → Responder}
    (own : w.history t = .admitted (orNull request.idempotencyKey) :: h) (admissible : Admissible request h)
    (responds : ∀ path, Responds site t request (json path)) :
    Conducts site t (initiatePayment site request json)
      (fun _ => Rests t (.admitted (orNull request.idempotencyKey) :: h)) (fun _ _ => False) w := by
  apply Contract.Safe.tryCatch
  apply Contract.Safe.bind
  apply (conducts_createPayment own admissible).weaken
  · intro payment w₁ ⟨rests, concluded⟩
    exact (responds _ rests concluded).weaken (fun _ _ rests => rests) fun _ _ never => never.elim
  · intro e w₁ ⟨rests, concluded⟩
    exact conducts_errorHandler_responds (responds _) rests concluded

theorem conducts_markProcessing (own : w.history t = [.recordRead (redisKey key) none, .posted request])
    (hasKey : orNull request.idempotencyKey = some key) :
    Conducts site t (markProcessing site request key)
      (fun outcome w' => outcome = .proceed ∧ Settled (w'.history t) ∧ Admissible request (w'.history t))
      (fun _ w' => Rests t [.posted request] w' ∧ Obs.fault ∈ w'.history t) w := by
  apply Contract.Safe.bind
  apply conducts_recordSetNx own (fun w' own' _ => .recordSetNx own' hasKey)
  · intro written w₁ own₁ _
    apply Contract.Safe.bind
    apply conducts_dateNow own₁
    intro now w₂ own₂ _
    have marked : ∀ newer (w' : World), (∀ o ∈ newer, Bookkeeping o) → w'.history t = newer ++
        [.claim (redisKey key) written, .recordRead (redisKey key) none, .posted request] →
        Settled (w'.history t) ∧ Admissible request (w'.history t) := by
      intro newer w' notes own'
      rw [own']
      exact ⟨settled_of_bookkeeping notes trivial, .keyed hasKey notes⟩
    apply Contract.Safe.bind
    apply Contract.Safe.tryCatch
    apply conducts_statement own₂ (fun w' own' _ => .storeKey (own' ▸ trivial))
    · intro commit w₃ none own₃ _
      have notes : ∀ o ∈ [Obs.committed commit], Bookkeeping o := by simp [Bookkeeping, none]
      exact Contract.Safe.pure fun w₄ moved => ⟨rfl, marked _ w₄ notes (moved.own.trans own₃)⟩
    · intro e w₃ _ noted _
      obtain ⟨newer, notes, own₃⟩ := noted
      refine Contract.Safe.pure fun w₄ moved => Contract.Safe.pure fun w₅ moved' => ?_
      exact ⟨rfl, marked newer w₅ notes (moved'.own.trans (moved.own.trans own₃))⟩
  · exact fun e w₁ threw fault _ => ⟨threw.widen.rests, fault⟩

theorem conducts_idempotencyCheck (own : w.history t = [.posted request])
    (hasKey : orNull request.idempotencyKey = some key) :
    Conducts site t (idempotencyCheck site request key)
      (fun outcome w' => match outcome with
        | .answered => Rests t [.posted request] w' ∧ Answered key (w'.history t)
        | .proceed => Settled (w'.history t) ∧ Admissible request (w'.history t))
      (fun e w' => Rests t [.posted request] w' ∧
        (e = .app (idempotencyConflictError key) ∨ Obs.fault ∈ w'.history t)) w := by
  apply Contract.Safe.bind
  apply conducts_recordGet own (fun w' own' _ => .recordGet own' hasKey)
  · intro record w₁ own₁ _
    cases record with
    | none =>
      apply (conducts_markProcessing own₁ hasKey).weaken
      · intro outcome w₂ ⟨is, settled, admissible⟩
        subst is
        exact ⟨settled, admissible⟩
      · exact fun e w₂ ⟨rests, fault⟩ => ⟨rests, .inr fault⟩
    | some cached =>
      simp only
      split
      · apply Contract.Safe.bind
        apply conducts_respond own₁ trivial
        intro w₂ own₂ _
        refine Contract.Safe.pure fun w₃ moved => ?_
        have own₃ := moved.own.trans own₂
        have responded : Obs.responded 422 keyReuseBody ∈ w₃.history t := by
          rw [own₃]
          exact List.mem_cons_self ..
        exact ⟨.of_own [_, _] own₃ trivial, .of_responded responded (.inr (.inl rfl))⟩
      · cases cached with
        | completed path hash code body =>
          apply Contract.Safe.bind
          apply conducts_respond own₁ trivial
          intro w₂ own₂ _
          refine Contract.Safe.pure fun w₃ moved => ?_
          have own₃ := moved.own.trans own₂
          have responded : Obs.responded code body ∈ w₃.history t := by
            rw [own₃]
            exact List.mem_cons_self ..
          have stored : Obs.recordRead (redisKey key) (some (.completed path hash code body)) ∈ w₃.history t := by
            rw [own₃]
            simp
          exact ⟨.of_own [_, _] own₃ trivial, .of_responded responded (.inr (.inr ⟨path, hash, stored⟩))⟩
        | processing path hash =>
          refine Contract.Safe.throw fun w₂ moved => ?_
          exact ⟨.of_own [_] (moved.own.trans own₁) trivial, .inl rfl⟩
  · exact fun e w₁ threw fault _ => ⟨threw.rests, .inr fault⟩

theorem Admissible.last (admissible : Admissible request h) : h.getLast? = some (.posted request) := by
  cases admissible with
  | unkeyed => rfl
  | keyed => simp

theorem final_of_admitted (rests : Rests t (.admitted (orNull request.idempotencyKey) :: h) w)
    (admissible : Admissible request h) : Settled (w.history t) ∧ Handled (w.history t) := by
  refine ⟨rests.1, fun request' key last hasKey => .inl ?_⟩
  obtain ⟨newer, own⟩ := rests.2
  rw [← own, List.getLast?_append, List.getLast?_cons, admissible.last] at last
  simp only [Option.getD_some, Option.some_or, Option.some.injEq, Obs.posted.injEq] at last
  subst last
  rw [← own, hasKey]
  simp

theorem final_of_answered {base : Obs} (rests : Rests t [base] w)
    (answered : ∀ request key, base = .posted request → orNull request.idempotencyKey = some key →
      Answered key (w.history t)) : Settled (w.history t) ∧ Handled (w.history t) := by
  refine ⟨rests.1, fun request key last hasKey => .inr ?_⟩
  obtain ⟨newer, own⟩ := rests.2
  rw [← own, List.getLast?_append] at last
  simp only [List.getLast?_singleton, Option.some_or, Option.some.injEq] at last
  exact answered request key last hasKey

/-- Behind the middleware the request ends with the response of its handler. -/
theorem conducts_admitted {json : String → Responder} (own : w.history t = h) (admissible : Admissible request h)
    (responds : ∀ path, Responds site t request (json path)) :
    Conducts site t (do
        ask (.next (orNull request.idempotencyKey))
        initiatePayment site request json) (fun _ => (conduct site).final t)
      (fun _ => (conduct site).final t) w := by
  apply Contract.Safe.bind
  apply conducts_next own (fun w' own' _ => .next (own' ▸ admissible))
  intro w₁ own₁ _
  apply (conducts_initiatePayment own₁ admissible responds).weaken
  · exact fun _ w₂ rests => final_of_admitted rests admissible
  · exact fun _ _ never => never.elim

theorem conducts_postPayments (own : w.history t = [.posted request]) :
    Conducts site t (postPayments site request) (fun _ => (conduct site).final t)
      (fun _ => (conduct site).final t) w := by
  unfold postPayments idempotency
  split
  · rename_i noKey
    have none : orNull request.idempotencyKey = none := by rw [noKey]; rfl
    have run : Conducts site t _ _ _ w := conducts_admitted own (.unkeyed none) fun _ => responds_originalJson
    rwa [none] at run
  · rename_i key hasKey
    split
    · rename_i empty
      have none : orNull request.idempotencyKey = none := by rw [hasKey, empty]; rfl
      have run : Conducts site t _ _ _ w := conducts_admitted own (.unkeyed none) fun _ => responds_originalJson
      rwa [none] at run
    · rename_i nonempty
      have keyed : orNull request.idempotencyKey = some key := by rw [hasKey, orNull_some nonempty]
      have answers : ∀ w₂, Rests t [.posted request] w₂ → Answered key (w₂.history t) →
          (conduct site).final t w₂ := by
        intro w₂ rests answered
        apply final_of_answered rests
        intro request' key' is keyed'
        cases is
        rw [keyed] at keyed'
        cases keyed'
        exact answered
      apply Contract.Safe.bind
      apply Contract.Safe.tryCatch
      apply (conducts_idempotencyCheck own keyed).weaken
      · intro outcome w₁ checked
        cases outcome with
        | answered =>
          refine Contract.Safe.pure fun w₂ moved => ?_
          exact answers w₂ (checked.1.same moved.own) (moved.own ▸ checked.2)
        | proceed =>
          have responds : ∀ path, Responds site t request (cachingJson site request key path) :=
            responds_cachingJson keyed
          have run := conducts_admitted rfl checked.2 responds
          rwa [keyed] at run
      · intro e w₁ ⟨rests, why⟩
        apply Contract.Safe.bind
        refine (conducts_errorHandler_answers rests).weaken ?_ fun _ _ never => never.elim
        intro _ w₂ ⟨rests₂, code, body, own₂, status⟩
        refine Contract.Safe.pure fun w₃ moved => Contract.Safe.pure fun w₄ moved' => ?_
        have same : w₄.history t = w₂.history t := moved'.own.trans moved.own
        apply answers w₄ (rests₂.same same)
        have responded : Obs.responded code body ∈ w₄.history t := by
          rw [same, own₂]
          exact List.mem_cons_self ..
        rcases why with conflict | fault
        · exact .of_responded responded (.inl (status _ conflict))
        · exact .inl (by rw [same, own₂]; exact List.mem_cons_of_mem _ fault)

theorem final_of_rests {base : Obs} (rests : Rests t [base] w) (other : ∀ request, base ≠ .posted request) :
    Settled (w.history t) ∧ Handled (w.history t) :=
  final_of_answered rests fun request _ is => (other request is).elim

theorem conduct_starts (site : Deployment) : (conduct site).Starts := by
  intro n e w w' started occurred fresh i p found
  have new : w.history n = [] := fresh n (Nat.le_refl _)
  have first : ∀ {program : Promise Unit} {o : Obs} {w₀ : World}, started = [program] →
      w' = w₀.log n o → w₀.trace = w.trace →
      (w'.history n = [o] → Conducts site n program (fun _ => (conduct site).final n)
        (fun _ => (conduct site).final n) w') →
      Conducts site (n + i) p (fun _ => (conduct site).final (n + i)) (fun _ => (conduct site).final (n + i)) w' := by
    intro program o w₀ one logged same run
    have zero : i = 0 := by
      have bound := (List.getElem?_eq_some_iff.mp found).1
      rw [one, List.length_singleton] at bound
      omega
    subst zero
    rw [one] at found
    cases found
    refine run ?_
    rw [logged, World.history_log_self, World.history_congr same, new]
  have none_started : started = [] → Conducts site (n + i) p (fun _ => (conduct site).final (n + i))
      (fun _ => (conduct site).final (n + i)) w' := by
    intro none
    rw [none] at found
    cases found
  cases e with
  | post request =>
    cases occurred
    exact first rfl rfl rfl fun own => conducts_postPayments own
  | cancel p =>
    cases occurred
    refine first rfl rfl rfl fun own => (conducts_postCancel own).weaken ?_ ?_
    all_goals exact fun _ _ rests => final_of_rests rests (by simp)
  | webhook payload signature =>
    cases occurred
    refine first rfl rfl rfl fun own => (conducts_handleGatewayWebhook own).weaken ?_ ?_
    all_goals exact fun _ _ rests => final_of_rests rests (by simp)
  | deliverProcess job =>
    obtain ⟨queue, _, same⟩ := Option.map_eq_some_iff.mp occurred
    cases same
    refine first rfl rfl rfl fun own => (conducts_startProcessWorker own).weaken ?_ ?_
    all_goals exact fun _ _ rests => final_of_rests rests (by simp)
  | deliverRetry job =>
    obtain ⟨queue, _, same⟩ := Option.map_eq_some_iff.mp occurred
    cases same
    refine first rfl rfl rfl fun own => (conducts_startRetryWorker own).weaken ?_ ?_
    all_goals exact fun _ _ rests => final_of_rests rests (by simp)
  | stallProcess | stallRetry | retryDelayElapsed =>
    obtain ⟨queue, _, same⟩ := Option.map_eq_some_iff.mp occurred
    cases same
    exact none_started rfl
  | expireLock | expireRecord =>
    cases occurred
    exact none_started rfl

end PaymentModel
