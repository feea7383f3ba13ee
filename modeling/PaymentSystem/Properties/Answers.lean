import PaymentSystem.Proof.Handlers

namespace PaymentModel

open Async

/-- A thread begins with its request, and once it has answered has nothing more to tell. -/
structure Told (site : Deployment) (w : World) : Prop where
  begins : ∀ t a, a ∈ w.history t → a.requests = true → (w.history t).getLast? = some a
  answered : ∀ t code body, .responded code body ∈ w.history t → ∃ a ds, (w.history t).getLast? = some a ∧
    deeds (w.history t) = .answered code body :: ds ∧ Promised site a ds code body

/-- The answers of a thread. -/
def answers (h : List Obs) : List (Nat × ResponseBody) :=
  h.filterMap fun
    | .responded code body => some (code, body)
    | _ => none

def service (site : Deployment) : Contract (system site) := (conduct site).both (answering site)

variable {site : Deployment} {R : Condition} {t u n : Nat} {w w' : World} {c : Call} {choice : Choice} {a : Obs}
  {ds : List Deed} {code : Nat} {body : ResponseBody} {started : List (Promise Unit)} {e : Event}
  {pool : Pool calls JsError World}

theorem service_starts (site : Deployment) : (service site).Starts :=
  Contract.Starts.both (conduct_starts site) (answering_starts site)

theorem Promised.requests (promised : Promised site a ds code body) : a.requests = true := by
  cases promised with
  | failed requests => exact requests
  | refused refuses => cases refuses <;> rfl
  | _ => rfl

theorem Does.answers {outcome : Except JsError c.Answer} (does : Does w w' c outcome ds)
    (answered : .answered code body ∈ ds) : c = .respond code body ∧ ds = [.answered code body] := by
  cases does with
  | answered =>
    cases List.mem_singleton.mp answered
    exact ⟨rfl, rfl⟩
  | _ => simp at answered

theorem Does.moves {outcome : Except JsError c.Answer} {row : Payment} (does : Does w w' c outcome ds)
    (moved : .moved row ∈ ds) :
    ∃ tx now, c = .transaction tx ∧ tx now w.db = .ok (row, w'.db) ∧ movedRows ds = [row] := by
  cases does with
  | moved ran =>
    cases List.mem_singleton.mp moved
    exact ⟨_, _, rfl, ran, rfl⟩
  | unheard ran =>
    rcases List.mem_cons.mp moved with is | member
    · cases is
    · cases List.mem_singleton.mp member
      exact ⟨_, _, rfl, ran, rfl⟩
  | _ => simp at moved

theorem Does.finds {outcome : Except JsError c.Answer} {key : String} {record : IdempotencyRecord}
    (does : Does w w' c outcome ds) (found : .found key record ∈ ds) : w.records key = some record := by
  cases does with
  | found there =>
    cases List.mem_singleton.mp found
    exact there
  | _ => simp at found

/-- What an event adds to the history: the note its thread begins with. -/
theorem occur_begins (occurred : occur site n e w = some (w', started)) :
    w'.trace = w.trace ∨ ∃ o, w'.trace = (n, o) :: w.trace ∧ o.deed = none := by
  cases e with
  | post | cancel | webhook =>
    cases occurred
    exact .inr ⟨_, rfl, rfl⟩
  | deliverProcess | deliverRetry =>
    obtain ⟨queue, _, same⟩ := Option.map_eq_some_iff.mp occurred
    cases same
    exact .inr ⟨_, rfl, rfl⟩
  | stallProcess | stallRetry | retryDelayElapsed =>
    obtain ⟨queue, _, same⟩ := Option.map_eq_some_iff.mp occurred
    cases same
    exact .inl rfl
  | expireLock | expireRecord =>
    cases occurred
    exact .inl rfl

theorem Told.same (told : Told site w) (same : ∀ t, w'.history t = w.history t) : Told site w' := by
  constructor
  · intro t
    rw [same t]
    exact told.begins t
  · intro t
    rw [same t]
    exact told.answered t

theorem Told.event (told : Told site w) (fresh : w.history n = [])
    (occurred : occur site n e w = some (w', started)) : Told site w' := by
  rcases occur_begins occurred with same | ⟨o, same, silent⟩
  · exact told.same (World.history_congr same)
  have own : w'.history n = [o] := by rw [World.history_cons_self same, fresh]
  have other : ∀ t, t ≠ n → w'.history t = w.history t := fun t other => World.history_cons_other same other
  constructor
  · intro t a member
    by_cases here : t = n
    · subst here
      rw [own] at member ⊢
      cases List.mem_singleton.mp member
      exact fun _ => rfl
    · rw [other t here] at member ⊢
      exact told.begins t a member
  · intro t code body member
    by_cases here : t = n
    · subst here
      rw [own] at member
      cases List.mem_singleton.mp member
      cases silent
    · rw [other t here] at member ⊢
      exact told.answered t code body member

/-- After it has answered, a thread makes no call. -/
theorem Told.silent (told : Told site w) (issued : Answering site t w c) : .responded code body ∉ w.history t := by
  intro responded
  obtain ⟨a, ds, first, done, promised⟩ := told.answered t code body responded
  have unanswered := issued.1 a first promised.requests
  rw [done] at unanswered
  cases unanswered

theorem Told.call (told : Told site w) (issued : Answering site t w c) {outcome : Except JsError c.Answer}
    (performed : perform t c choice w = some (outcome, w')) : Told site w' := by
  obtain ⟨notes, took, does, takes⟩ := perform_does performed
  have quiet := takes.quiet
  constructor
  · intro u a member requests
    by_cases own : u = t
    · subst own
      rw [took.own] at member ⊢
      rcases List.mem_append.mp member with new | old
      · rw [quiet.of_mem new] at requests
        cases requests
      · rw [List.getLast?_append, told.begins u a old requests]
        rfl
    · rw [took.other own] at member ⊢
      exact told.begins u a member requests
  · intro u code body member
    by_cases own : u = t
    · subst own
      rw [took.own] at member ⊢
      rw [deeds_append]
      rcases List.mem_append.mp member with new | old
      · obtain ⟨rfl, is⟩ := does.answers (mem_deeds_answered.mpr new)
        obtain ⟨a, first, promised⟩ := issued.2
        refine ⟨a, _, ?_, by rw [is]; rfl, promised⟩
        rw [List.getLast?_append, first]
        rfl
      · exact (told.silent issued old).elim
    · rw [took.other own] at member ⊢
      exact told.answered u code body member

/-- The payment that a request was created for. -/
structure Created (site : Deployment) (w : World) (t : Nat) (request : PostRequest) (row : Payment) : Prop where
  orders : Orders w t request row.id
  fulfils : Fulfils site request row
  pending : row.status = .pending
  seen : Seen w.db row.id row

/-- Every payment that a request has moved was created for it, one at most under a key, and every answer that
    is kept under a key, or was found there, is that of a handler. -/
structure Backed (site : Deployment) (w : World) : Prop where
  created : ∀ t request row, .posted request ∈ w.history t → .moved row ∈ deeds (w.history t) →
    Created site w t request row
  single : ∀ t u request order row row', .posted request ∈ w.history t → .posted order ∈ w.history u →
    .moved row ∈ deeds (w.history t) → .moved row' ∈ deeds (w.history u) → ∀ key,
    orNull request.idempotencyKey = some key → orNull order.idempotencyKey = some key → row' = row
  kept : ∀ key path hash code body, w.records (redisKey key) = some (.completed path hash code body) →
    Concludes site w key hash code body
  found : ∀ t key path hash code body, .found (redisKey key) (.completed path hash code body) ∈ deeds (w.history t) →
    Concludes site w key hash code body

variable {request order : PostRequest} {row row' : Payment} {key : String} {tx : Tx Payment}

theorem Created.later (created : Created site w t request row) (grown : w.trace <:+ w'.trace)
    (moved : w.db.Extends w'.db) : Created site w' t request row :=
  ⟨created.orders.later grown, created.fulfils, created.pending, created.seen.later moved⟩

theorem perform_records {outcome : Except JsError c.Answer} (performed : perform t c choice w = some (outcome, w')) :
    w'.records = w.records ∨ ∃ key record ttl, (c = .recordSetNx key record ttl ∨ c = .recordSet key record ttl) ∧
      w'.records = Function.update w.records key (some record) := by
  have frame : ∀ {α : Type} {fault : Fault} {answer outcome : Except JsError α} {base effect : World} {note : Option Obs},
      base.remote t fault answer effect note = (outcome, w') → base.records = w.records →
      effect.records = w.records → w'.records = w.records :=
    fun ended started same =>
      (World.remote_frame ended World.records (fun _ _ => rfl) (same.trans started.symm)).trans started
  cases c with
  | recordSet key record ttl =>
    rcases World.remote_cases (Option.some.inj performed) with ⟨_, _, rfl⟩ | ⟨_, _, rfl⟩ | ⟨_, _, rfl⟩
    · exact .inr ⟨key, record, ttl, .inr rfl, rfl⟩
    · exact .inl rfl
    · exact .inr ⟨key, record, ttl, .inr rfl, rfl⟩
  | recordSetNx key record ttl =>
    simp only [perform] at performed
    split at performed
    · exact .inl (frame (Option.some.inj performed) rfl rfl)
    · rcases World.remote_cases (Option.some.inj performed) with ⟨_, _, rfl⟩ | ⟨_, _, rfl⟩ | ⟨_, _, rfl⟩
      · exact .inr ⟨key, record, ttl, .inl rfl, rfl⟩
      · exact .inl rfl
      · exact .inr ⟨key, record, ttl, .inl rfl, rfl⟩
  | generateId =>
    simp only [perform] at performed
    split at performed
    · cases performed
    · cases performed
      exact .inl rfl
  | mathRandom =>
    simp only [perform] at performed
    split at performed
    · cases performed
      exact .inl rfl
    · cases performed
  | dateNow | gatewaySend | next | respond =>
    cases performed
    exact .inl rfl
  | breakerAdmits =>
    cases performed
    refine .inl ?_
    split <;> rfl
  | gatewayReceive =>
    simp only [perform] at performed
    split at performed <;> (cases performed; exact .inl rfl)
  | lockSet | lockRelease =>
    simp only [perform] at performed
    split at performed <;> exact .inl (frame (Option.some.inj performed) rfl rfl)
  | transaction | statement =>
    refine .inl ?_
    rcases World.database_cases (Option.some.inj performed) with ⟨_, _, _, ended⟩ | ⟨_, _, ended⟩
    · exact frame ended rfl rfl
    · exact frame ended rfl rfl
  | paymentFindUnique | webhookEventFindUnique | processQueueAdd | retryQueueAdd | processJobFinished | retryJobFinished
  | recordGet => exact .inl (frame (Option.some.inj performed) rfl rfl)

theorem occur_records (occurred : occur site n e w = some (w', started)) {record : IdempotencyRecord}
    (found : w'.records key = some record) : w.records key = some record := by
  cases e with
  | post | cancel | webhook =>
    cases occurred
    exact found
  | deliverProcess | deliverRetry | stallProcess | stallRetry | retryDelayElapsed =>
    obtain ⟨queue, _, same⟩ := Option.map_eq_some_iff.mp occurred
    cases same
    exact found
  | expireLock =>
    cases occurred
    exact found
  | expireRecord expired =>
    cases occurred
    by_cases same : key = expired
    · subst same
      simp [World.setRecord] at found
    · simpa [World.setRecord, same] using found

/-- Thread `t` has just created the payment of its request. -/
structure Creates (site : Deployment) (w w' : World) (t : Nat) (c : Call) (request : PostRequest) (row : Payment) :
    Prop where
  posted : .posted request ∈ w.history t
  moved : movedRows (deeds (w'.history t)) = [row]
  ran : ∃ id now, c = .transaction (createPaymentInTx site id request.body request.idempotencyKey) ∧
    createPaymentInTx site id request.body request.idempotencyKey now w.db = .ok (row, w'.db)

theorem moves_new (told : Told site w) (answering : Answering site t w c) {outcome : Except JsError c.Answer}
    (performed : perform t c choice w = some (outcome, w')) (posted : .posted request ∈ w'.history u)
    (moved : .moved row ∈ deeds (w'.history u)) :
    (.posted request ∈ w.history u ∧ .moved row ∈ deeds (w.history u)) ∨
      u = t ∧ Creates site w w' t c request row := by
  obtain ⟨notes, took, does, takes⟩ := perform_does performed
  have quiet := takes.quiet
  by_cases own : u = t
  · subst own
    have before : .posted request ∈ w.history u := by
      rw [took.own] at posted
      rcases List.mem_append.mp posted with new | old
      · cases quiet.of_mem new
      · exact old
    rw [took.own, deeds_append] at moved
    rcases List.mem_append.mp moved with new | old
    · obtain ⟨tx, now, rfl, ran, single⟩ := does.moves new
      obtain ⟨_, begins, creates⟩ := answering
      have first := told.begins u _ before rfl
      obtain ⟨id, rfl⟩ := creates request first
      have still : movedRows (deeds (w.history u)) = [] := begins _ first rfl
      refine .inr ⟨rfl, before, ?_, id, now, rfl, ran⟩
      unfold movedRows at single still ⊢
      rw [took.own, deeds_append, List.filterMap_append, single, still]
      rfl
    · exact .inl ⟨before, old⟩
  · rw [took.other own] at posted moved
    exact .inl ⟨posted, moved⟩

theorem Creates.created (told : Told site w') (issued : Issued site t w c) (creates : Creates site w w' t c request row)
    (grown : w.trace <:+ w'.trace) : Created site w' t request row := by
  obtain ⟨posted, _, id, now, rfl, ran⟩ := creates
  obtain ⟨_, _, creation⟩ := createPaymentInTx_ok request.trimmed ran
  have stored : w'.db.payment row.id = some row := by
    rw [creation.payment, if_pos creation.rowId]
  obtain ⟨request', orders, fulfils⟩ := issued.adds ran (by rw [creation.rowId]; exact creation.absent) stored
  have orders := orders.later grown
  have same : request' = request := by
    have first := told.begins t _ (World.mem_history.mpr orders.posted.1) rfl
    rw [told.begins t _ ((World.history_suffix grown t).subset posted) rfl] at first
    cases first
    rfl
  subst same
  exact ⟨orders, fulfils, creation.status, .of_payment stored⟩

theorem Fulfils.hasKey (fulfils : Fulfils site request row) : row.idempotencyKey = orNull request.idempotencyKey :=
  congrArg Terms.idempotencyKey fulfils.terms

/-- No payment is created under a key that another one has. -/
theorem Creates.unused (creates : Creates site w w' t c request row) (created : Created site w u order row')
    (hasKey : orNull request.idempotencyKey = some key) (other : orNull order.idempotencyKey = some key) : False := by
  obtain ⟨_, _, id, now, _, ran⟩ := creates
  obtain ⟨fits, unused, _⟩ := createPaymentInTx_inserted ran
  rw [cutKey_eq request.trimmed fits.idempotencyKey] at unused
  obtain ⟨current, found, before⟩ := created.seen
  refine unused.key current (Table.mem_of_find found) (by rw [hasKey]; rfl) ?_
  rw [before.idempotencyKey, created.fulfils.hasKey, other, hasKey]

theorem Backed.call (backed : Backed site w) (told : Told site w) (issued : Issued site t w c)
    (answering : Answering site t w c) {outcome : Except JsError c.Answer}
    (performed : perform t c choice w = some (outcome, w')) : Backed site w' := by
  obtain ⟨notes, took, does, takes⟩ := perform_does performed
  have quiet := takes.quiet
  have steps := perform_steps (R := .free) issued rfl performed
  have told' := told.call answering performed
  constructor
  · intro u request row posted moved
    rcases moves_new told answering performed posted moved with ⟨posted, moved⟩ | ⟨rfl, creates⟩
    · exact (backed.created u request row posted moved).later steps.grows steps.extends
    · exact creates.created told' issued steps.grows
  · intro u v request order row row' posted posted' moved moved' key hasKey hasKey'
    rcases moves_new told answering performed posted moved with ⟨posted, moved⟩ | ⟨rfl, creates⟩
    · rcases moves_new told answering performed posted' moved' with ⟨posted', moved'⟩ | ⟨rfl, creates⟩
      · exact backed.single u v request order row row' posted posted' moved moved' key hasKey hasKey'
      · exact (creates.unused (backed.created u request row posted moved) hasKey' hasKey).elim
    · rcases moves_new told answering performed posted' moved' with ⟨posted', moved'⟩ | ⟨rfl, creates'⟩
      · exact (creates.unused (backed.created v order row' posted' moved') hasKey hasKey').elim
      · have same := creates'.moved
        rw [creates.moved] at same
        cases same
        rfl
  · intro key path hash code body found
    rcases perform_records performed with same | ⟨other, record, ttl, rfl | rfl, same⟩
    · rw [same] at found
      exact (backed.kept key path hash code body found).later took.grows
    · obtain ⟨_, _, _, rfl⟩ := answering
      rw [same] at found
      by_cases here : redisKey key = other
      · simp [here] at found
      · rw [Function.update_of_ne here] at found
        exact (backed.kept key path hash code body found).later took.grows
    · obtain ⟨_, stored, _, _, _, _, rfl, rfl, concludes⟩ := answering
      rw [same] at found
      by_cases here : redisKey key = redisKey stored
      · cases redisKey_injective here
        rw [Function.update_self] at found
        cases found
        exact concludes.later took.grows
      · rw [Function.update_of_ne here] at found
        exact (backed.kept key path hash code body found).later took.grows
  · intro u key path hash code body found
    by_cases own : u = t
    · subst own
      rw [took.own, deeds_append] at found
      rcases List.mem_append.mp found with new | old
      · exact (backed.kept key path hash code body (does.finds new)).later took.grows
      · exact (backed.found u key path hash code body old).later took.grows
    · rw [took.other own] at found
      exact (backed.found u key path hash code body found).later took.grows

theorem Backed.event (backed : Backed site w) (fresh : w.history n = [])
    (occurred : occur site n e w = some (w', started)) : Backed site w' := by
  have db : w'.db = w.db := (occur_note occurred).1
  have moved : w.db.Extends w'.db := by
    rw [db]
    exact .refl _
  have grown : w.trace <:+ w'.trace := by
    rcases occur_begins occurred with same | ⟨o, same, _⟩
    · exact same ▸ List.suffix_refl w.trace
    · exact same ▸ List.suffix_cons _ _
  -- the thread that begins has no deeds yet
  have old : ∀ {t : Nat} {d : Deed}, d ∈ deeds (w'.history t) → w'.history t = w.history t := by
    intro t d member
    rcases occur_begins occurred with same | ⟨o, same, silent⟩
    · exact World.history_congr same t
    · by_cases here : t = n
      · subst here
        rw [World.history_cons_self same, fresh, deeds, List.filterMap_cons_none silent] at member
        cases member
      · exact World.history_cons_other same here
  constructor
  · intro t request row posted told
    rw [old told] at posted told
    exact (backed.created t request row posted told).later grown moved
  · intro t u request order row row' posted posted' told told'
    rw [old told] at posted told
    rw [old told'] at posted' told'
    exact backed.single t u request order row row' posted posted' told told'
  · intro key path hash code body found
    exact (backed.kept key path hash code body (occur_records occurred found)).later grown
  · intro t key path hash code body found
    rw [old found] at found
    exact (backed.found t key path hash code body found).later grown

theorem service_fresh (site : Deployment) (t : Nat) : (service site).fresh t {} := ⟨fresh_start site t, rfl⟩

theorem told_start (site : Deployment) : Told site {} where
  begins _ _ member := by cases member
  answered _ _ _ member := by cases member

theorem backed_start (site : Deployment) : Backed site {} where
  created _ _ _ posted := by cases posted
  single _ _ _ _ _ _ posted := by cases posted
  kept _ _ _ _ _ stored := by cases stored
  found _ _ _ _ _ _ told := by cases told

theorem told_backed (reached : Reached site R pool) : Told site pool.world ∧ Backed site pool.world := by
  refine (service site).invariant (service_starts site) (service_fresh site) (fun w => Told site w ∧ Backed site w)
    ⟨told_start site, backed_start site⟩ ?_ reached
  · rintro n w w' ⟨told, backed⟩ move
    cases move with
    | call _ issued _ performed =>
      exact ⟨told.call issued.2 performed, backed.call told issued.1 issued.2 performed⟩
    | event fresh _ occurred =>
      have fresh : w.history n = [] := (fresh n (Nat.le_refl _)).2
      exact ⟨told.event fresh occurred, backed.event fresh occurred⟩
    | idle => exact ⟨told, backed⟩

def Deed.answer : Deed → Option (Nat × ResponseBody)
  | .answered code body => some (code, body)
  | _ => none

theorem answers_deeds (h : List Obs) : answers h = (deeds h).filterMap Deed.answer := by
  unfold answers deeds
  rw [List.filterMap_filterMap]
  refine List.filterMap_congr fun o _ => ?_
  cases o with
  | recordRead key record => cases record <;> rfl
  | committed commit =>
    cases returned : commit.row with
    | none => simp [Obs.deed, returned]
    | some row => simp [Obs.deed, returned, Deed.answer]
  | _ => rfl

theorem Promised.single (promised : Promised site a ds code body) :
    (Deed.answered code body :: ds).filterMap Deed.answer = [(code, body)] := by
  have none : ds.filterMap Deed.answer = [] := by
    refine List.filterMap_eq_nil_iff.mpr fun d member => ?_
    have waiting := List.all_eq_true.mp promised.unanswered d member
    cases d with
    | answered => cases waiting
    | _ => rfl
  rw [List.filterMap_cons, none]
  rfl

/-- Who moves a payment for a client does not refuse its request. -/
theorem Promised.moves (promised : Promised site a ds code body) (moved : .moved row ∈ ds) :
    code = 200 ∨ code = 201 ∨ code = 500 := by
  cases promised with
  | created => exact .inr (.inl rfl)
  | cancelled | processed | ignored => exact .inl rfl
  | failed => exact .inr (.inr rfl)
  | replayed | reused | unsigned => simp at moved
  | refused refuses => cases refuses <;> simp at moved

/-- Every request is answered exactly once, and as its route promises: what it is told is what its thread has
    done, and a request that is refused has changed no payment. Jobs answer nobody. -/
theorem requests_answered (reached : Reached site R pool) :
    (∀ t code body, (t, .responded code body) ∈ pool.world.trace → ∃ a ds, (t, a) ∈ pool.world.trace ∧
      a.requests = true ∧ answers (pool.world.history t) = [(code, body)] ∧
      deeds (pool.world.history t) = .answered code body :: ds ∧ Promised site a ds code body ∧
      ∀ row, .moved row ∈ ds → code = 200 ∨ code = 201 ∨ code = 500) ∧
    ∀ t a p, (t, a) ∈ pool.world.trace → a.requests = true → pool.threads[t]? = some p → p.ended = true →
      ∃ code body, answers (pool.world.history t) = [(code, body)] := by
  have told := (told_backed reached).1
  constructor
  · intro t code body responded
    obtain ⟨a, ds, first, done, promised⟩ := told.answered t code body (World.mem_history.mpr responded)
    refine ⟨a, ds, World.mem_history.mp (List.mem_of_getLast? first), promised.requests, ?_, done, promised,
      fun _ => promised.moves⟩
    rw [answers_deeds, done]
    exact promised.single
  · intro t a p began requests running ended
    have kept := (service site).keeps (service_starts site) (service_fresh site) reached
    have first := told.begins t a (World.mem_history.mpr began) requests
    obtain ⟨code, body, ds, done⟩ := (kept.final running ended).2 a first requests
    have answered : .answered code body ∈ deeds (pool.world.history t) := by
      rw [done]
      exact List.mem_cons_self ..
    have responded := mem_deeds_answered.mp answered
    obtain ⟨_, _, _, done', promised⟩ := told.answered t code body responded
    refine ⟨code, body, ?_⟩
    rw [answers_deeds, done']
    exact promised.single

def Obs.answers (code : Nat) : Obs → Bool
  | .responded code' _ => code' = code
  | _ => false

theorem Obs.answers_iff {o : Obs} : o.answers code = true ↔ ∃ body, o = .responded code body := by
  cases o <;> simp [Obs.answers, eq_comm]

theorem requests_answered_created : ∃ (pool : Pool calls JsError World) (a : Obs) (ds : List Deed) (body : ResponseBody),
    Reached sampleSite .free pool ∧ (0, a) ∈ pool.world.trace ∧ answers (pool.world.history 0) = [(201, body)] ∧
    Promised sampleSite a ds 201 body := by
  obtain ⟨pool, reached, shown⟩ := reached_of_run sampleSite .free creation
    (fun pool => (pool.world.history 0).any (Obs.answers 201)) (by decide +kernel)
  obtain ⟨o, member, is⟩ := List.any_eq_true.mp shown
  obtain ⟨body, rfl⟩ := Obs.answers_iff.mp is
  obtain ⟨a, ds, began, _, single, _, promised, _⟩ :=
    (requests_answered reached).1 0 201 body (World.mem_history.mp member)
  exact ⟨pool, a, ds, body, reached, began, single, promised⟩

/-- A 201 answer is about a payment that a request has just created, or found created under its key. -/
theorem Promised.creates (promised : Promised site a ds code body) (is : a = .posted request) (ok : code = 201) :
    (∃ row : Payment, .moved row ∈ ds ∧ body = .payment (toPaymentResponse row) createdMessage) ∨
      ∃ key path, orNull request.idempotencyKey = some key ∧
        ds = [.found (redisKey key) (.completed path (hashBody site request.body.json) 201 body)] := by
  cases promised with
  | created pending =>
    cases is
    exact .inl ⟨_, List.mem_cons_self .., rfl⟩
  | replayed hasKey =>
    cases is
    subst ok
    exact .inr ⟨_, _, hasKey, rfl⟩
  | refused refuses => cases refuses <;> cases ok
  | reused | cancelled | unsigned | processed | ignored | failed => cases ok

/-- What a 201 answer to a request says: a payment was ordered with the same body, under the same key if there
    is one, was created as ordered, and is still stored. -/
structure Witnessed (site : Deployment) (w : World) (t : Nat) (request : PostRequest) (row : Payment) : Prop where
  order : ∃ u order, Orders w u order row.id ∧ Fulfils site order row ∧
    orNull order.idempotencyKey = orNull request.idempotencyKey ∧
    hashBody site order.body.json = hashBody site request.body.json ∧
    (orNull request.idempotencyKey = none → u = t ∧ order = request)
  pending : row.status = .pending
  stored : Seen w.db row.id row

/-- The thread that has created the payment of a 201 answer. -/
theorem created_by (told : Told site w) (backed : Backed site w) (posted : .posted request ∈ w.history t)
    (responded : .responded 201 body ∈ w.history t) : ∃ u order row,
      body = .payment (toPaymentResponse row) createdMessage ∧ .posted order ∈ w.history u ∧
      .moved row ∈ deeds (w.history u) ∧ Created site w u order row ∧
      orNull order.idempotencyKey = orNull request.idempotencyKey ∧
      hashBody site order.body.json = hashBody site request.body.json ∧
      (orNull request.idempotencyKey = none → u = t ∧ order = request) := by
  obtain ⟨a, ds, first, done, promised⟩ := told.answered t 201 body responded
  have is : a = .posted request := by
    rw [told.begins t _ posted rfl] at first
    exact (Option.some.inj first).symm
  rcases promised.creates is rfl with ⟨row, member, rfl⟩ | ⟨key, path, hasKey, rfl⟩
  · have moved : .moved row ∈ deeds (w.history t) := by
      rw [done]
      exact List.mem_cons_of_mem _ member
    exact ⟨t, request, row, rfl, posted, moved, backed.created t request row posted moved, rfl, rfl, fun _ => ⟨rfl, rfl⟩⟩
  · have found : .found (redisKey key) (.completed path (hashBody site request.body.json) 201 body) ∈
        deeds (w.history t) := by
      rw [done]
      exact List.mem_cons_of_mem _ (List.mem_singleton_self _)
    have concludes := backed.found t key path _ 201 body found
    generalize hashBody site request.body.json = hash at concludes
    cases concludes with
    | created ordered hasKey' moved =>
      have ordered := World.mem_history.mpr ordered
      refine ⟨_, _, _, rfl, ordered, moved, backed.created _ _ _ ordered moved, hasKey'.trans hasKey.symm,
        rfl, ?_⟩
      intro none
      rw [hasKey] at none
      cases none

/-- A 201 answer, fresh or replayed, is the truth, and all that are given under one key say the same. -/
theorem created_answers_backed (reached : Reached site R pool) (posted : (t, .posted request) ∈ pool.world.trace)
    (responded : (t, .responded 201 body) ∈ pool.world.trace) :
    ∃ row : Payment, body = .payment (toPaymentResponse row) createdMessage ∧
      Witnessed site pool.world t request row ∧
      ∀ u other body', (u, .posted other) ∈ pool.world.trace → (u, .responded 201 body') ∈ pool.world.trace →
        orNull other.idempotencyKey = orNull request.idempotencyKey → orNull request.idempotencyKey ≠ none →
        body' = body := by
  obtain ⟨told, backed⟩ := told_backed reached
  obtain ⟨v, order, row, rfl, ordered, moved, created, sameKey, hash, own⟩ :=
    created_by told backed (World.mem_history.mpr posted) (World.mem_history.mpr responded)
  refine ⟨row, rfl, ⟨⟨v, order, created.orders, created.fulfils, sameKey, hash, own⟩, created.pending, created.seen⟩, ?_⟩
  intro u other body' posted' responded' same keyed
  obtain ⟨v', order', row', rfl, ordered', moved', _, sameKey', _⟩ :=
    created_by told backed (World.mem_history.mpr posted') (World.mem_history.mpr responded')
  obtain ⟨key, hasKey⟩ := Option.ne_none_iff_exists'.mp keyed
  have single := backed.single v v' order order' row row' ordered ordered' moved moved' key (sameKey.trans hasKey)
    ((sameKey'.trans same).trans hasKey)
  rw [single]

/-- The second request under the key gets the answer of the first. -/
theorem created_answers_backed_replayed : ∃ (pool : Pool calls JsError World) (request : PostRequest)
    (body body' : ResponseBody), Reached sampleSite .free pool ∧ (0, .responded 201 body) ∈ pool.world.trace ∧
    (3, .responded 201 body') ∈ pool.world.trace ∧ body' = body ∧
    ∃ row, Witnessed sampleSite pool.world 3 request row := by
  obtain ⟨pool, reached, shown⟩ := reached_of_run sampleSite .free
    (.event (.post keyedOrder) ::
      acts 0 [{}, {}, {}, {}, {}, { uuid := sampleId '0' }, {}, {}, {}, {}, {}] ++ acts 1 [{}] ++
      .event (.post keyedOrder) :: acts 3 [{}, {}])
    (fun pool => (pool.world.history 0).any (Obs.posts "order-1") && (pool.world.history 3).any (Obs.posts "order-1") &&
      (pool.world.history 0).any (Obs.answers 201) && (pool.world.history 3).any (Obs.answers 201)) (by decide +kernel)
  simp only [Bool.and_eq_true, List.any_eq_true] at shown
  obtain ⟨⟨⟨⟨o₁, posted, is₁⟩, ⟨o₂, posted', is₂⟩⟩, ⟨o₃, responded, is₃⟩⟩, ⟨o₄, responded', is₄⟩⟩ := shown
  obtain ⟨request, rfl, hasKey⟩ := Obs.posts_iff.mp is₁
  obtain ⟨request', rfl, hasKey'⟩ := Obs.posts_iff.mp is₂
  obtain ⟨body, rfl⟩ := Obs.answers_iff.mp is₃
  obtain ⟨body', rfl⟩ := Obs.answers_iff.mp is₄
  obtain ⟨row, _, witnessed, agree⟩ :=
    created_answers_backed reached (World.mem_history.mp posted') (World.mem_history.mp responded')
  have same := agree 0 request body (World.mem_history.mp posted) (World.mem_history.mp responded)
    (hasKey.trans hasKey'.symm) (by rw [hasKey']; exact Option.some_ne_none _)
  exact ⟨pool, request', body, body', reached, World.mem_history.mp responded, World.mem_history.mp responded',
    same.symm, row, witnessed⟩

end PaymentModel
