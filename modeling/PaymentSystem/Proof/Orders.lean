import PaymentSystem.Proof.Lawful
import PaymentSystem.Properties.Amounts
import PaymentSystem.Properties.IdempotentRequests

namespace PaymentModel

open Async

/-- The terms of the payment that is created for a request. -/
def PostRequest.terms (request : PostRequest) (amount : Int) (maxRetries createdAt : Nat) : Terms where
  amount
  currency := request.body.currency.toUpper
  merchantId := request.body.merchantId
  customerEmail := request.body.customerEmail
  description := orNull request.body.description
  idempotencyKey := orNull request.idempotencyKey
  maxRetries
  metadata := request.body.metadata.map .object
  createdAt

/-- Thread `t` has let the request through to its handler and drawn the id `p` for its payment. -/
def Orders (w : World) (t : Nat) (request : PostRequest) (p : Uuid) : Prop :=
  ∃ h, .uuid p :: .admitted (orNull request.idempotencyKey) :: h <:+ w.history t ∧ Admissible request h

/-- The payment is what the request asks for. -/
structure Fulfils (site : Deployment) (request : PostRequest) (row : Payment) : Prop where
  amount : decimal12_2 request.body.amount.value = some row.amount
  idempotencyKey : FitsColumn 255 row.idempotencyKey = true
  terms : row.terms = request.terms row.amount site.maxRetries row.createdAt

/-- Every payment was ordered. -/
def AllOrdered (site : Deployment) (w : World) : Prop :=
  ∀ p row, w.payment p = some row → ∃ t request, Orders w t request p ∧ Fulfils site request row

variable {site : Deployment} {R : Condition} {t u : Nat} {w w' : World} {db db' : Db} {p q id : Uuid}
  {request request' : PostRequest} {row current updated : Payment} {now version : Nat} {body : Tx Payment}
  {pool next : Pool calls JsError World}

theorem Orders.later (orders : Orders w t request p) (grown : w.trace <:+ w'.trace) : Orders w' t request p := by
  obtain ⟨h, own, admissible⟩ := orders
  exact ⟨h, own.trans (World.history_suffix grown t), admissible⟩

theorem Admissible.posted {h : List Obs} (admissible : Admissible request h) : h.getLast? = some (.posted request) := by
  cases admissible with
  | unkeyed => rfl
  | keyed => simp

/-- A thread handles one request and orders one payment for it. -/
theorem Orders.single (orders : Orders w t request p) (orders' : Orders w t request' q) :
    request' = request ∧ q = p := by
  obtain ⟨h, own, admissible⟩ := orders
  obtain ⟨h', own', admissible'⟩ := orders'
  -- the note of the admission stands where the history of the middleware ends
  have bound : ∀ {request request' : PostRequest} {p q : Uuid} {h h' : List Obs},
      .uuid p :: .admitted (orNull request.idempotencyKey) :: h <:+ w.history t →
      .uuid q :: .admitted (orNull request'.idempotencyKey) :: h' <:+ w.history t →
      Admissible request' h' → h'.length ≤ h.length := by
    intro request request' p q h h' own own' admissible'
    by_contra longer
    have before : .admitted (orNull request.idempotencyKey) :: h <:+ h' :=
      List.suffix_of_suffix_length_le ((List.suffix_cons _ _).trans own)
        (((List.suffix_cons _ _).trans (List.suffix_cons _ _)).trans own') (by simp; omega)
    exact admissible'.not_admitted _ (before.subset (List.mem_cons_self ..))
  have same : h'.length = h.length := le_antisymm (bound own own' admissible') (bound own' own admissible)
  have within := List.suffix_of_suffix_length_le own' own (by simp [same])
  obtain ⟨id, rest⟩ := List.cons.inj (within.eq_of_length (by simp [same]))
  obtain ⟨_, rfl⟩ := List.cons.inj rest
  cases id
  have posted := admissible'.posted
  rw [admissible.posted] at posted
  cases posted
  exact ⟨rfl, rfl⟩

theorem Orders.posted (orders : Orders w t request p) :
    (t, .posted request) ∈ w.trace ∧ (t, .uuid p) ∈ w.trace := by
  obtain ⟨h, own, admissible⟩ := orders
  constructor
  · refine World.mem_history.mp (own.subset ?_)
    have last := List.mem_of_getLast? admissible.posted
    exact List.mem_cons_of_mem _ (List.mem_cons_of_mem _ last)
  · exact World.mem_history.mp (own.subset (List.mem_cons_self ..))

/-- The columns keep the texts of a request as they are. -/
theorem createPaymentData_terms (request : PostRequest) (cents : Int) (now : Nat)
    (fits : (createPaymentData site id request.body request.idempotencyKey).Fits) :
    ((createPaymentData site id request.body request.idempotencyKey).row cents now).terms =
      request.terms cents site.maxRetries now := by
  have currency : cutText 3 request.body.currency.toUpper = request.body.currency.toUpper :=
    cutText_eq (String.length_map.trans_le request.bounded.currency)
  have merchantId := cutText_eq request.bounded.merchantId
  have customerEmail := cutText_eq request.bounded.customerEmail
  have key := cutKey_eq request.trimmed fits.idempotencyKey
  simp only [Payment.terms, PaymentCreateInput.row, createPaymentData, PostRequest.terms, currency, merchantId,
    customerEmail, key]

theorem createPaymentInTx_fulfils
    (ran : createPaymentInTx site id request.body request.idempotencyKey now db = .ok (updated, db')) :
    Fulfils site request updated := by
  obtain ⟨fits, _, amount⟩ := createPaymentInTx_inserted ran
  unfold createPaymentInTx at ran
  obtain ⟨created, db₁, put, ran⟩ := Tx.bind_ok ran
  obtain ⟨cents, payments, _, _, rfl, _, inserted, rfl⟩ := paymentCreate_ok put
  obtain ⟨_, db₂, logged, ran⟩ := Tx.bind_ok ran
  cases (paymentEventCreate_ok logged).2
  obtain ⟨old, found, _, applied, _⟩ := recordedUpdate_ok (transitionStateInTx_ran ran)
  rw [Db.payment, Table.find_insert inserted, if_pos rfl] at found
  cases found
  have terms : updated.terms = request.terms cents site.maxRetries now := by
    rw [applied, ← createPaymentData_terms request cents now fits]
    rfl
  have cents : updated.amount = cents := congrArg Terms.amount terms
  have createdAt : updated.createdAt = now := congrArg Terms.createdAt terms
  have key : updated.idempotencyKey = orNull request.idempotencyKey := congrArg Terms.idempotencyKey terms
  exact ⟨amount, by rw [key]; exact fits.idempotencyKey, by rw [cents, createdAt]; exact terms⟩

theorem Transition.found_before {event : PaymentEvent} {old : Payment} (moved : Transition db db' id old row event)
    (absent : db.payment p = none) : db'.payment p = none := by
  rw [moved.payment]
  split
  · rename_i same
    subst same
    rw [moved.found] at absent
    cases absent
  · exact absent

/-- A payment that a transaction adds is the one that its thread has ordered. -/
theorem Issued.adds (issued : Issued site t w (.transaction body)) (ran : body now w.db = .ok (updated, db))
    (absent : w.db.payment p = none) (found : db.payment p = some row) :
    ∃ request, Orders w t request p ∧ Fulfils site request row := by
  have other : ∀ {q : Uuid} {old : Payment} {event : PaymentEvent}, Transition w.db db q old updated event →
      ∃ request, Orders w t request p ∧ Fulfils site request row := by
    intro q old event moved
    rw [moved.found_before absent] at found
    cases found
  cases issued with
  | create own admissible =>
    obtain ⟨_, _, creation⟩ := createPaymentInTx_ok (PostRequest.trimmed _) ran
    rw [creation.payment] at found
    split at found
    · rename_i same
      subst same
      cases found
      exact ⟨_, ⟨_, own ▸ List.suffix_rfl, admissible⟩, createPaymentInTx_fulfils ran⟩
    · rw [absent] at found
      cases found
  | enter | succeed | fail | giveUp | cancel =>
    obtain ⟨_, _, _, moved, _⟩ := transitionStateInTx_ok ran
    exact other moved
  | permanentlyFail =>
    obtain ⟨_, _, _, moved, _⟩ := permanentlyFailInTx_ok ran
    exact other moved
  | schedule =>
    obtain ⟨_, _, _, moved, _⟩ := scheduleRetryInTx_ok ran
    exact other moved
  | retry =>
    obtain ⟨_, _, _, moved, _⟩ := executeRetryInTx_ok ran
    exact other moved
  | settle _ names =>
    obtain ⟨_, _, _, moved, _⟩ := processWebhookInTx_ok names ran
    exact other moved

theorem Issued.retains (issued : Issued site t w (.transaction body)) : body.Keeps (Db.Retains fun _ => True) := by
  cases issued with
  | create => exact createPaymentInTx_retains
  | enter | succeed | fail | giveUp | cancel => exact transitionStateInTx_retains
  | permanentlyFail | schedule | retry => exact recordedUpdate_retains
  | settle => exact processWebhookInTx_retains fun _ => trivial

theorem Issued.retains_statement {body : Tx Unit} (issued : Issued site t w (.statement body)) :
    body.Keeps (Db.Retains fun _ => True) := by
  cases issued with
  | recordResponse => exact paymentEventCreate_retains
  | reference => exact gatewayReferenceUpdate_retains
  | recordWebhook => exact createWebhookEvent_retains fun _ => trivial
  | storeKey => exact idempotencyKeyCreate_retains
  | completeKey => exact idempotencyKeyUpdateMany_retains

theorem Step.retains (step : Step site R t w w') : w.db.Retains (fun _ => True) w'.db := by
  rcases step.wrote with ⟨same, _⟩ | ⟨_, _, _, _, issued, ran⟩ | ⟨_, _, _, issued, ran⟩
  · rw [same]
    exact .refl _
  · exact issued.retains _ _ _ _ ran
  · exact issued.retains_statement _ _ _ _ ran

/-- The amount is among the terms. -/
theorem Fulfils.same (fulfils : Fulfils site request row) (same : current.terms = row.terms) :
    Fulfils site request current := by
  have amount : current.amount = row.amount := congrArg Terms.amount same
  have createdAt : current.createdAt = row.createdAt := congrArg Terms.createdAt same
  have key : current.idempotencyKey = row.idempotencyKey := congrArg Terms.idempotencyKey same
  refine ⟨by rw [amount]; exact fulfils.amount, by rw [key]; exact fulfils.idempotencyKey, ?_⟩
  rw [same, amount, createdAt]
  exact fulfils.terms

theorem AllOrdered.step (ordered : AllOrdered site w) (step : Step site R t w w') : AllOrdered site w' := by
  intro p row found
  cases before : w.db.payment p with
  | some old =>
    obtain ⟨current, found', same⟩ := step.retains.payments p old before
    cases found.symm.trans found'
    obtain ⟨u, request, orders, fulfils⟩ := ordered p old before
    exact ⟨u, request, orders.later step.grows, fulfils.same same⟩
  | none =>
    rcases step.wrote with ⟨same, _⟩ | ⟨body, now, _, _, issued, ran⟩ | ⟨_, _, _, issued, ran⟩
    · rw [World.payment, same, before] at found
      cases found
    · obtain ⟨request, orders, fulfils⟩ := issued.adds ran before found
      exact ⟨t, request, orders.later step.grows, fulfils⟩
    · obtain ⟨old, present, _⟩ := (stated issued ran).payment found
      rw [before] at present
      cases present

theorem all_ordered (reached : Reached site R pool) : AllOrdered site pool.world :=
  invariant_of_steps (AllOrdered site) (by rintro p row ⟨⟩) (fun _ _ _ ordered step => ordered.step step) reached

theorem Step.posted (step : Step site R t w w') (trace : w'.trace = (t, .posted request) :: w.trace) :
    R.event w (.post request) = true := by
  cases step with
  | arrive _ admitted arrives =>
    cases trace
    cases arrives
    exact admitted
  | note _ _ noted =>
    cases trace
    cases noted
  | fault | transaction | statement | lock | enqueue | enqueueRetry | claim | deliverProcess | deliverRetry =>
    cases trace
  | orphan | unlock | expireLock | processFinished | retryFinished | store | expireRecord | stallProcess
  | stallRetry | elapse => exact (List.cons_ne_self _ _ trace.symm).elim

/-- The requests in the history are among those that the run admits. -/
theorem posted_admitted (reached : Reached site R pool) (member : (t, .posted request) ∈ pool.world.trace) :
    ∃ w, R.event w (.post request) = true := by
  refine invariant_of_steps (fun w => ∀ t request, (t, .posted request) ∈ w.trace →
    ∃ w, R.event w (.post request) = true) (by simp) ?_ reached t request member
  intro u w w' before step t request member
  rcases step.trace with same | ⟨o, same⟩
  · exact before t request (same ▸ member)
  · rw [same] at member
    rcases List.mem_cons.mp member with new | old
    · cases new
      exact ⟨w, step.posted same⟩
    · exact before t request old

end PaymentModel
