import PaymentSystem.Proof.Steps

namespace PaymentModel

open Async

/-- Why thread `t` moves payment `p` on from its row `old`, and which audit event it writes. -/
inductive Cause (site : Deployment) (w : World) (t : Nat) (p : Uuid) (old : Payment) (event : PaymentEvent) : Prop
  | enter {row : Payment} {h : List Obs} (own : w.history t = .read .processPayment (some row) :: h)
    (working : Working p h) (version : old.version = row.version) (status : old.status = .pending)
    (is : event.Is .pending .processing .stateChange)
  | succeed {processing : Payment} {result : GatewayResult}
    (recorded : Recorded p processing result (w.history t)) (successful : result.success = true)
    (version : old.version = processing.version) (status : old.status = .processing)
    (is : event.Is .processing .success .stateChange)
  | fail {processing : Payment} {result : GatewayResult}
    (recorded : Recorded p processing result (w.history t)) (unsuccessful : result.success = false)
    (final : result.pendingWebhook = false) (version : old.version = processing.version)
    (status : old.status = .processing) (is : event.Is .processing .failed .stateChange)
  | giveUp {errorCode : Option String} {failed row : Payment} {h : List Obs}
    (own : w.history t = .read (.retryDecision errorCode) (some row) :: h) (rejected : Failed p errorCode failed h)
    (exhausted : givesUp errorCode row = true) (version : old.version = row.version)
    (status : old.status = row.status) (decided : row.version = failed.version → retries old = false)
    (is : event.Is .failed .permanentlyFailed .stateChange)
  | cancel {spelled : String} {row : Payment}
    (own : w.history t = [.read .cancelPayment (some row), .cancelling spelled])
    (reads : Uuid.parse spelled = some p) (version : old.version = row.version)
    (valid : isValidStateTransition old.status .cancelled = true)
    (is : event.Is old.status .cancelled .stateChange)
  | permanentlyFail {row : Payment} {h : List Obs}
    (own : w.history t = .read .handleFailedProcessing (some row) :: h) (version : old.version = row.version)
    (status : old.status = .failed) (decided : retries old = false)
    (is : event.Is .failed .permanentlyFailed .stateChange)
  | schedule {row first : Payment} {delayMs nextRetryAt : Int} {h : List Obs}
    (own : w.history t = .read (.scheduleRetry first.retryCount) (some row) ::
      .read .handleFailedProcessing (some first) :: h)
    (left : first.retryCount < old.maxRetries) (failed : row.status = .failed)
    (version : old.version = row.version) (count : old.retryCount = row.retryCount)
    (status : old.status = .failed) (decided : row.version = first.version → retries old = true)
    (is : event.Is .failed .retryScheduled .retryScheduled)
    (data : event.eventData = .retry (first.retryCount + 1) delayMs nextRetryAt)
  | retry {job : RetryJob} {row : Payment} (own : w.history t = [.read .executeRetry (some row), .retrying job])
    (id : job.paymentId = p) (version : old.version = row.version) (status : old.status = .retryScheduled)
    (is : event.Is .retryScheduled .pending .stateChange)
  | settle {token : Uuid} {signature eventId : String} {row : Payment} {payload : Json}
    (own : w.history t = [.read .processWebhook (some row), .locked (webhookLockKey payload) token, .uuid token,
      .webhook payload (some signature)])
    (names : namedPayment payload = .ok p) (version : old.version = row.version) (status : old.status = .processing)
    (found : row.status = .processing) (is : event.Is .processing (webhookTarget payload) .webhookReceived)
    (signed : verifyWebhookSignature site (Json.stringify none payload) signature = .ok true)
    (delivered : payload.field "eventId" = some (.string eventId))
    (data : event.eventData = .webhook eventId (payload.field "gatewayReference") (payload.field "timestamp"))

/-- What a transaction that its thread may issue commits. -/
inductive Transacted (site : Deployment) (w : World) (t : Nat) (db : Db) (row : Payment) : Prop
  | created {request : PostRequest} {id : Uuid} {h : List Obs} {created moved : PaymentEvent}
    (own : w.history t = .uuid id :: .admitted (orNull request.idempotencyKey) :: h)
    (admissible : Admissible request h)
    (creation : Creation w.db db id (orNull request.idempotencyKey) site.maxRetries row created moved)
    (held : heldVersion id (w.history t) = none)
  | moved {p : Uuid} {old : Payment} {event : PaymentEvent} (cause : Cause site w t p old event)
    (held : heldVersion p (w.history t) = some old.version) (transition : Transition w.db db p old row event)
    (reports : Reports w.db db p event)

/-- An update of a payment that is no transition. -/
structure Retouch (db db' : Db) (p : Uuid) (old new : Payment) : Prop where
  found : db.payment p = some old
  payment : ∀ q, db'.payment q = if q = p then some new else db.payment q
  paymentEvents : db'.paymentEvents = db.paymentEvents
  webhookEvents : db'.webhookEvents = db.webhookEvents
  id : new.id = old.id
  status : new.status = old.status
  version : new.version = old.version
  retryCount : new.retryCount = old.retryCount
  maxRetries : new.maxRetries = old.maxRetries
  idempotencyKey : new.idempotencyKey = old.idempotencyKey
  errorCode : new.errorCode = old.errorCode

/-- What a single statement that its thread may issue changes. -/
inductive Stated (db db' : Db) : Prop
  | response {event : PaymentEvent} (is : event.Is .processing .processing .gatewayResponse)
    (known : (db.payment event.paymentId).isSome) (payments : db'.payments = db.payments)
    (paymentEvents : db'.paymentEvents = db.paymentEvents ++ [event])
    (webhookEvents : db'.webhookEvents = db.webhookEvents)
  | reference {p : Uuid} {old new : Payment} (retouch : Retouch db db' p old new)
  | webhook {event : WebhookEvent} (unprocessed : event.status ≠ .processed)
    (payments : db'.payments = db.payments) (paymentEvents : db'.paymentEvents = db.paymentEvents)
    (inserted : db.webhookEvents.insert event = some db'.webhookEvents)
  | keys (same : db.SameLedger db')

variable {site : Deployment} {R : Condition} {t : Nat} {w w' : World}

theorem Entered.status {p : Uuid} {processing : Payment} {h : List Obs} (entered : Entered p processing h) :
    processing.status = .processing := by
  cases entered
  assumption

theorem Recorded.status {p : Uuid} {processing : Payment} {result : GatewayResult} {h : List Obs}
    (recorded : Recorded p processing result h) : processing.status = .processing := by
  obtain ⟨attempted, -⟩ := recorded
  cases attempted with
  | refused entered => exact entered.status
  | answered entered => exact entered.status

theorem heldVersion_read (h : List Obs) (place : ReadSite) (row : Payment) :
    heldVersion row.id (.read place (some row) :: h) = some row.version := by
  simp [heldVersion]

theorem heldVersion_returned {commit : Commit} {row : Payment} (returned : commit.row = some row) (h : List Obs) :
    heldVersion row.id (.committed commit :: h) = some row.version := by
  obtain ⟨_, _, _⟩ := commit
  cases returned
  simp [heldVersion]

theorem heldVersion_silent {commit : Commit} (silent : commit.row = none) (p : Uuid) (h : List Obs) :
    heldVersion p (.committed commit :: h) = heldVersion p h := by
  obtain ⟨_, _, _⟩ := commit
  cases silent
  rfl

theorem Entered.held {p : Uuid} {processing : Payment} {h : List Obs} (entered : Entered p processing h) :
    heldVersion processing.id h = some processing.version := by
  cases entered with
  | intro _ _ returned => exact heldVersion_returned returned _

theorem Recorded.held {p : Uuid} {processing : Payment} {result : GatewayResult} {h : List Obs}
    (recorded : Recorded p processing result h) : heldVersion processing.id h = some processing.version := by
  cases recorded with
  | intro attempted silent =>
    rw [heldVersion_silent silent]
    cases attempted with
    | refused entered => exact entered.held
    | answered entered => exact entered.held

theorem Bookkeeping.held {o : Obs} (note : Bookkeeping o) (p : Uuid) (h : List Obs) :
    heldVersion p (o :: h) = heldVersion p h := by
  rcases note with rfl | rfl | ⟨commit, rfl, silent⟩
  · rfl
  · rfl
  · exact heldVersion_silent silent p h

theorem heldVersion_bookkeeping {notes : List Obs} (stored : ∀ o ∈ notes, Bookkeeping o) (p : Uuid)
    (h : List Obs) : heldVersion p (notes ++ h) = heldVersion p h := by
  induction notes with
  | nil => rfl
  | cons o notes ih =>
    rw [List.cons_append, (stored o (List.mem_cons_self ..)).held]
    exact ih fun o member => stored o (List.mem_cons_of_mem _ member)

theorem Admissible.held {request : PostRequest} {h : List Obs} (admissible : Admissible request h)
    (p : Uuid) : heldVersion p h = none := by
  cases admissible with
  | unkeyed => rfl
  | keyed _ stored =>
    rw [heldVersion_bookkeeping stored]
    rfl

theorem heldVersion_of_read {p : Uuid} {place : ReadSite} {row old : Payment} {h : List Obs}
    (own : w.history t = .read place (some row) :: h) (seen : Seen w.db p row)
    (version : old.version = row.version) : heldVersion p (w.history t) = some old.version := by
  rw [own, version, ← seen.id]
  exact heldVersion_read h place row

theorem heldVersion_of_recorded {p : Uuid} {processing old : Payment} {result : GatewayResult}
    (recorded : Recorded p processing result (w.history t)) (seen : Seen w.db p processing)
    (version : old.version = processing.version) : heldVersion p (w.history t) = some old.version := by
  rw [version, ← seen.id]
  exact recorded.held

theorem canRetry_cut (text : String) (row : Payment) : canRetry (cutText 64 text) row = canRetry text row := by
  have short : ∀ code ∈ retryableErrors, code.length < 64 := by decide
  have same : isRetryableError (cutText 64 text) = isRetryableError text := by
    rw [Bool.eq_iff_iff, isRetryableError, isRetryableError, List.contains_iff_mem, List.contains_iff_mem]
    exact cutText_mem short
  rw [canRetry, canRetry, same]

/-- A handler that gives up the failure it has stored decides as `handleFailedProcessing` does. -/
theorem Seen.not_retries {db : Db} {p : Uuid} {row current failed : Payment} {errorCode : Option String}
    {h : List Obs} (seen : Seen db p row) (found : db.payment p = some current)
    (version : current.version = row.version) (rejected : Failed p errorCode failed h)
    (exhausted : givesUp errorCode row = true) (agrees : row.errorCode = failed.errorCode) :
    PaymentModel.retries current = false := by
  have code : row.errorCode = (orNull errorCode).map (cutText 64) := by
    cases rejected
    exact agrees.trans ‹_›
  simp only [givesUp, Bool.and_eq_true, Bool.not_eq_true'] at exhausted
  rw [orNull, if_pos exhausted.1] at code
  rw [seen.retries found version, PaymentModel.retries, code]
  cases errorCode with
  | none => rfl
  | some text => exact (congrArg _ ((canRetry_cut text row).trans exhausted.2)).trans (Bool.and_false _)

theorem webhookTarget_settles (payload : Json) :
    webhookTarget payload = .success ∨ webhookTarget payload = .failed := by
  unfold webhookTarget
  split
  · exact .inl rfl
  · exact .inr rfl

theorem transacted {body : Tx Payment} {now : Nat} {row : Payment} {db : Db}
    (issued : Issued site t w (.transaction body)) (ran : body now w.db = .ok (row, db)) :
    Transacted site w t db row := by
  cases issued with
  | create own admissible =>
    rename_i request _ _
    obtain ⟨created, moved, creation⟩ := createPaymentInTx_ok request.trimmed ran
    exact .created own admissible creation (by rw [own]; exact admissible.held _)
  | enter own working pending seen =>
    obtain ⟨old, event, version, moved, is, reports⟩ := transitionStateInTx_ok ran
    have status := (seen.same moved.found version).1.trans pending
    have held := heldVersion_of_read own seen version
    exact .moved (.enter own working version status is) held moved reports
  | succeed recorded successful seen =>
    obtain ⟨old, event, version, moved, is, reports⟩ := transitionStateInTx_ok ran
    have status := (seen.same moved.found version).1.trans recorded.status
    have held := heldVersion_of_recorded recorded seen version
    exact .moved (.succeed recorded successful version status is) held moved reports
  | fail recorded unsuccessful final seen =>
    obtain ⟨old, event, version, moved, is, reports⟩ := transitionStateInTx_ok ran
    have status := (seen.same moved.found version).1.trans recorded.status
    have held := heldVersion_of_recorded recorded seen version
    exact .moved (.fail recorded unsuccessful final version status is) held moved reports
  | giveUp own rejected exhausted agrees seen =>
    obtain ⟨old, event, version, moved, is, reports⟩ := transitionStateInTx_ok ran
    have status := (seen.same moved.found version).1
    have held := heldVersion_of_read own seen version
    have decided := fun left => seen.not_retries moved.found version rejected exhausted (agrees left)
    exact .moved (.giveUp own rejected exhausted version status decided is) held moved reports
  | cancel own reads seen =>
    have valid := transitionStateInTx_valid ran
    obtain ⟨old, event, version, moved, is, reports⟩ := transitionStateInTx_ok ran
    have status := (seen.same moved.found version).1
    rw [← status] at valid is
    have held := heldVersion_of_read own seen version
    exact .moved (.cancel own reads version valid is) held moved reports
  | permanentlyFail own failed decided seen =>
    obtain ⟨old, event, version, moved, is, reports⟩ := permanentlyFailInTx_ok ran
    have status := (seen.same moved.found version).1.trans failed
    have held := heldVersion_of_read own seen version
    have decided' := (seen.retries moved.found version).trans decided
    exact .moved (.permanentlyFail own version status decided' is) held moved reports
  | schedule own failed left limit agrees seen =>
    obtain ⟨old, event, version, moved, is, data, reports⟩ := scheduleRetryInTx_ok ran
    obtain ⟨status, count, limits⟩ := seen.same moved.found version
    have left' : _ < old.maxRetries := (limits.trans limit).symm ▸ left
    have held := heldVersion_of_read own seen version
    have decided := fun same => (seen.retries moved.found version).trans (agrees same)
    exact .moved (.schedule own left' failed version count (status.trans failed) decided is data) held moved
      reports
  | retry own scheduled seen =>
    obtain ⟨old, event, version, moved, is, reports⟩ := executeRetryInTx_ok ran
    have status := (seen.same moved.found version).1.trans scheduled
    have held := heldVersion_of_read own seen version
    exact .moved (.retry own rfl version status is) held moved reports
  | settle own names valid seen signed delivered =>
    obtain ⟨old, event, version, moved, is, data, reports⟩ := processWebhookInTx_ok names ran
    have found := processing_of_settles valid (webhookTarget_settles _)
    have status := (seen.same moved.found version).1.trans found
    rw [found] at is
    have held := heldVersion_of_read own seen version
    exact .moved (.settle own names version status found is signed delivered data) held moved reports

theorem gatewayReferenceUpdate_ok {p : Uuid} {version now : Nat} {gatewayReference : Option String}
    {db db' : Db} {value : Unit}
    (h : gatewayReferenceUpdate p version gatewayReference now db = .ok (value, db')) :
    ∃ old new, Retouch db db' p old new := by
  unfold gatewayReferenceUpdate at h
  obtain ⟨new, db₁, ran, h⟩ := Tx.bind_ok h
  obtain ⟨old, found, _, applied, rfl⟩ := paymentUpdate_ok ran
  cases h
  have id : new.id = p := by
    rw [applied]
    exact (payment_id found : old.id = p)
  refine ⟨old, new, ?_⟩
  exact {
    found
    payment := fun q => find_replaced found id q
    paymentEvents := rfl
    webhookEvents := rfl
    id := by rw [applied]; rfl
    status := by rw [applied]; rfl
    version := by rw [applied]; rfl
    retryCount := by rw [applied]; rfl
    maxRetries := by rw [applied]; rfl
    idempotencyKey := by rw [applied]; rfl
    errorCode := by rw [applied]; rfl }

theorem stated {body : Tx Unit} {now : Nat} {db : Db} (issued : Issued site t w (.statement body))
    (ran : body now w.db = .ok ((), db)) : Stated w.db db := by
  cases issued with
  | recordResponse attempted =>
    obtain ⟨known, rfl⟩ := paymentEventCreate_ok ran
    exact .response ⟨rfl, rfl, rfl⟩ known rfl rfl rfl
  | reference recorded seen =>
    obtain ⟨old, new, retouch⟩ := gatewayReferenceUpdate_ok ran
    exact .reference retouch
  | recordWebhook unprocessed settled =>
    obtain ⟨paymentId, _, webhookEvents, inserted, rfl⟩ := createWebhookEvent_ok ran
    exact .webhook unprocessed rfl rfl inserted
  | storeKey settled => exact .keys (idempotencyKeyCreate_ok ran)
  | completeKey own => exact .keys (idempotencyKeyUpdateMany_ok ran)

theorem Transacted.extends {db : Db} {row : Payment} (committed : Transacted site w t db row) :
    w.db.Extends db := by
  cases committed with
  | created _ _ creation _ => exact creation.extends
  | moved _ _ transition _ => exact transition.extends

theorem Transacted.payment {db : Db} {row : Payment} (committed : Transacted site w t db row) (p : Uuid) :
    db.payment p = if p = row.id then some row else w.db.payment p := by
  cases committed with
  | created _ _ creation _ => rw [creation.payment, creation.rowId]
  | moved _ _ transition _ => rw [transition.payment, transition.id]

theorem Transacted.version {db : Db} {row : Payment} (committed : Transacted site w t db row) :
    row.version = ((w.db.payment row.id).map Payment.version).getD 1 + 1 := by
  cases committed with
  | created _ _ creation _ => simp [creation.rowId, creation.absent, creation.version]
  | moved _ _ transition _ => simp [transition.id, transition.found, transition.version]

theorem Transacted.held {db : Db} {row : Payment} (committed : Transacted site w t db row) :
    (heldVersion row.id (w.history t)).getD 1 = ((w.db.payment row.id).map Payment.version).getD 1 := by
  cases committed with
  | created _ _ creation held => simp [creation.rowId, creation.absent, held]
  | moved _ held transition _ => simp [transition.id, transition.found, held]

theorem Transacted.logged {db : Db} {row : Payment} (committed : Transacted site w t db row) :
    db.paymentEvents = w.db.paymentEvents ++ (w.added (some row) db).paymentEvents := by
  cases committed with
  | created _ _ creation _ => rw [creation.added, creation.paymentEvents]
  | moved _ _ transition _ => rw [transition.added, transition.paymentEvents]

theorem Stated.logged {db : Db} (stated : Stated w.db db) :
    db.paymentEvents = w.db.paymentEvents ++ (w.added none db).paymentEvents := by
  cases stated with
  | response _ _ _ paymentEvents _ => simp [World.added, paymentEvents]
  | reference retouch => simp [World.added, retouch.paymentEvents]
  | webhook _ _ paymentEvents _ => simp [World.added, paymentEvents]
  | keys same => simp [World.added, same.paymentEvents]

theorem Db.Extends.of_payments {db db' : Db} (same : db'.payments = db.payments) : db.Extends db' := by
  intro p old found
  exact ⟨old, by rw [Db.payment, same]; exact found, .refl old⟩

theorem Stated.extends {db db' : Db} (changed : Stated db db') : db.Extends db' := by
  cases changed with
  | response _ _ payments _ _ => exact .of_payments payments
  | reference retouch =>
    rename_i p old new
    intro q row found
    rw [retouch.payment]
    by_cases same : q = p
    · subst same
      have := retouch.found
      rw [found] at this
      cases this
      refine ⟨new, by simp, ?_⟩
      exact {
        id := retouch.id
        maxRetries := retouch.maxRetries
        idempotencyKey := retouch.idempotencyKey
        version := Nat.le_of_eq retouch.version.symm
        status := fun _ => retouch.status
        retryCount := fun _ => retouch.retryCount
        errorCode := fun _ => retouch.errorCode }
    · exact ⟨row, by simp [same, found], .refl row⟩
  | webhook _ payments _ _ => exact .of_payments payments
  | keys same => exact .of_payments same.payments

/-- A step notes at most one thing in the history, and only of its own thread. -/
theorem Step.trace (step : Step site R t w w') :
    w'.trace = w.trace ∨ ∃ o, w'.trace = (t, o) :: w.trace := by
  cases step with
  | orphan | unlock | expireLock | processFinished | retryFinished | store | expireRecord | stallProcess
  | stallRetry | elapse => exact .inl rfl
  | note | fault | transaction | statement | lock | enqueue | enqueueRetry | claim | arrive | deliverProcess
  | deliverRetry => exact .inr ⟨_, rfl⟩

/-- The history of a thread grows by what its own steps note. -/
theorem Step.history (step : Step site R t w w') (u : Nat) : w'.history u = w.history u ∨
    ∃ o, u = t ∧ w'.trace = (t, o) :: w.trace ∧ w'.history u = o :: w.history u := by
  rcases step.trace with same | ⟨o, same⟩
  · exact .inl (World.history_congr same u)
  · by_cases own : u = t
    · subst own
      exact .inr ⟨o, rfl, same, World.history_cons_self same⟩
    · exact .inl (World.history_cons_other same own)

/-- What a step from `w` to `w'` has done that notes `o` in the history. -/
inductive Adds (site : Deployment) (R : Condition) (t : Nat) (w w' : World) : Obs → Prop
  | note {c : Call} {choice : Choice} {o : Obs} (issued : Issued site t w c) (admitted : R.call t w c choice)
    (noted : Notes c choice w o) : Adds site R t w w' o
  | fault {c : Call} {choice : Choice} {w₀ : World} (admitted : R.call t w₀ c choice)
    (failed : choice.fault ≠ .none) (noted : Noted t c choice w₀ w) : Adds site R t w w' .fault
  | commit {commit : Commit} : Adds site R t w w' (.committed commit)
  | lock {key token : String} {ttl : Int} (issued : Issued site t w (.lockSet key token ttl))
    (free : w.locks key = none) (after : w' = (w.setLock key (some token)).log t (.locked key token)) :
    Adds site R t w w' (.locked key token)
  | enqueue {job : ProcessJob} (issued : Issued site t w (.processQueueAdd job)) : Adds site R t w w' (.enqueued job)
  | enqueueRetry {job : RetryJob} {delay : Int} (issued : Issued site t w (.retryQueueAdd job delay)) :
    Adds site R t w w' (.retryEnqueued job)
  | claim {key : String} (free : w.records key = none) (present : w'.records key ≠ none) :
    Adds site R t w w' (.claim key true)
  | arrive {e : Event} {o : Obs} (arrives : Arrives e o) (admitted : R.event w e) : Adds site R t w w' o
  | deliverProcess {job : ProcessJob} : Adds site R t w w' (.processing job)
  | deliverRetry {job : RetryJob} : Adds site R t w w' (.retrying job)

theorem Step.adds (step : Step site R t w w') {o : Obs} (trace : w'.trace = (t, o) :: w.trace) :
    Adds site R t w w' o := by
  cases step with
  | note issued admitted noted =>
    cases trace
    exact .note issued admitted noted
  | fault admitted failed noted =>
    cases trace
    exact .fault admitted failed noted
  | transaction | statement =>
    cases trace
    exact .commit
  | lock issued free =>
    cases trace
    exact .lock issued free rfl
  | enqueue issued admitted =>
    cases trace
    exact .enqueue issued
  | enqueueRetry issued admitted =>
    cases trace
    exact .enqueueRetry issued
  | claim issued free =>
    cases trace
    exact .claim free (by simp [World.setRecord])
  | arrive new admitted arrives =>
    cases trace
    exact .arrive arrives admitted
  | deliverProcess =>
    cases trace
    exact .deliverProcess
  | deliverRetry =>
    cases trace
    exact .deliverRetry
  | orphan | unlock | expireLock | processFinished | retryFinished | store | expireRecord | stallProcess
  | stallRetry | elapse => exact (List.cons_ne_self _ _ trace.symm).elim

theorem Step.extends (step : Step site R t w w') : w.db.Extends w'.db := by
  cases step with
  | transaction issued _ ran => exact (transacted issued ran).extends
  | statement issued ran => exact (stated issued ran).extends
  | note | fault | lock | orphan | unlock | expireLock | enqueue | enqueueRetry | processFinished
  | retryFinished | claim | store | expireRecord | arrive | deliverProcess | deliverRetry | stallProcess
  | stallRetry | elapse => exact .refl _

end PaymentModel
