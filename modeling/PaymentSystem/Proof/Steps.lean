import Mathlib.Logic.Relation
import PaymentSystem.Async.Contract
import PaymentSystem.Proof.Commits

namespace PaymentModel

open Async

abbrev Condition := Restriction calls World Choice Event

/-- What a call notes in the history without any other effect. -/
inductive Notes : Call → Choice → World → Obs → Prop
  | uuid {choice : Choice} {w : World} (fresh : ∀ u, (u, Obs.uuid choice.uuid) ∉ w.trace) :
    Notes .generateId choice w (.uuid choice.uuid)
  | lockBusy {choice : Choice} {w : World} {key token holder : String} {ttl : Int}
    (held : w.locks key = some holder) : Notes (.lockSet key token ttl) choice w (.lockBusy key)
  | unlocked {choice : Choice} {w : World} {key token : String} :
    Notes (.lockRelease key token) choice w (.unlocked key token)
  | read {choice : Choice} {w : World} {place : ReadSite} {p : Uuid} :
    Notes (.paymentFindUnique place p) choice w (.read place (w.payment p))
  | eventFound {choice : Choice} {w : World} {eventId : String} {event : WebhookEvent}
    (found : w.db.webhookEvents.find eventId = some event) :
    Notes (.webhookEventFindUnique eventId) choice w (.eventFound event)
  | rolledBack {choice : Choice} {w : World} {body : Tx Payment} {e : JsError}
    (failed : body choice.now w.db = .error e) : Notes (.transaction body) choice w .rolledBack
  | refused {choice : Choice} {w : World} {body : Tx Unit} {e : JsError}
    (failed : body choice.now w.db = .error e) : Notes (.statement body) choice w .rolledBack
  | breakerOpen {choice : Choice} {w : World} {p : Uuid} (closed : choice.admits = false) :
    Notes (.breakerAdmits p) choice w (.breakerOpen p)
  | called {choice : Choice} {w : World} {request : GatewayPaymentRequest} :
    Notes (.gatewaySend request) choice w (.gatewayCalled request.paymentId)
  | answered {choice : Choice} {w : World} {p : Uuid} :
    Notes (.gatewayReceive p) choice w (.gatewayAnswered p choice.outcome)
  | recordRead {choice : Choice} {w : World} {key : String} :
    Notes (.recordGet key) choice w (.recordRead key (w.records key))
  | claimLost {choice : Choice} {w : World} {key : String} {record present : IdempotencyRecord} {ttl : Rat}
    (found : w.records key = some present) : Notes (.recordSetNx key record ttl) choice w (.claim key false)
  | admitted {choice : Choice} {w : World} {key : Option String} :
    Notes (.next key) choice w (.admitted key)
  | responded {choice : Choice} {w : World} {code : Nat} {body : ResponseBody} :
    Notes (.respond code body) choice w (.responded code body)

/-- What a request notes on its arrival. -/
inductive Arrives : Event → Obs → Prop
  | post {request : PostRequest} : Arrives (.post request) (.posted request)
  | cancel {spelled : String} : Arrives (.cancel spelled) (.cancelling spelled)
  | webhook {payload : Json} {signature : Option String} :
    Arrives (.webhook payload signature) (.webhook payload signature)

/-- What a thread may have noted in a call before the call fails. -/
def Noted (t : Nat) (c : Call) (choice : Choice) (w w' : World) : Prop :=
  w'.trace = w.trace ∨ ∃ o, w'.trace = (t, o) :: w.trace ∧ (∀ key, o ≠ .admitted key) ∧
    ∀ commit row, o = .committed commit → commit.row = some row →
      choice.fault = .after ∧ ∃ body, c = .transaction body

/-- The smallest changes of the world. A call amounts to a few of them, made by the thread `t` that
    issues it and admitted by the condition on the run. -/
inductive Step (site : Deployment) (R : Condition) (t : Nat) (w : World) : World → Prop
  | note {c : Call} {choice : Choice} {o : Obs} (issued : Issued site t w c) (admitted : R.call t w c choice)
    (noted : Notes c choice w o) : Step site R t w (w.log t o)
  | fault {c : Call} {choice : Choice} {w₀ : World} (admitted : R.call t w₀ c choice)
    (failed : choice.fault ≠ .none) (noted : Noted t c choice w₀ w) : Step site R t w (w.log t .fault)
  | transaction {body : Tx Payment} {choice : Choice} {row : Payment} {db : Db}
    (issued : Issued site t w (.transaction body)) (admitted : R.call t w (.transaction body) choice)
    (ran : body choice.now w.db = .ok (row, db)) : Step site R t w (w.commit t (some row) db)
  | statement {body : Tx Unit} {choice : Choice} {db : Db} (issued : Issued site t w (.statement body))
    (ran : body choice.now w.db = .ok ((), db)) : Step site R t w (w.commit t none db)
  | lock {key token : String} {ttl : Int} (issued : Issued site t w (.lockSet key token ttl))
    (free : w.locks key = none) :
    Step site R t w ((w.setLock key (some token)).log t (.locked key token))
  | orphan {key token : String} {ttl : Int} (issued : Issued site t w (.lockSet key token ttl))
    (free : w.locks key = none) : Step site R t w (w.setLock key (some token))
  | unlock {key token : String} {h : List Obs} (own : w.history t = .unlocked key token :: h)
    (held : Obs.locked key token ∈ h) (holds : w.locks key = some token) :
    Step site R t w (w.setLock key none)
  | expireLock {key : String} (admitted : R.event w (.expireLock key)) : Step site R t w (w.setLock key none)
  | enqueue {job : ProcessJob} {choice : Choice} (issued : Issued site t w (.processQueueAdd job))
    (admitted : R.call t w (.processQueueAdd job) choice) :
    Step site R t w ({ w with processQueue := w.processQueue.add job }.log t (.enqueued job))
  | enqueueRetry {job : RetryJob} {delay : Int} {choice : Choice}
    (issued : Issued site t w (.retryQueueAdd job delay)) (admitted : R.call t w (.retryQueueAdd job delay) choice) :
    Step site R t w ({ w with retryQueue := w.retryQueue.addDelayed job }.log t (.retryEnqueued job))
  | processFinished {job : ProcessJob} {success : Bool}
    (issued : Issued site t w (.processJobFinished job success)) :
    Step site R t w { w with processQueue := w.processQueue.finish job t success keepCompleted keepFailed }
  | retryFinished {job : RetryJob} {success : Bool} (issued : Issued site t w (.retryJobFinished job success)) :
    Step site R t w { w with retryQueue := w.retryQueue.finish job t success keepCompleted keepFailed }
  | claim {key : String} {record : IdempotencyRecord} {ttl : Rat}
    (issued : Issued site t w (.recordSetNx key record ttl)) (free : w.records key = none) :
    Step site R t w ((w.setRecord key (some record)).log t (.claim key true))
  | store {key : String} {record : IdempotencyRecord} {ttl : Rat}
    (issued : Issued site t w (.recordSet key record ttl)) : Step site R t w (w.setRecord key (some record))
  | expireRecord {key : String} (admitted : R.event w (.expireRecord key)) :
    Step site R t w (w.setRecord key none)
  | arrive {e : Event} {o : Obs} (new : w.history t = []) (admitted : R.event w e) (arrives : Arrives e o) :
    Step site R t w (w.log t o)
  | deliverProcess {job : ProcessJob} {queue : JobQueue ProcessJob ProcessJob.jobId} (new : w.history t = [])
    (taken : w.processQueue.take job t = some queue) :
    Step site R t w ({ w with processQueue := queue }.log t (.processing job))
  | deliverRetry {job : RetryJob} {queue : JobQueue RetryJob RetryJob.jobId} (new : w.history t = [])
    (taken : w.retryQueue.take job t = some queue) :
    Step site R t w ({ w with retryQueue := queue }.log t (.retrying job))
  | stallProcess {job : ProcessJob} {run : Nat} {queue : JobQueue ProcessJob ProcessJob.jobId}
    (stalled : w.processQueue.stall job run = some queue) :
    Step site R t w { w with processQueue := queue }
  | stallRetry {job : RetryJob} {run : Nat} {queue : JobQueue RetryJob RetryJob.jobId}
    (stalled : w.retryQueue.stall job run = some queue) : Step site R t w { w with retryQueue := queue }
  | elapse {job : RetryJob} {queue : JobQueue RetryJob RetryJob.jobId}
    (elapsed : w.retryQueue.elapse job = some queue) : Step site R t w { w with retryQueue := queue }

def Steps (site : Deployment) (R : Condition) (t : Nat) : World → World → Prop :=
  Relation.ReflTransGen (Step site R t)

variable {site : Deployment} {R : Condition} {t : Nat} {w w' : World}

theorem World.remote_cases {α : Type} {fault : Fault} {answer outcome : Except JsError α} {effect : World}
    {note : Option Obs} (h : w.remote t fault answer effect note = (outcome, w')) :
    (fault = .none ∧ outcome = answer ∧ w' = note.elim effect (effect.log t)) ∨
    (fault = .before ∧ outcome = .error World.connectionLost ∧ w' = w.log t .fault) ∨
    (fault = .after ∧ outcome = .error World.connectionLost ∧ w' = effect.log t .fault) := by
  cases fault <;> cases h <;> simp

theorem World.database_cases {α : Type} {choice : Choice} {body : Tx α} {row : α → Option Payment}
    {outcome : Except JsError α} (h : w.database t choice body row = (outcome, w')) :
    (∃ value db, body choice.now w.db = .ok (value, db) ∧
      w.remote t choice.fault (.ok value) (w.commit t (row value) db) none = (outcome, w')) ∨
    ∃ e, body choice.now w.db = .error e ∧
      w.remote t choice.fault (.error e) (w.log t .rolledBack) none = (outcome, w') := by
  unfold database at h
  cases ran : body choice.now w.db with
  | ok result => exact .inl ⟨result.1, result.2, rfl, by simpa [ran] using h⟩
  | error e => exact .inr ⟨e, rfl, by simpa [ran] using h⟩

theorem remote_steps {α : Type} {c : Call} {choice : Choice} {answer outcome : Except JsError α}
    {effect w₀ : World} {note : Option Obs} (h : w.remote t choice.fault answer effect note = (outcome, w'))
    (admitted : R.call t w₀ c choice) (noted : choice.fault = .before → Noted t c choice w₀ w)
    (effected : Steps site R t w effect) (noted' : choice.fault = .after → Noted t c choice w₀ effect)
    (answered : ∀ o, note = some o → choice.fault = .none → Steps site R t w (effect.log t o)) :
    Steps site R t w w' := by
  rcases World.remote_cases h with ⟨fault, rfl, rfl⟩ | ⟨fault, rfl, rfl⟩ | ⟨fault, rfl, rfl⟩
  · cases note with
    | none => exact effected
    | some o => exact answered o rfl fault
  · exact .single (.fault admitted (by simp [fault]) (noted fault))
  · exact effected.tail (.fault admitted (by simp [fault]) (noted' fault))

theorem Noted.same (t : Nat) (c : Call) (choice : Choice) (same : w'.trace = w.trace) :
    Noted t c choice w w' := .inl same

theorem Noted.plain {c : Call} {choice : Choice} {o : Obs} (same : w'.trace = (t, o) :: w.trace)
    (quiet : ∀ key, o ≠ .admitted key) (plain : ∀ commit, o ≠ .committed commit) : Noted t c choice w w' :=
  .inr ⟨o, same, quiet, fun commit _ is => (plain commit is).elim⟩

/-- A call that its thread may issue amounts to admitted steps. -/
theorem perform_steps {c : Call} {choice : Choice} {outcome : Except JsError c.Answer}
    (issued : Issued site t w c) (admitted : R.call t w c choice)
    (performed : perform t c choice w = some (outcome, w')) : Steps site R t w w' := by
  have note {o : Obs} (noted : Notes c choice w o) : Steps site R t w (w.log t o) :=
    .single (.note issued admitted noted)
  cases c with
  | generateId =>
    simp only [perform] at performed
    split at performed
    · cases performed
    · rename_i fresh
      cases performed
      refine note (.uuid fun u member => fresh ?_)
      exact List.any_eq_true.mpr ⟨_, member, by simp⟩
  | dateNow =>
    cases performed
    exact .refl
  | mathRandom =>
    simp only [perform] at performed
    split at performed
    · cases performed
      exact .refl
    · cases performed
  | lockSet key token ttl =>
    simp only [perform] at performed
    split at performed
    · rename_i holder held
      refine remote_steps (Option.some.inj performed) admitted (fun _ => .same _ _ _ rfl) .refl
        (fun _ => .same _ _ _ rfl) ?_
      rintro o ⟨⟩ _
      exact note (.lockBusy held)
    · rename_i free
      refine remote_steps (Option.some.inj performed) admitted (fun _ => .same _ _ _ rfl)
        (.single (.orphan issued free)) (fun _ => .same _ _ _ rfl) ?_
      rintro o ⟨⟩ _
      exact .single (.lock issued free)
  | lockRelease key token =>
    simp only [perform] at performed
    have released : Steps site R t w (w.log t (.unlocked key token)) := note .unlocked
    have noted : Noted t (.lockRelease key token) choice w (w.log t (.unlocked key token)) :=
      .plain rfl (by simp) (by simp)
    have held : Obs.locked key token ∈ w.history t := by
      cases issued
      assumption
    split at performed
    · rename_i holds
      have h := Option.some.inj performed
      refine released.trans (remote_steps h admitted (fun _ => noted) (.single ?_) (fun _ => ?_) (by simp))
      · exact .unlock (h := w.history t) (by simp) held holds
      · exact .plain rfl (by simp) (by simp)
    · have h := Option.some.inj performed
      exact released.trans (remote_steps h admitted (fun _ => noted) .refl (fun _ => noted) (by simp))
  | paymentFindUnique place p =>
    refine remote_steps (Option.some.inj performed) admitted (fun _ => .same _ _ _ rfl) .refl
      (fun _ => .same _ _ _ rfl) ?_
    rintro o ⟨⟩ _
    exact note .read
  | webhookEventFindUnique eventId =>
    refine remote_steps (Option.some.inj performed) admitted (fun _ => .same _ _ _ rfl) .refl
      (fun _ => .same _ _ _ rfl) ?_
    intro o is _
    obtain ⟨event, found, rfl⟩ := Option.map_eq_some_iff.mp is
    exact note (.eventFound found)
  | transaction body =>
    rcases World.database_cases (Option.some.inj performed) with ⟨row, db, ran, h⟩ | ⟨e, failed, h⟩
    · refine remote_steps h admitted (fun _ => .same _ _ _ rfl)
        (.single (.transaction issued admitted ran)) (fun after => .inr ⟨_, rfl, by simp, ?_⟩) (by simp)
      exact fun _ _ _ _ => ⟨after, body, rfl⟩
    · exact remote_steps h admitted (fun _ => .same _ _ _ rfl) (note (.rolledBack failed))
        (fun _ => .plain rfl (by simp) (by simp)) (by simp)
  | statement body =>
    rcases World.database_cases (Option.some.inj performed) with ⟨row, db, ran, h⟩ | ⟨e, failed, h⟩
    · refine remote_steps h admitted (fun _ => .same _ _ _ rfl)
        (.single (.statement issued ran)) (fun after => .inr ⟨_, rfl, by simp, ?_⟩) (by simp)
      rintro commit row ⟨⟩ ⟨⟩
    · exact remote_steps h admitted (fun _ => .same _ _ _ rfl) (note (.refused failed))
        (fun _ => .plain rfl (by simp) (by simp)) (by simp)
  | processQueueAdd job =>
    exact remote_steps (Option.some.inj performed) admitted (fun _ => .same _ _ _ rfl)
      (.single (.enqueue issued admitted)) (fun _ => .plain rfl (by simp) (by simp)) (by simp)
  | retryQueueAdd job delay =>
    exact remote_steps (Option.some.inj performed) admitted (fun _ => .same _ _ _ rfl)
      (.single (.enqueueRetry issued admitted)) (fun _ => .plain rfl (by simp) (by simp)) (by simp)
  | processJobFinished job success =>
    exact remote_steps (Option.some.inj performed) admitted (fun _ => .same _ _ _ rfl)
      (.single (.processFinished issued)) (fun _ => .same _ _ _ rfl) (by simp)
  | retryJobFinished job success =>
    exact remote_steps (Option.some.inj performed) admitted (fun _ => .same _ _ _ rfl)
      (.single (.retryFinished issued)) (fun _ => .same _ _ _ rfl) (by simp)
  | breakerAdmits p =>
    cases performed
    cases closed : choice.admits with
    | true => exact .refl
    | false => exact note (.breakerOpen closed)
  | gatewaySend request =>
    cases performed
    exact note .called
  | gatewayReceive p =>
    have answered : Steps site R t w (w.log t (.gatewayAnswered p choice.outcome)) := note .answered
    simp only [perform] at performed
    split at performed <;> cases performed <;> exact answered
  | recordGet key =>
    refine remote_steps (Option.some.inj performed) admitted (fun _ => .same _ _ _ rfl) .refl
      (fun _ => .same _ _ _ rfl) ?_
    rintro o ⟨⟩ _
    exact note .recordRead
  | recordSetNx key record ttl =>
    simp only [perform] at performed
    split at performed
    · rename_i present found
      exact remote_steps (Option.some.inj performed) admitted (fun _ => .same _ _ _ rfl)
        (note (.claimLost found)) (fun _ => .plain rfl (by simp) (by simp)) (by simp)
    · rename_i free
      exact remote_steps (Option.some.inj performed) admitted (fun _ => .same _ _ _ rfl)
        (.single (.claim issued free)) (fun _ => .plain rfl (by simp) (by simp)) (by simp)
  | recordSet key record ttl =>
    exact remote_steps (Option.some.inj performed) admitted (fun _ => .same _ _ _ rfl)
      (.single (.store issued)) (fun _ => .same _ _ _ rfl) (by simp)
  | next key =>
    cases performed
    exact note .admitted
  | respond code body =>
    cases performed
    exact note .responded

/-- An event amounts to admitted steps of the thread it starts. -/
theorem occur_steps {n : Nat} {e : Event} {started : List (Promise Unit)}
    (occurred : occur site n e w = some (w', started)) (admitted : R.event w e) (new : w.history n = []) :
    Steps site R n w w' := by
  cases e with
  | post request =>
    cases occurred
    exact .single (.arrive new admitted .post)
  | cancel p =>
    cases occurred
    exact .single (.arrive new admitted .cancel)
  | webhook payload signature =>
    cases occurred
    exact .single (.arrive new admitted .webhook)
  | deliverProcess job =>
    obtain ⟨queue, taken, same⟩ := Option.map_eq_some_iff.mp occurred
    cases same
    exact .single (.deliverProcess new taken)
  | deliverRetry job =>
    obtain ⟨queue, taken, same⟩ := Option.map_eq_some_iff.mp occurred
    cases same
    exact .single (.deliverRetry new taken)
  | stallProcess job run =>
    obtain ⟨queue, stalled, same⟩ := Option.map_eq_some_iff.mp occurred
    cases same
    exact .single (.stallProcess stalled)
  | stallRetry job run =>
    obtain ⟨queue, stalled, same⟩ := Option.map_eq_some_iff.mp occurred
    cases same
    exact .single (.stallRetry stalled)
  | retryDelayElapsed job =>
    obtain ⟨queue, elapsed, same⟩ := Option.map_eq_some_iff.mp occurred
    cases same
    exact .single (.elapse elapsed)
  | expireLock key =>
    cases occurred
    exact .single (.expireLock admitted)
  | expireRecord key =>
    cases occurred
    exact .single (.expireRecord admitted)

end PaymentModel
