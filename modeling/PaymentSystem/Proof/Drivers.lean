import PaymentSystem.Proof.Evolution

namespace PaymentModel

open Async

/-- A thread with this history is on the way to move payment `p` on from its row `row`. -/
inductive Drives (p : Uuid) (row : Payment) : List Obs → Prop
  | returned {commit : Commit} {current : Payment} {h : List Obs} (returned : commit.row = some current)
    (id : current.id = p) (version : current.version = row.version) (status : current.status = row.status)
    (leaves : row.status = .pending ∨ row.status = .retryScheduled ∨
      (row.status = .failed ∧ commit.webhookEvents = [])) : Drives p row (.committed commit :: h)
  | taken (pending : row.status = .pending) : Drives p row [.processing ⟨p⟩]
  | token {token : Uuid} (pending : row.status = .pending) : Drives p row [.uuid token, .processing ⟨p⟩]
  | locked {h : List Obs} (working : Working p h) (pending : row.status = .pending) : Drives p row h
  | enter {current : Payment} {h : List Obs} (working : Working p h) (pending : current.status = .pending)
    (version : current.version = row.version) : Drives p row (.read .processPayment (some current) :: h)
  | giveUp {errorCode : Option String} {current : Payment} {h : List Obs}
    (exhausted : givesUp errorCode current = true) (id : current.id = p)
    (version : current.version = row.version) :
    Drives p row (.read (.retryDecision errorCode) (some current) :: h)
  | begun {job : RetryJob} (id : job.paymentId = p) (scheduled : row.status = .retryScheduled) :
    Drives p row [.retrying job]
  | retry {job : RetryJob} {current : Payment} (id : job.paymentId = p) (version : current.version = row.version)
    (scheduled : current.status = .retryScheduled) :
    Drives p row [.read .executeRetry (some current), .retrying job]

/-- The calls left to such a thread. -/
inductive Allowed (t : Nat) (w : World) (p : Uuid) (row : Payment) : Call → Prop
  | dateNow : Allowed t w p row .dateNow
  | mathRandom : Allowed t w p row .mathRandom
  | generateId (own : w.history t = [.processing ⟨p⟩]) (pending : row.status = .pending) :
    Allowed t w p row .generateId
  | lockSet {token : Uuid} {ttl : Int} (own : w.history t = [.uuid token, .processing ⟨p⟩])
    (pending : row.status = .pending) : Allowed t w p row (.lockSet (paymentLockKey p) token ttl)
  | findProcess (working : Working p (w.history t)) (pending : row.status = .pending) :
    Allowed t w p row (.paymentFindUnique .processPayment p)
  | findDecision {errorCode : Option String} {failed : Payment} (own : Failed p errorCode failed (w.history t))
    (version : failed.version = row.version) (status : row.status = .failed) :
    Allowed t w p row (.paymentFindUnique (.retryDecision errorCode) p)
  | findRetry {job : RetryJob} (own : w.history t = [.retrying job]) (id : job.paymentId = p)
    (scheduled : row.status = .retryScheduled) : Allowed t w p row (.paymentFindUnique .executeRetry p)
  | transaction {body : Tx Payment} (fails : ∀ now e, body now w.db = .error e →
      ∀ current, w.db.payment p = some current → current.version ≠ row.version)
    (moves : ∀ now current db, body now w.db = .ok (current, db) → current.id = p) :
    Allowed t w p row (.transaction body)
  | enqueue (pending : row.status = .pending) : Allowed t w p row (.processQueueAdd ⟨p⟩)
  | enqueueRetry {attempt : Nat} {delay : Int} (scheduled : row.status = .retryScheduled) :
    Allowed t w p row (.retryQueueAdd ⟨p, attempt⟩ delay)

/-- What a step of such a thread comes to. -/
inductive Onward (R : Condition) (t : Nat) (w w' : World) (p : Uuid) (row : Payment) : Prop
  | idle (own : w'.history t = w.history t)
  | on (drives : Drives p row (w'.history t))
  | moved (current : Payment) (found : w'.db.payment p = some current) (version : current.version = row.version + 1)
  | busy (token : Uuid) (holder : String) (ttl : Int) (choice : Choice) (pending : row.status = .pending)
    (own : w.history t = [.uuid token, .processing ⟨p⟩])
    (admitted : R.call t w (.lockSet (paymentLockKey p) token ttl) choice = true)
    (held : w.locks (paymentLockKey p) = some holder)
  | enqueued (choice : Choice) (pending : row.status = .pending)
    (admitted : R.call t w (.processQueueAdd ⟨p⟩) choice = true)
    (queue : w'.processQueue = w.processQueue.add ⟨p⟩)
  | retryEnqueued (attempt : Nat) (delay : Int) (choice : Choice) (scheduled : row.status = .retryScheduled)
    (admitted : R.call t w (.retryQueueAdd ⟨p, attempt⟩ delay) choice = true)
    (queue : w'.retryQueue = w.retryQueue.addDelayed ⟨p, attempt⟩)
  | decided (errorCode : Option String) (failed : Payment) (choice : Choice)
    (own : Failed p errorCode failed (w.history t)) (version : failed.version = row.version)
    (status : row.status = .failed)
    (admitted : R.call t w (.paymentFindUnique (.retryDecision errorCode) p) choice = true)
    (read : w'.history t = .read (.retryDecision errorCode) (some row) :: w.history t)
  | fault (w₀ : World) (c : Call) (choice : Choice) (admitted : R.call t w₀ c choice = true)
    (failed : choice.fault ≠ .none)

variable {site : Deployment} {R : Condition} {t : Nat} {w w' : World} {p : Uuid} {row row' : Payment}
  {c : Call} {h : List Obs}

theorem Drives.unsettled (drives : Drives p row h) : ¬Settled h := by
  intro settled
  cases drives with
  | returned returned id version status leaves =>
    obtain ⟨pending, scheduled, failed⟩ := settled _ returned
    rw [status] at pending scheduled failed
    rcases leaves with is | is | ⟨is, none⟩
    · exact pending is
    · exact scheduled is
    · exact failed is none
  | taken | token | begun => exact settled
  | locked working =>
    obtain ⟨token, rfl⟩ := working
    exact settled
  | enter _ pending _ => exact settled pending
  | giveUp exhausted _ _ =>
    rw [Settled, exhausted] at settled
    cases settled
  | retry _ _ scheduled => exact settled scheduled

theorem Drives.congr (drives : Drives p row h) (status : row'.status = row.status)
    (version : row'.version = row.version) : Drives p row' h := by
  cases drives with
  | returned returned id version' status' leaves =>
    exact .returned returned id (version'.trans version.symm) (status'.trans status.symm) (by rwa [status])
  | taken pending => exact .taken (status.trans pending)
  | token pending => exact .token (status.trans pending)
  | locked working pending => exact .locked working (status.trans pending)
  | enter working pending version' => exact .enter working pending (version'.trans version.symm)
  | giveUp exhausted id version' => exact .giveUp exhausted id (version'.trans version.symm)
  | begun id scheduled => exact .begun id (status.trans scheduled)
  | retry id version' scheduled => exact .retry id (version'.trans version.symm) scheduled

theorem Working.same {q : Uuid} (working : Working p h) (other : Working q h) : q = p := by
  obtain ⟨token, rfl⟩ := working
  obtain ⟨token', same⟩ := other
  simp only [List.cons.injEq, Obs.processing.injEq, ProcessJob.mk.injEq] at same
  exact same.2.2.1.symm

theorem Working.head {o : Obs} (working : Working p (o :: h)) : ∃ token, o = .locked (paymentLockKey p) token := by
  obtain ⟨token, same⟩ := working
  exact ⟨token, (List.cons.inj same).1⟩

theorem Drives.committed {commit : Commit} (drives : Drives p row (.committed commit :: h)) :
    ∃ current, commit.row = some current ∧ current.id = p ∧ current.version = row.version ∧
      current.status = row.status ∧ (row.status = .pending ∨ row.status = .retryScheduled ∨
        (row.status = .failed ∧ commit.webhookEvents = [])) := by
  cases drives with
  | returned returned id version status leaves => exact ⟨_, returned, id, version, status, leaves⟩
  | locked working =>
    obtain ⟨_, is⟩ := working.head
    cases is

theorem Drives.not_recorded {q : Uuid} {processing : Payment} {result : GatewayResult}
    (drives : Drives p row h) : ¬Recorded q processing result h := by
  rintro ⟨_, silent⟩
  obtain ⟨current, returned, _⟩ := drives.committed
  rw [silent] at returned
  cases returned

theorem Drives.not_entered {q : Uuid} {processing : Payment} (drives : Drives p row h) :
    ¬Entered q processing h := by
  rintro ⟨_, _, returned, _, _, _, processing⟩
  obtain ⟨current, returned', _, _, status, leaves⟩ := drives.committed
  rw [returned] at returned'
  cases returned'
  rw [← status, processing] at leaves
  simp at leaves

/-- The newest notes that such a thread can have. -/
theorem Drives.head {o : Obs} (drives : Drives p row (o :: h)) :
    match o with
    | .committed _ | .processing _ | .uuid _ | .locked .. | .retrying _ => True
    | .read .processPayment (some _) | .read (.retryDecision _) (some _) | .read .executeRetry (some _) => True
    | _ => False := by
  cases drives with
  | returned | taken | token | enter | giveUp | begun | retry => exact trivial
  | locked working =>
    obtain ⟨token, rfl⟩ := working.head
    exact trivial

theorem Drives.nonempty (drives : Drives p row h) : h ≠ [] := by
  rintro rfl
  cases drives with
  | locked working =>
    obtain ⟨_, same⟩ := working
    cases same

theorem Drives.taken_job {job : ProcessJob} (drives : Drives p row [.processing job]) :
    job = ⟨p⟩ ∧ row.status = .pending := by
  cases drives with
  | taken pending => exact ⟨rfl, pending⟩
  | locked working =>
    obtain ⟨_, is⟩ := working.head
    cases is

theorem Drives.token_job {token : Uuid} (drives : Drives p row (.uuid token :: h)) :
    h = [.processing ⟨p⟩] ∧ row.status = .pending := by
  cases drives with
  | token pending => exact ⟨rfl, pending⟩
  | locked working =>
    obtain ⟨_, is⟩ := working.head
    cases is

theorem Drives.locked_job {key token : String} (drives : Drives p row (.locked key token :: h)) :
    Working p (.locked key token :: h) ∧ row.status = .pending := by
  cases drives with
  | locked working pending => exact ⟨working, pending⟩

theorem Drives.entering {current : Payment} (drives : Drives p row (.read .processPayment (some current) :: h)) :
    Working p h ∧ current.version = row.version := by
  cases drives with
  | enter working _ version => exact ⟨working, version⟩
  | locked working =>
    obtain ⟨_, is⟩ := working.head
    cases is

theorem Drives.givingUp {errorCode : Option String} {current : Payment}
    (drives : Drives p row (.read (.retryDecision errorCode) (some current) :: h)) :
    current.id = p ∧ current.version = row.version := by
  cases drives with
  | giveUp _ id version => exact ⟨id, version⟩
  | locked working =>
    obtain ⟨_, is⟩ := working.head
    cases is

theorem Drives.retrying {job : RetryJob} (drives : Drives p row [.retrying job]) :
    job.paymentId = p ∧ row.status = .retryScheduled := by
  cases drives with
  | begun id scheduled => exact ⟨id, scheduled⟩
  | locked working =>
    obtain ⟨_, is⟩ := working.head
    cases is

theorem Drives.retried {job : RetryJob} {current : Payment}
    (drives : Drives p row [.read .executeRetry (some current), .retrying job]) :
    job.paymentId = p ∧ current.version = row.version := by
  cases drives with
  | retry id version _ => exact ⟨id, version⟩
  | locked working =>
    obtain ⟨_, is⟩ := working.head
    cases is

theorem Drives.not_attempted {q : Uuid} {processing : Payment} {result : GatewayResult}
    (drives : Drives p row h) : ¬Attempted q processing result h := by
  rintro (_ | _)
  · exact drives.head
  · exact drives.head

theorem Drives.rejected {q : Uuid} {errorCode : Option String} {failed : Payment} (drives : Drives p row h)
    (own : Failed q errorCode failed h) : failed.id = p ∧ failed.version = row.version ∧ row.status = .failed := by
  obtain ⟨_, _, _, _, returned, failed⟩ := own
  obtain ⟨current, returned', id, version, status, _⟩ := drives.committed
  rw [returned] at returned'
  cases returned'
  exact ⟨id, version, status.symm.trans failed⟩

theorem Admissible.settled {request : PostRequest} (admissible : Admissible request h) : Settled h := by
  cases admissible with
  | unkeyed => exact trivial
  | keyed _ stored => exact settled_of_bookkeeping stored trivial

theorem Drives.allowed (drives : Drives p row (w.history t)) (issued : Issued site t w c) :
    Allowed t w p row c := by
  cases issued with
  | dateNow => exact .dateNow
  | mathRandom => exact .mathRandom
  | lockRelease _ settled | findFailed settled | findEvent settled | recordWebhook _ settled | storeKey settled
  | processFinished settled | retryFinished settled | respond settled => exact (drives.unsettled settled).elim
  | next admissible => exact (drives.unsettled admissible.settled).elim
  | generateId begins =>
    rcases begins with settled | ⟨job, own⟩
    · exact (drives.unsettled settled).elim
    · obtain ⟨rfl, pending⟩ := (own ▸ drives).taken_job
      exact .generateId own pending
  | lockSet own scope =>
    obtain ⟨rfl, pending⟩ := (own ▸ drives).token_job
    obtain rfl := scope _ _ rfl
    exact .lockSet own pending
  | findProcess working =>
    obtain ⟨token, own⟩ := working
    obtain ⟨working, pending⟩ := (own ▸ drives).locked_job
    obtain rfl := working.same ⟨token, rfl⟩
    exact .findProcess (own ▸ working) pending
  | findDecision own seen =>
    obtain ⟨id, version, status⟩ := drives.rejected own
    obtain rfl := seen.id.symm.trans id
    exact .findDecision own version status
  | findRetry own =>
    obtain ⟨rfl, scheduled⟩ := (own ▸ drives).retrying
    exact .findRetry own rfl scheduled
  | findWebhook own _ =>
    obtain ⟨⟨_, same⟩, _⟩ := (own ▸ drives).locked_job
    simp at same
  | create own _ =>
    obtain ⟨same, _⟩ := (own ▸ drives).token_job
    cases same
  | enter own working pending seen =>
    obtain ⟨working', version⟩ := (own ▸ drives).entering
    obtain rfl := working'.same working
    refine .transaction (fun now e failed current found => ?_) fun now current db ran => ?_
    · rw [← version]
      exact transitionStateInTx_error rfl failed current found
    · obtain ⟨_, _, _, moved, _⟩ := transitionStateInTx_ok ran
      exact moved.id
  | succeed recorded | fail recorded | reference recorded => exact (drives.not_recorded recorded).elim
  | giveUp own _ exhausted _ seen =>
    obtain ⟨id, version⟩ := (own ▸ drives).givingUp
    obtain rfl := seen.id.symm.trans id
    refine .transaction (fun now e failed current found => ?_) fun now current db ran => ?_
    · rw [← version]
      exact transitionStateInTx_error rfl failed current found
    · obtain ⟨_, _, _, moved, _⟩ := transitionStateInTx_ok ran
      exact moved.id
  | retry own scheduled seen =>
    obtain ⟨rfl, version⟩ := (own ▸ drives).retried
    refine .transaction (fun now e failed current found => ?_) fun now current db ran => ?_
    · rw [← version]
      exact executeRetryInTx_error failed current found
    · obtain ⟨_, _, _, moved, _⟩ := executeRetryInTx_ok ran
      exact moved.id
  | enqueue own returned pending id =>
    obtain ⟨current, returned', id', _, status, _⟩ := (own ▸ drives).committed
    rw [returned] at returned'
    cases returned'
    obtain rfl := id.symm.trans id'
    exact .enqueue (status.symm.trans pending)
  | enqueueRetry own returned scheduled id =>
    obtain ⟨current, returned', id', _, status, _⟩ := (own ▸ drives).committed
    rw [returned] at returned'
    cases returned'
    obtain rfl := id.symm.trans id'
    exact .enqueueRetry (status.symm.trans scheduled)
  | breaker entered | send entered => exact (drives.not_entered entered).elim
  | completeKey own | recordSet own => exact (drives.nonempty own).elim
  | findSchedule own | findCancel own | cancel own | permanentlyFail own | schedule own | settle own
  | receive own | recordGet own | recordSetNx own => exact (own ▸ drives).head.elim
  | recordResponse attempted => exact (drives.not_attempted attempted).elim

theorem Drives.onward (drives : Drives p row (w.history t)) (found : w.db.payment p = some row)
    (step : Step site R t w w') : Onward R t w w' p row := by
  cases step with
  | note issued admitted noted =>
    cases drives.allowed issued with
    | generateId own pending =>
      cases noted with
      | uuid =>
        refine .on ?_
        rw [World.history_log_self, own]
        exact .token pending
    | lockSet own pending =>
      cases noted with
      | lockBusy held => exact .busy _ _ _ _ pending own admitted held
    | findProcess working pending =>
      cases noted with
      | read =>
        refine .on ?_
        rw [World.history_log_self, World.payment, found]
        exact .enter working pending rfl
    | findDecision own version status =>
      cases noted with
      | read =>
        refine .decided _ _ _ own version status admitted ?_
        rw [World.history_log_self, World.payment, found]
    | findRetry own id scheduled =>
      cases noted with
      | read =>
        refine .on ?_
        rw [World.history_log_self, World.payment, found, own]
        exact .retry id rfl scheduled
    | transaction fails moves =>
      cases noted with
      | rolledBack failed => exact (fails _ _ failed row found rfl).elim
    | dateNow | mathRandom | enqueue | enqueueRetry => cases noted
  | fault admitted failed _ => exact .fault _ _ _ admitted failed
  | transaction issued admitted ran =>
    cases drives.allowed issued with
    | transaction fails moves =>
      rename_i current _
      have id := moves _ _ _ ran
      have committed := transacted issued ran
      refine .moved current ?_ ?_
      · rw [← id]
        exact (committed.payment current.id).trans (if_pos rfl)
      · rw [committed.version, id, found]
        rfl
  | statement issued ran => cases drives.allowed issued
  | lock issued free =>
    cases drives.allowed issued with
    | lockSet own pending =>
      refine .on ?_
      rw [World.history_log_self]
      change Drives p row (_ :: w.history t)
      rw [own]
      exact .locked ⟨_, rfl⟩ pending
  | enqueue issued admitted =>
    cases drives.allowed issued with
    | enqueue pending => exact .enqueued _ pending admitted rfl
  | enqueueRetry issued admitted =>
    cases drives.allowed issued with
    | enqueueRetry scheduled => exact .retryEnqueued _ _ _ scheduled admitted rfl
  | claim issued free => cases drives.allowed issued
  | arrive new | deliverProcess new | deliverRetry new => exact (drives.nonempty new).elim
  | orphan | unlock | expireLock | processFinished | retryFinished | store | expireRecord | stallProcess
  | stallRetry | elapse => exact .idle rfl

end PaymentModel
