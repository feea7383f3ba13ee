import PaymentSystem.Proof.Subjects

namespace PaymentModel

open Async

/-- The payment of the job is stored, and an audit event has moved it to `PENDING`. -/
def CalledFor (db : Db) (job : ProcessJob) : Prop :=
  (db.payment job.paymentId).isSome ∧
    ∃ event ∈ db.paymentEvents, event.paymentId = job.paymentId ∧ event.toStatus = .pending

/-- The payment of the job is stored, and an audit event has scheduled the attempt of the job, which is one of those
    that the payment has. -/
def ScheduledFor (db : Db) (job : RetryJob) : Prop :=
  ∃ row, db.payment job.paymentId = some row ∧ 0 < job.attempt ∧ job.attempt ≤ row.maxRetries ∧
    ∃ event ∈ db.paymentEvents, event.paymentId = job.paymentId ∧ event.toStatus = .retryScheduled ∧
      ∃ delayMs nextRetryAt, event.eventData = .retry job.attempt delayMs nextRetryAt

/-- The jobs that a commit calls for. -/
structure Commit.Calls (commit : Commit) (row : Payment) (db : Db) : Prop where
  pending : row.status = .pending → CalledFor db ⟨row.id⟩
  scheduled : row.status = .retryScheduled → ∀ event ∈ commit.paymentEvents, ∀ attempt delayMs nextRetryAt,
    event.eventData = .retry attempt delayMs nextRetryAt → ScheduledFor db ⟨row.id, attempt⟩

/-- The queues hold one job of each id, no more finished ones than they retain, and only jobs that the audit log calls
    for; so are all that have been handed out. -/
structure JobsBacked (w : World) : Prop where
  processKept : w.processQueue.Kept keepCompleted keepFailed
  retryKept : w.retryQueue.Kept keepCompleted keepFailed
  called : ∀ job ∈ w.processQueue.stored, CalledFor w.db job
  scheduled : ∀ job ∈ w.retryQueue.stored, ScheduledFor w.db job
  processing : ∀ t job, (t, .processing job) ∈ w.trace → CalledFor w.db job
  retrying : ∀ t job, (t, .retrying job) ∈ w.trace → ScheduledFor w.db job

def CommitsCall (w : World) : Prop :=
  ∀ t commit row, (t, .committed commit) ∈ w.trace → commit.row = some row → commit.Calls row w.db

variable {site : Deployment} {R : Condition} {t : Nat} {w w' : World} {db db' : Db} {p : Uuid}
  {old row : Payment} {event : PaymentEvent} {commit : Commit} {pool : Pool calls JsError World}

theorem CalledFor.later {job : ProcessJob} (called : CalledFor db job) (kept : db.Extends db')
    (logged : db.paymentEvents ⊆ db'.paymentEvents) : CalledFor db' job := by
  obtain ⟨stored, event, member, is⟩ := called
  obtain ⟨row, found⟩ := Option.isSome_iff_exists.mp stored
  obtain ⟨current, found', _⟩ := kept _ row found
  exact ⟨by rw [found']; rfl, event, logged member, is⟩

theorem ScheduledFor.later {job : RetryJob} (scheduled : ScheduledFor db job) (kept : db.Extends db')
    (logged : db.paymentEvents ⊆ db'.paymentEvents) : ScheduledFor db' job := by
  obtain ⟨row, found, positive, within, event, member, is⟩ := scheduled
  obtain ⟨current, found', before⟩ := kept _ row found
  exact ⟨current, found', positive, before.maxRetries ▸ within, event, logged member, is⟩

theorem Step.logs (step : Step site R t w w') : w.db.paymentEvents ⊆ w'.db.paymentEvents := by
  rcases step.db with ⟨same, _⟩ | ⟨row, _, committed⟩ | ⟨_, stated⟩
  · rw [same]
    exact List.Subset.refl _
  · rw [committed.logged]
    exact List.subset_append_left ..
  · rw [stated.logged]
    exact List.subset_append_left ..

/-- Only `scheduleRetry` records an attempt, and only one that the payment has left. -/
theorem Cause.attempt (cause : Cause site w t p old event) (scheduled : event.toStatus = .retryScheduled) :
    ∃ attempt delayMs nextRetryAt, event.eventData = .retry attempt delayMs nextRetryAt ∧ 0 < attempt ∧
      attempt ≤ old.maxRetries := by
  cases cause with
  | schedule _ left _ _ _ _ _ _ data => exact ⟨_, _, _, data, Nat.succ_pos _, left⟩
  | enter _ _ _ _ is | succeed _ _ _ _ is | fail _ _ _ _ _ is | giveUp _ _ _ _ _ _ is | cancel _ _ _ _ is
  | permanentlyFail _ _ _ _ is | retry _ _ _ _ is =>
    rw [is.toStatus] at scheduled
    cases scheduled
  | settle _ _ _ _ _ is => exact (webhookTarget_ne (is.toStatus ▸ scheduled)).elim

theorem Transacted.calls (committed : Transacted site w t db row) : (w.added (some row) db).Calls row db := by
  cases committed with
  | created _ _ creation _ =>
    refine ⟨fun _ => ⟨?_, _, ?_, creation.movedId.trans creation.rowId.symm, creation.move.toStatus⟩, ?_⟩
    · rw [creation.payment, if_pos creation.rowId]
      rfl
    · rw [creation.paymentEvents]
      simp
    · intro scheduled
      rw [creation.status] at scheduled
      cases scheduled
  | @moved p old event cause _ transition _ =>
    have found := transition.payment row.id
    rw [if_pos transition.id] at found
    have same := transition.paymentId.trans transition.id.symm
    have logged : event ∈ db.paymentEvents := by
      rw [transition.paymentEvents]
      exact List.mem_append_right _ (List.mem_singleton_self _)
    refine ⟨fun pending => ⟨by rw [found]; rfl, _, logged, same, transition.status.symm.trans pending⟩, ?_⟩
    intro scheduled event member attempt delayMs nextRetryAt data
    rw [transition.added, List.mem_singleton] at member
    subst member
    have target := transition.status.symm.trans scheduled
    obtain ⟨_, _, _, data', positive, within⟩ := cause.attempt target
    cases data'.symm.trans data
    exact ⟨row, found, positive, transition.maxRetries ▸ within, _, logged, same, target, _, _, data⟩

theorem CommitsCall.step (calls : CommitsCall w) (step : Step site R t w w') : CommitsCall w' := by
  intro u commit row member returned
  have before : (u, .committed commit) ∈ w.trace → commit.Calls row w'.db := fun member => by
    have calls := calls u commit row member returned
    exact ⟨fun pending => (calls.pending pending).later step.extends step.logs,
      fun scheduled event member attempt delayMs nextRetryAt data =>
        (calls.scheduled scheduled event member attempt delayMs nextRetryAt data).later step.extends step.logs⟩
  rcases step.trace with same | ⟨o, same⟩
  · exact before (same ▸ member)
  · rw [same] at member
    rcases List.mem_cons.mp member with new | member
    · cases new
      rcases step.commits same with ⟨row', rfl, committed⟩ | ⟨rfl, _⟩
      · cases returned
        exact committed.calls
      · cases returned
    · exact before member

theorem Step.processStored (step : Step site R t w w') (calls : CommitsCall w) {job : ProcessJob}
    (stored : job ∈ w'.processQueue.stored) : job ∈ w.processQueue.stored ∨ CalledFor w.db job := by
  cases step with
  | enqueue issued =>
    rcases JobQueue.mem_stored_add stored with rfl | stored
    · cases issued with
      | enqueue own returned pending id =>
        subst id
        exact .inr ((calls t _ _ (World.mem_history.mp (own ▸ List.mem_cons_self ..)) returned).pending pending)
    · exact .inl stored
  | processFinished => exact .inl (JobQueue.stored_finish.subset stored)
  | stallProcess stalled => exact .inl ((JobQueue.stored_stall stalled).subset stored)
  | deliverProcess _ taken => exact .inl ((JobQueue.stored_take taken).subset stored)
  | note | fault | transaction | statement | lock | orphan | unlock | expireLock | enqueueRetry | retryFinished
  | claim | store | expireRecord | arrive | deliverRetry | stallRetry | elapse => exact .inl stored

theorem Step.retryStored (step : Step site R t w w') (calls : CommitsCall w) {job : RetryJob}
    (stored : job ∈ w'.retryQueue.stored) : job ∈ w.retryQueue.stored ∨ ScheduledFor w.db job := by
  cases step with
  | enqueueRetry issued =>
    rcases JobQueue.mem_stored_addDelayed stored with rfl | stored
    · cases issued with
      | enqueueRetry own returned scheduled id events data =>
        subst id
        have called := calls t _ _ (World.mem_history.mp (own ▸ List.mem_cons_self ..)) returned
        exact .inr (called.scheduled scheduled _ (events ▸ List.mem_singleton_self _) _ _ _ data)
    · exact .inl stored
  | retryFinished => exact .inl (JobQueue.stored_finish.subset stored)
  | stallRetry stalled => exact .inl ((JobQueue.stored_stall stalled).subset stored)
  | deliverRetry _ taken => exact .inl ((JobQueue.stored_take taken).subset stored)
  | elapse elapsed => exact .inl ((JobQueue.stored_elapse elapsed).subset stored)
  | note | fault | transaction | statement | lock | orphan | unlock | expireLock | enqueue | processFinished
  | claim | store | expireRecord | arrive | deliverProcess | stallProcess => exact .inl stored

/-- A job that a step hands out was in its queue. -/
theorem Step.handsOut (step : Step site R t w w') {o : Obs} (trace : w'.trace = (t, o) :: w.trace) :
    (∀ job, o = .processing job → job ∈ w.processQueue.stored) ∧
      ∀ job, o = .retrying job → job ∈ w.retryQueue.stored := by
  cases step with
  | deliverProcess new taken =>
    cases trace
    exact ⟨by rintro _ ⟨⟩; exact JobQueue.take_stored taken, by simp⟩
  | deliverRetry new taken =>
    cases trace
    exact ⟨by simp, by rintro _ ⟨⟩; exact JobQueue.take_stored taken⟩
  | note issued admitted noted =>
    cases trace
    cases noted <;> simp
  | arrive new admitted arrives =>
    cases trace
    cases arrives <;> simp
  | fault | transaction | statement | lock | enqueue | enqueueRetry | claim =>
    cases trace
    simp
  | orphan | unlock | expireLock | processFinished | retryFinished | store | expireRecord | stallProcess
  | stallRetry | elapse => exact (List.cons_ne_self _ _ trace.symm).elim

theorem Step.queuesKept (step : Step site R t w w') (process : w.processQueue.Kept keepCompleted keepFailed)
    (retry : w.retryQueue.Kept keepCompleted keepFailed) :
    w'.processQueue.Kept keepCompleted keepFailed ∧ w'.retryQueue.Kept keepCompleted keepFailed := by
  cases step with
  | enqueue => exact ⟨process.add, retry⟩
  | enqueueRetry => exact ⟨process, retry.addDelayed⟩
  | processFinished => exact ⟨process.finish, retry⟩
  | retryFinished => exact ⟨process, retry.finish⟩
  | deliverProcess _ taken => exact ⟨process.take taken, retry⟩
  | deliverRetry _ taken => exact ⟨process, retry.take taken⟩
  | stallProcess stalled => exact ⟨process.stall stalled, retry⟩
  | stallRetry stalled => exact ⟨process, retry.stall stalled⟩
  | elapse elapsed => exact ⟨process, retry.elapse elapsed⟩
  | note | fault | transaction | statement | lock | orphan | unlock | expireLock | claim | store | expireRecord
  | arrive => exact ⟨process, retry⟩

theorem JobsBacked.step (backed : JobsBacked w) (calls : CommitsCall w) (step : Step site R t w w') :
    JobsBacked w' := by
  have process : ∀ job, CalledFor w.db job → CalledFor w'.db job := fun job called =>
    called.later step.extends step.logs
  have retry : ∀ job, ScheduledFor w.db job → ScheduledFor w'.db job := fun job scheduled =>
    scheduled.later step.extends step.logs
  obtain ⟨processKept, retryKept⟩ := step.queuesKept backed.processKept backed.retryKept
  refine ⟨processKept, retryKept, ?_, ?_, ?_, ?_⟩
  · intro job stored
    exact process job ((step.processStored calls stored).elim (backed.called job) id)
  · intro job stored
    exact retry job ((step.retryStored calls stored).elim (backed.scheduled job) id)
  · intro u job member
    rcases step.trace with same | ⟨o, same⟩ <;> rw [same] at member
    · exact process job (backed.processing u job member)
    · rcases List.mem_cons.mp member with new | member
      · cases new
        exact process job (backed.called job ((step.handsOut same).1 job rfl))
      · exact process job (backed.processing u job member)
  · intro u job member
    rcases step.trace with same | ⟨o, same⟩ <;> rw [same] at member
    · exact retry job (backed.retrying u job member)
    · rcases List.mem_cons.mp member with new | member
      · cases new
        exact retry job (backed.scheduled job ((step.handsOut same).2 job rfl))
      · exact retry job (backed.retrying u job member)

theorem backed (reached : Reached site R pool) : CommitsCall pool.world ∧ JobsBacked pool.world := by
  refine invariant_of_steps (fun w => CommitsCall w ∧ JobsBacked w) ?_ (fun _ _ _ both step =>
    ⟨both.1.step step, both.2.step both.1 step⟩) reached
  exact ⟨by simp [CommitsCall], JobQueue.kept_empty, JobQueue.kept_empty, by simp [JobQueue.stored],
    by simp [JobQueue.stored], by simp, by simp⟩

/-- Some thread has run a job of the payment. -/
def HandedOut (w : World) (p : Uuid) : Prop := ∃ t, WorksOn p (w.history t)

/-- What a thread has left to do is about payments with a job that was handed out, or that a client may name. -/
def Finds (w : World) (program : Promise Unit) : Prop := Minding (HandedOut w) (fun _ => True) program

theorem HandedOut.later (handed : HandedOut w p) (grown : w.trace <:+ w'.trace) : HandedOut w' p := by
  obtain ⟨t, works⟩ := handed
  exact ⟨t, works.mono fun o member => (World.history_suffix grown t).subset member⟩

theorem Finds.later {program : Promise Unit} (finds : Finds w program) (grown : w.trace <:+ w'.trace) :
    Finds w' program :=
  finds.weaken fun _ minds => minds.weaken (fun _ handed => handed.later grown) fun _ => id

theorem finds_starts {n : Nat} {e : Event} {started : List (Promise Unit)} {program : Promise Unit}
    (occurred : occur site n e w = some (w', started)) (member : program ∈ started) : Finds w' program := by
  cases e with
  | post request =>
    cases occurred
    cases List.mem_singleton.mp member
    exact minding_postPayments request
  | cancel p =>
    cases occurred
    cases List.mem_singleton.mp member
    exact minding_postCancel fun _ _ => trivial
  | webhook payload signature =>
    cases occurred
    cases List.mem_singleton.mp member
    exact minding_handleGatewayWebhook fun _ _ => trivial
  | deliverProcess job =>
    obtain ⟨queue, _, same⟩ := Option.map_eq_some_iff.mp occurred
    cases same
    cases List.mem_singleton.mp member
    refine minding_startProcessWorker job ⟨n, .inl ?_⟩
    rw [World.history_log_self]
    exact List.mem_cons_self ..
  | deliverRetry job =>
    obtain ⟨queue, _, same⟩ := Option.map_eq_some_iff.mp occurred
    cases same
    cases List.mem_singleton.mp member
    refine minding_startRetryWorker job ⟨n, .inr ⟨job.attempt, ?_⟩⟩
    rw [World.history_log_self]
    exact List.mem_cons_self ..
  | stallProcess | stallRetry | retryDelayElapsed =>
    obtain ⟨queue, _, same⟩ := Option.map_eq_some_iff.mp occurred
    cases same
    cases member
  | expireLock | expireRecord =>
    cases occurred
    cases member

theorem finds (reached : Reached site R pool) :
    ∀ (t : Nat) (program : Promise Unit), pool.threads[t]? = some program → Finds pool.world program := by
  induction reached with
  | start => exact fun t program found => by simp at found
  | step before _ stepped ih =>
    have undisturbed : ∀ {t : Nat} {program : Promise Unit} {w w' : World}, Finds w program → Rely t w w' →
        Finds w' program := fun finds rely => finds.later rely.trace
    refine ((conduct site).keeps (conduct_starts site) (fresh_start site) before).pass stepped ?_ ?_ ?_ @undisturbed ih
    · intro n e w w' started occurred _ i program found
      exact finds_starts occurred (List.mem_of_getElem? found)
    · intro t c rest choice outcome w w' finds issued performed
      exact Finds.later (finds.2 outcome) (perform_steps (R := .free) issued rfl performed).grows
    · intro t c rest w finds
      exact ⟨finds.2, fun u fresh => ⟨finds.1, fun _ => trivial⟩⟩

theorem HandedOut.stored (handed : HandedOut w p) (backed : JobsBacked w) : (w.payment p).isSome := by
  obtain ⟨t, works | ⟨attempt, works⟩⟩ := handed
  · exact (backed.processing t _ (World.mem_history.mp works)).1
  · obtain ⟨row, found, _⟩ := backed.retrying t _ (World.mem_history.mp works)
    rw [World.payment, found]
    rfl

theorem CallNote.read {c : Call} {place : ReadSite} {row : Option Payment} (note : CallNote c w (.read place row)) :
    ∃ p, c = .paymentFindUnique place p ∧ row = w.payment p := by
  cases note with
  | noted choice noted =>
    cases noted
    exact ⟨_, rfl, rfl⟩

/-- Nothing but a call reads. -/
def nothingCalled : Condition where
  call _ _ _ _ := false
  event _ _ := true

theorem Steps.unread (steps : Steps site nothingCalled t w w') {u : Nat} {place : ReadSite} {row : Option Payment}
    (member : (u, .read place row) ∈ w'.trace) : (u, .read place row) ∈ w.trace := by
  induction steps with
  | refl => exact member
  | tail _ step ih =>
    rcases step.reads member with before | ⟨_, _, _, called⟩
    · exact ih before
    · cases called

/-- No worker looks for a payment that is not stored. -/
theorem workers_find (reached : Reached site R pool) {u : Nat} {place : ReadSite}
    (member : (u, .read place none) ∈ pool.world.trace) : place = .cancelPayment ∨ place = .processWebhook := by
  induction reached with
  | start => cases member
  | step before _ stepped ih =>
    cases Machine.takes_of_step stepped with
    | @call t _ _ _ _ running performed =>
      obtain ⟨notes, took, _⟩ := perform_does performed
      have own := World.mem_history.mpr member
      by_cases same : u = t
      · subst same
        rcases perform_notes performed own with earlier | note
        · exact ih (World.mem_history.mp earlier)
        · obtain ⟨p, rfl, absent⟩ := note.read
          rcases (finds before _ _ running).1 with handed | ⟨client, _⟩
          · have stored := handed.stored (backed before).2
            rw [← absent] at stored
            cases stored
          · exact client
      · rw [took.other same] at own
        exact ih (World.mem_history.mp own)
    | detach _ world _ => exact ih (world ▸ member)
    | event occurred _ =>
      have kept := (conduct site).keeps (conduct_starts site) (fresh_start site) before
      have steps := occur_steps (R := nothingCalled) occurred rfl (kept.fresh _ (Nat.le_refl _))
      exact ih (steps.unread member)

/-- Whatever fails, stalls or is delivered again, each queue stores a job id once and what its retention allows, every
    job in it or handed out is one that a committed audit event calls for, under an attempt number that the payment
    has, and no worker finds its payment missing. -/
theorem jobs_backed (reached : Reached site R pool) : JobsBacked pool.world ∧
    ∀ t place, (t, .read place none) ∈ pool.world.trace → place = .cancelPayment ∨ place = .processWebhook :=
  ⟨(backed reached).2, fun _ _ member => workers_find reached member⟩

/-- A delayed retry job, and its announcement. -/
theorem jobs_backed_scheduled : ∃ pool : Pool calls JsError World, Reached sampleSite .free pool ∧
    pool.world.retryQueue.delayed = [⟨sampleId '0', 1⟩] ∧ ScheduledFor pool.world.db ⟨sampleId '0', 1⟩ := by
  obtain ⟨pool, reached, shown⟩ := reached_of_run sampleSite .free (retryScheduling ++ acts 2 [{}])
    (fun pool => pool.world.retryQueue.delayed = [⟨sampleId '0', 1⟩]) (by decide +kernel)
  have delayed := of_decide_eq_true shown
  refine ⟨pool, reached, delayed, (jobs_backed reached).1.scheduled _ ?_⟩
  simp [JobQueue.stored, delayed]

end PaymentModel
