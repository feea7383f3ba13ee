import PaymentSystem.Proof.Drivers

namespace PaymentModel

open Async

/-- Payment `p` has a process job waiting. -/
def ProcessQueued (w : World) (p : Uuid) : Prop := ∃ job ∈ w.processQueue.waiting, job.paymentId = p

/-- Payment `p` has a retry job waiting or delayed. -/
def RetryQueued (w : World) (p : Uuid) : Prop :=
  ∃ job, (job ∈ w.retryQueue.waiting ∨ job ∈ w.retryQueue.delayed) ∧ job.paymentId = p

/-- No call fails, a process job finds the lock of a payment that is still `PENDING` free, and a
    payment that is still to be enqueued has no job of that id stored, unless it is one in line. -/
def jobsGetThrough : Condition where
  call t w c choice := decide (choice.fault = .none) &&
    match c with
    | .lockSet key _ _ =>
      match w.history t with
      | [.uuid _, .processing job] =>
        (w.payment job.paymentId).all fun row => row.status = .pending → (w.locks key).isNone
      | _ => true
    | .processQueueAdd job =>
      (w.payment job.paymentId).all fun row => row.status = .pending →
        w.processQueue.stores job = false ∨ job ∈ w.processQueue.waiting
    | .retryQueueAdd job _ =>
      (w.payment job.paymentId).all fun row => row.status = .retryScheduled →
        w.retryQueue.stores job = false ∨ job ∈ w.retryQueue.waiting ∨ job ∈ w.retryQueue.delayed
    | _ => true
  event _ _ := true

/-- A payment that has to be moved on is queued, or some thread is about to do so. -/
def Driven (w : World) (p : Uuid) (row : Payment) : Prop :=
  (row.status = .pending ∧ ProcessQueued w p) ∨ (row.status = .retryScheduled ∧ RetryQueued w p) ∨
    ∃ t, Drives p row (w.history t)

variable {site : Deployment} {R : Condition} {t : Nat} {w w' : World} {p : Uuid} {row row' : Payment}
  {pool : Pool calls JsError World}

theorem Step.processQueued (step : Step site R t w w') (queued : ProcessQueued w p)
    (pending : row.status = .pending) : ProcessQueued w' p ∨ Drives p row (w'.history t) := by
  obtain ⟨job, waiting, id⟩ := queued
  cases step with
  | enqueue => exact .inl ⟨job, JobQueue.waiting_add waiting, id⟩
  | processFinished => exact .inl ⟨job, by simpa using waiting, id⟩
  | stallProcess stalled => exact .inl ⟨job, JobQueue.waiting_stall stalled waiting, id⟩
  | deliverProcess new taken =>
    rcases JobQueue.waiting_take taken waiting with rfl | left
    · right
      have own : Drives p row (.processing job :: w.history t) := by
        rw [new]
        obtain ⟨_⟩ := job
        cases id
        exact .taken pending
      rw [World.history_log_self]
      exact own
    · exact .inl ⟨job, left, id⟩
  | note | fault | transaction | statement | lock | orphan | unlock | expireLock | enqueueRetry | retryFinished
  | claim | store | expireRecord | arrive | deliverRetry | stallRetry | elapse =>
    exact .inl ⟨job, waiting, id⟩

theorem Step.retryQueued (step : Step site R t w w') (queued : RetryQueued w p)
    (scheduled : row.status = .retryScheduled) : RetryQueued w' p ∨ Drives p row (w'.history t) := by
  obtain ⟨job, inLine, id⟩ := queued
  cases step with
  | enqueueRetry => exact .inl ⟨job, inLine.imp (by simp) JobQueue.delayed_addDelayed, id⟩
  | retryFinished => exact .inl ⟨job, by simpa using inLine, id⟩
  | stallRetry stalled =>
    refine .inl ⟨job, inLine.imp (JobQueue.waiting_stall stalled) fun delayed => ?_, id⟩
    rw [JobQueue.delayed_stall stalled]
    exact delayed
  | elapse elapsed =>
    rcases inLine with waiting | delayed
    · exact .inl ⟨job, .inl (JobQueue.waiting_elapse elapsed waiting), id⟩
    · exact .inl ⟨job, JobQueue.delayed_elapse elapsed delayed, id⟩
  | deliverRetry new taken =>
    rcases inLine with waiting | delayed
    · rcases JobQueue.waiting_take taken waiting with rfl | left
      · right
        have own : Drives p row (.retrying job :: w.history t) := by
          rw [new]
          exact .begun id scheduled
        rw [World.history_log_self]
        exact own
      · exact .inl ⟨job, .inl left, id⟩
    · rw [← JobQueue.delayed_take taken] at delayed
      exact .inl ⟨job, .inr delayed, id⟩
  | note | fault | transaction | statement | lock | orphan | unlock | expireLock | enqueue | processFinished
  | claim | store | expireRecord | arrive | deliverProcess | stallProcess => exact .inl ⟨job, inLine, id⟩

theorem Driven.congr (driven : Driven w p row) (progress : row'.progress = row.progress) :
    Driven w p row' := by
  simp only [Payment.progress, Progress.mk.injEq] at progress
  obtain ⟨status, version, _⟩ := progress
  rcases driven with ⟨pending, queued⟩ | ⟨scheduled, queued⟩ | ⟨t, drives⟩
  · exact .inl ⟨status.trans pending, queued⟩
  · exact .inr (.inl ⟨status.trans scheduled, queued⟩)
  · exact .inr (.inr ⟨t, drives.congr status version⟩)

/-- A driver that takes a step stays one, or hands the payment over to a queue. -/
theorem Drives.driven (drives : Drives p row (w.history t)) (found : w.db.payment p = some row)
    (kept : w'.db.payment p = some row') (progress : row'.progress = row.progress)
    (moving : row.status ≠ .failed) (step : Step site jobsGetThrough t w w') : Driven w' p row := by
  simp only [Payment.progress, Progress.mk.injEq] at progress
  cases drives.onward found step with
  | idle own => exact .inr (.inr ⟨t, own ▸ drives⟩)
  | on drives => exact .inr (.inr ⟨t, drives⟩)
  | moved current found' version =>
    rw [kept] at found'
    cases found'
    omega
  | busy token holder ttl choice pending own admitted held =>
    have free := (Bool.and_eq_true_iff.mp admitted).2
    simp only [own, World.payment, found, Option.all_some, decide_eq_true_eq] at free
    have none := free pending
    rw [held] at none
    cases none
  | enqueued choice pending admitted queue =>
    have adds := (Bool.and_eq_true_iff.mp admitted).2
    simp only [World.payment, found, Option.all_some, decide_eq_true_eq] at adds
    refine .inl ⟨pending, ⟨p⟩, ?_, rfl⟩
    rw [queue]
    rcases adds pending with adds | waiting
    · exact JobQueue.add_waiting adds
    · exact JobQueue.waiting_add waiting
  | retryEnqueued attempt delay choice scheduled admitted queue =>
    have adds := (Bool.and_eq_true_iff.mp admitted).2
    simp only [World.payment, found, Option.all_some, decide_eq_true_eq] at adds
    refine .inr (.inl ⟨scheduled, ⟨p, attempt⟩, ?_, rfl⟩)
    rw [queue]
    rcases adds scheduled with adds | waiting | delayed
    · exact .inr (JobQueue.addDelayed_delayed adds)
    · exact .inl (by simpa using waiting)
    · exact .inr (JobQueue.delayed_addDelayed delayed)
  | decided _ _ _ _ _ failed _ _ => exact (moving failed).elim
  | fault w₀ c choice admitted failed =>
    have fault := (Bool.and_eq_true_iff.mp admitted).1
    exact (failed (of_decide_eq_true fault)).elim

/-- Every payment that has to be moved on is driven. -/
structure AllDriven (w : World) : Prop where
  known : w.db.Known
  driven : ∀ p row, w.db.payment p = some row → row.status = .pending ∨ row.status = .retryScheduled →
    Driven w p row

theorem AllDriven.step (all : AllDriven w) (step : Step site jobsGetThrough t w w') : AllDriven w' := by
  refine ⟨step.known all.known, ?_⟩
  intro p row found moving
  cases step.evolved all.known found with
  | kept old found' progress _ =>
    have status : row.status = old.status := congrArg Progress.status progress
    rw [status] at moving
    refine Driven.congr ?_ progress
    rcases all.driven p old found' moving with ⟨pending, queued⟩ | ⟨scheduled, queued⟩ | ⟨u, drives⟩
    · rcases step.processQueued queued pending with queued | drives
      · exact .inl ⟨pending, queued⟩
      · exact .inr (.inr ⟨t, drives⟩)
    · rcases step.retryQueued queued scheduled with queued | drives
      · exact .inr (.inl ⟨scheduled, queued⟩)
      · exact .inr (.inr ⟨t, drives⟩)
    · by_cases own : u = t
      · subst own
        refine drives.driven found' found progress ?_ step
        rintro failed
        rw [failed] at moving
        simp at moving
      · exact .inr (.inr ⟨u, (step.rely own).own ▸ drives⟩)
  | moved old event cause transition reports trace _ =>
    refine .inr (.inr ⟨t, ?_⟩)
    rw [World.history_cons_self trace]
    exact .returned rfl transition.id rfl rfl (moving.imp_right .inl)
  | created event absent id status _ _ _ _ trace _ =>
    refine .inr (.inr ⟨t, ?_⟩)
    rw [World.history_cons_self trace]
    exact .returned rfl id rfl rfl (.inl status)

/-- When every process job finds its lock free and every enqueue adds its job, a payment at rest in
    `PENDING` has a process job waiting and one in `RETRY_SCHEDULED` a retry job in line. -/
theorem queued_payments (reached : Reached site jobsGetThrough pool) (quiet : pool.quiet = true) (p : Uuid)
    (row : Payment) (found : pool.world.payment p = some row) :
    (row.status = .pending → ProcessQueued pool.world p) ∧
      (row.status = .retryScheduled → RetryQueued pool.world p) := by
  have all := invariant_of_steps AllDriven ⟨by simp [Db.Known], by rintro p row ⟨⟩⟩
    (fun _ _ _ all step => all.step step) reached
  have idle : ∀ t, ¬Drives p row (pool.world.history t) :=
    fun t drives => drives.unsettled (quiet_final reached quiet t).1
  refine ⟨fun pending => ?_, fun scheduled => ?_⟩
  · rcases all.driven p row found (.inl pending) with ⟨_, queued⟩ | ⟨other, _⟩ | ⟨t, drives⟩
    · exact queued
    · rw [pending] at other
      cases other
    · exact (idle t drives).elim
  · rcases all.driven p row found (.inr scheduled) with ⟨other, _⟩ | ⟨_, queued⟩ | ⟨t, drives⟩
    · rw [scheduled] at other
      cases other
    · exact queued
    · exact (idle t drives).elim

theorem queued_payments_created : ∃ pool row, Reached sampleSite jobsGetThrough pool ∧
    pool.world.payment (sampleId '0') = some row ∧ row.status = .pending ∧
    ProcessQueued pool.world (sampleId '0') := by
  obtain ⟨pool, reached, shown⟩ := reached_of_run sampleSite jobsGetThrough creation
    (fun pool => pool.quiet &&
      (pool.world.payment (sampleId '0')).any fun row => row.status = .pending) (by decide +kernel)
  obtain ⟨quiet, shown⟩ := Bool.and_eq_true_iff.mp shown
  obtain ⟨row, found, pending⟩ := (Option.any_eq_true _ _).mp shown
  have pending := of_decide_eq_true pending
  exact ⟨pool, row, reached, found, pending, (queued_payments reached quiet _ row found).1 pending⟩

/-- The process job runs while a webhook for the payment holds the lock; the webhook is rejected. -/
theorem queued_payments_stranded : ∃ pool row, Reached sampleSite .free pool ∧ pool.quiet = true ∧
    pool.world.payment (sampleId '0') = some row ∧ row.status = .pending ∧
    ¬ProcessQueued pool.world (sampleId '0') := by
  obtain ⟨pool, reached, shown⟩ := reached_of_run sampleSite .free
    (creation ++ signedWebhook 1 'b' "success" none ++ [.event (.deliverProcess ⟨sampleId '0'⟩)] ++
      acts 2 [{ uuid := sampleId 'a' }, {}, {}, {}] ++ acts 1 [{}, {}, {}, {}])
    (fun pool => pool.quiet && pool.world.processQueue.waiting.isEmpty &&
      (pool.world.payment (sampleId '0')).any fun row => row.status = .pending) (by decide +kernel)
  obtain ⟨rest, shown⟩ := Bool.and_eq_true_iff.mp shown
  obtain ⟨quiet, none⟩ := Bool.and_eq_true_iff.mp rest
  obtain ⟨row, found, pending⟩ := (Option.any_eq_true _ _).mp shown
  refine ⟨pool, row, reached, quiet, found, of_decide_eq_true pending, ?_⟩
  rintro ⟨job, waiting, _⟩
  rw [List.isEmpty_iff.mp none] at waiting
  cases waiting

end PaymentModel
