import PaymentSystem.Proof.Drivers

namespace PaymentModel

open Async

/-- What a read of a payment finds fits what its thread has done: the second read of
    `handlePaymentResult` finds the thread's own failure and gives it up, or finds one of another
    thread and leaves it alone, `scheduleRetry` finds the failure that `handleFailedProcessing` has
    decided about, and no webhook is about to fail the payment. -/
def fits : ReadSite → List Obs → Payment → Bool
  | .retryDecision errorCode, .committed ⟨some failed, _, _⟩ :: _, row =>
    row.status = .failed → (givesUp errorCode row ↔ row.version = failed.version)
  | .scheduleRetry _, .read .handleFailedProcessing (some first) :: _, row =>
    row.status = .failed → row.version = first.version
  | .processWebhook, [.locked _ _, .uuid _, .webhook payload _], row =>
    row.status = .processing → webhookTarget payload ≠ .failed
  | _, _, _ => true

/-- No call fails and every read of a payment fits. -/
def failuresMoveOn : Condition where
  call t w c choice := decide (choice.fault = .none) &&
    match c with
    | .paymentFindUnique place p => (w.payment p).all (fits place (w.history t))
    | _ => true
  event _ _ := true

/-- What the reads have found under that condition. -/
def Fits (older : List (Nat × Obs)) (entry : Nat × Obs) : Prop :=
  ∀ place row, entry.2 = .read place (some row) → fits place (historyOf older entry.1) row = true

/-- A commit of a payment that is committed as `FAILED` schedules its retry when there is one left
    for its error, and gives it up otherwise. -/
def MovesOn (older : List (Nat × Obs)) (_ : Nat) (commit : Commit) : Prop :=
  ∀ row failed, commit.row = some row → committedRow row.id older = some failed → failed.status = .failed →
    row.status = if retries failed then .retryScheduled else .permanentlyFailed

variable {site : Deployment} {t : Nat} {w w' : World} {db : Db} {p : Uuid}
  {old row : Payment} {event : PaymentEvent} {errorCode : Option String} {failed : Payment} {h : List Obs}
  {pool : Pool calls JsError World}

theorem Failed.head (rejected : Failed p errorCode failed h) :
    ∃ paymentEvents webhookEvents rest, h = .committed ⟨some failed, paymentEvents, webhookEvents⟩ :: rest := by
  obtain ⟨_, _, _, _, returned⟩ := rejected
  rw [← returned]
  exact ⟨_, _, _, rfl⟩

theorem Failed.fits (rejected : Failed p errorCode failed h) (status : row.status = .failed)
    (found : fits (.retryDecision errorCode) h row = true) :
    givesUp errorCode row = true ↔ row.version = failed.version := by
  obtain ⟨_, _, _, rfl⟩ := rejected.head
  exact of_decide_eq_true found status

theorem fits_of_step (fit : Throughout Fits w.trace) (step : Step site failuresMoveOn t w w') :
    Throughout Fits w'.trace := by
  refine fit.step step ?_
  rintro _ trace place row ⟨⟩
  obtain ⟨p, choice, found, admitted⟩ := step.read trace
  have fitting := (Bool.and_eq_true_iff.mp admitted).2
  simp only [← found, Option.all_some] at fitting
  exact fitting

/-- A payment in `FAILED` is moved on by the decision about its own failure. -/
theorem Cause.movesOn (cause : Cause site w t p old event) (fit : Throughout Fits w.trace)
    (failed : old.status = .failed) :
    event.toStatus = if retries old then .retryScheduled else .permanentlyFailed := by
  cases cause with
  | enter _ _ _ status | succeed _ _ _ status | fail _ _ _ _ status | retry _ _ _ status
  | settle _ _ _ status =>
    rw [failed] at status
    cases status
  | giveUp own rejected exhausted _ status decided is =>
    obtain ⟨older, rest, found⟩ := fit.of_head own
    have fitting := found _ _ rfl
    rw [rest] at fitting
    have same := (rejected.fits (status.symm.trans failed) fitting).mp exhausted
    rw [decided same]
    exact is.toStatus
  | cancel _ _ _ valid _ =>
    rw [failed] at valid
    cases valid
  | permanentlyFail _ _ _ decided is =>
    rw [decided]
    exact is.toStatus
  | schedule own _ status _ _ _ decided is _ =>
    obtain ⟨older, rest, found⟩ := fit.of_head own
    have fitting := found _ _ rfl
    rw [rest] at fitting
    rw [decided (of_decide_eq_true fitting status)]
    exact is.toStatus

/-- Only the worker of the attempt moves a payment to `FAILED`. -/
theorem Cause.plain (cause : Cause site w t p old event) (fit : Throughout Fits w.trace)
    (fails : event.toStatus = .failed) : event.eventType ≠ .webhookReceived := by
  cases cause with
  | enter _ _ _ _ is | succeed _ _ _ _ is | fail _ _ _ _ _ is | giveUp _ _ _ _ _ _ is | cancel _ _ _ _ is
  | permanentlyFail _ _ _ _ is | schedule _ _ _ _ _ _ _ is | retry _ _ _ _ is =>
    rw [is.eventType]
    decide
  | settle own _ _ _ found is =>
    obtain ⟨older, rest, fitting⟩ := fit.of_head own
    have fitting := fitting _ _ rfl
    rw [rest] at fitting
    exact (of_decide_eq_true fitting found (is.toStatus.symm.trans fails)).elim

/-- Every payment in `FAILED` has a thread that is about to move it on. -/
structure FailuresDriven (w : World) : Prop where
  known : w.db.Known
  current : Current w
  fit : Throughout Fits w.trace
  moved : EveryCommit MovesOn w.trace
  driven : ∀ p row, w.db.payment p = some row → row.status = .failed → ∃ t, Drives p row (w.history t)

theorem Transacted.movesOn (committed : Transacted site w t db row) (current : Current w)
    (fit : Throughout Fits w.trace) : MovesOn w.trace t (w.added (some row) db) := by
  rintro _ failed ⟨⟩ before status
  have progress := current row.id
  rw [before] at progress
  cases committed with
  | created _ _ creation _ =>
    rw [creation.rowId, creation.absent] at progress
    cases progress
  | moved cause _ transition _ =>
    rw [transition.id, transition.found] at progress
    simp only [Option.map_some, Option.some.injEq, Payment.progress, Progress.mk.injEq] at progress
    obtain ⟨same, _, retryCount, maxRetries, errorCode⟩ := progress
    rw [transition.status, cause.movesOn fit (same.symm.trans status)]
    simp only [retries, canRetry, retryCount, maxRetries, errorCode]
    rfl

theorem Drives.failing (drives : Drives p old (w.history t)) (found : w.db.payment p = some old)
    (kept : w'.db.payment p = some row) (progress : row.progress = old.progress)
    (failed : old.status = .failed) (step : Step site failuresMoveOn t w w') : Drives p old (w'.history t) := by
  simp only [Payment.progress, Progress.mk.injEq] at progress
  cases drives.onward found step with
  | idle own => exact own ▸ drives
  | on drives => exact drives
  | moved current found' version =>
    rw [kept] at found'
    cases found'
    omega
  | busy _ _ _ _ pending | enqueued _ pending =>
    rw [failed] at pending
    cases pending
  | retryEnqueued _ _ _ scheduled =>
    rw [failed] at scheduled
    cases scheduled
  | decided errorCode _ choice own version _ admitted read =>
    have fitting := (Bool.and_eq_true_iff.mp admitted).2
    simp only [World.payment, found, Option.all_some] at fitting
    rw [read]
    exact .giveUp ((own.fits failed fitting).mpr version.symm) (payment_id found) rfl
  | fault w₀ c choice admitted fails =>
    have fault := (Bool.and_eq_true_iff.mp admitted).1
    exact (fails (of_decide_eq_true fault)).elim

theorem FailuresDriven.step (all : FailuresDriven w) (step : Step site failuresMoveOn t w w') :
    FailuresDriven w' := by
  refine ⟨step.known all.known, step.current all.current, fits_of_step all.fit step, ?_, ?_⟩
  · exact all.moved.step step (fun _ committed => committed.movesOn all.current all.fit)
      (fun _ row failed none => by cases none)
  · intro p row found failed
    cases step.evolved all.known found with
    | kept old found' progress _ =>
      have status : row.status = old.status := congrArg Progress.status progress
      have version : row.version = old.version := congrArg Progress.version progress
      rw [status] at failed
      obtain ⟨u, drives⟩ := all.driven p old found' failed
      by_cases own : u = t
      · subst own
        exact ⟨u, (drives.failing found' found progress failed step).congr status version⟩
      · exact ⟨u, (step.rely own).own ▸ drives.congr status version⟩
    | moved old event cause transition reports trace _ =>
      refine ⟨t, ?_⟩
      rw [World.history_cons_self trace]
      have plain := cause.plain all.fit (transition.status.symm.trans failed)
      exact .returned rfl transition.id rfl rfl (.inr (.inr ⟨failed, reports.added plain⟩))
    | created _ _ _ status =>
      rw [failed] at status
      cases status

/-- When every handler gives its own failures up and no webhook fails a payment, no payment rests in
    `FAILED`, and each is moved on as its error and its retry count say. -/
theorem failures_move_on (reached : Reached site failuresMoveOn pool) :
    Current pool.world ∧ EveryCommit MovesOn pool.world.trace ∧ (pool.quiet = true →
      ∀ p row, pool.world.payment p = some row → row.status ≠ .failed) := by
  have all := invariant_of_steps FailuresDriven
    ⟨by simp [Db.Known], fun _ => rfl, throughout_nil _, throughout_nil _, by rintro p row ⟨⟩⟩
    (fun _ _ _ all step => all.step step) reached
  refine ⟨all.current, all.moved, fun quiet p row found failed => ?_⟩
  obtain ⟨t, drives⟩ := all.driven p row found failed
  exact drives.unsettled (quiet_final reached quiet t).1

theorem failures_move_on_declined : ∃ pool, Reached sampleSite failuresMoveOn pool ∧
    ((pool.world.payment (sampleId '0')).any fun row => row.status = .permanentlyFailed) = true ∧
    EveryCommit MovesOn pool.world.trace ∧
    ∀ p row, pool.world.payment p = some row → row.status ≠ .failed := by
  obtain ⟨pool, reached, shown⟩ := reached_of_run sampleSite failuresMoveOn
    (creation ++ attempt 1 'a' declined ++ acts 1 [{}, {}, {}, {}, {}, {}])
    (fun pool => pool.quiet && (pool.world.payment (sampleId '0')).any fun row => row.status = .permanentlyFailed)
    (by decide +kernel)
  obtain ⟨quiet, shown⟩ := Bool.and_eq_true_iff.mp shown
  exact ⟨pool, reached, shown, (failures_move_on reached).2.1, (failures_move_on reached).2.2 quiet⟩

/-- The gateway cannot be reached: the error is retryable, `handlePaymentResult` leaves the payment in
    `FAILED` and returns, and nothing schedules the retry. -/
theorem failures_rest : ∃ pool row, Reached sampleSite .free pool ∧ pool.quiet = true ∧
    pool.world.payment (sampleId '0') = some row ∧ row.status = .failed ∧ retries row = true := by
  obtain ⟨pool, reached, shown⟩ := reached_of_run sampleSite .free
    (creation ++ attempt 1 'a' unreachable ++ acts 1 [{}, {}, {}, {}, {}])
    (fun pool => pool.quiet && (pool.world.payment (sampleId '0')).any fun row =>
      row.status = .failed ∧ retries row = true) (by decide +kernel)
  obtain ⟨quiet, shown⟩ := Bool.and_eq_true_iff.mp shown
  obtain ⟨row, found, rests⟩ := (Option.any_eq_true _ _).mp shown
  obtain ⟨failed, retryable⟩ := of_decide_eq_true rests
  exact ⟨pool, row, reached, quiet, found, failed, retryable⟩

end PaymentModel
