import PaymentSystem.Proof.Evolution

namespace PaymentModel

open Async

def EventData.attempt : EventData → Option Nat
  | .retry attempt _ _ => some attempt
  | _ => none

/-- The attempt numbers of the `RETRY_SCHEDULED` events, oldest first. -/
def attempts (events : List PaymentEvent) : List (Option Nat) :=
  (events.filter fun event => event.toStatus = .retryScheduled).map fun event => event.eventData.attempt

/-- A payment within its budget, with the attempts numbered from one to its retry count. -/
structure Budgeted (row : Payment) (events : List PaymentEvent) : Prop where
  limit : row.retryCount ≤ row.maxRetries
  numbered : attempts events = (List.range row.retryCount).map fun n => some (n + 1)

/-- A commit that schedules a retry records the retry count it wrote. -/
def RecordsAttempt (_ : List (Nat × Obs)) (_ : Nat) (commit : Commit) : Prop :=
  ∀ row, commit.row = some row → row.status = .retryScheduled →
    attempts commit.paymentEvents = [some row.retryCount]

/-- A retry job carries the retry count of the commit its thread has just made. -/
def EnqueuesAttempt (older : List (Nat × Obs)) (entry : Nat × Obs) : Prop :=
  ∀ job, entry.2 = .retryEnqueued job → ∃ commit row h, historyOf older entry.1 = .committed commit :: h ∧
    commit.row = some row ∧ row.id = job.paymentId ∧ row.status = .retryScheduled ∧ row.retryCount = job.attempt

/-- Whenever the read of `scheduleRetry` finds the payment `FAILED`, its retry count is still the one
    that `handleFailedProcessing` has read. -/
def schedulesCurrent : Condition where
  call _ w c _ :=
    match c with
    | .paymentFindUnique (.scheduleRetry currentAttempt) p =>
      (w.payment p).all fun row => row.status = .failed → row.retryCount = currentAttempt
    | _ => true
  event _ _ := true

def ReadsCurrent (w : World) : Prop :=
  ∀ t currentAttempt row, (t, Obs.read (.scheduleRetry currentAttempt) (some row)) ∈ w.trace →
    row.status = .failed → row.retryCount = currentAttempt

variable {site : Deployment} {R : Condition} {t : Nat} {w w' : World} {db : Db} {p : Uuid}
  {old row : Payment} {event : PaymentEvent} {pool : Pool calls JsError World}

theorem ReadsCurrent.step (reads : ReadsCurrent w) (step : Step site schedulesCurrent t w w') :
    ReadsCurrent w' := by
  intro u currentAttempt row member failed
  rcases step.reads member with before | ⟨p, choice, found, admitted⟩
  · exact reads u currentAttempt row before failed
  · simp only [schedulesCurrent, ← found, Option.all_some, decide_eq_true_eq] at admitted
    exact admitted failed

/-- A retry is scheduled within the budget, and under the number it gives the payment. -/
theorem Cause.scheduled (cause : Cause site w t p old event) (reads : ReadsCurrent w)
    (scheduled : event.toStatus = .retryScheduled) :
    old.retryCount < old.maxRetries ∧ event.eventData.attempt = some (old.retryCount + 1) := by
  cases cause with
  | schedule own left failed version count status _ is data =>
    have current := reads t _ _ (World.mem_history.mp (own ▸ List.mem_cons_self ..)) failed
    rw [count, current, data]
    exact ⟨left, rfl⟩
  | enter _ _ _ _ is | succeed _ _ _ _ is | fail _ _ _ _ _ is | giveUp _ _ _ _ _ _ is | cancel _ _ _ _ is
  | permanentlyFail _ _ _ _ is | retry _ _ _ _ is =>
    rw [is.toStatus] at scheduled
    cases scheduled
  | settle _ _ _ _ _ is => exact (webhookTarget_ne (is.toStatus ▸ scheduled)).elim

theorem attempts_append (events added : List PaymentEvent) :
    attempts (events ++ added) = attempts events ++ attempts added := by
  simp [attempts]

theorem attempt_of_attempts {n : Nat} (numbered : attempts [event] = [some n]) :
    event.eventData.attempt = some n := by
  by_cases scheduled : event.toStatus = .retryScheduled
  · simpa [attempts, scheduled] using numbered
  · simp [attempts, scheduled] at numbered

theorem budgeted_of_evolved (reads : ReadsCurrent w) (step : Evolved site w t w' p row)
    (before : ∀ old, w.db.payment p = some old → Budgeted old (transitions p w.db.paymentEvents)) :
    Budgeted row (transitions p w'.db.paymentEvents) := by
  cases step with
  | kept old found progress same =>
    simp only [Payment.progress, Progress.mk.injEq] at progress
    obtain ⟨-, -, retryCount, maxRetries, -⟩ := progress
    obtain ⟨limit, numbered⟩ := before _ found
    rw [same]
    exact ⟨by rw [retryCount, maxRetries]; exact limit, by rw [retryCount]; exact numbered⟩
  | moved old event cause transition _ _ grown =>
    obtain ⟨limit, numbered⟩ := before _ transition.found
    have retryCount := transition.retryCount
    rw [grown]
    by_cases scheduled : event.toStatus = .retryScheduled
    · obtain ⟨left, attempt⟩ := cause.scheduled reads scheduled
      rw [if_pos scheduled] at retryCount
      have added : attempts [event] = [some (old.retryCount + 1)] := by simp [attempts, scheduled, attempt]
      refine ⟨?_, ?_⟩
      · rw [retryCount, transition.maxRetries]
        exact left
      · rw [attempts_append, numbered, added, retryCount, List.range_succ]
        simp
    · rw [if_neg scheduled, Nat.add_zero] at retryCount
      have added : attempts [event] = [] := by simp [attempts, scheduled]
      refine ⟨?_, ?_⟩
      · rw [retryCount, transition.maxRetries]
        exact limit
      · rw [attempts_append, numbered, added, retryCount, List.append_nil]
  | created event _ _ status _ retryCount _ is _ single =>
    rw [single]
    exact ⟨by rw [retryCount]; exact Nat.zero_le _, by simp [attempts, is.toStatus, retryCount]⟩

theorem Transacted.recordsAttempt (committed : Transacted site w t db row) (reads : ReadsCurrent w) :
    RecordsAttempt w.trace t (w.added (some row) db) := by
  rintro _ ⟨⟩ scheduled
  cases committed with
  | created _ _ creation _ =>
    rw [creation.status] at scheduled
    cases scheduled
  | moved cause _ transition _ =>
    rw [transition.status] at scheduled
    have attempt := (cause.scheduled reads scheduled).2
    have retryCount := transition.retryCount
    rw [if_pos scheduled] at retryCount
    simp [transition.added, attempts, scheduled, attempt, retryCount]

theorem Step.retryEnqueued (step : Step site R t w w') {job : RetryJob}
    (trace : w'.trace = (t, .retryEnqueued job) :: w.trace) :
    ∃ delay, Issued site t w (.retryQueueAdd job delay) := by
  cases step.adds trace with
  | enqueueRetry issued => exact ⟨_, issued⟩
  | note _ _ noted => cases noted
  | arrive arrives => cases arrives

theorem Step.enqueuesAttempt (step : Step site R t w w') (records : EveryCommit RecordsAttempt w.trace)
    (before : Throughout EnqueuesAttempt w.trace) : Throughout EnqueuesAttempt w'.trace := by
  refine before.step step ?_
  rintro _ trace job ⟨⟩
  obtain ⟨delay, issued⟩ := step.retryEnqueued trace
  cases issued with
  | enqueueRetry own returned scheduled id events data =>
    refine ⟨_, _, _, own, returned, id, scheduled, ?_⟩
    have committed := World.mem_history.mp (own ▸ List.mem_cons_self ..)
    obtain ⟨older, recorded⟩ := records.of_mem committed
    have recorded := recorded _ rfl _ returned scheduled
    rw [events] at recorded
    have attempt := attempt_of_attempts recorded
    rw [data] at attempt
    exact (Option.some.inj attempt).symm

structure WithinBudget (w : World) : Prop where
  known : w.db.Known
  reads : ReadsCurrent w
  recorded : EveryCommit RecordsAttempt w.trace
  enqueued : Throughout EnqueuesAttempt w.trace
  budgeted : ∀ p row, w.db.payment p = some row → Budgeted row (transitions p w.db.paymentEvents)

theorem WithinBudget.step (within : WithinBudget w) (step : Step site schedulesCurrent t w w') :
    WithinBudget w' where
  known := step.known within.known
  reads := within.reads.step step
  recorded := within.recorded.step step (fun _ committed => committed.recordsAttempt within.reads)
    (fun _ row none => by cases none)
  enqueued := step.enqueuesAttempt within.recorded within.enqueued
  budgeted p _ found := budgeted_of_evolved within.reads (step.evolved within.known found) (within.budgeted p)

/-- When `scheduleRetry` finds the retry count that `handleFailedProcessing` has read, no payment
    exceeds its budget and its attempts are numbered one by one, in the audit log and in the jobs. -/
theorem retries_within_budget (reached : Reached site schedulesCurrent pool) :
    (∀ p row, pool.world.payment p = some row → Budgeted row (transitions p pool.world.db.paymentEvents)) ∧
      EveryCommit RecordsAttempt pool.world.trace ∧ Throughout EnqueuesAttempt pool.world.trace := by
  have within := invariant_of_steps WithinBudget
    ⟨by simp [Db.Known], by simp [ReadsCurrent], throughout_nil _, throughout_nil _, by rintro p row ⟨⟩⟩
    (fun _ _ _ within step => within.step step) reached
  exact ⟨within.budgeted, within.recorded, within.enqueued⟩

theorem retries_within_budget_scheduled : ∃ pool row, Reached sampleSite schedulesCurrent pool ∧
    pool.world.payment (sampleId '0') = some row ∧ row.status = .retryScheduled ∧
    Budgeted row (transitions (sampleId '0') pool.world.db.paymentEvents) := by
  obtain ⟨pool, reached, shown⟩ := reached_of_run sampleSite schedulesCurrent retryScheduling
    (fun pool => (pool.world.payment (sampleId '0')).any fun row => row.status = .retryScheduled)
    (by decide +kernel)
  obtain ⟨row, found, scheduled⟩ := (Option.any_eq_true _ _).mp shown
  exact ⟨pool, row, reached, found, of_decide_eq_true scheduled, (retries_within_budget reached).1 _ row found⟩

/-- Thread 2 has read a retry count of 0, then thread 3 schedules the only retry, it fails too, and
    thread 2 schedules another one under the same number. -/
theorem retries_exceed_budget : ∃ pool row, Reached sampleSite .free pool ∧
    pool.world.payment (sampleId '0') = some row ∧ row.maxRetries < row.retryCount ∧
    attempts (transitions (sampleId '0') pool.world.db.paymentEvents) = [some 1, some 1] := by
  obtain ⟨pool, reached, shown⟩ := reached_of_run sampleSite .free
    (creation ++ attempt 1 'a' unreachable ++ acts 1 [{}, {}, {}] ++ redelivery 1 ++
      acts 2 [{ uuid := sampleId 'b' }, {}, {}] ++ redelivery 2 ++
      acts 3 [{ uuid := sampleId 'c' }, {}, {}, {}, {}, {}, {}, {}] ++
      [.event (.retryDelayElapsed ⟨sampleId '0', 1⟩), .event (.deliverRetry ⟨sampleId '0', 1⟩)] ++
      acts 4 [{}, {}, {}, {}] ++ acts 1 [{}] ++ [.event (.stallProcess ⟨sampleId '0'⟩ 3)] ++
      attempt 5 'e' unreachable ++ acts 5 [{}, {}] ++ acts 2 [{}, {}, {}, {}])
    (fun pool => (pool.world.payment (sampleId '0')).any fun row => row.maxRetries < row.retryCount ∧
      attempts (transitions (sampleId '0') pool.world.db.paymentEvents) = [some 1, some 1])
    (by decide +kernel)
  obtain ⟨row, found, exceeds⟩ := (Option.any_eq_true _ _).mp shown
  obtain ⟨beyond, reused⟩ := of_decide_eq_true exceeds
  exact ⟨pool, row, reached, found, beyond, reused⟩

end PaymentModel
