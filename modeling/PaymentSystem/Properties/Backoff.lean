import Mathlib.Tactic.Linarith
import PaymentSystem.Proof.Runs

namespace PaymentModel

open Async

/-- A call that one `scheduleRetry` may make after its draw: what it commits reports the delay in one event of the
    audit trail, and the retry is enqueued with that delay. -/
def Schedules (paymentId : Uuid) (currentAttempt : Nat) (delayMs : Int) : Call → Prop
  | .transaction body => ∀ now db row db', body now db = .ok (row, db') → ∃ event nextRetryAt,
    db'.paymentEvents = db.paymentEvents ++ [event] ∧ event.paymentId = paymentId ∧
      event.eventType = .retryScheduled ∧ event.eventData = .retry (currentAttempt + 1) delayMs nextRetryAt
  | .retryQueueAdd job delay => job = ⟨paymentId, currentAttempt + 1⟩ ∧ delay = delayMs
  | .mathRandom | .statement _ | .processQueueAdd _ => False
  | _ => True

variable {site : Deployment} {paymentId : Uuid} {attempt later : Nat} {baseDelay maxDelay random random' : Rat}

theorem backoffDelay_bounds (base : 0 < baseDelay) (maxDelay : Rat) (draw : 0 ≤ random ∧ random < 1) (attempt : Nat) :
    min (baseDelay * 2 ^ attempt) maxDelay ≤ backoffDelay attempt baseDelay maxDelay random ∧
      backoffDelay attempt baseDelay maxDelay random ≤ min (baseDelay * (2 ^ attempt + 1)) maxDelay := by
  have least : 0 ≤ random * baseDelay := mul_nonneg draw.1 base.le
  have most : random * baseDelay ≤ baseDelay := mul_le_of_le_one_left base.le draw.2.le
  have sum : baseDelay * (2 ^ attempt + 1) = baseDelay * 2 ^ attempt + baseDelay := by
    rw [mul_add, mul_one]
  constructor
  · exact min_le_min_right maxDelay (by linarith only [least])
  · exact min_le_min_right maxDelay (by linarith only [most, sum])

/-- The jitter of an attempt stays within the first doubling after it. -/
theorem backoffDelay_le (base : 0 < baseDelay) (maxDelay : Rat) (draw : 0 ≤ random ∧ random < 1)
    (draw' : 0 ≤ random' ∧ random' < 1) (earlier : attempt < later) :
    backoffDelay attempt baseDelay maxDelay random ≤ backoffDelay later baseDelay maxDelay random' := by
  have powers : (2 : Rat) ^ attempt + 1 ≤ 2 ^ later := by
    have doubled : (2 : Rat) ^ (attempt + 1) ≤ 2 ^ later := pow_le_pow_right₀ one_le_two earlier
    have one : (1 : Rat) ≤ 2 ^ attempt := one_le_pow₀ one_le_two
    rw [pow_succ] at doubled
    linarith only [doubled, one]
  calc backoffDelay attempt baseDelay maxDelay random
      ≤ min (baseDelay * (2 ^ attempt + 1)) maxDelay := (backoffDelay_bounds base maxDelay draw attempt).2
    _ ≤ min (baseDelay * 2 ^ later) maxDelay := min_le_min_right maxDelay (mul_le_mul_of_nonneg_left powers base.le)
    _ ≤ backoffDelay later baseDelay maxDelay random' := (backoffDelay_bounds base maxDelay draw' later).1

theorem mathRound_mono {x y : Rat} (le : x ≤ y) : mathRound x ≤ mathRound y :=
  Rat.floor_monotone (by linarith only [le])

theorem scheduleRetryInTx_schedules (paymentId : Uuid) (version attempt : Nat) (delayMs nextRetryAt : Int) :
    Schedules paymentId attempt delayMs
      (.transaction (scheduleRetryInTx paymentId version attempt delayMs nextRetryAt)) := by
  intro now db row db' ran
  obtain ⟨old, event, _, moved, kind, data, _⟩ := scheduleRetryInTx_ok ran
  exact ⟨event, nextRetryAt, moved.paymentEvents, moved.paymentId, kind.eventType, data⟩

/-- One draw decides both the delay of the event and that of the job. -/
theorem scheduleRetry_schedules (site : Deployment) (paymentId : Uuid) (attempt : Nat) :
    ∃ next, scheduleRetry site paymentId attempt = .call .mathRandom next ∧
      (∀ e, next (.error e) = .done (.error e)) ∧
      ∀ random, (next (.ok random)).All
        (Schedules paymentId attempt (mathRound (calculateBackoffDelay site attempt random))) := by
  refine ⟨_, rfl, fun _ => rfl, fun random => ?_⟩
  change Program.All _ (ask (.paymentFindUnique (.scheduleRetry attempt) paymentId) >>= _)
  refine .bind (.ask trivial) fun found => ?_
  match found with
  | none => exact .pure ()
  | some payment =>
    simp only
    split
    · exact .pure ()
    · refine .bind (.ask trivial) fun now => .bind (.ask ?_) fun row => .ask ⟨rfl, rfl⟩
      exact scheduleRetryInTx_schedules _ _ _ _ _

/-- Whatever is drawn, the delay is that of the attempt up to one base delay, it grows with the attempts, and so
    does its rounded value, which is both written and enqueued. -/
theorem backoff_grows (base : 0 < baseDelay) (maxDelay : Rat) (draw : 0 ≤ random ∧ random < 1)
    (draw' : 0 ≤ random' ∧ random' < 1) (attempt : Nat) :
    (min (baseDelay * 2 ^ attempt) maxDelay ≤ backoffDelay attempt baseDelay maxDelay random ∧
      backoffDelay attempt baseDelay maxDelay random ≤ min (baseDelay * (2 ^ attempt + 1)) maxDelay) ∧
    (∀ later, attempt < later →
      backoffDelay attempt baseDelay maxDelay random ≤ backoffDelay later baseDelay maxDelay random' ∧
      mathRound (backoffDelay attempt baseDelay maxDelay random) ≤
        mathRound (backoffDelay later baseDelay maxDelay random')) ∧
    ∀ site paymentId, ∃ next, scheduleRetry site paymentId attempt = .call .mathRandom next ∧
      (∀ e, next (.error e) = .done (.error e)) ∧
      ∀ drawn, (next (.ok drawn)).All (Schedules paymentId attempt
        (mathRound (backoffDelay attempt site.retryBaseDelayMs site.retryMaxDelayMs drawn))) := by
  refine ⟨backoffDelay_bounds base maxDelay draw attempt, ?_, fun site paymentId => ?_⟩
  · intro later earlier
    have grows := backoffDelay_le base maxDelay draw draw' earlier
    exact ⟨grows, mathRound_mono grows⟩
  · exact scheduleRetry_schedules site paymentId attempt

/-- The third attempt draws more jitter than the fourth, and waits less. -/
theorem backoff_grows_sample :
    (4000 ≤ backoffDelay 2 1000 60000 (3 / 4) ∧ backoffDelay 2 1000 60000 (3 / 4) ≤ 5000) ∧
    backoffDelay 2 1000 60000 (3 / 4) ≤ backoffDelay 3 1000 60000 (1 / 4) ∧
    mathRound (backoffDelay 2 1000 60000 (3 / 4)) ≤ mathRound (backoffDelay 3 1000 60000 (1 / 4)) := by
  have base : (0 : Rat) < 1000 := by norm_num
  have draw : (0 : Rat) ≤ 3 / 4 ∧ (3 / 4 : Rat) < 1 := by norm_num
  have draw' : (0 : Rat) ≤ 1 / 4 ∧ (1 / 4 : Rat) < 1 := by norm_num
  have least : min ((1000 : Rat) * 2 ^ 2) 60000 = 4000 := by norm_num
  have most : min ((1000 : Rat) * (2 ^ 2 + 1)) 60000 = 5000 := by norm_num
  obtain ⟨bounds, grows, _⟩ := backoff_grows base 60000 draw draw' 2
  rw [least, most] at bounds
  exact ⟨bounds, grows 3 (by decide)⟩

end PaymentModel
