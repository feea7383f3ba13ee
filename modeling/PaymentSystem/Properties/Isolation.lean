import PaymentSystem.Proof.Subjects

namespace PaymentModel

open Async

/-- The payment that a note of what has started a thread names. -/
def Obs.subject : Obs → Option Uuid
  | .processing job => some job.paymentId
  | .retrying job => some job.paymentId
  | .cancelling spelled => Uuid.parse spelled
  | .webhook payload _ => Uuid.parse (Json.template (payload.field "paymentId"))
  | _ => none

/-- The thread was started for the payment: by a job of it, a request to cancel it, or a webhook that names it, in
    whatever spelling of its id. -/
def Names (p : Uuid) (h : List Obs) : Prop := WorksOn p h ∨ AskedFor p h

/-- The calls that alter no payment but the named ones, and take no other lock. -/
def Alters (named : Uuid → Prop) : Call → Prop
  | .transaction body => body.Keeps (Db.Spares named)
  | .statement body => body.Keeps (Db.Spares named)
  | .lockSet key .. | .lockRelease key _ => ∀ q : Uuid, key = paymentLockKey q → named q
  | _ => True

variable {site : Deployment} {R : Condition} {t : Nat} {w w' : World} {c : Call} {choice : Choice}
  {named worker client : Uuid → Prop} {p q : Uuid} {key : String} {h : List Obs} {pool next : Pool calls JsError World}
  {outcome : Except JsError c.Answer}

theorem Minds.alters (minds : Minds worker client c) : Alters (fun q => worker q ∨ client q) c := by
  cases c with
  | transaction | statement | lockSet | lockRelease => exact minds
  | _ => trivial

/-- What a call may do that is made without being awaited. -/
theorem alters_lone (issued : Issued site t w c) (fresh : w.history t = []) : Alters (fun _ => False) c := by
  cases issued with
  | lockSet own | create own | giveUp own | cancel own | permanentlyFail own | schedule own | retry own | settle own
  | enter own => cases own.symm.trans fresh
  | lockRelease held =>
    rw [fresh] at held
    cases held
  | succeed recorded | fail recorded | reference recorded =>
    rw [fresh] at recorded
    cases recorded
  | recordResponse attempted =>
    rw [fresh] at attempted
    cases attempted
  | recordWebhook => exact spares_createWebhookEvent
  | storeKey => exact spares_idempotencyKeyCreate
  | completeKey => exact spares_idempotencyKeyUpdateMany
  | _ => trivial

theorem perform_spares (alters : Alters named c) (performed : perform t c choice w = some (outcome, w')) :
    w.db.Spares named w'.db := by
  have same : w'.db = w.db → w.db.Spares named w'.db := by
    intro same
    rw [same]
    exact .of_payments rfl rfl
  cases c with
  | transaction body | statement body =>
    rcases World.database_effect (Option.some.inj performed) with ⟨value, ran⟩ | ⟨kept, _⟩
    · exact alters _ _ _ _ ran
    · exact same kept
  | _ => exact same (perform_db performed rfl)

theorem perform_locks (alters : Alters named c) (performed : perform t c choice w = some (outcome, w'))
    (other : ¬named q) : w'.locks (paymentLockKey q) = w.locks (paymentLockKey q) := by
  have foreign : ∀ {key}, (∀ q : Uuid, key = paymentLockKey q → named q) → paymentLockKey q ≠ key :=
    fun alters same => other (alters q same.symm)
  let lock (w : World) : Option String := w.locks (paymentLockKey q)
  change lock w' = lock w
  have logs : ∀ (w : World) (o : Obs), lock (w.log t o) = lock w := fun _ _ => rfl
  cases c with
  | lockSet key token ttl =>
    simp only [perform] at performed
    split at performed
    · exact World.remote_frame (Option.some.inj performed) lock logs rfl
    · exact World.remote_frame (Option.some.inj performed) lock logs (Function.update_of_ne (foreign alters) _ _)
  | lockRelease key token =>
    simp only [perform] at performed
    rw [← logs w (.unlocked key token)]
    split at performed
    · exact World.remote_frame (Option.some.inj performed) lock logs (Function.update_of_ne (foreign alters) _ _)
    · exact World.remote_frame (Option.some.inj performed) lock logs rfl
  | transaction body | statement body =>
    rcases World.database_cases (Option.some.inj performed) with ⟨_, db, _, h⟩ | ⟨_, _, h⟩
    · exact World.remote_frame h lock logs rfl
    · exact World.remote_frame h lock logs rfl
  | processQueueAdd | retryQueueAdd | processJobFinished | retryJobFinished | recordSet | paymentFindUnique
  | webhookEventFindUnique | recordGet => exact World.remote_frame (Option.some.inj performed) lock logs rfl
  | recordSetNx =>
    simp only [perform] at performed
    split at performed <;> exact World.remote_frame (Option.some.inj performed) lock logs rfl
  | generateId | mathRandom =>
    simp only [perform] at performed
    split at performed <;> cases performed
    rfl
  | dateNow | gatewaySend | next | respond =>
    cases performed
    rfl
  | breakerAdmits =>
    cases performed
    split <;> rfl
  | gatewayReceive =>
    simp only [perform] at performed
    split at performed <;> cases performed <;> rfl

/-- A thread has been started by at most one note. -/
def StartedOnce (w : World) : Prop := ∀ t, ((w.history t).filter Obs.starts).length ≤ 1

/-- What starts a thread is the first that it notes. -/
theorem Step.started (step : Step site R t w w') {o : Obs} (trace : w'.trace = (t, o) :: w.trace)
    (starts : o.starts = true) : w.history t = [] := by
  cases step with
  | arrive new | deliverProcess new | deliverRetry new => exact new
  | note issued admitted noted =>
    cases trace
    cases noted <;> cases starts
  | fault | transaction | statement | lock | enqueue | enqueueRetry | claim =>
    cases trace
    cases starts
  | orphan | unlock | expireLock | processFinished | retryFinished | store | expireRecord | stallProcess
  | stallRetry | elapse => exact (List.cons_ne_self _ _ trace.symm).elim

theorem StartedOnce.step (once : StartedOnce w) (step : Step site R t w w') : StartedOnce w' := by
  intro u
  rcases step.history u with same | ⟨o, rfl, trace, grown⟩
  · rw [same]
    exact once u
  · rw [grown]
    cases starts : o.starts with
    | true =>
      rw [step.started trace starts]
      simp [starts]
    | false =>
      rw [List.filter_cons_of_neg (by simp [starts])]
      exact once u

theorem Obs.starts_of_subject {o : Obs} (subject : o.subject = some p) : o.starts = true := by
  cases o with
  | processing | retrying | cancelling | webhook => rfl
  | _ => cases subject

theorem names_iff : Names p h ↔ ∃ o ∈ h, o.subject = some p := by
  constructor
  · rintro ((works | ⟨attempt, works⟩) | ⟨spelled, cancels, reads⟩ | ⟨payload, signature, posted, reads⟩)
    · exact ⟨_, works, rfl⟩
    · exact ⟨_, works, rfl⟩
    · exact ⟨_, cancels, reads⟩
    · exact ⟨_, posted, reads⟩
  · rintro ⟨o, member, subject⟩
    cases o with
    | processing job =>
      cases subject
      exact .inl (.inl member)
    | retrying job =>
      cases subject
      exact .inl (.inr ⟨_, member⟩)
    | cancelling spelled => exact .inr (.inl ⟨_, member, subject⟩)
    | webhook payload signature => exact .inr (.inr ⟨_, _, member, subject⟩)
    | _ => cases subject

theorem named_once (once : (h.filter Obs.starts).length ≤ 1) (first : Names p h) (second : Names q h) : q = p := by
  obtain ⟨o, member, subject⟩ := names_iff.mp first
  obtain ⟨o', member', subject'⟩ := names_iff.mp second
  have same : o' = o := by
    have first := List.mem_filter.mpr ⟨member, Obs.starts_of_subject subject⟩
    have second := List.mem_filter.mpr ⟨member', Obs.starts_of_subject subject'⟩
    match filtered : h.filter Obs.starts with
    | [] =>
      rw [filtered] at first
      cases first
    | [only] =>
      rw [filtered, List.mem_singleton] at first second
      rw [first, second]
    | _ :: _ :: _ =>
      rw [filtered] at once
      simp at once
  subst same
  exact Option.some.inj (subject'.symm.trans subject)

/-- Threads keep apart: each is started for one payment at most, and whatever it does next leaves the rows and the
    audit events of all others that are stored as they are, and their locks. -/
theorem threads_keep_apart (reached : Reached site R pool)
    (stepped : (system site).step pool (.act t choice) = some next) :
    (∀ p q, Names p (pool.world.history t) → Names q (pool.world.history t) → q = p) ∧
      ∀ q, ¬Names q (pool.world.history t) →
        next.world.locks (paymentLockKey q) = pool.world.locks (paymentLockKey q) ∧
        ((pool.world.payment q).isSome → next.world.payment q = pool.world.payment q ∧
          next.world.db.trail q = pool.world.db.trail q) := by
  have once : StartedOnce pool.world :=
    invariant_of_steps StartedOnce (fun _ => Nat.zero_le _) (fun _ _ _ once step => once.step step) reached
  refine ⟨fun p q => named_once (once t), ?_⟩
  intro q other
  cases Machine.takes_of_step stepped with
  | call running performed =>
    have apart : ∀ {named : Uuid → Prop}, Alters named _ → ¬named q → _ := fun alters other =>
      And.intro (perform_locks alters performed other) fun stored =>
        let spares := perform_spares alters performed
        And.intro (spares.payment q other stored) (spares.trail q other stored)
    cases minded reached t _ running with
    | works begun minds => exact apart minds.1.alters other
    | lone fresh only =>
      cases only
      exact apart (alters_lone (issued_of_running reached running) fresh) id
    | finished ended => cases ended
  | detach _ world _ =>
    rw [world]
    exact ⟨rfl, fun _ => ⟨rfl, rfl⟩⟩

/-- Two payments are created; the worker of the first moves it on, and the second stays. -/
theorem threads_keep_apart_created : ∃ pool next : Pool calls JsError World,
    Reached sampleSite .free pool ∧
      (next.world.payment (sampleId '0')).any (fun row => row.status = .processing) = true ∧
      (pool.world.payment (sampleId '1')).isSome = true ∧
      next.world.payment (sampleId '1') = pool.world.payment (sampleId '1') ∧
      next.world.db.trail (sampleId '1') = pool.world.db.trail (sampleId '1') := by
  let created : List (Label Choice Event) := creation ++
    .event (.post (sampleOrder none)) :: acts 1 [{}, { uuid := sampleId '1' }, {}, {}, {}] ++
    .event (.deliverProcess ⟨sampleId '0'⟩) :: acts 2 [{ uuid := sampleId 'a' }, {}, {}]
  obtain ⟨pool, reached, shown⟩ := reached_of_run sampleSite .free created
    (fun pool => (pool.world.history 2).any (fun o => o.subject = some (sampleId '0')) &&
      ((pool.world.payment (sampleId '1')).isSome &&
        ((system sampleSite).step pool (.act 2 {})).any fun next =>
          (next.world.payment (sampleId '0')).any fun row => row.status = .processing)) (by decide +kernel)
  obtain ⟨names, rest⟩ := Bool.and_eq_true_iff.mp shown
  obtain ⟨stored, moves⟩ := Bool.and_eq_true_iff.mp rest
  obtain ⟨next, stepped, moved⟩ := (Option.any_eq_true _ _).mp moves
  obtain ⟨o, member, subject⟩ := List.any_eq_true.mp names
  have names : Names (sampleId '0') (pool.world.history 2) := names_iff.mpr ⟨o, member, of_decide_eq_true subject⟩
  obtain ⟨one, apart⟩ := threads_keep_apart reached stepped
  have other : ¬Names (sampleId '1') (pool.world.history 2) := fun second =>
    absurd (one _ _ names second) (by decide)
  obtain ⟨row, trail⟩ := (apart _ other).2 stored
  exact ⟨pool, next, reached, moved, stored, row, trail⟩

end PaymentModel
