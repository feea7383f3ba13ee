import PaymentSystem.Proof.Locks
import PaymentSystem.Properties.GatewayCalls

namespace PaymentModel

open Async

/-- The payment is committed as `SUCCESS`. -/
def Obs.succeeds (p : Uuid) : Obs → Bool
  | .committed ⟨some row, _, _⟩ => row.id = p ∧ row.status = .success
  | _ => false

/-- The gateway reports that the payment is paid, in its answer or by a webhook it has signed. -/
def Obs.reportsSuccess (site : Deployment) (p : Uuid) : Obs → Bool
  | .gatewayAnswered paymentId (.response value) => paymentId = p ∧ value.success = true
  | .webhook payload (some signature) =>
    (namedPayment payload).toOption = some p ∧ payload.fieldIs "status" "success" ∧
      (match verifyWebhookSignature site (Json.stringify none payload) signature with
      | .ok valid => valid
      | .error _ => false) = true
  | _ => false

/-- The statuses of a payment that has once been committed as `SUCCESS`. -/
def Final (status : PaymentStatus) : Prop := status = .success ∨ status = .permanentlyFailed

/-- No run of a payment begins after its success. -/
structure SuccessLasts (p : Uuid) (w : World) : Prop where
  known : w.db.Known
  final : ∀ t o, (t, o) ∈ w.trace → o.succeeds p = true → ∃ row, w.db.payment p = some row ∧ Final row.status
  last : Throughout (fun older entry => entry.2.enters p = true →
    ∀ other ∈ entry :: older, other.2.succeeds p = false) w.trace

/-- A worker that is about to call the gateway has its payment in `PROCESSING`, and no call begins
    after the success. -/
structure CallsBefore (site : Deployment) (p : Uuid) (w : World) : Prop where
  lasts : SuccessLasts p w
  locking : Locking w
  spelled : ∀ t, Spelled site (w.history t)
  attending : ∀ t processing, Entered p processing (w.history t) →
    ∃ row, w.db.payment p = some row ∧ row.status = .processing
  first : Throughout (fun older entry => entry.2.calls p = true → ∀ other ∈ older, other.2.succeeds p = false) w.trace

variable {site : Deployment} {R : Condition} {t u : Nat} {w w' : World} {db : Db} {p : Uuid} {o : Obs}
  {old row processing : Payment} {event : PaymentEvent} {pool : Pool calls JsError World}
  {trace before after : List (Nat × Obs)}

theorem SuccessLasts.initial (p : Uuid) : SuccessLasts p {} where
  known := by simp [Db.Known]
  final := by simp
  last := throughout_nil _

theorem CallsBefore.initial (p : Uuid) : CallsBefore site p {} where
  lasts := .initial p
  locking := .initial
  spelled := by simp [Spelled, World.history, historyOf]
  attending := by
    intro t processing entered
    obtain ⟨_, holds, _⟩ := entered.holds
    cases holds
  first := throughout_nil _

/-- Only a worker that has found the payment `PENDING` moves it to `PROCESSING`. -/
theorem Cause.entering (cause : Cause site w t p old event) (enters : event.entersProcessing = true) :
    old.status = .pending := by
  obtain ⟨_, toStatus⟩ := of_decide_eq_true enters
  cases cause with
  | enter _ _ _ status => exact status
  | succeed _ _ _ _ is | fail _ _ _ _ _ is | giveUp _ _ _ _ _ _ is | cancel _ _ _ _ is | permanentlyFail _ _ _ _ is
  | schedule _ _ _ _ _ _ _ is | retry _ _ _ _ is =>
    rw [is.toStatus] at toStatus
    cases toStatus
  | settle _ _ _ _ _ is =>
    rw [is.toStatus] at toStatus
    rcases webhookTarget_settles _ with target | target <;> rw [target] at toStatus <;> cases toStatus

/-- A payment that has succeeded or been cancelled can only be given up. -/
theorem Cause.closed {settled : PaymentStatus} (cause : Cause site w t p old event)
    (kind : settled = .success ∨ settled = .cancelled)
    (settles : old.status = settled ∨ old.status = .permanentlyFailed) :
    event.toStatus = settled ∨ event.toStatus = .permanentlyFailed := by
  cases cause with
  | giveUp _ _ _ _ _ _ is =>
    rw [is.toStatus]
    exact .inr rfl
  | cancel _ _ _ valid =>
    rcases kind with rfl | rfl <;> rcases settles with is | is <;> rw [is] at valid <;> cases valid
  | enter _ _ _ status | succeed _ _ _ status | fail _ _ _ _ status | permanentlyFail _ _ status
  | schedule _ _ _ _ _ status | retry _ _ _ status | settle _ _ _ status =>
    rw [status] at settles
    rcases kind with rfl | rfl <;> rcases settles with is | is <;> cases is

theorem Transacted.enters (committed : Transacted site w t db row)
    (enters : (Obs.committed (w.added (some row) db)).enters p = true) :
    (∃ old, w.db.payment p = some old ∧ old.status = .pending) ∧ row.id = p ∧ row.status = .processing := by
  obtain ⟨event, member, enters⟩ := List.any_eq_true.mp enters
  cases committed with
  | created _ _ creation _ =>
    rw [creation.added, creation.transitions] at member
    split at member
    · cases List.mem_singleton.mp member
      simp [PaymentEvent.entersProcessing, creation.move.fromStatus] at enters
    · cases member
  | moved cause _ transition _ =>
    rw [transition.added, transition.transitions] at member
    split at member
    · rename_i same
      cases List.mem_singleton.mp member
      have status := transition.status.trans (of_decide_eq_true enters).2
      exact ⟨⟨_, same ▸ transition.found, cause.entering enters⟩, transition.id.trans same.symm, status⟩
    · cases member

/-- A commit that begins a run finds the payment `PENDING` and leaves it `PROCESSING`. -/
theorem Step.enters (step : Step site R t w w') (trace : w'.trace = (t, o) :: w.trace) (enters : o.enters p = true) :
    (∃ old, w.db.payment p = some old ∧ old.status = .pending) ∧
      ∃ row, w'.db.payment p = some row ∧ row.status = .processing := by
  cases o with
  | committed commit =>
    rcases step.commits trace with ⟨row, rfl, committed⟩ | ⟨rfl, stated⟩
    · obtain ⟨found, id, status⟩ := committed.enters enters
      exact ⟨found, row, (committed.payment p).trans (if_pos id.symm), status⟩
    · simp [Obs.enters, stated.transitions] at enters
  | _ => cases enters

theorem Obs.returned_of_succeeds (succeeds : o.succeeds p = true) :
    ∃ commit row, o = .committed commit ∧ commit.row = some row ∧ row.id = p ∧ row.status = .success := by
  unfold Obs.succeeds at succeeds
  split at succeeds
  · exact ⟨_, _, rfl, rfl, of_decide_eq_true succeeds⟩
  · cases succeeds

theorem Step.succeeds (step : Step site R t w w') (trace : w'.trace = (t, o) :: w.trace)
    (succeeds : o.succeeds p = true) : ∃ row, w'.db.payment p = some row ∧ row.status = .success := by
  obtain ⟨commit, row, rfl, returned, rfl, status⟩ := Obs.returned_of_succeeds succeeds
  have committed := step.returns trace returned
  exact ⟨row, (committed.payment _).trans (if_pos rfl), status⟩

theorem SuccessLasts.step (lasts : SuccessLasts p w) (step : Step site R t w w') : SuccessLasts p w' := by
  refine ⟨step.known lasts.known, ?_, ?_⟩
  · refine step.lasts lasts.known (fun _ _ cause => cause.closed (.inl rfl)) ?_ lasts.final
    intro o trace succeeds
    obtain ⟨row, found, status⟩ := step.succeeds trace succeeds
    exact ⟨row, found, .inl status⟩
  · refine lasts.last.step step ?_
    intro o trace enters other member
    obtain ⟨⟨old, found, pending⟩, row, same, processing⟩ := step.enters trace enters
    by_contra succeeds
    rw [Bool.not_eq_false] at succeeds
    rcases List.mem_cons.mp member with rfl | before
    · obtain ⟨_, found', status⟩ := step.succeeds trace succeeds
      rw [same] at found'
      cases found'
      rw [processing] at status
      cases status
    · obtain ⟨old', found', final⟩ := lasts.final _ _ before succeeds
      rw [found] at found'
      cases found'
      rw [pending] at final
      rcases final with is | is <;> cases is

/-- A payment in `PROCESSING` stays so as long as the thread inside its lock commits nothing. -/
theorem Locking.keeps_processing (locking : Locking w) (known : w.db.Known) (step : Step site R t w w')
    (spelled : ∀ t, Spelled site (w.history t)) {token : String} (holds : Holds (w.history u) (paymentLockKey p) token)
    (plain : ∀ commit, w'.trace ≠ (u, .committed commit) :: w.trace)
    (attending : ∃ row, w.db.payment p = some row ∧ row.status = .processing) :
    ∃ row, w'.db.payment p = some row ∧ row.status = .processing := by
  refine step.stays known (P := fun status => status = .processing) ?_ attending
  intro old event commit cause trace status
  -- only the thread inside the lock could have moved the payment, and it has not
  obtain ⟨token', holds'⟩ := cause.holds (spelled t) status
  obtain rfl := locking.same holds holds'
  exact (plain commit trace).elim

theorem CallsBefore.attend (calls : CallsBefore site p w) (step : Step site R t w w')
    (entered : Entered p processing (w'.history u)) :
    ∃ row, w'.db.payment p = some row ∧ row.status = .processing := by
  rcases step.history u with same | ⟨o, rfl, trace, grown⟩
  · have before := entered
    rw [same] at before
    obtain ⟨token, holds⟩ := before.holds
    refine calls.locking.keeps_processing calls.lasts.known step calls.spelled holds ?_
      (calls.attending u processing before)
    intro commit trace
    rw [World.history_cons_self trace] at same
    exact List.cons_ne_self _ _ same
  · rw [grown] at entered
    obtain ⟨_, _, is, enters⟩ := entered.enters
    cases is
    exact (step.enters trace enters).2

theorem callers_append (p : Uuid) (newer older : List (Nat × Obs)) :
    callers p (newer ++ older) = callers p newer ++ callers p older := by
  simp [callers]

theorem enterers_append (p : Uuid) (newer older : List (Nat × Obs)) :
    enterers p (newer ++ older) = enterers p newer ++ enterers p older := by
  simp [enterers]

theorem mem_enterers : t ∈ enterers p trace ↔ ∃ o, (t, o) ∈ trace ∧ o.enters p = true := by
  simp [enterers]

theorem CallsBefore.step (calls : CallsBefore site p w) (last : LocksLast R) (stored : StoredSpelling site R)
    (step : Step site R t w w') : CallsBefore site p w' := by
  refine ⟨calls.lasts.step step, calls.locking.step last step, Spelled.step calls.spelled stored step,
    fun u processing => calls.attend step, ?_⟩
  refine calls.first.step step ?_
  intro o trace calling other member
  by_contra succeeds
  rw [Bool.not_eq_false] at succeeds
  obtain ⟨row, found, final⟩ := calls.lasts.final _ _ member succeeds
  obtain ⟨processing, entered⟩ := step.called trace calling
  obtain ⟨row', found', status⟩ := calls.attending t processing entered
  rw [found] at found'
  cases found'
  rw [status] at final
  rcases final with is | is <;> cases is

/-- After the success of a payment is committed no run of it begins. The gateway is called for it by
    workers that had begun one before, and by none when no lock expires under its holder and webhooks spell
    payments as the database does. -/
theorem no_charge_after_success (reached : Reached site R pool)
    (split : pool.world.trace = after ++ (u, o) :: before) (succeeds : o.succeeds p = true) :
    enterers p after = [] ∧ (∀ t ∈ callers p after, t ∈ enterers p before) ∧
      (LocksLast R → StoredSpelling site R → callers p after = []) := by
  have lasts := invariant_of_steps (SuccessLasts p) (.initial p) (fun _ _ _ lasts step => lasts.step step) reached
  have log := invariant_of_steps (CallLog p) ⟨List.nodup_nil, by simp [callers], rfl⟩
    (fun _ _ _ log step => log.step step) reached
  have none : enterers p after = [] := by
    rw [List.eq_nil_iff_forall_not_mem]
    intro t member
    obtain ⟨o', member, enters⟩ := mem_enterers.mp member
    obtain ⟨between, last⟩ := (split ▸ lasts.last).of_split member
    rw [last enters (u, o) (by simp)] at succeeds
    cases succeeds
  have plain : o.enters p = false := by
    by_contra enters
    have last := lasts.last after (u, o) before split (by simpa using enters) (u, o) (List.mem_cons_self ..)
    rw [succeeds] at last
    cases last
  refine ⟨none, fun t member => ?_, fun last stored => ?_⟩
  · have entered : t ∈ enterers p pool.world.trace :=
      log.own t (by rw [split, callers_append]; exact List.mem_append_left _ member)
    rwa [split, enterers_append, none, enterers_other plain] at entered
  · have calls := invariant_of_steps (CallsBefore site p) (.initial p)
      (fun _ _ _ calls step => calls.step last stored step) reached
    rw [List.eq_nil_iff_forall_not_mem]
    intro t member
    obtain ⟨between, first⟩ := (split ▸ calls.first).of_split (mem_callers.mp member)
    rw [first (by simp [Obs.calls]) (u, o) (by simp)] at succeeds
    cases succeeds

/-- No lock expires at all. -/
def locksKept : Condition where
  call _ _ _ _ := true
  event _ e :=
    match e with
    | .expireLock _ => false
    | _ => true

/-- And no webhook is delivered. -/
def withoutWebhooks : Condition where
  call _ _ _ _ := true
  event w e :=
    match e with
    | .webhook .. => false
    | _ => locksKept.event w e

theorem withoutWebhooks_last : LocksLast withoutWebhooks := fun w key expires => by cases expires

theorem withoutWebhooks_spelling : StoredSpelling site withoutWebhooks := fun w payload signature comes => by cases comes

/-- The process job of a paid payment is delivered again. -/
theorem no_charge_after_success_approved : ∃ pool after u o before, Reached sampleSite withoutWebhooks pool ∧
    pool.world.trace = after ++ (u, o) :: before ∧ o.succeeds (sampleId '0') = true ∧
    callers (sampleId '0') before = [1] ∧ callers (sampleId '0') after = [] := by
  obtain ⟨pool, reached, shown⟩ := reached_of_run sampleSite withoutWebhooks
    (creation ++ attempt 1 'a' approved ++ acts 1 [{}, {}, {}, {}] ++ redelivery 1 ++
      acts 2 [{ uuid := sampleId 'b' }, {}, {}, {}])
    (fun pool => (pool.world.trace[6]?.any fun entry => entry.2.succeeds (sampleId '0')) &&
      decide (callers (sampleId '0') (pool.world.trace.drop 7) = [1])) (by decide +kernel)
  obtain ⟨marked, called⟩ := Bool.and_eq_true_iff.mp shown
  obtain ⟨⟨u, o⟩, found, succeeds⟩ := (Option.any_eq_true _ _).mp marked
  have last := no_charge_after_success reached (split_at found) succeeds
  exact ⟨pool, _, u, o, _, reached, split_at found, succeeds, of_decide_eq_true called,
    last.2.2 withoutWebhooks_last withoutWebhooks_spelling⟩

/-- In some run the gateway is called for the sample payment after such a note. -/
def CalledAfter (site : Deployment) (R : Condition) (marks : Obs → Bool) : Prop :=
  ∃ pool after entry before, Reached site R pool ∧ pool.world.trace = after ++ entry :: before ∧
    marks entry.2 = true ∧ callers (sampleId '0') after ≠ []

theorem calledAfter_of_run (site : Deployment) (R : Condition) (marks : Obs → Bool)
    (labels : List (Label Choice Event)) (n : Nat)
    (ran : (((system site).run R ⟨{}, []⟩ labels).any fun pool =>
      (pool.world.trace[n]?.any fun entry => marks entry.2) &&
        decide (callers (sampleId '0') (pool.world.trace.take n) ≠ [])) = true) : CalledAfter site R marks := by
  obtain ⟨pool, reached, shown⟩ := reached_of_run site R labels _ ran
  obtain ⟨marked, called⟩ := Bool.and_eq_true_iff.mp shown
  obtain ⟨entry, found, marks⟩ := (Option.any_eq_true _ _).mp marked
  exact ⟨pool, _, entry, _, reached, split_at found, marks, of_decide_eq_true called⟩

/-- A deployment that signs a success of the sample payment with its id in upper case. -/
def upperSuccessSite : Deployment :=
  signing (webhookNaming sampleIdUpper "success" none)
    "9afdf04b5a733d58566ed6937c4f23172fa88b7d36fcb28aff8494d96bb44771" (by decide +kernel)

/-- The webhook of a success comes while the payment waits for its retry and is rejected. And even
    when it is accepted, a worker may be about to call the gateway whose lock has expired, or whose lock
    the webhook has not asked for, since it spells the payment in upper case. -/
theorem charges_after_success_reported :
    CalledAfter sampleSite .free (Obs.reportsSuccess sampleSite (sampleId '0')) ∧
      CalledAfter sampleSite .free (Obs.succeeds (sampleId '0')) ∧
      CalledAfter upperSuccessSite locksKept (Obs.succeeds (sampleId '0')) := by
  refine ⟨?_, ?_, ?_⟩
  · exact calledAfter_of_run _ _ _ (retryScheduling ++ acts 1 [{}] ++ signedWebhook 3 'c' "success" none ++
      acts 3 [{}, {}, {}, {}] ++ retry 4 ++ [.event (.deliverProcess ⟨sampleId '0'⟩)] ++
      acts 5 [{ uuid := sampleId 'e' }, {}, {}, {}, {}, {}]) 16 (by decide +kernel)
  · exact calledAfter_of_run _ _ _ (retryScheduling ++ acts 1 [{}] ++ retry 3 ++
      [.event (.deliverProcess ⟨sampleId '0'⟩)] ++ acts 4 [{ uuid := sampleId 'e' }, {}, {}, {}] ++
      [.event (.expireLock (paymentLockKey (sampleId '0')))] ++ signedWebhook 5 'c' "success" none ++
      acts 5 [{}, {}, {}] ++ acts 4 [{}, {}]) 1 (by decide +kernel)
  · exact calledAfter_of_run _ _ _ (creation ++
      .event (.deliverProcess ⟨sampleId '0'⟩) :: acts 1 [{ uuid := sampleId 'a' }, {}, {}, {}] ++
      signedDelivery upperSuccessSite 2 'b' (webhookNaming sampleIdUpper "success" none) ++ acts 2 [{}, {}, {}] ++
      acts 1 [{}, {}]) 1 (by decide +kernel)

end PaymentModel
