import Mathlib.Data.List.Perm.Subperm
import PaymentSystem.Proof.Evolution

namespace PaymentModel

open Async

/-- The audit event of a `PENDING` to `PROCESSING` transition. -/
def PaymentEvent.entersProcessing (event : PaymentEvent) : Bool :=
  event.fromStatus = some .pending ∧ event.toStatus = .processing

def entered (events : List PaymentEvent) : Nat := events.countP PaymentEvent.entersProcessing

def Obs.calls (p : Uuid) : Obs → Bool
  | .gatewayCalled paymentId => paymentId = p
  | _ => false

def Obs.enters (p : Uuid) : Obs → Bool
  | .committed commit => (transitions p commit.paymentEvents).any PaymentEvent.entersProcessing
  | _ => false

/-- The threads behind the gateway calls for payment `p`, one entry a call. -/
def callers (p : Uuid) (trace : List (Nat × Obs)) : List Nat :=
  (trace.filter fun entry => entry.2.calls p).map Prod.fst

/-- The threads that have committed its `PENDING` to `PROCESSING` transitions. -/
def enterers (p : Uuid) (trace : List (Nat × Obs)) : List Nat :=
  (trace.filter fun entry => entry.2.enters p).map Prod.fst

/-- A payment that waits for a run has not used the attempt it was granted. -/
def waiting (status : PaymentStatus) : Nat := if status = .pending ∨ status = .retryScheduled then 1 else 0

structure CallLog (p : Uuid) (w : World) : Prop where
  once : (callers p w.trace).Nodup
  own : ∀ t ∈ callers p w.trace, t ∈ enterers p w.trace
  logged : (enterers p w.trace).length = entered (transitions p w.db.paymentEvents)

variable {site : Deployment} {R : Condition} {t : Nat} {w w' : World} {db : Db} {p : Uuid}
  {old row : Payment} {event : PaymentEvent} {pool : Pool calls JsError World} {o : Obs}
  {trace : List (Nat × Obs)}

/-- What a transition may take from the budget of its payment. -/
theorem Cause.budget (cause : Cause site w t p old event) :
    entered [event] + waiting event.toStatus ≤
      waiting old.status + if event.toStatus = .retryScheduled then 1 else 0 := by
  cases cause with
  | enter _ _ _ status is => simp [entered, PaymentEvent.entersProcessing, waiting, status, is.fromStatus, is.toStatus]
  | succeed _ _ _ _ is | fail _ _ _ _ _ is | giveUp _ _ _ _ _ _ is | cancel _ _ _ _ is | permanentlyFail _ _ _ _ is =>
    simp [entered, PaymentEvent.entersProcessing, waiting, is.toStatus]
  | schedule _ _ _ _ _ _ _ is => simp [entered, PaymentEvent.entersProcessing, waiting, is.toStatus]
  | retry _ _ _ status is => simp [entered, PaymentEvent.entersProcessing, waiting, is.toStatus, status]
  | settle _ _ _ _ _ is =>
    have settles : event.toStatus = .success ∨ event.toStatus = .failed := by
      rw [is.toStatus]
      exact webhookTarget_settles _
    rcases settles with target | target <;>
      simp [entered, PaymentEvent.entersProcessing, waiting, target]

theorem budget_of_evolved (step : Evolved site w t w' p row)
    (before : ∀ old, w.db.payment p = some old →
      entered (transitions p w.db.paymentEvents) + waiting old.status ≤ 1 + old.retryCount) :
    entered (transitions p w'.db.paymentEvents) + waiting row.status ≤ 1 + row.retryCount := by
  cases step with
  | kept old found progress same =>
    simp only [Payment.progress, Progress.mk.injEq] at progress
    rw [same, progress.1, progress.2.2.1]
    exact before _ found
  | moved old event cause transition _ _ grown =>
    have budget := cause.budget
    have held := before _ transition.found
    rw [grown, transition.status, transition.retryCount, entered, List.countP_append]
    simp only [entered] at budget held
    omega
  | created event _ _ status _ retryCount _ is _ single =>
    rw [single, status, retryCount]
    simp [entered, PaymentEvent.entersProcessing, waiting, is.toStatus]

theorem mem_callers : t ∈ callers p trace ↔ (t, .gatewayCalled p) ∈ trace := by
  simp only [callers, List.mem_map, List.mem_filter]
  constructor
  · rintro ⟨⟨u, o⟩, ⟨member, calls⟩, rfl⟩
    cases o <;> simp [Obs.calls] at calls
    rwa [← calls]
  · intro member
    exact ⟨_, ⟨member, by simp [Obs.calls]⟩, rfl⟩

theorem callers_other (other : o.calls p = false) (t : Nat) (trace : List (Nat × Obs)) :
    callers p ((t, o) :: trace) = callers p trace := by
  simp [callers, other]

theorem enterers_other (other : o.enters p = false) (t : Nat) (trace : List (Nat × Obs)) :
    enterers p ((t, o) :: trace) = enterers p trace := by
  simp [enterers, other]

theorem Obs.enters_plain (plain : ∀ commit, o ≠ .committed commit) (p : Uuid) : o.enters p = false := by
  cases o with
  | committed commit => exact (plain commit rfl).elim
  | _ => rfl

/-- Only a worker that has just moved the payment to `PROCESSING` calls the gateway. -/
theorem Step.calls (step : Step site R t w w') (p : Uuid) :
    callers p w'.trace = callers p w.trace ∨
      (w' = w.log t (.gatewayCalled p) ∧ ∃ processing, Entered p processing (w.history t)) := by
  cases step with
  | note issued _ noted =>
    cases noted with
    | called =>
      rename_i request _
      by_cases same : request.paymentId = p
      · subst same
        cases issued with
        | send entered => exact .inr ⟨rfl, _, entered⟩
      · exact .inl (callers_other (by simp [Obs.calls, same]) _ _)
    | _ => exact .inl (callers_other rfl _ _)
  | arrive _ _ arrives => cases arrives <;> exact .inl (callers_other rfl _ _)
  | fault | transaction | statement | lock | enqueue | enqueueRetry | claim | deliverProcess | deliverRetry =>
    exact .inl (callers_other rfl _ _)
  | orphan | unlock | expireLock | processFinished | retryFinished | store | expireRecord | stallProcess
  | stallRetry | elapse => exact .inl rfl

theorem Step.called (step : Step site R t w w') (trace : w'.trace = (t, o) :: w.trace) (calls : o.calls p = true) :
    ∃ processing, Entered p processing (w.history t) := by
  rcases step.calls p with same | ⟨_, entered⟩
  · have grown : callers p w'.trace = t :: callers p w.trace := by simp [trace, callers, calls]
    rw [grown] at same
    exact (List.cons_ne_self _ _ same).elim
  · exact entered

theorem Entered.enters {processing : Payment} {h : List Obs} (entered : Entered p processing h) :
    ∃ o rest, h = o :: rest ∧ o.enters p = true := by
  cases entered with
  | intro _ _ _ events paymentId is =>
    refine ⟨_, _, rfl, ?_⟩
    simp [Obs.enters, events, transitions, PaymentEvent.isTransition, PaymentEvent.entersProcessing, paymentId,
      is.fromStatus, is.toStatus, is.eventType]

theorem Entered.not_called {processing : Payment} {h : List Obs} (entered : Entered p processing h) (q : Uuid) :
    Obs.gatewayCalled q ∉ h := by
  obtain ⟨⟨token, rfl⟩⟩ := entered
  simp

theorem CallLog.called (log : CallLog p w) {processing : Payment}
    (entered : Entered p processing (w.history t)) : CallLog p (w.log t (.gatewayCalled p)) := by
  have grown : callers p ((t, .gatewayCalled p) :: w.trace) = t :: callers p w.trace := by
    simp [callers, Obs.calls]
  have first : t ∉ callers p w.trace := fun member =>
    entered.not_called p (World.mem_history.mpr (mem_callers.mp member))
  obtain ⟨o, rest, own, enters⟩ := entered.enters
  have committed : o ∈ w.history t := own ▸ List.mem_cons_self ..
  refine ⟨?_, ?_, log.logged⟩
  · rw [World.trace_log, grown]
    exact List.nodup_cons.mpr ⟨first, log.once⟩
  · intro u member
    rw [World.trace_log, grown] at member
    rw [World.trace_log, enterers_other rfl]
    rcases List.mem_cons.mp member with rfl | before
    · exact List.mem_map.mpr ⟨_, List.mem_filter.mpr ⟨World.mem_history.mp committed, enters⟩, rfl⟩
    · exact log.own u before

theorem CallLog.committed {commit : Commit} (log : CallLog p w)
    (trace : w'.trace = (t, .committed commit) :: w.trace)
    (logged : w'.db.paymentEvents = w.db.paymentEvents ++ commit.paymentEvents)
    (single : (transitions p commit.paymentEvents).length ≤ 1) : CallLog p w' := by
  have callers_same : callers p w'.trace = callers p w.trace := by rw [trace, callers_other rfl]
  have count : entered (transitions p w'.db.paymentEvents) =
      entered (transitions p w.db.paymentEvents) + entered (transitions p commit.paymentEvents) := by
    rw [logged, transitions_append, entered, List.countP_append]
    rfl
  by_cases enters : (transitions p commit.paymentEvents).any PaymentEvent.entersProcessing = true
  · have grown : enterers p w'.trace = t :: enterers p w.trace := by
      simp [trace, enterers, Obs.enters, enters]
    have positive : 0 < entered (transitions p commit.paymentEvents) :=
      List.countP_pos_iff.mpr (List.any_eq_true.mp enters)
    have atMost : entered (transitions p commit.paymentEvents) ≤ 1 :=
      Nat.le_trans List.countP_le_length single
    refine ⟨by rw [callers_same]; exact log.once, ?_, ?_⟩
    · intro u member
      rw [callers_same] at member
      rw [grown]
      exact List.mem_cons_of_mem _ (log.own u member)
    · rw [grown, List.length_cons, log.logged, count]
      omega
  · have none : entered (transitions p commit.paymentEvents) = 0 := by
      simpa [entered, List.countP_eq_zero] using enters
    have same : enterers p w'.trace = enterers p w.trace := by
      rw [trace, enterers_other (by simpa [Obs.enters] using enters)]
    refine ⟨by rw [callers_same]; exact log.once, by rw [callers_same, same]; exact log.own, ?_⟩
    rw [same, log.logged, count, none, Nat.add_zero]

theorem CallLog.step (log : CallLog p w) (step : Step site R t w w') : CallLog p w' := by
  rcases step.calls p with same | ⟨rfl, processing, entered⟩
  · rcases step.db with ⟨db, silent⟩ | ⟨row, trace, committed⟩ | ⟨trace, stated⟩
    · have enterers_same : enterers p w'.trace = enterers p w.trace := by
        rcases silent with trace | ⟨o, trace, plain⟩
        · rw [trace]
        · rw [trace, enterers_other (Obs.enters_plain plain p)]
      obtain ⟨once, own, logged⟩ := log
      exact ⟨by rwa [same], by rwa [same, enterers_same], by rwa [enterers_same, db]⟩
    · refine log.committed trace committed.logged ?_
      rw [committed.transitions]
      split <;> decide
    · refine log.committed trace stated.logged ?_
      rw [stated.transitions]
      decide
  · exact log.called entered

/-- Every gateway call of a payment has a `PENDING` to `PROCESSING` transition of its own, committed by
    the calling thread, and there are at most as many of those as attempts have been granted. -/
theorem gateway_calls_bounded (reached : Reached site R pool) (p : Uuid) :
    (callers p pool.world.trace).Nodup ∧
      (∀ t ∈ callers p pool.world.trace, t ∈ enterers p pool.world.trace) ∧
      (callers p pool.world.trace).length ≤ entered (transitions p pool.world.db.paymentEvents) ∧
      ∀ row, pool.world.payment p = some row →
        entered (transitions p pool.world.db.paymentEvents) ≤ 1 + row.retryCount := by
  obtain ⟨once, own, logged⟩ := invariant_of_steps (CallLog p)
    ⟨List.nodup_nil, by simp [callers], rfl⟩ (fun _ _ _ log step => log.step step) reached
  refine ⟨once, own, ?_, ?_⟩
  · rw [← logged]
    exact (List.subperm_of_subset once own).length_le
  · intro row found
    have budget := invariant_of_evolution
      (fun _ row events => entered events + waiting row.status ≤ 1 + row.retryCount)
      (fun before evolved => budget_of_evolved evolved before) reached found
    exact Nat.le_trans (Nat.le_add_right _ _) budget

theorem gateway_calls_bounded_approved : ∃ pool, Reached sampleSite .free pool ∧
    callers (sampleId '0') pool.world.trace = [1] ∧
    (callers (sampleId '0') pool.world.trace).length ≤
      entered (transitions (sampleId '0') pool.world.db.paymentEvents) := by
  obtain ⟨pool, reached, shown⟩ := reached_of_run sampleSite .free (creation ++ attempt 1 'a' approved)
    (fun pool => callers (sampleId '0') pool.world.trace = [1]) (by decide +kernel)
  exact ⟨pool, reached, of_decide_eq_true shown, (gateway_calls_bounded reached _).2.2.1⟩

end PaymentModel
