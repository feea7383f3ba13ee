import PaymentSystem.Proof.Fencing
import PaymentSystem.Properties.ChargesAfterSuccess

namespace PaymentModel

open Async

/-- The payment is committed as `CANCELLED`. -/
def Obs.cancels (p : Uuid) : Obs → Bool
  | .committed ⟨some row, _, _⟩ => row.id = p ∧ row.status = .cancelled
  | _ => false

/-- The statuses of a payment that has once been committed as `CANCELLED`. -/
def Dropped (status : PaymentStatus) : Prop := status = .cancelled ∨ status = .permanentlyFailed

/-- Thread `t` has called the gateway for payment `p` and waits for its answer. -/
def Flying (p : Uuid) (trace : List (Nat × Obs)) (t : Nat) : Prop := ∃ h, historyOf trace t = .gatewayCalled p :: h

/-- A payment with a gateway call in flight is in `PROCESSING`, so it is not cancelled then, and no
    call begins after that. -/
structure CancelsFinal (site : Deployment) (p : Uuid) (w : World) : Prop where
  calls : CallsBefore site p w
  flying : ∀ t h, w.history t = .gatewayCalled p :: h → (∃ processing, Entered p processing h) ∧
    ∃ row, w.db.payment p = some row ∧ row.status = .processing
  dropped : ∀ t o, (t, o) ∈ w.trace → o.cancels p = true → ∃ row, w.db.payment p = some row ∧ Dropped row.status
  idle : Throughout (fun older entry => entry.2.cancels p = true → ∀ u, ¬Flying p older u) w.trace
  last : Throughout (fun older entry => entry.2.calls p = true → ∀ other ∈ older, other.2.cancels p = false) w.trace

variable {site : Deployment} {R : Condition} {t u : Nat} {w w' : World} {db : Db} {p : Uuid} {o : Obs}
  {old row : Payment} {event : PaymentEvent} {pool next : Pool calls JsError World}
  {before after newer older between : List (Nat × Obs)} {choice : Choice} {commit : Commit}

theorem CancelsFinal.initial (p : Uuid) : CancelsFinal site p {} where
  calls := .initial p
  flying := by
    intro t h is
    cases is
  dropped := by simp
  idle := throughout_nil _
  last := throughout_nil _

/-- Only `cancelPayment` commits `CANCELLED`, and not from `PROCESSING`. -/
theorem Cause.cancelling (cause : Cause site w t p old event) (cancelled : event.toStatus = .cancelled) :
    old.status ≠ .processing := by
  cases cause with
  | cancel _ _ _ valid =>
    intro status
    rw [status] at valid
    cases valid
  | enter _ _ _ _ is | succeed _ _ _ _ is | fail _ _ _ _ _ is | giveUp _ _ _ _ _ _ is
  | permanentlyFail _ _ _ _ is | schedule _ _ _ _ _ _ _ is | retry _ _ _ _ is => cases is.toStatus.symm.trans cancelled
  | settle _ _ _ _ _ is =>
    rw [is.toStatus] at cancelled
    rcases webhookTarget_settles _ with target | target <;> cases target.symm.trans cancelled

theorem Obs.returned_of_cancels (cancels : o.cancels p = true) :
    ∃ commit row, o = .committed commit ∧ commit.row = some row ∧ row.id = p ∧ row.status = .cancelled := by
  unfold Obs.cancels at cancels
  split at cancels
  · exact ⟨_, _, rfl, rfl, of_decide_eq_true cancels⟩
  · cases cancels

theorem Transacted.cancels (committed : Transacted site w t db row) (status : row.status = .cancelled) :
    ∃ old, w.db.payment row.id = some old ∧ old.status ≠ .processing := by
  cases committed with
  | created _ _ creation _ => cases creation.status.symm.trans status
  | moved cause _ transition _ =>
    rw [transition.id]
    exact ⟨_, transition.found, cause.cancelling (transition.status.symm.trans status)⟩

/-- A commit of a cancellation finds the payment not `PROCESSING` and leaves it `CANCELLED`. -/
theorem Step.cancels (step : Step site R t w w') (trace : w'.trace = (t, o) :: w.trace) (cancels : o.cancels p = true) :
    (∃ old, w.db.payment p = some old ∧ old.status ≠ .processing) ∧
      ∃ row, w'.db.payment p = some row ∧ row.status = .cancelled := by
  obtain ⟨commit, row, rfl, returned, rfl, status⟩ := Obs.returned_of_cancels cancels
  have committed := step.returns trace returned
  exact ⟨committed.cancels status, row, (committed.payment _).trans (if_pos rfl), status⟩

theorem CancelsFinal.fly (final : CancelsFinal site p w) (step : Step site R t w w') {h : List Obs}
    (calling : w'.history u = .gatewayCalled p :: h) : (∃ processing, Entered p processing h) ∧
      ∃ row, w'.db.payment p = some row ∧ row.status = .processing := by
  rcases step.history u with same | ⟨o, rfl, trace, grown⟩
  · rw [same] at calling
    obtain ⟨⟨processing, entered⟩, attending⟩ := final.flying u h calling
    refine ⟨⟨processing, entered⟩, ?_⟩
    obtain ⟨token, holds⟩ := entered.holds
    have inside := holds.cons (by simp : Obs.gatewayCalled p ≠ .unlocked (paymentLockKey p) token)
    rw [← calling] at inside
    refine final.calls.locking.keeps_processing final.calls.lasts.known step final.calls.spelled inside ?_ attending
    intro commit trace
    rw [World.history_cons_self trace] at same
    exact List.cons_ne_self _ _ same
  · rw [grown] at calling
    cases calling
    obtain ⟨processing, entered⟩ := step.called trace (decide_eq_true rfl : (Obs.gatewayCalled p).calls p = true)
    obtain ⟨token, holds⟩ := entered.holds
    refine ⟨⟨processing, entered⟩, final.calls.locking.keeps_processing final.calls.lasts.known step
      final.calls.spelled holds ?_ (final.calls.attending u processing entered)⟩
    intro commit committed
    cases trace.symm.trans committed

theorem CancelsFinal.step (final : CancelsFinal site p w) (last : LocksLast R) (stored : StoredSpelling site R)
    (step : Step site R t w w') : CancelsFinal site p w' := by
  refine ⟨final.calls.step last stored step, fun u h => final.fly step, ?_, ?_, ?_⟩
  · refine step.lasts final.calls.lasts.known (fun _ _ cause => cause.closed (.inr rfl)) ?_ final.dropped
    intro o trace cancels
    obtain ⟨row, found, status⟩ := (step.cancels trace cancels).2
    exact ⟨row, found, .inl status⟩
  · refine final.idle.step step ?_
    rintro o trace cancels u ⟨h, calling⟩
    obtain ⟨⟨old, found, idle⟩, _⟩ := step.cancels trace cancels
    obtain ⟨_, row, found', status⟩ := final.flying u h calling
    rw [found] at found'
    cases found'
    exact idle status
  · refine final.last.step step ?_
    intro o trace calling other member
    by_contra cancels
    rw [Bool.not_eq_false] at cancels
    obtain ⟨row, found, dropped⟩ := final.dropped _ _ member cancels
    obtain ⟨processing, entered⟩ := step.called trace calling
    obtain ⟨row', found', status⟩ := final.calls.attending t processing entered
    rw [found] at found'
    cases found'
    rw [status] at dropped
    rcases dropped with is | is <;> cases is

/-- `cancelPayment` has read the row that it is to cancel. -/
abbrev CancelRead (p : Uuid) (row : Payment) (h : List Obs) : Prop :=
  ∃ spelled, h = [.read .cancelPayment (some row), .cancelling spelled] ∧ Uuid.parse spelled = some p

theorem CancelRead.issued {body : Tx Payment} (own : CancelRead p row (w.history t))
    (issued : Issued site t w (.transaction body)) :
    Seen w.db p row ∧ ∃ data spelled, body = transitionStateInTx p row.status .cancelled row.version data spelled := by
  obtain ⟨spelled, own, reads⟩ := own
  cases issued with
  | cancel own' reads' seen =>
    rw [own] at own'
    simp only [List.cons.injEq, Obs.read.injEq, Obs.cancelling.injEq, Option.some.injEq, true_and, and_true] at own'
    obtain ⟨rfl, rfl⟩ := own'
    cases reads.symm.trans reads'
    exact ⟨seen, _, _, rfl⟩
  | create own' | enter own' | giveUp own' | permanentlyFail own' | schedule own' | retry own' | settle own' =>
    rw [own] at own'
    cases own'
  | succeed recorded | fail recorded =>
    rw [own] at recorded
    cases recorded

/-- Of the calls of a thread that cancels, only the transaction is about payments. -/
theorem CancelRead.payments {c : Call} {outcome : Except JsError c.Answer} (own : CancelRead p row (w.history t))
    (issued : Issued site t w c) (performed : perform t c choice w = some (outcome, w'))
    (other : ∀ body, c ≠ .transaction body) : w'.db.payments = w.db.payments := by
  obtain ⟨spelled, own, _⟩ := own
  cases c with
  | transaction body => exact (other body rfl).elim
  | statement body =>
    rcases World.database_effect (Option.some.inj performed) with ⟨_, ran⟩ | ⟨same, _⟩
    · cases issued with
      | recordWebhook =>
        obtain ⟨_, _, _, _, same⟩ := createWebhookEvent_ok ran
        rw [same]
      | storeKey => exact (idempotencyKeyCreate_ok ran).payments
      | completeKey => exact (idempotencyKeyUpdateMany_ok ran).payments
      | reference recorded =>
        rw [own] at recorded
        cases recorded
      | recordResponse attempted =>
        rw [own] at attempted
        cases attempted
    · rw [same]
  | _ => rw [perform_db performed rfl]

/-- The transaction of a cancellation whose row is stale is rejected as a conflict. -/
theorem CancelRead.conflict {body : Tx Payment} {outcome : Except JsError Payment}
    (own : CancelRead p row (w.history t)) (issued : Issued site t w (.transaction body))
    (performed : perform t (.transaction body) choice w = some (outcome, w'))
    (stale : row.id = p → ∀ current, w.payment p = some current → current.version ≠ row.version) :
    w'.db = w.db ∧ ∃ e, outcome = .error e ∧
      (choice.fault = .none → ∃ message details, e = conflictError message details) := by
  obtain ⟨seen, data, spelled, rfl⟩ := own.issued issued
  obtain ⟨message, details, failed⟩ := transitionStateInTx_stale (stale seen.id)
  obtain ⟨same, ⟨e, rejected⟩, conflict⟩ := World.database_rejected failed (Option.some.inj performed)
  refine ⟨same, e, rejected, ?_⟩
  intro answers
  have is := rejected.symm.trans (conflict answers)
  exact ⟨message, details, Except.error.inj is⟩

end PaymentModel
