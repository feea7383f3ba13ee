import PaymentSystem.Proof.Orders

namespace PaymentModel

open Async

/-- Somebody has reported on an attempt at payment `p`: the circuit breaker refused it, the gateway answered
    it for good, or a signed webhook was stored as processed. -/
inductive Reported (accepts : WebhookEvent → Prop) (w : World) (p : Uuid) (success : Bool) : Prop
  | refused {t : Nat} (noted : (t, .breakerOpen p) ∈ w.trace) (failed : success = false)
  | answered {t : Nat} {outcome : GatewayOutcome} (noted : (t, .gatewayAnswered p outcome) ∈ w.trace)
    (is : outcome.result.success = success) (final : success = false → outcome.result.pendingWebhook = false)
  | webhook {event : WebhookEvent} (stored : event ∈ w.db.webhookEvents.rows) (about : event.paymentId = p)
    (processed : event.status = .processed) (accepted : accepts event)
    (is : event.payload.fieldIs "status" "success" = success)

/-- The statuses of a failed attempt and of what comes after it. -/
def failureStatuses : List PaymentStatus := [.failed, .retryScheduled, .permanentlyFailed]

/-- The status that a payment has come to was reported or asked for. -/
structure Accounted (accepts : WebhookEvent → Prop) (w : World) (p : Uuid) (status : PaymentStatus) : Prop where
  success : status = .success → Reported accepts w p true
  failure : status ∈ failureStatuses → Reported accepts w p false
  cancelled : status = .cancelled → ∃ t spelled, Uuid.parse spelled = some p ∧ (t, .cancelling spelled) ∈ w.trace

variable {accepts : WebhookEvent → Prop} {site : Deployment} {R : Condition} {t : Nat} {w w' : World} {p : Uuid}
  {success : Bool} {status : PaymentStatus} {row old updated processing : Payment} {event : PaymentEvent}
  {result : GatewayResult} {db : Db} {now : Nat} {body : Tx Payment} {pool : Pool calls JsError World}

theorem Reported.later (reported : Reported accepts w p success) (grown : w.trace <:+ w'.trace)
    (kept : ∀ event ∈ w.db.webhookEvents.rows, event ∈ w'.db.webhookEvents.rows) : Reported accepts w' p success := by
  cases reported with
  | refused noted failed => exact .refused (grown.subset noted) failed
  | answered noted is final => exact .answered (grown.subset noted) is final
  | webhook stored about processed accepted is => exact .webhook (kept _ stored) about processed accepted is

theorem Accounted.later (accounted : Accounted accepts w p status) (grown : w.trace <:+ w'.trace)
    (kept : ∀ event ∈ w.db.webhookEvents.rows, event ∈ w'.db.webhookEvents.rows) : Accounted accepts w' p status where
  success is := (accounted.success is).later grown kept
  failure is := (accounted.failure is).later grown kept
  cancelled is := by
    obtain ⟨t, spelled, reads, noted⟩ := accounted.cancelled is
    exact ⟨t, spelled, reads, grown.subset noted⟩

theorem Attempted.reported {h : List Obs} (attempted : Attempted p processing result h) (own : h <:+ w.history t)
    (is : result.success = success) (final : success = false → result.pendingWebhook = false) :
    Reported accepts w p success := by
  cases attempted with
  | refused entered => exact .refused (World.mem_history.mp (own.subset (List.mem_cons_self ..))) is.symm
  | answered entered => exact .answered (World.mem_history.mp (own.subset (List.mem_cons_self ..))) is final

theorem Recorded.reported {h : List Obs} (recorded : Recorded p processing result h) (own : h <:+ w.history t)
    (is : result.success = success) (final : success = false → result.pendingWebhook = false) :
    Reported accepts w p success := by
  obtain ⟨attempted, _⟩ := recorded
  exact attempted.reported ((List.suffix_cons _ _).trans own) is final

theorem Reported.accepted (reported : Reported (fun _ => True) w p success)
    (all : ∀ event ∈ w.db.webhookEvents.rows, accepts event) : Reported accepts w p success := by
  cases reported with
  | refused noted failed => exact .refused noted failed
  | answered noted is final => exact .answered noted is final
  | webhook stored about processed _ is => exact .webhook stored about processed (all _ stored) is

theorem Accounted.other (success : status ≠ .success) (failure : status ∉ failureStatuses)
    (cancelled : status ≠ .cancelled) : Accounted accepts w p status :=
  ⟨fun is => (success is).elim, fun is => (failure is).elim, fun is => (cancelled is).elim⟩

theorem Accounted.of_failure (reported : Reported accepts w p false) (failure : status ∈ failureStatuses) :
    Accounted accepts w p status := by
  refine ⟨?_, fun _ => reported, ?_⟩
  · rintro rfl
    exact absurd failure (by decide)
  · rintro rfl
    exact absurd failure (by decide)

theorem Accounted.of_success (reported : Reported accepts w p true) : Accounted accepts w p .success :=
  ⟨fun _ => reported, fun failure => absurd failure (by decide), nofun⟩

/-- A settled payment has its webhook stored, with the payload that the handler was given. -/
theorem Issued.settled {key token : String} {id : Uuid} {signature : String} {payload : Json} {found : Option Payment}
    (issued : Issued site t w (.transaction body)) (ran : body now w.db = .ok (updated, db))
    (own : w.history t = [.read .processWebhook found, .locked key token, .uuid id,
      .webhook payload (some signature)]) :
    ∃ event ∈ db.webhookEvents.rows, event.paymentId = updated.id ∧ event.status = .processed ∧
      event.payload = payload := by
  cases issued with
  | settle own' names =>
    rw [own] at own'
    cases own'
    obtain ⟨_, _, _, moved, _⟩ := processWebhookInTx_ok names ran
    obtain ⟨_, _, _, _, reported⟩ := processWebhookInTx_ran.mp ran
    obtain ⟨paymentId, names', _, inserted, rfl⟩ := createWebhookEvent_ok reported
    rw [names] at names'
    cases names'
    have rows := (Table.insert_some inserted).2
    exact ⟨_, rows ▸ List.mem_append_right _ (List.mem_singleton_self _), moved.id.symm, rfl, rfl⟩
  | succeed recorded | fail recorded =>
    rw [own] at recorded
    cases recorded
  | create own' | enter own' | giveUp own' | cancel own' | permanentlyFail own' | schedule own' | retry own' =>
    rw [own] at own'
    cases own'

/-- Every payment is accounted for. -/
def AllAccounted (w : World) : Prop :=
  ∀ p row, w.payment p = some row → Accounted (fun _ => True) w p row.status

theorem Cause.accounted (cause : Cause site w t p old event)
    (before : Accounted accepts w p old.status) (settled : ∀ (token : Uuid) signature payload found,
      w.history t = [.read .processWebhook found, .locked (webhookLockKey payload) token, .uuid token,
        .webhook payload (some signature)] → Reported accepts w' p (payload.fieldIs "status" "success"))
    (grown : w.trace <:+ w'.trace) (kept : ∀ event ∈ w.db.webhookEvents.rows, event ∈ w'.db.webhookEvents.rows) :
    Accounted accepts w' p event.toStatus := by
  have failed : old.status = .failed → event.toStatus ∈ failureStatuses → Accounted accepts w' p event.toStatus :=
    fun status failure => .of_failure ((before.failure (by rw [status]; decide)).later grown kept) failure
  cases cause with
  | enter _ _ _ _ is | retry _ _ _ _ is =>
    rw [is.toStatus]
    exact .other (by decide) (by decide) (by decide)
  | succeed recorded successful _ _ is =>
    have reported : Reported accepts w p true := recorded.reported List.suffix_rfl successful nofun
    rw [is.toStatus]
    exact .of_success (reported.later grown kept)
  | fail recorded unsuccessful final _ _ is =>
    have reported : Reported accepts w p false := recorded.reported List.suffix_rfl unsuccessful fun _ => final
    rw [is.toStatus]
    exact .of_failure (reported.later grown kept) (by decide)
  | giveUp own rejected _ _ _ _ is =>
    obtain ⟨recorded, unsuccessful, final⟩ := rejected
    have reported : Reported accepts w p false :=
      recorded.reported (own ▸ (List.suffix_cons _ _).trans (List.suffix_cons _ _)) unsuccessful fun _ => final
    rw [is.toStatus]
    exact .of_failure (reported.later grown kept) (by decide)
  | cancel own reads _ _ is =>
    rw [is.toStatus]
    refine ⟨nofun, fun failure => absurd failure (by decide), fun _ => ⟨t, _, reads, grown.subset ?_⟩⟩
    exact World.mem_history.mp (by rw [own]; simp)
  | permanentlyFail _ _ status _ is =>
    exact failed status (by rw [is.toStatus]; decide)
  | schedule _ _ _ _ _ status _ is =>
    exact failed status (by rw [is.toStatus]; decide)
  | settle own _ _ _ _ is _ =>
    have reported := settled _ _ _ _ own
    rw [is.toStatus, webhookTarget]
    split
    · rename_i success
      rw [success] at reported
      exact .of_success reported
    · rename_i failure
      rw [Bool.eq_false_iff.mpr failure] at reported
      exact .of_failure reported (by decide)

theorem AllAccounted.step (all : AllAccounted w) (step : Step site R t w w') : AllAccounted w' := by
  intro p row found
  have kept : ∀ event ∈ w.db.webhookEvents.rows, event ∈ w'.db.webhookEvents.rows := by
    obtain ⟨received, rows, _⟩ := step.retains.webhookEvents
    intro event member
    rw [rows]
    exact List.mem_append_left _ member
  rcases step.wrote with ⟨same, _⟩ | ⟨body, now, changed, _, issued, ran⟩ | ⟨_, _, _, issued, ran⟩
  · rw [World.payment, same] at found
    exact (all p row found).later step.grows kept
  · have committed := transacted issued ran
    rw [World.payment, committed.payment] at found
    split at found
    · rename_i same
      subst same
      cases found
      cases committed with
      | created _ _ creation _ =>
        rw [creation.status]
        exact .other (by decide) (by decide) (by decide)
      | moved cause _ transition _ =>
        have id := transition.id
        rw [transition.status, id]
        refine cause.accounted (all _ _ transition.found) ?_ step.grows kept
        intro token signature payload found own
        obtain ⟨event, stored, about, processed, is⟩ := issued.settled ran own
        exact .webhook stored (about.trans id) processed trivial (by rw [is])
    · exact (all p row found).later step.grows kept
  · obtain ⟨old, present, progress⟩ := (stated issued ran).payment found
    have status : row.status = old.status := congrArg Progress.status progress
    rw [status]
    exact (all p old present).later step.grows kept

/-- No payment comes to an end that nobody reported or asked for: one in `SUCCESS` has a successful answer of
    the gateway or a signed webhook behind it, one that has failed a refusal, a failure or another signed
    webhook, and one in `CANCELLED` a request to cancel it. -/
theorem outcomes_accounted (reached : Reached site R pool) (found : pool.world.payment p = some row) :
    Accounted (WebhookEvent.Authentic site) pool.world p row.status := by
  have all := invariant_of_steps AllAccounted (by rintro p row ⟨⟩) (fun _ _ _ all step => all.step step) reached
  obtain ⟨received, rows, accepted⟩ := ((ledger site).reached (ledger_starts site) reached).webhookEvents
  have signed : ∀ event ∈ pool.world.db.webhookEvents.rows, event.Authentic site := by
    intro event member
    rw [rows] at member
    exact accepted event member
  obtain ⟨success, failure, cancelled⟩ := all p row found
  exact ⟨fun is => (success is).accepted signed, fun is => (failure is).accepted signed, cancelled⟩

theorem outcomes_accounted_settled : ∃ (pool : Pool calls JsError World) (row : Payment),
    Reached sampleSite .free pool ∧ pool.world.payment (sampleId '0') = some row ∧ row.status = .success ∧
    Reported (WebhookEvent.Authentic sampleSite) pool.world (sampleId '0') true := by
  obtain ⟨pool, reached, shown⟩ := reached_of_run sampleSite .free
    (creation ++ attempt 1 'a' approved ++ acts 1 [{}, {}, {}])
    (fun pool => (pool.world.payment (sampleId '0')).any fun row => row.status = .success) (by decide +kernel)
  obtain ⟨row, found, success⟩ := (Option.any_eq_true _ _).mp shown
  have success : row.status = .success := of_decide_eq_true success
  exact ⟨pool, row, reached, found, success, (outcomes_accounted reached found).success success⟩

end PaymentModel
