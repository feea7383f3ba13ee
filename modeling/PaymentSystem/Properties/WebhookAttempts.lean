import PaymentSystem.Proof.Fencing
import PaymentSystem.Proof.WebhookWrites

namespace PaymentModel

open Async

/-- A webhook has read the payment that it names, under the lock of the id as it spells it. -/
abbrev WebhookRead (p : Uuid) (row : Payment) (payload : Json) (signature : String) (h : List Obs) : Prop :=
  namedPayment payload = .ok p ∧ ∃ token : Uuid, h = [.read .processWebhook (some row),
    .locked (webhookLockKey payload) token, .uuid token, .webhook payload (some signature)]

variable {site : Deployment} {R : Condition} {t : Nat} {w w' : World} {db : Db} {p : Uuid} {signature eventId : String}
  {payload : Json} {row : Payment} {event : PaymentEvent} {choice : Choice} {pool : Pool calls JsError World}

/-- What the write of a webhook does to the payment: it settles it, or leaves it as it is. -/
theorem webhook_write {outcome : Except JsError Payment} {current : Payment} {at_ : Nat}
    (names : namedPayment payload = .ok p) (found : w.payment p = some current)
    (performed : w.database t choice
      (processWebhookInTx p payload signature eventId row (webhookTarget payload) at_) some = (outcome, w')) :
    (w'.payment p ≠ w.payment p ↔ choice.fault ≠ .before ∧ current.version = row.version ∧
      Storable w.db payload signature eventId at_) ∧
    (w'.payment p ≠ w.payment p → ∃ settled, w'.payment p = some settled ∧ Settles payload current settled) := by
  cases ran : processWebhookInTx p payload signature eventId row (webhookTarget payload) at_ choice.now w.db with
  | error e =>
    obtain ⟨same, _⟩ := World.database_rejected ran performed
    have unchanged : w'.payment p = w.payment p := by rw [World.payment, World.payment, same]
    refine ⟨⟨fun changed => (changed unchanged).elim, ?_⟩, fun changed => (changed unchanged).elim⟩
    rintro ⟨_, version, storable⟩
    obtain ⟨updated, db', taken⟩ := (processWebhookInTx_iff names).mpr ⟨⟨current, found, version⟩, storable⟩
    rw [ran] at taken
    cases taken
  | ok result =>
    obtain ⟨updated, db'⟩ := result
    obtain ⟨_, found', version, settled, settles⟩ := processWebhookInTx_settles names ran
    cases found.symm.trans found'
    have storable := ((processWebhookInTx_iff names).mp ⟨updated, db', ran⟩).2
    have effect := World.database_takes ran performed
    by_cases fault : choice.fault = .before
    · have unchanged : w'.payment p = w.payment p := by rw [World.payment, World.payment, effect, if_pos fault]
      exact ⟨⟨fun changed => (changed unchanged).elim, fun takes => (takes.1 fault).elim⟩,
        fun changed => (changed unchanged).elim⟩
    · have new : w'.payment p = some updated := by
        rw [World.payment, effect, if_neg fault]
        exact settled
      have changed : w'.payment p ≠ w.payment p := by
        intro same
        rw [new, found] at same
        have raised := settles.version
        rw [Option.some.inj same] at raised
        omega
      exact ⟨⟨fun _ => ⟨fault, version, storable⟩, fun _ => changed⟩, fun _ => ⟨updated, new, settles⟩⟩

/-- A webhook's commit is one of a thread that has read the payment under that lock. -/
theorem Transacted.webhookRead (committed : Transacted site w t db row)
    (member : event ∈ (w.added (some row) db).paymentEvents) (kind : event.eventType = .webhookReceived) :
    ∃ old payload signature, WebhookRead row.id old payload signature (w.history t) ∧
      event.Is .processing (webhookTarget payload) .webhookReceived ∧ old.id = row.id := by
  cases committed with
  | created _ _ creation _ =>
    rw [creation.added, List.mem_cons, List.mem_singleton] at member
    rcases member with rfl | rfl
    · cases creation.createdKind.symm.trans kind
    · cases creation.move.eventType.symm.trans kind
  | moved cause held transition _ =>
    rw [transition.added, List.mem_singleton] at member
    subst member
    rw [transition.id]
    cases cause with
    | settle own names _ _ _ is _ =>
      refine ⟨_, _, _, ⟨names, _, own⟩, is, ?_⟩
      rw [own] at held
      by_contra other
      simp [heldVersion, other] at held
    | enter _ _ _ _ is | succeed _ _ _ _ is | fail _ _ _ _ _ is | giveUp _ _ _ _ _ _ is | cancel _ _ _ _ is
    | permanentlyFail _ _ _ _ is | schedule _ _ _ _ _ _ _ is | retry _ _ _ _ is =>
      cases is.eventType.symm.trans kind

theorem webhooks_read (reached : Reached site R pool) : EveryCommit (fun older t commit =>
    ∀ row event, commit.row = some row → event ∈ commit.paymentEvents → event.eventType = .webhookReceived →
      ∃ old payload signature, WebhookRead row.id old payload signature (historyOf older t) ∧
        event.Is .processing (webhookTarget payload) .webhookReceived ∧ old.id = row.id) pool.world.trace := by
  refine invariant_of_steps (fun w => EveryCommit _ w.trace) (throughout_nil _)
    (fun t w w' held step => held.step step ?_ ?_) reached
  · rintro row committed _ event ⟨⟩ member kind
    exact committed.webhookRead member kind
  · rintro _ row event ⟨⟩

/-- What the thread knows of the row that its webhook has read. -/
theorem WebhookRead.seen {body : Tx Payment} (own : WebhookRead p row payload signature (w.history t))
    (issued : Issued site t w (.transaction body)) : Seen w.db p row ∧ row.status = .processing := by
  obtain ⟨names, token, own⟩ := own
  cases issued with
  | settle own' names' valid seen =>
    rw [own] at own'
    simp only [List.cons.injEq, Obs.read.injEq, Option.some.injEq, Obs.webhook.injEq, true_and, and_true] at own'
    obtain ⟨rfl, _, _, rfl, rfl⟩ := own'
    cases names.symm.trans names'
    exact ⟨seen, processing_of_settles valid (webhookTarget_settles _)⟩
  | create own' | enter own' | giveUp own' | cancel own' | permanentlyFail own' | schedule own' | retry own' =>
    rw [own] at own'
    cases own'
  | succeed recorded | fail recorded =>
    rw [own] at recorded
    cases recorded

/-- A webhook settles the payment that it finds in `PROCESSING`, as long as nobody moves it on before
    the write, whichever attempt it reports on: the stored reference does not matter. -/
theorem webhooks_settle_current (reached : Reached site R pool) :
    EveryCommit (fun older t commit => ∀ row event, commit.row = some row → event ∈ commit.paymentEvents →
      event.eventType = .webhookReceived → ∃ old payload signature,
        WebhookRead row.id old payload signature (historyOf older t) ∧
        event.Is .processing (webhookTarget payload) .webhookReceived ∧ ∀ newer before, older =
          newer ++ (t, .read .processWebhook (some old)) :: before → Unmoved row.id newer) pool.world.trace ∧
    ∀ t p row payload signature eventId at_ rest newer older choice next,
      WebhookRead p row payload signature (pool.world.history t) →
      pool.world.trace = newer ++ (t, .read .processWebhook (some row)) :: older →
      pool.threads[t]? = some (.call (.transaction
        (processWebhookInTx p payload signature eventId row (webhookTarget payload) at_)) rest) →
      (system site).step pool (.act t choice) = some next →
      (next.world.payment p ≠ pool.world.payment p ↔
        choice.fault ≠ .before ∧ Unmoved p newer ∧ Storable pool.world.db payload signature eventId at_) ∧
      (next.world.payment p ≠ pool.world.payment p → ∃ current settled, pool.world.payment p = some current ∧
        current.status = .processing ∧ next.world.payment p = some settled ∧ Settles payload current settled) := by
  constructor
  · rintro newer ⟨t, _⟩ older split commit rfl row event returned member kind
    obtain ⟨old, payload, signature, own, is, id⟩ :=
      webhooks_read reached newer _ older split commit rfl row event returned member kind
    obtain ⟨names, token, here⟩ := own
    exact ⟨old, payload, signature, ⟨names, token, here⟩, is, fun between before =>
      unmoved_at_commit reached split returned here id⟩
  · intro t p row payload signature eventId at_ rest newer older choice next own split running stepped
    obtain ⟨seen, processing⟩ := own.seen (issued_of_running reached running)
    obtain ⟨current, found, before⟩ := seen
    have id : row.id = p := Seen.id ⟨current, found, before⟩
    subst id
    obtain ⟨outcome, _, performed, _⟩ := act_call reached running stepped
    obtain ⟨writes, settles⟩ := webhook_write own.1 found (Option.some.inj performed)
    rw [unmoved_iff_read reached split found]
    refine ⟨writes, ?_⟩
    intro changed
    obtain ⟨settled, here, is⟩ := settles changed
    have version := (writes.mp changed).2.1
    exact ⟨current, settled, found, (before.status version).trans processing, here, is⟩

def pendingResponse : GatewayOutcome := .response {
  success := false
  gatewayReference := "gw_2"
  pending := true
  errorCode := none
  errorMessage := none }

/-- The retry of thread 4 is answered `pending`, then the webhook of thread 5 comes to its write. -/
def lateWebhook : List (Label Choice Event) :=
  retryScheduling ++ acts 1 [{}] ++ retry 3 ++ attempt 4 'd' pendingResponse ++ acts 4 [{}, {}, {}, {}] ++
    signedWebhook 5 'c' "success" none ++ acts 5 [{}, {}]

def Obs.answersPending (reference : String) : Obs → Bool
  | .gatewayAnswered _ (.response value) => value.pending && value.gatewayReference = reference
  | _ => false

/-- A webhook about that reference, correctly signed. -/
def Obs.reportsOn (site : Deployment) (reference : String) : Obs → Bool
  | .webhook payload (some signature) => payload.fieldIs "gatewayReference" reference &&
    match verifyWebhookSignature site (Json.stringify none payload) signature with
    | .ok valid => valid
    | .error _ => false
  | _ => false

/-- The write of that webhook goes through. -/
theorem webhooks_settle_current_late : ∃ pool t commit row before, Reached sampleSite .free pool ∧
    pool.world.trace = (t, .committed commit) :: before ∧ commit.row = some row ∧ row.status = .success ∧
    ∃ old payload signature, WebhookRead row.id old payload signature (historyOf before t) ∧
      ∀ newer older, before = newer ++ (t, .read .processWebhook (some old)) :: older → Unmoved row.id newer := by
  obtain ⟨pool, reached, shown⟩ := reached_of_run sampleSite .free (lateWebhook ++ acts 5 [{}])
    (fun pool => pool.world.trace.head?.any fun entry => entry.2.settles .success .webhookReceived) (by decide +kernel)
  obtain ⟨⟨t, o⟩, first, settles⟩ := (Option.any_eq_true _ _).mp shown
  obtain ⟨before, trace⟩ := List.head?_eq_some_iff.mp first
  obtain ⟨commit, row, event, rfl, returned, member, status, is⟩ := Obs.settled_of_settles settles
  obtain ⟨old, payload, signature, own, _, unmoved⟩ :=
    (webhooks_settle_current reached).1 [] _ before trace _ rfl row event returned member is.eventType
  exact ⟨pool, t, commit, row, before, reached, trace, returned, status, old, payload, signature, own, unmoved⟩

/-- The payment has stored the reference of the second attempt, and the webhook about the first one
    settles it. -/
theorem webhooks_settle_other_attempts : ∃ pool next, Reached sampleSite .free pool ∧
    (system sampleSite).step pool (.act 5 {}) = some next ∧ enterers (sampleId '0') pool.world.trace = [4, 1] ∧
    (∃ o, (4, o) ∈ pool.world.trace ∧ o.answersPending "gw_2" = true) ∧
    (∃ o, (5, o) ∈ pool.world.trace ∧ o.reportsOn sampleSite "gw_1" = true) ∧
    (∃ row, pool.world.payment (sampleId '0') = some row ∧ row.status = .processing ∧
      row.gatewayReference = some "gw_2") ∧
    ∃ row, next.world.payment (sampleId '0') = some row ∧ row.status = .success ∧
      row.gatewayReference = some "gw_1" := by
  obtain ⟨pool, reached, shown⟩ := reached_of_run sampleSite .free lateWebhook
    (fun pool => enterers (sampleId '0') pool.world.trace = [4, 1] &&
      ((pool.world.history 4).any fun o => o.answersPending "gw_2") &&
      ((pool.world.history 5).any fun o => o.reportsOn sampleSite "gw_1") &&
      ((pool.world.payment (sampleId '0')).any fun row =>
        row.status = .processing && row.gatewayReference = some "gw_2") &&
      ((system sampleSite).step pool (.act 5 {})).any fun next => (next.world.payment (sampleId '0')).any fun row =>
        row.status = .success && row.gatewayReference = some "gw_1") (by decide +kernel)
  simp only [Bool.and_eq_true, decide_eq_true_eq, List.any_eq_true, Option.any_eq_true] at shown
  obtain ⟨⟨⟨⟨entered, o, member, pending⟩, o', member', reported⟩, row, found, stored⟩, next, stepped, row', found',
    settled⟩ := shown
  exact ⟨pool, next, reached, stepped, entered, ⟨o, World.mem_history.mp member, pending⟩,
    ⟨o', World.mem_history.mp member', reported⟩, ⟨row, found, stored⟩, row', found', settled⟩

end PaymentModel
