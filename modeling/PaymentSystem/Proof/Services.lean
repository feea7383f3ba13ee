import PaymentSystem.Proof.Rules

namespace PaymentModel

open Async

variable {site : Deployment} {t : Nat} {w w' : World} {h h' : List Obs} {p : Uuid}

/-- The thread owes nothing further, and has added to `h`. -/
def Rests (t : Nat) (h : List Obs) (w : World) : Prop := Settled (w.history t) ∧ h <:+ w.history t

theorem Rests.of_own (newer : List Obs) (own : w.history t = newer ++ h) (settled : Settled (newer ++ h)) :
    Rests t h w := ⟨own ▸ settled, own ▸ List.suffix_append _ _⟩

theorem Rests.widen (rests : Rests t h w) (within : h' <:+ h) : Rests t h' w :=
  ⟨rests.1, within.trans rests.2⟩

theorem Rests.same (rests : Rests t h w) (same : w'.history t = w.history t) : Rests t h w' :=
  ⟨same ▸ rests.1, same ▸ rests.2⟩

theorem Threw.rests (threw : Threw t h w) : Rests t h w := by
  refine ⟨threw.settled, ?_⟩
  obtain ⟨o, newer, _, own⟩ := threw
  exact ⟨o :: newer, by rw [own]; rfl⟩

theorem Rests.returns {α : Type} {value : α} {err : JsError → World → Prop} (rests : Rests t h w) :
    Conducts site t (pure value) (fun _ => Rests t h) err w :=
  Contract.Safe.pure fun _ moved => rests.same moved.own

theorem Rests.throws {α : Type} {e : JsError} {ok : α → World → Prop} (rests : Rests t h w) :
    Conducts site t (throw e) ok (fun _ => Rests t h) w :=
  Contract.Safe.throw fun _ moved => rests.same moved.own

/-- What a returned transition leaves. -/
structure Moved (t : Nat) (h : List Obs) (w : World) (p : Uuid) (fromStatus toStatus : PaymentStatus)
    (eventType : EventType) (version : Nat) (row : Payment) (commit : Commit) (event : PaymentEvent)
    (w' : World) : Prop where
  own : w'.history t = .committed commit :: h
  returned : commit.row = some row
  grown : Grown w w'
  seen : Seen w'.db p row
  id : row.id = p
  status : row.status = toStatus
  version : row.version = version + 1
  paymentEvents : commit.paymentEvents = [event]
  paymentId : event.paymentId = p
  is : event.Is fromStatus toStatus eventType

theorem moved_of_ran {body : Tx Payment} {row old : Payment} {commit : Commit} {event : PaymentEvent}
    {fromStatus toStatus : PaymentStatus} {eventType : EventType} {version : Nat} {w₁ : World} {db : Db}
    (ran : Ran t h w body row commit w') (later : db.Extends w'.db) (is : commit = w₁.added (some row) db)
    (found : old.version = version) (moved : Transition w₁.db db p old row event)
    (kind : event.Is fromStatus toStatus eventType) :
    Moved t h w p fromStatus toStatus eventType version row commit event w' where
  own := ran.own
  returned := ran.returned
  grown := ran.grown
  seen := moved.seen.later later
  id := moved.id
  status := moved.status.trans kind.toStatus
  version := by rw [moved.version, found]
  paymentEvents := by rw [is]; exact moved.added
  paymentId := moved.paymentId
  is := kind

theorem Ran.unreported {fromStatus toStatus : PaymentStatus} {version : Nat} {data : AdditionalData}
    {spelled : String} {row : Payment} {commit : Commit}
    (ran : Ran t h w (transitionStateInTx p fromStatus toStatus version data spelled) row commit w') :
    commit.webhookEvents = [] := by
  obtain ⟨w₁, now, db, returned, _, is⟩ := ran.committed
  obtain ⟨old, event, _, _, kind, reports⟩ := transitionStateInTx_ok returned
  rw [is]
  exact reports.added (by rw [kind.eventType]; decide)

theorem closed_of_status {commit : Commit} {row : Payment} (returned : commit.row = some row)
    (pending : row.status ≠ .pending) (scheduled : row.status ≠ .retryScheduled)
    (failed : row.status = .failed → commit.webhookEvents ≠ []) : commit.Closed := by
  intro row' returned'
  rw [returned] at returned'
  cases returned'
  exact ⟨pending, scheduled, failed⟩

theorem closed_of_silent {commit : Commit} (silent : commit.row = none) : commit.Closed := by
  intro row returned
  rw [silent] at returned
  cases returned

theorem Moved.closed {fromStatus toStatus : PaymentStatus} {eventType : EventType} {version : Nat}
    {row : Payment} {commit : Commit} {event : PaymentEvent}
    (done : Moved t h w p fromStatus toStatus eventType version row commit event w')
    (terminal : toStatus ∈ terminalStates) : commit.Closed := by
  have leaves : ∀ status ∈ terminalStates,
      status ≠ .pending ∧ status ≠ .retryScheduled ∧ status ≠ .failed := by decide
  obtain ⟨pending, scheduled, failed⟩ := leaves row.status (done.status ▸ terminal)
  exact closed_of_status done.returned pending scheduled fun is => (failed is).elim

/-- The rule of a transaction that moves payment `p` on from `version`. -/
theorem conducts_moves {body : Tx Payment} {fromStatus toStatus : PaymentStatus} {eventType : EventType}
    {version : Nat} {ok : Payment → World → Prop} {err : JsError → World → Prop} (own : w.history t = h)
    (issued : ∀ w', w'.history t = h → Grown w w' → Issued site t w' (.transaction body))
    (moves : ∀ {now db db' row}, body now db = .ok (row, db') → ∃ old event, old.version = version ∧
      Transition db db' p old row event ∧ event.Is fromStatus toStatus eventType ∧ Reports db db' p event)
    (returns : ∀ row commit event w', Ran t h w body row commit w' →
      Moved t h w p fromStatus toStatus eventType version row commit event w' → ok row w')
    (throws : ∀ e w', Rests t h w' → err e w') : Conducts site t (ask (.transaction body)) ok err w := by
  apply conducts_transaction own issued
  · intro row commit w' ran
    obtain ⟨w₁, now, db, returned, later, is⟩ := ran.committed
    obtain ⟨old, event, found, moved, kind, _⟩ := moves returned
    exact returns row commit event w' ran (moved_of_ran ran later is found moved kind)
  · intro e w' own' _
    exact throws e w' (threw_of_transaction own').rests

/-- `withLock` for a body that keeps what it found in the history. -/
theorem conducts_withLock {α : Type} {key : String} {ttl : Rat} {fn : Promise α} (own : w.history t = h)
    (begins : Settled h ∨ ∃ job, h = [.processing job] ∧ key = paymentLockKey job.paymentId)
    (body : ∀ (token : Uuid) w', w'.history t = .locked key token :: .uuid token :: h → Grown w w' →
      Conducts site t fn (fun _ => Rests t (.locked key token :: .uuid token :: h))
        (fun _ => Rests t (.locked key token :: .uuid token :: h)) w') :
    Conducts site t (withLock key ttl fn) (fun _ => Rests t h) (fun _ => Rests t h) w := by
  have scope : ∀ job h', h = .processing job :: h' → key = paymentLockKey job.paymentId := by
    intro job h' is
    subst is
    rcases begins with settled | ⟨job', same, key⟩
    · exact settled.elim
    · cases same
      exact key
  have starts : Settled h ∨ ∃ job, h = [.processing job] := begins.imp_right fun ⟨job, same, _⟩ => ⟨job, same⟩
  apply Contract.Safe.bind
  apply Contract.Safe.bind
  apply conducts_generateId own starts
  intro token w₁ own₁ grown₁
  apply Contract.Safe.bind
  apply conducts_lockSet own₁ (fun w' own' _ => .lockSet own' scope)
  · intro w₂ own₂ grown₂
    refine Contract.Safe.pure fun w₃ moved => ?_
    have own₃ := moved.own.trans own₂
    have grown₃ := (grown₁.trans grown₂).trans moved.grown
    -- the lock is released in the same way after a return and after an error
    refine Contract.Safe.ensure ((body token w₃ own₃ grown₃).weaken ?_ ?_)
    all_goals
      intro _ w₄ ⟨settled, kept⟩
      have held : Obs.locked key token ∈ w₄.history t := kept.mem (by simp)
      have within : h <:+ w₄.history t := (List.suffix_cons _ _).trans ((List.suffix_cons _ _).trans kept)
      apply Contract.Safe.bind
      apply conducts_lockRelease rfl held settled
      · intro released w₅ own₅ _
        have rests : Rests t h w₅ := (Rests.of_own [.unlocked key token] own₅ trivial).widen within
        exact rests.returns
      · intro e w₅ threw _
        exact threw.rests.widen (within.trans (List.suffix_cons _ _))
  · intro w₂ own₂ _
    refine Contract.Safe.pure fun w₃ moved => ?_
    have own₃ := moved.own.trans own₂
    exact (Rests.of_own [.lockBusy key, .uuid token] own₃ trivial).throws
  · intro e w₂ threw _
    exact threw.widen.rests

/-- The branch of `handlePaymentResult` behind a committed failure. -/
theorem conducts_decideRetry {errorCode : Option String} {failed : Payment} (own : w.history t = h)
    (rejected : Failed p errorCode failed h) (seen : Seen w.db p failed) :
    Conducts site t (decideRetry p errorCode) (fun _ => Rests t h) (fun _ => Rests t h) w := by
  apply Contract.Safe.bind
  apply conducts_read own (fun w' own' grown => .findDecision (own' ▸ rejected) (seen.later grown.db))
  · intro row w₁ own₁ found _
    cases row with
    | none => exact (Rests.of_own [_] own₁ trivial).returns
    | some row =>
      simp only
      split
      · rename_i exhausted
        have agrees := ((found row rfl).before failed seen).errorCode
        apply Contract.Safe.bind
        apply conducts_moves own₁ (fun w' own' grown' =>
          .giveUp own' rejected exhausted agrees ((found row rfl).seen.later grown'.db)) transitionStateInTx_ok
        · intro gone commit event w₂ _ done
          exact (Rests.of_own [.committed commit, _] done.own (done.closed (by decide))).returns
        · intro e w₂ rests
          exact rests.widen (List.suffix_cons _ _)
      · rename_i kept
        exact (Rests.of_own [_] own₁ (Bool.eq_false_iff.mpr kept)).returns
  · intro e w₁ threw _
    exact threw.rests

theorem Entered.of_moved {row processing : Payment} {commit : Commit} {event : PaymentEvent} {version : Nat}
    (moved : Moved t (.read .processPayment (some row) :: h) w p .pending .processing .stateChange version
      processing commit event w') (working : Working p h) (pending : row.status = .pending) :
    Entered p processing (w'.history t) := by
  rw [moved.own]
  exact ⟨working, pending, moved.returned, moved.paymentEvents, moved.paymentId, moved.is,
    moved.status⟩

theorem conducts_callGateway {payment processing : Payment} {err : JsError → World → Prop}
    (own : w.history t = h) (entered : Entered p processing h) :
    Conducts site t (callGateway p payment)
      (fun result w' => Attempted p processing result (w'.history t) ∧ h <:+ w'.history t ∧ Grown w w')
      err w := by
  apply Contract.Safe.tryCatch
  apply Contract.Safe.bind
  apply Contract.Safe.bind
  apply conducts_breaker own (fun w' own' _ => .breaker (own' ▸ entered))
  · intro w₁ own₁ grown₁
    apply Contract.Safe.bind
    apply conducts_send own₁ (fun w' own' _ => .send (own' ▸ entered))
    intro w₂ own₂ grown₂
    have answered : ∀ outcome w₃ w₄, w₃.history t = .gatewayAnswered p outcome :: .gatewayCalled p :: h →
        Grown w₂ w₃ → Rely t w₃ w₄ →
        Attempted p processing outcome.result (w₄.history t) ∧ h <:+ w₄.history t ∧ Grown w w₄ := by
      intro outcome w₃ w₄ own₃ grown₃ moved
      have grown := ((grown₁.trans grown₂).trans grown₃).trans moved.grown
      rw [moved.own.trans own₃]
      exact ⟨.answered entered, ⟨[_, _], rfl⟩, grown⟩
    apply conducts_receive own₂ (fun w' own' _ => .receive own' entered)
    · intro response w₃ own₃ grown₃
      exact Contract.Safe.pure fun w₄ moved => answered _ w₃ w₄ own₃ grown₃ moved
    · intro e w₃ own₃ grown₃
      exact Contract.Safe.pure fun w₄ moved => answered _ w₃ w₄ own₃ grown₃ moved
  · intro w₁ own₁ grown₁
    refine Contract.Safe.throw fun w₂ moved₂ => Contract.Safe.pure fun w₃ moved₃ => ?_
    have grown := (grown₁.trans moved₂.grown).trans moved₃.grown
    rw [moved₃.own.trans (moved₂.own.trans own₁)]
    exact ⟨.refused entered, ⟨[_], rfl⟩, grown⟩

theorem conducts_handlePaymentResult {result : GatewayResult} {processing : Payment} (own : w.history t = h)
    (attempted : Attempted p processing result h) (seen : Seen w.db p processing) :
    Conducts site t (handlePaymentResult p result processing.version) (fun _ => Rests t h)
      (fun _ => Rests t h) w := by
  apply Contract.Safe.bind
  apply conducts_statement own (fun w' own' _ => .recordResponse (own' ▸ attempted))
  · intro noted w₁ none own₁ grown₁
    have recorded : Recorded p processing result (.committed noted :: h) := ⟨attempted, none⟩
    have seen₁ := seen.later grown₁.db
    cases successful : result.success with
    | true =>
      simp only [if_true]
      apply Contract.Safe.bind
      apply conducts_dateNow own₁
      intro processedAt w₂ own₂ grown₂
      apply Contract.Safe.bind
      apply conducts_moves own₂ (fun w' own' grown' =>
        .succeed (own' ▸ recorded) successful (seen₁.later (grown₂.trans grown').db)) transitionStateInTx_ok
      · intro row commit event w₃ _ done
        exact (Rests.of_own [.committed commit, .committed noted] done.own (done.closed (by decide))).returns
      · intro e w₃ rests
        exact rests.widen (List.suffix_cons _ _)
    | false =>
      simp only [Bool.false_eq_true, if_false]
      cases final : result.pendingWebhook with
      | true =>
        simp only [if_true]
        apply conducts_statement own₁ (fun w' own' grown' =>
          .reference (own' ▸ recorded) (seen₁.later grown'.db))
        · intro commit w₂ none own₂ _
          exact .of_own [.committed commit, .committed noted] own₂ (closed_of_silent none)
        · intro e w₂ threw _ _
          exact threw.widen.rests
      | false =>
        simp only [Bool.false_eq_true, if_false]
        apply Contract.Safe.bind
        apply conducts_moves own₁ (fun w' own' grown' =>
          .fail (own' ▸ recorded) successful final (seen₁.later grown'.db)) transitionStateInTx_ok
        · intro failed commit event w₂ ran done
          obtain ⟨_, _, _, returned, _⟩ := ran.committed
          obtain ⟨_, _, stored⟩ := transitionStateInTx_errorCode returned
          have rejected : Failed p result.errorCode failed (.committed commit :: .committed noted :: h) :=
            ⟨recorded, successful, final, rfl, done.returned, done.status, done.version, ran.unreported, stored⟩
          apply (conducts_decideRetry done.own rejected done.seen).weaken
          all_goals exact fun _ _ rests => rests.widen ⟨[_, _], rfl⟩
        · intro e w₂ rests
          exact rests.widen (List.suffix_cons _ _)
  · intro e w₁ threw _ _
    exact threw.rests

theorem conducts_processPaymentLocked (own : w.history t = h) (working : Working p h) :
    Conducts site t (processPaymentLocked p) (fun _ => Rests t h) (fun _ => Rests t h) w := by
  apply Contract.Safe.bind
  apply conducts_read own (fun w' own' _ => .findProcess (own' ▸ working))
  · intro found w₁ own₁ seen₁ _
    cases found with
    | none => exact (Rests.of_own [_] own₁ trivial).throws
    | some payment =>
      simp only
      split
      · rename_i skipped
        exact (Rests.of_own [_] own₁ skipped).returns
      · rename_i other
        have pending : payment.status = .pending := not_not.mp other
        apply Contract.Safe.bind
        apply conducts_moves own₁ (fun w' own' grown' =>
          .enter own' working pending ((seen₁ payment rfl).seen.later grown'.db)) transitionStateInTx_ok
        · intro processing commit event w₂ _ done
          have entered := Entered.of_moved done working pending
          rw [done.own] at entered
          apply Contract.Safe.bind
          refine (conducts_callGateway done.own entered).weaken ?_ fun _ _ rests => rests
          intro result w₃ ⟨attempted, within, grown⟩
          have kept : h <:+ w₃.history t := ((List.suffix_cons _ _).trans (List.suffix_cons _ _)).trans within
          apply (conducts_handlePaymentResult rfl attempted (done.seen.later grown.db)).weaken
          all_goals exact fun _ _ rests => rests.widen kept
        · intro e w₂ rests
          exact rests.widen (List.suffix_cons _ _)
  · intro e w₁ threw _
    exact threw.rests

theorem conducts_processPayment (own : w.history t = [.processing ⟨p⟩]) :
    Conducts site t (processPayment site p) (fun _ => Rests t [.processing ⟨p⟩])
      (fun _ => Rests t [.processing ⟨p⟩]) w := by
  apply conducts_withLock own (.inr ⟨⟨p⟩, rfl, rfl⟩)
  intro token w₁ own₁ _
  exact conducts_processPaymentLocked own₁ ⟨token, rfl⟩

theorem conducts_scheduleRetry {first : Payment}
    (own : w.history t = .read .handleFailedProcessing (some first) :: h) (retryable : retries first = true)
    (seen : Seen w.db p first) :
    Conducts site t (scheduleRetry site p first.retryCount) (fun _ => Rests t h) (fun _ => Rests t h) w := by
  have left : first.retryCount < first.maxRetries := by
    simp only [retries, canRetry, Bool.and_eq_true, decide_eq_true_eq] at retryable
    exact retryable.2.2
  apply Contract.Safe.bind
  apply conducts_mathRandom own
  intro random w₁ own₁ grown₁
  apply Contract.Safe.bind
  apply conducts_read own₁ (fun w' own' grown' => .findSchedule own' left (seen.later (grown₁.trans grown').db))
  · intro found w₂ own₂ seen₂ grown₂
    cases found with
    | none => exact (Rests.of_own [_, _] own₂ trivial).returns
    | some row =>
      simp only
      split
      · exact (Rests.of_own [_, _] own₂ trivial).returns
      · rename_i failed
        have before := (seen₂ row rfl).before first (seen.later grown₁.db)
        have agrees := fun same => (before.retries same).trans retryable
        apply Contract.Safe.bind
        apply conducts_dateNow own₂
        intro now w₃ own₃ grown₃
        apply Contract.Safe.bind
        apply conducts_transaction own₃ (fun w' own' grown' =>
          .schedule own' (not_not.mp failed) left before.maxRetries agrees
            ((seen₂ row rfl).seen.later (grown₃.trans grown').db))
        · intro scheduled commit w₄ ran
          obtain ⟨w₅, now', db, returned, later, is⟩ := ran.committed
          obtain ⟨old, event, version, moved, kind, data, reports⟩ := scheduleRetryInTx_ok returned
          have done := moved_of_ran ran later is version moved kind
          apply conducts_enqueueRetry done.own (fun w' own' _ =>
            .enqueueRetry own' done.returned done.status done.id done.paymentEvents data)
          · exact fun w' own' _ => .of_own [_, _, _, _] own' trivial
          · exact fun e w' threw _ => threw.widen.widen.widen.rests
        · intro e w₄ own₄ _
          exact (threw_of_transaction own₄).widen.widen.rests
  · intro e w₂ threw _
    exact threw.widen.rests

theorem conducts_handleFailedProcessing (own : w.history t = h) (settled : Settled h) :
    Conducts site t (handleFailedProcessing site p) (fun _ => Rests t h) (fun _ => Rests t h) w := by
  apply Contract.Safe.bind
  apply conducts_read own (fun w' own' _ => .findFailed (own' ▸ settled))
  · intro found w₁ own₁ seen₁ _
    cases found with
    | none => exact (Rests.of_own [_] own₁ trivial).returns
    | some payment =>
      simp only
      split
      · exact (Rests.of_own [_] own₁ trivial).returns
      · rename_i failed
        split
        · rename_i retryable
          exact conducts_scheduleRetry own₁ retryable (seen₁ payment rfl).seen
        · rename_i final
          have decided : retries payment = false := Bool.eq_false_iff.mpr final
          apply Contract.Safe.bind
          apply conducts_moves own₁ (fun w' own' grown' => .permanentlyFail own' (not_not.mp failed) decided
            ((seen₁ payment rfl).seen.later grown'.db)) permanentlyFailInTx_ok
          · intro gone commit event w₂ _ done
            exact (Rests.of_own [.committed commit, _] done.own (done.closed (by decide))).returns
          · intro e w₂ rests
            exact rests.widen (List.suffix_cons _ _)
  · intro e w₁ threw _
    exact threw.rests

theorem conducts_executeRetry {job : RetryJob} (own : w.history t = [.retrying job]) :
    Conducts site t (executeRetry job.paymentId) (fun _ => Rests t [.retrying job])
      (fun _ => Rests t [.retrying job]) w := by
  apply Contract.Safe.bind
  apply conducts_read own (fun w' own' _ => .findRetry own')
  · intro found w₁ own₁ seen₁ _
    cases found with
    | none => exact (Rests.of_own [_] own₁ trivial).returns
    | some payment =>
      simp only
      split
      · rename_i skipped
        exact (Rests.of_own [_] own₁ skipped).returns
      · rename_i scheduled
        apply Contract.Safe.bind
        apply conducts_moves own₁ (fun w' own' grown' =>
          .retry own' (not_not.mp scheduled) ((seen₁ payment rfl).seen.later grown'.db)) executeRetryInTx_ok
        · intro pending commit event w₂ _ done
          apply conducts_enqueue done.own (fun w' own' _ => .enqueue own' done.returned done.status done.id)
          · exact fun w' own' _ => .of_own [_, _, _] own' trivial
          · intro e w' own' _
            rcases own' with before | after
            · exact (Threw.fault before).widen.widen.rests
            · exact (Threw.faultAfter after).widen.widen.rests
        · intro e w₂ rests
          exact rests.widen (List.suffix_cons _ _)
  · intro e w₁ threw _
    exact threw.rests

theorem Rests.report {c : Call} (rests : Rests t h w)
    (issued : ∀ w', Settled (w'.history t) → Issued site t w' c)
    (effects : ∀ choice w', ∃ answer effect, effect.trace = w'.trace ∧
      perform t c choice w' = some (w'.remote t choice.fault (.ok answer) effect none)) :
    Conducts site t (ask c) (fun _ => Rests t h) (fun _ => Rests t h) w := by
  apply conducts_finished rfl (fun w' own' _ => issued w' (own' ▸ rests.1))
  · intro choice w'
    obtain ⟨answer, effect, quiet, runs⟩ := effects choice w'
    exact ⟨answer, effect, quiet, runs, fun w'' own' _ => rests.same own'⟩
  · exact fun e w' threw _ => threw.rests.widen rests.2

/-- A handler run as a job: its outcome is reported either way. -/
theorem conducts_job {handler : Promise Unit} {report : Bool → Promise Unit}
    (run : Conducts site t handler (fun _ => Rests t h) (fun _ => Rests t h) w)
    (reports : ∀ success w', Rests t h w' →
      Conducts site t (report success) (fun _ => Rests t h) (fun _ => Rests t h) w') :
    Conducts site t (do
        let success ← succeeds handler
        report success) (fun _ => Rests t h) (fun _ => Rests t h) w := by
  apply Contract.Safe.bind
  apply Contract.Safe.tryCatch
  apply Contract.Safe.bind
  apply run.weaken
  · intro _ w₁ rests
    exact Contract.Safe.pure fun w₂ moved => reports true w₂ (rests.same moved.own)
  · intro e w₁ rests
    exact Contract.Safe.pure fun w₂ moved => reports false w₂ (rests.same moved.own)

theorem conducts_processWorkerHandler {job : ProcessJob} (own : w.history t = [.processing job]) :
    Conducts site t (processWorkerHandler site job) (fun _ => Rests t [.processing job])
      (fun _ => Rests t [.processing job]) w := by
  apply Contract.Safe.tryCatch
  refine (conducts_processPayment own).weaken (fun _ _ rests => rests) ?_
  intro e w₁ rests
  apply Contract.Safe.bind
  apply Contract.Safe.tryCatch
  apply (conducts_handleFailedProcessing rfl rests.1).weaken
  · intro _ w₂ failed
    exact (failed.widen rests.2).throws
  · intro e' w₂ failed
    exact Contract.Safe.pure fun w₃ moved => ((failed.widen rests.2).same moved.own).throws

theorem conducts_startProcessWorker {job : ProcessJob} (own : w.history t = [.processing job]) :
    Conducts site t (startProcessWorker site job) (fun _ => Rests t [.processing job])
      (fun _ => Rests t [.processing job]) w := by
  apply conducts_job (conducts_processWorkerHandler own)
  intro success w' rests
  exact rests.report (fun _ => .processFinished) fun choice w'' => ⟨(), { w'' with
    processQueue := w''.processQueue.finish job t success keepCompleted keepFailed }, rfl, rfl⟩

theorem conducts_startRetryWorker {job : RetryJob} (own : w.history t = [.retrying job]) :
    Conducts site t (startRetryWorker job) (fun _ => Rests t [.retrying job])
      (fun _ => Rests t [.retrying job]) w := by
  apply conducts_job (conducts_executeRetry own)
  intro success w' rests
  exact rests.report (fun _ => .retryFinished) fun choice w'' => ⟨(), { w'' with
    retryQueue := w''.retryQueue.finish job t success keepCompleted keepFailed }, rfl, rfl⟩

end PaymentModel
