import PaymentSystem.Properties.LateResults

namespace PaymentModel

open Async

/-- The second read of `handlePaymentResult` has found payment `p` finished, and gives it up. -/
def StaleDecision (w : World) (p : Uuid) : Prop :=
  ∃ t errorCode row, (t, .read (.retryDecision errorCode) (some row)) ∈ w.trace ∧ row.id = p ∧
    row.status ∈ terminalStates ∧ givesUp errorCode row = true

/-- A finished payment that has been given up after all; the other columns are as they were. -/
structure GivenUp (row current : Payment) : Prop where
  is : current = { row with
    status := .permanentlyFailed
    version := current.version
    updatedAt := current.updatedAt }
  version : row.version < current.version

/-- What has become of a finished payment. -/
def Finished (row : Payment) (w : World) : Prop :=
  ∃ current, w.payment row.id = some current ∧
    (current = row ∨ GivenUp row current ∧ StaleDecision w row.id)

variable {site : Deployment} {R : Condition} {t : Nat} {w w' : World} {p : Uuid} {row current old : Payment}
  {body : Tx Payment} {statement : Tx Unit} {db : Db} {now : Nat} {updated : Payment} {errorCode : Option String}
  {h : List Obs} {pool next : Pool calls JsError World}

theorem StaleDecision.later (stale : StaleDecision w p) (grown : w.trace <:+ w'.trace) : StaleDecision w' p := by
  obtain ⟨t, errorCode, row, noted, rest⟩ := stale
  exact ⟨t, errorCode, row, grown.subset noted, rest⟩

theorem GivenUp.terminal (given : GivenUp row current) : current.status ∈ terminalStates := by
  have status : current.status = .permanentlyFailed := congrArg Payment.status given.is
  rw [status]
  decide

theorem GivenUp.again (given : GivenUp row current) (now : Nat) :
    GivenUp row ((transitionUpdate .permanentlyFailed {}).apply now current) := by
  have version := given.version
  refine ⟨?_, Nat.lt_succ_of_lt version⟩
  rw [given.is]
  rfl

theorem GivenUp.first (row : Payment) (now : Nat) :
    GivenUp row ((transitionUpdate .permanentlyFailed {}).apply now row) := ⟨rfl, Nat.lt_succ_self _⟩

/-- Whoever has read a payment to decide about a retry writes nothing but that it is given up. -/
theorem Issued.gives_up (issued : Issued site t w (.transaction body))
    (own : w.history t = .read (.retryDecision errorCode) (some old) :: h) :
    Seen w.db old.id old ∧ body = transitionStateInTx old.id .failed .permanentlyFailed old.version {} old.id := by
  cases issued with
  | giveUp own' _ _ _ seen =>
    rw [own] at own'
    cases own'
    have id : old.id = _ := seen.id
    subst id
    exact ⟨seen, rfl⟩
  | create own' | enter own' | cancel own' | permanentlyFail own' | schedule own' | retry own' | settle own' =>
    rw [own] at own'
    cases own'
  | succeed recorded | fail recorded =>
    rw [own] at recorded
    cases recorded

/-- No transaction moves a finished payment on, but for giving it up. -/
theorem Issued.finished (issued : Issued site t w (.transaction body)) (ran : body now w.db = .ok (updated, db))
    (found : w.db.payment p = some row) (terminal : row.status ∈ terminalStates) :
    db.payment p = some row ∨ (StaleDecision w p ∧
      db.payment p = some ((transitionUpdate .permanentlyFailed {}).apply now row)) := by
  have never : ∀ status, row.status = status → status ∉ terminalStates → False := by
    rintro _ rfl active
    exact active terminal
  cases transacted issued ran with
  | created _ _ creation _ =>
    left
    rw [creation.payment, if_neg, found]
    rintro rfl
    rw [creation.absent] at found
    cases found
  | @moved q _ event cause held transition reports =>
    by_cases same : p = q
    · subst same
      cases found.symm.trans transition.found
      cases cause with
      | @giveUp code failed read _ own _ exhausted _ status =>
        right
        obtain ⟨seen, rfl⟩ := issued.gives_up own
        obtain ⟨before, found', _, rfl, rfl⟩ := recordedUpdate_ok (transitionStateInTx_ran ran)
        have id : read.id = p := (payment_id found').symm.trans transition.id
        subst id
        cases found.symm.trans found'
        have noted := World.mem_history.mp (own ▸ List.mem_cons_self ..)
        refine ⟨⟨t, code, read, noted, rfl, status ▸ terminal, exhausted⟩, ?_⟩
        rw [transition.payment, if_pos rfl]
      | enter _ _ _ status => exact (never _ status (by decide)).elim
      | succeed _ _ _ status => exact (never _ status (by decide)).elim
      | fail _ _ _ _ status => exact (never _ status (by decide)).elim
      | permanentlyFail _ _ status => exact (never _ status (by decide)).elim
      | schedule _ _ _ _ _ status => exact (never _ status (by decide)).elim
      | retry _ _ _ status => exact (never _ status (by decide)).elim
      | settle _ _ _ status => exact (never _ status (by decide)).elim
      | cancel _ _ _ valid _ =>
        rw [isValidStateTransition_terminal terminal] at valid
        cases valid
    · left
      rw [transition.payment, if_neg same, found]

/-- No statement writes to a finished payment. -/
theorem Issued.spared (issued : Issued site t w (.statement statement)) (ran : statement now w.db = .ok ((), db))
    (found : w.db.payment p = some row) (terminal : row.status ∈ terminalStates) : db.payment p = some row := by
  have kept : db.payments = w.db.payments → db.payment p = some row := by
    intro same
    rw [Db.payment, same]
    exact found
  cases issued with
  | recordResponse =>
    obtain ⟨_, rfl⟩ := paymentEventCreate_ok ran
    exact kept rfl
  | recordWebhook =>
    obtain ⟨_, _, _, _, rfl⟩ := createWebhookEvent_ok ran
    exact kept rfl
  | storeKey => exact kept (idempotencyKeyCreate_ok ran).payments
  | completeKey => exact kept (idempotencyKeyUpdateMany_ok ran).payments
  | @reference q processing _ _ recorded seen =>
    -- the version of an attempt is that of a row in `PROCESSING`
    obtain ⟨_, _, retouch⟩ := gatewayReferenceUpdate_ok ran
    obtain ⟨old, found', version⟩ := gatewayReferenceUpdate_version ran
    rw [retouch.payment, if_neg, found]
    rintro rfl
    cases found.symm.trans found'
    rw [(seen.same found version).1, recorded.status] at terminal
    exact absurd terminal (by decide)

theorem Step.finished (step : Step site R t w w') (found : w.db.payment p = some row)
    (terminal : row.status ∈ terminalStates) : w'.db.payment p = some row ∨ (StaleDecision w p ∧
      ∃ now, w'.db.payment p = some ((transitionUpdate .permanentlyFailed {}).apply now row)) := by
  rcases step.wrote with ⟨same, _⟩ | ⟨body, now, updated, _, issued, ran⟩ | ⟨body, now, _, issued, ran⟩
  · left
    rw [same, found]
  · rcases issued.finished ran found terminal with kept | ⟨stale, given⟩
    · exact .inl kept
    · exact .inr ⟨stale, now, given⟩
  · exact .inl (issued.spared ran found terminal)

theorem Finished.step (finished : Finished row w) (terminal : row.status ∈ terminalStates)
    (step : Step site R t w w') : Finished row w' := by
  obtain ⟨current, found, is⟩ := finished
  have grown := step.grows
  have terminal' : current.status ∈ terminalStates := by
    rcases is with rfl | ⟨given, _⟩
    · exact terminal
    · exact given.terminal
  rcases step.finished found terminal' with kept | ⟨stale, now, given⟩
  · exact ⟨current, kept, is.imp_right fun ⟨given, stale⟩ => ⟨given, stale.later grown⟩⟩
  · refine ⟨_, given, .inr ⟨?_, stale.later grown⟩⟩
    rcases is with rfl | ⟨given, _⟩
    · exact .first _ now
    · exact given.again now

/-- Nothing that happens after a payment is finished writes to its row, in any column; only a failure handler
    whose second read comes late takes it to `PERMANENTLY_FAILED`. -/
theorem finished_payments_frozen (reached : Reached site R pool) (found : pool.world.payment p = some row)
    (terminal : row.status ∈ terminalStates) {labels : List (Label Choice Event)}
    (ran : (system site).run R pool labels = some next) :
    ∃ current, next.world.payment p = some current ∧
      (current = row ∨ GivenUp row current ∧ StaleDecision next.world p) := by
  have id : row.id = p := payment_id found
  subst id
  exact lasting_of_steps (Finished row) (fun _ _ _ finished step => finished.step terminal step) reached
    ⟨row, found, .inl rfl⟩ ran

/-- A paid payment is given up by the worker of its first attempt. -/
theorem finished_payments_frozen_stale : ∃ (pool next : Pool calls JsError World) (row current : Payment),
    Reached sampleSite .free pool ∧ pool.world.payment (sampleId '0') = some row ∧ row.status = .success ∧
    next.world.payment (sampleId '0') = some current ∧ GivenUp row current := by
  obtain ⟨pool, reached, shown⟩ := reached_of_run sampleSite .free
    (creation ++ attempt 1 'a' unreachable ++ acts 1 [{}, {}] ++ redelivery 1 ++
      acts 2 [{ uuid := sampleId 'b' }, {}, {}, {}, {}, {}, {}, {}] ++ retry 3 ++
      .event (.expireLock (paymentLockKey (sampleId '0'))) :: attempt 4 'e' approved ++ acts 4 [{}, {}, {}])
    (fun pool => (pool.world.payment (sampleId '0')).any (fun row => row.status = .success) &&
      ((system sampleSite).run .free pool (acts 1 [{}, {}])).any fun next =>
        (next.world.payment (sampleId '0')).any fun row => row.status = .permanentlyFailed) (by decide +kernel)
  obtain ⟨paid, rest⟩ := Bool.and_eq_true_iff.mp shown
  obtain ⟨row, found, success⟩ := (Option.any_eq_true _ _).mp paid
  obtain ⟨next, ran, given⟩ := (Option.any_eq_true _ _).mp rest
  obtain ⟨current, found', failed⟩ := (Option.any_eq_true _ _).mp given
  have status : row.status = .success := of_decide_eq_true success
  obtain ⟨current', found'', is⟩ := finished_payments_frozen reached found (by rw [status]; decide) ran
  cases found'.symm.trans found''
  rcases is with rfl | ⟨given, _⟩
  · rw [status] at failed
    cases failed
  · exact ⟨pool, next, row, current, reached, found, status, found', given⟩

end PaymentModel
