import PaymentSystem.Model.GatewaySimulator
import PaymentSystem.Proof.Attempts
import PaymentSystem.Proof.Solo

namespace PaymentModel

open Async

deriving instance DecidableEq for Progress

/-- Thread `t` finds the lock that it asks for free, and the others leave the columns of payment `p` that
    its transitions change alone. -/
def undisturbed (t : Nat) (p : Uuid) : Condition where
  call u w c choice :=
    if u = t then
      match c with
      | .lockSet key _ _ => (w.locks key).isNone
      | _ => true
    else (perform u c choice w).all fun result =>
      (result.2.payment p).map Payment.progress = (w.payment p).map Payment.progress
  event _ _ := true

/-- The breaker lets the fifth call of a job on to the gateway, whose answer is the seventh. -/
def attemptResult (choices : List Choice) : GatewayResult :=
  if (choiceAt choices 4).admits then (choiceAt choices 6).outcome.result else gatewayFailure breakerOpenError

/-- The calls of a job from the record of the gateway's response on. -/
def fromRecord (choices : List Choice) : List Choice := choices.drop (if (choiceAt choices 4).admits then 7 else 5)

/-- The result is recorded and its write takes effect; a failure is not pending, and it is given up or
    a call between its write and the release of the lock, both included, fails. -/
def ResultRecovers (row : Payment) (result : GatewayResult) (choices : List Choice) : Prop :=
  (faultAt choices 0 = .none ∧ result.nullFree = true) ∧
    if result.success then FitsColumn 255 result.gatewayReference = true ∧ faultAt choices 2 ≠ .before
    else result.pendingWebhook = false ∧ FitsColumn 64 result.errorCode = true ∧ faultAt choices 1 ≠ .before ∧
      (givesUp result.errorCode row = true ∨ ∃ k ∈ [1, 2, 3], faultAt choices k ≠ .none)

/-- The worker hears of its `PROCESSING` commit, and the result moves the payment on. -/
def Recovers (row : Payment) (choices : List Choice) : Prop :=
  faultAt choices 3 = .none ∧ ResultRecovers row (attemptResult choices) (fromRecord choices)

/-- At most one call fails, and none before the commit to `PROCESSING`, the fourth call, takes effect. -/
structure SingleFault (choices : List Choice) : Prop where
  lock : faultAt choices 1 = .none
  find : faultAt choices 2 = .none
  enter : faultAt choices 3 ≠ .before
  single : (choices.countP fun choice => choice.fault ≠ .none) ≤ 1

/-- The payment is moved on, or it is in `PROCESSING` and a webhook about it is scheduled. -/
def Unstranded (result : GatewayResult) (left : PaymentStatus) : Prop :=
  left.movedOn = true ∨
    left = .processing ∧ result.pendingWebhook = true ∧ GatewaySimulator.schedulesWebhook = true

variable {site : Deployment} {t : Nat} {p : Uuid} {row : Payment} {result : GatewayResult}
  {choices rest : List Choice} {outcome : Except JsError Unit} {status left : PaymentStatus} {release : Choice}

theorem unstranded_iff : Unstranded result left ↔ left.movedOn = true := by
  simp [Unstranded, GatewaySimulator.schedulesWebhook, GatewaySimulator.webhookCallback]

/-- What the run of the result comes to when the release of the lock follows. -/
theorem ResultRun.recovers_iff (run : ResultRun row result choices outcome status) (release : Choice)
    (rest : List Choice) : ResultRecovers row result (choices ++ release :: rest) ↔
      status.movedOn = true ∨ status = .failed ∧ ((∃ e, outcome = .error e) ∨ release.fault ≠ .none) := by
  cases run with
  | @unrecorded record _ lost =>
    have strands : ¬ResultRecovers row result (record :: release :: rest) := fun recovers => lost recovers.1
    simp [strands, PaymentStatus.movedOn]
  | succeeded recorded success fits takes =>
    simp [ResultRecovers, faultAt, choiceAt, PaymentStatus.movedOn, recorded.1, recorded.2, success, fits, takes]
  | successLost success lost =>
    rcases lost with long | fault
    · simp [ResultRecovers, faultAt, choiceAt, PaymentStatus.movedOn, success, long]
    · simp [ResultRecovers, faultAt, choiceAt, PaymentStatus.movedOn, success, fault]
  | pending failure pending =>
    simp [ResultRecovers, PaymentStatus.movedOn, failure, pending]
  | failureLost failure lost =>
    rcases lost with long | fault
    · simp [ResultRecovers, faultAt, choiceAt, PaymentStatus.movedOn, failure, long]
    · simp [ResultRecovers, faultAt, choiceAt, PaymentStatus.movedOn, failure, fault]
  | failed recorded failure final fits unheard =>
    simp [ResultRecovers, faultAt, choiceAt, PaymentStatus.movedOn, recorded.1, recorded.2, failure, final,
      fits, unheard]
  | unread recorded failure final fits takes fault =>
    simp [ResultRecovers, faultAt, choiceAt, PaymentStatus.movedOn, recorded.1, recorded.2, failure, final,
      fits, takes, fault]
  | rests recorded failure final fits takes found retries =>
    simp [ResultRecovers, faultAt, choiceAt, PaymentStatus.movedOn, recorded.1, recorded.2, failure, final,
      fits, takes, found, retries]
  | givenUp recorded failure final fits takes exhausted =>
    simp [ResultRecovers, faultAt, choiceAt, PaymentStatus.movedOn, recorded.1, recorded.2, failure, final,
      fits, takes, exhausted]
  | kept recorded failure final fits takes exhausted fault =>
    simp [ResultRecovers, faultAt, choiceAt, PaymentStatus.movedOn, recorded.1, recorded.2, failure, final,
      fits, takes, exhausted]

/-- A run that throws and leaves the payment in `FAILED` has met a failing call. -/
theorem ResultRun.fault_of_failed {e : JsError} (run : ResultRun row result choices (.error e) .failed) :
    ∃ choice ∈ choices, choice.fault ≠ .none := by
  cases run with
  | failed _ _ _ _ unheard => simp [unheard]
  | unread _ _ _ _ _ fault => simp [fault]
  | kept _ _ _ _ _ _ fault => simp [fault]

theorem AttemptRun.fault_of_failed {e : JsError} (run : AttemptRun row choices (.error e) .failed) :
    ∃ choice ∈ choices, choice.fault ≠ .none := by
  cases run with
  | refused _ _ run | answered _ _ run =>
    obtain ⟨choice, member, fault⟩ := run.fault_of_failed
    exact ⟨choice, by simp [member], fault⟩

theorem AttemptRun.recovers_iff (run : AttemptRun row choices outcome status) (id lock release : Choice)
    (rest : List Choice) (single : SingleFault (id :: lock :: (choices ++ release :: rest))) :
    Recovers row (id :: lock :: (choices ++ release :: rest)) ↔
      status.movedOn = true ∨ status = .failed ∧ ((∃ e, outcome = .error e) ∨ release.fault ≠ .none) := by
  cases run with
  | unread fault => exact (fault single.find).elim
  | unentered fault => exact (single.enter fault).elim
  | unheard fault => simp [Recovers, faultAt, choiceAt, PaymentStatus.movedOn, fault]
  | refused entered refuses run =>
    rw [← run.recovers_iff release rest]
    simp [Recovers, attemptResult, fromRecord, faultAt, choiceAt, entered, refuses]
  | answered entered admits run =>
    rw [← run.recovers_iff release rest]
    simp [Recovers, attemptResult, fromRecord, faultAt, choiceAt, entered, admits]

/-- After a call that has failed no other one does. -/
theorem SingleFault.quiet {before after : List Choice} (single : SingleFault (before ++ rest ++ after))
    (failed : ∃ choice ∈ before, choice.fault ≠ .none) : ∀ choice ∈ rest, choice.fault = .none := by
  have counted := single.single
  rw [List.countP_append, List.countP_append] at counted
  have first : 0 < before.countP fun choice => choice.fault ≠ .none := by
    rw [List.countP_pos_iff]
    simpa using failed
  have none : rest.countP (fun choice => choice.fault ≠ .none) = 0 := by omega
  rw [List.countP_eq_zero] at none
  simpa using none

/-- The handler moves the payment on exactly when the run recovers. -/
theorem JobRun.movedOn_iff {report : Choice} (run : JobRun row choices left)
    (single : SingleFault (choices ++ [report])) : left.movedOn = true ↔ Recovers row (choices ++ [report]) := by
  cases run with
  | completed run =>
    cases run with
    | @released id lock release choices _ _ run releases =>
      have shape : id :: lock :: (choices ++ [release]) ++ [report] =
        id :: lock :: (choices ++ release :: [report]) := by simp
      rw [shape] at single ⊢
      rw [run.recovers_iff id lock release [report] single]
      simp [releases]
  | @recovered before rest e status left run keeps moves =>
    have iff : Recovers row (before ++ rest ++ [report]) ↔ status.movedOn = true ∨ status = .failed := by
      cases run with
      | unlocked fault => exact (fault single.lock).elim
      | @released id lock release choices _ _ run releases =>
        have shape : id :: lock :: (choices ++ [release]) ++ rest ++ [report] =
          id :: lock :: (choices ++ release :: (rest ++ [report])) := by simp
        rw [shape] at single ⊢
        rw [run.recovers_iff id lock release (rest ++ [report]) single]
        simp
      | @unreleased id lock release choices _ _ _ run fault =>
        have shape : id :: lock :: (choices ++ [release]) ++ rest ++ [report] =
          id :: lock :: (choices ++ release :: (rest ++ [report])) := by simp
        rw [shape] at single ⊢
        rw [run.recovers_iff id lock release (rest ++ [report]) single]
        simp [fault]
    rw [iff]
    by_cases failed : status = .failed
    · have met : ∃ choice ∈ before, choice.fault ≠ .none := by
        subst failed
        cases run with
        | released run releases =>
          obtain ⟨choice, member, fault⟩ := run.fault_of_failed
          exact ⟨choice, by simp [member], fault⟩
        | unreleased run fault => exact ⟨_, by simp, fault⟩
      exact ⟨fun _ => .inr failed, fun _ => moves failed (single.quiet met)⟩
    · rw [keeps failed]
      simp [failed]

theorem undisturbed_own {w : World} {c : Call} {choice : Choice} (allowed : (undisturbed t p).call t w c choice = true)
    (key token : String) (ttl : Int) (is : c = .lockSet key token ttl) : w.locks key = none := by
  subst is
  simpa [undisturbed] using allowed

theorem undisturbed_others {u : Nat} {w w' : World} {c : Call} {choice : Choice} {answer : Except JsError c.Answer}
    (other : u ≠ t) (allowed : (undisturbed t p).call u w c choice = true)
    (performed : perform u c choice w = some (answer, w')) : (alone site t p).others w w' := by
  simp only [undisturbed, other, if_false, performed, Option.all_some, decide_eq_true_eq] at allowed
  exact allowed

theorem undisturbed_event {n : Nat} {e : Event} {w w' : World} {programs : List (Promise Unit)}
    (occurred : occur site n e w = some (w', programs)) : (alone site t p).others w w' := by
  change (w'.db.payment p).map Payment.progress = (w.db.payment p).map Payment.progress
  rw [(occur_note occurred).1]

/-- What the job of thread `pool.threads.length` comes to when it runs to its end. -/
theorem job_run {pool started final : Pool calls JsError World} {labels : List (Label Choice Event)}
    (found : pool.world.payment p = some row) (pending : row.status = .pending)
    (delivered : (system site).step pool (.event (.deliverProcess ⟨p⟩)) = some started)
    (ran : (system site).run (undisturbed pool.threads.length p) started labels = some final)
    (ended : final.threads[pool.threads.length]? = some (.done outcome)) :
    ∃ g before report, At p g final.world ∧ choicesOf pool.threads.length labels = before ++ [report] ∧
      JobRun row before g.status := by
  obtain ⟨⟨w', programs⟩, occurred, rfl⟩ := Option.map_eq_some_iff.mp delivered
  obtain ⟨queue, taken, same⟩ := Option.map_eq_some_iff.mp occurred
  cases same
  have running : (pool.threads ++ [startProcessWorker site ⟨p⟩])[pool.threads.length]? =
    some (startProcessWorker site ⟨p⟩) := by simp
  have held : At p row.progress ({ pool.world with processQueue := queue }.log pool.threads.length
    (.processing ⟨p⟩)) := At.intro found rfl
  have ends : (alone site pool.threads.length p).Ends (startProcessWorker site ⟨p⟩) _ _ :=
    ends_startProcessWorker held pending
  exact ends.run (fun w c choice => undisturbed_own) (fun u w c choice answer w' => undisturbed_others)
    (fun n w e w' programs _ => undisturbed_event) running ran ended

/-- When a payment in `PENDING` is delivered to a worker and at most one call of the job fails, after the
    commit to `PROCESSING`, the job does not strand the payment exactly when its run recovers. -/
theorem jobs_recover_iff {pool started final : Pool calls JsError World} {labels : List (Label Choice Event)}
    (found : pool.world.payment p = some row) (pending : row.status = .pending)
    (delivered : (system site).step pool (.event (.deliverProcess ⟨p⟩)) = some started)
    (ran : (system site).run (undisturbed pool.threads.length p) started labels = some final)
    (ended : final.threads[pool.threads.length]? = some (.done outcome))
    (single : SingleFault (choicesOf pool.threads.length labels)) :
    (∃ left, final.world.payment p = some left ∧
      Unstranded (attemptResult (choicesOf pool.threads.length labels)) left.status) ↔
    Recovers row (choicesOf pool.threads.length labels) := by
  obtain ⟨g, before, report, kept, choices, run⟩ := job_run found pending delivered ran ended
  obtain ⟨left, present, rfl⟩ := kept.row
  rw [choices] at single ⊢
  rw [← run.movedOn_iff single]
  constructor
  · rintro ⟨other, present', unstranded⟩
    cases present.symm.trans present'
    exact unstranded_iff.mp unstranded
  · exact fun moved => ⟨left, present, unstranded_iff.mpr moved⟩

theorem choicesOf_acts (t : Nat) (choices : List Choice) : choicesOf t (acts t choices) = choices := by
  induction choices with
  | nil => rfl
  | cons choice choices ih =>
    rw [acts, List.map_cons, choicesOf, if_pos rfl]
    exact congrArg (choice :: ·) ih

theorem sample_job (choices : List Choice) (shows : Pool calls JsError World → Bool)
    (ran : (((system sampleSite).run .free ⟨{}, []⟩ creation).any fun pool => pool.threads.length = 1 &&
      ((pool.world.payment (sampleId '0')).any fun row => row.status = .pending) &&
      ((system sampleSite).step pool (.event (.deliverProcess ⟨sampleId '0'⟩))).any fun started =>
        ((system sampleSite).run (undisturbed 1 (sampleId '0')) started (acts 1 choices)).any fun final =>
          (final.threads[1]?.any Program.ended) && shows final) = true) :
    ∃ pool row started final outcome, Reached sampleSite .free pool ∧ pool.threads.length = 1 ∧
      pool.world.payment (sampleId '0') = some row ∧ row.status = .pending ∧
      (system sampleSite).step pool (.event (.deliverProcess ⟨sampleId '0'⟩)) = some started ∧
      (system sampleSite).run (undisturbed 1 (sampleId '0')) started (acts 1 choices) = some final ∧
      final.threads[1]? = some (.done outcome) ∧ shows final = true := by
  obtain ⟨pool, reached, shown⟩ := reached_of_run sampleSite .free creation _ ran
  obtain ⟨before, delivers⟩ := Bool.and_eq_true_iff.mp shown
  obtain ⟨first, pends⟩ := Bool.and_eq_true_iff.mp before
  obtain ⟨row, found, pending⟩ := (Option.any_eq_true _ _).mp pends
  obtain ⟨started, delivered, runs⟩ := (Option.any_eq_true _ _).mp delivers
  obtain ⟨final, ran, ends⟩ := (Option.any_eq_true _ _).mp runs
  obtain ⟨ended, shown⟩ := Bool.and_eq_true_iff.mp ends
  obtain ⟨program, present, past⟩ := (Option.any_eq_true _ _).mp ended
  cases program with
  | done outcome =>
    exact ⟨pool, row, started, final, outcome, reached, of_decide_eq_true first, found, of_decide_eq_true pending,
      delivered, ran, present, shown⟩
  | call | detach => cases past

/-- The gateway cannot be reached, and the release of the lock fails: only that brings the error path to
    schedule the retry. -/
def releaseFails : List Choice :=
  [{ uuid := sampleId 'a' }, {}, {}, {}, {}, {}, { outcome := unreachable }, {}, {}, {}, { fault := .before },
    {}, {}, {}, {}, {}, {}, {}]

theorem jobs_recover_iff_release : ∃ pool started final left, Reached sampleSite .free pool ∧
    (system sampleSite).step pool (.event (.deliverProcess ⟨sampleId '0'⟩)) = some started ∧
    (system sampleSite).run (undisturbed 1 (sampleId '0')) started (acts 1 releaseFails) = some final ∧
    final.world.payment (sampleId '0') = some left ∧ Unstranded (attemptResult releaseFails) left.status := by
  obtain ⟨pool, row, started, final, outcome, reached, first, found, pending, delivered, ran, ended, _⟩ :=
    sample_job releaseFails (fun _ => true) (by decide +kernel)
  rw [← first] at ran ended
  have job := jobs_recover_iff found pending delivered ran ended
  rw [choicesOf_acts] at job
  obtain ⟨left, present, unstranded⟩ := (job ⟨rfl, rfl, by decide, by decide⟩).mpr
    ⟨rfl, ⟨rfl, by decide +kernel⟩, rfl, by decide, by decide, .inr ⟨3, by decide, by decide⟩⟩
  rw [first] at ran
  exact ⟨pool, started, final, left, reached, delivered, ran, present, unstranded⟩

/-- The gateway approves the payment, and the record of its response fails. -/
def recordFails : List Choice :=
  [{ uuid := sampleId 'a' }, {}, {}, {}, {}, {}, { outcome := approved }, { fault := .before }, {}, {}, {}]

theorem jobs_strand : ∃ pool started final left, Reached sampleSite .free pool ∧
    (system sampleSite).step pool (.event (.deliverProcess ⟨sampleId '0'⟩)) = some started ∧
    (system sampleSite).run (undisturbed 1 (sampleId '0')) started (acts 1 recordFails) = some final ∧
    (final.threads[1]?.any Program.ended) = true ∧ SingleFault recordFails ∧
    final.world.payment (sampleId '0') = some left ∧ left.status = .processing ∧
    ¬Unstranded (attemptResult recordFails) left.status := by
  obtain ⟨pool, row, started, final, outcome, reached, _, _, _, delivered, ran, ended, shown⟩ :=
    sample_job recordFails (fun final => (final.world.payment (sampleId '0')).any fun row => row.status = .processing)
      (by decide +kernel)
  obtain ⟨left, present, status⟩ := (Option.any_eq_true _ _).mp shown
  have processing : left.status = .processing := of_decide_eq_true status
  refine ⟨pool, started, final, left, reached, delivered, ran, ?_, ⟨rfl, rfl, by decide, by decide⟩, present,
    processing, ?_⟩
  · rw [ended]
    rfl
  · rw [processing]
    exact fun unstranded => by cases unstranded_iff.mp unstranded

end PaymentModel
