import PaymentSystem.Proof.Fencing

namespace PaymentModel

open Async

/-- The writes of `handlePaymentResult` to its payment, for the version that its run has entered in. -/
inductive ResultWrite (p : Uuid) (version : Nat) : Call → Prop
  | settle (toStatus : PaymentStatus) (data : AdditionalData) :
    ResultWrite p version (.transaction (transitionStateInTx p .processing toStatus version data p))
  | reference (gatewayReference : Option String) :
    ResultWrite p version (.statement (gatewayReferenceUpdate p version gatewayReference))

/-- Thread `t` has recorded the result of its attempt, and `newer` is what has happened since it moved
    the payment to its row `processing`. -/
structure Resulting (p : Uuid) (t : Nat) (processing : Payment) (newer trace : List (Nat × Obs)) : Prop where
  recorded : ∃ result, Recorded p processing result (historyOf trace t)
  entered : ∃ commit older, trace = newer ++ (t, .committed commit) :: older ∧ commit.row = some processing

variable {site : Deployment} {R : Condition} {t : Nat} {w w' : World} {p q : Uuid} {choice : Choice}
  {processing processing' old row : Payment} {result result' : GatewayResult} {h : List Obs} {c : Call}
  {newer trace : List (Nat × Obs)} {event : PaymentEvent} {toStatus : PaymentStatus}
  {pool next : Pool calls JsError World}

theorem Recorded.entered (recorded : Recorded p processing result h) :
    ∃ rest, rest <:+ h ∧ Entered p processing rest := by
  obtain ⟨attempted, _⟩ := recorded
  cases attempted with
  | refused entered => exact ⟨_, (List.suffix_cons ..).trans (List.suffix_cons ..), entered⟩
  | answered entered =>
    exact ⟨_, ((List.suffix_cons ..).trans (List.suffix_cons ..)).trans (List.suffix_cons ..), entered⟩

theorem Entered.unique (entered : Entered p processing h) (other : Entered q processing' h) :
    q = p ∧ processing' = processing := by
  obtain ⟨⟨token, rfl⟩, _, returned, _⟩ := entered
  cases other with
  | intro working _ returned' =>
    obtain ⟨token', same⟩ := working
    have job : ProcessJob.mk q = ⟨p⟩ := by
      simp only [List.cons.injEq, Obs.processing.injEq] at same
      exact same.2.2.1.symm
    rw [returned] at returned'
    exact ⟨congrArg ProcessJob.paymentId job, (Option.some.inj returned').symm⟩

theorem Recorded.unique (recorded : Recorded p processing result h) (other : Recorded q processing' result' h) :
    q = p ∧ processing' = processing := by
  obtain ⟨attempted, _⟩ := recorded
  obtain ⟨attempted', _⟩ := other
  cases attempted with
  | refused entered =>
    cases attempted' with
    | refused entered' => exact entered.unique entered'
  | answered entered =>
    cases attempted' with
    | answered entered' => exact entered.unique entered'

theorem Recorded.resulting (recorded : Recorded p processing result (historyOf trace t)) :
    ∃ newer, Resulting p t processing newer trace := by
  obtain ⟨rest, suffix, entered⟩ := recorded.entered
  cases entered with
  | intro _ _ returned =>
    obtain ⟨newer, older, split, _⟩ := historyOf_suffix suffix
    exact ⟨newer, ⟨_, recorded⟩, _, older, split, returned⟩

theorem Resulting.id (resulting : Resulting p t processing newer trace) (raises : EveryCommit Raises trace) :
    processing.id = p := by
  obtain ⟨result, recorded⟩ := resulting.recorded
  obtain ⟨rest, suffix, entered⟩ := recorded.entered
  exact entered.id suffix raises

/-- The version of the attempt is the committed one only when nobody has moved the payment on. -/
theorem Resulting.unmoved (resulting : Resulting p t processing newer trace) (raises : EveryCommit Raises trace)
    (version : committedVersion p trace = processing.version) : Unmoved p newer := by
  have id := resulting.id raises
  obtain ⟨commit, older, rfl, returned⟩ := resulting.entered
  refine unmoved_of_version raises ?_
  rw [version]
  simp [committedVersion, committedRow_returned returned, id]

/-- The results of gateway calls are committed by workers that have recorded them. -/
theorem Cause.recorded (cause : Cause site w t p old event) (is : event.Is .processing toStatus .stateChange) :
    ∃ processing result, Recorded p processing result (w.history t) := by
  cases cause with
  | succeed recorded | fail recorded => exact ⟨_, _, recorded⟩
  | cancel _ _ _ valid is' =>
    rw [Option.some.inj (is'.fromStatus.symm.trans is.fromStatus)] at valid
    cases valid
  | enter _ _ _ _ is' | giveUp _ _ _ _ _ _ is' | permanentlyFail _ _ _ _ is' | schedule _ _ _ _ _ _ _ is'
  | retry _ _ _ _ is' => cases is'.fromStatus.symm.trans is.fromStatus
  | settle _ _ _ _ _ is' => cases is'.eventType.symm.trans is.eventType

theorem Transacted.recorded {db : Db} (committed : Transacted site w t db row)
    (member : event ∈ (w.added (some row) db).paymentEvents) (is : event.Is .processing toStatus .stateChange) :
    ∃ processing result, Recorded row.id processing result (w.history t) := by
  cases committed with
  | created _ _ creation _ =>
    rw [creation.added, List.mem_cons, List.mem_singleton] at member
    rcases member with rfl | rfl
    · cases creation.createdFrom.symm.trans is.fromStatus
    · cases creation.move.fromStatus.symm.trans is.fromStatus
  | moved cause _ transition _ =>
    rw [transition.added, List.mem_singleton] at member
    subst member
    rw [transition.id]
    exact cause.recorded is

theorem results_recorded (reached : Reached site R pool) : EveryCommit (fun older t commit =>
    ∀ row event toStatus, commit.row = some row → event ∈ commit.paymentEvents →
      event.Is .processing toStatus .stateChange →
      ∃ processing result, Recorded row.id processing result (historyOf older t)) pool.world.trace := by
  refine invariant_of_steps (fun w => EveryCommit _ w.trace) (throughout_nil _)
    (fun t w w' held step => held.step step ?_ ?_) reached
  · rintro row committed _ event toStatus ⟨⟩ member is
    exact committed.recorded member is
  · rintro _ row event toStatus ⟨⟩

theorem gatewayReferenceUpdate_version {version now : Nat} {gatewayReference : Option String} {db db' : Db}
    {value : Unit} (ran : gatewayReferenceUpdate p version gatewayReference now db = .ok (value, db')) :
    ∃ old, db.payment p = some old ∧ old.version = version := by
  unfold gatewayReferenceUpdate at ran
  obtain ⟨_, _, updated, _⟩ := Tx.bind_ok ran
  obtain ⟨old, found, version, _⟩ := paymentUpdate_ok updated
  exact ⟨old, found, version⟩

/-- A result is written for the version of its attempt, or rejected. -/
theorem ResultWrite.effect {version : Nat} {outcome : Except JsError c.Answer} (write : ResultWrite p version c)
    (performed : perform t c choice w = some (outcome, w')) :
    (∃ old, w.db.payment p = some old ∧ old.version = version) ∨ (w'.db = w.db ∧ ∃ e, outcome = .error e) := by
  cases write with
  | settle toStatus data =>
    rcases World.database_effect (Option.some.inj performed) with ⟨row, ran⟩ | rejected
    · obtain ⟨old, _, version, moved, _⟩ := transitionStateInTx_ok ran
      exact .inl ⟨old, moved.found, version⟩
    · exact .inr rejected
  | reference gatewayReference =>
    rcases World.database_effect (Option.some.inj performed) with ⟨_, ran⟩ | rejected
    · exact .inl (gatewayReferenceUpdate_version ran)
    · exact .inr rejected

theorem Recorded.silent (recorded : Recorded p processing result h) :
    ∃ commit rest, h = .committed commit :: rest ∧ commit.row = none := by
  obtain ⟨_, silent⟩ := recorded
  exact ⟨_, _, rfl, silent⟩

/-- A worker that has recorded its result writes nothing else to the payment. -/
theorem Recorded.writes {outcome : Except JsError c.Answer} (recorded : Recorded p processing result (w.history t))
    (issued : Issued site t w c) (performed : perform t c choice w = some (outcome, w'))
    (changed : w'.payment p ≠ w.payment p) : ResultWrite p processing.version c := by
  obtain ⟨commit, rest, head, silent⟩ := recorded.silent
  have untouched : w'.db.payments ≠ w.db.payments := by
    intro same
    exact changed (by rw [World.payment, World.payment, Db.payment, Db.payment, same])
  cases c with
  | transaction body =>
    cases issued with
    | succeed other | fail other =>
      obtain ⟨rfl, rfl⟩ := recorded.unique other
      exact .settle _ _
    | create own | enter own | giveUp own | cancel own | permanentlyFail own | schedule own | retry own | settle own =>
      rw [head] at own
      cases own
  | statement body =>
    rcases World.database_effect (Option.some.inj performed) with ⟨_, ran⟩ | ⟨same, _⟩
    · cases issued with
      | reference other =>
        obtain ⟨rfl, rfl⟩ := recorded.unique other
        exact .reference _
      | recordResponse attempted =>
        rw [head] at attempted
        cases attempted
      | recordWebhook =>
        obtain ⟨_, _, _, _, same⟩ := createWebhookEvent_ok ran
        exact (untouched (by rw [same])).elim
      | storeKey => exact (untouched (idempotencyKeyCreate_ok ran).payments).elim
      | completeKey own =>
        rw [head] at own
        cases own
    · exact (untouched (by rw [same])).elim
  | _ => exact (untouched (by rw [perform_db performed rfl])).elim

/-- Once a write is rejected, `processPayment` throws. -/
abbrev Fenced {α : Type} (program : Promise α) : Prop := program.Propagates fun c : Call => c.writes = true

theorem fenced_decideRetry (paymentId : Uuid) (errorCode : Option String) :
    Fenced (decideRetry paymentId errorCode) := by
  refine .bind (.ask _) fun updatedPayment => ?_
  cases updatedPayment with
  | none => exact .pure _
  | some payment =>
    dsimp only
    split
    · exact .bind (.ask _) fun _ => .pure _
    · exact .pure _

theorem fenced_handlePaymentResult (paymentId : Uuid) (result : GatewayResult) (currentVersion : Nat) :
    Fenced (handlePaymentResult paymentId result currentVersion) := by
  refine .bind (.ask _) fun _ => ?_
  split
  · exact .bind (.ask _) fun _ => .bind (.ask _) fun _ => .pure _
  · split
    · exact .ask _
    · exact .bind (.ask _) fun _ => fenced_decideRetry ..

/-- The handler of gateway errors stands around no write. -/
theorem fenced_callGateway (paymentId : Uuid) (payment : Payment) : Fenced (callGateway paymentId payment) := by
  refine .tryCatch (.bind (.bind (.ask (by simp [Call.writes])) fun admits => ?_) fun _ => .pure _) fun _ => .pure _
  split
  · exact .bind (.ask (by simp [Call.writes])) fun _ => .ask (by simp [Call.writes])
  · exact .throw _

theorem fenced_processPayment (site : Deployment) (paymentId : Uuid) : Fenced (processPayment site paymentId) := by
  refine .bind (.bind (.ask _) fun token => .bind (.ask _) fun acquired => .pure _) fun token => ?_
  cases token with
  | none => exact .throw _
  | some token =>
    refine .ensure (.bind (.ask _) fun found => ?_) (.bind (.ask _) fun _ => .pure _)
    cases found with
    | none => exact .throw _
    | some payment =>
      dsimp only
      split
      · exact .pure _
      · exact .bind (.ask _) fun _ => .bind (fenced_callGateway ..) fun _ => fenced_handlePaymentResult ..

/-- A gateway result reaches the payment only while nobody else has moved it on since its attempt has
    entered; else its write is rejected, and the run throws. -/
theorem late_results_fenced (reached : Reached site R pool) :
    EveryCommit (fun older t commit => ∀ row event toStatus, commit.row = some row →
      event ∈ commit.paymentEvents → event.Is .processing toStatus .stateChange →
      ∃ processing newer, Resulting row.id t processing newer older ∧ Unmoved row.id newer) pool.world.trace ∧
    (∀ t p processing newer choice next, Resulting p t processing newer pool.world.trace →
      (system site).step pool (.act t choice) = some next →
      (next.world.payment p ≠ pool.world.payment p → Unmoved p newer ∧
        ∃ c rest, pool.threads[t]? = some (.call c rest) ∧ ResultWrite p processing.version c) ∧
      (¬Unmoved p newer → ∀ c rest, pool.threads[t]? = some (.call c rest) → ResultWrite p processing.version c →
        next.world.db = pool.world.db ∧ ∃ e, next.threads[t]? = some (rest (.error e)))) ∧
    ∀ paymentId, Fenced (processPayment site paymentId) := by
  have raises := every_commit_raises reached
  have found : ∀ p old, pool.world.db.payment p = some old → committedVersion p pool.world.trace = old.version :=
    fun p old found => committedVersion_found reached found
  refine ⟨?_, ?_, fenced_processPayment site⟩
  · intro newer entry older split commit is row event toStatus returned member edge
    obtain ⟨processing, result, recorded⟩ :=
      results_recorded reached newer entry older split commit is row event toStatus returned member edge
    obtain ⟨between, resulting⟩ := recorded.resulting
    have before : EveryCommit Raises older := (throughout_cons.mp (split ▸ raises).before).2
    have held := (raises newer entry older split commit is).held row returned
    have id := resulting.id before
    rw [← id, recorded.held, Option.getD_some, id] at held
    exact ⟨processing, between, resulting, resulting.unmoved before held.symm⟩
  · intro t p processing newer choice next resulting stepped
    obtain ⟨result, recorded⟩ := resulting.recorded
    have unmoved : ∀ old, pool.world.db.payment p = some old → old.version = processing.version → Unmoved p newer :=
      fun old here version => resulting.unmoved raises ((found p old here).trans version)
    constructor
    · intro changed
      rcases act_cases reached stepped with ⟨c, rest, outcome, running, issued, performed, _⟩ | ⟨_, same⟩
      · have write := recorded.writes issued performed changed
        rcases write.effect performed with ⟨old, here, version⟩ | ⟨same, _⟩
        · exact ⟨unmoved old here version, c, rest, running, write⟩
        · exact (changed (by rw [World.payment, World.payment, same])).elim
      · exact (changed (by rw [same])).elim
    · intro moved c rest running write
      obtain ⟨outcome, _, performed, answered⟩ := act_call reached running stepped
      rcases write.effect performed with ⟨old, here, version⟩ | ⟨same, e, rfl⟩
      · exact (moved (unmoved old here version)).elim
      · exact ⟨same, e, answered⟩

/-- The success of an attempt that nobody has disturbed. -/
theorem late_results_fenced_approved : ∃ pool t commit row before, Reached sampleSite .free pool ∧
    pool.world.trace = (t, .committed commit) :: before ∧ commit.row = some row ∧ row.status = .success ∧
    ∃ processing newer, Resulting row.id t processing newer before ∧ Unmoved row.id newer := by
  obtain ⟨pool, reached, shown⟩ := reached_of_run sampleSite .free
    (creation ++ attempt 1 'a' approved ++ acts 1 [{}, {}, {}])
    (fun pool => pool.world.trace.head?.any fun entry => entry.2.settles .success .stateChange) (by decide +kernel)
  obtain ⟨⟨t, o⟩, first, settles⟩ := (Option.any_eq_true _ _).mp shown
  obtain ⟨before, trace⟩ := List.head?_eq_some_iff.mp first
  obtain ⟨commit, row, event, rfl, returned, member, status, is⟩ := Obs.settled_of_settles settles
  have fenced := (late_results_fenced reached).1 [] _ before trace _ rfl row event .success returned member is
  exact ⟨pool, t, commit, row, before, reached, trace, returned, status, fenced⟩

end PaymentModel
