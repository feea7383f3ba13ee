import PaymentSystem.Proof.Evolution

namespace PaymentModel

open Async

/-- The status that transition events lead to, when each goes along an edge from the status before. -/
def replay : PaymentStatus → List PaymentEvent → Option PaymentStatus
  | status, [] => some status
  | status, event :: events =>
    if event.fromStatus = some status ∧ isValidStateTransition status event.toStatus = true then
      replay event.toStatus events
    else none

/-- The status that the commits of a trace leave payment `p` with. -/
def committedStatus (p : Uuid) (trace : List (Nat × Obs)) : PaymentStatus :=
  ((committedRow p trace).map Payment.status).getD .created

/-- A commit of a payment goes along an edge from the status committed before, which its audit event
    names. -/
def AlongEdge (older : List (Nat × Obs)) (_ : Nat) (commit : Commit) : Prop :=
  ∀ row, commit.row = some row →
    isValidStateTransition (committedStatus row.id older) row.status = true ∧
      ∃ event, transitions row.id commit.paymentEvents = [event] ∧
        event.fromStatus = some (committedStatus row.id older) ∧ event.toStatus = row.status

/-- Whenever the second read of `handlePaymentResult` finds a payment to be given up, the payment is
    still `FAILED`. -/
def givesUpFailed : Condition where
  call _ w c _ :=
    match c with
    | .paymentFindUnique (.retryDecision errorCode) p =>
      (w.payment p).all fun row => givesUp errorCode row → row.status = .failed
    | _ => true
  event _ _ := true

/-- What the second reads have found under that condition. -/
def DecisionsFailed (w : World) : Prop :=
  ∀ t errorCode row, (t, Obs.read (.retryDecision errorCode) (some row)) ∈ w.trace →
    givesUp errorCode row = true → row.status = .failed

variable {site : Deployment} {t : Nat} {w w' : World} {db : Db} {p : Uuid}
  {old row : Payment} {event : PaymentEvent} {events : List PaymentEvent} {first last : PaymentStatus}
  {pool : Pool calls JsError World}

theorem replay_append (status : PaymentStatus) (events added : List PaymentEvent) :
    replay status (events ++ added) = (replay status events).bind fun middle => replay middle added := by
  induction events generalizing status with
  | nil => rfl
  | cons event events ih =>
    simp only [List.cons_append, replay]
    split
    · exact ih _
    · rfl

theorem replay_single (fromStatus : event.fromStatus = some first)
    (valid : isValidStateTransition first event.toStatus = true) : replay first [event] = some event.toStatus := by
  simp [replay, fromStatus, valid]

/-- Nothing follows a terminal status. -/
theorem eq_nil_of_replay_terminal (terminal : first ∈ terminalStates) (replayed : replay first events = some last) :
    events = [] := by
  cases events with
  | nil => rfl
  | cons event events => simp [replay, isValidStateTransition_terminal terminal] at replayed

theorem DecisionsFailed.step (failed : DecisionsFailed w) (step : Step site givesUpFailed t w w') :
    DecisionsFailed w' := by
  intro u errorCode row member gives
  rcases step.reads member with before | ⟨p, choice, found, admitted⟩
  · exact failed u errorCode row before gives
  · simp only [givesUpFailed, ← found, Option.all_some, decide_eq_true_eq] at admitted
    exact admitted gives

/-- Every transition goes along an edge from the status it finds, when those that give up do. -/
theorem Cause.edge (cause : Cause site w t p old event) (decisions : DecisionsFailed w) :
    event.fromStatus = some old.status ∧ isValidStateTransition old.status event.toStatus = true := by
  cases cause with
  | enter _ _ _ status is | succeed _ _ _ status is | fail _ _ _ _ status is | permanentlyFail _ _ status _ is
  | schedule _ _ _ _ _ status _ is | retry _ _ _ status is =>
    rw [is.fromStatus, is.toStatus, status]
    exact ⟨rfl, rfl⟩
  | giveUp own _ exhausted _ status _ is =>
    have found := decisions t _ _ (World.mem_history.mp (own ▸ List.mem_cons_self ..)) exhausted
    rw [is.fromStatus, is.toStatus, status, found]
    exact ⟨rfl, rfl⟩
  | cancel _ _ _ valid is =>
    rw [is.fromStatus, is.toStatus]
    exact ⟨rfl, valid⟩
  | settle _ _ _ status _ is =>
    rw [is.fromStatus, is.toStatus, status]
    refine ⟨rfl, ?_⟩
    rcases webhookTarget_settles _ with target | target <;> rw [target] <;> rfl

theorem replay_of_evolved (decisions : DecisionsFailed w) (step : Evolved site w t w' p row)
    (before : ∀ old, w.db.payment p = some old →
      replay .created (transitions p w.db.paymentEvents) = some old.status) :
    replay .created (transitions p w'.db.paymentEvents) = some row.status := by
  cases step with
  | kept old found progress same =>
    simp only [Payment.progress, Progress.mk.injEq] at progress
    rw [same, progress.1]
    exact before _ found
  | moved old event cause transition _ _ grown =>
    obtain ⟨fromStatus, valid⟩ := cause.edge decisions
    rw [grown, replay_append, before _ transition.found, transition.status]
    exact replay_single fromStatus valid
  | created event _ _ status _ _ _ is _ single =>
    rw [single, status, ← is.toStatus]
    exact replay_single is.fromStatus (by rw [is.toStatus]; rfl)

theorem Current.status (current : Current w) (p : Uuid) :
    committedStatus p w.trace = ((w.db.payment p).map Payment.status).getD .created := by
  have same := congrArg (Option.map Progress.status) (current p)
  simp only [Option.map_map] at same
  exact congrArg (Option.getD · PaymentStatus.created) same

theorem Transacted.alongEdge (committed : Transacted site w t db row) (decisions : DecisionsFailed w)
    (current : Current w) : AlongEdge w.trace t (w.added (some row) db) := by
  rintro _ ⟨⟩
  rw [current.status]
  cases committed with
  | created _ _ creation _ =>
    rw [creation.rowId, creation.absent, creation.status, creation.added, creation.transitions, if_pos rfl]
    exact ⟨rfl, _, rfl, creation.move.fromStatus, creation.move.toStatus⟩
  | moved cause _ transition _ =>
    obtain ⟨fromStatus, valid⟩ := cause.edge decisions
    rw [transition.id, transition.found, transition.status, transition.added, transition.transitions,
      if_pos rfl]
    exact ⟨valid, _, rfl, fromStatus, rfl⟩

/-- The state machine as the runs see it. -/
structure Conforms (w : World) : Prop where
  known : w.db.Known
  current : Current w
  decisions : DecisionsFailed w
  edges : EveryCommit AlongEdge w.trace
  replayed : ∀ p row, w.db.payment p = some row →
    replay .created (transitions p w.db.paymentEvents) = some row.status

theorem Conforms.step (conforms : Conforms w) (step : Step site givesUpFailed t w w') : Conforms w' where
  known := step.known conforms.known
  current := step.current conforms.current
  decisions := conforms.decisions.step step
  edges := conforms.edges.step step
    (fun _ committed => committed.alongEdge conforms.decisions conforms.current) (fun _ row none => by cases none)
  replayed p _ found :=
    replay_of_evolved conforms.decisions (step.evolved conforms.known found) (conforms.replayed p)

/-- When every giving up finds its payment `FAILED`, every commit goes along an edge from the status
    the payment has, the audit events lead from `CREATED` to it, and a terminal status is the last. -/
theorem transitions_conform (reached : Reached site givesUpFailed pool) :
    Current pool.world ∧ EveryCommit AlongEdge pool.world.trace ∧
      ∀ p row, pool.world.payment p = some row →
        replay .created (transitions p pool.world.db.paymentEvents) = some row.status ∧
        ∀ before event after, transitions p pool.world.db.paymentEvents = before ++ event :: after →
          event.toStatus ∈ terminalStates → after = [] := by
  have conforms := invariant_of_steps Conforms
    ⟨by simp [Db.Known], fun _ => rfl, by simp [DecisionsFailed], throughout_nil _, by rintro p row ⟨⟩⟩
    (fun _ _ _ conforms step => conforms.step step) reached
  refine ⟨conforms.current, conforms.edges, fun p row found => ⟨conforms.replayed p row found, ?_⟩⟩
  intro before event after split terminal
  have replayed := conforms.replayed p row found
  rw [split, replay_append] at replayed
  obtain ⟨middle, _, rest⟩ := Option.bind_eq_some_iff.mp replayed
  simp only [replay] at rest
  split at rest
  · exact eq_nil_of_replay_terminal terminal rest
  · cases rest

/-- A declined payment is given up by its own worker. -/
theorem transitions_conform_declined : ∃ pool, Reached sampleSite givesUpFailed pool ∧
    ((pool.world.payment (sampleId '0')).any fun row => row.status = .permanentlyFailed) = true ∧
    EveryCommit AlongEdge pool.world.trace := by
  obtain ⟨pool, reached, shown⟩ := reached_of_run sampleSite givesUpFailed
    (creation ++ attempt 1 'a' declined ++ acts 1 [{}, {}, {}, {}, {}, {}])
    (fun pool => (pool.world.payment (sampleId '0')).any fun row => row.status = .permanentlyFailed)
    (by decide +kernel)
  exact ⟨pool, reached, shown, (transitions_conform reached).2.1⟩

/-- A declined payment is given up by a second delivery of its job; the first one then gives up a
    payment that is `PERMANENTLY_FAILED`. -/
theorem transitions_conform_fails : ∃ pool row, Reached sampleSite .free pool ∧
    pool.world.payment (sampleId '0') = some row ∧
    replay .created (transitions (sampleId '0') pool.world.db.paymentEvents) ≠ some row.status := by
  obtain ⟨pool, reached, shown⟩ := reached_of_run sampleSite .free
    (creation ++ attempt 1 'a' declined ++ acts 1 [{}, {}] ++ redelivery 1 ++
      acts 2 [{ uuid := sampleId 'b' }, {}, {}, {}] ++ acts 1 [{}, {}])
    (fun pool => (pool.world.payment (sampleId '0')).any fun row =>
      replay .created (transitions (sampleId '0') pool.world.db.paymentEvents) ≠ some row.status)
    (by decide +kernel)
  obtain ⟨row, found, differs⟩ := (Option.any_eq_true _ _).mp shown
  exact ⟨pool, row, reached, found, of_decide_eq_true differs⟩

end PaymentModel
