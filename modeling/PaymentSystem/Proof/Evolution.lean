import PaymentSystem.Proof.Runs

namespace PaymentModel

open Async

/-- The transition events of a payment: those with a `fromStatus`, the gateway's answers aside. -/
def PaymentEvent.isTransition (p : Uuid) (event : PaymentEvent) : Bool :=
  event.paymentId = p ∧ event.fromStatus.isSome ∧ event.eventType ≠ .gatewayResponse

def transitions (p : Uuid) (events : List PaymentEvent) : List PaymentEvent :=
  events.filter (PaymentEvent.isTransition p)

/-- The audit log has no entry without its payment. -/
def Db.Known (db : Db) : Prop := ∀ event ∈ db.paymentEvents, (db.payment event.paymentId).isSome

/-- The columns that only transitions change. -/
structure Progress where
  status : PaymentStatus
  version : Nat
  retryCount : Nat
  maxRetries : Nat
  errorCode : Option String

def Payment.progress (row : Payment) : Progress where
  status := row.status
  version := row.version
  retryCount := row.retryCount
  maxRetries := row.maxRetries
  errorCode := row.errorCode

/-- How payment `p` has come to `row` in a step: it was that way, or thread `t` has committed the
    transition that took it there, or thread `t` has created it. -/
inductive Evolved (site : Deployment) (w : World) (t : Nat) (w' : World) (p : Uuid) (row : Payment) : Prop
  | kept (old : Payment) (found : w.db.payment p = some old) (progress : row.progress = old.progress)
    (same : transitions p w'.db.paymentEvents = transitions p w.db.paymentEvents)
  | moved (old : Payment) (event : PaymentEvent) (cause : Cause site w t p old event)
    (transition : Transition w.db w'.db p old row event) (reports : Reports w.db w'.db p event)
    (trace : w'.trace = (t, .committed (w.added (some row) w'.db)) :: w.trace)
    (grown : transitions p w'.db.paymentEvents = transitions p w.db.paymentEvents ++ [event])
  | created (event : PaymentEvent) (absent : w.db.payment p = none) (id : row.id = p) (status : row.status = .pending)
    (version : row.version = 2) (retryCount : row.retryCount = 0) (maxRetries : row.maxRetries = site.maxRetries)
    (is : event.Is .created .pending .stateChange)
    (trace : w'.trace = (t, .committed (w.added (some row) w'.db)) :: w.trace)
    (single : transitions p w'.db.paymentEvents = [event])

/-- The row that the commits of a trace leave payment `p` with. -/
def committedRow (p : Uuid) : List (Nat × Obs) → Option Payment
  | [] => none
  | (_, .committed ⟨some row, _, _⟩) :: older => if row.id = p then some row else committedRow p older
  | _ :: older => committedRow p older

/-- The rows have the progress that the trace has committed. -/
def Current (w : World) : Prop :=
  ∀ p, (committedRow p w.trace).map Payment.progress = (w.db.payment p).map Payment.progress

/-- What the commits of the trace leave of the payments and what the store has are the same in `part`. -/
def Mirrors {β : Type} (part : Payment → β) (w : World) : Prop :=
  ∀ p, (committedRow p w.trace).map part = (w.db.payment p).map part

/-- Every commit of the trace is related by `P` to the entries before it. -/
def EveryCommit (P : List (Nat × Obs) → Nat → Commit → Prop) : List (Nat × Obs) → Prop :=
  Throughout fun older entry => ∀ commit, entry.2 = .committed commit → P older entry.1 commit

def Obs.commit : Obs → Option Commit
  | .committed commit => some commit
  | _ => none

theorem Obs.commit_iff {o : Obs} {commit : Commit} : o.commit = some commit ↔ o = .committed commit := by
  cases o <;> simp [Obs.commit]

instance EveryCommit.decidable {P : List (Nat × Obs) → Nat → Commit → Prop}
    [∀ older t commit, Decidable (P older t commit)] : DecidablePred (EveryCommit P) := fun trace =>
  decidable_of_iff (Throughout (fun older entry => ∀ commit ∈ entry.2.commit, P older entry.1 commit) trace)
    (by simp [EveryCommit, Obs.commit_iff])

variable {site : Deployment} {R : Condition} {t : Nat} {w w' : World} {db db' : Db} {p q : Uuid}
  {old new row : Payment} {event : PaymentEvent} {pool : Pool calls JsError World}

theorem transitions_append (p : Uuid) (events added : List PaymentEvent) :
    transitions p (events ++ added) = transitions p events ++ transitions p added :=
  List.filter_append ..

theorem transitions_other {added : List PaymentEvent} (other : ∀ event ∈ added, event.paymentId ≠ p) :
    transitions p added = [] := by
  rw [transitions, List.filter_eq_nil_iff]
  intro event member
  simp [PaymentEvent.isTransition, other event member]

theorem Db.Known.transitions_absent (known : db.Known) (absent : db.payment p = none) :
    transitions p db.paymentEvents = [] := by
  refine transitions_other fun event member same => ?_
  have present := known event member
  rw [same, absent] at present
  cases present

theorem Transition.transitions (moved : Transition db db' p old new event) (q : Uuid) :
    transitions q [event] = if q = p then [event] else [] := by
  by_cases same : q = p
  · simp [PaymentModel.transitions, PaymentEvent.isTransition, moved.paymentId, moved.moves, moved.kind, same]
  · simp [PaymentModel.transitions, PaymentEvent.isTransition, moved.paymentId, same, Ne.symm same]

theorem Creation.transitions {key : Option String} {limit : Nat} {made moved : PaymentEvent}
    (creation : Creation db db' p key limit row made moved) (q : Uuid) :
    transitions q [made, moved] = if q = p then [moved] else [] := by
  by_cases same : q = p
  · simp [PaymentModel.transitions, PaymentEvent.isTransition, creation.createdFrom, creation.movedId,
      creation.move.fromStatus, creation.move.eventType, same]
  · simp [PaymentModel.transitions, PaymentEvent.isTransition, creation.createdId, creation.movedId, same,
      Ne.symm same]

/-- The events of a transaction contain one transition of its payment and none of another. -/
theorem Transacted.transitions (committed : Transacted site w t db row) (p : Uuid) :
    (transitions p (w.added (some row) db).paymentEvents).length = if p = row.id then 1 else 0 := by
  cases committed with
  | created _ _ creation _ =>
    rw [creation.added, creation.transitions, creation.rowId]
    split <;> rfl
  | moved _ _ transition _ =>
    rw [transition.added, transition.transitions, transition.id]
    split <;> rfl

theorem Stated.transitions (stated : Stated w.db db) (p : Uuid) :
    transitions p (w.added none db).paymentEvents = [] := by
  cases stated with
  | response is _ _ paymentEvents _ =>
    simp [World.added, paymentEvents, PaymentModel.transitions, PaymentEvent.isTransition, is.eventType]
  | reference retouch => simp [World.added, retouch.paymentEvents, PaymentModel.transitions]
  | webhook _ _ paymentEvents _ => simp [World.added, paymentEvents, PaymentModel.transitions]
  | keys ledger => simp [World.added, ledger.paymentEvents, PaymentModel.transitions]

theorem Stated.progress (stated : Stated db db') (p : Uuid) :
    (db'.payment p).map Payment.progress = (db.payment p).map Payment.progress := by
  cases stated with
  | response _ _ payments _ _ => rw [Db.payment, payments]; rfl
  | reference retouch =>
    rw [retouch.payment]
    split
    · rename_i same
      subst same
      simp [retouch.found, Payment.progress, retouch.status, retouch.version, retouch.retryCount,
        retouch.maxRetries, retouch.errorCode]
    · rfl
  | webhook _ payments _ _ => rw [Db.payment, payments]; rfl
  | keys ledger => rw [Db.payment, ledger.payments]; rfl

theorem Stated.payment (stated : Stated db db') (found : db'.payment p = some new) :
    ∃ old, db.payment p = some old ∧ new.progress = old.progress := by
  have same := stated.progress p
  rw [found] at same
  obtain ⟨old, found', progress⟩ := Option.map_eq_some_iff.mp same.symm
  exact ⟨old, found', progress.symm⟩

theorem Stated.known (stated : Stated db db') (known : db.Known) : db'.Known := by
  have present : ∀ p, (db.payment p).isSome → (db'.payment p).isSome := by
    intro p isSome
    obtain ⟨row, found⟩ := Option.isSome_iff_exists.mp isSome
    obtain ⟨current, found', _⟩ := stated.extends p row found
    rw [found']
    rfl
  intro event member
  cases stated with
  | response _ here _ paymentEvents _ =>
    rw [paymentEvents, List.mem_append, List.mem_singleton] at member
    rcases member with before | rfl
    · exact present _ (known event before)
    · exact present _ here
  | reference retouch => exact present _ (known event (retouch.paymentEvents ▸ member))
  | webhook _ _ paymentEvents _ => exact present _ (known event (paymentEvents ▸ member))
  | keys ledger => exact present _ (known event (ledger.paymentEvents ▸ member))

theorem Transacted.known (committed : Transacted site w t db row) (known : w.db.Known) : db.Known := by
  intro event member
  rw [committed.payment]
  split
  · rfl
  · rename_i other
    rw [committed.logged, List.mem_append] at member
    rcases member with before | new
    · exact known event before
    · exfalso
      cases committed with
      | created _ _ creation _ =>
        rw [creation.added, List.mem_cons, List.mem_singleton] at new
        rcases new with rfl | rfl
        · exact other (creation.createdId.trans creation.rowId.symm)
        · exact other (creation.movedId.trans creation.rowId.symm)
      | moved _ _ transition _ =>
        rw [transition.added, List.mem_singleton] at new
        subst new
        exact other (transition.paymentId.trans transition.id.symm)

theorem Step.known (step : Step site R t w w') (known : w.db.Known) : w'.db.Known := by
  rcases step.db with ⟨same, _⟩ | ⟨row, _, committed⟩ | ⟨_, stated⟩
  · rwa [same]
  · exact committed.known known
  · exact stated.known known

theorem Transacted.evolved (committed : Transacted site w t w'.db row) (known : w.db.Known)
    (trace : w'.trace = (t, .committed (w.added (some row) w'.db)) :: w.trace)
    (found : w'.db.payment p = some new) : Evolved site w t w' p new := by
  cases committed with
  | created own admissible creation held =>
    have grown := creation.paymentEvents
    rw [creation.payment] at found
    split at found
    · rename_i same
      subst same
      cases found
      refine .created _ creation.absent creation.rowId creation.status creation.version creation.retryCount
        creation.maxRetries creation.move trace ?_
      rw [grown, transitions_append, known.transitions_absent creation.absent, creation.transitions, if_pos rfl]
      rfl
    · rename_i other
      refine .kept _ found rfl ?_
      rw [grown, transitions_append, creation.transitions, if_neg other, List.append_nil]
  | moved cause held transition reports =>
    have grown := transition.paymentEvents
    rw [transition.payment] at found
    split at found
    · rename_i same
      subst same
      cases found
      refine .moved _ _ cause transition reports trace ?_
      rw [grown, transitions_append, transition.transitions, if_pos rfl]
    · rename_i other
      refine .kept _ found rfl ?_
      rw [grown, transitions_append, transition.transitions, if_neg other, List.append_nil]

theorem Step.evolved (step : Step site R t w w') (known : w.db.Known) (found : w'.db.payment p = some new) :
    Evolved site w t w' p new := by
  rcases step.db with ⟨same, _⟩ | ⟨row, trace, committed⟩ | ⟨_, stated⟩
  · have found' := found
    rw [same] at found'
    exact .kept _ found' rfl (by rw [same])
  · exact committed.evolved known trace found
  · obtain ⟨old, found', progress⟩ := stated.payment found
    refine .kept _ found' progress ?_
    rw [stated.logged, transitions_append, stated.transitions, List.append_nil]

/-- A payment stays in statuses that the step does not move it out of. -/
theorem Step.stays (step : Step site R t w w') (known : w.db.Known) {P : PaymentStatus → Prop}
    (closed : ∀ old event commit, Cause site w t p old event → w'.trace = (t, .committed commit) :: w.trace →
      P old.status → P event.toStatus)
    (inside : ∃ old, w.db.payment p = some old ∧ P old.status) :
    ∃ row, w'.db.payment p = some row ∧ P row.status := by
  obtain ⟨old, found, inside⟩ := inside
  obtain ⟨row, found', _⟩ := step.extends p old found
  refine ⟨row, found', ?_⟩
  cases step.evolved known found' with
  | kept old' found'' progress _ =>
    rw [found] at found''
    cases found''
    have status : row.status = old.status := congrArg Progress.status progress
    rwa [status]
  | moved old' event cause transition _ trace _ =>
    have found'' := transition.found
    rw [found] at found''
    cases found''
    rw [transition.status]
    exact closed old event _ cause trace inside
  | created _ absent =>
    rw [found] at absent
    cases absent

/-- And so does one that an entry of the history has once brought into them. -/
theorem Step.lasts (step : Step site R t w w') (known : w.db.Known) {P : PaymentStatus → Prop} {brings : Obs → Bool}
    (closed : ∀ old event, Cause site w t p old event → P old.status → P event.toStatus)
    (new : ∀ o, w'.trace = (t, o) :: w.trace → brings o = true → ∃ row, w'.db.payment p = some row ∧ P row.status)
    (held : ∀ u o, (u, o) ∈ w.trace → brings o = true → ∃ row, w.db.payment p = some row ∧ P row.status) (u : Nat)
    (o : Obs) (member : (u, o) ∈ w'.trace) (brought : brings o = true) :
    ∃ row, w'.db.payment p = some row ∧ P row.status := by
  have kept : (u, o) ∈ w.trace → ∃ row, w'.db.payment p = some row ∧ P row.status := by
    intro before
    exact step.stays known (fun old event _ cause _ => closed old event cause) (held u o before brought)
  rcases step.trace with same | ⟨o', same⟩
  · exact kept (same ▸ member)
  · rw [same] at member
    rcases List.mem_cons.mp member with is | before
    · cases is
      exact new o same brought
    · exact kept before

theorem committedRow_plain {o : Obs} (plain : ∀ commit, o ≠ .committed commit) (p : Uuid) (t : Nat)
    (older : List (Nat × Obs)) : committedRow p ((t, o) :: older) = committedRow p older := by
  cases o with
  | committed commit => exact (plain commit rfl).elim
  | _ => rfl

theorem committedRow_returned {commit : Commit} (returned : commit.row = some row) (p : Uuid) (t : Nat)
    (older : List (Nat × Obs)) : committedRow p ((t, .committed commit) :: older) =
      if row.id = p then some row else committedRow p older := by
  obtain ⟨_, _, _⟩ := commit
  cases returned
  rfl

theorem committedRow_silent {commit : Commit} (silent : commit.row = none) (p : Uuid) (t : Nat)
    (older : List (Nat × Obs)) :
    committedRow p ((t, .committed commit) :: older) = committedRow p older := by
  obtain ⟨_, _, _⟩ := commit
  cases silent
  rfl

theorem Step.mirrors {β : Type} {part : Payment → β} (step : Step site R t w w') (mirrors : Mirrors part w)
    (keeps : ∀ body now, Issued site t w (.statement body) → body now w.db = .ok ((), w'.db) →
      ∀ p, (w'.db.payment p).map part = (w.db.payment p).map part) : Mirrors part w' := by
  intro p
  rcases step.wrote with ⟨same, trace⟩ | ⟨_, _, row, trace, issued, ran⟩ | ⟨body, now, trace, issued, ran⟩
  · rw [same, ← mirrors p]
    rcases trace with trace | ⟨o, trace, plain⟩
    · rw [trace]
    · rw [trace, committedRow_plain plain]
  · have returned : (w.added (some row) w'.db).row = some row := rfl
    rw [trace, committedRow_returned returned, (transacted issued ran).payment]
    by_cases same : row.id = p
    · simp [same]
    · simp only [same, Ne.symm same, if_false]
      exact mirrors p
  · rw [trace, committedRow_silent rfl, keeps body now issued ran]
    exact mirrors p

theorem Step.current (step : Step site R t w w') (current : Current w) : Current w' :=
  step.mirrors current fun _ _ issued ran => (PaymentModel.stated issued ran).progress

theorem current (reached : Reached site R pool) : Current pool.world :=
  invariant_of_steps Current (fun _ => rfl) (fun _ _ _ current step => step.current current) reached

theorem Throughout.step {P : List (Nat × Obs) → Nat × Obs → Prop} (all : Throughout P w.trace)
    (step : Step site R t w w') (here : ∀ o, w'.trace = (t, o) :: w.trace → P w.trace (t, o)) :
    Throughout P w'.trace := by
  rcases step.trace with same | ⟨o, same⟩
  · rwa [same]
  · have new := here o same
    rw [same]
    exact throughout_cons.mpr ⟨new, all⟩

theorem EveryCommit.wrote {P : List (Nat × Obs) → Nat → Commit → Prop} (all : EveryCommit P w.trace)
    (step : Step site R t w w')
    (transaction : ∀ body now row, Issued site t w (.transaction body) → body now w.db = .ok (row, w'.db) →
      P w.trace t (w.added (some row) w'.db))
    (statement : ∀ body now, Issued site t w (.statement body) → body now w.db = .ok ((), w'.db) →
      P w.trace t (w.added none w'.db)) : EveryCommit P w'.trace := by
  rcases step.wrote with ⟨_, trace | ⟨o, trace, plain⟩⟩ | ⟨body, now, row, trace, issued, ran⟩ |
    ⟨body, now, trace, issued, ran⟩
  · rwa [trace]
  · rw [trace]
    exact throughout_cons.mpr ⟨fun commit is => (plain commit is).elim, all⟩
  · rw [trace]
    refine throughout_cons.mpr ⟨?_, all⟩
    rintro commit ⟨⟩
    exact transaction body now row issued ran
  · rw [trace]
    refine throughout_cons.mpr ⟨?_, all⟩
    rintro commit ⟨⟩
    exact statement body now issued ran

theorem EveryCommit.step {P : List (Nat × Obs) → Nat → Commit → Prop} (all : EveryCommit P w.trace)
    (step : Step site R t w w')
    (transacted : ∀ row, Transacted site w t w'.db row → P w.trace t (w.added (some row) w'.db))
    (stated : Stated w.db w'.db → P w.trace t (w.added none w'.db)) : EveryCommit P w'.trace :=
  all.wrote step (fun _ _ row issued ran => transacted row (PaymentModel.transacted issued ran))
    fun _ _ issued ran => stated (PaymentModel.stated issued ran)

/-- The invariant rule for properties of the payments and their transitions. -/
theorem invariant_of_evolution (property : Uuid → Payment → List PaymentEvent → Prop)
    (preserved : ∀ {t w w' p row},
      (∀ old, w.db.payment p = some old → property p old (transitions p w.db.paymentEvents)) →
      Evolved site w t w' p row → property p row (transitions p w'.db.paymentEvents))
    (reached : Reached site R pool) (found : pool.world.payment p = some row) :
    property p row (transitions p pool.world.db.paymentEvents) := by
  have invariant := invariant_of_steps
    (fun w => w.db.Known ∧ ∀ p row, w.db.payment p = some row → property p row (transitions p w.db.paymentEvents))
    ⟨by simp [Db.Known], by rintro p row ⟨⟩⟩
    (fun t w w' held step => ⟨step.known held.1, fun p row found =>
      preserved (held.2 p) (step.evolved held.1 found)⟩) reached
  exact invariant.2 p row found

end PaymentModel
