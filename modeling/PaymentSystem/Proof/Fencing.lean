import PaymentSystem.Properties.AuditTrail
import PaymentSystem.Properties.GatewayCalls

namespace PaymentModel

open Async

/-- The payment is moved on. -/
def Obs.moves (p : Uuid) : Obs → Bool
  | .committed ⟨some row, _, _⟩ => row.id = p
  | _ => false

/-- A payment is settled: it goes from `PROCESSING` to `status` with one audit event of that kind. -/
def Obs.settles (status : PaymentStatus) (eventType : EventType) : Obs → Bool
  | .committed ⟨some row, [event], _⟩ => row.status = status && event.fromStatus = some .processing &&
    event.toStatus = status && event.eventType = eventType
  | _ => false

/-- Nobody has moved the payment on. -/
def Unmoved (p : Uuid) (newer : List (Nat × Obs)) : Prop := ∀ entry ∈ newer, entry.2.moves p = false

/-- A call that may change the database. -/
def Call.writes : Call → Bool
  | .transaction _ | .statement _ => true
  | _ => false

/-- The calls to the queues. -/
def Call.queues : Call → Bool
  | .processQueueAdd _ | .retryQueueAdd .. | .processJobFinished .. | .retryJobFinished .. => true
  | _ => false

variable {site : Deployment} {R : Condition} {t : Nat} {w w' : World} {p : Uuid} {o : Obs} {row current : Payment}
  {entry : Nat × Obs} {trace newer older : List (Nat × Obs)} {commit : Commit} {pool : Pool calls JsError World}

theorem Obs.returned_of_moves (moves : o.moves p = true) :
    ∃ commit row, o = .committed commit ∧ commit.row = some row ∧ row.id = p := by
  cases o with
  | committed commit =>
    obtain ⟨row, paymentEvents, webhookEvents⟩ := commit
    cases row with
    | none => cases moves
    | some row => exact ⟨_, row, rfl, rfl, of_decide_eq_true moves⟩
  | _ => cases moves

theorem Obs.settled_of_settles {status : PaymentStatus} {eventType : EventType}
    (settles : o.settles status eventType = true) :
    ∃ commit row event, o = .committed commit ∧ commit.row = some row ∧ event ∈ commit.paymentEvents ∧
      row.status = status ∧ event.Is .processing status eventType := by
  unfold Obs.settles at settles
  split at settles
  · rename_i row event webhookEvents
    simp only [Bool.and_eq_true, decide_eq_true_eq] at settles
    obtain ⟨⟨⟨moved, fromStatus⟩, toStatus⟩, kind⟩ := settles
    exact ⟨_, row, event, rfl, rfl, List.mem_singleton_self _, moved, fromStatus, toStatus, kind⟩
  · cases settles

theorem EveryCommit.before {P : List (Nat × Obs) → Nat → Commit → Prop} (all : EveryCommit P (newer ++ older)) :
    EveryCommit P older := by
  intro newer' entry older' split
  exact all (newer ++ newer') entry older' (by rw [split, List.append_assoc])

/-- Every transition of a payment raises the version that is committed. -/
theorem committedVersion_lt (raises : EveryCommit Raises (newer ++ older)) (member : entry ∈ newer)
    (moves : entry.2.moves p = true) : committedVersion p older < committedVersion p (newer ++ older) := by
  obtain ⟨last, between, rfl⟩ := List.append_of_mem member
  obtain ⟨u, o⟩ := entry
  obtain ⟨commit, row, rfl, returned, rfl⟩ := Obs.returned_of_moves moves
  rw [List.append_assoc, List.cons_append] at raises ⊢
  have version := ((throughout_cons.mp raises.before).1 commit rfl).version row returned
  have before : committedVersion row.id older ≤ committedVersion row.id (between ++ older) :=
    committedVersion_le (throughout_cons.mp raises.before).2 row.id
  have after := committedVersion_le raises row.id
  have here : committedVersion row.id ((u, .committed commit) :: (between ++ older)) = row.version := by
    simp [committedVersion, committedRow_returned returned]
  rw [here] at after
  omega

theorem unmoved_of_version (raises : EveryCommit Raises (newer ++ older))
    (same : committedVersion p (newer ++ older) = committedVersion p older) : Unmoved p newer := by
  intro entry member
  by_contra moves
  have later := committedVersion_lt raises member (by simpa using moves)
  omega

theorem committedRow_still (still : o.moves p = false) (t : Nat) (older : List (Nat × Obs)) :
    committedRow p ((t, o) :: older) = committedRow p older := by
  cases o with
  | committed commit =>
    obtain ⟨row, _, _⟩ := commit
    cases row with
    | none => rfl
    | some row => exact if_neg (of_decide_eq_false still)
  | _ => rfl

theorem committedVersion_of_unmoved (unmoved : Unmoved p newer) :
    committedVersion p (newer ++ older) = committedVersion p older := by
  induction newer with
  | nil => rfl
  | cons entry newer ih =>
    have rest := ih fun entry member => unmoved entry (List.mem_cons_of_mem _ member)
    have here := unmoved entry (List.mem_cons_self ..)
    rw [← rest, List.cons_append, committedVersion, committedVersion, committedRow_still here]

theorem committedVersion_found (reached : Reached site R pool) (found : pool.world.payment p = some row) :
    committedVersion p pool.world.trace = row.version := by
  have same := (current reached).version p
  rw [show pool.world.db.payment p = some row from found] at same
  exact same

theorem reads_committed (reached : Reached site R pool) : Throughout (fun older entry => ∀ place row,
    entry.2 = .read place (some row) → committedVersion row.id older = row.version) pool.world.trace := by
  refine (invariant_of_steps (fun w => Current w ∧ Throughout (fun older entry => ∀ place row,
    entry.2 = .read place (some row) → committedVersion row.id older = row.version) w.trace)
    ⟨fun _ => rfl, throughout_nil _⟩ (fun t w w' held step => ⟨step.current held.1, ?_⟩) reached).2
  refine held.2.step step ?_
  rintro _ trace place row rfl
  obtain ⟨p, _, found, _⟩ := step.read trace
  have id : row.id = p := payment_id found.symm
  rw [held.1.version row.id, id, show w.db.payment p = some row from found.symm]
  rfl

/-- A payment has the version in which it was read exactly as long as nobody has moved it on. -/
theorem unmoved_iff_read (reached : Reached site R pool) {place : ReadSite}
    (split : pool.world.trace = newer ++ (t, .read place (some row)) :: older)
    (found : pool.world.payment row.id = some current) : Unmoved row.id newer ↔ current.version = row.version := by
  have raises := every_commit_raises reached
  have now := committedVersion_found reached found
  have read : committedVersion row.id ((t, .read place (some row)) :: older) = row.version := by
    rw [← reads_committed reached newer (t, .read place (some row)) older split place row rfl, committedVersion,
      committedVersion, committedRow_plain (by simp)]
  rw [split] at raises now
  rw [← now, ← read]
  exact ⟨committedVersion_of_unmoved, unmoved_of_version raises⟩

/-- Whoever commits after a read finds the payment unmoved since. -/
theorem unmoved_at_commit (reached : Reached site R pool) {place : ReadSite} {old : Payment} {h : List Obs}
    (split : pool.world.trace = newer ++ (t, .committed commit) :: older) (returned : commit.row = some row)
    (own : historyOf older t = .read place (some old) :: h) (id : old.id = row.id) {between before : List (Nat × Obs)}
    (read : older = between ++ (t, .read place (some old)) :: before) : Unmoved row.id between := by
  subst read
  have raises := every_commit_raises reached
  have held := (raises newer _ _ split commit rfl).held row returned
  have found := reads_committed reached (newer ++ (t, .committed commit) :: between) (t, .read place (some old)) before
    (by rw [split, List.append_assoc, List.cons_append]) _ _ rfl
  rw [own, ← id, heldVersion_read, Option.getD_some] at held
  rw [split] at raises
  refine unmoved_of_version (throughout_cons.mp raises.before).2 ?_
  rw [← id, ← held, ← found, committedVersion, committedVersion, committedRow_plain (by simp)]

theorem Entered.id {processing : Payment} {h : List Obs} (entered : Entered p processing h)
    (suffix : h <:+ historyOf trace t) (raises : EveryCommit Raises trace) : processing.id = p := by
  obtain ⟨working, pending, returned, events, paymentId, is, status⟩ := entered
  obtain ⟨older, _, raised⟩ := raises.of_suffix suffix
  have single := (raised _ rfl).single p
  rw [events, returned] at single
  simp only [Option.map_some, Option.some.injEq] at single
  by_contra other
  simp [transitions, PaymentEvent.isTransition, paymentId, is.fromStatus, is.eventType, other] at single

theorem World.remote_frame {α β : Type} {fault : Fault} {answer outcome : Except JsError α} {effect : World}
    {note : Option Obs} (h : w.remote t fault answer effect note = (outcome, w')) (part : World → β)
    (logs : ∀ w o, part (w.log t o) = part w) (same : part effect = part w) : part w' = part w := by
  rcases World.remote_cases h with ⟨_, _, rfl⟩ | ⟨_, _, rfl⟩ | ⟨_, _, rfl⟩
  · cases note with
    | none => exact same
    | some o => exact (logs effect o).trans same
  · exact logs w _
  · exact (logs effect _).trans same

/-- A part of the world that neither the history nor the locks nor the records are in is left alone by a
    call, if it holds the database by a call that only reads, and if it holds the queues by the calls to
    others. -/
theorem perform_frame {β : Type} {c : Call} {choice : Choice} {outcome : Except JsError c.Answer}
    (performed : perform t c choice w = some (outcome, w')) (part : World → β)
    (logs : ∀ w o, part (w.log t o) = part w) (locks : ∀ w key token, part (World.setLock w key token) = part w)
    (records : ∀ w key record, part (World.setRecord w key record) = part w)
    (reads : c.writes = true → ∀ w db, part { w with db } = part w)
    (queues : c.queues = true → ∀ w processQueue retryQueue, part { w with processQueue, retryQueue } = part w) :
    part w' = part w := by
  cases c with
  | transaction body | statement body =>
    rcases World.database_cases (Option.some.inj performed) with ⟨_, db, _, h⟩ | ⟨_, _, h⟩
    · exact World.remote_frame h part logs ((logs _ _).trans (reads rfl w db))
    · exact World.remote_frame h part logs (logs _ _)
  | processQueueAdd job =>
    exact World.remote_frame (Option.some.inj performed) part logs ((logs _ _).trans (queues rfl w _ w.retryQueue))
  | retryQueueAdd job =>
    exact World.remote_frame (Option.some.inj performed) part logs ((logs _ _).trans (queues rfl w w.processQueue _))
  | processJobFinished =>
    exact World.remote_frame (Option.some.inj performed) part logs (queues rfl w _ w.retryQueue)
  | retryJobFinished =>
    exact World.remote_frame (Option.some.inj performed) part logs (queues rfl w w.processQueue _)
  | generateId =>
    simp only [perform] at performed
    split at performed
    · cases performed
    · cases performed
      exact logs _ _
  | mathRandom =>
    simp only [perform] at performed
    split at performed
    · cases performed
      rfl
    · cases performed
  | dateNow =>
    cases performed
    rfl
  | gatewaySend request | next key | respond code body =>
    cases performed
    exact logs _ _
  | breakerAdmits p =>
    cases performed
    split
    · rfl
    · exact logs _ _
  | gatewayReceive p =>
    simp only [perform] at performed
    split at performed <;> (cases performed; exact logs _ _)
  | lockSet key token =>
    simp only [perform] at performed
    split at performed
    · exact World.remote_frame (Option.some.inj performed) part logs rfl
    · exact World.remote_frame (Option.some.inj performed) part logs (locks ..)
  | recordSetNx =>
    simp only [perform] at performed
    split at performed
    · exact World.remote_frame (Option.some.inj performed) part logs (logs _ _)
    · exact World.remote_frame (Option.some.inj performed) part logs ((logs _ _).trans (records ..))
  | lockRelease key token =>
    simp only [perform] at performed
    have released := logs w (.unlocked key token)
    rw [← released]
    split at performed
    · exact World.remote_frame (Option.some.inj performed) part logs (locks ..)
    · exact World.remote_frame (Option.some.inj performed) part logs rfl
  | recordSet => exact World.remote_frame (Option.some.inj performed) part logs (records ..)
  | paymentFindUnique | webhookEventFindUnique | recordGet =>
    exact World.remote_frame (Option.some.inj performed) part logs rfl

theorem perform_db {c : Call} {choice : Choice} {outcome : Except JsError c.Answer}
    (performed : perform t c choice w = some (outcome, w')) (reads : c.writes = false) : w'.db = w.db := by
  apply perform_frame performed World.db
  · exact fun _ _ => rfl
  · exact fun _ _ _ => rfl
  · exact fun _ _ _ => rfl
  · exact fun writes => absurd (writes.symm.trans reads) (by decide)
  · exact fun _ _ _ _ => rfl

theorem World.database_effect {α : Type} {choice : Choice} {body : Tx α} {row : α → Option Payment}
    {outcome : Except JsError α} (h : w.database t choice body row = (outcome, w')) :
    (∃ value, body choice.now w.db = .ok (value, w'.db)) ∨ (w'.db = w.db ∧ ∃ e, outcome = .error e) := by
  rcases World.database_cases h with ⟨value, db, ran, h⟩ | ⟨e, _, h⟩
  · rcases World.remote_cases h with ⟨_, _, rfl⟩ | ⟨_, rfl, rfl⟩ | ⟨_, _, rfl⟩
    · exact .inl ⟨value, ran⟩
    · exact .inr ⟨rfl, _, rfl⟩
    · exact .inl ⟨value, ran⟩
  · refine .inr ⟨World.remote_frame h World.db (fun _ _ => rfl) rfl, ?_⟩
    rcases World.remote_cases h with ⟨_, rfl, _⟩ | ⟨_, rfl, _⟩ | ⟨_, rfl, _⟩ <;> exact ⟨_, rfl⟩

theorem World.database_takes {α : Type} {choice : Choice} {body : Tx α} {row : α → Option Payment}
    {outcome : Except JsError α} {value : α} {db : Db} (ran : body choice.now w.db = .ok (value, db))
    (h : w.database t choice body row = (outcome, w')) : w'.db = if choice.fault = .before then w.db else db := by
  rcases World.database_cases h with ⟨value', db', ran', h⟩ | ⟨e, failed, _⟩
  · cases ran.symm.trans ran'
    rcases World.remote_cases h with ⟨fault, _, rfl⟩ | ⟨fault, _, rfl⟩ | ⟨fault, _, rfl⟩ <;> simp [fault, World.commit]
  · rw [ran] at failed
    cases failed

/-- A body that fails is rejected, with its own error when the store answers. -/
theorem World.database_rejected {α : Type} {choice : Choice} {body : Tx α} {row : α → Option Payment}
    {outcome : Except JsError α} {e : JsError} (failed : body choice.now w.db = .error e)
    (h : w.database t choice body row = (outcome, w')) :
    w'.db = w.db ∧ (∃ e, outcome = .error e) ∧ (choice.fault = .none → outcome = .error e) := by
  rcases World.database_cases h with ⟨value, db, ran, _⟩ | ⟨e', failed', h⟩
  · rw [failed] at ran
    cases ran
  · cases failed.symm.trans failed'
    refine ⟨World.remote_frame h World.db (fun _ _ => rfl) rfl, ?_⟩
    rcases World.remote_cases h with ⟨_, rfl, _⟩ | ⟨fault, rfl, _⟩ | ⟨fault, rfl, _⟩
    · exact ⟨⟨_, rfl⟩, fun _ => rfl⟩
    · exact ⟨⟨_, rfl⟩, fun is => by rw [fault] at is; cases is⟩
    · exact ⟨⟨_, rfl⟩, fun is => by rw [fault] at is; cases is⟩

theorem Tx.bind_failed {α β : Type} {body : Tx α} {f : α → Tx β} {now : Nat} {db : Db} {e : JsError}
    (failed : body now db = .error e) : (body >>= f) now db = .error e := by
  simp only [bind, failed]

theorem paymentUpdate_stale {version now : Nat} {data : PaymentUpdateInput} {db : Db}
    (stale : ∀ row, db.payment p = some row → row.version ≠ version) :
    paymentUpdate p version data now db = .error recordNotFound := by
  unfold paymentUpdate
  rw [Tx.clock_bind, Tx.read_bind]
  cases found : db.payment p with
  | none => rfl
  | some row =>
    dsimp only
    rw [if_pos (stale row found)]
    rfl

theorem recordedUpdate_stale {version now : Nat} {data : PaymentUpdateInput} {event : Payment → PaymentEvent} {db : Db}
    (stale : ∀ row, db.payment p = some row → row.version ≠ version) :
    recordedUpdate p version data event now db = .error recordNotFound := Tx.bind_failed (paymentUpdate_stale stale)

theorem transitionStateInTx_stale {fromStatus toStatus : PaymentStatus} {version now : Nat} {data : AdditionalData}
    {db : Db} (stale : ∀ row, db.payment p = some row → row.version ≠ version) : ∃ message details,
      transitionStateInTx p fromStatus toStatus version data spelled now db = .error (conflictError message details) := by
  unfold transitionStateInTx
  split
  · exact ⟨_, _, Tx.tryCatch_error (recordedUpdate_stale stale)⟩
  · exact ⟨_, _, rfl⟩

end PaymentModel
