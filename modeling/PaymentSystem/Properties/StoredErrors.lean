import PaymentSystem.Properties.WebhookAttempts

namespace PaymentModel

open Async

/-- What a thread is told about the end of an attempt: the result of its gateway call, or a webhook. -/
inductive AttemptReport where
  | gateway (result : GatewayResult)
  | webhook (payload : Json)

/-- The text that an error member of a webhook writes; one that is absent or falsy is none. -/
def webhookText (payload : Json) (member : String) : Option String :=
  if Json.truthy (payload.field member) then
    match optionalText (payload.field member) with
    | .ok written => written.join
    | .error _ => none
  else none

def webhookErrorCode (payload : Json) : Option String := webhookText payload "errorCode"

def webhookErrorMessage (payload : Json) : Option String := webhookText payload "errorMessage"

def AttemptReport.errorCode : AttemptReport → Option String
  | .gateway result => orNull result.errorCode
  | .webhook payload => webhookErrorCode payload

/-- The report that a thread has been given last, unless it has stored it since. -/
def lastReport : List Obs → Option AttemptReport
  | [] => none
  | .gatewayAnswered _ outcome :: _ => some (.gateway outcome.result)
  | .breakerOpen _ :: _ => some (.gateway (gatewayFailure breakerOpenError))
  | .webhook payload _ :: _ => some (.webhook payload)
  | .committed { row := some _, .. } :: _ => none
  | _ :: h => lastReport h

/-- The row that a thread with history `h` commits: in `FAILED` it has the error code of the thread's report,
    and in `SUCCESS` it has no error. -/
def StoresReport (h : List Obs) (row : Payment) : Prop :=
  (row.status = .failed → row.errorCode = (lastReport h).bind AttemptReport.errorCode) ∧
  (row.status = .success → row.errorCode = none ∧ row.errorMessage = none)

/-- Every row that is committed stores the report of its own attempt. -/
def ReportsStored : List (Nat × Obs) → Prop :=
  EveryCommit fun older t commit => ∀ row ∈ commit.row, StoresReport (historyOf older t) row

/-- What the thread that has moved payment `p` last had done until then. -/
def lastMover (p : Uuid) : List (Nat × Obs) → Option (List Obs)
  | [] => none
  | (t, o) :: older => if o.moves p then some (historyOf older t) else lastMover p older

/-- The row that a retry decision reads. -/
def Obs.decidesOn : Obs → Option Payment
  | .read .handleFailedProcessing row => row
  | _ => none

/-- A retry decision about a payment in `FAILED` reads the error code that was reported to the thread which
    has moved the payment there. -/
def DecidesOnReport (older : List (Nat × Obs)) (entry : Nat × Obs) : Prop :=
  ∀ row ∈ entry.2.decidesOn, row.status = .failed → ∃ h ∈ lastMover row.id older,
    row.errorCode = (lastReport h).bind AttemptReport.errorCode

/-- The column of the error code keeps the code as it is. -/
def KeptWhole (errorCode : Option String) : Prop := ∀ code ∈ errorCode, code.length ≤ 64

/-- What the report makes of the row has nothing of an older attempt, and all of its own. The failure of a
    gateway call overwrites both error columns; its success overwrites none, and a webhook only with a code of
    its own. -/
def AttemptReport.Replaces (old : Payment) : AttemptReport → Prop
  | .gateway result =>
    if result.success then old.errorCode = none ∧ old.errorMessage = none else KeptWhole (orNull result.errorCode)
  | .webhook payload =>
    if Json.truthy (payload.field "errorCode") then
      KeptWhole (webhookErrorCode payload) ∧
        (webhookTarget payload = .success → webhookErrorCode payload = none ∧ webhookErrorMessage payload = none)
    else old.errorCode = none ∧ (webhookTarget payload = .success → old.errorMessage = none)

/-- A thread that takes the row out of `PROCESSING` has a report that replaces its errors. -/
def ReplacesErrors (h : List Obs) (old : Payment) : Prop :=
  old.status = .processing → ∀ report ∈ lastReport h, report.Replaces old

/-- Whoever commits a row replaces the errors of the one that has been committed before. -/
def ErrorsReplaced : List (Nat × Obs) → Prop :=
  EveryCommit fun older t commit => ∀ row ∈ commit.row, ∀ old ∈ committedRow row.id older,
    ReplacesErrors (historyOf older t) old

/-- The columns that tell how the last attempt has ended. -/
structure Ending where
  status : PaymentStatus
  errorCode : Option String
  errorMessage : Option String

def Payment.ending (row : Payment) : Ending where
  status := row.status
  errorCode := row.errorCode
  errorMessage := row.errorMessage

/-- What a webhook stores in the error columns: its own error, or nothing. -/
inductive Writes (payload : Json) (old row : Payment) : Prop
  | own (reports : Json.truthy (payload.field "errorCode") = true)
    (code : row.errorCode = (webhookErrorCode payload).map (cutText 64))
    (message : row.errorMessage = webhookErrorMessage payload)
  | nothing (silent : Json.truthy (payload.field "errorCode") = false) (code : row.errorCode = old.errorCode)
    (message : row.errorMessage = old.errorMessage)

/-- What a transition stores of the report, and what it keeps of the row. -/
inductive Stores (h : List Obs) (old row : Payment) : Prop
  | approved {result : GatewayResult} (reported : lastReport h = some (.gateway result))
    (successful : result.success = true) (was : old.status = .processing)
    (ending : row.ending = { old.ending with status := .success })
  | rejected {result : GatewayResult} (reported : lastReport h = some (.gateway result))
    (unsuccessful : result.success = false) (was : old.status = .processing) (status : row.status = .failed)
    (code : row.errorCode = (orNull result.errorCode).map (cutText 64))
  | webhook {payload : Json} (reported : lastReport h = some (.webhook payload)) (was : old.status = .processing)
    (status : row.status = webhookTarget payload) (written : Writes payload old row)
  | elsewhere (was : old.status = .processing → lastReport h = none) (failed : row.status ≠ .failed)
    (success : row.status ≠ .success)

variable {site : Deployment} {R : Condition} {t : Nat} {w w' : World} {db db' : Db} {p : Uuid} {h : List Obs}
  {old row : Payment} {payload : Json} {now : Nat} {data : PaymentUpdateInput} {pool : Pool calls JsError World}

theorem Recorded.report {processing : Payment} {result : GatewayResult} (recorded : Recorded p processing result h) :
    lastReport h = some (.gateway result) := by
  obtain ⟨attempted, returned⟩ := recorded
  rename_i commit _
  obtain ⟨_, _, _⟩ := commit
  cases returned
  cases attempted with
  | refused => rfl
  | answered => rfl

/-- A failure that its worker has stored is reported no longer. -/
theorem Failed.report {errorCode : Option String} {failed : Payment} (rejected : Failed p errorCode failed h) :
    lastReport h = none := by
  cases rejected with
  | @intro _ _ commit _ recorded unsuccessful final code returned =>
    obtain ⟨_, _, _⟩ := commit
    cases returned
    rfl

theorem keptWhole_iff {errorCode : Option String} : errorCode.map (cutText 64) = errorCode ↔ KeptWhole errorCode :=
  cutText_map_iff

/-- What is written for a truthy member is its text. -/
theorem webhookText_written {member : String} {written : Option (Option String)}
    (reports : Json.truthy (payload.field member) = true)
    (read : optionalText (payload.field member) = .ok written) : written = some (webhookText payload member) := by
  rw [webhookText, if_pos reports, read]
  cases field : payload.field member with
  | none =>
    rw [field] at reports
    cases reports
  | some value =>
    rw [field, optionalText] at read
    split at read <;> cases read
    · rfl
    · rfl

/-- What a webhook writes into the error columns. -/
theorem webhookUpdate_errors {toStatus : PaymentStatus} (built : webhookUpdate payload toStatus now = .ok data) :
    (Json.truthy (payload.field "errorCode") = true → data.errorCode = some (webhookErrorCode payload) ∧
      data.errorMessage = some (webhookErrorMessage payload)) ∧
    (Json.truthy (payload.field "errorCode") = false → data.errorCode = none ∧ data.errorMessage = none) := by
  unfold webhookUpdate at built
  simp only [bind, Except.bind, pure, Except.pure] at built
  split at built
  · cases built
  constructor
  · intro reports
    simp only [reports, if_true] at built
    split at built
    · cases built
    rename_i code read
    obtain rfl := webhookText_written reports read
    cases told : Json.truthy (payload.field "errorMessage") with
    | false =>
      have silent : webhookErrorMessage payload = none := if_neg (ne_true_of_eq_false told)
      simp only [told, Bool.false_eq_true, if_false] at built
      cases built
      exact ⟨rfl, congrArg some silent.symm⟩
    | true =>
      simp only [told, if_true] at built
      split at built
      · cases built
      rename_i message read
      obtain rfl := webhookText_written told read
      cases built
      exact ⟨rfl, rfl⟩
  · intro silent
    simp only [silent, Bool.false_eq_true, if_false] at built
    cases built
    exact ⟨rfl, rfl⟩

theorem Transition.elsewhere {read : Payment} {event : PaymentEvent} {fromStatus toStatus : PaymentStatus}
    {eventType : EventType} (moved : Transition db db' p old row event) (is : event.Is fromStatus toStatus eventType)
    (seen : Seen db p read) (version : old.version = read.version) (was : read.status ≠ .processing)
    (failed : toStatus ≠ .failed) (success : toStatus ≠ .success) :
    ∃ old, db.payment row.id = some old ∧ Stores h old row := by
  have same := (seen.same moved.found version).1
  have status := moved.status.trans is.toStatus
  refine ⟨old, moved.id ▸ moved.found, .elsewhere ?_ ?_ ?_⟩
  · exact fun processing => absurd (same.symm.trans processing) was
  · rwa [status]
  · rwa [status]

theorem processWebhookInTx_stores {signature eventId : String} {read : Payment} {at_ : Nat}
    (names : namedPayment payload = .ok p)
    (ran : processWebhookInTx p payload signature eventId read (webhookTarget payload) at_ now db = .ok (row, db'))
    (seen : Seen db p read) (processing : read.status = .processing)
    (reported : lastReport h = some (.webhook payload)) : ∃ old, db.payment row.id = some old ∧ Stores h old row := by
  obtain ⟨old, event, version, moved, is, _⟩ := processWebhookInTx_ok names ran
  obtain ⟨data, _, built, recorded, _⟩ := processWebhookInTx_ran.mp ran
  obtain ⟨_, found, _, applied, _⟩ := recordedUpdate_ok recorded
  cases moved.found.symm.trans found
  obtain ⟨own, nothing⟩ := webhookUpdate_errors built
  have was := (seen.same moved.found version).1.trans processing
  have status := moved.status.trans is.toStatus
  have written : Writes payload old row := by
    cases reports : Json.truthy (payload.field "errorCode") with
    | true =>
      obtain ⟨code, message⟩ := own reports
      exact .own reports (by simp [applied, PaymentUpdateInput.apply, code])
        (by simp [applied, PaymentUpdateInput.apply, message])
    | false =>
      obtain ⟨code, message⟩ := nothing reports
      exact .nothing reports (by simp [applied, PaymentUpdateInput.apply, code])
        (by simp [applied, PaymentUpdateInput.apply, message])
  exact ⟨old, moved.id ▸ moved.found, .webhook reported was status written⟩

/-- What a transaction stores, when it finds a payment to move on. -/
theorem stores {body : Tx Payment} (issued : Issued site t w (.transaction body))
    (ran : body now w.db = .ok (row, db)) : (w.db.payment row.id = none ∧ row.status = .pending) ∨
      ∃ old, w.db.payment row.id = some old ∧ Stores (w.history t) old row := by
  cases issued with
  | create own admissible =>
    obtain ⟨_, created, moved, creation⟩ := createPaymentInTx_creates ran
    exact .inl ⟨creation.rowId ▸ creation.absent, creation.status⟩
  | enter own working pending seen =>
    obtain ⟨old, event, version, moved, is, _⟩ := transitionStateInTx_ok ran
    exact .inr (moved.elsewhere is seen version (by simp [pending]) (by simp) (by simp))
  | succeed recorded successful seen =>
    obtain ⟨old, event, version, moved, _, _⟩ := transitionStateInTx_ok ran
    obtain ⟨_, found, _, applied, _⟩ := recordedUpdate_ok (transitionStateInTx_ran ran)
    cases moved.found.symm.trans found
    have was := (seen.same moved.found version).1.trans recorded.status
    have ending : row.ending = { old.ending with status := .success } := by
      rw [applied]
      rfl
    exact .inr ⟨old, moved.id ▸ moved.found, .approved recorded.report successful was ending⟩
  | fail recorded unsuccessful final seen =>
    obtain ⟨old, event, version, moved, is, _⟩ := transitionStateInTx_ok ran
    obtain ⟨_, _, code⟩ := transitionStateInTx_errorCode ran
    have was := (seen.same moved.found version).1.trans recorded.status
    have status := moved.status.trans is.toStatus
    exact .inr ⟨old, moved.id ▸ moved.found, .rejected recorded.report unsuccessful was status code⟩
  | giveUp own rejected exhausted agrees seen =>
    obtain ⟨old, event, _, moved, is, _⟩ := transitionStateInTx_ok ran
    have status := moved.status.trans is.toStatus
    exact .inr ⟨old, moved.id ▸ moved.found, .elsewhere (fun _ => own ▸ rejected.report) (by simp [status])
      (by simp [status])⟩
  | cancel own reads seen =>
    have valid := transitionStateInTx_valid ran
    obtain ⟨old, event, version, moved, is, _⟩ := transitionStateInTx_ok ran
    refine .inr (moved.elsewhere is seen version ?_ (by simp) (by simp))
    intro processing
    rw [processing] at valid
    cases valid
  | permanentlyFail own failed decided seen =>
    obtain ⟨old, event, version, moved, is, _⟩ := permanentlyFailInTx_ok ran
    exact .inr (moved.elsewhere is seen version (by simp [failed]) (by simp) (by simp))
  | schedule own failed left limit agrees seen =>
    obtain ⟨old, event, version, moved, is, _⟩ := scheduleRetryInTx_ok ran
    exact .inr (moved.elsewhere is seen version (by simp [failed]) (by simp) (by simp))
  | retry own scheduled seen =>
    obtain ⟨old, event, version, moved, is, _⟩ := executeRetryInTx_ok ran
    exact .inr (moved.elsewhere is seen version (by simp [scheduled]) (by simp) (by simp))
  | settle own names valid seen =>
    have processing := processing_of_settles valid (webhookTarget_settles _)
    exact .inr (processWebhookInTx_stores names ran seen processing (by rw [own]; rfl))

theorem gatewayReferenceUpdate_ending {version : Nat} {gatewayReference : Option String} {value : Unit}
    (ran : gatewayReferenceUpdate p version gatewayReference now db = .ok (value, db')) (q : Uuid) :
    (db'.payment q).map Payment.ending = (db.payment q).map Payment.ending := by
  obtain ⟨new, db₁, updated, ran⟩ := Tx.bind_ok ran
  obtain ⟨old, found, _, applied, rfl⟩ := paymentUpdate_ok updated
  cases ran
  have id : new.id = p := by
    rw [applied]
    exact (payment_id found : old.id = p)
  rw [Db.payment, find_replaced found id]
  split
  · rename_i same
    subst same
    rw [found, applied]
    rfl
  · rfl

/-- A single statement leaves the status and the errors of every payment alone. -/
theorem statement_ending {body : Tx Unit} (issued : Issued site t w (.statement body))
    (ran : body now w.db = .ok ((), db)) (p : Uuid) :
    (db.payment p).map Payment.ending = (w.db.payment p).map Payment.ending := by
  cases issued with
  | recordResponse =>
    obtain ⟨_, rfl⟩ := paymentEventCreate_ok ran
    rfl
  | reference => exact gatewayReferenceUpdate_ending ran p
  | recordWebhook =>
    obtain ⟨_, _, _, _, rfl⟩ := createWebhookEvent_ok ran
    rfl
  | storeKey =>
    rw [Db.payment, (idempotencyKeyCreate_ok ran).payments]
    rfl
  | completeKey =>
    rw [Db.payment, (idempotencyKeyUpdateMany_ok ran).payments]
    rfl

/-- A transition stores its report exactly when it replaces the errors of the row. -/
theorem Stores.iff (stored : Stores h old row) : StoresReport h row ↔ ReplacesErrors h old := by
  unfold StoresReport ReplacesErrors
  cases stored with
  | approved reported successful was ending =>
    simp only [Payment.ending, Ending.mk.injEq] at ending
    obtain ⟨status, code, message⟩ := ending
    simp [reported, was, status, code, message, AttemptReport.Replaces, successful]
  | rejected reported unsuccessful was status code =>
    simp [reported, was, status, code, AttemptReport.Replaces, AttemptReport.errorCode, unsuccessful, keptWhole_iff]
  | @webhook payload reported was status written =>
    cases written with
    | own reports code message =>
      rcases webhookTarget_settles payload with target | target
      · have empty : webhookErrorCode payload = none → KeptWhole (webhookErrorCode payload) := by
          intro none
          simp [KeptWhole, none]
        have replaces : (AttemptReport.webhook payload).Replaces old ↔
            webhookErrorCode payload = none ∧ webhookErrorMessage payload = none := by
          simp only [AttemptReport.Replaces, reports, target, if_true, forall_const, and_iff_right_iff_imp]
          exact fun both => empty both.1
        simp [reported, was, status, target, code, message, replaces]
      · simp [reported, was, status, target, code, AttemptReport.Replaces, AttemptReport.errorCode, reports,
          keptWhole_iff]
    | nothing silent code message =>
      have none : webhookErrorCode payload = none := if_neg (ne_true_of_eq_false silent)
      rcases webhookTarget_settles payload with target | target
      · simp [reported, was, status, target, code, message, AttemptReport.Replaces, silent]
      · simp [reported, was, status, target, code, AttemptReport.Replaces, AttemptReport.errorCode, silent, none]
  | elsewhere was failed success =>
    simp only [failed, success, IsEmpty.forall_iff, and_self, true_iff]
    intro processing report last
    rw [was processing] at last
    cases last

theorem ReplacesErrors.congr {other : Payment} (same : other.ending = old.ending) :
    ReplacesErrors h other ↔ ReplacesErrors h old := by
  simp only [Payment.ending, Ending.mk.injEq] at same
  obtain ⟨status, code, message⟩ := same
  have replaces : ∀ report : AttemptReport, report.Replaces other ↔ report.Replaces old := by
    intro report
    cases report <;> simp [AttemptReport.Replaces, code, message]
  simp [ReplacesErrors, status, replaces]

theorem stores_iff {body : Tx Payment} (mirrors : Mirrors Payment.ending w)
    (issued : Issued site t w (.transaction body)) (ran : body now w.db = .ok (row, db)) :
    StoresReport (w.history t) row ↔ ∀ old ∈ committedRow row.id w.trace, ReplacesErrors (w.history t) old := by
  have before := mirrors row.id
  rcases stores issued ran with ⟨absent, pending⟩ | ⟨old, found, stored⟩
  · rw [absent] at before
    rw [Option.map_eq_none_iff.mp before]
    simp [StoresReport, pending]
  · rw [found] at before
    obtain ⟨other, committed, same⟩ := Option.map_eq_some_iff.mp before
    rw [committed, stored.iff, ← ReplacesErrors.congr same]
    simp

/-- The status and the errors of the payments are those that the commits have left. -/
structure EndingsTraced (w : World) : Prop where
  mirrors : Mirrors Payment.ending w
  commits : EveryCommit (fun older t commit => ∀ row ∈ commit.row, StoresReport (historyOf older t) row ↔
    ∀ old ∈ committedRow row.id older, ReplacesErrors (historyOf older t) old) w.trace
  reads : Throughout (fun older entry => ∀ place row, entry.2 = .read place (some row) →
    (committedRow row.id older).map Payment.ending = some row.ending) w.trace

theorem EndingsTraced.step (traced : EndingsTraced w) (step : Step site R t w w') : EndingsTraced w' where
  mirrors := step.mirrors traced.mirrors fun _ _ issued ran => statement_ending issued ran
  commits := by
    refine traced.commits.wrote step ?_ ?_
    · rintro _ _ _ issued ran _ ⟨⟩
      exact stores_iff traced.mirrors issued ran
    · rintro _ _ _ _ _ ⟨⟩
  reads := by
    refine traced.reads.step step ?_
    rintro _ trace place row rfl
    obtain ⟨p, _, found, _⟩ := step.read trace
    have id : row.id = p := payment_id found.symm
    rw [traced.mirrors row.id, id, show w.db.payment p = some row from found.symm]
    rfl

theorem endings_traced (reached : Reached site R pool) : EndingsTraced pool.world :=
  invariant_of_steps EndingsTraced ⟨fun _ => rfl, throughout_nil _, throughout_nil _⟩
    (fun _ _ _ traced step => traced.step step) reached

theorem Obs.decidesOn_read {o : Obs} (decides : o.decidesOn = some row) :
    o = .read .handleFailedProcessing (some row) := by
  unfold Obs.decidesOn at decides
  split at decides
  · rw [decides]
  · cases decides

theorem lastMover_stored {trace : List (Nat × Obs)} (stored : ReportsStored trace)
    (committed : committedRow p trace = some row) : ∃ h ∈ lastMover p trace, StoresReport h row := by
  induction trace with
  | nil => cases committed
  | cons entry older ih =>
    obtain ⟨t, o⟩ := entry
    obtain ⟨here, before⟩ := throughout_cons.mp stored
    cases moves : o.moves p with
    | false =>
      rw [committedRow_still moves] at committed
      simp only [lastMover, moves, Bool.false_eq_true, if_false]
      exact ih before committed
    | true =>
      obtain ⟨commit, new, rfl, returned, id⟩ := Obs.returned_of_moves moves
      rw [committedRow_returned returned, if_pos id] at committed
      cases committed
      simp only [lastMover, moves, if_true]
      exact ⟨_, rfl, here commit rfl row returned⟩

theorem EndingsTraced.decides (traced : EndingsTraced w) (stored : ReportsStored w.trace) :
    Throughout DecidesOnReport w.trace := by
  rintro newer ⟨u, o⟩ older split row decides failing
  have read := Obs.decidesOn_read decides
  obtain ⟨failed, committed, same⟩ := Option.map_eq_some_iff.mp (traced.reads newer _ older split _ row read)
  simp only [Payment.ending, Ending.mk.injEq] at same
  obtain ⟨status, code, _⟩ := same
  have before : ReportsStored older := by
    rw [split] at stored
    exact (throughout_cons.mp stored.before).2
  obtain ⟨h, mover, stores⟩ := lastMover_stored before committed
  exact ⟨h, mover, code.symm.trans (stores.1 (status.trans failing))⟩

/-- In every reachable state, the commits to `FAILED` and `SUCCESS` have stored what was reported for their own
    attempt, and the retry decisions have used it, exactly when every commit that takes a payment out of
    `PROCESSING` has replaced its errors. -/
theorem stored_errors_iff (reached : Reached site R pool) :
    ReportsStored pool.world.trace ∧ Throughout DecidesOnReport pool.world.trace ↔
      ErrorsReplaced pool.world.trace := by
  have traced := endings_traced reached
  constructor
  · rintro ⟨stored, _⟩ newer entry older split commit is row returned
    exact (traced.commits newer entry older split commit is row returned).mp
      (stored newer entry older split commit is row returned)
  · intro replaced
    have stored : ReportsStored pool.world.trace := by
      intro newer entry older split commit is row returned
      exact (traced.commits newer entry older split commit is row returned).mpr
        (replaced newer entry older split commit is row returned)
    exact ⟨stored, traced.decides stored⟩

instance (errorCode : Option String) : Decidable (KeptWhole errorCode) :=
  inferInstanceAs (Decidable (∀ code ∈ errorCode, code.length ≤ 64))

instance (old : Payment) : (report : AttemptReport) → Decidable (report.Replaces old)
  | .gateway _ => inferInstanceAs (Decidable (ite _ _ _))
  | .webhook _ => inferInstanceAs (Decidable (ite _ _ _))

instance (h : List Obs) (row : Payment) : Decidable (StoresReport h row) := inferInstanceAs (Decidable (_ ∧ _))

instance (h : List Obs) (old : Payment) : Decidable (ReplacesErrors h old) :=
  decidable_of_iff (old.status = .processing → ∀ report ∈ lastReport h, report.Replaces old) .rfl

instance (older : List (Nat × Obs)) (entry : Nat × Obs) : Decidable (DecidesOnReport older entry) :=
  inferInstanceAs (Decidable (∀ row ∈ entry.2.decidesOn, _))

instance : DecidablePred ReportsStored := fun trace => decidable_of_iff (EveryCommit _ trace) .rfl

instance : DecidablePred ErrorsReplaced := fun trace => decidable_of_iff (EveryCommit _ trace) .rfl

/-- The retry of thread 4 comes to `outcome`, after the gateway could not be reached in the first attempt. -/
def secondAttempt (outcome : GatewayOutcome) : List (Label Choice Event) :=
  retryScheduling ++ acts 1 [{}] ++ retry 3 ++ attempt 4 'd' outcome ++ acts 4 [{}, {}, {}]

theorem stored_errors_iff_declined : ∃ pool row, Reached sampleSite .free pool ∧
    pool.world.payment (sampleId '0') = some row ∧ row.status = .failed ∧
    row.errorCode = some GatewayErrorCode.insufficientFunds ∧
    ReportsStored pool.world.trace ∧ Throughout DecidesOnReport pool.world.trace := by
  obtain ⟨pool, reached, shown⟩ := reached_of_run sampleSite .free (secondAttempt declined)
    (fun pool => decide (ErrorsReplaced pool.world.trace) && (pool.world.payment (sampleId '0')).any fun row =>
      row.status = .failed ∧ row.errorCode = some GatewayErrorCode.insufficientFunds) (by decide +kernel)
  obtain ⟨replaced, shown⟩ := Bool.and_eq_true_iff.mp shown
  obtain ⟨row, found, stored⟩ := (Option.any_eq_true _ _).mp shown
  obtain ⟨failed, code⟩ := of_decide_eq_true stored
  exact ⟨pool, row, reached, found, failed, code, (stored_errors_iff reached).mpr (of_decide_eq_true replaced)⟩

/-- `sampleSite` with the digest of a webhook that reports a failure without an error code. -/
def silentSite : Deployment :=
  signing (sampleWebhook "failed" none) "17029a3ec778fd1f5fc4f6966a9296999e9ccc924ccea7a1ddf5bb7f3c1085e3"
    (by decide +kernel)

/-- That webhook settles the second attempt, and the process job stalls and is handed out again. -/
def silentFailure : List (Label Choice Event) :=
  secondAttempt pendingResponse ++ signedDelivery silentSite 5 'c' (sampleWebhook "failed" none) ++
    acts 5 [{}, {}, {}] ++ redelivery 4 ++ acts 6 [{ uuid := sampleId 'e' }, {}, {}]

/-- The error of the first attempt survives the second one: a payment in `SUCCESS` still has it, and after a
    failure without an error code the retry decision is made on it. -/
theorem first_error_survives :
    (∃ pool row, Reached sampleSite .free pool ∧ pool.world.payment (sampleId '0') = some row ∧
      row.status = .success ∧ row.errorCode = some GatewayErrorCode.networkError ∧
      ¬ ReportsStored pool.world.trace) ∧
    ∃ pool, Reached silentSite .free pool ∧ ¬ ReportsStored pool.world.trace ∧
      ¬ Throughout DecidesOnReport pool.world.trace := by
  constructor
  · obtain ⟨pool, reached, shown⟩ := reached_of_run sampleSite .free (secondAttempt approved)
      (fun pool => decide (¬ ReportsStored pool.world.trace) && (pool.world.payment (sampleId '0')).any fun row =>
        row.status = .success ∧ row.errorCode = some GatewayErrorCode.networkError) (by decide +kernel)
    obtain ⟨stale, shown⟩ := Bool.and_eq_true_iff.mp shown
    obtain ⟨row, found, stored⟩ := (Option.any_eq_true _ _).mp shown
    obtain ⟨success, code⟩ := of_decide_eq_true stored
    exact ⟨pool, row, reached, found, success, code, of_decide_eq_true stale⟩
  · obtain ⟨pool, reached, shown⟩ := reached_of_run silentSite .free silentFailure
      (fun pool => decide (¬ ReportsStored pool.world.trace ∧ ¬ Throughout DecidesOnReport pool.world.trace))
      (by decide +kernel)
    exact ⟨pool, reached, of_decide_eq_true shown⟩

end PaymentModel
