import PaymentSystem.Async.Endings
import PaymentSystem.Proof.Fencing
import PaymentSystem.Proof.Writes

namespace PaymentModel

open Async

/-- The columns of payment `p` that only transitions change. -/
def At (p : Uuid) (g : Progress) (w : World) : Prop := (w.payment p).map Payment.progress = some g

/-- Thread `t` with payment `p` to itself: the others leave those columns alone, and the locks that it
    asks for are free. -/
def alone (site : Deployment) (t : Nat) (p : Uuid) : Setting (system site) where
  thread := t
  own w c _ := ∀ key token ttl, c = .lockSet key token ttl → w.locks key = none
  others w w' := (w'.payment p).map Payment.progress = (w.payment p).map Payment.progress
  others_refl _ := rfl
  others_trans first second := second.trans first

variable {site : Deployment} {t : Nat} {p : Uuid} {w w' : World} {g g' : Progress} {α : Type}

theorem At.later (held : At p g w) (moved : (alone site t p).others w w') : At p g w' := moved.trans held

theorem At.of_db (held : At p g w) (same : w'.db = w.db) : At p g w' := by
  unfold At World.payment
  rw [same]
  exact held

theorem At.row (held : At p g w) : ∃ row, w.payment p = some row ∧ row.progress = g :=
  Option.map_eq_some_iff.mp held

theorem At.intro {row : Payment} (found : w.payment p = some row) (progress : row.progress = g) : At p g w := by
  unfold At
  rw [found, Option.map_some, progress]

/-- A run that leaves the payment as it has found it. -/
theorem At.stays {run : PaymentStatus → Prop} {status : PaymentStatus} (held : At p g w) (is : g.status = status)
    (ran : run status) : ∃ g', At p g' w ∧ run g'.status := ⟨g, held, is ▸ ran⟩

/-- A call that neither writes to the database nor fails by itself. -/
theorem ends_plain {c : Call} {post : List Choice → Except JsError c.Answer → World → Prop} (held : At p g w)
    (reads : c.writes = false) (ends : ∀ choice outcome w₁ w₂ w', (∀ key token ttl, c = .lockSet key token ttl →
      w₁.locks key = none) → At p g w₁ → perform t c choice w₁ = some (outcome, w₂) → At p g w' →
      post [choice] outcome w') : (alone site t p).Ends (ask c) post w := by
  apply Setting.Ends.ask
  intro w₁ moved choice outcome w₂ own performed w' later
  have here := held.later moved
  exact ends choice outcome w₁ w₂ w' own here performed ((here.of_db (perform_db performed reads)).later later)

theorem ends_find {place : ReadSite} {post : List Choice → Except JsError (Option Payment) → World → Prop}
    (held : At p g w) (finds : ∀ choice row w', choice.fault = .none → row.progress = g → At p g w' →
      post [choice] (.ok (some row)) w')
    (fails : ∀ choice w', choice.fault ≠ .none → At p g w' → post [choice] (.error World.connectionLost) w') :
    (alone site t p).Ends (ask (.paymentFindUnique place p)) post w := by
  apply ends_plain held rfl
  intro choice outcome w₁ w₂ w' _ here performed kept
  rcases World.remote_cases (Option.some.inj performed) with ⟨fault, rfl, _⟩ | ⟨fault, rfl, _⟩ | ⟨fault, rfl, _⟩
  · obtain ⟨row, found, progress⟩ := here.row
    rw [found]
    exact finds choice row w' fault progress kept
  · exact fails choice w' (by simp [fault]) kept
  · exact fails choice w' (by simp [fault]) kept

theorem World.database_answer {choice : Choice} {body : Tx α} {row : α → Option Payment} {outcome : Except JsError α}
    {value : α} {db : Db} (ran : body choice.now w.db = .ok (value, db))
    (h : w.database t choice body row = (outcome, w')) :
    outcome = if choice.fault = .none then .ok value else .error connectionLost := by
  rcases World.database_cases h with ⟨value', db', ran', h⟩ | ⟨e, failed, _⟩
  · cases ran.symm.trans ran'
    rcases World.remote_cases h with ⟨fault, rfl, _⟩ | ⟨fault, rfl, _⟩ | ⟨fault, rfl, _⟩ <;> simp [fault]
  · rw [ran] at failed
    cases failed

/-- A call that answers has met no fault, and its body has run. -/
theorem World.database_answered {choice : Choice} {body : Tx α} {row : α → Option Payment} {value : α}
    (h : w.database t choice body row = (.ok value, w')) :
    choice.fault = .none ∧ ∃ db, body choice.now w.db = .ok (value, db) := by
  rcases World.database_cases h with ⟨value', db, ran, h⟩ | ⟨e, _, h⟩
  · rcases World.remote_cases h with ⟨fault, is, _⟩ | ⟨_, is, _⟩ | ⟨_, is, _⟩ <;> cases is
    exact ⟨fault, db, ran⟩
  · rcases World.remote_cases h with ⟨_, is, _⟩ | ⟨_, is, _⟩ | ⟨_, is, _⟩ <;> cases is

theorem ends_moves {body : Tx Payment} {post : List Choice → Except JsError Payment → World → Prop} (held : At p g w)
    (takes : ∀ now db row, db.payment p = some row → row.progress = g → ∃ updated db',
      body now db = .ok (updated, db') ∧ db'.payment p = some updated ∧ updated.progress = g')
    (moves : ∀ choice row w', choice.fault = .none → row.progress = g' → At p g' w' → post [choice] (.ok row) w')
    (fails : ∀ choice w', choice.fault = .before → At p g w' → post [choice] (.error World.connectionLost) w')
    (unheard : ∀ choice w', choice.fault = .after → At p g' w' →
      post [choice] (.error World.connectionLost) w') :
    (alone site t p).Ends (ask (.transaction body)) post w := by
  apply Setting.Ends.ask
  intro w₁ moved choice outcome w₂ _ performed w' later
  have here := held.later moved
  obtain ⟨row, found, progress⟩ := here.row
  obtain ⟨updated, db', ran, settled, reached⟩ := takes choice.now w₁.db row found progress
  have database := Option.some.inj performed
  have effect := World.database_takes ran database
  have answer := World.database_answer ran database
  have settles : w₂.db = db' → (alone site t p).others w₂ w' → At p g' w' := by
    intro same later
    have found' : w₂.payment p = some updated := by
      rw [World.payment, same]
      exact settled
    exact (At.intro found' reached).later later
  cases fault : choice.fault with
  | none =>
    rw [fault, if_pos rfl] at answer
    rw [fault, if_neg (by decide)] at effect
    rw [answer]
    exact moves choice updated w' fault reached (settles effect later)
  | before =>
    rw [fault, if_neg (by decide)] at answer
    rw [fault, if_pos rfl] at effect
    rw [answer]
    exact fails choice w' fault ((here.of_db effect).later later)
  | after =>
    rw [fault, if_neg (by decide)] at answer
    rw [fault, if_neg (by decide)] at effect
    rw [answer]
    exact unheard choice w' fault (settles effect later)

theorem ends_rejected {body : Tx Payment} {post : List Choice → Except JsError Payment → World → Prop}
    (held : At p g w) (rejects : ∀ now db row, db.payment p = some row → row.progress = g →
      ∃ e, body now db = .error e)
    (fails : ∀ choice e w', At p g w' → post [choice] (.error e) w') :
    (alone site t p).Ends (ask (.transaction body)) post w := by
  apply Setting.Ends.ask
  intro w₁ moved choice outcome w₂ _ performed w' later
  have here := held.later moved
  obtain ⟨row, found, progress⟩ := here.row
  obtain ⟨e, failed⟩ := rejects choice.now w₁.db row found progress
  obtain ⟨same, ⟨e', rfl⟩, _⟩ := World.database_rejected failed (Option.some.inj performed)
  exact fails choice e' w' ((here.of_db same).later later)

/-- A statement that leaves those columns alone, whether it succeeds or not. -/
theorem ends_statement {body : Tx Unit} {post : List Choice → Except JsError Unit → World → Prop} (held : At p g w)
    (keeps : ∀ now db db' row, db.payment p = some row → row.progress = g → body now db = .ok ((), db') →
      ∃ row, db'.payment p = some row ∧ row.progress = g)
    (ends : ∀ choice outcome w₁ w₂ w', At p g w₁ → w₁.database t choice body (fun _ => none) = (outcome, w₂) →
      At p g w' → post [choice] outcome w') : (alone site t p).Ends (ask (.statement body)) post w := by
  apply Setting.Ends.ask
  intro w₁ moved choice outcome w₂ _ performed w' later
  have here := held.later moved
  obtain ⟨row, found, progress⟩ := here.row
  have database := Option.some.inj performed
  have kept : At p g w₂ := by
    rcases World.database_effect database with ⟨_, ran⟩ | ⟨same, _⟩
    · obtain ⟨row', found', progress'⟩ := keeps choice.now w₁.db w₂.db row found progress ran
      exact .intro found' progress'
    · exact here.of_db same
  exact ends choice outcome w₁ w₂ w' here database (kept.later later)

/-- The columns after an update. -/
def Progress.update (g : Progress) (data : PaymentUpdateInput) : Progress where
  status := data.status.getD g.status
  version := g.version + data.version
  retryCount := g.retryCount + data.retryCount
  maxRetries := g.maxRetries
  errorCode := (data.errorCode.map fun text => text.map (cutText 64)).getD g.errorCode

theorem recordedUpdate_moves {data : PaymentUpdateInput} (build : Payment → PaymentEvent) (fits : data.Fits)
    (about : ∀ row, (build row).paymentId = p) (takes : ∀ row, (build row).eventData.nullFree = true) (now : Nat) (db : Db)
    (row : Payment) (found : db.payment p = some row) (progress : row.progress = g) :
    ∃ updated db', recordedUpdate p g.version data build now db = .ok (updated, db') ∧
      db'.payment p = some updated ∧ updated.progress = g.update data := by
  have version : row.version = g.version := congrArg Progress.version progress
  obtain ⟨db', ran, _, settled⟩ := recordedUpdate_run now build found version fits about takes
  refine ⟨_, db', ran, settled, ?_⟩
  rw [← progress]
  rfl

/-- The columns take the texts of a transition. -/
def AdditionalData.fits (data : AdditionalData) : Bool :=
  FitsColumn 255 data.gatewayReference && FitsColumn 64 (data.errorCode.getD none) &&
    (data.errorMessage.getD none).all nullFree

theorem transitionUpdate_fits (toStatus : PaymentStatus) (data : AdditionalData) :
    (transitionUpdate toStatus data).Fits ↔ data.fits = true := by
  have reference : FitsColumn 255 ((transitionUpdate toStatus data).gatewayReference.getD none) =
      FitsColumn 255 data.gatewayReference := by
    unfold transitionUpdate
    dsimp only
    split
    · rfl
    · rename_i falsy
      cases set : data.gatewayReference with
      | none => rfl
      | some text =>
        obtain rfl : text = "" := by simpa [truthy, set] using falsy
        rfl
  rw [AdditionalData.fits, Bool.and_eq_true, Bool.and_eq_true, ← reference]
  constructor
  · intro fits
    exact ⟨⟨fits.gatewayReference, fits.errorCode⟩, fits.errorMessage⟩
  · intro fits
    exact ⟨fits.1.1, fits.1.2, fits.2⟩

theorem transitionStateInTx_moves {fromStatus toStatus : PaymentStatus} {data : AdditionalData}
    (valid : isValidStateTransition fromStatus toStatus = true) (fits : data.fits = true) (spelled : String)
    (now : Nat) (db : Db) (row : Payment) (found : db.payment p = some row) (progress : row.progress = g) :
    ∃ updated db', transitionStateInTx p fromStatus toStatus g.version data spelled now db = .ok (updated, db') ∧
      db'.payment p = some updated ∧ updated.progress = g.update (transitionUpdate toStatus data) := by
  obtain ⟨updated, db', ran, settled, reached⟩ := recordedUpdate_moves (transitionEvent p fromStatus toStatus data)
    ((transitionUpdate_fits toStatus data).mpr fits) (fun _ => rfl) (fun _ => rfl) now db row found progress
  refine ⟨updated, db', ?_, settled, reached⟩
  unfold transitionStateInTx
  rw [if_pos valid]
  exact Tx.tryCatch_ok ran

/-- A text that its column does not take keeps the transition from the database. -/
theorem transitionStateInTx_rejects {fromStatus toStatus : PaymentStatus} {data : AdditionalData}
    (long : data.fits = false) (version : Nat) (spelled : String) (now : Nat) (db : Db) :
    ∃ e, transitionStateInTx p fromStatus toStatus version data spelled now db = .error e := by
  cases ran : transitionStateInTx p fromStatus toStatus version data spelled now db with
  | error e => exact ⟨e, rfl⟩
  | ok result =>
    exfalso
    obtain ⟨updated, db₁, put, _⟩ := Tx.bind_ok (transitionStateInTx_ran ran)
    exact Bool.eq_false_iff.mp long ((transitionUpdate_fits toStatus data).mp (paymentUpdate_fits put))

/-- A transition of the payment that was read: it goes through, unless a text is too long for its column
    or the call fails before it. -/
theorem ends_transitionState {fromStatus toStatus : PaymentStatus} {data : AdditionalData}
    {post : List Choice → Except JsError Payment → World → Prop} (held : At p g w)
    (valid : isValidStateTransition fromStatus toStatus = true)
    (moves : ∀ choice row w', choice.fault = .none → data.fits = true →
      row.progress = g.update (transitionUpdate toStatus data) → At p (g.update (transitionUpdate toStatus data)) w' →
      post [choice] (.ok row) w')
    (unheard : ∀ choice w', choice.fault = .after → data.fits = true →
      At p (g.update (transitionUpdate toStatus data)) w' → post [choice] (.error World.connectionLost) w')
    (lost : ∀ choice e w', data.fits = false ∨ choice.fault = .before → At p g w' → post [choice] (.error e) w') :
    (alone site t p).Ends (transitionState p fromStatus toStatus g.version data) post w := by
  cases fits : data.fits with
  | true =>
    apply ends_moves held (transitionStateInTx_moves valid fits p.text)
    · exact fun choice row w' fault => moves choice row w' fault fits
    · exact fun choice w' fault => lost choice World.connectionLost w' (.inr fault)
    · exact fun choice w' fault => unheard choice w' fault fits
  | false =>
    apply ends_rejected held fun now db _ _ _ => transitionStateInTx_rejects fits _ _ _ _
    exact fun choice e w' => lost choice e w' (.inl fits)

/-- The statuses that a payment is moved on to. -/
def PaymentStatus.movedOn : PaymentStatus → Bool
  | .success | .retryScheduled | .permanentlyFailed => true
  | _ => false

theorem ends_scheduleRetry (held : At p g w) (failed : g.status = .failed) (attempt : Nat) :
    (alone site t p).Ends (scheduleRetry site p attempt) (fun choices _ w' => ∃ g', At p g' w' ∧
      ((∀ choice ∈ choices, choice.fault = .none) → g'.status = .retryScheduled)) w := by
  apply Setting.Ends.bind
  apply ends_plain held rfl
  intro c₀ random w₁ w₂ w' _ _ performed kept
  cases random with
  | error e =>
    simp only [perform] at performed
    split at performed <;> cases performed
  | ok random =>
    apply Setting.Ends.bind
    apply ends_find kept
    · intro c₁ row w' _ progress kept
      have status : row.status = .failed := (congrArg Progress.status progress).trans failed
      have version : row.version = g.version := congrArg Progress.version progress
      simp only [status, ne_eq, not_true_eq_false, if_false]
      apply Setting.Ends.bind
      apply ends_plain kept rfl
      intro c₂ now w₁ w₂ w' _ _ performed kept
      cases performed
      apply Setting.Ends.bind
      rw [version]
      apply ends_moves kept (recordedUpdate_moves _ ⟨rfl, rfl, rfl⟩ (fun _ => rfl) fun _ => rfl)
      · intro c₃ row w' _ _ kept
        apply ends_plain kept rfl
        exact fun c₄ outcome w₁ w₂ w' _ _ _ kept => ⟨_, kept, fun _ => rfl⟩
      · intro c₃ w' fault kept
        refine ⟨g, kept, fun all => ?_⟩
        have quiet := all c₃ (by simp)
        rw [fault] at quiet
        cases quiet
      · exact fun c₃ w' _ kept => ⟨_, kept, fun _ => rfl⟩
    · intro c₁ w' fault kept
      exact ⟨g, kept, fun all => (fault (all c₁ (by simp))).elim⟩

/-- The error path of the worker moves a payment in `FAILED` on, unless one of its own calls fails, and
    leaves every other payment alone. -/
theorem ends_handleFailedProcessing (held : At p g w) :
    (alone site t p).Ends (handleFailedProcessing site p) (fun choices _ w' => ∃ g', At p g' w' ∧
      (g.status ≠ .failed → g'.status = g.status) ∧
      (g.status = .failed → (∀ choice ∈ choices, choice.fault = .none) → g'.status.movedOn = true)) w := by
  apply Setting.Ends.bind
  apply ends_find held
  · intro c₀ row w' _ progress kept
    have status : row.status = g.status := congrArg Progress.status progress
    have version : row.version = g.version := congrArg Progress.version progress
    dsimp only
    by_cases failed : g.status = .failed
    · rw [if_neg (by simp [status, failed])]
      split
      · apply (ends_scheduleRetry kept failed _).weaken
        rintro choices _ w' ⟨g', kept, schedules⟩
        refine ⟨g', kept, fun other => (other failed).elim, fun _ all => ?_⟩
        rw [schedules fun choice member => all choice (List.mem_cons_of_mem _ member)]
        rfl
      · have gives : ∀ now db other, db.payment p = some other → other.progress = g → ∃ updated db',
            permanentlyFailInTx p row now db = .ok (updated, db') ∧ db'.payment p = some updated ∧
              updated.progress = g.update { status := some .permanentlyFailed, version := 1 } := by
          unfold permanentlyFailInTx
          rw [version]
          exact recordedUpdate_moves _ ⟨rfl, rfl, rfl⟩ (fun _ => rfl) fun _ => rfl
        apply Setting.Ends.bind
        apply ends_moves kept gives
        · intro c₁ updated w' _ _ kept
          refine Setting.Ends.pure fun w'' later => ⟨_, kept.later later, ?_, fun _ _ => rfl⟩
          exact fun other => (other failed).elim
        · intro c₁ w' fault kept
          refine ⟨g, kept, fun _ => rfl, fun _ all => ?_⟩
          have quiet := all c₁ (by simp)
          rw [fault] at quiet
          cases quiet
        · exact fun c₁ w' _ kept => ⟨_, kept, fun other => (other failed).elim, fun _ _ => rfl⟩
    · rw [if_pos (by simp [status, failed])]
      exact Setting.Ends.pure fun w'' later => ⟨g, kept.later later, fun _ => rfl, fun is => (failed is).elim⟩
  · intro c₀ w' fault kept
    exact ⟨g, kept, fun _ => rfl, fun _ all => (fault (all c₀ (by simp))).elim⟩

/-- The response is recorded: its event takes the texts of the result, and the call does not fail. -/
abbrev IsRecorded (record : Choice) (result : GatewayResult) : Prop := record.fault = .none ∧ result.nullFree = true

/-- How `handlePaymentResult` ends for a payment in `PROCESSING`: the choices that its calls have met,
    its outcome, and the status it leaves. -/
inductive ResultRun (row : Payment) (result : GatewayResult) : List Choice → Except JsError Unit → PaymentStatus → Prop
  | unrecorded {record : Choice} {e : JsError} (lost : ¬IsRecorded record result) :
    ResultRun row result [record] (.error e) .processing
  | succeeded {record now write : Choice} {outcome : Except JsError Unit} (recorded : IsRecorded record result)
    (success : result.success = true) (fits : FitsColumn 255 result.gatewayReference = true)
    (takes : write.fault ≠ .before) : ResultRun row result [record, now, write] outcome .success
  | successLost {record now write : Choice} {e : JsError} (success : result.success = true)
    (lost : FitsColumn 255 result.gatewayReference = false ∨ write.fault = .before) :
    ResultRun row result [record, now, write] (.error e) .processing
  | pending {record write : Choice} {outcome : Except JsError Unit} (failure : result.success = false)
    (pending : result.pendingWebhook = true) : ResultRun row result [record, write] outcome .processing
  | failureLost {record write : Choice} {e : JsError} (failure : result.success = false)
    (lost : FitsColumn 64 result.errorCode = false ∨ write.fault = .before) :
    ResultRun row result [record, write] (.error e) .processing
  | failed {record write : Choice} {e : JsError} (recorded : IsRecorded record result) (failure : result.success = false)
    (final : result.pendingWebhook = false) (fits : FitsColumn 64 result.errorCode = true)
    (unheard : write.fault = .after) : ResultRun row result [record, write] (.error e) .failed
  | unread {record write read : Choice} {e : JsError} (recorded : IsRecorded record result)
    (failure : result.success = false) (final : result.pendingWebhook = false)
    (fits : FitsColumn 64 result.errorCode = true) (takes : write.fault = .none) (fault : read.fault ≠ .none) :
    ResultRun row result [record, write, read] (.error e) .failed
  | rests {record write read : Choice} (recorded : IsRecorded record result) (failure : result.success = false)
    (final : result.pendingWebhook = false) (fits : FitsColumn 64 result.errorCode = true)
    (takes : write.fault = .none) (found : read.fault = .none) (retries : givesUp result.errorCode row = false) :
    ResultRun row result [record, write, read] (.ok ()) .failed
  | givenUp {record write read last : Choice} {outcome : Except JsError Unit} (recorded : IsRecorded record result)
    (failure : result.success = false) (final : result.pendingWebhook = false)
    (fits : FitsColumn 64 result.errorCode = true) (takes : write.fault = .none)
    (exhausted : givesUp result.errorCode row = true) :
    ResultRun row result [record, write, read, last] outcome .permanentlyFailed
  | kept {record write read last : Choice} {e : JsError} (recorded : IsRecorded record result)
    (failure : result.success = false) (final : result.pendingWebhook = false)
    (fits : FitsColumn 64 result.errorCode = true) (takes : write.fault = .none)
    (exhausted : givesUp result.errorCode row = true) (fault : last.fault = .before) :
    ResultRun row result [record, write, read, last] (.error e) .failed

theorem givesUp_congr {errorCode : Option String} {row other : Payment} (count : other.retryCount = row.retryCount)
    (limit : other.maxRetries = row.maxRetries) : givesUp errorCode other = givesUp errorCode row := by
  simp only [givesUp, canRetry, count, limit]

theorem gatewayResponseRecorded_run {result : GatewayResult} {now : Nat} {db : Db} {row : Payment}
    (texts : result.nullFree = true) (found : db.payment p = some row) :
    ∃ db', gatewayResponseRecorded p result now db = .ok ((), db') ∧ db'.payment p = some row := by
  refine ⟨_, paymentEventCreate_run ?_ texts, found⟩
  dsimp only
  rw [found]
  rfl

theorem gatewayResponseRecorded_keeps {result : GatewayResult} {now : Nat} {db db' : Db}
    (ran : gatewayResponseRecorded p result now db = .ok ((), db')) : db'.payments = db.payments := by
  obtain ⟨_, rfl⟩ := paymentEventCreate_ok ran
  rfl

/-- An empty text is stored as none. -/
theorem all_orNull {takes : String → Bool} (empty : takes "" = true) (text : Option String) :
    (orNull text).all takes = text.all takes := by
  unfold orNull
  split
  · rfl
  · rename_i falsy
    cases text with
    | none => rfl
    | some text =>
      obtain rfl : text = "" := by simpa [truthy] using falsy
      simp [empty]

/-- The pending branch writes the gateway reference only. -/
theorem gatewayReferenceUpdate_keeps {version now : Nat} {gatewayReference : Option String} {db db' : Db}
    {row : Payment} (found : db.payment p = some row) (progress : row.progress = g)
    (ran : gatewayReferenceUpdate p version gatewayReference now db = .ok ((), db')) :
    ∃ row, db'.payment p = some row ∧ row.progress = g := by
  obtain ⟨updated, db₁, put, rest⟩ := Tx.bind_ok ran
  cases rest
  obtain ⟨row', found', _, applied, rfl⟩ := paymentUpdate_ok put
  cases found.symm.trans found'
  have id : updated.id = p := by
    rw [applied]
    exact (payment_id found : row.id = p)
  have same : updated.progress = row.progress := by
    rw [applied]
    rfl
  refine ⟨updated, ?_, same.trans progress⟩
  rw [Db.payment, find_replaced found id, if_pos rfl]

/-- The failure branch: the payment is failed, and given up when the rules of retrying say so. -/
theorem ends_failure {row : Payment} {result : GatewayResult} (held : At p g w)
    (count : row.retryCount = g.retryCount) (limit : row.maxRetries = g.maxRetries) (failed : g.status = .failed)
    {record write : Choice} (recorded : IsRecorded record result) (failure : result.success = false)
    (final : result.pendingWebhook = false) (fits : FitsColumn 64 result.errorCode = true)
    (takes : write.fault = .none) :
    (alone site t p).Ends (decideRetry p result.errorCode) (fun choices outcome w' => ∃ g', At p g' w' ∧
      ResultRun row result (record :: write :: choices) outcome g'.status) w := by
  apply Setting.Ends.bind
  apply ends_find held
  · intro read found w' heard progress kept
    have version : found.version = g.version := congrArg Progress.version progress
    have decides : givesUp result.errorCode found = givesUp result.errorCode row :=
      givesUp_congr ((congrArg Progress.retryCount progress).trans count.symm)
        ((congrArg Progress.maxRetries progress).trans limit.symm)
    dsimp only
    split
    · rename_i exhausted
      have gives : givesUp result.errorCode row = true := decides ▸ exhausted
      apply Setting.Ends.bind
      rw [version]
      apply ends_transitionState kept rfl
      · intro last updated w' _ _ _ kept
        exact Setting.Ends.pure fun w'' later => ⟨_, kept.later later, .givenUp recorded failure final fits takes gives⟩
      · exact fun last w' _ _ kept => ⟨_, kept, .givenUp recorded failure final fits takes gives⟩
      · intro last e w' lost kept
        have fault := lost.resolve_left (by decide)
        exact kept.stays failed (.kept recorded failure final fits takes gives fault)
    · rename_i left
      have rests : givesUp result.errorCode row = false := decides ▸ Bool.eq_false_iff.mpr left
      refine Setting.Ends.pure fun w'' later => (kept.later later).stays failed ?_
      exact .rests recorded failure final fits takes heard rests
  · intro read w' fault kept
    exact kept.stays failed (.unread recorded failure final fits takes fault)

theorem ends_handlePaymentResult {row : Payment} {result : GatewayResult} (held : At p g w)
    (count : row.retryCount = g.retryCount) (limit : row.maxRetries = g.maxRetries)
    (processing : g.status = .processing) :
    (alone site t p).Ends (handlePaymentResult p result g.version) (fun choices outcome w' => ∃ g', At p g' w' ∧
      ResultRun row result choices outcome g'.status) w := by
  apply Setting.Ends.bind
  apply ends_statement held
  · intro now db db' other found progress ran
    refine ⟨other, ?_, progress⟩
    rw [Db.payment, gatewayResponseRecorded_keeps ran]
    exact found
  intro record outcome w₁ w₂ w' here database kept
  obtain ⟨other, found, progress⟩ := here.row
  by_cases recorded : IsRecorded record result
  · obtain ⟨db₁, ran, _⟩ := gatewayResponseRecorded_run recorded.2 found
    rw [World.database_answer ran database, if_pos recorded.1]
    dsimp only
    split
    · rename_i success
      apply Setting.Ends.bind
      apply ends_plain kept rfl
      intro now outcome w₁ w₂ w' _ _ performed kept
      cases performed
      have stored : ∀ processedAt, AdditionalData.fits { gatewayReference := result.gatewayReference, processedAt } =
          FitsColumn 255 result.gatewayReference := fun _ => by simp [AdditionalData.fits, FitsColumn]
      apply Setting.Ends.bind
      apply ends_transitionState kept rfl
      · intro write updated w' fault fits _ kept
        refine Setting.Ends.pure fun w'' later => ⟨_, kept.later later, ?_⟩
        exact .succeeded recorded success (stored _ ▸ fits) (by simp [fault])
      · intro write w' fault fits kept
        exact ⟨_, kept, .succeeded recorded success (stored _ ▸ fits) (by simp [fault])⟩
      · intro write e w' lost kept
        rw [stored] at lost
        exact kept.stays processing (.successLost success lost)
    · rename_i failure
      have failure : result.success = false := Bool.eq_false_iff.mpr failure
      split
      · rename_i pending
        apply ends_statement kept fun now db db' other found progress ran =>
          gatewayReferenceUpdate_keeps found progress ran
        intro write outcome w₁ w₂ w' _ _ kept
        exact kept.stays processing (.pending failure pending)
      · rename_i settled
        have final : result.pendingWebhook = false := Bool.eq_false_iff.mpr settled
        have stored : AdditionalData.fits {
              errorCode := some (orNull result.errorCode)
              errorMessage := some (orNull result.errorMessage) } =
            FitsColumn 64 result.errorCode := by
          have message : (orNull result.errorMessage).all nullFree = true :=
            (all_orNull (by decide) _).trans ((Bool.and_eq_true _ _).mp recorded.2).2
          have code : FitsColumn 64 (orNull result.errorCode) = FitsColumn 64 result.errorCode :=
            all_orNull (by decide) _
          simp only [AdditionalData.fits, Option.getD_some, message, code, Bool.and_true]
          rfl
        apply Setting.Ends.bind
        apply ends_transitionState kept rfl
        · intro write updated w' fault fits _ kept
          exact ends_failure kept count limit rfl recorded failure final (stored ▸ fits) fault
        · intro write w' fault fits kept
          exact ⟨_, kept, .failed recorded failure final (stored ▸ fits) fault⟩
        · intro write e w' lost kept
          rw [stored] at lost
          exact kept.stays processing (.failureLost failure lost)
  · cases outcome with
    | ok value =>
      obtain ⟨heard, _, ran⟩ := World.database_answered database
      exact absurd ⟨heard, paymentEventCreate_takes ran⟩ recorded
    | error e => exact kept.stays processing (.unrecorded recorded)

/-- The gateway call ends with a result: the breaker refuses it, or the gateway has answered. -/
theorem ends_callGateway {payment : Payment} (held : At p g w) :
    (alone site t p).Ends (callGateway p payment) (fun choices outcome w' => At p g w' ∧
      ((∃ breaker, choices = [breaker] ∧ breaker.admits = false ∧ outcome = .ok (gatewayFailure breakerOpenError)) ∨
      ∃ breaker send receive, choices = [breaker, send, receive] ∧ breaker.admits = true ∧
        outcome = .ok receive.outcome.result)) w := by
  apply Setting.Ends.tryCatch
  apply Setting.Ends.bind
  apply Setting.Ends.bind
  apply ends_plain held rfl
  intro breaker outcome w₁ w₂ w' _ _ performed kept
  cases performed
  dsimp only
  split
  · rename_i admits
    apply Setting.Ends.bind
    apply ends_plain kept rfl
    intro send outcome w₁ w₂ w' _ _ performed kept
    cases performed
    apply ends_plain kept rfl
    intro receive outcome w₁ w₂ w' _ _ performed kept
    simp only [perform] at performed
    split at performed <;> cases performed
    · rename_i value answered
      refine Setting.Ends.pure fun w'' later => ⟨kept.later later, .inr ⟨breaker, send, receive, rfl, admits, ?_⟩⟩
      rw [answered]
      rfl
    · rename_i e thrown
      refine Setting.Ends.pure fun w'' later => ⟨kept.later later, .inr ⟨breaker, send, receive, rfl, admits, ?_⟩⟩
      rw [thrown]
      rfl
  · rename_i refuses
    apply Setting.Ends.throw
    intro w' later
    refine Setting.Ends.pure fun w'' later' =>
      ⟨(kept.later later).later later', .inl ⟨breaker, rfl, Bool.eq_false_iff.mpr refuses, rfl⟩⟩

/-- How an attempt under the lock ends for a payment in `PENDING`. -/
inductive AttemptRun (row : Payment) : List Choice → Except JsError Unit → PaymentStatus → Prop
  | unread {find : Choice} {e : JsError} (fault : find.fault ≠ .none) : AttemptRun row [find] (.error e) .pending
  | unentered {find enter : Choice} {e : JsError} (fault : enter.fault = .before) :
    AttemptRun row [find, enter] (.error e) .pending
  | unheard {find enter : Choice} {e : JsError} (fault : enter.fault = .after) :
    AttemptRun row [find, enter] (.error e) .processing
  | refused {find enter breaker : Choice} {choices : List Choice} {outcome : Except JsError Unit}
    {status : PaymentStatus} (entered : enter.fault = .none) (refuses : breaker.admits = false)
    (run : ResultRun row (gatewayFailure breakerOpenError) choices outcome status) :
    AttemptRun row (find :: enter :: breaker :: choices) outcome status
  | answered {find enter breaker send receive : Choice} {choices : List Choice} {outcome : Except JsError Unit}
    {status : PaymentStatus} (entered : enter.fault = .none) (admits : breaker.admits = true)
    (run : ResultRun row receive.outcome.result choices outcome status) :
    AttemptRun row (find :: enter :: breaker :: send :: receive :: choices) outcome status

theorem ends_processPaymentLocked {row : Payment} (held : At p row.progress w) (pending : row.status = .pending) :
    (alone site t p).Ends (processPaymentLocked p) (fun choices outcome w' => ∃ g', At p g' w' ∧
      AttemptRun row choices outcome g'.status) w := by
  apply Setting.Ends.bind
  apply ends_find held
  · intro find found w' _ progress kept
    have status : found.status = .pending := (congrArg Progress.status progress).trans pending
    have version : found.version = row.progress.version := congrArg Progress.version progress
    dsimp only
    rw [if_neg (by simp [status]), version]
    apply Setting.Ends.bind
    apply ends_transitionState kept rfl
    · intro enter processing w' entered _ reached kept
      apply Setting.Ends.bind
      apply (ends_callGateway kept).weaken
      have count : row.retryCount = processing.retryCount := (congrArg Progress.retryCount reached).symm
      have limit : row.maxRetries = processing.maxRetries := (congrArg Progress.maxRetries reached).symm
      rintro choices outcome w'' ⟨kept, ⟨breaker, rfl, refuses, rfl⟩ | ⟨breaker, send, receive, rfl, admits, rfl⟩⟩
      · rw [← reached] at kept
        apply (ends_handlePaymentResult kept count limit (congrArg Progress.status reached)).weaken
        exact fun choices outcome w' ⟨g', kept, run⟩ => ⟨g', kept, .refused entered refuses run⟩
      · rw [← reached] at kept
        apply (ends_handlePaymentResult kept count limit (congrArg Progress.status reached)).weaken
        exact fun choices outcome w' ⟨g', kept, run⟩ => ⟨g', kept, .answered entered admits run⟩
    · exact fun enter w' fault _ kept => ⟨_, kept, .unheard fault⟩
    · intro enter e w' lost kept
      have fault := lost.resolve_left (by decide)
      exact kept.stays pending (.unentered fault)
  · exact fun find w' fault kept => kept.stays pending (.unread fault)

/-- How `processPayment` ends for it. -/
inductive LockedRun (row : Payment) : List Choice → Except JsError Unit → PaymentStatus → Prop
  | unlocked {id lock : Choice} {e : JsError} (fault : lock.fault ≠ .none) :
    LockedRun row [id, lock] (.error e) .pending
  | released {id lock release : Choice} {choices : List Choice} {outcome : Except JsError Unit}
    {status : PaymentStatus} (run : AttemptRun row choices outcome status) (releases : release.fault = .none) :
    LockedRun row (id :: lock :: (choices ++ [release])) outcome status
  | unreleased {id lock release : Choice} {choices : List Choice} {outcome : Except JsError Unit} {e : JsError}
    {status : PaymentStatus} (run : AttemptRun row choices outcome status) (fault : release.fault ≠ .none) :
    LockedRun row (id :: lock :: (choices ++ [release])) (.error e) status

theorem lockRelease_answer {key token : String} {release : Choice} {released : Except JsError Bool}
    (performed : perform t (.lockRelease key token) release w = some (released, w')) :
    (release.fault = .none ∧ ∃ value, released = .ok value) ∨ (release.fault ≠ .none ∧ ∃ e, released = .error e) := by
  simp only [perform] at performed
  split at performed
  all_goals
    rcases World.remote_cases (Option.some.inj performed) with ⟨fault, rfl, _⟩ | ⟨fault, rfl, _⟩ | ⟨fault, rfl, _⟩
    · exact .inl ⟨fault, _, rfl⟩
    · exact .inr ⟨by simp [fault], _, rfl⟩
    · exact .inr ⟨by simp [fault], _, rfl⟩

theorem ends_processPayment {row : Payment} (held : At p row.progress w) (pending : row.status = .pending) :
    (alone site t p).Ends (processPayment site p) (fun choices outcome w' => ∃ g', At p g' w' ∧
      LockedRun row choices outcome g'.status) w := by
  apply Setting.Ends.bind
  apply Setting.Ends.bind
  apply ends_plain held rfl
  intro id token w₁ w₂ w' _ _ performed kept
  simp only [perform] at performed
  split at performed <;> cases performed
  apply Setting.Ends.bind
  apply ends_plain kept rfl
  intro lock outcome w₁ w₂ w' free _ performed kept
  simp only [perform, free _ _ _ rfl] at performed
  have refused : lock.fault ≠ .none → ∃ g', At p g' w' ∧
      LockedRun row [id, lock] (.error World.connectionLost) g'.status :=
    fun fault => kept.stays pending (.unlocked fault)
  rcases World.remote_cases (Option.some.inj performed) with ⟨_, rfl, _⟩ | ⟨fault, rfl, _⟩ | ⟨fault, rfl, _⟩
  · refine Setting.Ends.pure fun w'' later => ?_
    apply Setting.Ends.ensure
    apply (ends_processPaymentLocked (kept.later later) pending).weaken
    rintro choices outcome w' ⟨g', kept, run⟩
    apply Setting.Ends.bind
    apply ends_plain kept rfl
    intro release released w₁ w₂ w' _ _ performed kept
    rcases lockRelease_answer performed with ⟨releases, value, rfl⟩ | ⟨fault, e, rfl⟩
    · exact Setting.Ends.pure fun w'' later => ⟨g', kept.later later, .released run releases⟩
    · exact ⟨g', kept, .unreleased run fault⟩
  · exact refused (by simp [fault])
  · exact refused (by simp [fault])

/-- How the handler of its process job ends for it: the error path moves a payment in `FAILED` on when
    its own calls do not fail. -/
inductive JobRun (row : Payment) : List Choice → PaymentStatus → Prop
  | completed {choices : List Choice} {status : PaymentStatus} (run : LockedRun row choices (.ok ()) status) :
    JobRun row choices status
  | recovered {choices rest : List Choice} {e : JsError} {status left : PaymentStatus}
    (run : LockedRun row choices (.error e) status) (keeps : status ≠ .failed → left = status)
    (moves : status = .failed → (∀ choice ∈ rest, choice.fault = .none) → left.movedOn = true) :
    JobRun row (choices ++ rest) left

theorem ends_processWorkerHandler {row : Payment} (held : At p row.progress w) (pending : row.status = .pending) :
    (alone site t p).Ends (processWorkerHandler site ⟨p⟩) (fun choices _ w' => ∃ g', At p g' w' ∧
      JobRun row choices g'.status) w := by
  apply Setting.Ends.tryCatch
  apply (ends_processPayment held pending).weaken
  rintro choices outcome w₁ ⟨g₁, kept, run⟩
  cases outcome with
  | ok value => exact ⟨g₁, kept, .completed run⟩
  | error e =>
    apply Setting.Ends.bind
    apply Setting.Ends.tryCatch
    apply (ends_handleFailedProcessing kept).weaken
    rintro rest outcome w₂ ⟨g₂, kept, keeps, moves⟩
    cases outcome with
    | ok value =>
      refine Setting.Ends.throw fun w₃ later => ⟨g₂, kept.later later, ?_⟩
      rw [List.append_nil]
      exact .recovered run keeps moves
    | error e' =>
      refine Setting.Ends.pure fun w₃ later => Setting.Ends.throw fun w₄ later' =>
        ⟨g₂, (kept.later later).later later', ?_⟩
      rw [List.append_nil, List.append_nil]
      exact .recovered run keeps moves

theorem ends_startProcessWorker {row : Payment} (held : At p row.progress w) (pending : row.status = .pending) :
    (alone site t p).Ends (startProcessWorker site ⟨p⟩) (fun choices _ w' => ∃ g' before report, At p g' w' ∧
      choices = before ++ [report] ∧ JobRun row before g'.status) w := by
  have reports : ∀ (success : Bool) choices w₁ g₁, At p g₁ w₁ → JobRun row choices g₁.status →
      (alone site t p).Ends (ask (.processJobFinished ⟨p⟩ success)) (fun rest _ w' => ∃ g' before report, At p g' w' ∧
        choices ++ rest = before ++ [report] ∧ JobRun row before g'.status) w₁ := by
    intro success choices w₁ g₁ kept run
    apply ends_plain kept rfl
    exact fun report _ _ _ w' _ _ _ kept => ⟨g₁, choices, report, kept, rfl, run⟩
  apply Setting.Ends.bind
  apply Setting.Ends.tryCatch
  apply Setting.Ends.bind
  apply (ends_processWorkerHandler held pending).weaken
  rintro choices outcome w₁ ⟨g₁, kept, run⟩
  cases outcome with
  | ok value =>
    refine Setting.Ends.pure fun w₂ later => ?_
    rw [List.append_nil]
    exact reports true choices w₂ g₁ (kept.later later) run
  | error e =>
    refine Setting.Ends.pure fun w₂ later => ?_
    rw [List.append_nil]
    exact reports false choices w₂ g₁ (kept.later later) run

end PaymentModel
