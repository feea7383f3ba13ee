import PaymentSystem.Proof.Solo
import PaymentSystem.Proof.WebhookWrites

namespace PaymentModel

open Async

/-- What becomes of a webhook that reaches its write. -/
inductive WebhookPath where
  | duplicate | rejected | processed

/-- The number of the call that writes; on the paths under the lock the release comes next. -/
def WebhookPath.writeAt : WebhookPath → Nat
  | .duplicate => 2
  | .rejected => 4
  | .processed => 5

/-- The lock of the call is released. -/
def WebhookPath.Released (choices : List Choice) : WebhookPath → Prop
  | .duplicate => True
  | .rejected => faultAt choices 5 = .none
  | .processed => faultAt choices 6 = .none

/-- The rows of a webhook can be written. -/
def WebhookPath.Can (db : Db) (payload : Json) (signature eventId : String) (choices : List Choice) :
    WebhookPath → Prop
  | .duplicate => Recordable db payload signature (eventId ++ "_dup_" ++ Nat.repr (choiceAt choices 1).now)
  | .rejected => Recordable db payload signature eventId
  | .processed => Storable db payload signature eventId (choiceAt choices 4).now

/-- What the write does to the database. -/
def WebhookPath.Effect (payload : Json) (signature : String) : WebhookPath → Db → Db → Prop
  | .duplicate | .rejected => RecordsOnly payload signature
  | .processed => RecordsSettlement payload signature

theorem WebhookPath.Effect.one {path : WebhookPath} {payload : Json} {signature : String} {db db' : Db}
    (effect : path.Effect payload signature db db') : RecordsOne payload signature db db' := by
  cases path with
  | duplicate | rejected => exact RecordsOnly.one effect
  | processed => exact RecordsSettlement.one effect

/-- A correctly signed webhook whose look-up succeeds. -/
structure Checked (site : Deployment) (payload : Json) (signature eventId : String) (choices : List Choice) :
    Prop where
  signed : verifyWebhookSignature site (Json.stringify none payload) signature = .ok true
  event : payload.field "eventId" = some (.string eventId)
  plain : nullFree eventId = true
  lookup : faultAt choices 0 = .none

/-- Its event is new, and it reads payment `p` under the lock. -/
structure Enters (w : World) (payload : Json) (eventId : String) (p : Uuid) (choices : List Choice) : Prop where
  new : w.db.webhookEvents.find eventId = none
  names : namedPayment payload = .ok p
  free : w.locks (webhookLockKey payload) = none
  acquired : faultAt choices 2 = .none
  read : faultAt choices 3 = .none

/-- The webhook goes this path as far as its write. -/
inductive Proceeds (site : Deployment) (w : World) (payload : Json) (signature : String) (choices : List Choice) :
    String → WebhookPath → Prop
  | duplicate {eventId : String} (checked : Checked site payload signature eventId choices)
    (seen : w.db.webhookEvents.find eventId ≠ none) : Proceeds site w payload signature choices eventId .duplicate
  | rejected {eventId : String} {p : Uuid} (checked : Checked site payload signature eventId choices)
    (enters : Enters w payload eventId p choices)
    (refuses : ∀ row, w.payment p = some row → row.status ≠ .processing) :
    Proceeds site w payload signature choices eventId .rejected
  | processed {eventId : String} {p : Uuid} {row : Payment} (checked : Checked site payload signature eventId choices)
    (enters : Enters w payload eventId p choices) (found : w.payment p = some row)
    (processing : row.status = .processing) : Proceeds site w payload signature choices eventId .processed

/-- What a write does, and whether the call it belongs to is answered. -/
structure Written {α : Type} (effect : Db → Db → Prop) (db : Db) (can : Prop) (fault : Fault) (released : Prop)
    (outcome : Except JsError α) (w' : World) : Prop where
  takes : can → fault ≠ .before → effect db w'.db
  stays : ¬(can ∧ fault ≠ .before) → w'.db = db
  answers : (∃ value, outcome = .ok value) ↔ can ∧ fault = .none ∧ released

variable {site : Deployment} {t : Nat} {w w' : World} {p : Uuid} {signature eventId : String} {payload : Json}
  {choices : List Choice} {α : Type} {status : WebhookEventStatus} {row : Payment} {can released : Prop} {fault : Fault}
  {outcome : Except JsError α} {db : Db} {effect : Db → Db → Prop}

theorem Proceeds.checked {path : WebhookPath} (proceeds : Proceeds site w payload signature choices eventId path) :
    Checked site payload signature eventId choices := by
  cases proceeds with
  | duplicate checked _ | rejected checked _ _ | processed checked _ _ _ => exact checked

theorem World.database_written {body : Tx α} {result : α → Option Payment} {choice : Choice}
    (records : ∀ value db', body choice.now w.db = .ok (value, db') → effect w.db db')
    (runs : (∃ value db', body choice.now w.db = .ok (value, db')) ↔ can)
    (h : w.database t choice body result = (outcome, w')) :
    Written effect w.db can choice.fault True outcome w' := by
  cases ran : body choice.now w.db with
  | error e =>
    obtain ⟨same, ⟨e', rfl⟩, _⟩ := World.database_rejected ran h
    have cannot : ¬can := by
      rw [← runs, ran]
      rintro ⟨_, _, is⟩
      cases is
    refine ⟨fun is => (cannot is).elim, fun _ => same, ?_, fun is => (cannot is.1).elim⟩
    rintro ⟨_, is⟩
    cases is
  | ok result =>
    obtain ⟨value, db'⟩ := result
    have took := World.database_takes ran h
    have answer := World.database_answer ran h
    have is : can := runs.mp ⟨value, db', ran⟩
    refine ⟨fun _ kept => ?_, fun lost => ?_, ?_⟩
    · rw [took, if_neg kept]
      exact records value db' ran
    · rw [took, if_pos (by_contra fun kept => lost ⟨is, kept⟩)]
    · rw [answer]
      by_cases quiet : choice.fault = .none
      · simp [quiet, is]
      · simp [quiet]

theorem Written.returning {β : Type} {value : β}
    (written : Written effect db can fault released outcome w') :
    Written effect db can fault released (outcome.map fun _ => value) w' := by
  refine ⟨written.takes, written.stays, ?_⟩
  rw [← written.answers]
  cases outcome <;> simp [Except.map]

/-- An error of the release replaces the outcome. -/
theorem Written.releasing {release : Choice} {w₃ : World}
    (written : Written effect db can fault True outcome w') (same : w₃.db = w'.db) :
    (release.fault = .none → Written effect db can fault (release.fault = .none) outcome w₃) ∧
    (release.fault ≠ .none → ∀ e : JsError,
      Written effect db can fault (release.fault = .none) (.error e : Except JsError α) w₃) := by
  have takes : can → fault ≠ .before → effect db w₃.db := by
    rw [same]
    exact written.takes
  have stays : ¬(can ∧ fault ≠ .before) → w₃.db = db := fun lost => same.trans (written.stays lost)
  refine ⟨fun releases => ⟨takes, stays, ?_⟩, fun fails e => ⟨takes, stays, ?_⟩⟩
  · simpa [releases] using written.answers
  · simp [fails]

theorem Proceeds.unique {other : String} {path path' : WebhookPath}
    (proceeds : Proceeds site w payload signature choices eventId path)
    (proceeds' : Proceeds site w payload signature choices other path') : other = eventId ∧ path' = path := by
  cases proceeds.checked.event.symm.trans proceeds'.checked.event
  refine ⟨rfl, ?_⟩
  cases proceeds with
  | duplicate _ seen =>
    cases proceeds' with
    | duplicate => rfl
    | rejected _ enters | processed _ enters => exact (seen enters.new).elim
  | rejected _ enters refuses =>
    cases proceeds' with
    | duplicate _ seen => exact (seen enters.new).elim
    | rejected => rfl
    | processed _ enters' found processing =>
      cases enters.names.symm.trans enters'.names
      exact (refuses _ found processing).elim
  | processed _ enters found processing =>
    cases proceeds' with
    | duplicate _ seen => exact (seen enters.new).elim
    | rejected _ enters' refuses =>
      cases enters.names.symm.trans enters'.names
      exact (refuses _ found processing).elim
    | processed => rfl

theorem solo_createWebhookEvent {result : WebhookResult}
    {post : List Choice → Except JsError WebhookResult → World → Prop}
    (ends : ∀ choice outcome w', Written (RecordsOnly payload signature) w.db
      (Recordable w.db payload signature eventId) choice.fault True outcome w' → post [choice] outcome w') :
    (solo site t).Ends (do ask (.statement (createWebhookEvent payload signature eventId status)); pure result)
      post w := by
  apply Setting.Ends.bind
  apply solo_ask
  intro choice outcome w' performed
  have written : Written (RecordsOnly payload signature) w.db (Recordable w.db payload signature eventId)
      choice.fault True outcome w' :=
    World.database_written (fun _ _ => createWebhookEvent_records) createWebhookEvent_iff (Option.some.inj performed)
  have returned := ends choice (outcome.map fun _ => result) w' written.returning
  cases outcome with
  | ok value => exact solo_pure returned
  | error e => exact returned

/-- How a webhook with a new event ends under its lock. -/
inductive LockedWebhook (w : World) (payload : Json) (signature eventId : String) :
    List Choice → Except JsError WebhookResult → World → Prop
  | unnamed {choices : List Choice} {e : JsError} {w' : World}
    (unnamed : ∀ p, namedPayment payload ≠ .ok p) (same : w'.db = w.db) :
    LockedWebhook w payload signature eventId choices (.error e) w'
  | unread {read : Choice} {e : JsError} {w' : World} (fault : read.fault ≠ .none) (same : w'.db = w.db) :
    LockedWebhook w payload signature eventId [read] (.error e) w'
  | rejected {read write : Choice} {outcome : Except JsError WebhookResult} {p : Uuid} {w' : World}
    (names : namedPayment payload = .ok p) (quiet : read.fault = .none)
    (refuses : ∀ row, w.payment p = some row → row.status ≠ .processing)
    (written : Written (RecordsOnly payload signature) w.db (Recordable w.db payload signature eventId) write.fault
      True outcome w') : LockedWebhook w payload signature eventId [read, write] outcome w'
  | processed {read clock write : Choice} {outcome : Except JsError WebhookResult} {p : Uuid} {row : Payment}
    {w' : World} (names : namedPayment payload = .ok p) (quiet : read.fault = .none)
    (found : w.payment p = some row) (processing : row.status = .processing)
    (written : Written (RecordsSettlement payload signature) w.db (Storable w.db payload signature eventId clock.now)
      write.fault True outcome w') : LockedWebhook w payload signature eventId [read, clock, write] outcome w'

theorem solo_recordRejected {post : List Choice → Except JsError WebhookResult → World → Prop}
    (ends : ∀ choice outcome w', Written (RecordsOnly payload signature) w.db
      (Recordable w.db payload signature eventId) choice.fault True outcome w' → post [choice] outcome w') :
    (solo site t).Ends (do recordWebhookEvent payload signature eventId .rejected; pure WebhookResult.ignored) post w :=
  solo_createWebhookEvent ends

theorem solo_processWebhookInTx {result : WebhookResult} {at_ : Nat}
    {post : List Choice → Except JsError WebhookResult → World → Prop}
    (names : namedPayment payload = .ok p) (found : w.payment p = some row)
    (ends : ∀ choice outcome w', Written (RecordsSettlement payload signature) w.db
      (Storable w.db payload signature eventId at_) choice.fault True outcome w' → post [choice] outcome w') :
    (solo site t).Ends (do
      let _ ← ask (.transaction (processWebhookInTx p payload signature eventId row (webhookTarget payload) at_))
      pure result) post w := by
  apply Setting.Ends.bind
  apply solo_ask
  intro choice outcome w' performed
  have runs : (∃ updated db', processWebhookInTx p payload signature eventId row (webhookTarget payload) at_ choice.now
      w.db = .ok (updated, db')) ↔ Storable w.db payload signature eventId at_ := by
    rw [processWebhookInTx_iff names]
    exact and_iff_right ⟨row, found, rfl⟩
  have written : Written (RecordsSettlement payload signature) w.db (Storable w.db payload signature eventId at_)
      choice.fault True outcome w' :=
    World.database_written (fun _ _ => processWebhookInTx_records names) runs (Option.some.inj performed)
  have returned := ends choice (outcome.map fun _ => result) w' written.returning
  cases outcome with
  | ok value => exact solo_pure returned
  | error e => exact returned

theorem solo_processWebhookLocked : (solo site t).Ends (processWebhookLocked payload signature eventId)
    (LockedWebhook w payload signature eventId) w := by
  unfold processWebhookLocked
  split
  · rename_i e unnamed
    refine Setting.Ends.throw fun w' same => same ▸ .unnamed (fun p names => ?_) rfl
    rw [unnamed] at names
    cases names
  · rename_i p names
    apply Setting.Ends.bind
    apply solo_find
    · intro read w₁ quiet kept
      have rejected : (∀ row, w.payment p = some row → row.status ≠ .processing) → (solo site t).Ends
          (do recordWebhookEvent payload signature eventId .rejected; pure WebhookResult.ignored)
          (fun rest => LockedWebhook w payload signature eventId (read :: rest)) w₁ := by
        intro refuses
        apply solo_recordRejected
        intro write outcome w' written
        rw [kept.db] at written
        exact .rejected names quiet refuses written
      cases found : w.payment p with
      | none => exact rejected fun row is => by rw [found] at is; cases is
      | some row =>
        have only : row.status ≠ .processing → ∀ row', w.payment p = some row' → row'.status ≠ .processing := by
          intro other row' is
          cases found.symm.trans is
          exact other
        dsimp only
        split
        · rename_i terminal
          apply rejected (only _)
          intro processing
          rw [processing] at terminal
          exact absurd terminal (by decide)
        · split
          · rename_i invalid
            apply rejected (only _)
            intro processing
            rw [processing] at invalid
            rcases webhookTarget_settles payload with target | target <;> rw [target] at invalid <;> cases invalid
          · rename_i valid
            have processing := processing_of_settles (by simpa using valid) (webhookTarget_settles payload)
            apply Setting.Ends.bind
            apply solo_ask
            intro clock now w₂ performed
            have same : w₂.db = w.db := (perform_db performed rfl).trans kept.db
            cases performed
            apply solo_processWebhookInTx names (by rw [World.payment, same]; exact found)
            intro write outcome w' written
            rw [same] at written
            exact .processed names quiet found processing written
    · intro read w₁ fault kept
      exact .unread fault kept.db

/-- How a webhook call ends by itself. -/
inductive WebhookRun (site : Deployment) (w : World) (payload : Json) (signature : String) :
    List Choice → Except JsError WebhookResult → World → Prop
  | stops {choices : List Choice} {e : JsError} {w' : World}
    (refused : ∀ eventId path, ¬Proceeds site w payload signature choices eventId path) (same : w'.db = w.db) :
    WebhookRun site w payload signature choices (.error e) w'
  | writes {choices : List Choice} {outcome : Except JsError WebhookResult} {eventId : String} {path : WebhookPath}
    {w' : World} (proceeds : Proceeds site w payload signature choices eventId path)
    (written : Written (path.Effect payload signature) w.db (path.Can w.db payload signature eventId choices)
      (faultAt choices path.writeAt) (path.Released choices) outcome w') :
    WebhookRun site w payload signature choices outcome w'

theorem not_proceeds {path : WebhookPath} {other : String} (event : payload.field "eventId" = some (.string eventId))
    (new : w.db.webhookEvents.find eventId = none)
    (halts : ∀ p, Enters w payload eventId p choices → False) :
    ¬Proceeds site w payload signature choices other path := by
  have same (checked : Checked site payload signature other choices) : other = eventId := by
    have is := checked.event.symm.trans event
    cases is
    rfl
  intro proceeds
  cases proceeds with
  | duplicate checked seen =>
    rw [same checked] at seen
    exact seen new
  | rejected checked enters _ | processed checked enters _ _ =>
    rw [same checked] at enters
    exact halts _ enters

theorem solo_recordDuplicate {lookup : Choice} {w₁ : World} (same : w₁.db = w.db)
    (checked : ∀ rest, Checked site payload signature eventId (lookup :: rest))
    (seen : w.db.webhookEvents.find eventId ≠ none) :
    (solo site t).Ends (do recordWebhookEvent payload signature eventId .duplicate; pure WebhookResult.ignored)
      (fun rest => WebhookRun site w payload signature (lookup :: rest)) w₁ := by
  apply Setting.Ends.bind
  apply Setting.Ends.bind
  apply solo_ask
  intro clock now w₂ performed
  cases performed
  apply solo_ask
  intro write outcome w' performed
  have written : Written (RecordsOnly payload signature) w₁.db
      (Recordable w₁.db payload signature (eventId ++ "_dup_" ++ Nat.repr clock.now)) write.fault True outcome w' :=
    World.database_written (fun _ _ => createWebhookEvent_records) createWebhookEvent_iff (Option.some.inj performed)
  rw [same] at written
  have run : WebhookRun site w payload signature [lookup, clock, write]
      (outcome.map fun _ => WebhookResult.ignored) w' := .writes (.duplicate (checked _) seen) written.returning
  cases outcome with
  | ok value => exact solo_pure run
  | error e => exact run

theorem LockedWebhook.releasing {lookup id lock release : Choice} {w₁ w₃ : World}
    {outcome : Except JsError WebhookResult}
    (run : LockedWebhook w₁ payload signature eventId choices outcome w') (before : w₁.db = w.db)
    (after : w₃.db = w'.db) (checked : ∀ rest, Checked site payload signature eventId (lookup :: rest))
    (new : w.db.webhookEvents.find eventId = none) (acquired : lock.fault = .none)
    (free : w.locks (webhookLockKey payload) = none) :
    (release.fault = .none →
      WebhookRun site w payload signature (lookup :: id :: lock :: (choices ++ [release])) outcome w₃) ∧
    (release.fault ≠ .none → ∀ e,
      WebhookRun site w payload signature (lookup :: id :: lock :: (choices ++ [release])) (.error e) w₃) := by
  have event := (checked []).event
  have payments : w₁.payment = w.payment := by
    unfold World.payment
    rw [before]
  cases run with
  | unnamed unnamed same =>
    have halts (e : JsError) :
        WebhookRun site w payload signature (lookup :: id :: lock :: (choices ++ [release])) (.error e) w₃ :=
      .stops (fun _ _ => not_proceeds event new fun p enters => unnamed p enters.names)
        (after.trans (same.trans before))
    exact ⟨fun _ => halts _, fun _ => halts⟩
  | unread fault same =>
    have halts (e : JsError) : WebhookRun site w payload signature [lookup, id, lock, _, release] (.error e) w₃ :=
      .stops (fun _ _ => not_proceeds event new fun p enters => fault enters.read) (after.trans (same.trans before))
    exact ⟨fun _ => halts _, fun _ => halts⟩
  | @rejected read write outcome p w' names quiet refuses written =>
    rw [payments] at refuses
    rw [before] at written
    have proceeds := Proceeds.rejected (checked [id, lock, read, write, release])
      ⟨new, names, free, acquired, quiet⟩ refuses
    obtain ⟨quiet, fails⟩ := written.releasing after
    exact ⟨fun releases => .writes proceeds (quiet releases), fun fault e => .writes proceeds (fails fault e)⟩
  | @processed read clock write outcome p row w' names quiet found processing written =>
    rw [payments] at found
    rw [before] at written
    have proceeds := Proceeds.processed (checked [id, lock, read, clock, write, release])
      ⟨new, names, free, acquired, quiet⟩ found processing
    obtain ⟨quiet, fails⟩ := written.releasing after
    exact ⟨fun releases => .writes proceeds (quiet releases), fun fault e => .writes proceeds (fails fault e)⟩

theorem solo_recordNew {lookup : Choice} {w₁ : World} (same : w₁.db = w.db) (locks : w₁.locks = w.locks)
    (checked : ∀ rest, Checked site payload signature eventId (lookup :: rest))
    (new : w.db.webhookEvents.find eventId = none) : (solo site t).Ends
      (withLock (webhookLockKey payload) site.lockTtlMs
        (processWebhookLocked payload signature eventId))
      (fun rest => WebhookRun site w payload signature (lookup :: rest)) w₁ := by
  apply solo_withLock
  · intro id lock e w' refused after
    refine .stops (fun _ _ => not_proceeds (checked []).event new fun p enters => ?_) (after.trans same)
    rcases refused with taken | fault
    · rw [locks] at taken
      exact taken enters.free
    · exact fault enters.acquired
  · intro id lock w₂ free acquired before
    rw [locks] at free
    apply solo_processWebhookLocked.weaken
    intro choices outcome w₃ run release w₄ after
    exact run.releasing (before.trans same) after checked new acquired free

theorem solo_processWebhook :
    (solo site t).Ends (processWebhook site payload signature) (WebhookRun site w payload signature) w := by
  have unsigned : (∀ eventId, ¬Checked site payload signature eventId []) → ∀ e : JsError, ∀ w', w' = w →
      WebhookRun site w payload signature [] (.error e) w' := by
    rintro unchecked e w' rfl
    exact .stops (fun eventId path proceeds => unchecked eventId proceeds.checked) rfl
  unfold processWebhook
  split
  · rename_i e failed
    refine Setting.Ends.throw (unsigned (fun eventId checked => ?_) e)
    rw [checked.signed] at failed
    cases failed
  · rename_i wrong
    refine Setting.Ends.throw (unsigned (fun eventId checked => ?_) _)
    rw [checked.signed] at wrong
    cases wrong
  · rename_i signed
    split
    · rename_i eventId event
      apply Setting.Ends.bind
      unfold findWebhookEvent
      split
      · rename_i plain
        apply solo_read (fun _ => rfl)
        · intro lookup w₁ quiet kept locks
          have checked (rest : List Choice) : Checked site payload signature eventId (lookup :: rest) :=
            ⟨signed, event, plain, quiet⟩
          cases stored : w.db.webhookEvents.find eventId with
          | some webhookEvent =>
            have seen : w.db.webhookEvents.find eventId ≠ none := by
              rw [stored]
              exact Option.some_ne_none webhookEvent
            exact solo_recordDuplicate kept.db checked seen
          | none => exact solo_recordNew kept.db locks checked stored
        · intro lookup w₁ fault kept _
          exact .stops (fun eventId path proceeds => fault proceeds.checked.lookup) kept.db
      · rename_i broken
        refine Setting.Ends.throw (unsigned (fun other checked => ?_) _)
        cases checked.event.symm.trans event
        exact broken checked.plain
    · rename_i unnamed
      exact Setting.Ends.throw (unsigned (fun eventId checked => unnamed eventId checked.event) _)

theorem verifyWebhookSignature_own (text : String) :
    verifyWebhookSignature site text (generateWebhookSignature site text) = .ok true := by
  simp [verifyWebhookSignature]

/-- The sample payment in `PROCESSING`. -/
def processingRow : Payment where
  id := sampleId '0'
  amount := 4999
  currency := "USD"
  status := .processing
  merchantId := "merchant_1"
  customerEmail := "ada@example.com"
  description := none
  gatewayReference := none
  idempotencyKey := none
  retryCount := 0
  maxRetries := 1
  errorCode := none
  errorMessage := none
  version := 2
  metadata := none
  processedAt := none
  createdAt := 0
  updatedAt := 0

def processingWorld : World := { db := { payments := ⟨[processingRow], List.nodup_singleton _⟩ } }

/-- The choices of a call that takes its lock and meets no fault. -/
def quietChoices (token : Char) (count : Nat) : List Choice :=
  {} :: { uuid := sampleId token } :: List.replicate count {}

end PaymentModel
