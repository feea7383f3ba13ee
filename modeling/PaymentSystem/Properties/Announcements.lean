import PaymentSystem.Proof.Solo
import PaymentSystem.Properties.Amounts

namespace PaymentModel

open Async

/-- The process queue takes the job, or it holds it already. -/
def ProcessRoom (p : Uuid) (w : World) : Prop :=
  w.processQueue.stores ⟨p⟩ = true → w.processQueue.Holds ⟨p⟩

def RetryRoom (job : RetryJob) (w : World) : Prop := w.retryQueue.stores job = true → w.retryQueue.Holds job

/-- An operation that changes a payment and announces a job for it. -/
inductive Announcement where
  | createPayment (data : CreatePaymentRequest) (idempotencyKey : Option String)
  | scheduleRetry (paymentId : Uuid) (currentAttempt : Nat)
  | executeRetry (paymentId : Uuid)

namespace Announcement

def run (site : Deployment) : Announcement → Promise Unit
  | .createPayment data idempotencyKey => do let _ ← PaymentModel.createPayment site data idempotencyKey
  | .scheduleRetry paymentId currentAttempt => PaymentModel.scheduleRetry site paymentId currentAttempt
  | .executeRetry paymentId => PaymentModel.executeRetry paymentId

/-- The number of its transaction among its calls; the call after it adds the job. -/
def transactionAt : Announcement → Nat
  | .createPayment .. | .executeRetry _ => 1
  | .scheduleRetry .. => 3

/-- The job that the operation announces is to be run. -/
def Queued (choices : List Choice) (w : World) : Announcement → Prop
  | .createPayment .. => w.processQueue.Holds ⟨(choiceAt choices 0).uuid⟩
  | .scheduleRetry paymentId currentAttempt => w.retryQueue.Holds ⟨paymentId, currentAttempt + 1⟩
  | .executeRetry paymentId => w.processQueue.Holds ⟨paymentId⟩

/-- No finished or active job has the name of the announced one. -/
def Room (choices : List Choice) (w : World) : Announcement → Prop
  | .createPayment .. => ProcessRoom (choiceAt choices 0).uuid w
  | .scheduleRetry paymentId currentAttempt => RetryRoom ⟨paymentId, currentAttempt + 1⟩ w
  | .executeRetry paymentId => ProcessRoom paymentId w

/-- The row that is read lets the operation go on. -/
def Finds (w : World) (paymentId : Uuid) (status : PaymentStatus) : Prop :=
  ∃ row, w.payment paymentId = some row ∧ row.status = status

/-- The operation comes to its transaction, which can commit. -/
def Applies (site : Deployment) (choices : List Choice) (w : World) : Announcement → Prop
  | .createPayment data idempotencyKey =>
    let row := createPaymentData site (choiceAt choices 0).uuid data idempotencyKey
    row.Fits ∧ Unused w.db row.id (row.idempotencyKey.map (cutText 255)) ∧ (decimal12_2 row.amount).isSome = true
  | .scheduleRetry paymentId _ => faultAt choices 1 = .none ∧ Finds w paymentId .failed
  | .executeRetry paymentId => faultAt choices 0 = .none ∧ Finds w paymentId .retryScheduled

end Announcement

/-- The payments and their audit events are as they were. -/
def SameTables (w w' : World) : Prop :=
  w'.db.payments = w.db.payments ∧ w'.db.paymentEvents = w.db.paymentEvents

/-- No half-done work is left: an operation that throws leaves the tables as they were, and the tables
    change exactly with the queue. -/
structure AllOrNothing (w w' : World) (threw queued : Prop) : Prop where
  unchanged : threw → SameTables w w'
  announced : ¬SameTables w w' → queued
  silent : SameTables w w' → SameQueues w w'

/-- The transaction fails before it takes effect, or neither it nor the queue fails and the queue has
    room for the job. -/
def Announcement.Delivers (op : Announcement) (choices : List Choice) (w : World) : Prop :=
  faultAt choices op.transactionAt = .before ∨
    faultAt choices op.transactionAt = .none ∧ faultAt choices (op.transactionAt + 1) = .none ∧ op.Room choices w

variable {site : Deployment} {t : Nat} {w w' : World} {p : Uuid} {choices : List Choice}
  {α : Type} {outcome : Except JsError α}

/-- How the end of such an operation, from the transaction on, goes. -/
inductive AnnounceRun (w : World) (commits : Prop) (queued room : World → Prop) :
    List Choice → Except JsError α → World → Prop
  | rejected {transaction : Choice} {e : JsError} {w' : World} (refuses : ¬commits ∨ transaction.fault = .before)
    (same : Untouched w w') : AnnounceRun w commits queued room [transaction] (.error e) w'
  | unheard {transaction : Choice} {e : JsError} {w' : World} (can : commits) (fault : transaction.fault = .after)
    (changed : ¬SameTables w w') : AnnounceRun w commits queued room [transaction] (.error e) w'
  | announced {transaction add : Choice} {outcome : Except JsError α} {w' : World} (can : commits)
    (takes : transaction.fault = .none) (changed : ¬SameTables w w')
    (throws : (∃ e, outcome = .error e) ↔ add.fault ≠ .none) (placed : add.fault = .none → (queued w' ↔ room w)) :
    AnnounceRun w commits queued room [transaction, add] outcome w'

/-- What a call that adds a job does. -/
structure Added (w : World) (queued room : World → Prop) (add : Choice) (outcome : Except JsError α)
    (w' : World) : Prop where
  db : w'.db = w.db
  throws : (∃ e, outcome = .error e) ↔ add.fault ≠ .none
  placed : add.fault = .none → (queued w' ↔ room w)

theorem Added.of_remote {queued room : World → Prop} {add : Choice} {outcome : Except JsError Unit} {effect : World}
    (h : w.remote t add.fault (.ok ()) effect none = (outcome, w')) (same : effect.db = w.db)
    (placed : queued effect ↔ room w) : Added w queued room add outcome w' := by
  refine ⟨World.remote_frame h World.db (fun _ _ => rfl) same, ?_, ?_⟩
  · rcases World.remote_cases h with ⟨fault, rfl, _⟩ | ⟨fault, rfl, _⟩ | ⟨fault, rfl, _⟩ <;> simp [fault]
  · intro quiet
    rw [quiet] at h
    cases h
    exact placed

/-- The program adds a job with its only call. -/
def AddsJob (site : Deployment) (t : Nat) (queued room : World → Prop) (program : Promise α) : Prop :=
  ∀ w (post : List Choice → Except JsError α → World → Prop),
    (∀ add outcome w', Added w queued room add outcome w' → post [add] outcome w') → (solo site t).Ends program post w

theorem enqueuePayment_adds (p : Uuid) :
    AddsJob site t (fun w => w.processQueue.Holds ⟨p⟩) (ProcessRoom p) (enqueuePayment p) := by
  intro w post ends
  apply solo_ask
  intro add outcome w' performed
  exact ends add outcome w' (.of_remote (Option.some.inj performed) rfl JobQueue.holds_add)

theorem enqueueRetry_adds (p : Uuid) (attempt : Nat) (delayMs : Int) :
    AddsJob site t (fun w => w.retryQueue.Holds ⟨p, attempt⟩) (RetryRoom ⟨p, attempt⟩)
      (enqueueRetry p attempt delayMs) := by
  intro w post ends
  apply solo_ask
  intro add outcome w' performed
  exact ends add outcome w' (.of_remote (Option.some.inj performed) rfl JobQueue.holds_addDelayed)

theorem AddsJob.returning {β : Type} {queued room : World → Prop} {program : Promise α}
    (adds : AddsJob site t queued room program) (value : β) :
    AddsJob site t queued room (do let _ ← program; pure value) := by
  intro w post ends
  apply Setting.Ends.bind
  apply adds
  intro add outcome w' added
  cases outcome with
  | ok result => exact solo_pure (ends add (.ok value) w' { added with throws := by simpa using added.throws })
  | error e => exact ends add (.error e) w' { added with throws := by simpa using added.throws }

theorem solo_announce (commits : Prop) {queued room : World → Prop} {body : Tx Payment} {rest : Payment → Promise α}
    (can : commits → ∀ now, ∃ row db', body now w.db = .ok (row, db') ∧ db'.paymentEvents ≠ w.db.paymentEvents)
    (cannot : ¬commits → ∀ now, ∃ e, body now w.db = .error e) (adds : ∀ row, AddsJob site t queued room (rest row))
    (depends : ∀ w', SameQueues w w' → (room w' ↔ room w)) :
    (solo site t).Ends (do rest (← ask (.transaction body))) (AnnounceRun w commits queued room) w := by
  have committed : ∀ {now row db'}, body now w.db = .ok (row, db') → commits := by
    intro now row db' ran
    by_contra other
    obtain ⟨e, failed⟩ := cannot other now
    rw [ran] at failed
    cases failed
  have changed : ∀ {now row db' w'}, body now w.db = .ok (row, db') → w'.db = db' → ¬SameTables w w' := by
    intro now row db' w' ran same tables
    obtain ⟨row', db₁, ran', events⟩ := can (committed ran) now
    cases ran.symm.trans ran'
    rw [← same] at events
    exact events tables.2
  apply Setting.Ends.bind
  apply solo_transaction
  · intro transaction e w' refused same
    refine .rejected (refused.imp (fun ⟨e', failed⟩ holds => ?_) id) same
    obtain ⟨row, db', ran, _⟩ := can holds transaction.now
    rw [ran] at failed
    cases failed
  · intro transaction row db' w' ran takes same queues
    apply adds
    intro add outcome w'' added
    have tables : ¬SameTables w w'' := changed ran (added.db.trans same)
    exact .announced (committed ran) takes tables added.throws fun quiet =>
      (added.placed quiet).trans (depends w' queues)
  · exact fun transaction row db' e w' ran fault same _ => .unheard (committed ran) fault (changed ran same)

theorem Untouched.whole {threw queued : Prop} (same : Untouched w w') : AllOrNothing w w' threw queued := by
  have tables : SameTables w w' := ⟨congrArg Db.payments same.db, congrArg Db.paymentEvents same.db⟩
  exact ⟨fun _ => tables, fun changed => (changed tables).elim, fun _ => same.queues⟩

theorem AllOrNothing.since {w₁ : World} {threw queued : Prop} (same : Untouched w w₁) :
    AllOrNothing w₁ w' threw queued ↔ AllOrNothing w w' threw queued := by
  have tables : SameTables w₁ w' ↔ SameTables w w' := by
    unfold SameTables
    rw [same.db]
  have queues : SameQueues w₁ w' ↔ SameQueues w w' := by
    unfold SameQueues
    rw [same.queues.1, same.queues.2]
  constructor
  · intro whole
    exact ⟨tables.mp ∘ whole.unchanged, whole.announced ∘ mt tables.mp, queues.mp ∘ whole.silent ∘ tables.mpr⟩
  · intro whole
    exact ⟨tables.mpr ∘ whole.unchanged, whole.announced ∘ mt tables.mpr, queues.mpr ∘ whole.silent ∘ tables.mp⟩

theorem AnnounceRun.whole {commits : Prop} {queued room : World → Prop} {rest : List Choice}
    {outcome : Except JsError α} (run : AnnounceRun w commits queued room rest outcome w') :
    AllOrNothing w w' (∃ e, outcome = .error e) (queued w') ↔ (commits → faultAt rest 0 = .before ∨
      faultAt rest 0 = .none ∧ faultAt rest 1 = .none ∧ room w) := by
  cases run with
  | rejected refuses same =>
    constructor
    · intro _ can
      rcases refuses with cannot | fault
      · exact (cannot can).elim
      · exact .inl fault
    · exact fun _ => same.whole
  | @unheard transaction e w' can fault changed =>
    constructor
    · intro whole
      exact (changed (whole.unchanged ⟨_, rfl⟩)).elim
    · intro delivers
      have fault' : faultAt [transaction] 0 = .after := fault
      rcases delivers can with before | ⟨none, _⟩
      · rw [before] at fault'
        cases fault'
      · rw [none] at fault'
        cases fault'
  | @announced transaction add outcome w' can takes changed throws placed =>
    have faults : faultAt [transaction, add] 1 = add.fault := rfl
    constructor
    · intro whole _
      have quiet : add.fault = .none := by
        by_contra fault
        exact changed (whole.unchanged (throws.mpr fault))
      exact .inr ⟨takes, quiet, (placed quiet).mp (whole.announced changed)⟩
    · intro delivers
      have takes' : faultAt [transaction, add] 0 = .none := takes
      rcases delivers can with before | ⟨_, quiet, roomy⟩
      · rw [before] at takes'
        cases takes'
      · rw [faults] at quiet
        exact ⟨fun threw => (throws.mp threw quiet).elim, fun _ => (placed quiet).mpr roomy,
          fun same => (changed same).elim⟩

theorem recordedUpdate_commits {version : Nat} {data : PaymentUpdateInput} {row : Payment} {db : Db}
    (build : Payment → PaymentEvent) (found : db.payment p = some row) (same : row.version = version)
    (fits : data.Fits) (about : ∀ row, (build row).paymentId = p)
    (takes : ∀ row, (build row).eventData.nullFree = true) (now : Nat) :
    ∃ row db', recordedUpdate p version data build now db = .ok (row, db') ∧
      db'.paymentEvents ≠ db.paymentEvents := by
  obtain ⟨db', ran, _⟩ := recordedUpdate_run now build found same fits about takes
  obtain ⟨_, _, _, _, is⟩ := recordedUpdate_ok ran
  refine ⟨_, db', ran, ?_⟩
  rw [is]
  simp

theorem Announcement.room_iff (op : Announcement) (choices : List Choice) (same : SameQueues w w') :
    op.Room choices w' ↔ op.Room choices w := by
  cases op <;> simp only [Room, ProcessRoom, RetryRoom, same.1, same.2]

/-- What an operation of which only the announcement is left, `before` being the choices it has met, still
    has to show. -/
theorem AnnounceRun.delivers (op : Announcement) (before : List Choice) {commits : Prop} {w₁ : World}
    {rest : List Choice} {outcome : Except JsError α}
    (run : AnnounceRun w₁ commits (fun w => op.Queued (before ++ rest) w) (fun w => op.Room (before ++ rest) w) rest
      outcome w') (same : Untouched w w₁) (met : before.length = op.transactionAt)
    (applies : commits ↔ op.Applies site (before ++ rest) w) :
    AllOrNothing w w' (∃ e, outcome = .error e) (op.Queued (before ++ rest) w') ↔
      (op.Applies site (before ++ rest) w → op.Delivers (before ++ rest) w) := by
  have after (n : Nat) : faultAt (before ++ rest) (op.transactionAt + n) = faultAt rest n := by
    unfold faultAt choiceAt
    rw [← met, List.getD_eq_getElem?_getD, List.getElem?_append_right (Nat.le_add_right _ _), Nat.add_sub_cancel_left,
      List.getD_eq_getElem?_getD]
  rw [← AllOrNothing.since same, run.whole, applies, Announcement.room_iff op _ same.queues]
  unfold Announcement.Delivers
  rw [after 1, ← after 0]
  rfl

theorem not_finds {status : PaymentStatus} (other : ∀ row, w.payment p = some row → row.status ≠ status) :
    ¬Announcement.Finds w p status := fun ⟨row, found, is⟩ => other row found is

/-- What the theorem below says of one run. -/
abbrev Announcement.Kept (op : Announcement) (site : Deployment) (w : World) (choices : List Choice)
    (outcome : Except JsError Unit) (w' : World) : Prop :=
  AllOrNothing w w' (∃ e, outcome = .error e) (op.Queued choices w') ↔
    (op.Applies site choices w → op.Delivers choices w)

theorem Untouched.kept {op : Announcement} {outcome : Except JsError Unit} (same : Untouched w w')
    (idle : ¬op.Applies site choices w) : op.Kept site w choices outcome w' :=
  ⟨fun _ applies => (idle applies).elim, fun _ => same.whole⟩

theorem solo_executeRetry (p : Uuid) : (solo site t).Ends ((Announcement.executeRetry p).run site)
    ((Announcement.executeRetry p).Kept site w) w := by
  apply Setting.Ends.bind
  apply solo_find
  · intro find w₁ heard same
    cases found : w.payment p with
    | none => exact solo_pure (same.kept fun applies => not_finds (by simp [found]) applies.2)
    | some row =>
      dsimp only
      split
      · rename_i other
        exact solo_pure (same.kept fun applies => not_finds (by simpa [found] using other) applies.2)
      · rename_i scheduled
        have status : row.status = .retryScheduled := not_not.mp scheduled
        have present : w₁.db.payment p = some row := same.db ▸ found
        apply (solo_announce _ (fun _ => recordedUpdate_commits _ present rfl ⟨rfl, rfl, rfl⟩ (fun _ => rfl) fun _ => rfl)
          (fun no => (no trivial).elim) (fun _ => enqueuePayment_adds p)
          fun w' => Announcement.room_iff (.executeRetry p) []).weaken
        intro rest outcome w' run
        exact run.delivers (.executeRetry p) [find] same rfl ⟨fun _ => ⟨heard, row, found, status⟩, fun _ => trivial⟩
  · exact fun find w₁ fault same => same.kept fun applies => fault applies.1

theorem solo_scheduleRetry (p : Uuid) (attempt : Nat) :
    (solo site t).Ends ((Announcement.scheduleRetry p attempt).run site)
      ((Announcement.scheduleRetry p attempt).Kept site w) w := by
  apply Setting.Ends.bind
  apply solo_ask
  intro draw random w₁ performed
  have same₁ := perform_untouched performed rfl rfl
  cases random with
  | error e =>
    simp only [perform] at performed
    split at performed <;> cases performed
  | ok random =>
    apply Setting.Ends.bind
    apply solo_find
    · intro find w₂ heard same₂
      have same₂ := same₁.trans same₂
      have payment : w₁.payment p = w.payment p := by
        unfold World.payment
        rw [same₁.db]
      rw [payment]
      cases found : w.payment p with
      | none => exact solo_pure (same₂.kept fun applies => not_finds (by simp [found]) applies.2)
      | some row =>
        dsimp only
        split
        · rename_i other
          exact solo_pure (same₂.kept fun applies => not_finds (by simpa [found] using other) applies.2)
        · rename_i failed
          have status : row.status = .failed := not_not.mp failed
          apply Setting.Ends.bind
          apply solo_ask
          intro clock now w₃ performed
          have same₃ := same₂.trans (perform_untouched performed rfl rfl)
          have present : w₃.db.payment p = some row := same₃.db ▸ found
          cases performed
          apply (solo_announce _ (fun _ => recordedUpdate_commits _ present rfl ⟨rfl, rfl, rfl⟩ (fun _ => rfl) fun _ => rfl)
            (fun no => (no trivial).elim) (fun _ => enqueueRetry_adds p (attempt + 1) _)
            fun w' => Announcement.room_iff (.scheduleRetry p attempt) []).weaken
          intro rest outcome w' run
          exact run.delivers (.scheduleRetry p attempt) [draw, find, clock] same₃ rfl
            ⟨fun _ => ⟨heard, row, found, status⟩, fun _ => trivial⟩
    · exact fun find w₂ fault same₂ => (same₁.trans same₂).kept fun applies => fault applies.1

theorem createPaymentInTx_commits {id : Uuid} {data : CreatePaymentRequest} {key : Option String} {db : Db}
    (fits : (createPaymentData site id data key).Fits) (unused : Unused db id ((orNull key).map (cutText 255)))
    (amount : (decimal12_2 data.amount.value).isSome = true) (now : Nat) :
    ∃ row db', createPaymentInTx site id data key now db = .ok (row, db') ∧
      db'.paymentEvents ≠ db.paymentEvents := by
  obtain ⟨cents, amount⟩ := Option.isSome_iff_exists.mp amount
  obtain ⟨row, db', ran, _⟩ := createPaymentInTx_run now fits unused amount
  obtain ⟨_, created, moved, creation⟩ := createPaymentInTx_creates ran
  refine ⟨row, db', ran, ?_⟩
  rw [creation.paymentEvents]
  simp

theorem solo_createPayment (data : CreatePaymentRequest) (key : Option String) :
    (solo site t).Ends ((Announcement.createPayment data key).run site)
      ((Announcement.createPayment data key).Kept site w) w := by
  apply Setting.Ends.bind
  apply Setting.Ends.bind
  apply solo_ask
  intro draw id w₁ performed
  have same := perform_untouched performed rfl rfl
  simp only [perform] at performed
  split at performed
  · cases performed
  cases performed
  apply Setting.Ends.weaken
  · refine solo_announce ((Announcement.createPayment data key).Applies site [draw] w) ?_ ?_
      (fun row => (enqueuePayment_adds draw.uuid).returning (toPaymentResponse row))
      fun w' => Announcement.room_iff (.createPayment data key) [draw]
    · exact fun applies => createPaymentInTx_commits applies.1 applies.2.1 applies.2.2
    · intro idle now
      cases ran : createPaymentInTx site draw.uuid data key now w.db with
      | error e => exact ⟨e, ran⟩
      | ok result =>
        obtain ⟨fits, unused, amount⟩ := createPaymentInTx_inserted ran
        exact (idle ⟨fits, unused, Option.isSome_iff_exists.mpr ⟨_, amount⟩⟩).elim
  · intro rest outcome w' run
    have delivers := run.delivers (.createPayment data key) [draw] same rfl Iff.rfl
    cases outcome with
    | ok response =>
      apply solo_pure
      rw [List.append_nil]
      unfold Announcement.Kept
      simpa only [reduceCtorEq, exists_false] using delivers
    | error e =>
      unfold Announcement.Kept
      simpa only [Except.error.injEq, exists_eq'] using delivers

/-- Each of the three operations leaves no half-done work exactly when nothing fails from its commit on
    and the queue takes the job. -/
theorem announcement_iff (op : Announcement) {outcome : Except JsError Unit}
    (ran : (system site).execute t (op.run site) w choices = some (outcome, w')) :
    AllOrNothing w w' (∃ e, outcome = .error e) (op.Queued choices w') ↔
      (op.Applies site choices w → op.Delivers choices w) := by
  have ends : (solo site t).Ends (op.run site) (op.Kept site w) w := by
    cases op with
    | createPayment data key => exact solo_createPayment data key
    | scheduleRetry p attempt => exact solo_scheduleRetry p attempt
    | executeRetry p => exact solo_executeRetry p
  exact ends.execute ran

def sampleAnnouncement : Announcement := .createPayment (sampleOrder none trimmed_none).body none

theorem announcement_iff_creates : ∃ outcome w',
    (system sampleSite).execute 0 (sampleAnnouncement.run sampleSite) {} [{ uuid := sampleId '0' }, {}, {}] =
      some (outcome, w') ∧
    AllOrNothing {} w' (∃ e, outcome = .error e) (sampleAnnouncement.Queued [{ uuid := sampleId '0' }, {}, {}] w') := by
  have ends : ((system sampleSite).execute 0 (sampleAnnouncement.run sampleSite) {}
      [{ uuid := sampleId '0' }, {}, {}]).isSome = true := by decide +kernel
  obtain ⟨⟨outcome, w'⟩, ran⟩ := Option.isSome_iff_exists.mp ends
  exact ⟨outcome, w', ran, (announcement_iff _ ran).mpr fun _ => .inr ⟨rfl, rfl, nofun⟩⟩

/-- The queue cannot be reached after the commit: the payment is there, in `PENDING`, and no job for it. -/
theorem createPayment_without_job : ∃ e w',
    (system sampleSite).execute 0 (sampleAnnouncement.run sampleSite) {}
      [{ uuid := sampleId '0' }, {}, { fault := .before }] = some (.error e, w') ∧
    (∃ row, w'.payment (sampleId '0') = some row ∧ row.status = .pending) ∧ ¬SameTables {} w' ∧
    ¬sampleAnnouncement.Queued [{ uuid := sampleId '0' }, {}, { fault := .before }] w' := by
  have ends : ((system sampleSite).execute 0 (sampleAnnouncement.run sampleSite) {}
      [{ uuid := sampleId '0' }, {}, { fault := .before }]).any (fun result =>
        !result.1.isOk && ((result.2.payment (sampleId '0')).any fun row => row.status = .pending) &&
          result.2.db.paymentEvents.length = 2 && result.2.processQueue.stored.isEmpty) = true := by decide +kernel
  obtain ⟨⟨outcome, w'⟩, ran, shown⟩ := (Option.any_eq_true _ _).mp ends
  obtain ⟨shown, empty⟩ := Bool.and_eq_true_iff.mp shown
  obtain ⟨shown, events⟩ := Bool.and_eq_true_iff.mp shown
  obtain ⟨threw, stored⟩ := Bool.and_eq_true_iff.mp shown
  obtain ⟨row, found, pending⟩ := (Option.any_eq_true _ _).mp stored
  cases outcome with
  | ok value => cases threw
  | error e =>
    refine ⟨e, w', ran, ⟨row, found, of_decide_eq_true pending⟩, fun same => ?_, fun queued => ?_⟩
    · rw [same.2] at events
      cases events
    · have jobs := List.isEmpty_iff.mp empty
      simp only [JobQueue.stored, List.append_eq_nil_iff] at jobs
      rcases queued with waiting | delayed
      · rw [jobs.1.1.1.1] at waiting
        cases waiting
      · rw [jobs.1.1.1.2] at delayed
        cases delayed

end PaymentModel
