import PaymentSystem.Properties.AuditTrail

namespace PaymentModel

open Async

def EventData.eventId : EventData → Option String
  | .webhook eventId .. => some eventId
  | _ => none

/-- The webhooks that the audit log has as transitions: event and payment. -/
def webhookTransitions (events : List PaymentEvent) : List (Option String × Uuid) :=
  (events.filter fun event => event.eventType = .webhookReceived).map fun event =>
    (event.eventData.eventId, event.paymentId)

/-- The webhooks that `webhook_events` has as processed. -/
def processedWebhooks (events : List WebhookEvent) : List (Option String × Uuid) :=
  (events.filter fun event => event.status = .processed).map fun event => (some event.eventId, event.paymentId)

/-- One commit applies a webhook: its two events, of which `webhook_events` has it as `stored`, and one new
    version of its payment. -/
structure Applies (older : List (Nat × Obs)) (commit : Commit) (webhook stored : Option String × Uuid) : Prop where
  transition : commit.paymentEvents.length = 1 ∧ webhookTransitions commit.paymentEvents = [webhook]
  processed : commit.webhookEvents.length = 1 ∧ processedWebhooks commit.webhookEvents = [stored]
  row : ∃ row, commit.row = some row ∧ row.id = webhook.2 ∧ row.version = committedVersion row.id older + 1

def Applied (trace : List (Nat × Obs)) (webhook : Option String × Uuid) : Prop :=
  ∃ newer t commit older, trace = newer ++ (t, .committed commit) :: older ∧ Applies older commit webhook webhook

/-- Webhook transitions and processed webhooks are the same, no event id is among them twice, and each was
    applied by one commit with one new version of its payment. -/
structure WebhooksCorrespond (w : World) : Prop where
  same : webhookTransitions w.db.paymentEvents = processedWebhooks w.db.webhookEvents.rows
  single : ((webhookTransitions w.db.paymentEvents).map Prod.fst).Nodup
  applied : ∀ webhook ∈ webhookTransitions w.db.paymentEvents, Applied w.trace webhook

def Obs.eventId : Obs → Option String
  | .webhook payload _ =>
    match payload.field "eventId" with
    | some (.string eventId) => some eventId
    | _ => none
  | _ => none

/-- The event id in the webhook of a thread that has just read its payment. -/
def settledId : List Obs → Option String
  | .read .processWebhook _ :: h => h.findSome? Obs.eventId
  | _ => none

/-- The webhooks that are applied have event ids of at most 255 characters. -/
def WholeIds : List (Nat × Obs) → Prop :=
  EveryCommit fun older t commit =>
    commit.row.isSome → ∀ eventId ∈ settledId (historyOf older t), eventId.length ≤ 255

/-- The webhook as the columns of `webhook_events` keep it. -/
def kept (webhook : Option String × Uuid) : Option String × Uuid := (webhook.1.map (cutText 255), webhook.2)

/-- A webhook is applied by the thread that it was delivered to. -/
def Delivered (trace : List (Nat × Obs)) (webhook : Option String × Uuid) : Prop :=
  ∃ newer t commit older, trace = newer ++ (t, .committed commit) :: older ∧
    Applies older commit webhook (kept webhook) ∧ settledId (historyOf older t) = webhook.1

/-- Audit log and `webhook_events` agree on the webhooks processed up to the column of the event id, and they
    are those that threads have applied. -/
structure WebhooksAgree (w : World) : Prop where
  same : (webhookTransitions w.db.paymentEvents).map kept = processedWebhooks w.db.webhookEvents.rows
  delivered : ∀ webhook ∈ webhookTransitions w.db.paymentEvents, Delivered w.trace webhook
  logged : EveryCommit (fun older t commit => commit.row.isSome → ∀ eventId ∈ settledId (historyOf older t),
    ∃ p, (some eventId, p) ∈ webhookTransitions w.db.paymentEvents) w.trace

variable {site : Deployment} {R : Condition} {t : Nat} {w w' : World} {db : Db} {p : Uuid}
  {old new row : Payment} {event : PaymentEvent} {pool : Pool calls JsError World}
  {webhook : Option String × Uuid} {webhooks : List (Option String × Uuid)}

theorem webhookTransitions_append (events added : List PaymentEvent) :
    webhookTransitions (events ++ added) = webhookTransitions events ++ webhookTransitions added := by
  simp [webhookTransitions]

theorem processedWebhooks_append (events added : List WebhookEvent) :
    processedWebhooks (events ++ added) = processedWebhooks events ++ processedWebhooks added := by
  simp [processedWebhooks]

/-- No event id occurs twice, by the unique index. -/
theorem processedWebhooks_nodup (events : Table String WebhookEvent WebhookEvent.eventId) :
    ((processedWebhooks events.rows).map Prod.fst).Nodup := by
  have ids : ((events.rows.filter fun event => event.status = .processed).map WebhookEvent.eventId).Nodup :=
    events.unique.sublist ((List.filter_sublist).map _)
  have same : (processedWebhooks events.rows).map Prod.fst =
      ((events.rows.filter fun event => event.status = .processed).map WebhookEvent.eventId).map some := by
    simp [processedWebhooks]
  rw [same]
  exact ids.map fun _ _ => Option.some.inj

theorem kept_iff : kept webhook = webhook ↔ ∀ eventId ∈ webhook.1, eventId.length ≤ 255 := by
  rw [← cutText_map_iff, kept, Prod.ext_iff]
  exact and_iff_left rfl

theorem Delivered.later {trace trace' : List (Nat × Obs)} (delivered : Delivered trace webhook)
    (grown : trace <:+ trace') : Delivered trace' webhook := by
  obtain ⟨newer, t, commit, older, rfl, applies⟩ := delivered
  obtain ⟨newest, rfl⟩ := grown
  exact ⟨newest ++ newer, t, commit, older, (List.append_assoc ..).symm, applies⟩

/-- What a commit adds to the two tables of events. -/
structure AddsAlike (w : World) (db : Db) (webhooks : List (Option String × Uuid)) : Prop where
  transitions : webhookTransitions db.paymentEvents = webhookTransitions w.db.paymentEvents ++ webhooks
  processed : processedWebhooks db.webhookEvents.rows =
    processedWebhooks w.db.webhookEvents.rows ++ webhooks.map kept

/-- A step that adds nothing to the two tables and commits nothing. -/
theorem WebhooksAgree.unchanged (agree : WebhooksAgree w) (db : w'.db = w.db)
    (trace : w'.trace = w.trace ∨
      ∃ o, w'.trace = (t, o) :: w.trace ∧ ∀ commit, o ≠ .committed commit) : WebhooksAgree w' := by
  obtain ⟨same, delivered, logged⟩ := agree
  rcases trace with trace | ⟨o, trace, other⟩
  · exact ⟨by rwa [db], by rwa [db, trace], by rwa [db, trace]⟩
  · refine ⟨by rwa [db], ?_, ?_⟩
    · rw [db, trace]
      exact fun webhook member => (delivered webhook member).later (List.suffix_cons ..)
    · rw [db, trace]
      exact throughout_cons.mpr ⟨fun commit is => absurd is (other commit), logged⟩

theorem WebhooksAgree.adds {returned : Option Payment} (agree : WebhooksAgree w)
    (adds : AddsAlike w w'.db webhooks) (trace : w'.trace = (t, .committed (w.added returned w'.db)) :: w.trace)
    (delivered : ∀ webhook ∈ webhooks, Delivered ((t, .committed (w.added returned w'.db)) :: w.trace) webhook)
    (logged : returned.isSome → ∀ eventId ∈ settledId (w.history t), ∃ p, (some eventId, p) ∈ webhooks) :
    WebhooksAgree w' := by
  refine ⟨?_, ?_, ?_⟩
  · rw [adds.transitions, adds.processed, List.map_append, agree.same]
  · intro webhook member
    rw [adds.transitions, List.mem_append] at member
    rw [trace]
    rcases member with before | new
    · exact (agree.delivered webhook before).later (List.suffix_cons ..)
    · exact delivered webhook new
  · simp only [adds.transitions, List.mem_append]
    rw [trace]
    refine throughout_cons.mpr ⟨?_, ?_⟩
    · rintro _ ⟨⟩ committed eventId settled
      obtain ⟨p, member⟩ := logged committed eventId settled
      exact ⟨p, .inr member⟩
    · intro newer entry older split commit is committed eventId settled
      obtain ⟨p, member⟩ := agree.logged newer entry older split commit is committed eventId settled
      exact ⟨p, .inl member⟩

theorem Stated.addsAlike (stated : Stated w.db db) : AddsAlike w db [] := by
  cases stated with
  | response is _ _ paymentEvents webhookEvents =>
    refine ⟨?_, by rw [webhookEvents, List.map_nil, List.append_nil]⟩
    rw [paymentEvents, webhookTransitions_append]
    simp [webhookTransitions, is.eventType]
  | reference retouch =>
    exact ⟨by rw [retouch.paymentEvents, List.append_nil], by simp [retouch.webhookEvents]⟩
  | webhook unprocessed _ paymentEvents inserted =>
    refine ⟨by rw [paymentEvents, List.append_nil], ?_⟩
    rw [(Table.insert_some inserted).2, processedWebhooks_append]
    simp [processedWebhooks, unprocessed]
  | keys ledger =>
    exact ⟨by rw [ledger.paymentEvents, List.append_nil], by simp [ledger.webhookEvents]⟩

theorem Creation.addsAlike {id : Uuid} {key : Option String} {limit : Nat} {made moved : PaymentEvent}
    (creation : Creation w.db db id key limit row made moved) : AddsAlike w db [] := by
  refine ⟨?_, by simp [creation.webhookEvents]⟩
  rw [creation.paymentEvents, webhookTransitions_append]
  simp [webhookTransitions, creation.createdKind, creation.move.eventType]

/-- A transition adds the webhook it reports on to both tables, or nothing to either. -/
theorem Reports.addsAlike (reports : Reports w.db db p event) (moved : Transition w.db db p old row event) :
    AddsAlike w db (webhookTransitions [event]) := by
  refine ⟨by rw [moved.paymentEvents, webhookTransitions_append], ?_⟩
  cases reports with
  | plain kind same => simp [same, webhookTransitions, kind]
  | webhook kind data paymentId eventId status inserted =>
    rw [(Table.insert_some inserted).2, processedWebhooks_append]
    simp [processedWebhooks, webhookTransitions, status, paymentId, eventId, kind, data, EventData.eventId, kept,
      moved.paymentId]

theorem Recorded.unsettled {processing : Payment} {result : GatewayResult} {h : List Obs}
    (recorded : Recorded p processing result h) : settledId h = none := by
  cases recorded
  rfl

/-- The webhook of a transition is the one that its thread was delivered. -/
theorem Cause.settles (cause : Cause site w t p old event) :
    webhookTransitions [event] = (settledId (w.history t)).toList.map fun eventId => (some eventId, event.paymentId) := by
  have none {kind : EventType} (is : event.eventType = kind) (other : kind ≠ .webhookReceived)
      (silent : settledId (w.history t) = none) : webhookTransitions [event] =
        (settledId (w.history t)).toList.map fun eventId => (some eventId, event.paymentId) := by
    simp [webhookTransitions, is, other, silent]
  cases cause with
  | enter own _ _ _ is => exact none is.eventType nofun (by rw [own]; rfl)
  | succeed recorded _ _ _ is => exact none is.eventType nofun recorded.unsettled
  | fail recorded _ _ _ _ is => exact none is.eventType nofun recorded.unsettled
  | giveUp own _ _ _ _ _ is => exact none is.eventType nofun (by rw [own]; rfl)
  | cancel own _ _ _ is => exact none is.eventType nofun (by rw [own]; rfl)
  | permanentlyFail own _ _ _ is => exact none is.eventType nofun (by rw [own]; rfl)
  | schedule own _ _ _ _ _ _ is => exact none is.eventType nofun (by rw [own]; rfl)
  | retry own _ _ _ is => exact none is.eventType nofun (by rw [own]; rfl)
  | @settle _ _ eventId _ _ own _ _ _ _ is _ delivered data =>
    have settled : settledId (w.history t) = some eventId := by
      rw [own]
      simp only [settledId, List.findSome?, Obs.eventId, delivered]
    simp [webhookTransitions, is.eventType, data, EventData.eventId, settled]

/-- The commit of a transition applies its webhook. -/
theorem Transition.delivered (moved : Transition w.db db p old row event) (reports : Reports w.db db p event)
    (cause : Cause site w t p old event) (current : Current w) : ∀ webhook ∈ webhookTransitions [event],
      Delivered ((t, .committed (w.added (some row) db)) :: w.trace) webhook := by
  intro webhook member
  have settles := cause.settles
  cases reports with
  | plain kind => simp [webhookTransitions, kind] at member
  | webhook kind data paymentId eventId status inserted =>
    rename_i id _ _ _
    have single : webhookTransitions [event] = [(some id, p)] := by
      simp [webhookTransitions, kind, data, EventData.eventId, moved.paymentId]
    rw [single, List.mem_singleton] at member
    subst member
    have settled : settledId (w.history t) = some id := by
      rw [single] at settles
      cases settled : settledId (w.history t) <;> simp_all
    refine ⟨[], t, _, w.trace, rfl, ⟨?_, ?_, row, rfl, moved.id, ?_⟩, settled⟩
    · rw [moved.added]
      exact ⟨rfl, single⟩
    · simp [World.added, (Table.insert_some inserted).2, processedWebhooks, status, paymentId, eventId, kept]
    · rw [current.version, moved.id, moved.found, moved.version]
      rfl

theorem Transacted.settles (transacted : Transacted site w t db row) (current : Current w) :
    ∃ webhooks, AddsAlike w db webhooks ∧
      (∀ webhook ∈ webhooks, Delivered ((t, .committed (w.added (some row) db)) :: w.trace) webhook) ∧
      ∀ eventId ∈ settledId (w.history t), ∃ p, (some eventId, p) ∈ webhooks := by
  cases transacted with
  | created own _ creation =>
    refine ⟨[], creation.addsAlike, by simp, ?_⟩
    rw [own]
    rintro _ ⟨⟩
  | moved cause _ transition reports =>
    refine ⟨_, reports.addsAlike transition, transition.delivered reports cause current, ?_⟩
    intro eventId settled
    rw [cause.settles, settled]
    exact ⟨_, List.mem_singleton_self _⟩

theorem WebhooksAgree.step (agree : WebhooksAgree w) (current : Current w) (step : Step site R t w w') :
    WebhooksAgree w' := by
  rcases step.db with ⟨db, trace⟩ | ⟨row, trace, committed⟩ | ⟨trace, stated⟩
  · exact agree.unchanged db trace
  · obtain ⟨webhooks, adds, delivered, logged⟩ := committed.settles current
    exact agree.adds adds trace delivered fun _ => logged
  · exact agree.adds stated.addsAlike trace (by simp) nofun

theorem webhooks_agree (reached : Reached site R pool) : WebhooksAgree pool.world :=
  (invariant_of_steps (fun w => Current w ∧ WebhooksAgree w)
    ⟨fun _ => rfl, rfl, by simp [webhookTransitions], throughout_nil _⟩
    (fun _ _ _ held step => ⟨step.current held.1, held.2.step held.1 step⟩) reached).2

/-- In every reachable state, audit log and `webhook_events` correspond exactly when the webhooks that were
    applied have event ids that the column keeps whole. -/
theorem webhook_events_agree (reached : Reached site R pool) :
    WebhooksCorrespond pool.world ↔ WholeIds pool.world.trace := by
  have agree := webhooks_agree reached
  constructor
  · intro correspond newer entry older split commit is returned eventId settled
    have whole : (webhookTransitions pool.world.db.paymentEvents).map kept =
        (webhookTransitions pool.world.db.paymentEvents).map id := by
      rw [List.map_id, agree.same, correspond.same]
    obtain ⟨p, member⟩ := agree.logged newer entry older split commit is returned eventId settled
    exact kept_iff.mp (List.map_inj_left.mp whole _ member) eventId rfl
  · intro whole
    have kept (webhook) (member : webhook ∈ webhookTransitions pool.world.db.paymentEvents) :
        kept webhook = webhook := by
      obtain ⟨newer, t, commit, older, split, ⟨_, _, _, returned, _⟩, settled⟩ := agree.delivered webhook member
      have returned' : commit.row.isSome := by rw [returned]; rfl
      exact kept_iff.mpr (settled ▸ whole newer _ older split commit rfl returned')
    have same : webhookTransitions pool.world.db.paymentEvents =
        processedWebhooks pool.world.db.webhookEvents.rows := by
      rw [← agree.same, List.map_congr_left kept, List.map_id']
    refine ⟨same, ?_, ?_⟩
    · rw [same]
      exact processedWebhooks_nodup _
    · intro webhook member
      obtain ⟨newer, t, commit, older, split, applies, _⟩ := agree.delivered webhook member
      rw [kept webhook member] at applies
      exact ⟨newer, t, commit, older, split, applies⟩

def pendingWebhook : GatewayOutcome := .response {
  success := false
  gatewayReference := "gw_1"
  pending := true
  errorCode := none
  errorMessage := none }

instance : DecidablePred WholeIds := fun trace => decidable_of_iff (EveryCommit _ trace) .rfl

theorem webhook_events_agree_settled : ∃ pool, Reached sampleSite .free pool ∧
    webhookTransitions pool.world.db.paymentEvents = [(some "evt_1", sampleId '0')] ∧
    WebhooksCorrespond pool.world := by
  obtain ⟨pool, reached, shown⟩ := reached_of_run sampleSite .free
    (creation ++ attempt 1 'a' pendingWebhook ++ acts 1 [{}, {}, {}, {}] ++
      signedWebhook 2 'b' "success" none ++ acts 2 [{}, {}, {}, {}, {}])
    (fun pool => decide (webhookTransitions pool.world.db.paymentEvents = [(some "evt_1", sampleId '0')]) &&
      decide (WholeIds pool.world.trace))
    (by decide +kernel)
  obtain ⟨settled, whole⟩ := Bool.and_eq_true_iff.mp shown
  exact ⟨pool, reached, of_decide_eq_true settled, (webhook_events_agree reached).mpr (of_decide_eq_true whole)⟩

/-- A webhook with an event id of 255 characters and a space. -/
def spacedWebhook : Json :=
  .object [("eventId", .string ("".pushn 'e' 255 ++ " ")), ("paymentId", .string (sampleId '0')),
    ("gatewayReference", .string "gw_1"), ("status", .string "success"),
    ("timestamp", .string "2026-01-05T10:00:00.000Z")]

def spacedSite : Deployment :=
  signing spacedWebhook "b016ac8d2bfa7ae23a050d6ce812c0cccec66c9fca9e220f7938b17b78308623" (by decide +kernel)

/-- The column drops the space, the audit log keeps it. -/
theorem webhook_events_differ : ∃ pool, Reached spacedSite .free pool ∧
    webhookTransitions pool.world.db.paymentEvents = [(some ("".pushn 'e' 255 ++ " "), sampleId '0')] ∧
    processedWebhooks pool.world.db.webhookEvents.rows = [(some ("".pushn 'e' 255), sampleId '0')] ∧
    ¬ WebhooksCorrespond pool.world := by
  obtain ⟨pool, reached, shown⟩ := reached_of_run spacedSite .free
    (creation ++ attempt 1 'a' pendingWebhook ++ acts 1 [{}, {}, {}, {}] ++
      signedDelivery spacedSite 2 'b' spacedWebhook ++ acts 2 [{}, {}, {}, {}, {}])
    (fun pool => decide (
      webhookTransitions pool.world.db.paymentEvents = [(some ("".pushn 'e' 255 ++ " "), sampleId '0')] ∧
      processedWebhooks pool.world.db.webhookEvents.rows = [(some ("".pushn 'e' 255), sampleId '0')]))
    (by decide +kernel)
  obtain ⟨logged, stored⟩ := of_decide_eq_true shown
  refine ⟨pool, reached, logged, stored, fun correspond => ?_⟩
  have same := correspond.same
  rw [logged, stored] at same
  revert same
  decide +kernel

end PaymentModel
