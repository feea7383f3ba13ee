import PaymentSystem.Proof.Failures
import PaymentSystem.Proof.Walks

namespace PaymentModel

open Async

/-- Something went wrong, and no handler has made the error for its client. -/
def Broke (site : Deployment) (a : Obs) (e : JsError) (ds : List Deed) : Prop := e.Internal ∧ Broken site a ds

/-- How a handler fails before it has answered. -/
def Fails (site : Deployment) (a : Obs) (e : JsError) (ds : List Deed) : Prop :=
  Refuses site a ds e ∨ Broke site a e ds

/-- The answer is given. -/
def Replied (ds : List Deed) : Prop := ∃ code body before, ds = .answered code body :: before

variable {site : Deployment} {α β : Type} {t u : Nat} {w w' : World} {c : Call} {a : Obs} {ds before : List Deed}
  {p : Uuid} {key spelled : String} {e : JsError} {payload : Json} {request : PostRequest} {code : Nat}
  {body : ResponseBody} {err : JsError → List Deed → Prop}

theorem Early.idle : Early [] := ⟨rfl, rfl, Nat.zero_le _⟩

theorem Early.cons {d : Deed} (early : Early ds) (unanswered : d.isAnswer = false) (unfound : d.isFound = false)
    (still : d.row = none) : Early (d :: ds) := by
  obtain ⟨waiting, fresh, single⟩ := early
  refine ⟨?_, ?_, ?_⟩
  · rwa [Unanswered, List.all_cons, unanswered]
  · rwa [List.all_cons, unfound]
  · rwa [movedRows, List.filterMap_cons_none still]

theorem Early.moved (early : Early ds) (still : movedRows ds = []) (row : Payment) : Early (.moved row :: ds) := by
  refine ⟨early.unanswered, early.unfound, ?_⟩
  have one : movedRows (.moved row :: ds) = row :: movedRows ds := rfl
  rw [one, still]
  exact Nat.le_refl _

theorem Overlooked.early (overlooked : Overlooked ds) : Early ds ∧ movedRows ds = [] := by
  induction ds with
  | nil => exact ⟨.idle, rfl⟩
  | cons d ds ih =>
    obtain ⟨early, still⟩ := ih fun d member => overlooked d (List.mem_cons_of_mem _ member)
    rcases overlooked d (List.mem_cons_self ..) with rfl | rfl
    · exact ⟨early.cons rfl rfl rfl, still⟩
    · exact ⟨early.cons rfl rfl rfl, still⟩

theorem Broke.lost (early : Early ds) : Broke site a World.connectionLost (.lost :: ds) :=
  ⟨nofun, .inr (.inl rfl), early.cons rfl rfl rfl⟩

theorem Broke.refused (internal : e.Internal) (early : Early ds) : Broke site a e (.refused :: ds) :=
  ⟨internal, .inr (.inr rfl), early.cons rfl rfl rfl⟩

theorem Broke.unreadable (internal : e.Internal) (unreadable : Unreadable site a) : Broke site a e [] :=
  ⟨internal, .inl unreadable, .idle⟩

/-- A statement that fails for no fault of the client. -/
theorem serves_statement {tx : Tx Unit} (internal : tx.Internal) (early : Early ds) :
    Serves site t a ds (ask (.statement tx)) (fun _ ds' => ds' = ds) (Broke site a) := by
  refine Serves.ask early.unanswered (fun _ _ => trivial) ?_
  intro _ _ outcome new does
  cases does with
  | returned => exact rfl
  | failed => exact .lost early
  | refused ran => exact .refused (internal _ _ _ ran) early
  | refusedUnheard => exact .lost (early.cons rfl rfl rfl)

/-- The error of a statement is ignored. -/
theorem serves_ignored {tx : Tx Unit} : Serves site t a [] (tryCatch (ask (.statement tx)) fun _ => pure ())
    (fun _ => Overlooked) err := by
  have stated : Serves site t a [] (ask (.statement tx)) (fun _ => Overlooked) (fun _ => Overlooked) := by
    refine Serves.ask rfl (fun _ _ => trivial) ?_
    intro _ _ outcome new does
    cases does with
    | returned | failed | refused | refusedUnheard => simp [Overlooked]
  exact Serves.tryCatch stated fun e ds' overlooked => .pure overlooked

theorem Promised.unanswered (promised : Promised site a ds code body) : Unanswered ds := by
  cases promised with
  | created _ _ overlooked => exact overlooked.early.1.unanswered
  | failed _ broken => exact broken.early.unanswered
  | ignored _ ignores => cases ignores <;> rfl
  | refused refuses => cases refuses <;> rfl
  | replayed | reused | cancelled | unsigned | processed => rfl

theorem serves_respond (promised : Promised site a ds code body) :
    Serves site t a ds (originalJson code body) (fun _ => Replied) err := by
  refine Serves.ask promised.unanswered ?_ ?_
  · intro w held
    exact ⟨a, held.first, by rw [held.deeds]; exact promised⟩
  · intro _ _ outcome new does
    cases does with
    | answered => exact ⟨code, body, ds, rfl⟩
    | returned silent => cases silent
    | failed remote => cases remote
    | refusedUnheard commands => cases commands

/-- The middleware lets the request through without a call that can fail. -/
theorem serves_next {key : Option String} (unanswered : Unanswered ds) :
    Serves site t a ds (ask (.next key)) (fun _ ds' => ds' = ds) err := by
  refine Serves.ask unanswered (fun _ _ => trivial) ?_
  intro _ _ outcome new does
  cases does with
  | returned => exact rfl
  | failed remote => cases remote
  | refusedUnheard commands => cases commands

/-- The error handler answers whatever a handler fails with. -/
theorem serves_errorHandler {json : Responder} (requests : a.requests = true) (fails : Fails site a e ds)
    (answers : ∀ code body, Promised site a ds code body → Serves site t a ds (json code body) (fun _ => Replied) err) :
    Serves site t a ds (errorHandler site json e) (fun _ => Replied) err := by
  rcases fails with refuses | ⟨internal, broken⟩
  · cases e with
    | app error => exact answers _ _ (.refused refuses)
    | prisma | other => cases refuses
  · cases e with
    | app error => exact (internal error rfl).elim
    | prisma | other => exact answers _ _ (.failed requests broken fun production => if_neg production)

/-- A call that is started and not awaited does nothing that a client hears of. -/
theorem lone_quiet (fresh : w.history u = []) (entitled : ∀ w', w.trace <:+ w'.trace → w'.history u = [] →
    Entitled site u w' c) : (answering site).Lone u c w := by
  intro w' later
  have idle : w'.history u = [] := later.1.trans fresh
  refine ⟨⟨?_, entitled w' later.2 idle⟩, ?_⟩
  · intro a first
    rw [idle] at first
    cases first
  · intro choice outcome w'' performed final after a first request
    obtain ⟨notes, took, _, takes⟩ := perform_does performed
    have quiet := takes.quiet
    rw [after.1, took.own, idle, List.append_nil] at first
    rw [quiet.of_mem (List.mem_of_getLast? first)] at request
    cases request

theorem serves_start (entitled : ∀ w : World, Standing a ds (w.history t) → ∀ (u : Nat) (w' : World),
    w.trace <:+ w'.trace → Entitled site u w' c) :
    Serves site t a ds (Program.start c) (fun _ ds' => ds' = ds) err := by
  intro w held
  have here : ∀ w', (answering site).rely t w w' → Standing a ds (w'.history t) := by
    intro w' later
    rw [later.1]
    exact held
  refine Contract.Safe.start ?_ fun w' later => ⟨ds, rfl, here w' later⟩
  intro w' later u fresh
  exact lone_quiet fresh fun w'' grown _ => entitled w' (here w' later) u w'' grown

/-- What a handler answers under a key is kept as its conclusion. -/
theorem Promised.concludes (promised : Promised site (.posted request) ds code body) (early : Early ds)
    (hasKey : orNull request.idempotencyKey = some key) (held : Standing (.posted request) ds (w.history t)) :
    Concludes site w key (hashBody site request.body.json) code body := by
  cases promised with
  | created pending =>
    refine .created (World.mem_history.mp (List.mem_of_getLast? held.first)) hasKey ?_
    rw [held.deeds]
    exact List.mem_cons_self ..
  | failed _ _ hidden => exact .failed hidden
  | replayed | reused => cases early.unfound
  | refused refuses =>
    cases refuses with
    | busy => cases early.unfound

theorem serves_cachingJson {path : String} (hasKey : orNull request.idempotencyKey = some key) (early : Early ds)
    (promised : Promised site (.posted request) ds code body) :
    Serves site t (.posted request) ds (cachingJson site request key path code body) (fun _ => Replied) err := by
  refine Serves.bind (serves_start ?_) ?_
  · intro w held u w' grown
    exact ⟨key, _, _, code, body, rfl, rfl, (promised.concludes early hasKey held).later grown⟩
  · rintro _ _ rfl
    refine Serves.bind (serves_start fun _ _ _ _ _ => trivial) ?_
    rintro _ _ rfl
    exact serves_respond promised

/-- A transaction of a request that has moved no payment yet. -/
theorem serves_transaction {tx : Tx Payment} {moves : Payment → Prop} {errors : JsError → Prop}
    (issues : ∀ request, a = .posted request → ∃ id, tx = createPaymentInTx site id request.body request.idempotencyKey)
    (commits : ∀ now db row db', tx now db = .ok (row, db') → moves row) (rejects : tx.Rejects errors)
    (early : Early ds) (still : movedRows ds = []) :
    Serves site t a ds (ask (.transaction tx)) (fun row ds' => moves row ∧ ds' = .moved row :: ds)
      (fun e ds' => errors e ∧ ds' = .refused :: ds ∨ Broke site a e ds') := by
  refine Serves.ask early.unanswered ?_ ?_
  · intro w held
    refine ⟨fun _ _ _ => held.deeds ▸ still, fun request first => ?_⟩
    exact issues request (Option.some.inj (held.first.symm.trans first))
  · intro _ _ outcome new does
    cases does with
    | moved ran => exact ⟨commits _ _ _ _ ran, rfl⟩
    | unheard => exact .inr (.lost (early.moved still _))
    | rejected ran => exact .inl ⟨rejects _ _ _ ran, rfl⟩
    | refusedUnheard => exact .inr (.lost (early.cons rfl rfl rfl))
    | failed => exact .inr (.lost early)
    | returned silent => cases silent

/-- A transaction that fails for no fault of the client. -/
theorem serves_internalTransaction {tx : Tx Payment} {moves : Payment → Prop}
    (issues : ∀ request, a = .posted request → ∃ id, tx = createPaymentInTx site id request.body request.idempotencyKey)
    (commits : ∀ now db row db', tx now db = .ok (row, db') → moves row) (internal : tx.Internal)
    (early : Early ds) (still : movedRows ds = []) :
    Serves site t a ds (ask (.transaction tx)) (fun row ds' => moves row ∧ ds' = .moved row :: ds) (Broke site a) := by
  refine (serves_transaction issues commits internal early still).weaken (fun _ _ returned => returned) ?_
  rintro e ds (⟨internal, rfl⟩ | broke)
  · exact .refused internal early
  · exact broke

theorem serves_lockSet {token : String} {ttl : Int} (early : Early ds) :
    Serves site t a ds (ask (.lockSet key token ttl))
      (fun acquired ds' => ds' = if acquired then ds else .busy key :: ds) (Broke site a) := by
  refine Serves.ask early.unanswered (fun _ _ => trivial) ?_
  intro _ _ outcome new does
  cases does with
  | locked | busy => exact rfl
  | failed => exact .lost early
  | returned silent => cases silent
  | refusedUnheard commands => cases commands

theorem serves_acquireLock {ttl : Rat} (early : Early ds) : Serves site t a ds (acquireLock key ttl)
    (fun token ds' => ds' = if token.isSome then ds else .busy key :: ds) (Broke site a) := by
  refine Serves.bind (.plain rfl early.unanswered (.lost early)) ?_
  rintro token _ rfl
  refine Serves.bind (serves_lockSet early) ?_
  rintro acquired _ rfl
  cases acquired <;> exact .pure rfl

theorem serves_releaseLock {token : String} {ok : Unit → List Deed → Prop} (returns : ok () ds) (early : Early ds)
    (lost : err World.connectionLost (.lost :: ds)) :
    Serves site t a ds (do let _ ← releaseLock key token) ok err := by
  refine Serves.bind (.plain rfl early.unanswered lost) ?_
  rintro released _ rfl
  exact .pure returns

/-- The release that fails replaces what the body has come to. -/
theorem serves_withLock {fn : Promise α} {ttl : Rat} {ok : α → List Deed → Prop} (early : Early ds)
    (body : Serves site t a ds fn ok (Broke site a)) (leaves : ∀ value ds', ok value ds' → Early ds') :
    Serves site t a ds (withLock key ttl fn) ok
      (fun e ds' => e = lockAcquisitionError key ∧ ds' = .busy key :: ds ∨ Broke site a e ds') := by
  refine Serves.bind ((serves_acquireLock early).weaken (fun _ _ acquired => acquired) fun _ _ => .inr) ?_
  rintro (_ | token) _ rfl
  · exact .throw (.inl ⟨rfl, rfl⟩)
  · refine Serves.ensure body ?_ ?_
    · intro value ds' returned
      have early := leaves value ds' returned
      exact serves_releaseLock returned early (.inr (.lost early))
    · intro e ds' broke
      exact serves_releaseLock (.inr broke) broke.2.early (.inr (.lost broke.2.early))

/-- What became of a webhook that is acknowledged. -/
inductive Dealt (payload : Json) : WebhookResult → List Deed → Prop
  | processed {old row : Payment} (names : namedPayment payload = .ok row.id) (id : old.id = row.id)
    (fit : old.status = .processing) (status : row.status = webhookTarget payload) :
    Dealt payload .processed [.moved row, .payment (some old)]
  | ignored {ds : List Deed} (ignores : Ignores payload ds) : Dealt payload .ignored ds

theorem Ignores.early (ignores : Ignores payload ds) : Early ds := by
  cases ignores <;> exact Early.idle.cons rfl rfl rfl

theorem Dealt.early {result : WebhookResult} (dealt : Dealt payload result ds) : Early ds := by
  cases dealt with
  | processed => exact (Early.idle.cons rfl rfl rfl).moved rfl _
  | ignored ignores => exact ignores.early

theorem serves_recordWebhookEvent {signature eventId : String} {status : WebhookEventStatus}
    (ignores : Ignores payload ds) : Serves site t a ds
      (do recordWebhookEvent payload signature eventId status; pure .ignored) (Dealt payload) (Broke site a) := by
  have early := ignores.early
  refine Serves.bind (?_ : Serves site t a ds _ (fun _ ds' => ds' = ds) (Broke site a)) ?_
  · unfold recordWebhookEvent
    split
    · refine Serves.bind (.plain rfl early.unanswered (.lost early)) ?_
      rintro now _ rfl
      exact serves_statement createWebhookEvent_internal early
    · exact serves_statement createWebhookEvent_internal early
  · rintro _ _ rfl
    exact .pure (.ignored ignores)

theorem serves_processWebhookLocked {signature : String} {eventId : String} :
    Serves site t (.webhook payload (some signature)) [] (processWebhookLocked payload signature eventId) (Dealt payload)
      (Broke site (.webhook payload (some signature))) := by
  unfold processWebhookLocked
  split
  · rename_i failed
    exact .throw (.unreadable (namedPayment_internal failed) (.named failed))
  · rename_i p names
    refine Serves.bind (.read rfl (.lost .idle)) ?_
    rintro (_ | row) _ ⟨rfl, id⟩
    · exact serves_recordWebhookEvent (.unknown names)
    · cases id row rfl
      dsimp only
      split
      · rename_i terminal
        exact serves_recordWebhookEvent (.unfit names (isValidStateTransition_terminal terminal))
      · split
        · rename_i unfit
          exact serves_recordWebhookEvent (.unfit names (by simpa using unfit))
        · rename_i valid
          have fit := processing_of_settles (by simpa using valid) (webhookTarget_settles payload)
          have early : Early [.payment (some row)] := Early.idle.cons rfl rfl rfl
          refine Serves.bind (.plain rfl rfl (.lost early)) ?_
          rintro now _ rfl
          have commits : ∀ at_ db updated db', processWebhookInTx row.id payload signature eventId row
              (webhookTarget payload) now at_ db = .ok (updated, db') →
              updated.id = row.id ∧ updated.status = webhookTarget payload := by
            intro at_ db updated db' ran
            obtain ⟨_, _, _, moved, is, _⟩ := processWebhookInTx_ok names ran
            exact ⟨moved.id, moved.status.trans is.toStatus⟩
          refine Serves.bind (serves_internalTransaction (by simp) commits processWebhookInTx_internal early rfl) ?_
          rintro updated _ ⟨⟨id, status⟩, rfl⟩
          rw [← id] at names
          exact .pure (.processed names id.symm fit status)

theorem serves_findWebhookEvent {eventId : String} {signature : Option String}
    (delivered : payload.field "eventId" = some (.string eventId)) :
    Serves site t (.webhook payload signature) [] (findWebhookEvent eventId)
      (fun found ds => ds = (found.map Deed.event).toList ∧ ∀ event ∈ found, event.eventId = eventId)
      (Broke site (.webhook payload signature)) := by
  unfold findWebhookEvent
  split
  · refine Serves.ask rfl (fun _ _ => trivial) ?_
    intro _ _ outcome new does
    cases does with
    | known there => exact ⟨rfl, fun event found => Option.some.inj found ▸ Table.key_of_find there⟩
    | unknown => exact ⟨rfl, nofun⟩
    | failed => exact .lost .idle
    | returned silent => cases silent
    | refusedUnheard commands => cases commands
  · rename_i broken
    refine .throw (.unreadable nofun (.event fun other delivered' => ?_))
    cases delivered.symm.trans delivered'
    exact Bool.eq_false_of_not_eq_true broken

theorem serves_processWebhook {signature : String} (nonempty : signature ≠ "") :
    Serves site t (.webhook payload (some signature)) [] (processWebhook site payload signature)
      (fun result ds => Signed site payload (some signature) ∧ Dealt payload result ds)
      (Fails site (.webhook payload (some signature))) := by
  unfold processWebhook
  split
  · rename_i failed
    exact .throw (.inr (.unreadable (verifyWebhookSignature_internal failed) (.signature failed)))
  · rename_i forged
    exact .throw (.inl (.forged forged))
  · rename_i verified
    have signed : Signed site payload (some signature) := ⟨signature, rfl, nonempty, verified⟩
    split
    · rename_i eventId delivered
      refine Serves.bind ((serves_findWebhookEvent delivered).weaken (fun _ _ found => found) fun _ _ => .inr) ?_
      rintro found _ ⟨rfl, same⟩
      cases found with
      | some event =>
        cases same event rfl
        exact (serves_recordWebhookEvent (.duplicate delivered)).weaken (fun _ _ dealt => ⟨signed, dealt⟩)
          fun _ _ => .inr
      | none =>
        refine (serves_withLock .idle serves_processWebhookLocked fun _ _ => Dealt.early).weaken
          (fun _ _ dealt => ⟨signed, dealt⟩) ?_
        rintro e ds (⟨rfl, rfl⟩ | broke)
        · exact .inl (.locked signed)
        · exact .inr broke
    · rename_i unnamed
      exact .throw (.inr (.unreadable nofun (.event fun eventId delivered => (unnamed eventId delivered).elim)))

theorem serves_handleGatewayWebhook {signature : Option String} :
    Serves site t (.webhook payload signature) [] (handleGatewayWebhook site payload signature) (fun _ => Replied)
      err := by
  cases signature with
  | none => exact serves_respond (.unsigned rfl)
  | some text =>
    unfold handleGatewayWebhook
    dsimp only
    split
    · rename_i empty
      subst empty
      exact serves_respond (.unsigned rfl)
    · rename_i nonempty
      refine Serves.tryCatch (Serves.bind ((serves_processWebhook nonempty).weaken (fun _ _ dealt => dealt)
        fun _ _ fails => fails) ?_) ?_
      · rintro result ds ⟨signed, dealt⟩
        refine serves_respond ?_
        cases dealt with
        | processed names id fit status => exact .processed signed names id fit status
        | ignored ignores => exact .ignored signed ignores
      · exact fun e ds fails => serves_errorHandler rfl fails fun _ _ => serves_respond

theorem serves_cancelPayment : Serves site t (.cancelling spelled) [] (cancelPayment spelled)
    (fun response ds => ∃ old row : Payment, ds = [.moved row, .payment (some old)] ∧ response = toPaymentResponse row ∧
      Uuid.parse spelled = some row.id ∧ old.id = row.id ∧ (old.status = .created ∨ old.status = .pending) ∧
      row.status = .cancelled) (Fails site (.cancelling spelled)) := by
  unfold cancelPayment
  split
  · rename_i unread
    exact .throw (.inr (.unreadable nofun (.payment unread)))
  · rename_i p reads
    refine Serves.bind (.read rfl (.inr (.lost .idle))) ?_
    rintro (_ | row) _ ⟨rfl, id⟩
    · exact .throw (.inl (.missing reads))
    · cases id row rfl
      have early : Early [.payment (some row)] := Early.idle.cons rfl rfl rfl
      dsimp only
      split
      · rename_i terminal
        have told : unfitMessage row.status = _ := if_pos terminal
        rw [← told]
        refine .throw (.inl (.unfit reads ?_))
        simp only [terminalStates, List.mem_cons, List.not_mem_nil, or_false] at terminal
        rcases terminal with is | is | is <;> simp [is]
      · rename_i going
        have told : unfitMessage row.status = _ := if_neg going
        rw [← told]
        split
        · rename_i unfit
          exact .throw (.inl (.unfit reads unfit))
        · rename_i fit
          have fit : row.status = .created ∨ row.status = .pending := by
            by_contra neither
            exact fit (not_or.mp neither)
          have commits : ∀ now db updated db', transitionStateInTx row.id row.status .cancelled row.version
              { reason := some "Cancelled by user" } spelled now db = .ok (updated, db') →
              updated.id = row.id ∧ updated.status = .cancelled := by
            intro now db updated db' ran
            obtain ⟨_, _, _, moved, is, _⟩ := transitionStateInTx_ok ran
            exact ⟨moved.id, moved.status.trans is.toStatus⟩
          have valid : isValidStateTransition row.status .cancelled = true := by
            rcases fit with is | is <;> rw [is] <;> rfl
          refine Serves.bind ((serves_transaction (by simp) commits (transitionStateInTx_errors valid) early rfl).weaken
            (fun _ _ returned => returned) ?_) ?_
          · rintro e ds (⟨rfl | internal, rfl⟩ | broke)
            · exact .inl (.raced reads fit)
            · exact .inr (.refused internal early)
            · exact .inr broke
          · rintro updated _ ⟨⟨id, status⟩, rfl⟩
            exact .pure ⟨row, updated, rfl, rfl, by rw [id]; exact reads, id.symm, fit, status⟩

theorem serves_postCancel :
    Serves site t (.cancelling spelled) [] (postCancel site spelled) (fun _ => Replied) err := by
  refine Serves.tryCatch (Serves.bind serves_cancelPayment ?_) ?_
  · rintro _ _ ⟨old, row, rfl, rfl, reads, id, fit, status⟩
    exact serves_respond (.cancelled reads id fit status)
  · exact fun e ds fails => serves_errorHandler rfl fails fun _ _ => serves_respond

theorem serves_createPayment (overlooked : Overlooked before) :
    Serves site t (.posted request) before (createPayment site request.body request.idempotencyKey)
      (fun response ds => ∃ row : Payment, ds = .moved row :: before ∧ row.status = .pending ∧
        row.idempotencyKey = orNull request.idempotencyKey ∧ response = toPaymentResponse row)
      (Broke site (.posted request)) := by
  obtain ⟨early, still⟩ := overlooked.early
  refine Serves.bind (.plain rfl early.unanswered (.lost early)) ?_
  rintro id _ rfl
  have commits : ∀ now db row db', createPaymentInTx site id request.body request.idempotencyKey now db =
      .ok (row, db') → row.status = .pending ∧ row.idempotencyKey = orNull request.idempotencyKey := by
    intro now db row db' ran
    obtain ⟨_, _, creation⟩ := createPaymentInTx_ok request.trimmed ran
    exact ⟨creation.status, creation.idempotencyKey⟩
  have issues : ∀ request', Obs.posted request = .posted request' → ∃ id',
      createPaymentInTx site id request.body request.idempotencyKey =
        createPaymentInTx site id' request'.body request'.idempotencyKey := by
    intro request' same
    cases same
    exact ⟨id, rfl⟩
  refine Serves.bind (serves_internalTransaction issues commits createPaymentInTx_internal early still) ?_
  rintro row _ ⟨⟨pending, key⟩, rfl⟩
  have early := early.moved still row
  refine Serves.bind (.plain rfl early.unanswered (.lost early)) ?_
  rintro _ _ rfl
  exact .pure ⟨row, rfl, pending, key, rfl⟩

/-- The handler answers with the responder that the middleware leaves it. -/
theorem serves_initiatePayment {json : String → Responder} (overlooked : Overlooked before)
    (answers : ∀ {err : JsError → List Deed → Prop} (path : String) (ds : List Deed) (code : Nat) (body : ResponseBody),
      Early ds → Promised site (.posted request) ds code body →
      Serves site t (.posted request) ds (json path code body) (fun _ => Replied) err) :
    Serves site t (.posted request) before (initiatePayment site request json) (fun _ => Replied) err := by
  refine Serves.tryCatch (Serves.bind (serves_createPayment overlooked) ?_) ?_
  · rintro _ _ ⟨row, rfl, pending, key, rfl⟩
    obtain ⟨early, still⟩ := overlooked.early
    exact answers _ _ _ _ (early.moved still row) (.created pending key overlooked)
  · intro e ds broke
    exact serves_errorHandler rfl (.inr broke) fun code body => answers _ ds code body broke.2.early

/-- How the middleware leaves its `try` block. -/
def Admitted : IdempotencyOutcome → List Deed → Prop
  | .answered, ds => Replied ds
  | .proceed, ds => Overlooked ds

theorem serves_markProcessing :
    Serves site t (.posted request) [] (markProcessing site request key) Admitted (Broke site (.posted request)) := by
  have marks : Serves site t (.posted request) [] (ask (.recordSetNx (redisKey key)
      (.processing request.path (hashBody site request.body.json)) (idempotencyTtlSeconds site)))
      (fun _ ds => ds = []) (Broke site (.posted request)) := by
    refine Serves.ask rfl (fun _ _ => ⟨_, _, rfl⟩) ?_
    intro _ _ outcome new does
    cases does with
    | returned => exact rfl
    | failed => exact .lost .idle
    | refusedUnheard commands => cases commands
  refine Serves.bind marks ?_
  rintro _ _ rfl
  refine Serves.bind (.plain rfl rfl (.lost .idle)) ?_
  rintro now _ rfl
  exact Serves.bind serves_ignored fun _ _ overlooked => .pure overlooked

theorem serves_recordGet {ok : Option IdempotencyRecord → List Deed → Prop} (early : Early ds)
    (returns : ∀ found, ok found ((found.map (Deed.found (redisKey key))).toList ++ ds)) :
    Serves site t a ds (ask (.recordGet (redisKey key))) ok (Broke site a) := by
  refine Serves.ask early.unanswered (fun _ _ => trivial) ?_
  intro _ _ outcome new does
  cases does with
  | found => exact returns (some _)
  | absent => exact returns none
  | failed => exact .lost early
  | returned silent => cases silent
  | refusedUnheard commands => cases commands

theorem serves_idempotencyCheck (hasKey : orNull request.idempotencyKey = some key) :
    Serves site t (.posted request) [] (idempotencyCheck site request key) Admitted
      (Fails site (.posted request)) := by
  have reads : Serves site t (.posted request) [] (ask (.recordGet (redisKey key)))
      (fun found ds => ds = (found.map (Deed.found (redisKey key))).toList) (Broke site (.posted request)) :=
    serves_recordGet .idle fun found => List.append_nil _
  refine Serves.bind (reads.weaken (fun _ _ found => found) fun _ _ => .inr) ?_
  rintro (_ | cached) _ rfl
  · exact serves_markProcessing.weaken (fun _ _ checked => checked) fun _ _ => .inr
  · dsimp only
    split
    · rename_i differs
      refine Serves.bind (serves_respond (.reused hasKey differs)) ?_
      exact fun _ _ replied => .pure replied
    · rename_i agrees
      have agrees := not_not.mp agrees
      cases cached with
      | completed path hash code body =>
        cases agrees
        refine Serves.bind (serves_respond (.replayed hasKey)) ?_
        exact fun _ _ replied => .pure replied
      | processing path hash =>
        cases agrees
        exact .throw (.inl (.busy hasKey))

theorem serves_postPayments :
    Serves site t (.posted request) [] (postPayments site request) (fun _ => Replied) err := by
  have idle : Overlooked [] := by simp [Overlooked]
  have unkeyed : Serves site t (.posted request) []
      (do ask (.next none); initiatePayment site request fun _ => originalJson) (fun _ => Replied) err := by
    refine Serves.bind (serves_next rfl) ?_
    rintro _ _ rfl
    exact serves_initiatePayment idle fun _ _ _ _ _ => serves_respond
  unfold postPayments idempotency
  split
  · exact unkeyed
  · rename_i key hasKey
    split
    · exact unkeyed
    · rename_i nonempty
      have hasKey : orNull request.idempotencyKey = some key := by
        rw [hasKey]
        exact if_pos (decide_eq_true nonempty)
      refine Serves.bind (Serves.tryCatch (serves_idempotencyCheck hasKey) ?_) ?_
      · intro e ds fails
        refine Serves.bind (serves_errorHandler rfl fails fun _ _ => serves_respond) ?_
        exact fun _ _ replied => .pure replied
      · intro outcome ds checked
        cases outcome with
        | answered => exact .pure checked
        | proceed =>
          have overlooked : Overlooked ds := checked
          refine Serves.bind (serves_next overlooked.early.1.unanswered) ?_
          rintro _ _ rfl
          exact serves_initiatePayment overlooked fun _ _ _ _ => serves_cachingJson hasKey

theorem Inner.issues (inner : Inner c) (idle : ∀ a, (w.history t).getLast? = some a → a.requests = false) :
    Answering site t w c := by
  have silent : ∀ {P : Prop} {a : Obs}, (w.history t).getLast? = some a → a.requests = true → P := by
    intro P a first requests
    rw [idle a first] at requests
    cases requests
  refine ⟨fun a => silent, ?_⟩
  cases c with
  | transaction body => exact ⟨fun a => silent, fun request posted => silent posted rfl⟩
  | respond | recordSetNx | recordSet => exact inner.elim
  | _ => trivial

/-- A thread that no request has started owes no answer. -/
theorem safe_inner {program : Promise α} {ok : α → World → Prop} {thrown : JsError → World → Prop}
    (inner : program.All Inner) (first : (w.history t).getLast? = some a) (idle : a.requests = false)
    (returns : ∀ value w, (w.history t).getLast? = some a → ok value w)
    (throws : ∀ e w, (w.history t).getLast? = some a → thrown e w) : (answering site).Safe t program ok thrown w := by
  induction program generalizing w with
  | done outcome =>
    match outcome with
    | .ok value => exact fun w' later => returns value w' (by rw [later.1]; exact first)
    | .error e => exact fun w' later => throws e w' (by rw [later.1]; exact first)
  | call c next ih =>
    intro w' later
    have here : (w'.history t).getLast? = some a := by
      rw [later.1]
      exact first
    refine ⟨inner.1.issues fun a' first' => ?_, ?_⟩
    · cases here.symm.trans first'
      exact idle
    · intro choice outcome w'' performed
      obtain ⟨notes, took, _⟩ := perform_does performed
      refine ih outcome (inner.2 outcome) ?_
      rw [took.own, List.getLast?_append, here]
      rfl
  | detach c next ih =>
    intro w' later
    have here : (w'.history t).getLast? = some a := by
      rw [later.1]
      exact first
    refine ⟨?_, ih inner.2 here⟩
    intro u fresh
    refine lone_quiet fresh fun w'' _ fresh => ?_
    have issues : Answering site u w'' c := inner.1.issues fun a' first' => by
      rw [fresh] at first'
      cases first'
    exact issues.2

theorem inner_settling {program : Promise α} (settling : Settling program) : program.All Inner :=
  settling.weaken fun _ => And.right

theorem inner_callGateway {payment : Payment} : (callGateway p payment).All Inner := by
  refine .tryCatch (.bind (.bind (.ask trivial) fun admits => ?_) fun _ => .pure _) fun _ => .pure _
  split
  · exact .bind (.ask trivial) fun _ => .ask trivial
  · exact .throw _

theorem inner_processPaymentLocked : (processPaymentLocked p).All Inner := by
  refine .bind (.ask trivial) fun found => ?_
  cases found with
  | none => exact .throw _
  | some payment =>
    dsimp only
    split
    · exact .pure _
    · exact .bind (.ask trivial) fun _ => .bind inner_callGateway fun _ => inner_settling settling_handlePaymentResult

theorem inner_startProcessWorker (job : ProcessJob) : (startProcessWorker site job).All Inner := by
  have locked : (processPayment site job.paymentId).All Inner :=
    all_withLock inner_processPaymentLocked trivial (fun _ _ => trivial) fun _ => trivial
  exact .bind (.tryCatch (.bind (.tryCatch locked fun _ => inner_settling settling_recovery) fun _ => .pure _)
    fun _ => .pure _) fun _ => .ask trivial

/-- A handler that serves its request from its first note on keeps the contract. -/
theorem Serves.safe {program : Promise Unit} {o : Obs}
    (serves : Serves site t o [] program (fun _ => Replied) (fun _ _ => False)) (own : w.history t = [o])
    (silent : o.deed = none) :
    (answering site).Safe t program (fun _ => (answering site).final t) (fun _ => (answering site).final t) w := by
  refine (serves w ?_).weaken ?_ ?_
  · rw [own]
    exact ⟨rfl, List.filterMap_cons_none silent⟩
  · rintro _ w' ⟨_, ⟨code, body, before, rfl⟩, held⟩ a first requests
    exact ⟨code, body, before, held.deeds⟩
  · rintro _ w' ⟨_, thrown, _⟩
    exact thrown.elim

theorem answering_starts (site : Deployment) : (answering site).Starts := by
  intro n e w w' started occurred fresh i program found
  have member := List.mem_of_getElem? found
  have begun : ∀ {o : Obs} {w₀ : World}, w₀.trace = (n, o) :: w.trace → w₀.history n = [o] := by
    intro o w₀ same
    have none : w.history n = [] := fresh n (Nat.le_refl _)
    rw [World.history_cons_self same, none]
  have single : ∀ {p : Promise Unit}, [p][i]? = some program → i = 0 ∧ p = program := by
    intro p found
    cases i with
    | zero => exact ⟨rfl, Option.some.inj found⟩
    | succ i => cases found
  have works : ∀ {job : Obs} {w₀ : World} {p : Promise Unit}, p.All Inner → job.requests = false →
      w₀.trace = (n, job) :: w.trace → (answering site).Safe n p (fun _ => (answering site).final n)
        (fun _ => (answering site).final n) w₀ := by
    intro job w₀ p inner idle same
    have owes : ∀ w, (w.history n).getLast? = some job → (answering site).final n w := by
      intro w first a first' requests
      cases first.symm.trans first'
      rw [idle] at requests
      cases requests
    exact safe_inner inner (by rw [begun same]; rfl) idle (fun _ => owes) fun _ => owes
  cases e with
  | post request =>
    cases occurred
    obtain ⟨rfl, rfl⟩ := single found
    exact serves_postPayments.safe (begun rfl) rfl
  | cancel spelled =>
    cases occurred
    obtain ⟨rfl, rfl⟩ := single found
    exact serves_postCancel.safe (begun rfl) rfl
  | webhook payload signature =>
    cases occurred
    obtain ⟨rfl, rfl⟩ := single found
    exact serves_handleGatewayWebhook.safe (begun rfl) rfl
  | deliverProcess job =>
    obtain ⟨queue, _, same⟩ := Option.map_eq_some_iff.mp occurred
    cases same
    obtain ⟨rfl, rfl⟩ := single found
    exact works (inner_startProcessWorker job) rfl rfl
  | deliverRetry job =>
    obtain ⟨queue, _, same⟩ := Option.map_eq_some_iff.mp occurred
    cases same
    obtain ⟨rfl, rfl⟩ := single found
    exact works (inner_settling (settling_startRetryWorker job)) rfl rfl
  | stallProcess | stallRetry | retryDelayElapsed =>
    obtain ⟨queue, _, same⟩ := Option.map_eq_some_iff.mp occurred
    cases same
    cases member
  | expireLock | expireRecord =>
    cases occurred
    cases member

end PaymentModel
