import PaymentSystem.Properties.LateResults
import PaymentSystem.Properties.WebhookEvents

namespace PaymentModel

open Async

/-- The payment is still in the attempt that took it to `processing`. -/
def InAttempt (p : Uuid) (processing : Payment) (w : World) : Prop :=
  ∃ row, w.payment p = some row ∧ row.status = .processing ∧ row.version = processing.version

/-- Thread `u` has made the one commit that takes payment `p` out of that attempt: to `status`. -/
def Exits (p : Uuid) (processing : Payment) (w : World) (u : Nat) (status : PaymentStatus) : Prop :=
  ∃ commit row, (u, .committed commit) ∈ w.trace ∧ commit.row = some row ∧ row.id = p ∧
    row.version = processing.version + 1 ∧ row.status = status

/-- How an attempt has ended: with the result that its worker has got, unless that was "pending"; with the status of
    a webhook; or with the second read of another failure, which has found this attempt. -/
inductive Ended (p : Uuid) (processing : Payment) (w : World) : Prop
  | result {u : Nat} {result : GatewayResult} {h : List Obs} (attempted : Attempted p processing result h)
    (own : h <:+ w.history u) (final : result.success = true ∨ result.pendingWebhook = false)
    (exits : Exits p processing w u (if result.success then .success else .failed))
  | webhook {u : Nat} {payload : Json} {signature : String}
    (posted : (u, .webhook payload (some signature)) ∈ w.trace)
    (exits : Exits p processing w u (webhookTarget payload))
  | givenUp {u : Nat} {errorCode : Option String} {row : Payment}
    (noted : (u, .read (.retryDecision errorCode) (some row)) ∈ w.trace) (version : row.version = processing.version)
    (exhausted : givesUp errorCode row = true) (exits : Exits p processing w u .permanentlyFailed)

variable {site : Deployment} {R : Condition} {t u : Nat} {w w' : World} {p q : Uuid}
  {processing processing' row old : Payment} {result result' : GatewayResult} {h h' : List Obs} {db : Db}
  {trace : List (Nat × Obs)} {commit commit' : Commit} {row' : Payment} {event : PaymentEvent}
  {pool next : Pool calls JsError World}

/-- A version of a payment is committed once. -/
theorem EveryCommit.once (raises : EveryCommit Raises trace) (first : (t, .committed commit) ∈ trace)
    (second : (u, .committed commit') ∈ trace) (returned : commit.row = some row) (returned' : commit'.row = some row')
    (id : row'.id = row.id) (version : row'.version = row.version) : t = u ∧ commit = commit' := by
  -- the later of two commits of one payment has the later version
  have later : ∀ {newer older : List (Nat × Obs)} {t u : Nat} {commit commit' : Commit} {row row' : Payment},
      trace = newer ++ (u, .committed commit') :: older → (t, .committed commit) ∈ older → commit.row = some row →
      commit'.row = some row' → row'.id = row.id → row.version < row'.version := by
    intro newer older t u commit commit' row row' split member returned returned' id
    have here := (raises newer _ older split commit' rfl).version row' returned'
    obtain ⟨between, before, rfl⟩ := List.append_of_mem member
    have rest : EveryCommit Raises (between ++ (t, .committed commit) :: before) :=
      (throughout_cons.mp (split ▸ raises).before).2
    have grows := committedVersion_le rest row.id
    simp only [committedVersion, committedRow_returned returned, if_true, Option.map_some, Option.getD_some] at grows
    rw [id, committedVersion] at here
    omega
  obtain ⟨newer, older, split⟩ := List.append_of_mem first
  rw [split] at second
  rcases List.mem_append.mp second with after | rest
  · obtain ⟨latest, between, rfl⟩ := List.append_of_mem after
    have split' : trace = latest ++ (u, .committed commit') :: (between ++ (t, .committed commit) :: older) := by
      rw [split, List.append_assoc, List.cons_append]
    have lt := later split' (List.mem_append_right _ List.mem_cons_self) returned returned' id
    omega
  · rcases List.mem_cons.mp rest with same | before
    · cases same
      exact ⟨rfl, rfl⟩
    · have lt := later split before returned' returned id.symm
      omega

theorem Entered.committed (entered : Entered p processing h) :
    ∃ commit rest, h = .committed commit :: rest ∧ commit.row = some processing := by
  cases entered with
  | intro _ _ returned => exact ⟨_, _, rfl, returned⟩

theorem Entered.length (entered : Entered p processing h) : h.length = 5 := by
  obtain ⟨⟨token, rfl⟩⟩ := entered
  rfl

theorem suffix_of_length {newer : List Obs} (first : h <:+ newer) (second : h' <:+ newer)
    (length : h.length = h'.length) : h = h' :=
  (List.suffix_of_suffix_length_le first second length.le).eq_of_length length

theorem Entered.not_both {outcome : GatewayOutcome} {own : List Obs} (entered : Entered p processing h)
    (entered' : Entered q processing' h') (refused : .breakerOpen p :: h <:+ own)
    (answered : .gatewayAnswered q outcome :: .gatewayCalled q :: h' <:+ own) : False := by
  have called : Obs.gatewayCalled q :: h' <:+ own := (List.suffix_cons _ _).trans answered
  have same := suffix_of_length refused called (by simp [entered.length, entered'.length])
  cases same

/-- A worker has one attempt, and one result of it. -/
theorem Attempted.unique {own : List Obs} (attempted : Attempted p processing result h)
    (other : Attempted q processing' result' h') (suffix : h <:+ own) (suffix' : h' <:+ own) : result' = result := by
  cases attempted with
  | refused entered =>
    cases other with
    | refused => rfl
    | answered entered' => exact (entered.not_both entered' suffix suffix').elim
  | answered entered =>
    cases other with
    | refused entered' => exact (entered'.not_both entered suffix' suffix).elim
    | answered entered' =>
      have same := suffix_of_length suffix suffix' (by simp [entered.length, entered'.length])
      cases same
      rfl

theorem Attempted.entered (attempted : Attempted p processing result h) :
    ∃ rest, rest <:+ h ∧ Entered p processing rest := by
  cases attempted with
  | refused entered => exact ⟨_, List.suffix_cons _ _, entered⟩
  | answered entered => exact ⟨_, (List.suffix_cons _ _).trans (List.suffix_cons _ _), entered⟩

theorem Entered.noted (entered : Entered p processing h) (own : h <:+ w.history t) :
    ∃ commit, (t, .committed commit) ∈ w.trace ∧ commit.row = some processing := by
  obtain ⟨commit, rest, rfl, returned⟩ := entered.committed
  exact ⟨commit, World.mem_history.mp (own.subset (List.mem_cons_self ..)), returned⟩

theorem Recorded.attempted (recorded : Recorded p processing result h) :
    ∃ rest, rest <:+ h ∧ Attempted p processing result rest := by
  obtain ⟨attempted, _⟩ := recorded
  exact ⟨_, List.suffix_cons _ _, attempted⟩

/-- An attempt has one worker. -/
theorem Entered.owner (entered : Entered p processing h) (own : h <:+ w.history t)
    (other : Entered q processing' h') (own' : h' <:+ w.history u) (raises : EveryCommit Raises w.trace) (same : q = p)
    (version : processing'.version = processing.version) : t = u ∧ processing' = processing := by
  subst same
  have id : processing'.id = processing.id := (other.id own' raises).trans (entered.id own raises).symm
  obtain ⟨commit, first, returned⟩ := entered.noted own
  obtain ⟨commit', second, returned'⟩ := other.noted own'
  obtain ⟨rfl, rfl⟩ := raises.once first second returned returned' id version
  rw [returned] at returned'
  exact ⟨rfl, (Option.some.inj returned').symm⟩

theorem Exits.later {status : PaymentStatus} (exits : Exits p processing w u status) (grown : w.trace <:+ w'.trace) :
    Exits p processing w' u status := by
  obtain ⟨commit, row, committed, rest⟩ := exits
  exact ⟨commit, row, grown.subset committed, rest⟩

theorem Ended.later (ended : Ended p processing w) (grown : w.trace <:+ w'.trace) : Ended p processing w' := by
  cases ended with
  | result attempted own final exits =>
    exact .result attempted (own.trans (World.history_suffix grown _)) final (exits.later grown)
  | webhook posted exits => exact .webhook (grown.subset posted) (exits.later grown)
  | givenUp noted version exhausted exits =>
    exact .givenUp (grown.subset noted) version exhausted (exits.later grown)

/-- Whoever takes a payment out of an attempt does so in one of these ways. -/
theorem Cause.ends (cause : Cause site w t p old event) (transition : Transition w.db w'.db p old row event)
    (trace : w'.trace = (t, .committed (w.added (some row) w'.db)) :: w.trace) (raises : EveryCommit Raises w.trace)
    (entered : Entered p processing h) (own : h <:+ w.history u) (status : old.status = .processing)
    (version : old.version = processing.version) : Ended p processing w' := by
  have grown : w.trace <:+ w'.trace := trace ▸ List.suffix_cons _ _
  have exits : Exits p processing w' t event.toStatus := by
    refine ⟨_, row, trace ▸ List.mem_cons_self .., rfl, transition.id, ?_, transition.status⟩
    rw [transition.version, version]
  have other : ∀ status', old.status = status' → status' ≠ .processing → Ended p processing w' := by
    rintro _ rfl differs
    exact (differs status).elim
  have same : ∀ {processing' result}, Recorded p processing' result (w.history t) →
      old.version = processing'.version → ∃ h, h <:+ w'.history t ∧ Attempted p processing result h := by
    intro processing' result recorded version'
    obtain ⟨rest, below, attempted⟩ := recorded.attempted
    obtain ⟨base, below', entered'⟩ := attempted.entered
    obtain ⟨_, rfl⟩ := entered.owner own entered' (below'.trans below) raises rfl (version'.symm.trans version)
    exact ⟨rest, below.trans (World.history_suffix grown t), attempted⟩
  cases cause with
  | succeed recorded successful version' _ is =>
    obtain ⟨h, own', attempted⟩ := same recorded version'
    rw [is.toStatus] at exits
    exact .result attempted own' (.inl successful) (by rwa [successful])
  | fail recorded unsuccessful final version' _ is =>
    obtain ⟨h, own', attempted⟩ := same recorded version'
    rw [is.toStatus] at exits
    exact .result attempted own' (.inr final) (by rwa [unsuccessful])
  | giveUp own' _ exhausted version' _ _ is =>
    rw [is.toStatus] at exits
    have noted := World.mem_history.mp (own' ▸ List.mem_cons_self ..)
    exact .givenUp (grown.subset noted) (version'.symm.trans version) exhausted exits
  | @settle token signature _ _ payload own' _ _ _ _ is =>
    rw [is.toStatus] at exits
    have posted : (t, .webhook payload (some signature)) ∈ w.trace := World.mem_history.mp (by rw [own']; simp)
    exact .webhook (grown.subset posted) exits
  | cancel _ _ _ valid =>
    rw [status] at valid
    cases valid
  | enter _ _ _ status' => exact other _ status' (by decide)
  | permanentlyFail _ _ status' => exact other _ status' (by decide)
  | schedule _ _ _ _ _ status' => exact other _ status' (by decide)
  | retry _ _ _ status' => exact other _ status' (by decide)

theorem InAttempt.step (inAttempt : InAttempt p processing w) (step : Step site R t w w')
    (raises : EveryCommit Raises w.trace) (entered : Entered p processing h) (own : h <:+ w.history u) :
    InAttempt p processing w' ∨ Ended p processing w' := by
  obtain ⟨old, found, status, version⟩ := inAttempt
  rcases step.db with ⟨same, _⟩ | ⟨row, trace, committed⟩ | ⟨_, stated⟩
  · exact .inl ⟨old, by rw [World.payment, same]; exact found, status, version⟩
  · cases committed with
    | created _ _ creation _ =>
      left
      refine ⟨old, ?_, status, version⟩
      rw [World.payment, creation.payment, if_neg]
      · exact found
      · rintro rfl
        rw [World.payment, creation.absent] at found
        cases found
    | @moved q before event cause _ transition _ =>
      by_cases same : p = q
      · subst same
        cases found.symm.trans transition.found
        exact .inr (cause.ends transition trace raises entered own status version)
      · left
        refine ⟨old, ?_, status, version⟩
        rw [World.payment, transition.payment, if_neg same]
        exact found
  · left
    have progress := stated.progress p
    rw [show w.db.payment p = some old from found] at progress
    obtain ⟨new, found', same⟩ := Option.map_eq_some_iff.mp progress
    simp only [Payment.progress, Progress.mk.injEq] at same
    exact ⟨new, found', same.1.trans status, same.2.1.trans version⟩

/-- The commit that begins an attempt exits the payment in it. -/
theorem Step.begins (step : Step site R t w w') (entered : Entered p processing h) (own : h <:+ w'.history u)
    (new : ¬h <:+ w.history u) (raises : EveryCommit Raises w'.trace) : InAttempt p processing w' := by
  obtain ⟨commit, rest, rfl, returned⟩ := entered.committed
  have id := entered.id own raises
  rcases step.history u with same | ⟨o, rfl, trace, grown⟩
  · rw [same] at own
    exact (new own).elim
  · rw [grown] at own
    rcases List.suffix_cons_iff.mp own with here | before
    · cases here
      have still : ∀ row, w'.db.payment row.id = some row → commit.row = some row → InAttempt p processing w' := by
        intro row found is
        rw [returned] at is
        cases is
        exact ⟨processing, id ▸ found, entered.status, rfl⟩
      rcases step.db with ⟨_, same | ⟨o, same, plain⟩⟩ | ⟨row, same, committed⟩ | ⟨same, _⟩
      · rw [same] at trace
        exact absurd trace (List.cons_ne_self _ _).symm
      · rw [same] at trace
        cases trace
        exact (plain commit rfl).elim
      · rw [same] at trace
        cases trace
        exact still row (by rw [committed.payment, if_pos rfl]) rfl
      · rw [same] at trace
        cases trace
        cases returned
    · exact (new before).elim

/-- What is known of every attempt. -/
structure Accounts (w : World) : Prop where
  current : Current w
  raises : EveryCommit Raises w.trace
  attempts : ∀ t p processing h, Entered p processing h → h <:+ w.history t →
    InAttempt p processing w ∨ Ended p processing w

theorem Accounts.step (accounts : Accounts w) (step : Step site R t w w') : Accounts w' := by
  obtain ⟨current, raises, attempts⟩ := accounts
  have grown := step.grows
  have raises' : EveryCommit Raises w'.trace :=
    raises.step step (fun row committed => committed.raises current) fun stated => stated.raises t
  refine ⟨step.current current, raises', ?_⟩
  intro u p processing h entered own
  by_cases before : h <:+ w.history u
  · rcases attempts u p processing h entered before with inAttempt | ended
    · exact inAttempt.step step raises entered before
    · exact .inr (ended.later grown)
  · exact .inl (step.begins entered own before raises')

/-- The worker of the attempt has been answered "pending". -/
def AwaitsWebhook (p : Uuid) (processing : Payment) (w : World) (t : Nat) : Prop :=
  ∃ result h, Attempted p processing result h ∧ h <:+ w.history t ∧ result.success = false ∧
    result.pendingWebhook = true

/-- A "pending" answer takes the payment nowhere. -/
theorem Ended.of_pending (ended : Ended p processing w) (raises : EveryCommit Raises w.trace)
    (awaits : AwaitsWebhook p processing w t) :
    ∃ u status, Exits p processing w u status ∧ ((∃ payload signature,
      (u, .webhook payload (some signature)) ∈ w.trace ∧ status = webhookTarget payload) ∨
      status = .permanentlyFailed) := by
  cases ended with
  | @result u _ h attempted own final =>
    obtain ⟨result, h', attempted', own', unsuccessful, pending⟩ := awaits
    obtain ⟨rest, below, entered⟩ := attempted.entered
    obtain ⟨rest', below', entered'⟩ := attempted'.entered
    obtain ⟨rfl, _⟩ := entered.owner (below.trans own) entered' (below'.trans own') raises rfl rfl
    cases attempted.unique attempted' own own'
    rw [unsuccessful, pending] at final
    exact (final.elim nofun nofun)
  | webhook posted exits => exact ⟨_, _, exits, .inl ⟨_, _, posted, rfl⟩⟩
  | givenUp _ _ _ exits => exact ⟨_, _, exits, .inr rfl⟩

/-- Every attempt at a payment is accounted for: the payment is still in it, or one commit has taken it out, with the
    result of the attempt's own worker, the status of a webhook, or a late decision to give it up; after a
    "pending" answer of the gateway only the last two are left. -/
theorem attempts_accounted (reached : Reached site R pool) (entered : Entered p processing h)
    (own : h <:+ pool.world.history t) :
    (InAttempt p processing pool.world ∨ Ended p processing pool.world) ∧
      (∀ u u' status status', Exits p processing pool.world u status → Exits p processing pool.world u' status' →
        u' = u ∧ status' = status) ∧
      (AwaitsWebhook p processing pool.world t → ¬InAttempt p processing pool.world → ∃ u status,
        Exits p processing pool.world u status ∧ ((∃ payload signature,
          (u, .webhook payload (some signature)) ∈ pool.world.trace ∧ status = webhookTarget payload) ∨
          status = .permanentlyFailed)) ∧
      ∀ u processing' h', Entered p processing' h' → h' <:+ pool.world.history u →
        processing'.version = processing.version → u = t := by
  have raises := every_commit_raises reached
  have accounted : InAttempt p processing pool.world ∨ Ended p processing pool.world := by
    have accounts := invariant_of_steps Accounts
      ⟨fun _ => rfl, throughout_nil _, fun t p processing h entered own => by
        obtain ⟨_, _, rfl, _⟩ := entered.committed
        cases List.suffix_nil.mp own⟩
      (fun _ _ _ accounts step => accounts.step step) reached
    exact accounts.attempts t p processing h entered own
  refine ⟨accounted, ?_, ?_, ?_⟩
  · rintro u u' status status' ⟨commit, row, first, returned, id, version, rfl⟩
      ⟨commit', row', second, returned', id', version', rfl⟩
    have id := id'.trans id.symm
    obtain ⟨rfl, rfl⟩ := raises.once first second returned returned' id (version'.trans version.symm)
    cases returned.symm.trans returned'
    exact ⟨rfl, rfl⟩
  · intro awaits left
    exact (accounted.resolve_left left).of_pending raises awaits
  · intro u processing' h' entered' own' version
    exact (entered.owner own entered' own' raises rfl version).1.symm

/-- A thread that is about to ask the circuit breaker. -/
def asksBreaker (pool : Pool calls JsError World) (t : Nat) : Bool :=
  match pool.threads[t]? with
  | some (.call (.breakerAdmits _) _) => true
  | _ => false

theorem asksBreaker_entered (reached : Reached site R pool) (asks : asksBreaker pool t = true) :
    ∃ p processing, Entered p processing (pool.world.history t) := by
  unfold asksBreaker at asks
  split at asks
  · rename_i running
    cases issued_of_running reached running with
    | breaker entered => exact ⟨_, _, entered⟩
  · cases asks

/-- A payment that waits for its webhook, and then gets it. -/
theorem attempts_accounted_settled : ∃ (pool : Pool calls JsError World) (p : Uuid) (processing : Payment),
    Reached sampleSite .free pool ∧
      (pool.world.payment (sampleId '0')).any (fun row => row.status = .success) = true ∧
      (InAttempt p processing pool.world ∨ Ended p processing pool.world) := by
  let asked : List (Label Choice Event) := creation ++
    .event (.deliverProcess ⟨sampleId '0'⟩) :: acts 1 [{ uuid := sampleId 'a' }, {}, {}, {}]
  let settled : List (Label Choice Event) := acts 1 [{}, {}, { outcome := pendingWebhook }, {}, {}, {}] ++
    signedWebhook 2 'b' "success" none ++ acts 2 [{}, {}, {}, {}, {}]
  obtain ⟨pool, reached, shown⟩ := reached_of_run sampleSite .free asked
    (fun pool => asksBreaker pool 1 && ((system sampleSite).run .free pool settled).any fun next =>
      (next.world.payment (sampleId '0')).any fun row => row.status = .success) (by decide +kernel)
  obtain ⟨asks, rest⟩ := Bool.and_eq_true_iff.mp shown
  obtain ⟨next, ran, success⟩ := (Option.any_eq_true _ _).mp rest
  obtain ⟨p, processing, entered⟩ := asksBreaker_entered reached asks
  have grown : pool.world.trace <:+ next.world.trace := by
    refine lasting_of_steps (fun w => pool.world.trace <:+ w.trace) ?_ reached List.suffix_rfl ran
    intro t w w' held step
    exact held.trans step.grows
  have own := World.history_suffix grown 1
  exact ⟨next, p, processing, .run reached ran, success, (attempts_accounted (.run reached ran) entered own).1⟩

end PaymentModel
