import PaymentSystem.Proof.Posts

namespace PaymentModel

open Async

variable {site : Deployment} {R : Condition} {t : Nat} {w w' : World} {pool : Pool calls JsError World}

/-- The pools that runs under the condition `R` reach from the empty store. -/
abbrev Reached (site : Deployment) (R : Condition) (pool : Pool calls JsError World) : Prop :=
  (system site).Reachable {} R pool

theorem fresh_start (site : Deployment) (t : Nat) : (conduct site).fresh t {} := rfl

theorem preserved_of_steps (property : World → Prop)
    (preserved : ∀ t w w', property w → Step site R t w w' → property w') (n : Nat) (w w' : World)
    (held : property w) (move : (conduct site).Move R n w w') : property w' := by
  have chain : ∀ t w w', property w → Steps site R t w w' → property w' := by
    intro t w w' held steps
    induction steps with
    | refl => exact held
    | tail _ step ih => exact preserved t _ _ ih step
  cases move with
  | call running issued admitted performed => exact chain _ _ _ held (perform_steps issued admitted performed)
  | event fresh admitted occurred =>
    exact chain n _ _ held (occur_steps occurred admitted (fresh n (Nat.le_refl _)))
  | idle => exact held

/-- A property of the world holds in every reachable state when every step of a thread keeps it. -/
theorem invariant_of_steps (property : World → Prop) (initial : property {})
    (preserved : ∀ t w w', property w → Step site R t w w' → property w') (reached : Reached site R pool) :
    property pool.world :=
  (conduct site).invariant (conduct_starts site) (fresh_start site) property initial
    (preserved_of_steps property preserved) reached

/-- And once it holds in a reachable state, it holds ever after. -/
theorem lasting_of_steps (property : World → Prop)
    (preserved : ∀ t w w', property w → Step site R t w w' → property w') (reached : Reached site R pool)
    (held : property pool.world) {labels : List (Label Choice Event)} {later : Pool calls JsError World}
    (ran : (system site).run R pool labels = some later) : property later.world :=
  (conduct site).lasting (conduct_starts site) (fresh_start site) property
    (preserved_of_steps property preserved) reached held ran

/-- A thread knows what it needs for the call it is at. -/
theorem issued_of_running (reached : Reached site R pool) {c : Call} {rest : Except JsError c.Answer → Promise Unit}
    (running : pool.threads[t]? = some (.call c rest)) : Issued site t pool.world c :=
  (((conduct site).keeps (conduct_starts site) (fresh_start site) reached).safe t _ running _ (.refl t _)).1

/-- An act of a thread performs the call it is at, or starts one that it does not wait for. -/
theorem act_cases (reached : Reached site R pool) {choice : Choice} {next : Pool calls JsError World}
    (stepped : (system site).step pool (.act t choice) = some next) :
    (∃ c rest outcome, pool.threads[t]? = some (.call c rest) ∧ Issued site t pool.world c ∧
      perform t c choice pool.world = some (outcome, next.world) ∧
      next.threads = pool.threads.set t (rest outcome)) ∨
    ((∃ c rest, pool.threads[t]? = some (.detach c rest)) ∧ next.world = pool.world) := by
  cases Machine.takes_of_step stepped with
  | call running performed threads =>
    exact .inl ⟨_, _, _, running, issued_of_running reached running, performed, threads⟩
  | detach running world _ => exact .inr ⟨⟨_, _, running⟩, world⟩

theorem act_call (reached : Reached site R pool) {choice : Choice} {next : Pool calls JsError World} {c : Call}
    {rest : Except JsError c.Answer → Promise Unit} (running : pool.threads[t]? = some (.call c rest))
    (stepped : (system site).step pool (.act t choice) = some next) :
    ∃ outcome, Issued site t pool.world c ∧ perform t c choice pool.world = some (outcome, next.world) ∧
      next.threads[t]? = some (rest outcome) := by
  rcases act_cases reached stepped with ⟨_, _, outcome, running', issued, performed, threads⟩ | ⟨⟨_, _, running'⟩, _⟩
  · cases running.symm.trans running'
    refine ⟨outcome, issued, performed, ?_⟩
    rw [threads, List.getElem?_set_self (List.getElem?_eq_some_iff.mp running).1]
  · cases running.symm.trans running'

/-- A thread that has ended owes nothing. -/
theorem ended_final (reached : Reached site R pool) {t : Nat} {program : Promise Unit}
    (found : pool.threads[t]? = some program) (ended : program.ended = true) :
    Settled (pool.world.history t) ∧ Handled (pool.world.history t) :=
  ((conduct site).keeps (conduct_starts site) (fresh_start site) reached).final found ended

theorem quiet_final (reached : Reached site R pool) (quiet : pool.quiet = true) (t : Nat) :
    Settled (pool.world.history t) ∧ Handled (pool.world.history t) := by
  have kept := (conduct site).keeps (conduct_starts site) (fresh_start site) reached
  by_cases started : t < pool.threads.length
  · have ended := List.all_eq_true.mp quiet _ (List.getElem_mem started)
    exact ended_final reached (List.getElem?_eq_getElem started) ended
  · refine final_of_bookkeeping ?_
    have new : pool.world.history t = [] := kept.fresh t (by omega)
    rw [new]
    simp

/-- What a step does to the database: nothing, or it runs a transaction or a statement that its thread may
    issue. -/
theorem Step.wrote (step : Step site R t w w') :
    (w'.db = w.db ∧ (w'.trace = w.trace ∨
      ∃ o, w'.trace = (t, o) :: w.trace ∧ ∀ commit, o ≠ .committed commit)) ∨
    (∃ body now row, w'.trace = (t, .committed (w.added (some row) w'.db)) :: w.trace ∧
      Issued site t w (.transaction body) ∧ body now w.db = .ok (row, w'.db)) ∨
    (∃ body now, w'.trace = (t, .committed (w.added none w'.db)) :: w.trace ∧
      Issued site t w (.statement body) ∧ body now w.db = .ok ((), w'.db)) := by
  cases step with
  | transaction issued _ ran => exact .inr (.inl ⟨_, _, _, rfl, issued, ran⟩)
  | statement issued ran => exact .inr (.inr ⟨_, _, rfl, issued, ran⟩)
  | note _ _ noted =>
    refine .inl ⟨rfl, .inr ⟨_, rfl, ?_⟩⟩
    cases noted <;> simp
  | arrive _ _ arrives =>
    refine .inl ⟨rfl, .inr ⟨_, rfl, ?_⟩⟩
    cases arrives <;> simp
  | fault | lock | enqueue | enqueueRetry | claim | deliverProcess | deliverRetry =>
    exact .inl ⟨rfl, .inr ⟨_, rfl, by simp⟩⟩
  | orphan | unlock | expireLock | processFinished | retryFinished | store | expireRecord | stallProcess
  | stallRetry | elapse => exact .inl ⟨rfl, .inl rfl⟩

theorem Step.db (step : Step site R t w w') :
    (w'.db = w.db ∧ (w'.trace = w.trace ∨
      ∃ o, w'.trace = (t, o) :: w.trace ∧ ∀ commit, o ≠ .committed commit)) ∨
    (∃ row, w'.trace = (t, .committed (w.added (some row) w'.db)) :: w.trace ∧
      Transacted site w t w'.db row) ∨
    (w'.trace = (t, .committed (w.added none w'.db)) :: w.trace ∧ Stated w.db w'.db) := by
  rcases step.wrote with same | ⟨_, _, row, trace, issued, ran⟩ | ⟨_, _, trace, issued, ran⟩
  · exact .inl same
  · exact .inr (.inl ⟨row, trace, transacted issued ran⟩)
  · exact .inr (.inr ⟨trace, stated issued ran⟩)

/-- What a step has committed: a transaction of its thread that returns the row, or a statement. -/
theorem Step.commits (step : Step site R t w w') {commit : Commit}
    (trace : w'.trace = (t, .committed commit) :: w.trace) :
    (∃ row, commit = w.added (some row) w'.db ∧ Transacted site w t w'.db row) ∨
      (commit = w.added none w'.db ∧ Stated w.db w'.db) := by
  rcases step.db with ⟨_, same | ⟨_, same, plain⟩⟩ | ⟨row, same, committed⟩ | ⟨same, stated⟩
  · rw [same] at trace
    exact (List.cons_ne_self _ _ trace.symm).elim
  · rw [same] at trace
    cases trace
    exact (plain commit rfl).elim
  · rw [same] at trace
    cases trace
    exact .inl ⟨row, rfl, committed⟩
  · rw [same] at trace
    cases trace
    exact .inr ⟨rfl, stated⟩

theorem Step.returns (step : Step site R t w w') {commit : Commit} {row : Payment}
    (trace : w'.trace = (t, .committed commit) :: w.trace) (returned : commit.row = some row) :
    Transacted site w t w'.db row := by
  rcases step.commits trace with ⟨row', rfl, committed⟩ | ⟨rfl, _⟩
  · cases returned
    exact committed
  · cases returned

theorem Step.read (step : Step site R t w w') {place : ReadSite} {row : Option Payment}
    (trace : w'.trace = (t, .read place row) :: w.trace) :
    ∃ p choice, row = w.payment p ∧ R.call t w (.paymentFindUnique place p) choice := by
  cases step.adds trace with
  | note _ admitted noted =>
    cases noted
    exact ⟨_, _, rfl, admitted⟩
  | arrive arrives => cases arrives

theorem Step.reads (step : Step site R t w w') {u : Nat} {place : ReadSite} {row : Option Payment}
    (member : (u, .read place row) ∈ w'.trace) : (u, .read place row) ∈ w.trace ∨
      ∃ p choice, row = w.payment p ∧ R.call u w (.paymentFindUnique place p) choice := by
  rcases step.trace with same | ⟨o, same⟩
  · exact .inl (same ▸ member)
  · rw [same] at member
    rcases List.mem_cons.mp member with new | before
    · cases new
      exact .inr (step.read same)
    · exact .inl before

def sampleId : Char → Uuid
  | '1' => ⟨"7c9e6679-7425-40de-944b-e07fc1f90ae1", by decide⟩
  | 'a' => ⟨"7c9e6679-7425-40de-944b-e07fc1f90aea", by decide⟩
  | 'b' => ⟨"7c9e6679-7425-40de-944b-e07fc1f90aeb", by decide⟩
  | 'c' => ⟨"7c9e6679-7425-40de-944b-e07fc1f90aec", by decide⟩
  | 'd' => ⟨"7c9e6679-7425-40de-944b-e07fc1f90aed", by decide⟩
  | 'e' => ⟨"7c9e6679-7425-40de-944b-e07fc1f90aee", by decide⟩
  | _ => ⟨"7c9e6679-7425-40de-944b-e07fc1f90ae0", by decide⟩

theorem trimmed_none : (none : Option String).all isHeaderValue = true := rfl

def sampleOrder (idempotencyKey : Option String)
    (trimmed : idempotencyKey.all isHeaderValue = true := by decide) : PostRequest where
  idempotencyKey
  path := "/"
  fullPath := "/api/v1/payments"
  body := {
    amount := ⟨4999, -2, by decide⟩
    currency := "USD"
    merchantId := "merchant_1"
    customerEmail := "ada@example.com"
    description := none
    metadata := none }
  bounded := ⟨by decide, by decide, by decide⟩
  trimmed

/-- The sample order under a key. -/
def keyedOrder : PostRequest := sampleOrder (some "order-1")

/-- The sample order with another amount and metadata. -/
def orderBody (amount : JsNumber) (metadata : Option (List (String × Json))) : CreatePaymentRequest :=
  { (sampleOrder none).body with amount, metadata }

theorem orderBody_bounded (amount : JsNumber) (metadata : Option (List (String × Json))) :
    (orderBody amount metadata).Bounded where
  currency := (sampleOrder none).bounded.currency
  merchantId := (sampleOrder none).bounded.merchantId
  customerEmail := (sampleOrder none).bounded.customerEmail

/-- A webhook about the payment that it spells so. -/
def webhookNaming (spelled status : String) (errorCode : Option String) : Json :=
  .object ([("eventId", .string "evt_1"), ("paymentId", .string spelled),
    ("gatewayReference", .string "gw_1"), ("status", .string status)] ++
    (errorCode.map fun code => ("errorCode", Json.string code)).toList ++
    [("timestamp", .string "2026-01-05T10:00:00.000Z")])

/-- A webhook about the sample payment. -/
def sampleWebhook (status : String) (errorCode : Option String) : Json :=
  webhookNaming (sampleId '0') status errorCode

/-- A deployment for runs on fixed labels, with one retry; its digests are those of the texts that
    these runs hash and sign. -/
def sampleSite : Deployment where
  maxRetries := 1
  retryBaseDelayMs := 1000
  retryMaxDelayMs := 60000
  lockTtlMs := 30000
  idempotencyTtlHours := 24
  webhookSecret := "webhook-secret-key"
  nodeEnv := some "test"
  maxRetries_le := by decide
  retryBaseDelayMs_ge := by decide +kernel
  retryMaxDelayMs_ge := by decide +kernel
  lockTtlMs_ge := by decide +kernel
  idempotencyTtlHours_ge := by decide +kernel
  webhookSecret_length := by decide
  nodeEnv_mode := by decide
  sha256 text :=
    if text = Json.stringify (some ["amount", "currency", "customerEmail", "merchantId"])
      (sampleOrder none).body.json
    then "cecd7103affe67a6ad76af66b81928bdd0eaaaf976f5f7731c1ae49b4021ae4b" else ""
  hmacSha256 _ text :=
    if text = Json.stringify none (sampleWebhook "success" none)
    then "6b1c0e40577f7e0192e67cb986b2243b0ab0a1ac518bbe543bf889b9a71a79f1"
    else if text = Json.stringify none (sampleWebhook "failed" (some GatewayErrorCode.gatewayTimeout))
    then "ca5e1378df1b9f93065768281d63b4f6ff427f2aae9e5d88fe61665d059a3883"
    else "0000000000000000000000000000000000000000000000000000000000000000"
  hmacSha256_hex _ _ := by
    split
    · decide +kernel
    · split <;> decide +kernel

/-- `sampleSite` with the digest of one more text. -/
def signing (payload : Json) (digest : String) (hex : isHexDigest digest = true) : Deployment :=
  { sampleSite with
    hmacSha256 := fun key text =>
      if text = Json.stringify none payload then digest else sampleSite.hmacSha256 key text
    hmacSha256_hex := fun key text => by
      split
      · exact hex
      · exact sampleSite.hmacSha256_hex key text }

def acts (t : Nat) (choices : List Choice) : List (Label Choice Event) := choices.map (.act t)

/-- Thread 0 creates the sample payment. -/
def creation : List (Label Choice Event) :=
  .event (.post (sampleOrder none)) :: acts 0 [{}, { uuid := sampleId '0' }, {}, {}, {}]

/-- Thread `t` runs the process job of the sample payment to the answer of the gateway. -/
def attempt (t : Nat) (token : Char) (outcome : GatewayOutcome) : List (Label Choice Event) :=
  .event (.deliverProcess ⟨sampleId '0'⟩) :: acts t [{ uuid := sampleId token }, {}, {}, {}, {}, {}, { outcome }]

def approved : GatewayOutcome := .response {
  success := true
  gatewayReference := "gw_1"
  pending := false
  errorCode := none
  errorMessage := none }

def declined : GatewayOutcome := .response {
  success := false
  gatewayReference := "gw_1"
  pending := false
  errorCode := some GatewayErrorCode.insufficientFunds
  errorMessage := some "Card has insufficient balance" }

def unreachable : GatewayOutcome :=
  .thrown (gatewayError "Failed to connect to payment gateway" GatewayErrorCode.networkError true)

/-- The process job stalls under thread `t` and is handed out again. -/
def redelivery (t : Nat) : List (Label Choice Event) :=
  [.event (.stallProcess ⟨sampleId '0'⟩ t), .event (.deliverProcess ⟨sampleId '0'⟩)]

/-- Two attempts of the process job end in `RETRY_SCHEDULED`: the gateway is not reached, and the
    second delivery finds the lock of the first one busy. -/
def retryScheduling : List (Label Choice Event) :=
  creation ++ attempt 1 'a' unreachable ++ acts 1 [{}, {}, {}] ++ redelivery 1 ++
    acts 2 [{ uuid := sampleId 'b' }, {}, {}, {}, {}, {}, {}, {}]

/-- Thread `t` executes that retry, and the second delivery of the process job stalls too. -/
def retry (t : Nat) : List (Label Choice Event) :=
  [.event (.retryDelayElapsed ⟨sampleId '0', 1⟩), .event (.deliverRetry ⟨sampleId '0', 1⟩)] ++
    acts t [{}, {}, {}, {}] ++ [.event (.stallProcess ⟨sampleId '0'⟩ 2)]

/-- Thread `t` handles a webhook with its signature up to its lock, which is free. -/
def signedDelivery (site : Deployment) (t : Nat) (token : Char) (payload : Json) : List (Label Choice Event) :=
  .event (.webhook payload (some (generateWebhookSignature site (Json.stringify none payload)))) ::
    acts t [{}, { uuid := sampleId token }, {}]

/-- The webhook of that status about the sample payment. -/
def signedWebhook (t : Nat) (token : Char) (status : String) (errorCode : Option String) :
    List (Label Choice Event) :=
  signedDelivery sampleSite t token (sampleWebhook status errorCode)

/-- The id of the sample payment in upper case. -/
def sampleIdUpper : String := "7C9E6679-7425-40DE-944B-E07FC1F90AE0"

theorem split_at {entries : List (Nat × Obs)} {n : Nat} {entry : Nat × Obs} (found : entries[n]? = some entry) :
    entries = entries.take n ++ entry :: entries.drop (n + 1) := by
  obtain ⟨bound, rfl⟩ := List.getElem?_eq_some_iff.mp found
  rw [← List.drop_eq_getElem_cons bound, List.take_append_drop]

theorem reached_of_run (site : Deployment) (R : Condition) (labels : List (Label Choice Event))
    (shows : Pool calls JsError World → Bool)
    (ran : (((system site).run R ⟨{}, []⟩ labels).any shows) = true) :
    ∃ pool, Reached site R pool ∧ shows pool = true := by
  obtain ⟨pool, ran, shown⟩ := (Option.any_eq_true _ _).mp ran
  exact ⟨pool, .run .start ran, shown⟩

end PaymentModel
