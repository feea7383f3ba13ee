import PaymentSystem.Proof.CallNotes
import PaymentSystem.Properties.IdempotentRequests

namespace PaymentModel

open Async

def ResponseBody.isError : ResponseBody → Bool
  | .error .. => true
  | _ => false

/-- A request is answered with that response, which is not an error, and does not reach a handler. -/
structure Replayed (code : Nat) (body : ResponseBody) (h : List Obs) : Prop where
  responded : .responded code body ∈ h
  succeeds : body.isError = false
  unhandled : ∀ key, .admitted key ∉ h

/-- The call does not answer a request, or refuses it. -/
def Call.refuses : Call → Prop
  | .respond _ body => body.isError = true
  | _ => True

/-- The look-up of the key in Redis has found a record. -/
def Call.finds (key : String) : (c : Call) → Except JsError c.Answer → Prop
  | .recordGet other, .ok (some _) => other = redisKey key
  | _, _ => False

/-- The program calls `next` for the key or finds its record before it answers with anything but an
    error. -/
abbrev AsksFirst (key : String) {α : Type} (p : Promise α) : Prop :=
  p.Until Call.refuses (fun c => c = Call.next (some key)) (Call.finds key)

/-- A request under the key has found a record, been let through, or got no answer but errors. -/
def LooksUp (key : String) (t : Nat) (p : Promise Unit) (w : World) : Prop :=
  ∀ request, .posted request ∈ w.history t → orNull request.idempotencyKey = some key →
    (∃ record, .recordRead (redisKey key) (some record) ∈ w.history t) ∨ .admitted (some key) ∈ w.history t ∨
    AsksFirst key p ∧ ∀ code body, .responded code body ∈ w.history t → body.isError = true

variable {site : Deployment} {R : Condition} {t : Nat} {w w' : World} {c : Call} {choice : Choice} {key : String}
  {request : PostRequest} {code : Nat} {body : ResponseBody} {pool : Pool calls JsError World}

theorem errorHandler_asksFirst (error : JsError) : AsksFirst key (errorHandler site originalJson error) := by
  cases error with
  | app | prisma | other => exact .ask rfl

theorem markProcessing_asksFirst (request : PostRequest) (other : String) :
    AsksFirst key (markProcessing site request other) := by
  apply Program.Until.bind (.ask trivial)
  intro written
  apply Program.Until.bind (.ask trivial)
  intro now
  apply Program.Until.bind
  · exact .tryCatch (.ask trivial) fun _ => .pure ()
  · exact fun _ => .pure _

/-- What is answered from the record stops the program. -/
theorem idempotencyCheck_asksFirst (request : PostRequest) : AsksFirst key (idempotencyCheck site request key) := by
  refine .inr ⟨trivial, fun outcome => ?_⟩
  cases outcome with
  | error e => exact .inr trivial
  | ok record =>
    cases record with
    | some record => exact .inl rfl
    | none => exact .inr (markProcessing_asksFirst request key)

theorem postPayments_asksFirst (hasKey : orNull request.idempotencyKey = some key) :
    AsksFirst key (postPayments site request) := by
  have given : request.idempotencyKey = some key := orNull_eq_some hasKey
  have nonempty : key ≠ "" := by
    rintro rfl
    simp [orNull, truthy, given] at hasKey
  unfold postPayments idempotency
  simp only [given, nonempty, if_false]
  apply Program.Until.bind
  · apply Program.Until.tryCatch (idempotencyCheck_asksFirst request)
    exact fun error => (errorHandler_asksFirst error).bind fun _ => .pure _
  · intro outcome
    cases outcome with
    | answered => exact .pure ()
    | proceed => exact .inl rfl

theorem recordRead_of_finds {outcome : Except JsError c.Answer} (performed : perform t c choice w = some (outcome, w'))
    (finds : Call.finds key c outcome) : ∃ record, .recordRead (redisKey key) (some record) ∈ w'.history t := by
  cases c with
  | recordGet other =>
    cases outcome with
    | error e => exact finds.elim
    | ok record =>
      cases record with
      | none => exact finds.elim
      | some record =>
        obtain rfl : other = redisKey key := finds
        rcases World.remote_cases (Option.some.inj performed) with ⟨_, same, rfl⟩ | ⟨_, failed, _⟩ | ⟨_, failed, _⟩
        · refine ⟨record, ?_⟩
          rw [World.history_noted, ← Except.ok.inj same]
          exact List.mem_cons_self ..
        · cases failed
        · cases failed
  | _ => exact finds.elim

theorem LooksUp.acts {rest : Except JsError c.Answer → Promise Unit} {outcome : Except JsError c.Answer}
    (looks : LooksUp key t (.call c rest) w) (issued : Issued site t w c)
    (performed : perform t c choice w = some (outcome, w')) : LooksUp key t (rest outcome) w' := by
  intro request posted hasKey
  have grown : w.history t ⊆ w'.history t :=
    (World.history_suffix (perform_steps (R := .free) issued rfl performed).grows t).subset
  have posted : .posted request ∈ w.history t :=
    (perform_notes performed posted).resolve_right CallNote.not_posted
  rcases looks request posted hasKey with ⟨record, found⟩ | admitted | ⟨asks, errors⟩
  · exact .inl ⟨record, grown found⟩
  · exact .inr (.inl (grown admitted))
  · rcases asks with rfl | ⟨refuses, rest⟩
    · cases performed
      exact .inr (.inl (by simp))
    · rcases rest outcome with finds | asks
      · exact .inl (recordRead_of_finds performed finds)
      · refine .inr (.inr ⟨asks, fun code body responded => ?_⟩)
        rcases perform_notes performed responded with before | note
        · exact errors code body before
        · obtain rfl := note.responded
          exact refuses

/-- A request notes its arrival first, and starts with the middleware. -/
theorem looksUp_begins {n : Nat} {e : Event} {started : List (Promise Unit)} (key : String)
    (occurred : occur site n e w = some (w', started)) (fresh : ∀ t, n ≤ t → w.history t = []) (i : Nat)
    (p : Promise Unit) (found : started[i]? = some p) : LooksUp key (n + i) p w' := by
  intro request posted hasKey
  have quiet : ∀ {o : Obs} {w₀ : World}, w' = w₀.log n o → w₀.trace = w.trace → .posted request = o := by
    intro o w₀ logged same
    have old : w₀.history (n + i) = [] := (World.history_congr same _).trans (fresh _ (Nat.le_add_right n i))
    by_cases first : n + i = n
    · rw [logged, first, World.history_log_self, ← first, old] at posted
      exact List.mem_singleton.mp posted
    · rw [logged, World.history_log_other _ first, old] at posted
      cases posted
  cases e with
  | post request' =>
    cases occurred
    cases quiet rfl rfl
    have zero : i = 0 := by
      have bound := (List.getElem?_eq_some_iff.mp found).1
      rw [List.length_singleton] at bound
      omega
    subst zero
    cases found
    refine .inr (.inr ⟨postPayments_asksFirst hasKey, fun code body responded => ?_⟩)
    rw [Nat.add_zero, World.history_log_self, fresh n (Nat.le_refl _)] at responded
    cases List.mem_singleton.mp responded
  | cancel | webhook =>
    cases occurred
    cases quiet rfl rfl
  | deliverProcess | deliverRetry =>
    obtain ⟨queue, _, same⟩ := Option.map_eq_some_iff.mp occurred
    cases same
    cases quiet rfl rfl
  | stallProcess | stallRetry | retryDelayElapsed =>
    obtain ⟨queue, _, same⟩ := Option.map_eq_some_iff.mp occurred
    cases same
    cases found
  | expireLock | expireRecord =>
    cases occurred
    cases found

theorem looksUp (key : String) (reached : Reached site R pool) :
    ∀ t p, pool.threads[t]? = some p → LooksUp key t p pool.world := by
  refine (conduct site).each (conduct_starts site) (fresh_start site) (LooksUp key) ?_ ?_ ?_ ?_ ?_ reached
  · exact fun occurred fresh i p found => looksUp_begins key occurred fresh i p found
  · exact fun looks issued performed => looks.acts issued performed
  · exact fun looks request posted hasKey => looks request posted hasKey
  · intro t c w fresh request posted _
    rw [show w.history t = [] from fresh] at posted
    cases posted
  · intro t p w w' looks moved
    unfold LooksUp
    rw [moved.own]
    exact looks

/-- A request that finds the Redis record of its key lost is not answered with a stored response, whatever
    the completed row of the key holds: it reaches the handler, or all it gets are errors. -/
theorem replays_lost (reached : Reached site R pool) (posted : .posted request ∈ pool.world.history t)
    (hasKey : orNull request.idempotencyKey = some key)
    (lost : ∀ record, .recordRead (redisKey key) (some record) ∉ pool.world.history t) (code : Nat)
    (body : ResponseBody) : ¬Replayed code body (pool.world.history t) := by
  intro replayed
  by_cases started : t < pool.threads.length
  · rcases looksUp key reached t _ (List.getElem?_eq_getElem started) request posted hasKey with
      ⟨record, found⟩ | admitted | ⟨_, errors⟩
    · exact lost record found
    · exact replayed.unhandled _ admitted
    · have refused := errors code body replayed.responded
      rw [replayed.succeeds] at refused
      cases refused
  · have kept := (conduct site).keeps (conduct_starts site) (fresh_start site) reached
    have new : pool.world.history t = [] := kept.fresh t (by omega)
    rw [new] at posted
    cases posted

/-- The first request under the key completes, and its record is lost from Redis. -/
def lostRecord : List (Label Choice Event) :=
  .event (.post keyedOrder) ::
    acts 0 [{}, {}, {}, {}, {}, { uuid := sampleId '0' }, {}, {}, {}, {}, {}] ++ acts 1 [{}] ++ acts 2 [{}] ++
    [.event (.expireRecord (redisKey "order-1"))]

/-- The same request comes again. -/
def lostReplay : List (Label Choice Event) :=
  .event (.post keyedOrder) ::
    acts 3 [{}, {}, {}, {}, {}, { uuid := sampleId '1' }, {}, {}, {}, {}]

/-- The row of a completed request with that response code, unexpired at `now`. -/
def IdempotencyKey.keeps (now : Rat) (code : Nat) (row : IdempotencyKey) : Bool :=
  row.status = .completed && row.responseCode = some code && now < row.expiresAt

def Obs.refuses (code : Nat) : Obs → Bool
  | .responded code' (.error ..) => code' = code
  | _ => false

def Obs.findsRecord : Obs → Bool
  | .recordRead _ (some _) => true
  | _ => false

/-- The first request is answered with 201, and its row is completed when the record is lost. -/
theorem lostRecord_reached (shows : Pool calls JsError World → Bool)
    (ran : (((system sampleSite).run .free ⟨{}, []⟩ lostRecord).any fun pool =>
      (pool.world.db.idempotencyKeys.find "order-1").any (IdempotencyKey.keeps 0 201) &&
      (pool.world.records (redisKey "order-1")).isNone && ((system sampleSite).run .free pool lostReplay).any shows) =
      true) : ∃ pool row later, Reached sampleSite .free pool ∧
        pool.world.db.idempotencyKeys.find "order-1" = some row ∧ row.keeps 0 201 = true ∧
        pool.world.records (redisKey "order-1") = none ∧
        (system sampleSite).run .free pool lostReplay = some later ∧ shows later = true := by
  obtain ⟨pool, reached, shown⟩ := reached_of_run sampleSite .free lostRecord _ ran
  obtain ⟨kept, replayed⟩ := Bool.and_eq_true_iff.mp shown
  obtain ⟨stored, none⟩ := Bool.and_eq_true_iff.mp kept
  obtain ⟨row, found, keeps⟩ := (Option.any_eq_true _ _).mp stored
  obtain ⟨later, ran, shown⟩ := (Option.any_eq_true _ _).mp replayed
  exact ⟨pool, row, later, reached, found, keeps, Option.isNone_iff_eq_none.mp none, ran, shown⟩

theorem replays_lost_order : ∃ pool row later, Reached sampleSite .free pool ∧
    pool.world.db.idempotencyKeys.find "order-1" = some row ∧ row.keeps 0 201 = true ∧
    (system sampleSite).run .free pool lostReplay = some later ∧
    ∀ code body, ¬Replayed code body (later.world.history 3) := by
  obtain ⟨pool, row, later, reached, found, keeps, none, ran, shown⟩ := lostRecord_reached
    (fun later => (later.world.history 3).any (Obs.posts "order-1") &&
      !(later.world.history 3).any Obs.findsRecord) (by decide +kernel)
  obtain ⟨posts, absent⟩ := Bool.and_eq_true_iff.mp shown
  obtain ⟨o, posted, is⟩ := List.any_eq_true.mp posts
  obtain ⟨request, rfl, hasKey⟩ := Obs.posts_iff.mp is
  have lost : ∀ record, .recordRead (redisKey "order-1") (some record) ∉ later.world.history 3 := by
    intro record found
    have finds : (later.world.history 3).any Obs.findsRecord = true := List.any_eq_true.mpr ⟨_, found, rfl⟩
    simp [finds] at absent
  exact ⟨pool, row, later, reached, found, keeps, ran, replays_lost (reached.run ran) posted hasKey lost⟩

/-- The handler is reached again, and the unique key of the payments makes it an error. -/
theorem replays_refused : ∃ pool row later, Reached sampleSite .free pool ∧
    pool.world.db.idempotencyKeys.find "order-1" = some row ∧ row.keeps 0 201 = true ∧
    pool.world.records (redisKey "order-1") = none ∧ (system sampleSite).run .free pool lostReplay = some later ∧
    .admitted (some "order-1") ∈ later.world.history 3 ∧
    (later.world.history 3).any (Obs.refuses 500) = true := by
  obtain ⟨pool, row, later, reached, found, keeps, none, ran, shown⟩ := lostRecord_reached
    (fun later => (later.world.history 3).any (Obs.admits "order-1") &&
      (later.world.history 3).any (Obs.refuses 500)) (by decide +kernel)
  obtain ⟨admits, refused⟩ := Bool.and_eq_true_iff.mp shown
  obtain ⟨o, admitted, is⟩ := List.any_eq_true.mp admits
  rw [Obs.admits_iff.mp is] at admitted
  exact ⟨pool, row, later, reached, found, keeps, none, ran, admitted, refused⟩

end PaymentModel
