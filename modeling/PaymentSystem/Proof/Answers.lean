import PaymentSystem.Async.Product
import PaymentSystem.Proof.Deeds
import PaymentSystem.Properties.WebhookSources

namespace PaymentModel

open Async

/-- An error that no handler has made for its client. -/
def JsError.Internal (e : JsError) : Prop := ∀ error, e ≠ .app error

/-- A request whose payment, event or signature cannot be read. -/
inductive Unreadable (site : Deployment) : Obs → Prop
  | payment {spelled : String} (reads : Uuid.parse spelled = none) : Unreadable site (.cancelling spelled)
  | signature {payload : Json} {signature : String} {e : JsError}
    (throws : verifyWebhookSignature site (Json.stringify none payload) signature = .error e) :
    Unreadable site (.webhook payload (some signature))
  | event {payload : Json} {signature : Option String}
    (reads : ∀ eventId, payload.field "eventId" = some (.string eventId) → nullFree eventId = false) :
    Unreadable site (.webhook payload signature)
  | named {payload : Json} {signature : Option String} {e : JsError} (throws : namedPayment payload = .error e) :
    Unreadable site (.webhook payload signature)

def Deed.isAnswer : Deed → Bool
  | .answered .. => true
  | _ => false

def Deed.isFound : Deed → Bool
  | .found .. => true
  | _ => false

def Deed.row : Deed → Option Payment
  | .moved row => some row
  | _ => none

abbrev Unanswered (ds : List Deed) : Prop := ds.all (fun d => !d.isAnswer) = true

/-- The payments that were moved. -/
def movedRows (ds : List Deed) : List Payment := ds.filterMap Deed.row

/-- Nothing was found under the key, one payment was moved at most, and there is no answer yet. -/
structure Early (ds : List Deed) : Prop where
  unanswered : Unanswered ds
  unfound : ds.all (fun d => !d.isFound) = true
  single : (movedRows ds).length ≤ 1

/-- Only bookkeeping has been tried that may fail. -/
def Overlooked (ds : List Deed) : Prop := ∀ d ∈ ds, d = .lost ∨ d = .refused

/-- Something went wrong: the request cannot be read, or the last call for it was lost or refused. -/
structure Broken (site : Deployment) (a : Obs) (ds : List Deed) : Prop where
  cause : Unreadable site a ∨ ds.head? = some .lost ∨ ds.head? = some .refused
  early : Early ds

/-- What the cancellation of a payment in such a status is refused with. -/
def unfitMessage (status : PaymentStatus) : String :=
  if status ∈ terminalStates then
    "Payment is already in terminal state '" ++ status.text ++ "' and cannot be cancelled"
  else
    "Payment in '" ++ status.text ++ "' state cannot be cancelled — only CREATED or PENDING payments can be cancelled"

/-- The conflict of a payment that has been moved on from that version. -/
def movedOnError (spelled : String) (version : Nat) : JsError :=
  conflictError ("Optimistic lock conflict — payment '" ++ spelled ++ "' was modified concurrently")
    (some (.object [("paymentId", .string spelled), ("expectedVersion", .number (.ofNat version))]))

/-- The errors that a request is refused with, by what has been done for it. -/
inductive Refuses (site : Deployment) : Obs → List Deed → JsError → Prop
  | busy {request : PostRequest} {key path : String} (hasKey : orNull request.idempotencyKey = some key) :
    Refuses site (.posted request)
      [.found (redisKey key) (.processing path (hashBody site request.body.json))] (.app (idempotencyConflictError key))
  | missing {spelled : String} {p : Uuid} (reads : Uuid.parse spelled = some p) :
    Refuses site (.cancelling spelled) [.payment none] (notFoundError "Payment" spelled)
  | unfit {spelled : String} {row : Payment} (reads : Uuid.parse spelled = some row.id)
    (status : row.status ≠ .created ∧ row.status ≠ .pending) :
    Refuses site (.cancelling spelled) [.payment (some row)] (conflictError (unfitMessage row.status))
  | raced {spelled : String} {row : Payment} (reads : Uuid.parse spelled = some row.id)
    (fit : row.status = .created ∨ row.status = .pending) :
    Refuses site (.cancelling spelled) [.refused, .payment (some row)] (movedOnError spelled row.version)
  | forged {payload : Json} {signature : String}
    (forged : verifyWebhookSignature site (Json.stringify none payload) signature = .ok false) :
    Refuses site (.webhook payload (some signature)) [] (unauthorizedError "Invalid webhook signature")
  | locked {payload : Json} {signature : Option String} (signed : Signed site payload signature) :
    Refuses site (.webhook payload signature) [.busy (webhookLockKey payload)]
      (lockAcquisitionError (webhookLockKey payload))

/-- Why a webhook is ignored: its event is known, or its payment is not or does not wait for it. -/
inductive Ignores (payload : Json) : List Deed → Prop
  | duplicate {event : WebhookEvent} (delivered : payload.field "eventId" = some (.string event.eventId)) :
    Ignores payload [.event event]
  | unknown {p : Uuid} (names : namedPayment payload = .ok p) : Ignores payload [.payment none]
  | unfit {row : Payment} (names : namedPayment payload = .ok row.id)
    (status : isValidStateTransition row.status (webhookTarget payload) = false) : Ignores payload [.payment (some row)]

/-- What a request is answered, by what has been done for it. -/
inductive Promised (site : Deployment) : Obs → List Deed → Nat → ResponseBody → Prop
  | created {request : PostRequest} {row : Payment} {before : List Deed} (pending : row.status = .pending)
    (key : row.idempotencyKey = orNull request.idempotencyKey) (overlooked : Overlooked before) :
    Promised site (.posted request) (.moved row :: before) 201 (.payment (toPaymentResponse row) createdMessage)
  | replayed {request : PostRequest} {key path : String} {code : Nat} {body : ResponseBody}
    (hasKey : orNull request.idempotencyKey = some key) :
    Promised site (.posted request)
      [.found (redisKey key) (.completed path (hashBody site request.body.json) code body)] code body
  | reused {request : PostRequest} {key : String} {record : IdempotencyRecord}
    (hasKey : orNull request.idempotencyKey = some key)
    (differs : record.requestBodyHash ≠ hashBody site request.body.json) :
    Promised site (.posted request) [.found (redisKey key) record] 422 keyReuseBody
  | cancelled {spelled : String} {old row : Payment} (reads : Uuid.parse spelled = some row.id) (id : old.id = row.id)
    (fit : old.status = .created ∨ old.status = .pending) (status : row.status = .cancelled) :
    Promised site (.cancelling spelled) [.moved row, .payment (some old)] 200
      (.payment (toPaymentResponse row) "Payment cancelled successfully")
  | unsigned {payload : Json} {signature : Option String} (missing : truthy signature = false) :
    Promised site (.webhook payload signature) [] 401
      (.error "MISSING_SIGNATURE" "X-Webhook-Signature header is required" none)
  | processed {payload : Json} {signature : Option String} {old row : Payment}
    (signed : Signed site payload signature) (names : namedPayment payload = .ok row.id) (id : old.id = row.id)
    (fit : old.status = .processing) (status : row.status = webhookTarget payload) :
    Promised site (.webhook payload signature) [.moved row, .payment (some old)] 200
      (.received "Webhook processed successfully")
  | ignored {payload : Json} {signature : Option String} {ds : List Deed} (signed : Signed site payload signature)
    (ignores : Ignores payload ds) :
    Promised site (.webhook payload signature) ds 200
      (.received "Webhook ignored (invalid state transition or duplicate)")
  | refused {a : Obs} {ds : List Deed} {error : AppError} (refuses : Refuses site a ds (.app error)) :
    Promised site a ds error.statusCode (.error error.code error.message error.details)
  | failed {a : Obs} {ds : List Deed} {message : String} (requests : a.requests = true) (broken : Broken site a ds)
    (hidden : site.nodeEnv ≠ some "development" → message = "An unexpected error occurred") :
    Promised site a ds 500 (.error "INTERNAL_ERROR" message none)

/-- An answer of a handler under the key, to a body with that hash: a payment that it has created, or that
    something went wrong. -/
inductive Concludes (site : Deployment) (w : World) (key : String) : String → Nat → ResponseBody → Prop
  | created {t : Nat} {request : PostRequest} {row : Payment} (posted : (t, .posted request) ∈ w.trace)
    (hasKey : orNull request.idempotencyKey = some key) (moved : .moved row ∈ deeds (w.history t)) :
    Concludes site w key (hashBody site request.body.json) 201 (.payment (toPaymentResponse row) createdMessage)
  | failed {hash message : String}
    (hidden : site.nodeEnv ≠ some "development" → message = "An unexpected error occurred") :
    Concludes site w key hash 500 (.error "INTERNAL_ERROR" message none)

/-- A request that has not been answered. -/
def Open (h : List Obs) : Prop := ∀ a, h.getLast? = some a → a.requests = true → Unanswered (deeds h)

/-- A request for which no payment has been moved yet. -/
def Begins (h : List Obs) : Prop := ∀ a, h.getLast? = some a → a.requests = true → movedRows (deeds h) = []

/-- What a thread has to do with the calls that its client hears of. -/
def Entitled (site : Deployment) (t : Nat) (w : World) : Call → Prop
  | .respond code body => ∃ a, (w.history t).getLast? = some a ∧ Promised site a (deeds (w.history t)) code body
  | .transaction body => Begins (w.history t) ∧ ∀ request, (w.history t).getLast? = some (.posted request) →
    ∃ id, body = createPaymentInTx site id request.body request.idempotencyKey
  | .recordSetNx _ record _ => ∃ path hash, record = .processing path hash
  | .recordSet key record _ => ∃ k path hash code body, key = redisKey k ∧ record = .completed path hash code body ∧
    Concludes site w k hash code body
  | _ => True

/-- A request makes no call after its answer. -/
def Answering (site : Deployment) (t : Nat) (w : World) (c : Call) : Prop :=
  Open (w.history t) ∧ Entitled site t w c

/-- The history begins with that note and has those deeds. -/
structure Standing (a : Obs) (ds : List Deed) (h : List Obs) : Prop where
  first : h.getLast? = some a
  deeds : deeds h = ds

variable {site : Deployment} {α β : Type} {t u n : Nat} {w w' : World} {c : Call} {choice : Choice} {a : Obs}
  {ds new : List Deed} {notes : List Obs} {key hash : String} {code : Nat} {body : ResponseBody}

theorem Standing.took (held : Standing a ds (w.history t)) (took : Took t w w' notes) :
    Standing a (PaymentModel.deeds notes ++ ds) (w'.history t) := by
  obtain ⟨first, deeds⟩ := held
  constructor
  · rw [took.own, List.getLast?_append, first]
    rfl
  · rw [took.own, deeds_append, deeds]

theorem Concludes.later (concludes : Concludes site w key hash code body) (grown : w.trace <:+ w'.trace) :
    Concludes site w' key hash code body := by
  cases concludes with
  | created posted hasKey moved =>
    obtain ⟨commit, committed, returned⟩ := mem_deeds_moved.mp moved
    refine .created (grown.subset posted) hasKey (mem_deeds_moved.mpr ⟨commit, ?_, returned⟩)
    exact (World.history_suffix grown _).subset committed
  | failed hidden => exact .failed hidden

/-- The contract of the routes: a request is answered once, as its deeds entitle it to be. -/
def answering (site : Deployment) : Contract (system site) where
  issues := Answering site
  rely t w w' := w'.history t = w.history t ∧ w.trace <:+ w'.trace
  fresh t w := w.history t = []
  final t w := ∀ a, (w.history t).getLast? = some a → a.requests = true →
    ∃ code body ds, deeds (w.history t) = .answered code body :: ds
  rely_refl _ _ := ⟨rfl, List.suffix_rfl⟩
  rely_trans first second := ⟨second.1.trans first.1, first.2.trans second.2⟩
  fresh_rely fresh moved := moved.1.trans fresh
  call_rely := by
    intro t u w c choice outcome w' _ performed other
    obtain ⟨notes, took, _⟩ := perform_does performed
    exact ⟨took.other other, took.grows⟩
  event_rely := by
    intro t n e w w' started occurred other
    exact ⟨(occur_rely occurred other).own, (occur_rely occurred other).trace⟩

/-- Program `p` of a request that began with `a` takes its deeds from `ds` to where it ends. -/
def Serves (site : Deployment) (t : Nat) (a : Obs) (ds : List Deed) (p : Promise α) (ok : α → List Deed → Prop)
    (err : JsError → List Deed → Prop) : Prop :=
  ∀ w, Standing a ds (w.history t) → (answering site).Safe t p
    (fun value w => ∃ ds, ok value ds ∧ Standing a ds (w.history t))
    (fun e w => ∃ ds, err e ds ∧ Standing a ds (w.history t)) w

/-- The calls that no client hears of, and that reject only when the connection is lost. -/
def Call.plain : Call → Bool
  | .statement _ | .recordSetNx .. | .recordSet .. | .gatewayReceive _ => false
  | c => !c.speaks

namespace Serves

variable {p : Promise α} {ok ok' : α → List Deed → Prop} {err err' : JsError → List Deed → Prop}

theorem pure {value : α} (returns : ok value ds) : Serves site t a ds (Pure.pure value) ok err := by
  intro w held
  refine Contract.Safe.pure fun w' later => ⟨ds, returns, ?_⟩
  rw [later.1]
  exact held

theorem throw {e : JsError} (throws : err e ds) : Serves site t a ds (MonadExcept.throw e : Promise α) ok err := by
  intro w held
  refine Contract.Safe.throw fun w' later => ⟨ds, throws, ?_⟩
  rw [later.1]
  exact held

theorem weaken (serves : Serves site t a ds p ok' err') (returns : ∀ value ds, ok' value ds → ok value ds)
    (throws : ∀ e ds, err' e ds → err e ds) : Serves site t a ds p ok err := by
  intro w held
  exact (serves w held).weaken (fun value _ ⟨ds, returned, held⟩ => ⟨ds, returns value ds returned, held⟩)
    fun e _ ⟨ds, thrown, held⟩ => ⟨ds, throws e ds thrown, held⟩

theorem bind {f : α → Promise β} {ok : β → List Deed → Prop} (first : Serves site t a ds p ok' err)
    (rest : ∀ value ds', ok' value ds' → Serves site t a ds' (f value) ok err) :
    Serves site t a ds (p >>= f) ok err := by
  intro w held
  exact Contract.Safe.bind ((first w held).weaken
    (fun value w ⟨ds, returned, held⟩ => rest value ds returned w held) fun _ _ thrown => thrown)

theorem tryCatch {f : JsError → Promise α} (body : Serves site t a ds p ok err')
    (handler : ∀ e ds', err' e ds' → Serves site t a ds' (f e) ok err) :
    Serves site t a ds (MonadExcept.tryCatch p f) ok err := by
  intro w held
  exact Contract.Safe.tryCatch ((body w held).weaken (fun _ _ returned => returned)
    fun e w ⟨ds, thrown, held⟩ => handler e ds thrown w held)

theorem ensure {cleanup : Promise Unit} (body : Serves site t a ds p ok' err')
    (cleans : ∀ value ds', ok' value ds' → Serves site t a ds' cleanup (fun _ => ok value) err)
    (rethrows : ∀ e ds', err' e ds' → Serves site t a ds' cleanup (fun _ => err e) err) :
    Serves site t a ds (p.ensure cleanup) ok err := by
  intro w held
  exact Contract.Safe.ensure ((body w held).weaken
    (fun value w ⟨ds, returned, held⟩ => cleans value ds returned w held)
    fun e w ⟨ds, thrown, held⟩ => rethrows e ds thrown w held)

theorem ask {ok : c.Answer → List Deed → Prop} (unanswered : Unanswered ds)
    (entitled : ∀ w, Standing a ds (w.history t) → Entitled site t w c)
    (answers : ∀ w w' outcome new, Does w w' c outcome new → match outcome with
      | .ok value => ok value (new ++ ds)
      | .error e => err e (new ++ ds)) : Serves site t a ds (PaymentModel.ask c) ok err := by
  intro w held
  refine Contract.Safe.ask fun w₁ before => ?_
  have held : Standing a ds (w₁.history t) := by
    rw [before.1]
    exact held
  refine ⟨⟨fun _ _ _ => held.deeds ▸ unanswered, entitled w₁ held⟩, ?_⟩
  intro choice outcome w₂ performed w₃ after
  obtain ⟨notes, took, does, _⟩ := perform_does performed
  have here : Standing a (deeds notes ++ ds) (w₃.history t) := by
    rw [after.1]
    exact held.took took
  have answered := answers _ _ outcome _ does
  cases outcome with
  | ok value => exact ⟨_, answered, here⟩
  | error e => exact ⟨_, answered, here⟩

theorem plain (plain : c.plain = true) (unanswered : Unanswered ds) (throws : err World.connectionLost (.lost :: ds)) :
    Serves site t a ds (PaymentModel.ask c) (fun _ ds' => ds' = ds) err := by
  refine ask unanswered ?_ ?_
  · intro w _
    cases c with
    | transaction | recordSetNx | recordSet | respond => cases plain
    | _ => trivial
  · intro w w' outcome new does
    cases does with
    | returned silent value => exact rfl
    | failed => exact throws
    | refusedUnheard commands => cases c <;> cases commands <;> cases plain
    | thrown | refused | rejected | moved | unheard | read | known | unknown | locked | busy | found | absent
    | answered => cases plain

theorem read {place : ReadSite} {p : Uuid} (unanswered : Unanswered ds)
    (throws : err World.connectionLost (.lost :: ds)) :
    Serves site t a ds (PaymentModel.ask (.paymentFindUnique place p))
      (fun found ds' => ds' = .payment found :: ds ∧ ∀ row ∈ found, row.id = p) err := by
  refine ask unanswered (fun _ _ => trivial) ?_
  intro w w' outcome new does
  cases does with
  | read => exact ⟨rfl, fun row found => payment_id found⟩
  | failed => exact throws
  | returned silent => cases silent
  | refusedUnheard commands => cases commands

end Serves

end PaymentModel
