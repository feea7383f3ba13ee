import PaymentSystem.Proof.CallNotes

namespace PaymentModel

open Async

/-- What a request can tell of its thread: what it has found (the record under its key, a payment or none, an
    event, a lock that is taken), the calls that were lost or refused, the payments it has moved and the answer
    it got. -/
inductive Deed where
  | found (key : String) (record : IdempotencyRecord)
  | payment (row : Option Payment)
  | event (event : WebhookEvent)
  | busy (key : String)
  | lost
  | refused
  | moved (row : Payment)
  | answered (code : Nat) (body : ResponseBody)

def Obs.deed : Obs → Option Deed
  | .recordRead key record => record.map (.found key)
  | .read _ row => some (.payment row)
  | .eventFound event => some (.event event)
  | .lockBusy key => some (.busy key)
  | .fault => some .lost
  | .rolledBack => some .refused
  | .committed commit => commit.row.map .moved
  | .responded code body => some (.answered code body)
  | _ => none

/-- The deeds of a thread, newest first. -/
def deeds (h : List Obs) : List Deed := h.filterMap Obs.deed

/-- The notes that a request begins with. -/
def Obs.requests : Obs → Bool
  | .posted _ | .cancelling _ | .webhook .. => true
  | _ => false

/-- Whether the answer to a call may be a deed. -/
def Call.speaks : Call → Bool
  | .transaction _ | .recordGet _ | .respond .. | .paymentFindUnique .. | .webhookEventFindUnique _ | .lockSet .. => true
  | _ => false

/-- Whether the database runs it. -/
def Call.commands : Call → Bool
  | .transaction _ | .statement _ => true
  | _ => false

/-- Whether a call can lose its connection. -/
def Call.remote : Call → Bool
  | .generateId | .dateNow | .mathRandom | .breakerAdmits _ | .gatewaySend _ | .gatewayReceive _ | .next _
  | .respond .. => false
  | _ => true

/-- The kinds of notes that a call may take. -/
def Call.takes : Call → Obs → Bool
  | .generateId, .uuid _ | .lockSet .., .locked .. | .lockSet .., .lockBusy _ | .lockRelease .., .unlocked .. => true
  | .paymentFindUnique .., .read .. | .webhookEventFindUnique _, .eventFound _ => true
  | .recordGet _, .recordRead .. | .recordSetNx .., .claim .. => true
  | .transaction _, .committed _ | .transaction _, .rolledBack => true
  | .statement _, .committed _ | .statement _, .rolledBack => true
  | .processQueueAdd _, .enqueued _ | .retryQueueAdd .., .retryEnqueued _ => true
  | .breakerAdmits _, .breakerOpen _ | .gatewaySend _, .gatewayCalled _ | .gatewayReceive _, .gatewayAnswered .. => true
  | .next _, .admitted _ | .respond .., .responded .. => true
  | c, .fault => c.remote
  | _, _ => false

/-- The deeds that a call adds from `w` to `w'`, by what it is answered. -/
inductive Does (w w' : World) : (c : Call) → Except JsError c.Answer → List Deed → Prop
  | returned {c : Call} (silent : c.speaks = false) (value : c.Answer) : Does w w' c (.ok value) []
  | failed {c : Call} (remote : c.remote = true) : Does w w' c (.error World.connectionLost) [.lost]
  | thrown {p : Uuid} (e : JsError) : Does w w' (.gatewayReceive p) (.error e) []
  | refused {body : Tx Unit} {now : Nat} {e : JsError} (ran : body now w.db = .error e) :
    Does w w' (.statement body) (.error e) [.refused]
  | rejected {body : Tx Payment} {now : Nat} {e : JsError} (ran : body now w.db = .error e) :
    Does w w' (.transaction body) (.error e) [.refused]
  | refusedUnheard {c : Call} (commands : c.commands = true) :
    Does w w' c (.error World.connectionLost) [.lost, .refused]
  | moved {body : Tx Payment} {now : Nat} {row : Payment} (ran : body now w.db = .ok (row, w'.db)) :
    Does w w' (.transaction body) (.ok row) [.moved row]
  | unheard {body : Tx Payment} {now : Nat} {row : Payment} (ran : body now w.db = .ok (row, w'.db)) :
    Does w w' (.transaction body) (.error World.connectionLost) [.lost, .moved row]
  | read {place : ReadSite} {p : Uuid} :
    Does w w' (.paymentFindUnique place p) (.ok (w.payment p)) [.payment (w.payment p)]
  | known {eventId : String} {event : WebhookEvent} (there : w.db.webhookEvents.find eventId = some event) :
    Does w w' (.webhookEventFindUnique eventId) (.ok (some event)) [.event event]
  | unknown {eventId : String} : Does w w' (.webhookEventFindUnique eventId) (.ok none) []
  | locked {key token : String} {ttl : Int} : Does w w' (.lockSet key token ttl) (.ok true) []
  | busy {key token : String} {ttl : Int} : Does w w' (.lockSet key token ttl) (.ok false) [.busy key]
  | found {key : String} {record : IdempotencyRecord} (there : w.records key = some record) :
    Does w w' (.recordGet key) (.ok (some record)) [.found key record]
  | absent {key : String} : Does w w' (.recordGet key) (.ok none) []
  | answered {code : Nat} {body : ResponseBody} :
    Does w w' (.respond code body) (.ok ()) [.answered code body]

/-- Between the two worlds thread `t` has taken the notes, and nobody else has. -/
def Took (t : Nat) (w w' : World) (notes : List Obs) : Prop := w'.trace = notes.map (Prod.mk t) ++ w.trace

variable {t u : Nat} {w w' effect : World} {c : Call} {choice : Choice} {notes : List Obs} {fault : Fault}

theorem deeds_append (notes h : List Obs) : deeds (notes ++ h) = deeds notes ++ deeds h := List.filterMap_append ..

theorem mem_deeds_moved {row : Payment} {h : List Obs} :
    .moved row ∈ deeds h ↔ ∃ commit, .committed commit ∈ h ∧ commit.row = some row := by
  unfold deeds
  rw [List.mem_filterMap]
  constructor
  · rintro ⟨o, member, deed⟩
    cases o with
    | committed commit =>
      obtain ⟨_, returned, same⟩ := Option.map_eq_some_iff.mp deed
      cases same
      exact ⟨commit, member, returned⟩
    | recordRead key record =>
      obtain ⟨_, _, same⟩ := Option.map_eq_some_iff.mp deed
      cases same
    | _ => cases deed
  · rintro ⟨commit, member, returned⟩
    exact ⟨_, member, by simp [Obs.deed, returned]⟩

theorem mem_deeds_answered {code : Nat} {body : ResponseBody} {h : List Obs} :
    .answered code body ∈ deeds h ↔ .responded code body ∈ h := by
  unfold deeds
  rw [List.mem_filterMap]
  constructor
  · rintro ⟨o, member, deed⟩
    cases o with
    | responded =>
      cases deed
      exact member
    | committed | recordRead =>
      obtain ⟨_, _, same⟩ := Option.map_eq_some_iff.mp deed
      cases same
    | _ => cases deed
  · intro member
    exact ⟨_, member, rfl⟩

namespace Took

theorem refl : Took t w w [] := rfl

theorem of_trace (same : w'.trace = w.trace) : Took t w w' [] := same

theorem log (took : Took t w w' notes) (o : Obs) : Took t w (w'.log t o) (o :: notes) := by
  unfold Took at took ⊢
  rw [World.trace_log, took]
  rfl

theorem own (took : Took t w w' notes) : w'.history t = notes ++ w.history t := by
  unfold World.history historyOf
  rw [took]
  simp [List.filter_append, List.filter_map, Function.comp_def]

theorem other (took : Took t w w' notes) (other : u ≠ t) : w'.history u = w.history u := by
  unfold World.history historyOf
  rw [took]
  simp [List.filter_append, List.filter_map, Function.comp_def, other.symm]

theorem grows (took : Took t w w' notes) : w.trace <:+ w'.trace := ⟨_, took.symm⟩

/-- The notes of a call to a store. -/
theorem remote {α : Type} {base : World} {answer outcome : Except JsError α} {note : Option Obs} {first : List Obs}
    (ended : base.remote t fault answer effect note = (outcome, w')) (started : Took t w base first)
    (effected : Took t w effect notes) :
    (outcome = answer ∧ Took t w w' (note.toList ++ notes)) ∨
      outcome = .error World.connectionLost ∧
        (Took t w w' (.fault :: first) ∨ Took t w w' (.fault :: notes)) := by
  rcases World.remote_cases ended with ⟨_, rfl, rfl⟩ | ⟨_, rfl, rfl⟩ | ⟨_, rfl, rfl⟩
  · refine .inl ⟨rfl, ?_⟩
    cases note with
    | none => exact effected
    | some o => exact effected.log o
  · exact .inr ⟨rfl, .inl (started.log .fault)⟩
  · exact .inr ⟨rfl, .inr (effected.log .fault)⟩

end Took

/-- No note of them begins a request. -/
def Quiet (notes : List Obs) : Prop := notes.all (fun o => !o.requests) = true

theorem Quiet.of_mem (quiet : Quiet notes) {o : Obs} (member : o ∈ notes) : o.requests = false := by
  simpa using List.all_eq_true.mp quiet o member

/-- All notes of them are of kinds that the call takes. -/
def Call.Takes (c : Call) (notes : List Obs) : Prop := notes.all c.takes = true

theorem Call.takes_requests {o : Obs} (takes : c.takes o = true) : o.requests = false := by
  cases o with
  | posted | cancelling | webhook => cases c <;> cases takes
  | _ => rfl

theorem Call.Takes.quiet (takes : c.Takes notes) : Quiet notes := by
  refine List.all_eq_true.mpr fun o member => ?_
  rw [Call.takes_requests (List.all_eq_true.mp takes o member)]
  rfl

/-- The deeds of a store call: it is answered, or lost before or after its effect. -/
theorem does_remote {base : World} {answer outcome : Except JsError c.Answer} {note : Option Obs} {first : List Obs}
    (ended : base.remote t fault answer effect note = (outcome, w')) (started : Took t w base first)
    (effected : Took t w effect notes) (answered : Does w w' c answer (deeds (note.toList ++ notes)))
    (remote : c.remote = true) (silent : deeds first = [])
    (unheard : Does w w' c (.error World.connectionLost) (.lost :: deeds notes))
    (takes : c.Takes (note.toList ++ notes)) (begun : c.Takes first) :
    ∃ notes, Took t w w' notes ∧ Does w w' c outcome (deeds notes) ∧ c.Takes notes := by
  have failed : Does w w' c (.error World.connectionLost) (.lost :: deeds first) := silent ▸ .failed remote
  have faults : ∀ {notes}, c.Takes notes → c.Takes (.fault :: notes) := by
    intro notes takes
    refine List.all_eq_true.mpr fun o member => ?_
    rcases List.mem_cons.mp member with rfl | member
    · cases c <;> first | rfl | cases remote
    · exact List.all_eq_true.mp takes o member
  rcases Took.remote ended started effected with ⟨rfl, took⟩ | ⟨rfl, took | took⟩
  · exact ⟨_, took, answered, takes⟩
  · exact ⟨_, took, failed, faults begun⟩
  · refine ⟨_, took, unheard, faults ?_⟩
    unfold Call.Takes at takes
    rw [List.all_append, Bool.and_eq_true] at takes
    exact takes.2

/-- What a call adds to the history of its thread, the deeds among it, and of which kinds it is. -/
theorem perform_does {outcome : Except JsError c.Answer} (performed : perform t c choice w = some (outcome, w')) :
    ∃ notes, Took t w w' notes ∧ Does w w' c outcome (deeds notes) ∧ c.Takes notes := by
  cases c with
  | generateId =>
    simp only [perform] at performed
    split at performed
    · cases performed
    · cases performed
      exact ⟨_, Took.refl.log _, .returned rfl _, rfl⟩
  | dateNow =>
    cases performed
    exact ⟨_, .refl, .returned rfl _, rfl⟩
  | mathRandom =>
    simp only [perform] at performed
    split at performed <;> cases performed
    exact ⟨_, .refl, .returned rfl _, rfl⟩
  | lockSet key token ttl =>
    simp only [perform] at performed
    split at performed
    · exact does_remote (Option.some.inj performed) .refl .refl .busy rfl rfl (.failed rfl) rfl rfl
    · exact does_remote (Option.some.inj performed) .refl (.of_trace rfl) .locked rfl rfl (.failed rfl) rfl rfl
  | lockRelease key token =>
    have released : Took t w (w.log t (.unlocked key token)) [.unlocked key token] := Took.refl.log _
    simp only [perform] at performed
    split at performed
    · exact does_remote (Option.some.inj performed) released released (.returned rfl _) rfl rfl (.failed rfl) rfl rfl
    · exact does_remote (Option.some.inj performed) released released (.returned rfl _) rfl rfl (.failed rfl) rfl rfl
  | paymentFindUnique place p =>
    exact does_remote (Option.some.inj performed) .refl .refl .read rfl rfl (.failed rfl) rfl rfl
  | webhookEventFindUnique eventId =>
    have ended := Option.some.inj performed
    cases found : w.db.webhookEvents.find eventId with
    | none =>
      simp only [found] at ended
      exact does_remote ended .refl .refl .unknown rfl rfl (.failed rfl) rfl rfl
    | some event =>
      simp only [found] at ended
      exact does_remote ended .refl .refl (.known found) rfl rfl (.failed rfl) rfl rfl
  | transaction body =>
    rcases World.database_cases (Option.some.inj performed) with ⟨row, db, ran, ended⟩ | ⟨e, ran, ended⟩
    · rcases World.remote_cases ended with ⟨_, rfl, rfl⟩ | ⟨_, rfl, rfl⟩ | ⟨_, rfl, rfl⟩
      · exact ⟨_, Took.refl.log _, .moved ran, rfl⟩
      · exact ⟨_, Took.refl.log _, .failed rfl, rfl⟩
      · exact ⟨_, (Took.refl.log _).log _, .unheard ran, rfl⟩
    · exact does_remote ended .refl (Took.refl.log _) (.rejected ran) rfl rfl (.refusedUnheard rfl) rfl rfl
  | statement body =>
    rcases World.database_cases (Option.some.inj performed) with ⟨_, db, ran, ended⟩ | ⟨e, ran, ended⟩
    · exact does_remote ended .refl (Took.refl.log _) (.returned rfl _) rfl rfl (.failed rfl) rfl rfl
    · exact does_remote ended .refl (Took.refl.log _) (.refused ran) rfl rfl (.refusedUnheard rfl) rfl rfl
  | processQueueAdd job =>
    exact does_remote (Option.some.inj performed) .refl (Took.refl.log _) (.returned rfl _) rfl rfl (.failed rfl) rfl rfl
  | retryQueueAdd job delay =>
    exact does_remote (Option.some.inj performed) .refl (Took.refl.log _) (.returned rfl _) rfl rfl (.failed rfl) rfl rfl
  | processJobFinished job success | retryJobFinished job success =>
    exact does_remote (Option.some.inj performed) .refl (.of_trace rfl) (.returned rfl _) rfl rfl (.failed rfl) rfl rfl
  | breakerAdmits p =>
    cases performed
    split
    · exact ⟨_, .refl, .returned rfl _, rfl⟩
    · exact ⟨_, Took.refl.log _, .returned rfl _, rfl⟩
  | gatewaySend request =>
    cases performed
    exact ⟨_, Took.refl.log _, .returned rfl _, rfl⟩
  | gatewayReceive p =>
    simp only [perform] at performed
    split at performed <;> cases performed
    · exact ⟨_, Took.refl.log _, .returned rfl _, rfl⟩
    · exact ⟨_, Took.refl.log _, .thrown _, rfl⟩
  | recordGet key =>
    refine does_remote (Option.some.inj performed) .refl .refl ?_ rfl rfl (.failed rfl) rfl rfl
    cases found : w.records key with
    | none => exact .absent
    | some record => exact .found found
  | recordSetNx key record ttl =>
    simp only [perform] at performed
    split at performed
    · exact does_remote (Option.some.inj performed) .refl (Took.refl.log _) (.returned rfl _) rfl rfl (.failed rfl) rfl rfl
    · refine does_remote (Option.some.inj performed) .refl (Took.log (.of_trace rfl) _) (.returned rfl _) rfl
        rfl (.failed rfl) rfl rfl
  | recordSet key record ttl =>
    exact does_remote (Option.some.inj performed) .refl (.of_trace rfl) (.returned rfl _) rfl rfl (.failed rfl) rfl rfl
  | next key =>
    cases performed
    exact ⟨_, Took.refl.log _, .returned rfl _, rfl⟩
  | respond code body =>
    cases performed
    exact ⟨_, Took.refl.log _, .answered, rfl⟩

end PaymentModel
