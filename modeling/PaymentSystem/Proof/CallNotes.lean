import PaymentSystem.Proof.Steps

namespace PaymentModel

open Async

/-- The notes that a call may take. -/
inductive CallNote (c : Call) (w : World) : Obs → Prop
  | noted (choice : Choice) {o : Obs} (noted : Notes c choice w o) : CallNote c w o
  | fault : CallNote c w .fault
  | committed {commit : Commit} : CallNote c w (.committed commit)
  | locked {key token : String} {ttl : Int} (is : c = .lockSet key token ttl) (free : w.locks key = none) :
    CallNote c w (.locked key token)
  | enqueued {job : ProcessJob} : CallNote c w (.enqueued job)
  | retryEnqueued {job : RetryJob} : CallNote c w (.retryEnqueued job)
  | claimed {key : String} : CallNote c w (.claim key true)

variable {t : Nat} {w w' : World} {c : Call} {choice : Choice} {o : Obs} {key token : String} {p : Uuid}

theorem CallNote.locked_free (note : CallNote c w (.locked key token)) :
    ∃ ttl, c = .lockSet key token ttl ∧ w.locks key = none := by
  cases note with
  | noted choice noted => cases noted
  | locked is free => exact ⟨_, is, free⟩

theorem CallNote.responded {code : Nat} {body : ResponseBody} (note : CallNote c w (.responded code body)) :
    c = .respond code body := by
  cases note with
  | noted choice noted =>
    cases noted
    rfl

theorem CallNote.not_posted {request : PostRequest} : ¬CallNote c w (.posted request) := by
  intro note
  cases note with
  | noted choice noted => cases noted

theorem mem_remote {α : Type} {fault : Fault} {answer outcome : Except JsError α} {base effect : World}
    {note : Option Obs} (h : base.remote t fault answer effect note = (outcome, w')) (member : o ∈ w'.history t)
    (kept : ∀ o ∈ base.history t, o ∈ w.history t ∨ CallNote c w o)
    (same : ∀ o ∈ effect.history t, o ∈ w.history t ∨ CallNote c w o)
    (noted : ∀ o, note = some o → CallNote c w o) : o ∈ w.history t ∨ CallNote c w o := by
  rcases World.remote_cases h with ⟨_, _, rfl⟩ | ⟨_, _, rfl⟩ | ⟨_, _, rfl⟩
  · rw [World.history_noted] at member
    rcases List.mem_append.mp member with new | old
    · exact .inr (noted o (Option.mem_toList.mp new))
    · exact same o old
  · rw [World.history_log_self] at member
    rcases List.mem_cons.mp member with rfl | old
    · exact .inr .fault
    · exact kept o old
  · rw [World.history_log_self] at member
    rcases List.mem_cons.mp member with rfl | old
    · exact .inr .fault
    · exact same o old

theorem mem_log {o' : Obs} (note : CallNote c w o') (member : o ∈ (w'.log t o').history t)
    (same : w'.trace = w.trace) : o ∈ w.history t ∨ CallNote c w o := by
  rw [World.history_log_self, World.history_congr same] at member
  rcases List.mem_cons.mp member with rfl | old
  · exact .inr note
  · exact .inl old

theorem mem_database {α : Type} {body : Tx α} {row : α → Option Payment} {outcome : Except JsError α}
    (h : w.database t choice body row = (outcome, w')) (member : o ∈ w'.history t)
    (refused : ∀ e, body choice.now w.db = .error e → CallNote c w .rolledBack) :
    o ∈ w.history t ∨ CallNote c w o := by
  rcases World.database_cases h with ⟨value, db, _, h⟩ | ⟨e, ran, h⟩
  · exact mem_remote h member (fun _ => .inl) (fun o member => mem_log .committed member rfl) (by simp)
  · exact mem_remote h member (fun _ => .inl) (fun o member => mem_log (refused e ran) member rfl) (by simp)

/-- What a call adds to the history of its thread are notes of the call. -/
theorem perform_notes {outcome : Except JsError c.Answer} (performed : perform t c choice w = some (outcome, w'))
    (member : o ∈ w'.history t) : o ∈ w.history t ∨ CallNote c w o := by
  have kept : ∀ {effect : World}, effect.trace = w.trace →
      ∀ o ∈ effect.history t, o ∈ w.history t ∨ CallNote c w o :=
    fun same o member => .inl (World.history_congr same t ▸ member)
  cases c with
  | generateId =>
    simp only [perform] at performed
    split at performed
    · cases performed
    · rename_i fresh
      cases performed
      refine mem_log (.noted choice (.uuid fun u used => fresh ?_)) member rfl
      exact List.any_eq_true.mpr ⟨_, used, by simp⟩
  | dateNow =>
    cases performed
    exact .inl member
  | mathRandom =>
    simp only [perform] at performed
    split at performed <;> cases performed
    exact .inl member
  | lockSet key token ttl =>
    simp only [perform] at performed
    split at performed
    · rename_i holder held
      refine mem_remote (Option.some.inj performed) member (fun _ => .inl) (kept rfl) ?_
      rintro _ ⟨⟩
      exact .noted choice (.lockBusy held)
    · rename_i free
      refine mem_remote (Option.some.inj performed) member (fun _ => .inl) (kept rfl) ?_
      rintro _ ⟨⟩
      exact .locked rfl free
  | lockRelease key token =>
    have released : ∀ {effect : World}, effect.trace = (w.log t (.unlocked key token)).trace →
        ∀ o ∈ effect.history t, o ∈ w.history t ∨ CallNote (.lockRelease key token) w o := by
      intro effect same o member
      rw [World.history_congr same] at member
      exact mem_log (.noted choice .unlocked) member rfl
    simp only [perform] at performed
    split at performed <;>
      exact mem_remote (Option.some.inj performed) member (released rfl) (released rfl) (by simp)
  | paymentFindUnique place p =>
    refine mem_remote (Option.some.inj performed) member (fun _ => .inl) (kept rfl) ?_
    rintro _ ⟨⟩
    exact .noted choice .read
  | webhookEventFindUnique eventId =>
    refine mem_remote (Option.some.inj performed) member (fun _ => .inl) (kept rfl) fun o is => ?_
    obtain ⟨event, found, rfl⟩ := Option.map_eq_some_iff.mp is
    exact .noted choice (.eventFound found)
  | transaction body =>
    exact mem_database (Option.some.inj performed) member fun e ran => .noted choice (.rolledBack ran)
  | statement body => exact mem_database (Option.some.inj performed) member fun e ran => .noted choice (.refused ran)
  | processQueueAdd job =>
    exact mem_remote (Option.some.inj performed) member (fun _ => .inl)
      (fun o member => mem_log .enqueued member rfl) (by simp)
  | retryQueueAdd job delay =>
    exact mem_remote (Option.some.inj performed) member (fun _ => .inl)
      (fun o member => mem_log .retryEnqueued member rfl) (by simp)
  | processJobFinished job success | retryJobFinished job success =>
    exact mem_remote (Option.some.inj performed) member (fun _ => .inl) (kept rfl) (by simp)
  | breakerAdmits p =>
    cases performed
    split at member
    · exact .inl member
    · rename_i closed
      exact mem_log (.noted choice (.breakerOpen (Bool.eq_false_iff.mpr closed))) member rfl
  | gatewaySend request =>
    cases performed
    exact mem_log (.noted choice .called) member rfl
  | gatewayReceive p =>
    simp only [perform] at performed
    split at performed <;> cases performed <;> exact mem_log (.noted choice .answered) member rfl
  | recordGet key =>
    refine mem_remote (Option.some.inj performed) member (fun _ => .inl) (kept rfl) ?_
    rintro _ ⟨⟩
    exact .noted choice .recordRead
  | recordSetNx key record ttl =>
    simp only [perform] at performed
    split at performed
    · rename_i present found
      refine mem_remote (Option.some.inj performed) member (fun _ => .inl) (fun o member => ?_) (by simp)
      exact mem_log (.noted choice (.claimLost found)) member rfl
    · refine mem_remote (Option.some.inj performed) member (fun _ => .inl) (fun o member => ?_) (by simp)
      exact mem_log .claimed member rfl
  | recordSet key record ttl =>
    exact mem_remote (Option.some.inj performed) member (fun _ => .inl) (kept rfl) (by simp)
  | next key =>
    cases performed
    exact mem_log (.noted choice .admitted) member rfl
  | respond code body =>
    cases performed
    exact mem_log (.noted choice .responded) member rfl

end PaymentModel
