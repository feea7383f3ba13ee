import PaymentSystem.Proof.Conduct

namespace PaymentModel

open Async

/-- A later world. -/
structure Grown (w w' : World) : Prop where
  trace : w.trace <:+ w'.trace
  db : w.db.Extends w'.db

variable {site : Deployment} {t : Nat} {w w' w'' : World} {h : List Obs}

theorem Grown.trans (g : Grown w w') (g' : Grown w' w'') : Grown w w'' :=
  ⟨g.trace.trans g'.trace, g.db.trans g'.db⟩

theorem Rely.grown (moved : Rely t w w') : Grown w w' := ⟨moved.trace, moved.db⟩

/-- A call of thread `t` has been rejected since it had done `h`. -/
def Threw (t : Nat) (h : List Obs) (w : World) : Prop :=
  ∃ o newer, (o = .fault ∨ o = .rolledBack) ∧ w.history t = o :: (newer ++ h)

theorem Threw.settled (threw : Threw t h w) : Settled (w.history t) := by
  obtain ⟨o, newer, is | is, own⟩ := threw
  · rw [own, is]
    trivial
  · rw [own, is]
    trivial

theorem Threw.widen {o : Obs} (threw : Threw t (o :: h) w) : Threw t h w := by
  obtain ⟨o', newer, is, own⟩ := threw
  exact ⟨o', newer ++ [o], is, by simpa using own⟩

theorem Threw.fault (own : w.history t = .fault :: h) : Threw t h w := ⟨.fault, [], .inl rfl, own⟩

theorem Threw.faultAfter {o : Obs} (own : w.history t = .fault :: o :: h) : Threw t h w :=
  ⟨.fault, [o], .inl rfl, own⟩

theorem Threw.rolledBack (own : w.history t = .rolledBack :: h) : Threw t h w :=
  ⟨.rolledBack, [], .inr rfl, own⟩

abbrev Conducts (site : Deployment) (t : Nat) {α : Type} (p : Promise α) (ok : α → World → Prop)
    (err : JsError → World → Prop) (w : World) : Prop := (conduct site).Safe t p ok err w

/-- The rule of every awaited call, for a thread that has done `h`. -/
theorem conducts_ask {c : Call} {ok : c.Answer → World → Prop} {err : JsError → World → Prop}
    (own : w.history t = h)
    (issued : ∀ w', w'.history t = h → Grown w w' → Issued site t w' c)
    (returns : ∀ choice w₁ value w₂ w₃, w₁.history t = h → Grown w w₁ → Issued site t w₁ c →
      perform t c choice w₁ = some (.ok value, w₂) →
      w₃.history t = w₂.history t → Grown w₂ w₃ → Grown w w₃ → ok value w₃)
    (throws : ∀ choice w₁ e w₂ w₃, w₁.history t = h → Grown w w₁ → Issued site t w₁ c →
      perform t c choice w₁ = some (.error e, w₂) →
      w₃.history t = w₂.history t → Grown w₂ w₃ → Grown w w₃ → err e w₃) :
    Conducts site t (ask c) ok err w := by
  refine Contract.Safe.ask ?_
  intro w₁ moved
  have own₁ : w₁.history t = h := moved.own.trans own
  have issued₁ := issued w₁ own₁ moved.grown
  refine ⟨issued₁, ?_⟩
  intro choice outcome w₂ performed w₃ later
  have steps := perform_steps (R := .free) issued₁ rfl performed
  have grown : Grown w w₂ := moved.grown.trans ⟨steps.grows, steps.extends⟩
  cases outcome with
  | ok value =>
    exact returns choice w₁ value w₂ w₃ own₁ moved.grown issued₁ performed later.own later.grown
      (grown.trans later.grown)
  | error e =>
    exact throws choice w₁ e w₂ w₃ own₁ moved.grown issued₁ performed later.own later.grown
      (grown.trans later.grown)

variable {err : JsError → World → Prop}

theorem conducts_generateId {ok : Uuid → World → Prop} (own : w.history t = h)
    (begins : Settled h ∨ ∃ job, h = [.processing job])
    (returns : ∀ id w', w'.history t = .uuid id :: h → Grown w w' → ok id w') :
    Conducts site t (ask .generateId) ok err w := by
  refine conducts_ask own (fun w' own' _ => .generateId (own' ▸ begins)) ?_ ?_
  · intro choice w₁ value w₂ w₃ own₁ _ _ performed same _ grown
    simp only [perform] at performed
    split at performed
    · cases performed
    · cases performed
      exact returns _ _ (by rw [same, World.history_log_self, own₁]) grown
  · intro choice w₁ e w₂ w₃ _ _ _ performed
    simp only [perform] at performed
    split at performed <;> cases performed

theorem conducts_dateNow {ok : Nat → World → Prop} (own : w.history t = h)
    (returns : ∀ now w', w'.history t = h → Grown w w' → ok now w') :
    Conducts site t (ask .dateNow) ok err w := by
  refine conducts_ask own (fun _ _ _ => .dateNow) ?_ ?_
  · intro choice w₁ value w₂ w₃ own₁ _ _ performed same _ grown
    cases performed
    exact returns _ _ (same.trans own₁) grown
  · intro choice w₁ e w₂ w₃ _ _ _ performed
    cases performed

theorem conducts_mathRandom {ok : Rat → World → Prop} (own : w.history t = h)
    (returns : ∀ random w', w'.history t = h → Grown w w' → ok random w') :
    Conducts site t (ask .mathRandom) ok err w := by
  refine conducts_ask own (fun _ _ _ => .mathRandom) ?_ ?_
  · intro choice w₁ value w₂ w₃ own₁ _ _ performed same _ grown
    simp only [perform] at performed
    split at performed
    · cases performed
      exact returns _ _ (same.trans own₁) grown
    · cases performed
  · intro choice w₁ e w₂ w₃ _ _ _ performed
    simp only [perform] at performed
    split at performed <;> cases performed

theorem Grown.noted (w : World) (t : Nat) (note : Option Obs) : Grown w (note.elim w (w.log t)) := by
  cases note with
  | none => exact ⟨List.suffix_refl _, .refl _⟩
  | some o => exact ⟨List.suffix_cons _ _, .refl _⟩

/-- The rule of the store calls: a call that fails has left what `base` has noted, or `effect`. -/
theorem conducts_remote {c : Call} {ok : c.Answer → World → Prop} (own : w.history t = h)
    (issued : ∀ w', w'.history t = h → Grown w w' → Issued site t w' c)
    (runs : ∀ choice w₁, w₁.history t = h → Grown w w₁ →
      ∃ (base : World) (answer : Except JsError c.Answer) (effect : World) (note : Option Obs),
      perform t c choice w₁ = some (base.remote t choice.fault answer effect note) ∧
      (∀ w', w'.history t = note.toList ++ effect.history t → Grown effect w' → Grown w w' →
        match answer with
        | .ok value => ok value w'
        | .error e => err e w') ∧
      ∀ e w', w'.history t = .fault :: base.history t ∨ w'.history t = .fault :: effect.history t →
        Grown w w' → err e w') :
    Conducts site t (ask c) ok err w := by
  have ends : ∀ choice w₁ outcome w₂ w₃, w₁.history t = h → Grown w w₁ →
      perform t c choice w₁ = some (outcome, w₂) → w₃.history t = w₂.history t → Grown w₂ w₃ → Grown w w₃ →
      match outcome with
      | .ok value => ok value w₃
      | .error e => err e w₃ := by
    intro choice w₁ outcome w₂ w₃ own₁ grown₁ performed same later grown
    obtain ⟨base, answer, effect, note, ran, answered, failed⟩ := runs choice w₁ own₁ grown₁
    rw [ran] at performed
    rcases World.remote_cases (Option.some.inj performed) with ⟨_, rfl, rfl⟩ | ⟨_, rfl, rfl⟩ | ⟨_, rfl, rfl⟩
    · have noted : w₃.history t = note.toList ++ effect.history t := by
        rw [same, World.history_noted]
      exact answered w₃ noted ((Grown.noted effect t note).trans later) grown
    · rw [World.history_log_self] at same
      exact failed _ w₃ (.inl same) grown
    · rw [World.history_log_self] at same
      exact failed _ w₃ (.inr same) grown
  apply conducts_ask own issued
  · intro choice w₁ value w₂ w₃ own₁ grown₁ _ performed same later grown
    exact ends choice w₁ (.ok value) w₂ w₃ own₁ grown₁ performed same later grown
  · intro choice w₁ e w₂ w₃ own₁ grown₁ _ performed same later grown
    exact ends choice w₁ (.error e) w₂ w₃ own₁ grown₁ performed same later grown

theorem conducts_noted {c : Call} {ok : c.Answer → World → Prop} {answer : World → c.Answer}
    {note : World → Option Obs} (own : w.history t = h)
    (issued : ∀ w', w'.history t = h → Grown w w' → Issued site t w' c)
    (reads : ∀ choice w', perform t c choice w' =
      some (w'.remote t choice.fault (.ok (answer w')) w' (note w')))
    (returns : ∀ w₁ w', Grown w w₁ → Grown w₁ w' → w'.history t = (note w₁).toList ++ h →
      ok (answer w₁) w')
    (throws : ∀ e w', Threw t h w' → Obs.fault ∈ w'.history t → Grown w w' → err e w') :
    Conducts site t (ask c) ok err w := by
  apply conducts_remote own issued
  intro choice w₁ own₁ grown₁
  refine ⟨w₁, .ok (answer w₁), w₁, note w₁, reads choice w₁, ?_, ?_⟩
  · intro w' own' later _
    rw [own₁] at own'
    exact returns w₁ w' grown₁ later own'
  · intro e w' own' grown
    rw [own₁] at own'
    have failed : w'.history t = .fault :: h := own'.elim id id
    exact throws e w' (.fault failed) (by simp [failed]) grown

/-- A row found between `w` and `w'` comes after all that was seen before. -/
structure Found (w w' : World) (p : Uuid) (row : Payment) : Prop where
  seen : Seen w'.db p row
  before : ∀ old, Seen w.db p old → Before old row

theorem conducts_read {ok : Option Payment → World → Prop} {place : ReadSite} {p : Uuid}
    (own : w.history t = h)
    (issued : ∀ w', w'.history t = h → Grown w w' → Issued site t w' (.paymentFindUnique place p))
    (returns : ∀ row w', w'.history t = .read place row :: h → (∀ r, row = some r → Found w w' p r) →
      Grown w w' → ok row w')
    (throws : ∀ e w', Threw t h w' → Grown w w' → err e w') :
    Conducts site t (ask (.paymentFindUnique place p)) ok err w := by
  refine conducts_noted own issued (fun _ _ => rfl) ?_ fun e w' threw _ => throws e w' threw
  intro w₁ w' before after own'
  refine returns _ w' own' ?_ (before.trans after)
  intro r found
  refine ⟨(Seen.of_payment found).later after.db, fun old seen => ?_⟩
  obtain ⟨current, found', before⟩ := seen.later before.db
  rw [World.payment, found'] at found
  cases found
  exact before

theorem conducts_findEvent {ok : Option WebhookEvent → World → Prop} {eventId : String}
    (own : w.history t = h) (settled : Settled h)
    (returns : ∀ event w', w'.history t = (event.map .eventFound).toList ++ h → Grown w w' → ok event w')
    (throws : ∀ e w', Threw t h w' → Grown w w' → err e w') :
    Conducts site t (ask (.webhookEventFindUnique eventId)) ok err w :=
  conducts_noted own (fun _ own' _ => .findEvent (own' ▸ settled)) (fun _ _ => rfl)
    (fun _ w' before after own' => returns _ w' own' (before.trans after))
    fun e w' threw _ => throws e w' threw

theorem conducts_recordGet {ok : Option IdempotencyRecord → World → Prop} {key : String}
    (own : w.history t = h)
    (issued : ∀ w', w'.history t = h → Grown w w' → Issued site t w' (.recordGet key))
    (returns : ∀ record w', w'.history t = .recordRead key record :: h → Grown w w' → ok record w')
    (throws : ∀ e w', Threw t h w' → Obs.fault ∈ w'.history t → Grown w w' → err e w') :
    Conducts site t (ask (.recordGet key)) ok err w :=
  conducts_noted own issued (fun _ _ => rfl)
    (fun _ w' before after own' => returns _ w' own' (before.trans after)) throws

/-- What a returned transaction leaves: its commit at the head of the history. -/
structure Ran (t : Nat) (h : List Obs) (w : World) (body : Tx Payment) (row : Payment) (commit : Commit)
    (w' : World) : Prop where
  own : w'.history t = .committed commit :: h
  returned : commit.row = some row
  grown : Grown w w'
  committed : ∃ (w₁ : World) (now : Nat) (db : Db), body now w₁.db = .ok (row, db) ∧ db.Extends w'.db ∧
    commit = w₁.added (some row) db

theorem conducts_transaction {ok : Payment → World → Prop} {body : Tx Payment} (own : w.history t = h)
    (issued : ∀ w', w'.history t = h → Grown w w' → Issued site t w' (.transaction body))
    (returns : ∀ row commit w', Ran t h w body row commit w' → ok row w')
    (throws : ∀ e w', w'.history t = .fault :: h ∨ w'.history t = .rolledBack :: h ∨
      w'.history t = .fault :: .rolledBack :: h ∨
      (∃ commit row, commit.row = some row ∧ w'.history t = .fault :: .committed commit :: h) →
      Grown w w' → err e w') : Conducts site t (ask (.transaction body)) ok err w := by
  apply conducts_remote own issued
  intro choice w₁ own₁ grown₁
  cases ran : body choice.now w₁.db with
  | ok result =>
    obtain ⟨row, db⟩ := result
    refine ⟨w₁, .ok row, w₁.commit t (some row) db, none, by simp [perform, World.database, ran], ?_, ?_⟩
    · intro w' own' later grown
      rw [World.history_commit_self, own₁] at own'
      exact returns row _ w' ⟨own', rfl, grown, w₁, _, db, ran, later.db, rfl⟩
    · intro e w' own' grown
      rw [World.history_commit_self, own₁] at own'
      rcases own' with before | after
      · exact throws e w' (.inl before) grown
      · exact throws e w' (.inr (.inr (.inr ⟨_, row, rfl, after⟩))) grown
  | error e =>
    refine ⟨w₁, .error e, w₁.log t .rolledBack, none, by simp [perform, World.database, ran], ?_, ?_⟩
    · intro w' own' _ grown
      rw [World.history_log_self, own₁] at own'
      exact throws e w' (.inr (.inl own')) grown
    · intro e' w' own' grown
      rw [World.history_log_self, own₁] at own'
      rcases own' with before | after
      · exact throws e' w' (.inl before) grown
      · exact throws e' w' (.inr (.inr (.inl after))) grown

/-- The errors of a transaction, when it does not matter which of them it is. -/
theorem threw_of_transaction (own : w.history t = .fault :: h ∨ w.history t = .rolledBack :: h ∨
    w.history t = .fault :: .rolledBack :: h ∨
    (∃ commit row, commit.row = some row ∧ w.history t = .fault :: .committed commit :: h)) : Threw t h w := by
  rcases own with own | own | own | ⟨_, _, _, own⟩
  · exact .fault own
  · exact .rolledBack own
  · exact .faultAfter own
  · exact .faultAfter own

theorem statement_notes {body : Tx Unit} {choice : Choice} {outcome : Except JsError Unit}
    (performed : perform t (.statement body) choice w = some (outcome, w')) :
    ∃ o newer, (∀ note ∈ o :: newer, Bookkeeping note) ∧ w'.history t = o :: (newer ++ w.history t) ∧
      match outcome with
      | .ok _ => newer = [] ∧ ∃ commit, o = .committed commit ∧ commit.row = none
      | .error _ => o = .fault ∨ o = .rolledBack := by
  rcases World.database_cases (Option.some.inj performed) with ⟨value, db, ran, h⟩ | ⟨e, failed, h⟩
  · rcases World.remote_cases h with ⟨_, rfl, rfl⟩ | ⟨_, rfl, rfl⟩ | ⟨_, rfl, rfl⟩
    · exact ⟨.committed (w.added none db), [], by simp [Bookkeeping, World.added], by simp, rfl, _, rfl, rfl⟩
    · exact ⟨.fault, [], by simp [Bookkeeping], by simp, .inl rfl⟩
    · exact ⟨.fault, [.committed (w.added none db)], by simp [Bookkeeping, World.added], by simp, .inl rfl⟩
  · rcases World.remote_cases h with ⟨_, rfl, rfl⟩ | ⟨_, rfl, rfl⟩ | ⟨_, rfl, rfl⟩
    · exact ⟨.rolledBack, [], by simp [Bookkeeping], by simp, .inr rfl⟩
    · exact ⟨.fault, [], by simp [Bookkeeping], by simp, .inl rfl⟩
    · exact ⟨.fault, [.rolledBack], by simp [Bookkeeping], by simp, .inl rfl⟩

theorem conducts_statement {ok : Unit → World → Prop} {body : Tx Unit} (own : w.history t = h)
    (issued : ∀ w', w'.history t = h → Grown w w' → Issued site t w' (.statement body))
    (returns : ∀ commit w', commit.row = none → w'.history t = .committed commit :: h → Grown w w' → ok () w')
    (throws : ∀ e w', Threw t h w' →
      (∃ newer, (∀ o ∈ newer, Bookkeeping o) ∧ w'.history t = newer ++ h) → Grown w w' → err e w') :
    Conducts site t (ask (.statement body)) ok err w := by
  refine conducts_ask own issued ?_ ?_
  · intro choice w₁ value w₂ w₃ own₁ _ _ performed same _ grown
    obtain ⟨o, newer, _, noted, rfl, commit, rfl, none⟩ := statement_notes performed
    refine returns commit w₃ none ?_ grown
    rw [same, noted, own₁, List.nil_append]
  · intro choice w₁ e w₂ w₃ own₁ _ _ performed same _ grown
    obtain ⟨o, newer, notes, noted, is⟩ := statement_notes performed
    have own₃ : w₃.history t = o :: (newer ++ h) := by rw [same, noted, own₁]
    exact throws e w₃ ⟨o, newer, is, own₃⟩ ⟨o :: newer, notes, own₃⟩ grown

/-- The rule of the store calls whose effect notes itself. -/
theorem conducts_effect {c : Call} {ok : c.Answer → World → Prop} (own : w.history t = h)
    (issued : ∀ w', w'.history t = h → Grown w w' → Issued site t w' c)
    (effects : ∀ choice w', ∃ answer o effect, effect.history t = o :: w'.history t ∧
      perform t c choice w' = some (w'.remote t choice.fault (.ok answer) effect none) ∧
      ∀ w'', w''.history t = o :: h → Grown w w'' → ok answer w'')
    (throws : ∀ e w', Threw t h w' → Obs.fault ∈ w'.history t → Grown w w' → err e w') :
    Conducts site t (ask c) ok err w := by
  apply conducts_remote own issued
  intro choice w₁ own₁ grown₁
  obtain ⟨answer, o, effect, noted, runs, returns⟩ := effects choice w₁
  rw [own₁] at noted
  refine ⟨w₁, .ok answer, effect, none, runs, ?_, ?_⟩
  · intro w' own' _ grown
    exact returns w' (own'.trans noted) grown
  · intro e w' own' grown
    rw [own₁, noted] at own'
    rcases own' with before | after
    · exact throws e w' (.fault before) (by simp [before]) grown
    · exact throws e w' (.faultAfter after) (by simp [after]) grown

theorem conducts_enqueueRetry {ok : Unit → World → Prop} {job : RetryJob} {delay : Int}
    (own : w.history t = h)
    (issued : ∀ w', w'.history t = h → Grown w w' → Issued site t w' (.retryQueueAdd job delay))
    (returns : ∀ w', w'.history t = .retryEnqueued job :: h → Grown w w' → ok () w')
    (throws : ∀ e w', Threw t h w' → Grown w w' → err e w') :
    Conducts site t (ask (.retryQueueAdd job delay)) ok err w :=
  conducts_effect own issued
    (fun _ w' => ⟨(), .retryEnqueued job, { w' with
      retryQueue := w'.retryQueue.addDelayed job }.log t (.retryEnqueued job), World.history_cons_self rfl,
      rfl, returns⟩)
    fun e w' threw _ => throws e w' threw

theorem conducts_enqueue {ok : Unit → World → Prop} {job : ProcessJob} (own : w.history t = h)
    (issued : ∀ w', w'.history t = h → Grown w w' → Issued site t w' (.processQueueAdd job))
    (returns : ∀ w', w'.history t = .enqueued job :: h → Grown w w' → ok () w')
    (throws : ∀ e w', w'.history t = .fault :: h ∨ w'.history t = .fault :: .enqueued job :: h →
      Grown w w' → err e w') : Conducts site t (ask (.processQueueAdd job)) ok err w := by
  apply conducts_remote own issued
  intro choice w₁ own₁ grown₁
  have noted : ({ w₁ with processQueue := w₁.processQueue.add job }.log t (.enqueued job)).history t =
      .enqueued job :: h := by
    rw [← own₁]
    exact World.history_cons_self rfl
  refine ⟨w₁, .ok (), _, none, rfl, ?_, ?_⟩
  · intro w' own' _ grown
    exact returns w' (own'.trans noted) grown
  · intro e w' own' grown
    rw [own₁, noted] at own'
    exact throws e w' own' grown

theorem conducts_recordSetNx {ok : Bool → World → Prop} {key : String} {record : IdempotencyRecord} {ttl : Rat}
    (own : w.history t = h)
    (issued : ∀ w', w'.history t = h → Grown w w' → Issued site t w' (.recordSetNx key record ttl))
    (returns : ∀ written w', w'.history t = .claim key written :: h → Grown w w' → ok written w')
    (throws : ∀ e w', Threw t h w' → Obs.fault ∈ w'.history t → Grown w w' → err e w') :
    Conducts site t (ask (.recordSetNx key record ttl)) ok err w := by
  refine conducts_effect own issued ?_ throws
  intro choice w'
  cases found : w'.records key with
  | some present =>
    refine ⟨false, .claim key false, w'.log t (.claim key false), by simp, ?_, returns false⟩
    simp only [perform, found]
  | none =>
    refine ⟨true, .claim key true, (w'.setRecord key (some record)).log t (.claim key true), ?_, ?_, returns true⟩
    · exact World.history_cons_self rfl
    · simp only [perform, found]

theorem conducts_lockSet {ok : Bool → World → Prop} {key token : String} {ttl : Int} (own : w.history t = h)
    (issued : ∀ w', w'.history t = h → Grown w w' → Issued site t w' (.lockSet key token ttl))
    (acquired : ∀ w', w'.history t = .locked key token :: h → Grown w w' → ok true w')
    (busy : ∀ w', w'.history t = .lockBusy key :: h → Grown w w' → ok false w')
    (throws : ∀ e w', Threw t h w' → Grown w w' → err e w') :
    Conducts site t (ask (.lockSet key token ttl)) ok err w := by
  apply conducts_remote own issued
  intro choice w₁ own₁ grown₁
  cases holder : w₁.locks key with
  | some other =>
    refine ⟨w₁, .ok false, w₁, some (.lockBusy key), by simp only [perform, holder], ?_, ?_⟩
    · intro w' own' _ grown
      rw [own₁] at own'
      exact busy w' own' grown
    · intro e w' own' grown
      rw [own₁] at own'
      exact throws e w' (.fault (own'.elim id id)) grown
  | none =>
    have same : (w₁.setLock key (some token)).history t = h := own₁
    refine ⟨w₁, .ok true, w₁.setLock key (some token), some (.locked key token),
      by simp only [perform, holder], ?_, ?_⟩
    · intro w' own' _ grown
      rw [same] at own'
      exact acquired w' own' grown
    · intro e w' own' grown
      rw [own₁, same] at own'
      exact throws e w' (.fault (own'.elim id id)) grown

theorem conducts_lockRelease {ok : Bool → World → Prop} {key token : String} (own : w.history t = h)
    (held : Obs.locked key token ∈ h) (settled : Settled h)
    (returns : ∀ released w', w'.history t = .unlocked key token :: h → Grown w w' → ok released w')
    (throws : ∀ e w', Threw t (.unlocked key token :: h) w' → Grown w w' → err e w') :
    Conducts site t (ask (.lockRelease key token)) ok err w := by
  apply conducts_remote own (fun w' own' _ => .lockRelease (own' ▸ held) (own' ▸ settled))
  intro choice w₁ own₁ grown₁
  have noted : (w₁.log t (.unlocked key token)).history t = .unlocked key token :: h := by
    rw [World.history_log_self, own₁]
  have ran : ∃ released effect, effect.history t = .unlocked key token :: h ∧
      perform t (.lockRelease key token) choice w₁ =
        some ((w₁.log t (.unlocked key token)).remote t choice.fault (.ok released) effect none) := by
    by_cases holds : w₁.locks key = some token
    · exact ⟨true, (w₁.log t (.unlocked key token)).setLock key none, noted, if_pos holds⟩
    · exact ⟨false, w₁.log t (.unlocked key token), noted, if_neg holds⟩
  obtain ⟨released, effect, noted', ran⟩ := ran
  refine ⟨_, .ok released, effect, none, ran, ?_, ?_⟩
  · intro w' own' _ grown
    exact returns released w' (own'.trans noted') grown
  · intro e w' own' grown
    rw [noted, noted'] at own'
    exact throws e w' (.fault (own'.elim id id)) grown

theorem conducts_finished {c : Call} {ok : c.Answer → World → Prop} (own : w.history t = h)
    (issued : ∀ w', w'.history t = h → Grown w w' → Issued site t w' c)
    (effects : ∀ choice w', ∃ answer effect, effect.trace = w'.trace ∧
      perform t c choice w' = some (w'.remote t choice.fault (.ok answer) effect none) ∧
      ∀ w'', w''.history t = h → Grown w w'' → ok answer w'')
    (throws : ∀ e w', Threw t h w' → Grown w w' → err e w') : Conducts site t (ask c) ok err w := by
  apply conducts_remote own issued
  intro choice w₁ own₁ grown₁
  obtain ⟨answer, effect, quiet, runs, returns⟩ := effects choice w₁
  have same : effect.history t = h := (World.history_congr quiet t).trans own₁
  refine ⟨w₁, .ok answer, effect, none, runs, ?_, ?_⟩
  · intro w' own' _ grown
    exact returns w' (own'.trans same) grown
  · intro e w' own' grown
    rw [own₁, same] at own'
    exact throws e w' (.fault (own'.elim id id)) grown

/-- The rule of the calls that cannot fail and note `note`. -/
theorem conducts_plain {c : Call} {ok : c.Answer → World → Prop} (answer : Choice → c.Answer)
    (note : Choice → Option Obs) (own : w.history t = h)
    (issued : ∀ w', w'.history t = h → Grown w w' → Issued site t w' c)
    (runs : ∀ choice w', perform t c choice w' = some (.ok (answer choice), (note choice).elim w' (w'.log t)))
    (returns : ∀ choice w', w'.history t = (note choice).toList ++ h → Grown w w' → ok (answer choice) w') :
    Conducts site t (ask c) ok err w := by
  apply conducts_ask own issued
  · intro choice w₁ value w₂ w₃ own₁ _ _ performed same _ grown
    rw [runs] at performed
    cases performed
    rw [World.history_noted, own₁] at same
    exact returns choice w₃ same grown
  · intro choice w₁ e w₂ w₃ _ _ _ performed
    rw [runs] at performed
    cases performed

theorem conducts_breaker {ok : Bool → World → Prop} {p : Uuid} (own : w.history t = h)
    (issued : ∀ w', w'.history t = h → Grown w w' → Issued site t w' (.breakerAdmits p))
    (admits : ∀ w', w'.history t = h → Grown w w' → ok true w')
    (refuses : ∀ w', w'.history t = .breakerOpen p :: h → Grown w w' → ok false w') :
    Conducts site t (ask (.breakerAdmits p)) ok err w := by
  refine conducts_plain Choice.admits (fun choice => if choice.admits then none else some (.breakerOpen p))
    own issued ?_ ?_
  · intro choice w'
    simp only [perform]
    cases choice.admits <;> rfl
  · intro choice w' own' grown
    cases admitted : choice.admits with
    | true => exact admits w' (by simpa [admitted] using own') grown
    | false => exact refuses w' (by simpa [admitted] using own') grown

theorem conducts_send {ok : Unit → World → Prop} {request : GatewayPaymentRequest} (own : w.history t = h)
    (issued : ∀ w', w'.history t = h → Grown w w' → Issued site t w' (.gatewaySend request))
    (returns : ∀ w', w'.history t = .gatewayCalled request.paymentId :: h → Grown w w' → ok () w') :
    Conducts site t (ask (.gatewaySend request)) ok err w :=
  conducts_plain (fun _ => ()) (fun _ => some (.gatewayCalled request.paymentId)) own issued
    (fun _ _ => rfl) (fun _ => returns)

theorem conducts_receive {ok : GatewayPaymentResponse → World → Prop} {p : Uuid} (own : w.history t = h)
    (issued : ∀ w', w'.history t = h → Grown w w' → Issued site t w' (.gatewayReceive p))
    (returns : ∀ response w', w'.history t = .gatewayAnswered p (.response response) :: h → Grown w w' →
      ok response w')
    (throws : ∀ e w', w'.history t = .gatewayAnswered p (.thrown e) :: h → Grown w w' → err e w') :
    Conducts site t (ask (.gatewayReceive p)) ok err w := by
  refine conducts_ask own issued ?_ ?_
  · intro choice w₁ value w₂ w₃ own₁ _ _ performed same _ grown
    simp only [perform] at performed
    split at performed
    · rename_i response answered
      cases performed
      exact returns _ w₃ (by rw [same, World.history_log_self, own₁, answered]) grown
    · cases performed
  · intro choice w₁ e w₂ w₃ own₁ _ _ performed same _ grown
    simp only [perform] at performed
    split at performed
    · cases performed
    · rename_i thrown answered
      cases performed
      exact throws _ w₃ (by rw [same, World.history_log_self, own₁, answered]) grown

theorem conducts_next {ok : Unit → World → Prop} {key : Option String} (own : w.history t = h)
    (issued : ∀ w', w'.history t = h → Grown w w' → Issued site t w' (.next key))
    (returns : ∀ w', w'.history t = .admitted key :: h → Grown w w' → ok () w') :
    Conducts site t (ask (.next key)) ok err w :=
  conducts_plain (fun _ => ()) (fun _ => some (.admitted key)) own issued (fun _ _ => rfl) (fun _ => returns)

theorem conducts_respond {ok : Unit → World → Prop} {code : Nat} {body : ResponseBody} (own : w.history t = h)
    (settled : Settled h)
    (returns : ∀ w', w'.history t = .responded code body :: h → Grown w w' → ok () w') :
    Conducts site t (ask (.respond code body)) ok err w :=
  conducts_plain (fun _ => ()) (fun _ => some (.responded code body)) own
    (fun _ own' _ => .respond (own' ▸ settled)) (fun _ _ => rfl) (fun _ => returns)

end PaymentModel
