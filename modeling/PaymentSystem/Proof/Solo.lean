import PaymentSystem.Async.Execution
import PaymentSystem.Proof.Attempts

namespace PaymentModel

open Async

def choiceAt (choices : List Choice) (n : Nat) : Choice := choices.getD n {}

/-- Whether the `n`th call of a program fails. -/
def faultAt (choices : List Choice) (n : Nat) : Fault := (choiceAt choices n).fault

def SameQueues (w w' : World) : Prop := w'.processQueue = w.processQueue ∧ w'.retryQueue = w.retryQueue

/-- The database and the queues are as they were. -/
structure Untouched (w w' : World) : Prop where
  db : w'.db = w.db
  queues : SameQueues w w'

variable {site : Deployment} {t : Nat} {w w' : World} {p : Uuid} {α : Type}

/-- The service with thread `t` only. -/
abbrev solo (site : Deployment) (t : Nat) : Setting (system site) := .solo (system site) t

theorem SameQueues.trans {w₁ w₂ w₃ : World} (first : SameQueues w₁ w₂) (second : SameQueues w₂ w₃) :
    SameQueues w₁ w₃ := ⟨second.1.trans first.1, second.2.trans first.2⟩

theorem Untouched.trans {w₁ w₂ w₃ : World} (first : Untouched w₁ w₂) (second : Untouched w₂ w₃) : Untouched w₁ w₃ :=
  ⟨second.db.trans first.db, first.queues.trans second.queues⟩

theorem perform_queues {c : Call} {choice : Choice} {outcome : Except JsError c.Answer}
    (performed : perform t c choice w = some (outcome, w')) (other : c.queues = false) : SameQueues w w' := by
  have same : (w'.processQueue, w'.retryQueue) = (w.processQueue, w.retryQueue) := by
    apply perform_frame performed fun w => (w.processQueue, w.retryQueue)
    · exact fun _ _ => rfl
    · exact fun _ _ _ => rfl
    · exact fun _ _ _ => rfl
    · exact fun _ _ _ => rfl
    · exact fun queues => absurd (queues.symm.trans other) (by decide)
  exact Prod.mk.inj same

theorem perform_untouched {c : Call} {choice : Choice} {outcome : Except JsError c.Answer}
    (performed : perform t c choice w = some (outcome, w')) (reads : c.writes = false) (other : c.queues = false) :
    Untouched w w' := ⟨perform_db performed reads, perform_queues performed other⟩

theorem solo_ask {c : Call} {post : List Choice → Except JsError c.Answer → World → Prop}
    (ends : ∀ choice outcome w', perform t c choice w = some (outcome, w') → post [choice] outcome w') :
    (solo site t).Ends (ask c) post w := by
  apply Setting.Ends.ask
  rintro w₁ rfl choice outcome w₂ _ performed final rfl
  exact ends choice outcome _ performed

theorem solo_pure {value : α} {post : List Choice → Except JsError α → World → Prop} (ends : post [] (.ok value) w) :
    (solo site t).Ends (pure value) post w := by
  apply Setting.Ends.pure
  rintro w' rfl
  exact ends

/-- A call that only looks something up in the store. -/
theorem solo_read {c : Call} {answer : c.Answer} {note : Option Obs}
    {post : List Choice → Except JsError c.Answer → World → Prop}
    (reads : ∀ choice, perform t c choice w = some (w.remote t choice.fault (.ok answer) w note))
    (finds : ∀ choice w', choice.fault = .none → Untouched w w' → w'.locks = w.locks → post [choice] (.ok answer) w')
    (fails : ∀ choice w', choice.fault ≠ .none → Untouched w w' → w'.locks = w.locks →
      post [choice] (.error World.connectionLost) w') : (solo site t).Ends (ask c) post w := by
  apply solo_ask
  intro choice outcome w' performed
  rw [reads] at performed
  have ended := Option.some.inj performed
  have locks : w'.locks = w.locks := World.remote_frame ended World.locks (fun _ _ => rfl) rfl
  have kept : Untouched w w' := by
    refine ⟨World.remote_frame ended World.db (fun _ _ => rfl) rfl, ?_, ?_⟩
    · exact World.remote_frame ended World.processQueue (fun _ _ => rfl) rfl
    · exact World.remote_frame ended World.retryQueue (fun _ _ => rfl) rfl
  rcases World.remote_cases ended with ⟨fault, rfl, _⟩ | ⟨fault, rfl, _⟩ | ⟨fault, rfl, _⟩
  · exact finds choice w' fault kept locks
  · exact fails choice w' (by simp [fault]) kept locks
  · exact fails choice w' (by simp [fault]) kept locks

theorem solo_find {place : ReadSite} {post : List Choice → Except JsError (Option Payment) → World → Prop}
    (finds : ∀ choice w', choice.fault = .none → Untouched w w' → post [choice] (.ok (w.payment p)) w')
    (fails : ∀ choice w', choice.fault ≠ .none → Untouched w w' → post [choice] (.error World.connectionLost) w') :
    (solo site t).Ends (ask (.paymentFindUnique place p)) post w :=
  solo_read (fun _ => rfl) (fun choice w' fault kept _ => finds choice w' fault kept)
    fun choice w' fault kept _ => fails choice w' fault kept

/-- A lock that is taken or out of reach is refused; else the body runs under it, and an error of the release
    replaces its outcome. -/
theorem solo_withLock {key : String} {ttlMs : Rat} {fn : Promise α}
    {post : List Choice → Except JsError α → World → Prop}
    (refused : ∀ id lock e w', w.locks key ≠ none ∨ lock.fault ≠ .none → w'.db = w.db → post [id, lock] (.error e) w')
    (body : ∀ id lock w₁, w.locks key = none → lock.fault = .none → w₁.db = w.db →
      (solo site t).Ends fn (fun choices outcome w₂ => ∀ release w₃, w₃.db = w₂.db →
        (release.fault = .none → post (id :: lock :: (choices ++ [release])) outcome w₃) ∧
        (release.fault ≠ .none → ∀ e, post (id :: lock :: (choices ++ [release])) (.error e) w₃)) w₁) :
    (solo site t).Ends (withLock key ttlMs fn) post w := by
  apply Setting.Ends.bind
  apply Setting.Ends.bind
  apply solo_ask
  intro id token w₁ performed
  have db : w₁.db = w.db := perform_db performed rfl
  simp only [perform] at performed
  split at performed <;> cases performed
  have locks : (w.log t (.uuid id.uuid)).locks key = w.locks key := rfl
  apply Setting.Ends.bind
  apply solo_ask
  intro lock outcome w₂ performed
  have db : w₂.db = w.db := (perform_db performed rfl).trans db
  simp only [perform, locks] at performed
  cases free : w.locks key with
  | some holder =>
    simp only [free] at performed
    have taken : w.locks key ≠ none ∨ lock.fault ≠ .none := .inl (by rw [free]; exact Option.some_ne_none holder)
    rcases World.remote_cases (Option.some.inj performed) with ⟨_, rfl, _⟩ | ⟨_, rfl, _⟩ | ⟨_, rfl, _⟩
    · apply solo_pure
      exact Setting.Ends.throw fun w' same => same ▸ refused id lock _ w₂ taken db
    · exact refused id lock _ w₂ taken db
    · exact refused id lock _ w₂ taken db
  | none =>
    simp only [free] at performed
    rcases World.remote_cases (Option.some.inj performed) with ⟨fault, rfl, _⟩ | ⟨fault, rfl, _⟩ | ⟨fault, rfl, _⟩
    · apply solo_pure
      apply Setting.Ends.ensure
      apply (body id lock w₂ free fault db).weaken
      intro choices outcome w₃ ends
      apply Setting.Ends.bind
      apply solo_ask
      intro release released w₄ performed
      obtain ⟨quiet, threw⟩ := ends release w₄ (perform_db performed rfl)
      rcases lockRelease_answer performed with ⟨releases, value, rfl⟩ | ⟨fault, e, rfl⟩
      · exact solo_pure (quiet releases)
      · exact threw fault e
    · exact refused id lock _ w₂ (.inr (by simp [fault])) db
    · exact refused id lock _ w₂ (.inr (by simp [fault])) db

/-- A transaction by itself: it is rejected and changes nothing, it takes effect and is answered, or it
    takes effect and its answer is lost. -/
theorem solo_transaction {body : Tx Payment} {post : List Choice → Except JsError Payment → World → Prop}
    (rejects : ∀ choice e w', ((∃ e, body choice.now w.db = .error e) ∨ choice.fault = .before) → Untouched w w' →
      post [choice] (.error e) w')
    (takes : ∀ choice row db' w', body choice.now w.db = .ok (row, db') → choice.fault = .none → w'.db = db' →
      SameQueues w w' → post [choice] (.ok row) w')
    (unheard : ∀ choice row db' e w', body choice.now w.db = .ok (row, db') → choice.fault = .after → w'.db = db' →
      SameQueues w w' → post [choice] (.error e) w') :
    (solo site t).Ends (ask (.transaction body)) post w := by
  apply solo_ask
  intro choice outcome w' performed
  have queues : SameQueues w w' := perform_queues performed rfl
  have database := Option.some.inj performed
  cases ran : body choice.now w.db with
  | error e =>
    obtain ⟨same, ⟨e', rfl⟩, _⟩ := World.database_rejected ran database
    exact rejects choice e' w' (.inl ⟨e, ran⟩) ⟨same, queues⟩
  | ok result =>
    obtain ⟨row, db'⟩ := result
    have effect := World.database_takes ran database
    have answer := World.database_answer ran database
    cases fault : choice.fault with
    | none =>
      rw [fault, if_pos rfl] at answer
      rw [fault, if_neg (by decide)] at effect
      rw [answer]
      exact takes choice row db' w' ran fault effect queues
    | before =>
      rw [fault, if_neg (by decide)] at answer
      rw [fault, if_pos rfl] at effect
      rw [answer]
      exact rejects choice _ w' (.inr fault) ⟨effect, queues⟩
    | after =>
      rw [fault, if_neg (by decide)] at answer
      rw [fault, if_neg (by decide)] at effect
      rw [answer]
      exact unheard choice row db' _ w' ran fault effect queues

end PaymentModel
