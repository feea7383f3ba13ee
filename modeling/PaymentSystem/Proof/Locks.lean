import PaymentSystem.Proof.Runs

namespace PaymentModel

open Async

/-- A thread with this history is inside `withLock` for that key. -/
def Holds (h : List Obs) (key token : String) : Prop := .locked key token ∈ h ∧ .unlocked key token ∉ h

/-- Ids are new when they are generated, and a thread locks with an id of its own. -/
structure Tokens (w : World) : Prop where
  single : ∀ t u id, (t, .uuid id) ∈ w.trace → (u, .uuid id) ∈ w.trace → t = u
  own : ∀ t key token, (t, .locked key token) ∈ w.trace → ∃ id : Uuid, id.text = token ∧ (t, .uuid id) ∈ w.trace

/-- No lock expires while the thread that has taken it is inside `withLock`. -/
def LocksLast (R : Condition) : Prop :=
  ∀ w key, R.event w (.expireLock key) = true → ∀ t token, Holds (w.history t) key token → w.locks key ≠ some token

/-- If the webhook is correctly signed, it spells the payment that it names as the database does. -/
def SpelledAsStored (site : Deployment) (payload : Json) (signature : String) : Prop :=
  verifyWebhookSignature site (Json.stringify none payload) signature = .ok true →
    ∀ p, namedPayment payload = .ok p → payload.field "paymentId" = some (.string p.text)

/-- No correctly signed webhook is delivered that spells its payment otherwise. -/
def StoredSpelling (site : Deployment) (R : Condition) : Prop :=
  ∀ w payload signature, R.event w (.webhook payload (some signature)) = true → SpelledAsStored site payload signature

/-- The history has no such webhook. -/
def Spelled (site : Deployment) (h : List Obs) : Prop :=
  ∀ payload signature, .webhook payload (some signature) ∈ h → SpelledAsStored site payload signature

/-- Whoever is inside `withLock` has the lock. -/
structure Locking (w : World) : Prop where
  tokens : Tokens w
  locked : ∀ t key token, Holds (w.history t) key token → w.locks key = some token

variable {site : Deployment} {R : Condition} {t u : Nat} {w w' : World} {key token token' : String} {p : Uuid}
  {h : List Obs} {o : Obs} {processing failed old : Payment} {event : PaymentEvent} {result : GatewayResult}
  {errorCode : Option String}

theorem Holds.cons (holds : Holds h key token) (inside : o ≠ .unlocked key token) : Holds (o :: h) key token :=
  ⟨List.mem_cons_of_mem _ holds.1, fun member =>
    (List.mem_cons.mp member).elim (fun is => inside is.symm) holds.2⟩

theorem Holds.tail (holds : Holds (o :: h) key token) (before : o ≠ .locked key token) : Holds h key token :=
  ⟨(List.mem_cons.mp holds.1).resolve_left fun is => before is.symm, fun member =>
    holds.2 (List.mem_cons_of_mem _ member)⟩

theorem Working.holds (working : Working p h) : ∃ token, Holds h (paymentLockKey p) token := by
  obtain ⟨token, rfl⟩ := working
  exact ⟨token, by simp, by simp⟩

theorem Entered.holds (entered : Entered p processing h) : ∃ token, Holds h (paymentLockKey p) token := by
  obtain ⟨working⟩ := entered
  obtain ⟨token, holds⟩ := working.holds
  exact ⟨token, (holds.cons (by simp)).cons (by simp)⟩

theorem Attempted.holds (attempted : Attempted p processing result h) :
    ∃ token, Holds h (paymentLockKey p) token := by
  cases attempted with
  | refused entered =>
    obtain ⟨token, holds⟩ := entered.holds
    exact ⟨token, holds.cons (by simp)⟩
  | answered entered =>
    obtain ⟨token, holds⟩ := entered.holds
    exact ⟨token, (holds.cons (by simp)).cons (by simp)⟩

theorem Recorded.holds (recorded : Recorded p processing result h) :
    ∃ token, Holds h (paymentLockKey p) token := by
  obtain ⟨attempted, _⟩ := recorded
  obtain ⟨token, holds⟩ := attempted.holds
  exact ⟨token, holds.cons (by simp)⟩

theorem Failed.holds (rejected : Failed p errorCode failed h) : ∃ token, Holds h (paymentLockKey p) token := by
  obtain ⟨recorded⟩ := rejected
  obtain ⟨token, holds⟩ := recorded.holds
  exact ⟨token, holds.cons (by simp)⟩

theorem SpelledAsStored.lockKey {payload : Json} {signature : String} (stored : SpelledAsStored site payload signature)
    (signed : verifyWebhookSignature site (Json.stringify none payload) signature = .ok true)
    (names : namedPayment payload = .ok p) : webhookLockKey payload = paymentLockKey p := by
  rw [webhookLockKey, stored signed p names]
  rfl

theorem Spelled.step {w' : World} (spelled : ∀ t, Spelled site (w.history t)) (stored : StoredSpelling site R)
    (step : Step site R t w w') (u : Nat) : Spelled site (w'.history u) := by
  intro payload signature member
  rcases step.history u with same | ⟨o, rfl, trace, grown⟩
  · exact spelled u payload signature (same ▸ member)
  · rw [grown] at member
    rcases List.mem_cons.mp member with rfl | before
    · cases step.adds trace with
      | arrive arrives admitted =>
        cases arrives
        exact stored _ _ _ admitted
      | note _ _ noted => cases noted
    · exact spelled _ payload signature before

/-- A payment in `PROCESSING` is moved on from inside its lock only, by those who spell it as it is stored. -/
theorem Cause.holds (cause : Cause site w t p old event) (spelled : Spelled site (w.history t))
    (processing : old.status = .processing) : ∃ token, Holds (w.history t) (paymentLockKey p) token := by
  cases cause with
  | succeed recorded | fail recorded => exact recorded.holds
  | giveUp own rejected =>
    obtain ⟨token, holds⟩ := rejected.holds
    rw [own]
    exact ⟨token, holds.cons (by simp)⟩
  | settle own names _ _ _ _ signed =>
    rw [own] at spelled ⊢
    rw [← (spelled _ _ (List.mem_of_getLast? rfl)).lockKey signed names]
    exact ⟨_, List.mem_cons_of_mem _ (List.mem_cons_self ..), by simp⟩
  | cancel _ _ _ valid =>
    rw [processing] at valid
    cases valid
  | enter _ _ _ status | permanentlyFail _ _ status | schedule _ _ _ _ _ status | retry _ _ _ status =>
    rw [processing] at status
    cases status

theorem Step.uuid (step : Step site R t w w') {id : Uuid} (trace : w'.trace = (t, .uuid id) :: w.trace) :
    ∀ u, (u, .uuid id) ∉ w.trace := by
  cases step.adds trace with
  | note _ _ noted =>
    cases noted with
    | uuid fresh => exact fresh
  | arrive arrives => cases arrives

/-- A lock is taken when it is free, with the id just generated. -/
theorem Step.locked (step : Step site R t w w') (trace : w'.trace = (t, .locked key token) :: w.trace) :
    (∃ id : Uuid, id.text = token ∧ (t, .uuid id) ∈ w.trace) ∧ w.locks key = none ∧
      w' = (w.setLock key (some token)).log t (.locked key token) := by
  cases step.adds trace with
  | lock issued free after =>
    cases issued with
    | lockSet own =>
      have generated := World.mem_history.mp (own ▸ List.mem_cons_self ..)
      exact ⟨⟨_, rfl, generated⟩, free, after⟩
  | note _ _ noted => cases noted
  | arrive arrives => cases arrives

theorem Tokens.step (tokens : Tokens w) (step : Step site R t w w') : Tokens w' := by
  rcases step.trace with same | ⟨o, same⟩
  · exact ⟨same ▸ tokens.single, same ▸ tokens.own⟩
  · constructor <;> rw [same]
    · intro u v id member member'
      rcases List.mem_cons.mp member with new | before <;> rcases List.mem_cons.mp member' with new' | before'
      · cases new
        cases new'
        rfl
      · cases new
        exact (step.uuid same v before').elim
      · cases new'
        exact (step.uuid same u before).elim
      · exact tokens.single u v id before before'
    · intro u key token member
      rcases List.mem_cons.mp member with new | before
      · cases new
        obtain ⟨id, text, generated⟩ := (step.locked same).1
        exact ⟨id, text, List.mem_cons_of_mem _ generated⟩
      · obtain ⟨id, text, generated⟩ := tokens.own u key token before
        exact ⟨id, text, List.mem_cons_of_mem _ generated⟩

theorem Tokens.same (tokens : Tokens w) (locked : .locked key token ∈ w.history t)
    (other : .locked key token ∈ w.history u) : t = u := by
  obtain ⟨id, text, generated⟩ := tokens.own t key token (World.mem_history.mp locked)
  obtain ⟨id', text', generated'⟩ := tokens.own u key token (World.mem_history.mp other)
  obtain rfl := Uuid.ext_text (text.trans text'.symm)
  exact tokens.single t u id generated generated'

theorem Locking.same (locking : Locking w) (holds : Holds (w.history t) key token)
    (other : Holds (w.history u) key token') : t = u := by
  have locked := locking.locked t key token holds
  rw [locking.locked u key token' other] at locked
  cases locked
  exact locking.tokens.same holds.1 other.1

/-- A step that takes no lock brings nobody into one. -/
theorem Holds.before (holds : Holds (w'.history u) key token) (step : Step site R t w w')
    (idle : w'.trace ≠ (t, .locked key token) :: w.trace) : Holds (w.history u) key token := by
  rcases step.history u with same | ⟨o, rfl, trace, grown⟩
  · rwa [← same]
  · rw [grown] at holds
    refine holds.tail ?_
    rintro rfl
    exact idle trace

theorem Locking.step (locking : Locking w) (last : LocksLast R) (step : Step site R t w w') : Locking w' := by
  refine ⟨locking.tokens.step step, ?_⟩
  intro u key token holds
  by_cases taken : w'.trace = (t, .locked key token) :: w.trace
  · obtain ⟨_, _, rfl⟩ := step.locked taken
    simp [World.setLock]
  · have before := holds.before step taken
    have locked := locking.locked u key token before
    cases step with
    | lock _ free | orphan _ free =>
      simp only [World.locks_log, World.setLock, Function.update_apply]
      split
      · rename_i same
        rw [← same, locked] at free
        cases free
      · exact locked
    | unlock own held has =>
      simp only [World.setLock, Function.update_apply]
      split
      · rename_i same
        subst same
        rw [locked] at has
        cases has
        obtain rfl := locking.tokens.same before.1 (own ▸ List.mem_cons_of_mem _ held)
        exact (before.2 (own ▸ List.mem_cons_self ..)).elim
      · exact locked
    | expireLock admitted =>
      simp only [World.setLock, Function.update_apply]
      split
      · rename_i same
        subst same
        exact (last w _ admitted u token before locked).elim
      · exact locked
    | note | fault | transaction | statement | enqueue | enqueueRetry | processFinished | retryFinished | claim
    | store | expireRecord | arrive | deliverProcess | deliverRetry | stallProcess | stallRetry | elapse =>
      exact locked

theorem Locking.initial : Locking {} where
  tokens := ⟨by simp, by simp⟩
  locked := by simp [Holds, World.history, historyOf]

end PaymentModel
