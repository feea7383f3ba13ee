import PaymentSystem.Proof.Causes

namespace PaymentModel

open Async

/-- What the others leave thread `t`: its own history, a longer history of all, and the payments in
    the version it has seen or a later one. -/
structure Rely (t : Nat) (w w' : World) : Prop where
  own : w'.history t = w.history t
  trace : w.trace <:+ w'.trace
  db : w.db.Extends w'.db

/-- The thread has answered with the response stored for `key`, a 409 or a 422, unless a call of its
    own failed. -/
def Answered (key : String) (h : List Obs) : Prop :=
  Obs.fault ∈ h ∨ ∃ code body, Obs.responded code body ∈ h ∧ (code = 409 ∨ code = 422 ∨
    ∃ path hash, Obs.recordRead (redisKey key) (some (.completed path hash code body)) ∈ h)

/-- A request with an idempotency key is let through to its handler or answered. -/
def Handled (h : List Obs) : Prop :=
  ∀ request key, h.getLast? = some (.posted request) → orNull request.idempotencyKey = some key →
    Obs.admitted (some key) ∈ h ∨ Answered key h

theorem Answered.of_responded {key : String} {h : List Obs} {code : Nat} {body : ResponseBody}
    (responded : Obs.responded code body ∈ h) (answer : code = 409 ∨ code = 422 ∨
      ∃ path hash, Obs.recordRead (redisKey key) (some (.completed path hash code body)) ∈ h) :
    Answered key h := .inr ⟨code, body, responded, answer⟩

variable {site : Deployment} {R : Condition} {t u : Nat} {w w' w'' : World}

theorem Rely.refl (t : Nat) (w : World) : Rely t w w := ⟨rfl, List.suffix_refl _, .refl _⟩

theorem Rely.trans (h : Rely t w w') (h' : Rely t w' w'') : Rely t w w'' :=
  ⟨h'.own.trans h.own, h.trace.trans h'.trace, h.db.trans h'.db⟩

theorem Step.grows (step : Step site R t w w') : w.trace <:+ w'.trace := by
  rcases step.trace with same | ⟨o, same⟩
  · exact same ▸ List.suffix_refl w.trace
  · exact same ▸ List.suffix_cons _ w.trace

theorem Step.rely (step : Step site R u w w') (other : t ≠ u) : Rely t w w' := by
  refine ⟨?_, step.grows, step.extends⟩
  rcases step.trace with same | ⟨o, same⟩
  · exact World.history_congr same t
  · exact World.history_cons_other same other

theorem Steps.rely (steps : Steps site R u w w') (other : t ≠ u) : Rely t w w' := by
  induction steps with
  | refl => exact .refl t w
  | tail _ step ih => exact ih.trans (step.rely other)

theorem Steps.grows (steps : Steps site R t w w') : w.trace <:+ w'.trace := by
  induction steps with
  | refl => exact List.suffix_refl _
  | tail _ step ih => exact ih.trans step.grows

theorem Steps.extends (steps : Steps site R t w w') : w.db.Extends w'.db := by
  induction steps with
  | refl => exact .refl _
  | tail _ step ih => exact ih.trans step.extends

theorem occur_note {n : Nat} {e : Event} {started : List (Promise Unit)}
    (occurred : occur site n e w = some (w', started)) :
    w'.db = w.db ∧ (w'.trace = w.trace ∨ ∃ o, w'.trace = (n, o) :: w.trace ∧ started.length = 1) := by
  cases e with
  | post | cancel | webhook =>
    cases occurred
    exact ⟨rfl, .inr ⟨_, rfl, rfl⟩⟩
  | deliverProcess | deliverRetry =>
    obtain ⟨queue, _, same⟩ := Option.map_eq_some_iff.mp occurred
    cases same
    exact ⟨rfl, .inr ⟨_, rfl, rfl⟩⟩
  | stallProcess | stallRetry | retryDelayElapsed =>
    obtain ⟨queue, _, same⟩ := Option.map_eq_some_iff.mp occurred
    cases same
    exact ⟨rfl, .inl rfl⟩
  | expireLock | expireRecord =>
    cases occurred
    exact ⟨rfl, .inl rfl⟩

theorem occur_rely {n : Nat} {e : Event} {started : List (Promise Unit)}
    (occurred : occur site n e w = some (w', started)) (other : t < n ∨ n + started.length ≤ t) :
    Rely t w w' := by
  obtain ⟨db, same | ⟨o, same, one⟩⟩ := occur_note occurred
  · exact ⟨World.history_congr same t, same ▸ List.suffix_refl w.trace, by rw [db]; exact .refl _⟩
  · have different : t ≠ n := by omega
    exact ⟨World.history_cons_other same different, by rw [same]; exact List.suffix_cons _ _,
      by rw [db]; exact .refl _⟩

/-- The contract of the payment system. -/
def conduct (site : Deployment) : Contract (system site) where
  issues := fun t w c => Issued site t w c
  rely := Rely
  fresh := fun t w => w.history t = []
  final := fun t w => Settled (w.history t) ∧ Handled (w.history t)
  rely_refl := Rely.refl
  rely_trans := Rely.trans
  fresh_rely := fun fresh moved => moved.own.trans fresh
  call_rely := fun issued performed other =>
    (perform_steps (R := .free) issued rfl performed).rely other
  event_rely := fun occurred other => occur_rely occurred other

end PaymentModel
