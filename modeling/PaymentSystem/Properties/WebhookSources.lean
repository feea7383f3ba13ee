import PaymentSystem.Proof.CallNotes
import PaymentSystem.Proof.Lawful

namespace PaymentModel

open Async

/-- The delivery carries a signature that was made with the secret for its payload. -/
def Signed (site : Deployment) (payload : Json) (signature : Option String) : Prop :=
  ∃ text, signature = some text ∧ text ≠ "" ∧ verifyWebhookSignature site (Json.stringify none payload) text = .ok true

/-- The call that answers the request. -/
def IsAnswer (c : Call) : Prop := ∃ code body, c = .respond code body

/-- A thread that handles an unsigned delivery does no more than answer it. -/
def Dismisses (site : Deployment) (t : Nat) (p : Promise Unit) (w : World) : Prop :=
  ∀ payload signature, .webhook payload signature ∈ w.history t → ¬Signed site payload signature →
    p.All IsAnswer ∧ ∀ o ∈ w.history t, o = .webhook payload signature ∨ ∃ code body, o = .responded code body

variable {site : Deployment} {R : Condition} {t : Nat} {w w' : World} {c : Call} {payload : Json}
  {signature : Option String} {pool : Pool calls JsError World}

theorem CallNote.not_webhook : ¬CallNote c w (.webhook payload signature) := by
  intro note
  cases note with
  | noted choice noted => cases noted

theorem handleGatewayWebhook_dismisses (unsigned : ¬Signed site payload signature) :
    (handleGatewayWebhook site payload signature).All IsAnswer := by
  have answer : ∀ code body, Program.All IsAnswer (originalJson code body) := fun code body => .ask ⟨code, body, rfl⟩
  cases signature with
  | none => exact answer _ _
  | some text =>
    unfold handleGatewayWebhook
    dsimp only
    split
    · exact answer _ _
    · rename_i nonempty
      refine .tryCatch (.bind ?_ fun _ => answer _ _) fun e => by cases e <;> exact answer _ _
      unfold processWebhook
      split
      · exact .throw _
      · exact .throw _
      · rename_i verified
        exact (unsigned ⟨text, rfl, nonempty, verified⟩).elim

theorem dismisses_starts {n : Nat} {e : Event} {started : List (Promise Unit)}
    (occurred : occur site n e w = some (w', started)) (fresh : ∀ t, n ≤ t → w.history t = []) (i : Nat)
    (p : Promise Unit) (found : started[i]? = some p) : Dismisses site (n + i) p w' := by
  intro payload signature delivered unsigned
  obtain ⟨_, same | ⟨o, noted, single⟩⟩ := occur_note occurred
  · rw [World.history_congr same, fresh _ (by omega)] at delivered
    cases delivered
  · obtain rfl : i = 0 := by
      have := (List.getElem?_eq_some_iff.mp found).1
      omega
    have own : w'.history n = [o] := by
      rw [World.history_cons_self noted, fresh n (Nat.le_refl _)]
    rw [Nat.add_zero, own] at delivered ⊢
    cases List.mem_singleton.mp delivered
    cases e with
    | webhook payload' signature' =>
      cases occurred
      cases noted
      cases List.mem_singleton.mp (List.mem_of_getElem? found)
      exact ⟨handleGatewayWebhook_dismisses unsigned, by simp⟩
    | post | cancel =>
      cases occurred
      cases noted
    | deliverProcess | deliverRetry =>
      obtain ⟨queue, _, same⟩ := Option.map_eq_some_iff.mp occurred
      cases same
      cases noted
    | stallProcess | stallRetry | retryDelayElapsed =>
      obtain ⟨queue, _, same⟩ := Option.map_eq_some_iff.mp occurred
      cases same
      cases found
    | expireLock | expireRecord =>
      cases occurred
      cases found

/-- Only webhooks that the gateway has signed are stored, and a delivery without its signature gets nothing
    but an answer: it leaves no trace in the store, in Redis or in a queue. -/
theorem webhooks_authentic (reached : Reached site R pool) :
    (∀ event ∈ pool.world.db.webhookEvents.rows, event.Authentic site) ∧
    ∀ t payload signature, (t, .webhook payload signature) ∈ pool.world.trace → ¬Signed site payload signature →
      ∀ o ∈ pool.world.history t, o = .webhook payload signature ∨ ∃ code body, o = .responded code body := by
  constructor
  · obtain ⟨received, rows, accepted⟩ := ((ledger site).reached (ledger_starts site) reached).webhookEvents
    intro event member
    rw [rows] at member
    exact accepted event member
  · intro t payload signature delivered unsigned
    have tracks := (conduct site).each (conduct_starts site) (fresh_start site) (Dismisses site) dismisses_starts
      ?_ ?_ ?_ ?_ reached
    · have delivered := World.mem_history.mpr delivered
      cases found : pool.threads[t]? with
      | some p => exact (tracks t p found payload signature delivered unsigned).2
      | none =>
        have new := ((conduct site).keeps (conduct_starts site) (fresh_start site) reached).fresh t
          (List.getElem?_eq_none_iff.mp found)
        have new : pool.world.history t = [] := new
        rw [new] at delivered
        cases delivered
    · intro t c rest choice outcome w w' held issued performed payload signature delivered unsigned
      have before : .webhook payload signature ∈ w.history t :=
        (perform_notes performed delivered).resolve_right CallNote.not_webhook
      obtain ⟨answers, notes⟩ := held payload signature before unsigned
      refine ⟨answers.2 outcome, fun o member => ?_⟩
      obtain ⟨code, body, rfl⟩ := answers.1
      cases performed
      rw [World.history_log_self] at member
      rcases List.mem_cons.mp member with rfl | old
      · exact .inr ⟨code, body, rfl⟩
      · exact notes o old
    · intro t c rest w held payload signature delivered unsigned
      exact (held payload signature delivered unsigned).imp_left And.right
    · intro t c w fresh payload signature delivered
      have fresh : w.history t = [] := fresh
      rw [fresh] at delivered
      cases delivered
    · intro t p w w' held moved payload signature delivered unsigned
      rw [moved.own] at delivered ⊢
      exact held payload signature delivered unsigned

theorem webhooks_authentic_sample : ∃ (pool : Pool calls JsError World) (event : WebhookEvent),
    Reached sampleSite .free pool ∧ event ∈ pool.world.db.webhookEvents.rows ∧ event.Authentic sampleSite := by
  obtain ⟨pool, reached, shown⟩ := reached_of_run sampleSite .free
    (creation ++ signedWebhook 1 'b' "success" none ++ acts 1 [{}, {}, {}, {}])
    (fun pool => !pool.world.db.webhookEvents.rows.isEmpty) (by decide +kernel)
  obtain ⟨event, member⟩ := List.exists_mem_of_ne_nil pool.world.db.webhookEvents.rows (by simpa using shown)
  exact ⟨pool, event, reached, member, (webhooks_authentic reached).1 event member⟩

end PaymentModel
