import PaymentSystem.Proof.Schemas
import PaymentSystem.Proof.WebhookCalls

namespace PaymentModel

open Async

/-- A payment that changes is settled as a well-formed body asks for. -/
def MovesAsAsked (formats : Formats) (payload : Json) (w w' : World) : Prop :=
  ∀ p, w'.payment p ≠ w.payment p → ∃ body row, webhookPayloadSchema formats payload = .ok body ∧
    w'.payment p = some row ∧ (row.status = .success ↔ body.status = "success") ∧
    (row.status = .failed ↔ body.status = "failed")

/-- The webhook is signed and new, it finds its payment in `PROCESSING` under a free lock, and its rows are
    committed. -/
def MovesPayment (site : Deployment) (w : World) (payload : Json) (signature : String) (choices : List Choice) : Prop :=
  ∃ eventId, Proceeds site w payload signature choices eventId .processed ∧
    Storable w.db payload signature eventId (choiceAt choices 4).now ∧ faultAt choices 5 ≠ .before

variable {site : Deployment} {formats : Formats} {t : Nat} {w w' : World} {payload : Json} {signature : String}
  {choices : List Choice} {outcome : Except JsError WebhookResult} {body : WebhookPayload}

theorem payment_of_db (same : w'.db = w.db) (p : Uuid) : w'.payment p = w.payment p := by
  rw [World.payment, World.payment, same]

theorem WebhookRun.payments (run : WebhookRun site w payload signature choices outcome w') :
    (MovesPayment site w payload signature choices ∧ RecordsSettlement payload signature w.db w'.db) ∨
      (¬MovesPayment site w payload signature choices ∧ ∀ p, w'.payment p = w.payment p) := by
  cases run with
  | stops refused same =>
    exact .inr ⟨fun ⟨eventId, proceeds, _⟩ => refused eventId _ proceeds, payment_of_db same⟩
  | @writes _ eventId path _ proceeds written =>
    by_cases effect : path.Can w.db payload signature eventId choices ∧ faultAt choices path.writeAt ≠ .before
    · have took := written.takes effect.1 effect.2
      cases path with
      | processed => exact .inl ⟨⟨eventId, proceeds, effect⟩, took⟩
      | duplicate | rejected =>
        refine .inr ⟨fun ⟨other, moves, _⟩ => ?_, fun p => ?_⟩
        · cases (proceeds.unique moves).2
        · rw [World.payment, World.payment, Db.payment, took.payments]
          rfl
    · refine .inr ⟨?_, payment_of_db (written.stays effect)⟩
      rintro ⟨other, moves, can, kept⟩
      obtain ⟨rfl, is⟩ := proceeds.unique moves
      cases is
      exact effect ⟨can, kept⟩

theorem webhookTarget_read (reads : body.Reads payload) : webhookTarget payload =
    if body.status = "success" then .success else .failed := by
  unfold webhookTarget Json.fieldIs
  rw [reads.status]
  simp

/-- A webhook call does to the payments what a well-formed body asks for, or its body is not well formed and
    moves a payment. -/
theorem webhook_body_iff
    (ran : (system site).execute t (processWebhook site payload signature) w choices = some (outcome, w')) :
    MovesAsAsked formats payload w w' ↔
      (∃ body, webhookPayloadSchema formats payload = .ok body) ∨ ¬MovesPayment site w payload signature choices := by
  rcases (solo_processWebhook.execute ran).payments with ⟨moves, records⟩ | ⟨stays, same⟩
  · obtain ⟨p, old, new, names, found, settles, payments⟩ := records.settles
    have here : w'.payment p = some new := (payments p).trans (if_pos rfl)
    constructor
    · intro asked
      have changed : w'.payment p ≠ w.payment p := by
        intro same
        have version := settles.version
        rw [here, World.payment, found] at same
        cases same
        omega
      obtain ⟨body, _, accepted, _⟩ := asked p changed
      exact .inl ⟨body, accepted⟩
    · rintro (⟨body, accepted⟩ | other)
      · intro q changed
        have is : q = p := by
          by_contra other
          exact changed ((payments q).trans (if_neg other))
        subst is
        have reads := webhookPayloadSchema_ok accepted
        have status := settles.status.trans (webhookTarget_read reads)
        refine ⟨body, new, accepted, here, ?_⟩
        rcases List.mem_pair.mp reads.listed with is | is
        · rw [status, is]
          decide
        · rw [status, is]
          decide
      · exact (other moves).elim
  · constructor
    · exact fun _ => .inr stays
    · exact fun _ p changed => (changed (same p)).elim

/-- The signed sample webhook with that status, about a payment in `PROCESSING`. -/
def deliverStatus (status : String) : Option (Except JsError WebhookResult × World) :=
  (system sampleSite).execute 0 (processWebhook sampleSite (sampleWebhook status none)
    (generateWebhookSignature sampleSite (Json.stringify none (sampleWebhook status none)))) processingWorld
    (quietChoices 'c' 5)

theorem webhook_body_iff_success : ∃ outcome w', deliverStatus "success" = some (outcome, w') ∧
    MovesAsAsked sampleFormats (sampleWebhook "success" none) processingWorld w' := by
  have ends : (deliverStatus "success").isSome = true := by decide +kernel
  obtain ⟨⟨outcome, w'⟩, ran⟩ := Option.isSome_iff_exists.mp ends
  exact ⟨outcome, w', ran, (webhook_body_iff ran).mpr (.inl ⟨_, rfl⟩)⟩

/-- The status `pending` is not one of a well-formed body, and it makes the payment `FAILED`. -/
theorem webhook_body_pending : ∃ outcome w' row, deliverStatus "pending" = some (outcome, w') ∧
    (∀ formats body, webhookPayloadSchema formats (sampleWebhook "pending" none) ≠ .ok body) ∧
    w'.payment (sampleId '0') = some row ∧ row.status = .failed ∧
    ¬MovesAsAsked sampleFormats (sampleWebhook "pending" none) processingWorld w' := by
  have ends : (deliverStatus "pending").any (fun result =>
      (result.2.payment (sampleId '0')).any fun row => row.status = .failed) = true := by decide +kernel
  obtain ⟨⟨outcome, w'⟩, ran, shown⟩ := (Option.any_eq_true _ _).mp ends
  obtain ⟨row, found, failed⟩ := (Option.any_eq_true _ _).mp shown
  have failed : row.status = .failed := of_decide_eq_true failed
  have refused (formats : Formats) (body : WebhookPayload) :
      webhookPayloadSchema formats (sampleWebhook "pending" none) ≠ .ok body := by
    intro accepted
    have reads := webhookPayloadSchema_ok accepted
    have status : "pending" = body.status := Json.string.inj (Option.some.inj reads.status)
    have listed := reads.listed
    rw [← status] at listed
    exact absurd listed (by decide)
  refine ⟨outcome, w', row, ran, refused, found, failed, fun asked => ?_⟩
  have changed : w'.payment (sampleId '0') ≠ processingWorld.payment (sampleId '0') := by
    intro same
    rw [found] at same
    cases same
    cases failed
  obtain ⟨body, _, accepted, _⟩ := asked _ changed
  exact refused sampleFormats body accepted

end PaymentModel
