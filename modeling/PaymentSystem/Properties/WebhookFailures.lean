import PaymentSystem.Proof.WebhookCalls

namespace PaymentModel

open Async

variable {site : Deployment} {t : Nat} {w w' : World} {payload : Json} {signature : String} {choices : List Choice}
  {outcome : Except JsError WebhookResult}

/-- The write of the webhook takes effect, and the call does not hear of it or does not release its lock. -/
def FailsAfterWrite (site : Deployment) (w : World) (payload : Json) (signature : String) (choices : List Choice) :
    Prop :=
  ∃ eventId path, Proceeds site w payload signature choices eventId path ∧
    path.Can w.db payload signature eventId choices ∧ faultAt choices path.writeAt ≠ .before ∧
    (faultAt choices path.writeAt = .after ∨ ¬path.Released choices)

theorem RecordsOne.ne {db db' : Db} (records : RecordsOne payload signature db db') : ¬db.SameLedger db' := by
  obtain ⟨record, _, _, rows⟩ := records
  intro same
  rw [same.webhookEvents] at rows
  exact List.cons_ne_nil record [] (List.append_right_eq_self.mp rows.symm)

theorem WebhookRun.failed_iff (run : WebhookRun site w payload signature choices outcome w') :
    ((∃ e, outcome = .error e) → w.db.SameLedger w'.db) ↔ ¬FailsAfterWrite site w payload signature choices := by
  cases run with
  | stops refused same =>
    constructor
    · rintro _ ⟨eventId, path, proceeds, _⟩
      exact refused eventId path proceeds
    · rintro _ _
      rw [same]
      exact ⟨rfl, rfl, rfl⟩
  | @writes _ eventId path _ proceeds written =>
    constructor
    · rintro unchanged ⟨other, path', proceeds', can, kept, lost⟩
      obtain ⟨rfl, rfl⟩ := proceeds.unique proceeds'
      have threw : ∃ e, outcome = .error e := by
        cases outcome with
        | error e => exact ⟨e, rfl⟩
        | ok result =>
          obtain ⟨_, quiet, released⟩ := written.answers.mp ⟨result, rfl⟩
          rcases lost with unheard | unreleased
          · rw [quiet] at unheard
            cases unheard
          · exact (unreleased released).elim
      exact (written.takes can kept).one.ne (unchanged threw)
    · rintro heard ⟨e, rfl⟩
      rw [written.stays]
      · exact ⟨rfl, rfl, rfl⟩
      · rintro ⟨can, kept⟩
        have unanswered : ¬(path.Can w.db payload signature eventId choices ∧
            faultAt choices path.writeAt = .none ∧ path.Released choices) := by
          rw [← written.answers]
          rintro ⟨_, is⟩
          cases is
        apply heard
        refine ⟨eventId, path, proceeds, can, kept, ?_⟩
        cases fault : faultAt choices path.writeAt with
        | none => exact .inr fun released => unanswered ⟨can, fault, released⟩
        | before => exact (kept fault).elim
        | after => exact .inl rfl

/-- A webhook call that throws leaves the tables as they were, unless it fails after its write. -/
theorem failed_webhook_iff
    (ran : (system site).execute t (processWebhook site payload signature) w choices = some (outcome, w')) :
    ((∃ e, outcome = .error e) → w.db.SameLedger w'.db) ↔ ¬FailsAfterWrite site w payload signature choices :=
  (solo_processWebhook.execute ran).failed_iff

/-- The call that delivers the sample webhook, with the faults of its commit and of the release of its lock. -/
def settlingChoices (commit release : Fault) : List Choice :=
  [{}, { uuid := sampleId 'c' }, {}, {}, {}, { fault := commit }, { fault := release }]

def settleSample (commit release : Fault) : Option (Except JsError WebhookResult × World) :=
  (system sampleSite).execute 0 (processWebhook sampleSite (sampleWebhook "success" none)
    (generateWebhookSignature sampleSite (Json.stringify none (sampleWebhook "success" none)))) processingWorld
    (settlingChoices commit release)

theorem settleSample_proceeds (commit release : Fault) : Proceeds sampleSite processingWorld
    (sampleWebhook "success" none)
    (generateWebhookSignature sampleSite (Json.stringify none (sampleWebhook "success" none)))
    (settlingChoices commit release) "evt_1" .processed :=
  .processed ⟨verifyWebhookSignature_own _, rfl, by decide, rfl⟩ ⟨rfl, rfl, rfl, rfl, rfl⟩ rfl rfl

/-- The commit fails before it takes effect: the call throws, and nothing has changed. -/
theorem failed_webhook_iff_rolled_back : ∃ e w', settleSample .before .none = some (.error e, w') ∧
    processingWorld.db.SameLedger w'.db := by
  have ends : (settleSample .before .none).any (fun result => !result.1.isOk) = true := by decide +kernel
  obtain ⟨⟨outcome, w'⟩, ran, threw⟩ := (Option.any_eq_true _ _).mp ends
  cases outcome with
  | ok result => cases threw
  | error e =>
    refine ⟨e, w', ran, (failed_webhook_iff ran).mpr ?_ ⟨e, rfl⟩⟩
    rintro ⟨_, path, proceeds, _, kept, _⟩
    obtain ⟨_, rfl⟩ := (settleSample_proceeds .before .none).unique proceeds
    exact kept rfl

/-- Only the release of the lock fails: the call throws, and the payment is settled and the event recorded. -/
theorem failed_webhook_settles : ∃ e w', settleSample .none .before = some (.error e, w') ∧
    (∃ row, w'.payment (sampleId '0') = some row ∧ row.status = .success) ∧
    w'.db.webhookEvents.rows.length = 1 ∧ ¬processingWorld.db.SameLedger w'.db := by
  have ends : (settleSample .none .before).any (fun result => !result.1.isOk &&
      ((result.2.payment (sampleId '0')).any fun row => row.status = .success) &&
      result.2.db.webhookEvents.rows.length = 1) = true := by decide +kernel
  obtain ⟨⟨outcome, w'⟩, ran, shown⟩ := (Option.any_eq_true _ _).mp ends
  obtain ⟨shown, recorded⟩ := Bool.and_eq_true_iff.mp shown
  obtain ⟨threw, settled⟩ := Bool.and_eq_true_iff.mp shown
  obtain ⟨row, found, success⟩ := (Option.any_eq_true _ _).mp settled
  have one : w'.db.webhookEvents.rows.length = 1 := of_decide_eq_true recorded
  cases outcome with
  | ok result => cases threw
  | error e =>
    refine ⟨e, w', ran, ⟨row, found, of_decide_eq_true success⟩, one, fun same => ?_⟩
    rw [same.webhookEvents] at one
    cases one

end PaymentModel
