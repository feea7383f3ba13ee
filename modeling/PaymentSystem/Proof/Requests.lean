import PaymentSystem.Proof.Services

namespace PaymentModel

open Async

variable {site : Deployment} {t : Nat} {w w' : World} {h : List Obs}

theorem conducts_recordWebhookEvent {payload : Json} {signature eventId : String} {status : WebhookEventStatus}
    (rests : Rests t h w) (unprocessed : status ≠ .processed) :
    Conducts site t (recordWebhookEvent payload signature eventId status) (fun _ => Rests t h)
      (fun _ => Rests t h) w := by
  have record : ∀ recorded w', Rests t h w' →
      Conducts site t (ask (.statement (createWebhookEvent payload signature recorded status)))
        (fun _ => Rests t h) (fun _ => Rests t h) w' := by
    intro recorded w' rests
    apply conducts_statement rfl (fun w'' own' _ => .recordWebhook unprocessed (own' ▸ rests.1))
    · intro commit w'' none own' _
      exact (Rests.of_own [.committed commit] own' (closed_of_silent none)).widen rests.2
    · exact fun e w'' threw _ _ => threw.rests.widen rests.2
  unfold recordWebhookEvent
  split
  · apply Contract.Safe.bind
    apply conducts_dateNow rfl
    exact fun now w' own' _ => record _ w' (rests.same own')
  · exact record _ w rests

theorem conducts_rejected {payload : Json} {signature eventId : String} {status : WebhookEventStatus}
    (rests : Rests t h w) (unprocessed : status ≠ .processed) :
    Conducts site t (do
        recordWebhookEvent payload signature eventId status
        pure WebhookResult.ignored) (fun _ => Rests t h) (fun _ => Rests t h) w := by
  apply Contract.Safe.bind
  apply (conducts_recordWebhookEvent rests unprocessed).weaken
  · exact fun _ w' rests => rests.returns
  · exact fun _ _ rests => rests

theorem conducts_processWebhookLocked {payload : Json} {token : Uuid} {signature eventId : String}
    (signed : verifyWebhookSignature site (Json.stringify none payload) signature = .ok true)
    (delivered : payload.field "eventId" = some (.string eventId))
    (own : w.history t = [.locked (webhookLockKey payload) token, .uuid token, .webhook payload (some signature)]) :
    Conducts site t (processWebhookLocked payload signature eventId)
      (fun _ => Rests t [.locked (webhookLockKey payload) token, .uuid token, .webhook payload (some signature)])
      (fun _ => Rests t [.locked (webhookLockKey payload) token, .uuid token, .webhook payload (some signature)])
      w := by
  unfold processWebhookLocked
  cases names : namedPayment payload with
  | error e => exact (Rests.of_own [] own trivial).throws
  | ok p =>
    apply Contract.Safe.bind
    apply conducts_read own (fun w' own' _ => .findWebhook own' names)
    · intro found w₁ own₁ seen₁ _
      cases found with
      | none => exact conducts_rejected (.of_own [_] own₁ trivial) (by decide)
      | some payment =>
        simp only
        split
        · exact conducts_rejected (.of_own [_] own₁ trivial) (by decide)
        · split
          · exact conducts_rejected (.of_own [_] own₁ trivial) (by decide)
          · rename_i accepted
            have valid : isValidStateTransition payment.status (webhookTarget payload) = true := by
              simpa using accepted
            apply Contract.Safe.bind
            apply conducts_dateNow own₁
            intro now w₂ own₂ grown₂
            apply Contract.Safe.bind
            apply conducts_transaction own₂ (fun w' own' grown' =>
              .settle own' names valid ((seen₁ payment rfl).seen.later (grown₂.trans grown').db) signed delivered)
            · intro settled commit w₃ ran
              obtain ⟨w₄, now', db, returned, later, is⟩ := ran.committed
              obtain ⟨old, event, version, moved, kind, _, reports⟩ := processWebhookInTx_ok names returned
              have done := moved_of_ran ran later is version moved kind
              have reported : commit.webhookEvents ≠ [] := by
                rw [is]
                exact reports.reported kind.eventType
              have leaves : settled.status ≠ .pending ∧ settled.status ≠ .retryScheduled := by
                rw [done.status]
                rcases webhookTarget_settles payload with target | target <;> rw [target] <;> decide
              have closed := closed_of_status done.returned leaves.1 leaves.2 fun _ => reported
              exact (Rests.of_own [.committed commit, _] ran.own closed).returns
            · intro e w₃ own₃ _
              exact (threw_of_transaction own₃).widen.rests
    · intro e w₁ threw _
      exact threw.rests

theorem conducts_findWebhookEvent {eventId : String} {ok : Option WebhookEvent → World → Prop}
    (own : w.history t = h) (settled : Settled h)
    (returns : ∀ existing w', w'.history t = (existing.map .eventFound).toList ++ h → Grown w w' → ok existing w') :
    Conducts site t (findWebhookEvent eventId) ok (fun _ => Rests t h) w := by
  unfold findWebhookEvent
  split
  · apply conducts_findEvent own settled returns
    exact fun e w₁ threw _ => threw.rests
  · exact (Rests.of_own [] own settled).throws

theorem conducts_processWebhook {payload : Json} {signature : String}
    (own : w.history t = [.webhook payload (some signature)]) :
    Conducts site t (processWebhook site payload signature)
      (fun _ => Rests t [.webhook payload (some signature)])
      (fun _ => Rests t [.webhook payload (some signature)]) w := by
  have rests : Rests t [.webhook payload (some signature)] w := .of_own [] own trivial
  unfold processWebhook
  split
  · exact rests.throws
  · exact rests.throws
  · rename_i signed
    split
    · rename_i eventId delivered
      apply Contract.Safe.bind
      apply conducts_findWebhookEvent own trivial
      intro existing w₁ own₁ _
      cases existing with
      | some event => exact conducts_rejected (.of_own [_] own₁ trivial) (by decide)
      | none =>
        apply conducts_withLock own₁ (.inl trivial)
        exact fun token w₂ own₂ _ => conducts_processWebhookLocked signed delivered own₂
    · exact rests.throws

theorem conducts_originalJson {code : Nat} {body : ResponseBody} (rests : Rests t h w) :
    Conducts site t (originalJson code body)
      (fun _ w' => w'.history t = .responded code body :: w.history t ∧ Rests t h w')
      (fun _ _ => False) w := by
  apply conducts_respond rfl rests.1
  exact fun w' own' _ => ⟨own', (Rests.of_own [_] own' trivial).widen rests.2⟩

theorem conducts_answer {code : Nat} {body : ResponseBody} (rests : Rests t h w) :
    Conducts site t (originalJson code body) (fun _ => Rests t h) (fun _ => Rests t h) w :=
  (conducts_originalJson rests).weaken (fun _ _ answered => answered.2) fun _ _ never => never.elim

/-- The error handler answers with the status code of an `AppError`. -/
theorem conducts_errorHandler_answers {error : JsError} (rests : Rests t h w) :
    Conducts site t (errorHandler site originalJson error)
      (fun _ w' => Rests t h w' ∧ ∃ code body, w'.history t = .responded code body :: w.history t ∧
        ∀ e, error = .app e → code = e.statusCode) (fun _ _ => False) w := by
  cases error with
  | app e =>
    refine (conducts_originalJson rests).weaken ?_ fun _ _ never => never
    intro _ w' ⟨own, rests⟩
    have status : ∀ e', JsError.app e = .app e' → e.statusCode = e'.statusCode := by
      intro e' same
      cases same
      rfl
    exact ⟨rests, _, _, own, status⟩
  | prisma | other =>
    refine (conducts_originalJson rests).weaken ?_ fun _ _ never => never
    intro _ w' ⟨own, rests⟩
    exact ⟨rests, _, _, own, by simp⟩

theorem conducts_errorHandler {error : JsError} (rests : Rests t h w) :
    Conducts site t (errorHandler site originalJson error) (fun _ => Rests t h) (fun _ => Rests t h) w :=
  (conducts_errorHandler_answers rests).weaken (fun _ _ answered => answered.1) fun _ _ never => never.elim

theorem conducts_handleGatewayWebhook {payload : Json} {signature : Option String}
    (own : w.history t = [.webhook payload signature]) :
    Conducts site t (handleGatewayWebhook site payload signature)
      (fun _ => Rests t [.webhook payload signature]) (fun _ => Rests t [.webhook payload signature]) w := by
  have rests : Rests t [.webhook payload signature] w := .of_own [] own trivial
  unfold handleGatewayWebhook
  split
  · exact conducts_answer rests
  · split
    · exact conducts_answer rests
    · apply Contract.Safe.tryCatch
      apply Contract.Safe.bind
      apply (conducts_processWebhook own).weaken
      · intro result w₁ rests
        apply (conducts_answer rests).weaken
        · exact fun _ _ rests => rests
        · exact fun _ _ rests => conducts_errorHandler rests
      · exact fun e w₁ rests => conducts_errorHandler rests

theorem conducts_cancelPayment {spelled : String} (own : w.history t = [.cancelling spelled]) :
    Conducts site t (cancelPayment spelled) (fun _ => Rests t [.cancelling spelled])
      (fun _ => Rests t [.cancelling spelled]) w := by
  unfold cancelPayment
  cases reads : Uuid.parse spelled with
  | none => exact (Rests.of_own [] own trivial).throws
  | some p =>
    apply Contract.Safe.bind
    apply conducts_read own (fun w' own' _ => .findCancel own' reads)
    · intro found w₁ own₁ seen₁ _
      cases found with
      | none => exact (Rests.of_own [_] own₁ trivial).throws
      | some payment =>
        simp only
        split
        · exact (Rests.of_own [_] own₁ trivial).throws
        · split
          · exact (Rests.of_own [_] own₁ trivial).throws
          · apply Contract.Safe.bind
            apply conducts_moves own₁ (fun w' own' grown' =>
              .cancel own' reads ((seen₁ payment rfl).seen.later grown'.db)) transitionStateInTx_ok
            · intro updated commit event w₂ _ done
              exact (Rests.of_own [.committed commit, _] done.own (done.closed (by decide))).returns
            · intro e w₂ rests
              exact rests.widen (List.suffix_cons _ _)
    · exact fun e w₁ threw _ => threw.rests

theorem conducts_postCancel {spelled : String} (own : w.history t = [.cancelling spelled]) :
    Conducts site t (postCancel site spelled) (fun _ => Rests t [.cancelling spelled])
      (fun _ => Rests t [.cancelling spelled]) w := by
  apply Contract.Safe.tryCatch
  apply Contract.Safe.bind
  apply (conducts_cancelPayment own).weaken
  · intro result w₁ rests
    apply (conducts_answer rests).weaken
    · exact fun _ _ rests => rests
    · exact fun _ _ rests => conducts_errorHandler rests
  · exact fun e w₁ rests => conducts_errorHandler rests

end PaymentModel
