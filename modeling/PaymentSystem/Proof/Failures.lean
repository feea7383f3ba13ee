import PaymentSystem.Proof.Answers
import PaymentSystem.Proof.Orders

namespace PaymentModel

open Async

variable {site : Deployment} {R : Condition} {α β : Type} {t : Nat} {w w' : World} {a : Obs} {ds : List Deed}
  {p : Uuid} {key spelled : String} {version now : Nat} {db : Db} {e : JsError} {payload : Json} {request : PostRequest}

/-- Whatever makes the body fail is in the relation. -/
def Tx.Rejects (errors : JsError → Prop) (body : Tx α) : Prop := ∀ now db e, body now db = .error e → errors e

abbrev Tx.Internal (body : Tx α) : Prop := body.Rejects JsError.Internal

namespace Tx.Rejects

variable {errors : JsError → Prop}

theorem pure (value : α) : (Pure.pure value : Tx α).Rejects errors := by
  intro now db e failed
  cases failed

theorem throw (holds : errors e) : (MonadExcept.throw e : Tx α).Rejects errors := by
  intro now db e' failed
  cases failed
  exact holds

theorem bind {body : Tx α} {f : α → Tx β} (first : body.Rejects errors) (rest : ∀ value, (f value).Rejects errors) :
    (body >>= f).Rejects errors := by
  intro now db e failed
  rcases Tx.bind_error failed with failed | ⟨value, db', _, failed⟩
  · exact first _ _ _ failed
  · exact rest value _ _ _ failed

theorem clock {f : Nat → Tx α} (rest : ∀ now, (f now).Rejects errors) : (Tx.clock >>= f).Rejects errors :=
  fun now db e failed => rest now now db e failed

theorem read {f : Db → Tx α} (rest : ∀ db, (f db).Rejects errors) : (Tx.read >>= f).Rejects errors :=
  fun now db e failed => rest db now db e failed

theorem write {db : Db} {f : Unit → Tx α} (rest : (f ()).Rejects errors) : (Tx.write db >>= f).Rejects errors :=
  fun now _ e failed => rest now db e failed

theorem require {condition : Bool} (holds : errors e) : (Tx.require condition e).Rejects errors := by
  unfold Tx.require
  split
  · exact .pure _
  · exact .throw holds

theorem written {db : Db} : (Tx.write db).Rejects errors := by
  intro now _ e failed
  cases failed

end Tx.Rejects

theorem Tx.text_internal {value : Option String} : (Tx.text value).Internal := .require nofun

theorem Tx.jsonb_internal {value : Option Json} : (Tx.jsonb value).Internal := .require nofun

theorem Tx.varchar_internal {limit : Nat} {value : Option String} : (Tx.varchar limit value).Internal :=
  .bind Tx.text_internal fun _ => .require nofun

theorem paymentCreate_internal {data : PaymentCreateInput} : (paymentCreate data).Internal := by
  refine .clock fun now => .read fun db => .bind Tx.varchar_internal fun _ => .bind Tx.varchar_internal fun _ =>
    .bind Tx.varchar_internal fun _ => .bind Tx.text_internal fun _ => .bind Tx.varchar_internal fun _ =>
    .bind Tx.jsonb_internal fun _ => ?_
  split
  · exact .throw nofun
  · refine .bind (.require nofun) fun _ => ?_
    split
    · exact .throw nofun
    · exact .write (.pure _)

theorem paymentUpdate_internal {data : PaymentUpdateInput} : (paymentUpdate p version data).Internal := by
  refine .clock fun now => .read fun db => ?_
  split
  · exact .throw nofun
  · split
    · exact .throw nofun
    · exact .bind Tx.varchar_internal fun _ => .bind Tx.varchar_internal fun _ => .bind Tx.text_internal fun _ =>
        .write (.pure _)

theorem paymentEventCreate_internal {event : PaymentEvent} : (paymentEventCreate event).Internal :=
  .read fun _ => .bind (.require nofun) fun _ => .bind (.require nofun) fun _ => .written

theorem recordedUpdate_internal {data : PaymentUpdateInput} {event : Payment → PaymentEvent} :
    (recordedUpdate p version data event).Internal :=
  .bind paymentUpdate_internal fun _ => .bind paymentEventCreate_internal fun _ => .pure _

theorem namedPayment_internal (failed : namedPayment payload = .error e) : e.Internal := by
  unfold namedPayment at failed
  split at failed
  · split at failed <;> cases failed
    exact nofun
  · cases failed
    exact nofun

theorem createWebhookEvent_internal {signature eventId : String} {status : WebhookEventStatus} :
    (createWebhookEvent payload signature eventId status).Internal := by
  unfold createWebhookEvent
  split
  · refine .read fun db => .bind Tx.varchar_internal fun _ => .bind Tx.varchar_internal fun _ =>
      .bind Tx.jsonb_internal fun _ => .bind (.require nofun) fun _ => ?_
    split
    · exact .throw nofun
    · exact .written
  · rename_i failed
    exact .throw (namedPayment_internal failed)

theorem optionalText_internal {value : Option Json} (failed : optionalText value = .error e) : e.Internal := by
  unfold optionalText at failed
  split at failed
  · cases failed
  · split at failed <;> cases failed
    exact nofun

theorem webhookUpdate_internal {status : PaymentStatus} (failed : webhookUpdate payload status now = .error e) :
    e.Internal := by
  have bind : ∀ {α β : Type} {x : Except JsError α} {f : α → Except JsError β},
      (∀ e, x = .error e → e.Internal) → (∀ value e, f value = .error e → e.Internal) →
      ∀ e, (x >>= f) = .error e → e.Internal := by
    intro α β x f first rest e failed
    cases x with
    | error e' =>
      cases failed
      exact first _ rfl
    | ok value => exact rest value _ failed
  have text : ∀ value e, optionalText value = .error e → e.Internal := fun _ _ => optionalText_internal
  refine bind (text _) (fun reference => ?_) e failed
  dsimp only
  split
  · refine bind (text _) fun errorCode => ?_
    split
    · exact bind (text _) nofun
    · exact nofun
  · exact nofun

theorem processWebhookInTx_internal {signature eventId : String} {row : Payment} {status : PaymentStatus} :
    (processWebhookInTx p payload signature eventId row status now).Internal := by
  unfold processWebhookInTx
  split
  · rename_i failed
    exact .throw (webhookUpdate_internal failed)
  · exact .bind recordedUpdate_internal fun _ => .bind createWebhookEvent_internal fun _ => .pure _

/-- The transaction of `createPayment` fails at its insert only. -/
theorem createPaymentInTx_internal {data : CreatePaymentRequest} {key : Option String} :
    (createPaymentInTx site p data key).Internal := by
  intro now db e failed
  have whole := failed
  unfold createPaymentInTx at failed
  rcases Tx.bind_error failed with failed | ⟨created, db', put, _⟩
  · exact paymentCreate_internal _ _ _ failed
  · obtain ⟨_, _, fits, amount, rfl, unused, inserted, _⟩ := paymentCreate_ok put
    obtain ⟨_, _, ran, _⟩ :=
      createPaymentInTx_run now fits ⟨(Table.insert_some inserted).1, keyUnused_iff.mp unused⟩ amount
    cases whole.symm.trans ran

/-- A valid transition is refused for the payment that has been moved on. -/
theorem transitionStateInTx_errors {fromStatus toStatus : PaymentStatus} {data : AdditionalData}
    (valid : isValidStateTransition fromStatus toStatus = true) :
    (transitionStateInTx p fromStatus toStatus version data spelled).Rejects fun e =>
      e = movedOnError spelled version ∨ e.Internal := by
  intro now db e failed
  unfold transitionStateInTx at failed
  rw [if_pos valid] at failed
  cases ran : recordedUpdate p version (transitionUpdate toStatus data) (fun updated => {
    paymentId := p
    fromStatus := some fromStatus
    toStatus := toStatus
    eventType := .stateChange
    eventData := .transition data updated.version }) now db with
  | ok result =>
    rw [Tx.tryCatch_ok ran] at failed
    cases failed
  | error e' =>
    rw [Tx.tryCatch_error ran] at failed
    split at failed
    · cases failed
      exact .inl rfl
    · cases failed
      exact .inr (recordedUpdate_internal _ _ _ ran)

theorem verifyWebhookSignature_internal {text signature : String}
    (failed : verifyWebhookSignature site text signature = .error e) : e.Internal := by
  unfold verifyWebhookSignature at failed
  dsimp only at failed
  split at failed
  · cases failed
  · split at failed
    · cases failed
      exact nofun
    · cases failed

end PaymentModel
