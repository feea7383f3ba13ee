import PaymentSystem.Model.Routes
import PaymentSystem.Model.Worker

namespace PaymentModel

open Async

variable (site : Deployment)

/-- What sets the system in motion from outside: requests, deliveries of queued jobs, and the
    passing of time. A stalled job is handed out again while its first run may go on. -/
inductive Event where
  | post (request : PostRequest)
  | cancel (paymentId : String)
  | webhook (payload : Json) (signature : Option String)
  | deliverProcess (job : ProcessJob)
  | deliverRetry (job : RetryJob)
  | stallProcess (job : ProcessJob) (run : Nat)
  | stallRetry (job : RetryJob) (run : Nat)
  | retryDelayElapsed (job : RetryJob)
  | expireLock (key : String)
  | expireRecord (key : String)

/-- The effect of an event when `n` threads have been started before. -/
def occur (n : Nat) : Event → World → Option (World × List (Promise Unit))
  | .post request, w => some (w.log n (.posted request), [postPayments site request])
  | .cancel paymentId, w => some (w.log n (.cancelling paymentId), [postCancel site paymentId])
  | .webhook payload signature, w =>
    some (w.log n (.webhook payload signature), [handleGatewayWebhook site payload signature])
  | .deliverProcess job, w =>
    (w.processQueue.take job n).map fun processQueue =>
      ({ w with processQueue }.log n (.processing job), [startProcessWorker site job])
  | .deliverRetry job, w =>
    (w.retryQueue.take job n).map fun retryQueue =>
      ({ w with retryQueue }.log n (.retrying job), [startRetryWorker job])
  | .stallProcess job run, w =>
    (w.processQueue.stall job run).map fun processQueue => ({ w with processQueue }, [])
  | .stallRetry job run, w =>
    (w.retryQueue.stall job run).map fun retryQueue => ({ w with retryQueue }, [])
  | .retryDelayElapsed job, w =>
    (w.retryQueue.elapse job).map fun retryQueue => ({ w with retryQueue }, [])
  | .expireLock key, w => some (w.setLock key none, [])
  | .expireRecord key, w => some (w.setRecord key none, [])

/-- The running service: any number of API and worker processes over one store. -/
def system : Machine calls JsError World Choice Event := ⟨perform, occur site⟩

end PaymentModel
