import PaymentSystem.Model.RetryService

namespace PaymentModel

open Async

variable (site : Deployment)

/-- The handler of the process worker: a failed run may schedule a retry and fails all the same. -/
def processWorkerHandler (job : ProcessJob) : Promise Unit :=
  tryCatch (processPayment site job.paymentId) fun error => do
    tryCatch (handleFailedProcessing site job.paymentId) fun _ => pure ()
    throw error

def retryWorkerHandler (job : RetryJob) : Promise Unit := executeRetry job.paymentId

def succeeds (handler : Promise Unit) : Promise Bool :=
  tryCatch (do handler; pure true) fun _ => pure false

/-- A delivery of a process job: the handler, then the report of its outcome to the queue. -/
def startProcessWorker (job : ProcessJob) : Promise Unit := do
  let success ← succeeds (processWorkerHandler site job)
  ask (.processJobFinished job success)

def startRetryWorker (job : RetryJob) : Promise Unit := do
  let success ← succeeds (retryWorkerHandler job)
  ask (.retryJobFinished job success)

end PaymentModel
