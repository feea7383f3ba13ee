import PaymentSystem.Model.World

namespace PaymentModel

open Async

variable {α : Type}

def paymentLockKey (paymentId : String) : String := "payment:lock:" ++ paymentId

/-- `SET key token EX ttl NX`; a token when the key was free. -/
def acquireLock (key : String) (ttlMs : Rat) : Promise (Option String) := do
  let token ← ask .generateId
  let ttlSeconds := (ttlMs / 1000).ceil
  let acquired ← ask (.lockSet key token.text ttlSeconds)
  pure (if acquired then some token.text else none)

/-- Compare-and-delete: only the token that holds the lock releases it. -/
def releaseLock (key token : String) : Promise Bool := ask (.lockRelease key token)

def withLock (key : String) (ttlMs : Rat) (fn : Promise α) : Promise α := do
  match ← acquireLock key ttlMs with
  | none => throw (lockAcquisitionError key)
  | some token => fn.ensure (do let _ ← releaseLock key token)

end PaymentModel
