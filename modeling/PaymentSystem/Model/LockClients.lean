import PaymentSystem.Model.DistributedLock

namespace PaymentModel

open Async

def Call.locks : Call → Bool
  | .lockSet .. | .lockRelease .. => true
  | _ => false

/-- A function given to `withLock`. The locks it takes or releases itself are requests of their own. -/
structure LockBody where
  fn : Promise Unit
  lockFree : fn.All fun c : Call => c.locks = false

/-- A call of one of the three lock functions. -/
inductive LockRequest where
  | acquireLock (key : String) (ttlMs : Rat)
  | releaseLock (key token : String)
  | withLock (key : String) (ttlMs : Rat) (body : LockBody)

def LockRequest.program : LockRequest → Promise Unit
  | .acquireLock key ttlMs => do let _ ← PaymentModel.acquireLock key ttlMs
  | .releaseLock key token => do let _ ← PaymentModel.releaseLock key token
  | .withLock key ttlMs body => PaymentModel.withLock key ttlMs body.fn

/-- The key a request asks for, with its time to live. -/
def LockRequest.asks : LockRequest → Option (String × Rat)
  | .acquireLock key ttlMs => some (key, ttlMs)
  | .withLock key ttlMs _ => some (key, ttlMs)
  | .releaseLock .. => none

/-- The value of a key in Redis and the time from which it may expire. -/
structure LockEntry where
  token : String
  expiresAt : Rat
  deriving DecidableEq

inductive LockNote where
  | generated (token : String)
  | acquired (key token : String) (expiresAt : Rat)
  | released (key token : String) (deleted : Bool)
  | fault
  deriving DecidableEq

/-- Redis with its clock in milliseconds, the requests by the thread that runs each of them, and
    what the threads did when, newest first. -/
structure LockStore where
  clock : Rat := 0
  entries : String → Option LockEntry := fun _ => none
  requests : List (Nat × LockRequest) := []
  trace : List (Nat × Rat × LockNote) := []

/-- What the environment decides about a call: the fault of a Redis command, a generated id, and how
    a call that is no concern of the locks ends. -/
structure LockChoice where
  fault : Fault := .none
  uuid : Uuid := .zero
  answer : (c : Call) → Except JsError c.Answer := fun _ => .error (.other "")

namespace LockStore

def note (s : LockStore) (t : Nat) (o : LockNote) : LockStore := { s with trace := (t, s.clock, o) :: s.trace }

def setEntry (s : LockStore) (key : String) (entry : Option LockEntry) : LockStore :=
  { s with entries := Function.update s.entries key entry }

def token (s : LockStore) (key : String) : Option String := (s.entries key).map LockEntry.token

/-- A Redis command with answer `answer` and effect `effect`. -/
def command {α : Type} (s : LockStore) (t : Nat) (fault : Fault) (answer : α) (effect : LockStore) :
    Except JsError α × LockStore :=
  match fault with
  | .none => (.ok answer, effect)
  | .before => (.error World.connectionLost, s.note t .fault)
  | .after => (.error World.connectionLost, effect.note t .fault)

def perform (t : Nat) : (c : Call) → LockChoice → LockStore → Option (Except JsError c.Answer × LockStore)
  | .generateId, choice, s =>
    if s.trace.any fun entry => entry.2.2 = .generated choice.uuid.text then none
    else some (.ok choice.uuid, s.note t (.generated choice.uuid.text))
  | .lockSet key token ttlSeconds, choice, s =>
    if ttlSeconds ≤ 0 then some (.error (.other "ERR invalid expire time in 'set' command"), s)
    else
      match s.entries key with
      | some _ => some (s.command t choice.fault false s)
      | none =>
        let expiresAt := s.clock + 1000 * ttlSeconds
        some (s.command t choice.fault true
          ((s.setEntry key (some ⟨token, expiresAt⟩)).note t (.acquired key token expiresAt)))
  | .lockRelease key token, choice, s =>
    if s.token key = some token then
      some (s.command t choice.fault true ((s.setEntry key none).note t (.released key token true)))
    else some (s.command t choice.fault false (s.note t (.released key token false)))
  | c, choice, s => some (choice.answer c, s)

end LockStore

/-- A client calls a lock function, time passes, or an entry past its time is dropped. -/
inductive LockEvent where
  | start (request : LockRequest)
  | wait (ms : Rat)
  | expire (key : String)

def LockStore.occur (n : Nat) : LockEvent → LockStore → Option (LockStore × List (Promise Unit))
  | .start request, s => some ({ s with requests := (n, request) :: s.requests }, [request.program])
  | .wait ms, s => if 0 ≤ ms then some ({ s with clock := s.clock + ms }, []) else none
  | .expire key, s =>
    match s.entries key with
    | some entry => if entry.expiresAt ≤ s.clock then some (s.setEntry key none, []) else none
    | none => none

/-- Any number of clients of the lock functions over one Redis. -/
def lockClients : Machine calls JsError LockStore LockChoice LockEvent := ⟨LockStore.perform, LockStore.occur⟩

end PaymentModel
