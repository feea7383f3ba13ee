import PaymentSystem.Model.GatewaySimulator
import PaymentSystem.Proof.History

namespace PaymentModel

open Async

/-- The system under a clock in milliseconds. `deadlines` tells from when the entry of a lock key may
    expire, `asked` since when a thread waits for the gateway, and `spent` how long it has been inside
    `withLock` besides that. -/
structure Clocked where
  pool : Pool calls JsError World
  clock : Rat := 0
  deadlines : String → Rat := fun _ => 0
  asked : Nat → Option Rat := fun _ => none
  spent : Nat → Rat := fun _ => 0

/-- A step of the system, for a gateway call with the draw that selects its scenario, or a wait. -/
inductive ClockedLabel where
  | act (thread : Nat) (choice : Choice) (rand : Rat)
  | event (e : Event)
  | wait (ms : Rat)

/-- A thread with this history is inside `withLock`. -/
def insideLock (h : List Obs) : Bool :=
  h.any fun o => match o with
    | .locked key token => !h.any fun o' => match o' with
      | .unlocked key' token' => key' = key && token' = token
      | _ => false
    | _ => false

namespace Clocked

variable (site : Deployment) (overhead : Rat)

def call (c : Clocked) (t : Nat) : Option Call :=
  match c.pool.threads[t]? with
  | some (.call call _) => some call
  | _ => none

def move (c : Clocked) (label : Label Choice Event) : Option Clocked :=
  ((system site).step c.pool label).map fun pool => { c with pool }

/-- A thread acts: a free lock is taken for the time that is asked for, and the gateway answers when
    the scenario of the simulator has taken its time. -/
def act (c : Clocked) (t : Nat) (choice : Choice) (rand : Rat) : Option Clocked :=
  match c.call t with
  | some (.lockSet key _ ttlSeconds) =>
    let deadlines := if (c.pool.world.locks key).isSome then c.deadlines
      else Function.update c.deadlines key (c.clock + 1000 * ttlSeconds)
    { c with deadlines }.move site (.act t choice)
  | some (.gatewaySend _) => { c with asked := Function.update c.asked t (some c.clock) }.move site (.act t choice)
  | some (.gatewayReceive _) =>
    match c.asked t with
    | some start =>
      let (outcome, duration) := GatewaySimulator.processPayment {} choice.uuid rand choice.random
      if 0 ≤ choice.random ∧ choice.random < 1 ∧ c.clock = start + duration then
        { c with asked := Function.update c.asked t none }.move site (.act t { choice with outcome })
      else none
    | none => none
  | _ => c.move site (.act t choice)

/-- Locks expire from their deadline on. -/
def event (c : Clocked) : Event → Option Clocked
  | .expireLock key => if c.deadlines key ≤ c.clock then c.move site (.event (.expireLock key)) else none
  | e => c.move site (.event e)

/-- How long thread `t` may wait: no gateway call outlasts the longest scenario, and the other calls
    inside a lock together take no longer than `overhead`. -/
def mayWait (c : Clocked) (ms : Rat) (t : Nat) : Bool :=
  match c.asked t with
  | some start => c.clock + ms ≤ start + GatewaySimulator.longestScenario
  | none => !insideLock (c.pool.world.history t) || c.spent t + ms ≤ overhead

def wait (c : Clocked) (ms : Rat) : Option Clocked :=
  if 0 ≤ ms ∧ (List.range c.pool.threads.length).all (c.mayWait overhead ms) then
    some { c with
      clock := c.clock + ms
      spent := fun t =>
        if (c.asked t).isNone ∧ insideLock (c.pool.world.history t) = true then c.spent t + ms else c.spent t }
  else none

def step (c : Clocked) : ClockedLabel → Option Clocked
  | .act t choice rand => c.act site t choice rand
  | .event e => c.event site e
  | .wait ms => c.wait overhead ms

/-- The states the clocked system reaches. -/
inductive Reachable : Clocked → Prop
  | start : Reachable { pool := ⟨{}, []⟩ }
  | step {c next : Clocked} {label : ClockedLabel} (reached : Reachable c)
    (stepped : c.step site overhead label = some next) : Reachable next

def run (c : Clocked) : List ClockedLabel → Option Clocked
  | [] => some c
  | label :: labels => (c.step site overhead label).bind fun next => next.run labels

end Clocked

end PaymentModel
