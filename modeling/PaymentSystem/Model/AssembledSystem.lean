import Mathlib.Logic.Function.Basic
import PaymentSystem.Model.CircuitBreaker
import PaymentSystem.Model.GatewaySimulator
import PaymentSystem.Model.System

namespace PaymentModel

open Async

/-- The promise of `gatewaySimulator.processPayment` resolves, with whatever answer. -/
def GatewayOutcome.resolves : GatewayOutcome → Bool
  | .response _ => true
  | .thrown _ => false

/-- The system with what its processes keep in memory: the circuit breaker of each process, and the call of
    `execute` in which a thread waits for the gateway. -/
structure Assembled where
  pool : Pool calls JsError World
  clock : Int
  breakers : Nat → BreakerRun
  executing : Nat → Option Nat := fun _ => none

/-- A step of the system, for a gateway call with the draw that selects its scenario, or a wait. -/
inductive AssembledLabel where
  | act (thread : Nat) (choice : Choice) (rand : Rat)
  | event (e : Event)
  | wait (now : Int)

namespace Assembled

variable (site : Deployment) (config : GatewaySimulatorConfig) (process : Nat → Nat)

def call (a : Assembled) (t : Nat) : Option Call :=
  match a.pool.threads[t]? with
  | some (.call call _) => some call
  | _ => none

def move (a : Assembled) (label : Label Choice Event) : Option Assembled :=
  ((system site).step a.pool label).map fun pool => { a with pool }

/-- One action of the breaker in the process of thread `t`. -/
def breakerActs (a : Assembled) (t : Nat) (action : BreakerAction) : Option Assembled :=
  ((a.breakers (process t)).act "payment-gateway" gatewayCircuitBreakerOptions action).map fun run =>
    { a with breakers := Function.update a.breakers (process t) run }

def admitted (a : Assembled) (t : Nat) : Bool :=
  let run := a.breakers (process t)
  match (run.breaker.execute "payment-gateway" gatewayCircuitBreakerOptions run.clock).1 with
  | .ok () => true
  | .error _ => false

/-- `execute` of the breaker: it calls the function at once when it lets the call through. -/
def execute (a : Assembled) (t : Nat) (choice : Choice) : Option Assembled :=
  (a.breakerActs process t .execute).bind fun begun =>
    if a.admitted process t then
      let call := (a.breakers (process t)).calls
      ({ begun with executing := Function.update begun.executing t (some call) }.move site
        (.act t { choice with admits := true })).bind fun asked => asked.move site (.act t choice)
    else begun.move site (.act t { choice with admits := false })

/-- The simulator settles the function of the thread's call. -/
def settle (a : Assembled) (t : Nat) (choice : Choice) (rand : Rat) : Option Assembled :=
  match a.executing t with
  | none => none
  | some call =>
    let outcome := (GatewaySimulator.processPayment config choice.uuid rand choice.random).1
    if 0 ≤ rand ∧ rand < 1 ∧ 0 ≤ choice.random ∧ choice.random < 1 then
      (a.breakerActs process t (.settle call outcome.resolves)).bind fun settled =>
        { settled with executing := Function.update settled.executing t none }.move site
          (.act t { choice with outcome })
    else none

def act (a : Assembled) (t : Nat) (choice : Choice) (rand : Rat) : Option Assembled :=
  match a.call t with
  | some (.breakerAdmits _) => a.execute site process t choice
  | some (.gatewaySend _) => none
  | some (.gatewayReceive _) => a.settle site config process t choice rand
  | _ => a.move site (.act t choice)

/-- Time passes for all processes. -/
def wait (a : Assembled) (now : Int) : Option Assembled :=
  if a.clock ≤ now then
    some { a with clock := now, breakers := fun i => { a.breakers i with clock := now } }
  else none

def step (a : Assembled) : AssembledLabel → Option Assembled
  | .act t choice rand => a.act site config process t choice rand
  | .event e => a.move site (.event e)
  | .wait now => a.wait now

/-- All processes start with a new breaker. -/
def start (clock : Int) : Assembled where
  pool := ⟨{}, []⟩
  clock
  breakers _ := { clock }

/-- The states the assembled system reaches. -/
inductive Reachable : Assembled → Prop
  | start (clock : Int) : Reachable (start clock)
  | step {a next : Assembled} {label : AssembledLabel} (reached : Reachable a)
    (stepped : a.step site config process label = some next) : Reachable next

def run (a : Assembled) : List AssembledLabel → Option Assembled
  | [] => some a
  | label :: labels => (a.step site config process label).bind fun next => next.run labels

end Assembled

end PaymentModel
