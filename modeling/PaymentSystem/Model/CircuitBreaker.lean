import Mathlib.Logic.Relation
import PaymentSystem.Model.Errors
import PaymentSystem.Model.Number

namespace PaymentModel

inductive CircuitState where
  | closed | opened | halfOpen
  deriving DecidableEq

structure CircuitBreakerOptions where
  windowSize : Number := .finite 10
  failureThreshold : Number := .finite (1 / 2)
  resetTimeout : Number := .finite 30000
  halfOpenSuccessThreshold : Number := .finite 3

/-- The breaker of the payment service is made with these and the name "payment-gateway". -/
def gatewayCircuitBreakerOptions : CircuitBreakerOptions where
  windowSize := .finite 10
  failureThreshold := .finite (1 / 2)
  resetTimeout := .finite 30000
  halfOpenSuccessThreshold := .finite 3

/-- The fields of a breaker. The results stand with the oldest first, `true` for a success. -/
structure CircuitBreaker where
  state : CircuitState := .closed
  results : List Bool := []
  halfOpenSuccesses : Nat := 0
  lastFailureTime : Int := 0
  deriving DecidableEq

namespace CircuitBreaker

variable (name : String) (options : CircuitBreakerOptions)

def transitionTo (breaker : CircuitBreaker) (newState : CircuitState) : CircuitBreaker :=
  match newState with
  | .closed => { breaker with state := newState, results := [], halfOpenSuccesses := 0 }
  | .halfOpen => { breaker with state := newState, halfOpenSuccesses := 0 }
  | .opened => { breaker with state := newState }

def recordResult (breaker : CircuitBreaker) (success : Bool) : CircuitBreaker :=
  let results := breaker.results ++ [success]
  { breaker with
    results := if options.windowSize.lt (.finite results.length) then results.drop 1 else results }

/-- The share of failures; `0 / 0` when nothing is tracked. -/
def failureRate (results : List Bool) : Number :=
  if results.length = 0 then .nan
  else .finite ((results.countP fun success => !success : Nat) / (results.length : Rat))

def checkThreshold (breaker : CircuitBreaker) : CircuitBreaker :=
  if Number.lt (.finite breaker.results.length) options.windowSize then breaker
  else if options.failureThreshold.le (failureRate breaker.results) then breaker.transitionTo .opened
  else breaker

def onSuccess (breaker : CircuitBreaker) : CircuitBreaker :=
  if breaker.state = .halfOpen then
    let counted := { breaker with halfOpenSuccesses := breaker.halfOpenSuccesses + 1 }
    if options.halfOpenSuccessThreshold.le (.finite counted.halfOpenSuccesses) then
      counted.transitionTo .closed
    else counted
  else breaker.recordResult options true

def onFailure (breaker : CircuitBreaker) (now : Int) : CircuitBreaker :=
  let failed := { breaker with lastFailureTime := now }
  if failed.state = .halfOpen then failed.transitionTo .opened
  else (failed.recordResult options false).checkThreshold options

def reset (breaker : CircuitBreaker) : CircuitBreaker :=
  { breaker with state := .closed, results := [], halfOpenSuccesses := 0, lastFailureTime := 0 }

/-- `execute` up to the call of `fn`: the function is called when this returns. -/
def execute (breaker : CircuitBreaker) (now : Int) : Except JsError Unit × CircuitBreaker :=
  if breaker.state = .opened then
    if options.resetTimeout.le (.finite (now - breaker.lastFailureTime : Int)) then
      (.ok (), breaker.transitionTo .halfOpen)
    else
      (.error (circuitBreakerOpenError
        ("Circuit breaker '" ++ name ++ "' is open — service temporarily unavailable")), breaker)
  else (.ok (), breaker)

/-- `execute` from the moment the promise of `fn` settles. -/
def settle (breaker : CircuitBreaker) (now : Int) (success : Bool) : CircuitBreaker :=
  if success then breaker.onSuccess options else breaker.onFailure options now

end CircuitBreaker

inductive BreakerNote where
  | invoked (call : Nat)
  | rejected (call : Nat)
  | settled (call : Nat) (success : Bool)
  | entered (state : CircuitState)
  deriving DecidableEq

/-- A breaker in use: the clock, the calls of `execute` made so far, those of them whose function
    has not settled with the state they were admitted in, and what happened when, newest first. -/
structure BreakerRun where
  breaker : CircuitBreaker := {}
  clock : Int
  calls : Nat := 0
  running : List (Nat × CircuitState) := []
  trace : List (Int × BreakerNote) := []

inductive BreakerAction where
  | wait (now : Int)
  | execute
  | settle (call : Nat) (success : Bool)

namespace BreakerRun

variable (name : String) (options : CircuitBreakerOptions)

def note (run : BreakerRun) (o : BreakerNote) : BreakerRun := { run with trace := (run.clock, o) :: run.trace }

/-- The breaker changes to `breaker`; a change of its state is noted. -/
def become (run : BreakerRun) (breaker : CircuitBreaker) : BreakerRun :=
  let run' := { run with breaker }
  if breaker.state = run.breaker.state then run' else run'.note (.entered breaker.state)

/-- One action: time passes, `execute` is called, or the function of a running call settles. -/
def act (run : BreakerRun) : BreakerAction → Option BreakerRun
  | .wait now => if run.clock ≤ now then some { run with clock := now } else none
  | .execute =>
    let (outcome, breaker) := run.breaker.execute name options run.clock
    let run' := { run.become breaker with calls := run.calls + 1 }
    match outcome with
    | .ok () => some ({ run' with running := (run.calls, breaker.state) :: run.running }.note (.invoked run.calls))
    | .error _ => some (run'.note (.rejected run.calls))
  | .settle call success =>
    if run.running.any fun entry => entry.1 = call then
      some (({ run with running := run.running.filter fun entry => entry.1 ≠ call }.note
        (.settled call success)).become (run.breaker.settle options run.clock success))
    else none

/-- The actions of `actions` one after the other. -/
def acts (run : BreakerRun) : List BreakerAction → Option BreakerRun
  | [] => some run
  | action :: actions => (run.act name options action).bind fun next => next.acts actions

/-- The run from a `reset` on; the functions that are running go on. -/
def reset (run : BreakerRun) : BreakerRun := { run with breaker := run.breaker.reset, trace := [] }

def Step (run next : BreakerRun) : Prop := ∃ action, run.act name options action = some next

def Steps : BreakerRun → BreakerRun → Prop := Relation.ReflTransGen (Step name options)

/-- The runs of a new breaker, from any time on. -/
def Reachable (run : BreakerRun) : Prop := ∃ clock, Steps name options { clock } run

end BreakerRun

end PaymentModel
