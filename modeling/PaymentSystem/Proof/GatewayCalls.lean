import PaymentSystem.Model.AssembledSystem
import PaymentSystem.Proof.BreakerMoves
import PaymentSystem.Proof.Deeds
import PaymentSystem.Proof.Runs
import PaymentSystem.Proof.Walks

namespace PaymentModel

open Async

/-- The calls that `execute` of the breaker stands for. -/
def Call.ofGateway : Call → Bool
  | .breakerAdmits _ | .gatewaySend _ | .gatewayReceive _ => true
  | _ => false

/-- Where a thread is in a call of the gateway. -/
inductive GatewayPhase where
  | idle | admitted | sent
  deriving DecidableEq

/-- The breaker is asked, the request is sent, the answer is awaited; there is nothing else in between. -/
def gatewayProtocol : Protocol calls JsError GatewayPhase where
  start := .idle
  allows
    | .idle, .gatewaySend _ | .idle, .gatewayReceive _ => False
    | .idle, _ | .admitted, .gatewaySend _ | .sent, .gatewayReceive _ => True
    | .admitted, _ | .sent, _ => False
  next
    | .idle, .breakerAdmits _, .ok true => .admitted
    | .admitted, .gatewaySend _, .ok _ => .sent
    | _, _, _ => .idle

variable {site : Deployment} {α β : Type} {p : Uuid} {c : Call}

theorem keeps_idle (other : c.ofGateway = false) : gatewayProtocol.Keeps .idle c := by
  cases c with
  | breakerAdmits | gatewaySend | gatewayReceive => cases other
  | _ => exact ⟨⟨trivial, trivial, fun _ => rfl⟩, fun _ => rfl⟩

theorem idle_routine (c : Call) (routine : Routine c) : gatewayProtocol.Keeps .idle c := by
  refine keeps_idle ?_
  cases c with
  | breakerAdmits | gatewaySend | gatewayReceive => exact routine.elim
  | _ => rfl

theorem orderly_ask {c : Call} (other : c.ofGateway = false) : gatewayProtocol.Returns (ask c) :=
  .of_all (.ask (keeps_idle other))

theorem orderly_withLock {fn : Promise α} {key : String} {ttl : Rat} (body : gatewayProtocol.Returns fn) :
    gatewayProtocol.Returns (withLock key ttl fn) := by
  have acquires : gatewayProtocol.Returns (acquireLock key ttl) :=
    (orderly_ask rfl).bind fun _ => (orderly_ask rfl).bind fun _ => .of_all (.pure _)
  refine acquires.bind fun token => ?_
  cases token with
  | none => exact .of_all (.throw _)
  | some token =>
    have releases : gatewayProtocol.Returns (do let _ ← releaseLock key token) :=
      (orderly_ask rfl).bind fun _ => .of_all (.pure _)
    refine Protocol.Follows.ensure body ?_ ?_
    · rintro _ _ rfl
      exact releases
    · rintro _ _ rfl
      exact releases

theorem orderly_executeGateway {payment : Payment} : gatewayProtocol.Returns (executeGateway p payment) := by
  refine ⟨trivial, fun admits => ?_⟩
  match admits with
  | .ok true =>
    refine ⟨trivial, fun sent => ?_⟩
    match sent with
    | .ok () =>
      refine ⟨trivial, fun answer => ?_⟩
      match answer with
      | .ok _ => exact rfl
      | .error _ => exact rfl
    | .error _ => exact rfl
  | .ok false => exact rfl
  | .error _ => exact rfl

theorem orderly_processPaymentLocked : gatewayProtocol.Returns (processPaymentLocked p) := by
  refine (orderly_ask rfl).bind fun found => ?_
  cases found with
  | none => exact .of_all (.throw _)
  | some payment =>
    dsimp only
    split
    · exact .of_all (.pure _)
    · have calls : gatewayProtocol.Returns (callGateway p payment) :=
        (orderly_executeGateway.bind fun _ => .of_all (.pure _)).tryCatch fun _ => .of_all (.pure _)
      exact (orderly_ask rfl).bind fun _ => calls.bind fun _ => returns_settling idle_routine settling_handlePaymentResult

/-- Every handler keeps the order of the gateway calls. -/
theorem orderly_started {n : Nat} {e : Event} {w w' : World} {started : List (Promise Unit)}
    (occurred : occur site n e w = some (w', started)) : ∀ program ∈ started, gatewayProtocol.Returns program := by
  refine returns_started idle_routine (fun _ => orderly_withLock orderly_processPaymentLocked) ?_ occurred
  exact fun _ _ _ _ _ => orderly_withLock (returns_plainly idle_routine plainly_processWebhookLocked)

/-- A thread that the breaker has let through sends its request next. -/
theorem sends_admitted {program : Promise Unit} (runs : gatewayProtocol.Runs program .admitted) :
    ∃ request rest, program = .call (.gatewaySend request) rest := by
  cases program with
  | done outcome =>
    match outcome with
    | .ok () => cases (show GatewayPhase.admitted = .idle from runs)
    | .error _ => cases (show GatewayPhase.admitted = .idle from runs)
  | call c rest =>
    have allows : gatewayProtocol.allows .admitted c := runs.1
    cases c with
    | gatewaySend request => exact ⟨request, rest, rfl⟩
    | _ => exact allows.elim
  | detach c rest =>
    have starts : gatewayProtocol.Starts .admitted c := runs.1
    cases c with
    | gatewaySend request => exact starts.2.1.elim
    | _ => exact starts.1.elim

/-- What becomes of a call of the gateway: it is made, refused, or answered. -/
inductive GatewayUse where
  | called | refused
  | answered (success : Bool)
  deriving DecidableEq

def Obs.use : Obs → Option GatewayUse
  | .gatewayCalled _ => some .called
  | .breakerOpen _ => some .refused
  | .gatewayAnswered _ outcome => some (.answered outcome.resolves)
  | _ => none

def BreakerNote.use : BreakerNote → Option GatewayUse
  | .invoked _ => some .called
  | .rejected _ => some .refused
  | .settled _ success => some (.answered success)
  | .entered _ => none

/-- The gateway calls of the process `i`, as they went, newest first. -/
def World.uses (process : Nat → Nat) (i : Nat) (w : World) : List GatewayUse :=
  w.trace.filterMap fun entry => if process entry.1 = i then entry.2.use else none

/-- The same as its breaker has seen it. -/
def BreakerRun.uses (run : BreakerRun) : List GatewayUse := run.trace.filterMap fun entry => entry.2.use

variable {process : Nat → Nat} {i t n : Nat} {w w' : World} {o : Obs}

theorem uses_noted (noted : w'.trace = (t, o) :: w.trace) : w'.uses process i =
    if process t = i then o.use.toList ++ w.uses process i else w.uses process i := by
  simp only [World.uses, noted, List.filterMap_cons]
  split
  · rename_i none
    split at none
    · rw [none]
      exact (if_pos ‹_›).symm
    · exact (if_neg ‹_›).symm
  · rename_i use some
    split at some
    · rw [if_pos ‹_›, some]
      rfl
    · cases some

theorem uses_silent (noted : w'.trace = (t, o) :: w.trace) (silent : o.use = none) :
    w'.uses process i = w.uses process i := by
  rw [uses_noted noted, silent]
  exact ite_self _

theorem Call.takes_use (takes : c.takes o = true) (other : c.ofGateway = false) : o.use = none := by
  cases o with
  | breakerOpen | gatewayCalled | gatewayAnswered =>
    cases c with
    | breakerAdmits | gatewaySend | gatewayReceive => cases other
    | _ => cases takes
  | _ => rfl

/-- A call that has nothing to do with the gateway does not show. -/
theorem perform_uses {choice : Choice} {outcome : Except JsError c.Answer} (other : c.ofGateway = false)
    (performed : perform t c choice w = some (outcome, w')) : w'.uses process i = w.uses process i := by
  obtain ⟨notes, took, _, takes⟩ := perform_does performed
  rw [World.uses, took, List.filterMap_append, List.filterMap_eq_nil_iff.mpr]
  · rfl
  · intro entry member
    obtain ⟨o, noted, rfl⟩ := List.mem_map.mp member
    rw [Call.takes_use (List.all_eq_true.mp takes o noted) other]
    exact ite_self _

theorem occur_uses {e : Event} {started : List (Promise Unit)} (occurred : occur site n e w = some (w', started)) :
    w'.uses process i = w.uses process i := by
  cases e with
  | post | cancel | webhook =>
    cases occurred
    exact uses_silent rfl rfl
  | deliverProcess | deliverRetry =>
    obtain ⟨queue, _, same⟩ := Option.map_eq_some_iff.mp occurred
    cases same
    exact uses_silent rfl rfl
  | stallProcess | stallRetry | retryDelayElapsed =>
    obtain ⟨queue, _, same⟩ := Option.map_eq_some_iff.mp occurred
    cases same
    rfl
  | expireLock | expireRecord =>
    cases occurred
    rfl

end PaymentModel
