import PaymentSystem.Proof.GatewayCalls

namespace PaymentModel

open Async CircuitBreaker

/-- The breaker of a process in its place. -/
abbrev BreakerRun.gatewayAct (run : BreakerRun) (action : BreakerAction) : Option BreakerRun :=
  run.act "payment-gateway" gatewayCircuitBreakerOptions action

/-- The breaker has let one more call through. -/
structure BreakerRun.Admits (run next : BreakerRun) : Prop where
  acted : run.gatewayAct .execute = some next
  passes : run.breaker.state = .opened →
    gatewayCircuitBreakerOptions.resetTimeout.le (.finite (run.clock - run.breaker.lastFailureTime : Int)) = true
  clock : next.clock = run.clock
  calls : next.calls = run.calls + 1
  running : ∃ state, next.running = (run.calls, state) :: run.running
  uses : next.uses = .called :: run.uses

/-- It has refused one. -/
structure BreakerRun.Refuses (run next : BreakerRun) : Prop where
  acted : run.gatewayAct .execute = some next
  clock : next.clock = run.clock
  calls : next.calls = run.calls + 1
  running : next.running = run.running
  uses : next.uses = .refused :: run.uses

/-- It has counted the outcome of one. -/
structure BreakerRun.Settles (call : Nat) (success : Bool) (run next : BreakerRun) : Prop where
  acted : run.gatewayAct (.settle call success) = some next
  clock : next.clock = run.clock
  calls : next.calls = run.calls
  running : next.running = run.running.filter fun entry => entry.1 ≠ call
  uses : next.uses = .answered success :: run.uses

variable {site : Deployment} {config : GatewaySimulatorConfig} {process : Nat → Nat} {run next : BreakerRun}
  {a b : Assembled} {t u i call : Nat} {success : Bool} {e : JsError}

theorem uses_become (run : BreakerRun) (breaker : CircuitBreaker) : (run.become breaker).uses = run.uses := by
  rw [BreakerRun.uses, BreakerRun.become_trace]
  split <;> rfl

theorem execute_admits (passes : (run.breaker.execute "payment-gateway" gatewayCircuitBreakerOptions run.clock).1 =
    .ok ()) : ∃ next, run.Admits next := by
  by_cases shut : run.breaker.state = .opened
  · by_cases elapsed : gatewayCircuitBreakerOptions.resetTimeout.le
      (.finite (run.clock - run.breaker.lastFailureTime : Int)) = true
    · exact ⟨_, BreakerRun.act_probe _ shut elapsed, fun _ => elapsed, rfl, rfl, ⟨_, rfl⟩, rfl⟩
    · obtain ⟨e, refused⟩ := execute_reject "payment-gateway" shut elapsed
      rw [refused] at passes
      cases passes
  · exact ⟨_, BreakerRun.act_pass _ _ shut, fun opened => (shut opened).elim, rfl, rfl, ⟨_, rfl⟩, rfl⟩

/-- What a refused attempt gets to see is the error of its breaker. -/
theorem execute_refuses (rejected : (run.breaker.execute "payment-gateway" gatewayCircuitBreakerOptions run.clock).1 =
    .error e) : e = breakerOpenError ∧ ∃ next, run.Refuses next := by
  constructor
  · rw [execute] at rejected
    split at rejected
    · split at rejected <;> cases rejected
      rfl
    · cases rejected
  · have same := execute_rejected rejected
    refine ⟨{ run with calls := run.calls + 1 }.note (.rejected run.calls), ?_, rfl, rfl, rfl, rfl⟩
    simp only [BreakerRun.gatewayAct, BreakerRun.act, same, BreakerRun.become, if_true]

theorem settle_settles (success : Bool) (runs : ∃ entry ∈ run.running, entry.1 = call) :
    ∃ next, run.Settles call success next := by
  refine ⟨_, BreakerRun.act_settle _ success runs, ?_, ?_, ?_, ?_⟩
  · exact BreakerRun.become_clock _ _
  · exact BreakerRun.become_calls _ _
  · exact BreakerRun.become_running _ _
  · exact uses_become _ _

theorem settles_of_act (acted : run.gatewayAct (.settle call success) = some next) :
    run.Settles call success next := by
  by_cases runs : ∃ entry ∈ run.running, entry.1 = call
  · obtain ⟨next', settles⟩ := settle_settles success runs
    cases acted.symm.trans settles.acted
    exact settles
  · simp only [BreakerRun.gatewayAct, BreakerRun.act] at acted
    rw [if_neg (by simpa using runs)] at acted
    cases acted

/-- A thread that runs `execute` waits for the answer. -/
def GatewayPhase.within : Option Nat → GatewayPhase
  | none => .idle
  | some _ => .sent

/-- What the caller of `gatewaySimulator.processPayment` gets. -/
def GatewayOutcome.answer : GatewayOutcome → Except JsError GatewayPaymentResponse
  | .response value => .ok value
  | .thrown e => .error e

theorem perform_receive (t : Nat) (p : Uuid) (choice : Choice) (w : World) :
    perform t (.gatewayReceive p) choice w =
      some (choice.outcome.answer, w.log t (.gatewayAnswered p choice.outcome)) := by
  simp only [perform]
  cases choice.outcome <;> rfl

namespace Assembled

/-- What a step of the assembled system can do. -/
inductive Moves (site : Deployment) (config : GatewaySimulatorConfig) (process : Nat → Nat) (a : Assembled) :
    Assembled → Prop
  | moved {label : Label Choice Event} {pool : Pool calls JsError World}
    (plain : ∀ t choice, label = .act t choice → ∀ c, a.call t = some c → c.ofGateway = false)
    (stepped : (system site).step a.pool label = some pool) : Moves site config process a { a with pool }
  | called {t : Nat} {p : Uuid} {rest : Except JsError Bool → Promise Unit} {request : GatewayPaymentRequest}
    {rest' : Except JsError Unit → Promise Unit} {run : BreakerRun}
    (running : a.pool.threads[t]? = some (.call (.breakerAdmits p) rest))
    (proceeds : rest (.ok true) = .call (.gatewaySend request) rest')
    (admits : (a.breakers (process t)).Admits run) :
    Moves site config process a { a with
      pool := ⟨a.pool.world.log t (.gatewayCalled request.paymentId), a.pool.threads.set t (rest' (.ok ()))⟩
      breakers := Function.update a.breakers (process t) run
      executing := Function.update a.executing t (some (a.breakers (process t)).calls) }
  | refused {t : Nat} {p : Uuid} {rest : Except JsError Bool → Promise Unit} {run : BreakerRun}
    (running : a.pool.threads[t]? = some (.call (.breakerAdmits p) rest))
    (refuses : (a.breakers (process t)).Refuses run) :
    Moves site config process a { a with
      pool := ⟨a.pool.world.log t (.breakerOpen p), a.pool.threads.set t (rest (.ok false))⟩
      breakers := Function.update a.breakers (process t) run }
  | answered {t : Nat} {p : Uuid} {rest : Except JsError GatewayPaymentResponse → Promise Unit} {call : Nat}
    {uuid : String} {rand draw : Rat} {outcome : GatewayOutcome} {run : BreakerRun}
    (running : a.pool.threads[t]? = some (.call (.gatewayReceive p) rest)) (waits : a.executing t = some call)
    (draws : 0 ≤ rand ∧ rand < 1 ∧ 0 ≤ draw ∧ draw < 1)
    (simulated : outcome = (GatewaySimulator.processPayment config uuid rand draw).1)
    (settles : (a.breakers (process t)).Settles call outcome.resolves run) :
    Moves site config process a { a with
      pool := ⟨a.pool.world.log t (.gatewayAnswered p outcome), a.pool.threads.set t (rest outcome.answer)⟩
      breakers := Function.update a.breakers (process t) run
      executing := Function.update a.executing t none }
  | waited {now : Int} (later : a.clock ≤ now) :
    Moves site config process a { a with
      clock := now
      breakers := fun i => { a.breakers i with clock := now } }

/-- Where the threads are in the protocol of the gateway. -/
def phase (a : Assembled) (t : Nat) : GatewayPhase := .within (a.executing t)

theorem call_eq {c : Call} (found : a.call t = some c) : ∃ rest, a.pool.threads[t]? = some (.call c rest) := by
  unfold call at found
  split at found
  · rename_i running
    cases found
    exact ⟨_, running⟩
  · cases found

theorem call_of_running {c : Call} {rest : Except JsError c.Answer → Promise Unit}
    (running : a.pool.threads[t]? = some (.call c rest)) : a.call t = some c := by
  simp only [call, running]

theorem move_ok {label : Label Choice Event} (moved : a.move site label = some b) :
    ∃ pool, (system site).step a.pool label = some pool ∧ b = { a with pool } := by
  obtain ⟨pool, stepped, same⟩ := Option.map_eq_some_iff.mp moved
  exact ⟨pool, stepped, same.symm⟩

theorem breakerActs_ok {action : BreakerAction} (acted : a.breakerActs process t action = some b) :
    ∃ run, (a.breakers (process t)).gatewayAct action = some run ∧
      b = { a with breakers := Function.update a.breakers (process t) run } := by
  obtain ⟨run, acted, same⟩ := Option.map_eq_some_iff.mp acted
  exact ⟨run, acted, same.symm⟩

/-- The step of a thread whose call is answered. -/
theorem step_call (pool : Pool calls JsError World) {c : Call} {rest : Except JsError c.Answer → Promise Unit}
    {choice : Choice} {outcome : Except JsError c.Answer} {w : World}
    (running : pool.threads[t]? = some (.call c rest)) (performs : perform t c choice pool.world = some (outcome, w)) :
    (system site).step pool (.act t choice) = some ⟨w, pool.threads.set t (rest outcome)⟩ := by
  simp only [Machine.step, running]
  change (perform t c choice pool.world).map _ = _
  rw [performs]
  rfl

theorem admitted_cases (a : Assembled) (process : Nat → Nat) (t : Nat) :
    (a.admitted process t = true ∧ ∃ run, (a.breakers (process t)).Admits run) ∨
      (a.admitted process t = false ∧ ∃ run, (a.breakers (process t)).Refuses run) := by
  unfold admitted
  dsimp only
  split
  · rename_i passes
    exact .inl ⟨rfl, execute_admits passes⟩
  · rename_i e rejected
    exact .inr ⟨rfl, (execute_refuses rejected).2⟩

theorem phase_idle {p : Uuid} {rest : Except JsError Bool → Promise Unit}
    (tracks : gatewayProtocol.Tracks a.pool.threads a.phase)
    (running : a.pool.threads[t]? = some (.call (.breakerAdmits p) rest)) : a.phase t = .idle := by
  have allows := tracks.allows running
  unfold phase at allows ⊢
  cases waits : a.executing t with
  | none => rfl
  | some call =>
    rw [waits] at allows
    exact allows.elim

theorem executing_of_idle (idle : a.phase t = .idle) : a.executing t = none := by
  unfold phase at idle
  cases waits : a.executing t with
  | none => rfl
  | some call =>
    rw [waits] at idle
    cases idle

theorem moves_of_step {label : AssembledLabel} (tracks : gatewayProtocol.Tracks a.pool.threads a.phase)
    (stepped : a.step site config process label = some b) : a.Moves site config process b := by
  cases label with
  | event e =>
    obtain ⟨pool, took, rfl⟩ := move_ok stepped
    exact .moved (by rintro _ _ ⟨⟩) took
  | wait now =>
    simp only [step, wait] at stepped
    split at stepped
    · rename_i later
      cases stepped
      exact .waited later
    · cases stepped
  | act t choice rand =>
    simp only [step, act] at stepped
    split at stepped
    · rename_i p asked
      obtain ⟨rest, running⟩ := call_eq asked
      unfold execute at stepped
      obtain ⟨begun, acts, stepped⟩ := Option.bind_eq_some_iff.mp stepped
      obtain ⟨run, acted, rfl⟩ := breakerActs_ok acts
      rcases admitted_cases a process t with ⟨passes, run', admits⟩ | ⟨refuses, run', refused⟩
      · cases acted.symm.trans admits.acted
        rw [if_pos passes] at stepped
        obtain ⟨asked, moved, stepped⟩ := Option.bind_eq_some_iff.mp stepped
        obtain ⟨pool, first, rfl⟩ := move_ok moved
        obtain ⟨pool', second, rfl⟩ := move_ok stepped
        have runs := (tracks.runs t _ running).2 (.ok true)
        rw [phase_idle tracks running] at runs
        obtain ⟨request, rest', proceeds⟩ := sends_admitted runs
        cases first.symm.trans (step_call _ running rfl)
        have sends : (a.pool.threads.set t (rest (.ok true)))[t]? = some (.call (.gatewaySend request) rest') := by
          rw [List.getElem?_set_self (List.getElem?_eq_some_iff.mp running).1, proceeds]
        cases second.symm.trans (step_call ⟨_, _⟩ sends rfl)
        rw [List.set_set]
        exact .called running proceeds admits
      · cases acted.symm.trans refused.acted
        rw [if_neg (by rw [refuses]; exact Bool.false_ne_true)] at stepped
        obtain ⟨pool, first, rfl⟩ := move_ok stepped
        cases first.symm.trans (step_call _ running rfl)
        exact .refused running refused
    · cases stepped
    · rename_i p asked
      obtain ⟨rest, running⟩ := call_eq asked
      unfold settle at stepped
      split at stepped
      · cases stepped
      · rename_i call waits
        dsimp only at stepped
        split at stepped
        · rename_i draws
          obtain ⟨settled, acts, stepped⟩ := Option.bind_eq_some_iff.mp stepped
          obtain ⟨run, acted, rfl⟩ := breakerActs_ok acts
          obtain ⟨pool, moved, rfl⟩ := move_ok stepped
          cases moved.symm.trans (step_call _ running (perform_receive ..))
          exact .answered running waits draws rfl (settles_of_act acted)
        · cases stepped
    · rename_i notAsked notSent notReceived
      obtain ⟨pool, took, rfl⟩ := move_ok stepped
      refine .moved ?_ took
      rintro _ _ ⟨⟩ c asked
      cases c with
      | breakerAdmits p => exact (notAsked p asked).elim
      | gatewaySend request => exact (notSent request asked).elim
      | gatewayReceive p => exact (notReceived p asked).elim
      | _ => rfl

theorem admits_free (pool : Pool calls JsError World) (label : Label Choice Event) :
    Restriction.free.admits pool label = true := by
  cases label with
  | act t choice =>
    simp only [Restriction.admits]
    split <;> rfl
  | event e => rfl

/-- The running calls of the breakers are the ones in which threads wait, each of them in one. -/
structure Attended (process : Nat → Nat) (executing : Nat → Option Nat) (breakers : Nat → BreakerRun) : Prop where
  below : ∀ t call, executing t = some call → call < (breakers (process t)).calls
  runs : ∀ t call, executing t = some call → ∃ entry ∈ (breakers (process t)).running, entry.1 = call
  waits : ∀ i, ∀ entry ∈ (breakers i).running, ∃ t, process t = i ∧ executing t = some entry.1
  apart : ∀ t u call, process t = process u → executing t = some call → executing u = some call → t = u

namespace Attended

variable {executing : Nat → Option Nat} {breakers : Nat → BreakerRun}

/-- An update of one breaker and one thread of it. -/
theorem update {value : Option Nat} (attended : Attended process executing breakers)
    (below : ∀ u call, process u = process t → Function.update executing t value u = some call → call < run.calls)
    (runs : ∀ u call, process u = process t → Function.update executing t value u = some call →
      ∃ entry ∈ run.running, entry.1 = call)
    (waits : ∀ entry ∈ run.running, ∃ u, process u = process t ∧ Function.update executing t value u = some entry.1)
    (apart : ∀ u call, process t = process u → value = some call → executing u = some call → t = u) :
    Attended process (Function.update executing t value) (Function.update breakers (process t) run) := by
  have elsewhere : ∀ {u}, process u ≠ process t → Function.update executing t value u = executing u :=
    fun other => Function.update_of_ne (fun same => other (congrArg process same)) _ _
  constructor
  · intro u call waits
    by_cases here : process u = process t
    · rw [here, Function.update_self]
      exact below u call here waits
    · rw [Function.update_of_ne here]
      rw [elsewhere here] at waits
      exact attended.below u call waits
  · intro u call waits
    by_cases here : process u = process t
    · rw [here, Function.update_self]
      exact runs u call here waits
    · rw [Function.update_of_ne here]
      rw [elsewhere here] at waits
      exact attended.runs u call waits
  · intro i entry member
    by_cases here : i = process t
    · subst here
      rw [Function.update_self] at member
      exact waits entry member
    · rw [Function.update_of_ne here] at member
      obtain ⟨u, rfl, waits⟩ := attended.waits i entry member
      exact ⟨u, rfl, (elsewhere here).trans waits⟩
  · intro u v call same first second
    by_cases left : u = t
    · by_cases right : v = t
      · exact left.trans right.symm
      · subst left
        rw [Function.update_self] at first
        rw [Function.update_of_ne right] at second
        exact apart v call same first second
    · rw [Function.update_of_ne left] at first
      by_cases right : v = t
      · subst right
        rw [Function.update_self] at second
        exact (apart u call same.symm second first).symm
      · rw [Function.update_of_ne right] at second
        exact attended.apart u v call same first second

theorem called (attended : Attended process executing breakers) (idle : executing t = none)
    (admits : (breakers (process t)).Admits run) :
    Attended process (Function.update executing t (some (breakers (process t)).calls))
      (Function.update breakers (process t) run) := by
  obtain ⟨state, added⟩ := admits.running
  have other : ∀ {u call}, u ≠ t → Function.update executing t (some (breakers (process t)).calls) u = some call →
      executing u = some call := fun differ waits => (Function.update_of_ne differ _ _).symm.trans waits
  refine attended.update ?_ ?_ ?_ ?_
  · intro u call same waits
    rw [admits.calls]
    by_cases here : u = t
    · subst here
      rw [Function.update_self] at waits
      cases waits
      exact Nat.lt_succ_self _
    · have below := attended.below u call (other here waits)
      rw [same] at below
      exact Nat.lt_succ_of_lt below
  · intro u call same waits
    rw [added]
    by_cases here : u = t
    · subst here
      rw [Function.update_self] at waits
      cases waits
      exact ⟨_, List.mem_cons_self, rfl⟩
    · obtain ⟨entry, member, is⟩ := attended.runs u call (other here waits)
      rw [same] at member
      exact ⟨entry, List.mem_cons_of_mem _ member, is⟩
  · intro entry member
    rw [added] at member
    rcases List.mem_cons.mp member with rfl | old
    · exact ⟨t, rfl, Function.update_self ..⟩
    · obtain ⟨u, same, waits⟩ := attended.waits _ entry old
      have differ : u ≠ t := by
        rintro rfl
        cases idle.symm.trans waits
      exact ⟨u, same, (Function.update_of_ne differ _ _).trans waits⟩
  · rintro u _ same ⟨⟩ waits
    have below := attended.below u _ waits
    rw [same] at below
    exact (Nat.lt_irrefl _ below).elim

theorem refused (attended : Attended process executing breakers) (refuses : (breakers (process t)).Refuses run) :
    Attended process executing (Function.update breakers (process t) run) := by
  have kept : Attended process (Function.update executing t (executing t))
      (Function.update breakers (process t) run) := by
    refine attended.update ?_ ?_ ?_ (attended.apart t) <;> rw [Function.update_eq_self]
    · intro u call same waits
      have below := attended.below u call waits
      rw [same] at below
      rw [refuses.calls]
      exact Nat.lt_succ_of_lt below
    · intro u call same waits
      rw [refuses.running, ← same]
      exact attended.runs u call waits
    · rw [refuses.running]
      exact attended.waits (process t)
  rwa [Function.update_eq_self] at kept

theorem settled {success : Bool} (attended : Attended process executing breakers) (waits : executing t = some call)
    (settles : (breakers (process t)).Settles call success run) :
    Attended process (Function.update executing t none) (Function.update breakers (process t) run) := by
  have other : ∀ {u call'}, Function.update executing t none u = some call' → u ≠ t ∧ executing u = some call' := by
    intro u call' still
    by_cases here : u = t
    · subst here
      rw [Function.update_self] at still
      cases still
    · exact ⟨here, (Function.update_of_ne here _ _).symm.trans still⟩
  refine attended.update ?_ ?_ ?_ nofun
  · intro u call' same still
    have below := attended.below u call' (other still).2
    rw [same] at below
    rw [settles.calls]
    exact below
  · intro u call' same still
    obtain ⟨differ, still⟩ := other still
    obtain ⟨entry, member, is⟩ := attended.runs u call' still
    rw [same] at member
    refine ⟨entry, ?_, is⟩
    rw [settles.running, List.mem_filter, decide_eq_true_eq, is]
    refine ⟨member, ?_⟩
    rintro rfl
    exact differ (attended.apart u t call' same still waits)
  · intro entry member
    rw [settles.running, List.mem_filter, decide_eq_true_eq] at member
    obtain ⟨u, same, still⟩ := attended.waits _ entry member.1
    have differ : u ≠ t := by
      rintro rfl
      cases waits.symm.trans still
      exact member.2 rfl
    exact ⟨u, same, (Function.update_of_ne differ _ _).trans still⟩

end Attended

/-- How the levels of the assembled system fit together. -/
structure Coherent (site : Deployment) (process : Nat → Nat) (a : Assembled) : Prop where
  reached : Reached site .free a.pool
  breakers : ∀ i, (a.breakers i).Reachable "payment-gateway" gatewayCircuitBreakerOptions
  clocks : ∀ i, (a.breakers i).clock = a.clock
  tracks : gatewayProtocol.Tracks a.pool.threads a.phase
  attended : Attended process a.executing a.breakers
  uses : ∀ i, a.pool.world.uses process i = (a.breakers i).uses

theorem phase_update {value : Option Nat} (same : b.executing = Function.update a.executing t value) :
    b.phase = Function.update a.phase t (.within value) := by
  funext u
  unfold phase
  rw [same]
  by_cases here : u = t
  · rw [here, Function.update_self, Function.update_self]
  · rw [Function.update_of_ne here, Function.update_of_ne here]

/-- A call that has nothing to do with the gateway leaves its thread where it is. -/
theorem next_phase {c : Call} {rest : Except JsError c.Answer → Promise Unit} (other : c.ofGateway = false)
    (tracks : gatewayProtocol.Tracks a.pool.threads a.phase) (running : a.pool.threads[t]? = some (.call c rest))
    (outcome : Except JsError c.Answer) : gatewayProtocol.next (a.phase t) c outcome = a.phase t := by
  have allows := tracks.allows running
  unfold phase at allows ⊢
  cases waits : a.executing t with
  | none => exact (keeps_idle other).2 outcome
  | some call =>
    rw [waits] at allows
    cases c with
    | gatewayReceive => cases other
    | _ => exact allows.elim

theorem reachable_update (breakers : ∀ i, (a.breakers i).Reachable "payment-gateway" gatewayCircuitBreakerOptions)
    {action : BreakerAction} (acted : (a.breakers u).gatewayAct action = some run) (i : Nat) :
    (Function.update a.breakers u run i).Reachable "payment-gateway" gatewayCircuitBreakerOptions := by
  by_cases here : i = u
  · subst here
    rw [Function.update_self]
    obtain ⟨clock, steps⟩ := breakers i
    exact ⟨clock, steps.tail ⟨action, acted⟩⟩
  · rw [Function.update_of_ne here]
    exact breakers i

namespace Coherent

theorem moved {label : Label Choice Event} {pool : Pool calls JsError World} (coherent : Coherent site process a)
    (plain : ∀ t choice, label = .act t choice → ∀ c, a.call t = some c → c.ofGateway = false)
    (stepped : (system site).step a.pool label = some pool) : Coherent site process { a with pool } := by
  have kept : gatewayProtocol.Tracks pool.threads a.phase ∧
      ∀ i, pool.world.uses process i = a.pool.world.uses process i := by
    cases Machine.takes_of_step stepped with
    | @call _ _ _ _ outcome running performed threads =>
      have other := plain _ _ rfl _ (call_of_running running)
      rw [threads]
      refine ⟨?_, fun i => perform_uses other performed⟩
      have tracks := coherent.tracks.call running outcome
      rwa [next_phase other coherent.tracks running, Function.update_eq_self] at tracks
    | detach running world threads =>
      rw [threads]
      exact ⟨coherent.tracks.detach running, fun i => congrArg (World.uses process i) world⟩
    | event occurred threads =>
      rw [threads]
      exact ⟨coherent.tracks.append (orderly_started occurred), fun i => occur_uses occurred⟩
  exact { coherent with
    reached := .step coherent.reached (admits_free ..) stepped
    tracks := kept.1
    uses := fun i => (kept.2 i).trans (coherent.uses i) }

theorem waited {now : Int} (coherent : Coherent site process a) (later : a.clock ≤ now) :
    Coherent site process { a with clock := now, breakers := fun i => { a.breakers i with clock := now } } where
  reached := coherent.reached
  breakers i := by
    obtain ⟨clock, steps⟩ := coherent.breakers i
    refine ⟨clock, steps.tail ⟨.wait now, ?_⟩⟩
    rw [BreakerRun.act, if_pos]
    rw [coherent.clocks]
    exact later
  clocks _ := rfl
  tracks := coherent.tracks
  attended := ⟨coherent.attended.below, coherent.attended.runs, coherent.attended.waits, coherent.attended.apart⟩
  uses := coherent.uses

theorem uses_step {o : Obs} {use : GatewayUse} (coherent : Coherent site process a) (is : o.use = some use)
    (uses : run.uses = use :: (a.breakers (process t)).uses) (i : Nat) :
    (a.pool.world.log t o).uses process i = (Function.update a.breakers (process t) run i).uses := by
  rw [uses_noted (World.trace_log ..), coherent.uses]
  by_cases here : process t = i
  · subst here
    rw [if_pos rfl, is, Function.update_self, uses]
    rfl
  · rw [if_neg here, Function.update_of_ne (Ne.symm here)]

theorem called {p : Uuid} {rest : Except JsError Bool → Promise Unit} {request : GatewayPaymentRequest}
    {rest' : Except JsError Unit → Promise Unit} (coherent : Coherent site process a)
    (running : a.pool.threads[t]? = some (.call (.breakerAdmits p) rest))
    (proceeds : rest (.ok true) = .call (.gatewaySend request) rest')
    (admits : (a.breakers (process t)).Admits run) :
    Coherent site process { a with
      pool := ⟨a.pool.world.log t (.gatewayCalled request.paymentId), a.pool.threads.set t (rest' (.ok ()))⟩
      breakers := Function.update a.breakers (process t) run
      executing := Function.update a.executing t (some (a.breakers (process t)).calls) } := by
  have bound := (List.getElem?_eq_some_iff.mp running).1
  have idle := phase_idle coherent.tracks running
  have runs := (coherent.tracks.runs t _ running).2 (.ok true)
  rw [idle, proceeds] at runs
  have admitted : perform t (.breakerAdmits p) {} a.pool.world = some (.ok true, a.pool.world) := rfl
  have asked : (system site).step a.pool (.act t {}) = some ⟨a.pool.world, a.pool.threads.set t (rest (.ok true))⟩ :=
    step_call _ running admitted
  have sending : (a.pool.threads.set t (rest (.ok true)))[t]? = some (.call (.gatewaySend request) rest') := by
    rw [List.getElem?_set_self bound, proceeds]
  have delivered : perform t (.gatewaySend request) {} a.pool.world =
      some (.ok (), a.pool.world.log t (.gatewayCalled request.paymentId)) := rfl
  have sent : (system site).step ⟨a.pool.world, a.pool.threads.set t (rest (.ok true))⟩ (.act t {}) =
      some ⟨a.pool.world.log t (.gatewayCalled request.paymentId),
        (a.pool.threads.set t (rest (.ok true))).set t (rest' (.ok ()))⟩ := step_call ⟨_, _⟩ sending delivered
  rw [List.set_set] at sent
  have tracks := coherent.tracks.set bound (runs.2 (.ok ()))
  exact {
    reached := .step (.step coherent.reached (admits_free ..) asked) (admits_free ..) sent
    breakers := reachable_update coherent.breakers admits.acted
    clocks := (Function.forall_update_iff a.breakers fun _ run => run.clock = a.clock).mpr
      ⟨admits.clock.trans (coherent.clocks _), fun i _ => coherent.clocks i⟩
    tracks := by rwa [phase_update (a := a) rfl]
    attended := coherent.attended.called (executing_of_idle idle) admits
    uses := coherent.uses_step rfl admits.uses }

theorem refused {p : Uuid} {rest : Except JsError Bool → Promise Unit} (coherent : Coherent site process a)
    (running : a.pool.threads[t]? = some (.call (.breakerAdmits p) rest))
    (refuses : (a.breakers (process t)).Refuses run) :
    Coherent site process { a with
      pool := ⟨a.pool.world.log t (.breakerOpen p), a.pool.threads.set t (rest (.ok false))⟩
      breakers := Function.update a.breakers (process t) run } := by
  have refused : perform t (.breakerAdmits p) { admits := false } a.pool.world =
      some (.ok false, a.pool.world.log t (.breakerOpen p)) := rfl
  have tracks := coherent.tracks.call running (.ok false)
  have idle := phase_idle coherent.tracks running
  rw [idle] at tracks
  change gatewayProtocol.Tracks _ (Function.update a.phase t .idle) at tracks
  rw [← idle, Function.update_eq_self] at tracks
  exact {
    reached := .step coherent.reached (admits_free ..) (step_call _ running refused)
    breakers := reachable_update coherent.breakers refuses.acted
    clocks := (Function.forall_update_iff a.breakers fun _ run => run.clock = a.clock).mpr
      ⟨refuses.clock.trans (coherent.clocks _), fun i _ => coherent.clocks i⟩
    tracks := tracks
    attended := coherent.attended.refused refuses
    uses := coherent.uses_step rfl refuses.uses }

theorem answered {p : Uuid} {rest : Except JsError GatewayPaymentResponse → Promise Unit} {outcome : GatewayOutcome}
    (coherent : Coherent site process a) (running : a.pool.threads[t]? = some (.call (.gatewayReceive p) rest))
    (waits : a.executing t = some call) (settles : (a.breakers (process t)).Settles call outcome.resolves run) :
    Coherent site process { a with
      pool := ⟨a.pool.world.log t (.gatewayAnswered p outcome), a.pool.threads.set t (rest outcome.answer)⟩
      breakers := Function.update a.breakers (process t) run
      executing := Function.update a.executing t none } := by
  have received : (system site).step a.pool (.act t { outcome }) =
      some ⟨a.pool.world.log t (.gatewayAnswered p outcome), a.pool.threads.set t (rest outcome.answer)⟩ :=
    step_call _ running (perform_receive ..)
  have tracks := coherent.tracks.call running outcome.answer
  have sent : a.phase t = .sent := by rw [phase, waits, GatewayPhase.within]
  rw [sent] at tracks
  exact {
    reached := .step coherent.reached (admits_free ..) received
    breakers := reachable_update coherent.breakers settles.acted
    clocks := (Function.forall_update_iff a.breakers fun _ run => run.clock = a.clock).mpr
      ⟨settles.clock.trans (coherent.clocks _), fun i _ => coherent.clocks i⟩
    tracks := by rwa [phase_update (a := a) rfl]
    attended := coherent.attended.settled waits settles
    uses := coherent.uses_step rfl settles.uses }

theorem moves (coherent : Coherent site process a) (moves : a.Moves site config process b) :
    Coherent site process b := by
  cases moves with
  | moved plain stepped => exact coherent.moved plain stepped
  | called running proceeds admits => exact coherent.called running proceeds admits
  | refused running refuses => exact coherent.refused running refuses
  | answered running waits draws simulated settles => exact coherent.answered running waits settles
  | waited later => exact coherent.waited later

theorem step {label : AssembledLabel} (coherent : Coherent site process a)
    (stepped : a.step site config process label = some b) : Coherent site process b :=
  coherent.moves (moves_of_step coherent.tracks stepped)

end Coherent

end Assembled

end PaymentModel
