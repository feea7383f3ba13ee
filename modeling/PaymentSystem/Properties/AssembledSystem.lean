import PaymentSystem.Proof.Assembled
import PaymentSystem.Properties.OpenCircuit

namespace PaymentModel

open Async

variable {site : Deployment} {config : GatewaySimulatorConfig} {process : Nat → Nat} {a b later : Assembled}
  {t i : Nat} {choice : Choice} {labels : List AssembledLabel}

namespace Assembled

theorem tracks_start (clock : Int) : gatewayProtocol.Tracks (start clock).pool.threads (start clock).phase where
  runs _ _ running := by cases running
  fresh _ _ := rfl

theorem Coherent.initial (clock : Int) : Coherent site process (start clock) where
  reached := .start
  breakers _ := ⟨clock, .refl⟩
  clocks _ := rfl
  tracks := tracks_start clock
  attended := ⟨nofun, nofun, nofun, nofun⟩
  uses _ := rfl

theorem coherent_of_reachable (reached : Reachable site config process a) : Coherent site process a := by
  induction reached with
  | start clock => exact .initial clock
  | step _ stepped ih => exact ih.step stepped

theorem moves_some {label : Label Choice Event} {pool : Pool calls JsError World}
    (stepped : (system site).step a.pool label = some pool) : a.move site label = some { a with pool } := by
  rw [move, stepped]
  rfl

theorem breakerActs_some {action : BreakerAction} {run : BreakerRun}
    (acted : (a.breakers (process t)).gatewayAct action = some run) :
    a.breakerActs process t action = some { a with breakers := Function.update a.breakers (process t) run } := by
  have acted : (a.breakers (process t)).act "payment-gateway" gatewayCircuitBreakerOptions action = some run := acted
  rw [breakerActs, acted]
  rfl

/-- `execute` never blocks. -/
theorem execute_proceeds (coherent : Coherent site process a) {p : Uuid} {rest : Except JsError Bool → Promise Unit}
    (running : a.pool.threads[t]? = some (.call (.breakerAdmits p) rest)) :
    ∃ next, a.execute site process t {} = some next := by
  unfold execute
  rcases admitted_cases a process t with ⟨passes, run, admits⟩ | ⟨refuses, run, refused⟩
  · have runs := (coherent.tracks.runs t _ running).2 (.ok true)
    rw [phase_idle coherent.tracks running] at runs
    obtain ⟨request, rest', proceeds⟩ := sends_admitted runs
    have sends : (a.pool.threads.set t (rest (.ok true)))[t]? = some (.call (.gatewaySend request) rest') := by
      rw [List.getElem?_set_self (List.getElem?_eq_some_iff.mp running).1, proceeds]
    have admitted : perform t (.breakerAdmits p) {} a.pool.world = some (.ok true, a.pool.world) := rfl
    have delivered : perform t (.gatewaySend request) {} a.pool.world =
        some (.ok (), a.pool.world.log t (.gatewayCalled request.paymentId)) := rfl
    rw [breakerActs_some admits.acted, Option.bind_some, if_pos passes]
    exact ⟨_, Option.bind_eq_some_iff.mpr ⟨_, moves_some (step_call a.pool running admitted),
      moves_some (step_call ⟨a.pool.world, _⟩ sends delivered)⟩⟩
  · have refuses' : perform t (.breakerAdmits p) { admits := false } a.pool.world =
        some (.ok false, a.pool.world.log t (.breakerOpen p)) := rfl
    rw [breakerActs_some refused.acted, Option.bind_some, if_neg (by rw [refuses]; exact Bool.false_ne_true)]
    exact ⟨_, moves_some (step_call a.pool running refuses')⟩

/-- A thread that waits for the gateway is always answered. -/
theorem settle_proceeds (coherent : Coherent site process a) {p : Uuid}
    {rest : Except JsError GatewayPaymentResponse → Promise Unit}
    (running : a.pool.threads[t]? = some (.call (.gatewayReceive p) rest)) :
    ∃ next, a.settle site config process t {} 0 = some next := by
  have allows := coherent.tracks.allows running
  unfold phase at allows
  cases waits : a.executing t with
  | none =>
    rw [waits] at allows
    exact allows.elim
  | some call =>
    obtain ⟨run, settles⟩ := settle_settles
      (GatewaySimulator.processPayment config ({} : Choice).uuid 0 ({} : Choice).random).1.resolves
      (coherent.attended.runs t call waits)
    simp only [settle, waits]
    rw [if_pos (by norm_num), breakerActs_some settles.acted, Option.bind_some]
    exact ⟨_, moves_some (step_call a.pool running (perform_receive ..))⟩

/-- What has nothing to do with the gateway goes on as in the system. -/
theorem act_plain {rand : Rat} {next : Pool calls JsError World} (plain : ∀ c, a.call t = some c → c.ofGateway = false)
    (stepped : (system site).step a.pool (.act t choice) = some next) :
    a.step site config process (.act t choice rand) = some { a with pool := next } := by
  rw [step, act]
  split
  · rename_i asked
    cases plain _ asked
  · rename_i asked
    cases plain _ asked
  · rename_i asked
    cases plain _ asked
  · exact moves_some stepped

theorem act_proceeds (coherent : Coherent site process a) {next : Pool calls JsError World}
    (stepped : (system site).step a.pool (.act t choice) = some next) :
    ∃ choice rand later, a.step site config process (.act t choice rand) = some later := by
  by_cases plain : ∀ c, a.call t = some c → c.ofGateway = false
  · exact ⟨choice, 0, _, act_plain plain stepped⟩
  · simp only [not_forall] at plain
    obtain ⟨c, found, other⟩ := plain
    obtain ⟨rest, running⟩ := call_eq found
    cases c with
    | breakerAdmits p =>
      obtain ⟨later, executed⟩ := execute_proceeds coherent running
      refine ⟨{}, 0, later, ?_⟩
      rw [step, act, found]
      exact executed
    | gatewayReceive p =>
      obtain ⟨later, settled⟩ := @settle_proceeds site config process a t coherent p rest running
      refine ⟨{}, 0, later, ?_⟩
      rw [step, act, found]
      exact settled
    | gatewaySend request =>
      have allows := coherent.tracks.allows running
      unfold phase at allows
      cases waits : a.executing t <;> rw [waits] at allows <;> exact allows.elim
    | _ => exact (other rfl).elim

theorem Reachable.run {later : Assembled} (reached : Reachable site config process a)
    (ran : a.run site config process labels = some later) : Reachable site config process later := by
  induction labels generalizing a with
  | nil =>
    cases ran
    exact reached
  | cons label labels ih =>
    obtain ⟨next, stepped, rest⟩ := Option.bind_eq_some_iff.mp ran
    exact ih (.step reached stepped) rest

theorem reachable_of_run (site : Deployment) (config : GatewaySimulatorConfig) (process : Nat → Nat)
    (labels : List AssembledLabel) (shows : Assembled → Bool)
    (ran : ((start 0).run site config process labels).any shows = true) :
    ∃ a, Reachable site config process a ∧ shows a = true := by
  obtain ⟨a, ran, shown⟩ := (Option.any_eq_true _ _).mp ran
  exact ⟨a, .run (.start 0) ran, shown⟩

/-- To the breaker of a process a step of the system is one of its own or none. -/
theorem Moves.breaker (moves : a.Moves site config process b) (clocks : ∀ i, (a.breakers i).clock = a.clock) (i : Nat) :
    Relation.ReflGen (BreakerRun.Step "payment-gateway" gatewayCircuitBreakerOptions) (a.breakers i)
      (b.breakers i) := by
  have one : ∀ {u : Nat} {action : BreakerAction} {run : BreakerRun}, (a.breakers u).gatewayAct action = some run →
      Relation.ReflGen (BreakerRun.Step "payment-gateway" gatewayCircuitBreakerOptions) (a.breakers i)
        (Function.update a.breakers u run i) := by
    intro u action run acted
    by_cases here : i = u
    · subst here
      rw [Function.update_self]
      exact .single ⟨action, acted⟩
    · exact Function.update_of_ne here run a.breakers ▸ .refl
  cases moves with
  | moved => exact .refl
  | called _ _ admits => exact one admits.acted
  | refused _ refuses => exact one refuses.acted
  | answered _ _ _ _ settles => exact one settles.acted
  | @waited now later =>
    refine .single ⟨.wait now, ?_⟩
    rw [BreakerRun.act, if_pos]
    rw [clocks]
    exact later

theorem breaker_of_run (coherent : Coherent site process a) (ran : a.run site config process labels = some later)
    (i : Nat) : BreakerRun.Steps "payment-gateway" gatewayCircuitBreakerOptions (a.breakers i) (later.breakers i) := by
  induction labels generalizing a with
  | nil =>
    cases ran
    exact .refl
  | cons label labels ih =>
    obtain ⟨next, stepped, rest⟩ := Option.bind_eq_some_iff.mp ran
    have first := (moves_of_step coherent.tracks stepped).breaker coherent.clocks i
    exact first.to_reflTransGen.trans (ih (coherent.step stepped) rest)

theorem Moves.grows (moves : a.Moves site config process b) (reached : Reached site .free a.pool) :
    a.pool.world.trace <:+ b.pool.world.trace := by
  cases moves with
  | @moved label pool _ stepped =>
    have ran : (system site).run .free a.pool [label] = some pool := by
      rw [Machine.run, if_pos (admits_free ..), stepped]
      rfl
    refine lasting_of_steps (fun w => a.pool.world.trace <:+ w.trace) ?_ reached List.suffix_rfl ran
    intro t w w' held step
    exact held.trans step.grows
  | called | refused | answered => exact List.suffix_cons _ _
  | waited => exact List.suffix_rfl

theorem grows_of_run (coherent : Coherent site process a) (ran : a.run site config process labels = some later) :
    a.pool.world.trace <:+ later.pool.world.trace := by
  induction labels generalizing a with
  | nil =>
    cases ran
    exact List.suffix_rfl
  | cons label labels ih =>
    obtain ⟨next, stepped, rest⟩ := Option.bind_eq_some_iff.mp ran
    have grown := (moves_of_step coherent.tracks stepped).grows coherent.reached
    exact grown.trans (ih (coherent.step stepped) rest)

end Assembled

/-- What a breaker that opened at time `opened.clock` has let through since. -/
structure Sparing (opened run : BreakerRun) : Prop where
  guarded : Guarded gatewayCircuitBreakerOptions opened.clock opened.trace run
  spares : ∃ uses, run.uses = uses ++ opened.uses ∧ (run.clock < opened.clock + 30000 → .called ∉ uses)

theorem waits_elapsed {now opened : Int}
    (elapsed : gatewayCircuitBreakerOptions.resetTimeout.le (.finite (now - opened : Int)) = true) :
    ¬now < opened + 30000 := by
  have elapsed : (30000 : Rat) ≤ ((now - opened : Int) : Rat) := of_decide_eq_true elapsed
  have elapsed : (30000 : Int) ≤ now - opened := by exact_mod_cast elapsed
  omega

theorem Sparing.moves {opened run next : BreakerRun} (sparing : Sparing opened run)
    (moves : BreakerRun.Moves gatewayCircuitBreakerOptions run next) : Sparing opened next := by
  obtain ⟨guarded, uses, same, spares⟩ := sparing
  refine ⟨guarded.moves moves, ?_⟩
  have gate := guarded.gate
  cases moves with
  | wait now later => exact ⟨uses, same, fun early => spares (by change now < _ at early; omega)⟩
  | pass passes =>
    have elapsed := gate.resolve_left fun shut => passes shut.1
    refine ⟨.called :: uses, ?_, fun early => (waits_elapsed elapsed early).elim⟩
    exact congrArg (List.cons _) same
  | probe shut elapsed =>
    have elapsed := gate.elim (fun shut => elapsed_later elapsed shut.2) id
    refine ⟨.called :: uses, ?_, fun early => (waits_elapsed elapsed early).elim⟩
    exact congrArg (List.cons _) same
  | reject shut =>
    refine ⟨.refused :: uses, congrArg (List.cons _) same, fun early => ?_⟩
    simpa using spares early
  | settle call success runs =>
    refine ⟨.answered success :: uses, (uses_become _ _).trans (congrArg (List.cons _) same), fun early => ?_⟩
    rw [BreakerRun.become_clock] at early
    simpa using spares early

namespace Assembled

/-- The assembled system is faithful to both levels: the store, the queues and the handlers run as the system does
    when the breaker and the gateway may answer anything, each breaker runs as one that is alone, both have the same
    history of calls, refusals and answers, the running calls of the breakers are those in which threads wait, and
    whenever a thread of the system could take a step it can take one. -/
theorem assembled_refines (reached : Reachable site config process a) :
    Reached site .free a.pool ∧
      (∀ i, (a.breakers i).Reachable "payment-gateway" gatewayCircuitBreakerOptions) ∧
      (∀ i, a.pool.world.uses process i = (a.breakers i).uses) ∧
      Attended process a.executing a.breakers ∧
      (∀ t choice rand next, (∀ c, a.call t = some c → c.ofGateway = false) →
        (system site).step a.pool (.act t choice) = some next →
        a.step site config process (.act t choice rand) = some { a with pool := next }) ∧
      (∀ t choice next, (system site).step a.pool (.act t choice) = some next →
        ∃ choice rand later, a.step site config process (.act t choice rand) = some later) ∧
      ∀ e next, (system site).step a.pool (.event e) = some next →
        a.step site config process (.event e) = some { a with pool := next } := by
  have coherent := coherent_of_reachable reached
  refine ⟨coherent.reached, coherent.breakers, coherent.uses, coherent.attended, ?_, ?_, ?_⟩
  · exact fun t choice rand next plain stepped => act_plain plain stepped
  · exact fun t choice next stepped => act_proceeds coherent stepped
  · exact fun e next stepped => moves_some stepped

def numberedId (kind : Char) (n : Nat) : Uuid :=
  (Uuid.ofHyphenated ("7c9e6679-7425-40de-944b-e07fc1f90a".toList ++ [kind, Nat.digitChar n])).getD .zero

/-- The sample order is placed once more, and a worker takes it to the gateway. -/
def orderToGateway (n : Nat) : List AssembledLabel :=
  let id := numberedId 'a' n
  let worker := 2 * n + 1
  .event (.post (sampleOrder none trimmed_none)) :: (acts (2 * n) [{}, { uuid := id }, {}, {}, {}]).map released ++
    .event (.deliverProcess ⟨id⟩) :: (acts worker [{ uuid := numberedId 'b' n }, {}, {}, {}, {}]).map released
where
  released : Label Choice Event → AssembledLabel
    | .act t choice => .act t choice 0
    | .event e => .event e

/-- The gateway is not reached for ten orders; the last of them waits for its answer. -/
def tenUnreached : List AssembledLabel :=
  ((List.range 9).flatMap fun n => orderToGateway n ++ [.act (2 * n + 1) {} (9 / 10)]) ++ orderToGateway 9

/-- One process, up to the step that opens its breaker. -/
theorem assembled_refines_tripping : ∃ a : Assembled, Reachable sampleSite {} (fun _ => 0) a ∧
    ((a.step sampleSite {} (fun _ => 0) (.act 19 {} (9 / 10))).any fun b =>
      (b.breakers 0).breaker.state = .opened) = true ∧
    a.pool.world.uses (fun _ => 0) 0 = (a.breakers 0).uses ∧ Attended (fun _ => 0) a.executing a.breakers := by
  obtain ⟨a, reached, shown⟩ := reachable_of_run sampleSite {} (fun _ => 0) tenUnreached
    (fun a => (a.step sampleSite {} (fun _ => 0) (.act 19 {} (9 / 10))).any fun b =>
      (b.breakers 0).breaker.state = .opened) (by decide +kernel)
  have refines := assembled_refines reached
  exact ⟨a, reached, shown, refines.2.2.1 0, refines.2.2.2.1⟩

/-- After the breaker of a process has opened, no thread of the process calls the gateway for thirty seconds. -/
theorem gateway_spared_while_open {label : AssembledLabel} (reached : Reachable site config process a)
    (tripped : a.step site config process label = some b) (before : (a.breakers i).breaker.state ≠ .opened)
    (opens : (b.breakers i).breaker.state = .opened) (ran : b.run site config process labels = some later)
    (early : later.clock < b.clock + 30000) : ∃ new, later.pool.world.trace = new ++ b.pool.world.trace ∧
      ∀ t p, process t = i → (t, .gatewayCalled p) ∉ new := by
  have coherent := coherent_of_reachable reached
  have coherent' := coherent.step tripped
  have coherent'' := coherent_of_reachable (Reachable.run (.step reached tripped) ran)
  have trips : BreakerRun.Step "payment-gateway" gatewayCircuitBreakerOptions (a.breakers i) (b.breakers i) := by
    rcases (Relation.reflGen_iff _ _ _).mp ((moves_of_step coherent.tracks tripped).breaker coherent.clocks i) with
      same | step
    · rw [same] at opens
      exact (before opens).elim
    · exact step
  have sparing : Sparing (b.breakers i) (later.breakers i) := by
    refine (breaker_of_run coherent' ran i).keep _ (fun _ _ sparing moves => sparing.moves moves) ?_
    exact ⟨guarded_of_opening trips.moves before opens, [], rfl, fun _ => List.not_mem_nil⟩
  obtain ⟨uses, since, spares⟩ := sparing.spares
  rw [coherent'.clocks, coherent''.clocks] at spares
  obtain ⟨new, grown⟩ := grows_of_run coherent' ran
  refine ⟨new, grown.symm, ?_⟩
  rintro t p rfl member
  rw [← coherent''.uses, ← coherent'.uses, World.uses, World.uses, ← grown, List.filterMap_append,
    List.append_cancel_right_eq] at since
  refine spares early ?_
  rw [← since]
  exact List.mem_filterMap.mpr ⟨_, member, if_pos rfl⟩

/-- An eleventh order is placed in the meantime, and its attempt is refused. -/
theorem gateway_spared_while_open_refused : ∃ b later : Assembled,
    (b.breakers 0).breaker.state = .opened ∧ .refused ∈ (later.breakers 0).uses ∧
      ∃ new, later.pool.world.trace = new ++ b.pool.world.trace ∧ ∀ t p, (t, .gatewayCalled p) ∉ new := by
  obtain ⟨a, reached, shown⟩ := reachable_of_run sampleSite {} (fun _ => 0) tenUnreached
    (fun a => (a.breakers 0).breaker.state = .closed &&
      (a.step sampleSite {} (fun _ => 0) (.act 19 {} (9 / 10))).any fun b => (b.breakers 0).breaker.state = .opened &&
        (b.run sampleSite {} (fun _ => 0) (.wait 29999 :: orderToGateway 10)).any fun later =>
          (later.breakers 0).uses.contains .refused && later.clock < b.clock + 30000) (by decide +kernel)
  simp only [Bool.and_eq_true, decide_eq_true_eq, Option.any_eq_true, List.contains_iff_mem] at shown
  obtain ⟨before, b, tripped, opens, later, ran, refused, early⟩ := shown
  obtain ⟨new, grown, spared⟩ := gateway_spared_while_open reached tripped (by simp [before]) opens ran early
  exact ⟨b, later, opens, refused, new, grown, fun t p => spared t p rfl⟩

end Assembled

end PaymentModel
