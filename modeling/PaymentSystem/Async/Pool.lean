import PaymentSystem.Async.Program

namespace Async

/-- The shared world the programs act on. `choice` is what the environment decides about one
    call (its answer, whether it fails); an event is a step of the environment alone and may
    start programs. The number passed along is the index of the acting, or of the next, thread. -/
structure Machine (σ : Signature) (ε World Choice Event : Type) where
  perform : Nat → (c : σ.Call) → Choice → World → Option (Except ε (σ.Answer c) × World)
  occur : Nat → Event → World → Option (World × List (Program σ ε Unit))

structure Pool (σ : Signature) (ε World : Type) where
  world : World
  threads : List (Program σ ε Unit)

inductive Label (Choice Event : Type) where
  | act (thread : Nat) (choice : Choice)
  | event (e : Event)

/-- What the steps of a run are required to satisfy. -/
structure Restriction (σ : Signature) (World Choice Event : Type) where
  call : Nat → World → σ.Call → Choice → Bool
  event : World → Event → Bool

variable {σ : Signature} {ε World Choice Event : Type}

def Restriction.free : Restriction σ World Choice Event := ⟨fun _ _ _ _ => true, fun _ _ => true⟩

def Restriction.admits (restriction : Restriction σ World Choice Event) (pool : Pool σ ε World) :
    Label Choice Event → Bool
  | .act t choice =>
    match pool.threads[t]? with
    | some (.call c _) => restriction.call t pool.world c choice
    | _ => true
  | .event e => restriction.event pool.world e

def Pool.quiet (pool : Pool σ ε World) : Bool := pool.threads.all Program.ended

namespace Machine

/-- One step of the interleaving: a thread performs its next call, or an event occurs. -/
def step (m : Machine σ ε World Choice Event) (pool : Pool σ ε World) :
    Label Choice Event → Option (Pool σ ε World)
  | .act t choice =>
    match pool.threads[t]? with
    | some (.call c next) =>
      (m.perform t c choice pool.world).map fun (outcome, world) =>
        ⟨world, pool.threads.set t (next outcome)⟩
    | some (.detach c next) =>
      some ⟨pool.world, pool.threads.set t next ++ [.call c fun _ => .done (.ok ())]⟩
    | _ => none
  | .event e =>
    (m.occur pool.threads.length e pool.world).map fun (world, started) =>
      ⟨world, pool.threads ++ started⟩

/-- The pools that restricted runs from `start` reach. -/
inductive Reachable (m : Machine σ ε World Choice Event) (start : World)
    (restriction : Restriction σ World Choice Event) : Pool σ ε World → Prop
  | start : Reachable m start restriction ⟨start, []⟩
  | step {pool next : Pool σ ε World} {label : Label Choice Event} :
    Reachable m start restriction pool → restriction.admits pool label = true →
    m.step pool label = some next → Reachable m start restriction next

/-- The run of a list of labels, as far as each of them is admitted where it is taken. -/
def run (m : Machine σ ε World Choice Event) (restriction : Restriction σ World Choice Event) :
    Pool σ ε World → List (Label Choice Event) → Option (Pool σ ε World)
  | pool, [] => some pool
  | pool, label :: labels =>
    if restriction.admits pool label then (m.step pool label).bind fun next => m.run restriction next labels
    else none

/-- What a step of the interleaving does, by its label. -/
inductive Takes (m : Machine σ ε World Choice Event) (pool next : Pool σ ε World) : Label Choice Event → Prop
  | call {t : Nat} {choice : Choice} {c : σ.Call} {rest : Except ε (σ.Answer c) → Program σ ε Unit}
    {outcome : Except ε (σ.Answer c)} (running : pool.threads[t]? = some (.call c rest))
    (performed : m.perform t c choice pool.world = some (outcome, next.world))
    (threads : next.threads = pool.threads.set t (rest outcome)) : Takes m pool next (.act t choice)
  | detach {t : Nat} {choice : Choice} {c : σ.Call} {rest : Program σ ε Unit}
    (running : pool.threads[t]? = some (.detach c rest)) (world : next.world = pool.world)
    (threads : next.threads = pool.threads.set t rest ++ [.call c fun _ => .done (.ok ())]) :
    Takes m pool next (.act t choice)
  | event {e : Event} {started : List (Program σ ε Unit)}
    (occurred : m.occur pool.threads.length e pool.world = some (next.world, started))
    (threads : next.threads = pool.threads ++ started) : Takes m pool next (.event e)

theorem takes_of_step {m : Machine σ ε World Choice Event} {pool next : Pool σ ε World} {label : Label Choice Event}
    (stepped : m.step pool label = some next) : m.Takes pool next label := by
  cases label with
  | act t choice =>
    simp only [step] at stepped
    split at stepped
    · rename_i c rest running
      obtain ⟨⟨outcome, w'⟩, performed, same⟩ := Option.map_eq_some_iff.mp stepped
      subst same
      exact .call running performed rfl
    · rename_i c rest running
      cases stepped
      exact .detach running rfl rfl
    · cases stepped
  | event e =>
    obtain ⟨⟨w', started⟩, occurred, same⟩ := Option.map_eq_some_iff.mp stepped
    subst same
    exact .event occurred rfl

theorem Reachable.weaken {m : Machine σ ε World Choice Event} {start : World}
    {strong weak : Restriction σ World Choice Event} {pool : Pool σ ε World}
    (reached : m.Reachable start strong pool)
    (calls : ∀ t w c choice, strong.call t w c choice = true → weak.call t w c choice = true)
    (events : ∀ w e, strong.event w e = true → weak.event w e = true) : m.Reachable start weak pool := by
  induction reached with
  | start => exact .start
  | step _ admitted stepped ih =>
    refine .step ih ?_ stepped
    cases ‹Label Choice Event› with
    | act t choice =>
      simp only [Restriction.admits] at admitted ⊢
      split
      · rename_i running
        simp only [running] at admitted
        exact calls _ _ _ _ admitted
      · rfl
    | event e => exact events _ _ admitted

/-- What holds of every call of the programs that are started holds of the calls of every thread. -/
theorem Reachable.all {m : Machine σ ε World Choice Event} {start : World}
    {restriction : Restriction σ World Choice Event} {property : σ.Call → Prop} {pool : Pool σ ε World}
    (starts : ∀ n e w w' started, m.occur n e w = some (w', started) → ∀ p ∈ started, p.All property)
    (reached : m.Reachable start restriction pool) : ∀ p ∈ pool.threads, p.All property := by
  induction reached with
  | start => simp
  | step _ _ stepped ih =>
    intro p member
    cases takes_of_step stepped with
    | call running performed threads =>
      rw [threads] at member
      rcases List.mem_or_eq_of_mem_set member with old | rfl
      · exact ih p old
      · exact (ih _ (List.mem_of_getElem? running)).2 _
    | detach running world threads =>
      have here := ih _ (List.mem_of_getElem? running)
      rw [threads] at member
      rcases List.mem_append.mp member with member | member
      · rcases List.mem_or_eq_of_mem_set member with old | rfl
        · exact ih p old
        · exact here.2
      · cases List.mem_singleton.mp member
        exact ⟨here.1, fun _ => trivial⟩
    | event occurred threads =>
      rw [threads] at member
      rcases List.mem_append.mp member with old | new
      · exact ih p old
      · exact starts _ _ _ _ _ occurred p new

theorem run_cons {m : Machine σ ε World Choice Event} {restriction : Restriction σ World Choice Event}
    {label : Label Choice Event} {labels : List (Label Choice Event)} {pool final : Pool σ ε World}
    (ran : m.run restriction pool (label :: labels) = some final) :
    ∃ next, restriction.admits pool label = true ∧ m.step pool label = some next ∧
      m.run restriction next labels = some final := by
  rw [Machine.run] at ran
  split at ran
  · rename_i admitted
    obtain ⟨next, stepped, rest⟩ := Option.bind_eq_some_iff.mp ran
    exact ⟨next, admitted, stepped, rest⟩
  · cases ran

theorem Reachable.run {m : Machine σ ε World Choice Event} {start : World}
    {restriction : Restriction σ World Choice Event}
    {labels : List (Label Choice Event)} {pool final : Pool σ ε World}
    (reached : m.Reachable start restriction pool) (ran : m.run restriction pool labels = some final) :
    m.Reachable start restriction final := by
  induction labels generalizing pool with
  | nil =>
    cases ran
    exact reached
  | cons label labels ih =>
    obtain ⟨next, admitted, stepped, rest⟩ := run_cons ran
    exact ih (.step reached admitted stepped) rest

end Machine

end Async
