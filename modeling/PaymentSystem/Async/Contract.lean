import PaymentSystem.Async.Pool

namespace Async

variable {σ : Signature} {ε World Choice Event α β : Type}

/-- A rely-guarantee contract for the threads of a machine. `issues t w c`: what thread `t` must
    know in world `w` to make the call `c`. `rely t`: what the steps of everybody else leave of
    the knowledge of `t`. `final t`: what `t` leaves behind when it ends. -/
structure Contract (m : Machine σ ε World Choice Event) where
  issues : Nat → World → σ.Call → Prop
  rely : Nat → World → World → Prop
  fresh : Nat → World → Prop
  final : Nat → World → Prop
  rely_refl : ∀ t w, rely t w w
  rely_trans : ∀ {t w₁ w₂ w₃}, rely t w₁ w₂ → rely t w₂ w₃ → rely t w₁ w₃
  fresh_rely : ∀ {t w w'}, fresh t w → rely t w w' → fresh t w'
  call_rely : ∀ {t u w c choice outcome w'}, issues u w c →
    m.perform u c choice w = some (outcome, w') → t ≠ u → rely t w w'
  event_rely : ∀ {t n e w w' started}, m.occur n e w = some (w', started) →
    t < n ∨ n + started.length ≤ t → rely t w w'

namespace Contract

variable {m : Machine σ ε World Choice Event} (K : Contract m)

/-- A call started by another thread and run by a thread of its own. -/
def Lone (u : Nat) (c : σ.Call) (w : World) : Prop :=
  ∀ w', K.rely u w w' → K.issues u w' c ∧ ∀ choice outcome w'',
    m.perform u c choice w' = some (outcome, w'') → ∀ final, K.rely u w'' final → K.final u final

/-- From `w` on and whatever the others do, thread `t` makes only calls that the contract lets it
    issue, and returns in a world of `ok` or throws in a world of `err`. -/
def Safe (t : Nat) : Program σ ε α → (α → World → Prop) → (ε → World → Prop) → World → Prop
  | .done (.ok value), ok, _ => fun w => ∀ w', K.rely t w w' → ok value w'
  | .done (.error e), _, err => fun w => ∀ w', K.rely t w w' → err e w'
  | .call c next, ok, err => fun w => ∀ w', K.rely t w w' → K.issues t w' c ∧
      ∀ choice outcome w'', m.perform t c choice w' = some (outcome, w'') →
        Safe t (next outcome) ok err w''
  | .detach c next, ok, err => fun w => ∀ w', K.rely t w w' →
      (∀ u, K.fresh u w' → K.Lone u c w') ∧ Safe t next ok err w'

variable {K} {t : Nat} {ok : α → World → Prop} {err : ε → World → Prop}

theorem Safe.later {p : Program σ ε α} {w w' : World} (safe : K.Safe t p ok err w)
    (moved : K.rely t w w') : K.Safe t p ok err w' := by
  match p with
  | .done (.ok _) => exact fun _ later => safe _ (K.rely_trans moved later)
  | .done (.error _) => exact fun _ later => safe _ (K.rely_trans moved later)
  | .call _ _ => exact fun _ later => safe _ (K.rely_trans moved later)
  | .detach _ _ => exact fun _ later => safe _ (K.rely_trans moved later)

theorem Safe.of_later {p : Program σ ε α} {w : World}
    (safe : ∀ w', K.rely t w w' → K.Safe t p ok err w') : K.Safe t p ok err w := by
  match p with
  | .done (.ok _) => exact fun _ later => safe _ later _ (K.rely_refl _ _)
  | .done (.error _) => exact fun _ later => safe _ later _ (K.rely_refl _ _)
  | .call _ _ => exact fun _ later => safe _ later _ (K.rely_refl _ _)
  | .detach _ _ => exact fun _ later => safe _ later _ (K.rely_refl _ _)

/-- What is shown of the rest of a program is shown of it behind a call. -/
theorem Safe.call {c : σ.Call} {next : Except ε (σ.Answer c) → Program σ ε β}
    {next' : Except ε (σ.Answer c) → Program σ ε α} {ok' : β → World → Prop} {err' : ε → World → Prop} {w : World}
    (safe : K.Safe t (.call c next) ok' err' w)
    (continues : ∀ outcome w, K.Safe t (next outcome) ok' err' w → K.Safe t (next' outcome) ok err w) :
    K.Safe t (.call c next') ok err w := by
  intro w' later
  obtain ⟨issued, answers⟩ := safe w' later
  refine ⟨issued, ?_⟩
  intro choice outcome w'' performed
  exact continues outcome w'' (answers choice outcome w'' performed)

theorem Safe.detach {c : σ.Call} {next : Program σ ε β} {next' : Program σ ε α} {ok' : β → World → Prop}
    {err' : ε → World → Prop} {w : World} (safe : K.Safe t (.detach c next) ok' err' w)
    (continues : ∀ w, K.Safe t next ok' err' w → K.Safe t next' ok err w) : K.Safe t (.detach c next') ok err w := by
  intro w' later
  obtain ⟨lone, rest⟩ := safe w' later
  exact ⟨lone, continues w' rest⟩

theorem Safe.weaken {p : Program σ ε α} {ok' : α → World → Prop} {err' : ε → World → Prop}
    {w : World} (safe : K.Safe t p ok err w) (returns : ∀ value w, ok value w → ok' value w)
    (throws : ∀ e w, err e w → err' e w) : K.Safe t p ok' err' w := by
  induction p generalizing w with
  | done outcome =>
    match outcome with
    | .ok _ => exact fun _ later => returns _ _ (safe _ later)
    | .error _ => exact fun _ later => throws _ _ (safe _ later)
  | call c next ih => exact safe.call fun outcome w => ih outcome
  | detach c next ih => exact safe.detach fun w => ih

theorem Safe.pure {value : α} {w : World} (returns : ∀ w', K.rely t w w' → ok value w') :
    K.Safe t (Pure.pure value) ok err w := returns

theorem Safe.throw {e : ε} {w : World} (throws : ∀ w', K.rely t w w' → err e w') :
    K.Safe t (MonadExcept.throw e : Program σ ε α) ok err w := throws

theorem Safe.bind {p : Program σ ε β} {f : β → Program σ ε α} {w : World}
    (safe : K.Safe t p (fun value w => K.Safe t (f value) ok err w) err w) :
    K.Safe t (p >>= f) ok err w := by
  induction p generalizing w with
  | done outcome =>
    match outcome with
    | .ok _ => exact Safe.of_later safe
    | .error _ => exact safe
  | call c next ih => exact safe.call fun outcome w => ih outcome
  | detach c next ih => exact safe.detach fun w => ih

theorem Safe.tryCatch {p : Program σ ε α} {f : ε → Program σ ε α} {w : World}
    (safe : K.Safe t p ok (fun e w => K.Safe t (f e) ok err w) w) :
    K.Safe t (MonadExcept.tryCatch p f) ok err w := by
  induction p generalizing w with
  | done outcome =>
    match outcome with
    | .ok _ => exact safe
    | .error _ => exact Safe.of_later safe
  | call c next ih => exact safe.call fun outcome w => ih outcome
  | detach c next ih => exact safe.detach fun w => ih

/-- What holds when a program ends is not disturbed afterwards. -/
theorem Safe.lasting {p : Program σ ε α} {w : World} (safe : K.Safe t p ok err w) :
    K.Safe t p (fun value w => ∀ w', K.rely t w w' → ok value w')
      (fun e w => ∀ w', K.rely t w w' → err e w') w := by
  induction p generalizing w with
  | done outcome =>
    match outcome with
    | .ok _ => exact fun _ first _ second => safe _ (K.rely_trans first second)
    | .error _ => exact fun _ first _ second => safe _ (K.rely_trans first second)
  | call c next ih => exact safe.call fun outcome w => ih outcome
  | detach c next ih => exact safe.detach fun w => ih

theorem Safe.ensure {p : Program σ ε α} {cleanup : Program σ ε Unit} {w : World}
    (safe : K.Safe t p (fun value w => K.Safe t cleanup (fun _ w => ok value w) err w)
      (fun e w => K.Safe t cleanup (fun _ w => err e w) err w) w) :
    K.Safe t (p.ensure cleanup) ok err w := by
  induction p generalizing w with
  | done outcome =>
    match outcome with
    | .ok _ =>
      exact Safe.bind ((Safe.of_later safe).lasting.weaken (fun _ _ lasts => lasts)
        fun _ _ lasts => lasts _ (K.rely_refl _ _))
    | .error _ =>
      exact Safe.bind ((Safe.of_later safe).lasting.weaken (fun _ _ lasts => lasts)
        fun _ _ lasts => lasts _ (K.rely_refl _ _))
  | call c next ih => exact safe.call fun outcome w => ih outcome
  | detach c next ih => exact safe.detach fun w => ih

theorem Safe.ask {c : σ.Call} {ok : σ.Answer c → World → Prop} {w : World}
    (safe : ∀ w', K.rely t w w' → K.issues t w' c ∧
      ∀ choice outcome w'', m.perform t c choice w' = some (outcome, w'') → ∀ final, K.rely t w'' final →
        match outcome with
        | .ok value => ok value final
        | .error e => err e final) :
    K.Safe t (Program.ask c) ok err w := by
  intro w' later
  obtain ⟨issued, answers⟩ := safe w' later
  refine ⟨issued, ?_⟩
  intro choice outcome w'' performed
  have answered := answers choice outcome w'' performed
  cases outcome with
  | ok value => exact answered
  | error e => exact answered

theorem Safe.start {c : σ.Call} {ok : Unit → World → Prop} {w : World}
    (lone : ∀ w', K.rely t w w' → ∀ u, K.fresh u w' → K.Lone u c w')
    (returns : ∀ w', K.rely t w w' → ok () w') : K.Safe t (Program.start c) ok err w :=
  fun w' later => ⟨lone w' later, fun _ last => returns _ (K.rely_trans later last)⟩

/-- What the contract keeps true of a reachable pool. -/
structure Keeps (K : Contract m) (pool : Pool σ ε World) : Prop where
  safe : ∀ t p, pool.threads[t]? = some p → K.Safe t p (fun _ => K.final t) (fun _ => K.final t) pool.world
  fresh : ∀ t, pool.threads.length ≤ t → K.fresh t pool.world

/-- The programs an event starts are safe for the threads they become. -/
def Starts (K : Contract m) : Prop :=
  ∀ {n e w w' started}, m.occur n e w = some (w', started) → (∀ t, n ≤ t → K.fresh t w) →
    ∀ i p, started[i]? = some p → K.Safe (n + i) p (fun _ => K.final (n + i)) (fun _ => K.final (n + i)) w'

/-- One step of a pool of `n` threads as the contract sees it. -/
inductive Move (K : Contract m) (restriction : Restriction σ World Choice Event) (n : Nat) :
    World → World → Prop
  | call {t w w' c choice outcome} (running : t < n) (issued : K.issues t w c)
    (admitted : restriction.call t w c choice = true)
    (performed : m.perform t c choice w = some (outcome, w')) : Move K restriction n w w'
  | event {e w w' started} (fresh : ∀ t, n ≤ t → K.fresh t w) (admitted : restriction.event w e = true)
    (occurred : m.occur n e w = some (w', started)) : Move K restriction n w w'
  | idle {w} : Move K restriction n w w

variable {restriction : Restriction σ World Choice Event} {start : World} {pool next : Pool σ ε World}
  {label : Label Choice Event}

theorem Keeps.move (kept : K.Keeps pool) (admitted : restriction.admits pool label = true)
    (stepped : m.step pool label = some next) :
    K.Move restriction pool.threads.length pool.world next.world := by
  cases Machine.takes_of_step stepped with
  | call running performed _ =>
    have safe := kept.safe _ _ running _ (K.rely_refl _ _)
    have bound := (List.getElem?_eq_some_iff.mp running).1
    exact .call bound safe.1 (by simpa [Restriction.admits, running] using admitted) performed
  | detach _ world _ =>
    rw [world]
    exact .idle
  | event occurred _ => exact .event kept.fresh admitted occurred

theorem getElem?_set_cases {threads : List α} {t u : Nat} {p q : α} (found : (threads.set t p)[u]? = some q) :
    (u = t ∧ q = p) ∨ (u ≠ t ∧ threads[u]? = some q) := by
  by_cases here : u = t
  · subst here
    obtain ⟨bound, value⟩ := List.getElem?_eq_some_iff.mp found
    rw [List.getElem_set_self] at value
    exact .inl ⟨rfl, value.symm⟩
  · rw [List.getElem?_set_ne fun h => here h.symm] at found
    exact .inr ⟨here, found⟩

/-- What each thread has left to do, over one step of the pool: the thread keeps it in its own step, and the
    steps of the others do not disturb it. -/
theorem Keeps.pass (kept : K.Keeps pool) (stepped : m.step pool label = some next)
    {tracks : Nat → Program σ ε Unit → World → Prop}
    (begins : ∀ {n e w w' started}, m.occur n e w = some (w', started) → (∀ t, n ≤ t → K.fresh t w) →
      ∀ i p, started[i]? = some p → tracks (n + i) p w')
    (acts : ∀ {t c rest choice outcome w w'}, tracks t (.call c rest) w → K.issues t w c →
      m.perform t c choice w = some (outcome, w') → tracks t (rest outcome) w')
    (detaches : ∀ {t c rest w}, tracks t (.detach c rest) w → tracks t rest w ∧
      ∀ u, K.fresh u w → tracks u (.call c fun _ => .done (.ok ())) w)
    (undisturbed : ∀ {t p w w'}, tracks t p w → K.rely t w w' → tracks t p w')
    (held : ∀ t p, pool.threads[t]? = some p → tracks t p pool.world) (u : Nat) (p : Program σ ε Unit)
    (found : next.threads[u]? = some p) : tracks u p next.world := by
  cases Machine.takes_of_step stepped with
  | call running performed threads =>
    have issued := (kept.safe _ _ running _ (K.rely_refl _ _)).1
    rw [threads] at found
    rcases getElem?_set_cases found with ⟨rfl, rfl⟩ | ⟨other, old⟩
    · exact acts (held _ _ running) issued performed
    · exact undisturbed (held u p old) (K.call_rely issued performed other)
  | detach running world threads =>
    obtain ⟨goes, alone⟩ := detaches (held _ _ running)
    rw [threads, List.getElem?_append, List.length_set] at found
    rw [world]
    split at found
    · rcases getElem?_set_cases found with ⟨rfl, rfl⟩ | ⟨_, old⟩
      · exact goes
      · exact held u p old
    · obtain ⟨_, rfl⟩ := List.getElem?_eq_some_iff.mp found
      rw [List.getElem_singleton]
      exact alone u (kept.fresh u (by omega))
  | event occurred threads =>
    rw [threads, List.getElem?_append] at found
    split at found
    · rename_i old
      exact undisturbed (held u p found) (K.event_rely occurred (.inl old))
    · have begun := begins occurred kept.fresh _ p found
      have index : pool.threads.length + (u - pool.threads.length) = u := by omega
      rwa [index] at begun

theorem Keeps.step (starts : K.Starts) (kept : K.Keeps pool) (stepped : m.step pool label = some next) :
    K.Keeps next := by
  constructor
  · refine kept.pass stepped starts ?_ ?_ Safe.later kept.safe
    · intro t c rest choice outcome w w' safe issued performed
      exact (safe w (K.rely_refl t w)).2 choice outcome w' performed
    · intro t c rest w safe
      obtain ⟨lone, continues⟩ := safe w (K.rely_refl t w)
      refine ⟨continues, ?_⟩
      intro u fresh w' later
      obtain ⟨issued, ends⟩ := lone u fresh w' later
      exact ⟨issued, fun choice outcome w'' performed final after => ends choice outcome w'' performed final after⟩
  · intro u beyond
    cases Machine.takes_of_step stepped with
    | call running performed threads =>
      have safe := kept.safe _ _ running _ (K.rely_refl _ _)
      have bound := (List.getElem?_eq_some_iff.mp running).1
      rw [threads, List.length_set] at beyond
      exact K.fresh_rely (kept.fresh u beyond) (K.call_rely safe.1 performed (by omega))
    | detach running world threads =>
      simp only [threads, List.length_append, List.length_set, List.length_singleton] at beyond
      rw [world]
      exact kept.fresh u (by omega)
    | event occurred threads =>
      rw [threads, List.length_append] at beyond
      exact K.fresh_rely (kept.fresh u (by omega)) (K.event_rely occurred (.inr beyond))

theorem keeps (starts : K.Starts) (fresh : ∀ t, K.fresh t start)
    (reached : m.Reachable start restriction pool) : K.Keeps pool := by
  induction reached with
  | start => exact ⟨fun t p found => by simp at found, fun t _ => fresh t⟩
  | step _ _ stepped ih => exact ih.step starts stepped

/-- The induction rule for what each thread has left to do. -/
theorem each (starts : K.Starts) (fresh : ∀ t, K.fresh t start) (tracks : Nat → Program σ ε Unit → World → Prop)
    (begins : ∀ {n e w w' started}, m.occur n e w = some (w', started) → (∀ t, n ≤ t → K.fresh t w) →
      ∀ i p, started[i]? = some p → tracks (n + i) p w')
    (acts : ∀ {t c rest choice outcome w w'}, tracks t (.call c rest) w → K.issues t w c →
      m.perform t c choice w = some (outcome, w') → tracks t (rest outcome) w')
    (detaches : ∀ {t c rest w}, tracks t (.detach c rest) w → tracks t rest w)
    (alone : ∀ {t c w}, K.fresh t w → tracks t (.call c fun _ => .done (.ok ())) w)
    (undisturbed : ∀ {t p w w'}, tracks t p w → K.rely t w w' → tracks t p w')
    (reached : m.Reachable start restriction pool) :
    ∀ t p, pool.threads[t]? = some p → tracks t p pool.world := by
  induction reached with
  | start => exact fun t p found => by simp at found
  | step before _ stepped ih =>
    have kept := keeps starts fresh before
    exact kept.pass stepped begins acts (fun held => ⟨detaches held, fun _ => alone⟩) undisturbed ih

/-- The induction rule for properties of the world: they need to survive contractual moves only. -/
theorem invariant (starts : K.Starts) (fresh : ∀ t, K.fresh t start) (property : World → Prop)
    (initial : property start)
    (preserved : ∀ n w w', property w → K.Move restriction n w w' → property w')
    (reached : m.Reachable start restriction pool) : property pool.world := by
  induction reached with
  | start => exact initial
  | step before admitted stepped ih =>
    exact preserved _ _ _ ih ((keeps starts fresh before).move admitted stepped)

/-- The same from a reachable pool on. -/
theorem lasting (starts : K.Starts) (fresh : ∀ t, K.fresh t start) (property : World → Prop)
    (preserved : ∀ n w w', property w → K.Move restriction n w w' → property w')
    (reached : m.Reachable start restriction pool) (held : property pool.world)
    {labels : List (Label Choice Event)} (ran : m.run restriction pool labels = some next) :
    property next.world := by
  induction labels generalizing pool with
  | nil =>
    cases ran
    exact held
  | cons label labels ih =>
    obtain ⟨middle, admitted, stepped, rest⟩ := Machine.run_cons ran
    exact ih (.step reached admitted stepped)
      (preserved _ _ _ held ((keeps starts fresh reached).move admitted stepped)) rest

/-- A thread that has ended has left behind what the contract asks of it. -/
theorem Keeps.final (kept : K.Keeps pool) {t : Nat} {p : Program σ ε Unit} (found : pool.threads[t]? = some p)
    (ended : p.ended = true) : K.final t pool.world := by
  have safe := kept.safe t p found
  match p with
  | .done (.ok _) => exact safe _ (K.rely_refl _ _)
  | .done (.error _) => exact safe _ (K.rely_refl _ _)

end Contract

end Async
