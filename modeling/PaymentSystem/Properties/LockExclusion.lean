import PaymentSystem.Model.ClockedSystem
import PaymentSystem.Proof.CallNotes
import PaymentSystem.Proof.LockTimes
import PaymentSystem.Proof.Locks

namespace PaymentModel

open Async

variable {site : Deployment} {R : Condition} {t u : Nat} {w w' : World} {c : Call} {choice : Choice} {o : Obs}
  {key token : String} {overhead : Rat} {clocked next : Clocked}

theorem insideLock_of_holds {h : List Obs} (holds : Holds h key token) : insideLock h = true := by
  obtain ⟨locked, inside⟩ := holds
  refine List.any_eq_true.mpr ⟨_, locked, ?_⟩
  simp only [Bool.not_eq_true', List.any_eq_false]
  intro o member
  cases o with
  | unlocked key' token' =>
    simp only [Bool.and_eq_true, decide_eq_true_eq, not_and]
    rintro rfl rfl
    exact inside member
  | _ => simp

open Classical in
/-- No lock expires while its holder is inside `withLock`. -/
noncomputable def lastingLocks : Condition where
  call _ _ _ _ := true
  event w e :=
    match e with
    | .expireLock key => decide (∀ t token, Holds (w.history t) key token → w.locks key ≠ some token)
    | _ => true

theorem lastingLocks_last : LocksLast lastingLocks := by
  intro w key admitted
  simpa [lastingLocks] using admitted

def hasCalled (h : List Obs) : Bool := h.any fun o => match o with
  | .gatewayCalled _ => true
  | _ => false

theorem hasCalled_iff {h : List Obs} : hasCalled h = true ↔ ∃ p, .gatewayCalled p ∈ h := by
  simp only [hasCalled, List.any_eq_true]
  constructor
  · rintro ⟨o, member, is⟩
    cases o with
    | gatewayCalled p => exact ⟨p, member⟩
    | _ => cases is
  · rintro ⟨p, member⟩
    exact ⟨_, member, rfl⟩

namespace Clocked

/-- The time by which thread `t` leaves the lock it is inside of. -/
def due (overhead : Rat) (clocked : Clocked) (t : Nat) : Rat :=
  match clocked.asked t with
  | some start => start + GatewaySimulator.longestScenario + (overhead - clocked.spent t)
  | none => clocked.clock + (overhead - clocked.spent t) +
      if hasCalled (clocked.pool.world.history t) then 0 else GatewaySimulator.longestScenario

/-- What the clock and the deadlines of the locks have to do with each other. -/
structure Paced (site : Deployment) (overhead : Rat) (clocked : Clocked) : Prop where
  reached : Reached site lastingLocks clocked.pool
  asked : ∀ t start, clocked.asked t = some start → start ≤ clocked.clock ∧
    clocked.clock ≤ start + GatewaySimulator.longestScenario ∧ hasCalled (clocked.pool.world.history t) = true
  spent : ∀ t, 0 ≤ clocked.spent t ∧ clocked.spent t ≤ overhead
  inside : ∀ t key token, Holds (clocked.pool.world.history t) key token →
    clocked.due overhead t < clocked.deadlines key

theorem Paced.clock_le (paced : Paced site overhead clocked) (t : Nat) : clocked.clock ≤ clocked.due overhead t := by
  have spent := (paced.spent t).2
  unfold due
  cases asked : clocked.asked t with
  | some start =>
    have := (paced.asked t start asked).2.1
    dsimp only
    linarith
  | none =>
    dsimp only
    split
    · linarith
    · have : (0 : Rat) ≤ GatewaySimulator.longestScenario := by norm_num [GatewaySimulator.longestScenario]
      linarith

theorem Paced.due_le_fresh (paced : Paced site overhead clocked) (t : Nat) :
    clocked.due overhead t ≤ clocked.clock + (GatewaySimulator.longestScenario + overhead) := by
  have spent := (paced.spent t).1
  unfold due
  cases asked : clocked.asked t with
  | some start =>
    have := (paced.asked t start asked).1
    dsimp only
    linarith
  | none =>
    have : (0 : Rat) ≤ GatewaySimulator.longestScenario := by norm_num [GatewaySimulator.longestScenario]
    dsimp only
    split <;> linarith

theorem Paced.locking (paced : Paced site overhead clocked) : Locking clocked.pool.world :=
  invariant_of_steps Locking .initial (fun _ _ _ locking step => locking.step lastingLocks_last step) paced.reached

/-- The time by which a thread leaves is not put off when its history grows. -/
theorem due_le (clock : next.clock = clocked.clock) (asked : next.asked t = clocked.asked t)
    (spent : next.spent t = clocked.spent t)
    (grown : hasCalled (clocked.pool.world.history t) = true → hasCalled (next.pool.world.history t) = true) :
    next.due overhead t ≤ clocked.due overhead t := by
  have positive : (0 : Rat) ≤ GatewaySimulator.longestScenario := by norm_num [GatewaySimulator.longestScenario]
  unfold due
  rw [clock, asked, spent]
  cases clocked.asked t with
  | some start => exact le_refl _
  | none =>
    dsimp only
    refine add_le_add_right ?_ _
    split
    · split
      · exact le_refl _
      · exact positive
    · rename_i uncalled
      rw [if_neg fun called => uncalled (grown called)]

end Clocked

theorem Entered.uncalled {p : Uuid} {processing : Payment} {h : List Obs} (entered : Entered p processing h) :
    hasCalled h = false := by
  obtain ⟨working⟩ := entered
  obtain ⟨token, rfl⟩ := working
  rfl

/-- What an act of thread `t` does to a pool. -/
structure Acts (site : Deployment) (t : Nat) (pool pool' : Pool calls JsError World) : Prop where
  reached : Reached site lastingLocks pool'
  others : ∀ u, u ≠ t → pool'.world.history u = pool.world.history u
  grown : ∀ o ∈ pool.world.history t, o ∈ pool'.world.history t
  told : ∀ o ∈ pool'.world.history t, o ∈ pool.world.history t ∨
    ∃ c rest, pool.threads[t]? = some (.call c rest) ∧ CallNote c pool.world o

theorem acts_of_step {pool pool' : Pool calls JsError World} (reached : Reached site lastingLocks pool)
    (stepped : (system site).step pool (.act t choice) = some pool') : Acts site t pool pool' := by
  have admitted : lastingLocks.admits pool (.act t choice) = true := by
    simp only [Restriction.admits, lastingLocks]
    split <;> rfl
  have reached' : Reached site lastingLocks pool' := .step reached admitted stepped
  rcases act_cases reached stepped with ⟨c, rest, outcome, running, issued, performed, _⟩ | ⟨_, same⟩
  · have steps := perform_steps (R := lastingLocks) issued rfl performed
    refine ⟨reached', fun u other => (steps.rely other).own, fun o member => ?_, fun o member => ?_⟩
    · exact (World.history_suffix steps.grows t).subset member
    · exact (perform_notes performed member).imp_right fun told => ⟨c, rest, running, told⟩
  · exact ⟨reached', fun _ _ => by rw [same], fun _ => by rw [same]; exact id, fun _ => by rw [same]; exact .inl⟩

/-- A thread is inside a lock it was inside before, or it takes the lock now. -/
theorem Acts.holds {pool pool' : Pool calls JsError World} (acts : Acts site t pool pool')
    (holds : Holds (pool'.world.history t) key token) : Holds (pool.world.history t) key token ∨
      ∃ ttl rest, pool.threads[t]? = some (.call (.lockSet key token ttl) rest) ∧ pool.world.locks key = none := by
  rcases acts.told _ holds.1 with before | ⟨c, rest, running, told⟩
  · exact .inl ⟨before, fun released => holds.2 (acts.grown _ released)⟩
  · obtain ⟨ttl, rfl, free⟩ := told.locked_free
    exact .inr ⟨ttl, rest, running, free⟩

theorem Acts.called {pool pool' : Pool calls JsError World} (acts : Acts site t pool pool')
    (called : hasCalled (pool.world.history t) = true) : hasCalled (pool'.world.history t) = true := by
  obtain ⟨p, member⟩ := hasCalled_iff.mp called
  exact hasCalled_iff.mpr ⟨p, acts.grown _ member⟩

namespace Clocked

theorem due_congr (clock : next.clock = clocked.clock) (asked : next.asked t = clocked.asked t)
    (spent : next.spent t = clocked.spent t)
    (same : next.pool.world.history t = clocked.pool.world.history t) :
    next.due overhead t = clocked.due overhead t := by
  unfold due
  rw [clock, asked, spent, same]

theorem Paced.acts (paced : Paced site overhead clocked) (acts : Acts site t clocked.pool next.pool)
    (clock : next.clock = clocked.clock) (spent : next.spent = clocked.spent)
    (asked : ∀ u, u ≠ t → next.asked u = clocked.asked u)
    (deadlines : ∀ key token, clocked.pool.world.locks key = some token →
      next.deadlines key = clocked.deadlines key)
    (own : ∀ start, next.asked t = some start → start ≤ clocked.clock ∧
      clocked.clock ≤ start + GatewaySimulator.longestScenario ∧ hasCalled (next.pool.world.history t) = true)
    (due : next.due overhead t ≤ clocked.due overhead t)
    (taken : ∀ key token ttl rest, clocked.pool.threads[t]? = some (.call (.lockSet key token ttl) rest) →
      clocked.pool.world.locks key = none → next.due overhead t < next.deadlines key) :
    Paced site overhead next := by
  refine ⟨acts.reached, fun u start => ?_, fun u => spent ▸ paced.spent u, fun u key token holds => ?_⟩
  · rw [clock]
    by_cases here : u = t
    · subst here
      exact own start
    · rw [asked u here, acts.others u here]
      exact paced.asked u start
  · by_cases here : u = t
    · subst here
      rcases acts.holds holds with before | ⟨ttl, rest, running, free⟩
      · rw [deadlines key token (paced.locking.locked u key token before)]
        exact lt_of_le_of_lt due (paced.inside u key token before)
      · exact taken key token ttl rest running free
    · rw [acts.others u here] at holds
      rw [deadlines key token (paced.locking.locked u key token holds),
        due_congr clock (asked u here) (congrFun spent u) (acts.others u here)]
      exact paced.inside u key token holds

theorem call_eq {c : Call} : clocked.call t = some c ↔ ∃ rest, clocked.pool.threads[t]? = some (.call c rest) := by
  unfold call
  split
  · rename_i running
    constructor
    · rintro ⟨⟩
      exact ⟨_, running⟩
    · rintro ⟨rest, same⟩
      cases running.symm.trans same
      rfl
  · rename_i other
    constructor
    · rintro ⟨⟩
    · rintro ⟨rest, running⟩
      exact (other c rest running).elim

/-- A move of the pool leaves the clock and what is told by it alone. -/
structure Moved (site : Deployment) (label : Label Choice Event) (clocked next : Clocked) : Prop where
  stepped : (system site).step clocked.pool label = some next.pool
  clock : next.clock = clocked.clock
  deadlines : next.deadlines = clocked.deadlines
  asked : next.asked = clocked.asked
  spent : next.spent = clocked.spent

theorem moved_of_move {label : Label Choice Event} (moved : clocked.move site label = some next) :
    Moved site label clocked next := by
  obtain ⟨pool, stepped, rfl⟩ := Option.map_eq_some_iff.mp moved
  exact ⟨stepped, rfl, rfl, rfl, rfl⟩

theorem Paced.plain (paced : Paced site overhead clocked)
    (free : ∀ key token ttl, clocked.call t ≠ some (.lockSet key token ttl))
    (moved : Moved site (.act t choice) clocked next) : Paced site overhead next := by
  have acts := acts_of_step paced.reached moved.stepped
  have sooner : next.due overhead t ≤ clocked.due overhead t :=
    due_le moved.clock (congrFun moved.asked t) (congrFun moved.spent t) acts.called
  refine paced.acts acts moved.clock moved.spent (fun u _ => congrFun moved.asked u)
    (fun key _ _ => congrFun moved.deadlines key) (fun start asked => ?_) sooner ?_
  · rw [moved.asked] at asked
    have told := paced.asked t start asked
    exact ⟨told.1, told.2.1, acts.called told.2.2⟩
  · intro key token ttl rest running
    exact (free key token ttl (call_eq.mpr ⟨rest, running⟩)).elim

/-- A thread that asks for a lock: it leaves before the lock expires. -/
theorem Paced.lockSet (slack : GatewaySimulator.longestScenario + overhead < 1000 * (site.lockTtlMs / 1000).ceil)
    (paced : Paced site overhead clocked) {ttl : Int} (call : clocked.call t = some (.lockSet key token ttl))
    (moved : Moved site (.act t choice) { clocked with
      deadlines := if (clocked.pool.world.locks key).isSome then clocked.deadlines
        else Function.update clocked.deadlines key (clocked.clock + 1000 * ttl) } next) :
    Paced site overhead next := by
  obtain ⟨rest, running⟩ := call_eq.mp call
  have set : ttl = (site.lockTtlMs / 1000).ceil := (timed paced.reached _ (List.mem_of_getElem? running)).1
  have acts : Acts site t clocked.pool next.pool := acts_of_step paced.reached moved.stepped
  have sooner : next.due overhead t ≤ clocked.due overhead t :=
    due_le moved.clock (congrFun moved.asked t) (congrFun moved.spent t) acts.called
  refine paced.acts acts moved.clock moved.spent (fun u _ => congrFun moved.asked u) ?_ (fun start asked => ?_)
    sooner ?_
  · intro key' token' held
    rw [moved.deadlines]
    dsimp only
    split
    · rfl
    · rename_i free
      rw [Function.update_of_ne]
      rintro rfl
      simp [held] at free
  · rw [moved.asked] at asked
    have told := paced.asked t start asked
    exact ⟨told.1, told.2.1, acts.called told.2.2⟩
  · intro key' token' ttl' rest' running' free
    cases running.symm.trans running'
    have unheld : (clocked.pool.world.locks key).isSome = false := by simp [free]
    rw [moved.deadlines]
    simp only [unheld, Bool.false_eq_true, if_false, Function.update_self]
    have latest := paced.due_le_fresh t
    rw [set]
    linarith

/-- A worker that turns to the gateway: the time that this takes is reserved for it. -/
theorem Paced.gatewaySend (paced : Paced site overhead clocked) {request : GatewayPaymentRequest}
    (call : clocked.call t = some (.gatewaySend request))
    (moved : Moved site (.act t choice)
      { clocked with asked := Function.update clocked.asked t (some clocked.clock) } next) :
    Paced site overhead next := by
  obtain ⟨rest, running⟩ := call_eq.mp call
  have acts : Acts site t clocked.pool next.pool := acts_of_step paced.reached moved.stepped
  have uncalled : hasCalled (clocked.pool.world.history t) = false := by
    cases issued_of_running paced.reached running with
    | send entered => exact entered.uncalled
  have called : hasCalled (next.pool.world.history t) = true := by
    have stepped := moved.stepped
    simp only [Machine.step, running, Option.map_eq_some_iff] at stepped
    obtain ⟨_, performed, same⟩ := stepped
    cases performed
    rw [← same]
    simp [hasCalled]
  have unasked : clocked.asked t = none := by
    by_contra some
    obtain ⟨start, asked⟩ := Option.ne_none_iff_exists'.mp some
    rw [(paced.asked t start asked).2.2] at uncalled
    cases uncalled
  have asked : next.asked t = some clocked.clock := by simp [moved.asked]
  have same : next.due overhead t = clocked.due overhead t := by
    simp only [due, asked, unasked, uncalled, moved.spent, Bool.false_eq_true, if_false]
    linarith
  refine paced.acts acts moved.clock moved.spent (fun u other => ?_) (fun key _ _ => congrFun moved.deadlines key)
    (fun start asked' => ?_) same.le ?_
  · simp [moved.asked, other]
  · cases asked.symm.trans asked'
    have positive : (0 : Rat) ≤ GatewaySimulator.longestScenario := by norm_num [GatewaySimulator.longestScenario]
    exact ⟨le_refl _, by linarith, called⟩
  · intro key token ttl rest' running'
    cases running.symm.trans running'

theorem Paced.gatewayReceive (paced : Paced site overhead clocked) {p : Uuid} {start duration : Rat}
    (call : clocked.call t = some (.gatewayReceive p)) (asked : clocked.asked t = some start)
    (short : duration ≤ GatewaySimulator.longestScenario) (past : clocked.clock = start + duration)
    (moved : Moved site (.act t choice) { clocked with asked := Function.update clocked.asked t none } next) :
    Paced site overhead next := by
  obtain ⟨rest, running⟩ := call_eq.mp call
  have acts : Acts site t clocked.pool next.pool := acts_of_step paced.reached moved.stepped
  have called := acts.called (paced.asked t start asked).2.2
  have unasked : next.asked t = none := by simp [moved.asked]
  have sooner : next.due overhead t ≤ clocked.due overhead t := by
    simp only [due, asked, unasked, called, moved.spent, moved.clock, if_true]
    linarith
  refine paced.acts acts moved.clock moved.spent (fun u other => ?_) (fun key _ _ => congrFun moved.deadlines key)
    (fun start asked' => ?_) sooner ?_
  · simp [moved.asked, other]
  · rw [unasked] at asked'
    cases asked'
  · intro key token ttl rest' running'
    cases running.symm.trans running'

theorem Paced.act (slack : GatewaySimulator.longestScenario + overhead < 1000 * (site.lockTtlMs / 1000).ceil)
    (paced : Paced site overhead clocked) {rand : Rat} (acted : clocked.act site t choice rand = some next) :
    Paced site overhead next := by
  unfold Clocked.act at acted
  split at acted
  · rename_i key token ttlSeconds call
    exact paced.lockSet slack call (moved_of_move acted)
  · rename_i request call
    exact paced.gatewaySend call (moved_of_move acted)
  · rename_i p call
    split at acted
    · rename_i start asked
      dsimp only at acted
      split at acted
      · rename_i played
        exact paced.gatewayReceive call asked (GatewaySimulator.play_duration _ played.2.1 _) played.2.2
          (moved_of_move acted)
      · cases acted
    · cases acted
  · rename_i other _ _
    exact paced.plain (fun key token ttl is => other key token ttl is) (moved_of_move acted)

/-- A lock expires only when the time of whoever is inside is over, which it then has left. -/
theorem Paced.expire (paced : Paced site overhead clocked) (past : clocked.deadlines key ≤ clocked.clock) :
    lastingLocks.event clocked.pool.world (.expireLock key) = true := by
  simp only [lastingLocks, decide_eq_true_eq]
  intro t token holds
  have early := paced.inside t key token holds
  have late := paced.clock_le t
  linarith

/-- An event brings nobody inside a lock: a thread that it starts has generated no token yet. -/
theorem Paced.occurs (paced : Paced site overhead clocked) {e : Event}
    (admitted : lastingLocks.event clocked.pool.world e = true) (moved : Moved site (.event e) clocked next) :
    Paced site overhead next := by
  have admits : lastingLocks.admits clocked.pool (.event e) = true := admitted
  have reached : Reached site lastingLocks next.pool := .step paced.reached admits moved.stepped
  have kept := (conduct site).keeps (conduct_starts site) (fresh_start site) paced.reached
  have fresh : clocked.pool.world.history clocked.pool.threads.length = [] := kept.fresh _ (Nat.le_refl _)
  have tokens : Tokens next.pool.world :=
    invariant_of_steps Tokens Locking.initial.tokens (fun _ _ _ tokens step => tokens.step step) reached
  obtain ⟨⟨w', started⟩, occurred, same⟩ := Option.map_eq_some_iff.mp moved.stepped
  have world : next.pool.world = w' := by rw [← same]
  have trace := (occur_note occurred).2
  rw [← world] at trace
  have grown : clocked.pool.world.trace <:+ next.pool.world.trace := by
    rcases trace with same | ⟨o, same, _⟩
    · exact same ▸ List.suffix_refl _
    · exact same ▸ List.suffix_cons ..
  have called : ∀ t, hasCalled (clocked.pool.world.history t) = true →
      hasCalled (next.pool.world.history t) = true := by
    intro t called
    obtain ⟨p, member⟩ := hasCalled_iff.mp called
    exact hasCalled_iff.mpr ⟨p, (World.history_suffix grown t).subset member⟩
  refine ⟨reached, fun t start asked => ?_, fun t => moved.spent ▸ paced.spent t, fun t key token holds => ?_⟩
  · rw [moved.asked] at asked
    have told := paced.asked t start asked
    rw [moved.clock]
    exact ⟨told.1, told.2.1, called t told.2.2⟩
  · have before : Holds (clocked.pool.world.history t) key token := by
      rcases trace with same | ⟨o, same, _⟩
      · rwa [World.history_congr same] at holds
      · by_cases new : t = clocked.pool.threads.length
        · subst new
          obtain ⟨_, _, generated⟩ := tokens.own _ _ _ (World.mem_history.mp holds.1)
          have token := World.mem_history.mpr generated
          have locked := holds.1
          rw [World.history_cons_self same, fresh, List.mem_singleton] at token locked
          cases token.trans locked.symm
        · rwa [World.history_cons_other same new] at holds
    rw [moved.deadlines]
    exact lt_of_le_of_lt (due_le moved.clock (congrFun moved.asked t) (congrFun moved.spent t) (called t))
      (paced.inside t key token before)

theorem Paced.event (paced : Paced site overhead clocked) {e : Event} (occurred : clocked.event site e = some next) :
    Paced site overhead next := by
  unfold Clocked.event at occurred
  split at occurred
  · split at occurred
    · rename_i past
      exact paced.occurs (paced.expire past) (moved_of_move occurred)
    · cases occurred
  · rename_i other
    refine paced.occurs ?_ (moved_of_move occurred)
    cases e with
    | expireLock key => exact (other key rfl).elim
    | _ => rfl

/-- A wait is as short as everybody inside a lock needs it to be. -/
theorem Paced.wait {ms : Rat} (paced : Paced site overhead clocked) (waited : clocked.wait overhead ms = some next) :
    Paced site overhead next := by
  unfold Clocked.wait at waited
  split at waited
  · rename_i allowed
    cases waited
    have kept := (conduct site).keeps (conduct_starts site) (fresh_start site) paced.reached
    have may : ∀ t, clocked.pool.world.history t = [] ∨ clocked.mayWait overhead ms t = true := by
      intro t
      by_cases started : t < clocked.pool.threads.length
      · exact .inr (List.all_eq_true.mp allowed.2 t (List.mem_range.mpr started))
      · exact .inl (kept.fresh t (Nat.le_of_not_lt started))
    have positive : 0 ≤ ms := allowed.1
    refine ⟨paced.reached, fun t start asked => ?_, fun t => ?_, fun t key token holds => ?_⟩
    · have told := paced.asked t start asked
      have within : clocked.clock + ms ≤ start + GatewaySimulator.longestScenario := by
        rcases may t with idle | waits
        · simp [idle, hasCalled] at told
        · change clocked.asked t = some start at asked
          simpa [mayWait, asked] using waits
      exact ⟨by dsimp only; linarith, within, told.2.2⟩
    · have told := paced.spent t
      dsimp only
      split
      · rename_i working
        have within : clocked.spent t + ms ≤ overhead := by
          rcases may t with idle | waits
          · simp [idle, insideLock] at working
          · simpa [mayWait, Option.isNone_iff_eq_none.mp working.1, working.2] using waits
        exact ⟨by linarith, within⟩
      · exact told
    · have inside := insideLock_of_holds holds
      refine lt_of_eq_of_lt ?_ (paced.inside t key token holds)
      change insideLock (clocked.pool.world.history t) = true at inside
      unfold due
      dsimp only
      rw [inside]
      cases asked : clocked.asked t with
      | some start => simp
      | none =>
        simp only [Option.isNone_none, and_self, if_true]
        linarith
  · cases waited

theorem Paced.step (slack : GatewaySimulator.longestScenario + overhead < 1000 * (site.lockTtlMs / 1000).ceil)
    (paced : Paced site overhead clocked) {label : ClockedLabel}
    (stepped : clocked.step site overhead label = some next) : Paced site overhead next := by
  cases label with
  | act t choice rand => exact paced.act slack stepped
  | event e => exact paced.event stepped
  | wait ms => exact paced.wait stepped

theorem Reachable.paced (slack : GatewaySimulator.longestScenario + overhead < 1000 * (site.lockTtlMs / 1000).ceil)
    (positive : 0 ≤ overhead) (reached : Reachable site overhead clocked) : Paced site overhead clocked := by
  induction reached with
  | start =>
    refine ⟨.start, by simp, fun _ => ⟨le_refl _, positive⟩, ?_⟩
    rintro t key token ⟨locked, _⟩
    simp [World.history, historyOf] at locked
  | step _ stepped ih => exact ih.step slack stepped

theorem Reachable.run {labels : List ClockedLabel} (reached : Reachable site overhead clocked)
    (ran : clocked.run site overhead labels = some next) : Reachable site overhead next := by
  induction labels generalizing clocked with
  | nil =>
    cases ran
    exact reached
  | cons label labels ih =>
    obtain ⟨middle, stepped, rest⟩ := Option.bind_eq_some_iff.mp ran
    exact ih (.step reached stepped) rest

end Clocked

/-- A lock excludes when it outlasts the longest gateway call and the other calls of a body. -/
theorem bodies_exclude (slack : GatewaySimulator.longestScenario + overhead < 1000 * (site.lockTtlMs / 1000).ceil)
    (positive : 0 ≤ overhead) (reached : Clocked.Reachable site overhead clocked)
    (inside : Holds (clocked.pool.world.history t) key token)
    (other : Holds (clocked.pool.world.history u) key token') : t = u :=
  (reached.paced slack positive).locking.same inside other

def clockedLabel : Label Choice Event → ClockedLabel
  | .act t choice => .act t choice 0
  | .event e => .event e

/-- Thread 1 processes the sample payment up to its gateway call, which goes on for `ms`. -/
def callingFor (ms : Rat) : List ClockedLabel :=
  (creation ++ .event (.deliverProcess ⟨sampleId '0'⟩) ::
    acts 1 [{ uuid := sampleId 'a' }, {}, {}, {}, {}, {}]).map clockedLabel ++ [.wait ms]

def holding (h : List Obs) (key token : String) : Bool :=
  h.any (fun o => match o with
    | .locked key' token' => key' = key && token' = token
    | _ => false) && !h.any fun o => match o with
    | .unlocked key' token' => key' = key && token' = token
    | _ => false

theorem holds_of_holding {h : List Obs} (shown : holding h key token = true) : Holds h key token := by
  simp only [holding, Bool.and_eq_true, Bool.not_eq_true', List.any_eq_true, List.any_eq_false] at shown
  obtain ⟨⟨o, member, locked⟩, outside⟩ := shown
  refine ⟨?_, fun released => outside _ released (by simp)⟩
  cases o with
  | locked key' token' =>
    simp only [Bool.and_eq_true, decide_eq_true_eq] at locked
    exact locked.1 ▸ locked.2 ▸ member
  | _ => cases locked

/-- While the gateway times out on thread 1, the webhook of thread 2 does not come in. -/
theorem bodies_exclude_timeout :
    ∃ clocked, Clocked.Reachable sampleSite 0 clocked ∧ clocked.clock = 11000 ∧
      Holds (clocked.pool.world.history 1) (paymentLockKey (sampleId '0')) (sampleId 'a') ∧
      ∀ u token, Holds (clocked.pool.world.history u) (paymentLockKey (sampleId '0')) token → u = 1 := by
  have ran : ((Clocked.run sampleSite 0 ⟨⟨{}, []⟩, 0, fun _ => 0, fun _ => none, fun _ => 0⟩
      (callingFor 11000 ++ (signedWebhook 2 'b' "success" none).map clockedLabel)).any fun clocked =>
      clocked.clock = 11000 && holding (clocked.pool.world.history 1) (paymentLockKey (sampleId '0'))
        (sampleId 'a')) = true := by decide +kernel
  obtain ⟨clocked, ran, shown⟩ := (Option.any_eq_true _ _).mp ran
  obtain ⟨clock, inside⟩ := Bool.and_eq_true_iff.mp shown
  have reached : Clocked.Reachable sampleSite 0 clocked := Clocked.Reachable.run .start ran
  exact ⟨clocked, reached, of_decide_eq_true clock, holds_of_holding inside, fun u token other =>
    bodies_exclude (by decide +kernel) (le_refl 0) reached other (holds_of_holding inside)⟩

/-- With a lock of five seconds it does. -/
theorem bodies_overlap :
    ∃ (site : Deployment) (clocked : Clocked), site.lockTtlMs = 5000 ∧ Clocked.Reachable site 0 clocked ∧
      Holds (clocked.pool.world.history 1) (paymentLockKey (sampleId '0')) (sampleId 'a') ∧
      Holds (clocked.pool.world.history 2) (paymentLockKey (sampleId '0')) (sampleId 'b') := by
  have ran : ((Clocked.run { sampleSite with lockTtlMs := 5000, lockTtlMs_ge := by decide +kernel } 0
      ⟨⟨{}, []⟩, 0, fun _ => 0, fun _ => none, fun _ => 0⟩
      (callingFor 5000 ++ .event (.expireLock (paymentLockKey (sampleId '0'))) ::
        (signedWebhook 2 'b' "success" none).map clockedLabel)).any fun clocked =>
      holding (clocked.pool.world.history 1) (paymentLockKey (sampleId '0')) (sampleId 'a') &&
        holding (clocked.pool.world.history 2) (paymentLockKey (sampleId '0')) (sampleId 'b')) = true := by
    decide +kernel
  obtain ⟨clocked, ran, shown⟩ := (Option.any_eq_true _ _).mp ran
  obtain ⟨inside, other⟩ := Bool.and_eq_true_iff.mp shown
  exact ⟨_, clocked, rfl, Clocked.Reachable.run .start ran, holds_of_holding inside, holds_of_holding other⟩

end PaymentModel
