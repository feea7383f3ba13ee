import Mathlib.Logic.Relation
import PaymentSystem.Async.Contract
import PaymentSystem.Model.LockClients

namespace PaymentModel

open Async

namespace LockStore

/-- What thread `t` has done, newest first. -/
def notes (s : LockStore) (t : Nat) : List LockNote :=
  (s.trace.filter fun entry => entry.1 = t).map fun entry => entry.2.2

variable {s s' : LockStore} {t u : Nat} {o : LockNote} {now : Rat}

theorem notes_congr (same : s'.trace = s.trace) (t : Nat) : s'.notes t = s.notes t := by
  unfold notes
  rw [same]

theorem notes_cons_self (same : s'.trace = (t, now, o) :: s.trace) : s'.notes t = o :: s.notes t := by
  simp [notes, same]

theorem notes_cons_other (same : s'.trace = (u, now, o) :: s.trace) (other : t ≠ u) : s'.notes t = s.notes t := by
  simp [notes, same, Ne.symm other]

@[simp] theorem trace_note (s : LockStore) (t : Nat) (o : LockNote) :
    (s.note t o).trace = (t, s.clock, o) :: s.trace := rfl

@[simp] theorem entries_note (s : LockStore) (t : Nat) (o : LockNote) : (s.note t o).entries = s.entries := rfl

@[simp] theorem clock_note (s : LockStore) (t : Nat) (o : LockNote) : (s.note t o).clock = s.clock := rfl

@[simp] theorem requests_note (s : LockStore) (t : Nat) (o : LockNote) : (s.note t o).requests = s.requests := rfl

@[simp] theorem trace_setEntry (s : LockStore) (key : String) (entry : Option LockEntry) :
    (s.setEntry key entry).trace = s.trace := rfl

@[simp] theorem clock_setEntry (s : LockStore) (key : String) (entry : Option LockEntry) :
    (s.setEntry key entry).clock = s.clock := rfl

@[simp] theorem requests_setEntry (s : LockStore) (key : String) (entry : Option LockEntry) :
    (s.setEntry key entry).requests = s.requests := rfl

theorem entries_setEntry (s : LockStore) (key key' : String) (entry : Option LockEntry) :
    (s.setEntry key entry).entries key' = if key' = key then entry else s.entries key' := Function.update_apply ..

@[simp] theorem notes_note_self (s : LockStore) (t : Nat) (o : LockNote) : (s.note t o).notes t = o :: s.notes t :=
  notes_cons_self rfl

theorem mem_notes : o ∈ s.notes t ↔ ∃ now, (t, now, o) ∈ s.trace := by
  simp [notes]

end LockStore

/-- The calls of a lock client: it sets the key of its request, for the time its request asks for, to
    the id it has just generated. -/
inductive LockIssued (t : Nat) (s : LockStore) : Call → Prop
  | lockSet {request : LockRequest} {key token : String} {ttlMs : Rat} (own : (t, request) ∈ s.requests)
    (asks : request.asks = some (key, ttlMs)) (notes : s.notes t = [.generated token]) :
    LockIssued t s (.lockSet key token (ttlMs / 1000).ceil)
  | lockRelease {key token : String} : LockIssued t s (.lockRelease key token)
  | other {c : Call} (free : c.locks = false) : LockIssued t s c

/-- The smallest changes of the store, made by thread `t`. -/
inductive LockStep (t : Nat) (s : LockStore) : LockStore → Prop
  | generate {token : String} (fresh : ∀ u now, (u, now, .generated token) ∉ s.trace) :
    LockStep t s (s.note t (.generated token))
  | acquire {request : LockRequest} {key token : String} {ttlMs : Rat} (own : (t, request) ∈ s.requests)
    (asks : request.asks = some (key, ttlMs)) (notes : s.notes t = [.generated token]) (free : s.entries key = none) :
    LockStep t s ((s.setEntry key (some ⟨token, s.clock + 1000 * (ttlMs / 1000).ceil⟩)).note t
      (.acquired key token (s.clock + 1000 * (ttlMs / 1000).ceil)))
  | release {key token : String} (holds : s.token key = some token) :
    LockStep t s ((s.setEntry key none).note t (.released key token true))
  | refuse {key token : String} (other : s.token key ≠ some token) :
    LockStep t s (s.note t (.released key token false))
  | fault : LockStep t s (s.note t .fault)
  | start {request : LockRequest} (new : ∀ other, (t, other) ∉ s.requests) :
    LockStep t s { s with requests := (t, request) :: s.requests }
  | wait {ms : Rat} (forward : 0 ≤ ms) : LockStep t s { s with clock := s.clock + ms }
  | expire {key : String} {entry : LockEntry} (found : s.entries key = some entry) (past : entry.expiresAt ≤ s.clock) :
    LockStep t s (s.setEntry key none)

def LockSteps (t : Nat) : LockStore → LockStore → Prop := Relation.ReflTransGen (LockStep t)

variable {s s' s'' : LockStore} {t u n : Nat}

/-- What a command does to the store: its effect, a fault, or both. -/
theorem command_steps {α : Type} {fault : Fault} {answer : α} {effect : LockStore} {outcome : Except JsError α}
    (ran : s.command t fault answer effect = (outcome, s')) (effected : LockSteps t s effect) : LockSteps t s s' := by
  cases fault <;> cases ran
  · exact effected
  · exact .single .fault
  · exact effected.tail .fault

theorem LockIssued.steps {c : Call} {choice : LockChoice} {outcome : Except JsError c.Answer}
    (issued : LockIssued t s c) (performed : LockStore.perform t c choice s = some (outcome, s')) :
    LockSteps t s s' := by
  cases c with
  | generateId =>
    simp only [LockStore.perform] at performed
    split at performed
    · cases performed
    · rename_i fresh
      cases performed
      refine .single (.generate fun u now member => fresh ?_)
      exact List.any_eq_true.mpr ⟨_, member, by simp⟩
  | lockSet key token ttl =>
    simp only [LockStore.perform] at performed
    split at performed
    · cases performed
      exact .refl
    · split at performed
      · exact command_steps (Option.some.inj performed) .refl
      · rename_i free
        cases issued with
        | lockSet own asks notes =>
          exact command_steps (Option.some.inj performed) (.single (.acquire own asks notes free))
        | other locks => cases locks
  | lockRelease key token =>
    simp only [LockStore.perform] at performed
    split at performed
    · rename_i holds
      exact command_steps (Option.some.inj performed) (.single (.release holds))
    · rename_i other
      exact command_steps (Option.some.inj performed) (.single (.refuse other))
  | dateNow | mathRandom | paymentFindUnique | webhookEventFindUnique | transaction | statement | processQueueAdd
  | retryQueueAdd | processJobFinished | retryJobFinished | breakerAdmits | gatewaySend | gatewayReceive | recordGet
  | recordSetNx | recordSet | next | respond =>
    cases performed
    exact .refl

theorem occur_lockSteps {e : LockEvent} {started : List (Promise Unit)}
    (occurred : LockStore.occur n e s = some (s', started)) (new : ∀ other, (n, other) ∉ s.requests) :
    LockSteps n s s' := by
  cases e with
  | start request =>
    cases occurred
    exact .single (.start new)
  | wait ms =>
    simp only [LockStore.occur] at occurred
    split at occurred
    · rename_i forward
      cases occurred
      exact .single (.wait forward)
    · cases occurred
  | expire key =>
    simp only [LockStore.occur] at occurred
    split at occurred
    · rename_i entry found
      split at occurred
      · rename_i past
        cases occurred
        exact .single (.expire found past)
      · cases occurred
    · cases occurred

/-- What the others leave thread `t`: its notes and its request. -/
structure LockRely (t : Nat) (s s' : LockStore) : Prop where
  notes : s'.notes t = s.notes t
  requests : ∀ request, (t, request) ∈ s'.requests ↔ (t, request) ∈ s.requests

theorem LockRely.refl (t : Nat) (s : LockStore) : LockRely t s s := ⟨rfl, fun _ => Iff.rfl⟩

theorem LockRely.trans (h : LockRely t s s') (h' : LockRely t s' s'') : LockRely t s s'' :=
  ⟨h'.notes.trans h.notes, fun request => (h'.requests request).trans (h.requests request)⟩

theorem LockStep.rely (step : LockStep u s s') (other : t ≠ u) : LockRely t s s' := by
  cases step with
  | generate | acquire | release | refuse | fault => exact ⟨LockStore.notes_cons_other rfl other, fun _ => Iff.rfl⟩
  | wait | expire => exact ⟨rfl, fun _ => Iff.rfl⟩
  | start =>
    refine ⟨rfl, fun request => ?_⟩
    rw [List.mem_cons, or_iff_right]
    rintro ⟨⟩
    exact other rfl

theorem LockSteps.rely (steps : LockSteps u s s') (other : t ≠ u) : LockRely t s s' := by
  induction steps with
  | refl => exact .refl t s
  | tail _ step ih => exact ih.trans (step.rely other)

theorem occur_lockRely {e : LockEvent} {started : List (Promise Unit)}
    (occurred : LockStore.occur n e s = some (s', started)) (other : t < n ∨ n + started.length ≤ t) :
    LockRely t s s' := by
  cases e with
  | start request =>
    cases occurred
    refine ⟨rfl, fun request => ?_⟩
    rw [List.mem_cons, or_iff_right]
    rintro ⟨⟩
    simp at other
  | wait ms =>
    simp only [LockStore.occur] at occurred
    split at occurred <;> cases occurred
    exact ⟨rfl, fun _ => Iff.rfl⟩
  | expire key =>
    simp only [LockStore.occur] at occurred
    split at occurred
    · split at occurred <;> cases occurred
      exact ⟨rfl, fun _ => Iff.rfl⟩
    · cases occurred

/-- A thread that runs `withLock` and whose commands have not failed has released what it acquired. -/
def GivenBack (t : Nat) (s : LockStore) : Prop :=
  ∀ key ttlMs body, (t, .withLock key ttlMs body) ∈ s.requests → .fault ∉ s.notes t →
    ∀ key' token expiresAt, .acquired key' token expiresAt ∈ s.notes t →
      ∃ newer deleted older, s.notes t = newer ++ .released key' token deleted :: older ∧
        .acquired key' token expiresAt ∈ older

/-- The contract of the lock clients. -/
def lockConduct : Contract lockClients where
  issues := fun t s c => LockIssued t s c
  rely := LockRely
  fresh := fun t s => s.notes t = [] ∧ ∀ request, (t, request) ∉ s.requests
  final := GivenBack
  rely_refl := LockRely.refl
  rely_trans := LockRely.trans
  fresh_rely := fun fresh moved =>
    ⟨moved.notes.trans fresh.1, fun request member => fresh.2 request ((moved.requests request).mp member)⟩
  call_rely := fun issued performed other => (issued.steps performed).rely other
  event_rely := fun occurred other => occur_lockRely occurred other

variable {α : Type} {request : LockRequest} {h : List LockNote}

/-- Thread `t` runs `request` and has done `h`. -/
structure Running (t : Nat) (request : LockRequest) (h : List LockNote) (s : LockStore) : Prop where
  only : ∀ other, (t, other) ∈ s.requests ↔ other = request
  notes : s.notes t = h

theorem Running.later (running : Running t request h s) (moved : LockRely t s s') : Running t request h s' :=
  ⟨fun other => (moved.requests other).trans (running.only other), moved.notes.trans running.notes⟩

theorem Running.note (running : Running t request h s) (o : LockNote) : Running t request (o :: h) (s.note t o) :=
  ⟨running.only, by rw [LockStore.notes_note_self, running.notes]⟩

theorem Running.setEntry (running : Running t request h s) (key : String) (entry : Option LockEntry) :
    Running t request h (s.setEntry key entry) := ⟨running.only, running.notes⟩

/-- It has generated ids besides. -/
def Inside (t : Nat) (request : LockRequest) (h : List LockNote) (s : LockStore) : Prop :=
  ∃ ids : List String, Running t request (ids.map .generated ++ h) s

theorem Inside.later (inside : Inside t request h s) (moved : LockRely t s s') : Inside t request h s' := by
  obtain ⟨ids, running⟩ := inside
  exact ⟨ids, running.later moved⟩

theorem GivenBack.of_fault (fault : .fault ∈ s.notes t) : GivenBack t s :=
  fun _ _ _ _ clean => (clean fault).elim

/-- What a call that is no concern of the locks does to the store. -/
theorem perform_other {c : Call} {choice : LockChoice} {outcome : Except JsError c.Answer} (free : c.locks = false)
    (performed : LockStore.perform t c choice s = some (outcome, s')) :
    s' = s ∨ s' = s.note t (.generated choice.uuid) := by
  cases c with
  | generateId =>
    simp only [LockStore.perform] at performed
    split at performed <;> cases performed
    exact .inr rfl
  | lockSet | lockRelease => cases free
  | dateNow | mathRandom | paymentFindUnique | webhookEventFindUnique | transaction | statement | processQueueAdd
  | retryQueueAdd | processJobFinished | retryJobFinished | breakerAdmits | gatewaySend | gatewayReceive | recordGet
  | recordSetNx | recordSet | next | respond =>
    cases performed
    exact .inl rfl

/-- A program that leaves the locks alone adds nothing but ids to the notes of its thread. -/
theorem safe_lockFree {p : Promise α} (free : p.All fun c : Call => c.locks = false) (inside : Inside t request h s) :
    lockConduct.Safe t p (fun _ => Inside t request h) (fun _ => Inside t request h) s := by
  induction p generalizing s with
  | done outcome =>
    match outcome with
    | .ok _ => exact fun _ moved => inside.later moved
    | .error _ => exact fun _ moved => inside.later moved
  | call c next ih =>
    intro w moved
    refine ⟨.other free.1, fun choice outcome s' performed => ih outcome (free.2 outcome) ?_⟩
    obtain ⟨ids, running⟩ := inside.later moved
    rcases perform_other free.1 performed with rfl | rfl
    · exact ⟨ids, running⟩
    · exact ⟨choice.uuid :: ids, running.note _⟩
  | detach c next ih =>
    intro w moved
    refine ⟨fun u fresh w' later => ⟨.other free.1, ?_⟩, ih free.2 (inside.later moved)⟩
    intro choice outcome s' performed final moved' key ttlMs body own
    have own' := (moved'.requests _).mp own
    have same : ∀ r, (u, r) ∈ s'.requests ↔ (u, r) ∈ w'.requests := by
      rcases perform_other free.1 performed with rfl | rfl <;> exact fun _ => Iff.rfl
    exact (fresh.2 _ ((later.requests _).mp ((same _).mp own'))).elim

theorem command_cases {fault : Fault} {answer : α} {effect : LockStore} {outcome : Except JsError α}
    (ran : s.command t fault answer effect = (outcome, s')) :
    (outcome = .ok answer ∧ s' = effect) ∨ ∃ e, outcome = .error e ∧ .fault ∈ s'.notes t := by
  cases fault <;> cases ran
  · exact .inl ⟨rfl, rfl⟩
  · exact .inr ⟨_, rfl, by simp⟩
  · exact .inr ⟨_, rfl, by simp⟩

theorem Running.lockSet {key token : String} {ttl : Int} {choice : LockChoice} {outcome : Except JsError Bool}
    (running : Running t request h s)
    (performed : LockStore.perform t (.lockSet key token ttl) choice s = some (outcome, s')) :
    (outcome = .ok true ∧ ∃ expiresAt, Running t request (.acquired key token expiresAt :: h) s') ∨
      (outcome = .ok false ∧ Running t request h s') ∨
      ∃ e, outcome = .error e ∧ (Running t request h s' ∨ .fault ∈ s'.notes t) := by
  simp only [LockStore.perform] at performed
  split at performed
  · cases performed
    exact .inr (.inr ⟨_, rfl, .inl running⟩)
  · split at performed <;> rcases command_cases (Option.some.inj performed) with ⟨rfl, rfl⟩ | ⟨e, rfl, fault⟩
    · exact .inr (.inl ⟨rfl, running⟩)
    · exact .inr (.inr ⟨e, rfl, .inr fault⟩)
    · exact .inl ⟨rfl, _, (running.setEntry _ _).note _⟩
    · exact .inr (.inr ⟨e, rfl, .inr fault⟩)

theorem Running.lockRelease {key token : String} {choice : LockChoice} {outcome : Except JsError Bool}
    (running : Running t request h s)
    (performed : LockStore.perform t (.lockRelease key token) choice s = some (outcome, s')) :
    (∃ deleted, outcome = .ok deleted ∧ Running t request (.released key token deleted :: h) s') ∨
      ∃ e, outcome = .error e ∧ .fault ∈ s'.notes t := by
  simp only [LockStore.perform] at performed
  split at performed <;> rcases command_cases (Option.some.inj performed) with ⟨rfl, rfl⟩ | ⟨e, rfl, fault⟩
  · exact .inl ⟨true, rfl, (running.setEntry _ _).note _⟩
  · exact .inr ⟨e, rfl, fault⟩
  · exact .inl ⟨false, rfl, running.note _⟩
  · exact .inr ⟨e, rfl, fault⟩

theorem GivenBack.of_running (running : Running t request h s)
    (none : ∀ key token expiresAt, .acquired key token expiresAt ∉ h) : GivenBack t s :=
  fun _ _ _ _ _ key token expiresAt member => (none key token expiresAt (running.notes ▸ member)).elim

/-- `acquireLock` acquires the key of its request with the id it returns, or returns none. -/
theorem safe_acquireLock {key : String} {ttlMs : Rat} {ok : Option String → LockStore → Prop}
    (asks : request.asks = some (key, ttlMs)) (running : Running t request [] s)
    (taken : ∀ token expiresAt s', Running t request [.acquired key token expiresAt, .generated token] s' →
      ok (some token) s')
    (busy : ∀ token s', Running t request [.generated token] s' → ok none s') :
    lockConduct.Safe t (acquireLock key ttlMs) ok (fun _ => GivenBack t) s := by
  refine Contract.Safe.bind (Contract.Safe.ask fun s₁ moved => ⟨.other rfl, ?_⟩)
  intro choice outcome s₂ performed s₃ moved'
  have begun := running.later moved
  simp only [lockClients, LockStore.perform] at performed
  split at performed <;> cases performed
  have generated := (begun.note (.generated choice.uuid)).later moved'
  refine Contract.Safe.bind (Contract.Safe.ask fun s₄ moved => ?_)
  have own := generated.later moved
  refine ⟨.lockSet ((own.only _).mpr rfl) asks own.notes, ?_⟩
  intro choice' outcome s₅ performed s₆ moved'
  rcases own.lockSet performed with ⟨rfl, expiresAt, acquired⟩ | ⟨rfl, held⟩ | ⟨e, rfl, none | fault⟩
  · exact Contract.Safe.pure fun _ last => taken _ _ _ ((acquired.later moved').later last)
  · exact Contract.Safe.pure fun _ last => busy _ _ ((held.later moved').later last)
  · exact GivenBack.of_running (none.later moved') (by simp)
  · exact GivenBack.of_fault (moved'.notes ▸ fault)

theorem GivenBack.of_released {key token : String} {expiresAt : Rat} {deleted : Bool} {ids : List String}
    (running : Running t request (.released key token deleted ::
      (ids.map .generated ++ [.acquired key token expiresAt, .generated token])) s) : GivenBack t s := by
  intro _ _ _ _ _ key' token' expiresAt' member
  rw [running.notes] at member
  have same : key' = key ∧ token' = token ∧ expiresAt' = expiresAt := by simpa using member
  obtain ⟨rfl, rfl, rfl⟩ := same
  exact ⟨[], deleted, _, running.notes, by simp⟩

/-- `withLock` releases what it has acquired. -/
theorem safe_withLock {key : String} {ttlMs : Rat} {fn : Promise α} (asks : request.asks = some (key, ttlMs))
    (free : fn.All fun c : Call => c.locks = false) (running : Running t request [] s) :
    lockConduct.Safe t (withLock key ttlMs fn) (fun _ => GivenBack t) (fun _ => GivenBack t) s := by
  refine Contract.Safe.bind (safe_acquireLock asks running ?_ ?_)
  · intro token expiresAt s' acquired
    have released : ∀ s', Inside t request [.acquired key token expiresAt, .generated token] s' →
        lockConduct.Safe t (do let _ ← releaseLock key token) (fun _ => GivenBack t) (fun _ => GivenBack t) s' := by
      intro s' inside
      refine Contract.Safe.bind (Contract.Safe.ask fun s₁ moved => ⟨.lockRelease, ?_⟩)
      intro choice outcome s₂ performed s₃ moved'
      obtain ⟨ids, own⟩ := inside.later moved
      rcases own.lockRelease performed with ⟨deleted, rfl, given⟩ | ⟨e, rfl, fault⟩
      · exact Contract.Safe.pure fun _ last => .of_released ((given.later moved').later last)
      · exact GivenBack.of_fault (moved'.notes ▸ fault)
    exact Contract.Safe.ensure
      ((safe_lockFree free ⟨[], acquired⟩).weaken (fun _ => released) fun _ => released)
  · intro token s' held
    exact Contract.Safe.throw fun _ moved => .of_running (held.later moved) (by simp)

theorem GivenBack.of_request (running : Running t request h s)
    (other : ∀ key ttlMs body, request ≠ .withLock key ttlMs body) : GivenBack t s :=
  fun key ttlMs body own => (other key ttlMs body ((running.only _).mp own).symm).elim

theorem safe_request (running : Running t request [] s) :
    lockConduct.Safe t request.program (fun _ => GivenBack t) (fun _ => GivenBack t) s := by
  cases request with
  | acquireLock key ttlMs =>
    refine Contract.Safe.bind (safe_acquireLock rfl running ?_ ?_)
    · intro token expiresAt s' acquired
      exact Contract.Safe.pure fun _ moved => .of_request (acquired.later moved) (by simp)
    · intro token s' held
      exact Contract.Safe.pure fun _ moved => .of_request (held.later moved) (by simp)
  | releaseLock key token =>
    refine Contract.Safe.bind (Contract.Safe.ask fun s₁ moved => ⟨.lockRelease, ?_⟩)
    intro choice outcome s₂ performed s₃ moved'
    rcases (running.later moved).lockRelease performed with ⟨deleted, rfl, released⟩ | ⟨e, rfl, fault⟩
    · exact Contract.Safe.pure fun _ last => .of_request ((released.later moved').later last) (by simp)
    · exact GivenBack.of_fault (moved'.notes ▸ fault)
  | withLock key ttlMs body => exact safe_withLock rfl body.lockFree running

theorem lockClients_starts : lockConduct.Starts := by
  intro n e s s' started occurred fresh i p found
  cases e with
  | start request =>
    cases occurred
    cases i with
    | succ i => cases found
    | zero =>
      cases found
      obtain ⟨unused, new⟩ := fresh n (le_refl n)
      refine safe_request ⟨fun other => ?_, unused⟩
      constructor
      · intro member
        rcases List.mem_cons.mp member with here | before
        · cases here
          rfl
        · exact (new other before).elim
      · rintro rfl
        exact List.mem_cons_self
  | wait ms =>
    simp only [lockClients, LockStore.occur] at occurred
    split at occurred <;> cases occurred
    cases found
  | expire key =>
    simp only [lockClients, LockStore.occur] at occurred
    split at occurred
    · split at occurred <;> cases occurred
      cases found
    · cases occurred

/-- The stores and clients that runs of the lock functions reach. -/
abbrev LocksReached (pool : Pool calls JsError LockStore) : Prop := lockClients.Reachable {} .free pool

theorem lockClients_fresh (t : Nat) : lockConduct.fresh t {} := ⟨rfl, fun _ => by simp⟩

variable {pool : Pool calls JsError LockStore}

theorem invariant_of_lockSteps (property : LockStore → Prop) (initial : property {})
    (preserved : ∀ t s s', property s → LockStep t s s' → property s') (reached : LocksReached pool) :
    property pool.world := by
  have chain : ∀ t s s', property s → LockSteps t s s' → property s' := by
    intro t s s' held steps
    induction steps with
    | refl => exact held
    | tail _ step ih => exact preserved t _ _ ih step
  refine lockConduct.invariant lockClients_starts lockClients_fresh property initial ?_ reached
  intro n s s' held move
  cases move with
  | call _ issued _ performed => exact chain _ _ _ held (issued.steps performed)
  | event fresh _ occurred => exact chain n _ _ held (occur_lockSteps occurred (fresh n (le_refl n)).2)
  | idle => exact held

end PaymentModel
