import Mathlib.Logic.Function.Basic
import PaymentSystem.Async.Pool

namespace Async

/-- The order in which a thread makes its calls: the states it goes through, the calls that it may make in each
    of them, and the state that the outcome of a call takes it to. A thread begins in `start`. -/
structure Protocol (σ : Signature) (ε S : Type) where
  start : S
  allows : S → σ.Call → Prop
  next : S → (c : σ.Call) → Except ε (σ.Answer c) → S

variable {σ : Signature} {ε World Choice Event α β S : Type}

namespace Protocol

variable (P : Protocol σ ε S)

/-- A call that may be started without being awaited: the thread of its own that makes it ends where it began. -/
def Starts (s : S) (c : σ.Call) : Prop :=
  P.allows s c ∧ P.allows P.start c ∧ ∀ outcome, P.next P.start c outcome = P.start

/-- From a state on the program makes only calls that the protocol allows, whatever they are answered, and ends
    in a state of `ok` or of `err`. -/
def Follows : Program σ ε α → S → (α → S → Prop) → (ε → S → Prop) → Prop
  | .done (.ok value), s, ok, _ => ok value s
  | .done (.error e), s, _, err => err e s
  | .call c next, s, ok, err => P.allows s c ∧ ∀ outcome, Follows (next outcome) (P.next s c outcome) ok err
  | .detach c next, s, ok, err => P.Starts s c ∧ Follows next s ok err

/-- A call that leaves the state, awaited or not. -/
def Keeps (s : S) (c : σ.Call) : Prop := P.Starts s c ∧ ∀ outcome, P.next s c outcome = s

variable {P} {s : S} {ok : α → S → Prop} {err : ε → S → Prop}

namespace Follows

theorem bind {p : Program σ ε α} {f : α → Program σ ε β} {mid : α → S → Prop} {ok : β → S → Prop}
    (first : P.Follows p s mid err) (rest : ∀ value s', mid value s' → P.Follows (f value) s' ok err) :
    P.Follows (p >>= f) s ok err := by
  induction p generalizing s with
  | done outcome =>
    match outcome with
    | .ok value => exact rest value s first
    | .error _ => exact first
  | call c next ih => exact ⟨first.1, fun outcome => ih outcome (first.2 outcome)⟩
  | detach c next ih => exact ⟨first.1, ih first.2⟩

theorem tryCatch {p : Program σ ε α} {f : ε → Program σ ε α} {caught : ε → S → Prop} (body : P.Follows p s ok caught)
    (handler : ∀ e s', caught e s' → P.Follows (f e) s' ok err) : P.Follows (MonadExcept.tryCatch p f) s ok err := by
  induction p generalizing s with
  | done outcome =>
    match outcome with
    | .ok _ => exact body
    | .error e => exact handler e s body
  | call c next ih => exact ⟨body.1, fun outcome => ih outcome (body.2 outcome)⟩
  | detach c next ih => exact ⟨body.1, ih body.2⟩

theorem ensure {p : Program σ ε α} {cleanup : Program σ ε Unit} {mid : α → S → Prop} {caught : ε → S → Prop}
    (body : P.Follows p s mid caught) (cleans : ∀ value s', mid value s' → P.Follows cleanup s' (fun _ => ok value) err)
    (rethrows : ∀ e s', caught e s' → P.Follows cleanup s' (fun _ => err e) err) :
    P.Follows (p.ensure cleanup) s ok err := by
  induction p generalizing s with
  | done outcome =>
    match outcome with
    | .ok value => exact (cleans value s body).bind fun _ _ returned => returned
    | .error e => exact (rethrows e s body).bind fun _ _ returned => returned
  | call c next ih => exact ⟨body.1, fun outcome => ih outcome (body.2 outcome)⟩
  | detach c next ih => exact ⟨body.1, ih body.2⟩

/-- A program of calls that leave the state leaves it itself. -/
theorem of_all {p : Program σ ε α} (all : p.All (P.Keeps s)) : P.Follows p s (fun _ s' => s' = s) fun _ s' => s' = s := by
  induction p with
  | done outcome =>
    match outcome with
    | .ok _ => exact rfl
    | .error _ => exact rfl
  | call c next ih =>
    refine ⟨all.1.1.1, ?_⟩
    intro outcome
    rw [all.1.2 outcome]
    exact ih outcome (all.2 outcome)
  | detach c next ih => exact ⟨all.1.1, ih all.2⟩

end Follows

/-- The program is back where threads begin when it began there. -/
abbrev Returns (P : Protocol σ ε S) (p : Program σ ε α) : Prop :=
  P.Follows p P.start (fun _ s' => s' = P.start) fun _ s' => s' = P.start

namespace Returns

theorem of_all {p : Program σ ε α} (all : p.All (P.Keeps P.start)) : P.Returns p := Follows.of_all all

theorem bind {p : Program σ ε α} {f : α → Program σ ε β} (first : P.Returns p) (rest : ∀ value, P.Returns (f value)) :
    P.Returns (p >>= f) := by
  refine Follows.bind first ?_
  rintro value _ rfl
  exact rest value

theorem tryCatch {p : Program σ ε α} {f : ε → Program σ ε α} (body : P.Returns p) (handler : ∀ e, P.Returns (f e)) :
    P.Returns (MonadExcept.tryCatch p f) := by
  refine Follows.tryCatch body ?_
  rintro e _ rfl
  exact handler e

end Returns

/-- A thread follows the protocol to its end, where it is in the state it began with. -/
def Runs (P : Protocol σ ε S) (p : Program σ ε Unit) (s : S) : Prop :=
  P.Follows p s (fun _ s' => s' = P.start) fun _ s' => s' = P.start

/-- Every thread is at its place in the protocol; those that are not there yet are at its start. -/
structure Tracks (P : Protocol σ ε S) (threads : List (Program σ ε Unit)) (states : Nat → S) : Prop where
  runs : ∀ t p, threads[t]? = some p → P.Runs p (states t)
  fresh : ∀ t, threads.length ≤ t → states t = P.start

namespace Tracks

variable {threads : List (Program σ ε Unit)} {states : Nat → S} {t : Nat} {c : σ.Call}

theorem allows {rest : Except ε (σ.Answer c) → Program σ ε Unit} (tracks : P.Tracks threads states)
    (running : threads[t]? = some (.call c rest)) : P.allows (states t) c := (tracks.runs t _ running).1

theorem set {p : Program σ ε Unit} {s' : S} (tracks : P.Tracks threads states) (bound : t < threads.length)
    (runs : P.Runs p s') : P.Tracks (threads.set t p) (Function.update states t s') := by
  constructor
  · intro u q running
    by_cases same : u = t
    · subst same
      rw [List.getElem?_set_self bound] at running
      cases running
      rwa [Function.update_self]
    · rw [List.getElem?_set_ne (Ne.symm same)] at running
      rw [Function.update_of_ne same]
      exact tracks.runs u q running
  · intro u beyond
    rw [List.length_set] at beyond
    rw [Function.update_of_ne (by omega)]
    exact tracks.fresh u beyond

theorem append {started : List (Program σ ε Unit)} (tracks : P.Tracks threads states)
    (starts : ∀ p ∈ started, P.Runs p P.start) : P.Tracks (threads ++ started) states := by
  constructor
  · intro u q running
    by_cases old : u < threads.length
    · rw [List.getElem?_append_left old] at running
      exact tracks.runs u q running
    · rw [List.getElem?_append_right (Nat.le_of_not_lt old)] at running
      rw [tracks.fresh u (Nat.le_of_not_lt old)]
      exact starts q (List.mem_of_getElem? running)
  · intro u beyond
    rw [List.length_append] at beyond
    exact tracks.fresh u (by omega)

theorem call {rest : Except ε (σ.Answer c) → Program σ ε Unit} (tracks : P.Tracks threads states)
    (running : threads[t]? = some (.call c rest)) (outcome : Except ε (σ.Answer c)) :
    P.Tracks (threads.set t (rest outcome)) (Function.update states t (P.next (states t) c outcome)) :=
  tracks.set (List.getElem?_eq_some_iff.mp running).1 ((tracks.runs t _ running).2 outcome)

theorem detach {rest : Program σ ε Unit} (tracks : P.Tracks threads states)
    (running : threads[t]? = some (.detach c rest)) :
    P.Tracks (threads.set t rest ++ [.call c fun _ => .done (.ok ())]) states := by
  obtain ⟨⟨_, allows, returns⟩, runs⟩ := tracks.runs t _ running
  have kept := tracks.set (List.getElem?_eq_some_iff.mp running).1 runs
  rw [Function.update_eq_self] at kept
  refine kept.append ?_
  intro p member
  cases List.mem_singleton.mp member
  exact ⟨allows, fun outcome => returns outcome⟩

end Tracks

end Protocol

end Async
