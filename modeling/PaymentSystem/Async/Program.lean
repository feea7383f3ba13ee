namespace Async

/-- The calls a program may await and the type each of them answers with. -/
structure Signature where
  Call : Type
  Answer : Call → Type

/-- A program of asynchronous calls. Every call may reject, so a continuation takes the outcome
    of the call; a detached call is started without being awaited. -/
inductive Program (σ : Signature) (ε α : Type) where
  | done (outcome : Except ε α)
  | call (c : σ.Call) (next : Except ε (σ.Answer c) → Program σ ε α)
  | detach (c : σ.Call) (next : Program σ ε α)

namespace Program

variable {σ : Signature} {ε α β : Type}

def ask (c : σ.Call) : Program σ ε (σ.Answer c) := .call c .done

def start (c : σ.Call) : Program σ ε Unit := .detach c (.done (.ok ()))

def bind : Program σ ε α → (α → Program σ ε β) → Program σ ε β
  | .done (.ok value), f => f value
  | .done (.error e), _ => .done (.error e)
  | .call c next, f => .call c fun outcome => (next outcome).bind f
  | .detach c next, f => .detach c (next.bind f)

def handle : Program σ ε α → (ε → Program σ ε α) → Program σ ε α
  | .done (.ok value), _ => .done (.ok value)
  | .done (.error e), f => f e
  | .call c next, f => .call c fun outcome => (next outcome).handle f
  | .detach c next, f => .detach c (next.handle f)

instance : Monad (Program σ ε) where
  pure value := .done (.ok value)
  bind := bind

instance : MonadExcept ε (Program σ ε) where
  throw e := .done (.error e)
  tryCatch := handle

def ended : Program σ ε α → Bool
  | .done _ => true
  | _ => false

/-- `try body finally cleanup`: an error of the cleanup replaces the outcome of the body. -/
def ensure (body : Program σ ε α) (cleanup : Program σ ε Unit) : Program σ ε α :=
  match body with
  | .done outcome => cleanup.bind fun _ => .done outcome
  | .call c next => .call c fun outcome => (next outcome).ensure cleanup
  | .detach c next => .detach c (next.ensure cleanup)

/-- Every call a program can come to make, whatever its calls are answered, has the property. -/
def All (property : σ.Call → Prop) : Program σ ε α → Prop
  | .done _ => True
  | .call c next => property c ∧ ∀ outcome, (next outcome).All property
  | .detach c next => property c ∧ next.All property

variable {property : σ.Call → Prop}

theorem All.pure (value : α) : (Pure.pure value : Program σ ε α).All property := trivial

theorem All.throw (e : ε) : (MonadExcept.throw e : Program σ ε α).All property := trivial

theorem All.ask {c : σ.Call} (holds : property c) : (Program.ask c : Program σ ε (σ.Answer c)).All property :=
  ⟨holds, fun _ => trivial⟩

theorem All.start {c : σ.Call} (holds : property c) : (Program.start c : Program σ ε Unit).All property :=
  ⟨holds, trivial⟩

theorem All.bind {p : Program σ ε α} {f : α → Program σ ε β} (first : p.All property)
    (rest : ∀ value, (f value).All property) : (p >>= f).All property := by
  induction p with
  | done outcome =>
    match outcome with
    | .ok value => exact rest value
    | .error _ => trivial
  | call c next ih => exact ⟨first.1, fun outcome => ih outcome (first.2 outcome)⟩
  | detach c next ih => exact ⟨first.1, ih first.2⟩

theorem All.tryCatch {p : Program σ ε α} {f : ε → Program σ ε α} (body : p.All property)
    (handler : ∀ e, (f e).All property) : (MonadExcept.tryCatch p f).All property := by
  induction p with
  | done outcome =>
    match outcome with
    | .ok _ => trivial
    | .error e => exact handler e
  | call c next ih => exact ⟨body.1, fun outcome => ih outcome (body.2 outcome)⟩
  | detach c next ih => exact ⟨body.1, ih body.2⟩

theorem All.ensure {p : Program σ ε α} {cleanup : Program σ ε Unit} (body : p.All property)
    (cleans : cleanup.All property) : (p.ensure cleanup).All property := by
  induction p with
  | done outcome => exact cleans.bind fun _ => trivial
  | call c next ih => exact ⟨body.1, fun outcome => ih outcome (body.2 outcome)⟩
  | detach c next ih => exact ⟨body.1, ih body.2⟩

theorem All.weaken {weaker : σ.Call → Prop} {p : Program σ ε α} (all : p.All property)
    (implies : ∀ c, property c → weaker c) : p.All weaker := by
  induction p with
  | done outcome => trivial
  | call c next ih => exact ⟨implies c all.1, fun outcome => ih outcome (all.2 outcome)⟩
  | detach c next ih => exact ⟨implies c all.1, ih all.2⟩

/-- However its calls are answered, the program does not return. -/
def Throws : Program σ ε α → Prop
  | .done (.ok _) => False
  | .done (.error _) => True
  | .call _ next => ∀ outcome, (next outcome).Throws
  | .detach _ next => next.Throws

/-- From the rejection of a fatal call on the program throws. -/
def Propagates (fatal : σ.Call → Prop) : Program σ ε α → Prop
  | .done _ => True
  | .call c next => (fatal c → ∀ e, (next (.error e)).Throws) ∧ ∀ outcome, (next outcome).Propagates fatal
  | .detach _ next => next.Propagates fatal

variable {fatal : σ.Call → Prop}

theorem Throws.bind {p : Program σ ε α} {f : α → Program σ ε β} (throws : p.Throws) : (p.bind f).Throws := by
  induction p with
  | done outcome =>
    match outcome with
    | .ok _ => exact throws.elim
    | .error _ => trivial
  | call c next ih => exact fun outcome => ih outcome (throws outcome)
  | detach c next ih => exact ih throws

theorem Throws.after {p : Program σ ε α} {f : α → Program σ ε β} (throws : ∀ value, (f value).Throws) :
    (p.bind f).Throws := by
  induction p with
  | done outcome =>
    match outcome with
    | .ok value => exact throws value
    | .error _ => trivial
  | call c next ih => exact ih
  | detach c next ih => exact ih

theorem Throws.ensure {p : Program σ ε α} {cleanup : Program σ ε Unit} (throws : p.Throws) :
    (p.ensure cleanup).Throws := by
  induction p with
  | done outcome =>
    match outcome with
    | .ok _ => exact throws.elim
    | .error _ => exact Throws.after fun _ => trivial
  | call c next ih => exact fun outcome => ih outcome (throws outcome)
  | detach c next ih => exact ih throws

theorem Propagates.pure (value : α) : (Pure.pure value : Program σ ε α).Propagates fatal := trivial

theorem Propagates.throw (e : ε) : (MonadExcept.throw e : Program σ ε α).Propagates fatal := trivial

theorem Propagates.ask (c : σ.Call) : (Program.ask c : Program σ ε (σ.Answer c)).Propagates fatal :=
  ⟨fun _ _ => trivial, fun _ => trivial⟩

theorem Propagates.bind {p : Program σ ε α} {f : α → Program σ ε β} (first : p.Propagates fatal)
    (rest : ∀ value, (f value).Propagates fatal) : (p >>= f).Propagates fatal := by
  induction p with
  | done outcome =>
    match outcome with
    | .ok value => exact rest value
    | .error _ => trivial
  | call c next ih =>
    exact ⟨fun is e => (first.1 is e).bind, fun outcome => ih outcome (first.2 outcome)⟩
  | detach c next ih => exact ih first

/-- A handler may swallow the errors of calls that are not fatal. -/
theorem Propagates.tryCatch {p : Program σ ε α} {f : ε → Program σ ε α} (harmless : p.All fun c => ¬fatal c)
    (handler : ∀ e, (f e).Propagates fatal) : (MonadExcept.tryCatch p f).Propagates fatal := by
  induction p with
  | done outcome =>
    match outcome with
    | .ok _ => trivial
    | .error e => exact handler e
  | call c next ih =>
    exact ⟨fun is => (harmless.1 is).elim, fun outcome => ih outcome (harmless.2 outcome)⟩
  | detach c next ih => exact ih harmless.2

theorem Propagates.ensure {p : Program σ ε α} {cleanup : Program σ ε Unit} (body : p.Propagates fatal)
    (cleans : cleanup.Propagates fatal) : (p.ensure cleanup).Propagates fatal := by
  induction p with
  | done outcome => exact cleans.bind fun _ => trivial
  | call c next ih => exact ⟨fun is e => (body.1 is e).ensure, fun outcome => ih outcome (body.2 outcome)⟩
  | detach c next ih => exact ih body

/-- A fatal call that is rejected ends the program with its error. -/
def Rethrows (fatal : σ.Call → Prop) : Program σ ε α → Prop
  | .done _ => True
  | .call c next =>
    (fatal c → ∀ e, next (.error e) = .done (.error e)) ∧ ∀ outcome, (next outcome).Rethrows fatal
  | .detach _ next => next.Rethrows fatal

theorem Rethrows.pure (value : α) : (Pure.pure value : Program σ ε α).Rethrows fatal := trivial

theorem Rethrows.throw (e : ε) : (MonadExcept.throw e : Program σ ε α).Rethrows fatal := trivial

theorem Rethrows.ask (c : σ.Call) : (Program.ask c : Program σ ε (σ.Answer c)).Rethrows fatal :=
  ⟨fun _ _ => rfl, fun _ => trivial⟩

theorem Rethrows.bind {p : Program σ ε α} {f : α → Program σ ε β} (first : p.Rethrows fatal)
    (rest : ∀ value, (f value).Rethrows fatal) : (p >>= f).Rethrows fatal := by
  induction p with
  | done outcome =>
    match outcome with
    | .ok value => exact rest value
    | .error _ => trivial
  | call c next ih =>
    refine ⟨fun is e => ?_, fun outcome => ih outcome (first.2 outcome)⟩
    change (next (.error e)).bind f = _
    rw [first.1 is e]
    rfl
  | detach c next ih => exact ih first

/-- Until it makes a call that stops it, or gets an answer that does, the program makes allowed calls
    only. -/
def Until (allowed stops : σ.Call → Prop) (answers : (c : σ.Call) → Except ε (σ.Answer c) → Prop) :
    Program σ ε α → Prop
  | .done _ => True
  | .call c next => stops c ∨ allowed c ∧ ∀ outcome, answers c outcome ∨ (next outcome).Until allowed stops answers
  | .detach _ next => next.Until allowed stops answers

variable {allowed stops : σ.Call → Prop} {answers : (c : σ.Call) → Except ε (σ.Answer c) → Prop}

theorem Until.pure (value : α) : (Pure.pure value : Program σ ε α).Until allowed stops answers := trivial

theorem Until.ask {c : σ.Call} (allows : allowed c) :
    (Program.ask c : Program σ ε (σ.Answer c)).Until allowed stops answers :=
  .inr ⟨allows, fun _ => .inr trivial⟩

theorem Until.bind {p : Program σ ε α} {f : α → Program σ ε β} (first : p.Until allowed stops answers)
    (rest : ∀ value, (f value).Until allowed stops answers) : (p >>= f).Until allowed stops answers := by
  induction p with
  | done outcome =>
    match outcome with
    | .ok value => exact rest value
    | .error _ => trivial
  | call c next ih =>
    exact first.imp_right fun allows => ⟨allows.1, fun outcome => (allows.2 outcome).imp_right (ih outcome)⟩
  | detach c next ih => exact ih first

theorem Until.tryCatch {p : Program σ ε α} {f : ε → Program σ ε α} (body : p.Until allowed stops answers)
    (handler : ∀ e, (f e).Until allowed stops answers) : (MonadExcept.tryCatch p f).Until allowed stops answers := by
  induction p with
  | done outcome =>
    match outcome with
    | .ok _ => trivial
    | .error e => exact handler e
  | call c next ih =>
    exact body.imp_right fun allows => ⟨allows.1, fun outcome => (allows.2 outcome).imp_right (ih outcome)⟩
  | detach c next ih => exact ih body

end Program

end Async
