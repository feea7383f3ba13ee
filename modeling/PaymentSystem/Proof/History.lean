import PaymentSystem.Model.System

namespace PaymentModel

open Async

def historyOf (trace : List (Nat × Obs)) (t : Nat) : List Obs :=
  (trace.filter fun entry => entry.1 = t).map Prod.snd

/-- What thread `t` has done, newest first. -/
def World.history (w : World) (t : Nat) : List Obs := historyOf w.trace t

/-- The version of payment `p` that a thread last read or wrote. -/
def heldVersion (p : Uuid) : List Obs → Option Nat
  | [] => none
  | .read _ (some row) :: h => if row.id = p then some row.version else heldVersion p h
  | .committed ⟨some row, _, _⟩ :: h => if row.id = p then some row.version else heldVersion p h
  | _ :: h => heldVersion p h

/-- Every entry of a trace is related by `P` to the entries before it. -/
def Throughout (P : List (Nat × Obs) → Nat × Obs → Prop) (trace : List (Nat × Obs)) : Prop :=
  ∀ newer entry older, trace = newer ++ entry :: older → P older entry

theorem throughout_nil (P : List (Nat × Obs) → Nat × Obs → Prop) : Throughout P [] := by
  intro newer entry older split
  simp at split

theorem throughout_cons {P : List (Nat × Obs) → Nat × Obs → Prop} {entry : Nat × Obs}
    {trace : List (Nat × Obs)} : Throughout P (entry :: trace) ↔ P trace entry ∧ Throughout P trace := by
  constructor
  · intro all
    refine ⟨all [] entry trace rfl, ?_⟩
    intro newer other older split
    exact all (entry :: newer) other older (by rw [split, List.cons_append])
  · rintro ⟨here, before⟩ newer other older split
    rcases List.cons_eq_append_iff.mp split with ⟨rfl, same⟩ | ⟨rest, rfl, same⟩
    · cases same
      exact here
    · exact before rest other older same

instance Throughout.decidable {P : List (Nat × Obs) → Nat × Obs → Prop} [∀ older entry, Decidable (P older entry)] :
    DecidablePred (Throughout P)
  | [] => .isTrue (throughout_nil P)
  | entry :: older =>
    have := Throughout.decidable (P := P) older
    decidable_of_iff (P older entry ∧ Throughout P older) throughout_cons.symm

theorem Throughout.of_mem {P : List (Nat × Obs) → Nat × Obs → Prop} {entry : Nat × Obs}
    {trace : List (Nat × Obs)} (all : Throughout P trace) (member : entry ∈ trace) : ∃ older, P older entry := by
  obtain ⟨newer, older, split⟩ := List.append_of_mem member
  exact ⟨older, all newer entry older split⟩

theorem Throughout.of_split {P : List (Nat × Obs) → Nat × Obs → Prop} {entry : Nat × Obs}
    {after before : List (Nat × Obs)} (all : Throughout P (after ++ before)) (member : entry ∈ after) :
    ∃ between, P (between ++ before) entry := by
  obtain ⟨newer, between, rfl⟩ := List.append_of_mem member
  refine ⟨between, all newer entry (between ++ before) ?_⟩
  rw [List.append_assoc, List.cons_append]

theorem historyOf_cons (entry : Nat × Obs) (trace : List (Nat × Obs)) (t : Nat) :
    historyOf (entry :: trace) t = if entry.1 = t then entry.2 :: historyOf trace t else historyOf trace t := by
  by_cases own : entry.1 = t <;> simp [historyOf, own]

/-- A note of a thread stands in the trace right after those that its history has before it. -/
theorem historyOf_suffix {trace : List (Nat × Obs)} {t : Nat} {o : Obs} {h : List Obs}
    (own : o :: h <:+ historyOf trace t) :
    ∃ newer older, trace = newer ++ (t, o) :: older ∧ historyOf older t = h := by
  induction trace with
  | nil => cases List.suffix_nil.mp own
  | cons entry trace ih =>
    obtain ⟨u, newest⟩ := entry
    have before : o :: h <:+ historyOf trace t → ∃ newer older,
        (u, newest) :: trace = newer ++ (t, o) :: older ∧ historyOf older t = h := by
      intro own
      obtain ⟨newer, older, rfl, rest⟩ := ih own
      exact ⟨(u, newest) :: newer, older, rfl, rest⟩
    rw [historyOf_cons] at own
    split at own
    · rename_i same
      obtain rfl : u = t := same
      rcases List.suffix_cons_iff.mp own with here | own
      · cases here
        exact ⟨[], trace, rfl, rfl⟩
      · exact before own
    · exact before own

theorem Throughout.of_suffix {P : List (Nat × Obs) → Nat × Obs → Prop} {trace : List (Nat × Obs)} {t : Nat}
    {o : Obs} {h : List Obs} (all : Throughout P trace) (own : o :: h <:+ historyOf trace t) :
    ∃ older, historyOf older t = h ∧ P older (t, o) := by
  obtain ⟨newer, older, split, rest⟩ := historyOf_suffix own
  exact ⟨older, rest, all newer (t, o) older split⟩

theorem Throughout.of_head {P : List (Nat × Obs) → Nat × Obs → Prop} {trace : List (Nat × Obs)} {t : Nat}
    {o : Obs} {h : List Obs} (all : Throughout P trace) (own : historyOf trace t = o :: h) :
    ∃ older, historyOf older t = h ∧ P older (t, o) :=
  all.of_suffix (own ▸ List.suffix_refl (o :: h))

namespace World

variable {w w' : World} {t u : Nat} {o : Obs}

@[simp] theorem trace_log (w : World) (t : Nat) (o : Obs) : (w.log t o).trace = (t, o) :: w.trace := rfl

@[simp] theorem db_log (w : World) (t : Nat) (o : Obs) : (w.log t o).db = w.db := rfl

@[simp] theorem locks_log (w : World) (t : Nat) (o : Obs) : (w.log t o).locks = w.locks := rfl

@[simp] theorem records_log (w : World) (t : Nat) (o : Obs) : (w.log t o).records = w.records := rfl

@[simp] theorem processQueue_log (w : World) (t : Nat) (o : Obs) :
    (w.log t o).processQueue = w.processQueue := rfl

@[simp] theorem retryQueue_log (w : World) (t : Nat) (o : Obs) : (w.log t o).retryQueue = w.retryQueue := rfl

theorem history_congr (same : w'.trace = w.trace) (t : Nat) : w'.history t = w.history t := by
  unfold history
  rw [same]

theorem history_cons_self {o : Obs} (same : w'.trace = (t, o) :: w.trace) :
    w'.history t = o :: w.history t := by
  simp [history, historyOf, same]

theorem history_cons_other {o : Obs} (same : w'.trace = (u, o) :: w.trace) (other : t ≠ u) :
    w'.history t = w.history t := by
  simp [history, historyOf, same, Ne.symm other]

@[simp] theorem history_log_self (w : World) (t : Nat) (o : Obs) :
    (w.log t o).history t = o :: w.history t := history_cons_self rfl

theorem history_noted (w : World) (t : Nat) (note : Option Obs) :
    (note.elim w (w.log t)).history t = note.toList ++ w.history t := by
  cases note with
  | none => rfl
  | some o => exact history_cons_self rfl

theorem history_log_other (w : World) (other : t ≠ u) (o : Obs) :
    (w.log u o).history t = w.history t := history_cons_other rfl other

@[simp] theorem history_commit_self (w : World) (t : Nat) (row : Option Payment) (db : Db) :
    (w.commit t row db).history t = .committed (w.added row db) :: w.history t := history_cons_self rfl

theorem mem_history : o ∈ w.history t ↔ (t, o) ∈ w.trace := by
  simp [history, historyOf]

theorem history_suffix (grown : w.trace <:+ w'.trace) (t : Nat) : w.history t <:+ w'.history t :=
  (grown.filter _).map _

end World

/-- `current` is what became of `old`: a payment that still has the version of `old` differs from it
    in the gateway reference at most. -/
structure Before (old current : Payment) : Prop where
  id : current.id = old.id
  maxRetries : current.maxRetries = old.maxRetries
  idempotencyKey : current.idempotencyKey = old.idempotencyKey
  version : old.version ≤ current.version
  status : current.version = old.version → current.status = old.status
  retryCount : current.version = old.version → current.retryCount = old.retryCount
  errorCode : current.version = old.version → current.errorCode = old.errorCode

theorem Before.refl (row : Payment) : Before row row :=
  ⟨rfl, rfl, rfl, Nat.le_refl _, fun _ => rfl, fun _ => rfl, fun _ => rfl⟩

theorem Before.trans {first second third : Payment} (h : Before first second) (h' : Before second third) :
    Before first third where
  id := h'.id.trans h.id
  maxRetries := h'.maxRetries.trans h.maxRetries
  idempotencyKey := h'.idempotencyKey.trans h.idempotencyKey
  version := Nat.le_trans h.version h'.version
  status same := by
    have := h.version
    have := h'.version
    exact (h'.status (by omega)).trans (h.status (by omega))
  retryCount same := by
    have := h.version
    have := h'.version
    exact (h'.retryCount (by omega)).trans (h.retryCount (by omega))
  errorCode same := by
    have := h.version
    have := h'.version
    exact (h'.errorCode (by omega)).trans (h.errorCode (by omega))

/-- Payments are never deleted, and no version is used for two states. -/
def Db.Extends (db db' : Db) : Prop :=
  ∀ p old, db.payment p = some old → ∃ current, db'.payment p = some current ∧ Before old current

theorem Db.Extends.refl (db : Db) : db.Extends db := fun _ old found => ⟨old, found, .refl _⟩

theorem Db.Extends.trans {db₁ db₂ db₃ : Db} (h : db₁.Extends db₂) (h' : db₂.Extends db₃) :
    db₁.Extends db₃ := by
  intro p old found
  obtain ⟨middle, found', before⟩ := h p old found
  obtain ⟨current, found'', before'⟩ := h' p middle found'
  exact ⟨current, found'', before.trans before'⟩

theorem payment_id {db : Db} {p : Uuid} {row : Payment} (found : db.payment p = some row) : row.id = p :=
  Table.key_of_find found

/-- The row `row` of payment `p` has been in the table. -/
def Seen (db : Db) (p : Uuid) (row : Payment) : Prop :=
  ∃ current, db.payment p = some current ∧ Before row current

theorem Seen.later {db db' : Db} {p : Uuid} {row : Payment} (seen : Seen db p row)
    (moved : db.Extends db') : Seen db' p row := by
  obtain ⟨current, found, before⟩ := seen
  obtain ⟨current', found', before'⟩ := moved p current found
  exact ⟨current', found', before.trans before'⟩

theorem Seen.of_payment {db : Db} {p : Uuid} {row : Payment} (found : db.payment p = some row) :
    Seen db p row := ⟨row, found, .refl row⟩

theorem Seen.id {db : Db} {p : Uuid} {row : Payment} (seen : Seen db p row) : row.id = p := by
  obtain ⟨current, found, before⟩ := seen
  exact before.id.symm.trans (payment_id found)

/-- Whoever finds the version of a row it has seen finds its status and its retry count too. -/
theorem Seen.same {db : Db} {p : Uuid} {row current : Payment} (seen : Seen db p row)
    (found : db.payment p = some current) (version : current.version = row.version) :
    current.status = row.status ∧ current.retryCount = row.retryCount ∧
      current.maxRetries = row.maxRetries := by
  obtain ⟨other, found', before⟩ := seen
  rw [found] at found'
  cases found'
  exact ⟨before.status version, before.retryCount version, before.maxRetries⟩

end PaymentModel
