import PaymentSystem.Proof.Evolution

namespace PaymentModel

open Async

/-- The row of a payment is what its transition events make it. -/
structure Agrees (row : Payment) (events : List PaymentEvent) : Prop where
  version : row.version = 1 + events.length
  retryCount : row.retryCount = events.countP fun event => event.toStatus = .retryScheduled
  status : row.status = (events.getLast?.map PaymentEvent.toStatus).getD .created

/-- The version that the commits of a trace leave payment `p` with. -/
def committedVersion (p : Uuid) (trace : List (Nat × Obs)) : Nat :=
  ((committedRow p trace).map Payment.version).getD 1

/-- A commit that returns a payment is one transition of it: the version that its thread held is
    the committed one, and grows by one. A commit that returns none is no transition. -/
structure Raises (older : List (Nat × Obs)) (t : Nat) (commit : Commit) : Prop where
  single : ∀ p, (transitions p commit.paymentEvents).length =
    if commit.row.map Payment.id = some p then 1 else 0
  held : ∀ row, commit.row = some row →
    (heldVersion row.id (historyOf older t)).getD 1 = committedVersion row.id older
  version : ∀ row, commit.row = some row → row.version = committedVersion row.id older + 1

variable {site : Deployment} {R : Condition} {t : Nat} {w w' : World} {db : Db} {p : Uuid}
  {row : Payment} {pool : Pool calls JsError World}

theorem agrees_of_evolved (step : Evolved site w t w' p row)
    (before : ∀ old, w.db.payment p = some old → Agrees old (transitions p w.db.paymentEvents)) :
    Agrees row (transitions p w'.db.paymentEvents) := by
  cases step with
  | kept old found progress same =>
    simp only [Payment.progress, Progress.mk.injEq] at progress
    obtain ⟨status, version, retryCount, -⟩ := progress
    obtain ⟨version', retryCount', status'⟩ := before _ found
    rw [same]
    exact ⟨version.trans version', retryCount.trans retryCount', status.trans status'⟩
  | moved old event cause transition _ _ grown =>
    obtain ⟨version, retryCount, status⟩ := before _ transition.found
    rw [grown]
    refine ⟨?_, ?_, ?_⟩
    · rw [transition.version, version, List.length_append, List.length_singleton, Nat.add_assoc]
    · rw [transition.retryCount, retryCount, List.countP_append]
      by_cases retry : event.toStatus = .retryScheduled <;> simp [retry]
    · rw [transition.status]
      simp
  | created event _ _ status version retryCount _ is _ single =>
    rw [single]
    exact ⟨version, by simp [retryCount, is.toStatus], by simp [status, is.toStatus]⟩

theorem Current.version (current : Current w) (p : Uuid) :
    committedVersion p w.trace = ((w.db.payment p).map Payment.version).getD 1 := by
  have same := congrArg (Option.map Progress.version) (current p)
  simp only [Option.map_map] at same
  exact congrArg (Option.getD · 1) same

theorem Transacted.raises (committed : Transacted site w t db row) (current : Current w) :
    Raises w.trace t (w.added (some row) db) where
  single p := by
    rw [committed.transitions]
    simp [World.added, eq_comm]
  held := by
    rintro _ ⟨⟩
    rw [current.version]
    exact committed.held
  version := by
    rintro _ ⟨⟩
    rw [current.version]
    exact committed.version

theorem Stated.raises (stated : Stated w.db db) (t : Nat) : Raises w.trace t (w.added none db) where
  single p := by
    rw [stated.transitions p]
    rfl
  held := by rintro _ ⟨⟩
  version := by rintro _ ⟨⟩

theorem every_commit_raises (reached : Reached site R pool) : EveryCommit Raises pool.world.trace := by
  refine (invariant_of_steps (fun w => Current w ∧ EveryCommit Raises w.trace) ⟨fun _ => rfl, throughout_nil _⟩
    (fun t w w' held step => ⟨step.current held.1, ?_⟩) reached).2
  exact held.2.step step (fun row committed => committed.raises held.1) (fun stated => stated.raises t)

theorem committedVersion_le {newer older : List (Nat × Obs)} (raises : EveryCommit Raises (newer ++ older))
    (p : Uuid) : committedVersion p older ≤ committedVersion p (newer ++ older) := by
  induction newer with
  | nil => exact Nat.le_refl _
  | cons entry newer ih =>
    obtain ⟨t, o⟩ := entry
    obtain ⟨here, before⟩ := throughout_cons.mp raises
    refine Nat.le_trans (ih before) ?_
    rw [List.cons_append]
    by_cases plain : ∀ commit, o ≠ .committed commit
    · rw [committedVersion, committedVersion, committedRow_plain plain]
    · obtain ⟨commit, rfl⟩ : ∃ commit, o = .committed commit := by simpa using plain
      cases returned : commit.row with
      | none => rw [committedVersion, committedVersion, committedRow_silent returned]
      | some row =>
        have version := (here commit rfl).version row returned
        simp only [committedVersion, committedRow_returned returned] at version ⊢
        split
        · rename_i same
          subst same
          simp [version]
        · exact Nat.le_refl _

/-- Of two commits of one payment, the later one held a later version. -/
theorem EveryCommit.held_lt {newer middle older : List (Nat × Obs)} {t u : Nat} {first second : Commit}
    {row row' : Payment}
    (raises : EveryCommit Raises (newer ++ (u, .committed second) :: middle ++ (t, .committed first) :: older))
    (returned : first.row = some row) (returned' : second.row = some row') (same : row'.id = row.id) :
    (heldVersion row.id (historyOf older t)).getD 1 <
      (heldVersion row.id (historyOf (middle ++ (t, .committed first) :: older) u)).getD 1 := by
  have later : Raises (middle ++ (t, .committed first) :: older) u second :=
    raises newer (u, .committed second) (middle ++ (t, .committed first) :: older) (by simp)
      second rfl
  have earlier : Raises older t first :=
    raises (newer ++ (u, .committed second) :: middle) (t, .committed first) older (by simp)
      first rfl
  have rest : EveryCommit Raises (middle ++ (t, .committed first) :: older) := by
    intro newer' entry older' split
    exact raises (newer ++ (u, .committed second) :: newer') entry older' (by simp [split])
  have grows := committedVersion_le rest row.id
  simp only [committedVersion, committedRow_returned returned, if_true, Option.map_some, Option.getD_some] at grows
  have version := earlier.version row returned
  have held := earlier.held row returned
  have held' := later.held row' returned'
  rw [same, committedVersion] at held'
  omega

/-- Rows and audit log agree, every commit of a payment raises its version by one, and of two
    operations that held the same version of it at most one has committed. -/
theorem audit_trail (reached : Reached site R pool) :
    (∀ p row, pool.world.payment p = some row → Agrees row (transitions p pool.world.db.paymentEvents)) ∧
      Current pool.world ∧ EveryCommit Raises pool.world.trace ∧
      ∀ newer middle older t u first second row row',
        pool.world.trace = newer ++ (u, .committed second) :: middle ++ (t, .committed first) :: older →
        first.row = some row → second.row = some row' → row'.id = row.id →
        heldVersion row.id (historyOf older t) ≠
          heldVersion row.id (historyOf (middle ++ (t, .committed first) :: older) u) := by
  have raises := every_commit_raises reached
  refine ⟨?_, current reached, raises, ?_⟩
  · intro p row found
    exact invariant_of_evolution (fun _ row events => Agrees row events)
      (fun before evolved => agrees_of_evolved evolved before) reached found
  · intro newer middle older t u first second row row' split returned returned' same held
    rw [split] at raises
    have lt := raises.held_lt returned returned' same
    rw [held] at lt
    exact Nat.lt_irrefl _ lt

theorem audit_trail_approved : ∃ pool row, Reached sampleSite .free pool ∧
    pool.world.payment (sampleId '0') = some row ∧ row.status = .success ∧
    Agrees row (transitions (sampleId '0') pool.world.db.paymentEvents) := by
  obtain ⟨pool, reached, shown⟩ := reached_of_run sampleSite .free
    (creation ++ attempt 1 'a' approved ++ acts 1 [{}, {}, {}])
    (fun pool => (pool.world.payment (sampleId '0')).any fun row => row.status = .success) (by decide +kernel)
  obtain ⟨row, found, success⟩ := (Option.any_eq_true _ _).mp shown
  exact ⟨pool, row, reached, found, of_decide_eq_true success, (audit_trail reached).1 _ row found⟩

end PaymentModel
