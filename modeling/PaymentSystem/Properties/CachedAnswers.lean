import PaymentSystem.Properties.IdempotentRequests

namespace PaymentModel

open Async

/-- The thread has committed a payment. -/
def Obs.creates : Obs → Bool
  | .committed commit => commit.row.isSome
  | _ => false

def IdempotencyRecord.answers (code : Nat) : IdempotencyRecord → Bool
  | .completed _ _ responseCode _ => responseCode = code
  | .processing .. => false

def Call.isTransaction : Call → Bool
  | .transaction _ => true
  | _ => false

/-- The key has one claim, and the handler of its request makes no failing call from the commit of
    its payment on. -/
def answersKept (key : String) : Condition where
  call t w c choice := (claimsFree key).call t w c choice &&
    decide ((w.history t).any (Obs.admits key) = true → choice.fault ≠ .none →
      (w.history t).any Obs.creates = false ∧ (choice.fault = .after → c.isTransaction = false))
  event := (claimsFree key).event

/-- No request under the key has lost its answer. -/
def Kept (key : String) (older : List (Nat × Obs)) (entry : Nat × Obs) : Prop :=
  entry.2 = .fault → .admitted (some key) ∈ historyOf older entry.1 →
    ∀ commit, .committed commit ∈ historyOf older entry.1 → commit.row = none

/-- After it has generated the id of its payment, the handler of a request under the key has noted
    `o` first. -/
def Resolves (key : String) (h : List Obs) (id : Uuid) (o : Obs) : Prop :=
  ∃ request rest, o :: .uuid id :: .admitted (some key) :: rest <:+ h ∧ Admissible request rest

/-- The answer of a request under the key: the payment it has committed, or an error when it has
    committed none. -/
inductive Resolved (key : String) (h : List Obs) : Nat → ResponseBody → Prop
  | created {id : Uuid} {commit : Commit} {row : Payment} (resolves : Resolves key h id (.committed commit))
    (returned : commit.row = some row) :
    Resolved key h 201 (.payment (toPaymentResponse row) createdMessage)
  | refused {id : Uuid} {o : Obs} {code : Nat} {body : ResponseBody} (resolves : Resolves key h id o)
    (silent : o = .fault ∨ o = .rolledBack) : Resolved key h code body

/-- A payment and a stored answer each come from a thread that has been let through. -/
structure Cached (key : String) (w : World) : Prop where
  kept : Throughout (Kept key) w.trace
  created : ∀ p row, w.db.payment p = some row → row.idempotencyKey = some key →
    ∃ t commit first, Resolves key (w.history t) p (.committed commit) ∧ commit.row = some first ∧ Before first row
  answered : ∀ path hash code body, w.records (redisKey key) = some (.completed path hash code body) →
    ∃ t, Resolved key (w.history t) code body

variable {site : Deployment} {R : Condition} {t u : Nat} {w w' : World} {key : String} {id id' : Uuid}
  {request : PostRequest} {h h' : List Obs} {o o' : Obs} {code : Nat} {body : ResponseBody} {p : Uuid}
  {row : Payment} {pool : Pool calls JsError World}

theorem Resolves.later (resolves : Resolves key h id o) (grown : h <:+ h') : Resolves key h' id o := by
  obtain ⟨request, rest, own, admissible⟩ := resolves
  exact ⟨request, rest, own.trans grown, admissible⟩

theorem Resolved.later (resolved : Resolved key h code body) (grown : h <:+ h') :
    Resolved key h' code body := by
  cases resolved with
  | created resolves returned => exact .created (resolves.later grown) returned
  | refused resolves silent => exact .refused (resolves.later grown) silent

/-- A thread is let through once, and then there is one first note. -/
theorem Resolves.unique (resolves : Resolves key h id o) (other : Resolves key h id' o') : id = id' ∧ o = o' := by
  obtain ⟨_, rest, own, admissible⟩ := resolves
  obtain ⟨_, rest', own', admissible'⟩ := other
  have admission : ∀ {o id} {rest : List Obs}, o :: .uuid id :: .admitted (some key) :: rest <:+ h →
      .admitted (some key) :: rest <:+ h :=
    fun own => ((List.suffix_cons _ _).trans (List.suffix_cons _ _)).trans own
  have same : rest = rest' := by
    rcases List.suffix_or_suffix_of_suffix (admission own) (admission own') with first | first
    · rcases List.suffix_cons_iff.mp first with same | earlier
      · exact (List.cons.inj same).2
      · exact (admissible'.not_admitted _ (earlier.subset (List.mem_cons_self ..))).elim
    · rcases List.suffix_cons_iff.mp first with same | earlier
      · exact (List.cons.inj same).2.symm
      · exact (admissible.not_admitted _ (earlier.subset (List.mem_cons_self ..))).elim
  subst same
  have notes := (List.suffix_of_suffix_length_le own own' (Nat.le_refl _)).eq_of_length rfl
  cases notes
  exact ⟨rfl, rfl⟩

theorem Resolves.admitted (resolves : Resolves key (w.history t) id o) : (t, .admitted (some key)) ∈ w.trace := by
  obtain ⟨_, rest, own, _⟩ := resolves
  exact World.mem_history.mp (own.subset (by simp))

/-- The stored answer of a key is that of the thread that has created its payment. -/
theorem Exclusive.same (exclusive : Exclusive key w) (resolves : Resolves key (w.history t) id o)
    (other : Resolves key (w.history u) id' o') : id = id' ∧ o = o' := by
  obtain ⟨_, claim⟩ := exclusive.claimed t resolves.admitted
  obtain ⟨_, claim'⟩ := exclusive.claimed u other.admitted
  obtain rfl := exclusive.claimant t u _ _ claim claim'
  exact resolves.unique other

theorem Concluded.resolved (concluded : Concluded request code body h)
    (hasKey : orNull request.idempotencyKey = some key) (own : h <:+ w.history t)
    (kept : Throughout (Kept key) w.trace) : Resolved key (w.history t) code body := by
  cases concluded with
  | created admissible returned =>
    rw [hasKey] at own
    exact .created ⟨_, _, (List.suffix_cons _ _).trans own, admissible⟩ returned
  | refused newer admissible failed notes =>
    obtain ⟨older, o, rfl⟩ := List.eq_nil_or_concat newer |>.resolve_left failed
    rw [hasKey, List.concat_eq_append, List.append_assoc] at own
    exact .refused ⟨_, _, (List.suffix_append _ _).trans own, admissible⟩ (notes o (by simp))
  | lost newer admissible returned =>
    obtain ⟨older, rest, lost⟩ := kept.of_suffix own
    rw [hasKey] at rest
    have none := lost rfl (by simp [rest]) _ (by simp [rest]; exact .inr (.inl rfl))
    rw [none] at returned
    cases returned

/-- A thread that was let through and may make a call that fails has committed no payment, and
    does not commit one in that call. -/
theorem committed_none {c : Call} {choice : Choice} (allowed : (answersKept key).call t w c choice = true)
    (failed : choice.fault ≠ .none) (admitted : .admitted (some key) ∈ w.history t) :
    (∀ commit, .committed commit ∈ w.history t → commit.row = none) ∧
      (choice.fault = .after → c.isTransaction = false) := by
  have rule := of_decide_eq_true (Bool.and_eq_true_iff.mp allowed).2
  obtain ⟨silent, remote⟩ := rule (List.any_eq_true.mpr ⟨_, admitted, Obs.admits_iff.mpr rfl⟩) failed
  refine ⟨fun commit committed => ?_, remote⟩
  have empty := List.any_eq_false.mp silent _ committed
  simpa [Obs.creates] using empty

/-- A failing call of a thread that was let through has left it without a payment. -/
theorem Step.kept (step : Step site (answersKept key) t w w') (trace : w'.trace = (t, .fault) :: w.trace) :
    Kept key w.trace (t, .fault) := by
  intro _ admitted commit committed
  cases step.adds trace with
  | fault allowed failed noted =>
    rcases noted with same | ⟨o, same, quiet, only⟩
    · have own : historyOf w.trace t = _ := World.history_congr same t
      rw [own] at admitted committed
      exact (committed_none allowed failed admitted).1 commit committed
    · have own : historyOf w.trace t = _ := World.history_cons_self same
      rw [own] at admitted committed
      have before := (List.mem_cons.mp admitted).resolve_left fun is => quiet _ is.symm
      obtain ⟨silent, remote⟩ := committed_none allowed failed before
      rcases List.mem_cons.mp committed with new | old
      · cases returned : commit.row with
        | none => rfl
        | some row =>
          obtain ⟨after, body, rfl⟩ := only commit row new.symm returned
          cases remote after
      · exact silent commit old
  | note _ _ noted => cases noted
  | arrive arrives => cases arrives

/-- A response that is stored is that of a handler that has come to its end. -/
theorem Step.stored (step : Step site R t w w') {path hash : String}
    (found : w'.records (redisKey key) = some (.completed path hash code body)) :
    w.records (redisKey key) = some (.completed path hash code body) ∨
      ∃ u request h, h <:+ w.history u ∧ orNull request.idempotencyKey = some key ∧
        Concluded request code body h := by
  cases step.leaves key with
  | same kept => exact .inl (kept ▸ found)
  | claimed _ _ _ record => cases record.symm.trans found
  | answered hasKey started concluded record =>
    cases record.symm.trans found
    exact .inr ⟨_, _, _, started, hasKey, concluded⟩
  | expired _ record => cases record.symm.trans found

theorem Step.creates (step : Step site R t w w') (absent : w.db.payment p = none)
    (found : w'.db.payment p = some row) (hasKey : row.idempotencyKey = some key) :
    ∃ commit, Resolves key (w'.history t) p (.committed commit) ∧ commit.row = some row := by
  rcases step.db with ⟨same, _⟩ | ⟨row', trace, committed⟩ | ⟨_, stated⟩
  · rw [same, absent] at found
    cases found
  · rw [committed.payment] at found
    split at found
    · rename_i same
      cases found
      rw [World.history_cons_self trace]
      refine ⟨w.added (some _) w'.db, ?_, rfl⟩
      cases committed with
      | created own admissible creation _ =>
        rw [creation.idempotencyKey] at hasKey
        rw [own, hasKey, same, creation.rowId]
        exact ⟨_, _, List.suffix_refl _, admissible⟩
      | moved _ _ transition _ =>
        rw [same, transition.id, transition.found] at absent
        cases absent
    · rw [absent] at found
      cases found
  · obtain ⟨old, present, _⟩ := stated.payment found
    rw [absent] at present
    cases present

theorem Cached.step (cached : Cached key w) (step : Step site (answersKept key) t w w') : Cached key w' where
  kept := by
    refine cached.kept.step step ?_
    intro o trace
    by_cases faulted : o = .fault
    · subst faulted
      exact step.kept trace
    · exact fun is => (faulted is).elim
  created p row found hasKey := by
    cases before : w.db.payment p with
    | none =>
      obtain ⟨commit, resolves, returned⟩ := step.creates before found hasKey
      exact ⟨t, commit, row, resolves, returned, .refl row⟩
    | some old =>
      obtain ⟨current, found', becomes⟩ := step.extends p old before
      rw [found] at found'
      cases found'
      obtain ⟨u, commit, first, resolves, returned, earlier⟩ :=
        cached.created p old before (becomes.idempotencyKey.symm.trans hasKey)
      exact ⟨u, commit, first, resolves.later (World.history_suffix step.grows u), returned,
        earlier.trans becomes⟩
  answered path hash code body found := by
    rcases step.stored found with before | ⟨u, request, h, own, hasKey, concluded⟩
    · obtain ⟨u, resolved⟩ := cached.answered path hash code body before
      exact ⟨u, resolved.later (World.history_suffix step.grows u)⟩
    · have resolved := concluded.resolved hasKey own cached.kept
      exact ⟨u, resolved.later (World.history_suffix step.grows u)⟩

theorem Cached.agrees {path hash : String} (cached : Cached key w) (exclusive : Exclusive key w)
    (found : w.db.payment p = some row) (hasKey : row.idempotencyKey = some key)
    (stored : w.records (redisKey key) = some (.completed path hash code body)) :
    ∃ t commit first, Resolves key (w.history t) p (.committed commit) ∧ commit.row = some first ∧
      Before first row ∧ code = 201 ∧ body = .payment (toPaymentResponse first) createdMessage := by
  obtain ⟨t, commit, first, resolves, returned, becomes⟩ := cached.created p row found hasKey
  obtain ⟨u, resolved⟩ := cached.answered path hash code body stored
  refine ⟨t, commit, first, resolves, returned, becomes, ?_⟩
  cases resolved with
  | created resolves' returned' =>
    obtain ⟨_, same⟩ := exclusive.same resolves resolves'
    cases same
    rw [returned] at returned'
    cases returned'
    exact ⟨rfl, rfl⟩
  | refused resolves' silent =>
    obtain ⟨_, same⟩ := exclusive.same resolves resolves'
    rw [← same] at silent
    simp at silent

/-- What later states have kept of the payment `row` and the answer stored in `w`. -/
structure Keeping (key : String) (w : World) (row : Payment) (w' : World) : Prop where
  grown : w.trace <:+ w'.trace
  present : Seen w'.db row.id row
  completed : ∃ path hash code body, w'.records (redisKey key) = some (.completed path hash code body)

theorem Step.completed (step : Step site (answersKept key) t w w') {path hash : String}
    (stored : w.records (redisKey key) = some (.completed path hash code body)) :
    ∃ path hash code body, w'.records (redisKey key) = some (.completed path hash code body) := by
  cases step.leaves key with
  | same kept => exact ⟨path, hash, code, body, kept.trans stored⟩
  | claimed _ _ free => cases free.symm.trans stored
  | answered _ _ _ record => exact ⟨_, _, _, _, record⟩
  | expired admitted => exact absurd rfl (of_decide_eq_true admitted)

theorem Keeping.step {start : World} (keeping : Keeping key start row w)
    (step : Step site (answersKept key) t w w') : Keeping key start row w' := by
  obtain ⟨grown, present, path, hash, code, body, stored⟩ := keeping
  exact ⟨grown.trans step.grows, present.later step.extends, step.completed stored⟩

theorem IdempotencyRecord.answers_iff {record : IdempotencyRecord} :
    record.answers code = true ↔ ∃ path hash body, record = .completed path hash code body := by
  cases record <;> simp [answers, eq_comm]

end PaymentModel
