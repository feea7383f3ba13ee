import Mathlib.Tactic.Linarith
import PaymentSystem.Proof.LockClients
import PaymentSystem.Proof.Runs

namespace PaymentModel

open Async

variable {s s' : LockStore} {t u : Nat} {key key' token token' : String} {now now' expiresAt expiresAt' : Rat}
  {pool : Pool calls JsError LockStore}

theorem LockStep.trace (step : LockStep t s s') :
    s'.trace = s.trace ∨ ∃ o, s'.trace = (t, s.clock, o) :: s.trace := by
  cases step with
  | generate | acquire | release | refuse | fault => exact .inr ⟨_, rfl⟩
  | start | wait | expire => exact .inl rfl

theorem LockStep.notes (step : LockStep t s s') (u : Nat) : s'.notes u = s.notes u ∨
    ∃ o, u = t ∧ s'.trace = (t, s.clock, o) :: s.trace ∧ s'.notes u = o :: s.notes u := by
  rcases step.trace with same | ⟨o, same⟩
  · exact .inl (LockStore.notes_congr same u)
  · by_cases own : u = t
    · subst own
      exact .inr ⟨o, rfl, same, LockStore.notes_cons_self same⟩
    · exact .inl (LockStore.notes_cons_other same own)

theorem LockStep.clock_le (step : LockStep t s s') : s.clock ≤ s'.clock := by
  cases step with
  | wait forward => exact le_add_of_nonneg_right forward
  | generate | acquire | release | refuse | fault | start | expire => exact le_refl _

theorem LockStep.requests (step : LockStep t s s') : s'.requests = s.requests ∨
    ∃ request, s'.requests = (t, request) :: s.requests ∧ (∀ other, (t, other) ∉ s.requests) ∧ s'.trace = s.trace := by
  cases step with
  | start new => exact .inr ⟨_, rfl, new, rfl⟩
  | generate | acquire | release | refuse | fault | wait | expire => exact .inl rfl

theorem LockStep.generated (step : LockStep t s s') (trace : s'.trace = (t, s.clock, .generated token) :: s.trace) :
    ∀ u now, (u, now, .generated token) ∉ s.trace := by
  cases step with
  | generate fresh =>
    cases trace
    exact fresh
  | acquire | release | refuse | fault => cases trace
  | start | wait | expire => exact (List.cons_ne_self _ _ trace.symm).elim

theorem LockStep.acquired (step : LockStep t s s')
    (trace : s'.trace = (t, s.clock, .acquired key token expiresAt) :: s.trace) :
    (∃ request ttlMs, (t, request) ∈ s.requests ∧ request.asks = some (key, ttlMs) ∧
      expiresAt = s.clock + 1000 * (ttlMs / 1000).ceil) ∧ s.notes t = [.generated token] ∧
      s.entries key = none ∧
      s' = (s.setEntry key (some ⟨token, expiresAt⟩)).note t (.acquired key token expiresAt) := by
  cases step with
  | acquire own asks notes free =>
    cases trace
    exact ⟨⟨_, _, own, asks, rfl⟩, notes, free, rfl⟩
  | generate | release | refuse | fault => cases trace
  | start | wait | expire => exact (List.cons_ne_self _ _ trace.symm).elim

/-- Once a token is released, whatever it finds under its key, the key does not hold it. -/
theorem LockStep.released (step : LockStep t s s') {deleted : Bool}
    (trace : s'.trace = (t, s.clock, .released key token deleted) :: s.trace) : s'.token key ≠ some token := by
  cases step with
  | release =>
    cases trace
    rw [LockStore.token, LockStore.entries_note, LockStore.entries_setEntry, if_pos rfl]
    simp
  | refuse other =>
    cases trace
    exact other
  | generate | acquire | fault => cases trace
  | start | wait | expire => exact (List.cons_ne_self _ _ trace.symm).elim

theorem LockStep.mem_trace (step : LockStep t s s') {o : LockNote} (member : (u, now, o) ∈ s'.trace) :
    (u, now, o) ∈ s.trace ∨ (u = t ∧ now = s.clock ∧ s'.trace = (t, s.clock, o) :: s.trace) := by
  rcases step.trace with same | ⟨newest, same⟩
  · exact .inl (same ▸ member)
  · rcases List.mem_cons.mp (same ▸ member) with here | before
    · cases here
      exact .inr ⟨rfl, rfl, same⟩
    · exact .inl before

theorem LockStep.grows (step : LockStep t s s') {entry : Nat × Rat × LockNote} (member : entry ∈ s.trace) :
    entry ∈ s'.trace := by
  rcases step.trace with same | ⟨newest, same⟩
  · rwa [same]
  · rw [same]
    exact List.mem_cons_of_mem _ member

/-- Ids are generated once. -/
def IdsDiffer (s : LockStore) : Prop :=
  ∀ t u now now' token, (t, now, .generated token) ∈ s.trace → (u, now', .generated token) ∈ s.trace → t = u

theorem IdsDiffer.step (differ : IdsDiffer s) (step : LockStep t s s') : IdsDiffer s' := by
  intro v v' now now' token member member'
  rcases step.mem_trace member with before | ⟨rfl, rfl, new⟩ <;>
    rcases step.mem_trace member' with before' | ⟨rfl, rfl, new'⟩
  · exact differ v v' now now' token before before'
  · exact (step.generated new' v now before).elim
  · exact (step.generated new v' now' before').elim
  · rfl

/-- A thread runs one request. -/
def OneRequest (s : LockStore) : Prop := ∀ t r r', (t, r) ∈ s.requests → (t, r') ∈ s.requests → r = r'

theorem OneRequest.step (one : OneRequest s) (step : LockStep t s s') : OneRequest s' := by
  intro u r r' member member'
  rcases step.requests with same | ⟨request, same, new, _⟩ <;> rw [same] at member member'
  · exact one u r r' member member'
  · rcases List.mem_cons.mp member with here | before <;> rcases List.mem_cons.mp member' with here' | before'
    · cases here
      cases here'
      rfl
    · cases here
      exact (new r' before').elim
    · cases here'
      exact (new r before).elim
    · exact one u r r' before before'

/-- What is known of every acquisition: its token was generated by its thread, which has acquired
    nothing else, and it lasts for the time its request asks for. -/
structure Acquisitions (s : LockStore) : Prop where
  own : ∀ t now key token expiresAt, (t, now, .acquired key token expiresAt) ∈ s.trace →
    ∃ now', (t, now', .generated token) ∈ s.trace
  once : ∀ t now now' key key' token token' expiresAt expiresAt',
    (t, now, .acquired key token expiresAt) ∈ s.trace → (t, now', .acquired key' token' expiresAt') ∈ s.trace →
      key = key' ∧ token = token' ∧ expiresAt = expiresAt'
  asked : ∀ t now key token expiresAt, (t, now, .acquired key token expiresAt) ∈ s.trace →
    ∃ request ttlMs, (t, request) ∈ s.requests ∧ request.asks = some (key, ttlMs) ∧ now + ttlMs ≤ expiresAt
  entry : ∀ key entry, s.entries key = some entry →
    ∃ t now, (t, now, .acquired key entry.token entry.expiresAt) ∈ s.trace

theorem ttl_covered (ttlMs : Rat) : ttlMs ≤ 1000 * (ttlMs / 1000).ceil := by
  have := Rat.le_ceil (x := ttlMs / 1000)
  linarith

theorem LockStep.entry (step : LockStep t s s') {entry : LockEntry} (found : s'.entries key = some entry) :
    s.entries key = some entry ∨ s'.trace = (t, s.clock, .acquired key entry.token entry.expiresAt) :: s.trace := by
  cases step with
  | generate | refuse | fault | start | wait => exact .inl found
  | acquire =>
    rw [LockStore.entries_note, LockStore.entries_setEntry] at found
    split at found
    · rename_i same
      subst same
      cases found
      exact .inr rfl
    · exact .inl found
  | release | expire =>
    simp only [LockStore.entries_note, LockStore.entries_setEntry] at found
    split at found
    · cases found
    · exact .inl found

theorem Acquisitions.step (acquisitions : Acquisitions s) (step : LockStep t s s') : Acquisitions s' where
  own u now key token expiresAt member := by
    rcases step.mem_trace member with before | ⟨rfl, rfl, new⟩
    · obtain ⟨now', generated⟩ := acquisitions.own u now key token expiresAt before
      exact ⟨now', step.grows generated⟩
    · have notes := (step.acquired new).2.1
      obtain ⟨now', generated⟩ := LockStore.mem_notes.mp (notes ▸ List.mem_cons_self)
      exact ⟨now', step.grows generated⟩
  once u now now' key key' token token' expiresAt expiresAt' member member' := by
    rcases step.mem_trace member with before | ⟨rfl, rfl, new⟩ <;>
      rcases step.mem_trace member' with before' | ⟨same, rfl, new'⟩
    · exact acquisitions.once u now now' key key' token token' expiresAt expiresAt' before before'
    · subst same
      have notes := (step.acquired new').2.1
      have acquired := LockStore.mem_notes.mpr ⟨now, before⟩
      rw [notes] at acquired
      cases List.mem_singleton.mp acquired
    · have notes := (step.acquired new).2.1
      have acquired := LockStore.mem_notes.mpr ⟨now', before'⟩
      rw [notes] at acquired
      cases List.mem_singleton.mp acquired
    · cases new.symm.trans new'
      exact ⟨rfl, rfl, rfl⟩
  asked u now key token expiresAt member := by
    have kept {r : LockRequest} (old : (u, r) ∈ s.requests) : (u, r) ∈ s'.requests := by
      rcases step.requests with same | ⟨_, same, _, _⟩ <;> rw [same]
      · exact old
      · exact List.mem_cons_of_mem _ old
    rcases step.mem_trace member with before | ⟨rfl, rfl, new⟩
    · obtain ⟨request, ttlMs, old, asks, covered⟩ := acquisitions.asked u now key token expiresAt before
      exact ⟨request, ttlMs, kept old, asks, covered⟩
    · obtain ⟨⟨request, ttlMs, old, asks, rfl⟩, _, _, same⟩ := step.acquired new
      exact ⟨request, ttlMs, kept old, asks, add_le_add_right (ttl_covered ttlMs) s.clock⟩
  entry key entry found := by
    rcases step.entry found with before | new
    · obtain ⟨u, now, acquired⟩ := acquisitions.entry key entry before
      exact ⟨u, now, step.grows acquired⟩
    · exact ⟨_, _, new ▸ List.mem_cons_self⟩

theorem Acquisitions.same (acquisitions : Acquisitions s) (differ : IdsDiffer s)
    (member : (t, now, .acquired key token expiresAt) ∈ s.trace)
    (member' : (u, now', .acquired key' token expiresAt') ∈ s.trace) : t = u ∧ key = key' := by
  obtain ⟨first, generated⟩ := acquisitions.own t now key token expiresAt member
  obtain ⟨second, generated'⟩ := acquisitions.own u now' key' token expiresAt' member'
  obtain rfl := differ t u first second token generated generated'
  exact ⟨rfl, (acquisitions.once t now now' key key' token token expiresAt expiresAt' member member').1⟩

/-- The present state of an acquisition: released, out of its time, or in force. -/
def Leased (s : LockStore) : Prop :=
  ∀ newer t now key token expiresAt older, s.trace = newer ++ (t, now, .acquired key token expiresAt) :: older →
    (∃ u now', (u, now', .released key token true) ∈ newer) ∨ expiresAt ≤ s.clock ∨
      s.entries key = some ⟨token, expiresAt⟩

/-- An entry stands until it is released or its time has run out. -/
theorem LockStep.lease (step : LockStep t s s') (held : s.entries key = some ⟨token, expiresAt⟩) :
    s'.trace = (t, s.clock, .released key token true) :: s.trace ∨ expiresAt ≤ s'.clock ∨
      s'.entries key = some ⟨token, expiresAt⟩ := by
  cases step with
  | generate | refuse | fault | start | wait => exact .inr (.inr held)
  | acquire _ _ _ free =>
    refine .inr (.inr ?_)
    rw [LockStore.entries_note, LockStore.entries_setEntry, if_neg]
    · exact held
    · rintro rfl
      rw [free] at held
      cases held
  | release holds =>
    rw [LockStore.entries_note, LockStore.entries_setEntry]
    split
    · rename_i same
      subst same
      rw [LockStore.token, held] at holds
      cases holds
      exact .inl rfl
    · exact .inr (.inr held)
  | expire found past =>
    rw [LockStore.entries_setEntry]
    split
    · rename_i same
      subst same
      rw [found] at held
      cases held
      exact .inr (.inl past)
    · exact .inr (.inr held)

theorem Leased.step (leased : Leased s) (step : LockStep t s s') : Leased s' := by
  intro newer u now key token expiresAt older split
  have kept {rest : List (Nat × Rat × LockNote)}
      (before : s.trace = rest ++ (u, now, .acquired key token expiresAt) :: older)
      (grown : ∀ entry ∈ rest, entry ∈ newer) (noted : ∀ entry, s'.trace = entry :: s.trace → entry ∈ newer) :
      (∃ u now', (u, now', .released key token true) ∈ newer) ∨ expiresAt ≤ s'.clock ∨
        s'.entries key = some ⟨token, expiresAt⟩ := by
    rcases leased rest u now key token expiresAt older before with ⟨v, past, released⟩ | ended | held
    · exact .inl ⟨v, past, grown _ released⟩
    · exact .inr (.inl (le_trans ended step.clock_le))
    · exact (step.lease held).imp_left fun trace => ⟨t, s.clock, noted _ trace⟩
  rcases step.trace with same | ⟨o, same⟩
  · refine kept (same.symm.trans split) (fun _ member => member) ?_
    intro entry grown
    exact (List.cons_ne_self _ _ (grown.symm.trans same)).elim
  · rcases List.cons_eq_append_iff.mp (same.symm.trans split) with ⟨rfl, here⟩ | ⟨rest, rfl, before⟩
    · cases here
      obtain ⟨_, _, _, after⟩ := step.acquired same
      refine .inr (.inr ?_)
      rw [after, LockStore.entries_note, LockStore.entries_setEntry, if_pos rfl]
    · refine kept before (fun _ member => List.mem_cons_of_mem _ member) ?_
      intro entry grown
      cases same.symm.trans grown
      exact List.mem_cons_self

/-- Between two acquisitions of a key the first is released, or its time runs out. -/
def LocksExclusive (s : LockStore) : Prop :=
  ∀ newest u now' key token' expiresAt' between t now token expiresAt older,
    s.trace = newest ++ (u, now', .acquired key token' expiresAt') ::
      (between ++ (t, now, .acquired key token expiresAt) :: older) →
    (∃ v past, (v, past, .released key token true) ∈ between) ∨ expiresAt ≤ now'

theorem LocksExclusive.step (exclusive : LocksExclusive s) (leased : Leased s) (step : LockStep t s s') :
    LocksExclusive s' := by
  intro newest u now' key token' expiresAt' between v now token expiresAt older split
  rcases step.trace with same | ⟨o, same⟩ <;> rw [same] at split
  · exact exclusive _ _ _ _ _ _ _ _ _ _ _ _ split
  · rcases List.cons_eq_append_iff.mp split with ⟨rfl, here⟩ | ⟨rest, rfl, before⟩
    · obtain ⟨newest, tail⟩ := List.cons.inj here
      cases newest
      obtain ⟨_, _, free, _⟩ := step.acquired same
      rcases leased between v now key token expiresAt older tail.symm with released | ended | held
      · exact .inl released
      · exact .inr ended
      · rw [free] at held
        cases held
    · exact exclusive _ _ _ _ _ _ _ _ _ _ _ _ before

/-- No entry has a token that the thread which acquired it has released. -/
def Gone (s : LockStore) : Prop :=
  ∀ t newer key token deleted older expiresAt, s.notes t = newer ++ .released key token deleted :: older →
    .acquired key token expiresAt ∈ older → ∀ key' entry, s.entries key' = some entry → entry.token ≠ token

/-- What the store knows of its tokens. -/
structure TokensKnown (s : LockStore) : Prop where
  differ : IdsDiffer s
  one : OneRequest s
  acquisitions : Acquisitions s

theorem TokensKnown.step (known : TokensKnown s) (step : LockStep t s s') : TokensKnown s' :=
  ⟨known.differ.step step, known.one.step step, known.acquisitions.step step⟩

/-- The entry of an acquired token stands under the key it was acquired for. -/
theorem TokensKnown.key_of_entry (known : TokensKnown s) {entry : LockEntry} (found : s.entries key' = some entry)
    (acquired : .acquired key token expiresAt ∈ s.notes t) (same : entry.token = token) : key' = key := by
  obtain ⟨now, member⟩ := LockStore.mem_notes.mp acquired
  obtain ⟨u, now', member'⟩ := known.acquisitions.entry key' entry found
  exact (known.acquisitions.same known.differ (same ▸ member') member).2

theorem Gone.step (gone : Gone s) (known : TokensKnown s) (step : LockStep t s s') : Gone s' := by
  intro u newer key token deleted older expiresAt split acquired key' entry found same
  rcases step.entry found with before | new
  · rcases step.notes u with unchanged | ⟨o, rfl, trace, grown⟩
    · exact gone u newer key token deleted older expiresAt (unchanged.symm.trans split) acquired key' entry before same
    · rcases List.cons_eq_append_iff.mp (grown.symm.trans split) with ⟨rfl, here⟩ | ⟨rest, rfl, tail⟩
      · cases here
        obtain rfl : key' = key := known.key_of_entry before acquired same
        exact step.released trace (by rw [LockStore.token, found, Option.map_some, same])
      · exact gone u rest key token deleted older expiresAt tail acquired key' entry before same
  · -- The acquired token was generated by `t` alone, which has acquired nothing before.
    obtain ⟨_, notes, _, _⟩ := step.acquired new
    have owned : .acquired key token expiresAt ∈ s'.notes u := by
      rw [split]
      exact List.mem_append_right _ (List.mem_cons_of_mem _ acquired)
    have known' := known.step step
    obtain ⟨now, member⟩ := LockStore.mem_notes.mp owned
    obtain ⟨rfl, _⟩ := known'.acquisitions.same known'.differ (same ▸ member)
      (new ▸ List.mem_cons_self : (t, s.clock, .acquired key' entry.token entry.expiresAt) ∈ s'.trace)
    rw [LockStore.notes_cons_self new, notes] at split
    have released : LockNote.released key token deleted ∈
        [.acquired key' entry.token entry.expiresAt, .generated entry.token] := by
      rw [split]
      exact List.mem_append_right _ List.mem_cons_self
    simp at released

theorem tokensKnown (reached : LocksReached pool) : TokensKnown pool.world := by
  refine invariant_of_lockSteps TokensKnown ?_ (fun _ _ _ known step => known.step step) reached
  exact ⟨by simp [IdsDiffer], by simp [OneRequest], ⟨by simp, by simp, by simp, by simp⟩⟩

theorem locksExclusive (reached : LocksReached pool) : LocksExclusive pool.world := by
  refine (invariant_of_lockSteps (fun s => Leased s ∧ LocksExclusive s) ⟨?_, ?_⟩ ?_ reached).2
  · intro newer t now key token expiresAt older split
    simp at split
  · intro newest u now' key token' expiresAt' between t now token expiresAt older split
    simp at split
  · exact fun _ _ _ held step => ⟨held.1.step step, held.2.step held.1 step⟩

theorem gone (reached : LocksReached pool) : Gone pool.world := by
  refine (invariant_of_lockSteps (fun s => TokensKnown s ∧ Gone s) ⟨?_, ?_⟩ ?_ reached).2
  · exact ⟨by simp [IdsDiffer], by simp [OneRequest], ⟨by simp, by simp, by simp, by simp⟩⟩
  · intro t newer key token deleted older expiresAt split
    simp [LockStore.notes] at split
  · exact fun _ _ _ held step => ⟨held.1.step step, held.2.step held.1 step⟩

/-- Compare-and-delete, wherever its command takes effect. -/
theorem perform_lockRelease {choice : LockChoice} {outcome : Except JsError Bool}
    (performed : LockStore.perform t (.lockRelease key token) choice s = some (outcome, s'))
    (effective : choice.fault ≠ .before) :
    s'.entries = if s.token key = some token then Function.update s.entries key none else s.entries := by
  simp only [LockStore.perform] at performed
  cases fault : choice.fault with
  | before => exact (effective fault).elim
  | none | after =>
    rw [fault] at performed
    split at performed <;> cases performed
    · rename_i holds
      rw [if_pos holds]
      rfl
    · rename_i other
      rw [if_neg other]
      rfl

/-- A lock is acquired anew only after its release or the end of the time it was asked for, a release
    removes an entry with its own token and nothing else, and `withLock` leaves no entry behind. -/
theorem lock_token_safety (reached : LocksReached pool) :
    (∀ newest u now' key token' expiresAt' between t now token expiresAt older request ttlMs,
      pool.world.trace = newest ++ (u, now', .acquired key token' expiresAt') ::
        (between ++ (t, now, .acquired key token expiresAt) :: older) →
      (t, request) ∈ pool.world.requests → request.asks = some (key, ttlMs) →
        (∃ v past, (v, past, .released key token true) ∈ between) ∨ now + ttlMs ≤ now') ∧
    (∀ t key token choice outcome s',
      LockStore.perform t (.lockRelease key token) choice pool.world = some (outcome, s') → choice.fault ≠ .before →
        s'.entries = (if pool.world.token key = some token then Function.update pool.world.entries key none
          else pool.world.entries) ∧
        ∀ now expiresAt u now' expiresAt' token', (t, now, .acquired key token expiresAt) ∈ pool.world.trace →
          (u, now', .acquired key token' expiresAt') ∈ pool.world.trace → t ≠ u →
            pool.world.entries key = some ⟨token', expiresAt'⟩ → s'.entries = pool.world.entries) ∧
    ∀ t key ttlMs body program, (t, .withLock key ttlMs body) ∈ pool.world.requests →
      pool.threads[t]? = some program → program.ended = true → .fault ∉ pool.world.notes t →
        ∀ now key' token expiresAt, (t, now, .acquired key' token expiresAt) ∈ pool.world.trace →
          ∀ other entry, pool.world.entries other = some entry → entry.token ≠ token := by
  have known := tokensKnown reached
  refine ⟨?_, ?_, ?_⟩
  · intro newest u now' key token' expiresAt' between t now token expiresAt older request ttlMs split own asks
    refine (locksExclusive reached _ _ _ _ _ _ _ _ _ _ _ _ split).imp_right fun ended => ?_
    have member : (t, now, LockNote.acquired key token expiresAt) ∈ pool.world.trace := by
      rw [split]
      simp
    obtain ⟨request', ttlMs', own', asks', covered⟩ := known.acquisitions.asked t now key token expiresAt member
    obtain rfl := known.one t request request' own own'
    cases asks.symm.trans asks'
    exact le_trans covered ended
  · intro t key token choice outcome s' performed effective
    have deleted := perform_lockRelease performed effective
    refine ⟨deleted, ?_⟩
    intro now expiresAt u now' expiresAt' token' first second other held
    rw [deleted, if_neg]
    rw [LockStore.token, held, Option.map_some, Option.some.injEq]
    rintro rfl
    exact other (known.acquisitions.same known.differ first second).1
  · intro t key ttlMs body program own found ended clean now key' token expiresAt member
    have kept := lockConduct.keeps lockClients_starts lockClients_fresh reached
    have given := kept.final found ended key ttlMs body own clean key' token expiresAt
      (LockStore.mem_notes.mpr ⟨now, member⟩)
    obtain ⟨newer, deleted, older, split, acquired⟩ := given
    exact gone reached t newer key' token deleted older expiresAt split acquired

/-- A function that makes one call, for the run below. -/
def sampleBody : LockBody := ⟨ask .dateNow >>= fun _ => pure (), .bind (.ask rfl) fun _ => .pure ()⟩

/-- Client 0 outlives its five seconds, client 1 takes the lock, and the late release of client 0
    leaves the entry of client 1 alone. -/
def lateRelease : List (Label LockChoice LockEvent) :=
  [.event (.start (.withLock "k" 4500 sampleBody)), .act 0 { uuid := sampleId 'a' }, .act 0 {}, .event (.wait 5000),
    .event (.expire "k"), .event (.start (.acquireLock "k" 4500)), .act 1 { uuid := sampleId 'b' }, .act 1 {}, .act 0 {},
    .act 0 {}]

def lateTrace : List (Nat × Rat × LockNote) :=
  [(0, 5000, .released "k" (sampleId 'a') false), (1, 5000, .acquired "k" (sampleId 'b') 10000),
    (1, 5000, .generated (sampleId 'b')), (0, 0, .acquired "k" (sampleId 'a') 5000), (0, 0, .generated (sampleId 'a'))]

theorem lock_token_safety_late : ∃ pool : Pool calls JsError LockStore, LocksReached pool ∧
    pool.world.trace = lateTrace ∧
      ((∃ v past, (v, past, .released "k" (sampleId 'a') true) ∈
          [((1 : Nat), (5000 : Rat), LockNote.generated (sampleId 'b'))]) ∨
        (0 + 4500 : Rat) ≤ 5000) ∧
      ∀ other entry, pool.world.entries other = some entry → entry.token ≠ sampleId 'a' := by
  obtain ⟨pool, ran, shown⟩ := (Option.any_eq_true _ _).mp
    (show ((lockClients.run .free ⟨{}, []⟩ lateRelease).any fun pool => pool.world.trace = lateTrace &&
      (pool.threads[0]?.any Program.ended && pool.world.requests.any fun entry => entry.1 = 0 &&
        match entry.2 with
        | .withLock key ttlMs _ => key = "k" && ttlMs = 4500
        | _ => false)) = true by decide +kernel)
  have reached : LocksReached pool := .run .start ran
  simp only [Bool.and_eq_true, decide_eq_true_eq] at shown
  obtain ⟨trace, ended, requested⟩ := shown
  obtain ⟨program, found, ended⟩ := (Option.any_eq_true _ _).mp ended
  obtain ⟨⟨client, request⟩, own, is⟩ := List.any_eq_true.mp requested
  cases request with
  | acquireLock | releaseLock => simp at is
  | withLock key ttlMs body =>
    obtain ⟨rfl, rfl, rfl⟩ : client = 0 ∧ key = "k" ∧ ttlMs = 4500 := by simpa using is
    obtain ⟨exclusive, _, leaves⟩ := lock_token_safety reached
    refine ⟨pool, reached, trace, ?_, ?_⟩
    · exact exclusive [(0, 5000, .released "k" (sampleId 'a') false)] 1 5000 "k" (sampleId 'b') 10000
        [(1, 5000, .generated (sampleId 'b'))] 0 0 (sampleId 'a') 5000 [(0, 0, .generated (sampleId 'a'))] _ 4500
        trace own rfl
    · refine leaves 0 "k" 4500 body program own found ended ?_ 0 "k" (sampleId 'a') 5000 ?_
      · rw [LockStore.notes, trace]
        decide +kernel
      · rw [trace]
        decide +kernel

end PaymentModel
