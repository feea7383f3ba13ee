import Mathlib.Data.List.Basic
import Mathlib.Data.List.Perm.Subperm

namespace Async

/-- A job queue that stores at most one job of each name. An active job is held by a numbered
    run; finished jobs are kept, newest first, until the retention limit drops them. -/
structure JobQueue (J : Type) (name : J → String) where
  waiting : List J := []
  delayed : List J := []
  active : List (J × Nat) := []
  completed : List J := []
  failed : List J := []

namespace JobQueue

variable {J : Type} {name : J → String} {job other : J}

def stored (queue : JobQueue J name) : List J :=
  queue.waiting ++ queue.delayed ++ queue.active.map Prod.fst ++ queue.completed ++ queue.failed

def stores (queue : JobQueue J name) (job : J) : Bool := (queue.stored.map name).contains (name job)

/-- Adding a job whose name is still stored adds nothing. -/
def add (queue : JobQueue J name) (job : J) : JobQueue J name :=
  if queue.stores job then queue else { queue with waiting := queue.waiting ++ [job] }

def addDelayed (queue : JobQueue J name) (job : J) : JobQueue J name :=
  if queue.stores job then queue else { queue with delayed := queue.delayed ++ [job] }

/-- The job is there and has still to be run. -/
def Holds (queue : JobQueue J name) (job : J) : Prop := job ∈ queue.waiting ∨ job ∈ queue.delayed

variable {queue queue' : JobQueue J name}

theorem add_stored (stored : queue.stores job = true) : queue.add job = queue := if_pos stored

theorem addDelayed_stored (stored : queue.stores job = true) : queue.addDelayed job = queue := if_pos stored

theorem waiting_add (here : other ∈ queue.waiting) : other ∈ (queue.add job).waiting := by
  unfold add
  split
  · exact here
  · exact List.mem_append_left _ here

theorem add_waiting (adds : queue.stores job = false) : job ∈ (queue.add job).waiting := by
  simp [add, adds]

/-- The queue holds an added job, unless a finished or an active one has its name. -/
theorem holds_add : (queue.add job).Holds job ↔ (queue.stores job = true → queue.Holds job) := by
  cases stored : queue.stores job with
  | true => simp only [add_stored stored, forall_const]
  | false => exact ⟨nofun, fun _ => .inl (add_waiting stored)⟩

@[simp] theorem waiting_addDelayed (queue : JobQueue J name) (job : J) :
    (queue.addDelayed job).waiting = queue.waiting := by
  unfold addDelayed
  split <;> rfl

theorem delayed_addDelayed (here : other ∈ queue.delayed) : other ∈ (queue.addDelayed job).delayed := by
  unfold addDelayed
  split
  · exact here
  · exact List.mem_append_left _ here

theorem addDelayed_delayed (adds : queue.stores job = false) : job ∈ (queue.addDelayed job).delayed := by
  simp [addDelayed, adds]

theorem holds_addDelayed : (queue.addDelayed job).Holds job ↔ (queue.stores job = true → queue.Holds job) := by
  cases stored : queue.stores job with
  | true => simp only [addDelayed_stored stored, forall_const]
  | false => exact ⟨nofun, fun _ => .inr (addDelayed_delayed stored)⟩

/-- What a queue keeps to: one job of each name, and finished jobs within the retention limits. -/
structure Kept (queue : JobQueue J name) (keepCompleted keepFailed : Nat) : Prop where
  names : (queue.stored.map name).Nodup
  completed : queue.completed.length ≤ keepCompleted
  failed : queue.failed.length ≤ keepFailed

variable {completes fails : Nat}

theorem kept_empty : ({} : JobQueue J name).Kept completes fails :=
  ⟨List.nodup_nil, Nat.zero_le _, Nat.zero_le _⟩

theorem stored_add (adds : queue.stores job = false) : (queue.add job).stored.Perm (job :: queue.stored) := by
  simp only [add, adds, Bool.false_eq_true, if_false, stored, List.append_assoc]
  exact List.perm_middle

theorem stored_addDelayed (adds : queue.stores job = false) :
    (queue.addDelayed job).stored.Perm (job :: queue.stored) := by
  simp only [addDelayed, adds, Bool.false_eq_true, if_false, stored, List.append_assoc]
  rw [← List.append_assoc queue.waiting, ← List.append_assoc queue.waiting]
  exact List.perm_middle

theorem mem_stored_add (member : other ∈ (queue.add job).stored) : other = job ∨ other ∈ queue.stored := by
  cases stored : queue.stores job with
  | true => exact .inr (add_stored stored ▸ member)
  | false => exact List.mem_cons.mp ((stored_add stored).mem_iff.mp member)

theorem mem_stored_addDelayed (member : other ∈ (queue.addDelayed job).stored) :
    other = job ∨ other ∈ queue.stored := by
  cases stored : queue.stores job with
  | true => exact .inr (addDelayed_stored stored ▸ member)
  | false => exact List.mem_cons.mp ((stored_addDelayed stored).mem_iff.mp member)

/-- A queue that has gained a job of a new name. -/
theorem Kept.of_new (kept : queue.Kept completes fails) (adds : queue.stores job = false)
    (stored : queue'.stored.Perm (job :: queue.stored)) (completed : queue'.completed = queue.completed)
    (failed : queue'.failed = queue.failed) : queue'.Kept completes fails := by
  refine ⟨?_, completed ▸ kept.completed, failed ▸ kept.failed⟩
  refine (stored.map name).nodup_iff.mpr (List.nodup_cons.mpr ⟨fun member => ?_, kept.names⟩)
  rw [stores, List.contains_iff_mem.mpr member] at adds
  cases adds

theorem Kept.add (kept : queue.Kept completes fails) : (queue.add job).Kept completes fails := by
  cases stored : queue.stores job with
  | true => rwa [add_stored stored]
  | false => refine kept.of_new stored (stored_add stored) ?_ ?_ <;> rw [JobQueue.add, stored] <;> rfl

theorem Kept.addDelayed (kept : queue.Kept completes fails) : (queue.addDelayed job).Kept completes fails := by
  cases stored : queue.stores job with
  | true => rwa [addDelayed_stored stored]
  | false => refine kept.of_new stored (stored_addDelayed stored) ?_ ?_ <;> rw [JobQueue.addDelayed, stored] <;> rfl

/-- A queue whose jobs have moved, some of them out. -/
theorem Kept.of_moved (kept : queue.Kept completes fails) (stored : queue'.stored.Subperm queue.stored)
    (completed : queue'.completed.length ≤ completes) (failed : queue'.failed.length ≤ fails) :
    queue'.Kept completes fails := by
  obtain ⟨left, same, sub⟩ := stored
  exact ⟨(same.map name).nodup_iff.mp (kept.names.sublist (sub.map name)), completed, failed⟩

variable [DecidableEq J]

def elapse (queue : JobQueue J name) (job : J) : Option (JobQueue J name) :=
  if job ∈ queue.delayed then
    some { queue with delayed := queue.delayed.erase job, waiting := queue.waiting ++ [job] }
  else none

def take (queue : JobQueue J name) (job : J) (run : Nat) : Option (JobQueue J name) :=
  if job ∈ queue.waiting then
    some { queue with waiting := queue.waiting.erase job, active := queue.active ++ [(job, run)] }
  else none

/-- A stalled job goes back to waiting although its run may still be going on. -/
def stall (queue : JobQueue J name) (job : J) (run : Nat) : Option (JobQueue J name) :=
  if (job, run) ∈ queue.active then
    some { queue with active := queue.active.erase (job, run), waiting := queue.waiting ++ [job] }
  else none

/-- Only the run that holds the job finishes it. -/
def finish (queue : JobQueue J name) (job : J) (run : Nat) (success : Bool) (keepCompleted keepFailed : Nat) :
    JobQueue J name :=
  if (job, run) ∈ queue.active then
    let released := queue.active.erase (job, run)
    if success then { queue with active := released, completed := (job :: queue.completed).take keepCompleted }
    else { queue with active := released, failed := (job :: queue.failed).take keepFailed }
  else queue

@[simp] theorem finish_waiting (queue : JobQueue J name) (job : J) (run : Nat) (success : Bool)
    (keepCompleted keepFailed : Nat) :
    (queue.finish job run success keepCompleted keepFailed).waiting = queue.waiting := by
  unfold finish
  split
  · cases success <;> rfl
  · rfl

@[simp] theorem finish_delayed (queue : JobQueue J name) (job : J) (run : Nat) (success : Bool)
    (keepCompleted keepFailed : Nat) :
    (queue.finish job run success keepCompleted keepFailed).delayed = queue.delayed := by
  unfold finish
  split
  · cases success <;> rfl
  · rfl

theorem waiting_elapse (elapsed : queue.elapse job = some queue') (here : other ∈ queue.waiting) :
    other ∈ queue'.waiting := by
  unfold elapse at elapsed
  split at elapsed
  · cases elapsed
    exact List.mem_append_left _ here
  · cases elapsed

/-- A delayed job whose delay elapses is waiting afterwards. -/
theorem delayed_elapse (elapsed : queue.elapse job = some queue') (here : other ∈ queue.delayed) :
    other ∈ queue'.waiting ∨ other ∈ queue'.delayed := by
  unfold elapse at elapsed
  split at elapsed
  · cases elapsed
    by_cases same : other = job
    · subst same
      exact .inl (List.mem_append_right _ (List.mem_singleton_self _))
    · exact .inr ((List.mem_erase_of_ne same).mpr here)
  · cases elapsed

/-- Taking a job leaves the others waiting. -/
theorem waiting_take {run : Nat} (taken : queue.take job run = some queue') (here : other ∈ queue.waiting) :
    other = job ∨ other ∈ queue'.waiting := by
  unfold take at taken
  split at taken
  · cases taken
    by_cases same : other = job
    · exact .inl same
    · exact .inr ((List.mem_erase_of_ne same).mpr here)
  · cases taken

theorem delayed_take {run : Nat} (taken : queue.take job run = some queue') : queue'.delayed = queue.delayed := by
  unfold take at taken
  split at taken
  · cases taken
    rfl
  · cases taken

theorem waiting_stall {run : Nat} (stalled : queue.stall job run = some queue') (here : other ∈ queue.waiting) :
    other ∈ queue'.waiting := by
  unfold stall at stalled
  split at stalled
  · cases stalled
    exact List.mem_append_left _ here
  · cases stalled

theorem delayed_stall {run : Nat} (stalled : queue.stall job run = some queue') :
    queue'.delayed = queue.delayed := by
  unfold stall at stalled
  split at stalled
  · cases stalled
    rfl
  · cases stalled

variable {run : Nat} {success : Bool}

theorem stored_take (taken : queue.take job run = some queue') : queue'.stored.Perm queue.stored := by
  unfold take at taken
  split at taken
  · rename_i waits
    cases taken
    refine List.perm_iff_count.mpr fun other => ?_
    have counts := (List.perm_cons_erase waits).count_eq other
    simp only [stored, List.map_append, List.count_append, List.map_cons, List.map_nil, List.count_cons,
      List.count_nil] at counts ⊢
    omega
  · cases taken

theorem take_stored (taken : queue.take job run = some queue') : job ∈ queue.stored := by
  unfold take at taken
  split at taken
  · rename_i waits
    simp [stored, waits]
  · cases taken

theorem stored_elapse (elapsed : queue.elapse job = some queue') : queue'.stored.Perm queue.stored := by
  unfold elapse at elapsed
  split at elapsed
  · rename_i waits
    cases elapsed
    refine List.perm_iff_count.mpr fun other => ?_
    have counts := (List.perm_cons_erase waits).count_eq other
    simp only [stored, List.count_append, List.count_cons, List.count_nil] at counts ⊢
    omega
  · cases elapsed

theorem count_released (held : (job, run) ∈ queue.active) (other : J) :
    (queue.active.map Prod.fst).count other =
      ((queue.active.erase (job, run)).map Prod.fst).count other + if job = other then 1 else 0 := by
  rw [((List.perm_cons_erase held).map Prod.fst).count_eq other, List.map_cons, List.count_cons]
  simp

theorem stored_stall (stalled : queue.stall job run = some queue') : queue'.stored.Perm queue.stored := by
  unfold stall at stalled
  split at stalled
  · rename_i held
    cases stalled
    refine List.perm_iff_count.mpr fun other => ?_
    have counts := count_released held other
    simp only [stored, List.count_append, List.count_cons, List.count_nil, beq_iff_eq] at counts ⊢
    omega
  · cases stalled

/-- A job that is finished may drop an older one. -/
theorem stored_finish : (queue.finish job run success completes fails).stored.Subperm queue.stored := by
  unfold finish
  split
  · rename_i held
    refine List.subperm_ext_iff.mpr fun other _ => ?_
    have counts := count_released held other
    have drops : ∀ (finished : List J) n,
        ((job :: finished).take n).count other ≤ finished.count other + if job = other then 1 else 0 := by
      intro finished n
      have sub := (List.take_sublist n (job :: finished)).count_le other
      simpa only [List.count_cons, beq_iff_eq] using sub
    have completed := drops queue.completed completes
    have failed := drops queue.failed fails
    cases success <;> simp only [stored, List.count_append, Bool.false_eq_true, if_true, if_false] <;> omega
  · exact .refl _

theorem Kept.take (kept : queue.Kept completes fails) (taken : queue.take job run = some queue') :
    queue'.Kept completes fails := by
  refine kept.of_moved (stored_take taken).subperm ?_ ?_ <;> unfold JobQueue.take at taken <;>
    split at taken <;> cases taken
  · exact kept.completed
  · exact kept.failed

theorem Kept.elapse (kept : queue.Kept completes fails) (elapsed : queue.elapse job = some queue') :
    queue'.Kept completes fails := by
  refine kept.of_moved (stored_elapse elapsed).subperm ?_ ?_ <;> unfold JobQueue.elapse at elapsed <;>
    split at elapsed <;> cases elapsed
  · exact kept.completed
  · exact kept.failed

theorem Kept.stall (kept : queue.Kept completes fails) (stalled : queue.stall job run = some queue') :
    queue'.Kept completes fails := by
  refine kept.of_moved (stored_stall stalled).subperm ?_ ?_ <;> unfold JobQueue.stall at stalled <;>
    split at stalled <;> cases stalled
  · exact kept.completed
  · exact kept.failed

theorem Kept.finish (kept : queue.Kept completes fails) :
    (queue.finish job run success completes fails).Kept completes fails := by
  refine kept.of_moved stored_finish ?_ ?_ <;> unfold JobQueue.finish <;> split
  · cases success
    · exact kept.completed
    · exact List.length_take_le ..
  · exact kept.completed
  · cases success
    · exact List.length_take_le ..
    · exact kept.failed
  · exact kept.failed

end JobQueue

end Async
