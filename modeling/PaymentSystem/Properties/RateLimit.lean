import Mathlib.Tactic.Linarith
import PaymentSystem.Async.SlidingWindow
import PaymentSystem.Model.RateLimiter

namespace PaymentModel

open Async

variable {limits : RateLimits} {store : RateStore} {past requests : List LimitedRequest}
  {request old : LimitedRequest} {set : SortedSet}

namespace LimitedRequest

def stamp (request : LimitedRequest) : Rat := request.now

def entry (request : LimitedRequest) : ScoredMember := ⟨request.member, request.now⟩

theorem key_inj : request.key = old.key ↔ request.clientIp = old.clientIp := String.append_right_inj _

/-- No two requests of one address have the same member in its sorted set. -/
def DistinctMembers (requests : List LimitedRequest) : Prop :=
  requests.Pairwise fun a b => a.clientIp = b.clientIp → a.member ≠ b.member

end LimitedRequest

/-- The set under the key of `old` counts it, and does not expire before it has left the window. -/
structure HeldFor (limits : RateLimits) (store : RateStore) (old : LimitedRequest) : Prop where
  recorded : old.entry ∈ (store old.key).members.rows
  lasts : ∀ deadline ∈ (store old.key).expiresAt, old.now + limits.windowMs ≤ deadline

/-- The store counts the requests of `past` that are in the window, whether they were let through or not. -/
structure Counts (limits : RateLimits) (store : RateStore) (past : List LimitedRequest) : Prop where
  counted : ∀ old ∈ past, (∀ later ∈ past, (later.now : Rat) < old.now + limits.windowMs) → HeldFor limits store old
  undated : limits.windowMs.den ≠ 1 → ∀ key, (store key).expiresAt = none

theorem counts_start : Counts limits (fun _ => {}) [] where
  counted := by simp
  undated := by simp

/-- The set of `request` as the pipeline counts it. -/
def trimmed (limits : RateLimits) (request : LimitedRequest) (set : SortedSet) : SortedSet :=
  ((set.liveAt request.now).zremrangebyscore 0 (request.now - limits.windowMs)).2

theorem SortedSet.liveAt_of_lasts {now : Nat} (lasts : ∀ deadline ∈ set.expiresAt, (now : Rat) < deadline) :
    set.liveAt now = set := by
  unfold SortedSet.liveAt
  rw [if_neg]
  intro expired
  obtain ⟨deadline, is, late⟩ := (Option.any_eq_true _ _).mp expired
  exact not_le_of_gt (lasts deadline is) (of_decide_eq_true late)

theorem mem_trimmed {entry : ScoredMember} (recorded : entry ∈ set.members.rows)
    (lasts : ∀ deadline ∈ set.expiresAt, (request.now : Rat) < deadline)
    (inside : (request.now : Rat) < entry.score + limits.windowMs) :
    entry ∈ (trimmed limits request set).members.rows := by
  unfold trimmed
  rw [SortedSet.liveAt_of_lasts lasts]
  refine List.mem_filter.mpr ⟨recorded, ?_⟩
  have late : ¬(entry.score : Rat) ≤ request.now - limits.windowMs := by linarith
  simp [late]

theorem rateLimitPipeline_members : (rateLimitPipeline limits request set).2.members =
    (trimmed limits request set).members.upsert request.entry := by
  unfold rateLimitPipeline SortedSet.pexpire
  dsimp only
  split <;> rfl

theorem rateLimitPipeline_expiresAt : (rateLimitPipeline limits request set).2.expiresAt =
    if limits.windowMs.den = 1 then some (request.now + limits.windowMs)
    else (set.liveAt request.now).expiresAt := by
  unfold rateLimitPipeline SortedSet.pexpire
  dsimp only
  split <;> rfl

theorem HeldFor.mem_trimmed (counted : HeldFor limits store old) (same : old.key = request.key)
    (inside : (request.now : Rat) < old.now + limits.windowMs) :
    old.entry ∈ (trimmed limits request (store request.key)).members.rows := by
  rw [← same]
  exact PaymentModel.mem_trimmed counted.recorded
    (fun deadline is => inside.trans_le (counted.lasts deadline is)) inside

/-- What one request does to the store: it is counted from then on, and so are the earlier ones. -/
theorem Counts.step (counts : Counts limits store past) (ordered : ∀ old ∈ past, old.now ≤ request.now)
    (distinct : ∀ old ∈ past, old.clientIp = request.clientIp → old.member ≠ request.member) :
    Counts limits (limitRequest limits store request).2 (past ++ [request]) := by
  have here : (limitRequest limits store request).2 request.key =
      (rateLimitPipeline limits request (store request.key)).2 := Function.update_self ..
  have elsewhere : ∀ key, key ≠ request.key → (limitRequest limits store request).2 key = store key :=
    fun key other => Function.update_of_ne other ..
  have undated : limits.windowMs.den ≠ 1 → ∀ key, ((limitRequest limits store request).2 key).expiresAt = none := by
    intro fraction key
    by_cases same : key = request.key
    · rw [same, here, rateLimitPipeline_expiresAt, if_neg fraction, SortedSet.liveAt_of_lasts]
      · exact counts.undated fraction _
      · rw [counts.undated fraction]
        exact fun _ is => nomatch is
    · rw [elsewhere key same]
      exact counts.undated fraction key
  have deadline : ∀ deadline ∈ ((limitRequest limits store request).2 request.key).expiresAt,
      deadline = request.now + limits.windowMs := by
    intro deadline is
    by_cases whole : limits.windowMs.den = 1
    · rw [here, rateLimitPipeline_expiresAt, if_pos whole] at is
      exact (Option.some.inj is).symm
    · rw [undated whole] at is
      cases is
  refine ⟨?_, undated⟩
  intro old member inside
  have inside_now := inside request (by simp)
  rcases List.mem_append.mp member with earlier | last
  · have counted := counts.counted old earlier fun later is => inside later (List.mem_append_left _ is)
    by_cases same : old.key = request.key
    · have different := distinct old earlier (LimitedRequest.key_inj.mp same)
      constructor
      · rw [same, here, rateLimitPipeline_members]
        exact Table.mem_upsert_of_mem (counted.mem_trimmed same inside_now) different
      · rw [same]
        intro later is
        rw [deadline later is]
        have := ordered old earlier
        have : (old.now : Rat) ≤ request.now := by exact_mod_cast this
        linarith
    · constructor
      · rw [elsewhere _ same]
        exact counted.recorded
      · rw [elsewhere _ same]
        exact counted.lasts
  · obtain rfl := List.mem_singleton.mp last
    constructor
    · rw [here, rateLimitPipeline_members]
      exact Table.mem_upsert_self ..
    · exact fun later is => (deadline later is).ge

/-- Every request of the same address in the window is in the set that the pipeline counts. -/
theorem Counts.windowCount_le (counts : Counts limits store past) (ordered : ∀ old ∈ past, old.now ≤ request.now)
    (distinct : LimitedRequest.DistinctMembers past) :
    windowCount LimitedRequest.stamp limits.windowMs request.stamp
      (past.filter fun old => old.clientIp = request.clientIp) ≤
        (trimmed limits request (store request.key)).zcard := by
  unfold windowCount SortedSet.zcard
  rw [List.countP_eq_length_filter, List.filter_filter]
  generalize is : List.filter _ past = inside
  have sub : inside.Sublist past := is ▸ List.filter_sublist
  have nodup : (inside.map LimitedRequest.member).Nodup := by
    refine List.pairwise_map.mpr ((distinct.sublist sub).imp_of_mem ?_)
    intro a b first second different
    rw [← is, List.mem_filter] at first second
    simp only [Bool.and_eq_true, decide_eq_true_eq] at first second
    exact different (first.2.2.trans second.2.2.symm)
  have counted : inside.map LimitedRequest.member ⊆
      (trimmed limits request (store request.key)).members.rows.map ScoredMember.member := by
    intro member present
    obtain ⟨old, chosen, rfl⟩ := List.mem_map.mp present
    rw [← is, List.mem_filter] at chosen
    simp only [Bool.and_eq_true, decide_eq_true_eq] at chosen
    obtain ⟨earlier, ⟨late, _⟩, same⟩ := chosen
    have now_lt : (request.now : Rat) < old.now + limits.windowMs := by
      unfold LimitedRequest.stamp at late
      linarith
    have lasting : ∀ later ∈ past, (later.now : Rat) < old.now + limits.windowMs := by
      intro later member
      have : (later.now : Rat) ≤ request.now := by exact_mod_cast ordered later member
      linarith
    have recorded := (counts.counted old earlier lasting).mem_trimmed (LimitedRequest.key_inj.mpr same) now_lt
    exact List.mem_map.mpr ⟨old.entry, recorded, rfl⟩
  have fits := (List.subperm_of_subset nodup counted).length_le
  simpa using fits

/-- A request is let through exactly when the set that the pipeline counts has room. -/
theorem limitRequest_through : (limitRequest limits store request).1.error.isNone = true ↔
    (trimmed limits request (store request.key)).zcard < limits.maxRequests := by
  have count : (rateLimitPipeline limits request (store request.key)).1.getD 1 (.ok 0) =
      .ok (trimmed limits request (store request.key)).zcard := rfl
  unfold limitRequest rateLimiter
  simp only [count]
  split
  · rename_i full
    exact ⟨nofun, fun room => absurd room (not_lt.mpr full)⟩
  · rename_i room
    exact ⟨fun _ => not_le.mp room, fun _ => rfl⟩

/-- The requests of one address, with whether they are let through. -/
def limitedRun (limits : RateLimits) (store : RateStore) (requests : List LimitedRequest) (ip : String) :
    List (LimitedRequest × Bool) :=
  ((limitRequests limits store requests).filter fun entry => entry.1.clientIp = ip).map fun entry =>
    (entry.1, entry.2.error.isNone)

theorem limitedRun_cons (ip : String) : limitedRun limits store (request :: requests) ip =
    if request.clientIp = ip then (request, (limitRequest limits store request).1.error.isNone) ::
      limitedRun limits (limitRequest limits store request).2 requests ip
    else limitedRun limits (limitRequest limits store request).2 requests ip := by
  unfold limitedRun
  rw [limitRequests, List.filter_cons]
  by_cases own : request.clientIp = ip <;> simp [own]

theorem limitedRun_requests (ip : String) :
    (limitedRun limits store requests ip).map Prod.fst = requests.filter fun request => request.clientIp = ip := by
  induction requests generalizing store with
  | nil => rfl
  | cons request requests ih =>
    rw [limitedRun_cons]
    by_cases own : request.clientIp = ip <;> simp [own, ih]

theorem passed_limitedRun (ip : String) : passed (limitedRun limits store requests ip) =
    (letThrough limits store requests).filter fun request => request.clientIp = ip := by
  unfold letThrough passed limitedRun
  rw [List.filter_map, List.filter_map, List.map_map, List.filter_filter, List.filter_filter]
  simp only [Function.comp_def, Bool.and_comm]

theorem limitedRun_throttles (counts : Counts limits store past)
    (ordered : (past ++ requests).Pairwise fun a b => a.now ≤ b.now)
    (distinct : LimitedRequest.DistinctMembers (past ++ requests)) (ip : String) :
    Throttles LimitedRequest.stamp limits.windowMs limits.maxRequests (past.filter fun old => old.clientIp = ip)
      (limitedRun limits store requests ip) := by
  induction requests generalizing store past with
  | nil => exact .nil
  | cons request requests ih =>
    have earlier : ∀ old ∈ past, old.now ≤ request.now := fun old member =>
      (List.pairwise_append.mp ordered).2.2 old member request (List.mem_cons_self ..)
    have different : ∀ old ∈ past, old.clientIp = request.clientIp → old.member ≠ request.member :=
      fun old member => (List.pairwise_append.mp distinct).2.2 old member request (List.mem_cons_self ..)
    have rest := ih (counts.step earlier different) (by simpa using ordered) (by simpa using distinct)
    rw [limitedRun_cons]
    by_cases own : request.clientIp = ip
    · subst own
      rw [if_pos rfl]
      refine .cons (fun through => ?_) (by simpa using rest)
      have counted := counts.windowCount_le earlier (List.pairwise_append.mp distinct).1
      exact counted.trans_lt (limitRequest_through.mp through)
    · rw [if_neg own]
      simpa [own] using rest

/-- In no window, wherever it ends, more requests of an address are let through than the limit allows. -/
theorem rate_limit_bounds (limits : RateLimits) (requests : List LimitedRequest)
    (ordered : requests.Pairwise fun a b => a.now ≤ b.now) (distinct : LimitedRequest.DistinctMembers requests)
    (ip : String) (t : Rat) :
    ((letThrough limits (fun _ => {}) requests).filter fun request =>
      request.clientIp = ip ∧ t - limits.windowMs < request.now ∧ request.now ≤ t).length ≤ limits.maxRequests := by
  have start : Counts limits (fun _ => {}) [] := counts_start
  have throttles := limitedRun_throttles start ordered distinct ip
  have stamps : ([] ++ (limitedRun limits (fun _ => {}) requests ip).map Prod.fst).Pairwise
      fun a b => LimitedRequest.stamp a ≤ LimitedRequest.stamp b := by
    rw [List.nil_append, limitedRun_requests]
    exact (ordered.sublist List.filter_sublist).imp Nat.cast_le.mpr
  have bounded := throttles.bounded (t := t) (List.Sublist.refl []) stamps (Nat.zero_le _)
  rw [List.nil_append, passed_limitedRun, windowCount, List.countP_eq_length_filter, List.filter_filter] at bounded
  refine le_of_eq_of_le (congrArg List.length (List.filter_congr fun request _ => ?_)) bounded
  rw [← Bool.decide_and]
  exact decide_eq_decide.mpr and_comm

def sampleLimits : RateLimits where
  windowMs := 1000
  maxRequests := 2
  windowMs_pos := by decide
  maxRequests_pos := by decide

def sampleRequest (now random : Nat) : LimitedRequest where
  ip := some "10.0.0.1"
  remoteAddress := none
  now
  random := .ofNat random

/-- Three requests in one window, two of them in the same millisecond, and two more when the key has
    expired. -/
def sampleRequests : List LimitedRequest :=
  [sampleRequest 5000 1, sampleRequest 5000 2, sampleRequest 5400 3, sampleRequest 6400 4, sampleRequest 6500 5]

theorem rate_limit_bounds_sample :
    ((letThrough sampleLimits (fun _ => {}) sampleRequests).filter fun request => request.clientIp = "10.0.0.1" ∧
      (6000 : Rat) - sampleLimits.windowMs < request.now ∧ request.now ≤ (6000 : Rat)).length ≤ 2 :=
  rate_limit_bounds sampleLimits sampleRequests (by decide) (by unfold LimitedRequest.DistinctMembers; decide +kernel)
    "10.0.0.1" 6000

example : (letThrough sampleLimits (fun _ => {}) sampleRequests).map LimitedRequest.now = [5000, 5000, 6400, 6500] := by
  decide +kernel

end PaymentModel
