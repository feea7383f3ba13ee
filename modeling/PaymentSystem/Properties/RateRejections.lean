import PaymentSystem.Properties.RateLimit

namespace PaymentModel

open Async

variable {limits : RateLimits} {store : RateStore} {past rest : List LimitedRequest} {request : LimitedRequest}
  {set : SortedSet} {entry : ScoredMember}

/-- Every member of a sorted set is there for a request of `past` with its key. -/
def EntriesRecorded (store : RateStore) (past : List LimitedRequest) : Prop :=
  ∀ key, ∀ entry ∈ (store key).members.rows, ∃ old ∈ past, old.key = key ∧ old.entry = entry

theorem recorded_start : EntriesRecorded (fun _ => {}) [] := by
  intro key entry member
  cases member

/-- What the pipeline counts is younger than the window. -/
theorem of_mem_trimmed (member : entry ∈ (trimmed limits request set).members.rows) :
    entry ∈ set.members.rows ∧ (request.now : Rat) - limits.windowMs < entry.score := by
  obtain ⟨live, kept⟩ := List.mem_filter.mp member
  constructor
  · unfold SortedSet.liveAt at live
    split at live
    · cases live
    · exact live
  · have positive : (0 : Rat) ≤ entry.score := Nat.cast_nonneg _
    simpa [positive] using kept

theorem EntriesRecorded.step (recorded : EntriesRecorded store past) (request : LimitedRequest) :
    EntriesRecorded (limitRequest limits store request).2 (past ++ [request]) := by
  intro key entry member
  by_cases same : key = request.key
  · subst same
    have here : (limitRequest limits store request).2 request.key =
        (rateLimitPipeline limits request (store request.key)).2 := Function.update_self ..
    rw [here, rateLimitPipeline_members] at member
    rcases Table.of_mem_upsert member with rfl | earlier
    · exact ⟨request, by simp, rfl, rfl⟩
    · obtain ⟨old, present, is⟩ := recorded _ entry (of_mem_trimmed earlier).1
      exact ⟨old, List.mem_append_left _ present, is⟩
  · have elsewhere : (limitRequest limits store request).2 key = store key := Function.update_of_ne same ..
    rw [elsewhere] at member
    obtain ⟨old, present, is⟩ := recorded key entry member
    exact ⟨old, List.mem_append_left _ present, is⟩

/-- The pipeline counts no more than the requests of the address in the window. -/
theorem EntriesRecorded.zcard_le (recorded : EntriesRecorded store past)
    (ordered : ∀ old ∈ past, old.now ≤ request.now) :
    (trimmed limits request (store request.key)).zcard ≤
      (past.filter fun old => old.clientIp = request.clientIp ∧
        (request.now : Rat) - limits.windowMs < old.now ∧ old.now ≤ request.now).length := by
  have distinct : (trimmed limits request (store request.key)).members.rows.Nodup :=
    (trimmed limits request (store request.key)).members.unique.of_map
  have sent : (trimmed limits request (store request.key)).members.rows ⊆
      (past.filter fun old => old.clientIp = request.clientIp ∧
        (request.now : Rat) - limits.windowMs < old.now ∧ old.now ≤ request.now).map LimitedRequest.entry := by
    intro entry member
    obtain ⟨held, young⟩ := of_mem_trimmed member
    obtain ⟨old, present, same, rfl⟩ := recorded _ entry held
    refine List.mem_map.mpr ⟨old, List.mem_filter.mpr ⟨present, ?_⟩, rfl⟩
    exact decide_eq_true ⟨LimitedRequest.key_inj.mp same, young, ordered old present⟩
  have fits := (List.subperm_of_subset distinct sent).length_le
  rwa [List.length_map] at fits

theorem limitRequest_rejects (rejected : (limitRequest limits store request).1.error.isSome = true) :
    limits.maxRequests ≤ (trimmed limits request (store request.key)).zcard := by
  refine not_lt.mp fun room => ?_
  have through := limitRequest_through.mpr room
  rw [Option.isNone_iff_eq_none] at through
  rw [through] at rejected
  cases rejected

theorem limitRequests_rejected {before : List LimitedRequest} {answer : RateLimitAnswer}
    (recorded : EntriesRecorded store before)
    (ordered : (before ++ past ++ request :: rest).Pairwise fun a b => a.now ≤ b.now)
    (handled : (limitRequests limits store (past ++ request :: rest))[past.length]? = some (request, answer))
    (rejected : answer.error.isSome = true) :
    limits.maxRequests ≤ ((before ++ past).filter fun old => old.clientIp = request.clientIp ∧
      (request.now : Rat) - limits.windowMs < old.now ∧ old.now ≤ request.now).length := by
  induction past generalizing store before with
  | nil =>
    rw [List.append_nil] at ordered ⊢
    have earlier : ∀ old ∈ before, old.now ≤ request.now := fun old member =>
      (List.pairwise_append.mp ordered).2.2 old member request (List.mem_cons_self ..)
    have answered : (limitRequest limits store request).1 = answer := by
      simpa [limitRequests] using handled
    rw [← answered] at rejected
    exact (limitRequest_rejects rejected).trans (recorded.zcard_le earlier)
  | cons first past ih =>
    have later := ih (recorded.step first) (by simpa using ordered) (by simpa [limitRequests] using handled)
    simpa using later

/-- A request is rejected only if `maxRequests` requests of its address, rejected ones included, came in the
    window that ends at it. -/
theorem rejections_count_requests (limits : RateLimits) {answer : RateLimitAnswer}
    (ordered : (past ++ request :: rest).Pairwise fun a b => a.now ≤ b.now)
    (handled : (limitRequests limits (fun _ => {}) (past ++ request :: rest))[past.length]? = some (request, answer))
    (rejected : answer.error.isSome = true) :
    limits.maxRequests ≤ (past.filter fun old => old.clientIp = request.clientIp ∧
      (request.now : Rat) - limits.windowMs < old.now ∧ old.now ≤ request.now).length :=
  limitRequests_rejected recorded_start ordered handled rejected

/-- A client that does not stop sending. -/
def eagerRequests : List LimitedRequest :=
  [sampleRequest 5000 1, sampleRequest 5100 2, sampleRequest 5200 3, sampleRequest 5700 4]

theorem rejections_count_requests_sample : 2 ≤ (eagerRequests.filter fun old =>
    old.clientIp = (sampleRequest 6150 5).clientIp ∧
      ((sampleRequest 6150 5).now : Rat) - sampleLimits.windowMs < old.now ∧
        old.now ≤ (sampleRequest 6150 5).now).length := by
  have ordered : (eagerRequests ++ sampleRequest 6150 5 :: []).Pairwise fun a b => a.now ≤ b.now := by decide
  obtain ⟨answer, handled, rejected⟩ : ∃ answer, (limitRequests sampleLimits (fun _ => {})
      (eagerRequests ++ sampleRequest 6150 5 :: []))[eagerRequests.length]? = some (sampleRequest 6150 5, answer) ∧
        answer.error.isSome = true := ⟨_, rfl, by decide +kernel⟩
  exact rejections_count_requests sampleLimits ordered handled rejected

/-- The client is shut out although nothing it sent in the window was let through. -/
theorem rejected_with_none_admitted : ∃ answer,
    (eagerRequests ++ [sampleRequest 6150 5]).Pairwise (fun a b => a.now ≤ b.now) ∧
    (limitRequests sampleLimits (fun _ => {}) (eagerRequests ++ [sampleRequest 6150 5]))[eagerRequests.length]? =
      some (sampleRequest 6150 5, answer) ∧ answer.error.isSome = true ∧
    ¬sampleLimits.maxRequests ≤ ((letThrough sampleLimits (fun _ => {}) eagerRequests).filter fun old =>
      old.clientIp = (sampleRequest 6150 5).clientIp ∧
        ((sampleRequest 6150 5).now : Rat) - sampleLimits.windowMs < old.now ∧
          old.now ≤ (sampleRequest 6150 5).now).length :=
  ⟨_, by decide, rfl, by decide +kernel, by decide +kernel⟩

end PaymentModel
