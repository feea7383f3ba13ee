import Mathlib.Algebra.Order.Group.Defs
import Mathlib.Algebra.Order.Sub.Basic
import Mathlib.Data.List.Basic

namespace Async

section

variable {α τ : Type} [AddCommGroup τ] [LinearOrder τ] (stamp : α → τ) (width : τ) (limit : Nat)

/-- How many events lie in the half-open window of `width` that ends at `t`. -/
def windowCount (t : τ) (events : List α) : Nat := events.countP fun e => t - width < stamp e ∧ stamp e ≤ t

/-- Every event that is let through has found fewer than `limit` others in the window that ends at it. -/
inductive Throttles : List α → List (α × Bool) → Prop
  | nil {past : List α} : Throttles past []
  | cons {past : List α} {event : α} {through : Bool} {rest : List (α × Bool)}
    (room : through = true → windowCount stamp width (stamp event) past < limit)
    (next : Throttles (past ++ [event]) rest) : Throttles past ((event, through) :: rest)

end

/-- The events of a run that are let through. -/
def passed {α : Type} (run : List (α × Bool)) : List α := (run.filter Prod.snd).map Prod.fst

variable {α τ : Type} [AddCommGroup τ] [LinearOrder τ] [IsOrderedAddMonoid τ] {stamp : α → τ} {width : τ}
  {limit : Nat} {past admitted : List α} {run : List (α × Bool)} {t : τ}

/-- When the end of the window moves back to an event in it, and that is the latest one, no event
    leaves the window. -/
theorem windowCount_le_of_latest {event : α} (latest : ∀ e ∈ past, stamp e ≤ stamp event)
    (ended : stamp event ≤ t) : windowCount stamp width t past ≤ windowCount stamp width (stamp event) past := by
  apply List.countP_mono_left
  intro e member inside
  have inside := of_decide_eq_true inside
  have start : stamp event - width ≤ t - width := sub_le_sub_right ended width
  exact decide_eq_true ⟨start.trans_lt inside.1, latest e member⟩

/-- No window of a throttled run holds more than `limit` of the events that are let through. -/
theorem Throttles.bounded (throttles : Throttles stamp width limit past run) (sub : admitted.Sublist past)
    (ordered : (past ++ run.map Prod.fst).Pairwise fun a b => stamp a ≤ stamp b)
    (bounded : windowCount stamp width t admitted ≤ limit) :
    windowCount stamp width t (admitted ++ passed run) ≤ limit := by
  induction throttles generalizing admitted with
  | nil => simpa [passed] using bounded
  | @cons past event through rest room next ih =>
    have latest : ∀ e ∈ past, stamp e ≤ stamp event := fun e member =>
      (List.pairwise_append.mp ordered).2.2 e member event (List.mem_cons_self ..)
    have ordered' : (past ++ [event] ++ rest.map Prod.fst).Pairwise fun a b => stamp a ≤ stamp b := by
      simpa using ordered
    cases through with
    | false => exact ih (sub.trans (List.sublist_append_left _ _)) ordered' bounded
    | true =>
      have room := room rfl
      have one : windowCount stamp width t (admitted ++ [event]) ≤ limit := by
        unfold windowCount at bounded ⊢
        rw [List.countP_append, List.countP_singleton]
        split
        · rename_i inside
          have ended := (of_decide_eq_true inside).2
          have fewer : windowCount stamp width t admitted ≤ windowCount stamp width t past := sub.countP_le
          have fits := fewer.trans (windowCount_le_of_latest latest ended)
          exact Nat.succ_le_of_lt (fits.trans_lt room)
        · exact bounded
      have rest := ih (sub.append_right [event]) ordered' one
      simpa [passed] using rest

end Async
