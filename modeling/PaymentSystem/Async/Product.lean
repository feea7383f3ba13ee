import PaymentSystem.Async.Contract

namespace Async.Contract

variable {σ : Signature} {ε World Choice Event α : Type} {m : Machine σ ε World Choice Event} {K L : Contract m}

/-- Two contracts of one machine, kept together. -/
def both (K L : Contract m) : Contract m where
  issues t w c := K.issues t w c ∧ L.issues t w c
  rely t w w' := K.rely t w w' ∧ L.rely t w w'
  fresh t w := K.fresh t w ∧ L.fresh t w
  final t w := K.final t w ∧ L.final t w
  rely_refl t w := ⟨K.rely_refl t w, L.rely_refl t w⟩
  rely_trans first second := ⟨K.rely_trans first.1 second.1, L.rely_trans first.2 second.2⟩
  fresh_rely fresh moved := ⟨K.fresh_rely fresh.1 moved.1, L.fresh_rely fresh.2 moved.2⟩
  call_rely issued performed other := ⟨K.call_rely issued.1 performed other, L.call_rely issued.2 performed other⟩
  event_rely occurred other := ⟨K.event_rely occurred other, L.event_rely occurred other⟩

variable {t : Nat} {ok ok' : α → World → Prop} {err err' : ε → World → Prop}

/-- A program that is safe under each of two contracts is safe under both: the others disturb it less. -/
theorem Safe.both {p : Program σ ε α} {w : World} (safe : K.Safe t p ok err w) (safe' : L.Safe t p ok' err' w) :
    (K.both L).Safe t p (fun value w => ok value w ∧ ok' value w) (fun e w => err e w ∧ err' e w) w := by
  induction p generalizing w with
  | done outcome =>
    match outcome with
    | .ok _ => exact fun _ later => ⟨safe _ later.1, safe' _ later.2⟩
    | .error _ => exact fun _ later => ⟨safe _ later.1, safe' _ later.2⟩
  | call c next ih =>
    intro w' later
    obtain ⟨issued, answers⟩ := safe w' later.1
    obtain ⟨issued', answers'⟩ := safe' w' later.2
    refine ⟨⟨issued, issued'⟩, ?_⟩
    intro choice outcome w'' performed
    exact ih outcome (answers choice outcome w'' performed) (answers' choice outcome w'' performed)
  | detach c next ih =>
    intro w' later
    obtain ⟨lone, rest⟩ := safe w' later.1
    obtain ⟨lone', rest'⟩ := safe' w' later.2
    refine ⟨?_, ih rest rest'⟩
    intro u fresh w'' after
    obtain ⟨issued, ends⟩ := lone u fresh.1 w'' after.1
    obtain ⟨issued', ends'⟩ := lone' u fresh.2 w'' after.2
    refine ⟨⟨issued, issued'⟩, ?_⟩
    intro choice outcome last performed final moved
    exact ⟨ends choice outcome last performed final moved.1, ends' choice outcome last performed final moved.2⟩

theorem Starts.both (starts : K.Starts) (starts' : L.Starts) : (K.both L).Starts := by
  intro n e w w' started occurred fresh i p found
  have safe := starts occurred (fun t beyond => (fresh t beyond).1) i p found
  have safe' := starts' occurred (fun t beyond => (fresh t beyond).2) i p found
  exact (safe.both safe').weaken (fun _ _ ends => ends) fun _ _ ends => ends

end Async.Contract
