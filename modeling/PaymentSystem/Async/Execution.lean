import PaymentSystem.Async.Endings

namespace Async

variable {σ : Signature} {ε World Choice Event α : Type}

namespace Machine

/-- A program by itself, with one choice for each of its calls: its outcome and the world it leaves. There
    is none when a choice is not possible or the number of choices is not that of the calls; programs that
    start a call without awaiting it are left out. -/
def execute (m : Machine σ ε World Choice Event) (t : Nat) :
    Program σ ε α → World → List Choice → Option (Except ε α × World)
  | .done outcome, w, [] => some (outcome, w)
  | .call c next, w, choice :: choices =>
    (m.perform t c choice w).bind fun result => m.execute t (next result.1) result.2 choices
  | _, _, _ => none

variable {m : Machine σ ε World Choice Event} {t : Nat} {w w' : World} {choices : List Choice} {pool : Pool σ ε World}

theorem execute_call {c : σ.Call} {next : Except ε (σ.Answer c) → Program σ ε α} {choice : Choice}
    {result : Except ε α × World} (ran : m.execute t (.call c next) w (choice :: choices) = some result) :
    ∃ answer w₁, m.perform t c choice w = some (answer, w₁) ∧ m.execute t (next answer) w₁ choices = some result := by
  rw [execute] at ran
  obtain ⟨⟨answer, w₁⟩, performed, rest⟩ := Option.bind_eq_some_iff.mp ran
  exact ⟨answer, w₁, performed, rest⟩

/-- What a program does by itself is a run of the machine in which only its thread acts. -/
theorem run_of_execute {p : Program σ ε Unit} {outcome : Except ε Unit} (running : pool.threads[t]? = some p)
    (ran : m.execute t p pool.world choices = some (outcome, w')) :
    m.run .free pool (choices.map (.act t)) = some ⟨w', pool.threads.set t (.done outcome)⟩ := by
  induction choices generalizing pool p with
  | nil =>
    cases p with
    | done outcome' =>
      cases ran
      have same : pool.threads.set t (.done outcome) = pool.threads := by
        obtain ⟨bound, is⟩ := List.getElem?_eq_some_iff.mp running
        rw [← is, List.set_getElem_self]
      rw [same]
      rfl
    | call c next => cases ran
    | detach c next => cases ran
  | cons choice choices ih =>
    cases p with
    | done outcome' => cases ran
    | call c next =>
      obtain ⟨answer, w₁, performed, rest⟩ := execute_call ran
      have bound := (List.getElem?_eq_some_iff.mp running).1
      have stepped : m.step pool (.act t choice) = some ⟨w₁, pool.threads.set t (next answer)⟩ := by
        simp only [step, running, performed, Option.map_some]
      have admitted : Restriction.free.admits pool (.act t choice : Label Choice Event) = true := by
        simp only [Restriction.admits, running, Restriction.free]
      have moved : (⟨w₁, pool.threads.set t (next answer)⟩ : Pool σ ε World).threads[t]? = some (next answer) :=
        List.getElem?_set_self bound
      rw [List.map_cons, run, if_pos admitted, stepped, Option.bind_some, ih moved rest, List.set_set]
    | detach c next => cases ran

end Machine

/-- Thread `t` by itself: nothing else touches the world. -/
def Setting.solo (m : Machine σ ε World Choice Event) (t : Nat) : Setting m where
  thread := t
  own _ _ _ := True
  others w w' := w' = w
  others_refl _ := rfl
  others_trans first second := second.trans first

theorem Setting.Ends.execute {m : Machine σ ε World Choice Event} {t : Nat} {w w' : World} {choices : List Choice}
    {p : Program σ ε α} {post : List Choice → Except ε α → World → Prop} {outcome : Except ε α}
    (ends : (solo m t).Ends p post w) (ran : m.execute t p w choices = some (outcome, w')) :
    post choices outcome w' := by
  induction p generalizing w choices post with
  | done outcome' =>
    cases choices with
    | nil =>
      cases ran
      exact ends _ rfl
    | cons choice choices => cases ran
  | call c next ih =>
    cases choices with
    | nil => cases ran
    | cons choice choices =>
      obtain ⟨answer, w₁, performed, rest⟩ := Machine.execute_call ran
      have continues := ends _ rfl choice answer w₁ trivial performed
      have holds := ih answer continues rest
      exact holds
  | detach c next ih =>
    cases choices with
    | nil => cases ran
    | cons choice choices => cases ran

end Async
