import PaymentSystem.Async.Contract

namespace Async

variable {σ : Signature} {ε World Choice Event α β : Type}

/-- A thread among others: what holds of the calls it makes, and what the others leave of the world in
    between. -/
structure Setting (m : Machine σ ε World Choice Event) where
  thread : Nat
  own : World → σ.Call → Choice → Prop
  others : World → World → Prop
  others_refl : ∀ w, others w w
  others_trans : ∀ {w₁ w₂ w₃}, others w₁ w₂ → others w₂ w₃ → others w₁ w₃

/-- What the environment has decided about the steps of thread `t`, in their order. -/
def choicesOf (t : Nat) : List (Label Choice Event) → List Choice
  | [] => []
  | .act u choice :: labels => if u = t then choice :: choicesOf t labels else choicesOf t labels
  | .event _ :: labels => choicesOf t labels

namespace Setting

variable {m : Machine σ ε World Choice Event} (S : Setting m)

/-- When the program ends, `post` holds of the choices it has met, of its outcome and of the world. -/
def Ends : Program σ ε α → (List Choice → Except ε α → World → Prop) → World → Prop
  | .done outcome, post => fun w => ∀ w', S.others w w' → post [] outcome w'
  | .call c next, post => fun w => ∀ w', S.others w w' → ∀ choice outcome w'', S.own w' c choice →
      m.perform S.thread c choice w' = some (outcome, w'') →
        Ends (next outcome) (fun choices => post (choice :: choices)) w''
  | .detach _ next, post => fun w => ∀ w', S.others w w' → ∀ choice,
      Ends next (fun choices => post (choice :: choices)) w'

variable {S} {post : List Choice → Except ε α → World → Prop} {w w' : World}

theorem Ends.later {p : Program σ ε α} (ends : S.Ends p post w) (moved : S.others w w') : S.Ends p post w' := by
  match p with
  | .done _ => exact fun _ later => ends _ (S.others_trans moved later)
  | .call _ _ => exact fun _ later => ends _ (S.others_trans moved later)
  | .detach _ _ => exact fun _ later => ends _ (S.others_trans moved later)

theorem Ends.of_later {p : Program σ ε α} (ends : ∀ w', S.others w w' → S.Ends p post w') : S.Ends p post w := by
  match p with
  | .done _ => exact fun _ later => ends _ later _ (S.others_refl _)
  | .call _ _ => exact fun _ later => ends _ later _ (S.others_refl _)
  | .detach _ _ => exact fun _ later => ends _ later _ (S.others_refl _)

theorem Ends.weaken {p : Program σ ε α} {post' : List Choice → Except ε α → World → Prop}
    (ends : S.Ends p post w) (weaker : ∀ choices outcome w, post choices outcome w → post' choices outcome w) :
    S.Ends p post' w := by
  induction p generalizing post post' w with
  | done outcome => exact fun _ later => weaker _ _ _ (ends _ later)
  | call c next ih =>
    intro w' later choice outcome w'' own performed
    exact ih outcome (ends w' later choice outcome w'' own performed) fun _ _ _ => weaker _ _ _
  | detach c next ih => exact fun w' later choice => ih (ends w' later choice) fun _ _ _ => weaker _ _ _

/-- What holds at the end is not disturbed afterwards. -/
theorem Ends.lasting {p : Program σ ε α} (ends : S.Ends p post w) :
    S.Ends p (fun choices outcome w => ∀ w', S.others w w' → post choices outcome w') w := by
  induction p generalizing post w with
  | done outcome => exact fun _ first _ second => ends _ (S.others_trans first second)
  | call c next ih =>
    exact fun w' later choice outcome w'' own performed => ih outcome (ends w' later choice outcome w'' own performed)
  | detach c next ih => exact fun w' later choice => ih (ends w' later choice)

theorem Ends.pure {value : α} (ends : ∀ w', S.others w w' → post [] (.ok value) w') :
    S.Ends (Pure.pure value) post w := ends

theorem Ends.throw {e : ε} (ends : ∀ w', S.others w w' → post [] (.error e) w') :
    S.Ends (MonadExcept.throw e : Program σ ε α) post w := ends

theorem Ends.bind {p : Program σ ε β} {f : β → Program σ ε α} (ends : S.Ends p (fun choices outcome w =>
      match outcome with
      | .ok value => S.Ends (f value) (fun rest => post (choices ++ rest)) w
      | .error e => post choices (.error e) w) w) : S.Ends (p >>= f) post w := by
  induction p generalizing post w with
  | done outcome =>
    match outcome with
    | .ok value => exact Ends.of_later ends
    | .error _ => exact ends
  | call c next ih =>
    exact fun w' later choice outcome w'' own performed => ih outcome (ends w' later choice outcome w'' own performed)
  | detach c next ih => exact fun w' later choice => ih (ends w' later choice)

theorem Ends.tryCatch {p : Program σ ε α} {f : ε → Program σ ε α} (ends : S.Ends p (fun choices outcome w =>
      match outcome with
      | .ok value => post choices (.ok value) w
      | .error e => S.Ends (f e) (fun rest => post (choices ++ rest)) w) w) :
    S.Ends (MonadExcept.tryCatch p f) post w := by
  induction p generalizing post w with
  | done outcome =>
    match outcome with
    | .ok _ => exact ends
    | .error e => exact Ends.of_later ends
  | call c next ih =>
    exact fun w' later choice outcome w'' own performed => ih outcome (ends w' later choice outcome w'' own performed)
  | detach c next ih => exact fun w' later choice => ih (ends w' later choice)

theorem Ends.ensure {p : Program σ ε α} {cleanup : Program σ ε Unit} (ends : S.Ends p (fun choices outcome w =>
      S.Ends cleanup (fun rest cleaned w =>
        match cleaned with
        | .ok () => post (choices ++ rest) outcome w
        | .error e => post (choices ++ rest) (.error e) w) w) w) : S.Ends (p.ensure cleanup) post w := by
  induction p generalizing post w with
  | done outcome =>
    refine Ends.bind ((Ends.of_later ends).lasting.weaken ?_)
    intro choices cleaned w lasts
    match cleaned with
    | .ok () =>
      intro w' later
      rw [List.append_nil]
      exact lasts w' later
    | .error e => exact lasts w (S.others_refl w)
  | call c next ih =>
    exact fun w' later choice outcome w'' own performed => ih outcome (ends w' later choice outcome w'' own performed)
  | detach c next ih => exact fun w' later choice => ih (ends w' later choice)

theorem Ends.ask {c : σ.Call} {post : List Choice → Except ε (σ.Answer c) → World → Prop}
    (ends : ∀ w', S.others w w' → ∀ choice outcome w'', S.own w' c choice →
      m.perform S.thread c choice w' = some (outcome, w'') → ∀ final, S.others w'' final →
        post [choice] outcome final) : S.Ends (Program.ask c) post w := ends

variable {restriction : Restriction σ World Choice Event} {pool final : Pool σ ε World}

/-- What the program of a thread ends with holds at the end of every run in which the others do no more
    than the setting lets them. -/
theorem Ends.run {p : Program σ ε Unit} {outcome : Except ε Unit} {labels : List (Label Choice Event)}
    {post : List Choice → Except ε Unit → World → Prop}
    (mine : ∀ w c choice, restriction.call S.thread w c choice = true → S.own w c choice)
    (theirs : ∀ u w c choice answer w', u ≠ S.thread → restriction.call u w c choice = true →
      m.perform u c choice w = some (answer, w') → S.others w w')
    (events : ∀ n w e w' started, restriction.event w e = true → m.occur n e w = some (w', started) → S.others w w')
    (running : pool.threads[S.thread]? = some p) (ends : S.Ends p post pool.world)
    (ran : m.run restriction pool labels = some final) (ended : final.threads[S.thread]? = some (.done outcome)) :
    post (choicesOf S.thread labels) outcome final.world := by
  induction labels generalizing pool p post with
  | nil =>
    cases ran
    rw [running] at ended
    cases ended
    exact ends _ (S.others_refl _)
  | cons label labels ih =>
    obtain ⟨next, admitted, stepped, rest⟩ := Machine.run_cons ran
    have bound := (List.getElem?_eq_some_iff.mp running).1
    cases Machine.takes_of_step stepped with
    | @call u choice c continues answer other performed threads =>
      by_cases here : u = S.thread
      · subst here
        cases running.symm.trans other
        rw [choicesOf, if_pos rfl]
        have own := mine _ _ _ (by simpa [Restriction.admits, running] using admitted)
        refine ih ?_ (ends _ (S.others_refl _) choice answer _ own performed) rest
        rw [threads, List.getElem?_set_self bound]
      · rw [choicesOf, if_neg here]
        have allowed : restriction.call u pool.world c choice = true := by
          simpa [Restriction.admits, other] using admitted
        refine ih ?_ (ends.later (theirs u _ c choice answer _ here allowed performed)) rest
        rw [threads, List.getElem?_set_ne here, running]
    | @detach u choice c continues other world threads =>
      by_cases here : u = S.thread
      · subst here
        cases running.symm.trans other
        rw [choicesOf, if_pos rfl]
        have continues := ends _ (S.others_refl _) choice
        rw [← world] at continues
        refine ih ?_ continues rest
        rw [threads, List.getElem?_append_left (by simpa using bound), List.getElem?_set_self bound]
      · rw [choicesOf, if_neg here]
        rw [← world] at ends
        refine ih ?_ ends rest
        rw [threads, List.getElem?_append_left (by simpa using bound), List.getElem?_set_ne here, running]
    | event occurred threads =>
      refine ih ?_ (ends.later (events _ _ _ _ _ admitted occurred)) rest
      rw [threads, List.getElem?_append_left bound, running]

end Setting

end Async
