import PaymentSystem.Async.Contract

namespace Async

variable {σ : Signature} {ε World Choice Event α : Type}

/-- A promise that all threads keep alike: `grants` relates the worlds before and after what any of them
    does, and `asks` is what a call needs of the world it is made in. -/
structure Guarantee (m : Machine σ ε World Choice Event) where
  grants : World → World → Prop
  asks : World → σ.Call → Prop
  refl : ∀ w, grants w w
  trans : ∀ {w₁ w₂ w₃}, grants w₁ w₂ → grants w₂ w₃ → grants w₁ w₃
  event : ∀ {n e w w' started}, m.occur n e w = some (w', started) → grants w w'

namespace Guarantee

variable {m : Machine σ ε World Choice Event} (G : Guarantee m)

/-- A call that may be made in `w`: whatever it is answered, the promise is kept. -/
def Allows (t : Nat) (w : World) (c : σ.Call) : Prop :=
  G.asks w c ∧ ∀ choice outcome w', m.perform t c choice w = some (outcome, w') → G.grants w w'

def contract : Contract m where
  issues := G.Allows
  rely _ := G.grants
  fresh _ _ := True
  final _ _ := True
  rely_refl _ := G.refl
  rely_trans := G.trans
  fresh_rely _ _ := trivial
  call_rely issued performed _ := issued.2 _ _ _ performed
  event_rely occurred _ := G.event occurred

/-- A call that may always be made. -/
def Harmless (c : σ.Call) : Prop := ∀ t w, G.Allows t w c

variable {G} {t : Nat}

/-- A program of harmless calls keeps the promise by itself. -/
theorem safe_of_all {p : Program σ ε α} {ok : α → World → Prop} {err : ε → World → Prop} {w : World}
    (harmless : p.All G.Harmless) (returns : ∀ value w', G.grants w w' → ok value w')
    (throws : ∀ e w', G.grants w w' → err e w') : G.contract.Safe t p ok err w := by
  induction p generalizing w with
  | done outcome =>
    match outcome with
    | .ok value => exact returns value
    | .error e => exact throws e
  | call c next ih =>
    intro w' later
    refine ⟨harmless.1 t w', ?_⟩
    intro choice outcome w'' performed
    have grown := G.trans later ((harmless.1 t w').2 choice outcome w'' performed)
    exact ih outcome (harmless.2 outcome) (fun value w''' after => returns value w''' (G.trans grown after))
      fun e w''' after => throws e w''' (G.trans grown after)
  | detach c next ih =>
    intro w' later
    refine ⟨fun u _ w'' _ => ⟨harmless.1 u w'', fun _ _ _ _ _ _ => trivial⟩, ?_⟩
    exact ih harmless.2 (fun value w'' after => returns value w'' (G.trans later after))
      fun e w'' after => throws e w'' (G.trans later after)

/-- The rule of an awaited call. -/
theorem safe_ask {c : σ.Call} {ok : σ.Answer c → World → Prop} {err : ε → World → Prop} {w : World}
    (allows : ∀ w', G.grants w w' → G.Allows t w' c)
    (answers : ∀ w₁ choice outcome w₂ w₃, G.grants w w₁ → m.perform t c choice w₁ = some (outcome, w₂) →
      G.grants w₂ w₃ → G.grants w w₃ → match outcome with
        | .ok value => ok value w₃
        | .error e => err e w₃) : G.contract.Safe t (Program.ask c) ok err w := by
  refine Contract.Safe.ask fun w₁ before => ⟨allows w₁ before, ?_⟩
  intro choice outcome w₂ performed w₃ after
  have here := (allows w₁ before).2 choice outcome w₂ performed
  exact answers w₁ choice outcome w₂ w₃ before performed after (G.trans before (G.trans here after))

variable {restriction : Restriction σ World Choice Event} {start : World} {pool next : Pool σ ε World}

theorem kept (starts : G.contract.Starts) (reached : m.Reachable start restriction pool) : G.contract.Keeps pool :=
  G.contract.keeps starts (fun _ => trivial) reached

/-- Every run keeps the promise. -/
theorem run (starts : G.contract.Starts) (reached : m.Reachable start restriction pool)
    {labels : List (Label Choice Event)} (ran : m.run restriction pool labels = some next) :
    G.grants pool.world next.world := by
  refine G.contract.lasting starts (fun _ => trivial) (G.grants pool.world) ?_ reached (G.refl _) ran
  intro n w w' held move
  cases move with
  | call _ issued _ performed => exact G.trans held (issued.2 _ _ _ performed)
  | event _ _ occurred => exact G.trans held (G.event occurred)
  | idle => exact held

theorem reached (starts : G.contract.Starts) (reached : m.Reachable start restriction pool) :
    G.grants start pool.world := by
  refine G.contract.invariant starts (fun _ => trivial) (G.grants start) (G.refl _) ?_ reached
  intro n w w' held move
  cases move with
  | call _ issued _ performed => exact G.trans held (issued.2 _ _ _ performed)
  | event _ _ occurred => exact G.trans held (G.event occurred)
  | idle => exact held

/-- The call a thread is about to make finds what it asks for. -/
theorem asked (starts : G.contract.Starts) (reached : m.Reachable start restriction pool) {c : σ.Call}
    {rest : Except ε (σ.Answer c) → Program σ ε Unit} (running : pool.threads[t]? = some (.call c rest)) :
    G.asks pool.world c :=
  (((kept starts reached).safe t _ running _ (G.refl _)).1).1

end Guarantee

end Async
