import Mathlib.Tactic.Common

/-!
# Exchanges of several legs

`runLegs` feeds inputs one by one to a step function that carries a state, as long as the answers ask for
more, and records every answer with the state after it.

* `runLegs_map_of_sim`: simulated steps give the same exchange.
-/

namespace GssProxy.Effect

variable {σ τ ι ω : Type} (more : ω → Bool)

/-- Legs, as long as more are asked for. -/
def runLegs (step : σ → ι → ω × σ) : σ → List ι → List (ω × σ)
  | _, [] => []
  | s, i :: is =>
    let leg := step s i
    if more leg.1 then leg :: runLegs step leg.2 is else [leg]

/-- The exchange takes exactly the given inputs, and each leg is `Good`. -/
def Completes (Good : ω × σ → Prop) (step : σ → ι → ω × σ) : σ → List ι → Prop
  | _, [] => False
  | s, i :: is =>
    Good (step s i) ∧
      if more (step s i).1 then Completes Good step (step s i).2 is else is = []

variable {more} {Good : ω × σ → Prop} {step : σ → ι → ω × σ} {step' : τ → ι → ω × τ}

theorem runLegs_map_of_sim {f : τ → σ} {Valid : τ → Prop}
    (hs : ∀ g i, Valid g → Good (step (f g) i) →
      Prod.map id f (step' g i) = step (f g) i ∧ Valid (step' g i).2)
    (g : τ) (hv : Valid g) (is : List ι) (h : Completes more Good step (f g) is) :
    (runLegs more step' g is).map (Prod.map id f) = runLegs more step (f g) is := by
  induction is generalizing g with
  | nil => exact h.elim
  | cons i is ih =>
    obtain ⟨hg, hr⟩ := h
    obtain ⟨hl, hv'⟩ := hs g i hv hg
    rw [← hl] at hr
    simp only [runLegs, ← hl]
    by_cases hm : more (step' g i).1
    · simp [hm, ih _ hv' (by simpa [hm] using hr)]
    · simp [hm]

theorem runLegs_outputs_of_sim {R : τ → σ → Prop} {view : ω → ω}
    (hv : ∀ out, more (view out) = more out)
    (hs : ∀ g s i, R g s → (step' g i).1 = view (step s i).1 ∧
      (more (step s i).1 = true → R (step' g i).2 (step s i).2))
    (g : τ) (s : σ) (hR : R g s) (is : List ι) :
    (runLegs more step' g is).map Prod.fst =
      (runLegs more step s is).map fun leg => view leg.1 := by
  induction is generalizing g s with
  | nil => rfl
  | cons i is ih =>
    obtain ⟨ho, hn⟩ := hs g s i hR
    unfold runLegs
    simp only [ho, hv]
    split
    · rename_i hm
      rw [List.map_cons, List.map_cons, ho, ih _ _ (hn hm)]
    · rw [List.map_cons, ho]; rfl

theorem runLegs_head_ne {f : τ → σ} {g : τ} {s : σ} {i : ι} {is : List ι}
    (h : Prod.map id f (step' g i) ≠ step s i) :
    (runLegs more step' g (i :: is)).map (Prod.map id f) ≠ runLegs more step s (i :: is) := by
  intro heq
  apply h
  have hh := congrArg List.head? heq
  unfold runLegs at hh
  simp only at hh
  split at hh <;> split at hh <;> exact Option.some.inj hh

end GssProxy.Effect
