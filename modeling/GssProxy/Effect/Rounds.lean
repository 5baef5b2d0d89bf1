import Mathlib.Tactic.Common

/-!
# Loops that may be left early

A loop over a list, with its index and a state.  A round goes on to the next element or leaves the loop.

* `rounds_invariant`, `rounds_left`: what every round keeps, and a loop that is left.
-/

namespace GssProxy.Effect

/-- How a round, or a loop, ends. -/
inductive Round (σ : Type) where
  | next (s : σ)
  | leave (s : σ)
  deriving DecidableEq, Repr

variable {α σ : Type}

def Round.state : Round σ → σ
  | .next s => s
  | .leave s => s

/-- The loop over `xs`, whose first element has index `i`. -/
def rounds (round : Nat → α → σ → Round σ) : Nat → List α → σ → Round σ
  | _, [], s => .next s
  | i, x :: xs, s =>
    match round i x s with
    | .next s => rounds round (i + 1) xs s
    | .leave s => .leave s

variable {round : Nat → α → σ → Round σ}

theorem rounds_concat (xs : List α) (x : α) (i : Nat) (s : σ) :
    rounds round i (xs ++ [x]) s =
      match rounds round i xs s with
      | .next s => round (i + xs.length) x s
      | .leave s => .leave s := by
  induction xs generalizing i s with
  | nil =>
    show (match round i x s with | .next s => .next s | .leave s => .leave s) = round i x s
    cases round i x s <;> rfl
  | cons y xs ih =>
    rw [List.cons_append, rounds, rounds]
    cases round i y s with
    | leave s => rfl
    | next s =>
      have hi : i + 1 + xs.length = i + (y :: xs).length := by rw [List.length_cons]; omega
      exact (ih (i + 1) s).trans (by rw [hi])

theorem rounds_invariant (I : Nat → σ → Prop) (xs : List α) (i : Nat) (s : σ) (hi : I i s)
    (hr : ∀ j x s, xs[j]? = some x → I (i + j) s →
      ∃ s', round (i + j) x s = .next s' ∧ I (i + j + 1) s') :
    ∃ s', rounds round i xs s = .next s' ∧ I (i + xs.length) s' := by
  induction xs generalizing i s with
  | nil => exact ⟨s, rfl, hi⟩
  | cons x xs ih =>
    obtain ⟨s₁, hf, hk⟩ := hr 0 x s rfl hi
    have hre : ∀ j y s, xs[j]? = some y → I (i + 1 + j) s →
        ∃ s', round (i + 1 + j) y s = .next s' ∧ I (i + 1 + j + 1) s' := by
      intro j y s hy hI
      rw [show i + 1 + j = i + (j + 1) by omega] at hI ⊢
      exact hr (j + 1) y s hy hI
    obtain ⟨s₂, hl, he⟩ := ih (i + 1) s₁ hk hre
    refine ⟨s₂, ?_, ?_⟩
    · rw [rounds, show round i x s = .next s₁ from hf]; exact hl
    · rw [List.length_cons, show i + (xs.length + 1) = i + 1 + xs.length by omega]; exact he

theorem rounds_left (L : σ → Prop) (xs : List α) (i : Nat) (s : σ)
    (hle : ∀ j x s s', xs[j]? = some x → round (i + j) x s = .leave s' → L s')
    (hl : ∃ j x, xs[j]? = some x ∧ ∀ s, ∃ s', round (i + j) x s = .leave s') :
    ∃ s', rounds round i xs s = .leave s' ∧ L s' := by
  induction xs generalizing i s with
  | nil => obtain ⟨j, x, hx, -⟩ := hl; cases hx
  | cons x xs ih =>
    cases hf : round i x s with
    | leave s' => exact ⟨s', by rw [rounds, hf], hle 0 x s s' rfl hf⟩
    | next s₁ =>
      rw [rounds, hf]
      refine ih (i + 1) s₁ ?_ ?_
      · intro j y t t' hy ht
        rw [show i + 1 + j = i + (j + 1) by omega] at ht
        exact hle (j + 1) y t t' hy ht
      · obtain ⟨j, y, hy, ha⟩ := hl
        cases j with
        | zero =>
          -- the first element does not leave from `s`
          cases hy
          obtain ⟨s', hs'⟩ := ha s
          rw [show round (i + 0) x s = .next s₁ from hf] at hs'; cases hs'
        | succ j =>
          refine ⟨j, y, hy, fun t => ?_⟩
          rw [show i + 1 + j = i + (j + 1) by omega]
          exact ha t

end GssProxy.Effect
