import Mathlib.Tactic.Common

/-!
# Computations that follow a trace

A computation over a state that asks the outside; the answers are read off a list of events.  Where the
next event is not one that was asked for there is no result.

* `Triple.bind`, `Triple.loop`: the rules for pre- and postconditions.
-/

namespace GssProxy.Effect

structure World (ε σ : Type) where
  state : σ
  events : List ε

abbrev Traced (ε σ : Type) := StateT (World ε σ) Option

namespace Traced

variable {ε σ ι α β : Type}

/-- What the state and the next event determine, if they fit together. -/
def interact (f : σ → ε → Option (α × σ)) : Traced ε σ α := fun w =>
  match w.events with
  | [] => none
  | e :: es => (f w.state e).map fun r => (r.1, ⟨r.2, es⟩)

/-- The next event, if it is one that `f` understands. -/
def next (f : ε → Option α) : Traced ε σ α := interact fun s e => (f e).map fun a => (a, s)

def read : Traced ε σ σ := fun w => some (w.state, w)

/-- The computation cannot go on. -/
def stuck : Traced ε σ α := fun _ => none

def update (f : σ → σ) : Traced ε σ Unit := fun w => some ((), ⟨f w.state, w.events⟩)

/-- `body`, from `i` on, until it has a result, for at most `n` rounds. -/
def rounds (body : ι → Traced ε σ (ι ⊕ α)) : Nat → ι → Traced ε σ α
  | 0, _ => fun _ => none
  | n + 1, i => do
    match ← body i with
    | .inl j => rounds body n j
    | .inr a => pure a

/-- `body`, from `i` on, until it has a result.  Each round but the last takes an event, which
    bounds the rounds. -/
def loop (body : ι → Traced ε σ (ι ⊕ α)) (i : ι) : Traced ε σ α := fun w =>
  rounds body (w.events.length + 1) i w

theorem update_bind (f : σ → σ) (g : Unit → Traced ε σ α) (w : World ε σ) :
    (update f >>= g) w = g () ⟨f w.state, w.events⟩ := rfl

theorem read_bind (g : σ → Traced ε σ α) (w : World ε σ) : (read >>= g) w = g w.state w := rfl

/-! ## Rules -/

/-- **Partial correctness.** -/
def Triple (P : World ε σ → Prop) (m : Traced ε σ α) (Q : α → World ε σ → Prop) : Prop :=
  ∀ w a w', P w → m w = some (a, w') → Q a w'

variable {P P' : World ε σ → Prop} {Q Q' : α → World ε σ → Prop} {R : β → World ε σ → Prop}

namespace Triple

theorem pure {a : α} (h : ∀ w, P w → Q a w) : Triple P (pure a) Q := by
  rintro w _ _ hP ⟨⟩
  exact h w hP

variable {m : Traced ε σ α}

theorem bind {f : α → Traced ε σ β} (hm : Triple P m Q)
    (hf : ∀ a, Triple (Q a) (f a) R) : Triple P (m >>= f) R := by
  intro w b w'' hP hru
  obtain ⟨⟨a, w'⟩, hfi, hr⟩ := Option.bind_eq_some_iff.mp hru
  exact hf a w' b w'' (hm w a w' hP hfi) hr

theorem conseq (hm : Triple P m Q) (hP : ∀ w, P' w → P w)
    (hQ : ∀ a w, Q a w → Q' a w) : Triple P' m Q' :=
  fun w a w' h hr => hQ a w' (hm w a w' (hP w h) hr)

theorem and (hm : Triple P m Q) (hm' : Triple P' m Q') :
    Triple (fun w => P w ∧ P' w) m (fun a w => Q a w ∧ Q' a w) :=
  fun w a w' h hr => ⟨hm w a w' h.1 hr, hm' w a w' h.2 hr⟩

theorem imp {φ : Prop} (hm : Triple P m Q) : Triple (fun w => φ → P w) m (fun a w => φ → Q a w) :=
  fun w a w' h hr hφ => hm w a w' (h hφ) hr

theorem assuming {φ : Prop} (hm : φ → Triple P m Q) : Triple (fun w => P w ∧ φ) m Q :=
  fun w a w' h hr => hm h.2 w a w' h.1 hr

theorem of_exists {κ : Type} {P : κ → World ε σ → Prop}
    (hm : ∀ k, Triple (P k) m Q) : Triple (fun w => ∃ k, P k w) m Q :=
  fun w a w' ⟨k, h⟩ hr => hm k w a w' h hr

theorem framed {κ : Type} {I : κ → World ε σ → Prop} {K : κ → Prop} {R : α → Prop}
    (hm : ∀ k, K k → Triple (I k) m fun a w => I k w ∧ R a) :
    Triple (fun w => ∃ k, I k w ∧ K k) m fun a w => (∃ k, I k w ∧ K k) ∧ R a :=
  of_exists fun k => assuming fun hK =>
    (hm k hK).conseq (fun _ h => h) fun _ _ h => ⟨⟨k, h.1, hK⟩, h.2⟩

theorem ite {c : Prop} [Decidable c] {m m' : Traced ε σ α} (hm : c → Triple P m Q)
    (hm' : ¬ c → Triple P m' Q) : Triple P (if c then m else m') Q := by
  by_cases hc : c
  · rw [if_pos hc]; exact hm hc
  · rw [if_neg hc]; exact hm' hc

theorem interact {f : σ → ε → Option (α × σ)}
    (h : ∀ s e es a s', f s e = some (a, s') → P ⟨s, e :: es⟩ → Q a ⟨s', es⟩) :
    Triple P (interact f) Q := by
  rintro ⟨s, events⟩ a w' hP hr
  cases events with
  | nil => cases hr
  | cons e es =>
    obtain ⟨⟨b, s'⟩, hb, heq⟩ := Option.map_eq_some_iff.mp hr
    cases heq
    exact h s e es _ s' hb hP

theorem next {f : ε → Option α} (h : ∀ s e es a, f e = some a → P ⟨s, e :: es⟩ → Q a ⟨s, es⟩) :
    Triple P (next f) Q := by
  refine interact fun s e es a s' hf hP => ?_
  obtain ⟨b, hb, heq⟩ := Option.map_eq_some_iff.mp hf
  cases heq
  exact h s e es _ hb hP

theorem read {Q : σ → World ε σ → Prop} (h : ∀ w, P w → Q w.state w) : Triple P read Q := by
  rintro w _ _ hP ⟨⟩
  exact h w hP

theorem update {f : σ → σ} {Q : Unit → World ε σ → Prop}
    (h : ∀ w, P w → Q () ⟨f w.state, w.events⟩) : Triple P (update f) Q := by
  rintro w _ _ hP ⟨⟩
  exact h w hP

theorem rounds {I : ι → World ε σ → Prop} {body : ι → Traced ε σ (ι ⊕ α)}
    (hb : ∀ i, Triple (I i) (body i) (fun r w => r.elim (I · w) (Q · w))) (n : Nat) (i : ι) :
    Triple (I i) (rounds body n i) Q := by
  induction n generalizing i with
  | zero => exact fun w a w' _ hr => nomatch hr
  | succ n ih =>
    refine bind (hb i) fun r => ?_
    cases r with
    | inl j => exact ih j
    | inr a => exact pure fun w hQ => hQ

theorem loop {I : ι → World ε σ → Prop} {body : ι → Traced ε σ (ι ⊕ α)}
    (hb : ∀ i, Triple (I i) (body i) (fun r w => r.elim (I · w) (Q · w))) (i : ι) :
    Triple (I i) (loop body i) Q :=
  fun w a w' hI hr => rounds hb _ i w a w' hI hr

theorem liftExcept {δ : Type} {Q : Except δ α → World ε σ → Prop}
    (hm : Triple P m fun a => Q (.ok a)) : Triple P (ExceptT.lift m).run Q :=
  bind hm fun _ => pure fun _ h => h

theorem bindExcept {δ : Type} {m : ExceptT δ (Traced ε σ) α} {f : α → ExceptT δ (Traced ε σ) β}
    {Q : Except δ α → World ε σ → Prop} {R : Except δ β → World ε σ → Prop}
    (hm : Triple P m.run Q) (hok : ∀ a, Triple (Q (.ok a)) (f a).run R)
    (he : ∀ e w, Q (.error e) w → R (.error e) w) : Triple P (m >>= f).run R := by
  refine bind hm fun r => ?_
  cases r with
  | ok a => exact hok a
  | error e => exact pure (he e)

end Triple

end Traced

end GssProxy.Effect
