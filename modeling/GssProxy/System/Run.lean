import Mathlib.Data.List.Induction

/-!
# Runs of a state machine

`step s a` is the state after the action `a`, if the action can happen in `s`.  `Reach step allowed init`:
the states reached by actions that are all `allowed` where they happen.

* `Reach.invariant`, `exec_invariant`: what every step keeps holds in every run.
-/

namespace GssProxy.System

variable {S A : Type} {step : S → A → Option S} {allowed : S → A → Prop} {init s s' : S}

/-- The states that allowed steps lead to. -/
inductive Reach (step : S → A → Option S) (allowed : S → A → Prop) (init : S) : S → Prop where
  | start : Reach step allowed init init
  | next {s s' : S} {a : A} (hreach : Reach step allowed init s) (hallowed : allowed s a)
      (hstep : step s a = some s') : Reach step allowed init s'

namespace Reach

theorem invariant {I : S → Prop} (hi : I init)
    (hp : ∀ {s a s'}, I s → allowed s a → step s a = some s' → I s')
    (h : Reach step allowed init s) : I s := by
  induction h with
  | start => exact hi
  | next _ ha hs ih => exact hp ih ha hs

theorem invariant_with {J I : S → Prop} (hJ : ∀ {s}, Reach step allowed init s → J s) (hi : I init)
    (hp : ∀ {s a s'}, J s → I s → allowed s a → step s a = some s' → I s')
    (h : Reach step allowed init s) : I s := by
  induction h with
  | start => exact hi
  | next hr ha hs ih => exact hp (hJ hr) ih ha hs

theorem mono {allowed' : S → A → Prop} (hle : ∀ s a, allowed s a → allowed' s a)
    (h : Reach step allowed init s) : Reach step allowed' init s := by
  induction h with
  | start => exact .start
  | next _ ha hs ih => exact .next ih (hle _ _ ha) hs

end Reach

/-- A list of actions, one after the other. -/
def exec (step : S → A → Option S) : S → List A → Option S
  | s, [] => some s
  | s, a :: as => (step s a).bind fun s' => exec step s' as

theorem Reach.exec {as : List A} (h : Reach step allowed init s)
    (ha : ∀ a ∈ as, ∀ s, allowed s a) (he : exec step s as = some s') :
    Reach step allowed init s' := by
  induction as generalizing s with
  | nil => cases he; exact h
  | cons a as ih =>
    obtain ⟨s₁, hs, hr⟩ := Option.bind_eq_some_iff.mp he
    rw [List.forall_mem_cons] at ha
    exact ih (h.next (ha.1 s) hs) ha.2 hr

/-! ## Runs and what happened in them -/

section

variable {as bs : List A} {a : A}

theorem exec_concat (as : List A) (a : A) :
    exec step s (as ++ [a]) = (exec step s as).bind fun s' => step s' a := by
  induction as generalizing s with
  | nil => simp [System.exec]
  | cons b as ih =>
    simp only [List.cons_append, System.exec, Option.bind_assoc]
    exact congrArg (step s b).bind (funext fun s' => ih)

theorem exec_invariant {I : List A → S → Prop} (hi : I [] init)
    (hp : ∀ {as s a s'}, exec step init as = some s → I as s → step s a = some s' →
      I (as ++ [a]) s') (h : exec step init as = some s) : I as s := by
  induction as using List.reverseRecOn generalizing s with
  | nil => cases h; exact hi
  | append_singleton as a ih =>
    rw [exec_concat] at h
    obtain ⟨s₁, hr, hs⟩ := Option.bind_eq_some_iff.mp h
    exact hp hr (ih hr) hs

/-- In the run, after `before` and in the state `s`, `a` was taken, with `P before s a`. -/
def Happened (step : S → A → Option S) (init : S) (P : List A → S → A → Prop) (as : List A) :
    Prop :=
  ∃ before s a after, as = before ++ a :: after ∧ exec step init before = some s ∧ P before s a

variable {P : List A → S → A → Prop}

theorem Happened.now (hr : exec step init as = some s) (h : P as s a) :
    Happened step init P (as ++ [a]) :=
  ⟨as, s, a, [], rfl, hr, h⟩

theorem Happened.later (h : Happened step init P as) : Happened step init P (as ++ bs) := by
  obtain ⟨before, s, a, after, rfl, hr, hP⟩ := h
  exact ⟨before, s, a, after ++ bs, by simp, hr, hP⟩

end

end GssProxy.System
