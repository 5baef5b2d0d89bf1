import Mathlib.Algebra.BigOperators.Pi
import Mathlib.Algebra.Order.BigOperators.Group.Finset

/-!
# Tokens in places

A marking says which tokens each place holds.  A step moves a token from one place to another or brings a
new one.

* `total_moves`, `unique_place`: no token is lost or duplicated.
-/

namespace GssProxy.System

variable {P Q : Type}

/-- The tokens of every place. -/
abbrev Marking (P Q : Type) := P → Multiset Q

section

variable [DecidableEq P]

/-- One token in one place. -/
def token (a : P) (q : Q) : Marking P Q := Pi.single a {q}

@[simp] theorem token_same (a : P) (q : Q) : token a q a = {q} := Pi.single_eq_same a _

@[simp] theorem token_ne {a p : P} (h : p ≠ a) (q : Q) : token a q p = 0 :=
  Pi.single_eq_of_ne h _

/-- The token `q` leaves the place `a` for the place `b`. -/
def Moves (M M' : Marking P Q) (a b : P) (q : Q) : Prop := M' + token a q = M + token b q

/-- The token `q` is new in the place `b`. -/
def Adds (M M' : Marking P Q) (b : P) (q : Q) : Prop := M' = M + token b q

end

/-! ## All tokens, and those of a kind of places -/

variable [Fintype P]

/-- The tokens in the places of a kind. -/
def totalOn (L : P → Bool) (M : Marking P Q) : Multiset Q := ∑ p, if L p then M p else 0

/-- All tokens. -/
def total (M : Marking P Q) : Multiset Q := ∑ p, M p

theorem total_eq_totalOn (M : Marking P Q) : total M = totalOn (fun _ => true) M := by
  unfold total totalOn
  simp

section

variable [DecidableEq P]

variable {M M' : Marking P Q} {a b : P} {q : Q}

theorem totalOn_add_token (L : P → Bool) (M : Marking P Q) (a : P) (q : Q) :
    totalOn L (M + token a q) = totalOn L M + if L a then {q} else 0 := by
  have hpo : ∀ p, (if L p then (M + token a q) p else 0) =
      (if L p then M p else 0) + if a = p then (if L a then {q} else 0) else 0 := by
    intro p
    by_cases hp : a = p
    · subst hp
      by_cases hL : L a <;> simp [hL]
    · simp [hp, token_ne fun he => hp he.symm]
  unfold totalOn
  rw [Finset.sum_congr rfl fun p _ => hpo p, Finset.sum_add_distrib, Finset.sum_ite_eq,
    if_pos (Finset.mem_univ a)]

theorem totalOn_moves (L : P → Bool) (h : Moves M M' a b q) :
    totalOn L M' + (if L a then {q} else 0) = totalOn L M + if L b then {q} else 0 := by
  rw [← totalOn_add_token, ← totalOn_add_token, h]

theorem totalOn_moves_within {L : P → Bool} (h : Moves M M' a b q) (hL : L a = L b) :
    totalOn L M' = totalOn L M := by
  have hs := totalOn_moves L h
  rw [hL] at hs
  exact add_right_cancel hs

theorem total_moves (h : Moves M M' a b q) : total M' = total M := by
  rw [total_eq_totalOn]
  exact totalOn_moves_within h rfl

theorem totalOn_adds (L : P → Bool) (h : Adds M M' b q) :
    totalOn L M' = totalOn L M + if L b then {q} else 0 := by
  rw [h, totalOn_add_token]

theorem total_adds (h : Adds M M' b q) : total M' = total M + {q} := by
  rw [total_eq_totalOn, total_eq_totalOn, totalOn_adds _ h, if_pos rfl]

end

section

variable [DecidableEq Q] {M : Marking P Q} {q : Q}

theorem count_total (M : Marking P Q) (q : Q) : (total M).count q = ∑ p, (M p).count q :=
  Multiset.count_sum'

variable [DecidableEq P]

theorem unique_place (h : (total M).count q = 1) :
    ∃ p, (M p).count q = 1 ∧ ∀ p', p' ≠ p → q ∉ M p' := by
  rw [count_total] at h
  obtain ⟨p, -, hp⟩ := Finset.exists_ne_zero_of_sum_ne_zero (h ▸ Nat.one_ne_zero)
  rw [← Finset.add_sum_erase _ _ (Finset.mem_univ p)] at h
  have ho : ∑ p' ∈ Finset.univ.erase p, (M p').count q = 0 := by omega
  refine ⟨p, by omega, fun p' hp' => ?_⟩
  have hz := Finset.sum_eq_zero_iff.mp ho p' (Finset.mem_erase.mpr ⟨hp', Finset.mem_univ p'⟩)
  exact Multiset.count_eq_zero.mp hz

theorem count_totalOn_of_mem {L : P → Bool} {p : P} (h : (total M).count q = 1) (hq : q ∈ M p) :
    (totalOn L M).count q = if L p then 1 else 0 := by
  obtain ⟨p', hp', ho⟩ := unique_place h
  have hpp : p = p' := by
    by_contra hne
    exact ho p hne hq
  subst hpp
  have hpo : ∀ p₁, (if L p₁ then M p₁ else 0).count q =
      if p = p₁ then (if L p then 1 else 0) else 0 := by
    intro p₁
    by_cases hp₁ : p = p₁
    · subst hp₁
      by_cases hL : L p <;> simp [hL, hp']
    · have hn := Multiset.count_eq_zero.mpr (ho p₁ fun he => hp₁ he.symm)
      by_cases hL : L p₁ <;> simp [hL, hp₁, hn]
  unfold totalOn
  rw [Multiset.count_sum', Finset.sum_congr rfl fun p₁ _ => hpo p₁, Finset.sum_ite_eq,
    if_pos (Finset.mem_univ p)]

end

theorem sum_weight_update {T V : Type} [Fintype T] [DecidableEq T] (weight : V → Nat)
    (f : T → V) (t : T) (v : V) :
    (∑ t', weight (Function.update f t v t')) + weight (f t) =
      (∑ t', weight (f t')) + weight v := by
  rw [← Finset.add_sum_erase _ _ (Finset.mem_univ t),
    ← Finset.add_sum_erase Finset.univ (fun t' => weight (f t')) (Finset.mem_univ t)]
  have ho : ∑ t' ∈ Finset.univ.erase t, weight (Function.update f t v t') =
      ∑ t' ∈ Finset.univ.erase t, weight (f t') :=
    Finset.sum_congr rfl fun t' ht' => by rw [Function.update_of_ne (Finset.ne_of_mem_erase ht')]
  rw [Function.update_self]
  omega

end GssProxy.System
