import Mathlib.Tactic.Common

/-!
# Computations that fill in a record

A handler writes one part of its reply after the other, and a step that fails leaves what was written.
`Filling ε ρ α` gives back the outcome with the record as it is then.

`Keeps P m`: `m` keeps `P` of the record; `Builds m r x`: `m` builds the record that the plain `x` gives;
`Fails E m`: every error satisfies `E`; `Does m r c e g`: `m` turns `r` into `g` where `c` holds and
fails with `e` otherwise.  Each has its rule for `bind`.
-/

namespace GssProxy.Effect

def Filling (ε ρ α : Type) : Type := ρ → Except ε α × ρ

namespace Filling

variable {ε ρ σ α β : Type}

instance : Monad (Filling ε ρ) where
  pure a := fun r => (.ok a, r)
  bind m f := fun r =>
    match m r with
    | (.ok a, r) => f a r
    | (.error e, r) => (.error e, r)

/-- A step that does not look at the record. -/
def ofExcept (x : Except ε α) : Filling ε ρ α := fun r => (x, r)

def fail (e : ε) : Filling ε ρ α := fun r => (.error e, r)

def write (f : ρ → ρ) : Filling ε ρ Unit := fun r => (.ok (), f r)

/-- Fills in a part of the record, which is attached however far it got. -/
def part (attach : σ → ρ → ρ) (start : σ) (m : Filling ε σ α) : Filling ε ρ α := fun r =>
  ((m start).1, attach (m start).2 r)

/-- Cleans up after a failure. -/
def orElseClean (clean : ρ → ρ) (m : Filling ε ρ α) : Filling ε ρ α := fun r =>
  match m r with
  | (.ok a, r) => (.ok a, r)
  | (.error e, r) => (.error e, clean r)

/-! ## Runs -/

variable {e : ε} {attach : σ → ρ → ρ} {start : σ}

section

variable {m : Filling ε ρ α} {f : α → Filling ε ρ β} {r r' : ρ}

theorem bind_ok {a : α} (h : m r = (.ok a, r')) : (m >>= f) r = f a r' := by
  show (match m r with
    | (.ok a, r) => f a r
    | (.error e, r) => (.error e, r)) = f a r'
  rw [h]

theorem bind_error (h : m r = (.error e, r')) : (m >>= f) r = (.error e, r') := by
  show (match m r with
    | (.ok a, r) => f a r
    | (.error e, r) => (.error e, r)) = (.error e, r')
  rw [h]

theorem ofExcept_ok_bind (a : α) : ((ofExcept (.ok a) : Filling ε ρ α) >>= f) r = f a r := rfl

theorem part_ok {s : σ} {m : Filling ε σ α} {a : α}
    (h : m start = (.ok a, s)) : part attach start m r = (.ok a, attach s r) := by
  unfold part
  rw [h]

end

variable {f : α → Filling ε ρ β} {x : Except ε α} {m : Filling ε ρ Unit}

theorem bind_eq_ok {m : Filling ε ρ α} {r out : ρ} {b : β}
    (h : (m >>= f) r = (.ok b, out)) : ∃ a r', m r = (.ok a, r') ∧ f a r' = (.ok b, out) := by
  rcases hr : m r with ⟨x, r'⟩
  cases x with
  | ok a => exact ⟨a, r', rfl, (bind_ok hr).symm.trans h⟩
  | error e => rw [bind_error hr] at h; cases h

theorem ofExcept_eq_ok {r out : ρ} {a : α}
    (h : (ofExcept x : Filling ε ρ α) r = (.ok a, out)) : x = .ok a ∧ r = out := by
  cases h
  exact ⟨rfl, rfl⟩

/-! ## What is kept -/

/-- Whatever the outcome, a record that satisfies `P` does so afterwards. -/
def Keeps (P : ρ → Prop) (m : Filling ε ρ α) : Prop := ∀ r, P r → P (m r).2

variable {P : ρ → Prop}

theorem Keeps.pure (a : α) : Keeps P (pure a : Filling ε ρ α) := fun _ h => h

theorem Keeps.ofExcept (x : Except ε α) : Keeps P (ofExcept x : Filling ε ρ α) := fun _ h => h

theorem Keeps.write {f : ρ → ρ} (hf : ∀ r, P r → P (f r)) :
    Keeps P (write f : Filling ε ρ Unit) := hf

theorem Keeps.part {m : Filling ε σ α}
    (h : ∀ s r, P r → P (attach s r)) : Keeps P (part attach start m) := fun r hr => h _ r hr

theorem Keeps.bind {m : Filling ε ρ α} (hm : Keeps P m)
    (hf : ∀ a, Keeps P (f a)) : Keeps P (m >>= f) := by
  intro r hr
  have hk := hm r hr
  rcases hru : m r with ⟨x, r'⟩
  rw [hru] at hk
  cases x with
  | ok a => rw [bind_ok hru]; exact hf a r' hk
  | error e => rw [bind_error hru]; exact hk

/-- Whatever the outcome and the record before, the record satisfies `P` afterwards. -/
def Leaves (P : ρ → Prop) (m : Filling ε ρ α) : Prop := ∀ r, P (m r).2

theorem Leaves.part {m : Filling ε σ α}
    (h : ∀ s r, P (attach s r)) : Leaves P (part attach start m) := fun r => h _ r

theorem Leaves.bind {m : Filling ε ρ α} (hm : Leaves P m)
    (hf : ∀ a, Keeps P (f a)) : Leaves P (m >>= f) := by
  intro r
  have hl := hm r
  rcases hr : m r with ⟨x, r'⟩
  rw [hr] at hl
  cases x with
  | ok a => rw [bind_ok hr]; exact hf a r' hl
  | error e => rw [bind_error hr]; exact hl

/-! ## Errors -/

/-- Every error `m` can end with satisfies `E`. -/
def Fails (E : ε → Prop) (m : Filling ε ρ α) : Prop := ∀ r e, (m r).1 = .error e → E e

variable {E : ε → Prop}

theorem Fails.write (f : ρ → ρ) : Fails E (write f : Filling ε ρ Unit) := by rintro r e ⟨⟩

theorem Fails.fail (he : E e) : Fails E (fail e : Filling ε ρ α) := by
  rintro r e' ⟨⟩
  exact he

theorem Fails.ofExcept (h : ∀ e, x = .error e → E e) :
    Fails E (ofExcept x : Filling ε ρ α) := fun _ e he => h e he

theorem Fails.part {m : Filling ε σ α} (h : Fails E m) :
    Fails E (part attach start m) := fun _ => h start

theorem Fails.bind {m : Filling ε ρ α} (hm : Fails E m)
    (hf : ∀ a, Fails E (f a)) : Fails E (m >>= f) := by
  intro r e he
  rcases hr : m r with ⟨x, r'⟩
  cases x with
  | ok a => rw [bind_ok hr] at he; exact hf a r' e he
  | error e' =>
    rw [bind_error hr] at he
    cases he
    exact hm r e (by rw [hr])

/-! ## What is built -/

/-- Started from `r`, the steps of `m` build what `x` gives, or fail as it does. -/
def Builds (m : Filling ε ρ Unit) (r : ρ) (x : Except ε ρ) : Prop :=
  (∀ g, x = .ok g → m r = (.ok (), g)) ∧ ∀ e, x = .error e → ∃ out, m r = (.error e, out)

variable {r : ρ}

theorem Builds.ok {g : ρ} (h : m r = (.ok (), g)) : Builds m r (.ok g) := by
  refine ⟨?_, ?_⟩
  · rintro g' ⟨⟩; exact h
  · rintro e ⟨⟩

theorem Builds.error {out : ρ} (h : m r = (.error e, out)) : Builds m r (.error e) := by
  refine ⟨?_, ?_⟩
  · rintro g ⟨⟩
  · rintro e' ⟨⟩; exact ⟨out, h⟩

theorem Builds.bind {f : Unit → Filling ε ρ Unit} {x : Except ε ρ}
    {y : ρ → Except ε ρ} (hm : Builds m r x) (hf : ∀ g, x = .ok g → Builds (f ()) g (y g)) :
    Builds (m >>= f) r (x >>= y) := by
  cases x with
  | error e => obtain ⟨out, ho⟩ := hm.2 e rfl; exact .error (bind_error ho)
  | ok g =>
    have hr : (m >>= f) r = f () g := bind_ok (hm.1 g rfl)
    refine ⟨fun g' hg => ?_, fun e he => ?_⟩
    · rw [hr]; exact (hf g rfl).1 g' hg
    · rw [hr]; exact (hf g rfl).2 e he

theorem Builds.ofExcept_bind {f : α → Filling ε ρ Unit} {y : α → Except ε ρ}
    (hf : ∀ a, Builds (f a) r (y a)) : Builds (ofExcept x >>= f) r (x >>= y) := by
  cases x with
  | error e => exact .error rfl
  | ok a => exact hf a

theorem Builds.orElseClean {clean : ρ → ρ} {x : Except ε ρ}
    (hm : Builds m r x) : Builds (orElseClean clean m) r x := by
  refine ⟨fun g hg => ?_, fun e he => ?_⟩
  · unfold Filling.orElseClean
    rw [hm.1 g hg]
  · obtain ⟨out, ho⟩ := hm.2 e he
    refine ⟨clean out, ?_⟩
    unfold Filling.orElseClean
    rw [ho]

/-! ## Exactly when -/

/-- Started from `r`, the steps of `m` make `g` of it where `c` holds, and fail with `e` where not. -/
def Does (m : Filling ε ρ Unit) (r : ρ) (c : Prop) (e : ε) (g : ρ) : Prop :=
  (c → m r = (.ok (), g)) ∧ (¬ c → ∃ out, m r = (.error e, out))

theorem Does.pure : Does (Pure.pure ()) r True e r := ⟨fun _ => rfl, fun h => absurd trivial h⟩

theorem Does.bind {f : Unit → Filling ε ρ Unit} {c d : Prop} {g g' : ρ}
    (hm : Does m r c e g) (hf : c → Does (f ()) g d e g') : Does (m >>= f) r (c ∧ d) e g' := by
  by_cases hc : c
  · have hr : (m >>= f) r = f () g := bind_ok (hm.1 hc)
    refine ⟨fun h => ?_, fun h => ?_⟩
    · rw [hr]; exact (hf hc).1 h.2
    · rw [hr]; exact (hf hc).2 fun hd => h ⟨hc, hd⟩
  · refine ⟨fun h => absurd h.1 hc, fun _ => ?_⟩
    obtain ⟨out, ho⟩ := hm.2 hc
    exact ⟨out, bind_error ho⟩

theorem Does.congr {c d : Prop} {g g' : ρ} (hm : Does m r c e g)
    (hc : c ↔ d) (he : d → g = g') : Does m r d e g' := by
  refine ⟨fun h => ?_, fun h => hm.2 (mt hc.mp h)⟩
  rw [← he h]
  exact hm.1 (hc.mpr h)

end Filling

end GssProxy.Effect
