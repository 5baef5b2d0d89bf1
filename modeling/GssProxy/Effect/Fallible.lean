import GssProxy.Effect.Calls

/-!
# Recorded computations that can fail

What was recorded before a failure stays recorded.  `Meets P Q m`: what `m` records satisfies `P` and its
result `Q`; `Fails E m`: every error satisfies `E`.  Both go through `bind` (`Meets.bind`, `Fails.bind`).
-/

namespace GssProxy.Effect

abbrev Fallible (ε κ α : Type) : Type := ExceptT ε (Calls κ) α

namespace Fallible

variable {ε κ α β : Type}

/-- A step that records nothing. -/
def ofExcept (r : Except ε α) : Fallible ε κ α := ExceptT.mk (pure r)

/-- A step that is recorded as `k` if it succeeds. -/
def recorded (k : κ) : Except ε α → Fallible ε κ α
  | .ok a => ExceptT.mk (Calls.call k (.ok a))
  | .error e => throw e

/-- The result if there is one; a failure is forgotten, its record is not. -/
def attempt (m : Fallible ε κ α) : Fallible ε κ (Option α) :=
  ExceptT.mk (do
    match ← m.run with
    | .ok a => pure (.ok (some a))
    | .error _ => pure (.ok none))

/-! ## Runs -/

section

variable {m : Fallible ε κ α} {f : α → Fallible ε κ β}

theorem run_bind_ok {a : α} (h : m.run.value = .ok a) :
    (m >>= f).run = ⟨m.run.log ++ (f a).run.log, (f a).run.value⟩ := by
  change Calls.mk (m.run.log ++ (ExceptT.bindCont f m.run.value).log)
    (ExceptT.bindCont f m.run.value).value = _
  rw [h]
  rfl

variable {e : ε} {m : Fallible ε κ α} {f : α → Fallible ε κ β} {c : Prop}

theorem run_bind_error (h : m.run.value = .error e) : (m >>= f).run = ⟨m.run.log, .error e⟩ := by
  change Calls.mk (m.run.log ++ (ExceptT.bindCont f m.run.value).log)
    (ExceptT.bindCont f m.run.value).value = _
  rw [h]
  exact congrArg (Calls.mk · _) (List.append_nil _)

end

theorem ofExcept_ok_bind (a : α) (f : α → Fallible ε κ β) : ofExcept (.ok a) >>= f = f a := rfl

/-! ## Rules -/

/-- What `m` records satisfies `P`, and what it returns `Q`. -/
structure Meets (P : κ → Prop) (Q : α → Prop) (m : Fallible ε κ α) : Prop where
  calls : Calls.Always P m.run
  result : ∀ a, m.run.value = .ok a → Q a

variable {P : κ → Prop} {Q : α → Prop} {R : β → Prop}

theorem Meets.pure {a : α} (ha : Q a) : Meets P Q (pure a : Fallible ε κ α) where
  calls := .pure _
  result := by rintro b ⟨⟩; exact ha

theorem Meets.throw (e : ε) : Meets P Q (throw e : Fallible ε κ α) where
  calls := .pure _
  result := by rintro b ⟨⟩

variable {r : Except ε α}

theorem Meets.ofExcept (h : ∀ a, r = .ok a → Q a) : Meets P Q (ofExcept r : Fallible ε κ α) where
  calls := .pure _
  result := h

theorem Meets.recorded {k : κ} (hk : P k) (h : ∀ a, r = .ok a → Q a) :
    Meets P Q (recorded k r) := by
  cases r with
  | ok a => exact ⟨Calls.always_call.mpr hk, h⟩
  | error e => exact .throw e

theorem Meets.bind (hm : Meets P Q m) (hf : ∀ a, Q a → Meets P R (f a)) : Meets P R (m >>= f) := by
  cases hv : m.run.value with
  | ok a =>
    have ha := hf a (hm.result a hv)
    constructor
    · rw [run_bind_ok hv]
      intro k hk
      exact (List.mem_append.mp hk).elim (hm.calls k) (ha.calls k)
    · rw [run_bind_ok hv]; exact ha.result
  | error e =>
    constructor
    · rw [run_bind_error hv]; exact hm.calls
    · rw [run_bind_error hv]
      rintro b ⟨⟩

theorem Meets.throw_bind (e : ε) (f : α → Fallible ε κ β) :
    Meets P R ((MonadExcept.throw e : Fallible ε κ α) >>= f) :=
  .throw e

variable {m' : Fallible ε κ α}

theorem Meets.ite [Decidable c] (hm : c → Meets P Q m)
    (hm' : ¬ c → Meets P Q m') : Meets P Q (if c then m else m') := by
  by_cases hc : c
  · rw [if_pos hc]; exact hm hc
  · rw [if_neg hc]; exact hm' hc

theorem Meets.attempt (hm : Meets P Q m) :
    Meets P (fun r => ∀ a, r = some a → Q a) (attempt m) := by
  constructor
  · refine Calls.always_bind.mpr ⟨hm.calls, ?_⟩
    cases m.run.value with
    | ok a => exact .pure _
    | error e => exact .pure _
  · intro r hr a hra
    change Calls.value (m.run >>= _) = _ at hr
    rw [Calls.value_bind] at hr
    cases hv : m.run.value with
    | ok b =>
      rw [hv] at hr
      cases hr
      cases hra
      exact hm.result _ hv
    | error e =>
      rw [hv] at hr
      cases hr; cases hra

theorem Meets.mono {Q' : α → Prop} (hm : Meets P Q m) (h : ∀ a, Q a → Q' a) : Meets P Q' m :=
  ⟨hm.calls, fun a ha => h a (hm.result a ha)⟩

theorem Meets.trivial (m : Fallible ε κ α) : Meets (fun _ => True) (fun _ => True) m :=
  ⟨fun _ _ => True.intro, fun _ _ => True.intro⟩

/-! ## Errors -/

/-- Every error `m` can end with satisfies `E`. -/
def Fails (E : ε → Prop) (m : Fallible ε κ α) : Prop := ∀ e, m.run.value = .error e → E e

variable {E : ε → Prop}

theorem Fails.pure (a : α) : Fails E (pure a : Fallible ε κ α) := by rintro e ⟨⟩

theorem Fails.throw (he : E e) : Fails E (throw e : Fallible ε κ α) := by
  rintro e' ⟨⟩
  exact he

theorem Fails.throw_bind (f : α → Fallible ε κ β) (he : E e) :
    Fails E ((MonadExcept.throw e : Fallible ε κ α) >>= f) := .throw he

theorem Fails.ofExcept (h : ∀ e, r = .error e → E e) : Fails E (ofExcept r : Fallible ε κ α) := h

theorem Fails.recorded {k : κ} (h : ∀ e, r = .error e → E e) : Fails E (recorded k r) := by
  cases r with
  | ok a => rintro e ⟨⟩
  | error e => exact .throw (h e rfl)

theorem Fails.bind (hm : Fails E m) (hf : ∀ a, Fails E (f a)) : Fails E (m >>= f) := by
  intro e he
  cases hv : m.run.value with
  | ok a => rw [run_bind_ok hv] at he; exact hf a e he
  | error e' =>
    rw [run_bind_error hv] at he
    cases he
    exact hm _ hv

theorem Fails.ite [Decidable c] (hm : c → Fails E m)
    (hm' : ¬ c → Fails E m') : Fails E (if c then m else m') := by
  by_cases hc : c
  · rw [if_pos hc]; exact hm hc
  · rw [if_neg hc]; exact hm' hc

theorem Fails.attempt (m : Fallible ε κ α) : Fails E (attempt m) := by
  intro e he
  change Calls.value (m.run >>= _) = _ at he
  rw [Calls.value_bind] at he
  cases hv : m.run.value with
  | ok _ | error _ => rw [hv] at he; cases he

end Fallible

end GssProxy.Effect
