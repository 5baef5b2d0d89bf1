import Mathlib.Tactic.Common

/-!
# Computations that record their calls

A value together with the list of the calls made to the outside.  What the outside answers is a parameter.
`Always P`: every call satisfies `P`.  `Quietly Q`: no call is made and the value satisfies `Q`.  Both go
through `bind` (`always_bind`, `Quietly.bind`).
-/

namespace GssProxy.Effect

universe u v

/-- A result with the calls that were made. -/
@[ext]
structure Calls (κ : Type u) (α : Type v) where
  log : List κ
  value : α

namespace Calls

variable {κ : Type u} {α β : Type v}

instance : Monad (Calls κ) where
  pure a := ⟨[], a⟩
  bind m f := ⟨m.log ++ (f m.value).log, (f m.value).value⟩

/-- One call, answered by `a`. -/
def call (k : κ) (a : α) : Calls κ α := ⟨[k], a⟩

@[simp] theorem log_pure (a : α) : (pure a : Calls κ α).log = [] := rfl

@[simp] theorem value_pure (a : α) : (pure a : Calls κ α).value = a := rfl

@[simp] theorem log_bind (m : Calls κ α) (f : α → Calls κ β) :
    (m >>= f).log = m.log ++ (f m.value).log := rfl

@[simp] theorem value_bind (m : Calls κ α) (f : α → Calls κ β) :
    (m >>= f).value = (f m.value).value := rfl

@[simp] theorem log_call (k : κ) (a : α) : (call k a).log = [k] := rfl

@[simp] theorem value_call (k : κ) (a : α) : (call k a).value = a := rfl

theorem pure_bind (a : α) (f : α → Calls κ β) : (pure a >>= f) = f a := rfl

theorem call_bind (k : κ) (a : α) (f : α → Calls κ β) :
    (call k a >>= f) = ⟨k :: (f a).log, (f a).value⟩ := rfl

theorem call_bind_pure (k : κ) (a : α) (g : α → β) :
    (call k a >>= fun b => pure (g b)) = call k (g a) := rfl

instance : LawfulMonad (Calls κ) := LawfulMonad.mk' _
  (fun m => Calls.ext (List.append_nil m.log) rfl) (fun _ _ => rfl)
  fun m f g => Calls.ext (List.append_assoc m.log (f m.value).log _) rfl

@[simp] theorem log_map (f : α → β) (m : Calls κ α) : (f <$> m).log = m.log :=
  List.append_nil m.log

@[simp] theorem value_map (f : α → β) (m : Calls κ α) : (f <$> m).value = f m.value := rfl

variable {m : Calls κ α} {f : α → Calls κ β} {k : κ} {a : α}

theorem pure_inj {a b : α} : (pure a : Calls κ α) = pure b ↔ a = b :=
  ⟨congrArg value, congrArg pure⟩

/-- After the same calls, the rest decides whether two computations are equal. -/
theorem bind_eq_iff {α' : Type v} {m' : Calls κ α'} {f' : α' → Calls κ β}
    (hl : m.log = m'.log) : (m >>= f) = (m' >>= f') ↔ f m.value = f' m'.value := by
  rw [Calls.ext_iff, Calls.ext_iff, log_bind, log_bind, hl, List.append_cancel_left_eq]
  exact Iff.rfl

theorem bind_congr {α' : Type v} {m' : Calls κ α'}
    {f' : α' → Calls κ β} (hl : m.log = m'.log) (hn : f m.value = f' m'.value) :
    (m >>= f) = (m' >>= f') := (bind_eq_iff hl).mpr hn

theorem call_congr {f f' : α → Calls κ β} (hn : f a = f' a) :
    (call k a >>= f) = (call k a >>= f') := bind_congr rfl hn

/-- The same calls under another name. -/
def mapLog {κ' : Type u} (f : κ → κ') (m : Calls κ α) : Calls κ' α := ⟨m.log.map f, m.value⟩

@[simp] theorem log_mapLog {κ' : Type u} (f : κ → κ') (m : Calls κ α) :
    (m.mapLog f).log = m.log.map f := rfl

@[simp] theorem value_mapLog {κ' : Type u} (f : κ → κ') (m : Calls κ α) :
    (m.mapLog f).value = m.value := rfl

/-- Each call as the calls it stands for. -/
def flatMapLog {κ' : Type u} (f : κ → List κ') (m : Calls κ α) : Calls κ' α :=
  ⟨m.log.flatMap f, m.value⟩

/-- Every call satisfies `P`. -/
def Always (P : κ → Prop) (m : Calls κ α) : Prop := ∀ k ∈ m.log, P k

variable {P : κ → Prop}

@[simp] theorem Always.pure (a : α) : Always P (pure a : Calls κ α) := by
  intro k hk
  cases hk

@[simp] theorem always_call : Always P (call k a) ↔ P k := by simp [Always]

@[simp] theorem always_bind : Always P (m >>= f) ↔ Always P m ∧ Always P (f m.value) := by
  simp only [Always, log_bind, List.mem_append]
  exact ⟨fun h => ⟨fun k hk => h k (.inl hk), fun k hk => h k (.inr hk)⟩,
    fun h k hk => hk.elim (h.1 k) (h.2 k)⟩

@[simp] theorem always_map {f : α → β} : Always P (f <$> m) ↔ Always P m := by simp [Always]

theorem always_call_bind : Always P (call k a >>= f) ↔ P k ∧ Always P (f a) := by
  rw [always_bind, always_call]
  rfl

/-- No call is made, and the value satisfies `Q`. -/
structure Quietly (Q : α → Prop) (m : Calls κ α) : Prop where
  log : m.log = []
  value : Q m.value

theorem Quietly.pure {Q : α → Prop} (h : Q a) : Quietly Q (pure a : Calls κ α) := ⟨rfl, h⟩

theorem Quietly.bind {Q : α → Prop} {R : β → Prop}
    (hm : Quietly Q m) (hf : ∀ a, Q a → Quietly R (f a)) : Quietly R (m >>= f) where
  log := by rw [log_bind, hm.log, (hf _ hm.value).log]; rfl
  value := (hf _ hm.value).value

end Calls

end GssProxy.Effect
