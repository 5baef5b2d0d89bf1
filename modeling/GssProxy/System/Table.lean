import Mathlib.Data.List.ReduceOption

/-!
# Tables of handles

A table holds what has been handed out, in order; a place given back is empty.  A reference is a place, or
nothing, as a null handle is (`Table.All.add`, `Table.All.put`).
-/

namespace GssProxy.System

structure Table (α : Type) where
  slots : List (Option α)

namespace Table

variable {α : Type}

def empty : Table α := ⟨[]⟩

/-- What a reference refers to. -/
def get (t : Table α) (r : Option Nat) : Option α :=
  r.bind fun i => t.slots[i]?.join

/-- Writes to the place that is referred to. -/
def put (t : Table α) (r : Option Nat) (v : Option α) : Table α :=
  match r with
  | none => t
  | some i => ⟨t.slots.set i v⟩

/-- Hands out what there is. -/
def add (t : Table α) : Option α → Table α
  | none => t
  | some v => ⟨t.slots ++ [some v]⟩

/-- Writes to what is referred to, and hands it out if it is new. -/
def give (t : Table α) (r : Option Nat) (v : Option α) : Table α :=
  if (t.get r).isSome then t.put r v else t.add v

/-- What `t'` holds at the places that `t` does not have. -/
def new (t t' : Table α) : List α := (t'.slots.drop t.slots.length).reduceOption

/-- Everything in the table satisfies `P`. -/
def All (P : α → Prop) (t : Table α) : Prop := ∀ v, some v ∈ t.slots → P v

variable {P : α → Prop} {t : Table α}

theorem all_empty : All P (empty : Table α) := by
  intro v hv
  cases hv

variable {r : Option Nat} {v : Option α}

theorem All.get {v : α} (h : t.All P) (hv : t.get r = some v) : P v := by
  obtain ⟨i, -, hi⟩ := Option.bind_eq_some_iff.mp hv
  exact h v (List.mem_of_getElem? (Option.join_eq_some_iff.mp hi))

theorem All.put (h : t.All P) (hv : ∀ a, v = some a → P a) : (t.put r v).All P := by
  intro a ha
  cases r with
  | none => exact h a ha
  | some i =>
    rcases List.mem_or_eq_of_mem_set ha with hm | heq
    · exact h a hm
    · exact hv a heq.symm

theorem All.add (h : t.All P) (hv : ∀ a, v = some a → P a) : (t.add v).All P := by
  intro a ha
  cases v with
  | none => exact h a ha
  | some b =>
    rcases List.mem_append.mp ha with hm | hm
    · exact h a hm
    · exact hv a (List.mem_singleton.mp hm).symm

theorem All.give (h : t.All P) (hv : ∀ a, v = some a → P a) : (t.give r v).All P := by
  unfold Table.give
  split
  · exact h.put hv
  · exact h.add hv

/-! ## What is new -/

variable {t' : Table α} {r : Option Nat} {v : Option α} {a : α}

theorem mem_new_iff : a ∈ t.new t' ↔ some a ∈ t'.slots.drop t.slots.length :=
  List.reduceOption_mem_iff

theorem forall_new_of_length (h : t'.slots.length = t.slots.length) : ∀ a ∈ t.new t', P a := by
  intro a ha
  rw [mem_new_iff, List.drop_of_length_le (Nat.le_of_eq h)] at ha
  cases ha

theorem forall_new_self : ∀ a ∈ t.new t, P a := forall_new_of_length rfl

theorem put_length : (t.put r v).slots.length = t.slots.length := by
  cases r with
  | none => rfl
  | some i => exact List.length_set

theorem forall_new_put : ∀ a ∈ t.new (t.put r v), P a := forall_new_of_length put_length

theorem forall_some (h : P a) : ∀ b, some a = some b → P b := by simpa using h

theorem forall_ite {p : Prop} [Decidable p] (h : p → P a) :
    ∀ b, (if p then some a else none) = some b → P b := by simpa using h

theorem forall_ite_not {p : Prop} [Decidable p] (h : ¬ p → P a) :
    ∀ b, (if p then none else some a) = some b → P b := by simpa using h

theorem forall_new_add (hold : ∀ a ∈ t.new t', P a) (hv : ∀ a, v = some a → P a) :
    ∀ a ∈ t.new (t'.add v), P a := by
  intro a ha
  cases v with
  | none => exact hold a ha
  | some b =>
    have hs : (t'.add (some b)).slots = t'.slots ++ [some b] := rfl
    rw [mem_new_iff, hs, List.drop_append, List.mem_append] at ha
    rcases ha with hm | hm
    · exact hold a (mem_new_iff.mpr hm)
    · exact hv a (List.mem_singleton.mp (List.mem_of_mem_drop hm)).symm

theorem forall_new_give (hv : ∀ a, v = some a → P a) : ∀ a ∈ t.new (t.give r v), P a := by
  unfold give
  split
  · exact forall_new_put
  · exact forall_new_add forall_new_self hv

theorem get_give (ha : (t.give r v).get r = some a) : v = some a := by
  cases r with
  | none => cases ha
  | some i =>
    unfold give at ha
    split at ha
    · rename_i hs
      obtain ⟨b, hb⟩ := Option.isSome_iff_exists.mp hs
      have hlt : i < t.slots.length := by
        by_contra hge
        have hn : t.slots[i]? = none := List.getElem?_eq_none (Nat.le_of_not_lt hge)
        have hg : t.slots[i]?.join = some b := hb
        rw [hn] at hg; cases hg
      have hw : (t.slots.set i v)[i]?.join = some a := ha
      rw [List.getElem?_set_self hlt] at hw
      exact hw
    · rename_i hn
      cases v with
      | none => exact absurd (Option.isSome_iff_exists.mpr ⟨a, ha⟩) hn
      | some b =>
        have hw : (t.slots ++ [some b])[i]?.join = some a := ha
        rw [List.getElem?_append] at hw
        split at hw
        · exact absurd (Option.isSome_iff_exists.mpr ⟨a, hw⟩) hn
        · exact (List.mem_singleton.mp (List.mem_of_getElem?
            (Option.join_eq_some_iff.mp hw))).symm

end Table

end GssProxy.System
