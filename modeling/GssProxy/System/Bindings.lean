import Mathlib.Tactic.Common

/-!
# Sockets at paths

Binding replaces whatever was at the path; closing a descriptor leaves its socket in the file system.
Paths are bound for holders, each with one descriptor.

* `Leases.serves_iff`: who serves a path.
-/

namespace GssProxy.System

/-! ## Descriptors -/

/-- Descriptors are numbered in the order they were bound. -/
@[ext]
structure Bindings (P : Type) where
  next : Nat
  files : P → Option Nat
  live : Nat → Bool
  files_lt : ∀ p fd, files p = some fd → fd < next
  live_lt : ∀ fd, live fd = true → fd < next

namespace Bindings

variable {P : Type}

def empty : Bindings P := ⟨0, fun _ => none, fun _ => false, nofun, nofun⟩

/-- The descriptor answers on the path. -/
def Serves (b : Bindings P) (p : P) (fd : Nat) : Prop := b.files p = some fd ∧ b.live fd = true

instance (b : Bindings P) (p : P) (fd : Nat) : Decidable (b.Serves p fd) :=
  inferInstanceAs (Decidable (_ ∧ _))

def close (b : Bindings P) (fd : Nat) : Bindings P where
  next := b.next
  files := b.files
  live := Function.update b.live fd false
  files_lt := b.files_lt
  live_lt := by
    intro fd' hlive
    by_cases hfd : fd' = fd
    · rw [hfd, Function.update_self] at hlive; cases hlive
    · rw [Function.update_of_ne hfd] at hlive; exact b.live_lt fd' hlive

variable {b : Bindings P} {p q : P} {fd fd' : Nat}

@[simp] theorem close_live_self : (b.close fd).live fd = false := Function.update_self ..

theorem close_live_of_ne (hne : fd' ≠ fd) : (b.close fd).live fd' = b.live fd' :=
  Function.update_of_ne hne ..

theorem live_of_close (hl : (b.close fd).live fd' = true) : fd' ≠ fd ∧ b.live fd' = true := by
  by_cases hfd : fd' = fd
  · rw [hfd, close_live_self] at hl; cases hl
  · rw [close_live_of_ne hfd] at hl; exact ⟨hfd, hl⟩

theorem Serves.unique (h : b.Serves p fd) (h' : b.Serves p fd') : fd = fd' :=
  Option.some.inj (h.1.symm.trans h'.1)

variable [DecidableEq P]

/-- Unlinks the path and binds the next descriptor to it. -/
def bind (b : Bindings P) (p : P) : Bindings P where
  next := b.next + 1
  files := Function.update b.files p (some b.next)
  live := Function.update b.live b.next true
  files_lt := by
    intro q fd hfile
    by_cases hq : q = p
    · rw [hq, Function.update_self] at hfile
      cases hfile
      exact Nat.lt_succ_self _
    · rw [Function.update_of_ne hq] at hfile
      exact Nat.lt_succ_of_lt (b.files_lt q fd hfile)
  live_lt := by
    intro fd hlive
    by_cases hfd : fd = b.next
    · rw [hfd]; exact Nat.lt_succ_self _
    · rw [Function.update_of_ne hfd] at hlive; exact Nat.lt_succ_of_lt (b.live_lt fd hlive)

def unlink (b : Bindings P) (p : P) : Bindings P where
  next := b.next
  files := Function.update b.files p none
  live := b.live
  files_lt := by
    intro q fd hfile
    by_cases hq : q = p
    · rw [hq, Function.update_self] at hfile; cases hfile
    · rw [Function.update_of_ne hq] at hfile; exact b.files_lt q fd hfile
  live_lt := b.live_lt

@[simp] theorem bind_files_self : (b.bind p).files p = some b.next := Function.update_self ..

theorem bind_files_of_ne (hne : q ≠ p) : (b.bind p).files q = b.files q := Function.update_of_ne hne ..

@[simp] theorem bind_live_next : (b.bind p).live b.next = true := Function.update_self ..

theorem bind_live_of_lt (hlt : fd < b.next) : (b.bind p).live fd = b.live fd :=
  Function.update_of_ne (Nat.ne_of_lt hlt) ..

theorem close_bind (hlt : fd < b.next) : (b.bind p).close fd = (b.close fd).bind p := by
  refine Bindings.ext rfl rfl ?_
  exact Function.update_comm (Nat.ne_of_gt hlt) ..

end Bindings

/-! ## Holders -/

/-- What each holder has, and who bound each path last. -/
structure Leases (C P : Type) where
  bindings : Bindings P
  held : C → Option (P × Nat)
  last : P → Option C
  live_iff : ∀ fd, bindings.live fd = true ↔ ∃ c p, held c = some (p, fd)
  held_inj : ∀ {c c' p p' fd}, held c = some (p, fd) → held c' = some (p', fd) → c = c'
  /-- the last to bind a path has its socket there, or the socket there is closed -/
  last_held : ∀ {p c fd}, last p = some c → bindings.files p = some fd → bindings.live fd = true →
    held c = some (p, fd)
  files_held : ∀ {p c fd}, last p = some c → held c = some (p, fd) → bindings.files p = some fd
  last_none : ∀ {p}, last p = none → bindings.files p = none

namespace Leases

variable {C P : Type}

def empty : Leases C P where
  bindings := .empty
  held _ := none
  last _ := none
  live_iff _ := ⟨nofun, by rintro ⟨_, _, h⟩; cases h⟩
  held_inj := nofun
  last_held := nofun
  files_held := nofun
  last_none _ := rfl

theorem serves_iff (l : Leases C P) (p : P) (fd : Nat) :
    l.bindings.Serves p fd ↔ ∃ c, l.last p = some c ∧ l.held c = some (p, fd) := by
  constructor
  · rintro ⟨hf, hli⟩
    cases hl : l.last p with
    | none => rw [l.last_none hl] at hf; cases hf
    | some c => exact ⟨c, rfl, l.last_held hl hf hli⟩
  · rintro ⟨c, hl, hh⟩
    exact ⟨l.files_held hl hh, (l.live_iff fd).mpr ⟨c, p, hh⟩⟩

variable {c : C} {p : P} {fd : Nat}

theorem held_lt (l : Leases C P) (hc : l.held c = some (p, fd)) : fd < l.bindings.next :=
  l.bindings.live_lt fd ((l.live_iff fd).mpr ⟨c, p, hc⟩)

theorem update_eq_some_iff {α β : Type} [DecidableEq α] {f : α → Option β} {a a' : α}
    {v : Option β} {b : β} :
    Function.update f a v a' = some b ↔ a' = a ∧ v = some b ∨ a' ≠ a ∧ f a' = some b := by
  by_cases ha : a' = a
  · subst ha; simp
  · simp [ha]

variable [DecidableEq C]

/-- A holder closes its descriptor. -/
def release (l : Leases C P) {c : C} {p₀ : P} {fd₀ : Nat} (hc : l.held c = some (p₀, fd₀)) :
    Leases C P where
  bindings := l.bindings.close fd₀
  held := Function.update l.held c none
  last := l.last
  live_iff fd := by
    constructor
    · intro hlive
      obtain ⟨hfd, hlive⟩ := Bindings.live_of_close hlive
      obtain ⟨c', p, hheld⟩ := (l.live_iff fd).mp hlive
      have hne : c' ≠ c := by
        rintro rfl
        rw [hc] at hheld
        cases hheld
        exact hfd rfl
      exact ⟨c', p, update_eq_some_iff.mpr (.inr ⟨hne, hheld⟩)⟩
    · rintro ⟨c', p, hheld⟩
      obtain ⟨-, hnone⟩ | ⟨hne, hheld⟩ := update_eq_some_iff.mp hheld
      · cases hnone
      · have hfd : fd ≠ fd₀ := by rintro rfl; exact hne (l.held_inj hheld hc)
        rw [Bindings.close_live_of_ne hfd]
        exact (l.live_iff fd).mpr ⟨c', p, hheld⟩
  held_inj := by
    intro c₁ c₂ p₁ p₂ fd h₁ h₂
    obtain ⟨-, hnone⟩ | ⟨-, h₁⟩ := update_eq_some_iff.mp h₁
    · cases hnone
    · obtain ⟨-, hnone⟩ | ⟨-, h₂⟩ := update_eq_some_iff.mp h₂
      · cases hnone
      · exact l.held_inj h₁ h₂
  last_held := by
    intro p c' fd hlast hfile hlive
    obtain ⟨hfd, hlive⟩ := Bindings.live_of_close hlive
    have hheld := l.last_held hlast hfile hlive
    have hne : c' ≠ c := by
      rintro rfl
      rw [hc] at hheld
      cases hheld
      exact hfd rfl
    exact update_eq_some_iff.mpr (.inr ⟨hne, hheld⟩)
  files_held := by
    intro p c' fd hlast hheld
    obtain ⟨-, hnone⟩ | ⟨-, hheld⟩ := update_eq_some_iff.mp hheld
    · cases hnone
    · exact l.files_held hlast hheld
  last_none := l.last_none

theorem release_held_self (l : Leases C P)
    (hc : l.held c = some (p, fd)) : (l.release hc).held c = none :=
  Function.update_self ..

theorem release_held_of_ne (l : Leases C P) {c c' : C}
    (hc : l.held c = some (p, fd)) (hne : c' ≠ c) : (l.release hc).held c' = l.held c' :=
  Function.update_of_ne hne ..

variable [DecidableEq P]

/-- A holder binds a path. -/
def acquire (l : Leases C P) {c : C} (p : P) (hc : l.held c = none) : Leases C P where
  bindings := l.bindings.bind p
  held := Function.update l.held c (some (p, l.bindings.next))
  last := Function.update l.last p (some c)
  live_iff fd := by
    by_cases hfd : fd = l.bindings.next
    · subst hfd
      simp only [Bindings.bind_live_next, true_iff]
      exact ⟨c, p, Function.update_self ..⟩
    have hlive : (l.bindings.bind p).live fd = l.bindings.live fd := Function.update_of_ne hfd ..
    rw [hlive, l.live_iff fd]
    constructor
    · rintro ⟨c', p', hheld⟩
      have hne : c' ≠ c := by
        rintro rfl
        rw [hc] at hheld; cases hheld
      exact ⟨c', p', update_eq_some_iff.mpr (.inr ⟨hne, hheld⟩)⟩
    · rintro ⟨c', p', hheld⟩
      obtain ⟨-, hnew⟩ | ⟨-, hheld⟩ := update_eq_some_iff.mp hheld
      · cases hnew; exact absurd rfl hfd
      · exact ⟨c', p', hheld⟩
  held_inj := by
    intro c₁ c₂ p₁ p₂ fd h₁ h₂
    -- the new descriptor is not an old one
    obtain ⟨rfl, hnew₁⟩ | ⟨-, hold₁⟩ := update_eq_some_iff.mp h₁
    · obtain ⟨rfl, -⟩ | ⟨-, hold₂⟩ := update_eq_some_iff.mp h₂
      · rfl
      · cases hnew₁
        exact absurd (l.held_lt hold₂) (Nat.lt_irrefl _)
    · obtain ⟨rfl, hnew₂⟩ | ⟨-, hold₂⟩ := update_eq_some_iff.mp h₂
      · cases hnew₂
        exact absurd (l.held_lt hold₁) (Nat.lt_irrefl _)
      · exact l.held_inj hold₁ hold₂
  last_held := by
    intro q c' fd hlast hfile hlive
    obtain ⟨rfl, hnew⟩ | ⟨hq, hlast⟩ := update_eq_some_iff.mp hlast
    · cases hnew
      rw [Bindings.bind_files_self] at hfile
      cases hfile
      exact Function.update_self ..
    · rw [Bindings.bind_files_of_ne hq] at hfile
      rw [Bindings.bind_live_of_lt (l.bindings.files_lt q fd hfile)] at hlive
      have hheld := l.last_held hlast hfile hlive
      have hne : c' ≠ c := by
        rintro rfl
        rw [hc] at hheld; cases hheld
      exact update_eq_some_iff.mpr (.inr ⟨hne, hheld⟩)
  files_held := by
    intro q c' fd hlast hheld
    obtain ⟨rfl, hnew⟩ | ⟨hq, hlast⟩ := update_eq_some_iff.mp hlast
    · cases hnew
      rw [Function.update_self] at hheld
      cases hheld
      exact Bindings.bind_files_self
    · rw [Bindings.bind_files_of_ne hq]
      obtain ⟨-, hnew⟩ | ⟨-, hheld⟩ := update_eq_some_iff.mp hheld
      · cases hnew; exact absurd rfl hq
      · exact l.files_held hlast hheld
  last_none := by
    intro q hlast
    have hq : q ≠ p := by
      rintro rfl
      rw [Function.update_self] at hlast; cases hlast
    rw [Function.update_of_ne hq] at hlast
    rw [Bindings.bind_files_of_ne hq]
    exact l.last_none hlast

theorem acquire_held_self (l : Leases C P) (hc : l.held c = none) :
    (l.acquire p hc).held c = some (p, l.bindings.next) :=
  Function.update_self ..

theorem acquire_held_of_ne (l : Leases C P) {c c' : C} (hc : l.held c = none)
    (hne : c' ≠ c) : (l.acquire p hc).held c' = l.held c' :=
  Function.update_of_ne hne ..

end Leases

section

variable {C P : Type} [DecidableEq P]

/-- Who bound each path last after the given holders have bound theirs, one after the other. -/
def binders (acquired : List (C × P)) (last : P → Option C) : P → Option C :=
  acquired.foldl (fun last a => Function.update last a.2 (some a.1)) last

theorem binders_append (as bs : List (C × P)) (last : P → Option C) :
    binders (as ++ bs) last = binders bs (binders as last) :=
  List.foldl_append

variable {acquired : List (C × P)} {c : C} {p : P}

theorem binders_of_notMem (hp : p ∉ acquired.map Prod.snd) :
    ∀ {last : P → Option C}, binders acquired last p = last p := by
  induction acquired with
  | nil => exact rfl
  | cons a rest ih =>
    rw [List.map_cons, List.mem_cons, not_or] at hp
    exact (ih hp.2).trans (Function.update_of_ne hp.1 ..)

theorem binders_of_mem (hn : (acquired.map Prod.snd).Nodup) (hm : (c, p) ∈ acquired) :
    ∀ {last : P → Option C}, binders acquired last p = some c := by
  induction acquired with
  | nil => cases hm
  | cons a rest ih =>
    rw [List.map_cons, List.nodup_cons] at hn
    rcases List.mem_cons.mp hm with rfl | hm
    · exact (binders_of_notMem hn.1).trans (Function.update_self ..)
    · exact ih hn.2 hm

end

end GssProxy.System
