import Mathlib.Algebra.Order.Ring.Nat
import GssProxy.Codec.Bytes
import GssProxy.System.Run

/-!
# Reads and writes that go on

`gp_safe_read` and `gp_safe_write` repeat `read` and `write` until all bytes have been moved.  Their loops
are the same; a step is one call, with what the system answers.

* `transfers`: what they return after any answers, and which bytes they have moved.
-/

namespace GssProxy.Daemon.SafeIo

open Codec GssProxy.System

/-- The answer to one call: `-1` and `errno`, or what was moved; nothing at the end of the file. -/
inductive Answer (δ : Type) where
  | failed (errno : Nat)
  | moved (data : δ)

def EINTR : Nat := 4

/-- The variables of the loop. -/
structure State (σ : Type) where
  len : Nat
  sys : σ
  returned : Option Int

variable {σ δ : Type}

def toSsize (n : Nat) : Int := if n < 9223372036854775808 then n else n - 18446744073709551616

/-- `while (count > len)`, and the `return` behind it. -/
def again (count : Nat) (s : State σ) : State σ :=
  if s.len < count then s else { s with returned := some (toSsize s.len) }

def step (size : δ → Nat) (move : Nat → δ → σ → σ) (count : Nat) (s : State σ) :
    Answer δ → Option (State σ)
  | .failed errno =>
    if s.returned.isSome then none
    else if errno = EINTR then some (again count s)
    else some { s with returned := some (-1) }
  | .moved data =>
    if s.returned.isSome ∨ count - s.len < size data then none
    else if size data = 0 then some { s with returned := some (toSsize s.len) }
    else some (again count ⟨s.len + size data, move s.len data s.sys, none⟩)

/-- What was read goes to `&b[len]`. -/
def gpSafeRead (count : Nat) : State Bytes → Answer Bytes → Option (State Bytes) :=
  step List.length (fun len data buf => buf.take len ++ data ++ buf.drop (len + data.length)) count

/-- `n` bytes from `&b[len]` on are appended to the file. -/
def gpSafeWrite (b : Bytes) (count : Nat) : State Bytes → Answer Nat → Option (State Bytes) :=
  step id (fun len n file => file ++ (b.drop len).take n) count

/-! ## What is returned -/

def moved (as : List (Answer δ)) : List δ := as.filterMap fun
  | .failed _ => none
  | .moved data => some data

def Failed (as : List (Answer δ)) : Prop := ∃ errno ≠ EINTR, as.getLast? = some (.failed errno)

/-- What the calls so far have done, and what is returned. -/
structure Transfers (size : δ → Nat) (P : List δ → σ → Prop) (count : Nat) (as : List (Answer δ))
    (s : State σ) : Prop where
  sys : P (moved as) s.sys
  len_eq : s.len = ((moved as).map size).sum
  len_le : s.len ≤ count
  full : s.returned = some (count : Int) ↔ s.len = count ∧ as ≠ [] ∧ ¬ Failed as
  short : ∀ v, s.returned = some v → 0 ≤ v → v < count →
    v = s.len ∧ ∃ data, size data = 0 ∧ as.getLast? = some (.moved data)
  error : s.returned = some (-1) ↔ Failed as

section

variable {size : δ → Nat} {move : Nat → δ → σ → σ} {P : List δ → σ → Prop} {count : Nat}
  {as : List (Answer δ)} {s s' : State σ} {sys : σ} {a : Answer δ}

theorem toSsize_of_lt {n : Nat} (h : n < 9223372036854775808) : toSsize n = n := if_pos h

theorem failed_concat : Failed (as ++ [a]) ↔ ∃ errno ≠ EINTR, a = .failed errno := by simp [Failed]

theorem transfers_again (hc : count < 9223372036854775808) (hs : P (moved (as ++ [a])) s.sys)
    (hl : s.len = ((moved (as ++ [a])).map size).sum) (hle : s.len ≤ count)
    (hn : s.returned = none) (ha : ¬ Failed (as ++ [a])) :
    Transfers size P count (as ++ [a]) (again count s) := by
  unfold again
  by_cases hlt : s.len < count
  · rw [if_pos hlt]
    refine ⟨hs, hl, hle, ?_, ?_, ?_⟩
    · simpa [hn] using fun heq => absurd heq (by omega)
    · simp [hn]
    · simpa [hn] using ha
  · have heq : s.len = count := by omega
    rw [if_neg hlt, heq, toSsize_of_lt hc]
    refine ⟨hs, heq ▸ hl, Nat.le_refl _, ?_, ?_, ?_⟩
    · simpa using ha
    · rintro v hv - hsh
      cases hv; omega
    · refine iff_of_false (fun h => ?_) ha
      have := Option.some.inj h
      omega

theorem Transfers.step (hc : count < 9223372036854775808) (h : Transfers size P count as s)
    (hmo : ∀ data, s.len + size data ≤ count → P (moved as) s.sys →
      P (moved as ++ [data]) (move s.len data s.sys))
    (hen : ∀ data, size data = 0 → P (moved as) s.sys → P (moved as ++ [data]) s.sys)
    (hs : step size move count s a = some s') : Transfers size P count (as ++ [a]) s' := by
  cases a with
  | failed errno =>
    have hm : moved (as ++ [.failed errno]) = moved as := by simp [moved]
    obtain ⟨hr, hs⟩ := Option.ite_none_left_eq_some.mp hs
    have hn : s.returned = none := by simpa using hr
    by_cases he : errno = EINTR
    · rw [if_pos he] at hs
      cases hs
      refine transfers_again hc (hm ▸ h.sys) (hm ▸ h.len_eq) h.len_le hn ?_
      rw [failed_concat]
      rintro ⟨errno', hne, heq⟩
      cases heq
      exact hne he
    · rw [if_neg he] at hs
      cases hs
      have hf : Failed (as ++ [.failed errno]) := failed_concat.mpr ⟨errno, he, rfl⟩
      refine ⟨hm ▸ h.sys, hm ▸ h.len_eq, h.len_le, ?_, ?_, iff_of_true rfl hf⟩
      · refine iff_of_false (fun hfu => ?_) fun hfu => hfu.2.2 hf
        have := Option.some.inj hfu
        omega
      · rintro v hv hle -
        cases hv; omega
  | moved data =>
    have hm : moved (as ++ [.moved data]) = moved as ++ [data] := by simp [moved]
    have hfi : ¬ Failed (as ++ [.moved data]) := by simp [failed_concat]
    obtain ⟨ha, hs⟩ := Option.ite_none_left_eq_some.mp hs
    have hle : s.len + size data ≤ count := by
      have := h.len_le
      omega
    have hl : s.len + size data = ((moved (as ++ [.moved data])).map size).sum := by
      rw [hm, h.len_eq]; simp
    by_cases hz : size data = 0
    · rw [if_pos hz] at hs
      cases hs
      have hlt : s.len < 9223372036854775808 := by omega
      rw [toSsize_of_lt hlt]
      refine ⟨hm ▸ hen data hz h.sys, ?_, h.len_le, ?_, ?_, iff_of_false ?_ hfi⟩
      · rw [← hl, hz, Nat.add_zero]
      · rw [Option.some.injEq, Int.ofNat_inj, and_iff_left ⟨by simp, hfi⟩]
      · rintro v hv - -
        exact ⟨(Option.some.inj hv).symm, data, hz, by simp⟩
      · intro h
        have := Option.some.inj h
        omega
    · rw [if_neg hz] at hs
      cases hs
      exact transfers_again hc (hm ▸ hmo data hle h.sys) hl hle rfl hfi

theorem Transfers.start (hP : P [] sys) : Transfers size P count [] ⟨0, sys, none⟩ where
  sys := hP
  len_eq := rfl
  len_le := Nat.zero_le _
  full := by simp
  short := nofun
  error := by simp [Failed]

end

/-- The data is at the start of the buffer. -/
def Filled (buf : Bytes) (data : List Bytes) (now : Bytes) : Prop :=
  now = data.flatten ++ buf.drop data.flatten.length

/-- **Reads and writes.**  Whatever the system answers, the bytes moved are in their place, `count`
    is returned exactly if all have been moved and `-1` exactly after an error; a smaller number is
    what was moved before the end of the file. -/
theorem transfers {count : Nat} (hcount : count < 9223372036854775808) (b : Bytes) :
    (∀ as s, exec (gpSafeRead count) ⟨0, b, none⟩ as = some s →
      Transfers List.length (Filled b) count as s) ∧
    ∀ as s, exec (gpSafeWrite b count) ⟨0, [], none⟩ as = some s →
      Transfers id (fun data file => file = b.take data.sum) count as s := by
  constructor
  · intro as s hr
    refine exec_invariant (I := Transfers List.length (Filled b) count) (.start rfl) ?_ hr
    intro as s a s' _ h hst
    have hl : s.len = (moved as).flatten.length := by rw [h.len_eq, List.length_flatten]
    refine h.step hcount (fun data hle hs => ?_) (fun data hz hs => ?_) hst
    · unfold Filled at hs ⊢
      rw [hs, hl, List.drop_append]; simp
    · rw [List.length_eq_zero_iff] at hz; simpa [Filled, hz] using hs
  · intro as s hr
    refine exec_invariant (I := Transfers id (fun data file => file = b.take data.sum) count)
      (.start rfl) ?_ hr
    intro as s a s' _ h hst
    have hl : s.len = (moved as).sum := by rw [h.len_eq, List.map_id]
    refine h.step hcount (fun n hle hs => ?_) (fun n hz hs => ?_) hst
    · rw [hs, hl, List.sum_append, List.sum_singleton, List.take_add]
    · simpa [show n = 0 from hz] using hs

theorem transfers_two_bytes :
    exec (gpSafeRead 2) ⟨0, [0, 0, 9], none⟩ [.moved [1], .failed EINTR, .moved [2]] =
        some ⟨2, [1, 2, 9], some 2⟩ ∧
      Transfers List.length (Filled [0, 0, 9]) 2 [.moved [1], .failed EINTR, .moved [2]]
        ⟨2, [1, 2, 9], some 2⟩ :=
  ⟨rfl, (transfers (by decide) _).1 _ _ rfl⟩

/-- A failure is reported of a request for nothing, and of one for all of the address space the full
    length is taken for a failure. -/
theorem full_length_not_returned :
    exec (gpSafeRead 0) ⟨0, [], none⟩ [.failed 5] = some ⟨0, [], some (-1)⟩ ∧
      (exec (gpSafeWrite [] 18446744073709551615) ⟨0, [], none⟩
        [.moved 9223372036854775807, .moved 9223372036854775807, .moved 1]).map (·.returned) = some (some (-1)) :=
  ⟨rfl, by simp [exec, gpSafeWrite, step, again, toSsize]⟩

end GssProxy.Daemon.SafeIo
