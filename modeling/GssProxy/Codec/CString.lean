import GssProxy.Codec.Bytes
import Mathlib.Data.List.TakeWhile

/-!
# Strings in C memory

A block of memory is the list of its bytes, and a pointer into it is a position.  A string ends before
its first zero byte.  An access outside the block is `none`.

* `strchr_found`, `memmove_string`: the C functions on a string.
-/

namespace GssProxy.Codec

/-- The bytes of a string, without the terminating zero. -/
structure CString where
  bytes : Bytes
  nonzero : 0 ∉ bytes

/-- The bytes before the first zero. -/
def untilZero : Bytes → Option Bytes
  | [] => none
  | b :: rest => if b = 0 then some [] else (untilZero rest).map (b :: ·)

/-- The string at a position. -/
def cstrAt (mem : Bytes) (p : Nat) : Option Bytes := untilZero (mem.drop p)

/-- How far a character is from the start, if it comes before the first zero. -/
def distance (c : UInt8) : Bytes → Option (Option Nat)
  | [] => none
  | b :: rest =>
    if b = c then some (some 0)
    else if b = 0 then some none
    else (distance c rest).map (Option.map (· + 1))

/-- `strchr`. -/
def strchr (mem : Bytes) (p : Nat) (c : UInt8) : Option (Option Nat) :=
  (distance c (mem.drop p)).map (Option.map (p + ·))

/-- `memmove` within a block. -/
def memmove (mem : Bytes) (dst src n : Nat) : Option Bytes :=
  if src + n ≤ mem.length ∧ dst + n ≤ mem.length then
    some (mem.take dst ++ (mem.drop src).take n ++ mem.drop (dst + n))
  else none

/-- The first bytes of a string, at most as many as the precision of a `%.*s` says. -/
def precision (mem : Bytes) (n : Nat) : Bytes := (mem.take n).takeWhile (· ≠ 0)

variable {front text tail : Bytes} {c : UInt8} {p : Nat}

theorem untilZero_append (h : 0 ∉ text) : untilZero (text ++ 0 :: tail) = some text := by
  induction text with
  | nil => rfl
  | cons b text ih =>
    have hb : b ≠ 0 := fun hb => h (hb ▸ List.mem_cons_self)
    have ht : 0 ∉ text := fun hm => h (List.mem_cons_of_mem _ hm)
    rw [List.cons_append, untilZero, if_neg hb, ih ht]; rfl

theorem cstrAt_append (h : 0 ∉ text) :
    cstrAt (front ++ text ++ 0 :: tail) front.length = some text := by
  rw [cstrAt, List.append_assoc, List.drop_left]
  exact untilZero_append h

theorem strchr_found : strchr (front ++ c :: tail) front.length c = some (some front.length) := by
  rw [strchr, List.drop_left, distance, if_pos rfl]
  rfl

theorem le_of_strchr {mem : Bytes} {i : Nat} (h : strchr mem p c = some (some i)) : p ≤ i := by
  obtain ⟨found, -, hf⟩ := Option.map_eq_some_iff.mp h
  obtain ⟨d, -, rfl⟩ := Option.map_eq_some_iff.mp hf
  exact Nat.le_add_right p d

theorem strchr_end (hc : c ≠ 0) : strchr (front ++ 0 :: tail) front.length c = some none := by
  rw [strchr, List.drop_left, distance, if_neg hc.symm]
  rfl

theorem strchr_skip {b : UInt8} (hc : b ≠ c) (hb : b ≠ 0) :
    strchr (front ++ b :: tail) front.length c =
      strchr (front ++ b :: tail) (front.length + 1) c := by
  have hd : (front ++ b :: tail).drop (front.length + 1) = tail := by
    rw [← List.drop_drop, List.drop_left]; rfl
  rw [strchr, strchr, hd, List.drop_left, distance, if_neg hc, if_neg hb]
  cases distance c tail with
  | none => rfl
  | some d =>
    cases d with
    | none => rfl
    | some n => simp only [Option.map_some, Option.some.injEq]; omega

theorem length_memmove {mem mem' : Bytes} {dst src n : Nat} (h : memmove mem dst src n = some mem') :
    mem'.length = mem.length := by
  unfold memmove at h
  split at h
  · cases h
    simp only [List.length_append, List.length_take, List.length_drop]; omega
  · cases h

theorem memmove_string {b : UInt8} :
    memmove (front ++ b :: (text ++ 0 :: tail)) front.length (front.length + 1) (text.length + 1) =
      some (front ++ text ++ 0 :: 0 :: tail) := by
  have hs : (front ++ b :: (text ++ 0 :: tail)).drop (front.length + 1) = text ++ 0 :: tail := by
    rw [← List.drop_drop, List.drop_left]; rfl
  have hm : (text ++ 0 :: tail).take (text.length + 1) = text ++ [0] := by
    rw [List.take_append, List.take_of_length_le (Nat.le_succ _)]; simp
  have hk : (front ++ b :: (text ++ 0 :: tail)).drop (front.length + (text.length + 1)) =
      0 :: tail := by
    simp
  have hr : front.length + 1 + (text.length + 1) ≤
      (front ++ b :: (text ++ 0 :: tail)).length := by
    simp only [List.length_append, List.length_cons]; omega
  rw [memmove, if_pos ⟨hr, by omega⟩, hs, hm]
  simp

theorem precision_append (h : 0 ∉ front) : precision (front ++ tail) front.length = front := by
  rw [precision, List.take_left, List.takeWhile_eq_self_iff]
  intro b hb
  have hb0 : b ≠ 0 := fun h0 => h (h0 ▸ hb)
  simpa using hb0

end GssProxy.Codec
