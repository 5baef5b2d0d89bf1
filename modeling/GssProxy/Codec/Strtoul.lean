import GssProxy.Codec.Bytes
import Mathlib.Data.List.TakeWhile

/-!
# `strtoul` with base 0

Blanks, a sign, and digits in the base that the number tells: `0x` for sixteen, `0` for eight, ten
otherwise.  `strtoul` gives the greatest 64-bit word for a number that does not fit.

* `strtoul_suffix`: it leaves a suffix of the text.
-/

namespace GssProxy.Codec

/-- The characters of `isspace`. -/
def isBlank (b : UInt8) : Bool := b == 32 || (9 ≤ b && b ≤ 13)

/-- The value of a digit in ASCII, in a base of at most sixteen. -/
def digitValue (b : UInt8) : Option Nat :=
  if 48 ≤ b ∧ b ≤ 57 then some (b.toNat - 48)
  else if 97 ≤ b ∧ b ≤ 102 then some (b.toNat - 87)
  else if 65 ≤ b ∧ b ≤ 70 then some (b.toNat - 55)
  else none

def isDigitIn (base : Nat) (b : UInt8) : Bool := (digitValue b).any (· < base)

/-- The number that digits make. -/
def numeral (base : Nat) (digits : Bytes) : Nat :=
  digits.foldl (fun v b => v * base + (digitValue b).getD 0) 0

/-- The base, and the text from the first digit on.  The `x` counts only before a digit. -/
def numberBase : Bytes → Nat × Bytes
  | 48 :: x :: d :: rest =>
    if (x = 120 ∨ x = 88) ∧ isDigitIn 16 d then (16, d :: rest) else (8, 48 :: x :: d :: rest)
  | 48 :: rest => (8, 48 :: rest)
  | s => (10, s)

/-- A number that has been read: its sign, its size, and the text behind it. -/
structure Scanned where
  negative : Bool
  size : Nat
  rest : Bytes
  deriving DecidableEq, Repr

/-- The digits of a number, if there are any. -/
def scanDigits (negative : Bool) (s : Bytes) : Option Scanned :=
  let (base, s) := numberBase s
  let digits := s.takeWhile (isDigitIn base)
  if digits = [] then none
  else some ⟨negative, numeral base digits, s.dropWhile (isDigitIn base)⟩

def scanNumber (s : Bytes) : Option Scanned :=
  match s.dropWhile isBlank with
  | 45 :: s => scanDigits true s
  | 43 :: s => scanDigits false s
  | s => scanDigits false s

def ULONG_MAX : Nat := 18446744073709551615

/-- The word for a number that fits into one; a sign takes its negative. -/
def Scanned.word (n : Scanned) : Nat :=
  if n.negative then (18446744073709551616 - n.size) % 18446744073709551616 else n.size

/-- The result, and the text that the end pointer points to. -/
def strtoul (s : Bytes) : Nat × Bytes :=
  match scanNumber s with
  | none => (0, s)
  | some n => (if ULONG_MAX < n.size then ULONG_MAX else n.word, n.rest)

theorem scanDigits_of_all {negative : Bool} {s digits : Bytes} {base : Nat}
    (hb : numberBase s = (base, digits)) (hne : digits ≠ [])
    (ha : digits.all (isDigitIn base) = true) :
    scanDigits negative s = some ⟨negative, numeral base digits, []⟩ := by
  have ht : digits.takeWhile (isDigitIn base) = digits :=
    List.takeWhile_eq_self_iff.mpr (List.all_eq_true.mp ha)
  have hd : digits.dropWhile (isDigitIn base) = [] :=
    List.dropWhile_eq_nil_iff.mpr (List.all_eq_true.mp ha)
  simp [scanDigits, hb, ht, hd, if_neg hne]

theorem numberBase_suffix (s : Bytes) : (numberBase s).2 <:+ s := by
  unfold numberBase
  split
  · split
    · exact ⟨[48, _], rfl⟩
    · exact List.suffix_rfl
  · exact List.suffix_rfl
  · exact List.suffix_rfl

theorem scanDigits_suffix {negative : Bool} {s : Bytes} {n : Scanned}
    (h : scanDigits negative s = some n) : n.rest <:+ s := by
  unfold scanDigits at h
  simp only at h
  split at h
  · cases h
  · cases h
    exact (List.dropWhile_suffix _).trans (numberBase_suffix s)

theorem strtoul_suffix (s : Bytes) : (strtoul s).2 <:+ s := by
  have hs : ∀ n, scanNumber s = some n → n.rest <:+ s := by
    intro n hn
    have hb := List.dropWhile_suffix (l := s) isBlank
    unfold scanNumber at hn
    split at hn
    · rename_i tail ht
      rw [ht] at hb
      exact (scanDigits_suffix hn).trans ((List.suffix_cons 45 tail).trans hb)
    · rename_i tail ht
      rw [ht] at hb
      exact (scanDigits_suffix hn).trans ((List.suffix_cons 43 tail).trans hb)
    · exact (scanDigits_suffix hn).trans hb
  unfold strtoul
  split
  · exact List.suffix_rfl
  · rename_i n hn; exact hs n hn

end GssProxy.Codec
