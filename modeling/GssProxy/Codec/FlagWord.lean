import Mathlib.Data.List.Induction

/-!
# Words of flags

Actions set or clear the bits of a mask.  The last action that concerns a bit decides it
(`bit_applyAll`), so two lists make the same word if and only if they agree on the last word about every
bit (`applyAll_eq_iff`).
-/

namespace GssProxy.Codec

/-- Bits to set or to clear. -/
structure FlagAction where
  set : Bool
  mask : UInt32
  deriving DecidableEq, Repr

def bit (w : UInt32) (b : Nat) : Bool := w.toBitVec.getLsbD b

namespace FlagAction

def apply (w : UInt32) (a : FlagAction) : UInt32 :=
  if a.set then w ||| a.mask else w &&& ~~~a.mask

def applyAll (w : UInt32) (as : List FlagAction) : UInt32 := as.foldl apply w

/-- What the last action that concerns a bit makes of it; without one it stays as it is in the word. -/
def settled (w : UInt32) (as : List FlagAction) (b : Nat) : Bool :=
  match as.reverse.find? (bit ·.mask b) with
  | some a => a.set
  | none => bit w b

theorem bit_apply {b : Nat} (hb : b < 32) (w : UInt32) (a : FlagAction) :
    bit (apply w a) b = if bit a.mask b then a.set else bit w b := by
  unfold apply bit
  cases a.set with
  | true =>
    simp only [if_true, UInt32.toBitVec_or, BitVec.getLsbD_or]
    cases a.mask.toBitVec.getLsbD b <;> simp
  | false =>
    simp only [Bool.false_eq_true, if_false, UInt32.toBitVec_and, UInt32.toBitVec_not,
      BitVec.getLsbD_and, BitVec.getLsbD_not, hb, decide_true, Bool.true_and]
    cases a.mask.toBitVec.getLsbD b <;> simp

theorem bit_applyAll {b : Nat} (hb : b < 32) (w : UInt32) (as : List FlagAction) :
    bit (applyAll w as) b = settled w as b := by
  -- the last action is the last to be applied and the first to be found
  induction as using List.reverseRecOn with
  | nil => rfl
  | append_singleton as a ih =>
    have ha : applyAll w (as ++ [a]) = apply (applyAll w as) a := by simp [applyAll]
    rw [ha, bit_apply hb, ih]
    unfold settled
    rw [List.reverse_append, List.reverse_singleton, List.singleton_append, List.find?_cons]
    cases bit a.mask b <;> simp

theorem eq_of_bits {w w' : UInt32} (h : ∀ b < 32, bit w b = bit w' b) : w = w' :=
  UInt32.toBitVec_inj.mp (BitVec.eq_of_getLsbD_eq h)

theorem applyAll_eq_iff {w : UInt32} {as as' : List FlagAction} :
    applyAll w as = applyAll w as' ↔ ∀ b < 32, settled w as b = settled w as' b := by
  constructor
  · intro h b hb
    rw [← bit_applyAll hb, ← bit_applyAll hb, h]
  · intro h
    apply eq_of_bits
    intro b hb
    rw [bit_applyAll hb, bit_applyAll hb, h b hb]

end FlagAction

end GssProxy.Codec
