import GssProxy.Codec.Bytes
import Mathlib.Data.List.GetD

/-!
# Block rounding and padded tails

`blockUp n b` is the only multiple of `b` in `[n, n + b)` (`blockUp_eq`).  `PadTail x q`: `x` ends in `q`
copies of the byte `q`.
-/

namespace GssProxy.Codec

/-! ## Rounding -/

/-- `n` rounded up to a multiple of `b`. -/
def blockUp (n b : Nat) : Nat := (n + b - 1) / b * b

variable {n m b : Nat}

theorem dvd_blockUp (n b : Nat) : b ∣ blockUp n b := Nat.dvd_mul_left b _

theorem le_blockUp (hb : 0 < b) : n ≤ blockUp n b := by
  have hd := Nat.div_add_mod (n + b - 1) b
  have hm := Nat.mod_lt (n + b - 1) hb
  rw [blockUp, Nat.mul_comm]
  omega

theorem blockUp_lt (hb : 0 < b) : blockUp n b < n + b := by
  have hd := Nat.div_add_mod (n + b - 1) b
  rw [blockUp, Nat.mul_comm]
  omega

theorem eq_of_dvd_of_near {k l : Nat} (hk : b ∣ k) (hl : b ∣ l) (h₁ : k < l + b)
    (h₂ : l < k + b) : k = l := by
  obtain ⟨s, rfl⟩ := hk
  obtain ⟨t, rfl⟩ := hl
  have hst : s < t + 1 := Nat.lt_of_mul_lt_mul_left (a := b) h₁
  have hts : t < s + 1 := Nat.lt_of_mul_lt_mul_left (a := b) h₂
  rw [show s = t by omega]

theorem blockUp_eq (hb : 0 < b) (hm : b ∣ m) (h₁ : n ≤ m) (h₂ : m < n + b) : blockUp n b = m := by
  have hle := le_blockUp (n := n) hb
  have hlt := blockUp_lt (n := n) hb
  exact eq_of_dvd_of_near (dvd_blockUp n b) hm (by omega) (by omega)

theorem blockUp_of_dvd (hb : 0 < b) (hn : b ∣ n) : blockUp n b = n :=
  blockUp_eq hb hn (Nat.le_refl n) (by omega)

theorem blockUp_of_le (hb : 0 < b) (h₁ : n ≤ m) (h₂ : m ≤ blockUp n b) :
    blockUp m b = blockUp n b :=
  blockUp_eq hb (dvd_blockUp n b) h₂ (by have := blockUp_lt (n := n) hb; omega)

theorem blockUp_succ_eq_iff (hb : 0 < b) : blockUp (n + 1) b = blockUp n b ↔ ¬ b ∣ n := by
  constructor
  · intro h hn
    have hle := le_blockUp (n := n + 1) hb
    rw [h, blockUp_of_dvd hb hn] at hle; omega
  · intro hn
    have hle := le_blockUp (n := n) hb
    have hne : n ≠ blockUp n b := fun h => hn (h ▸ dvd_blockUp n b)
    exact blockUp_of_le hb (by omega) (by omega)

/-! ## Padded tails -/

/-- `x` ends in `q` copies of the byte `q`. -/
def PadTail (x : Bytes) (q : Nat) : Prop :=
  q < 256 ∧ ∃ y, x = y ++ List.replicate q (UInt8.ofNat q)

variable {q : Nat}

theorem PadTail.length_le {x : Bytes} (h : PadTail x q) : q ≤ x.length := by
  obtain ⟨-, y, rfl⟩ := h
  simp

theorem toNat_ofNat_of_lt (h : q < 256) : (UInt8.ofNat q).toNat = q := by
  rw [UInt8.toNat_ofNat']
  omega

theorem padTail_iff {x : Bytes} (hq : q ≤ x.length) (hlt : q < 256) :
    PadTail x q ↔ ∀ j < q, (x.getD (x.length - 1 - j) 0).toNat = q := by
  constructor
  · rintro ⟨-, y, rfl⟩ j hj
    have hid : (y ++ List.replicate q (UInt8.ofNat q)).length - 1 - j = y.length + (q - 1 - j) := by
      simp only [List.length_append, List.length_replicate]; omega
    rw [List.getD_append_right _ _ _ _ (by omega), List.getD_eq_getElem _ _ (by simp; omega),
      List.getElem_replicate, toNat_ofNat_of_lt hlt]
  · intro h
    refine ⟨hlt, x.take (x.length - q), ?_⟩
    have hd : x.drop (x.length - q) = List.replicate q (UInt8.ofNat q) := by
      refine List.eq_replicate_iff.mpr ⟨by simp; omega, fun v hv => ?_⟩
      obtain ⟨i, hi, rfl⟩ := List.getElem_of_mem hv
      rw [List.length_drop] at hi
      have hj := h (q - 1 - i) (by omega)
      rw [show x.length - 1 - (q - 1 - i) = x.length - q + i by omega,
        List.getD_eq_getElem _ _ (by omega)] at hj
      rw [List.getElem_drop]
      exact UInt8.toNat_inj.mp (by rw [hj, toNat_ofNat_of_lt hlt])
    rw [← hd, List.take_append_drop]

theorem PadTail.getD_last {x : Bytes} (h : PadTail x q) (hq : 0 < q) :
    (x.getD (x.length - 1) 0).toNat = q := by
  have hb := (padTail_iff h.length_le h.1).mp h 0 hq
  rwa [Nat.sub_zero] at hb

end GssProxy.Codec
