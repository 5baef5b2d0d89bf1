import Mathlib.Tactic.Common

/-!
# Byte strings and big-endian words

Bytes are `List UInt8`; a word is written most significant byte first (`ofBeBytes_beBytes`).
-/

namespace GssProxy.Codec

abbrev Bytes := List UInt8

/-- Decides whether a byte string is in a list of them. -/
instance : LawfulBEq Bytes := inferInstance

/-! ## 32-bit words -/

/-- The four bytes of a word, most significant first. -/
def beBytes (w : UInt32) : Bytes :=
  [UInt8.ofNat (w.toNat / 16777216), UInt8.ofNat (w.toNat / 65536), UInt8.ofNat (w.toNat / 256),
    UInt8.ofNat w.toNat]

/-- The word four bytes spell, most significant first. -/
def ofBeBytes (b₀ b₁ b₂ b₃ : UInt8) : UInt32 :=
  UInt32.ofNat (b₀.toNat * 16777216 + b₁.toNat * 65536 + b₂.toNat * 256 + b₃.toNat)

@[simp] theorem beBytes_length (w : UInt32) : (beBytes w).length = 4 := rfl

theorem ofBeBytes_toNat (b₀ b₁ b₂ b₃ : UInt8) :
    (ofBeBytes b₀ b₁ b₂ b₃).toNat =
      b₀.toNat * 16777216 + b₁.toNat * 65536 + b₂.toNat * 256 + b₃.toNat := by
  have h₀ := b₀.toNat_lt
  have h₁ := b₁.toNat_lt
  have h₂ := b₂.toNat_lt
  have h₃ := b₃.toNat_lt
  unfold ofBeBytes
  rw [UInt32.toNat_ofNat']
  omega

theorem ofBeBytes_beBytes (w : UInt32) :
    ofBeBytes (UInt8.ofNat (w.toNat / 16777216)) (UInt8.ofNat (w.toNat / 65536))
      (UInt8.ofNat (w.toNat / 256)) (UInt8.ofNat w.toNat) = w := by
  have hw := w.toNat_lt
  apply UInt32.toNat_inj.mp
  rw [ofBeBytes_toNat]
  simp only [UInt8.toNat_ofNat']
  omega

theorem beBytes_ofBeBytes (b₀ b₁ b₂ b₃ : UInt8) :
    beBytes (ofBeBytes b₀ b₁ b₂ b₃) = [b₀, b₁, b₂, b₃] := by
  have h₀ := b₀.toNat_lt
  have h₁ := b₁.toNat_lt
  have h₂ := b₂.toNat_lt
  have h₃ := b₃.toNat_lt
  unfold beBytes
  rw [ofBeBytes_toNat]
  simp only [List.cons.injEq, and_true, ← UInt8.toNat_inj, UInt8.toNat_ofNat']
  omega

/-! ## 64-bit values as two words -/

/-- High word and low word of a 64-bit value. -/
def splitWords (v : UInt64) : UInt32 × UInt32 := ((v >>> 32).toUInt32, v.toUInt32)

/-- The 64-bit value with the given high and low words. -/
def joinWords (h l : UInt32) : UInt64 := (h.toUInt64 <<< 32) ||| l.toUInt64

theorem splitWords_fst_toNat (v : UInt64) : (splitWords v).1.toNat = v.toNat / 4294967296 := by
  have hv := v.toNat_lt
  simp only [splitWords, UInt64.toNat_toUInt32, UInt64.toNat_shiftRight]
  rw [show (32 : UInt64).toNat % 64 = 32 from rfl]
  omega

theorem splitWords_snd_toNat (v : UInt64) : (splitWords v).2.toNat = v.toNat % 4294967296 := by
  simp [splitWords]

theorem joinWords_toNat (h l : UInt32) : (joinWords h l).toNat = h.toNat * 4294967296 + l.toNat := by
  have hh := h.toNat_lt
  have hl := l.toNat_lt
  simp only [joinWords, UInt64.toNat_or, UInt64.toNat_shiftLeft, UInt32.toNat_toUInt64]
  rw [show (32 : UInt64).toNat % 64 = 32 from rfl, Nat.mod_eq_of_lt (by omega),
    ← Nat.shiftLeft_add_eq_or_of_lt hl, Nat.shiftLeft_eq]

theorem joinWords_splitWords (v : UInt64) : joinWords (splitWords v).1 (splitWords v).2 = v := by
  apply UInt64.toNat_inj.mp
  rw [joinWords_toNat, splitWords_fst_toNat, splitWords_snd_toNat]
  omega

theorem splitWords_joinWords (h l : UInt32) : splitWords (joinWords h l) = (h, l) := by
  have hl := l.toNat_lt
  have hf : (splitWords (joinWords h l)).1 = h := by
    apply UInt32.toNat_inj.mp
    rw [splitWords_fst_toNat, joinWords_toNat]; omega
  have hs : (splitWords (joinWords h l)).2 = l := by
    apply UInt32.toNat_inj.mp
    rw [splitWords_snd_toNat, joinWords_toNat]; omega
  exact Prod.ext hf hs

end GssProxy.Codec
