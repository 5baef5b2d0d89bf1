import GssProxy.Codec.Bytes

/-!
# The bytes of a text

An ASCII character is one byte, itself (`encode_ascii`); the bytes of any other are outside ASCII.
-/

namespace GssProxy.Codec

open String (utf8EncodeChar)

theorem bytes_eq_flatMap (s : String) : s.toUTF8.data.toList = s.toList.flatMap utf8EncodeChar := by
  rw [String.toUTF8_eq_toByteArray, ← String.utf8Encode_toList]
  exact List.toList_data_toByteArray

theorem encode_ascii {c : Char} (hc : c.toNat ≤ 127) : utf8EncodeChar c = [UInt8.ofNat c.toNat] := by
  exact if_pos hc

theorem encode_not_ascii {c : Char} (hc : ¬ c.toNat ≤ 127) {b : UInt8} (hb : b ∈ utf8EncodeChar c) :
    128 ≤ b.toNat := by
  have hby (n base : Nat) (hba : 128 ≤ base) (hn : n + base < 256) :
      128 ≤ (UInt8.ofNat (n + base)).toNat := by
    rw [UInt8.toNat_ofNat']; omega
  unfold utf8EncodeChar at hb
  rw [if_neg (show ¬ c.val.toNat ≤ 127 from hc)] at hb
  split at hb
  · simp only [List.mem_cons, List.not_mem_nil, or_false] at hb
    rcases hb with rfl | rfl <;> exact hby _ _ (by omega) (by omega)
  split at hb
  · simp only [List.mem_cons, List.not_mem_nil, or_false] at hb
    rcases hb with rfl | rfl | rfl <;> exact hby _ _ (by omega) (by omega)
  · simp only [List.mem_cons, List.not_mem_nil, or_false] at hb
    rcases hb with rfl | rfl | rfl | rfl <;> exact hby _ _ (by omega) (by omega)

theorem eq_of_mem_encode {c d : Char} (hd : d.toNat ≤ 127)
    (h : UInt8.ofNat d.toNat ∈ utf8EncodeChar c) : c = d := by
  have hb : (UInt8.ofNat d.toNat).toNat = d.toNat := by rw [UInt8.toNat_ofNat']; omega
  by_cases hc : c.toNat ≤ 127
  · rw [encode_ascii hc, List.mem_singleton] at h
    have hn := congrArg UInt8.toNat h
    rw [hb, UInt8.toNat_ofNat', Nat.mod_eq_of_lt (by omega)] at hn
    exact Char.toNat_inj.mp hn.symm
  · have hh := encode_not_ascii hc h
    omega

end GssProxy.Codec
