import GssProxy.Seal.Krb5

/-!
# Sealing round trip

The probe for the block boundary looks at fifteen lengths, so it misses the one that is fifteen bytes
away: blocks of sixteen bytes and a plaintext of length nine modulo sixteen.

* `seal_roundtrip_iff`: otherwise, if lengths fit their integers, unsealing gives the plaintext back.
-/

namespace GssProxy.Seal

open Codec

/-! ## The chosen padding -/

/-- The length that is encrypted of `n` bytes, in blocks of `b`. -/
def sealedLength (b n : Nat) : Nat := if b ∣ n then n else blockUp (n + ENC_MIN_PAD_LEN) b

section

variable {k : Krb5Key} {n : Nat}

theorem encryptLength_eq_iff {m : Nat} :
    k.encryptLength m = k.encryptLength n ↔ blockUp m k.block = blockUp n k.block := by
  unfold Krb5Key.encryptLength
  omega

theorem encryptLength_lt_iff {m : Nat} (hm : n ≤ m) :
    k.encryptLength n < k.encryptLength m ↔ blockUp n k.block < m := by
  have hle := le_blockUp (n := m) k.block_pos
  unfold Krb5Key.encryptLength
  constructor
  · intro h
    by_contra hge
    rw [blockUp_of_le k.block_pos hm (by omega)] at h; omega
  · intro h; omega

theorem probe_eq {len pad : Nat} (tries i : Nat)
    (hi : i ≤ blockUp (len + pad) k.block - (len + pad)) :
    probe k len pad (k.encryptLength (len + pad)) tries i =
      if blockUp (len + pad) k.block - (len + pad) < i + tries then
        (blockUp (len + pad) k.block - (len + pad),
          pad + (blockUp (len + pad) k.block - (len + pad)))
      else (i + tries, pad) := by
  induction tries generalizing i with
  | zero => rw [if_neg (by omega)]; rfl
  | succ tries ih =>
    unfold probe
    by_cases hs : i = blockUp (len + pad) k.block - (len + pad)
    · rw [if_pos ((encryptLength_lt_iff (by omega)).mpr (by omega)), if_pos (by omega), ← hs]
    · have hgo : ¬ k.encryptLength (len + pad + i + 1) > k.encryptLength (len + pad) := by
        rw [gt_iff_lt, encryptLength_lt_iff (by omega)]; omega
      rw [if_neg hgo, ih (i + 1) (by omega), Nat.add_right_comm, Nat.add_assoc]

theorem choosePad_of_dvd (h : k.block ∣ n) : choosePad k n = (0, 0, k.encryptLength n) := by
  have hne : ¬ k.encryptLength (n + 1) = k.encryptLength n := by
    rw [encryptLength_eq_iff, blockUp_succ_eq_iff k.block_pos]; exact not_not_intro h
  unfold choosePad
  rw [if_neg hne]

theorem choosePad_of_not_dvd (h : ¬ k.block ∣ n) :
    choosePad k n =
      let gap := blockUp (n + ENC_MIN_PAD_LEN) k.block - (n + ENC_MIN_PAD_LEN)
      if gap < 15 then
        (gap, ENC_MIN_PAD_LEN + gap, k.encryptLength (n + ENC_MIN_PAD_LEN))
      else (15, ENC_MIN_PAD_LEN, k.encryptLength (n + ENC_MIN_PAD_LEN)) := by
  have heq : k.encryptLength (n + 1) = k.encryptLength n := by
    rw [encryptLength_eq_iff, blockUp_succ_eq_iff k.block_pos]; exact h
  unfold choosePad
  rw [if_pos heq]
  simp only [probe_eq 15 0 (Nat.zero_le _), Nat.zero_add]
  split <;> rfl

theorem choosePad_fst_le : (choosePad k n).1 ≤ 15 := by
  by_cases h : k.block ∣ n
  · rw [choosePad_of_dvd h]; exact Nat.zero_le 15
  rw [choosePad_of_not_dvd h]
  simp only
  split
  · rename_i hg; exact Nat.le_of_lt hg
  · exact Nat.le_refl 15

def Missed (b n : Nat) : Prop := b = 16 ∧ n % 16 = 9

theorem gap_lt_iff (hbl : k.block ≤ 16) :
    blockUp (n + ENC_MIN_PAD_LEN) k.block - (n + ENC_MIN_PAD_LEN) < 15 ↔ ¬ Missed k.block n := by
  have hp := k.block_pos
  have hle := le_blockUp (n := n + ENC_MIN_PAD_LEN) hp
  have hlt := blockUp_lt (n := n + ENC_MIN_PAD_LEN) hp
  have hd := dvd_blockUp (n + ENC_MIN_PAD_LEN) k.block
  unfold ENC_MIN_PAD_LEN at *
  constructor
  · rintro hg ⟨hb, hn⟩
    rw [hb] at hd hg hle hlt; omega
  · intro hm
    by_contra hg
    have hb : k.block = 16 := by omega
    rw [hb] at hd hg hle hlt
    exact hm ⟨hb, by omega⟩

end

/-! ## Encryption followed by decryption -/

section

variable {k : Krb5Key} {depad : Bytes → Option Nat} {p r input : Bytes} {pad size : Nat}

theorem cEncrypt_eq_some {cipher : Bytes} : k.cEncrypt input size = some cipher ↔
    k.encryptLength input.length ≤ size ∧ cipher = k.encrypt input := by
  unfold Krb5Key.cEncrypt
  split
  · constructor
    · intro h; cases h
    · rintro ⟨hle, -⟩; omega
  · rw [Option.some_inj]
    exact ⟨fun h => ⟨by omega, h.symm⟩, fun h => h.2.symm⟩

theorem decryptWith_encrypt : decryptWith k depad (k.encrypt input) = .ok r ↔
    ∃ fill l, k.decrypt (k.encrypt input) = some (input ++ fill) ∧
      (input ++ fill).length = blockUp input.length k.block ∧
      depad (input ++ fill) = some l ∧ r = (input ++ fill).take l := by
  obtain ⟨fill, hd, hle⟩ := k.decrypt_encrypt input
  unfold decryptWith
  rw [hd]
  constructor
  · intro h
    simp only at h
    split at h
    · cases h
    · rename_i l hl
      cases h
      exact ⟨fill, l, rfl, hle, hl, rfl⟩
  · rintro ⟨fill', l, hf, -, hl, rfl⟩
    obtain rfl := List.append_cancel_left (Option.some.inj hf)
    simp [hl]

def Recovers (k : Krb5Key) (depad : Bytes → Option Nat) (p : Bytes) (pad cipherlen : Nat) : Prop :=
  ∃ cipher, k.cEncrypt (truncate32 (addPad p pad)) (cipherlen % 4294967296) = some cipher ∧
    decryptWith k depad cipher = .ok p

def Sound (depad : Bytes → Option Nat) : Prop :=
  ∀ x l, 1 ≤ x.length → x.length < 4294967296 → depad x = some l →
    l = x.length ∨ ∃ q, Padded x q ∧ l = x.length - q

theorem addPad_length : (addPad p pad).length = p.length + pad := by simp [addPad]

theorem truncate32_of_lt (h : input.length < 4294967296) : truncate32 input = input := by
  unfold truncate32
  rw [Nat.mod_eq_of_lt h, List.take_length]

theorem truncate32_length : (truncate32 input).length = input.length % 4294967296 := by
  unfold truncate32
  rw [List.length_take_of_le (Nat.mod_le _ _)]

theorem not_recovers_of_cut {cipherlen : Nat} (hb : k.block ≤ 16) (hpa : pad < 24)
    (hc : 4294967296 ≤ p.length + pad) : ¬ Recovers k depad p pad cipherlen := by
  rintro ⟨cipher, he, hd⟩
  obtain ⟨-, rfl⟩ := cEncrypt_eq_some.mp he
  obtain ⟨fill, l, -, hl, -, hp⟩ := decryptWith_encrypt.mp hd
  have hr := blockUp_lt (n := (truncate32 (addPad p pad)).length) k.block_pos
  have hlt := congrArg List.length hp
  rw [List.length_take, hl] at hlt
  rw [truncate32_length, addPad_length] at hr hlt
  omega

theorem recovers_iff_of_dvd (hb : k.block ≤ 16) (hpa : pad < 24)
    (hs : Sound depad) (hpo : 1 ≤ p.length) (hdv : k.block ∣ p.length + pad) :
    Recovers k depad p pad (k.encryptLength (p.length + pad)) ↔
      k.overhead + (p.length + pad) < 4294967296 ∧ depad (addPad p pad) = some p.length := by
  have hc : k.encryptLength (p.length + pad) = k.overhead + (p.length + pad) := by
    rw [Krb5Key.encryptLength, blockUp_of_dvd k.block_pos hdv]
  have hf : ∀ fill : Bytes, (addPad p pad ++ fill).length =
      blockUp (addPad p pad).length k.block → fill = [] := by
    intro fill hln
    rw [addPad_length, blockUp_of_dvd k.block_pos hdv, List.length_append, addPad_length] at hln
    exact List.eq_nil_of_length_eq_zero (by omega)
  constructor
  · intro h
    have hcu : p.length + pad < 4294967296 := by
      by_contra hge
      exact not_recovers_of_cut hb hpa (by omega) h
    obtain ⟨cipher, he, hd⟩ := h
    rw [truncate32_of_lt (by rwa [addPad_length])] at he
    obtain ⟨hsi, rfl⟩ := cEncrypt_eq_some.mp he
    rw [addPad_length] at hsi
    obtain ⟨fill, l, -, hln, hl, hp⟩ := decryptWith_encrypt.mp hd
    obtain rfl := hf fill hln
    rw [List.append_nil] at hl hp
    have hle : l ≤ (addPad p pad).length := by
      rcases hs _ l (by rw [addPad_length]; omega) (by rwa [addPad_length]) hl with h | ⟨q, -, h⟩
      · omega
      · omega
    have hln' : p.length = l := by
      conv_lhs => rw [hp]
      exact List.length_take_of_le hle
    exact ⟨by omega, hln' ▸ hl⟩
  · rintro ⟨hfi, hl⟩
    refine ⟨k.encrypt (addPad p pad), cEncrypt_eq_some.mpr ⟨?_, ?_⟩, decryptWith_encrypt.mpr ?_⟩
    · refine Nat.le_of_eq ?_
      rw [truncate32_of_lt (by rw [addPad_length]; omega), addPad_length, hc, Nat.mod_eq_of_lt hfi]
    · rw [truncate32_of_lt (by rw [addPad_length]; omega)]
    · obtain ⟨fill, hd, hln⟩ := k.decrypt_encrypt (addPad p pad)
      obtain rfl := hf fill hln
      refine ⟨[], p.length, hd, hln, by rwa [List.append_nil], ?_⟩
      rw [List.append_nil, addPad, List.take_left' rfl]

theorem not_recovers_of_missed {cipherlen : Nat} (hs : Sound depad)
    (hm : Missed k.block p.length) : ¬ Recovers k depad p ENC_MIN_PAD_LEN cipherlen := by
  obtain ⟨hb, hn⟩ := hm
  intro h
  have hc : p.length + ENC_MIN_PAD_LEN < 4294967296 := by
    by_contra hge
    exact not_recovers_of_cut (by omega) (by decide) (by omega) h
  obtain ⟨cipher, he, hd⟩ := h
  rw [truncate32_of_lt (by rwa [addPad_length])] at he
  obtain ⟨hsi, rfl⟩ := cEncrypt_eq_some.mp he
  obtain ⟨fill, l, -, hle, hl, hp⟩ := decryptWith_encrypt.mp hd
  have hr : blockUp (p.length + 8) 16 = p.length + 23 :=
    blockUp_eq (by decide) (by omega) (by omega) (by omega)
  rw [addPad_length, hb, ENC_MIN_PAD_LEN] at hle
  rw [addPad_length, Krb5Key.encryptLength, hb, ENC_MIN_PAD_LEN] at hsi
  have ht := congrArg List.length hp
  rw [List.length_take, ENC_MIN_PAD_LEN] at ht
  rcases hs _ l (by rw [ENC_MIN_PAD_LEN]; omega) (by rw [ENC_MIN_PAD_LEN]; omega) hl with
    heq | ⟨q, hq, heq⟩
  · rw [ENC_MIN_PAD_LEN] at heq; omega
  -- Only a pad of 23 would do, and the first of those bytes is 8.
  rw [ENC_MIN_PAD_LEN] at heq
  rw [ENC_MIN_PAD_LEN] at hq
  obtain rfl : q = 23 := by omega
  have hf := (padTail_iff (by omega) (by decide)).mp hq.2.2 22 (by decide)
  have hi : (addPad p 8 ++ fill).length - 1 - 22 = p.length := by omega
  rw [hi, addPad, List.append_assoc, List.getD_append_right _ _ _ _ (Nat.le_refl _),
    Nat.sub_self, List.getD_append _ _ _ _ (by decide)] at hf
  exact absurd hf (by decide)

theorem recovers_choosePad_iff (hbl : k.block ≤ 16) (hs : Sound depad) (hp : 1 ≤ p.length) :
    Recovers k depad p (choosePad k p.length).2.1 (choosePad k p.length).2.2 ↔
      ¬ Missed k.block p.length ∧ k.overhead + sealedLength k.block p.length < 4294967296 ∧
        depad (addPad p (sealedLength k.block p.length - p.length)) = some p.length := by
  have hbp := k.block_pos
  by_cases hd : k.block ∣ p.length
  · have hm : ¬ Missed k.block p.length := by
      rintro ⟨hb, hn⟩
      rw [hb] at hd; omega
    have hi := recovers_iff_of_dvd hbl (by decide : 0 < 24) hs hp hd
    rw [choosePad_of_dvd hd, sealedLength, if_pos hd, Nat.sub_self]
    simp only [hm, not_false_eq_true, true_and]
    exact hi
  · have hle := le_blockUp (n := p.length + ENC_MIN_PAD_LEN) hbp
    have hg := gap_lt_iff (n := p.length) hbl
    rw [choosePad_of_not_dvd hd, sealedLength]
    simp only
    split
    · rename_i hr
      generalize hB : blockUp (p.length + ENC_MIN_PAD_LEN) k.block = B at *
      have hpa : ENC_MIN_PAD_LEN + (B - (p.length + ENC_MIN_PAD_LEN)) = B - p.length := by omega
      have hsu : p.length + (B - p.length) = B := by omega
      have hBdvd : k.block ∣ B := hB ▸ dvd_blockUp _ _
      have hl : k.encryptLength (p.length + ENC_MIN_PAD_LEN) = k.encryptLength B := by
        rw [encryptLength_eq_iff, hB, blockUp_of_dvd hbp hBdvd]
      have hi := recovers_iff_of_dvd hbl
        (by unfold ENC_MIN_PAD_LEN at *; omega : B - p.length < 24) hs hp (by rwa [hsu])
      rw [hsu] at hi
      rw [hpa, hl, hi]
      simp [hg.mp hr]
    · rename_i hf
      have hm : Missed k.block p.length := by
        by_contra h
        exact hf (hg.mpr h)
      exact ⟨fun h => absurd h (not_recovers_of_missed hs hm), fun h => absurd hm h.1⟩

end

section

variable {p : Bytes} {k : Krb5Key}

theorem sealedLength_cases (hb : k.block ≤ 16) (n : Nat) :
    sealedLength k.block n = n ∨
      n + ENC_MIN_PAD_LEN ≤ sealedLength k.block n ∧ sealedLength k.block n < n + 24 := by
  have hle := le_blockUp (n := n + ENC_MIN_PAD_LEN) k.block_pos
  have hlt := blockUp_lt (n := n + ENC_MIN_PAD_LEN) k.block_pos
  unfold sealedLength ENC_MIN_PAD_LEN at *
  split
  · exact .inl rfl
  · exact .inr ⟨hle, by omega⟩

theorem padded_addPad {pad : Nat} (hl : 2 ≤ p.length) (hm : ENC_MIN_PAD_LEN ≤ pad)
    (hp : pad < 256) : Padded (addPad p pad) pad := by
  refine ⟨hm, ?_, hp, _, rfl⟩
  rw [addPad_length]
  omega

theorem unsealDepad_addPad (hb : k.block ≤ 16) (hl : 2 ≤ p.length)
    (ht : ∀ q, ENC_MIN_PAD_LEN ≤ q → ¬ PadTail p q) :
    unsealDepad (addPad p (sealedLength k.block p.length - p.length)) = p.length := by
  rcases sealedLength_cases hb p.length with hn | ⟨hm, hlt⟩
  · rw [hn, Nat.sub_self, addPad, List.replicate_zero, List.append_nil]
    exact unsealDepad_of_not_padded (by omega) fun q hq => ht q hq.1 hq.2.2
  · rw [unsealDepad_of_padded (padded_addPad hl (by omega) (by omega)), addPad_length,
      Nat.add_sub_cancel]

theorem gpDepad_addPad_iff (hb : k.block ≤ 16) (hl : 2 ≤ p.length)
    (ht : ∀ q, ENC_MIN_PAD_LEN ≤ q → ¬ PadTail p q)
    (hf : sealedLength k.block p.length < 4294967296) :
    gpDepad (addPad p (sealedLength k.block p.length - p.length)) = some p.length ↔
      sealedLength k.block p.length ≤ 2147483648 := by
  have hs : (addPad p (sealedLength k.block p.length - p.length)).length =
      sealedLength k.block p.length := by
    rw [addPad_length]
    rcases sealedLength_cases hb p.length with hn | ⟨hm, -⟩ <;> omega
  constructor
  · intro h
    by_contra hlo
    rw [gpDepad_of_long (by omega) (by omega)] at h; cases h
  · intro hi
    rcases sealedLength_cases hb p.length with hn | ⟨hm, hlt⟩
    · rw [hn, Nat.sub_self, addPad, List.replicate_zero, List.append_nil]
      exact gpDepad_of_not_padded (by omega) (by omega) fun q _ hq => ht q hq.1 hq.2.2
    · rw [gpDepad_of_padded (padded_addPad hl (by omega) (by omega)) (by omega) (by omega),
        addPad_length, Nat.add_sub_cancel]

end

/-! ## The round trip -/

section

variable {k : Krb5Key} {p : Bytes}

theorem gpEncryptBuffer_bind_iff :
    (gpEncryptBuffer k p >>= gpDecryptBuffer k) = .ok p ↔ p.length ≤ 4294967295 ∧
      Recovers k gpDepad p (choosePad k p.length).2.1 (choosePad k p.length).2.2 := by
  have hi := choosePad_fst_le (k := k) (n := p.length)
  unfold gpEncryptBuffer Recovers
  by_cases hl : p.length > 4294967295
  · rw [if_pos hl]
    constructor
    · intro h; cases h
    · rintro ⟨hle, -⟩; omega
  · simp only [if_neg hl, if_neg (by omega : ¬ (choosePad k p.length).1 > 15)]
    rcases hc : k.cEncrypt _ _ with _ | cipher
    · simp [bind, Except.bind]
    · simp [bind, Except.bind, gpDecryptBuffer]
      omega

theorem sealInner_bind_iff :
    (sealInner k p >>= unsealInner k) = .ok p ↔
      Recovers k (fun out => some (unsealDepad out)) p (choosePad k p.length).2.1
        (choosePad k p.length).2.2 := by
  unfold sealInner Recovers
  rcases hc : k.cEncrypt _ _ with _ | cipher
  · simp [bind, Except.bind, hc]
  · simp [bind, Except.bind, unsealInner, hc]

end

/-- The probe finds its padding, and the ciphertext fits. -/
def Sealable (k : Krb5Key) (n : Nat) : Prop :=
  ¬ Missed k.block n ∧ k.overhead + sealedLength k.block n < 4294967296

/-- **The sealing round trip**, for blocks of at most sixteen bytes and plaintexts that do not
    themselves look padded.  The daemon also needs the padded length to fit an `int`. -/
theorem seal_roundtrip_iff (k : Krb5Key) (hblock : k.block ≤ 16) (p : Bytes)
    (hlen : 2 ≤ p.length) (htail : ∀ q, ENC_MIN_PAD_LEN ≤ q → ¬ PadTail p q) :
    ((gpEncryptBuffer k p >>= gpDecryptBuffer k) = .ok p ↔
      Sealable k p.length ∧ sealedLength k.block p.length ≤ 2147483648) ∧
    ((sealInner k p >>= unsealInner k) = .ok p ↔ Sealable k p.length) := by
  have hgp : Sound gpDepad := fun x l hp hf h => gpDepad_sound hp hf h
  have hr : Sound fun out => some (unsealDepad out) := by
    intro x l hp _ h
    cases h
    exact unsealDepad_sound hp
  have hg : p.length ≤ sealedLength k.block p.length := by
    rcases sealedLength_cases hblock p.length with h | h <;> omega
  rw [gpEncryptBuffer_bind_iff, sealInner_bind_iff,
    recovers_choosePad_iff hblock hgp (by omega), recovers_choosePad_iff hblock hr (by omega),
    unsealDepad_addPad hblock hlen htail]
  unfold Sealable
  constructor
  · constructor
    · rintro ⟨-, hm, hf, hd⟩
      exact ⟨⟨hm, hf⟩, (gpDepad_addPad_iff hblock hlen htail (by omega)).mp hd⟩
    · rintro ⟨⟨hm, hf⟩, hi⟩
      exact ⟨by omega, hm, hf,
        (gpDepad_addPad_iff hblock hlen htail (by omega)).mpr hi⟩
  · simp

def plainKey (b : Nat) (hb : 0 < b) : Krb5Key where
  block := b
  overhead := 28
  encrypt p := List.replicate 28 0 ++ (p ++ List.replicate (blockUp p.length b - p.length) 0)
  decrypt c := some (c.drop 28)
  block_pos := hb
  encrypt_length p := by
    have := le_blockUp (n := p.length) hb
    simp only [List.length_append, List.length_replicate]; omega
  decrypt_encrypt p := by
    have := le_blockUp (n := p.length) hb
    refine ⟨List.replicate (blockUp p.length b - p.length) 0, ?_, ?_⟩
    · rw [List.drop_left' (List.length_replicate ..)]
    · simp only [List.length_append, List.length_replicate]; omega

theorem seal_roundtrip_plainKey :
    (gpEncryptBuffer (plainKey 8 (by decide)) [1, 2, 3] >>=
        gpDecryptBuffer (plainKey 8 (by decide))) = .ok [1, 2, 3] ∧
      (sealInner (plainKey 8 (by decide)) [1, 2, 3] >>=
        unsealInner (plainKey 8 (by decide))) = .ok [1, 2, 3] := by
  have ht : ∀ q, ENC_MIN_PAD_LEN ≤ q → ¬ PadTail [1, 2, 3] q := by
    intro q hq h
    have hle := h.length_le
    exact absurd (Nat.le_trans hq hle) (by decide)
  have hi := seal_roundtrip_iff (plainKey 8 (by decide)) (by decide) [1, 2, 3] (by decide) ht
  have hs : Sealable (plainKey 8 (by decide)) 3 := by unfold Sealable Missed; decide
  exact ⟨hi.1.mpr ⟨hs, by decide⟩, hi.2.mpr hs⟩

/-- Nine bytes under a cipher with blocks of sixteen come back with the padding and the
    cipher's own fill. -/
theorem seal_not_roundtrip_nine :
    let k := plainKey 16 (by decide)
    let p : Bytes := [1, 2, 3, 4, 5, 6, 7, 8, 0]
    (gpEncryptBuffer k p >>= gpDecryptBuffer k) =
        .ok (p ++ List.replicate 8 8 ++ List.replicate 15 0) ∧
      (sealInner k p >>= unsealInner k) = .ok (p ++ List.replicate 8 8 ++ List.replicate 15 0) := by
  decide +kernel

end GssProxy.Seal
