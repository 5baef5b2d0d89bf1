import GssProxy.Codec.Padding

/-!
# Removing the explicit padding

Sealed credentials are padded before encryption.  The daemon (`gpDepad`), the ccache extraction tool
(`extractDepad`) and the Rust code (`unsealDepad`) take the padding off again; a read outside the buffer
has no result.

* `depad_agree_iff`: when the three agree.
-/

namespace GssProxy.Seal

open Codec

def ENC_MIN_PAD_LEN : Nat := 8

/-! ## The three implementations -/

def schar (b : UInt8) : Int := if b.toNat < 128 then b.toNat else (b.toNat : Int) - 256

def toCInt (u : Nat) : Int := if u < 2147483648 then u else (u : Int) - 4294967296

def matchBack (x : Bytes) (i pad : Nat) : Nat → Nat
  | 0 => 0
  | j + 1 => if (pad : Int) ≠ schar (x.getD (i - j) 0) then j else matchBack x i pad j

/-- The loop at the end of `gp_decrypt_buffer`. -/
def gpDepad (x : Bytes) : Option Nat :=
  let i := toCInt ((x.length + 4294967295) % 4294967296)
  if i < 0 then none
  else
    let pad := (x.getD i.toNat 0).toNat
    if pad ≥ ENC_MIN_PAD_LEN ∧ (pad : Int) < i then
      let j := matchBack x i.toNat pad pad
      if j = 0 then some (x.length - pad) else some x.length
    else some x.length

def matchForward (x : Bytes) (pad : Nat) : Nat → Nat → Nat
  | 0, i => i
  | n + 1, i => if (pad : Int) ≠ schar (x.getD i 0) then i else matchForward x pad n (i + 1)

/-- The same in `extract_ccache`. -/
def extractDepad (x : Bytes) : Option Nat :=
  let lastByte := (x.length + 4294967295) % 4294967296
  if x.length ≤ lastByte then none
  else
    let pad := (x.getD lastByte 0).toNat
    if pad ≥ ENC_MIN_PAD_LEN ∧ pad < lastByte then
      let i := matchForward x pad (pad + 1) (lastByte - pad)
      if i = lastByte then some (x.length - pad) else some x.length
    else some x.length

/-- The same in `unseal_inner`. -/
def unsealDepad (x : Bytes) : Nat :=
  if x.length ≥ 1 then
    let i := x.length - 1
    let pad := x.getD i 0
    if pad.toNat ≥ ENC_MIN_PAD_LEN ∧ pad.toNat < i then
      let allMatch := (List.range pad.toNat).all fun j => x.getD (i - j) 0 == pad
      if allMatch then x.length - pad.toNat else x.length
    else x.length
  else x.length

/-- The bytes end with a padding of `q` bytes, each of this value. -/
def Padded (x : Bytes) (q : Nat) : Prop :=
  ENC_MIN_PAD_LEN ≤ q ∧ q < x.length - 1 ∧ PadTail x q

variable {x : Bytes}

theorem Padded.getD_last {q : Nat} (h : Padded x q) : (x.getD (x.length - 1) 0).toNat = q :=
  h.2.2.getD_last (by have := h.1; unfold ENC_MIN_PAD_LEN at this; omega)

theorem schar_eq_iff {b : UInt8} {pad : Nat} (hp : pad < 128) :
    (pad : Int) = schar b ↔ b.toNat = pad := by
  have hb := b.toNat_lt
  unfold schar
  split <;> omega

theorem schar_lt (b : UInt8) : schar b < 128 := by
  have hb := b.toNat_lt
  unfold schar
  split <;> omega

/-! ## What each implementation does -/

theorem matchBack_eq_zero_iff {i pad : Nat} (n : Nat) :
    matchBack x i pad n = 0 ↔ ∀ j, 0 < j → j < n → (pad : Int) = schar (x.getD (i - j) 0) := by
  induction n with
  | zero => simp only [matchBack, true_iff]; omega
  | succ n ih =>
    unfold matchBack
    split
    · rename_i hne
      constructor
      · rintro rfl j hp hj; omega
      · intro h
        by_contra hn
        exact hne (h n (by omega) (by omega))
    · rename_i heq
      rw [ih]
      constructor
      · intro h j hp hj
        by_cases hjn : j = n
        · rw [hjn]; simpa using heq
        · exact h j hp (by omega)
      · intro h j hp hj; exact h j hp (by omega)

theorem lastIndex (hp : 1 ≤ x.length) (hlt : x.length < 4294967296) :
    (x.length + 4294967295) % 4294967296 = x.length - 1 := by
  omega

theorem toCInt_of_lt {u : Nat} (h : u < 2147483648) : toCInt u = u := if_pos h

theorem gpDepad_of_long (hl : 2147483648 < x.length)
    (hlt : x.length < 4294967296) : gpDepad x = none := by
  have hn : toCInt ((x.length + 4294967295) % 4294967296) < 0 := by rw [toCInt]; omega
  unfold gpDepad
  rw [if_pos hn]

theorem gpDepad_eq (hp : 1 ≤ x.length) (hi : x.length ≤ 2147483648) :
    gpDepad x =
      let pad := (x.getD (x.length - 1) 0).toNat
      if pad ≥ ENC_MIN_PAD_LEN ∧ pad < x.length - 1 then
        if matchBack x (x.length - 1) pad pad = 0 then some (x.length - pad) else some x.length
      else some x.length := by
  unfold gpDepad
  rw [lastIndex hp (by omega), toCInt_of_lt (by omega), if_neg (by omega)]
  simp

theorem matchBack_iff_padTail {q : Nat} (hp : 1 ≤ x.length)
    (hl : (x.getD (x.length - 1) 0).toNat = q) (hq : q < x.length - 1) (hs : q < 128) :
    matchBack x (x.length - 1) q q = 0 ↔ PadTail x q := by
  rw [matchBack_eq_zero_iff, padTail_iff (by omega) (by omega)]
  constructor
  · intro h j hj
    by_cases hz : j = 0
    · rw [hz]; exact hl
    · exact (schar_eq_iff hs).mp (h j (by omega) hj)
  · intro h j _ hj; exact (schar_eq_iff hs).mpr (h j hj)

theorem gpDepad_of_padded {q : Nat} (h : Padded x q) (hs : q < 128)
    (hi : x.length ≤ 2147483648) : gpDepad x = some (x.length - q) := by
  obtain ⟨hm, hlt, ht⟩ := h
  have hl := Padded.getD_last ⟨hm, hlt, ht⟩
  rw [gpDepad_eq (by omega) hi]
  simp only [hl]
  rw [if_pos ⟨hm, hlt⟩, if_pos ((matchBack_iff_padTail (by omega) hl hlt hs).mpr ht)]

theorem gpDepad_of_not_padded (hp : 1 ≤ x.length) (hi : x.length ≤ 2147483648)
    (h : ∀ q < 128, ¬ Padded x q) : gpDepad x = some x.length := by
  rw [gpDepad_eq hp hi]
  generalize hl : (x.getD (x.length - 1) 0).toNat = q
  simp only
  split
  · rename_i hc
    rw [if_neg]
    by_cases hs : q < 128
    · rw [matchBack_iff_padTail hp hl hc.2 hs]; exact fun ht => h q hs ⟨hc.1, hc.2, ht⟩
    rw [matchBack_eq_zero_iff]
    intro ha
    have ho := ha 1 (by omega) (by omega)
    have hlt := schar_lt (x.getD (x.length - 1 - 1) 0)
    omega
  · rfl

theorem unsealDepad_eq (hp : 1 ≤ x.length) :
    unsealDepad x =
      let pad := (x.getD (x.length - 1) 0).toNat
      if pad ≥ ENC_MIN_PAD_LEN ∧ pad < x.length - 1 then
        if ∀ j < pad, (x.getD (x.length - 1 - j) 0).toNat = pad then x.length - pad
        else x.length
      else x.length := by
  unfold unsealDepad
  rw [if_pos hp]
  simp only [List.all_eq_true, List.mem_range, beq_iff_eq, ← UInt8.toNat_inj]

theorem unsealDepad_of_padded {q : Nat} (h : Padded x q) : unsealDepad x = x.length - q := by
  obtain ⟨hm, hlt, ht⟩ := h
  have hl := Padded.getD_last ⟨hm, hlt, ht⟩
  rw [unsealDepad_eq (by omega)]
  simp only [hl]
  rw [if_pos ⟨hm, hlt⟩, if_pos ((padTail_iff (by omega) ht.1).mp ht)]

theorem unsealDepad_of_not_padded (hp : 1 ≤ x.length) (h : ∀ q, ¬ Padded x q) :
    unsealDepad x = x.length := by
  rw [unsealDepad_eq hp]
  generalize hl : (x.getD (x.length - 1) 0).toNat = q
  have hq : q < 256 := hl ▸ (x.getD (x.length - 1) 0).toNat_lt
  simp only
  split
  · rename_i hc
    rw [if_neg]
    intro ha
    exact h q ⟨hc.1, hc.2, (padTail_iff (by omega) hq).mpr ha⟩
  · rfl

theorem matchForward_mismatch {pad : Nat} (n i : Nat)
    (h : matchForward x pad n i < i + n) : (pad : Int) ≠ schar (x.getD (matchForward x pad n i) 0) := by
  induction n generalizing i with
  | zero => exact absurd h (Nat.lt_irrefl i)
  | succ n ih =>
    unfold matchForward at h ⊢
    split
    · rename_i hne; exact hne
    · rename_i heq
      rw [if_neg heq] at h
      exact ih (i + 1) (by omega)

theorem extractDepad_eq (hp : 1 ≤ x.length) (hlt : x.length < 4294967296) :
    extractDepad x = some x.length := by
  unfold extractDepad
  rw [lastIndex hp hlt, if_neg (by omega)]
  generalize hl : (x.getD (x.length - 1) 0).toNat = pad
  simp only
  split
  · rw [if_neg]
    intro hs
    by_cases hsm : pad < 128
    · -- stopped at the last byte, which is the pad itself
      have he : matchForward x pad (pad + 1) (x.length - 1 - pad) <
          x.length - 1 - pad + (pad + 1) := by omega
      have hne := matchForward_mismatch _ _ he
      rw [hs] at hne
      exact hne ((schar_eq_iff hsm).mpr hl)
    · -- no signed byte equals the pad, so the first byte already stops the loop
      have hlt := schar_lt (x.getD (x.length - 1 - pad) 0)
      unfold matchForward at hs
      rw [if_pos (by omega)] at hs; omega
  · rfl

theorem gpDepad_sound {l : Nat} (hpo : 1 ≤ x.length) (hf : x.length < 4294967296)
    (h : gpDepad x = some l) : l = x.length ∨ ∃ q, Padded x q ∧ l = x.length - q := by
  by_cases hi : x.length ≤ 2147483648
  · by_cases hp : ∃ q, q < 128 ∧ Padded x q
    · obtain ⟨q, hs, hq⟩ := hp
      rw [gpDepad_of_padded hq hs hi] at h
      exact .inr ⟨q, hq, (Option.some.inj h).symm⟩
    · rw [gpDepad_of_not_padded hpo hi fun q hs hq => hp ⟨q, hs, hq⟩] at h
      exact .inl (Option.some.inj h).symm
  · rw [gpDepad_of_long (by omega) hf] at h; cases h

theorem unsealDepad_sound (hpo : 1 ≤ x.length) :
    unsealDepad x = x.length ∨ ∃ q, Padded x q ∧ unsealDepad x = x.length - q := by
  by_cases hp : ∃ q, Padded x q
  · obtain ⟨q, hq⟩ := hp; exact .inr ⟨q, hq, unsealDepad_of_padded hq⟩
  · exact .inl (unsealDepad_of_not_padded hpo fun q hq => hp ⟨q, hq⟩)

/-- What krb5 has decrypted. -/
structure Decrypted where
  bytes : Bytes
  pos : 1 ≤ bytes.length
  fits : bytes.length < 4294967296

/-- **Where the three implementations agree**: on data that ends in no padding at all, with an
    index that an `int` holds. -/
theorem depad_agree_iff (x : Decrypted) :
    (gpDepad x.bytes = some (unsealDepad x.bytes) ∧
      extractDepad x.bytes = some (unsealDepad x.bytes)) ↔
      x.bytes.length ≤ 2147483648 ∧ ∀ q, ¬ Padded x.bytes q := by
  obtain ⟨x, hp, hf⟩ := x
  simp only
  rw [extractDepad_eq hp hf]
  constructor
  · rintro ⟨hgp, he⟩
    refine ⟨?_, fun q hq => ?_⟩
    · by_contra hl
      rw [gpDepad_of_long (by omega) hf] at hgp; cases hgp
    · rw [unsealDepad_of_padded hq, Option.some_inj] at he
      have hm := hq.1
      unfold ENC_MIN_PAD_LEN at hm; omega
  · rintro ⟨hi, hn⟩
    rw [gpDepad_of_not_padded hp hi fun q _ => hn q, unsealDepad_of_not_padded hp hn]
    exact ⟨rfl, rfl⟩

/-- Two bytes under eight of padding: the daemon and the Rust code take it off, the tool does not.
    -/
theorem depad_differ :
    let x : Bytes := [1, 2, 8, 8, 8, 8, 8, 8, 8, 8]
    gpDepad x = some 2 ∧ unsealDepad x = 2 ∧ extractDepad x = some 10 := by
  decide +kernel

end GssProxy.Seal
