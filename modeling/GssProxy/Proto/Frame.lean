import GssProxy.Proto.Rpc

/-!
# Record marking

A message is one fragment: a length word with its top bit set, and the body.  A reader refuses a word
without the bit, and more than `MAX_RPC_SIZE` bytes (`readable_frame_iff`).
-/

namespace GssProxy.Proto

open Codec

def FRAGMENT_BIT : UInt32 := 0x80000000

inductive FrameError where
  | multiFragment
  | tooLarge (len : Nat)
  deriving DecidableEq, Repr

def encodeHeader (len : Nat) : Bytes := beBytes (UInt32.ofNat len ||| FRAGMENT_BIT)

/-- A body behind its header. -/
def frame (body : Bytes) : Bytes := encodeHeader body.length ++ body

theorem frame_length (body : Bytes) : (frame body).length = body.length + 4 := by
  rw [frame, encodeHeader, List.length_append, beBytes_length, Nat.add_comm]

def parseHeader (word : UInt32) : Except FrameError Nat :=
  if word &&& FRAGMENT_BIT = 0 then .error .multiFragment
  else
    let len := (word &&& ~~~FRAGMENT_BIT).toNat
    if len > MAX_RPC_SIZE then .error (.tooLarge len) else .ok len

/-! ## The two fields of the word -/

theorem fragmentBit_clear_iff (word : UInt32) :
    word &&& FRAGMENT_BIT = 0 ↔ word.toNat < 2147483648 := by
  have hw := word.toNat_lt
  have hh : (word.toNat &&& 2 ^ 31) / 2 ^ 31 = word.toNat / 2 ^ 31 % 2 := by
    rw [Nat.and_div_two_pow, Nat.div_self (Nat.two_pow_pos 31), Nat.and_one_is_mod]
  have hl : (word.toNat &&& 2 ^ 31) % 2 ^ 31 = 0 := by
    rw [Nat.and_mod_two_pow, Nat.mod_self, Nat.and_zero]
  rw [← UInt32.toNat_inj, UInt32.toNat_and]
  show word.toNat &&& 2 ^ 31 = 0 ↔ _
  omega

theorem length_field (word : UInt32) :
    (word &&& ~~~FRAGMENT_BIT).toNat = word.toNat % 2147483648 := by
  exact Nat.and_two_pow_sub_one_eq_mod word.toNat 31

theorem marked_toNat {len : Nat} (h : len < 2147483648) :
    (UInt32.ofNat len ||| FRAGMENT_BIT).toNat = 2147483648 + len := by
  rw [UInt32.toNat_or, UInt32.toNat_ofNat_of_lt' (Nat.lt_trans h (by decide)), Nat.or_comm]
  exact (Nat.two_pow_add_eq_or_of_lt (i := 31) h 1).symm

/-! ## Frames -/

/-- One fragment: a last header with the length of the body. -/
def Readable (written : Bytes) : Prop :=
  ∃ word body, written = beBytes word ++ body ∧ parseHeader word = .ok body.length

theorem parseHeader_marked {len : Nat} (h : len ≤ MAX_RPC_SIZE) :
    parseHeader (UInt32.ofNat len ||| FRAGMENT_BIT) = .ok len := by
  have hlt : len < 2147483648 := by unfold MAX_RPC_SIZE at h; omega
  have hw := marked_toNat hlt
  have hb : ¬ (UInt32.ofNat len ||| FRAGMENT_BIT) &&& FRAGMENT_BIT = 0 := by
    rw [fragmentBit_clear_iff]; omega
  have hl : ((UInt32.ofNat len ||| FRAGMENT_BIT) &&& ~~~FRAGMENT_BIT).toNat = len := by
    rw [length_field]; omega
  unfold parseHeader
  simp [if_neg hb, hl, if_neg (Nat.not_lt.mpr h)]

theorem parseHeader_le {word : UInt32} {len : Nat} (h : parseHeader word = .ok len) :
    len ≤ MAX_RPC_SIZE := by
  unfold parseHeader at h
  grind

theorem beBytes_of_parseHeader {word : UInt32} {len : Nat} (h : parseHeader word = .ok len) :
    beBytes word = encodeHeader len := by
  unfold parseHeader at h
  split at h
  · cases h
  rename_i hb
  rw [fragmentBit_clear_iff] at hb
  simp only [length_field] at h
  split at h
  · cases h
  cases h
  have hlt := word.toNat_lt
  have hm := marked_toNat (Nat.mod_lt word.toNat (by decide : 2147483648 > 0))
  have hw : word = UInt32.ofNat (word.toNat % 2147483648) ||| FRAGMENT_BIT := by
    rw [← UInt32.toNat_inj]; omega
  rw [encodeHeader, ← hw]

theorem readable_frame_iff (body : Bytes) : Readable (frame body) ↔ body.length ≤ MAX_RPC_SIZE := by
  constructor
  · rintro ⟨word, body', hf, hp⟩
    have hb : body = body' := (List.append_inj hf (by rfl)).2
    rw [hb]
    exact parseHeader_le hp
  · intro h; exact ⟨_, body, rfl, parseHeader_marked h⟩

end GssProxy.Proto
