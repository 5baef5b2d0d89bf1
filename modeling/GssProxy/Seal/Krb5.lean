import GssProxy.Seal.Depad

/-!
# Sealing with a krb5 key

`Krb5Key` keeps the three krb5 functions that the sealing code calls together with what it relies on:
ciphertexts grow in blocks, and decryption gives the plaintext back, followed by whatever fills its last
block.
-/

namespace GssProxy.Seal

open Codec

/-! ## The krb5 library -/

structure Krb5Key where
  block : Nat
  overhead : Nat
  encrypt : Bytes → Bytes
  decrypt : Bytes → Option Bytes
  block_pos : 0 < block
  encrypt_length : ∀ p, (encrypt p).length = overhead + blockUp p.length block
  decrypt_encrypt : ∀ p, ∃ fill, decrypt (encrypt p) = some (p ++ fill) ∧
    (p ++ fill).length = blockUp p.length block

def Krb5Key.encryptLength (k : Krb5Key) (n : Nat) : Nat := k.overhead + blockUp n k.block

def Krb5Key.cEncrypt (k : Krb5Key) (input : Bytes) (size : Nat) : Option Bytes :=
  if size < k.encryptLength input.length then none else some (k.encrypt input)

/-- The probe of both routines: `i` runs until the ciphertext of `len + pad + i + 1` bytes exceeds
    `cipherlen`, at most `n` times.  Gives the final `i` and the pad. -/
def probe (k : Krb5Key) (len pad cipherlen : Nat) : Nat → Nat → Nat × Nat
  | 0, i => (i, pad)
  | n + 1, i =>
    if k.encryptLength (len + pad + i + 1) > cipherlen then (i, pad + i)
    else probe k len pad cipherlen n (i + 1)

/-- The padding of `len` bytes: the final `i`, the pad and the length of the ciphertext. -/
def choosePad (k : Krb5Key) (len : Nat) : Nat × Nat × Nat :=
  if k.encryptLength (len + 1) = k.encryptLength len then
    let cipherlen := k.encryptLength (len + ENC_MIN_PAD_LEN)
    let (i, pad) := probe k len ENC_MIN_PAD_LEN cipherlen 15 0
    (i, pad, cipherlen)
  else
    (0, 0, k.encryptLength len)

def addPad (buf : Bytes) (pad : Nat) : Bytes := buf ++ List.replicate pad (UInt8.ofNat pad)

def truncate32 (input : Bytes) : Bytes := input.take (input.length % 4294967296)

inductive SealError where
  | enomem
  | einval
  | krb5
  | fault
  deriving DecidableEq, Repr

/-- `gp_encrypt_buffer`. -/
def gpEncryptBuffer (k : Krb5Key) (buf : Bytes) : Except SealError Bytes :=
  if buf.length > 4294967295 then .error .enomem
  else
    let (i, pad, cipherlen) := choosePad k buf.length
    if i > 15 then .error .einval
    else
      match k.cEncrypt (truncate32 (addPad buf pad)) (cipherlen % 4294967296) with
      | none => .error .einval
      | some cipher => .ok cipher

def decryptWith (k : Krb5Key) (depad : Bytes → Option Nat) (cipher : Bytes) :
    Except SealError Bytes :=
  match k.decrypt cipher with
  | none => .error .krb5
  | some out =>
    match depad out with
    | none => .error .fault
    | some length => .ok (out.take length)

/-- `gp_decrypt_buffer`. -/
def gpDecryptBuffer (k : Krb5Key) (cipher : Bytes) : Except SealError Bytes :=
  decryptWith k gpDepad cipher

/-- `CredHandle::seal_inner`. -/
def sealInner (k : Krb5Key) (plain : Bytes) : Except SealError Bytes :=
  let (_, pad, cipherlen) := choosePad k plain.length
  match k.cEncrypt (truncate32 (addPad plain pad)) (cipherlen % 4294967296) with
  | none => .error .krb5
  | some cipher => .ok cipher

/-- `CredHandle::unseal_inner`. -/
def unsealInner (k : Krb5Key) (cipher : Bytes) : Except SealError Bytes :=
  decryptWith k (fun out => some (unsealDepad out)) cipher

end GssProxy.Seal
