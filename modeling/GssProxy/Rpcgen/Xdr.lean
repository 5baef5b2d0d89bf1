import GssProxy.Codec.Bytes

/-!
# XDR routines of the C side

An rpcgen routine has one body that encodes the object or fills it in.  `XdrProc` keeps the two directions
together, and `Fields` sequences such bodies (`put_bind`, `put_field`).

The primitives behave as RFC 4506 says: a boolean or an optional marker is true whenever its word is not
zero.  Memory suffices.  The words read as booleans are logged in the stream.
-/

namespace GssProxy.Rpcgen

open Codec

/-! ## Streams -/

/-- A stream over memory, with the words read as booleans. -/
structure XdrMem where
  unread : Bytes
  bools : List UInt32
  deriving DecidableEq, Repr

def XdrMem.new (buf : Bytes) : XdrMem := ⟨buf, []⟩

abbrev XdrIn (α : Type) := StateT XdrMem Option α

def getBytes (n : Nat) : XdrIn Bytes := fun x =>
  if x.unread.length < n then none
  else some (x.unread.take n, { x with unread := x.unread.drop n })

def logBool (w : UInt32) : XdrIn Unit := fun x => some ((), { x with bools := x.bools ++ [w] })

/-! ## Routines -/

structure XdrProc (α : Type) where
  encode : α → Option Bytes
  decode : XdrIn α

/-- A routine body over an object of type `σ`: values come from the object or, in decoding, from the
    stream. -/
structure Fields (σ α : Type) where
  put : σ → Option (α × Bytes)
  get : XdrIn α

instance {σ : Type} : Monad (Fields σ) where
  pure a := ⟨fun _ => some (a, []), pure a⟩
  bind m f :=
    ⟨fun obj => do
      let (a, bytes) ← m.put obj
      let (b, more) ← (f a).put obj
      return (b, bytes ++ more),
     m.get >>= fun a => (f a).get⟩

def XdrProc.field {σ α : Type} (p : XdrProc α) (f : σ → α) : Fields σ α :=
  ⟨fun obj => (p.encode (f obj)).map fun bytes => (f obj, bytes), p.decode⟩

def XdrProc.arm {σ α : Type} (p : XdrProc α) (f : σ → Option α) : Fields σ α :=
  ⟨fun obj => do
    let a ← f obj
    let bytes ← p.encode a
    return (a, bytes),
   p.decode⟩

def Fields.proc {σ : Type} (body : Fields σ σ) : XdrProc σ :=
  ⟨fun obj => (body.put obj).map Prod.snd, body.get⟩

def Fields.fail {σ α : Type} : Fields σ α := ⟨fun _ => none, fun _ => none⟩

/-- The value, the bytes it takes and the words read as booleans. -/
def XdrProc.decodeFrom {α : Type} (p : XdrProc α) (buf : Bytes) :
    Option (α × Nat × List UInt32) := do
  let (v, x) ← p.decode.run (XdrMem.new buf)
  return (v, buf.length - x.unread.length, x.bools)

section

variable {σ α β : Type} {obj : σ} {p : XdrProc α} {a : α}

theorem XdrProc.decodeFrom_eq_some {buf : Bytes} {v : α} {k : Nat}
    {bools : List UInt32} : p.decodeFrom buf = some (v, k, bools) ↔
      ∃ x, p.decode.run (XdrMem.new buf) = some (v, x) ∧ k = buf.length - x.unread.length ∧
        bools = x.bools := by
  unfold XdrProc.decodeFrom
  cases p.decode.run (XdrMem.new buf) with
  | none => simp
  | some r => grind

variable {bytes : Bytes}

theorem put_bind {m : Fields σ α} {f : α → Fields σ β} {b : β} {more : Bytes}
    (hm : m.put obj = some (a, bytes)) (hf : (f a).put obj = some (b, more)) :
    (m >>= f).put obj = some (b, bytes ++ more) := by
  show (do
    let (a, bytes) ← m.put obj
    let (b, more) ← (f a).put obj
    return (b, bytes ++ more)) = _
  rw [hm]
  simp [hf]

theorem put_map {m : Fields σ α} {g : α → β} (hm : m.put obj = some (a, bytes)) :
    (m >>= fun a => pure (g a)).put obj = some (g a, bytes) := by
  rw [put_bind hm (show (pure (g a) : Fields σ β).put obj = some (g a, []) from rfl),
    List.append_nil]

theorem put_field {f : σ → α}
    (hp : p.encode (f obj) = some bytes) : (p.field f).put obj = some (f obj, bytes) := by
  show (p.encode (f obj)).map _ = _
  rw [hp]
  rfl

theorem put_arm {f : σ → Option α}
    (hf : f obj = some a) (hp : p.encode a = some bytes) : (p.arm f).put obj = some (a, bytes) := by
  simp [XdrProc.arm, hf, hp]

theorem proc_encode {body : Fields σ σ} (r : σ)
    (h : body.put obj = some (r, bytes)) : body.proc.encode obj = some bytes := by
  show (body.put obj).map Prod.snd = _
  rw [h]
  rfl

end

/-! ## Primitives -/

def xdrUInt32 : XdrProc UInt32 where
  encode v := some (beBytes v)
  decode := do
    let b ← getBytes 4
    return ofBeBytes (b.getD 0 0) (b.getD 1 0) (b.getD 2 0) (b.getD 3 0)

def xdrEnum : XdrProc Int32 where
  encode v := some (beBytes v.toUInt32)
  decode := do
    return (← xdrUInt32.decode).toInt32

def xdrBool : XdrProc Bool where
  encode v := some (beBytes (if v then 1 else 0))
  decode := do
    let w ← xdrUInt32.decode
    logBool w
    return w != 0

def gpXdrUint64 : XdrProc UInt64 where
  encode v := do
    let h ← xdrUInt32.encode (v >>> 32).toUInt32
    let l ← xdrUInt32.encode v.toUInt32
    return h ++ l
  decode := do
    let h ← xdrUInt32.decode
    let l ← xdrUInt32.decode
    return (h.toUInt64 <<< 32) ||| l.toUInt64

def roundUp (cnt : Nat) : Nat := if cnt % 4 = 0 then 0 else 4 - cnt % 4

def xdrBytes (maxSize : Nat) : XdrProc Bytes where
  encode v :=
    if v.length > maxSize then none
    else some (beBytes (UInt32.ofNat v.length) ++ (v ++ List.replicate (roundUp v.length) 0))
  decode := do
    let size ← xdrUInt32.decode
    if size.toNat > maxSize then
      failure
    else
      let v ← getBytes size.toNat
      let _ ← getBytes (roundUp size.toNat)
      return v

def XdrProc.times {α : Type} (p : XdrProc α) : Nat → XdrIn (List α)
  | 0 => return []
  | n + 1 => do
    let x ← p.decode
    let xs ← p.times n
    return x :: xs

def xdrArray {α : Type} (p : XdrProc α) : XdrProc (List α) where
  encode items := do
    let count ← xdrUInt32.encode (UInt32.ofNat items.length)
    let elements ← items.mapM p.encode
    return count ++ elements.flatten
  decode := do
    let count ← xdrUInt32.decode
    p.times count.toNat

def xdrPointer {α : Type} (p : XdrProc α) : XdrProc (Option α) where
  encode
    | none => xdrBool.encode false
    | some v => do
      let marker ← xdrBool.encode true
      let object ← p.encode v
      return marker ++ object
  decode := do
    if ← xdrBool.decode then
      return some (← p.decode)
    else
      return none

end GssProxy.Rpcgen
