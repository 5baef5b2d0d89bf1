import Mathlib.Data.List.Basic
import GssProxy.Codec.Decoder

/-!
# The XDR primitives

The primitives of the protocol crate and the combinators for arrays and optional values.  An encoder is
the bytes it appends, a decoder a `Decoder` over the unread bytes.  The allocation guard of `decodeArray`
never fires on an encoding, since each element takes at least one byte.

* `LawfulXdr.field`, `LawfulXdr.ofFields`: a record is lawful field by field.
-/

namespace GssProxy.Proto

open Codec

/-- `XdrError`. -/
inductive XdrError where
  | eof
  | invalidValue (what : String)
  | tooLong
  deriving DecidableEq, Repr

abbrev XdrDecoder := Decoder XdrError

/-! ## Encoder primitives -/

def putU32 (v : UInt32) : Bytes := beBytes v

def putI32 (v : Int32) : Bytes := putU32 v.toUInt32

def putU64 (v : UInt64) : Bytes := putU32 (v >>> 32).toUInt32 ++ putU32 v.toUInt32

def putBool (v : Bool) : Bytes := putU32 (if v then 1 else 0)

def putEnum (v : Int32) : Bytes := putI32 v

def padLen (len : Nat) : Nat := (4 - len % 4) % 4

def putOpaque (data : Bytes) : Bytes :=
  putU32 (UInt32.ofNat data.length) ++ (data ++ List.replicate (padLen data.length) 0)

/-! ## Decoder primitives -/

def take (n : Nat) : XdrDecoder Bytes := fun st =>
  if st.remaining < n then .error .eof
  else .ok (st.unread.take n, ⟨st.unread.drop n, st.seen ++ st.unread.take n⟩)

def takePad (n : Nat) : XdrDecoder Unit := fun st =>
  if st.remaining < n then .error .eof
  else .ok ((), ⟨st.unread.drop n, st.seen ++ List.replicate n 0⟩)

def getU32 : XdrDecoder UInt32 := do
  let b ← take 4
  return ofBeBytes (b.getD 0 0) (b.getD 1 0) (b.getD 2 0) (b.getD 3 0)

def getI32 : XdrDecoder Int32 := do
  return (← getU32).toInt32

def getU64 : XdrDecoder UInt64 := do
  let h ← getU32
  let l ← getU32
  return (h.toUInt64 <<< 32) ||| l.toUInt64

def getBool : XdrDecoder Bool := do
  match ← getU32 with
  | 0 => return false
  | 1 => return true
  | _ => throw (.invalidValue "bool")

def getEnum : XdrDecoder Int32 := getI32

def getOpaque : XdrDecoder Bytes := do
  let len ← getU32
  let data ← take len.toNat
  takePad (padLen len.toNat)
  return data

/-! ## The codec class -/

/-- Types that are encoded and decoded as XDR. -/
class Xdr (α : Type) where
  encode : α → Bytes
  decode : XdrDecoder α

export Xdr (encode decode)

instance : Xdr UInt32 := ⟨putU32, getU32⟩

instance : Xdr UInt64 := ⟨putU64, getU64⟩

instance : Xdr Bool := ⟨putBool, getBool⟩

instance : Xdr Int32 := ⟨putEnum, getEnum⟩

section

variable {α : Type} [Xdr α]

/-- Count, then each element in order.  The count is cast to 32 bits. -/
def encodeArray (items : List α) : Bytes :=
  putU32 (UInt32.ofNat items.length) ++ (items.map encode).flatten

def decodeArray : XdrDecoder (List α) := do
  let count ← getU32
  Decoder.checkRemaining (fun remaining => count.toNat > remaining + 1) .tooLong
    (Decoder.times decode count.toNat)

def encodeOptional : Option α → Bytes
  | some v => putBool true ++ encode v
  | none => putBool false

def decodeOptional : XdrDecoder (Option α) := do
  if ← getBool then
    return some (← decode)
  else
    return none

end

instance {α : Type} [Xdr α] : Xdr (List α) := ⟨encodeArray, decodeArray⟩

instance {α : Type} [Xdr α] : Xdr (Option α) := ⟨encodeOptional, decodeOptional⟩

/-- The value at the start of a buffer, and how many bytes it takes. -/
def decodeFrom {α : Type} [Xdr α] (buf : Bytes) : Except XdrError (α × Nat) := do
  let (v, d) ← decode.run (Stream.new buf)
  return (v, d.position)

/-! ## Laws of the primitives -/

theorem ite_error_eq_ok {ε α : Type} {c : Prop} [Decidable c] {e : ε} {a r : α} :
    (if c then Except.error e else .ok a) = .ok r ↔ ¬ c ∧ r = a := by
  split <;> simp_all [eq_comm]

variable {st : Stream}

theorem take_ok {n : Nat} {r : Bytes × Stream} :
    (take n).run st = .ok r ↔ n ≤ st.unread.length ∧
      r = (st.unread.take n, ⟨st.unread.drop n, st.seen ++ st.unread.take n⟩) := by
  rw [← Nat.not_lt]
  exact ite_error_eq_ok

theorem takePad_ok {n : Nat} {r : Unit × Stream} :
    (takePad n).run st = .ok r ↔ n ≤ st.unread.length ∧
      r = ((), ⟨st.unread.drop n, st.seen ++ List.replicate n 0⟩) := by
  rw [← Nat.not_lt]
  exact ite_error_eq_ok

theorem take_law (n : Nat) :
    Law (fun b : Bytes => b.length = n) (fun _ => True) (fun b => b) (take n) where
  roundtrip b hb _ rest seen := by
    refine take_ok.mpr ⟨by simp [← hb], ?_⟩
    simp [← hb]
  sound st b st' h := by
    obtain ⟨hn, hr⟩ := take_ok.mp h
    obtain ⟨rfl, rfl⟩ := Prod.mk.inj hr
    exact ⟨⟨List.length_take_of_le hn, trivial⟩, rfl, st.unread.take n, by simp, .same _⟩
  extend st b st' h more := by
    obtain ⟨hn, hr⟩ := take_ok.mp h
    obtain ⟨rfl, rfl⟩ := Prod.mk.inj hr
    refine take_ok.mpr ⟨by simp only [Stream.extend, List.length_append]; omega, ?_⟩
    simp [Stream.extend, List.take_append_of_le_length hn, List.drop_append_of_le_length hn]

theorem getU32_law : Law (fun _ => True) (fun _ => True) putU32 getU32 := by
  refine Law.map (take_law 4) _ (fun _ _ => ⟨trivial, trivial⟩) ?_ ?_
  · intro w _ _
    exact ⟨beBytes w, rfl, (ofBeBytes_beBytes w).symm⟩
  · intro b hb
    match b, hb with
    | [b₀, b₁, b₂, b₃], _ => exact beBytes_ofBeBytes b₀ b₁ b₂ b₃

theorem getI32_law : Law (fun _ => True) (fun _ => True) putI32 getI32 := by
  refine Law.map getU32_law _ (fun _ _ => ⟨trivial, trivial⟩) ?_ ?_
  · intro v _ _
    exact ⟨v.toUInt32, trivial, (Int32.toInt32_toUInt32 v).symm⟩
  · simp [putI32]

theorem getU64_law : Law (fun _ => True) (fun _ => True) putU64 getU64 := by
  refine Law.bind getU32_law (fun v => (splitWords v).1) (fun _ _ _ => trivial) fun h _ => ?_
  refine Law.map getU32_law (joinWords h) ?_ ?_ ?_
  · simp [splitWords_joinWords]
  · rintro v - ⟨-, rfl⟩
    exact ⟨(splitWords v).2, trivial, (joinWords_splitWords v).symm⟩
  · intro l _
    exact congrArg putU32 (congrArg Prod.snd (splitWords_joinWords h l))

theorem getBool_law : Law (fun _ => True) (fun _ => True) putBool getBool := by
  have h : Law (fun _ => True) (fun _ => True) (fun v => putBool v ++ []) getBool := by
    refine Law.bind getU32_law (fun v : Bool => if v then 1 else 0) (fun _ _ _ => trivial) ?_
    intro w _
    split
    · exact Law.ret trivial (by simp) (by simp) rfl
    · exact Law.ret trivial (by simp) (by simp) rfl
    · rename_i h₀ h₁
      refine Law.reject ?_
      rintro (_ | _) ⟨-, hw⟩
      · exact h₀ hw.symm
      · exact h₁ hw.symm
  simpa using h

theorem padLen_lt (n : Nat) : padLen n < 4 := by
  unfold padLen
  omega

theorem padLen_aligns (n : Nat) : (n + padLen n) % 4 = 0 := by
  unfold padLen
  omega

theorem getU32_ok {r : UInt32 × Stream} :
    getU32.run st = .ok r ↔ ∃ (w : UInt32) (rest : Bytes), st.unread = putU32 w ++ rest ∧
      r = (w, ⟨rest, st.seen ++ putU32 w⟩) := by
  constructor
  · intro h
    obtain ⟨b, st₁, hb, hre⟩ := Decoder.bind_ok.mp h
    obtain ⟨hn, hr⟩ := take_ok.mp hb
    obtain ⟨rfl, rfl⟩ := Prod.mk.inj hr
    obtain ⟨b₀, b₁, b₂, b₃, hw⟩ := List.length_eq_four.mp (List.length_take_of_le hn)
    have hp : putU32 (ofBeBytes b₀ b₁ b₂ b₃) = [b₀, b₁, b₂, b₃] := beBytes_ofBeBytes b₀ b₁ b₂ b₃
    rw [hw] at hre
    refine ⟨ofBeBytes b₀ b₁ b₂ b₃, st.unread.drop 4, ?_, ?_⟩
    · rw [hp, ← hw, List.take_append_drop]
    · rw [hp]; exact Decoder.pure_ok.mp hre
  · rintro ⟨w, rest, hu, rfl⟩
    have h := getU32_law.roundtrip w trivial trivial rest st.seen
    rwa [← hu] at h

theorem getOpaque_ok {r : Bytes × Stream} :
    getOpaque.run st = .ok r ↔ ∃ (len : UInt32) (data pad rest : Bytes),
      st.unread = putU32 len ++ (data ++ pad) ++ rest ∧ data.length = len.toNat ∧
      pad.length = padLen len.toNat ∧
      r = (data, ⟨rest, st.seen ++ (putU32 len ++ (data ++ List.replicate pad.length 0))⟩) := by
  constructor
  · intro h
    obtain ⟨len, st₁, hl, h⟩ := Decoder.bind_ok.mp h
    obtain ⟨data, st₂, hd, h⟩ := Decoder.bind_ok.mp h
    obtain ⟨_, st₃, hpa, h⟩ := Decoder.bind_ok.mp h
    obtain ⟨w, rest₁, hu, hr₁⟩ := getU32_ok.mp hl
    obtain ⟨rfl, rfl⟩ := Prod.mk.inj hr₁
    obtain ⟨hn₂, hr₂⟩ := take_ok.mp hd
    obtain ⟨rfl, rfl⟩ := Prod.mk.inj hr₂
    obtain ⟨hn₃, hr₃⟩ := takePad_ok.mp hpa
    obtain ⟨-, rfl⟩ := Prod.mk.inj hr₃
    have hp : ((rest₁.drop len.toNat).take (padLen len.toNat)).length = padLen len.toNat :=
      List.length_take_of_le hn₃
    refine ⟨len, rest₁.take len.toNat, (rest₁.drop len.toNat).take (padLen len.toNat),
      (rest₁.drop len.toNat).drop (padLen len.toNat), ?_, List.length_take_of_le hn₂, hp, ?_⟩
    · rw [hu, List.append_assoc, List.append_assoc, List.take_append_drop, List.take_append_drop]
    · rw [Decoder.pure_ok.mp h, hp]; simp
  · rintro ⟨len, data, pad, rest, hun, hd, hpa, rfl⟩
    refine Decoder.bind_ok.mpr ⟨len, ⟨data ++ (pad ++ rest), st.seen ++ putU32 len⟩, ?_, ?_⟩
    · exact getU32_ok.mpr ⟨len, _, by simp [hun], rfl⟩
    refine Decoder.bind_ok.mpr ⟨data, ⟨pad ++ rest, st.seen ++ putU32 len ++ data⟩, ?_, ?_⟩
    · exact take_ok.mpr ⟨by simp [hd], by simp [← hd]⟩
    refine Decoder.bind_ok.mpr ⟨(), _, takePad_ok.mpr ⟨by simp [hpa], rfl⟩, ?_⟩
    refine Decoder.pure_ok.mpr ?_
    simp [← hpa]

theorem getOpaque_law :
    Law (fun b : Bytes => b.length < 4294967296) (fun _ => True) putOpaque getOpaque where
  roundtrip b hb _ rest seen := by
    have hl : (UInt32.ofNat b.length).toNat = b.length := UInt32.toNat_ofNat_of_lt' hb
    refine getOpaque_ok.mpr ⟨UInt32.ofNat b.length, b, List.replicate (padLen b.length) 0, rest,
      rfl, hl.symm, by rw [hl, List.length_replicate], ?_⟩
    rw [List.length_replicate]; rfl
  sound st b st' h := by
    obtain ⟨len, data, pad, rest, hu, hd, hp, hr⟩ := getOpaque_ok.mp h
    obtain ⟨rfl, rfl⟩ := Prod.mk.inj hr
    have hbo : b.length < 4294967296 := hd ▸ len.toNat_lt
    have hl : UInt32.ofNat b.length = len := by rw [hd, UInt32.ofNat_toNat]
    rw [← hd] at hp
    refine ⟨⟨hbo, trivial⟩, ?_, putU32 len ++ (b ++ pad), hu, ?_⟩
    · rw [putOpaque, hl, hp]
    · rw [putOpaque, ← hp, ← hl]
      exact .block hbo (hp ▸ padLen_lt _) (hp ▸ padLen_aligns _)
  extend st b st' h more := by
    obtain ⟨len, data, pad, rest, hu, hd, hp, hr⟩ := getOpaque_ok.mp h
    obtain ⟨rfl, rfl⟩ := Prod.mk.inj hr
    refine getOpaque_ok.mpr ⟨len, b, pad, rest ++ more, ?_, hd, hp, rfl⟩
    rw [Stream.extend, hu, List.append_assoc]

/-! ## Sizes and the law of a type

`Fits` collects what a value must satisfy to have an encoding at all: every length that is
written as a 32-bit prefix is below `2 ^ 32`, and every union arm is tagged by a value that
selects it. -/

class Sized (α : Type) where
  Fits : α → Prop

export Sized (Fits)

instance : Sized UInt32 := ⟨fun _ => True⟩

instance : Sized UInt64 := ⟨fun _ => True⟩

instance : Sized Bool := ⟨fun _ => True⟩

instance : Sized Int32 := ⟨fun _ => True⟩

instance {α : Type} [Sized α] : Sized (List α) :=
  ⟨fun items => items.length < 4294967296 ∧ ∀ x ∈ items, Fits x⟩

instance {α : Type} [Sized α] : Sized (Option α) := ⟨fun value => ∀ x ∈ value, Fits x⟩

/-- The two directions of a type's codec belong together, and no value encodes to nothing. -/
class LawfulXdr (α : Type) [Xdr α] [Sized α] : Prop where
  law : Law Fits (fun _ => True) encode (decode : XdrDecoder α)
  encode_pos : ∀ v : α, 0 < (encode v).length

instance : LawfulXdr UInt32 := ⟨getU32_law, fun _ => Nat.zero_lt_succ _⟩

instance : LawfulXdr UInt64 := ⟨getU64_law, fun _ => Nat.zero_lt_succ _⟩

instance : LawfulXdr Bool := ⟨getBool_law, fun _ => Nat.zero_lt_succ _⟩

instance : LawfulXdr Int32 := ⟨getI32_law, fun _ => Nat.zero_lt_succ _⟩

section

variable {α : Type} [Xdr α] [Sized α] [LawfulXdr α]

theorem length_le_flatten_encode (items : List α) :
    items.length ≤ ((items.map encode).flatten).length := by
  induction items with
  | nil => exact Nat.le_refl 0
  | cons x xs ih =>
    have hx := LawfulXdr.encode_pos x
    simp only [List.map_cons, List.flatten_cons, List.length_append, List.length_cons]; omega

/-- **The allocation guard never rejects an encoding**: each element after the count takes at least
    one byte. -/
theorem decodeArray_law : Law Fits (fun _ => True) (encodeArray : List α → Bytes) decodeArray := by
  refine Law.bind getU32_law (fun items : List α => UInt32.ofNat items.length)
    (fun _ _ _ => trivial) fun count _ => ?_
  refine Law.checkRemaining ?_ ?_ ?_
  · refine (Law.times LawfulXdr.law count.toNat).congr fun items => ?_
    constructor
    · rintro ⟨⟨hl, hi⟩, -, rfl⟩
      exact ⟨⟨(UInt32.toNat_ofNat_of_lt' hl).symm, hi⟩, trivial⟩
    · rintro ⟨⟨hl, hi⟩, -⟩
      exact ⟨⟨hl ▸ count.toNat_lt, hi⟩, trivial, by rw [hl, UInt32.ofNat_toNat]⟩
  · intro m n hmn hn
    simp only [decide_eq_true_eq] at hn ⊢; omega
  · rintro items hf ⟨-, rfl⟩
    have hl := length_le_flatten_encode items
    simp only [decide_eq_false_iff_not, UInt32.toNat_ofNat_of_lt' hf.1]; omega

theorem decodeOptional_law :
    Law Fits (fun _ => True) (encodeOptional : Option α → Bytes) decodeOptional := by
  have h : Law Fits (fun _ => True)
      (fun value : Option α => putBool value.isSome ++ value.elim [] encode) decodeOptional := by
    refine Law.bind getBool_law Option.isSome (fun _ _ _ => trivial) fun present _ => ?_
    cases present with
    | true =>
      refine Law.map LawfulXdr.law some ?_ ?_ (fun _ _ => rfl)
      · intro v hv; exact ⟨by simpa [Fits] using hv, by simp⟩
      · rintro (_ | v) hv ⟨-, hs⟩
        · cases hs
        · exact ⟨v, hv v rfl, rfl⟩
    | false =>
      refine Law.ret ?_ ?_ ?_ rfl
      · intro v hv; cases hv
      · simp
      · simp
  have he : (encodeOptional : Option α → Bytes) =
      fun value => putBool value.isSome ++ value.elim [] encode := by
    funext value
    cases value with
    | none => exact (List.append_nil _).symm
    | some v => rfl
  rw [he]
  exact h

instance : LawfulXdr (List α) := ⟨decodeArray_law, fun _ => Nat.zero_lt_succ _⟩

instance : LawfulXdr (Option α) :=
  ⟨decodeOptional_law, fun value => by cases value <;> exact Nat.zero_lt_succ _⟩

end

theorem flatten_pos {b : Bytes} {bs : List Bytes} (h : 0 < b.length) :
    0 < (List.flatten (b :: bs)).length := by
  rw [List.flatten_cons, List.length_append]
  omega

section

variable {α : Type} [Xdr α]

theorem decodeFrom_ok {buf : Bytes} {v : α} {k : Nat} : decodeFrom buf = .ok (v, k) ↔
    ∃ d, decode.run (Stream.new buf) = .ok (v, d) ∧ k = d.position := by
  unfold decodeFrom
  cases (decode : XdrDecoder α).run (Stream.new buf) with
  | error e => simp
  | ok r =>
    obtain ⟨v', d⟩ := r
    simp only [bind, Except.bind, pure, Except.pure, Except.ok.injEq, Prod.mk.injEq]
    constructor
    · rintro ⟨rfl, rfl⟩; exact ⟨d, ⟨rfl, rfl⟩, rfl⟩
    · rintro ⟨d', ⟨rfl, rfl⟩, rfl⟩; exact ⟨rfl, rfl⟩

theorem position_eq [Sized α] [LawfulXdr α] {buf : Bytes} {v : α} {d : Stream}
    (h : decode.run (Stream.new buf) = .ok (v, d)) : d.position = buf.length - d.unread.length := by
  obtain ⟨-, hs, c, hc, hl⟩ := LawfulXdr.law.sound _ _ _ h
  simp only [Stream.new, List.nil_append] at hs hc
  rw [Stream.position, hs, ← hl.length_eq, hc, List.length_append]
  omega

end

namespace LawfulXdr

variable {α β : Type} {P : α → Prop}

theorem field [Xdr β] [Sized β] [LawfulXdr β] {k : β → XdrDecoder α} {bounds : α → List Prop}
    {parts : α → List Bytes} (f : α → β)
    (hk : ∀ b, Law (fun v => All (bounds v)) (fun v => P v ∧ f v = b)
      (fun v => (parts v).flatten) (k b)) :
    Law (fun v => All (Fits (f v) :: bounds v)) P
      (fun v => List.flatten (encode (f v) :: parts v)) (decode >>= k) :=
  Law.field law f hk

theorem ofFields [Xdr α] [Sized α]
    (law : Law Fits (fun _ => True) encode (decode : XdrDecoder α) := by
      repeat refine LawfulXdr.field _ fun _ => ?_
      exact .done)
    (pos : ∀ v : α, 0 < (encode v).length := by
      exact fun _ => flatten_pos (LawfulXdr.encode_pos _)) :
    LawfulXdr α :=
  ⟨law, pos⟩

end LawfulXdr

end GssProxy.Proto
