import GssProxy.Interposer.Sides
import GssProxy.Interposer.Special

/-!
# Tokens for the local mechanism library

A token starts with the length of a mechanism as a 32-bit number and the mechanism.  The interposer puts
the special mechanism there, for a credential to import (`gssi_import_cred_by_mech`) and for a context
that the daemon exported (`gpp_remote_to_local_ctx`).

* `importCredToken_iff`: when the token of a credential is framed right.
* `rewrapped_iff`: when that of a context is.
-/

namespace GssProxy.Interposer.WrapToken

open Codec Special

/-! ## The format -/

/-- The length at the head of a token. -/
def mechLength (token : Bytes) : Nat :=
  (ofBeBytes (token.getD 0 0) (token.getD 1 0) (token.getD 2 0) (token.getD 3 0)).toNat

theorem mechLength_lt (token : Bytes) : mechLength token < 4294967296 := UInt32.toNat_lt _

def parseToken (token : Bytes) : Option (Bytes × Bytes) :=
  if token.length < 4 + mechLength token then none
  else some ((token.drop 4).take (mechLength token), token.drop (4 + mechLength token))

def frame (length : Nat) (mech inner : Bytes) : Bytes := beBytes (UInt32.ofNat length) ++ mech ++ inner

section

variable {length : Nat} {mech inner : Bytes}

theorem mechLength_frame : mechLength (frame length mech inner) = length % 4294967296 := by
  exact (congrArg UInt32.toNat (ofBeBytes_beBytes _)).trans UInt32.toNat_ofNat'

theorem parseToken_frame :
    parseToken (frame length mech inner) = some (mech, inner) ↔
      length % 4294967296 = mech.length := by
  have hl : (frame length mech inner).length = 4 + (mech.length + inner.length) := by
    rw [frame, List.append_assoc, List.length_append, List.length_append]; rfl
  have hd : (frame length mech inner).drop 4 = mech ++ inner := by rfl
  rw [parseToken, mechLength_frame, ← List.drop_drop, hd]
  constructor
  · intro hp
    obtain ⟨hf, hpa⟩ := Option.ite_none_left_eq_some.mp hp
    have ht := congrArg List.length (Prod.mk.inj (Option.some.inj hpa)).1
    rw [List.length_take, List.length_append] at ht; omega
  · intro heq
    rw [if_neg (by omega), heq, List.take_left, List.drop_left]

theorem length_of_parseToken {token : Bytes} (h : parseToken token = some (mech, inner)) :
    mech.length < 4294967296 := by
  obtain ⟨-, hp⟩ := Option.ite_none_left_eq_some.mp h
  rw [← (Prod.mk.inj (Option.some.inj hp)).1, List.length_take]
  exact Nat.lt_of_le_of_lt (Nat.min_le_left _ _) (mechLength_lt _)

end

/-! ## The special mechanism -/

/-- The bytes of what `gpp_special_mech` returns.  Where the length does not fit in 32 bits, the C
    interposer writes past its memory, and the Rust one has a descriptor that is cut off. -/
def specialForm (port : Port) (m : Oid) : Option Bytes :=
  if isSpecialOid m.bytes then some m.bytes
  else match port with
    | .c => if GSSPROXY_INTERPOSER_OID.length + m.bytes.length < 4294967296 then
        some (GSSPROXY_INTERPOSER_OID ++ m.bytes) else none
    | .rust => some (leakOid 0 (GSSPROXY_INTERPOSER_OID ++ m.bytes)).bytes

def Fits (m : Oid) : Prop := isSpecialOid m.bytes = true ∨ m.Short

section

variable {port : Port} {m : Oid}

theorem Fits.length_lt (h : Fits m) : (specialMech m.bytes).length < 4294967296 := by
  unfold Interposer.specialMech
  split
  · exact m.length_lt
  · next hr => rw [List.length_append]; exact h.resolve_left hr

theorem length_of_not_fits (h : ¬ Fits m) : 4294967296 ≤ (specialMech m.bytes).length := by
  obtain ⟨hr, hl⟩ := not_or.mp h
  rw [Interposer.specialMech, if_neg hr, List.length_append]
  exact Nat.le_of_not_lt hl

theorem Fits.specialForm (h : Fits m) : specialForm port m = some (specialMech m.bytes) := by
  unfold WrapToken.specialForm Interposer.specialMech
  split
  · rfl
  next hr =>
  have hs := h.resolve_left hr
  cases port with
  | c => exact if_pos hs
  | rust => exact congrArg some (leakOid_bytes 0 (by rw [List.length_append]; exact hs))

end

/-! ## Credentials -/

def importCredToken (port : Port) (m : Oid) (token : Bytes) : Option Bytes :=
  (specialForm port m).map fun sp => frame (4 + sp.length + token.length) sp token

def wrapSecCtxToken (port : Port) (m : Oid) (token : Bytes) : Option Bytes :=
  (specialForm port m).map fun sp => frame sp.length sp token

/-- The library reads the special mechanism and the token. -/
def FramedRight (port : Port) (m : Oid) (token : Bytes) : Prop :=
  (importCredToken port m token).bind parseToken = some (specialMech m.bytes, token) ∧
    importCredToken port m token = wrapSecCtxToken port m token

/-- **A credential's token.**  Its length field counts the header and the token as well, so that it
    is framed right only where these wrap around to nothing. -/
theorem importCredToken_iff (port : Port) (m : Oid) (token : Bytes) :
    FramedRight port m token ↔ Fits m ∧ (token.length + 4) % 4294967296 = 0 := by
  by_cases hf : Fits m
  · have hl := hf.length_lt
    rw [FramedRight, importCredToken, wrapSecCtxToken, hf.specialForm, Option.map_some, Option.map_some,
      Option.bind_some, parseToken_frame]
    refine ⟨fun h => ⟨hf, by omega⟩, fun ⟨_, hm⟩ => ?_⟩
    have hh : (4 + (specialMech m.bytes).length + token.length) % 4294967296 =
        (specialMech m.bytes).length := by omega
    refine ⟨hh, ?_⟩
    rw [frame, frame, ← UInt32.ofNat_mod_size, hh]
  · refine ⟨fun h => absurd ?_ (Nat.not_lt_of_le (length_of_not_fits hf)), fun h => absurd h.1 hf⟩
    obtain ⟨buffer, -, hp⟩ := Option.bind_eq_some_iff.mp h.1
    exact length_of_parseToken hp

/-- The length is longer than the token. -/
theorem importCredToken_overlong :
    (importCredToken .c (ones 9 (by decide)) [1, 2, 3]).bind parseToken = none ∧
      (importCredToken .rust (ones 9 (by decide)) [1, 2, 3]).bind parseToken = none := by
  decide

/-! ## Contexts -/

inductive Passed where
  | refused
  | undefined
  | token (wrapped : Bytes)
  deriving DecidableEq

def mechOf (token : Bytes) : Oid where
  ptr := 0
  bytes := (token.drop 4).take (mechLength token)
  length_lt := Nat.lt_of_le_of_lt (List.length_take_le _ _) (mechLength_lt token)

def Passed.ofWrapped : Option Bytes → Passed
  | some wrapped => .token wrapped
  | none => .undefined

/-- `gpp_remote_to_local_ctx`. -/
def gppRemoteToLocalCtx (token : Bytes) : Passed :=
  let hlen := (4 + mechLength token) % 4294967296
  if token.length ≤ 4 then .refused
  else if token.length ≤ hlen then .refused
  else if token.length < 4 + mechLength token then .undefined
  else .ofWrapped (wrapSecCtxToken .c (mechOf token) (token.drop hlen))

/-- `remote_to_local_ctx`. -/
def remoteToLocalCtx (token : Bytes) : Passed :=
  let hlen := 4 + mechLength token
  if token.length ≤ 4 then .refused
  else if token.length ≤ hlen then .refused
  else .ofWrapped (wrapSecCtxToken .rust (mechOf token) (token.drop hlen))

/-- The special mechanism in the place of the regular one. -/
def rewrapped (token : Bytes) : Passed :=
  if 4 < token.length ∧ 4 + mechLength token < token.length then
    let s := specialMech (mechOf token).bytes
    .token (beBytes (UInt32.ofNat s.length) ++ s ++ token.drop (4 + mechLength token))
  else .refused

structure ContextToken where
  bytes : Bytes
  length_lt : bytes.length < 2147483648

section

variable {token : ContextToken}

theorem wrapSecCtxToken_mechOf (port : Port) (rest : Bytes)
    (h : 4 + mechLength token.bytes < token.bytes.length) :
    wrapSecCtxToken port (mechOf token.bytes) rest =
      some (frame (specialMech (mechOf token.bytes).bytes).length (specialMech (mechOf token.bytes).bytes)
        rest) := by
  have hl : (mechOf token.bytes).bytes.length ≤ mechLength token.bytes := List.length_take_le _ _
  have hs : (mechOf token.bytes).Short := by
    show 11 + _ < 4294967296
    have := token.length_lt
    omega
  rw [wrapSecCtxToken, Fits.specialForm (.inr hs), Option.map_some]

theorem remoteToLocalCtx_eq : remoteToLocalCtx token.bytes = rewrapped token.bytes := by
  unfold remoteToLocalCtx rewrapped
  by_cases hh : token.bytes.length ≤ 4
  · rw [if_pos hh, if_neg (by omega)]
  rw [if_neg hh]
  by_cases hs : token.bytes.length ≤ 4 + mechLength token.bytes
  · rw [if_pos hs, if_neg (by omega)]
  · rw [if_neg hs, if_pos (by omega), wrapSecCtxToken_mechOf _ _ (by omega)]; rfl

theorem gppRemoteToLocalCtx_eq (hl : 4 + mechLength token.bytes < 4294967296) :
    gppRemoteToLocalCtx token.bytes = rewrapped token.bytes := by
  rw [← remoteToLocalCtx_eq]
  unfold gppRemoteToLocalCtx remoteToLocalCtx
  rw [Nat.mod_eq_of_lt hl]
  dsimp only
  by_cases hs : token.bytes.length ≤ 4 + mechLength token.bytes
  · rw [if_pos hs, if_pos hs]
  · have hi : ¬ token.bytes.length < 4 + mechLength token.bytes := by omega
    rw [if_neg hs, if_neg hs, if_neg hi, wrapSecCtxToken_mechOf _ _ (by omega),
      wrapSecCtxToken_mechOf _ _ (by omega)]

theorem gppRemoteToLocalCtx_undefined (hh : 4 < token.bytes.length)
    (hl : 4294967296 ≤ 4 + mechLength token.bytes) :
    gppRemoteToLocalCtx token.bytes = .undefined := by
  have hlt := mechLength_lt token.bytes
  have ht := token.length_lt
  unfold gppRemoteToLocalCtx
  rw [if_neg (by omega), if_neg (by omega), if_pos (by omega)]

end

/-- **A context's token.**  Both functions put the special mechanism in the place of the regular
    one, unless its length is so great that the sum with the header wraps around in C. -/
theorem rewrapped_iff (token : ContextToken) :
    (gppRemoteToLocalCtx token.bytes = rewrapped token.bytes ∧
        remoteToLocalCtx token.bytes = rewrapped token.bytes) ↔
      token.bytes.length ≤ 4 ∨ mechLength token.bytes < 4294967292 := by
  constructor
  · rintro ⟨hc, -⟩
    by_contra h
    rw [gppRemoteToLocalCtx_undefined (by omega) (by omega)] at hc
    unfold rewrapped at hc
    split at hc <;> cases hc
  · intro h
    refine ⟨?_, remoteToLocalCtx_eq⟩
    rcases h with hh | hl
    · rw [gppRemoteToLocalCtx, rewrapped, if_pos hh, if_neg (by omega)]
    · exact gppRemoteToLocalCtx_eq (by omega)

/-- Five bytes, the first four `0xff`. -/
theorem gppRemoteToLocalCtx_wraps :
    gppRemoteToLocalCtx [0xff, 0xff, 0xff, 0xff, 1] = .undefined ∧
      remoteToLocalCtx [0xff, 0xff, 0xff, 0xff, 1] = .refused ∧
      rewrapped [0xff, 0xff, 0xff, 0xff, 1] = .refused := by
  decide

end GssProxy.Interposer.WrapToken
