import GssProxy.Codec.Grammar
import GssProxy.Compat.Agree
import GssProxy.Rpcgen.GpRpcXdr

/-!
# Compatibility of the RPC envelope

Each decoder of the message header is described by the grammar it recognises.  The hand-written one takes
only the flavors of its table, and one word after any reject status.

* `envelope_agrees_iff`: on which byte strings the two decoders agree.
-/

namespace GssProxy.Compat

open Codec Proto Rpcgen

variable {σ α β : Type}

/-! ## Recognised grammars -/

def Accepts (d : XdrDecoder α) (G : α → Bytes → Prop) : Prop :=
  Reads Stream.unread (fun st v st' => d.run st = .ok (v, st')) G

def AcceptsC (g : XdrIn α) (G : α → Bytes → Prop) : Prop :=
  Reads XdrMem.unread (fun x v x' => g.run x = some (v, x')) G

theorem word_spelling (v : UInt32) (c : Bytes) :
    (∃ b c₁ c₂, (b.length = 4 ∧ c₁ = b) ∧
      (v = ofBeBytes (b.getD 0 0) (b.getD 1 0) (b.getD 2 0) (b.getD 3 0) ∧ c₂ = []) ∧
        c = c₁ ++ c₂) ↔ c = putU32 v := by
  constructor
  · rintro ⟨_, b, _, ⟨hb, rfl⟩, ⟨rfl, rfl⟩, rfl⟩
    match b, hb with
    | [b₀, b₁, b₂, b₃], _ => exact (beBytes_ofBeBytes b₀ b₁ b₂ b₃).symm
  · rintro rfl
    exact ⟨beBytes v, beBytes v, [], ⟨rfl, rfl⟩, ⟨(ofBeBytes_beBytes v).symm, rfl⟩, rfl⟩

theorem enum_spelling (v : Int32) (c : Bytes) :
    (∃ w c₁ c₂, c₁ = putU32 w ∧ (v = w.toInt32 ∧ c₂ = []) ∧ c = c₁ ++ c₂) ↔ c = putEnum v := by
  constructor
  · rintro ⟨w, _, _, rfl, ⟨rfl, rfl⟩, rfl⟩; simp [putEnum, putI32]
  · rintro rfl
    exact ⟨v.toUInt32, _, [], rfl, ⟨(Int32.toInt32_toUInt32 v).symm, rfl⟩, (List.append_nil _).symm⟩

variable {c : Bytes} {m : Message}

theorem branch_spelling {t₁ t₂ : Int32} (hne : t₂ ≠ t₁) {G₁ G₂ : Bytes → Prop}
    {G₃ : Int32 → Bytes → Prop} :
    (∃ tag c₁ c₂, c₁ = putEnum tag ∧
      (if tag = t₁ then G₁ c₂ else if tag = t₂ then G₂ c₂ else G₃ tag c₂) ∧ c = c₁ ++ c₂) ↔
    (∃ rest, G₁ rest ∧ c = putEnum t₁ ++ rest) ∨ (∃ rest, G₂ rest ∧ c = putEnum t₂ ++ rest) ∨
      ∃ tag rest, (tag ≠ t₁ ∧ tag ≠ t₂) ∧ G₃ tag rest ∧ c = putEnum tag ++ rest := by
  constructor
  · rintro ⟨tag, _, rest, rfl, h, rfl⟩
    split at h
    · rename_i htg; exact .inl ⟨rest, h, by rw [htg]⟩
    rename_i ht
    split at h
    · rename_i htg; exact .inr (.inl ⟨rest, h, by rw [htg]⟩)
    · rename_i hta
      exact .inr (.inr ⟨tag, rest, ⟨ht, hta⟩, h, rfl⟩)
  · rintro (⟨rest, h, rfl⟩ | ⟨rest, h, rfl⟩ | ⟨tag, rest, ⟨ht, hta⟩, h, rfl⟩)
    · exact ⟨t₁, _, rest, rfl, by rwa [if_pos rfl], rfl⟩
    · exact ⟨t₂, _, rest, rfl, by rwa [if_neg hne, if_pos rfl], rfl⟩
    · exact ⟨tag, _, rest, rfl, by rwa [if_neg ht, if_neg hta], rfl⟩

def OpaqueBytes (b c : Bytes) : Prop :=
  b.length < 4294967296 ∧ ∃ pad : Bytes, pad.length = padLen b.length ∧
    c = putU32 (UInt32.ofNat b.length) ++ (b ++ pad)

variable {G : α → Bytes → Prop}

namespace Accepts

theorem ret (a : α) : Accepts (pure a) (fun v c => v = a ∧ c = []) :=
  Reads.ret a fun st v st' => by rw [Decoder.pure_ok, Prod.mk.injEq]

theorem bind {d : XdrDecoder α} {k : α → XdrDecoder β}
    {H : α → β → Bytes → Prop} (hd : Accepts d G) (hk : ∀ a, Accepts (k a) (H a)) :
    Accepts (d >>= k) (fun v c => ∃ a c₁ c₂, G a c₁ ∧ H a v c₂ ∧ c = c₁ ++ c₂) :=
  Reads.bind hd hk fun _ _ _ => Decoder.bind_ok

theorem map {d : XdrDecoder α} (hd : Accepts d G) (f : α → β) :
    Accepts (do return f (← d)) (fun v c => ∃ a, G a c ∧ v = f a) :=
  Reads.map f hd fun st v st' => by
    simp only [Decoder.bind_ok, Decoder.pure_ok, Prod.mk.injEq]
    constructor
    · rintro ⟨a, _, ha, rfl, rfl⟩; exact ⟨a, ha, rfl⟩
    · rintro ⟨a, ha, rfl⟩; exact ⟨a, st', ha, rfl, rfl⟩

theorem reject (e : XdrError) : Accepts (throw e : XdrDecoder α) (fun _ _ => False) :=
  Reads.reject fun _ _ _ h => by cases h

theorem ite {c : Prop} [Decidable c] {d₁ d₂ : XdrDecoder α} {G₁ G₂ : α → Bytes → Prop}
    (h₁ : Accepts d₁ G₁) (h₂ : Accepts d₂ G₂) :
    Accepts (if c then d₁ else d₂) (fun v b => if c then G₁ v b else G₂ v b) := by
  split
  · rename_i hc; simpa [hc] using h₁
  · rename_i hc; simpa [hc] using h₂

theorem lift (e : Except XdrError α) :
    Accepts (liftM e : XdrDecoder α) (fun v c => e = .ok v ∧ c = []) where
  sound := by
    intro st v st' h
    cases e with
    | error e => cases h
    | ok a => cases h; exact ⟨[], ⟨rfl, rfl⟩, rfl⟩
  complete := by rintro st v c rest ⟨rfl, rfl⟩ hu; exact ⟨st, rfl, hu⟩

theorem take (n : Nat) : Accepts (Proto.take n) (fun v c => v.length = n ∧ c = v) where
  sound := by
    intro st v st' h
    obtain ⟨hn, hr⟩ := take_ok.mp h
    obtain ⟨rfl, rfl⟩ := Prod.mk.inj hr
    exact ⟨_, ⟨List.length_take_of_le hn, rfl⟩, (List.take_append_drop _ _).symm⟩
  complete := by
    rintro ⟨u, s⟩ v c rest ⟨rfl, rfl⟩ hu
    obtain rfl : u = c ++ rest := hu
    exact ⟨_, (take_law c.length).roundtrip c rfl trivial rest s, rfl⟩

theorem takePad (n : Nat) : Accepts (Proto.takePad n) (fun _ c => c.length = n) where
  sound := by
    intro st v st' h
    obtain ⟨hn, hr⟩ := takePad_ok.mp h
    obtain ⟨-, rfl⟩ := Prod.mk.inj hr
    exact ⟨_, List.length_take_of_le hn, (List.take_append_drop _ _).symm⟩
  complete := by
    rintro ⟨u, s⟩ v c rest rfl hu
    obtain rfl : u = c ++ rest := hu
    exact ⟨_, takePad_ok.mpr ⟨by simp, rfl⟩, by simp⟩

theorem getU32 : Accepts Proto.getU32 (fun v c => c = putU32 v) :=
  (bind (take 4) fun _ => ret _).congr word_spelling

theorem getEnum : Accepts Proto.getEnum (fun v c => c = putEnum v) :=
  (bind getU32 fun _ => ret _).congr enum_spelling

theorem getOpaque : Accepts Proto.getOpaque OpaqueBytes := by
  refine (bind getU32 fun len => bind (take len.toNat) fun data =>
    bind (takePad (padLen len.toNat)) fun _ => ret data).congr fun v c => ?_
  constructor
  · rintro ⟨len, _, _, rfl, ⟨data, _, _, ⟨hd, rfl⟩, ⟨_, pad, _, hp, ⟨rfl, rfl⟩, rfl⟩, rfl⟩, rfl⟩
    rw [← hd] at hp
    refine ⟨hd ▸ len.toNat_lt, pad, hp, ?_⟩
    rw [hd, UInt32.ofNat_toNat, List.append_nil]
  · rintro ⟨hl, pad, hp, rfl⟩
    have hl' := (UInt32.toNat_ofNat_of_lt' hl).symm
    exact ⟨_, _, _, rfl, ⟨v, v, _, ⟨hl', rfl⟩, ⟨(), pad, [], hl' ▸ hp, ⟨rfl, rfl⟩,
      (List.append_nil pad).symm⟩, rfl⟩, rfl⟩

end Accepts

namespace AcceptsC

theorem ret (a : α) : AcceptsC (pure a) (fun v c => v = a ∧ c = []) :=
  Reads.ret a fun x v x' => by rw [pure_some, Prod.mk.injEq]

theorem bind {g : XdrIn α} {k : α → XdrIn β} {H : α → β → Bytes → Prop}
    (hg : AcceptsC g G) (hk : ∀ a, AcceptsC (k a) (H a)) :
    AcceptsC (g >>= k) (fun v c => ∃ a c₁ c₂, G a c₁ ∧ H a v c₂ ∧ c = c₁ ++ c₂) :=
  Reads.bind hg hk fun _ _ _ => bind_some

theorem map {g : XdrIn α} (hg : AcceptsC g G) (f : α → β) :
    AcceptsC (do return f (← g)) (fun v c => ∃ a, G a c ∧ v = f a) :=
  Reads.map f hg fun x v x' => by
    simp only [bind_some, pure_some, Prod.mk.injEq]
    constructor
    · rintro ⟨a, _, ha, rfl, rfl⟩; exact ⟨a, ha, rfl⟩
    · rintro ⟨a, ha, rfl⟩; exact ⟨a, x', ha, rfl, rfl⟩

theorem fail : AcceptsC (Fields.fail : Fields σ α).get (fun _ _ => False) :=
  Reads.reject fun _ _ _ h => by cases h

theorem ite {c : Prop} [Decidable c] {m₁ m₂ : Fields σ α} {G₁ G₂ : α → Bytes → Prop}
    (h₁ : AcceptsC m₁.get G₁) (h₂ : AcceptsC m₂.get G₂) :
    AcceptsC (if c then m₁ else m₂).get (fun v b => if c then G₁ v b else G₂ v b) := by
  split
  · rename_i hc; simpa [hc] using h₁
  · rename_i hc; simpa [hc] using h₂

theorem getBytes (n : Nat) : AcceptsC (Rpcgen.getBytes n) (fun v c => v.length = n ∧ c = v) where
  sound := by
    intro x v x' h
    obtain ⟨hn, hr⟩ := DecodeAgree.getBytes_some.mp h
    obtain ⟨rfl, rfl⟩ := Prod.mk.inj hr
    exact ⟨_, ⟨List.length_take_of_le hn, rfl⟩, (List.take_append_drop _ _).symm⟩
  complete := by
    rintro ⟨u, bools⟩ v c rest ⟨rfl, rfl⟩ hu
    obtain rfl : u = c ++ rest := hu
    exact ⟨⟨rest, bools⟩, DecodeAgree.getBytes_some.mpr ⟨by simp, by simp⟩, rfl⟩

theorem xdrUInt32 : AcceptsC Rpcgen.xdrUInt32.decode (fun v c => c = putU32 v) :=
  (bind (getBytes 4) fun _ => ret _).congr word_spelling

theorem xdrEnum : AcceptsC Rpcgen.xdrEnum.decode (fun v c => c = putEnum v) :=
  (bind xdrUInt32 fun _ => ret _).congr enum_spelling

theorem xdrBytes (maxSize : Nat) (hm : maxSize < 4294967296) :
    AcceptsC (Rpcgen.xdrBytes maxSize).decode (fun v c => v.length ≤ maxSize ∧ OpaqueBytes v c) := by
  have hb : ∀ size : UInt32, AcceptsC
      (if size.toNat > maxSize then failure else do
        let v ← Rpcgen.getBytes size.toNat
        let _ ← Rpcgen.getBytes (roundUp size.toNat)
        return v)
      (fun v c => size.toNat ≤ maxSize ∧ v.length = size.toNat ∧
        ∃ pad : Bytes, pad.length = padLen size.toNat ∧ c = v ++ pad) := by
    intro size
    rw [← DecodeAgree.padLen_eq_roundUp]
    split
    · refine (Reads.reject fun _ _ _ h => by cases h).congr fun v c => ?_
      exact ⟨False.elim, fun h => by omega⟩
    refine (bind (getBytes _) fun data => bind (getBytes _) fun _ => ret data).congr fun v c => ?_
    constructor
    · rintro ⟨_, data, _, ⟨hd, rfl⟩, ⟨_, pad, _, ⟨hp, rfl⟩, ⟨rfl, rfl⟩, rfl⟩, rfl⟩
      exact ⟨by omega, hd, pad, hp, by rw [List.append_nil]⟩
    · rintro ⟨-, hd, pad, hp, rfl⟩
      exact ⟨v, v, pad, ⟨hd, rfl⟩, ⟨pad, pad, [], ⟨hp, rfl⟩, ⟨rfl, rfl⟩,
        (List.append_nil pad).symm⟩, rfl⟩
  refine (bind xdrUInt32 hb).congr fun v c => ?_
  constructor
  · rintro ⟨size, _, _, rfl, ⟨hs, hv, pad, hp, rfl⟩, rfl⟩
    refine ⟨by omega, by omega, pad, by rw [hp, hv], ?_⟩
    rw [hv, UInt32.ofNat_toNat]
  · rintro ⟨hv, hl, pad, hp, rfl⟩
    have hs := UInt32.toNat_ofNat_of_lt' hl
    exact ⟨_, _, _, rfl, ⟨by omega, hs.symm, pad, by rw [hs, hp], rfl⟩, rfl⟩

end AcceptsC

/-! ## The grammar of messages -/

def AuthBytes (a : OpaqueAuth) (c : Bytes) : Prop :=
  a.body.length ≤ 400 ∧ ∃ body, OpaqueBytes a.body body ∧ c = putEnum a.flavor ++ body

def CallBytes (h : CallHeader) (c : Bytes) : Prop :=
  ∃ cred verf, AuthBytes h.cred cred ∧ AuthBytes h.verf verf ∧
    c = List.flatten [putU32 h.rpcvers, putU32 h.prog, putU32 h.vers, putU32 h.procNum, cred, verf]

def ReplyDataBytes : GpRpcReplyUnion → Bytes → Prop
  | .results, c => c = putEnum GP_RPC_SUCCESS
  | .mismatchInfo info, c =>
    c = List.flatten [putEnum GP_RPC_PROG_MISMATCH, putU32 info.low, putU32 info.high]
  | .void status, c =>
    (status ≠ GP_RPC_SUCCESS ∧ status ≠ GP_RPC_PROG_MISMATCH) ∧ c = putEnum status

def RejectedBytes : GpRpcRejectedReply → Bytes → Prop
  | .mismatchInfo info, c =>
    c = List.flatten [putEnum GP_RPC_RPC_MISMATCH, putU32 info.low, putU32 info.high]
  | .status authStatus, c => c = List.flatten [putEnum GP_RPC_AUTH_ERROR, putEnum authStatus]

def ReplyBytes : GpRpcReplyHeader → Bytes → Prop
  | .accepted reply, c => ∃ verf data, AuthBytes reply.verf verf ∧
    ReplyDataBytes reply.replyData data ∧ c = List.flatten [putEnum GP_RPC_MSG_ACCEPTED, verf, data]
  | .rejected reply, c => ∃ data, RejectedBytes reply data ∧
    c = List.flatten [putEnum GP_RPC_MSG_DENIED, data]

def MsgBytes (m : GpRpcMsg) (c : Bytes) : Prop :=
  match m.header with
  | .chdr header => ∃ body, CallBytes header body ∧
    c = List.flatten [putU32 m.xid, putEnum GP_RPC_CALL, body]
  | .rhdr header => ∃ body, ReplyBytes header body ∧
    c = List.flatten [putU32 m.xid, putEnum GP_RPC_REPLY, body]

/-! ## What the generated decoder recognises -/

theorem xdrGpRpcOpaqueAuth_accepts : AcceptsC xdrGpRpcOpaqueAuth.decode AuthBytes := by
  refine (AcceptsC.xdrEnum.bind fun _ => (AcceptsC.xdrBytes 400 (by decide)).map _).congr
    fun a c => ?_
  constructor
  · rintro ⟨flavor, _, _, rfl, ⟨body, ⟨hl, hb⟩, rfl⟩, rfl⟩; exact ⟨hl, _, hb, rfl⟩
  · rintro ⟨hl, c', hb, rfl⟩; exact ⟨_, _, _, rfl, ⟨_, ⟨hl, hb⟩, rfl⟩, rfl⟩

theorem xdrGpRpcMismatchInfo_accepts : AcceptsC xdrGpRpcMismatchInfo.decode
    (fun info c => c = List.flatten [putU32 info.low, putU32 info.high]) := by
  refine (AcceptsC.xdrUInt32.bind fun _ => AcceptsC.xdrUInt32.map _).congr fun info c => ?_
  constructor
  · rintro ⟨low, _, _, rfl, ⟨high, rfl, rfl⟩, rfl⟩; simp
  · rintro rfl; exact ⟨_, _, _, rfl, ⟨_, rfl, rfl⟩, by simp⟩

theorem xdrGpRpcCallHeader_accepts : AcceptsC xdrGpRpcCallHeader.decode CallBytes := by
  refine (AcceptsC.xdrUInt32.bind fun _ => AcceptsC.xdrUInt32.bind fun _ =>
    AcceptsC.xdrUInt32.bind fun _ => AcceptsC.xdrUInt32.bind fun _ =>
    xdrGpRpcOpaqueAuth_accepts.bind fun _ => xdrGpRpcOpaqueAuth_accepts.map _).congr fun h c => ?_
  constructor
  · rintro ⟨_, _, _, rfl, ⟨_, _, _, rfl, ⟨_, _, _, rfl, ⟨_, _, _, rfl, ⟨_, cred, _, hc,
      ⟨_, hv, rfl⟩, rfl⟩, rfl⟩, rfl⟩, rfl⟩, rfl⟩
    exact ⟨_, _, hc, hv, by simp⟩
  · rintro ⟨cred, verf, hc, hv, rfl⟩
    exact ⟨_, _, _, rfl, ⟨_, _, _, rfl, ⟨_, _, _, rfl, ⟨_, _, _, rfl, ⟨_, _, _, hc,
      ⟨_, hv, rfl⟩, rfl⟩, rfl⟩, rfl⟩, rfl⟩, by simp⟩

theorem xdrGpRpcReplyUnion_accepts : AcceptsC xdrGpRpcReplyUnion.decode ReplyDataBytes := by
  refine (AcceptsC.xdrEnum.bind fun _ => AcceptsC.ite (AcceptsC.ret _) (AcceptsC.ite
    (xdrGpRpcMismatchInfo_accepts.map _) (AcceptsC.ret _))).congr fun data c => ?_
  rw [branch_spelling (by decide)]
  constructor
  · rintro (⟨_, ⟨rfl, rfl⟩, rfl⟩ | ⟨_, ⟨info, rfl, rfl⟩, rfl⟩ | ⟨status, _, hs, ⟨rfl, rfl⟩, rfl⟩)
    · exact List.append_nil _
    · exact rfl
    · exact ⟨hs, List.append_nil _⟩
  · intro h
    cases data with
    | results => exact .inl ⟨[], ⟨rfl, rfl⟩, h.trans (List.append_nil _).symm⟩
    | mismatchInfo info => exact .inr (.inl ⟨_, ⟨info, rfl, rfl⟩, h⟩)
    | void status =>
      exact .inr (.inr ⟨status, [], h.1, ⟨rfl, rfl⟩, h.2.trans (List.append_nil _).symm⟩)

theorem xdrGpRpcAcceptedReply_accepts : AcceptsC xdrGpRpcAcceptedReply.decode
    (fun reply c => ∃ verf data, AuthBytes reply.verf verf ∧
      ReplyDataBytes reply.replyData data ∧ c = verf ++ data) := by
  refine (xdrGpRpcOpaqueAuth_accepts.bind fun _ => xdrGpRpcReplyUnion_accepts.map _).congr
    fun reply c => ?_
  constructor
  · rintro ⟨_, verf, data, hv, ⟨_, hd, rfl⟩, rfl⟩; exact ⟨verf, data, hv, hd, rfl⟩
  · rintro ⟨verf, data, hv, hd, rfl⟩; exact ⟨_, verf, data, hv, ⟨_, hd, rfl⟩, rfl⟩

theorem xdrGpRpcRejectedReply_accepts : AcceptsC xdrGpRpcRejectedReply.decode RejectedBytes := by
  have hne : GP_RPC_AUTH_ERROR ≠ GP_RPC_RPC_MISMATCH := by decide
  refine (AcceptsC.xdrEnum.bind fun _ => AcceptsC.ite (xdrGpRpcMismatchInfo_accepts.map _)
    (AcceptsC.ite (AcceptsC.xdrEnum.map _) AcceptsC.fail)).congr fun reply c => ?_
  rw [branch_spelling hne]
  constructor
  · rintro (⟨_, ⟨info, rfl, rfl⟩, rfl⟩ | ⟨_, ⟨authStatus, rfl, rfl⟩, rfl⟩ | ⟨_, _, -, ⟨⟩, -⟩)
    · exact rfl
    · simp [RejectedBytes]
  · intro h
    cases reply with
    | mismatchInfo info => exact .inl ⟨_, ⟨info, rfl, rfl⟩, h⟩
    | status authStatus =>
      exact .inr (.inl ⟨_, ⟨authStatus, rfl, rfl⟩, by simpa [RejectedBytes] using h⟩)

theorem xdrGpRpcReplyHeader_accepts : AcceptsC xdrGpRpcReplyHeader.decode ReplyBytes := by
  have hne : GP_RPC_MSG_DENIED ≠ GP_RPC_MSG_ACCEPTED := by decide
  refine (AcceptsC.xdrEnum.bind fun _ => AcceptsC.ite (xdrGpRpcAcceptedReply_accepts.map _)
    (AcceptsC.ite (xdrGpRpcRejectedReply_accepts.map _) AcceptsC.fail)).congr fun header c => ?_
  rw [branch_spelling hne]
  constructor
  · rintro (⟨_, ⟨reply, ⟨verf, data, hv, hd, rfl⟩, rfl⟩, rfl⟩ |
      ⟨data, ⟨reply, hr, rfl⟩, rfl⟩ | ⟨_, _, -, ⟨⟩, -⟩)
    · exact ⟨verf, data, hv, hd, by simp⟩
    · exact ⟨data, hr, by simp⟩
  · intro h
    cases header with
    | accepted reply =>
      obtain ⟨verf, data, hv, hd, rfl⟩ := h
      exact .inl ⟨_, ⟨reply, ⟨verf, data, hv, hd, rfl⟩, rfl⟩, by simp⟩
    | rejected reply =>
      obtain ⟨data, hd, rfl⟩ := h
      exact .inr (.inl ⟨data, ⟨reply, hd, rfl⟩, by simp⟩)

theorem xdrGpRpcMsgUnion_accepts : AcceptsC xdrGpRpcMsgUnion.decode
    (fun header c => ∃ body, c = putEnum header.type ++ body ∧
      match header with
      | .chdr header => CallBytes header body
      | .rhdr header => ReplyBytes header body) := by
  have hne : GP_RPC_REPLY ≠ GP_RPC_CALL := by decide
  refine (AcceptsC.xdrEnum.bind fun _ => AcceptsC.ite (xdrGpRpcCallHeader_accepts.map _)
    (AcceptsC.ite (xdrGpRpcReplyHeader_accepts.map _) AcceptsC.fail)).congr fun header c => ?_
  rw [branch_spelling hne]
  constructor
  · rintro (⟨body, ⟨header, hb, rfl⟩, rfl⟩ | ⟨body, ⟨header, hb, rfl⟩, rfl⟩ |
      ⟨_, _, -, ⟨⟩, -⟩)
    · exact ⟨body, rfl, hb⟩
    · exact ⟨body, rfl, hb⟩
  · rintro ⟨body, rfl, hb⟩
    cases header with
    | chdr header => exact .inl ⟨body, ⟨header, hb, rfl⟩, rfl⟩
    | rhdr header => exact .inr (.inl ⟨body, ⟨header, hb, rfl⟩, rfl⟩)

theorem xdrGpRpcMsg_accepts : AcceptsC xdrGpRpcMsg.decode MsgBytes := by
  refine (AcceptsC.xdrUInt32.bind fun _ => xdrGpRpcMsgUnion_accepts.map _).congr fun m c => ?_
  constructor
  · rintro ⟨xid, _, _, rfl, ⟨header, ⟨body, rfl, hb⟩, rfl⟩, rfl⟩
    cases header <;> exact ⟨body, hb, by simp [GpRpcMsgUnion.type]⟩
  · intro h
    obtain ⟨xid, header⟩ := m
    cases header <;>
      obtain ⟨body, hb, rfl⟩ := h <;>
      exact ⟨xid, _, _, rfl, ⟨_, ⟨body, rfl, hb⟩, rfl⟩, by simp [GpRpcMsgUnion.type]⟩

/-! ## What the hand-written decoder recognises -/

def KnownFlavor (flavor : Int32) : Prop :=
  flavor = 0 ∨ flavor = 1 ∨ flavor = 2 ∨ flavor = 3 ∨ flavor = 6

instance (flavor : Int32) : Decidable (KnownFlavor flavor) :=
  inferInstanceAs (Decidable (_ ∨ _))

theorem fromI32_ok (flavor : Int32) :
    (∃ f, AuthFlavor.fromI32 flavor = .ok f) ↔ KnownFlavor flavor := by
  unfold AuthFlavor.fromI32 KnownFlavor
  split_ifs <;> simp_all

theorem decodeAuth_accepts : Accepts (decode : XdrDecoder OpaqueAuth)
    (fun a c => KnownFlavor a.flavor ∧ AuthBytes a c) := by
  refine (Accepts.getEnum.bind fun flavor => (Accepts.lift (AuthFlavor.fromI32 flavor)).bind
    fun _ => Accepts.getOpaque.bind fun _ => Accepts.ite (Accepts.reject _)
      (Accepts.ret _)).congr fun a c => ?_
  constructor
  · rintro ⟨flavor, _, _, rfl, ⟨f, _, _, ⟨hf, rfl⟩, ⟨body, c', _, hb, h, rfl⟩, rfl⟩, rfl⟩
    split at h
    · exact h.elim
    · rename_i hl
      obtain ⟨rfl, rfl⟩ := h
      exact ⟨(fromI32_ok flavor).mp ⟨f, hf⟩, Nat.le_of_not_lt hl, c', hb, by simp⟩
  · rintro ⟨hk, hl, c', hb, rfl⟩
    obtain ⟨f, hf⟩ := (fromI32_ok a.flavor).mpr hk
    refine ⟨_, _, _, rfl, ⟨f, _, _, ⟨hf, rfl⟩, ⟨_, c', [], hb, ?_, rfl⟩, rfl⟩, by simp⟩
    rw [if_neg (Nat.not_lt.mpr hl)]
    exact ⟨rfl, rfl⟩

theorem decodeCall_accepts : Accepts (decode : XdrDecoder CallHeader)
    (fun h c => (KnownFlavor h.cred.flavor ∧ KnownFlavor h.verf.flavor) ∧ CallBytes h c) := by
  refine (Accepts.getU32.bind fun _ => Accepts.getU32.bind fun _ => Accepts.getU32.bind fun _ =>
    Accepts.getU32.bind fun _ => decodeAuth_accepts.bind fun _ =>
      decodeAuth_accepts.map _).congr fun h c => ?_
  constructor
  · rintro ⟨_, _, _, rfl, ⟨_, _, _, rfl, ⟨_, _, _, rfl, ⟨_, _, _, rfl, ⟨_, cred, _,
      ⟨hc, hcr⟩, ⟨_, ⟨hv, hve⟩, rfl⟩, rfl⟩, rfl⟩, rfl⟩, rfl⟩, rfl⟩
    exact ⟨⟨hc, hv⟩, _, _, hcr, hve, by simp⟩
  · rintro ⟨⟨hc, hv⟩, cred, verf, hcr, hve, rfl⟩
    exact ⟨_, _, _, rfl, ⟨_, _, _, rfl, ⟨_, _, _, rfl, ⟨_, _, _, rfl, ⟨_, _, _,
      ⟨hc, hcr⟩, ⟨_, ⟨hv, hve⟩, rfl⟩, rfl⟩, rfl⟩, rfl⟩, rfl⟩, by simp⟩

/-- A reply body and a generated header hold the same.  A denial keeps one word here, so that only
    authentication errors have a counterpart. -/
inductive SameReply : ReplyBody → GpRpcReplyHeader → Prop where
  | success (verf : OpaqueAuth) : SameReply (.acceptedSuccess verf) (.accepted ⟨verf, .results⟩)
  | progMismatch (verf : OpaqueAuth) (info : MismatchInfo) :
    SameReply (.progMismatch verf info) (.accepted ⟨verf, .mismatchInfo info⟩)
  | other (verf : OpaqueAuth) (status : Int32) :
    SameReply (.acceptedOther verf status) (.accepted ⟨verf, .void status⟩)
  | authError (value : Int32) :
    SameReply (.denied GP_RPC_AUTH_ERROR value) (.rejected (.status value))

inductive SameMessage : Message → GpRpcMsg → Prop where
  | call (xid : UInt32) (header : CallHeader) :
    SameMessage ⟨xid, true, some header, none⟩ ⟨xid, .chdr header⟩
  | reply (xid : UInt32) {body : ReplyBody} {header : GpRpcReplyHeader}
    (h : SameReply body header) : SameMessage ⟨xid, false, none, some body⟩ ⟨xid, .rhdr header⟩

def KnownReply : GpRpcReplyHeader → Prop
  | .accepted reply => KnownFlavor reply.verf.flavor
  | .rejected _ => True

def OtherDenial (body : ReplyBody) (c : Bytes) : Prop :=
  ∃ rejectStatus value, rejectStatus ≠ GP_RPC_AUTH_ERROR ∧ body = .denied rejectStatus value ∧
    c = List.flatten [putEnum GP_RPC_MSG_DENIED, putEnum rejectStatus, putEnum value]

theorem decodeAccepted_accepts (verf : OpaqueAuth) : Accepts
    (do
      let accept ← getEnum
      if accept = ACCEPT_SUCCESS then
        return .acceptedSuccess verf
      else if accept = ACCEPT_PROG_MISMATCH then
        return .progMismatch verf { low := ← getU32, high := ← getU32 }
      else
        return .acceptedOther verf accept)
    (fun body c => ∃ data, SameReply body (.accepted ⟨verf, data⟩) ∧ ReplyDataBytes data c) := by
  refine (Accepts.getEnum.bind fun _ => Accepts.ite (Accepts.ret _) (Accepts.ite
    (Accepts.getU32.bind fun _ => Accepts.getU32.map _) (Accepts.ret _))).congr fun body c => ?_
  rw [branch_spelling (by decide)]
  constructor
  · rintro (⟨_, ⟨rfl, rfl⟩, rfl⟩ | ⟨_, ⟨low, _, _, rfl, ⟨high, rfl, rfl⟩, rfl⟩, rfl⟩ |
      ⟨accept, _, ha, ⟨rfl, rfl⟩, rfl⟩)
    · exact ⟨.results, .success verf, List.append_nil _⟩
    · exact ⟨.mismatchInfo ⟨low, high⟩, .progMismatch verf _, by simp [ReplyDataBytes]; rfl⟩
    · exact ⟨.void accept, .other verf accept, ha, List.append_nil _⟩
  · rintro ⟨data, hs, hd⟩
    cases hs with
    | success => exact .inl ⟨[], ⟨rfl, rfl⟩, hd.trans (List.append_nil _).symm⟩
    | progMismatch _ info =>
      exact .inr (.inl ⟨_, ⟨info.low, _, _, rfl, ⟨info.high, rfl, rfl⟩, by simp⟩, hd⟩)
    | other _ status =>
      exact .inr (.inr ⟨status, [], hd.1, ⟨rfl, rfl⟩, hd.2.trans (List.append_nil _).symm⟩)

theorem decodeReply_accepts : Accepts ReplyBody.decode (fun body c => OtherDenial body c ∨
    ∃ header, SameReply body header ∧ KnownReply header ∧ ReplyBytes header c) := by
  have hne : REPLY_DENIED ≠ REPLY_ACCEPTED := by decide
  refine (Accepts.getEnum.bind fun _ => Accepts.ite
    (decodeAuth_accepts.bind fun verf => decodeAccepted_accepts verf)
    (Accepts.ite (Accepts.getEnum.bind fun _ => Accepts.getEnum.map _)
      (Accepts.reject _))).congr fun body c => ?_
  rw [branch_spelling hne]
  constructor
  · rintro (⟨_, ⟨verf, cv, cd, ⟨hk, hv⟩, ⟨data, hs, hd⟩, rfl⟩, rfl⟩ |
      ⟨_, ⟨rejectStatus, _, _, rfl, ⟨value, rfl, rfl⟩, rfl⟩, rfl⟩ | ⟨_, _, -, ⟨⟩, -⟩)
    · exact .inr ⟨_, hs, hk, cv, cd, hv, hd, by simp [REPLY_ACCEPTED, GP_RPC_MSG_ACCEPTED]⟩
    · by_cases hr : rejectStatus = GP_RPC_AUTH_ERROR
      · subst hr
        exact .inr ⟨_, .authError value, trivial, _, rfl, by simp [REPLY_DENIED, GP_RPC_MSG_DENIED]⟩
      · exact .inl ⟨rejectStatus, value, hr, rfl, by simp [REPLY_DENIED, GP_RPC_MSG_DENIED]⟩
  · rintro (⟨rejectStatus, value, -, rfl, rfl⟩ | ⟨header, hs, hk, hb⟩)
    · exact .inr (.inl ⟨_, ⟨rejectStatus, _, _, rfl, ⟨value, rfl, rfl⟩, by simp⟩, rfl⟩)
    · cases header with
      | accepted reply =>
        obtain ⟨cv, cd, hv, hd, rfl⟩ := hb
        exact .inl ⟨_, ⟨reply.verf, cv, cd, ⟨hk, hv⟩, ⟨reply.replyData, hs, hd⟩, rfl⟩,
          by simp [REPLY_ACCEPTED, GP_RPC_MSG_ACCEPTED]⟩
      | rejected reply =>
        cases hs with
        | authError value =>
          obtain ⟨_, rfl, rfl⟩ := hb
          exact .inr (.inl ⟨_, ⟨GP_RPC_AUTH_ERROR, _, _, rfl, ⟨value, rfl, rfl⟩, by simp⟩, rfl⟩)

def KnownMsg (m : GpRpcMsg) : Prop :=
  match m.header with
  | .chdr header => KnownFlavor header.cred.flavor ∧ KnownFlavor header.verf.flavor
  | .rhdr header => KnownReply header

def DenialMessage (m : Message) (c : Bytes) : Prop :=
  ∃ xid body bytes, m = ⟨xid, false, none, some body⟩ ∧ OtherDenial body bytes ∧
    c = List.flatten [putU32 xid, putEnum GP_RPC_REPLY, bytes]

theorem decodeMessage_accepts : Accepts Message.decode (fun m c => DenialMessage m c ∨
    ∃ m', SameMessage m m' ∧ KnownMsg m' ∧ MsgBytes m' c) := by
  have hne : MSG_REPLY ≠ MSG_CALL := by decide
  refine (Accepts.getU32.bind fun _ => (Accepts.getEnum.bind fun _ => Accepts.ite
    (decodeCall_accepts.map _) (Accepts.ite (decodeReply_accepts.map _)
      (Accepts.reject _))).congr fun _ _ => branch_spelling hne).congr fun m c => ?_
  constructor
  · rintro ⟨xid, _, _, rfl, ⟨bytes, ⟨header, ⟨hk, hc⟩, rfl⟩, rfl⟩ |
      ⟨bytes, ⟨body, hbo | ⟨header, hs, hk, hr⟩, rfl⟩, rfl⟩ | ⟨_, _, -, ⟨⟩, -⟩, rfl⟩
    · exact .inr ⟨_, .call xid header, hk, bytes, hc, by simp [MSG_CALL, GP_RPC_CALL]⟩
    · exact .inl ⟨xid, body, bytes, rfl, hbo, by simp [MSG_REPLY, GP_RPC_REPLY]⟩
    · exact .inr ⟨_, .reply xid hs, hk, bytes, hr, by simp [MSG_REPLY, GP_RPC_REPLY]⟩
  · rintro (⟨xid, body, bytes, rfl, hd, rfl⟩ | ⟨m', hs, hk, hb⟩)
    · exact ⟨xid, _, _, rfl, .inr (.inl ⟨bytes, ⟨body, .inl hd, rfl⟩, rfl⟩),
        by simp [MSG_REPLY, GP_RPC_REPLY]⟩
    · cases hs with
      | call xid header =>
        obtain ⟨bytes, hc, rfl⟩ := hb
        exact ⟨xid, _, _, rfl, .inl ⟨bytes, ⟨header, ⟨hk, hc⟩, rfl⟩, rfl⟩,
          by simp [MSG_CALL, GP_RPC_CALL]⟩
      | reply xid hs =>
        obtain ⟨bytes, hr, rfl⟩ := hb
        exact ⟨xid, _, _, rfl, .inr (.inl ⟨bytes, ⟨_, .inr ⟨_, hs, hk, hr⟩, rfl⟩, rfl⟩),
          by simp [MSG_REPLY, GP_RPC_REPLY]⟩

/-! ## Where the two decoders agree -/

/-- The two decoders do the same with these bytes. -/
structure AgreeOn (buf : Bytes) : Prop where
  to_c : ∀ m st, Message.decode.run (Stream.new buf) = .ok (m, st) →
    ∃ m' x, xdrGpRpcMsg.decode.run (XdrMem.new buf) = some (m', x) ∧ SameMessage m m' ∧
      x.unread = st.unread
  to_rust : ∀ m' x, xdrGpRpcMsg.decode.run (XdrMem.new buf) = some (m', x) →
    ∃ m st, Message.decode.run (Stream.new buf) = .ok (m, st) ∧ SameMessage m m' ∧
      st.unread = x.unread

/-- Where they part: a complete header with a flavor outside the table, and a denial other than an
    authentication error with a word after it. -/
inductive Diverges : Bytes → Prop where
  | unknownFlavor {m : GpRpcMsg} {c : Bytes} (hbytes : MsgBytes m c) (hflavor : ¬ KnownMsg m)
    (rest : Bytes) : Diverges (c ++ rest)
  | denial (xid : UInt32) (rejectStatus : Int32) (hreject : rejectStatus ≠ GP_RPC_AUTH_ERROR)
    (word : Int32) (rest : Bytes) :
    Diverges (List.flatten [putU32 xid, putEnum GP_RPC_REPLY, putEnum GP_RPC_MSG_DENIED,
      putEnum rejectStatus, putEnum word] ++ rest)

theorem SameMessage.eq_right {m₁ m₂ : GpRpcMsg} (h₁ : SameMessage m m₁)
    (h₂ : SameMessage m m₂) : m₁ = m₂ := by
  cases h₁ with
  | call => cases h₂; rfl
  | reply xid h₁ =>
    cases h₂ with
    | reply _ h₂ => cases h₁ <;> cases h₂ <;> rfl

theorem exists_sameMessage (m : GpRpcMsg)
    (hm : ∀ info, m.header ≠ .rhdr (.rejected (.mismatchInfo info))) : ∃ m', SameMessage m' m := by
  obtain ⟨xid, header⟩ := m
  cases header with
  | chdr header => exact ⟨_, .call xid header⟩
  | rhdr header =>
    cases header with
    | accepted reply =>
      obtain ⟨verf, data⟩ := reply
      cases data with
      | results => exact ⟨_, .reply xid (.success verf)⟩
      | mismatchInfo info => exact ⟨_, .reply xid (.progMismatch verf info)⟩
      | void status => exact ⟨_, .reply xid (.other verf status)⟩
    | rejected reply =>
      cases reply with
      | mismatchInfo info => exact absurd rfl (hm info)
      | status authStatus => exact ⟨_, .reply xid (.authError authStatus)⟩

theorem denial_diverges (h : DenialMessage m c) (rest : Bytes) : Diverges (c ++ rest) := by
  obtain ⟨xid, body, bytes, rfl, ⟨rejectStatus, value, hr, rfl, rfl⟩, rfl⟩ := h
  have hd := Diverges.denial xid rejectStatus hr value rest
  simpa using hd

theorem mismatch_diverges {m : GpRpcMsg} {info : MismatchInfo}
    (hm : m.header = .rhdr (.rejected (.mismatchInfo info))) (h : MsgBytes m c) (rest : Bytes) :
    Diverges (c ++ rest) := by
  unfold MsgBytes at h
  rw [hm] at h
  obtain ⟨_, ⟨_, rfl, rfl⟩, rfl⟩ := h
  have hd := Diverges.denial m.xid GP_RPC_RPC_MISMATCH (by decide) info.low.toInt32
    (putU32 info.high ++ rest)
  have hl : putEnum info.low.toInt32 = putU32 info.low := by simp [putEnum, putI32]
  rw [hl] at hd
  simpa using hd

theorem DenialMessage.not_same {m' : GpRpcMsg} (h : DenialMessage m c) : ¬ SameMessage m m' := by
  obtain ⟨xid, body, bytes, rfl, ⟨rejectStatus, value, hr, rfl, rfl⟩, rfl⟩ := h
  intro hs
  cases hs with
  | reply _ hre => cases hre; exact hr rfl

theorem agreeOn_of_not_diverges {buf : Bytes} (h : ¬ Diverges buf) : AgreeOn buf where
  to_c m st hru := by
    obtain ⟨c, hd | ⟨m', hs, -, hb⟩, hu⟩ := decodeMessage_accepts.sound hru
    · have hbu : buf = c ++ st.unread := hu
      exact absurd (hbu ▸ denial_diverges hd st.unread) h
    · obtain ⟨x, hx, hr⟩ := xdrGpRpcMsg_accepts.complete (s := XdrMem.new buf) hb hu
      exact ⟨m', x, hx, hs, hr⟩
  to_rust m' x hru := by
    obtain ⟨c, hb, hu⟩ := xdrGpRpcMsg_accepts.sound hru
    have hbu : buf = c ++ x.unread := hu
    have hk : KnownMsg m' := by
      by_contra hf
      exact h (hbu ▸ Diverges.unknownFlavor hb hf x.unread)
    obtain ⟨m, hs⟩ := exists_sameMessage m' fun info hi =>
      h (hbu ▸ mismatch_diverges hi hb x.unread)
    obtain ⟨st, hst, hr⟩ := decodeMessage_accepts.complete (s := Stream.new buf)
      (.inr ⟨m', hs, hk, hb⟩) hu
    exact ⟨m, st, hst, hs, hr⟩

theorem not_diverges_of_agreeOn {buf : Bytes} (h : AgreeOn buf) : ¬ Diverges buf := by
  intro hd
  cases hd with
  | @unknownFlavor m c hb hf rest =>
    -- the generated decoder accepts, the hand-written one would have to know the flavor
    obtain ⟨x, hx, -⟩ := xdrGpRpcMsg_accepts.complete (s := XdrMem.new (c ++ rest)) hb rfl
    obtain ⟨m', st, hru, hs, -⟩ := h.to_rust m x hx
    obtain ⟨c', hde | ⟨m'', hs', hk, -⟩, -⟩ := decodeMessage_accepts.sound hru
    · exact hde.not_same hs
    · rw [hs'.eq_right hs] at hk; exact hf hk
  | denial xid rejectStatus hr word rest =>
    -- the hand-written decoder accepts a message that has no counterpart
    have hde : DenialMessage ⟨xid, false, none, some (.denied rejectStatus word)⟩
        (List.flatten [putU32 xid, putEnum GP_RPC_REPLY, putEnum GP_RPC_MSG_DENIED,
          putEnum rejectStatus, putEnum word]) :=
      ⟨xid, _, _, rfl, ⟨rejectStatus, word, hr, rfl, rfl⟩, by simp⟩
    obtain ⟨st, hst, -⟩ := decodeMessage_accepts.complete
      (s := Stream.new (List.flatten _ ++ rest)) (.inl hde) rfl
    obtain ⟨m', x, -, hs, -⟩ := h.to_c _ st hst
    exact hde.not_same hs

/-! ## Replies -/

/-- The replies that the C daemon sends. -/
def EmittedC : GpRpcReplyHeader → Prop
  | .accepted reply => reply.verf = OpaqueAuth.none ∧ ∀ status, reply.replyData = .void status →
      status ≠ GP_RPC_SUCCESS ∧ status ≠ GP_RPC_PROG_MISMATCH
  | .rejected _ => True

/-- The replies that the Rust daemon sends. -/
def EmittedRust : ReplyBody → Prop
  | .acceptedSuccess verf => verf = OpaqueAuth.none
  | .progMismatch verf _ => verf = OpaqueAuth.none
  | .acceptedOther verf status => verf = OpaqueAuth.none ∧
    status ≠ ACCEPT_SUCCESS ∧ status ≠ ACCEPT_PROG_MISMATCH
  | .denied rejectStatus _ => rejectStatus = GP_RPC_RPC_MISMATCH ∨ rejectStatus = GP_RPC_AUTH_ERROR

/-- What the generated encoder writes for a reply is decoded by hand as the same. -/
def RustReads (header : GpRpcReplyHeader) : Prop :=
  ∀ xid, ∃ bytes, xdrGpRpcMsg.encode ⟨xid, .rhdr header⟩ = some bytes ∧ ∀ rest, ∃ m st,
    Message.decode.run (Stream.new (bytes ++ rest)) = .ok (m, st) ∧
      SameMessage m ⟨xid, .rhdr header⟩ ∧ st.unread = rest

/-- What the hand-written encoder writes for a reply is decoded by the generated one as the same. -/
def CReads (body : ReplyBody) : Prop :=
  ∀ xid, ∃ bytes, Message.encode ⟨xid, false, none, some body⟩ = some bytes ∧ ∀ rest, ∃ m' x,
    xdrGpRpcMsg.decode.run (XdrMem.new (bytes ++ rest)) = some (m', x) ∧
      SameMessage ⟨xid, false, none, some body⟩ m' ∧ x.unread = rest

theorem authNone_bytes : AuthBytes OpaqueAuth.none (encode OpaqueAuth.none) :=
  ⟨by decide, _, ⟨by decide, [], by decide, rfl⟩, by simp [encode, OpaqueAuth.none, putOpaque, padLen]⟩

theorem encodeUnion_void {status : Int32} (hs : status ≠ GP_RPC_SUCCESS)
    (hm : status ≠ GP_RPC_PROG_MISMATCH) :
    xdrGpRpcReplyUnion.encode (.void status) = some (putEnum status) := by
  rw [← List.append_nil (putEnum status)]
  refine proc_encode (.void status) (put_bind (put_field rfl) ?_)
  rw [GpRpcReplyUnion.status, if_neg hs, if_neg hm]
  rfl

theorem encodeC_accepted (xid : UInt32) {data : GpRpcReplyUnion} {bytes : Bytes}
    (hd : xdrGpRpcReplyUnion.encode data = some bytes) :
    xdrGpRpcMsg.encode ⟨xid, .rhdr (.accepted ⟨OpaqueAuth.none, data⟩)⟩ =
      some (List.flatten [putU32 xid, putEnum GP_RPC_REPLY, putEnum GP_RPC_MSG_ACCEPTED,
        encode OpaqueAuth.none, bytes]) := by
  have ha : xdrGpRpcAcceptedReply.encode ⟨OpaqueAuth.none, data⟩ =
      some (encode OpaqueAuth.none ++ bytes) :=
    proc_encode _ (put_bind (put_field rfl) (put_map (put_field hd)))
  have hh : xdrGpRpcReplyHeader.encode (.accepted ⟨OpaqueAuth.none, data⟩) =
      some (putEnum GP_RPC_MSG_ACCEPTED ++ (encode OpaqueAuth.none ++ bytes)) := by
    refine proc_encode (.accepted ⟨OpaqueAuth.none, data⟩) (put_bind (put_field rfl) ?_)
    exact put_map (put_arm rfl ha)
  have hu : xdrGpRpcMsgUnion.encode (.rhdr (.accepted ⟨OpaqueAuth.none, data⟩)) =
      some (putEnum GP_RPC_REPLY ++ (putEnum GP_RPC_MSG_ACCEPTED ++
        (encode OpaqueAuth.none ++ bytes))) := by
    refine proc_encode (.rhdr (.accepted ⟨OpaqueAuth.none, data⟩)) (put_bind (put_field rfl) ?_)
    exact put_map (put_arm rfl hh)
  rw [xdrGpRpcMsg, proc_encode _ (put_bind (put_field rfl) (put_map (put_field hu)))]
  simp [putU32]

theorem encodeC_bytes (xid : UInt32) {header : GpRpcReplyHeader} (h : EmittedC header) :
    ∃ bytes, xdrGpRpcMsg.encode ⟨xid, .rhdr header⟩ = some bytes ∧
      MsgBytes ⟨xid, .rhdr header⟩ bytes := by
  cases header with
  | accepted reply =>
    obtain ⟨verf, data⟩ := reply
    obtain ⟨rfl, hv⟩ := h
    have hd : ∃ bytes, xdrGpRpcReplyUnion.encode data = some bytes ∧ ReplyDataBytes data bytes := by
      cases data with
      | results | mismatchInfo _ => exact ⟨_, rfl, rfl⟩
      | void status =>
        obtain ⟨hs, hm⟩ := hv status rfl
        exact ⟨_, encodeUnion_void hs hm, ⟨hs, hm⟩, rfl⟩
    obtain ⟨bytes, he, hb⟩ := hd
    refine ⟨_, encodeC_accepted xid he, _, ⟨_, _, authNone_bytes, hb, rfl⟩, ?_⟩
    simp
  | rejected reply =>
    cases reply with
    | mismatchInfo _ | status => exact ⟨_, rfl, _, ⟨_, rfl, rfl⟩, rfl⟩

theorem rustReads_iff {header : GpRpcReplyHeader} (h : EmittedC header) :
    RustReads header ↔ ∀ info, header ≠ .rejected (.mismatchInfo info) := by
  constructor
  · rintro hr info rfl
    obtain ⟨bytes, -, hd⟩ := hr 0
    obtain ⟨m, st, -, hs, -⟩ := hd []
    cases hs with
    | reply _ hre => cases hre
  · intro hh xid
    obtain ⟨bytes, he, hb⟩ := encodeC_bytes xid h
    refine ⟨bytes, he, fun rest => ?_⟩
    obtain ⟨m, hs⟩ := exists_sameMessage ⟨xid, .rhdr header⟩ fun info hi =>
      hh info (GpRpcMsgUnion.rhdr.inj hi)
    have hk : KnownMsg ⟨xid, .rhdr header⟩ := by
      cases header with
      | accepted reply =>
        show KnownFlavor reply.verf.flavor
        rw [h.1]; decide
      | rejected reply => exact trivial
    obtain ⟨st, hst, hrs⟩ := decodeMessage_accepts.complete (s := Stream.new (bytes ++ rest))
      (.inr ⟨_, hs, hk, hb⟩) rfl
    exact ⟨m, st, hst, hs, hrs⟩

theorem encodeReply_bytes {body : ReplyBody} (h : EmittedRust body)
    (hb : ∀ value, body ≠ .denied GP_RPC_RPC_MISMATCH value) :
    ∃ header, SameReply body header ∧ ReplyBytes header body.encode := by
  cases body with
  | acceptedSuccess verf =>
    obtain rfl : verf = OpaqueAuth.none := h
    exact ⟨_, .success _, _, _, authNone_bytes, rfl, rfl⟩
  | progMismatch verf info =>
    obtain rfl : verf = OpaqueAuth.none := h
    exact ⟨_, .progMismatch _ info, _, _, authNone_bytes, rfl, rfl⟩
  | acceptedOther verf status =>
    obtain ⟨rfl, hs⟩ := h
    exact ⟨_, .other _ status, _, _, authNone_bytes, ⟨hs, rfl⟩, rfl⟩
  | denied rejectStatus value =>
    rcases h with rfl | rfl
    · exact absurd rfl (hb value)
    · exact ⟨_, .authError value, _, rfl, rfl⟩

theorem cReads_iff {body : ReplyBody} (h : EmittedRust body) :
    CReads body ↔ ∀ value, body ≠ .denied GP_RPC_RPC_MISMATCH value := by
  constructor
  · rintro hr value rfl
    obtain ⟨bytes, -, hd⟩ := hr 0
    obtain ⟨m', x, -, hs, -⟩ := hd []
    cases hs with
    | reply _ hre => cases hre
  · intro hbo xid
    refine ⟨_, rfl, fun rest => ?_⟩
    obtain ⟨header, hs, hb⟩ := encodeReply_bytes h hbo
    obtain ⟨x, hx, hrs⟩ := xdrGpRpcMsg_accepts.complete (v := ⟨xid, .rhdr header⟩)
      (s := XdrMem.new (_ ++ rest)) ⟨_, hb, rfl⟩ rfl
    exact ⟨_, x, hx, .reply xid hs, hrs⟩

/-- **Where the envelopes are compatible.**  The two decoders do the same with a byte string
    exactly when it is none of those of `Diverges`, and among the replies a daemon can send each
    side reads what the other writes exactly when it is not a version mismatch. -/
theorem envelope_agrees_iff (buf : Bytes) (header : GpRpcReplyHeader) (body : ReplyBody) :
    (AgreeOn buf ↔ ¬ Diverges buf) ∧
    (EmittedC header →
      (RustReads header ↔ ∀ info, header ≠ .rejected (.mismatchInfo info))) ∧
    (EmittedRust body →
      (CReads body ↔ ∀ value, body ≠ .denied GP_RPC_RPC_MISMATCH value)) :=
  ⟨⟨not_diverges_of_agreeOn, agreeOn_of_not_diverges⟩, rustReads_iff, cReads_iff⟩

theorem envelope_agrees_iff_authError :
    RustReads (.rejected (.status 7)) ∧ CReads (.denied GP_RPC_AUTH_ERROR 7) := by
  obtain ⟨-, hr, hc⟩ := envelope_agrees_iff [] (.rejected (.status 7)) (.denied GP_RPC_AUTH_ERROR 7)
  exact ⟨(hr trivial).mpr (by simp),
    (hc (.inr rfl)).mpr (by simp [GP_RPC_AUTH_ERROR, GP_RPC_RPC_MISMATCH])⟩

def rpcMismatch : Bytes :=
  [0, 0, 0, 9, 0, 0, 0, 1, 0, 0, 0, 1, 0, 0, 0, 0, 0, 0, 0, 2, 0, 0, 0, 2]

/-- The generated decoder reads both words of the mismatch record, the other one the first. -/
theorem envelope_differs_on_rpcMismatch :
    Message.decode.run (Stream.new rpcMismatch) =
      .ok (⟨9, false, none, some (.denied 0 2)⟩, ⟨[0, 0, 0, 2], rpcMismatch.take 20⟩) ∧
    xdrGpRpcMsg.decode.run (XdrMem.new rpcMismatch) =
      some (⟨9, .rhdr (.rejected (.mismatchInfo ⟨2, 2⟩))⟩, ⟨[], []⟩) := by
  decide +kernel

end GssProxy.Compat
