import GssProxy.Compat.Proc
import GssProxy.Daemon.Process
import GssProxy.Server.Frames
import GssProxy.Workers.Pool

/-!
# The dispatchers of the two daemons

A request ends with a reply, a closed connection, or nothing on an open one.  The Rust daemon checks
neither the service of the peer, nor the RPC version, nor the credential flavor.

* `dispatch_agrees_iff`: on which requests the two agree.
-/

namespace GssProxy.Compat

open Codec Daemon Effect Proto Rpcgen Workers

/-! ## Outcomes -/

/-- What a client sees of a request. -/
inductive Outcome where
  | reply (bytes : Bytes)
  | close
  | silent
  deriving DecidableEq, Repr

/-- What the handlers return. -/
abbrev Results := (proc : GssxProc) → proc.Arg → { res : proc.Res // Fits res }

def Results.exec (results : Results) (proc : GssxProc) (arg : proc.Arg) : UInt32 × proc.Res :=
  (0, (results proc arg).1)

section

variable (results : Results) (debris : Bytes) (replyBuffer : ReplyBuffer)

def gpHandleQuery {S : Type} (service : Option S) (inbuf : Bytes) :
    Calls GssxProc (QueryStatus × Bytes) :=
  match service with
  | none => pure (.queryErr, inbuf)
  | some _ => do
    match ← gpRpcProcessCall results.exec debris replyBuffer inbuf with
    | .error _ => return (.queryErr, inbuf)
    | .ok buffer => return (.queryOut, buffer)

/-- What the C daemon does with a request. -/
def daemonOutcome {S : Type} (service : Option S) (body : Bytes) : Outcome :=
  let (status, buffer) := (gpHandleQuery results debris replyBuffer service body).value
  match answerOf status with
  | .sent => .reply buffer
  | .killed => .close

/-- What the Rust daemon does with a request. -/
def serverOutcome (body : Bytes) : Outcome :=
  match (Server.serve (fun proc arg => (results proc arg).1) body).value with
  | some reply => .reply reply
  | none => .silent

end

/-! ## The envelope holds no boolean -/

def Unlogged {α : Type} (g : XdrIn α) : Prop :=
  ∀ x v x', g.run x = some (v, x') → x'.bools = x.bools

namespace Unlogged

variable {σ α β : Type}

theorem ret (a : α) : Unlogged (pure a) := by
  intro x v x' h
  obtain ⟨-, rfl⟩ := Prod.mk.inj (pure_some.mp h)
  rfl

theorem bind {g : XdrIn α} {l : α → XdrIn β} (hg : Unlogged g) (hl : ∀ a, Unlogged (l a)) :
    Unlogged (g >>= l) := by
  intro x v x' h
  obtain ⟨a, x₁, ha, hv⟩ := bind_some.mp h
  rw [hl a x₁ v x' hv, hg x a x₁ ha]

theorem fail : Unlogged (Fields.fail : Fields σ α).get := by
  intro x v x' h
  cases h

theorem ite {c : Prop} [Decidable c] {m₁ m₂ : Fields σ α} (ht : Unlogged m₁.get)
    (he : Unlogged m₂.get) : Unlogged (if c then m₁ else m₂).get := by
  split
  · exact ht
  · exact he

theorem getBytes (n : Nat) : Unlogged (Rpcgen.getBytes n) := by
  intro x v x' h
  obtain ⟨-, hr⟩ := DecodeAgree.getBytes_some.mp h
  rw [(Prod.mk.inj hr).2]

theorem xdrUInt32 : Unlogged Rpcgen.xdrUInt32.decode :=
  (getBytes 4).bind fun _ => ret _

theorem xdrEnum : Unlogged Rpcgen.xdrEnum.decode :=
  xdrUInt32.bind fun _ => ret _

theorem xdrBytes (maxSize : Nat) : Unlogged (Rpcgen.xdrBytes maxSize).decode := by
  refine xdrUInt32.bind fun size => ?_
  split
  · intro x v x' h; cases h
  · exact (getBytes _).bind fun _ => (getBytes _).bind fun _ => ret _

theorem xdrGpRpcMsg : Unlogged Rpcgen.xdrGpRpcMsg.decode := by
  have ha : Unlogged xdrGpRpcOpaqueAuth.decode :=
    xdrEnum.bind fun _ => (xdrBytes 400).bind fun _ => ret _
  have hi : Unlogged xdrGpRpcMismatchInfo.decode :=
    xdrUInt32.bind fun _ => xdrUInt32.bind fun _ => ret _
  have hd : Unlogged xdrGpRpcReplyUnion.decode :=
    xdrEnum.bind fun _ => ite (ret _) (ite (hi.bind fun _ => ret _) (ret _))
  have hac : Unlogged xdrGpRpcAcceptedReply.decode := ha.bind fun _ => hd.bind fun _ => ret _
  have hr : Unlogged xdrGpRpcRejectedReply.decode :=
    xdrEnum.bind fun _ => ite (hi.bind fun _ => ret _) (ite (xdrEnum.bind fun _ => ret _) fail)
  have hc : Unlogged xdrGpRpcCallHeader.decode :=
    xdrUInt32.bind fun _ => xdrUInt32.bind fun _ => xdrUInt32.bind fun _ => xdrUInt32.bind fun _ =>
      ha.bind fun _ => ha.bind fun _ => ret _
  have hre : Unlogged xdrGpRpcReplyHeader.decode :=
    xdrEnum.bind fun _ => ite (hac.bind fun _ => ret _)
      (ite (hr.bind fun _ => ret _) fail)
  have hu : Unlogged xdrGpRpcMsgUnion.decode :=
    xdrEnum.bind fun _ => ite (hc.bind fun _ => ret _) (ite (hre.bind fun _ => ret _) fail)
  exact xdrUInt32.bind fun _ => hu.bind fun _ => ret _

end Unlogged

theorem encodeReplyBody_eq (xid : UInt32) {body : ReplyBody} {header : GpRpcReplyHeader}
    (hsa : SameReply body header) (he : EmittedC header) :
    Server.encodeReplyBody xid body = some (replyBytes xid header) := by
  have hen := (encode_reply xid he).1
  cases hsa with
  | success verf => obtain ⟨rfl, -⟩ := he; rfl
  | progMismatch => obtain ⟨rfl, -⟩ := he; rfl
  | other verf status =>
    obtain ⟨rfl, hv⟩ := he
    obtain ⟨hs, hm⟩ := hv status rfl
    rw [encodeC_accepted xid (encodeUnion_void hs hm)] at hen
    rw [← hen]; rfl
  | authError value => rfl

theorem reply_ne (xid : UInt32) {header header' : GpRpcReplyHeader} (hne : header ≠ header')
    (he : EmittedC header) (he' : EmittedC header') (tail : Bytes) :
    Outcome.reply (replyBytes xid header ++ tail) ≠ .reply (replyBytes xid header') := by
  intro h
  obtain ⟨x, hx, -⟩ := xdrGpRpcMsg_accepts.complete
    (s := XdrMem.new (replyBytes xid header ++ tail)) (encode_reply xid he).2 rfl
  obtain ⟨x', hx', -⟩ := xdrGpRpcMsg_accepts.complete
    (s := XdrMem.new (replyBytes xid header' ++ [])) (encode_reply xid he').2 rfl
  rw [Outcome.reply.inj h, ← List.append_nil (replyBytes xid header'), hx'] at hx
  cases hx
  exact hne rfl

section

variable (results : Results) (debris : Bytes) (replyBuffer : ReplyBuffer) {S : Type} (service : S)

theorem daemonOutcome_eq (body : Bytes) :
    daemonOutcome results debris replyBuffer (some service) body =
      match Daemon.judge body with
      | none => .close
      | some (xid, .error reply) => .reply (replyBytes xid reply)
      | some (xid, .ok ⟨proc, arg⟩) => .reply (answerBytes xid proc (results.exec proc arg)) := by
  unfold daemonOutcome gpHandleQuery
  simp only [gpRpcProcessCall_eq]
  cases Daemon.judge body with
  | none => rfl
  | some verdict => obtain ⟨xid, reply | ⟨proc, arg⟩⟩ := verdict <;> rfl

theorem daemonOutcome_ne_silent (service : Option S) (body : Bytes) :
    daemonOutcome results debris replyBuffer service body ≠ .silent := by
  unfold daemonOutcome
  split
  split <;> simp

end

/-! ## The replies to a call -/

variable {proc : GssxProc} {arg : proc.Arg}

section

variable (results : Results) {body : Bytes} {xid : UInt32} {header : CallHeader}
  {reply : Option ReplyBody} {st : Stream}
  (h : Message.decode.run (Stream.new body) = .ok (⟨xid, true, some header, reply⟩, st))
include h

theorem judge_call : Server.judge body = some (xid, Server.checkCall header st) := by
  unfold Server.judge
  rw [h]
  rfl

theorem serverOutcome_refused {refusal : ReplyBody} {refusal' : GpRpcReplyHeader}
    (hc : Server.checkCall header st = .error refusal) (hs : SameReply refusal refusal')
    (he : EmittedC refusal') : serverOutcome results body = .reply (replyBytes xid refusal') := by
  unfold serverOutcome Server.serve
  simp [judge_call h, hc, encodeReplyBody_eq xid hs he]

theorem serverOutcome_served (hc : Server.checkCall header st = .ok ⟨proc, arg⟩) :
    serverOutcome results body =
      .reply (replyBytes xid successHeader ++ Xdr.encode (results proc arg).1) := by
  have hs : (Message.replySuccess xid).encode = some (replyBytes xid successHeader) :=
    encodeReplyBody_eq xid (.success OpaqueAuth.none) ⟨rfl, by simp⟩
  unfold serverOutcome Server.serve Server.encodeReply
  simp [judge_call h, hc, hs]

theorem serverOutcome_accepted :
    ∃ accepted tail, EmittedC (.accepted accepted) ∧
      serverOutcome results body = .reply (replyBytes xid (.accepted accepted) ++ tail) := by
  cases hc : Server.checkCall header st with
  | error refusal =>
    rcases Server.checkCall_error hc with ⟨status, hs, rfl⟩ | rfl
    · have he : EmittedC (acceptedWith status) := by
        rcases hs with rfl | rfl | rfl <;> exact acceptedWith_emitted (by decide)
      refine ⟨_, [], he, ?_⟩
      rw [serverOutcome_refused results h hc (.other _ _) he, List.append_nil]
    · have he : EmittedC (.accepted ⟨OpaqueAuth.none, .mismatchInfo
        ⟨GSSPROXYVERS, GSSPROXYVERS⟩⟩) := ⟨rfl, by simp⟩
      refine ⟨_, [], he, ?_⟩
      rw [serverOutcome_refused results h hc (.progMismatch _ _) he, List.append_nil]
  | ok call => exact ⟨_, _, ⟨rfl, by simp⟩, serverOutcome_served results h hc⟩

theorem judgeC_call :
    Daemon.judge body = some (xid, checkMsg ⟨xid, .chdr header⟩ (XdrMem.new st.unread)) := by
  obtain ⟨c, ⟨_, _, _, ⟨⟩, -⟩ | ⟨_, ⟨⟩, -, hb⟩, hu⟩ := decodeMessage_accepts.sound h
  obtain ⟨⟨unread, bools⟩, hx, rfl⟩ := xdrGpRpcMsg_accepts.complete (s := XdrMem.new body) hb hu
  obtain rfl : bools = [] := Unlogged.xdrGpRpcMsg _ _ _ hx
  rw [Daemon.judge, hx]
  rfl

variable (debris : Bytes) (replyBuffer : ReplyBuffer) {S : Type} (service : S)

theorem daemonOutcome_refused {refusal : GpRpcReplyHeader}
    (hc : checkMsg ⟨xid, .chdr header⟩ (XdrMem.new st.unread) = .error refusal) :
    daemonOutcome results debris replyBuffer (some service) body =
      .reply (replyBytes xid refusal) := by
  rw [daemonOutcome_eq, judgeC_call h]
  simp [hc]

theorem daemonOutcome_served
    (hc : checkMsg ⟨xid, .chdr header⟩ (XdrMem.new st.unread) = .ok ⟨proc, arg⟩) :
    daemonOutcome results debris replyBuffer (some service) body =
      if 24 + (Xdr.encode (results proc arg).1).length ≤ MAX_RPC_SIZE then
        .reply (replyBytes xid successHeader ++ Xdr.encode (results proc arg).1)
      else .reply (replyBytes xid (acceptedWith GP_RPC_SYSTEM_ERR)) := by
  have he := (xdrRes_agrees proc).encode (results proc arg).1 (results proc arg).2
  rw [daemonOutcome_eq, judgeC_call h]
  simp only [hc, answerBytes, resultBytes, Results.exec, if_true, he, Option.filter,
    decide_eq_true_eq]
  by_cases hf : 24 + (encode (results proc arg).1).length ≤ MAX_RPC_SIZE <;>
    simp [hf]

end

/-! ## Where the daemons agree -/

/-- A call that gets the same reply: of RPC version 2, and for another program, version or
    procedure, or with no credential and an argument that neither daemon decodes, or that both do
    with a result that fits. -/
def AgreedCall (results : Results) (header : CallHeader) (st : Stream) : Prop :=
  header.rpcvers = 2 ∧ (header.prog ≠ GSSPROXY ∨ header.vers ≠ GSSPROXYVERS ∨
    GssxProc.fromU32 header.procNum = none ∨
    header.cred.flavor = GP_RPC_AUTH_NONE ∧ ∃ proc, GssxProc.fromU32 header.procNum = some proc ∧
        ((xdrArg proc).decode.run (XdrMem.new st.unread) = none ∨
          ∃ arg st', (Xdr.decode : XdrDecoder proc.Arg).run st = .ok (arg, st') ∧
            24 + (Xdr.encode (results proc arg).1).length ≤ MAX_RPC_SIZE))

/-- The requests that get the same from both daemons. -/
def Agreed (results : Results) (body : Bytes) : Prop :=
  ∃ xid header reply st,
    Message.decode.run (Stream.new body) = .ok (⟨xid, true, some header, reply⟩, st) ∧
      AgreedCall results header st

section

variable (results : Results) (debris : Bytes) (replyBuffer : ReplyBuffer) {S : Type} (service : S)
  {body : Bytes} {xid : UInt32} {header : CallHeader} {reply : Option ReplyBody} {st : Stream}

theorem decodeArg_to_c {st' : Stream}
    (h : (Xdr.decode : XdrDecoder proc.Arg).run st = .ok (arg, st')) :
    ∃ x, (xdrArg proc).decode.run (XdrMem.new st.unread) = some (arg, x) := by
  obtain ⟨x, hx, -⟩ :=
    (xdrArg_agrees proc).decode.to_c h (XdrMem.new st.unread) rfl (List.forall_mem_nil _)
  exact ⟨x, hx⟩

structure Passes (header : CallHeader) (proc : GssxProc) : Prop where
  rpcvers : header.rpcvers = 2
  prog : header.prog = GSSPROXY
  vers : header.vers = GSSPROXYVERS
  proc : GssxProc.fromU32 header.procNum = some proc
  flavor : header.cred.flavor = GP_RPC_AUTH_NONE

theorem Passes.server_refuses {e : XdrError} (hp : Passes header proc)
    (hr : (Xdr.decode : XdrDecoder proc.Arg).run st = .error e) :
    Server.checkCall header st = .error (.acceptedOther OpaqueAuth.none Server.GARBAGE_ARGS) := by
  simp [Server.checkCall, hp.prog, hp.vers, hp.proc, hr]

theorem Passes.server_serves {st' : Stream} (hp : Passes header proc)
    (hr : (Xdr.decode : XdrDecoder proc.Arg).run st = .ok (arg, st')) :
    Server.checkCall header st = .ok ⟨proc, arg⟩ := by
  simp [Server.checkCall, hp.prog, hp.vers, hp.proc, hr]

theorem Passes.daemon_refuses {x : XdrMem} (hp : Passes header proc)
    (ha : (xdrArg proc).decode.run x = none) :
    checkMsg ⟨xid, .chdr header⟩ x = .error (acceptedWith GP_RPC_GARBAGE_ARGS) := by
  simp [checkMsg, Daemon.checkCall, hp.rpcvers, hp.prog, hp.vers, hp.proc, hp.flavor, ha]

theorem Passes.daemon_serves {x : XdrMem} {r : proc.Arg × XdrMem}
    (hp : Passes header proc) (ha : (xdrArg proc).decode.run x = some r) :
    checkMsg ⟨xid, .chdr header⟩ x = .ok ⟨proc, r.1⟩ := by
  simp [checkMsg, Daemon.checkCall, hp.rpcvers, hp.prog, hp.vers, hp.proc, hp.flavor, ha]

theorem success_emitted : EmittedC successHeader := ⟨rfl, by simp⟩

theorem served_ne_garbage (xid : UInt32) (result : Bytes) (fits : Prop) [Decidable fits] :
    Outcome.reply (replyBytes xid (acceptedWith GP_RPC_GARBAGE_ARGS)) ≠
      if fits then .reply (replyBytes xid successHeader ++ result)
      else .reply (replyBytes xid (acceptedWith GP_RPC_SYSTEM_ERR)) := by
  have hg : EmittedC (acceptedWith GP_RPC_GARBAGE_ARGS) := acceptedWith_emitted (by decide)
  intro heq
  split at heq
  · exact reply_ne xid (by simp [successHeader, acceptedWith]) success_emitted hg _ heq.symm
  · have hne : acceptedWith GP_RPC_SYSTEM_ERR ≠ acceptedWith GP_RPC_GARBAGE_ARGS := by decide
    have hr := reply_ne xid hne (acceptedWith_emitted (by decide)) hg []
    exact hr heq.symm

section

variable (h : Message.decode.run (Stream.new body) = .ok (⟨xid, true, some header, reply⟩, st))
include h

theorem outcome_ne_rejected {rejected : GpRpcRejectedReply} :
    serverOutcome results body ≠ .reply (replyBytes xid (.rejected rejected)) := by
  obtain ⟨accepted, tail, he, hs⟩ := serverOutcome_accepted results h
  rw [hs]
  exact reply_ne xid (by simp) he (show EmittedC (.rejected rejected) from trivial) tail

theorem outcome_undecoded_iff {e : XdrError} (hp : Passes header proc)
    (hr : (Xdr.decode : XdrDecoder proc.Arg).run st = .error e) :
    serverOutcome results body = daemonOutcome results debris replyBuffer (some service) body ↔
      (xdrArg proc).decode.run (XdrMem.new st.unread) = none := by
  rw [serverOutcome_refused results h (hp.server_refuses hr) (.other _ _)
    (acceptedWith_emitted (by decide))]
  cases ha : (xdrArg proc).decode.run (XdrMem.new st.unread) with
  | none =>
    rw [daemonOutcome_refused results h debris replyBuffer service (hp.daemon_refuses ha)]
    exact ⟨fun _ => rfl, fun _ => rfl⟩
  | some r =>
    -- a boolean that only the C daemon takes
    rw [daemonOutcome_served results h debris replyBuffer service (hp.daemon_serves ha)]
    constructor
    · intro heq; exact absurd heq (served_ne_garbage xid _ _)
    · intro hn; cases hn

theorem outcome_decoded_iff {st' : Stream} (hp : Passes header proc)
    (hr : (Xdr.decode : XdrDecoder proc.Arg).run st = .ok (arg, st')) :
    serverOutcome results body = daemonOutcome results debris replyBuffer (some service) body ↔
      24 + (Xdr.encode (results proc arg).1).length ≤ MAX_RPC_SIZE := by
  obtain ⟨x, hx⟩ := decodeArg_to_c hr
  rw [serverOutcome_served results h (hp.server_serves hr),
    daemonOutcome_served results h debris replyBuffer service (hp.daemon_serves hx)]
  constructor
  · intro heq
    by_contra hl
    rw [if_neg hl] at heq
    exact reply_ne xid (by simp [successHeader, acceptedWith]) success_emitted
      (acceptedWith_emitted (by decide)) _ heq
  · intro hf
    rw [if_pos hf]

theorem outcome_argument_iff (hp : Passes header proc) :
    serverOutcome results body = daemonOutcome results debris replyBuffer (some service) body ↔
      (xdrArg proc).decode.run (XdrMem.new st.unread) = none ∨
        ∃ arg st', (Xdr.decode : XdrDecoder proc.Arg).run st = .ok (arg, st') ∧
          24 + (Xdr.encode (results proc arg).1).length ≤ MAX_RPC_SIZE := by
  cases hr : (Xdr.decode : XdrDecoder proc.Arg).run st with
  | error e => rw [outcome_undecoded_iff results debris replyBuffer service h hp hr]; simp
  | ok r =>
    obtain ⟨arg, st'⟩ := r
    obtain ⟨x, hx⟩ := decodeArg_to_c hr
    rw [outcome_decoded_iff results debris replyBuffer service h hp hr]
    simp [hx]

theorem outcome_unavailable {status : Int32}
    (hs : Server.checkCall header st = .error (.acceptedOther OpaqueAuth.none status))
    (hd : Daemon.checkCall header = .error (acceptedWith status))
    (he : EmittedC (acceptedWith status)) :
    serverOutcome results body = daemonOutcome results debris replyBuffer (some service) body := by
  have hc : checkMsg ⟨xid, .chdr header⟩ (XdrMem.new st.unread) = .error (acceptedWith status) := by
    simp [checkMsg, hd]
  rw [serverOutcome_refused results h hs (.other _ _) he,
    daemonOutcome_refused results h debris replyBuffer service hc]
  rfl

theorem outcome_denied {rejected : GpRpcRejectedReply}
    (hd : Daemon.checkCall header = .error (.rejected rejected)) :
    serverOutcome results body ≠
      daemonOutcome results debris replyBuffer (some service) body := by
  have hc : checkMsg ⟨xid, .chdr header⟩ (XdrMem.new st.unread) = .error (.rejected rejected) := by
    simp [checkMsg, hd]
  rw [daemonOutcome_refused results h debris replyBuffer service hc]
  exact outcome_ne_rejected results h

theorem outcome_call_iff :
    serverOutcome results body = daemonOutcome results debris replyBuffer (some service) body ↔
      AgreedCall results header st := by
  unfold AgreedCall
  by_cases hr : header.rpcvers = 2
  case neg =>
    have hd : Daemon.checkCall header = .error (.rejected (.mismatchInfo ⟨2, 2⟩)) := by
      simp [Daemon.checkCall, hr]
    have hne := outcome_denied results debris replyBuffer service h hd
    simp [hne, hr]
  by_cases hp : header.prog = GSSPROXY
  case neg =>
    have hs : Server.checkCall header st =
        .error (.acceptedOther OpaqueAuth.none GP_RPC_PROG_UNAVAIL) := by
      simp only [Server.checkCall, ne_eq, hp, not_false_eq_true, if_true]; rfl
    have hd : Daemon.checkCall header = .error (acceptedWith GP_RPC_PROG_UNAVAIL) := by
      simp [Daemon.checkCall, hr, hp]
    have heq := outcome_unavailable results debris replyBuffer service h hs hd
      (acceptedWith_emitted (by decide))
    simp [heq, hr, hp]
  by_cases hv : header.vers = GSSPROXYVERS
  case neg =>
    have hs : Server.checkCall header st =
        .error (.progMismatch OpaqueAuth.none ⟨GSSPROXYVERS, GSSPROXYVERS⟩) := by
      simp [Server.checkCall, hp, hv]
    have hd : checkMsg ⟨xid, .chdr header⟩ (XdrMem.new st.unread) =
        .error (.accepted ⟨OpaqueAuth.none, .mismatchInfo ⟨GSSPROXYVERS, GSSPROXYVERS⟩⟩) := by
      simp [checkMsg, Daemon.checkCall, hr, hp, hv]
    rw [serverOutcome_refused results h hs (.progMismatch _ _) ⟨rfl, by simp⟩,
      daemonOutcome_refused results h debris replyBuffer service hd]
    simp [hr, hv]
  cases hpr : GssxProc.fromU32 header.procNum with
  | none =>
    have hs : Server.checkCall header st =
        .error (.acceptedOther OpaqueAuth.none GP_RPC_PROC_UNAVAIL) := by
      simp only [Server.checkCall, ne_eq, hp, hv, hpr, not_true_eq_false, if_false]; rfl
    have hd : Daemon.checkCall header = .error (acceptedWith GP_RPC_PROC_UNAVAIL) := by
      simp [Daemon.checkCall, hr, hp, hv, hpr]
    have heq := outcome_unavailable results debris replyBuffer service h hs hd
      (acceptedWith_emitted (by decide))
    simp [heq, hr]
  | some proc =>
    by_cases hf : header.cred.flavor = GP_RPC_AUTH_NONE
    case neg =>
      have hd : Daemon.checkCall header = .error (.rejected (.status GP_RPC_AUTH_FAILED)) := by
        simp [Daemon.checkCall, hr, hp, hv, hpr, hf]
      have hne := outcome_denied results debris replyBuffer service h hd
      simp [hne, hp, hv, hf]
    rw [outcome_argument_iff results debris replyBuffer service h
      ⟨hr, hp, hv, hpr, hf⟩]
    simp [hr, hp, hv, hf]

end

theorem serverOutcome_ne_close (body : Bytes) : serverOutcome results body ≠ .close := by
  unfold serverOutcome
  split <;> simp

theorem serverOutcome_silent (h : ∀ xid header reply st,
      Message.decode.run (Stream.new body) ≠ .ok (⟨xid, true, some header, reply⟩, st)) :
    serverOutcome results body = .silent := by
  have hj : Server.judge body = none := by
    unfold Server.judge
    cases hd : Message.decode.run (Stream.new body) with
    | error e => rfl
    | ok r =>
      obtain ⟨⟨xid, isCall, call, reply⟩, st⟩ := r
      cases isCall with
      | false => rfl
      | true =>
        cases call with
        | none => rfl
        | some header => exact absurd hd (h xid header reply st)
  simp [serverOutcome, Server.serve, hj]

/-- **Where the two dispatchers agree.**  For every request, all results of the handlers, and every
    state of the buffer of the C daemon, a client sees the same of both daemons exactly if its
    connection matches a service and the request is one of `Agreed`. -/
theorem dispatch_agrees_iff (matched : Option S) (body : Bytes) :
    serverOutcome results body = daemonOutcome results debris replyBuffer matched body ↔
      matched.isSome ∧ Agreed results body := by
  cases matched with
  | none =>
    have hne := serverOutcome_ne_close results body
    simpa [daemonOutcome, gpHandleQuery, answerOf] using hne
  | some service =>
    simp only [Option.isSome_some, true_and, Agreed]
    by_cases hc : ∃ xid header reply st,
      Message.decode.run (Stream.new body) = .ok (⟨xid, true, some header, reply⟩, st)
    · obtain ⟨xid, header, reply, st, hd⟩ := hc
      rw [outcome_call_iff results debris replyBuffer service hd]
      constructor
      · exact fun ha => ⟨xid, header, reply, st, hd, ha⟩
      · rintro ⟨_, _, _, _, hd', ha⟩
        rw [hd] at hd'
        cases hd'
        exact ha
    · have hs := serverOutcome_silent results fun xid header reply st hd =>
        hc ⟨xid, header, reply, st, hd⟩
      rw [hs]
      constructor
      · exact fun heq => absurd heq.symm (daemonOutcome_ne_silent results debris replyBuffer _ body)
      · rintro ⟨xid, header, reply, st, hd, -⟩; exact absurd ⟨xid, header, reply, st, hd⟩ hc

end

/-! ## Requests that they treat differently -/

theorem default_fits (proc : GssxProc) : Fits (default : proc.Res) := by
  have hd : (Xdr.decode : XdrDecoder proc.Res).run
      (Stream.new (Xdr.encode (default : proc.Res))) =
        .ok (default, ⟨[], Xdr.encode (default : proc.Res)⟩) := by
    cases proc <;> decide +kernel
  exact (LawfulXdr.law.sound _ _ _ hd).1.1

def blankResults : Results := fun proc _ => ⟨default, default_fits proc⟩

def blankBuffer : ReplyBuffer := .new (List.replicate MAX_RPC_SIZE 0) List.length_replicate

def versionThree : CallHeader := { CallHeader.new 2 with rpcvers := 3 }

def versionThreeCall : Bytes :=
  (Message.encode ⟨7, true, some versionThree, none⟩).getD [] ++
    Xdr.encode (default : ArgGetCallContext)

/-- The C daemon closes the connection on an empty message, which the Rust one ignores, and denies a
    call of RPC version 3, which the Rust one runs. -/
theorem dispatch_differs :
    (daemonOutcome blankResults [] blankBuffer (some ()) [] = .close ∧
      serverOutcome blankResults [] = .silent) ∧
    daemonOutcome blankResults [] blankBuffer (some ()) versionThreeCall =
      .reply (replyBytes 7 (.rejected (.mismatchInfo ⟨2, 2⟩))) ∧
    serverOutcome blankResults versionThreeCall =
      .reply (replyBytes 7 successHeader ++ Xdr.encode (default : ResGetCallContext)) := by
  have hd : Message.decode.run (Stream.new versionThreeCall) =
      .ok (⟨7, true, some versionThree, none⟩, ⟨versionThreeCall.drop 40, versionThreeCall.take 40⟩) := by
    decide +kernel
  refine ⟨⟨rfl, rfl⟩, ?_, ?_⟩
  · exact daemonOutcome_refused _ hd _ _ _ rfl
  · have hc : Server.checkCall versionThree
        ⟨versionThreeCall.drop 40, versionThreeCall.take 40⟩ =
          .ok ⟨.getCallContext, (default : ArgGetCallContext)⟩ := by
      decide +kernel
    exact serverOutcome_served _ hd hc

end GssProxy.Compat
