import GssProxy.Codec.Buffer
import GssProxy.Compat.Rpc
import GssProxy.Effect.Calls
import GssProxy.Gss.Status
import GssProxy.Rpcgen.GssProxyXdr

/-!
# RPC processing in the C daemon

`gp_rpc_process_call` decodes a request, runs its handler and encodes the reply into a buffer of
`MAX_RPC_SIZE` bytes, maybe twice.  An errno and two status variables say what became of the request.

* `process_call_correct`: the reply is what the request deserves by `judge`, the checks in their order.
-/

namespace GssProxy.Daemon

open Codec Effect Gss Proto Rpcgen

/-! ## Decoding a request -/

structure CallVars where
  xid : UInt32 := 0
  proc : UInt32 := 0
  acc : Int32 := GP_RPC_SUCCESS
  rej : Int32 := GP_RPC_RPC_MISMATCH

abbrev GpRpcArg := Option ((proc : GssxProc) × proc.Arg)

abbrev GpRpcRes := Option ((proc : GssxProc) × proc.Res)

def GSSX_PROC_MIN : UInt32 := 1

def GSSX_PROC_MAX : UInt32 := 15

def gpXdrSet (proc : UInt32) : Option GssxProc := GssxProc.fromU32 proc

def gpRpcDecodeCallHeader (xdrCallCtx : XdrMem) (vars : CallVars) : UInt32 × CallVars × XdrMem :=
  match xdrGpRpcMsg.decode.run xdrCallCtx with
  | none => (EFAULT, vars, xdrCallCtx)
  | some (msg, xdrCallCtx) =>
    let vars := { vars with xid := msg.xid }
    match msg.header with
    | .rhdr _ => (EINVAL, { vars with acc := GP_RPC_GARBAGE_ARGS }, xdrCallCtx)
    | .chdr chdr =>
      if chdr.rpcvers ≠ 2 then
        (EACCES, { vars with rej := GP_RPC_RPC_MISMATCH }, xdrCallCtx)
      else if chdr.prog ≠ GSSPROXY then
        (EINVAL, { vars with acc := GP_RPC_PROG_UNAVAIL }, xdrCallCtx)
      else if chdr.vers ≠ GSSPROXYVERS then
        (EINVAL, { vars with acc := GP_RPC_PROG_MISMATCH }, xdrCallCtx)
      else if chdr.procNum < GSSX_PROC_MIN ∨ chdr.procNum > GSSX_PROC_MAX then
        (EINVAL, { vars with acc := GP_RPC_PROC_UNAVAIL }, xdrCallCtx)
      else if chdr.cred.flavor ≠ GP_RPC_AUTH_NONE then
        (EACCES, { vars with rej := GP_RPC_AUTH_ERROR }, xdrCallCtx)
      else
        (0, { vars with proc := chdr.procNum, acc := GP_RPC_SUCCESS }, xdrCallCtx)

def gpRpcDecodeCall (xdrCallCtx : XdrMem) (vars : CallVars) : UInt32 × CallVars × GpRpcArg :=
  let (ret, vars, xdrCallCtx) := gpRpcDecodeCallHeader xdrCallCtx vars
  if ret ≠ 0 then (ret, vars, none)
  else
    match gpXdrSet vars.proc with
    | none => (0, vars, none)
    | some proc =>
      match (xdrArg proc).decode.run xdrCallCtx with
      | none => (EINVAL, { vars with acc := GP_RPC_GARBAGE_ARGS }, none)
      | some (arg, _) => (0, vars, some ⟨proc, arg⟩)

/-! ## Encoding a reply -/

abbrev ReplyBuffer := Buffer MAX_RPC_SIZE

/-- A routine applied to an encoding stream.  One that returns `FALSE` has written `debris`, as far
    as there is room. -/
def encodeTo {α : Type} (debris : Bytes) (p : XdrProc α) (v : α) (out : ReplyBuffer) :
    Bool × ReplyBuffer :=
  match p.encode v with
  | none => (false, out.fill debris)
  | some bytes => if out.Fits bytes then (true, out.fill bytes) else (false, out.fill debris)

def replyHeader (err : UInt32) (acc rej : Int32) : GpRpcReplyHeader :=
  if err = EACCES then
    .rejected (if rej = GP_RPC_RPC_MISMATCH then .mismatchInfo ⟨2, 2⟩
      else .status GP_RPC_AUTH_FAILED)
  else if err = EINVAL then
    .accepted ⟨OpaqueAuth.none,
      if acc = GP_RPC_PROG_MISMATCH then .mismatchInfo ⟨GSSPROXYVERS, GSSPROXYVERS⟩
      else if acc = GP_RPC_SUCCESS then .results
      else .void acc⟩
  else if err = 0 then .accepted ⟨OpaqueAuth.none, .results⟩
  else .accepted ⟨OpaqueAuth.none, .void GP_RPC_SYSTEM_ERR⟩

def gpRpcEncodeReplyHeader (debris : Bytes) (xdrReplyCtx : ReplyBuffer) (xid err : UInt32)
    (acc rej : Int32) : UInt32 × ReplyBuffer :=
  if err = EFAULT then (EFAULT, xdrReplyCtx)
  else
    let (encoded, xdrReplyCtx) :=
      encodeTo debris xdrGpRpcMsg ⟨xid, .rhdr (replyHeader err acc rej)⟩ xdrReplyCtx.rewind
    if encoded then (0, xdrReplyCtx) else (EFAULT, xdrReplyCtx)

def gpRpcEncodeReply (debris : Bytes) (xdrReplyCtx : ReplyBuffer) (xid : UInt32) (res : GpRpcRes)
    (err : UInt32) (acc rej : Int32) : UInt32 × ReplyBuffer :=
  let (ret, xdrReplyCtx) := gpRpcEncodeReplyHeader debris xdrReplyCtx xid err acc rej
  if ret ≠ 0 ∨ err ≠ 0 then (ret, xdrReplyCtx)
  else
    match res with
    | none => (0, xdrReplyCtx)
    | some ⟨proc, res⟩ =>
      let (xdrok, xdrReplyCtx) := encodeTo debris (xdrRes proc) res xdrReplyCtx
      if xdrok then (0, xdrReplyCtx)
      else
        gpRpcEncodeReplyHeader debris xdrReplyCtx xid EINVAL GP_RPC_SYSTEM_ERR GP_RPC_RPC_MISMATCH

section

-- the handlers, by procedure: an errno and a result
variable (exec : (proc : GssxProc) → proc.Arg → UInt32 × proc.Res)

/-- Runs the handler of the table; the null procedure is not reached. -/
def gpRpcExecute : GpRpcArg → Calls GssxProc (UInt32 × GpRpcRes)
  | none => pure (0, none)
  | some ⟨proc, arg⟩ => do
    let (ret, res) ← Calls.call proc (exec proc arg)
    return (ret, some ⟨proc, res⟩)

variable (debris : Bytes) (replyBuffer : ReplyBuffer)

/-- `gp_rpc_process_call`. -/
def gpRpcProcessCall (inbuf : Bytes) : Calls GssxProc (Except UInt32 Bytes) := do
  let (ret, vars, arg) := gpRpcDecodeCall (XdrMem.new inbuf) {}
  let (ret, vars, res) ←
    if ret = 0 then do
      let (ret, res) ← gpRpcExecute exec arg
      pure (if ret ≠ 0 then (EINVAL, { vars with acc := GP_RPC_SYSTEM_ERR }, res)
        else (ret, vars, res))
    else pure (ret, vars, none)
  let (ret, xdrReplyCtx) := gpRpcEncodeReply debris replyBuffer vars.xid res ret vars.acc vars.rej
  -- `gp_rpc_return_buffer` copies what lies before the position of the stream
  return if ret = 0 then .ok xdrReplyCtx.written else .error ret

end

/-! ## What a request deserves -/

def acceptedWith (status : Int32) : GpRpcReplyHeader :=
  .accepted ⟨OpaqueAuth.none, .void status⟩

def successHeader : GpRpcReplyHeader := .accepted ⟨OpaqueAuth.none, .results⟩

def checkCall (header : CallHeader) : Except GpRpcReplyHeader GssxProc :=
  if header.rpcvers ≠ 2 then .error (.rejected (.mismatchInfo ⟨2, 2⟩))
  else if header.prog ≠ GSSPROXY then .error (acceptedWith GP_RPC_PROG_UNAVAIL)
  else if header.vers ≠ GSSPROXYVERS then
    .error (.accepted ⟨OpaqueAuth.none, .mismatchInfo ⟨GSSPROXYVERS, GSSPROXYVERS⟩⟩)
  else
    match GssxProc.fromU32 header.procNum with
    | none => .error (acceptedWith GP_RPC_PROC_UNAVAIL)
    | some proc =>
      if header.cred.flavor ≠ GP_RPC_AUTH_NONE then
        .error (.rejected (.status GP_RPC_AUTH_FAILED))
      else .ok proc

def checkMsg (msg : GpRpcMsg) (x : XdrMem) :
    Except GpRpcReplyHeader ((proc : GssxProc) × proc.Arg) :=
  match msg.header with
  | .rhdr _ => .error (acceptedWith GP_RPC_GARBAGE_ARGS)
  | .chdr header =>
    match checkCall header with
    | .error reply => .error reply
    | .ok proc =>
      match (xdrArg proc).decode.run x with
      | none => .error (acceptedWith GP_RPC_GARBAGE_ARGS)
      | some (arg, _) => .ok ⟨proc, arg⟩

/-- The transaction of a request, if its envelope decodes, and the call it makes or the reply that
    refuses it. -/
def judge (body : Bytes) :
    Option (UInt32 × Except GpRpcReplyHeader ((proc : GssxProc) × proc.Arg)) :=
  (xdrGpRpcMsg.decode.run (XdrMem.new body)).map fun (msg, x) => (msg.xid, checkMsg msg x)

def replyBytes (xid : UInt32) (header : GpRpcReplyHeader) : Bytes :=
  (xdrGpRpcMsg.encode ⟨xid, .rhdr header⟩).getD []

/-- The encoded result, if there is one and it fits. -/
def resultBytes (proc : GssxProc) (out : UInt32 × proc.Res) : Option Bytes :=
  if out.1 = 0 then
    ((xdrRes proc).encode out.2).filter fun bytes => 24 + bytes.length ≤ MAX_RPC_SIZE
  else none

def answerBytes (xid : UInt32) (proc : GssxProc) (out : UInt32 × proc.Res) : Bytes :=
  match resultBytes proc out with
  | none => replyBytes xid (acceptedWith GP_RPC_SYSTEM_ERR)
  | some bytes => replyBytes xid successHeader ++ bytes

/-! ## Decoding judges the request -/

theorem fromU32_eq_none_iff (n : UInt32) :
    GssxProc.fromU32 n = none ↔ n < GSSX_PROC_MIN ∨ n > GSSX_PROC_MAX := by
  unfold GssxProc.fromU32
  split
  case h_16 => grind [GSSX_PROC_MIN, GSSX_PROC_MAX]
  all_goals decide

structure Refuses (ret : UInt32) (vars : CallVars) (xid : UInt32) (reply : GpRpcReplyHeader) :
    Prop where
  failed : ret ≠ 0
  answered : ret ≠ EFAULT
  xid : vars.xid = xid
  reply : replyHeader ret vars.acc vars.rej = reply

def Decodes (xid : UInt32) (verdict : Except GpRpcReplyHeader ((proc : GssxProc) × proc.Arg))
    (r : UInt32 × CallVars × GpRpcArg) : Prop :=
  match verdict with
  | .error reply => Refuses r.1 r.2.1 xid reply
  | .ok call => r.1 = 0 ∧ r.2.1.xid = xid ∧ r.2.2 = some call

variable {reply : GpRpcReplyHeader}

section

variable {x x' : XdrMem} {xid : UInt32}

theorem decodeCallHeader_call {header : CallHeader}
    (hd : xdrGpRpcMsg.decode.run x = some (⟨xid, .chdr header⟩, x')) :
    match checkCall header with
    | .error reply =>
      ∃ ret vars, gpRpcDecodeCallHeader x {} = (ret, vars, x') ∧ Refuses ret vars xid reply
    | .ok proc =>
      ∃ vars, gpRpcDecodeCallHeader x {} = (0, vars, x') ∧ vars.xid = xid ∧
        gpXdrSet vars.proc = some proc := by
  unfold gpRpcDecodeCallHeader checkCall
  simp only [hd, ← fromU32_eq_none_iff]
  by_cases hr : header.rpcvers ≠ 2
  · simp only [if_pos hr]
    exact ⟨_, _, rfl, by decide, by decide, rfl, rfl⟩
  by_cases hp : header.prog ≠ GSSPROXY
  · simp only [if_neg hr, if_pos hp]
    exact ⟨_, _, rfl, by decide, by decide, rfl, rfl⟩
  by_cases hv : header.vers ≠ GSSPROXYVERS
  · simp only [if_neg hr, if_neg hp, if_pos hv]
    exact ⟨_, _, rfl, by decide, by decide, rfl, rfl⟩
  simp only [if_neg hr, if_neg hp, if_neg hv]
  cases hpr : GssxProc.fromU32 header.procNum with
  | none => exact ⟨_, _, rfl, by decide, by decide, rfl, rfl⟩
  | some proc =>
    by_cases hf : header.cred.flavor ≠ GP_RPC_AUTH_NONE
    · simp only [reduceCtorEq, if_false, if_pos hf]
      exact ⟨_, _, rfl, by decide, by decide, rfl, rfl⟩
    · simp only [reduceCtorEq, if_false, if_neg hf]; exact ⟨_, rfl, rfl, hpr⟩

variable {vars : CallVars} {header : GpRpcReplyHeader}

theorem decodeCall_refused {ret : UInt32}
    (hh : gpRpcDecodeCallHeader x {} = (ret, vars, x')) (h : Refuses ret vars xid reply) :
    Decodes xid (.error reply) (gpRpcDecodeCall x {}) := by
  unfold gpRpcDecodeCall
  simp only [hh, if_pos h.failed]
  exact h

theorem decodeCall_decodes {msg : GpRpcMsg} (hd : xdrGpRpcMsg.decode.run x = some (msg, x')) :
    Decodes msg.xid (checkMsg msg x') (gpRpcDecodeCall x {}) := by
  obtain ⟨xid, header⟩ := msg
  cases header with
  | rhdr header =>
    have hh : gpRpcDecodeCallHeader x {} = (EINVAL, { xid, acc := GP_RPC_GARBAGE_ARGS }, x') := by
      unfold gpRpcDecodeCallHeader
      rw [hd]
    exact decodeCall_refused hh ⟨by decide, by decide, rfl, rfl⟩
  | chdr header =>
    have hca := decodeCallHeader_call hd
    unfold checkMsg
    cases hc : checkCall header with
    | error reply =>
      rw [hc] at hca
      obtain ⟨ret, vars, hh, hr⟩ := hca
      simp only [hc]
      exact decodeCall_refused hh hr
    | ok proc =>
      rw [hc] at hca
      obtain ⟨vars, hh, hx, hp⟩ := hca
      unfold gpRpcDecodeCall
      simp only [hc, hh, ne_eq, not_true_eq_false, if_false, hp]
      cases (xdrArg proc).decode.run x' with
      | none => exact ⟨show EINVAL ≠ 0 by decide, show EINVAL ≠ EFAULT by decide, hx, rfl⟩
      | some r => exact ⟨rfl, hx, rfl⟩

end

/-! ## Encoding leaves the answer -/

theorem acceptedWith_emitted {status : Int32}
    (hs : status ≠ GP_RPC_SUCCESS ∧ status ≠ GP_RPC_PROG_MISMATCH) :
    Compat.EmittedC (acceptedWith status) := by
  refine ⟨rfl, fun _ hsa => ?_⟩
  cases hsa
  exact hs

theorem replyHeader_emitted (err : UInt32) (acc rej : Int32) :
    Compat.EmittedC (replyHeader err acc rej) := by
  unfold replyHeader
  split_ifs with _ _ _ hm hs
  · trivial
  · trivial
  · exact ⟨rfl, by simp⟩
  · exact ⟨rfl, by simp⟩
  · exact acceptedWith_emitted ⟨hs, hm⟩
  · exact ⟨rfl, by simp⟩
  · exact acceptedWith_emitted (by decide)

theorem encode_reply (xid : UInt32) (h : Compat.EmittedC header) :
    xdrGpRpcMsg.encode ⟨xid, .rhdr header⟩ = some (replyBytes xid header) ∧
      Compat.MsgBytes ⟨xid, .rhdr header⟩ (replyBytes xid header) := by
  obtain ⟨bytes, he, hb⟩ := Compat.encodeC_bytes xid h
  have hr : replyBytes xid header = bytes := by rw [replyBytes, he, Option.getD_some]
  rw [hr]
  exact ⟨he, hb⟩

theorem replyBytes_success (xid : UInt32) : (replyBytes xid successHeader).length = 24 := by rfl

theorem replyBytes_length_le (xid : UInt32)
    (h : Compat.EmittedC header) : (replyBytes xid header).length ≤ 32 := by
  cases header with
  | accepted reply =>
    obtain ⟨verf, data⟩ := reply
    obtain ⟨rfl, hv⟩ := h
    obtain ⟨bytes, hd, hl⟩ : ∃ bytes, xdrGpRpcReplyUnion.encode data = some bytes ∧
        bytes.length ≤ 12 := by
      cases data with
      | results => exact ⟨_, rfl, by decide⟩
      | mismatchInfo info => exact ⟨_, rfl, Nat.le_refl 12⟩
      | void status =>
        obtain ⟨hs, hm⟩ := hv status rfl
        exact ⟨_, Compat.encodeUnion_void hs hm, by simp [putEnum, putI32, putU32]⟩
    rw [replyBytes, Compat.encodeC_accepted xid hd]
    simp [putEnum, putI32, putU32, encode, OpaqueAuth.none, putOpaque, padLen]
    omega
  | rejected reply => cases reply <;> exact Nat.le_of_ble_eq_true rfl

section

variable (debris : Bytes) (out : ReplyBuffer) (xid : UInt32) {err : UInt32} (acc rej : Int32)

theorem encodeReplyHeader_written (her : err ≠ EFAULT) :
    ∃ out', gpRpcEncodeReplyHeader debris out xid err acc rej = (0, out') ∧
      out'.written = replyBytes xid (replyHeader err acc rej) := by
  have he := replyHeader_emitted err acc rej
  have hf : out.rewind.Fits (replyBytes xid (replyHeader err acc rej)) := by
    have hl := replyBytes_length_le xid he
    rw [Buffer.fits_iff, Buffer.written_rewind, MAX_RPC_SIZE]
    simp only [List.length_nil]; omega
  unfold gpRpcEncodeReplyHeader encodeTo
  simp only [if_neg her, (encode_reply xid he).1, if_pos hf]
  exact ⟨_, rfl, Buffer.written_fill hf⟩

theorem encodeReply_error (hf : err ≠ EFAULT) (he : err ≠ 0) (res : GpRpcRes) :
    ∃ out', gpRpcEncodeReply debris out xid res err acc rej = (0, out') ∧
      out'.written = replyBytes xid (replyHeader err acc rej) := by
  obtain ⟨out', hh, hw⟩ := encodeReplyHeader_written debris out xid acc rej hf
  unfold gpRpcEncodeReply
  rw [hh]
  exact ⟨out', if_pos (.inr he), hw⟩

theorem encodeReply_result (proc : GssxProc) (res : proc.Res) :
    ∃ out', gpRpcEncodeReply debris out xid (some ⟨proc, res⟩) 0 acc rej = (0, out') ∧
      out'.written = answerBytes xid proc (0, res) := by
  obtain ⟨header, hh, hw⟩ : ∃ out', gpRpcEncodeReplyHeader debris out xid 0 acc rej = (0, out') ∧
        out'.written = replyBytes xid successHeader :=
    encodeReplyHeader_written debris out xid acc rej (by decide)
  have hfi : ∀ bytes, header.Fits bytes ↔ 24 + bytes.length ≤ MAX_RPC_SIZE := by
    intro bytes
    rw [Buffer.fits_iff, hw, replyBytes_success]
  unfold gpRpcEncodeReply answerBytes resultBytes encodeTo
  simp only [hh, ne_eq, not_true_eq_false, or_self, if_false, if_true]
  have hs := encodeReplyHeader_written debris (header.fill debris) xid GP_RPC_SYSTEM_ERR
    GP_RPC_RPC_MISMATCH (by decide : EINVAL ≠ EFAULT)
  cases (xdrRes proc).encode res with
  | none => exact hs
  | some bytes =>
    by_cases hf : header.Fits bytes
    · simp only [if_pos hf, Option.filter, (hfi bytes).mp hf, decide_true, if_true]
      exact ⟨_, rfl, by rw [Buffer.written_fill hf, hw]⟩
    · simp only [if_neg hf, Option.filter, mt (hfi bytes).mpr hf, decide_false]; exact hs

end

/-! ## The whole call -/

section

variable (exec : (proc : GssxProc) → proc.Arg → UInt32 × proc.Res) (debris : Bytes)
  (replyBuffer : ReplyBuffer) {body : Bytes}

theorem processCall_run {proc : GssxProc} {arg : proc.Arg}
    (hc : gpRpcDecodeCall (XdrMem.new body) {} = (0, vars, some ⟨proc, arg⟩)) :
    gpRpcProcessCall exec debris replyBuffer body =
      Calls.call proc (.ok (answerBytes vars.xid proc (exec proc arg))) := by
  simp only [gpRpcProcessCall, hc, if_true, gpRpcExecute, Calls.pure_bind, Calls.call_bind_pure]
  obtain ⟨ret, res⟩ := exec proc arg
  by_cases hr : ret = 0
  · subst hr
    obtain ⟨out, ho, hw⟩ :=
      encodeReply_result debris replyBuffer vars.xid vars.acc vars.rej proc res
    simp [ho, hw]
  · -- an errno of the handler is mapped to `EINVAL` with its own accept status
    obtain ⟨out, ho, hw⟩ := encodeReply_error debris replyBuffer vars.xid
      GP_RPC_SYSTEM_ERR vars.rej (show EINVAL ≠ EFAULT by decide) (by decide) (some ⟨proc, res⟩)
    simp only [ne_eq, hr, not_false_eq_true, if_true, ho, hw, answerBytes, resultBytes, if_false]
    rfl

theorem gpRpcProcessCall_eq (body : Bytes) :
    gpRpcProcessCall exec debris replyBuffer body =
      match judge body with
      | none => pure (.error EFAULT)
      | some (xid, .error reply) => pure (.ok (replyBytes xid reply))
      | some (xid, .ok ⟨proc, arg⟩) =>
        Calls.call proc (.ok (answerBytes xid proc (exec proc arg))) := by
  unfold judge
  cases hde : xdrGpRpcMsg.decode.run (XdrMem.new body) with
  | none =>
    simp only [gpRpcProcessCall, gpRpcDecodeCall, gpRpcDecodeCallHeader, hde, Option.map_none]; rfl
  | some r =>
    obtain ⟨msg, x⟩ := r
    have hd := decodeCall_decodes hde
    simp only [Option.map_some]
    cases hc : checkMsg msg x with
    | error reply =>
      rw [hc] at hd
      rcases hca : gpRpcDecodeCall (XdrMem.new body) {} with ⟨ret, vars, arg⟩
      rw [hca] at hd
      obtain ⟨hf, ha, hx, rfl⟩ := hd
      obtain ⟨out, ho, hw⟩ :=
        encodeReply_error debris replyBuffer vars.xid vars.acc vars.rej ha hf none
      simp [← hx, gpRpcProcessCall, hca, if_neg hf, ho, hw]
    | ok call =>
      rw [hc] at hd
      obtain ⟨hr, hx, har⟩ := hd
      rw [← hx]
      exact processCall_run exec debris replyBuffer (Prod.ext hr (Prod.ext rfl har))

/-- The reply has this header, and `tail` after it. -/
def Replies (xid : UInt32) (header : GpRpcReplyHeader) (tail : Bytes) (r : Except UInt32 Bytes) :
    Prop :=
  ∃ reply, r = .ok reply ∧ reply.length ≤ MAX_RPC_SIZE ∧
    ∃ x, xdrGpRpcMsg.decode.run (XdrMem.new reply) = some (⟨xid, .rhdr header⟩, x) ∧ x.unread = tail

theorem replies_of_emitted (xid : UInt32) (tail : Bytes) (he : Compat.EmittedC header)
    (hl : (replyBytes xid header ++ tail).length ≤ MAX_RPC_SIZE) :
    Replies xid header tail (.ok (replyBytes xid header ++ tail)) :=
  ⟨_, rfl, hl, Compat.xdrGpRpcMsg_accepts.complete
    (s := XdrMem.new (replyBytes xid header ++ tail)) (encode_reply xid he).2 rfl⟩

theorem replies_header (xid : UInt32) (he : Compat.EmittedC header) :
    Replies xid header [] (.ok (replyBytes xid header)) := by
  have hl := replyBytes_length_le xid he
  have hr := replies_of_emitted xid [] he (by
    rw [List.append_nil, MAX_RPC_SIZE]
    omega)
  rwa [List.append_nil] at hr

theorem judge_emitted {xid : UInt32}
    (h : judge body = some (xid, .error reply)) : Compat.EmittedC reply := by
  obtain ⟨⟨msg, x⟩, hde, hv⟩ := Option.map_eq_some_iff.mp h
  obtain ⟨-, hc⟩ := Prod.mk.inj hv
  have hd := decodeCall_decodes hde
  rw [hc] at hd
  rw [← hd.reply]
  exact replyHeader_emitted _ _ _

theorem judge_eq_none : judge body = none ↔ xdrGpRpcMsg.decode.run (XdrMem.new body) = none :=
  Option.map_eq_none_iff

theorem answer_replies (xid : UInt32) (proc : GssxProc) (out : UInt32 × proc.Res) :
    match resultBytes proc out with
    | none => Replies xid (acceptedWith GP_RPC_SYSTEM_ERR) [] (.ok (answerBytes xid proc out))
    | some bytes => Replies xid successHeader bytes (.ok (answerBytes xid proc out)) := by
  unfold answerBytes
  cases hr : resultBytes proc out with
  | none => exact replies_header xid (acceptedWith_emitted (by decide))
  | some bytes =>
    refine replies_of_emitted xid bytes ⟨rfl, by simp⟩ ?_
    rw [List.length_append, replyBytes_success]
    unfold resultBytes at hr
    split at hr
    · simpa using (Option.filter_eq_some_iff.mp hr).2
    · cases hr

/-- **What `gp_rpc_process_call` returns**, for every request, every handler, every content of the
    buffer on the stack and every way in which a failed encoding litters it. -/
theorem process_call_correct (body : Bytes) :
    let run := gpRpcProcessCall exec debris replyBuffer body
    ((∃ err, run.value = .error err) ↔ xdrGpRpcMsg.decode.run (XdrMem.new body) = none) ∧
    match judge body with
    | none => run.log = []
    | some (xid, .error reply) => run.log = [] ∧ Replies xid reply [] run.value
    | some (xid, .ok ⟨proc, arg⟩) => run.log = [proc] ∧
      match resultBytes proc (exec proc arg) with
      | none => Replies xid (acceptedWith GP_RPC_SYSTEM_ERR) [] run.value
      | some bytes => Replies xid successHeader bytes run.value := by
  rw [gpRpcProcessCall_eq, ← judge_eq_none]
  cases hj : judge body with
  | none => exact ⟨⟨fun _ => rfl, fun _ => ⟨_, rfl⟩⟩, rfl⟩
  | some verdict =>
    obtain ⟨xid, reply | ⟨proc, arg⟩⟩ := verdict
    · refine ⟨⟨fun ⟨err, he⟩ => (nomatch he), fun h => (nomatch h)⟩, rfl, ?_⟩
      exact replies_header xid (judge_emitted hj)
    · refine ⟨⟨fun ⟨err, he⟩ => (nomatch he), fun h => (nomatch h)⟩, rfl, ?_⟩
      exact answer_replies xid proc (exec proc arg)

end

end GssProxy.Daemon
