import GssProxy.Daemon.Handlers

/-!
# Message protection in the C daemon

`gp_wrap`, `gp_unwrap`, `gp_get_mic` and `gp_verify_mic` import the context of the request, make one call
to the library and export the context into the reply; the handle is attached before the export, and the
results are filled in after it.  `gp_unwrap` answers with the quality of protection of the request.

* `onMessage_done`: the reply to a call that goes through.
-/

namespace GssProxy.Daemon

open Codec Effect Gss Proto Server

/-! ## The library -/

structure MsgStep (X : Type) where
  major : UInt32
  minor : UInt32
  output : Bytes
  conf : Bool
  qop : UInt32
  next : X

/-- The message calls of the GSSAPI library. -/
structure MessageOps (X : Type) where
  wrap : X → Bool → UInt32 → Bytes → MsgStep X
  unwrap : X → Bytes → MsgStep X
  getMic : X → UInt32 → Bytes → MsgStep X
  verifyMic : X → Bytes → Bytes → MsgStep X

inductive ResultAlloc where
  | qopState
  | confState
  | buffer
  | bufferData

abbrev Allocations := ResultAlloc → Except UInt32 Unit

section

variable {N X A H : Type} (lib : GpLib N X A H) (ops : MessageOps X) (conv : Conversions)
  (alloc : Allocations)

def messageCall (callCtx : GssxCallCtx) (handle : GssxCtx) (op : X → MsgStep X) :
    Except Stop (ExpCtxType × MsgStep X) :=
  let type := exportedContextType callCtx.options
  if type = .expPartial then .error (.status ⟨GSS_S_FAILURE, EINVAL, none⟩)
  else
    match importGssxCtx lib.toContextLib handle with
    | .error e => .error (.status ⟨e.major, e.minor, none⟩)
    | .ok x =>
      let r := op x
      if r.major = 0 then .ok (type, r) else .error (.status ⟨r.major, r.minor, none⟩)

def messageInto {ρ : Type} (attach : GssxCtx → ρ → ρ)
    (results : MsgStep X → Filling GssError ρ Unit) (p : ExpCtxType × MsgStep X) :
    Filling GssError ρ Unit := do
  .ofExcept (conv .contextHandle)
  .part attach default (exportCtxInto lib conv p.1 none (some p.2.next))
  results p.2

def onMessage {ρ : Type} [Inhabited ρ] (setStatus : GssxStatus → ρ → ρ)
    (attach : GssxCtx → ρ → ρ) (callCtx : GssxCallCtx) (handle : GssxCtx) (op : X → MsgStep X)
    (results : MsgStep X → Filling GssError ρ Unit) : Option ρ :=
  finish setStatus (endingStatus lib conv) (messageCall lib callCtx handle op)
    (fun _ => ⟨GSS_S_COMPLETE, 0, none⟩) (messageInto lib conv attach results)

def allocate {ρ : Type} (what : ResultAlloc) : Filling GssError ρ Unit :=
  .ofExcept ((alloc what).mapError (⟨GSS_S_FAILURE, ·⟩))

def gpWrap (arg : ArgWrap) : Option ResWrap :=
  onMessage lib conv (fun status res => { res with status })
    (fun ctx res => { res with contextHandle := some ctx }) arg.callCtx arg.contextHandle
    (ops.wrap · arg.confReq arg.qopState.toUInt32 (firstBuffer arg.messageBuffer)) fun r => do
      allocate alloc .qopState
      .write fun res => { res with qopState := some arg.qopState }
      allocate alloc .confState
      .write fun res => { res with confState := some r.conf }
      allocate alloc .buffer
      .write fun res => { res with tokenBuffer := [default] }
      allocate alloc .bufferData
      .write fun res => { res with tokenBuffer := [⟨r.output⟩] }

def gpUnwrap (arg : ArgUnwrap) : Option ResUnwrap :=
  onMessage lib conv (fun status res => { res with status })
    (fun ctx res => { res with contextHandle := some ctx }) arg.callCtx arg.contextHandle
    (ops.unwrap · (firstBuffer arg.tokenBuffer)) fun r => do
      allocate alloc .qopState
      .write fun res => { res with qopState := some arg.qopState }
      allocate alloc .confState
      .write fun res => { res with confState := some r.conf }
      allocate alloc .buffer
      .write fun res => { res with messageBuffer := [default] }
      allocate alloc .bufferData
      .write fun res => { res with messageBuffer := [⟨r.output⟩] }

def gpGetMic (arg : ArgGetMic) : Option ResGetMic :=
  onMessage lib conv (fun status res => { res with status })
    (fun ctx res => { res with contextHandle := some ctx }) arg.callCtx arg.contextHandle
    (ops.getMic · arg.qopReq.toUInt32 arg.messageBuffer.data) fun r => do
      allocate alloc .qopState
      .write fun res => { res with qopState := some arg.qopReq }
      allocate alloc .bufferData
      .write fun res => { res with tokenBuffer := ⟨r.output⟩ }

def gpVerifyMic (arg : ArgVerifyMic) : Option ResVerifyMic :=
  onMessage lib conv (fun status res => { res with status })
    (fun ctx res => { res with contextHandle := some ctx }) arg.callCtx arg.contextHandle
    (ops.verifyMic · arg.messageBuffer.data arg.tokenBuffer.data) fun r => do
      allocate alloc .qopState
      .write fun res => { res with qopState := some r.qop.toUInt64 }

end

section

variable {N X A H ρ : Type} [Inhabited ρ] {lib : GpLib N X A H} {conv : Conversions}
  {setStatus : GssxStatus → ρ → ρ} {attach : GssxCtx → ρ → ρ} {handle : GssxCtx}
  {op : X → MsgStep X} {results : MsgStep X → Filling GssError ρ Unit} {x : X}
  (hx : importGssxCtx lib.toContextLib handle = .ok x)
include hx

theorem messageCall_imported :
    messageCall lib default handle op =
      if (op x).major = 0 then .ok (.expDefault, op x)
      else .error (.status ⟨(op x).major, (op x).minor, none⟩) := by
  have ht : exportedContextType (default : GssxCallCtx).options = .expDefault := rfl
  unfold messageCall
  simp only [ht, hx]
  rfl

theorem onMessage_refused (hm : (op x).major ≠ 0) :
    onMessage lib conv setStatus attach default handle op results =
      (endingStatus lib conv ⟨(op x).major, (op x).minor, none⟩).map (setStatus · default) := by
  unfold onMessage finish
  rw [messageCall_imported hx, if_neg hm]

theorem onMessage_unallocated (hm : (op x).major = 0) {e : GssError}
    (hc : conv .contextHandle = .error e) :
    onMessage lib conv setStatus attach default handle op results =
      (endingStatus lib conv ⟨e.major, e.minor, none⟩).map (setStatus · default) := by
  have hf : messageInto lib conv attach results (.expDefault, op x) default =
      (.error e, default) := by
    unfold messageInto
    rw [hc]; rfl
  unfold onMessage finish
  rw [messageCall_imported hx, if_pos hm]
  simp [hf]

theorem onMessage_done (hm : (op x).major = 0) (hc : conv .contextHandle = .ok ())
    (hs : conv .status = .ok ()) {next : GssxCtx} {out : ρ}
    (he : exportCtxInto lib conv .expDefault none (some (op x).next) default = (.ok (), next))
    (hr : results (op x) (attach next default) = (.ok (), out)) :
    onMessage lib conv setStatus attach default handle op results =
      some (setStatus (statusWith GSS_S_COMPLETE 0 none [] []) out) := by
  have hf : messageInto lib conv attach results (.expDefault, op x) default = (.ok (), out) := by
    unfold messageInto
    rw [hc]
    refine (Filling.ofExcept_ok_bind ()).trans ?_
    exact (Filling.bind_ok (Filling.part_ok he)).trans hr
  unfold onMessage finish endingStatus
  rw [messageCall_imported hx, if_pos hm]
  simp only [hf, hs]
  rfl

end

/-! ## The replies to calls that go through -/

section

variable {N X A H : Type} {lib : GpLib N X A H} {ops : MessageOps X} {conv : Conversions}
  {handle next : GssxCtx} {x : X}

structure GoesThrough (lib : GpLib N X A H) (conv : Conversions) (handle next : GssxCtx) (x : X)
    (op : X → MsgStep X) : Prop where
  imported : importGssxCtx lib.toContextLib handle = .ok x
  succeeds : (op x).major = 0
  allocated : conv .contextHandle = .ok ()
  stated : conv .status = .ok ()
  exported : exportCtxInto lib conv .expDefault none (some (op x).next) default = (.ok (), next)

theorem gpWrap_done {confReq : Bool} {qopReq : UInt32} {message : Bytes}
    (h : GoesThrough lib conv handle next x (ops.wrap · confReq qopReq message)) :
    gpWrap lib ops conv (fun _ => .ok ())
        { (default : ArgWrap) with
          contextHandle := handle
          confReq := confReq
          messageBuffer := [⟨message⟩]
          qopState := qopReq.toUInt64 } =
      some
        { status := statusWith GSS_S_COMPLETE 0 none [] []
          contextHandle := some next
          tokenBuffer := [⟨(ops.wrap x confReq qopReq message).output⟩]
          confState := some (ops.wrap x confReq qopReq message).conf
          qopState := some qopReq.toUInt64 } := by
  unfold gpWrap
  simp only [UInt32.toUInt32_toUInt64]
  exact (onMessage_done h.imported h.succeeds h.allocated h.stated h.exported rfl).trans rfl

theorem gpUnwrap_done {token : Bytes} {qop : UInt64}
    (h : GoesThrough lib conv handle next x (ops.unwrap · token)) :
    gpUnwrap lib ops conv (fun _ => .ok ())
        { (default : ArgUnwrap) with
          contextHandle := handle, tokenBuffer := [⟨token⟩], qopState := qop } =
      some
        { status := statusWith GSS_S_COMPLETE 0 none [] []
          contextHandle := some next
          messageBuffer := [⟨(ops.unwrap x token).output⟩]
          confState := some (ops.unwrap x token).conf
          qopState := some qop } :=
  (onMessage_done h.imported h.succeeds h.allocated h.stated h.exported rfl).trans rfl

theorem gpGetMic_done {qopReq : UInt32} {message : Bytes}
    (h : GoesThrough lib conv handle next x (ops.getMic · qopReq message)) :
    gpGetMic lib ops conv (fun _ => .ok ())
        { (default : ArgGetMic) with
          contextHandle := handle, qopReq := qopReq.toUInt64, messageBuffer := ⟨message⟩ } =
      some
        { status := statusWith GSS_S_COMPLETE 0 none [] []
          contextHandle := some next
          tokenBuffer := ⟨(ops.getMic x qopReq message).output⟩
          qopState := some qopReq.toUInt64 } := by
  unfold gpGetMic
  simp only [UInt32.toUInt32_toUInt64]
  exact (onMessage_done h.imported h.succeeds h.allocated h.stated h.exported rfl).trans rfl

theorem gpVerifyMic_done {message token : Bytes}
    (h : GoesThrough lib conv handle next x (ops.verifyMic · message token)) :
    gpVerifyMic lib ops conv (fun _ => .ok ())
        { (default : ArgVerifyMic) with
          contextHandle := handle, messageBuffer := ⟨message⟩, tokenBuffer := ⟨token⟩ } =
      some
        { status := statusWith GSS_S_COMPLETE 0 none [] []
          contextHandle := some next
          qopState := some (ops.verifyMic x message token).qop.toUInt64 } :=
  (onMessage_done h.imported h.succeeds h.allocated h.stated h.exported rfl).trans rfl

end

end GssProxy.Daemon
