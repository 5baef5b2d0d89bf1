import GssProxy.Client.Init

/-!
# Message protection in the C client library

`gpm_wrap`, `gpm_unwrap`, `gpm_get_mic` and `gpm_verify_mic`.  Whenever the reply has a context it takes
the place of the client's own, whatever its status.
-/

namespace GssProxy.Client

open Codec Gss Proto

structure MsgOutcome where
  exit : Exit
  output : Bytes
  conf : Option Bool
  qop : Option UInt32
  deriving DecidableEq

def MsgOutcome.failed (major minor : UInt32) : MsgOutcome := ⟨.mk major minor, [], none, none⟩

def readIf {α : Type} (want : Bool) (result : Option α) : Option (Option α) :=
  if want then result.map some else some none

def MsgOutcome.ofResults (output : Bytes) (conf : Option (Option Bool))
    (qop : Option (Option UInt64)) : MsgOutcome :=
  match conf, qop with
  | some conf, some qop => ⟨.mk GSS_S_COMPLETE 0, output, conf, qop.map (·.toUInt32)⟩
  | _, _ => ⟨.fault, [], none, none⟩

def receive {ρ : Type} (status : ρ → GssxStatus) (contextHandle : ρ → Option GssxCtx)
    (results : ρ → MsgOutcome) (context : GssxCtx) : Except UInt32 ρ → MsgOutcome × GssxCtx
  | .error errno => (.failed GSS_S_FAILURE errno, context)
  | .ok res =>
    let outcome :=
      if (status res).majorStatus ≠ 0 then
        .failed (status res).majorStatus.toUInt32 (status res).minorStatus.toUInt32
      else results res
    (outcome, (contextHandle res).getD context)

def headBuffer (buffers : List GssxBuffer) : Bytes := buffers.head?.elim [] Opaque.data

def gpmWrap (daemon : ArgWrap → Except UInt32 ResWrap) (context : GssxCtx) (confReq : Bool)
    (qopReq : UInt32) (message : Bytes) (wantConf : Bool) : MsgOutcome × GssxCtx :=
  receive (·.status) (·.contextHandle)
    (fun res =>
      .ofResults (headBuffer res.tokenBuffer) (readIf wantConf res.confState) (readIf false none))
    context
    (daemon { (default : ArgWrap) with
      contextHandle := context
      confReq := confReq
      messageBuffer := [⟨message⟩]
      qopState := qopReq.toUInt64 })

def gpmUnwrap (daemon : ArgUnwrap → Except UInt32 ResUnwrap) (context : GssxCtx) (token : Bytes)
    (wantConf : Bool) (qop : Option UInt32) : MsgOutcome × GssxCtx :=
  receive (·.status) (·.contextHandle)
    (fun res =>
      .ofResults (headBuffer res.messageBuffer) (readIf wantConf res.confState)
        (readIf qop.isSome res.qopState))
    context
    (daemon { (default : ArgUnwrap) with
      contextHandle := context
      tokenBuffer := [⟨token⟩]
      qopState := (qop.getD 0).toUInt64 })

def gpmGetMic (daemon : ArgGetMic → Except UInt32 ResGetMic) (context : GssxCtx) (qopReq : UInt32)
    (message : Bytes) : MsgOutcome × GssxCtx :=
  receive (·.status) (·.contextHandle)
    (fun res => .ofResults res.tokenBuffer.data (readIf false none) (readIf false none))
    context
    (daemon { (default : ArgGetMic) with
      contextHandle := context
      qopReq := qopReq.toUInt64
      messageBuffer := ⟨message⟩ })

def gpmVerifyMic (daemon : ArgVerifyMic → Except UInt32 ResVerifyMic) (context : GssxCtx)
    (message token : Bytes) (wantQop : Bool) : MsgOutcome × GssxCtx :=
  receive (·.status) (·.contextHandle)
    (fun res => .ofResults [] (readIf false none) (readIf wantQop res.qopState))
    context
    (daemon { (default : ArgVerifyMic) with
      contextHandle := context
      messageBuffer := ⟨message⟩
      tokenBuffer := ⟨token⟩ })

end GssProxy.Client
