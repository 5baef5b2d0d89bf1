import GssProxy.Client.Init

/-!
# Context acceptance in the client libraries

`gpm_accept_sec_context` and its Rust port.  Both give up the context and the token of a reply whose
major status is not zero, also where it asks for another leg.
-/

namespace GssProxy.Client

open Codec Gss Proto

structure AcceptRequest where
  acceptorCred : Option GssxCred
  inputCb : Option GssxCb
  wantName : Bool
  wantMech : Bool
  wantFlags : Bool
  wantTime : Bool
  wantDeleg : Bool
  deriving Inhabited

structure AcceptOutput where
  srcName : Option GssxName
  mech : Option Bytes
  outputToken : Option Bytes
  retFlags : Option UInt32
  timeRec : Option UInt32
  delegated : Option GssxCred
  deriving DecidableEq, Inhabited

def acceptArg (context : Option GssxCtx) (req : AcceptRequest) (token : Bytes) :
    ArgAcceptSecContext :=
  { (default : ArgAcceptSecContext) with
    contextHandle := context
    credHandle := req.acceptorCred
    inputToken := ⟨token⟩
    inputCb := req.inputCb
    retDelegCred := req.wantDeleg }

structure GpmAccept where
  exit : Exit
  context : Option GssxCtx
  output : AcceptOutput

/-- `gpm_accept_sec_context`: only an error of the call itself leaves the context handle alone. -/
def gpmAcceptSecContext (mechs : Except UInt32 (List Bytes))
    (daemon : ArgAcceptSecContext → Except UInt32 ResAcceptSecContext)
    (context : Option GssxCtx) (req : AcceptRequest) (token : Bytes) : GpmAccept :=
  let failed (errno : UInt32) : GpmAccept :=
    { exit := .mk GSS_S_FAILURE errno, context, output := default }
  match daemon (acceptArg context req token) with
  | .error errno => failed errno
  | .ok res =>
    if res.status.majorStatus ≠ 0 then
      { exit := .mk res.status.majorStatus.toUInt32 res.status.minorStatus.toUInt32
        context := none
        output := default }
    else
      match res.contextHandle with
      | none => failed EINVAL
      | some ctx =>
        match res.outputToken with
        | none => { exit := .fault, context, output := default }
        | some outbuf =>
          let mech :=
            if req.wantMech then gpmMechToStatic mechs res.status.mech.data else .ok []
          match mech with
          | .error errno => failed errno
          | .ok mech =>
            { exit := .mk GSS_S_COMPLETE 0
              context := some ctx
              output :=
                { srcName := if req.wantName then some ctx.srcName else none
                  mech := if req.wantMech then some mech else none
                  outputToken := if outbuf.data = [] then none else some outbuf.data
                  retFlags := if req.wantFlags then some ctx.ctxFlags.toUInt32 else none
                  timeRec := if req.wantTime then some ctx.lifetime.toUInt32 else none
                  delegated := if req.wantDeleg then res.delegatedCredHandle else none } }

def acceptSecContext (daemon : ArgAcceptSecContext → Except UInt32 ResAcceptSecContext)
    (context : Option GssxCtx) (req : AcceptRequest) (token : Bytes) : GpmAccept :=
  let failed (major minor : UInt32) : GpmAccept :=
    { exit := .mk major minor, context := none, output := default }
  match daemon (acceptArg context req token) with
  | .error errno => failed GSS_S_FAILURE errno
  | .ok res =>
    if res.status.majorStatus ≠ 0 then
      { exit := .mk res.status.majorStatus.toUInt32 res.status.minorStatus.toUInt32
        context := none
        output := { (default : AcceptOutput) with mech := some res.status.mech.data } }
    else
      match res.contextHandle with
      | none => failed GSS_S_FAILURE EINVAL
      | some ctx =>
        { exit := .mk GSS_S_COMPLETE 0
          context := some ctx
          output :=
            { srcName := some ctx.srcName
              mech := some res.status.mech.data
              outputToken := res.outputToken.map (·.data)
              retFlags := none
              timeRec := none
              delegated := res.delegatedCredHandle } }

end GssProxy.Client
