import GssProxy.Client.Name
import GssProxy.Gss.Options
import GssProxy.Rpcgen.GssProxyXdr

/-!
# Context initiation in the client libraries

`gpm_init_sec_context` and its Rust port: both build the same request.

* `gpmInitSecContext_kept`: what a call that is kept takes from the reply.
-/

namespace GssProxy.Client

open Codec Gss Proto

/-! ## Requests -/

/-- The arguments of an initiation. -/
structure InitRequest where
  reqFlags : UInt32
  timeReq : UInt32
  inputCb : Option GssxCb
  inputToken : Option Bytes
  wantMech : Bool
  wantFlags : Bool
  wantTime : Bool
  deriving Inhabited

structure InitOutput where
  actualMech : Option Bytes
  outputToken : Option Bytes
  retFlags : Option UInt32
  timeRec : Option UInt32
  deriving DecidableEq, Inhabited

def initArg (cred : Option GssxCred) (context : Option GssxCtx) (target : Option GssxName)
    (mech : Bytes) (req : InitRequest) : ArgInitSecContext :=
  { (default : ArgInitSecContext) with
    contextHandle := context
    credHandle := cred
    targetName := target
    mechType := ⟨mech⟩
    reqFlags := req.reqFlags.toUInt64
    timeReq := req.timeReq.toUInt64
    inputCb := req.inputCb
    inputToken := req.inputToken.map Opaque.mk
    options := [option CRED_SYNC_OPTION CRED_SYNC_DEFAULT] }

/-! ## The C library -/

def gpmMechToStatic (mechs : Except UInt32 (List Bytes)) (mech : Bytes) : Except UInt32 Bytes := do
  if mech ∈ (← mechs) then return mech else .error ENOENT

structure GpmInit where
  exit : Exit
  context : Option GssxCtx
  output : InitOutput
  outCred : Option GssxCred

def GpmInit.failed (errno : UInt32) : GpmInit :=
  { exit := .mk GSS_S_FAILURE errno, context := none, output := default, outCred := none }

def gpmInitSecContext (mechs : Except UInt32 (List Bytes))
    (daemon : ArgInitSecContext → Except UInt32 ResInitSecContext) (cred : Option GssxCred)
    (context : Option GssxCtx) (target : Option GssxName) (mech : Bytes) (req : InitRequest) :
    GpmInit :=
  match daemon (initArg cred context target mech req) with
  | .error errno => .failed errno
  | .ok res =>
    let actualMech := if req.wantMech then gpmMechToStatic mechs res.status.mech.data else .ok []
    match actualMech with
    | .error errno => .failed errno
    | .ok mech =>
      let major := res.status.majorStatus.toUInt32
      let minor := res.status.minorStatus.toUInt32
      let outCred := (findOption res.options CRED_SYNC_PAYLOAD).bind fun value =>
        (Rpcgen.xdrGssxCred.decodeFrom value).map Prod.fst
      let actualMech := if req.wantMech then some mech else none
      if keep major then
        match res.contextHandle with
        | some ctx =>
          { exit := .mk major minor
            context := some ctx
            output :=
              { actualMech
                outputToken := (res.outputToken.map (·.data)).filter (· ≠ [])
                retFlags := if req.wantFlags then some ctx.ctxFlags.toUInt32 else none
                timeRec := if req.wantTime then some ctx.lifetime.toUInt32 else none }
            outCred }
        | none =>
          -- the flags and the lifetime are read from the context that is not there
          if req.wantFlags || req.wantTime then
            { exit := .fault, context := none, output := default, outCred }
          else
            { exit := .mk major minor
              context := none
              output :=
                { actualMech
                  outputToken := (res.outputToken.map (·.data)).filter (· ≠ [])
                  retFlags := none
                  timeRec := none }
              outCred }
      else
        { exit := .mk major minor
          context := none
          output := { (default : InitOutput) with actualMech := actualMech }
          outCred }

section

variable {mechs : Except UInt32 (List Bytes)}
  {daemon : ArgInitSecContext → Except UInt32 ResInitSecContext} {cred : Option GssxCred}
  {context : Option GssxCtx} {target : Option GssxName} {mech oid : Bytes} {req : InitRequest}
  {res : ResInitSecContext}

theorem gpmInitSecContext_kept {ctx : GssxCtx}
    (hr : daemon (initArg cred context target mech req) = .ok res)
    (hm : (if req.wantMech then gpmMechToStatic mechs res.status.mech.data else .ok []) = .ok oid)
    (hk : keep res.status.majorStatus.toUInt32 = true) (hc : res.contextHandle = some ctx) :
    let r := gpmInitSecContext mechs daemon cred context target mech req
    r.exit = .mk res.status.majorStatus.toUInt32 res.status.minorStatus.toUInt32 ∧
      r.context = some ctx ∧
      r.output.outputToken = (res.outputToken.map (·.data)).filter (· ≠ []) := by
  unfold gpmInitSecContext
  simp [hr, hm, hk, hc]

theorem gpmInitSecContext_dropped (hr : daemon (initArg cred context target mech req) = .ok res)
    (hm : (if req.wantMech then gpmMechToStatic mechs res.status.mech.data else .ok []) = .ok oid)
    (hk : keep res.status.majorStatus.toUInt32 = false) :
    let r := gpmInitSecContext mechs daemon cred context target mech req
    r.exit = .mk res.status.majorStatus.toUInt32 res.status.minorStatus.toUInt32 ∧
      r.context = none ∧ r.output.outputToken = none := by
  unfold gpmInitSecContext
  simp only [hr, hm, hk, Bool.false_eq_true, if_false, true_and]
  rfl

end

structure InitSecContext where
  major : UInt32
  minor : UInt32
  context : Option GssxCtx
  outputToken : Option Bytes
  actualMech : Bytes
  outCred : Option GssxCred

def initSecContext (daemon : ArgInitSecContext → Except UInt32 ResInitSecContext)
    (cred : Option GssxCred) (context : Option GssxCtx) (target : Option GssxName) (mech : Bytes)
    (req : InitRequest) : InitSecContext :=
  match daemon (initArg cred context target mech req) with
  | .error errno =>
    { major := GSS_S_FAILURE, minor := errno, context := none, outputToken := none,
      actualMech := [], outCred := none }
  | .ok res =>
    let major := res.status.majorStatus.toUInt32
    { major
      minor := res.status.minorStatus.toUInt32
      context := if keep major then res.contextHandle else none
      outputToken := if keep major then res.outputToken.map (·.data) else none
      actualMech := res.status.mech.data
      outCred := (findOption res.options CRED_SYNC_PAYLOAD).bind fun value =>
        match decodeFrom (α := GssxCred) value with
        | .ok (cred, _) => some cred
        | .error _ => none }

end GssProxy.Client
