import GssProxy.Client.Accept
import GssProxy.Interposer.DefCreds
import GssProxy.Interposer.Sides

/-!
# Context acceptance in the interposer

`gssi_accept_sec_context` lets the context and then the credential decide between the local mechanism and
the daemon.  The C and the Rust entry point differ in the default credentials and in what a failed call to
the daemon leaves in the context handle.
-/

namespace GssProxy.Interposer

open Codec Gss Proto Client Effect

/-! ## The outside -/

structure AcceptAsk where
  token : Bytes
  inputCb : Option GssxCb
  wantName : Bool
  wantMech : Bool
  wantFlags : Bool
  wantTime : Bool
  wantDeleg : Bool
  deriving Inhabited

def AcceptAsk.request (ask : AcceptAsk) (acceptorCred : Option GssxCred) : AcceptRequest :=
  { acceptorCred
    inputCb := ask.inputCb
    wantName := ask.wantName
    wantMech := ask.wantMech
    wantFlags := ask.wantFlags
    wantTime := ask.wantTime
    wantDeleg := ask.wantDeleg }

structure AcceptShown where
  mech : Option Bytes
  outputToken : Option Bytes
  retFlags : Option UInt32
  timeRec : Option UInt32
  deriving Inhabited

structure LocalAccept (N C X : Type) where
  major : UInt32
  minor : UInt32
  ctx : Option X
  srcName : Option N
  delegated : Option C
  shown : AcceptShown

structure AcceptWorld (N C X : Type) where
  acceptLocal : Option C → Option X → AcceptAsk → LocalAccept N C X
  daemonAccept : ArgAcceptSecContext → Except UInt32 ResAcceptSecContext
  mechs : Except UInt32 (List Bytes)
  creds : CredWorld N C
  interposed : Option (List Bytes)

/-- A call that an acceptance makes. -/
inductive AcceptStep (N C : Type) where
  | cred (step : CredStep N)
  | localMech (cred : Option C)
  | daemon (arg : ArgAcceptSecContext)
  | release (cred : GssxCred)

structure AcceptSide where
  defaults : DefSide
  remote : Except UInt32 (List Bytes) → (ArgAcceptSecContext → Except UInt32 ResAcceptSecContext) →
    Option GssxCtx → AcceptRequest → Bytes → GpmAccept

def cAccept : AcceptSide where
  defaults := cDef
  remote := gpmAcceptSecContext

def rustAccept : AcceptSide where
  defaults := rustDef
  remote _ daemon context req token :=
    let res := acceptSecContext daemon context req token
    if res.exit.keep then
      { exit := res.exit
        context := res.context
        output :=
          { srcName := if req.wantName then res.output.srcName else none
            mech := if req.wantMech then res.output.mech else none
            outputToken := res.output.outputToken
            retFlags := if req.wantFlags then res.context.map (·.ctxFlags.toUInt32) else none
            timeRec := if req.wantTime then res.context.map (·.lifetime.toUInt32) else none
            delegated := if req.wantDeleg then res.output.delegated else none } }
    else { exit := res.exit, context, output := default }

/-! ## The acceptance -/

structure AcceptLeg (N C X : Type) where
  exit : Exit
  ctx : CtxHandle X
  name : Option (NameHandle N)
  deleg : Option (OutCred C)
  shown : AcceptShown

/-- What an acceptance leaves. -/
structure AcceptResult (N C X : Type) where
  exit : Exit
  context : Option (CtxHandle X)
  srcName : Option (NameHandle N)
  delegated : Option (OutCred C)
  shown : AcceptShown

section

variable {N C X : Type}

def AcceptLeg.stopped (exit : Exit) (ctx : CtxHandle X) : AcceptLeg N C X :=
  { exit, ctx, name := none, deleg := none, shown := default }

def OutCred.delegated (remote : Option GssxCred) (localCred : Option C) : OutCred C :=
  { remote, localCred, defaultCreds := false, ccache := none }

def contextSide (behavior : Behavior) : Option (CtxHandle X) → Behavior
  | none => behavior
  | some ctx =>
    if ctx.localCtx.isSome then .localOnly
    else if ctx.remote.isSome then .remoteOnly
    else behavior

def credSide (behavior : Behavior) (cred : OutCred C) : Except UInt32 Behavior :=
  if cred.localCred.isSome then
    if behavior = .remoteOnly then .error GSS_S_DEFECTIVE_CREDENTIAL else .ok .localOnly
  else if cred.remote.isSome then
    if behavior = .localOnly then .error GSS_S_DEFECTIVE_CREDENTIAL else .ok .remoteOnly
  else .ok behavior

variable (side : AcceptSide) (w : AcceptWorld N C X) (ask : AcceptAsk) (behavior : Behavior)
  (cred : OutCred C) (ctx : CtxHandle X)

def acceptCtxLocal : Calls (AcceptStep N C) (AcceptLeg N C X) := do
  let r ← Calls.call (.localMech cred.localCred) (w.acceptLocal cred.localCred ctx.localCtx ask)
  return {
    exit := .mk r.major r.minor
    ctx := { ctx with localCtx := r.ctx }
    name :=
      if ask.wantName then some { mechType := none, remote := none, localName := r.srcName }
      else none
    deleg := if ask.wantDeleg then some (.delegated none r.delegated) else none
    shown := r.shown }

def acceptCtxRemote : Calls (AcceptStep N C) (AcceptLeg N C X) := do
  let req := ask.request cred.remote
  let r ← Calls.call (.daemon (acceptArg ctx.remote req ask.token))
    (side.remote w.mechs w.daemonAccept ctx.remote req ask.token)
  return {
    exit := r.exit
    ctx := { ctx with remote := r.context }
    name :=
      if ask.wantName then some { mechType := none, remote := r.output.srcName, localName := none }
      else none
    deleg := if ask.wantDeleg then some (.delegated r.output.delegated none) else none
    shown := ⟨r.output.mech, r.output.outputToken, r.output.retFlags, r.output.timeRec⟩ }

def acceptOn : Calls (AcceptStep N C) (AcceptLeg N C X) :=
  match behavior with
  | .localOnly => acceptCtxLocal w ask cred ctx
  | .remoteOnly => acceptCtxRemote side w ask cred ctx
  | _ => pure (.stopped (.mk GSS_S_FAILURE 0) ctx)

def acceptWith : Calls (AcceptStep N C) (AcceptLeg N C X) :=
  match credSide behavior cred with
  | .error major => pure (.stopped (.mk major 0) ctx)
  | .ok behavior => acceptOn side w ask behavior cred ctx

def acceptWithDefault : Option (DefCreds C) → Calls (AcceptStep N C) (AcceptLeg N C X)
  | none => pure (.stopped .fault ctx)
  | some d =>
    if d.major = GSS_S_COMPLETE then
      match d.slot with
      | none => pure (.stopped .fault ctx)
      | some cred => acceptWith side w ask behavior cred ctx
    else pure (.stopped (.mk d.major d.minor) ctx)

def releaseDefault (d : Option (DefCreds C)) : Calls (AcceptStep N C) Unit :=
  match d.bind fun d => d.slot.bind (·.remote) with
  | none => pure ()
  | some cred => Calls.call (.release cred) ()

def acceptDefaults : DefRequest N where
  interposed := w.interposed
  usage := GSS_C_ACCEPT
  name := none

def finishAccept (leg : AcceptLeg N C X) : AcceptResult N C X :=
  { exit := mapExit leg.exit
    context := freeEmpty leg.exit leg.ctx
    srcName := if leg.exit.keep then leg.name else none
    delegated := if leg.exit.keep then leg.deleg else none
    shown := leg.shown }

variable (context : Option (CtxHandle X)) (acceptor : Option (OutCred C))

def acceptEntry : Calls (AcceptStep N C) (AcceptResult N C X) :=
  let ctx := context.getD { remote := none, localCtx := none }
  let behavior := contextSide behavior context
  match acceptor with
  | some cred => do
    return finishAccept (← acceptWith side w ask behavior cred ctx)
  | none => do
    let d ← (defCreds side.defaults w.creds (acceptDefaults w) behavior none).mapLog .cred
    let leg ← acceptWithDefault side w ask behavior ctx d
    releaseDefault d
    return finishAccept leg

def gssiAcceptSecContext : Calls (AcceptStep N C) (AcceptResult N C X) :=
  acceptEntry cAccept w ask behavior context acceptor

def rustGssiAcceptSecContext : Calls (AcceptStep N C) (AcceptResult N C X) :=
  acceptEntry rustAccept w ask behavior context acceptor

end

end GssProxy.Interposer
