import GssProxy.Client.Init
import GssProxy.Effect.Calls
import GssProxy.Interposer.Name

/-!
# Context initiation in the interposer

`gssi_init_sec_context` tries the local mechanism, the daemon, or one after the other.  Its calls are
recorded with the credential each one carries; the outside is a parameter.  The C and the Rust entry point
differ in the conversion of names and in what a failed call to the daemon leaves in the context.
-/

namespace GssProxy.Interposer

open Codec Gss Proto Client Effect

/-! ## Handles and the outside -/

/-- `struct gpp_cred_handle`. -/
structure CredHandle (C : Type) where
  remote : Option GssxCred
  localCred : Option C

/-- `struct gpp_context_handle`. -/
structure CtxHandle (X : Type) where
  remote : Option GssxCtx
  localCtx : Option X

/-- `enum gpp_behavior`. -/
inductive Behavior where
  | localOnly
  | localFirst
  | remoteFirst
  | remoteOnly
  deriving DecidableEq, Repr

structure LocalReply (X : Type) where
  major : UInt32
  minor : UInt32
  ctx : Option X
  output : InitOutput

structure LocalInit (N C X : Type) extends LocalNames N where
  initSecContext : Option C → Option X → Option N → Bytes → InitRequest → LocalReply X

/-- How the calls of an initiation end. -/
structure World (N C X : Type) where
  lib : LocalInit N C X
  daemonInit : ArgInitSecContext → Except UInt32 ResInitSecContext
  daemonAcquire : ArgAcquireCred → Except UInt32 ResAcquireCred
  retrieved : Option GssxCred
  mechs : Except UInt32 (List Bytes)

/-- A call that an initiation makes. -/
inductive InitCall (C : Type) where
  | localMech (cred : Option C)
  | daemon (arg : ArgInitSecContext)
  deriving DecidableEq

structure Side (N : Type) where
  toLocal : ToLocal N
  remote : Option GssxCred → Option GssxCtx → Option GssxName → Bytes → InitRequest → GpmInit

section

variable {N C X : Type} (w : World N C X)

def cSide : Side N where
  toLocal := gppNameToLocal w.lib.toLocalNames
  remote := gpmInitSecContext w.mechs w.daemonInit

def rustSide : Side N where
  toLocal := nameToLocal w.lib.toLocalNames
  remote cred context target mech req :=
    let res := initSecContext w.daemonInit cred context target mech req
    if keep res.major then
      { exit := .mk res.major res.minor
        context := res.context
        output :=
          { actualMech := if req.wantMech then some res.actualMech else none
            outputToken := res.outputToken
            retFlags := if req.wantFlags then res.context.map (·.ctxFlags.toUInt32) else none
            timeRec := if req.wantTime then res.context.map (·.lifetime.toUInt32) else none }
        outCred := res.outCred }
    else { exit := .mk res.major res.minor, context, output := default, outCred := none }

def defaultRemote : Option GssxCred :=
  match w.daemonAcquire
      { (default : ArgAcquireCred) with
        inputCredHandle := w.retrieved
        credUsage := GSS_C_INITIATE } with
  | .error _ => none
  | .ok res => if res.status.majorStatus = 0 then res.outputCredHandle else none

end

/-! ## The two attempts -/

structure Leg (N C X : Type) where
  exit : Exit
  cred : CredHandle C
  ctx : CtxHandle X
  name : NameHandle N
  output : InitOutput

section

variable {N C X : Type}

def NameHandle.localize (side : Side N) (name : NameHandle N) (mech : Bytes) :
    Except Exit Unit × NameHandle N :=
  match name.remote, name.localName with
  | some remote, none =>
    let (status, localName) := side.toLocal remote (some mech)
    (status, { name with localName })
  | _, _ => (.ok (), name)

def NameHandle.toRemote (lib : LocalNames N) (name : NameHandle N) : Except Exit (NameHandle N) :=
  match name.localName, name.remote with
  | some localName, none => do
    let remote ← gppLocalToName lib localName
    return { name with remote := some remote }
  | _, _ => .ok name

variable (side : Side N) (w : World N C X) (mech : Bytes) (req : InitRequest)
  (behavior : Behavior) (cred : CredHandle C) (ctx : CtxHandle X) (name : NameHandle N)

def initCtxLocal : Calls (InitCall C) (Leg N C X) :=
  match name.localize side mech with
  | (.error exit, name) => pure { exit, cred, ctx, name, output := default }
  | (.ok _, name) => do
    let reply ← Calls.call (.localMech cred.localCred)
      (w.lib.initSecContext cred.localCred ctx.localCtx name.localName (specialMech mech) req)
    return {
      exit := .mk reply.major reply.minor
      cred
      ctx := { ctx with localCtx := reply.ctx }
      name
      output := reply.output }

def initCtxRemote : Calls (InitCall C) (Leg N C X) :=
  match name.toRemote w.lib.toLocalNames with
  | .error exit => pure { exit, cred, ctx, name, output := default }
  | .ok name => do
    let cred :=
      match cred.remote with
      | some _ => cred
      | none => { cred with remote := defaultRemote w }
    let reply ← Calls.call (.daemon (initArg cred.remote ctx.remote name.remote mech req))
      (side.remote cred.remote ctx.remote name.remote mech req)
    let ctx := { ctx with remote := reply.context }
    if reply.exit.keep then
      return {
        exit := reply.exit
        cred := { cred with remote := reply.outCred <|> cred.remote }
        ctx
        name
        output := reply.output }
    else if behavior = .remoteFirst ∧ reply.exit ≠ .fault then
      initCtxLocal side w mech req cred ctx name
    else return { exit := reply.exit, cred, ctx, name, output := reply.output }

def Leg.orElse (leg : Leg N C X) (saved : Exit) : Leg N C X :=
  if leg.exit.keep ∨ leg.exit = .fault then leg else { leg with exit := saved }

def establish : Calls (InitCall C) (Leg N C X) :=
  if behavior = .localOnly ∨ behavior = .localFirst then do
    let leg ← initCtxLocal side w mech req cred ctx name
    if leg.exit.keep ∨ behavior = .localOnly ∨ leg.exit = .fault then return leg
    else return (← initCtxRemote side w mech req behavior leg.cred leg.ctx leg.name).orElse leg.exit
  else initCtxRemote side w mech req behavior cred ctx name

theorem establish_localOnly_eq :
    establish side w mech req .localOnly cred ctx name =
      initCtxLocal side w mech req cred ctx name := by
  unfold establish
  simp only [true_or, or_true, if_true]
  exact Calls.ext (List.append_nil _) rfl

end

/-! ## The entry points -/

/-- What an initiation leaves. -/
structure InitResult (N C X : Type) where
  exit : Exit
  context : Option (CtxHandle X)
  cred : Option (CredHandle C)
  target : Option (NameHandle N)
  output : InitOutput

section

variable {N C X : Type}

def finish (claimant : Option (CredHandle C)) (leg : Leg N C X) : InitResult N C X :=
  { exit :=
      match leg.exit with
      | .status s => if keep s.major then .status { s with minor := some 0 }
          else mapExit (.status s)
      | .fault => .fault
    context :=
      if ¬ leg.exit.keep ∧ leg.ctx.localCtx.isNone ∧ leg.ctx.remote.isNone then none
      else some leg.ctx
    cred := claimant.map fun _ => leg.cred
    target := some leg.name
    output := leg.output }

def contextIsLocal (context : Option (CtxHandle X)) : Bool :=
  context.any (·.localCtx.isSome)

variable (side : Side N) (w : World N C X) (behavior : Behavior)
  (claimant : Option (CredHandle C)) (context : Option (CtxHandle X))
  (target : Option (NameHandle N)) (mech : Option Bytes) (req : InitRequest)

def initEntry : Calls (InitCall C) (InitResult N C X) :=
  let rejected (major : UInt32) : InitResult N C X :=
    { exit := .mk major 0, context, cred := claimant, target, output := default }
  match target with
  | none => pure (rejected GSS_S_CALL_INACCESSIBLE_READ)
  | some name =>
    match mech with
    | none => pure (rejected GSS_S_BAD_MECH)
    | some mech =>
      if isSpecialOid mech then pure (rejected GSS_S_BAD_MECH)
      else
        let ctx := context.getD { remote := none, localCtx := none }
        let onlyLocal := contextIsLocal context
        match claimant with
        | some cred =>
          if cred.localCred.isSome then do
            return finish claimant (← establish side w mech req .localOnly cred ctx name)
          else if onlyLocal then
            pure (finish claimant
              { exit := .mk GSS_S_DEFECTIVE_CREDENTIAL 0, cred, ctx, name, output := default })
          else do
            return finish claimant (← establish side w mech req behavior cred ctx name)
        | none => do
          let cred := { remote := none, localCred := none }
          let behavior := if onlyLocal then .localOnly else behavior
          return finish claimant (← establish side w mech req behavior cred ctx name)

/-- `gssi_init_sec_context` in C. -/
def gssiInitSecContext : Calls (InitCall C) (InitResult N C X) :=
  initEntry (cSide w) w behavior claimant context target mech req

/-- `gssi_init_sec_context` in Rust. -/
def rustGssiInitSecContext : Calls (InitCall C) (InitResult N C X) :=
  initEntry (rustSide w) w behavior claimant context target mech req

end

end GssProxy.Interposer
