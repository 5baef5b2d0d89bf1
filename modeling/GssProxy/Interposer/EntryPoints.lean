import GssProxy.Interposer.AcceptSecContext
import GssProxy.Interposer.CredOptions

/-!
# The other entry points of the interposer

What the entry points do with the handles they are given, and which requests they send to the daemon.
What the local mechanism and the client library answer is passed in; of a status only the major one is
kept, and `none` stands for a routine that does not return.
-/

namespace GssProxy.Interposer

open Codec Gss Proto Client Effect
open Server (GssError)

/-! ## Requests -/

/-- A request to the daemon. -/
inductive Contact where
  /-- for the table of mechanisms, unless it has been fetched before -/
  | indicateMechs
  | importAndCanonName
  | acquireCred
  | initSecContext
  | acceptSecContext
  | releaseHandle
  deriving DecidableEq, Repr

def CredStep.contacts {N : Type} : CredStep N → List Contact
  | .acquireRemote _ _ _ => [.acquireCred]
  | _ => []

def InitCall.contacts {C : Type} : InitCall C → List Contact
  | .localMech _ => []
  | .daemon _ => [.initSecContext]

def credRelease (cred : GssxCred) : List Contact :=
  if cred.needsRelease then [.releaseHandle] else []

def AcceptStep.contacts {N C : Type} : AcceptStep N C → List Contact
  | .cred step => step.contacts
  | .localMech _ => []
  | .daemon _ => [.acceptSecContext]
  | .release handle => credRelease handle

def gpmReleaseCred (cred : Option GssxCred) : Calls Contact Unit :=
  ⟨cred.elim [] credRelease, ()⟩

def gpmDeleteSecContext (ctx : Option GssxCtx) : Calls Contact Unit :=
  if ctx.any (·.needsRelease) then Calls.call .releaseHandle () else pure ()

def majorOf : Exit → Option UInt32
  | .status s => some s.major
  | .fault => none

/-! ## Names -/

section Names

variable {N : Type}

def Port.toLocal (lib : LocalNames N) : Port → ToLocal N
  | .c => gppNameToLocal lib
  | .rust => nameToLocal lib

def gssiImportNameByMech (mech value nameType : Option Bytes) : UInt32 × Option (NameHandle N) :=
  match mech, value, nameType with
  | some mech, some value, some nameType =>
    (GSS_S_COMPLETE, some (.ofRemote (importName value nameType) (some mech)))
  | _, _, _ => (GSS_S_CALL_INACCESSIBLE_READ, none)

def onName (localAnswer remoteAnswer : UInt32) (name : NameHandle N) : UInt32 :=
  if name.localName.isSome then localAnswer
  else if name.remote.isSome then remoteAnswer
  else GSS_S_BAD_NAME

def displayStatus (port : Port) (wantType : Bool) (remote : GssxName) : Except Exit Unit :=
  match port with
  | .c => do
    let _ ← gpmDisplayName (some remote)
  | .rust => do
    let (d, _) ← displayName remote
    if wantType then
      let _ ← gpmNameOidToStatic d.nameType

def gssiDisplayName (port : Port) (wantType : Bool) (answer : UInt32) (name : NameHandle N) :
    Option UInt32 × NameHandle N :=
  match name.localName, name.remote with
  | some _, _ => (some answer, name)
  | none, none => (some GSS_S_BAD_NAME, name)
  | none, some remote =>
    (match displayStatus port wantType remote with
      | .ok _ => some GSS_S_COMPLETE
      | .error e => majorOf e,
      { name with remote := some ((stealExported remote).toOption.getD remote) })

def gssiDuplicateName (copy : UInt32 × Option N) (name : NameHandle N) :
    UInt32 × Option (NameHandle N) :=
  match name.remote, name.localName with
  | some remote, _ => (GSS_S_COMPLETE, some { name with remote := some remote, localName := none })
  | none, some _ =>
    (copy.1, if copy.1 = GSS_S_COMPLETE then some { name with localName := copy.2 } else none)
  | none, none => (GSS_S_BAD_NAME, none)

def gssiReleaseName (port : Port) (answer : UInt32) (name : NameHandle N) :
    UInt32 × Option (NameHandle N) :=
  match name.remote, name.localName with
  | none, none => (GSS_S_BAD_NAME, some name)
  | _, none => (GSS_S_COMPLETE, none)
  | _, some _ =>
    (match port with
      | .c => answer
      | .rust => GSS_S_COMPLETE, none)

def NameHandle.convert (conv : ToLocal N) (mech : Option Bytes) (name : NameHandle N) :
    Except Exit Unit × NameHandle N :=
  match name.remote, name.localName with
  | some remote, none =>
    let (status, localName) := conv remote mech
    (status, { name with localName })
  | _, _ => (.ok (), name)

def onConverted (conv : ToLocal N) (answer : UInt32) (name : NameHandle N) :
    Option UInt32 × NameHandle N :=
  match name.convert conv name.mechType with
  | (.error e, name) => (majorOf e, name)
  | (.ok _, name) => (some answer, name)

def localnameLocally (conv : ToLocal N) (mech : Option Bytes) (answer : UInt32)
    (name : NameHandle N) : Option UInt32 × NameHandle N :=
  match name.convert conv mech with
  | (.error e, name) => (majorOf e, name)
  | (.ok _, name) => (some (if name.localName.isSome then answer else GSS_S_COMPLETE), name)

/-- `gssi_localname`: the daemon maps a name with a remote part.  Where that fails, the C code still
    asks the local mechanism if there is a local part. -/
def gssiLocalname (port : Port) (conv : ToLocal N) (mech : Option Bytes)
    (daemon : UInt32 × UInt32) (answer : UInt32) (name : NameHandle N) :
    Calls Contact (Option UInt32 × NameHandle N) :=
  match name.remote, name.localName with
  | none, none => pure (some GSS_S_CALL_INACCESSIBLE_READ, name)
  | none, some _ => pure (some answer, name)
  | some _, known => do
    let r ← Calls.call .importAndCanonName daemon
    if r.1 = GSS_S_COMPLETE then return (some GSS_S_COMPLETE, name)
    else if r = (GSS_S_FAILURE, ENOTSUP) then return localnameLocally conv mech answer name
    else
      match port, known with
      | .c, some _ => return (some answer, name)
      | _, _ => return (some r.1, name)

end Names

/-! ## Credentials -/

section Creds

variable {N C : Type} (side : AcquireSide) (w : CredWorld N C)

def CredStep.converts (name : NameHandle N) : CredStep N → NameHandle N
  | .nameToLocal remote mech =>
    let r := w.nameToLocal remote mech
    { name with
      localName := if r.major = GSS_S_COMPLETE ∨ side.keepsName = true then r.value else none }
  | .localToName known =>
    let r := w.localToName known
    if r.major = GSS_S_COMPLETE then { name with remote := r.value } else name
  | _ => name

def nameAfter (steps : List (CredStep N)) (name : NameHandle N) : NameHandle N :=
  steps.foldl (CredStep.converts side w) name

def AcquireResult.failed (major minor : UInt32) : AcquireResult C :=
  { major, minor := mapError minor, cred := none }

def acquireWithPassword (behavior : Behavior) (mechs : Option (List Bytes))
    (name : Option (NameHandle N)) (wanted : Bool) (acquire : Option N → Outcome (Option C)) :
    Calls (CredStep N) (AcquireResult C) :=
  match name, wanted, mechs with
  | none, _, _ => pure (.failed GSS_S_BAD_NAME EINVAL)
  | some _, false, _ => pure (.failed GSS_S_FAILURE EINVAL)
  | some _, true, none => pure (.failed GSS_S_CALL_INACCESSIBLE_READ 0)
  | some name, true, some mechs =>
    if behavior = .remoteOnly ∨ w.special (some mechs) = false then
      pure (.failed GSS_S_FAILURE EINVAL)
    else do
      let converted ← localName side w (some name)
      match converted.1 with
      | .error status => return .failed status.1 status.2
      | .ok known =>
        let r := acquire known
        return finishAcquire (r.major, r.minor) (GSS_S_COMPLETE, 0)
          { OutCred.new (C := C) false none with localCred := r.value }

section

variable (behavior : Behavior) (req : CredRequest) (input : Option GssxCred)
  (saved : UInt32 × UInt32) (name : Option (NameHandle N)) (out : OutCred C)

def impersonateFromDaemon : Calls (CredStep N) (AcquireResult C) := do
  let remoteName := name.bind (·.remote)
  let r ← Calls.call (.acquireRemote req input remoteName) (w.acquireRemote req input remoteName)
  if r.major = GSS_S_COMPLETE then
    return finishAcquire (r.major, r.minor) saved { out with remote := r.value }
  else if behavior = .remoteFirst then
    let attempt ← acquireLocal side w req name out
    return finishAcquire (attempt.major, attempt.minor) saved attempt.out
  else return finishAcquire (r.major, r.minor) saved out

def impersonateRemote : Calls (CredStep N) (AcquireResult C) :=
  match name with
  | some { mechType, remote := none, localName := some known } => do
    let r ← Calls.call (.localToName known) (w.localToName known)
    if r.major ≠ GSS_S_COMPLETE then return finishAcquire (r.major, r.minor) saved out
    else
      impersonateFromDaemon side w behavior req input saved
        (some { mechType, remote := r.value, localName := some known }) out
  | name => impersonateFromDaemon side w behavior req input saved name out

def impersonateInOrder : Calls (CredStep N) (AcquireResult C) :=
  if behavior = .localOnly ∨ behavior = .localFirst then do
    let attempt ← acquireLocal side w req name out
    if attempt.major = GSS_S_COMPLETE ∨ behavior = .localOnly then
      return finishAcquire (attempt.major, attempt.minor) (GSS_S_COMPLETE, 0) attempt.out
    else
      impersonateRemote side w behavior req input (attempt.major, attempt.minor) attempt.name
        attempt.out
  else impersonateRemote side w behavior req input (GSS_S_COMPLETE, 0) name out

end

/-- `gssi_acquire_cred_impersonate_name`, for the local part of the impersonator. -/
def acquireImpersonating (behavior : Behavior) (req : CredRequest)
    (impersonate : Option C → CredRequest → Option N → Outcome (Option C))
    (impersonator : Option (OutCred C)) (name : Option (NameHandle N)) (wanted : Bool) :
    Calls (CredStep N) (AcquireResult C) :=
  match impersonator, wanted with
  | none, _ => pure (.failed GSS_S_NO_CRED EINVAL)
  | some _, false => pure (.failed GSS_S_FAILURE EINVAL)
  | some cred, true =>
    impersonateInOrder side { w with acquireLocal := impersonate cred.localCred } behavior req
      cred.remote name (OutCred.new false none)

def askCred (wantName : Bool) (localReply : C → UInt32 × Option N)
    (remoteReply : GssxCred → UInt32 × Option GssxName) (cred : OutCred C) :
    UInt32 × Option (NameHandle N) :=
  let (major, remote, localName) : UInt32 × Option GssxName × Option N :=
    match cred.localCred, cred.remote with
    | some known, _ => ((localReply known).1, none, (localReply known).2)
    | none, some remote => ((remoteReply remote).1, (remoteReply remote).2, none)
    | none, none => (GSS_S_FAILURE, none, none)
  (major,
    if wantName = true ∧ major = GSS_S_COMPLETE then some { mechType := none, remote, localName }
    else none)

end Creds

section Creds

variable {N C : Type}

def Port.defaults : Port → DefSide
  | .c => cDef
  | .rust => rustDef

/-- `gssi_inquire_cred` and `gssi_inquire_cred_by_mech`: default credentials are obtained where none
    are given, and released by the C code. -/
def inquireCred (port : Port) (w : CredWorld N C) (interposed : Option (List Bytes))
    (behavior : Behavior) (ask : OutCred C → UInt32 × Option (NameHandle N))
    (cred : Option (OutCred C)) : Calls Contact (Option UInt32 × Option (NameHandle N)) :=
  match cred with
  | some cred => pure (some (ask cred).1, (ask cred).2)
  | none => do
    let d ← (defCreds port.defaults w ⟨interposed, GSS_C_INITIATE, none⟩ behavior none).flatMapLog
      CredStep.contacts
    match d with
    | none => return (none, none)
    | some ⟨major, _, slot⟩ =>
      if major = GSS_S_COMPLETE then
        match slot, port with
        | none, _ => return (none, none)
        | some cred, .c =>
          gpmReleaseCred cred.remote
          return (some (ask cred).1, (ask cred).2)
        | some cred, .rust => return (some (ask cred).1, (ask cred).2)
      else return (some major, none)

def setCredOption (port : Port) (setLocal : C → CredObject → Except GssError C)
    (object : CredObject) (cred : OutCred C) : UInt32 × OutCred C :=
  match port, cred.remote with
  | .rust, some _ => (GSS_S_UNAVAILABLE, cred)
  | _, _ =>
    match gssiSetCredOption setLocal cred.toCredHandle object with
    | .error e => (e.major, cred)
    | .ok handle => (GSS_S_COMPLETE, { cred with toCredHandle := handle })

end Creds

/-! ## Contexts -/

section Contexts

variable {N X : Type}

/-- `gpp_remote_to_local_ctx` for a context that has only a remote part, which is given up whatever
    `imported`, the answer of the local mechanism, says; it is `none` if the token cannot be taken
    apart. -/
def CtxHandle.convert (imported : Option (UInt32 × Option X)) (ctx : CtxHandle X) :
    UInt32 × CtxHandle X :=
  match ctx.remote, ctx.localCtx with
  | some _, none =>
    match imported with
    | none => (GSS_S_FAILURE, ctx)
    | some (major, localCtx) => (major, { remote := none, localCtx })
  | _, _ => (GSS_S_COMPLETE, ctx)

def onContext (imported : Option (UInt32 × Option X)) (answer : UInt32) (ctx : CtxHandle X) :
    UInt32 × CtxHandle X :=
  match ctx.convert imported with
  | (major, ctx) => (if major = GSS_S_COMPLETE then answer else major, ctx)

def gssiContextTime (lifetime answer : UInt32) (ctx : CtxHandle X) : UInt32 :=
  if ctx.remote.isSome then
    if 0 < lifetime then GSS_S_COMPLETE else GSS_S_CONTEXT_EXPIRED
  else if ctx.localCtx.isSome then answer
  else GSS_S_NO_CONTEXT

structure ContextInfo (α : Type) where
  major : UInt32
  mech : Bytes
  srcName : α
  targName : α

def ContextInfo.handle {α : Type} (info : ContextInfo α) (wanted : Bool)
    (part : α → NameHandle N) (name : α) : Option (NameHandle N) :=
  if wanted = true ∧ info.major = GSS_S_COMPLETE then
    some { part name with mechType := some info.mech }
  else none

def lookupMech (port : Port) (lookup : UInt32) : Calls Contact UInt32 :=
  match port with
  | .c => Calls.call .indicateMechs lookup
  | .rust => pure GSS_S_COMPLETE

def gssiInquireContext (port : Port) (wantSrc wantTarg : Bool)
    (localInfo : ContextInfo (Option N)) (lookup : UInt32) (ctx : CtxHandle X) :
    Calls Contact (UInt32 × Option (NameHandle N) × Option (NameHandle N)) :=
  match ctx.localCtx, ctx.remote with
  | none, none => pure (GSS_S_CALL_INACCESSIBLE_READ, none, none)
  | some _, _ =>
    let part (localName : Option N) : NameHandle N := ⟨none, none, localName⟩
    pure (localInfo.major, localInfo.handle wantSrc part localInfo.srcName,
      localInfo.handle wantTarg part localInfo.targName)
  | none, some remote => do
    let major ← lookupMech port lookup
    let info : ContextInfo GssxName := ⟨major, remote.mech.data, remote.srcName, remote.targName⟩
    let part (name : GssxName) : NameHandle N := ⟨none, some name, none⟩
    return (major, info.handle wantSrc part remote.srcName,
      info.handle wantTarg part remote.targName)

def gssiDeleteSecContext (localAnswer remoteAnswer : UInt32) (ctx : CtxHandle X) :
    Calls Contact UInt32 := do
  gpmDeleteSecContext ctx.remote
  let major := if ctx.localCtx.isSome then localAnswer else GSS_S_COMPLETE
  return if major = GSS_S_COMPLETE ∧ ctx.remote.isSome then remoteAnswer else major

/-- `gssi_set_sec_context_option`; `answer` has the local part afterwards.  A context that was
    created is deleted if the option is not set. -/
def gssiSetSecContextOption (imported : Option (UInt32 × Option X)) (answer : UInt32 × Option X)
    (context : Option (CtxHandle X)) : Calls Contact (UInt32 × Option (CtxHandle X)) :=
  let ctx := context.getD { remote := none, localCtx := none }
  let (major, ctx) :=
    match ctx.convert imported with
    | (major, ctx) =>
      if major = GSS_S_COMPLETE then (answer.1, { ctx with localCtx := answer.2 }) else (major, ctx)
  if major = GSS_S_COMPLETE then pure (major, some ctx)
  else do
    gpmDeleteSecContext ctx.remote
    return (major, none)

def exportContext (imported : Option (UInt32 × Option X)) (answer : UInt32 × Option X)
    (ctx : CtxHandle X) : Calls Contact (UInt32 × CtxHandle X) :=
  match ctx.convert imported with
  | (major, ctx) =>
    if major ≠ GSS_S_COMPLETE then pure (major, ctx)
    else if answer.1 ≠ GSS_S_COMPLETE then pure (answer.1, { ctx with localCtx := answer.2 })
    else do
      gpmDeleteSecContext ctx.remote
      return (GSS_S_COMPLETE, { remote := none, localCtx := answer.2 })

end Contexts

def inquireForMech (behavior : Behavior) (localAnswer remoteAnswer : UInt32) :
    Calls Contact UInt32 :=
  let localFirst := behavior = .localOnly ∨ behavior = .localFirst
  if localFirst ∧ (localAnswer = GSS_S_COMPLETE ∨ behavior = .localOnly) then pure localAnswer
  else do
    let major ← Calls.call .indicateMechs remoteAnswer
    if major = GSS_S_COMPLETE ∨ behavior = .remoteOnly then return major
    else return localAnswer

end GssProxy.Interposer
