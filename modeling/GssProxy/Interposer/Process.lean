import GssProxy.Interposer.EntryPoints
import GssProxy.System.Table

/-!
# A process that uses the interposer

The handles of a process are in three tables, for names, credentials and contexts.  A call of an entry
point, of any that is exported, refers to handles by their places, carries what the outside answers and
changes the tables; the requests it sends are recorded.
-/

namespace GssProxy.Interposer

open Codec Gss Proto Client Effect GssProxy.System
open Server (GssError)

/-- The handles of a process. -/
structure Handles (N C X : Type) where
  names : Table (NameHandle N)
  creds : Table (OutCred C)
  ctxs : Table (CtxHandle X)

def Handles.start (N C X : Type) : Handles N C X := ⟨.empty, .empty, .empty⟩

structure Ended (α : Type) where
  major : Option UInt32
  after : α

/-! ## Names -/

inductive AttributeEntry where
  | displayNameExt
  | getNameAttribute
  | setNameAttribute
  | deleteNameAttribute
  | releaseAnyNameMapping

inductive ConvertedEntry where
  | authorizeLocalname
  | mapNameToAny

inductive NameCall (N : Type) where
  | importNameByMech (mech value nameType : Option Bytes)
  | displayName (name : Option Nat) (wantType : Bool) (answer : UInt32)
  | inquireName (name : Option Nat) (localAnswer remoteAnswer : UInt32)
  | unconverted (entry : AttributeEntry) (name : Option Nat) (answer : UInt32)
  | duplicateName (name : Option Nat) (copy : UInt32 × Option N)
  | releaseName (name : Option Nat) (answer : UInt32)
  | compareName (lib : LocalNames N) (name1 name2 : Option Nat)
  | converted (entry : ConvertedEntry) (lib : LocalNames N) (name : Option Nat) (answer : UInt32)
  | localname (lib : LocalNames N) (name : Option Nat) (mech : Option Bytes)
      (daemon : UInt32 × UInt32) (answer : UInt32)

def noName : Port → Option UInt32
  | .c => none
  | .rust => some GSS_S_BAD_NAME

section

variable {N C X : Type}

def AttributeEntry.major (port : Port) (answer : UInt32) :
    AttributeEntry → Option (NameHandle N) → Option UInt32
  | .releaseAnyNameMapping, none => some GSS_S_CALL_INACCESSIBLE_READ
  | .releaseAnyNameMapping, some name =>
    some (if name.localName.isSome then answer else GSS_S_UNAVAILABLE)
  | _, none => noName port
  | _, some name => some (onName answer GSS_S_UNAVAILABLE name)

def Port.compareName (port : Port) (lib : LocalNames N) (name1 name2 : NameHandle N) :
    Except Exit Bool × NameHandle N × NameHandle N :=
  match port with
  | .c => gssiCompareName lib name1 name2
  | .rust => rustGssiCompareName lib name1 name2

def compareMajor : Except Exit Bool → Option UInt32
  | .ok _ => some GSS_S_COMPLETE
  | .error e => majorOf e

def NameCall.perform (port : Port) (names : Table (NameHandle N)) :
    NameCall N → Calls Contact (Ended (Table (NameHandle N)))
  | .importNameByMech mech value nameType =>
    let (major, name) := gssiImportNameByMech mech value nameType
    pure ⟨some major, names.add name⟩
  | .displayName r wantType answer =>
    match names.get r with
    | none => pure ⟨noName port, names⟩
    | some name =>
      let (major, name) := gssiDisplayName port wantType answer name
      pure ⟨major, names.put r (some name)⟩
  | .inquireName r localAnswer remoteAnswer =>
    match names.get r with
    | none => pure ⟨noName port, names⟩
    | some name => pure ⟨some (onName localAnswer remoteAnswer name), names⟩
  | .unconverted entry r answer => pure ⟨entry.major port answer (names.get r), names⟩
  | .duplicateName r copy =>
    match names.get r with
    | none => pure ⟨noName port, names⟩
    | some name =>
      let (major, name) := gssiDuplicateName copy name
      pure ⟨some major, names.add name⟩
  | .releaseName r answer =>
    match names.get r with
    | none => pure ⟨some GSS_S_BAD_NAME, names⟩
    | some name =>
      let (major, name) := gssiReleaseName port answer name
      pure ⟨some major, names.put r name⟩
  | .compareName lib r1 r2 =>
    match names.get r1, names.get r2 with
    | some name1, some name2 =>
      let (verdict, name1, name2) := port.compareName lib name1 name2
      pure ⟨compareMajor verdict, (names.put r1 (some name1)).put r2 (some name2)⟩
    | _, _ =>
      match port with
      | .c => pure ⟨none, names⟩
      | .rust => pure ⟨some GSS_S_CALL_INACCESSIBLE_READ, names⟩
  | .converted _ lib r answer =>
    match names.get r with
    | none => pure ⟨some GSS_S_CALL_INACCESSIBLE_READ, names⟩
    | some name =>
      let (major, name) := onConverted (port.toLocal lib) answer name
      pure ⟨major, names.put r (some name)⟩
  | .localname lib r mech daemon answer =>
    match names.get r with
    | none => pure ⟨some GSS_S_CALL_INACCESSIBLE_READ, names⟩
    | some name => do
      let (major, name) ← gssiLocalname port (port.toLocal lib) mech daemon answer name
      return ⟨major, names.put r (some name)⟩

end

/-! ## Credentials -/

inductive AcquireEntry where
  | acquireCred
  | acquireCredFrom
  | addCred
  | addCredFrom
  deriving DecidableEq

inductive InquireEntry where
  | inquireCred
  | inquireCredByMech

inductive StoreEntryPoint where
  | storeCred
  | storeCredInto

inductive CredCall (N C : Type) where
  | acquire (entry : AcquireEntry) (w : CredWorld N C) (req : CredRequest) (name : Option Nat)
      (wanted : Bool)
  | acquireWithPassword (w : CredWorld N C) (mechs : Option (List Bytes)) (name : Option Nat)
      (wanted : Bool) (answer : Option N → Outcome (Option C))
  | acquireImpersonateName (w : CredWorld N C) (req : CredRequest) (impersonator name : Option Nat)
      (wanted : Bool) (answer : Option C → CredRequest → Option N → Outcome (Option C))
  | inquire (entry : InquireEntry) (w : CredWorld N C) (interposed : Option (List Bytes))
      (cred : Option Nat) (wantName : Bool) (localReply : C → UInt32 × Option N)
      (remoteReply : GssxCred → UInt32 × Option GssxName)
  | inquireByOid (cred : Option Nat) (answer : UInt32)
  | setOption (cred : Option Nat) (object : CredObject)
      (setLocal : C → CredObject → Except GssError C)
  | store (entry : StoreEntryPoint) (cred : Option Nat) (localAnswer remoteAnswer : UInt32)
  | release (cred : Option Nat) (localAnswer remoteAnswer : UInt32)
  | exportCred (cred : Option Nat) (answer : UInt32)
  | importByMech (answer : UInt32 × Option C)

def Port.acquire : Port → AcquireSide
  | .c => cAcquire
  | .rust => rustAcquire

def AcquireEntry.request (req : CredRequest) : AcquireEntry → CredRequest
  | .acquireCredFrom => req
  | _ => { req with store := [] }

def AcquireEntry.addsCred : AcquireEntry → Bool
  | .addCred | .addCredFrom => true
  | _ => false

section

variable {N C X : Type}

def OutCred.ofLocal (localCred : Option C) : OutCred C :=
  { OutCred.new (C := C) false none with localCred }

def acquired (side : AcquireSide) (w : CredWorld N C) (s : Handles N C X) (name : Option Nat)
    (m : Calls (CredStep N) (AcquireResult C)) : Calls Contact (Ended (Handles N C X)) :=
  ⟨m.log.flatMap CredStep.contacts, some m.value.major,
    { s with
      names := s.names.put name ((s.names.get name).map (nameAfter side w m.log))
      creds := s.creds.add m.value.cred }⟩

def onLocalCred (answer missing : UInt32) : Option (OutCred C) → UInt32
  | none => GSS_S_CALL_INACCESSIBLE_READ
  | some cred => if cred.localCred.isSome then answer else missing

def releaseMajor (port : Port) (localAnswer remoteAnswer : UInt32) (cred : OutCred C) : UInt32 :=
  let localMajor :=
    match port, cred.localCred with
    | .c, some _ => localAnswer
    | _, _ => GSS_S_COMPLETE
  if localMajor = GSS_S_COMPLETE ∧ cred.remote.isSome then remoteAnswer else localMajor

def CredCall.perform (port : Port) (behavior : Behavior) (s : Handles N C X) :
    CredCall N C → Calls Contact (Ended (Handles N C X))
  | .acquire entry w req name wanted =>
    if entry.addsCred ∧ ¬ wanted then pure ⟨some GSS_S_CALL_INACCESSIBLE_WRITE, s⟩
    else
      acquired port.acquire w s name
        (Interposer.acquireCredFrom port.acquire w behavior (entry.request req) (s.names.get name)
          wanted)
  | .acquireWithPassword w mechs name wanted answer =>
    acquired port.acquire w s name
      (Interposer.acquireWithPassword port.acquire w behavior mechs (s.names.get name) wanted
        answer)
  | .acquireImpersonateName w req impersonator name wanted answer =>
    acquired port.acquire w s name
      (acquireImpersonating port.acquire w behavior req answer (s.creds.get impersonator)
        (s.names.get name) wanted)
  | .inquire _ w interposed cred wantName localReply remoteReply => do
    let (major, name) ← inquireCred port w interposed behavior
      (askCred wantName localReply remoteReply) (s.creds.get cred)
    return ⟨major, { s with names := s.names.add name }⟩
  | .inquireByOid cred answer =>
    pure ⟨some (onLocalCred answer GSS_S_UNAVAILABLE (s.creds.get cred)), s⟩
  | .setOption r object setLocal =>
    match s.creds.get r with
    | none => pure ⟨some GSS_S_CALL_INACCESSIBLE_READ, s⟩
    | some cred =>
      let (major, cred) := setCredOption port setLocal object cred
      pure ⟨some major, { s with creds := s.creds.put r (some cred) }⟩
  | .store _ cred localAnswer remoteAnswer =>
    match s.creds.get cred with
    | none => pure ⟨some GSS_S_CALL_INACCESSIBLE_READ, s⟩
    | some cred => pure ⟨some (if cred.remote.isSome then remoteAnswer else localAnswer), s⟩
  | .release r localAnswer remoteAnswer =>
    match s.creds.get r with
    | none => pure ⟨some GSS_S_COMPLETE, s⟩
    | some cred => do
      gpmReleaseCred cred.remote
      return ⟨some (releaseMajor port localAnswer remoteAnswer cred),
        { s with creds := s.creds.put r none }⟩
  | .exportCred cred answer =>
    pure ⟨some (onLocalCred answer GSS_S_CRED_UNAVAIL (s.creds.get cred)), s⟩
  | .importByMech answer =>
    pure ⟨some answer.1,
      if answer.1 = GSS_S_COMPLETE then
        { s with creds := s.creds.add (some (.ofLocal answer.2)) }
      else s⟩

end

/-! ## Contexts -/

inductive ContextEntry where
  | processContextToken
  | inquireSecContextByOid
  | pseudoRandom
  | getMic
  | verifyMic
  | wrap
  | unwrap
  | wrapSizeLimit
  | wrapIov
  | wrapIovLength
  | unwrapIov
  | wrapAead
  | unwrapAead

inductive ContextCall (N C X : Type) where
  | init (w : World N C X) (claimant ctx target : Option Nat) (mech : Option Bytes)
      (req : InitRequest)
  | accept (w : AcceptWorld N C X) (ask : AcceptAsk) (ctx acceptor : Option Nat)
  /-- the C code reads the handle as `misread`, and `behind` from the memory after the variable -/
  | exportContext (ctx : Option Nat) (misread : GssxCtx) (behind : Option X)
      (imported : Option (UInt32 × Option X)) (answer : UInt32 × Option X)
  | importByMech (answer : UInt32 × Option X)
  | use (entry : ContextEntry) (ctx : Option Nat) (imported : Option (UInt32 × Option X))
      (answer : UInt32)
  | contextTime (ctx : Option Nat) (lifetime answer : UInt32)
  | inquire (ctx : Option Nat) (wantSrc wantTarg : Bool) (localInfo : ContextInfo (Option N))
      (lookup : UInt32)
  | setOption (ctx : Option Nat) (imported : Option (UInt32 × Option X))
      (answer : UInt32 × Option X)
  | delete (ctx : Option Nat) (localAnswer remoteAnswer : UInt32)

section

variable {N C X : Type}

def Port.initSide (w : World N C X) : Port → Side N
  | .c => cSide w
  | .rust => rustSide w

def Port.acceptSide : Port → AcceptSide
  | .c => cAccept
  | .rust => rustAccept

/-- `gssi_export_sec_context`.  The C code takes the variable that holds the handle for the context:
    the handle stands where the remote part is expected, and the variable is cleared. -/
def gssiExportSecContext (port : Port) (ctxs : Table (CtxHandle X)) (r : Option Nat)
    (misread : GssxCtx) (behind : Option X) (imported : Option (UInt32 × Option X))
    (answer : UInt32 × Option X) : Calls Contact (Ended (Table (CtxHandle X))) :=
  match port with
  | .c => do
    let (major, ctx) ← exportContext imported answer
      { remote := (ctxs.get r).map fun _ => misread, localCtx := behind }
    return ⟨some major, if ctx.remote.isNone then ctxs.put r none else ctxs⟩
  | .rust =>
    match ctxs.get r with
    | none => pure ⟨some GSS_S_CALL_INACCESSIBLE_READ, ctxs⟩
    | some ctx => do
      let (major, ctx) ← exportContext imported answer ctx
      return ⟨some major, ctxs.put r (some ctx)⟩

def OutCred.withParts (cred : OutCred C) (parts : Option (CredHandle C)) : OutCred C :=
  { cred with toCredHandle := parts.getD cred.toCredHandle }

def ContextCall.perform (port : Port) (behavior : Behavior) (s : Handles N C X) :
    ContextCall N C X → Calls Contact (Ended (Handles N C X))
  | .init w claimant ctx target mech req => do
    let r ← (initEntry (port.initSide w) w behavior
      ((s.creds.get claimant).map (·.toCredHandle)) (s.ctxs.get ctx) (s.names.get target) mech
      req).flatMapLog InitCall.contacts
    return ⟨majorOf r.exit,
      { names := s.names.put target r.target
        creds := s.creds.put claimant ((s.creds.get claimant).map (·.withParts r.cred))
        ctxs := s.ctxs.give ctx r.context }⟩
  | .accept w ask ctx acceptor => do
    let r ← (acceptEntry port.acceptSide w ask behavior (s.ctxs.get ctx)
      (s.creds.get acceptor)).flatMapLog AcceptStep.contacts
    return ⟨majorOf r.exit,
      { names := s.names.add r.srcName
        creds := s.creds.add r.delegated
        ctxs := s.ctxs.give ctx r.context }⟩
  | .exportContext r misread behind imported answer => do
    let e ← gssiExportSecContext port s.ctxs r misread behind imported answer
    return ⟨e.major, { s with ctxs := e.after }⟩
  | .importByMech answer =>
    pure ⟨some answer.1,
      if answer.1 = GSS_S_COMPLETE then
        { s with ctxs := s.ctxs.add (some { remote := none, localCtx := answer.2 }) }
      else s⟩
  | .use _ r imported answer =>
    match s.ctxs.get r with
    | none => pure ⟨some GSS_S_CALL_INACCESSIBLE_READ, s⟩
    | some ctx =>
      let (major, ctx) := onContext imported answer ctx
      pure ⟨some major, { s with ctxs := s.ctxs.put r (some ctx) }⟩
  | .contextTime r lifetime answer =>
    match s.ctxs.get r with
    | none => pure ⟨some GSS_S_CALL_INACCESSIBLE_READ, s⟩
    | some ctx => pure ⟨some (gssiContextTime lifetime answer ctx), s⟩
  | .inquire r wantSrc wantTarg localInfo lookup =>
    match s.ctxs.get r with
    | none => pure ⟨some GSS_S_CALL_INACCESSIBLE_READ, s⟩
    | some ctx => do
      let (major, srcName, targName) ← gssiInquireContext port wantSrc wantTarg localInfo lookup ctx
      return ⟨some major, { s with names := (s.names.add srcName).add targName }⟩
  | .setOption r imported answer => do
    let (major, ctx) ← gssiSetSecContextOption imported answer (s.ctxs.get r)
    return ⟨some major, { s with ctxs := s.ctxs.give r ctx }⟩
  | .delete r localAnswer remoteAnswer =>
    match s.ctxs.get r with
    | none => pure ⟨some GSS_S_COMPLETE, s⟩
    | some ctx => do
      let major ← gssiDeleteSecContext localAnswer remoteAnswer ctx
      return ⟨some major, { s with ctxs := s.ctxs.put r none }⟩

end

/-! ## All entry points -/

inductive PlainEntry where
  | mechInterposer
  | internalReleaseOid
  | displayStatus
  | mechInvoke
  | importName
  | importCred
  | importSecContext
  | inquireMechForSaslname
  | indicateMechs

def PlainEntry.major (answer : UInt32) : PlainEntry → UInt32
  | .importName | .importCred | .importSecContext | .inquireMechForSaslname => GSS_S_UNAVAILABLE
  | .indicateMechs => GSS_S_FAILURE
  | _ => answer

inductive MechEntry where
  | inquireNamesForMech
  | inquireAttrsForMech
  | inquireSaslnameForMech

/-- A call of an entry point. -/
inductive EntryCall (N C X : Type) where
  | plain (entry : PlainEntry) (answer : UInt32)
  | mech (entry : MechEntry) (localAnswer remoteAnswer : UInt32)
  | name (call : NameCall N)
  | cred (call : CredCall N C)
  | context (call : ContextCall N C X)

section

variable {N C X : Type} (port : Port) (behavior : Behavior)

def EntryCall.perform (s : Handles N C X) : EntryCall N C X → Calls Contact (Ended (Handles N C X))
  | .plain entry answer => pure ⟨some (entry.major answer), s⟩
  | .mech _ localAnswer remoteAnswer => do
    let major ← inquireForMech behavior localAnswer remoteAnswer
    return ⟨some major, s⟩
  | .name call => do
    let e ← call.perform port s.names
    return ⟨e.major, { s with names := e.after }⟩
  | .cred call => call.perform port behavior s
  | .context call => call.perform port behavior s

/-- A call in its state, and what came of it. -/
structure Performed (N C X : Type) where
  before : Handles N C X
  call : EntryCall N C X
  result : Calls Contact (Ended (Handles N C X))

def performAll (s : Handles N C X) : List (EntryCall N C X) → List (Performed N C X)
  | [] => []
  | call :: calls =>
    let result := call.perform port behavior s
    ⟨s, call, result⟩ ::
      if result.value.major.isSome then performAll result.value.after calls else []

end

end GssProxy.Interposer
