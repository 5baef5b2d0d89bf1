import GssProxy.Interposer.DisplayStatus
import GssProxy.Interposer.Process

/-!
# What the C entry points report

An entry point is the way its status takes: it gets the parts its handles have and what each routine it
may call would answer, and ends with a `Report`, which also says whose status it is.  A routine called to
clean up is left out, unless its minor status is reported.  Memory does not run out.

* `useEntry_eq`, `mechEntry_eq`, `inquireEntry_eq`, `storeEntry_eq`: families with one way.
-/

namespace GssProxy.Interposer.Reports

open Gss

/-! ## Statuses -/

structure Reply where
  major : UInt32
  minor : UInt32
  deriving DecidableEq

inductive Held where
  | given (r : Reply)
  | own (r : Reply)

def Held.reply : Held → Reply
  | .given r => r
  | .own r => r

def Held.call : Held → Option Reply
  | .given r => some r
  | .own _ => none

/-- The end of an entry point: the call whose status is passed on, the major status, and what is
    written through `minor_status`. -/
structure Report where
  call : Option Reply
  major : UInt32
  minor : Option UInt32

def Held.mapped (held : Held) : Report :=
  ⟨held.call, held.reply.major, some (mapError held.reply.minor)⟩

def Held.unmapped (held : Held) : Report := ⟨held.call, held.reply.major, some held.reply.minor⟩

def Reply.direct (r : Reply) : Report := (Held.given r).unmapped

abbrev Reply.mapped (r : Reply) : Report := (Held.given r).mapped

def untouched (major : UInt32) : Report := ⟨none, major, none⟩

def zeroed (major : UInt32) : Report := ⟨none, major, some 0⟩

def Held.orSaved (held saved : Held) : Held :=
  if held.reply.major ≠ GSS_S_COMPLETE ∧ saved.reply.major ≠ GSS_S_COMPLETE then saved else held

def Held.orSavedFailure (held saved : Held) : Held :=
  if keep held.reply.major = false ∧ saved.reply.major ≠ GSS_S_COMPLETE then saved else held

def unsaved : Held := .own ⟨GSS_S_COMPLETE, 0⟩

def errorReply (err : UInt32) : Reply :=
  ⟨if err ≠ 0 then GSS_S_FAILURE else GSS_S_COMPLETE, err⟩

structure Parts where
  hasLocal : Bool
  hasRemote : Bool
  deriving DecidableEq

/-! ## Names -/

section

variable (name : Parts) (localReply remoteReply reply : Reply)

def askName (remote : Held) : Report :=
  match name with
  | ⟨false, false⟩ => untouched GSS_S_BAD_NAME
  | ⟨true, _⟩ => reply.mapped
  | ⟨false, true⟩ => remote.mapped

def gssiDisplayName : Report :=
  askName name localReply (.given remoteReply)

def gssiInquireName : Report :=
  askName name localReply (.given remoteReply)

def gssiDisplayNameExt : Report :=
  askName name reply (.own ⟨GSS_S_UNAVAILABLE, 0⟩)

def gssiGetNameAttribute : Report :=
  askName name reply (.own ⟨GSS_S_UNAVAILABLE, 0⟩)

def gssiSetNameAttribute : Report :=
  askName name reply (.own ⟨GSS_S_UNAVAILABLE, 0⟩)

def gssiDeleteNameAttribute : Report :=
  askName name reply (.own ⟨GSS_S_UNAVAILABLE, 0⟩)

def gssiImportName : Report := untouched GSS_S_UNAVAILABLE

def gssiImportNameByMech (mech : Bool) (reply : Reply) : Report :=
  if mech then reply.mapped else untouched GSS_S_CALL_INACCESSIBLE_READ

def gssiDuplicateName : Report :=
  match name with
  | ⟨false, false⟩ => untouched GSS_S_BAD_NAME
  | ⟨_, true⟩ => remoteReply.mapped
  | ⟨true, false⟩ => localReply.mapped

end

section

variable (name : Option Parts) (convert reply : Reply)

def gpmReleaseName : Reply := ⟨GSS_S_COMPLETE, 0⟩

def gssiReleaseName : Report :=
  match name with
  | none | some ⟨false, false⟩ => untouched GSS_S_BAD_NAME
  | some ⟨hasLocal, _⟩ =>
    let held := if hasLocal then Held.given reply else .own ⟨GSS_S_COMPLETE, 0⟩
    if gpmReleaseName.major ≠ 0 ∧ held.reply.major = 0 then gpmReleaseName.mapped
    else held.mapped

def converted (name : Parts) (convert : Reply) (rest : Report) : Report :=
  match name with
  | ⟨true, _⟩ => rest
  | ⟨false, false⟩ => untouched GSS_S_CALL_INACCESSIBLE_READ
  | ⟨false, true⟩ => if convert.major ≠ GSS_S_COMPLETE then convert.mapped else rest

def gssiCompareName (name1 name2 : Parts) (convert1 convert2 localReply remoteReply : Reply) :
    Report :=
  if name1.hasLocal || name2.hasLocal then
    converted name1 convert1 (converted name2 convert2 localReply.mapped)
  else if !name1.hasRemote && !name2.hasRemote then untouched GSS_S_CALL_INACCESSIBLE_READ
  else remoteReply.mapped

def gssiLocalname (remoteReply convert : Reply) (made : Bool) (reply : Reply) : Report :=
  match name with
  | none | some ⟨false, false⟩ => zeroed GSS_S_CALL_INACCESSIBLE_READ
  | some ⟨true, false⟩ => reply.mapped
  | some ⟨hasLocal, true⟩ =>
    if remoteReply.major = GSS_S_COMPLETE then remoteReply.mapped
    else if hasLocal then reply.mapped
    else if remoteReply = ⟨GSS_S_FAILURE, ENOTSUP⟩ then
      if convert.major ≠ GSS_S_COMPLETE ∨ made = false then convert.mapped
      else reply.mapped
    else remoteReply.mapped

def convertedFirst (rest : Report) : Report :=
  match name with
  | none => zeroed GSS_S_CALL_INACCESSIBLE_READ
  | some ⟨false, true⟩ =>
    if convert.major ≠ GSS_S_COMPLETE then convert.mapped else rest
  | some _ => rest

def gssiAuthorizeLocalname (importName reply : Reply) : Report :=
  convertedFirst name convert
    (if importName.major ≠ GSS_S_COMPLETE then importName.mapped
      else reply.mapped)

def gssiMapNameToAny : Report :=
  convertedFirst name convert reply.mapped

def gssiReleaseAnyNameMapping : Report :=
  match name with
  | none => zeroed GSS_S_CALL_INACCESSIBLE_READ
  | some name => if name.hasLocal then reply.mapped else zeroed GSS_S_UNAVAILABLE

/-! ## Mechanisms -/

variable (behavior : Behavior) (first remoteReply again : Reply)

def inquireMech : Report :=
  if behavior = .localOnly ∨ behavior = .localFirst then
    if first.major = GSS_S_COMPLETE ∨ behavior = .localOnly then first.mapped
    else if remoteReply.major = GSS_S_COMPLETE then remoteReply.mapped
    else ((Held.given again).orSaved (.given first)).mapped
  else if remoteReply.major = GSS_S_COMPLETE ∨ behavior = .remoteOnly then
    ((Held.given remoteReply).orSaved unsaved).mapped
  else ((Held.given again).orSaved unsaved).mapped

def gssiInquireNamesForMech : Report :=
  inquireMech behavior first remoteReply again

def gssiInquireAttrsForMech : Report :=
  inquireMech behavior first remoteReply again

def gssiInquireSaslnameForMech : Report :=
  inquireMech behavior first remoteReply again

def gssiIndicateMechs : Report := zeroed GSS_S_FAILURE

def gssiInquireMechForSaslname : Report := untouched GSS_S_UNAVAILABLE

def gssiMechInvoke : Report := reply.mapped

def gssiInternalReleaseOid (known : Bool) : Report :=
  zeroed (if known then GSS_S_COMPLETE else GSS_S_CONTINUE_NEEDED)

def gssiDisplayStatus (saved : Option Proto.GssxStatus) (glue : UInt32 → UInt32 → Shown)
    (value : UInt32) (statusType : StatusType) (messageContext : UInt32) : Report :=
  let shown := Interposer.gssiDisplayStatus saved glue value statusType messageContext
  ⟨shown.minor.map fun minor => ⟨shown.major, minor⟩, shown.major, shown.minor⟩

end

/-! ## Acquisition of credentials -/

structure Acquisition where
  special : Bool
  toLocal : Option Reply
  acquireLocal : Reply
  toRemote : Option Reply
  acquireRemote : Reply

section

variable (a : Acquisition) (behavior : Behavior) (ccache cached : Bool) (store : Option UInt32)
  (saved : Held) (wanted : Bool)

def Acquisition.locally : Held :=
  if a.special then
    match a.toLocal with
    | some convert =>
      if convert.major ≠ GSS_S_COMPLETE then .given convert else .given a.acquireLocal
    | none => .given a.acquireLocal
  else .own ⟨GSS_S_BAD_MECH, 0⟩

def Acquisition.remotely (next : Report) : Report :=
  match a.toRemote with
  | some convert =>
    if convert.major ≠ GSS_S_COMPLETE then ((Held.given convert).orSavedFailure saved).mapped
    else next
  | none => next

/-- From `gpm_acquire_cred` on; `store` is the error number of `gpp_store_remote_creds`. -/
def Acquisition.called : Report :=
  if a.acquireRemote.major = GSS_S_COMPLETE then
    -- a store that fails takes the place of the answer and of the saved status
    match store.filter (· ≠ 0) with
    | none => a.acquireRemote.mapped
    | some err => (errorReply err).mapped
  else if behavior = .remoteFirst then (a.locally.orSavedFailure (.given a.acquireRemote)).mapped
  else ((Held.given a.acquireRemote).orSavedFailure saved).mapped

def Acquisition.fromDaemon : Report :=
  a.remotely saved (a.called behavior store saved)

def cacheBehavior : Behavior :=
  if behavior = .localOnly then behavior
  else if cached then .remoteFirst
  else if ccache then .localFirst
  else behavior

def gssiAcquireCredFrom : Report :=
  if wanted then
    let behavior := cacheBehavior behavior ccache cached
    if behavior = .localOnly ∨ behavior = .localFirst then
      if a.locally.reply.major = GSS_S_COMPLETE ∨ behavior = .localOnly then
        (a.locally.orSavedFailure unsaved).mapped
      else a.fromDaemon behavior store a.locally
    else a.fromDaemon behavior store unsaved
  else (Held.own ⟨GSS_S_FAILURE, EINVAL⟩).mapped

def gssiAcquireCred : Report :=
  gssiAcquireCredFrom a behavior false cached store wanted

/-- The set of the one mechanism.  If adding it fails, the minor status of the release of the set is
    mapped. -/
def gssiAddCredFrom (mech : Bool) (create add release : Reply) (a : Acquisition)
    (behavior : Behavior) (cached : Bool) (store : Option UInt32) (wanted : Bool) : Report :=
  let acquired := gssiAcquireCredFrom a behavior false cached store true
  if wanted then
    if mech then
      if create.major ≠ GSS_S_COMPLETE then create.mapped
      else if add.major ≠ GSS_S_COMPLETE then ⟨some add, add.major, some (mapError release.minor)⟩
      else acquired
    else acquired
  else untouched GSS_S_CALL_INACCESSIBLE_WRITE

def gssiAddCred (mech : Bool) (create add release : Reply) (a : Acquisition)
    (behavior : Behavior) (cached : Bool) (store : Option UInt32) (wanted : Bool) : Report :=
  gssiAddCredFrom mech create add release a behavior cached store wanted

def gssiAcquireCredWithPassword (name mechs wanted : Bool) : Report :=
  if name = false then (Held.own ⟨GSS_S_BAD_NAME, EINVAL⟩).mapped
  else if wanted = false then (Held.own ⟨GSS_S_FAILURE, EINVAL⟩).mapped
  else if mechs = false then untouched GSS_S_CALL_INACCESSIBLE_READ
  else if behavior = .remoteOnly then (Held.own ⟨GSS_S_FAILURE, EINVAL⟩).mapped
  else if a.special = false then (Held.own ⟨GSS_S_FAILURE, EINVAL⟩).mapped
  else a.locally.mapped

def gssiAcquireCredImpersonateName (impersonator wanted : Bool) : Report :=
  let fromDaemon (saved : Held) : Report := a.remotely saved
      (if a.acquireRemote.major = GSS_S_COMPLETE ∨ behavior ≠ .remoteFirst then
        ((Held.given a.acquireRemote).orSavedFailure saved).mapped
      else (a.locally.orSavedFailure saved).mapped)
  if impersonator = false then (Held.own ⟨GSS_S_NO_CRED, EINVAL⟩).mapped
  else if wanted = false then (Held.own ⟨GSS_S_FAILURE, EINVAL⟩).mapped
  else if behavior = .localOnly ∨ behavior = .localFirst then
    if a.locally.reply.major = GSS_S_COMPLETE ∨ behavior = .localOnly then
      (a.locally.orSavedFailure unsaved).mapped
    else fromDaemon a.locally
  else fromDaemon unsaved

end

/-! ## Other uses of credentials -/

structure Defaults where
  acquireLocal : Option Reply
  acquireRemote : Reply
  /-- the error number of `gpp_store_remote_creds`, where a cached credential is replaced -/
  store : Option UInt32

def Defaults.locally (d : Defaults) : Held :=
  match d.acquireLocal with
  | some r => .given r
  | none => .own ⟨GSS_S_FAILURE, 0⟩

def Defaults.remotely (d : Defaults) : Held :=
  if d.acquireRemote.major = GSS_S_COMPLETE then
    .given ((d.store.map errorReply).getD d.acquireRemote)
  else .given d.acquireRemote

def Defaults.obtained (d : Defaults) (behavior : Behavior) : Held :=
  let fromDaemon (saved : Held) : Held :=
    if d.remotely.reply.major ≠ GSS_S_COMPLETE ∧ behavior = .remoteFirst then
      d.locally.orSaved saved
    else d.remotely.orSaved saved
  if behavior = .localOnly ∨ behavior = .localFirst then
    if d.locally.reply.major = GSS_S_COMPLETE ∨ behavior = .localOnly then d.locally
    else fromDaemon d.locally
  else fromDaemon unsaved

def askCred (cred : Parts) (localReply remoteReply : Reply) : Report :=
  match cred with
  | ⟨true, _⟩ => localReply.mapped
  | ⟨false, true⟩ => remoteReply.mapped
  | ⟨false, false⟩ => (Held.own ⟨GSS_S_FAILURE, 0⟩).mapped

section

variable (cred : Option Parts) (behavior : Behavior) (d : Defaults) (made : Parts)
  (localReply remoteReply reply : Reply)

def inquireCred : Report :=
  match cred with
  | some cred => askCred cred localReply remoteReply
  | none =>
    if (d.obtained behavior).reply.major ≠ GSS_S_COMPLETE then (d.obtained behavior).mapped
    else askCred made localReply remoteReply

def gssiInquireCred : Report :=
  inquireCred cred behavior d made localReply remoteReply

def gssiInquireCredByMech : Report :=
  inquireCred cred behavior d made localReply remoteReply

def gssiInquireCredByOid : Report :=
  match cred with
  | none => zeroed GSS_S_CALL_INACCESSIBLE_READ
  | some cred => if cred.hasLocal then reply.mapped else zeroed GSS_S_UNAVAILABLE

/-- `option` is the error number of `gpp_remote_options`, written through `minor_status`; there is
    none for an unknown object. -/
def gssiSetCredOption (cred : Option Parts) (option : Option UInt32) (reply : Reply) : Report :=
  match cred with
  | none => zeroed GSS_S_CALL_INACCESSIBLE_READ
  | some ⟨_, true⟩ =>
    match option with
    | none => zeroed GSS_S_UNAVAILABLE
    | some err => (errorReply err).direct
  | some ⟨true, false⟩ => reply.mapped
  | some ⟨false, false⟩ => zeroed GSS_S_UNAVAILABLE

def gssiStoreCredInto (cred : Option Parts) (store : UInt32) (reply : Reply) : Report :=
  match cred with
  | none => zeroed GSS_S_CALL_INACCESSIBLE_READ
  | some cred =>
    if cred.hasRemote then (errorReply store).mapped else reply.mapped

def gssiStoreCred (cred : Option Parts) (store : UInt32) (reply : Reply) : Report :=
  gssiStoreCredInto cred store reply

def gssiReleaseCred (pointer : Bool) (cred : Option Parts) (localReply remoteReply : Reply) :
    Report :=
  if pointer then
    match cred with
    | none => zeroed GSS_S_COMPLETE
    | some cred =>
      let held := if cred.hasLocal then Held.given localReply else .own ⟨GSS_S_COMPLETE, 0⟩
      if cred.hasRemote ∧ remoteReply.major ≠ 0 ∧ held.reply.major = GSS_S_COMPLETE then
        (Held.given remoteReply).unmapped
      else held.unmapped
  else untouched GSS_S_CALL_INACCESSIBLE_READ

def gssiExportCred : Report :=
  match cred with
  | none => untouched GSS_S_CALL_INACCESSIBLE_READ
  | some cred => if cred.hasLocal then reply.direct else untouched GSS_S_CRED_UNAVAIL

end

def gssiImportCred : Report := untouched GSS_S_UNAVAILABLE

def gssiImportCredByMech (special : Bool) (reply : Reply) : Report :=
  if special then reply.mapped else (Held.own ⟨GSS_S_FAILURE, 0⟩).mapped

/-! ## Contexts -/

/-- `gpp_remote_to_local_ctx`: the answer of `gss_import_sec_context`, or what `min` holds if the
    token cannot be taken apart. -/
abbrev Import := Except UInt32 Reply

def useContext (ctx : Parts) (imported : Import) (reply : Reply) : Report :=
  match ctx, imported with
  | ⟨false, true⟩, .error stale => (Held.own ⟨GSS_S_FAILURE, stale⟩).mapped
  | ⟨false, true⟩, .ok convert =>
    if convert.major ≠ GSS_S_COMPLETE then convert.mapped else reply.direct
  | _, _ => reply.direct

section

variable (ctx : Option Parts) (imported : Import) (lifetime : UInt32) (wantName : Bool)
  (localReply remoteReply reply : Reply)

def useGiven : Report :=
  match ctx with
  | none => untouched GSS_S_CALL_INACCESSIBLE_READ
  | some ctx => useContext ctx imported reply

def gssiProcessContextToken : Report := useGiven ctx imported reply
def gssiInquireSecContextByOid : Report := useGiven ctx imported reply
def gssiPseudoRandom : Report := useGiven ctx imported reply
def gssiGetMic : Report := useGiven ctx imported reply
def gssiVerifyMic : Report := useGiven ctx imported reply
def gssiWrap : Report := useGiven ctx imported reply
def gssiUnwrap : Report := useGiven ctx imported reply
def gssiWrapSizeLimit : Report := useGiven ctx imported reply
def gssiWrapIov : Report := useGiven ctx imported reply
def gssiWrapIovLength : Report := useGiven ctx imported reply
def gssiUnwrapIov : Report := useGiven ctx imported reply
def gssiWrapAead : Report := useGiven ctx imported reply
def gssiUnwrapAead : Report := useGiven ctx imported reply

def gssiExportSecContext (misread : Parts) (imported : Import) (reply : Reply) : Report :=
  useContext misread imported reply

def gssiSetSecContextOption : Report :=
  useContext (ctx.getD ⟨false, false⟩) imported reply

def gssiImportSecContext : Report := untouched GSS_S_UNAVAILABLE

def gssiImportSecContextByMech (special : Bool) (reply : Reply) : Report :=
  if special then reply.mapped else (Held.own ⟨GSS_S_FAILURE, 0⟩).mapped

def gssiContextTime : Report :=
  match ctx with
  | none => zeroed GSS_S_CALL_INACCESSIBLE_READ
  | some ⟨_, true⟩ =>
    if remoteReply.major ≠ GSS_S_COMPLETE then remoteReply.mapped
    else
      ⟨some remoteReply, if 0 < lifetime then GSS_S_COMPLETE else GSS_S_CONTEXT_EXPIRED, some 0⟩
  | some ⟨true, false⟩ => localReply.direct
  | some ⟨false, false⟩ => zeroed GSS_S_NO_CONTEXT

/-- After an inquiry that completes, the mechanism is copied into each name wanted, which sets `min`
    to zero. -/
def gssiInquireContext : Report :=
  let inquired (reply : Reply) : Report :=
    if reply.major = GSS_S_COMPLETE ∧ wantName = true then
      ⟨some reply, GSS_S_COMPLETE, some (mapError 0)⟩
    else reply.mapped
  match ctx with
  | none | some ⟨false, false⟩ => untouched GSS_S_CALL_INACCESSIBLE_READ
  | some ⟨true, _⟩ => inquired localReply
  | some ⟨false, true⟩ => inquired remoteReply

def gssiDeleteSecContext : Report :=
  match ctx with
  | none => zeroed GSS_S_COMPLETE
  | some ctx =>
    if ctx.hasLocal ∧ localReply.major ≠ GSS_S_COMPLETE then localReply.mapped
    else if ctx.hasRemote ∧ remoteReply.major ≠ 0 then remoteReply.mapped
    else ⟨if ctx.hasLocal then some localReply else none, GSS_S_COMPLETE, none⟩

end

/-! ## Establishing contexts -/

structure Initiation where
  toLocal : Option Reply
  initLocal : Reply
  toRemote : Option Reply
  initRemote : Reply

section

variable (a : Initiation) (behavior : Behavior) (saved : Held)

def Initiation.locally : Held :=
  match a.toLocal with
  | some convert => if convert.major ≠ GSS_S_COMPLETE then .given convert else .given a.initLocal
  | none => .given a.initLocal

def Held.initiated (held saved : Held) : Report :=
  let held := held.orSavedFailure saved
  if keep held.reply.major then ⟨held.call, held.reply.major, some 0⟩ else held.mapped

def Initiation.called : Report :=
  if keep a.initRemote.major = true ∨ behavior ≠ .remoteFirst then
    (Held.given a.initRemote).initiated saved
  else a.locally.initiated saved

def Initiation.fromDaemon : Report :=
  match a.toRemote with
  | some convert =>
    if convert.major ≠ GSS_S_COMPLETE then (Held.given convert).initiated saved
    else a.called behavior saved
  | none => a.called behavior saved

def Initiation.establish : Report :=
  if behavior = .localOnly ∨ behavior = .localFirst then
    if keep a.locally.reply.major = true ∨ behavior = .localOnly then a.locally.initiated unsaved
    else a.fromDaemon behavior a.locally
  else a.fromDaemon behavior unsaved

/-- Whether `target` and a `mech` that is not special are given, and `ctxLocal`: there is a local
    context. -/
def gssiInitSecContext (target mech ctxLocal : Bool) (claimant : Option Parts) : Report :=
  if target = false then zeroed GSS_S_CALL_INACCESSIBLE_READ
  else if mech = false then zeroed GSS_S_BAD_MECH
  else
    match claimant with
    | some ⟨true, _⟩ => a.establish .localOnly
    | some ⟨false, _⟩ =>
      if ctxLocal then (Held.own ⟨GSS_S_DEFECTIVE_CREDENTIAL, 0⟩).initiated unsaved
      else a.establish behavior
    | none => a.establish (if ctxLocal then .localOnly else behavior)

end

def contextBehavior (behavior : Behavior) : Option Parts → Behavior
  | some ⟨true, _⟩ => .localOnly
  | some ⟨false, true⟩ => .remoteOnly
  | _ => behavior

section

variable (ctx acceptor : Option Parts) (behavior : Behavior) (cred : Parts) (d : Defaults)
  (made : Parts) (localReply remoteReply : Reply)

def acceptOn : Held :=
  match behavior with
  | .localOnly => .given localReply
  | .remoteOnly => .given remoteReply
  | _ => .own ⟨GSS_S_FAILURE, 0⟩

def acceptWith : Held :=
  match cred with
  | ⟨true, _⟩ =>
    if behavior = .remoteOnly then .own ⟨GSS_S_DEFECTIVE_CREDENTIAL, 0⟩
    else acceptOn .localOnly localReply remoteReply
  | ⟨false, true⟩ =>
    if behavior = .localOnly then .own ⟨GSS_S_DEFECTIVE_CREDENTIAL, 0⟩
    else acceptOn .remoteOnly localReply remoteReply
  | ⟨false, false⟩ => acceptOn behavior localReply remoteReply

def gssiAcceptSecContext : Report :=
  let behavior := contextBehavior behavior ctx
  match acceptor with
  | some cred => (acceptWith behavior cred localReply remoteReply).mapped
  | none =>
    if (d.obtained behavior).reply.major ≠ GSS_S_COMPLETE then (d.obtained behavior).mapped
    else (acceptWith behavior made localReply remoteReply).mapped

end

/-! ## All entry points -/

/-- A call of an entry point, with the replies it meets. -/
inductive Invocation where
  -- names
  | displayName (name : Parts) (localReply remoteReply : Reply)
  | inquireName (name : Parts) (localReply remoteReply : Reply)
  | displayNameExt (name : Parts) (reply : Reply)
  | getNameAttribute (name : Parts) (reply : Reply)
  | setNameAttribute (name : Parts) (reply : Reply)
  | deleteNameAttribute (name : Parts) (reply : Reply)
  | importName
  | importNameByMech (mech : Bool) (reply : Reply)
  | duplicateName (name : Parts) (localReply remoteReply : Reply)
  | releaseName (name : Option Parts) (reply : Reply)
  | compareName (name1 name2 : Parts) (convert1 convert2 localReply remoteReply : Reply)
  | localname (name : Option Parts) (remoteReply convert : Reply) (made : Bool) (reply : Reply)
  | authorizeLocalname (name : Option Parts) (convert importName reply : Reply)
  | mapNameToAny (name : Option Parts) (convert reply : Reply)
  | releaseAnyNameMapping (name : Option Parts) (reply : Reply)
  -- mechanisms
  | forMech (entry : MechEntry) (behavior : Behavior) (first remoteReply again : Reply)
  | indicateMechs
  | inquireMechForSaslname
  | mechInvoke (reply : Reply)
  | internalReleaseOid (known : Bool)
  | displayStatus (saved : Option Proto.GssxStatus) (glue : UInt32 → UInt32 → Shown)
      (value : UInt32) (statusType : StatusType) (messageContext : UInt32)
  -- credentials
  | acquireCred (a : Acquisition) (behavior : Behavior) (cached : Bool) (store : Option UInt32)
      (wanted : Bool)
  | acquireCredFrom (a : Acquisition) (behavior : Behavior) (ccache cached : Bool)
      (store : Option UInt32) (wanted : Bool)
  | addCred (mech : Bool) (create add release : Reply) (a : Acquisition) (behavior : Behavior)
      (cached : Bool) (store : Option UInt32) (wanted : Bool)
  | addCredFrom (mech : Bool) (create add release : Reply) (a : Acquisition) (behavior : Behavior)
      (cached : Bool) (store : Option UInt32) (wanted : Bool)
  | acquireCredWithPassword (a : Acquisition) (behavior : Behavior) (name mechs wanted : Bool)
  | acquireCredImpersonateName (a : Acquisition) (behavior : Behavior)
      (impersonator wanted : Bool)
  | inquireCred (entry : InquireEntry) (cred : Option Parts) (behavior : Behavior) (d : Defaults)
      (made : Parts) (localReply remoteReply : Reply)
  | inquireCredByOid (cred : Option Parts) (reply : Reply)
  | setCredOption (cred : Option Parts) (option : Option UInt32) (reply : Reply)
  | storeCred (entry : StoreEntryPoint) (cred : Option Parts) (store : UInt32) (reply : Reply)
  | releaseCred (pointer : Bool) (cred : Option Parts) (localReply remoteReply : Reply)
  | exportCred (cred : Option Parts) (reply : Reply)
  | importCred
  | importCredByMech (special : Bool) (reply : Reply)
  -- contexts
  | initSecContext (a : Initiation) (behavior : Behavior) (target mech ctxLocal : Bool)
      (claimant : Option Parts)
  | acceptSecContext (ctx acceptor : Option Parts) (behavior : Behavior) (d : Defaults)
      (made : Parts) (localReply remoteReply : Reply)
  | useSecContext (entry : ContextEntry) (ctx : Option Parts) (imported : Import) (reply : Reply)
  | exportSecContext (misread : Parts) (imported : Import) (reply : Reply)
  | setSecContextOption (ctx : Option Parts) (imported : Import) (reply : Reply)
  | importSecContext
  | importSecContextByMech (special : Bool) (reply : Reply)
  | contextTime (ctx : Option Parts) (lifetime : UInt32) (localReply remoteReply : Reply)
  | inquireContext (ctx : Option Parts) (wantName : Bool) (localReply remoteReply : Reply)
  | deleteSecContext (ctx : Option Parts) (localReply remoteReply : Reply)

def useEntry : ContextEntry → Option Parts → Import → Reply → Report
  | .processContextToken => gssiProcessContextToken
  | .inquireSecContextByOid => gssiInquireSecContextByOid
  | .pseudoRandom => gssiPseudoRandom
  | .getMic => gssiGetMic
  | .verifyMic => gssiVerifyMic
  | .wrap => gssiWrap
  | .unwrap => gssiUnwrap
  | .wrapSizeLimit => gssiWrapSizeLimit
  | .wrapIov => gssiWrapIov
  | .wrapIovLength => gssiWrapIovLength
  | .unwrapIov => gssiUnwrapIov
  | .wrapAead => gssiWrapAead
  | .unwrapAead => gssiUnwrapAead

theorem useEntry_eq (entry : ContextEntry) : useEntry entry = useGiven := by
  cases entry <;> rfl

def mechEntry : MechEntry → Behavior → Reply → Reply → Reply → Report
  | .inquireNamesForMech => gssiInquireNamesForMech
  | .inquireAttrsForMech => gssiInquireAttrsForMech
  | .inquireSaslnameForMech => gssiInquireSaslnameForMech

theorem mechEntry_eq (entry : MechEntry) : mechEntry entry = inquireMech := by
  cases entry <;> rfl

def inquireEntry :
    InquireEntry → Option Parts → Behavior → Defaults → Parts → Reply → Reply → Report
  | .inquireCred => gssiInquireCred
  | .inquireCredByMech => gssiInquireCredByMech

theorem inquireEntry_eq (entry : InquireEntry) : inquireEntry entry = inquireCred := by
  cases entry <;> rfl

def storeEntry : StoreEntryPoint → Option Parts → UInt32 → Reply → Report
  | .storeCred => gssiStoreCred
  | .storeCredInto => gssiStoreCredInto

theorem storeEntry_eq (entry : StoreEntryPoint) : storeEntry entry = gssiStoreCredInto := by
  cases entry <;> rfl

def Invocation.report : Invocation → Report
  | .displayName name l r => gssiDisplayName name l r
  | .inquireName name l r => gssiInquireName name l r
  | .displayNameExt name r => gssiDisplayNameExt name r
  | .getNameAttribute name r => gssiGetNameAttribute name r
  | .setNameAttribute name r => gssiSetNameAttribute name r
  | .deleteNameAttribute name r => gssiDeleteNameAttribute name r
  | .importName => gssiImportName
  | .importNameByMech mech r => gssiImportNameByMech mech r
  | .duplicateName name l r => gssiDuplicateName name l r
  | .releaseName name r => gssiReleaseName name r
  | .compareName name1 name2 c1 c2 l r => gssiCompareName name1 name2 c1 c2 l r
  | .localname name remoteReply c made r => gssiLocalname name remoteReply c made r
  | .authorizeLocalname name c i r => gssiAuthorizeLocalname name c i r
  | .mapNameToAny name c r => gssiMapNameToAny name c r
  | .releaseAnyNameMapping name r => gssiReleaseAnyNameMapping name r
  | .forMech entry behavior first r again => mechEntry entry behavior first r again
  | .indicateMechs => gssiIndicateMechs
  | .inquireMechForSaslname => gssiInquireMechForSaslname
  | .mechInvoke r => gssiMechInvoke r
  | .internalReleaseOid known => gssiInternalReleaseOid known
  | .displayStatus saved glue value statusType messageContext =>
    gssiDisplayStatus saved glue value statusType messageContext
  | .acquireCred a behavior cached store wanted => gssiAcquireCred a behavior cached store wanted
  | .acquireCredFrom a behavior ccache cached store wanted =>
    gssiAcquireCredFrom a behavior ccache cached store wanted
  | .addCred mech create add release a behavior cached store wanted =>
    gssiAddCred mech create add release a behavior cached store wanted
  | .addCredFrom mech create add release a behavior cached store wanted =>
    gssiAddCredFrom mech create add release a behavior cached store wanted
  | .acquireCredWithPassword a behavior name mechs wanted =>
    gssiAcquireCredWithPassword a behavior name mechs wanted
  | .acquireCredImpersonateName a behavior impersonator wanted =>
    gssiAcquireCredImpersonateName a behavior impersonator wanted
  | .inquireCred entry cred behavior d made l r => inquireEntry entry cred behavior d made l r
  | .inquireCredByOid cred r => gssiInquireCredByOid cred r
  | .setCredOption cred option r => gssiSetCredOption cred option r
  | .storeCred entry cred store r => storeEntry entry cred store r
  | .releaseCred pointer cred l r => gssiReleaseCred pointer cred l r
  | .exportCred cred r => gssiExportCred cred r
  | .importCred => gssiImportCred
  | .importCredByMech special r => gssiImportCredByMech special r
  | .initSecContext a behavior target mech ctxLocal claimant =>
    gssiInitSecContext a behavior target mech ctxLocal claimant
  | .acceptSecContext ctx acceptor behavior d made l r =>
    gssiAcceptSecContext ctx acceptor behavior d made l r
  | .useSecContext entry ctx imported r => useEntry entry ctx imported r
  | .exportSecContext misread imported r => gssiExportSecContext misread imported r
  | .setSecContextOption ctx imported r => gssiSetSecContextOption ctx imported r
  | .importSecContext => gssiImportSecContext
  | .importSecContextByMech special r => gssiImportSecContextByMech special r
  | .contextTime ctx lifetime l r => gssiContextTime ctx lifetime l r
  | .inquireContext ctx wantName l r => gssiInquireContext ctx wantName l r
  | .deleteSecContext ctx l r => gssiDeleteSecContext ctx l r

end GssProxy.Interposer.Reports
