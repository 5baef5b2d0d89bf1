import GssProxy.Server.Creds

/-!
# The procedures of the Rust daemon

Every procedure as `handlers.rs` computes it from the call context and the decoded argument.  The GSSAPI
library is a parameter.
-/

namespace GssProxy.Server

open Codec Effect Gss Proto

/-! ## The GSSAPI library -/

structure CredByMech (N : Type) where
  name : Option N
  initiatorLifetime : UInt32
  acceptorLifetime : UInt32
  usage : Int32

structure InitResult (X : Type) where
  context : X
  output : Bytes
  continueNeeded : Bool

/-- The calls of the handlers.  `H` is the type of sealing keys; a message operation returns the
    context afterwards. -/
structure Library (N X A H : Type) extends ContextLib X A, CredLib N A where
  canonicalizeName : N → Bytes → Except GssError N
  displayName : N → Except GssError (Bytes × Bytes)
  exportName : N → Except GssError (Option Bytes)
  exportNameComposite : N → Except GssError (Option Bytes)
  localname : N → Option Bytes → Except GssError Bytes
  indicateMechs : Except GssError (List Bytes)
  inquireNamesForMech : Bytes → Except GssError (List Bytes)
  inquireAttrsForMech : Bytes → Except GssError (List Bytes × List Bytes)
  inquireSaslnameForMech : Bytes → Except GssError (Bytes × Bytes × Bytes)
  displayMechAttr : Bytes → Except GssError (Bytes × Bytes × Bytes)
  inquireCredByMech : A → Bytes → Except GssError (CredByMech N)
  /-- `gss_inquire_cred_by_oid` for the impersonator of a credential -/
  inquireImpersonator : A → Except GssError (List Bytes)
  exportToken : A → Except GssError Bytes
  importToken : Bytes → Except GssError A
  sealBytes : H → Bytes → Option Bytes
  unsealBytes : H → Bytes → Option Bytes
  initSecContext : Option A → Option X → N → Bytes → UInt32 → UInt32 → Option GssxCb → Bytes →
    Except GssError (InitResult X)
  getMic : X → UInt32 → Bytes → Except GssError (Bytes × X)
  verifyMic : X → Bytes → Bytes → Except GssError (UInt32 × X)
  wrap : X → Bool → UInt32 → Bytes → Except GssError ((Bytes × Bool) × X)
  unwrap : X → Bytes → Except GssError ((Bytes × Bool) × X)
  wrapSizeLimit : X → Bool → UInt32 → UInt32 → Except GssError UInt32

section

variable {N X A H : Type} (lib : Library N X A H)

/-! ## Conversions -/

def nameToGssx (name : N) : Except GssError GssxName := do
  let (display, nameType) ← lib.displayName name
  let exported ← lib.exportName name
  let composite ← lib.exportNameComposite name
  return { (default : GssxName) with
    displayName := ⟨display⟩
    nameType := ⟨nameType⟩
    exportedName := ⟨exported.getD []⟩
    exportedCompositeName := ⟨composite.getD []⟩ }

def optionalName : Option N → Except GssError GssxName
  | some name => nameToGssx lib name
  | none => .ok default

def credUsageToGssx (usage : Int32) : Int32 :=
  if usage = GSS_C_BOTH then 3
  else if usage = GSS_C_INITIATE then 1
  else if usage = GSS_C_ACCEPT then 2
  else 0

def credElements (cred : A) : List Bytes → Except GssError (List GssxCredElement)
  | [] => .ok []
  | mech :: mechs =>
    match lib.inquireCredByMech cred mech with
    | .error _ => credElements cred mechs
    | .ok info => do
      let mn ← optionalName lib info.name
      let rest ← credElements cred mechs
      return { mn
               mech := ⟨mech⟩
               credUsage := credUsageToGssx info.usage
               initiatorTimeRec := info.initiatorLifetime.toUInt64
               acceptorTimeRec := info.acceptorLifetime.toUInt64
               options := [] } :: rest

def exportGssxCred (handle : H) (cred : A) : Except GssError GssxCred := do
  let info ← lib.inquireCred (some cred)
  let desiredName ← optionalName lib info.name
  let elements ← credElements lib cred info.mechs
  let token ← lib.exportToken cred
  match lib.sealBytes handle token with
  | some reference =>
    return { desiredName, elements, credHandleReference := ⟨reference⟩, needsRelease := false }
  | none => throw ⟨GSS_S_FAILURE, 0⟩

def importGssxCred (handle : H) (cred : GssxCred) : Except GssError (Option A) :=
  let reference := cred.credHandleReference.data
  if reference = [] then .ok none
  else
    match lib.unsealBytes handle reference with
    | some token => (lib.importToken token).map some
    | none => .ok none

def status (major minor : UInt32) (mech : Option Bytes) : GssxStatus :=
  statusToGssx lib.toContextLib major minor mech

def statusErr (e : GssError) (mech : Option Bytes) : GssxStatus := status lib e.major e.minor mech

def success (mech : Option Bytes) : GssxStatus := status lib 0 0 mech

def nonempty (mech : GssxOid) : Option Bytes := if mech.data = [] then none else some mech.data

def invalid : GssError := ⟨GSS_S_FAILURE, EINVAL⟩

def addAttrs (attrs : List Bytes) (more : List Bytes) : List Bytes :=
  more.foldl (fun attrs a => if a ∈ attrs then attrs else attrs ++ [a]) attrs

/-- The loop over the mechanisms: an error keeps what is collected, and one whose name types cannot
    be inquired is skipped. -/
def collectMechs : List Bytes → List GssxMechInfo → List Bytes →
    (List GssxMechInfo × List Bytes) × Option GssError
  | [], infos, attrs => ((infos, attrs), none)
  | mech :: mechs, infos, attrs =>
    match lib.inquireNamesForMech mech with
    | .error _ => collectMechs mechs infos attrs
    | .ok nameTypes =>
      match lib.inquireAttrsForMech mech with
      | .error e => ((infos, attrs), some e)
      | .ok (mechAttrs, knownMechAttrs) =>
        let attrs := addAttrs attrs (mechAttrs ++ knownMechAttrs)
        match lib.inquireSaslnameForMech mech with
        | .error e => ((infos, attrs), some e)
        | .ok (sasl, mechName, mechDesc) =>
          let info : GssxMechInfo := { (default : GssxMechInfo) with
            mech := ⟨mech⟩
            nameTypes := nameTypes.map Opaque.mk
            mechAttrs := mechAttrs.map Opaque.mk
            knownMechAttrs := knownMechAttrs.map Opaque.mk
            saslnameSaslMechName := ⟨sasl⟩
            saslnameMechName := ⟨mechName⟩
            saslnameMechDesc := ⟨mechDesc⟩ }
          collectMechs mechs (infos ++ [info]) attrs

def describeAttrs : List Bytes → List GssxMechAttr → List GssxMechAttr × Option GssError
  | [], descs => (descs, none)
  | attr :: attrs, descs =>
    match lib.displayMechAttr attr with
    | .error e => (descs, some e)
    | .ok (name, shortDesc, longDesc) =>
      let desc : GssxMechAttr := { (default : GssxMechAttr) with
        attr := ⟨attr⟩
        name := ⟨name⟩
        shortDesc := ⟨shortDesc⟩
        longDesc := ⟨longDesc⟩ }
      describeAttrs attrs (descs ++ [desc])

/-- `indicate_mechs`. -/
def indicateMechs : ResIndicateMechs :=
  match lib.indicateMechs with
  | .error e => { (default : ResIndicateMechs) with status := statusErr lib e none }
  | .ok mechs =>
    match collectMechs lib mechs [] [] with
    | ((infos, _), some e) =>
      { (default : ResIndicateMechs) with
        mechs := infos
        status := statusErr lib e none }
    | ((infos, attrs), none) =>
      match describeAttrs lib attrs [] with
      | (descs, some e) =>
        { (default : ResIndicateMechs) with
          mechs := infos
          mechAttrDescs := descs
          status := statusErr lib e none }
      | (descs, none) =>
        { (default : ResIndicateMechs) with
          mechs := infos
          mechAttrDescs := descs
          status := success lib none }

def buildImportAndCanonName (arg : ArgImportAndCanonName) :
    Except GssError (Option GssxName × List GssxOption) := do
  if arg.inputName.displayName.data = [] ∧ arg.inputName.exportedName.data = [] then
    throw ⟨GSS_S_FAILURE, EINVAL⟩
  let name ← gssxToName lib.toHost arg.inputName
  if (findOption arg.options LOCALNAME_OPTION).isSome then
    let localname ← lib.localname name (nonempty arg.mech)
    return (none, [option LOCALNAME_OPTION localname])
  let output ←
    match nonempty arg.mech with
    | some mech => lib.canonicalizeName name mech
    | none => pure name
  let wire ← nameToGssx lib output
  return (some wire, [])

def importAndCanonName (arg : ArgImportAndCanonName) : ResImportAndCanonName :=
  match buildImportAndCanonName lib arg with
  | .ok (outputName, options) =>
    { outputName
      options
      status := success lib (nonempty arg.mech) }
  | .error e =>
    { (default : ResImportAndCanonName) with status := statusErr lib e (nonempty arg.mech) }

def acquireCredInner (ctx : CallContext H) (arg : ArgAcquireCred) :
    GssError × Option GssxCred × Option Bytes :=
  match ctx.service, ctx.creds with
  | some svc, some handle =>
    let acquired :=
      (acquireForService lib.toCredLib (importGssxCred lib handle) svc ctx.uid arg).value
    match acquired.output with
    | some (.fresh cred) =>
      match exportGssxCred lib handle cred.handle with
      | .ok wire => (⟨acquired.major, acquired.minor⟩, some wire, acquired.mech)
      | .error e => (e, none, acquired.mech)
    | some (.input wire) => (⟨acquired.major, acquired.minor⟩, wire, acquired.mech)
    | none => (⟨acquired.major, acquired.minor⟩, none, acquired.mech)
  | _, _ => (invalid, none, none)

def acquireCred (ctx : CallContext H) (arg : ArgAcquireCred) : ResAcquireCred :=
  let (e, output, mech) := acquireCredInner lib ctx arg
  { status := statusErr lib e mech
    outputCredHandle := output
    options := [] }

/-- `gp_cred_allowed`: a credential got by impersonation is for its impersonator, unless the service
    may delegate. -/
def credAllowed (svc : Service) (cred : Option A) (target : N) : Except UInt32 Unit :=
  match cred with
  | none => .error GSS_S_CRED_UNAVAIL
  | some cred =>
    if svc.trusted || svc.impersonate || svc.allowConstDeleg then .ok ()
    else
      match lib.inquireImpersonator cred with
      | .error e => .error e.major
      | .ok [] => .ok ()
      | .ok (impersonator :: _) =>
        if impersonator = [] then .ok ()
        else
          match lib.canonicalizeName target KRB5_MECH_OID with
          | .error e => .error e.major
          | .ok canon =>
            match lib.displayName canon with
            | .error e => .error e.major
            | .ok (display, _) =>
              if display = impersonator then .ok () else .error GSS_S_UNAUTHORIZED

/-! ## Contexts -/

def filterFlags (svc : Service) (flags : UInt32) : UInt32 :=
  (flags ||| svc.enforceFlags) &&& ~~~ svc.filterFlags

def serviceCred (svc : Service) (uid : UInt32) (usage : Int32) : Except GssError (Option A) :=
  (addKrb5Creds lib.toCredLib svc uid .normal none none usage).run.value.map (·.map Cred.handle)

/-- `init_inner`. -/
def initInner (ctx : CallContext H) (arg : ArgInitSecContext) :
    Except GssError (Bool × GssxCtx × Option GssxBuffer) :=
  match ctx.service, ctx.creds with
  | some svc, some handle => do
    let existing ← importExisting lib.toContextLib arg.contextHandle
    let given ←
      match arg.credHandle with
      | some g => importGssxCred lib handle g
      | none => pure none
    let target ←
      match arg.targetName with
      | some g => gssxToName lib.toHost g
      | none => throw invalid
    let mech := arg.mechType.data
    let cred ←
      if given.isSome then pure given
      else if mech = KRB5_MECH_OID then serviceCred lib svc ctx.uid GSS_C_INITIATE
      else throw ⟨GSS_S_NO_CRED, 0⟩
    (credAllowed lib svc cred target).mapError (⟨·, 0⟩)
    let r ← lib.initSecContext cred existing target mech (filterFlags svc arg.reqFlags.toUInt32)
      arg.timeReq.toUInt32 arg.inputCb (arg.inputToken.elim [] Opaque.data)
    let type := if r.continueNeeded then .expPartial else exportedContextType arg.callCtx.options
    let wire ← exportGssxCtx lib.toContextLib type (some mech) (some r.context)
    return (r.continueNeeded, wire, if r.output = [] then none else some ⟨r.output⟩)
  | _, _ => .error invalid

def initSecContext (ctx : CallContext H) (arg : ArgInitSecContext) : ResInitSecContext :=
  match initInner lib ctx arg with
  | .ok (more, handle, token) =>
    { (default : ResInitSecContext) with
      status := status lib (if more then GSS_S_CONTINUE_NEEDED else 0) 0 (nonempty arg.mechType)
      contextHandle := some handle
      outputToken := token }
  | .error e =>
    { (default : ResInitSecContext) with status := statusErr lib e (nonempty arg.mechType) }

/-- The library with the credentials of the service. -/
def acceptLib (ctx : CallContext H) : ContextLib X A :=
  match ctx.service, ctx.creds with
  | some svc, some handle =>
    { lib.toContextLib with
      importCred := importGssxCred lib handle
      exportCred := exportGssxCred lib handle
      acquireAcceptor := serviceCred lib svc ctx.uid GSS_C_ACCEPT }
  | _, _ => lib.toContextLib

def releaseHandle (arg : ArgReleaseHandle) : ResReleaseHandle :=
  let major :=
    match arg.credHandle with
    | .secCtx _ => GSS_S_UNAVAILABLE
    | .cred _ => GSS_S_UNAVAILABLE
    | .extensions _ _ => GSS_S_CALL_BAD_STRUCTURE
  { status := status lib major 0 none }

/-! ## Messages -/

def onContext {α : Type} (handle : GssxCtx) (callCtx : GssxCallCtx)
    (op : X → Except GssError (α × X)) : Except GssError (GssxCtx × α) := do
  let context ← importGssxCtx lib.toContextLib handle
  let (result, context) ← op context
  let type := exportedContextType callCtx.options
  let wire ← exportGssxCtx lib.toContextLib type none (some context)
  return (wire, result)

def getMic (arg : ArgGetMic) : ResGetMic :=
  match onContext lib arg.contextHandle arg.callCtx
      (lib.getMic · arg.qopReq.toUInt32 arg.messageBuffer.data) with
  | .ok (handle, token) =>
    { status := success lib none
      contextHandle := some handle
      tokenBuffer := ⟨token⟩
      qopState := some arg.qopReq }
  | .error e => { (default : ResGetMic) with status := statusErr lib e none }

def verifyMic (arg : ArgVerifyMic) : ResVerifyMic :=
  match onContext lib arg.contextHandle arg.callCtx
      (lib.verifyMic · arg.messageBuffer.data arg.tokenBuffer.data) with
  | .ok (handle, qop) =>
    { status := success lib none
      contextHandle := some handle
      qopState := some qop.toUInt64 }
  | .error e => { (default : ResVerifyMic) with status := statusErr lib e none }

def firstBuffer (buffers : List GssxBuffer) : Bytes := buffers.head?.elim [] Opaque.data

def wrapMsg (arg : ArgWrap) : ResWrap :=
  match onContext lib arg.contextHandle arg.callCtx
      (lib.wrap · arg.confReq arg.qopState.toUInt32 (firstBuffer arg.messageBuffer)) with
  | .ok (handle, token, conf) =>
    { status := success lib none
      contextHandle := some handle
      tokenBuffer := [⟨token⟩]
      confState := some conf
      qopState := some arg.qopState }
  | .error e => { (default : ResWrap) with status := statusErr lib e none }

def unwrapMsg (arg : ArgUnwrap) : ResUnwrap :=
  match onContext lib arg.contextHandle arg.callCtx
      (lib.unwrap · (firstBuffer arg.tokenBuffer)) with
  | .ok (handle, message, conf) =>
    { status := success lib none
      contextHandle := some handle
      messageBuffer := [⟨message⟩]
      confState := some conf
      qopState := some arg.qopState }
  | .error e => { (default : ResUnwrap) with status := statusErr lib e none }

def wrapSizeLimit (arg : ArgWrapSizeLimit) : ResWrapSizeLimit :=
  match (do
    let context ← importGssxCtx lib.toContextLib arg.contextHandle
    lib.wrapSizeLimit context arg.confReq arg.qopState.toUInt32 arg.reqOutputSize.toUInt32) with
  | .ok max =>
    { status := success lib none
      maxInputSize := max.toUInt64 }
  | .error e => { (default : ResWrapSizeLimit) with status := statusErr lib e none }

def handle (ctx : CallContext H) : (proc : GssxProc) → proc.Arg → proc.Res
  | .indicateMechs, _ => indicateMechs lib
  | .getCallContext, _ => (default : ResGetCallContext)
  | .importAndCanonName, arg => importAndCanonName lib arg
  | .exportCred, _ => (default : ResExportCred)
  | .importCred, _ => (default : ResImportCred)
  | .acquireCred, arg => acquireCred lib ctx arg
  | .storeCred, _ => (default : ResStoreCred)
  | .initSecContext, arg => initSecContext lib ctx arg
  | .acceptSecContext, arg => acceptSecContext (acceptLib lib ctx) ctx arg
  | .releaseHandle, arg => releaseHandle lib arg
  | .getMic, arg => getMic lib arg
  | .verifyMic, arg => verifyMic lib arg
  | .wrap, arg => wrapMsg lib arg
  | .unwrap, arg => unwrapMsg lib arg
  | .wrapSizeLimit, arg => wrapSizeLimit lib arg

end

end GssProxy.Server
