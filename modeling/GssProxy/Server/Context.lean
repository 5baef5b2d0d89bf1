import GssProxy.Gss.Options
import GssProxy.Proto.Proc
import GssProxy.Server.Call

/-!
# Security contexts in the daemons

Both daemons are stateless: a context travels to the client in exported form and comes back with the next
request.  The GSSAPI functions are parameters, gathered in `ContextLib`.
-/

namespace GssProxy.Server

open Codec Gss Proto

/-! ## The GSSAPI library -/

structure CtxInfo where
  mech : Bytes
  srcName : Option GssxName
  targName : Option GssxName
  lifetime : UInt32
  flags : UInt32
  locallyInitiated : Bool
  isOpen : Bool

structure AcceptStep (X A : Type) where
  major : UInt32
  minor : UInt32
  ctx : Option X
  srcName : Option GssxName
  mech : Option Bytes
  output : Bytes
  retFlags : UInt32
  delegated : Option A

/-- What `gss_display_status` returns for a code: a message for each call, and whether the last one
    was refused. -/
structure Display where
  messages : List Bytes
  refused : Bool

structure ContextLib (X A : Type) where
  accept : Option X → Option A → Bytes → Option GssxCb → Bool → AcceptStep X A
  inquire : Option X → Except GssError CtxInfo
  exportSec : Option X → Except GssError Bytes
  importSec : Bytes → Except GssError X
  /-- the kernel form of a context, in the layout of `gp_format_linux_lucid_v1` -/
  exportLucid : Option X → Except GssError Bytes
  /-- `gp_import_gssx_cred`; a handle that cannot be unsealed gives no credential -/
  importCred : GssxCred → Except GssError (Option A)
  exportCred : A → Except GssError GssxCred
  /-- `gp_add_krb5_creds` for an acceptor, without an input credential -/
  acquireAcceptor : Except GssError (Option A)
  exportCredsLinux : Option GssxName → Option Bytes → Except GssError Bytes
  /-- the options that return a credential modified by the call -/
  syncOptions : Option GssxCred → Option A → List GssxOption
  displayStatus : UInt32 → Bool → Option Bytes → Display

section

variable {X A : Type} (lib : ContextLib X A)

def statusWith (major minor : UInt32) (mech : Option Bytes) (majorString minorString : Bytes) :
    GssxStatus :=
  { (default : GssxStatus) with
    majorStatus := major.toUInt64
    minorStatus := minor.toUInt64
    mech := ⟨mech.getD []⟩
    majorStatusString := ⟨majorString⟩
    minorStatusString := ⟨minorString⟩ }

def statusString (d : Display) : Bytes :=
  if d.messages = [] then [] else [0x2c, 0x20].intercalate d.messages ++ [0]

def statusToGssx (major minor : UInt32) (mech : Option Bytes) : GssxStatus :=
  statusWith major minor mech
    (if major ≠ 0 then statusString (lib.displayStatus major false mech) else [])
    (if minor ≠ 0 then statusString (lib.displayStatus minor true mech) else [])

/-- `gp_conv_err_to_gssx_string`.  A refused code is an error, and so is one of several messages:
    the length that `asprintf` returns is taken for an error. -/
def gpConvErrToGssxString (d : Display) : Option Bytes :=
  match d.messages with
  | [text] => if d.refused then none else some (text ++ [0])
  | _ => none

/-- `gp_conv_status_to_gssx`.  Where it fails the handler has no result, and the client gets
    `GP_RPC_SYSTEM_ERR`. -/
def gpConvStatusToGssx (major minor : UInt32) (mech : Option Bytes) : Option GssxStatus := do
  let text (code : UInt32) (mechCode : Bool) :=
    if code ≠ 0 then gpConvErrToGssxString (lib.displayStatus code mechCode mech) else some []
  let majorString ← text major false
  let minorString ← text minor true
  return statusWith major minor mech majorString minorString

theorem statusWith_of_conv {lib : ContextLib X A} {major minor : UInt32} {mech : Option Bytes}
    {status : GssxStatus} (h : gpConvStatusToGssx lib major minor mech = some status) :
    ∃ majorString minorString, status = statusWith major minor mech majorString minorString := by
  obtain ⟨majorString, -, h⟩ := Option.bind_eq_some_iff.mp h
  obtain ⟨minorString, -, h⟩ := Option.bind_eq_some_iff.mp h
  exact ⟨majorString, minorString, (Option.some.inj h).symm⟩

theorem conv_of_displays {lib : ContextLib X A} {mech : Option Bytes} (major minor : UInt32)
    (h : ∀ code mechCode, ∃ text, lib.displayStatus code mechCode mech = ⟨[text], false⟩) :
    ∃ status, gpConvStatusToGssx lib major minor mech = some status := by
  have ht : ∀ code mechCode, ∃ text, (if code ≠ 0 then
      gpConvErrToGssxString (lib.displayStatus code mechCode mech) else some []) = some text := by
    intro code mechCode
    obtain ⟨text, hd⟩ := h code mechCode
    rw [hd]
    split <;> exact ⟨_, rfl⟩
  obtain ⟨majorString, hm⟩ := ht major false
  obtain ⟨minorString, hmi⟩ := ht minor true
  refine ⟨statusWith major minor mech majorString minorString, ?_⟩
  unfold gpConvStatusToGssx
  simp only [hm, hmi]
  rfl

/-! ## Export -/

/-- `enum exp_ctx_types`. -/
inductive ExpCtxType where
  | expDefault
  | expPartial
  | expLucid
  deriving DecidableEq, Repr

/-- `gp_get_exported_context_type`. -/
def exportedContextType (options : List GssxOption) : ExpCtxType :=
  match findOption options EXP_CTX_TYPE_OPTION with
  | some value => if value = LINUX_LUCID_V1 then .expLucid else .expPartial
  | none => .expDefault

def describe (info : CtxInfo) : GssxCtx :=
  { (default : GssxCtx) with
    mech := ⟨info.mech⟩
    srcName := info.srcName.getD default
    targName := info.targName.getD default
    lifetime := info.lifetime.toUInt64
    ctxFlags := info.flags.toUInt64
    locallyInitiated := info.locallyInitiated
    isOpen := info.isOpen }

def inquireForExport (type : ExpCtxType) (ctx : Option X) : Except GssError GssxCtx :=
  match lib.inquire ctx with
  | .ok info => .ok (describe info)
  | .error e => if type = .expPartial then .ok default else .error e

def suppressComposite (name : GssxName) : GssxName := { name with exportedCompositeName := ⟨[]⟩ }

/-- The export of a context, as not open and under the mechanism of the call if partial; `lucid`
    makes the kernel form. -/
def exportCtx (lucid : Option X → Except GssError Bytes) (type : ExpCtxType)
    (mech : Option Bytes) (ctx : Option X) : Except GssError GssxCtx := do
  let out ← inquireForExport lib type ctx
  match type with
  | .expPartial =>
    let token ← lib.exportSec ctx
    return { out with
      mech := ⟨mech.getD []⟩
      locallyInitiated := true
      isOpen := false
      exportedContextToken := ⟨token⟩ }
  | .expDefault =>
    let token ← lib.exportSec ctx
    return { out with exportedContextToken := ⟨token⟩ }
  | .expLucid =>
    let token ← lucid ctx
    return { out with
      exportedContextToken := ⟨token⟩
      srcName := suppressComposite out.srcName
      targName := suppressComposite out.targName }

def gpExportCtxIdToGssx (type : ExpCtxType) (mech : Option Bytes) (ctx : Option X) :
    Except GssError GssxCtx :=
  exportCtx lib lib.exportLucid type mech ctx

def ENOSYS : UInt32 := 38

def exportGssxCtx (type : ExpCtxType) (mech : Option Bytes) (ctx : Option X) :
    Except GssError GssxCtx :=
  exportCtx lib (fun _ => .error ⟨GSS_S_FAILURE, ENOSYS⟩) type mech ctx

/-- `gp_import_gssx_to_ctx_id`. -/
def importGssxCtx (g : GssxCtx) : Except GssError X := lib.importSec g.exportedContextToken.data

def importExisting : Option GssxCtx → Except GssError (Option X)
  | some g => (importGssxCtx lib g).map some
  | none => .ok none

def acceptorCred : Option GssxCred → Except GssError (Option A)
  | some g =>
    match lib.importCred g with
    | .ok none => lib.acquireAcceptor
    | given => given
  | none => lib.acquireAcceptor

/-! ## The C handler -/

def exportCredsType (options : List GssxOption) : Option Bool :=
  match findOption options EXP_CREDS_TYPE_OPTION with
  | some value => if value = LINUX_CREDS_V1 then some true else none
  | none => some false

def exportCredsToGssxOptions (linux : Bool) (srcName : Option GssxName) (mech : Option Bytes) :
    Except GssError (List GssxOption) :=
  if linux then
    match lib.exportCredsLinux srcName mech with
    | .ok buffer => .ok [option LINUX_CREDS_V1 buffer]
    | .error e => if e.minor = ENOENT then .ok [] else .error e
  else .ok []

def GSS_C_DELEG_FLAG : UInt32 := 1

def exportDelegated (want : Bool) (r : AcceptStep X A) : Except GssError (Option GssxCred) :=
  match r.delegated with
  | some cred =>
    if r.retFlags &&& GSS_C_DELEG_FLAG ≠ 0 ∧ want then (lib.exportCred cred).map some
    else .ok none
  | none => .ok none

/-- `gp_accept_sec_context`, with enough memory. -/
def gpAcceptSecContext (arg : ArgAcceptSecContext) : Option ResAcceptSecContext :=
  let type := exportedContextType arg.callCtx.options
  let fail (e : GssError) (mech : Option Bytes) (res : ResAcceptSecContext) :=
    (gpConvStatusToGssx lib e.major e.minor mech).map fun status => { res with status }
  if type = .expPartial then fail ⟨GSS_S_FAILURE, EINVAL⟩ none default
  else
    match exportCredsType arg.callCtx.options with
    | none => fail ⟨GSS_S_FAILURE, EINVAL⟩ none default
    | some linux =>
      match acceptorCred lib arg.credHandle with
      | .error e => fail e none default
      | .ok cred =>
        -- the context handle of the request is not looked at
        let r := lib.accept none cred arg.inputToken.data arg.inputCb arg.retDelegCred
        if ¬ keep r.major then fail ⟨r.major, r.minor⟩ r.mech default
        else
          let type := if r.major = GSS_S_CONTINUE_NEEDED then .expPartial else type
          match gpExportCtxIdToGssx lib type r.mech r.ctx with
          | .error e => fail e r.mech
              { (default : ResAcceptSecContext) with contextHandle := some default }
          | .ok handle =>
            let res : ResAcceptSecContext :=
              { (default : ResAcceptSecContext) with
                contextHandle := some handle, outputToken := some ⟨r.output⟩ }
            match exportDelegated lib arg.retDelegCred r with
            | .error e => fail e r.mech { res with delegatedCredHandle := some default }
            | .ok delegated =>
              let res := { res with delegatedCredHandle := delegated }
              match exportCredsToGssxOptions lib linux r.srcName r.mech with
              | .error e => fail e r.mech res
              | .ok options =>
                (gpConvStatusToGssx lib r.major r.minor r.mech).map fun status =>
                  { res with status, options := options ++ lib.syncOptions arg.credHandle cred }

def isError (major : UInt32) : Bool := major &&& 0xffff0000 != 0

/-- `accept_inner`. -/
def acceptInner {H : Type} (ctx : CallContext H) (arg : ArgAcceptSecContext) :
    Except GssError (Bool × GssxCtx × Bytes × Option GssxCred × Option Bytes) := do
  if ctx.service.isNone ∨ ctx.creds.isNone then .error ⟨GSS_S_FAILURE, EINVAL⟩
  else
    let type := exportedContextType arg.callCtx.options
    let existing ← importExisting lib arg.contextHandle
    let cred ← acceptorCred lib arg.credHandle
    let r := lib.accept existing cred arg.inputToken.data arg.inputCb arg.retDelegCred
    if isError r.major then .error ⟨r.major, r.minor⟩
    else
      let more := r.major = GSS_S_CONTINUE_NEEDED
      let handle ← exportGssxCtx lib (if more then .expPartial else type) r.mech r.ctx
      let delegated ← exportDelegated lib arg.retDelegCred r
      return (more, handle, r.output, delegated, r.mech)

/-- `accept_sec_context`. -/
def acceptSecContext {H : Type} (ctx : CallContext H) (arg : ArgAcceptSecContext) :
    ResAcceptSecContext :=
  match acceptInner lib ctx arg with
  | .ok (more, handle, token, delegated, mech) =>
    { (default : ResAcceptSecContext) with
      status := statusToGssx lib (if more then GSS_S_CONTINUE_NEEDED else 0) 0 mech
      contextHandle := some handle
      outputToken := some ⟨token⟩
      delegatedCredHandle := delegated }
  | .error e => { (default : ResAcceptSecContext) with
      status := statusToGssx lib e.major e.minor none }

end

end GssProxy.Server
