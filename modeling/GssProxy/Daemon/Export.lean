import GssProxy.Effect.Filling
import GssProxy.Server.Handlers

/-!
# Handles in the C daemon

How the C daemon imports the credential handle of a request and fills in the handles of a reply, step by
step: an export that fails leaves a handle filled in up to there.  What allocations and conversions answer
is a parameter, `Conversions`.

* `exportCtxInto_builds`: without failures an export is that of `Server.Context`.
-/

namespace GssProxy.Daemon

open Codec Effect Gss Proto Server

/-! ## The library -/

structure InitStep (X : Type) where
  major : UInt32
  minor : UInt32
  ctx : Option X
  output : Bytes

/-- The calls of the C handlers. -/
structure GpLib (N X A H : Type) extends Library N X A H where
  init : Option A → Option X → N → Option Bytes → UInt32 → UInt32 → Option GssxCb → Bytes →
    InitStep X
  encryptBuffer : H → Bytes → Except UInt32 Bytes
  decryptBuffer : H → Bytes → Except UInt32 Bytes
  /-- `gss_krb5_set_allowable_enctypes`, and the credential afterwards -/
  setAllowableEnctypes : A → List UInt32 → Except GssError A
  /-- `gss_set_cred_option` with `GSS_KRB5_CRED_NO_CI_FLAGS_X`, and the credential afterwards -/
  setNoCiFlags : A → Except GssError A
  /-- `get_impersonator_name`, with its fallback on the raw Kerberos calls -/
  impersonatorName : A → Except GssError (Option Bytes)

/-- An allocation that may fail in a handler. -/
inductive Conv where
  | contextHandle
  | contextMech
  | contextName (name : GssxName)
  | partialMech
  | contextToken
  | outputToken
  | outputTokenData
  | delegatedHandle
  | credHandle
  | credName
  | credElements
  | elementName (mech : Bytes)
  | elementMech (mech : Bytes)
  | credsOption
  | handleToken
  | mechType
  | desiredMechs
  | status

/-- Which of them fail. -/
abbrev Conversions := Conv → Except GssError Unit

def noFailure : Conversions := fun _ => .ok ()

section

variable {N X A H : Type} (lib : GpLib N X A H) (conv : Conversions)

/-! ## The options of a credential -/

def KRB5_SET_ALLOWED_ENCTYPE : Bytes := cString "krb5_set_allowed_enctype_values"
def KRB5_SET_NO_CI_FLAGS : Bytes := cString "krb5_set_no_ci_flags"

def enctypesOf : Bytes → List UInt32
  | b₀ :: b₁ :: b₂ :: b₃ :: rest =>
    UInt32.ofNat (b₀.toNat + 256 * b₁.toNat + 65536 * b₂.toNat + 16777216 * b₃.toNat) ::
      enctypesOf rest
  | _ => []

structure CredOptions where
  ktypes : List UInt32
  noCiFlags : Bool
  deriving DecidableEq, Inhabited

def scanOptions : List GssxOption → CredOptions → CredOptions
  | [], found => found
  | op :: ops, found =>
    if op.option.data = KRB5_SET_ALLOWED_ENCTYPE then
      { found with ktypes := enctypesOf op.value.data }
    else if op.option.data = KRB5_SET_NO_CI_FLAGS then
      scanOptions ops { found with noCiFlags := true }
    else scanOptions ops found

def scanElements (elements : List GssxCredElement) : CredOptions :=
  elements.foldl (fun found ce => scanOptions ce.options found) default

def gpSetCredOptions (cred : GssxCred) (a : A) : A :=
  let found := scanElements cred.elements
  let a := if found.ktypes = [] then a
    else (lib.setAllowableEnctypes a found.ktypes).toOption.getD a
  if found.noCiFlags then (lib.setNoCiFlags a).toOption.getD a else a

/-! ## Credentials -/

/-- `gp_import_gssx_cred`. -/
def gpImportGssxCred (handle : Option H) (cred : GssxCred) : Except GssError (Option A) :=
  match handle with
  | none => .error ⟨GSS_S_FAILURE, EINVAL⟩
  | some key => do
    conv .handleToken
    match lib.decryptBuffer key cred.credHandleReference.data with
    | .error _ => .ok none
    | .ok token => (lib.importToken token).map fun a => some (gpSetCredOptions lib cred a)

def gpNameToGssx (name : Option N) : Except GssError GssxName :=
  match name with
  | some name => nameToGssx lib.toLibrary name
  | none => .error ⟨GSS_S_CALL_INACCESSIBLE_READ ||| GSS_S_BAD_NAME, 0⟩

def putElements (elements : List GssxCredElement) : Filling GssError GssxCred Unit :=
  .write fun out => { out with elements }

/-- The loop over the mechanisms, with a blank element for each one to come; one that cannot be
    inquired is skipped. -/
def fillElements (cred : A) : List Bytes → List GssxCredElement → Filling GssError GssxCred Unit
  | [], filled => putElements filled
  | mech :: mechs, filled =>
    let blank := List.replicate mechs.length (default : GssxCredElement)
    match lib.inquireCredByMech cred mech with
    | .error _ => do
      putElements (filled ++ blank)
      fillElements cred mechs filled
    | .ok info => do
      let mn ← .ofExcept (gpNameToGssx lib info.name)
      .ofExcept (conv (.elementName mech))
      putElements (filled ++ { (default : GssxCredElement) with mn } :: blank)
      .ofExcept (conv (.elementMech mech))
      let el : GssxCredElement :=
        { mn
          mech := ⟨mech⟩
          credUsage := credUsageToGssx info.usage
          initiatorTimeRec := info.initiatorLifetime.toUInt64
          acceptorTimeRec := info.acceptorLifetime.toUInt64
          options := [] }
      putElements (filled ++ el :: blank)
      fillElements cred mechs (filled ++ [el])

def gpExportGssxCred (handle : Option H) (cred : A) : Filling GssError GssxCred Unit := do
  let info ← .ofExcept (lib.inquireCred (some cred))
  let name ← .ofExcept (gpNameToGssx lib info.name)
  .ofExcept (conv .credName)
  .write fun out => { out with desiredName := name }
  .ofExcept (conv .credElements)
  putElements (List.replicate info.mechs.length default)
  fillElements lib conv cred info.mechs []
  match handle with
  | none => .fail ⟨GSS_S_FAILURE, EINVAL⟩
  | some key => do
    let token ← .ofExcept (lib.exportToken cred)
    let reference ← .ofExcept ((lib.encryptBuffer key token).mapError (⟨GSS_S_FAILURE, ·⟩))
    .write fun out => { out with credHandleReference := ⟨reference⟩, needsRelease := false }

/-! ## Contexts -/

def describeInto (info : CtxInfo) : Filling GssError GssxCtx Unit := do
  .ofExcept (conv .contextMech)
  .write fun out => { out with mech := ⟨info.mech⟩ }
  nameInto (fun name out => { out with srcName := name }) info.srcName
  nameInto (fun name out => { out with targName := name }) info.targName
  .write fun out =>
    { out with
      lifetime := info.lifetime.toUInt64
      ctxFlags := info.flags.toUInt64
      locallyInitiated := info.locallyInitiated
      isOpen := info.isOpen }
where
  nameInto (attach : GssxName → GssxCtx → GssxCtx) : Option GssxName → Filling GssError GssxCtx Unit
    | some name => do
      .ofExcept (conv (.contextName name))
      .write (attach name)
    | none => pure ()

def inquireInto (type : ExpCtxType) (ctx : Option X) : Filling GssError GssxCtx Unit :=
  match lib.inquire ctx with
  | .ok info => describeInto conv info
  | .error e => if type = .expPartial then pure () else .fail e

def tokenInto (ctx : Option X) : Filling GssError GssxCtx Unit := do
  let token ← .ofExcept (lib.exportSec ctx)
  .ofExcept (conv .contextToken)
  .write fun out => { out with exportedContextToken := ⟨token⟩ }

def exportTypeInto (type : ExpCtxType) (mech : Option Bytes) (ctx : Option X) :
    Filling GssError GssxCtx Unit :=
  match type with
  | .expPartial => do
    .ofExcept (conv .partialMech)
    .write fun out =>
      { out with mech := ⟨mech.getD []⟩, locallyInitiated := true, isOpen := false }
    tokenInto lib conv ctx
  | .expDefault => tokenInto lib conv ctx
  | .expLucid => do
    let token ← .ofExcept (lib.exportLucid ctx)
    .write fun out =>
      { out with
        exportedContextToken := ⟨token⟩
        srcName := suppressComposite out.srcName
        targName := suppressComposite out.targName }

def freeNames (out : GssxCtx) : GssxCtx :=
  { out with mech := default, srcName := default, targName := default }

def exportCtxInto (type : ExpCtxType) (mech : Option Bytes) (ctx : Option X) :
    Filling GssError GssxCtx Unit :=
  .orElseClean freeNames do
    inquireInto lib conv type ctx
    exportTypeInto lib conv type mech ctx

end

section

variable {N X A H : Type} {lib : GpLib N X A H}

theorem describeInto_noFailure (info : CtxInfo) :
    describeInto noFailure info default = (.ok (), describe info) := by
  rcases info with ⟨mech, src, targ, lifetime, flags, init, isOpen⟩
  cases src <;> cases targ <;> rfl

theorem inquireInto_builds (type : ExpCtxType) (ctx : Option X) :
    (inquireInto lib noFailure type ctx).Builds default
      (inquireForExport lib.toContextLib type ctx) := by
  unfold inquireInto inquireForExport
  cases lib.inquire ctx with
  | ok info => exact .ok (describeInto_noFailure info)
  | error e =>
    by_cases ht : type = .expPartial
    · simp only [if_pos ht]; exact .ok rfl
    · simp only [if_neg ht]; exact .error rfl

/-- **The context handle of a reply.**  With enough memory the export builds the handle that
    `gpExportCtxIdToGssx` gives. -/
theorem exportCtxInto_builds (type : ExpCtxType) (mech : Option Bytes) (ctx : Option X) :
    (exportCtxInto lib noFailure type mech ctx).Builds default
      (gpExportCtxIdToGssx lib.toContextLib type mech ctx) := by
  refine .orElseClean (.bind (inquireInto_builds type ctx) fun out _ => ?_)
  cases type with
  | expPartial | expDefault | expLucid => exact .ofExcept_bind fun _ => .ok rfl

end

end GssProxy.Daemon
