import GssProxy.Effect.Fallible
import GssProxy.Server.Context
import GssProxy.Server.Environment

/-!
# Acquiring credentials

`gp_add_krb5_creds`, its Rust port and the two handlers of the acquire request.  Every credential obtained
from the GSSAPI library is recorded, and carries where it comes from.
-/

namespace GssProxy.Server

open Codec Effect Gss Proto

def KRB5_MECH_OID : Bytes := [0x2a, 0x86, 0x48, 0x86, 0xf7, 0x12, 0x01, 0x02, 0x02]

/-! ## Credentials -/

inductive Origin where
  /-- no credential: the library falls back on what the process itself has -/
  | noCredential
  | unsealed
  /-- `gss_acquire_cred_from`; without a store the library uses its defaults -/
  | acquired (usage : Int32) (store : Option Store)
  | impersonated (impersonator : Origin) (usage : Int32)
  | delegated (user : Origin)
  deriving DecidableEq, Repr

def Origin.usage : Origin → Option Int32
  | .noCredential => none
  | .unsealed => none
  | .acquired usage _ => some usage
  | .impersonated _ usage => some usage
  | .delegated user => user.usage

/-- `Cred`, with where it comes from. -/
structure Cred (A : Type) where
  handle : A
  origin : Origin

def originOf {A : Type} : Option (Cred A) → Origin
  | some cred => cred.origin
  | none => .noCredential

/-! ## The GSSAPI library -/

/-- What an inquiry tells. -/
structure CredInfo (N : Type) where
  name : Option N
  lifetime : UInt32
  usage : Int32
  mechs : List Bytes

structure SelfStep (α : Type) where
  major : UInt32
  minor : UInt32
  output : α

/-- The calls of an acquisition. -/
structure CredLib (N A : Type) extends Host N where
  compareName : Option N → Option N → Except GssError Bool
  inquireCred : Option A → Except GssError (CredInfo N)
  /-- `gss_inquire_cred` that is not asked for the name, so `CredInfo.name` means nothing -/
  inquireUnnamed : A → Except GssError (CredInfo N) := fun cred => inquireCred (some cred)
  acquireCredFrom : Option N → Int32 → Option Store → Except GssError A
  acquireCredImpersonateName : Option A → Option N → Int32 → Except GssError A
  /-- `gss_init_sec_context` of the impersonated user to the impersonator: the token -/
  initToSelf : A → Option N → SelfStep Bytes
  /-- `gss_accept_sec_context` of that token: the delegated credential -/
  acceptFromSelf : A → Bytes → SelfStep (Option A)

section

variable {N A : Type} (lib : CredLib N A)

abbrev Acquiring (α : Type) : Type := Fallible GssError Origin α

def acquireFrom (name : Option N) (usage : Int32) (store : Option Store) : Acquiring (Cred A) := do
  let origin := Origin.acquired usage store
  let handle ← Fallible.recorded origin (lib.acquireCredFrom name usage store)
  return ⟨handle, origin⟩

def impersonateName (impersonator : Option (Cred A)) (name : Option N) : Acquiring (Cred A) := do
  let origin := Origin.impersonated (originOf impersonator) GSS_C_INITIATE
  let handle ← Fallible.recorded origin
    (lib.acquireCredImpersonateName (impersonator.map Cred.handle) name GSS_C_INITIATE)
  return ⟨handle, origin⟩

/-! ## An input credential -/

/-- The check of an input credential, from the answer of the inquiry on. -/
def checkInquired (inquired : Except GssError (CredInfo N))
    (compare : N → Option N → Except GssError Bool) (svc : Service)
    (desiredName : Option GssxName) (credUsage : Int32) : Except GssError Unit := do
  let info ← inquired
  if KRB5_MECH_OID ∉ info.mechs then throw ⟨GSS_S_CRED_UNAVAIL, 0⟩
  if let some name := desiredName then
    let required ← gssxToName lib.toHost name
    let equal ← compare required info.name
    if ¬ equal then throw ⟨GSS_S_CRED_UNAVAIL, 0⟩
  if credUsage = GSS_C_ACCEPT ∧ info.usage = GSS_C_INITIATE then throw ⟨GSS_S_NO_CRED, 0⟩
  if credUsage = GSS_C_INITIATE ∧ info.usage = GSS_C_ACCEPT then throw ⟨GSS_S_NO_CRED, 0⟩
  if credUsage = GSS_C_BOTH ∧ info.usage ≠ GSS_C_BOTH then throw ⟨GSS_S_NO_CRED, 0⟩
  if info.lifetime = 0 then throw ⟨GSS_S_CREDENTIALS_EXPIRED, 0⟩
  if svc.minLifetime ≠ 0 ∧ info.lifetime < svc.minLifetime then
    throw ⟨GSS_S_CREDENTIALS_EXPIRED, 0⟩

variable (port : Port) (svc : Service) (uid : UInt32) (acquireType : AcquireType)
  (inCred : Option (Cred A)) (desiredName : Option GssxName) (credUsage : Int32)

/-- `gp_check_cred` asks for the name only if there is a desired one. -/
def gpInquired (cred : Cred A) : Option GssxName → Except GssError (CredInfo N)
  | some _ => lib.inquireCred (some cred.handle)
  | none => lib.inquireUnnamed cred.handle

/-- `gp_check_cred`. -/
def gpCheckCred (cred : Cred A) : Except GssError Unit :=
  checkInquired lib (gpInquired lib cred desiredName)
    (fun required name => lib.compareName (some required) name) svc desiredName credUsage

def comparePresent (required : N) : Option N → Except GssError Bool
  | some name => lib.compareName (some required) (some name)
  | none => .error ⟨GSS_S_CRED_UNAVAIL, 0⟩

/-- The Rust port of `gp_check_cred`. -/
def checkCred (cred : Cred A) : Except GssError Unit :=
  checkInquired lib (lib.inquireCred (some cred.handle)) (comparePresent lib) svc desiredName credUsage

def renewable (major : UInt32) : Bool :=
  major == GSS_S_CREDENTIALS_EXPIRED || major == GSS_S_NO_CRED ||
    major == GSS_S_DEFECTIVE_CREDENTIAL

/-- Whether the input credential is used as it is. -/
def reuseInput (check : Cred A → Except GssError Unit) (minor : GssError → UInt32)
    (acquireType : AcquireType) (inCred : Option (Cred A)) : Except GssError Bool :=
  match inCred, acquireType with
  | some cred, .normal =>
    match check cred with
    | .ok () => .ok true
    | .error e => if renewable e.major then .ok false else .error ⟨GSS_S_CRED_UNAVAIL, minor e⟩
  | _, _ => .ok false

/-- What to acquire with: the environment of the service, or the requested usage and an empty store
    where the acquisition is not a normal one. -/
def acquireEnvironment : Except GssError (CredEnv N) :=
  match acquireType with
  | .normal =>
    (getCredEnvironment port lib.toHost svc uid desiredName credUsage).mapError
      (⟨GSS_S_CRED_UNAVAIL, ·⟩)
  | .impName => do
    let requestedName ← desiredName.mapM (gssxToName lib.toHost)
    return { requestedName, credUsage, credStore := [], memCcache := none }

def hostPrincipal : Except GssError (Option N) :=
  svc.krb5Principal.mapM (principalName lib.toHost)

/-- The user's credential for the service: the user initiates to the impersonator, which accepts.
    `failed` tells which statuses end it. -/
def delegateToSelf (failed : UInt32 → Bool) (impersonator user : Cred A) (target : Option N) :
    Acquiring (Option (Cred A)) := do
  let init := lib.initToSelf user.handle target
  if failed init.major then throw ⟨init.major, init.minor⟩
  let accept := lib.acceptFromSelf impersonator.handle init.output
  if failed accept.major then throw ⟨accept.major, accept.minor⟩
  match accept.output with
  | some handle =>
    let origin := Origin.delegated user.origin
    let handle ← Fallible.recorded origin (.ok handle)
    return some ⟨handle, origin⟩
  | none => return none

def gpSelfCred (env : CredEnv N) (impersonator : Cred A) : Acquiring (Option (Cred A)) := do
  match env.requestedName with
  | none => return none
  | some requested =>
    let info ← Fallible.ofExcept (lib.inquireCred (some impersonator.handle))
    let equal ← Fallible.ofExcept (lib.compareName info.name (some requested))
    if equal then
      Fallible.attempt (acquireFrom lib (some requested) env.credUsage (some env.credStore))
    else return none

def gpImpersonate (env : CredEnv N) : Acquiring (Option (Cred A)) := do
  match acquireType with
  | .normal =>
    let principal ← Fallible.ofExcept (hostPrincipal lib svc)
    let impersonator ← acquireFrom lib principal GSS_C_BOTH (some env.credStore)
    match ← gpSelfCred lib env impersonator with
    | some cred => return some cred
    | none =>
      let info ← Fallible.ofExcept (lib.inquireCred (some impersonator.handle))
      let user ← impersonateName lib (some impersonator) env.requestedName
      delegateToSelf lib (· != 0) impersonator user info.name
  | .impName =>
    -- the input credential may be absent here: a handle that does not unseal is none
    let _ ← Fallible.ofExcept (lib.inquireCred (inCred.map Cred.handle))
    let user ← impersonateName lib inCred env.requestedName
    return some user

/-- `gp_add_krb5_creds`. -/
def gpAddKrb5Creds : Acquiring (Option (Cred A)) := do
  let reuse ← Fallible.ofExcept
    (reuseInput (gpCheckCred lib svc desiredName credUsage) GssError.minor acquireType inCred)
  if reuse then return none
  let env ← Fallible.ofExcept
    (acquireEnvironment lib port svc uid acquireType desiredName credUsage)
  if tryImpersonate svc env.credUsage acquireType then
    gpImpersonate lib svc acquireType inCred env
  else
    let cred ← acquireFrom lib env.requestedName env.credUsage (some env.credStore)
    return some cred

/-! ## The Rust daemon -/

def storeArg (store : Store) : Option Store := if store = [] then none else some store

def selfCred (env : CredEnv N) (impersonator : Cred A) : Acquiring (Option (Cred A)) := do
  match env.requestedName, lib.inquireCred (some impersonator.handle) with
  | some requested, .ok { name := some name, .. } =>
    match lib.compareName (some requested) (some name) with
    | .ok true =>
      Fallible.attempt (acquireFrom lib (some requested) env.credUsage (storeArg env.credStore))
    | _ => return none
  | _, _ => return none

def inquireName (cred : Cred A) : Except GssError N := do
  let info ← lib.inquireCred (some cred.handle)
  match info.name with
  | some name => return name
  | none => throw ⟨GSS_S_FAILURE, 0⟩

def impersonateAcquire (env : CredEnv N) : Acquiring (Cred A) := do
  match acquireType with
  | .normal =>
    let principal ← Fallible.ofExcept (hostPrincipal lib svc)
    let impersonator ← acquireFrom lib principal GSS_C_BOTH (storeArg env.credStore)
    match ← selfCred lib env impersonator with
    | some cred => return cred
    | none =>
      let target ← Fallible.ofExcept (inquireName lib impersonator)
      let user ← impersonateName lib (some impersonator) env.requestedName
      match ← delegateToSelf lib isError impersonator user (some target) with
      | some cred => return cred
      | none => throw ⟨GSS_S_FAILURE, 0⟩
  | .impName =>
    match inCred with
    | none => throw ⟨GSS_S_FAILURE, EFAULT⟩
    | some cred =>
      let _ ← Fallible.ofExcept (inquireName lib cred)
      impersonateName lib (some cred) env.requestedName

/-- `add_krb5_creds`. -/
def addKrb5Creds : Acquiring (Option (Cred A)) := do
  let reuse ← Fallible.ofExcept
    (reuseInput (checkCred lib svc desiredName credUsage) (fun _ => 0) acquireType inCred)
  if reuse then return none
  let env ← Fallible.ofExcept
    (acquireEnvironment lib rustPort svc uid acquireType desiredName credUsage)
  if tryImpersonate svc env.credUsage acquireType then
    let cred ← impersonateAcquire lib svc acquireType inCred env
    return some cred
  else
    let cred ← acquireFrom lib env.requestedName env.credUsage (storeArg env.credStore)
    return some cred

end

/-! ## The handlers -/

def GP_CRED_KRB5 : UInt32 := 1

def allowedMech (svc : Service) (mech : Bytes) : Bool :=
  svc.mechs &&& GP_CRED_KRB5 != 0 && mech == KRB5_MECH_OID

inductive Output (A : Type) where
  | fresh (cred : Cred A)
  | input (handle : Option GssxCred)

structure Acquired (A : Type) where
  major : UInt32
  minor : UInt32
  mech : Option Bytes
  output : Option (Output A)

def Acquired.failed {A : Type} (e : GssError) (mech : Option Bytes) : Acquired A :=
  ⟨e.major, e.minor, mech, none⟩

section

variable {N A : Type} (lib : CredLib N A) (importCred : GssxCred → Except GssError (Option A))

def inputCred (arg : ArgAcquireCred) : Except GssError (Option (Cred A) × AcquireType) :=
  match arg.inputCredHandle with
  | none => .ok (none, .normal)
  | some handle =>
    match importCred handle with
    | .error e => .error e
    | .ok cred =>
      match getAcquireType arg.options with
      | some acquireType => .ok (cred.map (⟨·, .unsealed⟩), acquireType)
      | none => .error ⟨GSS_S_FAILURE, EINVAL⟩

def addMech (svc : Service) (mechs : List Bytes) (mech : GssxOid) : List Bytes :=
  if allowedMech svc mech.data ∧ mech.data ∉ mechs then mechs ++ [mech.data] else mechs

def useMechs (svc : Service) (desiredMechs : GssxOidSet) : List Bytes :=
  if desiredMechs = [] then [KRB5_MECH_OID] else desiredMechs.foldl (addMech svc) []

structure Slots (A : Type) where
  input : Option (Cred A)
  output : Option (Cred A)

def addCreds (port : Port) (svc : Service) (uid : UInt32) (arg : ArgAcquireCred)
    (acquireType : AcquireType) : List Bytes → Slots A → Acquiring (Slots A)
  | [], slots => return slots
  | mech :: mechs, slots =>
    if mech = KRB5_MECH_OID then do
      let cred ← gpAddKrb5Creds lib port svc uid acquireType slots.input arg.desiredName
        (gssxToCredUsage arg.credUsage)
      addCreds port svc uid arg acquireType mechs
        (if arg.addCredToInputHandle then { slots with input := cred }
        else { slots with output := cred })
    else throw ⟨GSS_S_BAD_MECH, 0⟩

def gpChooseOutput (arg : ArgAcquireCred) : Except GssError (Slots A) → Acquired A
  | .error e => .failed e (some KRB5_MECH_OID)
  | .ok ⟨_, some cred⟩ => ⟨0, 0, some KRB5_MECH_OID, some (.fresh cred)⟩
  | .ok ⟨some _, none⟩ => ⟨0, 0, some KRB5_MECH_OID, some (.input arg.inputCredHandle)⟩
  | .ok ⟨none, none⟩ => .failed ⟨GSS_S_NO_CRED, 0⟩ (some KRB5_MECH_OID)

/-- `gp_acquire_cred`. -/
def gpAcquireCred (port : Port) (svc : Service) (uid : UInt32) (arg : ArgAcquireCred) :
    Calls Origin (Acquired A) :=
  match inputCred importCred arg with
  | .error e => pure (.failed e none)
  | .ok (inCred, acquireType) =>
    match useMechs svc arg.desiredMechs with
    | [] => pure (.failed ⟨GSS_S_NO_CRED, 0⟩ none)
    | mechs => do
      let slots ← (addCreds lib port svc uid arg acquireType mechs ⟨inCred, none⟩).run
      return gpChooseOutput arg slots

def chooseOutput (arg : ArgAcquireCred) (inCred : Option (Cred A)) :
    Except GssError (Option (Cred A)) → Acquired A
  | .error e => .failed e (some KRB5_MECH_OID)
  | .ok acquired =>
    if arg.addCredToInputHandle then
      if inCred.isSome || acquired.isSome then
        ⟨0, 0, some KRB5_MECH_OID, some (.input arg.inputCredHandle)⟩
      else .failed ⟨GSS_S_NO_CRED, 0⟩ (some KRB5_MECH_OID)
    else
      match acquired, inCred with
      | some cred, _ => ⟨0, 0, some KRB5_MECH_OID, some (.fresh cred)⟩
      | none, some _ => ⟨0, 0, some KRB5_MECH_OID, some (.input arg.inputCredHandle)⟩
      | none, none => .failed ⟨GSS_S_NO_CRED, 0⟩ (some KRB5_MECH_OID)

/-- `acquire_cred` for a service. -/
def acquireForService (svc : Service) (uid : UInt32) (arg : ArgAcquireCred) :
    Calls Origin (Acquired A) :=
  match inputCred importCred arg with
  | .error e => pure (.failed e none)
  | .ok (inCred, acquireType) =>
    if arg.desiredMechs ≠ [] ∧ ¬ (arg.desiredMechs.any fun m => allowedMech svc m.data) then
      pure (.failed ⟨GSS_S_NO_CRED, 0⟩ none)
    else do
      let acquired ← (addKrb5Creds lib svc uid acquireType inCred arg.desiredName
        (gssxToCredUsage arg.credUsage)).run
      return chooseOutput arg inCred acquired

end

end GssProxy.Server
