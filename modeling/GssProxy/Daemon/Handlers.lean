import GssProxy.Daemon.Export

/-!
# Context and credential procedures of the C daemon

`gp_init_sec_context`, `gp_accept_sec_context` and `gp_acquire_cred` with every outcome of library calls,
allocations and conversions.  A handler first makes its calls and then fills in the reply, which is sent
as it is by then.

* `gpAcceptSecContext_agrees`: without failures this is the handler of `Server.Context`.
-/

namespace GssProxy.Daemon

open Codec Effect Gss Proto Server

/-! ## Endings -/

structure Ending where
  major : UInt32
  minor : UInt32
  mech : Option Bytes

/-- Why a handler stops. -/
inductive Stop where
  | status (s : Ending)
  | crash

def withMech {α : Type} (mech : Option Bytes) (x : Except GssError α) : Except Stop α :=
  x.mapError fun e => .status ⟨e.major, e.minor, mech⟩

/-- The course of a handler: `start` makes the calls, `fill` fills in the reply, and the status is
    that of the first failure.  No reply comes of a crash or where `status` fails. -/
def finish {ρ σ : Type} [Inhabited ρ] (setStatus : GssxStatus → ρ → ρ)
    (status : Ending → Option GssxStatus) (start : Except Stop σ) (ending : σ → Ending)
    (fill : σ → Filling GssError ρ Unit) : Option ρ :=
  let reply (s : Ending) (res : ρ) := (status s).map (setStatus · res)
  match start with
  | .error .crash => none
  | .error (.status s) => reply s default
  | .ok p =>
    match fill p default with
    | (.ok (), res) => reply (ending p) res
    | (.error e, res) => reply ⟨e.major, e.minor, (ending p).mech⟩ res

/-- `struct gp_call_ctx`. -/
structure GpCall (H : Type) where
  service : Service
  uid : UInt32
  creds : Option H

section

variable {N X A H : Type} (lib : GpLib N X A H) (port : Port) (conv : Conversions)
  (call : GpCall H)

/-- The status of a reply, if `gp_conv_status_to_gssx` succeeds. -/
def endingStatus (s : Ending) : Option GssxStatus := do
  (conv .status).toOption
  gpConvStatusToGssx lib.toContextLib s.major s.minor s.mech

def gpServiceCred (usage : Int32) : Except GssError (Option A) :=
  (gpAddKrb5Creds lib.toCredLib port call.service call.uid .normal none none usage).run.value.map
    (·.map Cred.handle)

def tokenData (output : Bytes) : Filling GssError GssxBuffer Unit := do
  .ofExcept (conv .outputTokenData)
  .write fun _ => ⟨output⟩

/-! ## Initiating -/

def checkImpersonatorName (target : N) (impersonator : Bytes) : Except GssError Unit :=
  match lib.canonicalizeName target KRB5_MECH_OID with
  | .error e => .error ⟨e.major, 0⟩
  | .ok canon =>
    match lib.displayName canon with
    | .error e => .error ⟨e.major, 0⟩
    | .ok (display, _) => if display = impersonator then .ok () else .error ⟨GSS_S_UNAUTHORIZED, 0⟩

/-- `gp_cred_allowed`. -/
def gpCredAllowed (cred : Option A) (target : N) : Except GssError Unit :=
  match cred with
  | none => .error ⟨GSS_S_CRED_UNAVAIL, 0⟩
  | some cred =>
    if call.service.trusted || call.service.impersonate || call.service.allowConstDeleg then .ok ()
    else do
      match ← lib.impersonatorName cred with
      | some impersonator => checkImpersonatorName lib target impersonator
      | none => .ok ()

def importGiven : Option GssxCred → Except GssError (Option A)
  | some g => gpImportGssxCred lib conv call.creds g
  | none => .ok none

def initiatorCred (mech : Option Bytes) (given : Option A) : Except GssError (Option A) :=
  if given.isSome then .ok given
  else if mech = some KRB5_MECH_OID then gpServiceCred lib port call GSS_C_INITIATE
  else .error ⟨GSS_S_NO_CRED, 0⟩

/-- What the export of an initiation needs. -/
structure Initiated (X A : Type) where
  type : ExpCtxType
  mech : Option Bytes
  cred : Option A
  step : InitStep X

section

variable (arg : ArgInitSecContext)

def initHandles : Except GssError (ExpCtxType × Option X × Option A) := do
  let type := exportedContextType arg.callCtx.options
  if type = .expPartial then throw ⟨GSS_S_FAILURE, EINVAL⟩
  let ctx ← importExisting lib.toContextLib arg.contextHandle
  let given ← importGiven lib conv call arg.credHandle
  return (type, ctx, given)

def initTarget : Option GssxName → Except Stop N
  | none => .error .crash
  | some target => withMech none (gssxToName lib.toHost target)

def initKept (type : ExpCtxType) (mech : Option Bytes) (cred : Option A) (r : InitStep X) :
    Except Stop (Initiated X A) :=
  if keep r.major then
    .ok ⟨if r.major = GSS_S_CONTINUE_NEEDED then .expPartial else type, mech, cred, r⟩
  else .error (.status ⟨r.major, r.minor, mech⟩)

def initWith (type : ExpCtxType) (ctx : Option X) (given : Option A) (target : N) :
    Except Stop (Initiated X A) := do
  withMech none (conv .mechType)
  let mech := nonempty arg.mechType
  let cred ← withMech mech (initiatorCred lib port call mech given)
  withMech mech (gpCredAllowed lib call cred target)
  initKept type mech cred
    (lib.init cred ctx target mech (filterFlags call.service arg.reqFlags.toUInt32)
      arg.timeReq.toUInt32 arg.inputCb (arg.inputToken.elim [] Opaque.data))

/-- The calls of `gp_init_sec_context`. -/
def initCall : Except Stop (Initiated X A) := do
  let (type, ctx, given) ← withMech none (initHandles lib conv call arg)
  let target ← initTarget lib arg.targetName
  initWith lib port conv call arg type ctx given target

def initToken (output : Bytes) : Filling GssError ResInitSecContext Unit :=
  if output = [] then pure ()
  else do
    .ofExcept (conv .outputToken)
    .part (fun token res => { res with outputToken := some token }) default
      (tokenData conv output)

def initSteps (p : Initiated X A) : Filling GssError ResInitSecContext Unit := do
  .part (fun ctx res => { res with contextHandle := some ctx }) default
    (exportCtxInto lib conv p.type p.mech p.step.ctx)
  initToken conv p.step.output
  .write fun res => { res with options := lib.syncOptions arg.credHandle p.cred }

def fillInit (p : Initiated X A) : Filling GssError ResInitSecContext Unit := do
  .ofExcept (conv .contextHandle)
  initSteps lib conv arg p

/-- `gp_init_sec_context`. -/
def gpInitSecContext : Option ResInitSecContext :=
  finish (fun status res => { res with status }) (endingStatus lib conv)
    (initCall lib port conv call arg) (fun p => ⟨p.step.major, p.step.minor, p.mech⟩)
    (fillInit lib conv arg)

end

/-! ## Accepting -/

/-- The library as `Server.Context` has it. -/
def GpLib.contextLib : ContextLib X A :=
  { lib.toContextLib with
    importCred := gpImportGssxCred lib conv call.creds
    exportCred := fun cred =>
      match gpExportGssxCred lib conv call.creds cred default with
      | (.ok (), wire) => .ok wire
      | (.error e, _) => .error e
    acquireAcceptor := gpServiceCred lib port call GSS_C_ACCEPT }

/-- What the export of an acceptance needs. -/
structure Accepted (X A : Type) where
  type : ExpCtxType
  linuxCreds : Bool
  cred : Option A
  step : AcceptStep X A

section

variable (arg : ArgAcceptSecContext)

def acceptForms : Except GssError (ExpCtxType × Bool) :=
  let type := exportedContextType arg.callCtx.options
  match exportCredsType arg.callCtx.options with
  | some linuxCreds =>
    if type = .expPartial then .error ⟨GSS_S_FAILURE, EINVAL⟩ else .ok (type, linuxCreds)
  | none => .error ⟨GSS_S_FAILURE, EINVAL⟩

def acceptKept (type : ExpCtxType) (linuxCreds : Bool) (cred : Option A) (r : AcceptStep X A) :
    Except Stop (Accepted X A) :=
  if keep r.major then
    .ok ⟨if r.major = GSS_S_CONTINUE_NEEDED then .expPartial else type, linuxCreds, cred, r⟩
  else .error (.status ⟨r.major, r.minor, r.mech⟩)

/-- The calls of `gp_accept_sec_context`. -/
def acceptCall : Except Stop (Accepted X A) := do
  let (type, linuxCreds) ← withMech none (acceptForms arg)
  let cred ← withMech none (acceptorCred (lib.contextLib port conv call) arg.credHandle)
  acceptKept type linuxCreds cred
    (lib.accept none cred arg.inputToken.data arg.inputCb arg.retDelegCred)

def delegatedFor (r : AcceptStep X A) : Option A :=
  if r.retFlags &&& GSS_C_DELEG_FLAG ≠ 0 ∧ arg.retDelegCred then r.delegated else none

def fillDelegated : Option A → Filling GssError ResAcceptSecContext Unit
  | none => pure ()
  | some cred => do
    .ofExcept (conv .delegatedHandle)
    .part (fun wire res => { res with delegatedCredHandle := some wire }) default
      (gpExportGssxCred lib conv call.creds cred)

def credsOptions (p : Accepted X A) : Except GssError (List GssxOption) := do
  match ← exportCredsToGssxOptions lib.toContextLib p.linuxCreds p.step.srcName p.step.mech with
  | [] => return []
  | options => do
    conv .credsOption
    return options

def acceptSteps (p : Accepted X A) : Filling GssError ResAcceptSecContext Unit := do
  .part (fun ctx res => { res with contextHandle := some ctx }) default
    (exportCtxInto lib conv p.type p.step.mech p.step.ctx)
  .ofExcept (conv .outputToken)
  .part (fun token res => { res with outputToken := some token }) default
    (tokenData conv p.step.output)
  fillDelegated lib conv call (delegatedFor arg p.step)
  let options ← .ofExcept (credsOptions lib conv p)
  .write fun res => { res with options := options ++ lib.syncOptions arg.credHandle p.cred }

def fillAccept (p : Accepted X A) : Filling GssError ResAcceptSecContext Unit := do
  .ofExcept (conv .contextHandle)
  acceptSteps lib conv call arg p

/-- `gp_accept_sec_context`. -/
def gpAcceptSecContext : Option ResAcceptSecContext :=
  finish (fun status res => { res with status }) (endingStatus lib conv)
    (acceptCall lib port conv call arg) (fun p => ⟨p.step.major, p.step.minor, p.step.mech⟩)
    (fillAccept lib conv call arg)

end

def acquireResult (arg : ArgAcquireCred) : Acquired A :=
  let importCred := gpImportGssxCred lib conv call.creds
  match inputCred importCred arg, conv .desiredMechs with
  | .ok _, .error e => .failed e none
  | _, _ => (Server.gpAcquireCred lib.toCredLib importCred port call.service call.uid arg).value

def acquireCall (arg : ArgAcquireCred) : Except Stop (Output A × Ending) :=
  let acquired := acquireResult lib port conv call arg
  match acquired.output with
  | some output => .ok (output, ⟨acquired.major, acquired.minor, acquired.mech⟩)
  | none => .error (.status ⟨acquired.major, acquired.minor, acquired.mech⟩)

def fillAcquire : Output A → Filling GssError ResAcquireCred Unit
  | .input handle => .write fun res => { res with outputCredHandle := handle }
  | .fresh cred => do
    .ofExcept (conv .credHandle)
    .part (fun wire res => { res with outputCredHandle := some wire }) default
      (gpExportGssxCred lib conv call.creds cred.handle)

def gpAcquireCred (arg : ArgAcquireCred) : Option ResAcquireCred :=
  finish (fun status res => { res with status }) (endingStatus lib conv)
    (acquireCall lib port conv call arg) Prod.snd (fun p => fillAcquire lib conv call p.1)

end

/-! ## Agreement with the model of `Server.Context` -/

section

variable {N X A H : Type} (lib : GpLib N X A H) (port : Port) (call : GpCall H)

theorem withMech_ok {α : Type} {mech : Option Bytes} {x : Except GssError α} {a : α}
    (h : withMech mech x = .ok a) : x = .ok a := by
  cases x with
  | error e => cases h
  | ok b => cases h; rfl

theorem credsOptions_noFailure (p : Accepted X A) :
    credsOptions lib noFailure p =
      exportCredsToGssxOptions lib.toContextLib p.linuxCreds p.step.srcName p.step.mech := by
  unfold credsOptions
  cases exportCredsToGssxOptions lib.toContextLib p.linuxCreds p.step.srcName p.step.mech with
  | error e => rfl
  | ok options => cases options <;> rfl

variable {arg : ArgAcceptSecContext}

theorem acceptCall_ok {conv : Conversions} {p : Accepted X A}
    (h : acceptCall lib port conv call arg = .ok p) :
    exportedContextType arg.callCtx.options ≠ .expPartial ∧
      exportCredsType arg.callCtx.options = some p.linuxCreds ∧
      acceptorCred (lib.contextLib port conv call) arg.credHandle = .ok p.cred ∧
      p.step = lib.accept none p.cred arg.inputToken.data arg.inputCb arg.retDelegCred ∧
      keep p.step.major = true ∧
      p.type = if p.step.major = GSS_S_CONTINUE_NEEDED then .expPartial
        else exportedContextType arg.callCtx.options := by
  obtain ⟨⟨type, linuxCreds⟩, hf, h⟩ := bind_eq_ok.mp h
  obtain ⟨cred, hc, h⟩ := bind_eq_ok.mp h
  unfold acceptKept at h
  split at h
  · rename_i hk
    cases h
    unfold acceptForms at hf
    simp only at hf
    split at hf
    · rename_i linuxCreds' hl
      split at hf
      · cases hf
      · rename_i ht
        cases hf
        exact ⟨ht, hl, withMech_ok hc, rfl, hk, rfl⟩
    · cases hf
  · cases h

theorem exportDelegated_eq (arg : ArgAcceptSecContext) (r : AcceptStep X A) :
    exportDelegated (lib.contextLib port noFailure call) arg.retDelegCred r =
      match delegatedFor arg r with
      | none => .ok none
      | some cred => ((lib.contextLib port noFailure call).exportCred cred).map some := by
  unfold exportDelegated delegatedFor
  split <;> split <;> simp_all

/-- The same replies, but for a handle whose export has failed. -/
def SameButFailed (res plain : ResAcceptSecContext) : Prop :=
  ∃ ctx delegated, res = { plain with contextHandle := ctx, delegatedCredHandle := delegated } ∧
    (ctx = plain.contextHandle ∨ plain.contextHandle = some default) ∧
    (delegated = plain.delegatedCredHandle ∨ plain.delegatedCredHandle = some default)

theorem SameButFailed.refl (res : ResAcceptSecContext) : SameButFailed res res :=
  ⟨_, _, rfl, .inl rfl, .inl rfl⟩

theorem rel_map {ρ : Type} {R : ρ → ρ → Prop} {f g : GssxStatus → ρ} (h : ∀ s, R (f s) (g s)) :
    ∀ status : Option GssxStatus, Option.Rel R (status.map f) (status.map g)
  | none => .none
  | some s => .some (h s)

/-- **The two models of the handler agree.**  With enough memory they have a result for the same
    requests, those whose status can be displayed, and the results are the same up to what a
    failed export leaves of a handle. -/
theorem gpAcceptSecContext_agrees (arg : ArgAcceptSecContext) :
    Option.Rel SameButFailed (gpAcceptSecContext lib port noFailure call arg)
      (Server.gpAcceptSecContext (lib.contextLib port noFailure call) arg) := by
  unfold gpAcceptSecContext finish acceptCall acceptForms Server.gpAcceptSecContext
  by_cases ht : exportedContextType arg.callCtx.options = .expPartial
  · cases exportCredsType arg.callCtx.options <;> simp only [ht, if_true] <;>
      exact rel_map (fun _ => .refl _) _
  simp only [if_neg ht]
  rcases exportCredsType arg.callCtx.options with _ | linuxCreds
  · exact rel_map (fun _ => .refl _) _
  rcases acceptorCred (lib.contextLib port noFailure call) arg.credHandle with e | cred
  · exact rel_map (fun _ => .refl _) _
  have ha : (lib.contextLib port noFailure call).accept = lib.accept := rfl
  simp only [ha, withMech, Except.mapError, bind, Except.bind, acceptKept]
  generalize lib.accept none cred arg.inputToken.data arg.inputCb arg.retDelegCred = r
  by_cases hk : keep r.major = true
  case neg => simp only [hk]; exact rel_map (fun _ => .refl _) _
  generalize (if r.major = GSS_S_CONTINUE_NEEDED then .expPartial
    else exportedContextType arg.callCtx.options : ExpCtxType) = type
  have he : gpExportCtxIdToGssx (lib.contextLib port noFailure call) =
    gpExportCtxIdToGssx lib.toContextLib := rfl
  have ho : exportCredsToGssxOptions (lib.contextLib port noFailure call) =
    exportCredsToGssxOptions lib.toContextLib := rfl
  obtain ⟨hok, her⟩ := @exportCtxInto_builds _ _ _ _ lib type r.mech r.ctx
  simp only [hk, if_true, not_true, if_false, he, ho, exportDelegated_eq, fillAccept,
    acceptSteps, credsOptions_noFailure, bind, Filling.ofExcept, Filling.part, Filling.write,
    noFailure, tokenData]
  rcases hc : gpExportCtxIdToGssx lib.toContextLib type r.mech r.ctx with e | handle
  · obtain ⟨out, hou⟩ := her e hc
    simp only [hou]
    exact rel_map (fun _ => ⟨_, _, rfl, .inr rfl, .inl rfl⟩) _
  simp only [hok handle hc]
  cases delegatedFor arg r with
  | none =>
    cases exportCredsToGssxOptions lib.toContextLib linuxCreds r.srcName r.mech <;>
      exact rel_map (fun _ => .refl _) _
  | some cred' =>
    rcases hcr : gpExportGssxCred lib noFailure call.creds cred' default with ⟨x, out⟩
    simp only [fillDelegated, bind, Filling.ofExcept, Filling.part, GpLib.contextLib, hcr,
      Except.map, noFailure]
    cases x with
    | error e => exact rel_map (fun _ => ⟨_, _, rfl, .inl rfl, .inr rfl⟩) _
    | ok =>
      cases exportCredsToGssxOptions lib.toContextLib linuxCreds r.srcName r.mech <;>
        exact rel_map (fun _ => .refl _) _

end

end GssProxy.Daemon
