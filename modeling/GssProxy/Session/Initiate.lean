import GssProxy.Daemon.FailedReplies
import GssProxy.Session.Accept

/-!
# Initiating a context over several legs

An application gets a token from each leg and feeds in the answer of its peer, with the local mechanism
or, through the client library and the C daemon, with the service's credential and flags.  The token of a
leg that fails is not passed on.

* `initiate_refines_local`: when the two exchanges are the same.
-/

namespace GssProxy.Session

open Codec Gss Proto Client Effect Server
open Daemon (GpLib GpCall InitStep)

/-! ## Exchanges -/

/-- An initiator with the client and the daemon, which has its credential and its target. -/
structure Initiator (N X A H : Type) where
  lib : GpLib N X A H
  port : Port
  call : GpCall H
  mechs : Except UInt32 (List Bytes)
  credHandle : GssxCred
  cred : A
  targetName : GssxName
  target : N
  mech : Bytes
  req : InitRequest

def Initiator.step {N X A H : Type} (e : Initiator N X A H) (ctx : Option X)
    (token : Option Bytes) : InitStep X :=
  e.lib.init (some e.cred) ctx e.target (nonempty ⟨e.mech⟩)
    (filterFlags e.call.service e.req.reqFlags) e.req.timeReq e.req.inputCb (token.getD [])

/-- What is assumed of them: the daemon can import the credential and use it for the target, a leg
    that does not fail has a context, export and import of a context are faithful, a complete one
    can be inquired, the status of a leg can be displayed, and a client that wants the mechanism
    knows it. -/
structure Initiation (N X A H : Type) extends Initiator N X A H where
  cred_ok : Daemon.gpImportGssxCred lib Daemon.noFailure call.creds credHandle = .ok (some cred)
  target_ok : gssxToName lib.toHost targetName = .ok target
  cred_allowed : Daemon.gpCredAllowed lib call (some cred) target = .ok ()
  has_ctx : ∀ ctx token, keep (toInitiator.step ctx token).major = true →
    ∃ x, (toInitiator.step ctx token).ctx = some x
  export_import : ∀ x, ∃ token, lib.exportSec (some x) = .ok token ∧ lib.importSec token = .ok x
  inquires : ∀ ctx token x, (toInitiator.step ctx token).major = GSS_S_COMPLETE →
    (toInitiator.step ctx token).ctx = some x → ∃ info, lib.inquire (some x) = .ok info
  displayed : ∀ ctx token, ∃ status, gpConvStatusToGssx lib.toContextLib
    (toInitiator.step ctx token).major (toInitiator.step ctx token).minor (nonempty ⟨mech⟩) =
      some status
  knows_mech : req.wantMech = true → ∃ oid, gpmMechToStatic mechs mech = .ok oid

section

variable {N X A H : Type} (e : Initiation N X A H)

/-- A leg of the local initiator. -/
def initiateLeg (ctx : Option X) (token : Option Bytes) : Seen × Option X :=
  let r := e.step ctx token
  ((some r.major, r.output), r.ctx)

def initDaemon (arg : ArgInitSecContext) : Except UInt32 ResInitSecContext :=
  match Daemon.gpInitSecContext e.lib e.port Daemon.noFailure e.call arg with
  | some res => .ok res
  | none => .error EIO

/-- A leg through the C client and the C daemon. -/
def proxyInitiateLeg (context : Option GssxCtx) (token : Option Bytes) : Seen × Option GssxCtx :=
  let r := gpmInitSecContext e.mechs (initDaemon e) (some e.credHandle) context
    (some e.targetName) e.mech { e.req with inputToken := token }
  ((exitMajor r.exit, r.output.outputToken.getD []), r.context)

end

/-- Without the token of a failure. -/
def withheld (seen : Seen) : Seen :=
  if seen.1.any keep then seen else (seen.1, [])

theorem asksForMore_withheld (seen : Seen) : asksForMore (withheld seen) = asksForMore seen := by
  unfold withheld asksForMore
  split <;> rfl

/-! ## One leg in the daemon -/

section

variable {N X A H : Type} {e : Initiation N X A H} {status : GssxStatus}

def Holds (e : Initiation N X A H) (context : Option GssxCtx) (ctx : Option X) : Prop :=
  importExisting e.lib.toContextLib context = .ok ctx

def legArg (e : Initiation N X A H) (context : Option GssxCtx) (token : Option Bytes) :
    ArgInitSecContext :=
  initArg (some e.credHandle) context (some e.targetName) e.mech
    { e.req with inputToken := token }

theorem elim_data (token : Option Bytes) :
    (token.map Opaque.mk).elim [] Opaque.data = token.getD [] := by
  cases token <;> rfl

variable {context : Option GssxCtx} {ctx : Option X}

theorem initCall_leg (token : Option Bytes) (hc : Holds e context ctx) :
    Daemon.initCall e.lib e.port Daemon.noFailure e.call (legArg e context token) =
      Daemon.initKept .expDefault (nonempty ⟨e.mech⟩) (some e.cred) (e.step ctx token) := by
  have hh : Daemon.initHandles e.lib Daemon.noFailure e.call (legArg e context token) =
      .ok (.expDefault, ctx, some e.cred) := by
    have hi : Daemon.importGiven e.lib Daemon.noFailure e.call (some e.credHandle) =
        .ok (some e.cred) := e.cred_ok
    show (do
      let ctx ← importExisting e.lib.toContextLib context
      let given ← Daemon.importGiven e.lib Daemon.noFailure e.call (some e.credHandle)
      return (ExpCtxType.expDefault, ctx, given)) = _
    rw [hc, hi]; rfl
  have ht : Daemon.initTarget e.lib (some e.targetName) = .ok e.target := by
    unfold Daemon.initTarget
    simp only [e.target_ok]; rfl
  unfold Daemon.initCall
  rw [hh]
  show (do
    let target ← Daemon.initTarget e.lib (some e.targetName)
    Daemon.initWith e.lib e.port Daemon.noFailure e.call (legArg e context token) .expDefault ctx
      (some e.cred) target) = _
  rw [ht]
  show (do
    Daemon.withMech (nonempty ⟨e.mech⟩) (Daemon.gpCredAllowed e.lib e.call (some e.cred) e.target)
    Daemon.initKept .expDefault (nonempty ⟨e.mech⟩) (some e.cred)
      (e.lib.init (some e.cred) ctx e.target (nonempty ⟨e.mech⟩)
        (filterFlags e.call.service e.req.reqFlags.toUInt64.toUInt32)
        e.req.timeReq.toUInt64.toUInt32 e.req.inputCb ((token.map Opaque.mk).elim [] Opaque.data)))
    = _
  rw [e.cred_allowed, UInt32.toUInt32_toUInt64, UInt32.toUInt32_toUInt64, elim_data]
  rfl

def legType (r : InitStep X) : ExpCtxType :=
  if r.major = GSS_S_CONTINUE_NEEDED then .expPartial else .expDefault

theorem legType_ok {token : Option Bytes} {x : X}
    (hk : keep (e.step ctx token).major = true) (hx : (e.step ctx token).ctx = some x) :
    legType (e.step ctx token) = .expPartial ∨
      legType (e.step ctx token) = .expDefault ∧ ∃ info, e.lib.inquire (some x) = .ok info := by
  unfold legType
  split
  · exact .inl rfl
  rename_i hmo
  have hm : (e.step ctx token).major = GSS_S_COMPLETE := by simpa [keep, hmo] using hk
  exact .inr ⟨rfl, e.inquires ctx token x hm hx⟩

theorem exportCtxInto_leg {token : Option Bytes} (hk : keep (e.step ctx token).major = true) :
    ∃ handle, Daemon.exportCtxInto e.lib Daemon.noFailure (legType (e.step ctx token))
        (nonempty ⟨e.mech⟩) (e.step ctx token).ctx default = (.ok (), handle) ∧
      Holds e (some handle) (e.step ctx token).ctx := by
  obtain ⟨x, hx⟩ := e.has_ctx ctx token hk
  obtain ⟨handle, he, hi⟩ := exportCtx_imports e.lib.exportLucid (nonempty ⟨e.mech⟩)
    (e.export_import x) (legType_ok hk hx)
  refine ⟨handle, ?_, ?_⟩
  · rw [hx]
    exact (Daemon.exportCtxInto_builds _ _ _).1 handle he
  · show (importGssxCtx e.lib.toContextLib handle).map some = .ok _
    rw [hx, hi]; rfl

theorem initToken_run (output : Bytes) (res : ResInitSecContext) (hr : res.outputToken = none) :
    Daemon.initToken Daemon.noFailure output res =
      (.ok (), { res with outputToken := if output = [] then none else some ⟨output⟩ }) := by
  unfold Daemon.initToken
  split
  · rw [← hr]; rfl
  · rfl

structure LegStatus (e : Initiation N X A H) (r : InitStep X) (status : GssxStatus) : Prop where
  made : Daemon.endingStatus e.lib Daemon.noFailure ⟨r.major, r.minor, nonempty ⟨e.mech⟩⟩ =
    some status
  major : status.majorStatus.toUInt32 = r.major
  mech : status.mech.data = e.mech

theorem legStatus (e : Initiation N X A H) (ctx : Option X) (token : Option Bytes) :
    ∃ status, LegStatus e (e.step ctx token) status := by
  obtain ⟨status, hs⟩ := e.displayed ctx token
  obtain ⟨_, _, rfl⟩ := statusWith_of_conv hs
  refine ⟨_, hs, UInt32.toUInt32_toUInt64 _, ?_⟩
  unfold nonempty
  split
  · rename_i he; exact he.symm
  · rfl

def legReply (e : Initiation N X A H) (r : InitStep X) (status : GssxStatus) (handle : GssxCtx) :
    ResInitSecContext :=
  { status
    contextHandle := some handle
    outputToken := if r.output = [] then none else some ⟨r.output⟩
    options := e.lib.syncOptions (some e.credHandle) (some e.cred) }

theorem initDaemon_kept {token : Option Bytes} (hs : LegStatus e (e.step ctx token) status)
    (hct : Holds e context ctx) (hk : keep (e.step ctx token).major = true) :
    ∃ handle, Holds e (some handle) (e.step ctx token).ctx ∧
      initDaemon e (legArg e context token) = .ok (legReply e (e.step ctx token) status handle) := by
  obtain ⟨handle, he, hh⟩ := exportCtxInto_leg hk
  refine ⟨handle, hh, ?_⟩
  have hc : Daemon.initCall e.lib e.port Daemon.noFailure e.call (legArg e context token) =
      .ok ⟨legType (e.step ctx token), nonempty ⟨e.mech⟩, some e.cred, e.step ctx token⟩ := by
    rw [initCall_leg token hct]
    exact if_pos hk
  have hf : Daemon.fillInit e.lib Daemon.noFailure (legArg e context token)
      ⟨legType (e.step ctx token), nonempty ⟨e.mech⟩, some e.cred, e.step ctx token⟩ default =
      (.ok (), legReply e (e.step ctx token) default handle) := by
    refine (Filling.ofExcept_ok_bind ()).trans ?_
    refine (Filling.bind_ok (Filling.part_ok he)).trans ?_
    exact Filling.bind_ok (initToken_run _ _ rfl)
  unfold initDaemon Daemon.gpInitSecContext Daemon.finish
  rw [hc]
  simp only [hf, hs.made]
  rfl

theorem initDaemon_failed {token : Option Bytes} (hs : LegStatus e (e.step ctx token) status)
    (hct : Holds e context ctx) (hk : keep (e.step ctx token).major = false) :
    initDaemon e (legArg e context token) = .ok { (default : ResInitSecContext) with status } := by
  have hc : Daemon.initCall e.lib e.port Daemon.noFailure e.call (legArg e context token) =
      .error (.status ⟨(e.step ctx token).major, (e.step ctx token).minor, nonempty ⟨e.mech⟩⟩) := by
    rw [initCall_leg token hct]
    exact if_neg (Bool.eq_false_iff.mp hk)
  unfold initDaemon Daemon.gpInitSecContext Daemon.finish
  rw [hc]
  simp only [hs.made]
  rfl

/-! ## One leg through the client -/

theorem LegStatus.knows_mech {r : InitStep X} (h : LegStatus e r status) :
    ∃ oid, (if e.req.wantMech then gpmMechToStatic e.mechs status.mech.data else .ok []) =
      .ok oid := by
  rw [h.mech]
  split
  · rename_i hw; exact e.knows_mech hw
  · exact ⟨[], rfl⟩

theorem filter_token (output : Bytes) :
    (((if output = [] then none else some (⟨output⟩ : GssxBuffer)).map (·.data)).filter
      (· ≠ [])).getD [] = output := by
  by_cases he : output = []
  · rw [he]; rfl
  · simp [Option.filter, he]

theorem proxyInitiateLeg_kept (token : Option Bytes)
    (hc : Holds e context ctx) (hk : keep (e.step ctx token).major = true) :
    ∃ handle, Holds e (some handle) (e.step ctx token).ctx ∧ proxyInitiateLeg e context token =
        ((some (e.step ctx token).major, (e.step ctx token).output), some handle) := by
  obtain ⟨status, hs⟩ := legStatus e ctx token
  obtain ⟨handle, hho, hr⟩ := initDaemon_kept hs hc hk
  refine ⟨handle, hho, ?_⟩
  obtain ⟨oid, ho⟩ := hs.knows_mech
  have hm := hs.major
  obtain ⟨he, hh, ht⟩ := gpmInitSecContext_kept hr ho ((congrArg keep hm).trans hk) rfl
  unfold proxyInitiateLeg
  simp only [he, hh, ht]
  refine Prod.ext (Prod.ext ?_ ?_) rfl
  · exact congrArg some hm
  · exact filter_token (e.step ctx token).output

theorem proxyInitiateLeg_failed (token : Option Bytes)
    (hc : Holds e context ctx) (hk : keep (e.step ctx token).major = false) :
    proxyInitiateLeg e context token = ((some (e.step ctx token).major, []), none) := by
  obtain ⟨status, hs⟩ := legStatus e ctx token
  have hr := initDaemon_failed hs hc hk
  obtain ⟨oid, ho⟩ := hs.knows_mech
  have hm := hs.major
  obtain ⟨he, hh, ht⟩ := gpmInitSecContext_dropped hr ho ((congrArg keep hm).trans hk)
  unfold proxyInitiateLeg
  simp only [he, hh, ht]
  exact Prod.ext (Prod.ext (congrArg some hm) rfl) rfl

/-- **One leg.**  With a handle for the context, the client sees what the local initiator shows, but
    no token of a failure, and is left with a handle for the next context. -/
theorem proxyInitiateLeg_refines (token : Option Bytes) (hc : Holds e context ctx) :
    (proxyInitiateLeg e context token).1 = withheld (initiateLeg e ctx token).1 ∧
      (asksForMore (initiateLeg e ctx token).1 = true →
        Holds e (proxyInitiateLeg e context token).2 (initiateLeg e ctx token).2) := by
  unfold initiateLeg withheld
  cases hk : keep (e.step ctx token).major with
  | true =>
    obtain ⟨handle, hh, hl⟩ := proxyInitiateLeg_kept token hc hk
    rw [hl]
    refine ⟨?_, fun _ => hh⟩
    simp [hk]
  | false =>
    have hl := proxyInitiateLeg_failed token hc hk
    rw [hl]
    refine ⟨?_, fun hmo => ?_⟩
    · simp [hk]
    · have hm : (e.step ctx token).major = GSS_S_CONTINUE_NEEDED := by simpa [asksForMore] using hmo
      rw [hm] at hk; cases hk

/-- **Initiating through the proxy refines initiating locally.**  On every leg up to the first one
    that completes or fails, the application sees the major status and the token of the local
    initiator with the service's flags, but for the token of a leg that fails, which it does not
    see. -/
theorem initiate_refines_local (e : Initiation N X A H) (tokens : List (Option Bytes)) :
    (runLegs asksForMore (proxyInitiateLeg e) none tokens).map Prod.fst =
      (runLegs asksForMore (initiateLeg e) none tokens).map fun leg => withheld leg.1 :=
  runLegs_outputs_of_sim asksForMore_withheld
    (fun _ _ token hctx => proxyInitiateLeg_refines token hctx) none none rfl tokens

end

/-! ## A mechanism that reports its failure -/

/-- A mechanism of two legs; an answer that starts with 0 makes it fail, with a token. -/
def reportingStep (ctx : Option Unit) (token : Bytes) : InitStep Unit :=
  if ctx = none then ⟨GSS_S_CONTINUE_NEEDED, 0, some (), [1]⟩
  else if token.head? = some 0 then ⟨GSS_S_FAILURE, 0, none, [9]⟩
  else ⟨GSS_S_COMPLETE, 0, some (), []⟩

theorem reportingStep_ctx (ctx : Option Unit) (token : Bytes)
    (hk : keep (reportingStep ctx token).major = true) :
    ∃ x, (reportingStep ctx token).ctx = some x := by
  revert hk
  unfold reportingStep
  split
  · exact fun _ => ⟨(), rfl⟩
  · split
    · exact nofun
    · exact fun _ => ⟨(), rfl⟩

def reportingLib : GpLib Unit Unit Unit Unit :=
  { Daemon.forwardingLib with
    importSec := fun _ => .ok ()
    importName := fun _ _ => .ok ()
    init := fun _ ctx _ _ _ _ _ token => reportingStep ctx token }

def reportingInitiation : Initiation Unit Unit Unit Unit where
  lib := reportingLib
  port := Daemon.plainPort
  call := Daemon.webCall
  mechs := .ok [KRB5_MECH_OID]
  credHandle := default
  cred := ()
  targetName := default
  target := ()
  mech := KRB5_MECH_OID
  req := default
  cred_ok := rfl
  target_ok := rfl
  cred_allowed := rfl
  has_ctx ctx token := reportingStep_ctx ctx (token.getD [])
  export_import _ := ⟨[1], rfl, rfl⟩
  inquires _ _ _ _ _ := ⟨_, rfl⟩
  displayed _ _ := conv_of_displays _ _ fun _ _ => ⟨[], rfl⟩
  knows_mech _ := ⟨KRB5_MECH_OID, rfl⟩

/-- **The token of a failure is lost.**  The second leg fails; the local initiator has a token for
    its peer, the client has none. -/
theorem failure_token_lost :
    (runLegs asksForMore (initiateLeg reportingInitiation) none [none, some [0]]).map Prod.fst =
        [(some GSS_S_CONTINUE_NEEDED, [1]), (some GSS_S_FAILURE, [9])] ∧
      (runLegs asksForMore (proxyInitiateLeg reportingInitiation) none [none, some [0]]).map
          Prod.fst = [(some GSS_S_CONTINUE_NEEDED, [1]), (some GSS_S_FAILURE, [])] := by
  decide +kernel

end GssProxy.Session
