import GssProxy.Client.Accept
import GssProxy.Effect.Legs
import GssProxy.Server.Context

/-!
# Accepting a context over several legs

An application feeds the tokens of its peer one by one, to the local mechanism or to the daemon, and
passes back the context of the leg before.  Both client libraries drop the context of a leg that asks for
more, and the C daemon does not look at the context at all.

* `rustDaemon_refines_local`: the Rust daemon alone answers as the local mechanism.
* `accept_refines_iff`: through the clients only exchanges of one leg do.
-/

namespace GssProxy.Session

open Codec Gss Proto Client Effect Server

/-! ## Exchanges -/

/-- An acceptor with the daemon and the client around it, and what is assumed: the acceptor has its
    credential, export and import of a context are faithful, a complete context can be inquired, and
    a delegated credential can be exported. -/
structure Exchange (X A H : Type) where
  lib : ContextLib X A
  mechs : Except UInt32 (List Bytes)
  req : AcceptRequest
  cred : Option A
  call : CallContext H
  served : call.service.isSome ∧ call.creds.isSome
  cred_ok : acceptorCred lib req.acceptorCred = .ok cred
  export_import : ∀ x, ∃ token, lib.exportSec (some x) = .ok token ∧ lib.importSec token = .ok x
  exports_cred : ∀ a, ∃ g, lib.exportCred a = .ok g
  inquires : ∀ ctx token x,
    (lib.accept ctx cred token req.inputCb req.wantDeleg).major = GSS_S_COMPLETE →
    (lib.accept ctx cred token req.inputCb req.wantDeleg).ctx = some x →
    ∃ info, lib.inquire (some x) = .ok info

def Exchange.step {X A H : Type} (e : Exchange X A H) (ctx : Option X) (token : Bytes) :
    AcceptStep X A :=
  e.lib.accept ctx e.cred token e.req.inputCb e.req.wantDeleg

/-- What the C client and daemon need besides: the client knows the mechanism of a complete context,
    and the daemon can display the status of a leg that did not fail. -/
structure Exchange.Proxied {X A H : Type} (e : Exchange X A H) : Prop where
  knows_mech : ∀ ctx token, (e.step ctx token).major = GSS_S_COMPLETE →
    ∃ oid, gpmMechToStatic e.mechs ((e.step ctx token).mech.getD []) = .ok oid
  displayed : ∀ ctx token, keep (e.step ctx token).major = true →
    ∃ status, gpConvStatusToGssx e.lib (e.step ctx token).major (e.step ctx token).minor
      (e.step ctx token).mech = some status

/-- The status and token that an application sees. -/
abbrev Seen := Option UInt32 × Bytes

def asksForMore (seen : Seen) : Bool := seen.1 == some GSS_S_CONTINUE_NEEDED

section

variable {X A H : Type} (e : Exchange X A H)

/-- A leg of the local acceptor. -/
def localLeg (ctx : Option X) (token : Bytes) : Seen × Option X :=
  let r := e.step ctx token
  ((some r.major, r.output), r.ctx)

def exitMajor : Exit → Option UInt32
  | .status s => some s.major
  | .fault => none

def clientSees (r : GpmAccept) : Seen × Option GssxCtx :=
  ((exitMajor r.exit, r.output.outputToken.getD []), r.context)

/-- A leg through the C client and the C daemon. -/
def cLeg (context : Option GssxCtx) (token : Bytes) : Seen × Option GssxCtx :=
  let daemon (arg : ArgAcceptSecContext) : Except UInt32 ResAcceptSecContext :=
    match gpAcceptSecContext e.lib arg with
    | some res => .ok res
    | none => .error EIO
  clientSees (gpmAcceptSecContext e.mechs daemon context e.req token)

/-- A leg through the Rust client and the Rust daemon. -/
def rustLeg (context : Option GssxCtx) (token : Bytes) : Seen × Option GssxCtx :=
  clientSees (Client.acceptSecContext (fun arg => .ok (Server.acceptSecContext e.lib e.call arg))
    context e.req token)

/-- A leg that the Rust daemon is asked for directly. -/
def rustDaemonLeg (context : Option GssxCtx) (token : Bytes) : Seen × Option GssxCtx :=
  let res := Server.acceptSecContext e.lib e.call (acceptArg context e.req token)
  ((some res.status.majorStatus.toUInt32, (res.outputToken.map (·.data)).getD []),
    res.contextHandle)

/-- The context that a handle stands for. -/
def contextOf (context : Option GssxCtx) : Option X :=
  context.bind fun g => (importGssxCtx e.lib g).toOption

def GoodLeg (leg : Seen × Option X) : Prop :=
  (leg.1.1 = some GSS_S_COMPLETE ∨ leg.1.1 = some GSS_S_CONTINUE_NEEDED) ∧ leg.2.isSome

end

/-! ## What the daemons reply -/

section

variable {X A H : Type} {e : Exchange X A H} {x : X} {ctx : Option X}

theorem exportCtx_imports {lib : ContextLib X A} (lucid : Option X → Except GssError Bytes)
    (mech : Option Bytes) {type : ExpCtxType}
    (hf : ∃ token, lib.exportSec (some x) = .ok token ∧ lib.importSec token = .ok x)
    (ht : type = .expPartial ∨ type = .expDefault ∧ ∃ info, lib.inquire (some x) = .ok info) :
    ∃ handle, exportCtx lib lucid type mech (some x) = .ok handle ∧
      importGssxCtx lib handle = .ok x := by
  obtain ⟨token, he, hi⟩ := hf
  have hin : ∃ out, inquireForExport lib type (some x) = .ok out := by
    unfold inquireForExport
    rcases ht with rfl | ⟨rfl, info, hif⟩
    · cases lib.inquire (some x) with
      | ok info => exact ⟨_, rfl⟩
      | error err => exact ⟨_, rfl⟩
    · rw [hif]; exact ⟨_, rfl⟩
  obtain ⟨out, ho⟩ := hin
  unfold exportCtx
  rw [ho]
  rcases ht with rfl | ⟨rfl, -⟩
  · simp only [bind, Except.bind, he]; exact ⟨_, rfl, hi⟩
  · simp only [bind, Except.bind, he]; exact ⟨_, rfl, hi⟩

theorem exportDelegated_ok (want : Bool) (r : AcceptStep X A) :
    ∃ delegated, exportDelegated e.lib want r = .ok delegated := by
  unfold exportDelegated
  cases r.delegated with
  | none => exact ⟨none, rfl⟩
  | some cred =>
    obtain ⟨g, hg⟩ := e.exports_cred cred
    simp only
    split
    · exact ⟨some g, by rw [hg]; rfl⟩
    · exact ⟨none, rfl⟩

variable {token : Bytes}

theorem good_major (hg : GoodLeg (localLeg e ctx token)) :
    (e.step ctx token).major = GSS_S_COMPLETE ∨ (e.step ctx token).major = GSS_S_CONTINUE_NEEDED :=
  hg.1.imp Option.some.inj Option.some.inj

theorem good_ctx (hg : GoodLeg (localLeg e ctx token)) : ∃ x, (e.step ctx token).ctx = some x :=
  Option.isSome_iff_exists.mp hg.2

theorem contextOf_some {handle : GssxCtx} (hi : importGssxCtx e.lib handle = .ok x) :
    contextOf e (some handle) = some x := by
  unfold contextOf
  rw [Option.bind_some, hi]
  rfl

theorem export_type_ok {type : ExpCtxType}
    (hg : GoodLeg (localLeg e ctx token)) (hx : (e.step ctx token).ctx = some x)
    (ht : type = .expDefault) :
    (if (e.step ctx token).major = GSS_S_CONTINUE_NEEDED then .expPartial else type) = .expPartial ∨
      (if (e.step ctx token).major = GSS_S_CONTINUE_NEEDED then .expPartial else type) =
        .expDefault ∧ ∃ info, e.lib.inquire (some x) = .ok info := by
  split
  · exact .inl rfl
  · rename_i hmo
    have hm := (good_major hg).resolve_right hmo
    exact .inr ⟨ht, e.inquires ctx token x hm hx⟩

def RepliesWith (e : Exchange X A H) (r : AcceptStep X A) (x : X) (res : ResAcceptSecContext) :
    Prop :=
  res.status.majorStatus = r.major.toUInt64 ∧ res.status.mech.data = r.mech.getD [] ∧
    res.outputToken = some ⟨r.output⟩ ∧
    ∃ handle, res.contextHandle = some handle ∧ importGssxCtx e.lib handle = .ok x

theorem gpAcceptSecContext_good (he : e.Proxied) (context : Option GssxCtx)
    (hg : GoodLeg (localLeg e none token)) (hx : (e.step none token).ctx = some x) :
    let arg := acceptArg context e.req token
    ∃ res, gpAcceptSecContext e.lib arg = some res ∧ RepliesWith e (e.step none token) x res := by
  intro arg
  have hk : keep (e.step none token).major = true := by
    rcases good_major hg with h | h <;> rw [h] <;> rfl
  obtain ⟨status, hs⟩ := he.displayed none token hk
  obtain ⟨handle, hex, hi⟩ := exportCtx_imports e.lib.exportLucid (e.step none token).mech
    (e.export_import x) (export_type_ok hg hx rfl)
  obtain ⟨delegated, hd⟩ := exportDelegated_ok (e := e) e.req.wantDeleg (e.step none token)
  have ht : exportedContextType arg.callCtx.options = .expDefault := rfl
  have hc : exportCredsType arg.callCtx.options = some false := rfl
  have hcr : acceptorCred e.lib arg.credHandle = .ok e.cred := e.cred_ok
  have hst : e.lib.accept none e.cred arg.inputToken.data arg.inputCb arg.retDelegCred =
    e.step none token := rfl
  have hde : exportDelegated e.lib arg.retDelegCred (e.step none token) = .ok delegated := hd
  unfold gpAcceptSecContext
  simp only [ht, hc, hcr, hst, hk, hx, gpExportCtxIdToGssx, hex, hde, exportCredsToGssxOptions, hs]
  obtain ⟨_, _, rfl⟩ := statusWith_of_conv hs
  exact ⟨_, rfl, rfl, rfl, rfl, handle, rfl, hi⟩

def Importable (e : Exchange X A H) (context : Option GssxCtx) : Prop :=
  ∀ g ∈ context, ∃ x, importGssxCtx e.lib g = .ok x

theorem importable_none (e : Exchange X A H) : Importable e none := by
  intro g hg
  cases hg

variable {context : Option GssxCtx}

theorem acceptSecContext_good
    (hv : Importable e context) (hg : GoodLeg (localLeg e (contextOf e context) token))
    (hx : (e.step (contextOf e context) token).ctx = some x) :
    let arg := acceptArg context e.req token
    RepliesWith e (e.step (contextOf e context) token) x
      (Server.acceptSecContext e.lib e.call arg) := by
  intro arg
  have hm := good_major hg
  obtain ⟨handle, hex, hi⟩ := exportCtx_imports
    (fun _ => .error ⟨GSS_S_FAILURE, ENOSYS⟩) (e.step (contextOf e context) token).mech
    (e.export_import x) (export_type_ok hg hx rfl)
  obtain ⟨delegated, hd⟩ :=
    exportDelegated_ok (e := e) e.req.wantDeleg (e.step (contextOf e context) token)
  have hse : ¬ (e.call.service.isNone ∨ e.call.creds.isNone) := by
    obtain ⟨hs, hc⟩ := e.served
    rw [Option.isNone_eq_false_iff.mpr hs, Option.isNone_eq_false_iff.mpr hc]; decide
  have he : importExisting e.lib arg.contextHandle = .ok (contextOf e context) := by
    cases context with
    | none => rfl
    | some g =>
      obtain ⟨y, hy⟩ := hv g rfl
      simp [arg, acceptArg, importExisting, contextOf, hy, Except.map, Except.toOption]
  have her : isError (e.step (contextOf e context) token).major = false := by
    rcases hm with h | h <;> rw [h] <;> rfl
  have hcr : acceptorCred e.lib arg.credHandle = .ok e.cred := e.cred_ok
  have hst : e.lib.accept (contextOf e context) e.cred arg.inputToken.data arg.inputCb
    arg.retDelegCred = e.step (contextOf e context) token := rfl
  have hde : exportDelegated e.lib arg.retDelegCred
    (e.step (contextOf e context) token) = .ok delegated := hd
  have ht : exportedContextType arg.callCtx.options = .expDefault := rfl
  unfold Server.acceptSecContext acceptInner
  rw [if_neg hse]
  simp only [he, hcr, hst, her, ht, exportGssxCtx, hx, hde, bind, Except.bind]
  rw [hex]
  refine ⟨?_, rfl, rfl, handle, rfl, hi⟩
  rcases hm with h | h <;> rw [h] <;> rfl

/-! ## What the clients make of it -/

theorem getD_nonempty (token : Bytes) :
    (if token = [] then none else some token).getD [] = token := by
  split
  · rename_i h; exact h.symm
  · rfl

theorem cLeg_complete (he : e.Proxied) (hg : GoodLeg (localLeg e none token))
    (hm : (e.step none token).major = GSS_S_COMPLETE) :
    Prod.map id (contextOf e) (cLeg e none token) = localLeg e none token := by
  obtain ⟨x, hx⟩ := good_ctx hg
  obtain ⟨res, hr, hst, hme, ht, handle, hh, hi⟩ := gpAcceptSecContext_good he none hg hx
  obtain ⟨oid, ho⟩ := he.knows_mech none token hm
  have hz : res.status.majorStatus = 0 := by rw [hst, hm]; rfl
  have hs : ∃ oid, (if e.req.wantMech then gpmMechToStatic e.mechs res.status.mech.data
      else .ok []) = .ok oid := by
    rw [hme]
    split
    · exact ⟨oid, ho⟩
    · exact ⟨[], rfl⟩
  obtain ⟨oid', hs⟩ := hs
  unfold cLeg gpmAcceptSecContext
  simp only [hr, hz, hh, ht, hs]
  show ((some GSS_S_COMPLETE, Option.getD (if (e.step none token).output = [] then none else
    some (e.step none token).output) []), contextOf e (some handle)) = _
  rw [contextOf_some hi, getD_nonempty, ← hm, ← hx]
  rfl

theorem cLeg_more (he : e.Proxied) (hg : GoodLeg (localLeg e none token))
    (hm : (e.step none token).major = GSS_S_CONTINUE_NEEDED) : (cLeg e context token).2 = none := by
  obtain ⟨x, hx⟩ := good_ctx hg
  obtain ⟨res, hr, hs, -⟩ := gpAcceptSecContext_good he context hg hx
  rw [hm] at hs
  unfold cLeg gpmAcceptSecContext
  simp only [hr, hs]
  rfl

theorem rustLeg_complete (hg : GoodLeg (localLeg e none token))
    (hm : (e.step none token).major = GSS_S_COMPLETE) :
    Prod.map id (contextOf e) (rustLeg e none token) = localLeg e none token := by
  obtain ⟨x, hx⟩ := good_ctx hg
  obtain ⟨hs, -, ht, handle, hh, hi⟩ := acceptSecContext_good (importable_none e) hg hx
  have hz : (Server.acceptSecContext e.lib e.call
      (acceptArg none e.req token)).status.majorStatus = 0 := by
    rw [hs]
    show (e.step none token).major.toUInt64 = 0
    rw [hm]; rfl
  unfold rustLeg Client.acceptSecContext
  simp only [hz, hh, ht]
  show ((some GSS_S_COMPLETE, (e.step none token).output), contextOf e (some handle)) = _
  rw [contextOf_some hi, ← hm, ← hx]
  rfl

theorem rustLeg_more (hg : GoodLeg (localLeg e none token))
    (hm : (e.step none token).major = GSS_S_CONTINUE_NEEDED) : (rustLeg e none token).2 = none := by
  obtain ⟨x, hx⟩ := good_ctx hg
  obtain ⟨hs, -⟩ := acceptSecContext_good (importable_none e) hg hx
  have hs' : (Server.acceptSecContext e.lib e.call
      (acceptArg none e.req token)).status.majorStatus = 1 := by
    rw [hs]
    show (e.step none token).major.toUInt64 = 1
    rw [hm]; rfl
  unfold rustLeg Client.acceptSecContext
  simp only [hs']
  rfl

/-- **The Rust daemon refines the local acceptor**: handed back the context of each leg, it
    replies to a whole exchange as the local mechanism would. -/
theorem rustDaemon_refines_local (e : Exchange X A H) (tokens : List Bytes)
    (h : Completes asksForMore GoodLeg (localLeg e) none tokens) :
    (runLegs asksForMore (rustDaemonLeg e) none tokens).map (Prod.map id (contextOf e)) =
      runLegs asksForMore (localLeg e) none tokens := by
  refine runLegs_map_of_sim (fun context token hv hg => ?_) none (importable_none e) tokens h
  obtain ⟨x, hx⟩ := good_ctx hg
  obtain ⟨hs, -, ht, handle, hh, hi⟩ := acceptSecContext_good hv hg hx
  unfold rustDaemonLeg
  simp only [hs, ht, hh]
  constructor
  · show ((some _, _), contextOf e (some handle)) = _
    rw [contextOf_some hi, UInt32.toUInt32_toUInt64, ← hx]; rfl
  · rintro g ⟨⟩; exact ⟨x, hi⟩

theorem runLegs_eq_iff_one_leg (leg : Option GssxCtx → Bytes → Seen × Option GssxCtx)
    (hc : ∀ token, GoodLeg (localLeg e none token) →
      (e.step none token).major = GSS_S_COMPLETE →
      Prod.map id (contextOf e) (leg none token) = localLeg e none token)
    (hmo : ∀ token, GoodLeg (localLeg e none token) →
      (e.step none token).major = GSS_S_CONTINUE_NEEDED → (leg none token).2 = none)
    (tokens : List Bytes) (h : Completes asksForMore GoodLeg (localLeg e) none tokens) :
    (runLegs asksForMore leg none tokens).map (Prod.map id (contextOf e)) =
      runLegs asksForMore (localLeg e) none tokens ↔ tokens.length = 1 := by
  cases tokens with
  | nil => exact h.elim
  | cons token rest =>
    obtain ⟨hg, hr⟩ := h
    rcases good_major hg with hd | hm
    · have hs : asksForMore (localLeg e none token).1 = false := by
        show (some (e.step none token).major == _) = _
        rw [hd]; rfl
      rw [hs] at hr
      have hl := hc token hg hd
      have hs' : asksForMore (leg none token).1 = false := by rw [← hs, ← hl]; rfl
      subst hr
      unfold runLegs
      simp [hs, hs', hl]
    · have hgo : asksForMore (localLeg e none token).1 = true := by
        show (some (e.step none token).major == _) = _
        rw [hm]; rfl
      rw [if_pos hgo] at hr
      -- Another leg follows, and the context of this one is already gone.
      have hne : Prod.map id (contextOf e) (leg none token) ≠ localLeg e none token := by
        intro heq
        have hct := congrArg Prod.snd heq
        obtain ⟨x, hx⟩ := good_ctx hg
        rw [Prod.map_snd, hmo token hg hm] at hct
        have hn : none = some x := hct.trans hx
        cases hn
      refine iff_of_false (runLegs_head_ne hne) ?_
      cases rest with
      | nil => exact hr.elim
      | cons => simp

/-- **Which exchanges go through the proxy as they do locally**: in both implementations, those
    of one leg. -/
theorem accept_refines_iff (e : Exchange X A H) (he : e.Proxied) (tokens : List Bytes)
    (h : Completes asksForMore GoodLeg (localLeg e) none tokens) :
    ((runLegs asksForMore (cLeg e) none tokens).map (Prod.map id (contextOf e)) =
      runLegs asksForMore (localLeg e) none tokens ↔ tokens.length = 1) ∧
    ((runLegs asksForMore (rustLeg e) none tokens).map (Prod.map id (contextOf e)) =
      runLegs asksForMore (localLeg e) none tokens ↔ tokens.length = 1) :=
  ⟨runLegs_eq_iff_one_leg (cLeg e) (fun _ => cLeg_complete he) (fun _ => cLeg_more he) tokens h,
    runLegs_eq_iff_one_leg (rustLeg e) (fun _ => rustLeg_complete) (fun _ => rustLeg_more) tokens h⟩

end

def countingLib (n : Nat) : ContextLib Bytes Unit where
  accept ctx _ token _ _ :=
    let received := ctx.getD [] ++ token
    { major := if received.length < n then GSS_S_CONTINUE_NEEDED else GSS_S_COMPLETE
      minor := 0
      ctx := some received
      srcName := none
      mech := none
      output := token
      retFlags := 0
      delegated := none }
  inquire _ := .ok
    { mech := [], srcName := none, targName := none, lifetime := 0, flags := 0,
      locallyInitiated := false, isOpen := true }
  exportSec ctx := .ok (ctx.getD [])
  importSec token := .ok token
  exportLucid _ := .error ⟨GSS_S_UNAVAILABLE, 0⟩
  importCred _ := .ok none
  exportCred _ := .ok default
  acquireAcceptor := .ok none
  exportCredsLinux _ _ := .error ⟨GSS_S_FAILURE, ENOENT⟩
  syncOptions _ _ := []
  displayStatus _ _ _ := ⟨[[]], false⟩

def countingExchange (n : Nat) : Exchange Bytes Unit Unit where
  lib := countingLib n
  mechs := .ok [[]]
  req := default
  cred := none
  call := { (CallContext.anonymous "" : CallContext Unit) with
    service := some default, creds := some () }
  served := ⟨rfl, rfl⟩
  cred_ok := rfl
  export_import x := ⟨x, rfl, rfl⟩
  exports_cred _ := ⟨default, rfl⟩
  inquires _ _ _ _ _ := ⟨_, rfl⟩

theorem countingExchange_proxied (n : Nat) : (countingExchange n).Proxied where
  knows_mech _ _ _ := ⟨[], rfl⟩
  displayed _ _ _ := conv_of_displays _ _ fun _ _ => ⟨[], rfl⟩

theorem accept_refines_one_leg :
    (runLegs asksForMore (cLeg (countingExchange 1)) none [[7]]).map
        (Prod.map id (contextOf (countingExchange 1))) =
      runLegs asksForMore (localLeg (countingExchange 1)) none [[7]] ∧
    (runLegs asksForMore (rustLeg (countingExchange 1)) none [[7]]).map
        (Prod.map id (contextOf (countingExchange 1))) =
      runLegs asksForMore (localLeg (countingExchange 1)) none [[7]] := by
  have hc : Completes asksForMore GoodLeg (localLeg (countingExchange 1)) none [[7]] :=
    ⟨⟨.inl rfl, rfl⟩, rfl⟩
  have hi := accept_refines_iff (countingExchange 1) (countingExchange_proxied 1) [[7]] hc
  exact ⟨hi.1.mpr rfl, hi.2.mpr rfl⟩

theorem rustDaemon_refines_two_legs :
    (runLegs asksForMore (rustDaemonLeg (countingExchange 2)) none [[1], [2]]).map
        (Prod.map id (contextOf (countingExchange 2))) =
      [((some 1, [1]), some [1]), ((some 0, [2]), some [1, 2])] :=
  rustDaemon_refines_local (countingExchange 2) [[1], [2]]
    ⟨⟨.inr rfl, rfl⟩, ⟨.inl rfl, rfl⟩, rfl⟩

/-- Locally the second leg completes; through the proxy both come back empty-handed. -/
theorem accept_two_legs_lost :
    let e := countingExchange 2
    runLegs asksForMore (localLeg e) none [[1], [2]] =
        [((some 1, [1]), some [1]), ((some 0, [2]), some [1, 2])] ∧
      runLegs asksForMore (cLeg e) none [[1], [2]] = [((some 1, []), none), ((some 1, []), none)] ∧
      runLegs asksForMore (rustLeg e) none [[1], [2]] =
        [((some 1, []), none), ((some 1, []), none)] := by
  decide +kernel

end GssProxy.Session
