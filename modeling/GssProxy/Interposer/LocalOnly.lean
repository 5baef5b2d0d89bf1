import GssProxy.Interposer.Process

/-!
# A process without the daemon

Under `LOCAL_ONLY` no credential and no context gets a remote part.  But an imported name is always
remote, and `gssi_localname` lets the daemon map it.

* `local_only_never_contacts`: otherwise no request is sent.
-/

namespace GssProxy.Interposer

open Codec Gss Proto Client Effect GssProxy.System
open Server (GssError KRB5_MECH_OID)

variable {N C X : Type}

/-! ## What is kept -/

structure Handles.NoRemote (s : Handles N C X) : Prop where
  creds : s.creds.All fun cred => cred.remote = none
  ctxs : s.ctxs.All fun ctx => ctx.remote = none

structure Quiet (m : Calls Contact (Ended (Handles N C X))) : Prop where
  log : m.log = []
  after : m.value.after.NoRemote

theorem Quiet.of_quietly {m : Calls Contact (Ended (Handles N C X))}
    (hm : m.Quietly fun e => e.after.NoRemote) : Quiet m :=
  ⟨hm.log, hm.value⟩

def Silent {κ α : Type} (contacts : κ → List Contact) (m : Calls κ α) : Prop :=
  m.Always fun k => contacts k = []

theorem Silent.quietly {κ α : Type} {contacts : κ → List Contact} {Q : α → Prop} {m : Calls κ α}
    (hm : Silent contacts m) (hv : Q m.value) : (m.flatMapLog contacts).Quietly Q :=
  ⟨List.flatMap_eq_nil_iff.mpr hm, hv⟩

theorem gpmReleaseCred_quiet {cred : Option GssxCred} (h : cred = none) :
    (gpmReleaseCred cred).Quietly fun _ => True := by
  subst h
  exact ⟨rfl, trivial⟩

theorem gpmDeleteSecContext_quiet {ctx : Option GssxCtx} (h : ctx = none) :
    (gpmDeleteSecContext ctx).Quietly fun _ => True := by
  subst h
  exact .pure trivial

variable {context : Option (CtxHandle X)}

theorem getD_remote (hc : ∀ ctx, context = some ctx → ctx.remote = none) :
    (context.getD { remote := none, localCtx := none }).remote = none := by
  cases context with
  | none => rfl
  | some ctx => exact hc ctx rfl

variable {port : Port} {s : Handles N C X}

def NameCall.Avoids (names : Table (NameHandle N)) : NameCall N → Prop
  | .localname _ name _ _ _ => ∀ handle, names.get name = some handle → handle.remote = none
  | _ => True

theorem gssiLocalname_quiet {conv : ToLocal N} {mech : Option Bytes} {daemon : UInt32 × UInt32}
    {answer : UInt32} {name : NameHandle N} (hn : name.remote = none) :
    (gssiLocalname port conv mech daemon answer name).Quietly fun _ => True := by
  obtain ⟨mechType, remote, localName⟩ := name
  cases hn
  cases localName with
  | none | some _ => exact .pure trivial

theorem NameCall.perform_quiet {names : Table (NameHandle N)} {call : NameCall N}
    (ha : call.Avoids names) : (call.perform port names).Quietly fun _ => True := by
  cases call with
  | importNameByMech | unconverted => exact .pure trivial
  | localname =>
    simp only [NameCall.perform]
    split
    · exact .pure trivial
    · rename_i name hg
      exact (gssiLocalname_quiet (ha name hg)).bind fun _ _ => .pure trivial
  | compareName =>
    simp only [NameCall.perform]
    split
    · exact .pure trivial
    · cases port with
      | c | rust => exact .pure trivial
  | _ =>
    simp only [NameCall.perform]
    split <;> exact .pure trivial

/-! ## Acquisition -/

structure AcquiresLocally (m : Calls (CredStep N) (AcquireResult C)) : Prop where
  silent : Silent CredStep.contacts m
  cred : ∀ cred, m.value.cred = some cred → cred.remote = none

section

variable {side : AcquireSide} {w : CredWorld N C} {req : CredRequest}
  {name : Option (NameHandle N)} {out : OutCred C}

theorem AcquiresLocally.failed {major minor : UInt32} :
    AcquiresLocally (pure (.failed major minor) : Calls (CredStep N) (AcquireResult C)) where
  silent := .pure _
  cred := by intro cred hc; cases hc

theorem finishAcquire_cred {status saved : UInt32 × UInt32} (ho : out.remote = none) :
    ∀ cred, (finishAcquire status saved out).cred = some cred → cred.remote = none :=
  Table.forall_ite fun _ => ho

theorem localName_silent : Silent CredStep.contacts (localName side w name) := by
  unfold localName
  split
  · exact .pure _
  split
  · refine Calls.always_call_bind.mpr ⟨rfl, ?_⟩
    split <;> exact .pure _
  · exact .pure _

theorem acquireLocal_silent : Silent CredStep.contacts (acquireLocal side w req name out) := by
  unfold acquireLocal
  split
  · refine Calls.always_bind.mpr ⟨localName_silent, ?_⟩
    split
    · exact .pure _
    · exact Calls.always_call_bind.mpr ⟨rfl, .pure _⟩
  · exact .pure _

theorem acquireLocal_remote : (acquireLocal side w req name out).value.out.remote = out.remote := by
  unfold acquireLocal
  split
  · rw [Calls.value_bind]
    split <;> rfl
  · rfl

theorem acquireLocal_locally (ho : out.remote = none) :
    AcquiresLocally (acquireLocal side w req name out >>= fun attempt =>
      pure (finishAcquire (attempt.major, attempt.minor) (GSS_S_COMPLETE, 0) attempt.out)) where
  silent := Calls.always_bind.mpr ⟨acquireLocal_silent, .pure _⟩
  cred := finishAcquire_cred (acquireLocal_remote.trans ho)

theorem acquireInOrder_locally {input : Option GssxCred} (ho : out.remote = none) :
    AcquiresLocally (acquireInOrder side w .localOnly req input name out) := by
  unfold acquireInOrder
  simp only [true_or, or_true, if_true]
  exact acquireLocal_locally ho

theorem acquireCredFrom_locally {wanted : Bool} :
    AcquiresLocally (acquireCredFrom side w .localOnly req name wanted) := by
  cases wanted with
  | false => exact AcquiresLocally.failed
  | true => exact acquireInOrder_locally rfl

theorem acquireWithPassword_locally {mechs : Option (List Bytes)} {wanted : Bool}
    {answer : Option N → Outcome (Option C)} :
    AcquiresLocally (acquireWithPassword side w .localOnly mechs name wanted answer) := by
  unfold acquireWithPassword
  split
  · exact .failed
  · exact .failed
  · exact .failed
  · split
    · exact .failed
    constructor
    · refine Calls.always_bind.mpr ⟨localName_silent, ?_⟩
      split <;> exact .pure _
    · rw [Calls.value_bind]
      split
      · intro cred hc; cases hc
      · exact finishAcquire_cred rfl

theorem acquireImpersonating_locally {impersonator : Option (OutCred C)} {wanted : Bool}
    {answer : Option C → CredRequest → Option N → Outcome (Option C)} :
    AcquiresLocally
      (acquireImpersonating side w .localOnly req answer impersonator name wanted) := by
  unfold acquireImpersonating
  split
  · exact .failed
  · exact .failed
  · simp only [impersonateInOrder, true_or, or_true, if_true]; exact acquireLocal_locally rfl

theorem AcquiresLocally.acquired {m : Calls (CredStep N) (AcquireResult C)} {r : Option Nat}
    (hm : AcquiresLocally m) (hs : s.NoRemote) :
    (acquired side w s r m).Quietly fun e => e.after.NoRemote where
  log := List.flatMap_eq_nil_iff.mpr hm.silent
  value := ⟨hs.creds.add hm.cred, hs.ctxs⟩

end

/-! ## Default credentials -/

section

variable {side : DefSide} {w : CredWorld N C} {req : DefRequest N}

theorem getLocalDefCreds_silent {cred : OutCred C} :
    Silent CredStep.contacts (getLocalDefCreds w req cred) := by
  unfold getLocalDefCreds
  split
  · exact Calls.always_call_bind.mpr ⟨rfl, .pure _⟩
  · exact .pure _

theorem getLocalDefCreds_remote {cred : OutCred C} :
    (getLocalDefCreds w req cred).value.2.remote = cred.remote := by
  unfold getLocalDefCreds
  split <;> rfl

theorem defCreds_localOnly :
    defCreds side w req .localOnly none =
      (getLocalDefCreds w req (OutCred.new true none) >>= fun reply =>
        pure (some (finishDefCreds side none reply.1 (GSS_S_COMPLETE, 0) reply.2))) := by
  unfold defCreds
  simp only [true_or, or_true, if_true]
  rfl

theorem defCreds_silent : Silent CredStep.contacts (defCreds side w req .localOnly none) := by
  rw [defCreds_localOnly]
  exact Calls.always_bind.mpr ⟨getLocalDefCreds_silent, .pure _⟩

def LocalSlot (d : Option (DefCreds C)) : Prop :=
  ∀ e cred, d = some e → e.slot = some cred → cred.remote = none

theorem defCreds_slot : LocalSlot (defCreds side w req .localOnly none).value := by
  intro d cred hd hc
  rw [defCreds_localOnly] at hd
  cases hd
  exact Table.forall_ite_not (P := (·.remote = none)) (fun _ => getLocalDefCreds_remote) cred hc

end

theorem inquireCred_quiet {w : CredWorld N C} {interposed : Option (List Bytes)}
    {ask : OutCred C → UInt32 × Option (NameHandle N)} {cred : Option (OutCred C)} :
    (inquireCred port w interposed .localOnly ask cred).Quietly fun _ => True := by
  unfold inquireCred
  split
  · exact .pure trivial
  refine (defCreds_silent.quietly defCreds_slot).bind fun d hd => ?_
  split
  · exact .pure trivial
  split
  · split
    · exact .pure trivial
    · rename_i cred
      exact (gpmReleaseCred_quiet (hd _ cred rfl rfl)).bind fun _ _ => .pure trivial
    · exact .pure trivial
  · exact .pure trivial

theorem setCredOption_remote {setLocal : C → CredObject → Except GssError C}
    {object : CredObject} {cred : OutCred C} (hc : cred.remote = none) :
    (setCredOption port setLocal object cred).2.remote = none := by
  obtain ⟨⟨remote, localCred⟩, defaultCreds, ccache⟩ := cred
  cases hc
  have hk : ∀ handle, gssiSetCredOption setLocal ⟨none, localCred⟩ object = .ok handle →
      handle.remote = none := by
    intro handle hs
    cases localCred with
    | none => cases hs
    | some known =>
      simp only [gssiSetCredOption] at hs
      cases hl : setLocal known object with
      | error e => rw [hl] at hs; cases hs
      | ok known =>
        rw [hl] at hs
        cases hs; rfl
  unfold setCredOption
  split
  · rename_i heq; cases heq
  · split
    · rfl
    · rename_i handle hs; exact hk handle hs

theorem CredCall.perform_quiet (call : CredCall N C) (hs : s.NoRemote) :
    (call.perform port .localOnly s).Quietly fun e => e.after.NoRemote := by
  cases call with
  | acquire =>
    simp only [CredCall.perform]
    split
    · exact .pure hs
    · exact acquireCredFrom_locally.acquired hs
  | acquireWithPassword => exact acquireWithPassword_locally.acquired hs
  | acquireImpersonateName => exact acquireImpersonating_locally.acquired hs
  | inquire => exact inquireCred_quiet.bind fun _ _ => .pure ⟨hs.creds, hs.ctxs⟩
  | inquireByOid => exact .pure hs
  | setOption =>
    simp only [CredCall.perform]
    split
    · exact .pure hs
    rename_i cred hg
    exact .pure ⟨hs.creds.put (Table.forall_some (setCredOption_remote (hs.creds.get hg))), hs.ctxs⟩
  | store =>
    simp only [CredCall.perform]
    split <;> exact .pure hs
  | release =>
    simp only [CredCall.perform]
    split
    · exact .pure hs
    · rename_i cred hg
      refine (gpmReleaseCred_quiet (hs.creds.get hg)).bind fun _ _ => ?_
      exact .pure ⟨hs.creds.put (by simp), hs.ctxs⟩
  | exportCred => exact .pure hs
  | importByMech answer =>
    simp only [CredCall.perform]
    split
    · exact .pure ⟨hs.creds.add (Table.forall_some rfl), hs.ctxs⟩
    · exact .pure hs

/-! ## Initiation -/

section

variable {side : Side N} {w : World N C X} {mech : Bytes} {req : InitRequest}
  {cred : CredHandle C} {ctx : CtxHandle X} {name : NameHandle N}

structure Leg.KeepsRemote (leg : Leg N C X) (cred : CredHandle C) (ctx : CtxHandle X) : Prop where
  cred : leg.cred.remote = cred.remote
  ctx : leg.ctx.remote = ctx.remote

theorem initCtxLocal_silent :
    Silent InitCall.contacts (initCtxLocal side w mech req cred ctx name) := by
  unfold initCtxLocal
  split
  · exact .pure _
  · exact Calls.always_call_bind.mpr ⟨rfl, .pure _⟩

theorem initCtxLocal_keeps :
    (initCtxLocal side w mech req cred ctx name).value.KeepsRemote cred ctx := by
  unfold initCtxLocal
  split <;> exact ⟨rfl, rfl⟩

structure InitiatesLocally (m : Calls (InitCall C) (InitResult N C X)) : Prop where
  silent : Silent InitCall.contacts m
  context : ∀ ctx, m.value.context = some ctx → ctx.remote = none
  cred : ∀ cred, m.value.cred = some cred → cred.remote = none

theorem InitiatesLocally.quietly {m : Calls (InitCall C) (InitResult N C X)}
    (hm : InitiatesLocally m) :
    (m.flatMapLog InitCall.contacts).Quietly fun r =>
      (∀ ctx, r.context = some ctx → ctx.remote = none) ∧
        ∀ cred, r.cred = some cred → cred.remote = none :=
  hm.silent.quietly ⟨hm.context, hm.cred⟩

variable {claimant : Option (CredHandle C)}

theorem finish_locally {leg : Leg N C X}
    (hl : leg.KeepsRemote cred ctx) (hcr : cred.remote = none) (hct : ctx.remote = none) :
    InitiatesLocally (pure (finish claimant leg)) := by
  refine ⟨.pure _, ?_, ?_⟩
  · exact Table.forall_ite_not fun _ => hl.ctx.trans hct
  · intro c hc
    have hg : claimant.map (fun _ => leg.cred) = some c := hc
    obtain ⟨_, -, heq⟩ := Option.map_eq_some_iff.mp hg
    cases heq
    exact hl.cred.trans hcr

theorem establish_locally (hc : cred.remote = none) (hct : ctx.remote = none) :
    InitiatesLocally (establish side w mech req .localOnly cred ctx name >>= fun leg =>
      pure (finish claimant leg)) := by
  rw [establish_localOnly_eq]
  have he : InitiatesLocally
      (pure (finish claimant (initCtxLocal side w mech req cred ctx name).value)) :=
    finish_locally initCtxLocal_keeps hc hct
  exact ⟨Calls.always_bind.mpr ⟨initCtxLocal_silent, .pure _⟩, he.context, he.cred⟩

theorem initEntry_locally {target : Option (NameHandle N)} {mech : Option Bytes}
    (hc : ∀ cred, claimant = some cred → cred.remote = none)
    (hco : ∀ ctx, context = some ctx → ctx.remote = none) :
    InitiatesLocally (initEntry side w .localOnly claimant context target mech req) := by
  have hr : ∀ major, InitiatesLocally (pure
      { exit := .mk major 0, context, cred := claimant, target, output := default } :
        Calls (InitCall C) (InitResult N C X)) :=
    fun major => ⟨.pure _, hco, hc⟩
  have hct := getD_remote hco
  unfold initEntry
  split
  · exact hr _
  split
  · exact hr _
  split
  · exact hr _
  split
  · rename_i cred
    have hcr : cred.remote = none := hc cred rfl
    split
    · exact establish_locally hcr hct
    show InitiatesLocally (if contextIsLocal context = true then _ else _)
    split
    · exact finish_locally ⟨rfl, rfl⟩ hcr hct
    · exact establish_locally hcr hct
  · simp only [ite_self]; exact establish_locally rfl hct

end

/-! ## Acceptance -/

section

variable {side : AcceptSide} {w : AcceptWorld N C X} {ask : AcceptAsk} {cred : OutCred C}
  {ctx : CtxHandle X}

theorem contextSide_localOnly (hc : ∀ ctx, context = some ctx → ctx.remote = none) :
    contextSide .localOnly context = .localOnly := by
  cases context with
  | none => rfl
  | some ctx => simp [contextSide, hc ctx rfl]

theorem credSide_localOnly (hc : cred.remote = none) :
    credSide .localOnly cred = .ok .localOnly := by
  unfold credSide
  split
  · rfl
  · rw [hc]; rfl

structure AcceptsLocally (m : Calls (AcceptStep N C) (AcceptLeg N C X)) : Prop where
  silent : Silent AcceptStep.contacts m
  ctx : m.value.ctx.remote = none
  deleg : ∀ cred, m.value.deleg = some cred → cred.remote = none

theorem AcceptsLocally.stopped {exit : Exit} (hct : ctx.remote = none) :
    AcceptsLocally (pure (.stopped exit ctx) : Calls (AcceptStep N C) (AcceptLeg N C X)) where
  silent := .pure _
  ctx := hct
  deleg := by intro cred hc; cases hc

theorem acceptCtxLocal_locally (hct : ctx.remote = none) :
    AcceptsLocally (acceptCtxLocal w ask cred ctx) where
  silent := Calls.always_call_bind.mpr ⟨rfl, .pure _⟩
  ctx := hct
  deleg := Table.forall_ite fun _ => rfl

theorem acceptWith_locally (hc : cred.remote = none) (hct : ctx.remote = none) :
    AcceptsLocally (acceptWith side w ask .localOnly cred ctx) := by
  have hs : acceptWith side w ask .localOnly cred ctx = acceptCtxLocal w ask cred ctx := by
    unfold acceptWith
    rw [credSide_localOnly hc]; rfl
  rw [hs]
  exact acceptCtxLocal_locally hct

theorem acceptWithDefault_locally {d : Option (DefCreds C)} (hd : LocalSlot d)
    (hc : ctx.remote = none) : AcceptsLocally (acceptWithDefault side w ask .localOnly ctx d) := by
  cases d with
  | none => exact .stopped hc
  | some d =>
    simp only [acceptWithDefault]
    split
    · split
      · exact .stopped hc
      · rename_i cred hs
        exact acceptWith_locally (hd d cred rfl hs) hc
    · exact .stopped hc

theorem releaseDefault_none {d : Option (DefCreds C)} (hd : LocalSlot d) :
    (releaseDefault d : Calls (AcceptStep N C) Unit) = pure () := by
  have hn : (d.bind fun e => e.slot.bind (·.remote)) = none := by
    refine Option.bind_eq_none_iff.mpr fun e he => Option.bind_eq_none_iff.mpr fun cred hc => ?_
    exact hd e cred he hc
  unfold releaseDefault
  rw [hn]

structure EndsLocally (m : Calls (AcceptStep N C) (AcceptResult N C X)) : Prop where
  silent : Silent AcceptStep.contacts m
  context : ∀ ctx, m.value.context = some ctx → ctx.remote = none
  delegated : ∀ cred, m.value.delegated = some cred → cred.remote = none

theorem EndsLocally.quietly {m : Calls (AcceptStep N C) (AcceptResult N C X)} (hm : EndsLocally m) :
    (m.flatMapLog AcceptStep.contacts).Quietly fun r =>
      (∀ ctx, r.context = some ctx → ctx.remote = none) ∧
        ∀ cred, r.delegated = some cred → cred.remote = none :=
  hm.silent.quietly ⟨hm.context, hm.delegated⟩

theorem AcceptsLocally.finish {m : Calls (AcceptStep N C) (AcceptLeg N C X)}
    (hm : AcceptsLocally m) : EndsLocally (m >>= fun leg => pure (finishAccept leg)) where
  silent := Calls.always_bind.mpr ⟨hm.silent, .pure _⟩
  context := Table.forall_ite_not fun _ => hm.ctx
  delegated cred hc := hm.deleg cred (Option.ite_none_right_eq_some.mp hc).2

theorem acceptEntry_locally {acceptor : Option (OutCred C)}
    (hc : ∀ ctx, context = some ctx → ctx.remote = none)
    (ha : ∀ cred, acceptor = some cred → cred.remote = none) :
    EndsLocally (acceptEntry side w ask .localOnly context acceptor) := by
  have hct := getD_remote hc
  unfold acceptEntry
  simp only [contextSide_localOnly hc]
  split
  · rename_i cred
    exact (acceptWith_locally (ha cred rfl) hct).finish
  have hd : LocalSlot (defCreds side.defaults w.creds (acceptDefaults w) .localOnly none).value :=
    defCreds_slot
  have hl : AcceptsLocally (acceptWithDefault side w ask .localOnly
      (context.getD { remote := none, localCtx := none }) _) :=
    acceptWithDefault_locally hd hct
  refine ⟨Calls.always_bind.mpr ⟨?_, ?_⟩, hl.finish.context, hl.finish.delegated⟩
  · intro k hk
    obtain ⟨step, hs, rfl⟩ := List.mem_map.mp hk
    exact defCreds_silent step hs
  · rw [Calls.value_mapLog, releaseDefault_none hd]; exact hl.finish.silent

end

/-! ## Contexts -/

section

variable {imported : Option (UInt32 × Option X)} {answer : UInt32 × Option X} {ctx : CtxHandle X}

theorem CtxHandle.convert_of_local (hc : ctx.remote = none) :
    ctx.convert imported = (GSS_S_COMPLETE, ctx) := by
  unfold CtxHandle.convert
  rw [hc]

theorem gssiInquireContext_quiet {wantSrc wantTarg : Bool} {localInfo : ContextInfo (Option N)}
    {lookup : UInt32} (hc : ctx.remote = none) :
    (gssiInquireContext port wantSrc wantTarg localInfo lookup ctx).Quietly fun _ => True := by
  obtain ⟨remote, localCtx⟩ := ctx
  cases hc
  cases localCtx with
  | none | some _ => exact .pure trivial

theorem gssiSetSecContextOption_quiet (hc : ∀ ctx, context = some ctx → ctx.remote = none) :
    (gssiSetSecContextOption imported answer context).Quietly fun r =>
      ∀ ctx, r.2 = some ctx → ctx.remote = none := by
  have hct := getD_remote hc
  unfold gssiSetSecContextOption
  simp only [CtxHandle.convert_of_local hct, if_true]
  split
  · exact .pure (Table.forall_some hct)
  · exact (gpmDeleteSecContext_quiet hct).bind fun _ _ => .pure nofun

theorem exportContext_quiet (hc : ctx.remote = none) :
    (exportContext imported answer ctx).Quietly fun r => r.2.remote = none := by
  unfold exportContext
  simp only [CtxHandle.convert_of_local hc, ne_eq, not_true_eq_false, if_false]
  split
  · exact .pure hc
  · exact (gpmDeleteSecContext_quiet hc).bind fun _ _ => .pure rfl

theorem gssiExportSecContext_quiet {ctxs : Table (CtxHandle X)} {r : Option Nat} {misread : GssxCtx}
    {behind : Option X} (hc : ctxs.All fun ctx => ctx.remote = none)
    (hp : ∀ ctx, ctxs.get r = some ctx → port = .rust) :
    (gssiExportSecContext port ctxs r misread behind imported answer).Quietly fun e =>
      e.after.All fun ctx => ctx.remote = none := by
  cases hg : ctxs.get r with
  | none =>
    cases port with
    | c =>
      simp only [gssiExportSecContext, hg, Option.map_none]
      refine (exportContext_quiet rfl).bind fun e _ => .pure ?_
      split
      · exact hc.put (by simp)
      · exact hc
    | rust => simp only [gssiExportSecContext, hg]; exact .pure hc
  | some ctx =>
    cases hp ctx hg
    simp only [gssiExportSecContext, hg]
    exact (exportContext_quiet (hc.get hg)).bind fun e he => .pure (hc.put (Table.forall_some he))

def ContextCall.Avoids (port : Port) (ctxs : Table (CtxHandle X)) : ContextCall N C X → Prop
  | .exportContext r _ _ _ _ => ∀ ctx, ctxs.get r = some ctx → port = .rust
  | _ => True

theorem ContextCall.perform_quiet {call : ContextCall N C X} (hav : call.Avoids port s.ctxs)
    (hs : s.NoRemote) : (call.perform port .localOnly s).Quietly fun e => e.after.NoRemote := by
  cases call with
  | init w claimant ctx target mech req =>
    have hi : InitiatesLocally (initEntry (port.initSide w) w .localOnly
        ((s.creds.get claimant).map (·.toCredHandle)) (s.ctxs.get ctx) (s.names.get target) mech
        req) := by
      refine initEntry_locally ?_ fun ctx hc => hs.ctxs.get hc
      intro parts hp
      obtain ⟨cred, hcr, rfl⟩ := Option.map_eq_some_iff.mp hp
      exact hs.creds.get hcr
    refine hi.quietly.bind fun r hr => .pure ⟨hs.creds.put ?_, hs.ctxs.give hr.1⟩
    intro after ha
    obtain ⟨cred, hcr, rfl⟩ := Option.map_eq_some_iff.mp ha
    cases hp : r.cred with
    | none => exact hs.creds.get hcr
    | some parts => exact hr.2 parts hp
  | accept w ask ctx acceptor =>
    have hac : EndsLocally (acceptEntry port.acceptSide w ask .localOnly (s.ctxs.get ctx)
        (s.creds.get acceptor)) :=
      acceptEntry_locally (fun ctx hc => hs.ctxs.get hc) fun cred hcr => hs.creds.get hcr
    exact hac.quietly.bind fun r hr => .pure ⟨hs.creds.add hr.2, hs.ctxs.give hr.1⟩
  | exportContext =>
    exact (gssiExportSecContext_quiet hs.ctxs hav).bind fun e he => .pure ⟨hs.creds, he⟩
  | importByMech answer =>
    simp only [ContextCall.perform]
    split
    · exact .pure ⟨hs.creds, hs.ctxs.add (Table.forall_some rfl)⟩
    · exact .pure hs
  | use =>
    simp only [ContextCall.perform]
    split
    · exact .pure hs
    rename_i ctx hg
    refine .pure ⟨hs.creds, hs.ctxs.put (Table.forall_some ?_)⟩
    simp only [onContext, CtxHandle.convert_of_local (hs.ctxs.get hg)]
    exact hs.ctxs.get hg
  | contextTime =>
    simp only [ContextCall.perform]
    split <;> exact .pure hs
  | inquire =>
    simp only [ContextCall.perform]
    split
    · exact .pure hs
    · rename_i ctx hg
      exact (gssiInquireContext_quiet (hs.ctxs.get hg)).bind fun _ _ => .pure ⟨hs.creds, hs.ctxs⟩
  | setOption =>
    exact (gssiSetSecContextOption_quiet fun ctx hc => hs.ctxs.get hc).bind fun e he =>
      .pure ⟨hs.creds, hs.ctxs.give he⟩
  | delete =>
    simp only [ContextCall.perform]
    split
    · exact .pure hs
    rename_i ctx hg
    refine Calls.Quietly.bind (Q := fun _ => True) ?_ fun _ _ =>
      .pure ⟨hs.creds, hs.ctxs.put (by simp)⟩
    exact (gpmDeleteSecContext_quiet (hs.ctxs.get hg)).bind fun _ _ => .pure trivial

end

/-- It maps no remote name and, in C, exports no context. -/
def EntryCall.Avoids (port : Port) (s : Handles N C X) : EntryCall N C X → Prop
  | .name call => call.Avoids s.names
  | .context call => call.Avoids port s.ctxs
  | _ => True

theorem EntryCall.perform_quiet {call : EntryCall N C X} (ha : call.Avoids port s)
    (hs : s.NoRemote) : Quiet (call.perform port .localOnly s) := by
  refine .of_quietly ?_
  cases call with
  | plain => exact .pure hs
  | mech entry localAnswer remoteAnswer =>
    have hl : inquireForMech .localOnly localAnswer remoteAnswer = pure localAnswer := by
      unfold inquireForMech; simp
    simp only [EntryCall.perform, hl]
    exact .pure hs
  | name call => exact (NameCall.perform_quiet ha).bind fun _ _ => .pure ⟨hs.creds, hs.ctxs⟩
  | cred call => exact call.perform_quiet hs
  | context call => exact ContextCall.perform_quiet ha hs

theorem performAll_quiet {calls : List (EntryCall N C X)} (hs : s.NoRemote)
    (ha : ∀ p ∈ performAll port .localOnly s calls, p.call.Avoids port p.before) :
    ∀ p ∈ performAll port .localOnly s calls, p.result.log = [] := by
  induction calls generalizing s with
  | nil => intro p hp; cases hp
  | cons call calls ih =>
    have hqu : Quiet (call.perform port .localOnly s) :=
      EntryCall.perform_quiet (ha _ List.mem_cons_self) hs
    intro p hp
    rcases List.mem_cons.mp hp with rfl | hp
    · exact hqu.log
    have hre := fun q hq => ha q (List.mem_cons_of_mem _ hq)
    split at hp
    · rename_i hr
      simp only [hr, if_true] at hre
      exact ih hqu.after hre p hp
    · cases hp

/-- **No contact under `LOCAL_ONLY`**: a process that starts with no handles, maps no remote name
    and, in C, exports no context sends no request to the daemon. -/
theorem local_only_never_contacts (port : Port) (calls : List (EntryCall N C X))
    (havoids : ∀ p ∈ performAll port .localOnly (Handles.start N C X) calls,
      p.call.Avoids port p.before) :
    ∀ p ∈ performAll port .localOnly (Handles.start N C X) calls, p.result.log = [] :=
  performAll_quiet ⟨Table.all_empty, Table.all_empty⟩ havoids

/-! ## A name of each kind -/

def anyNames : LocalNames Unit where
  importName _ _ := .ok ()
  canonicalizeName _ _ := .ok ()
  displayName _ := .ok ([], [])
  compareName _ _ := .ok true

def acceptsAtOnce : AcceptWorld Unit Unit Unit where
  acceptLocal _ _ _ := ⟨GSS_S_COMPLETE, 0, some (), some (), none, default⟩
  daemonAccept _ := .error EIO
  mechs := .error EIO
  creds :=
    { retrieve := fun _ _ => ⟨GSS_S_NO_CRED, 0, default⟩
      special := fun _ => true
      nameToLocal := fun _ _ => ⟨GSS_S_COMPLETE, 0, some ()⟩
      acquireLocal := fun _ _ => ⟨GSS_S_COMPLETE, 0, some ()⟩
      localToName := fun _ => ⟨GSS_S_COMPLETE, 0, some default⟩
      acquireRemote := fun _ _ _ => ⟨GSS_S_NO_CRED, 0, none⟩
      equal := fun _ _ => true
      store := fun _ _ _ => (GSS_S_COMPLETE, 0) }
  interposed := some [KRB5_MECH_OID]

def mapFirstName : EntryCall Unit Unit Unit :=
  .name (.localname anyNames (some 0) (some KRB5_MECH_OID) (GSS_S_FAILURE, EIO) GSS_S_COMPLETE)

abbrev mapPeer (port : Port) :=
  performAll port .localOnly (Handles.start Unit Unit Unit)
    [.context (.accept acceptsAtOnce { (default : AcceptAsk) with wantName := true } none none),
      mapFirstName]

abbrev mapImported (port : Port) :=
  performAll port .localOnly (Handles.start Unit Unit Unit)
    [.name (.importNameByMech (some KRB5_MECH_OID) (some [0x75]) (some NT_USER_NAME_OID)),
      mapFirstName]

theorem mapPeer_avoids {port : Port} : ∀ p ∈ mapPeer port, p.call.Avoids port p.before := by
  intro p hp
  rcases List.mem_cons.mp hp with rfl | hp
  · exact trivial
  cases port <;> rcases List.mem_cons.mp hp with rfl | hp
  · rintro name hn
    cases hn; rfl
  · cases hp
  · rintro name hn
    cases hn; rfl
  · cases hp

/-- The peer's name is a local one, and mapping it stays within the process. -/
theorem peer_is_mapped_locally :
    ((∀ p ∈ mapPeer .c, p.result.log = []) ∧ (mapPeer .c).length = 2) ∧
      (∀ p ∈ mapPeer .rust, p.result.log = []) ∧ (mapPeer .rust).length = 2 :=
  ⟨⟨local_only_never_contacts .c _ mapPeer_avoids, rfl⟩,
    local_only_never_contacts .rust _ mapPeer_avoids, rfl⟩

/-- An imported name is sent to the daemon. -/
theorem imported_name_is_sent :
    (mapImported .c).map (·.result.log) = [[], [.importAndCanonName]] ∧
      (mapImported .rust).map (·.result.log) = [[], [.importAndCanonName]] :=
  ⟨rfl, rfl⟩

end GssProxy.Interposer
