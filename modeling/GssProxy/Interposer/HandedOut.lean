import GssProxy.Interposer.AcceptSides
import GssProxy.Interposer.InitSides
import GssProxy.Interposer.Process

/-!
# The handles that are handed out

The entry points create a handle and let the local mechanism or the daemon fill it in.  An acceptance
delivers no credential if none was delegated; both interposers then hand out one without a part, which an
initiation takes for the default credentials.

* `handed_out_with_part`: a handle has a part if whoever completes a call delivers what was asked for.
-/

namespace GssProxy.Interposer

open Codec Gss Proto Client Effect GssProxy.System
open Server (GssError)
open GssProxy.System.Table (forall_new_self forall_new_put forall_new_add forall_new_give forall_ite
  forall_ite_not forall_new_of_length put_length)

variable {N C X : Type}

/-! ## What is handed out -/

def NameHandle.HasPart (name : NameHandle N) : Prop :=
  name.localName.isSome = true ∨ name.remote.isSome = true

def CredHandle.HasPart (cred : CredHandle C) : Prop :=
  cred.localCred.isSome = true ∨ cred.remote.isSome = true

def CtxHandle.HasPart (ctx : CtxHandle X) : Prop :=
  ctx.localCtx.isSome = true ∨ ctx.remote.isSome = true

def EntryCall.place : EntryCall N C X → Option Nat
  | .context (.init _ _ ctx _ _ _) => ctx
  | .context (.accept _ _ ctx _) => ctx
  | .context (.setOption ctx _ _) => ctx
  | _ => none

/-- What is new in the tables has a part, and so has the context at the place that was given. -/
structure HandsOutParts (before : Handles N C X) (place : Option Nat) (after : Handles N C X) :
    Prop where
  names : ∀ name ∈ before.names.new after.names, name.HasPart
  creds : ∀ cred ∈ before.creds.new after.creds, cred.HasPart
  newCtxs : ∀ ctx ∈ before.ctxs.new after.ctxs, ctx.HasPart
  context : ∀ ctx, after.ctxs.get place = some ctx → ctx.HasPart

/-! ## What is delivered -/

def Delivered {α : Type} (major : UInt32) (value : Option α) : Prop :=
  major = GSS_S_COMPLETE → value.isSome = true

structure CredWorld.Delivers (w : CredWorld N C) : Prop where
  acquireLocal : ∀ req name, Delivered (w.acquireLocal req name).major (w.acquireLocal req name).value
  acquireRemote : ∀ req input name,
    Delivered (w.acquireRemote req input name).major (w.acquireRemote req input name).value

structure World.Delivers (w : World N C X) : Prop where
  names : w.lib.toLocalNames.FailsPlainly
  initLocal : ∀ cred ctx name mech req,
    Delivered (w.lib.initSecContext cred ctx name mech req).major
      (w.lib.initSecContext cred ctx name mech req).ctx
  daemonInit : ∀ arg res, w.daemonInit arg = .ok res →
    Delivered res.status.majorStatus.toUInt32 res.contextHandle

structure AcceptWorld.Delivers (w : AcceptWorld N C X) (ask : AcceptAsk) : Prop where
  ctx : ∀ cred ctx, Delivered (w.acceptLocal cred ctx ask).major (w.acceptLocal cred ctx ask).ctx
  srcName : ask.wantName = true → ∀ cred ctx,
    Delivered (w.acceptLocal cred ctx ask).major (w.acceptLocal cred ctx ask).srcName
  delegated : ask.wantDeleg = true → ∀ cred ctx,
    Delivered (w.acceptLocal cred ctx ask).major (w.acceptLocal cred ctx ask).delegated
  /-- the daemon's status is one of 32 bits where it reads as completed -/
  major : ∀ arg res, w.daemonAccept arg = .ok res →
    res.status.majorStatus.toUInt32 = GSS_S_COMPLETE → res.status.majorStatus = 0
  daemonDelegated : ask.wantDeleg = true → ∀ arg res, w.daemonAccept arg = .ok res →
    Delivered res.status.majorStatus.toUInt32 res.delegatedCredHandle

def NameCall.Delivers : NameCall N → Prop
  | .duplicateName _ copy => Delivered copy.1 copy.2
  | _ => True

def CredCall.Delivers : CredCall N C → Prop
  | .acquire _ w _ _ _ => w.Delivers
  | .acquireWithPassword _ _ _ _ answer => ∀ name, Delivered (answer name).major (answer name).value
  | .acquireImpersonateName w _ _ _ _ answer =>
    ∀ cred, CredWorld.Delivers { w with acquireLocal := answer cred }
  | .inquire _ _ _ _ wantName localReply remoteReply =>
    wantName = true → (∀ cred, Delivered (localReply cred).1 (localReply cred).2) ∧
      ∀ cred, Delivered (remoteReply cred).1 (remoteReply cred).2
  | .importByMech answer => Delivered answer.1 answer.2
  | _ => True

def ContextCall.Delivers : ContextCall N C X → Prop
  | .init w _ _ _ _ _ => w.Delivers
  | .accept w ask _ _ => w.Delivers ask
  | .importByMech answer => Delivered answer.1 answer.2
  | .inquire _ wantSrc wantTarg info _ =>
    (wantSrc = true → Delivered info.major info.srcName) ∧
      (wantTarg = true → Delivered info.major info.targName)
  | .setOption _ _ answer => Delivered answer.1 answer.2
  | _ => True

/-- A call to the outside that completes gives what it is for. -/
def EntryCall.Delivers : EntryCall N C X → Prop
  | .name call => call.Delivers
  | .cred call => call.Delivers
  | .context call => call.Delivers
  | _ => True

variable {port : Port} {behavior : Behavior} {s : Handles N C X}

theorem HandsOutParts.refl : HandsOutParts s none s where
  names := forall_new_self
  creds := forall_new_self
  newCtxs := forall_new_self
  context _ hc := by cases hc

variable {name : NameHandle N} {leg : Leg N C X} {context : Option (CtxHandle X)}

theorem gssiImportNameByMech_part {mech value nameType : Option Bytes}
    (h : (gssiImportNameByMech mech value nameType).2 = some name) : name.HasPart := by
  unfold gssiImportNameByMech at h
  split at h
  · cases h; exact .inr rfl
  · cases h

theorem gssiDuplicateName_part {copy : UInt32 × Option N} {name : NameHandle N}
    (hc : Delivered copy.1 copy.2) :
    ∀ out, (gssiDuplicateName copy name).2 = some out → out.HasPart := by
  unfold gssiDuplicateName
  split
  · rintro _ ⟨⟩; exact .inr rfl
  · exact forall_ite fun hd => .inl (hc hd)
  · nofun

theorem NameCall.perform_parts {names : Table (NameHandle N)} {call : NameCall N}
    (hd : call.Delivers) :
    ∀ name ∈ names.new (call.perform port names).value.after, name.HasPart := by
  cases call with
  | importNameByMech => exact forall_new_add forall_new_self fun _ => gssiImportNameByMech_part
  | unconverted => exact forall_new_self
  | duplicateName r copy =>
    simp only [NameCall.perform]
    split
    · exact forall_new_self
    · exact forall_new_add forall_new_self (gssiDuplicateName_part hd)
  | compareName =>
    simp only [NameCall.perform]
    split
    · exact forall_new_of_length (put_length.trans put_length)
    · cases port with
      | c | rust => exact forall_new_self
  | inquireName =>
    simp only [NameCall.perform]
    split <;> exact forall_new_self
  | _ =>
    simp only [NameCall.perform]
    split
    · exact forall_new_self
    · exact forall_new_put

/-! ## Acquisition -/

variable {wanted : Bool}

section

variable {side : AcquireSide} {w : CredWorld N C} {req : CredRequest}
  {name : Option (NameHandle N)} {input : Option GssxCred} {out : OutCred C}
  {saved : UInt32 × UInt32}

def AcquireResult.GivesPart (r : AcquireResult C) : Prop :=
  ∀ cred, r.cred = some cred → cred.HasPart

theorem AcquireResult.GivesPart.failed {major minor : UInt32} :
    (AcquireResult.failed major minor : AcquireResult C).GivesPart := by
  intro cred hc
  cases hc

theorem AcquireResult.GivesPart.finish {status : UInt32 × UInt32}
    (ho : status.1 = GSS_S_COMPLETE → out.HasPart) :
    (finishAcquire status saved out).GivesPart := by
  intro cred hc
  obtain ⟨hd, heq⟩ := Option.ite_none_right_eq_some.mp hc
  cases heq
  split at hd
  · rename_i hs; exact absurd hd hs.2
  · exact ho hd

theorem localName_fails {status : UInt32 × UInt32}
    (h : (localName side w name).value.1 = .error status) : status.1 ≠ GSS_S_COMPLETE := by
  unfold localName at h
  split at h
  · cases h
  split at h
  · rw [Calls.value_bind] at h
    split at h
    · cases h
    · rename_i hf
      cases h
      exact hf
  · cases h

theorem acquireLocal_part (hw : w.Delivers)
    (hd : (acquireLocal side w req name out).value.major = GSS_S_COMPLETE) :
    (acquireLocal side w req name out).value.out.HasPart := by
  unfold acquireLocal at hd ⊢
  split at hd
  · rename_i hs
    rw [if_pos hs]
    rw [Calls.value_bind] at hd ⊢
    split at hd
    · rename_i status name' hn
      exact absurd hd (localName_fails (congrArg Prod.fst hn))
    · rename_i known name' hn; exact .inl (hw.acquireLocal req known hd)
  · exact absurd hd (by decide : GSS_S_BAD_MECH ≠ GSS_S_COMPLETE)

theorem storeBack_part {minor : UInt32} (ho : out.HasPart) :
    (storeBack side w input minor saved out).value.GivesPart := by
  unfold storeBack
  split
  · exact .finish fun _ => ho
  · rw [Calls.value_bind]
    split <;> exact .finish fun _ => ho

theorem acquireFromDaemon_part (hw : w.Delivers) :
    (acquireFromDaemon side w behavior req input saved name out).value.GivesPart := by
  unfold acquireFromDaemon
  rw [Calls.value_bind]
  split
  · rename_i hd
    exact storeBack_part (.inr (hw.acquireRemote _ _ _ hd))
  rename_i hf
  split
  · exact .finish (acquireLocal_part hw)
  · exact .finish fun hd => absurd hd hf

theorem acquireRemote_part (hw : w.Delivers) :
    (acquireRemote side w behavior req input saved name out).value.GivesPart := by
  unfold acquireRemote
  split
  · rw [Calls.value_bind]
    split
    · rename_i hf; exact .finish fun hd => absurd hd hf
    · exact acquireFromDaemon_part hw
  · exact acquireFromDaemon_part hw

theorem acquireInOrder_part (hw : w.Delivers) :
    (acquireInOrder side w behavior req input name out).value.GivesPart := by
  unfold acquireInOrder
  split
  · rw [Calls.value_bind]
    split
    · exact .finish (acquireLocal_part hw)
    · exact acquireRemote_part hw
  · exact acquireRemote_part hw

theorem acquireCredFrom_part (hw : w.Delivers) :
    (acquireCredFrom side w behavior req name wanted).value.GivesPart := by
  cases wanted with
  | false => exact .failed
  | true => exact acquireInOrder_part hw

theorem acquireWithPassword_part {mechs : Option (List Bytes)}
    {answer : Option N → Outcome (Option C)}
    (ha : ∀ name, Delivered (answer name).major (answer name).value) :
    (acquireWithPassword side w behavior mechs name wanted answer).value.GivesPart := by
  unfold acquireWithPassword
  split
  · exact .failed
  · exact .failed
  · exact .failed
  · split
    · exact .failed
    rw [Calls.value_bind]
    split
    · exact .failed
    · exact .finish fun hd => .inl (ha _ hd)

theorem impersonateFromDaemon_part (hw : w.Delivers) :
    (impersonateFromDaemon side w behavior req input saved name out).value.GivesPart := by
  unfold impersonateFromDaemon
  rw [Calls.value_bind]
  split
  · rename_i hd
    exact .finish fun _ => .inr (hw.acquireRemote _ _ _ hd)
  rename_i hf
  split
  · exact .finish (acquireLocal_part hw)
  · exact .finish fun hd => absurd hd hf

theorem impersonateRemote_part (hw : w.Delivers) :
    (impersonateRemote side w behavior req input saved name out).value.GivesPart := by
  unfold impersonateRemote
  split
  · rw [Calls.value_bind]
    split
    · rename_i hf; exact .finish fun hd => absurd hd hf
    · exact impersonateFromDaemon_part hw
  · exact impersonateFromDaemon_part hw

theorem acquireImpersonating_part {impersonator : Option (OutCred C)}
    {answer : Option C → CredRequest → Option N → Outcome (Option C)}
    (ha : ∀ cred, CredWorld.Delivers { w with acquireLocal := answer cred }) :
    (acquireImpersonating side w behavior req answer impersonator name wanted).value.GivesPart := by
  unfold acquireImpersonating
  split
  · exact .failed
  · exact .failed
  · unfold impersonateInOrder
    split
    · rw [Calls.value_bind]
      split
      · exact .finish (acquireLocal_part (ha _))
      · exact impersonateRemote_part (ha _)
    · exact impersonateRemote_part (ha _)

theorem AcquireResult.GivesPart.acquired {m : Calls (CredStep N) (AcquireResult C)}
    {r : Option Nat} (hm : m.value.GivesPart) :
    HandsOutParts s none (acquired side w s r m).value.after where
  names := forall_new_put
  creds := forall_new_add forall_new_self hm
  newCtxs := forall_new_self
  context _ hc := by cases hc

end

theorem askCred_part {wantName : Bool} {localReply : C → UInt32 × Option N}
    {remoteReply : GssxCred → UInt32 × Option GssxName} {cred : OutCred C}
    (hre : wantName = true → (∀ cred, Delivered (localReply cred).1 (localReply cred).2) ∧
      ∀ cred, Delivered (remoteReply cred).1 (remoteReply cred).2)
    (h : (askCred wantName localReply remoteReply cred).2 = some name) : name.HasPart := by
  obtain ⟨⟨hw, hd⟩, heq⟩ := Option.ite_none_right_eq_some.mp h
  obtain ⟨hl, hr⟩ := hre hw
  cases heq
  split at hd
  · exact .inl (hl _ hd)
  · exact .inr (hr _ hd)
  · cases hd

theorem inquireCred_part {w : CredWorld N C} {interposed : Option (List Bytes)}
    {ask : OutCred C → UInt32 × Option (NameHandle N)} {cred : Option (OutCred C)}
    (ha : ∀ cred name, (ask cred).2 = some name → name.HasPart) :
    ∀ name, (inquireCred port w interposed behavior ask cred).value.2 = some name →
      name.HasPart := by
  intro name hn
  unfold inquireCred at hn
  split at hn
  · exact ha _ name hn
  rw [Calls.value_bind] at hn
  split at hn
  · cases hn
  split at hn
  · split at hn
    · cases hn
    · exact ha _ name hn
    · exact ha _ name hn
  · cases hn

theorem CredCall.perform_parts {call : CredCall N C} (hd : call.Delivers) :
    HandsOutParts s none (call.perform port behavior s).value.after := by
  cases call with
  | acquire =>
    simp only [CredCall.perform]
    split
    · exact .refl
    · exact (acquireCredFrom_part hd).acquired
  | acquireWithPassword => exact (acquireWithPassword_part hd).acquired
  | acquireImpersonateName => exact (acquireImpersonating_part hd).acquired
  | inquire =>
    exact { HandsOutParts.refl with
      names := forall_new_add forall_new_self (inquireCred_part fun _ _ => askCred_part hd) }
  | inquireByOid => exact .refl
  | setOption =>
    simp only [CredCall.perform]
    split
    · exact .refl
    · exact { HandsOutParts.refl with creds := forall_new_put }
  | store =>
    simp only [CredCall.perform]
    split <;> exact .refl
  | release =>
    simp only [CredCall.perform]
    split
    · exact .refl
    · exact { HandsOutParts.refl with creds := forall_new_put }
  | exportCred => exact .refl
  | importByMech answer =>
    simp only [CredCall.perform]
    split
    · rename_i hdo
      exact { HandsOutParts.refl with
        creds := forall_new_add forall_new_self (Table.forall_some (.inl (hd hdo))) }
    · exact .refl

/-! ## Initiation -/

theorem majorOf_ne_complete {exit : Exit} (hf : exit.keep = false) :
    majorOf exit ≠ some GSS_S_COMPLETE := by
  intro hd
  cases exit with
  | fault => cases hd
  | status status =>
    have hm : status.major = GSS_S_COMPLETE := Option.some.inj hd
    have hk : keep status.major = false := hf
    rw [hm] at hk; cases hk

theorem majorOf_mapExit (exit : Exit) : majorOf (mapExit exit) = majorOf exit := by
  cases exit with
  | status status => rfl
  | fault => rfl

section

variable {side : Side N} {w : World N C X} {mech : Bytes} {req : InitRequest}
  {cred : CredHandle C} {ctx : CtxHandle X} {name : NameHandle N}

def Side.Delivers (side : Side N) : Prop :=
  ∀ cred context target mech req,
    majorOf (side.remote cred context target mech req).exit = some GSS_S_COMPLETE →
      (side.remote cred context target mech req).context.isSome = true

theorem cSide_delivers (hw : w.Delivers) : (cSide w).Delivers := by
  intro cred context target mech req hd
  simp only [cSide, gpmInitSecContext] at hd ⊢
  split at hd
  · cases hd
  rename_i res hr
  split at hd
  · cases hd
  split at hd
  · rename_i hk
    rw [if_pos hk]
    split at hd
    · rfl
    rename_i hn
    split at hd
    · cases hd
    · have hs := hw.daemonInit _ res hr (Option.some.inj hd)
      rw [hn] at hs; cases hs
  · rename_i hk
    exact absurd hd (majorOf_ne_complete (eq_false_of_ne_true hk))

theorem rustSide_delivers (hw : w.Delivers) : (rustSide w).Delivers := by
  intro cred context target mech req hd
  simp only [rustSide] at hd ⊢
  split at hd
  · rename_i hk
    rw [if_pos hk]
    unfold initSecContext at hk hd ⊢
    split at hd
    · cases hd
    rename_i res hr
    simp only [hr] at hk ⊢
    rw [if_pos hk]
    exact hw.daemonInit _ res hr (Option.some.inj hd)
  · rename_i hk
    exact absurd hd (majorOf_ne_complete (eq_false_of_ne_true hk))

def Leg.GivesPart (leg : Leg N C X) : Prop :=
  majorOf leg.exit = some GSS_S_COMPLETE → leg.ctx.HasPart

theorem Leg.GivesPart.failed (hf : leg.exit.keep = false) : leg.GivesPart :=
  fun hd => absurd hd (majorOf_ne_complete hf)

theorem Leg.GivesPart.orElse {saved : Exit} (hl : leg.GivesPart)
    (hs : saved.keep = false) : (leg.orElse saved).GivesPart := by
  unfold Leg.orElse
  split
  · exact hl
  · exact .failed hs

def InitResult.GivesPart (r : InitResult N C X) : Prop :=
  majorOf r.exit = some GSS_S_COMPLETE → ∀ ctx, r.context = some ctx → ctx.HasPart

variable {claimant : Option (CredHandle C)}

theorem majorOf_finish : majorOf (finish claimant leg).exit = majorOf leg.exit := by
  unfold finish
  cases leg.exit with
  | fault => rfl
  | status status =>
    simp only
    split <;> rfl

theorem Leg.GivesPart.finish (hl : leg.GivesPart) : (finish claimant leg).GivesPart := by
  intro hd
  exact forall_ite_not fun _ => hl (majorOf_finish ▸ hd)

variable (hs : side.Regular) (hd : side.Delivers) (hw : w.Delivers)
include hs hw

theorem initCtxLocal_part :
    (initCtxLocal side w mech req cred ctx name).value.GivesPart := by
  unfold initCtxLocal
  split
  · rename_i exit name' hn
    exact .failed (NameHandle.localize_fails hs hn)
  · intro hd
    exact .inl (hw.initLocal _ _ _ _ _ (Option.some.inj hd))

include hd

theorem initCtxRemote_part :
    (initCtxRemote side w mech req behavior cred ctx name).value.GivesPart := by
  cases hn : name.toRemote w.lib.toLocalNames with
  | error exit =>
    unfold initCtxRemote
    rw [hn]
    exact .failed (NameHandle.toRemote_fails hw.names hn)
  | ok name' =>
    obtain ⟨cred', -, heq⟩ := initCtxRemote_named side mech req behavior cred ctx hn
    simp only at heq
    rw [heq]
    by_cases hk : (side.remote cred'.remote ctx.remote name'.remote mech req).exit.keep = true
    · rw [if_pos hk]; exact fun hdo => .inr (hd _ _ _ _ _ hdo)
    rw [if_neg hk]
    split
    · exact initCtxLocal_part hs hw
    · exact .failed (eq_false_of_ne_true hk)

theorem establish_part :
    (establish side w mech req behavior cred ctx name).value.GivesPart := by
  unfold establish
  split
  · rw [Calls.value_bind]
    split
    · exact initCtxLocal_part hs hw
    · rename_i hn
      exact (initCtxRemote_part hs hd hw).orElse
        (eq_false_of_ne_true fun hk => hn (.inl hk))
  · exact initCtxRemote_part hs hd hw

theorem initEntry_part {target : Option (NameHandle N)} {mech : Option Bytes} :
    (initEntry side w behavior claimant context target mech req).value.GivesPart := by
  have hr : ∀ {major}, major ≠ GSS_S_COMPLETE → InitResult.GivesPart (N := N)
      { exit := .mk major 0, context, cred := claimant, target, output := default } :=
    fun hm hdo => absurd (Option.some.inj hdo) hm
  unfold initEntry
  split
  · exact hr (by decide)
  split
  · exact hr (by decide)
  split
  · exact hr (by decide)
  split
  · split
    · exact (establish_part hs hd hw).finish
    show InitResult.GivesPart (Calls.value (if contextIsLocal context = true then _ else _))
    split
    · exact (Leg.GivesPart.failed rfl).finish
    · exact (establish_part hs hd hw).finish
  · exact (establish_part hs hd hw).finish

end

/-! ## Acceptance -/

section

variable {w : AcceptWorld N C X} {ask : AcceptAsk} {cred : OutCred C} {ctx : CtxHandle X}

structure AcceptLeg.Filled (leg : AcceptLeg N C X) : Prop where
  ctx : leg.ctx.HasPart
  name : ∀ name, leg.name = some name → name.HasPart
  deleg : ∀ cred, leg.deleg = some cred → cred.HasPart

def AcceptLeg.GivesParts (leg : AcceptLeg N C X) : Prop :=
  majorOf leg.exit = some GSS_S_COMPLETE → leg.Filled

theorem AcceptLeg.GivesParts.stopped {exit : Exit} (he : majorOf exit ≠ some GSS_S_COMPLETE) :
    (AcceptLeg.stopped exit ctx : AcceptLeg N C X).GivesParts :=
  fun hd => absurd hd he

theorem acceptCtxLocal_parts (hw : w.Delivers ask) :
    (acceptCtxLocal w ask cred ctx).value.GivesParts := by
  intro hdo
  have hm := Option.some.inj hdo
  refine ⟨.inl (hw.ctx _ _ hm), ?_, ?_⟩
  · exact forall_ite fun hwa => .inl (hw.srcName hwa _ _ hm)
  · exact forall_ite fun hwa => .inl (hw.delegated hwa _ _ hm)

structure DaemonFills (ask : AcceptAsk) (r : GpmAccept) : Prop where
  context : r.context.isSome = true
  srcName : ask.wantName = true → r.output.srcName.isSome = true
  delegated : ask.wantDeleg = true → r.output.delegated.isSome = true

variable {acceptorCred : Option GssxCred} (hw : w.Delivers ask)
include hw

theorem gpmAcceptSecContext_fills {context : Option GssxCtx} :
    let r := gpmAcceptSecContext w.mechs w.daemonAccept context (ask.request acceptorCred) ask.token
    majorOf r.exit = some GSS_S_COMPLETE → DaemonFills ask r := by
  unfold gpmAcceptSecContext
  split
  · exact fun hd => absurd hd (majorOf_ne_complete rfl)
  rename_i res hr
  split
  · rename_i hm
    exact fun hd => absurd (hw.major _ res hr (Option.some.inj hd)) hm
  rename_i hm
  have hz : res.status.majorStatus.toUInt32 = GSS_S_COMPLETE := by rw [not_not.mp hm]; rfl
  split
  · exact fun hd => absurd hd (majorOf_ne_complete rfl)
  split
  · exact fun hd => (nomatch hd)
  simp only
  split
  · exact fun hd => absurd hd (majorOf_ne_complete rfl)
  exact fun _ => ⟨rfl, fun hwa => congrArg Option.isSome (if_pos hwa), fun hwa =>
    (congrArg Option.isSome (if_pos hwa)).trans (hw.daemonDelegated hwa _ res hr hz)⟩

theorem rustAccept_fills {context : Option GssxCtx} :
    let r := rustAccept.remote w.mechs w.daemonAccept context (ask.request acceptorCred) ask.token
    majorOf r.exit = some GSS_S_COMPLETE → DaemonFills ask r := by
  simp only [rustAccept]
  unfold acceptSecContext
  split
  · exact fun hd => absurd hd (majorOf_ne_complete rfl)
  rename_i res hr
  split
  · rename_i hm
    split <;> exact fun hd => absurd (hw.major _ res hr (Option.some.inj hd)) hm
  rename_i hm
  have hz : res.status.majorStatus.toUInt32 = GSS_S_COMPLETE := by rw [not_not.mp hm]; rfl
  split
  · exact fun hd => absurd hd (majorOf_ne_complete rfl)
  exact fun _ => ⟨rfl, fun hwa => congrArg Option.isSome (if_pos hwa), fun hwa =>
    (congrArg Option.isSome (if_pos hwa)).trans (hw.daemonDelegated hwa _ res hr hz)⟩

theorem Port.accept_fills (port : Port) {context : Option GssxCtx} :
    let r := port.acceptSide.remote w.mechs w.daemonAccept context (ask.request acceptorCred)
      ask.token
    majorOf r.exit = some GSS_S_COMPLETE → DaemonFills ask r := by
  cases port with
  | c => exact gpmAcceptSecContext_fills hw
  | rust => exact rustAccept_fills hw

theorem acceptCtxRemote_parts :
    (acceptCtxRemote port.acceptSide w ask cred ctx).value.GivesParts := by
  intro hdo
  have hf := port.accept_fills hw hdo
  refine ⟨.inr hf.context, ?_, ?_⟩
  · exact forall_ite fun hwa => .inr (hf.srcName hwa)
  · exact forall_ite fun hwa => .inr (hf.delegated hwa)

theorem acceptWith_parts :
    (acceptWith port.acceptSide w ask behavior cred ctx).value.GivesParts := by
  unfold acceptWith
  rcases credSide_cases behavior cred with hr | ⟨next, hn, -⟩
  · rw [hr]; exact .stopped (majorOf_ne_complete rfl)
  rw [hn]
  cases next with
  | localOnly => exact acceptCtxLocal_parts hw
  | remoteOnly => exact acceptCtxRemote_parts hw
  | localFirst | remoteFirst => exact .stopped (majorOf_ne_complete rfl)

theorem acceptWithDefault_parts {d : Option (DefCreds C)} :
    (acceptWithDefault port.acceptSide w ask behavior ctx d).value.GivesParts := by
  have hf : majorOf .fault ≠ some GSS_S_COMPLETE := fun h => (nomatch h)
  unfold acceptWithDefault
  split
  · exact .stopped hf
  split
  · split
    · exact .stopped hf
    · exact acceptWith_parts hw
  · rename_i hfa
    exact .stopped fun hd => hfa (Option.some.inj hd)

structure AcceptResult.Filled (r : AcceptResult N C X) : Prop where
  context : ∀ ctx, r.context = some ctx → ctx.HasPart
  srcName : ∀ name, r.srcName = some name → name.HasPart
  delegated : ∀ cred, r.delegated = some cred → cred.HasPart

omit hw in
theorem AcceptLeg.Filled.finish {leg : AcceptLeg N C X} (hl : leg.Filled) :
    (finishAccept leg).Filled where
  context := forall_ite_not fun _ => hl.ctx
  srcName name hn := hl.name name (Option.ite_none_right_eq_some.mp hn).2
  delegated cred hc := hl.deleg cred (Option.ite_none_right_eq_some.mp hc).2

theorem acceptEntry_parts {acceptor : Option (OutCred C)} :
    let r := (acceptEntry port.acceptSide w ask behavior context acceptor).value
    majorOf r.exit = some GSS_S_COMPLETE → r.Filled := by
  simp only [acceptEntry_value]
  intro hd
  have hp : (acceptAttempt port.acceptSide w ask behavior context acceptor).value.GivesParts := by
    cases acceptor with
    | some cred => exact acceptWith_parts hw
    | none => exact acceptWithDefault_parts hw
  exact (hp ((majorOf_mapExit _).symm.trans hd)).finish

end

/-! ## Contexts -/

section

variable {imported : Option (UInt32 × Option X)} {answer : UInt32 × Option X} {ctx : CtxHandle X}

theorem ContextInfo.handle_part {α : Type} {info : ContextInfo α}
    {part : α → NameHandle N} {value : α}
    (hp : wanted = true → info.major = GSS_S_COMPLETE → (part value).HasPart) :
    ∀ name, info.handle wanted part value = some name → name.HasPart :=
  forall_ite fun h => hp h.1 h.2

theorem gssiInquireContext_parts (port : Port) {wantSrc wantTarg : Bool} {info : ContextInfo (Option N)}
    {lookup : UInt32} (hs : wantSrc = true → Delivered info.major info.srcName)
    (ht : wantTarg = true → Delivered info.major info.targName) :
    let r := (gssiInquireContext port wantSrc wantTarg info lookup ctx).value
    (∀ name, r.2.1 = some name → name.HasPart) ∧ ∀ name, r.2.2 = some name → name.HasPart := by
  unfold gssiInquireContext
  split
  · exact ⟨fun _ h => (nomatch h), fun _ h => (nomatch h)⟩
  · exact ⟨ContextInfo.handle_part fun hw hd => .inl (hs hw hd),
      ContextInfo.handle_part fun hw hd => .inl (ht hw hd)⟩
  · simp only [Calls.value_bind, Calls.value_pure]
    exact ⟨ContextInfo.handle_part fun _ _ => .inr rfl, ContextInfo.handle_part fun _ _ => .inr rfl⟩

theorem gssiSetSecContextOption_part (ha : Delivered answer.1 answer.2) :
    ∀ ctx, (gssiSetSecContextOption imported answer context).value.2 = some ctx → ctx.HasPart := by
  intro ctx hc
  simp only [gssiSetSecContextOption] at hc
  split at hc
  · split at hc
    · rename_i hd
      cases hc
      exact .inl (ha hd)
    · cases hc
  · cases hc

theorem gssiExportSecContext_new {ctxs : Table (CtxHandle X)} {r : Option Nat} {misread : GssxCtx}
    {behind : Option X} {P : CtxHandle X → Prop} :
    ∀ ctx ∈ ctxs.new (gssiExportSecContext port ctxs r misread behind imported answer).value.after,
      P ctx := by
  unfold gssiExportSecContext
  split
  · rw [Calls.value_bind]
    simp only [Calls.value_pure]
    split
    · exact forall_new_put
    · exact forall_new_self
  · split
    · exact forall_new_self
    · exact forall_new_put

theorem HandsOutParts.give {place : Option Nat} {names : Table (NameHandle N)}
    {creds : Table (OutCred C)} (hn : ∀ name ∈ s.names.new names, name.HasPart)
    (hcr : ∀ cred ∈ s.creds.new creds, cred.HasPart)
    (hc : ∀ ctx, context = some ctx → ctx.HasPart) :
    HandsOutParts s place { names, creds, ctxs := s.ctxs.give place context } where
  names := hn
  creds := hcr
  newCtxs := forall_new_give hc
  context ctx hct := hc ctx (Table.get_give hct)

theorem Port.initSide_regular {w : World N C X} (port : Port) (hw : w.Delivers) :
    (port.initSide w).Regular ∧ (port.initSide w).Delivers := by
  cases port with
  | c => exact ⟨cSide_regular hw.names, cSide_delivers hw⟩
  | rust => exact ⟨rustSide_regular hw.names, rustSide_delivers hw⟩

theorem ContextCall.perform_parts {call : ContextCall N C X} (hd : call.Delivers)
    (hdo : (call.perform port behavior s).value.major = some GSS_S_COMPLETE) :
    HandsOutParts s (EntryCall.place (.context call))
      (call.perform port behavior s).value.after := by
  cases call with
  | init =>
    obtain ⟨hr, hs⟩ := port.initSide_regular hd
    exact .give forall_new_put forall_new_put (initEntry_part hr hs hd hdo)
  | accept =>
    have hf := acceptEntry_parts hd hdo
    exact .give (forall_new_add forall_new_self hf.srcName)
      (forall_new_add forall_new_self hf.delegated) hf.context
  | exportContext => exact { HandsOutParts.refl with newCtxs := gssiExportSecContext_new }
  | importByMech answer =>
    simp only [ContextCall.perform] at hdo ⊢
    rw [if_pos (Option.some.inj hdo)]
    exact { HandsOutParts.refl with
      newCtxs := forall_new_add forall_new_self (Table.forall_some (.inl (hd (Option.some.inj hdo)))) }
  | use =>
    simp only [ContextCall.perform]
    split
    · exact .refl
    · exact { HandsOutParts.refl with newCtxs := forall_new_put }
  | contextTime =>
    simp only [ContextCall.perform]
    split <;> exact .refl
  | inquire =>
    simp only [ContextCall.perform]
    split
    · exact .refl
    · obtain ⟨hsr, ht⟩ := gssiInquireContext_parts port hd.1 hd.2
      exact { HandsOutParts.refl with
        names := forall_new_add (forall_new_add forall_new_self hsr) ht }
  | setOption => exact .give forall_new_self forall_new_self (gssiSetSecContextOption_part hd)
  | delete =>
    simp only [ContextCall.perform]
    split
    · exact .refl
    · exact { HandsOutParts.refl with newCtxs := forall_new_put }

end

theorem EntryCall.perform_parts {call : EntryCall N C X} (hd : call.Delivers)
    (hdo : (call.perform port behavior s).value.major = some GSS_S_COMPLETE) :
    HandsOutParts s call.place (call.perform port behavior s).value.after := by
  cases call with
  | plain => exact .refl
  | mech => exact .refl
  | name call => exact { HandsOutParts.refl with names := NameCall.perform_parts hd }
  | cred call => exact CredCall.perform_parts hd
  | context call => exact ContextCall.perform_parts hd hdo

/-- **No empty handle**: in every run of a process, in both interposers and under every behaviour,
    whatever a call that completes hands out has a local or a remote part, if whoever completes an
    underlying call delivers what it is for. -/
theorem handed_out_with_part (port : Port) (behavior : Behavior) (s : Handles N C X)
    (calls : List (EntryCall N C X)) (hdelivers : ∀ call ∈ calls, call.Delivers) :
    ∀ p ∈ performAll port behavior s calls, p.result.value.major = some GSS_S_COMPLETE →
      HandsOutParts p.before p.call.place p.result.value.after := by
  induction calls generalizing s with
  | nil => intro p hp; cases hp
  | cons call calls ih =>
    rw [List.forall_mem_cons] at hdelivers
    intro p hp hd
    rcases List.mem_cons.mp hp with rfl | hp
    · exact EntryCall.perform_parts hdelivers.1 hd
    · split at hp
      · exact ih _ hdelivers.2 p hp hd
      · cases hp

/-! ## With and without a delegated credential -/

def accepting (delegated : Option Unit) : AcceptWorld Unit Unit Unit :=
  { moreTokens with
    acceptLocal := fun _ _ _ => ⟨GSS_S_COMPLETE, 0, some (), some (), delegated, default⟩ }

def acceptCalls (delegated : Option Unit) : List (EntryCall Unit Unit Unit) :=
  [.cred (.importByMech (GSS_S_COMPLETE, some ())),
    .context (.accept (accepting delegated)
      { (default : AcceptAsk) with wantName := true, wantDeleg := true } none (some 0))]

abbrev acceptRun (port : Port) (delegated : Option Unit) :=
  performAll port .localFirst (Handles.start Unit Unit Unit) (acceptCalls delegated)

theorem acceptCalls_delivers : ∀ call ∈ acceptCalls (some ()), call.Delivers := by
  have hm : ∀ arg res, moreTokens.daemonAccept arg = .ok res →
      res.status.majorStatus.toUInt32 ≠ GSS_S_COMPLETE := by
    intro arg res hr
    cases hr; decide
  intro call hc
  rcases List.mem_cons.mp hc with rfl | hc
  · exact fun _ => rfl
  rw [List.mem_singleton.mp hc]
  exact
    { ctx := fun _ _ _ => rfl
      srcName := fun _ _ _ _ => rfl
      delegated := fun _ _ _ _ => rfl
      major := fun arg res hr hd => absurd hd (hm arg res hr)
      daemonDelegated := fun _ arg res hr hd => absurd hd (hm arg res hr) }

/-- A delegated credential is handed out with its local part. -/
theorem delegated_handed_out :
    ((acceptRun .c (some ())).map fun p => p.before.creds.new p.result.value.after.creds) =
        [[.ofLocal (some ())], [.delegated none (some ())]] ∧
      (∀ p ∈ acceptRun .c (some ()), p.result.value.major = some GSS_S_COMPLETE →
        HandsOutParts p.before p.call.place p.result.value.after) ∧
      ∀ p ∈ acceptRun .rust (some ()), p.result.value.major = some GSS_S_COMPLETE →
        HandsOutParts p.before p.call.place p.result.value.after :=
  ⟨rfl, handed_out_with_part .c _ _ _ acceptCalls_delivers,
    handed_out_with_part .rust _ _ _ acceptCalls_delivers⟩

def HandsOutEmpty (port : Port) : Prop :=
  ∃ p ∈ acceptRun port none, p.result.value.major = some GSS_S_COMPLETE ∧
    p.before.creds.new p.result.value.after.creds = [.delegated none none] ∧
    ¬ HandsOutParts p.before p.call.place p.result.value.after

/-- Where nothing was delegated, both interposers complete and hand out a credential without a
    part. -/
theorem undelegated_handed_out : HandsOutEmpty .c ∧ HandsOutEmpty .rust := by
  have he : ∀ {before after : Handles Unit Unit Unit} {place : Option Nat},
      before.creds.new after.creds = [.delegated none none] →
        ¬ HandsOutParts before place after := by
    intro before after place hn hp
    have hpa : (OutCred.delegated none none : OutCred Unit).HasPart :=
      hp.creds _ (by rw [hn]; exact List.mem_singleton_self _)
    rcases hpa with h | h <;> cases h
  constructor <;> exact ⟨_, List.mem_cons_of_mem _ List.mem_cons_self, rfl, rfl, he rfl⟩

end GssProxy.Interposer
