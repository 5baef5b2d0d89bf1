import GssProxy.Interposer.Reports

/-!
# Minor statuses across the interposer

An entry point is to report the minor status of the call it passes on through `gpp_map_error`, so that
`gssi_display_status` finds its message.  Some exits do not map it.

* `minor_round_trip_iff`: for which calls the message is found again.
-/

namespace GssProxy.Interposer.Reports

open Gss

/-! ## The rule -/

/-- `minor_status` held `found` and now holds the mapped code, whose own message is displayed. -/
def Report.RoundTrips (ρ : Report) (found m : UInt32) : Prop :=
  ρ.minor.getD found = mapError m ∧ DisplaysMessage (ρ.minor.getD found) m

theorem Report.roundTrips_iff (ρ : Report) (found m : UInt32) :
    ρ.RoundTrips found m ↔ ρ.minor.getD found = mapError m ∧ m ≠ LOST_ERROR := by
  refine and_congr_right fun hm => ?_
  rw [hm, displaysMessage_iff, unmapError_mapError_iff]

/-! ## The exits -/

inductive Handover where
  | mapped
  | passed
  | unwritten
  | replaced (minor : UInt32)

/-- The code can be told from what is written. -/
def Handover.Faithful (found m : UInt32) : Handover → Prop
  | .mapped => m ≠ LOST_ERROR
  | .passed => m = 0
  | .unwritten => found = mapError m ∧ m ≠ LOST_ERROR
  | .replaced minor => mapError minor = mapError m ∧ m ≠ LOST_ERROR

def Handover.Writes (m : UInt32) (written : Option UInt32) : Handover → Prop
  | .mapped => written = some (mapError m)
  | .passed => written = some m ∨ written = some 0
  | .unwritten => written = none
  | .replaced minor => written = some (mapError minor)

theorem passed_faithful_iff {minor m : UInt32} (hmi : minor = m ∨ minor = 0) :
    minor = mapError m ∧ m ≠ LOST_ERROR ↔ m = 0 := by
  constructor
  · rintro ⟨hm, hl⟩
    rcases hmi with rfl | rfl
    · exact (mapError_eq_self_iff _).mp hm.symm
    · exact ((mapError_eq_zero_iff m).mp hm.symm).resolve_right hl
  · rintro rfl
    refine ⟨?_, by decide⟩
    rcases hmi with rfl | rfl <;> rfl

theorem Handover.Writes.roundTrips_iff {ρ : Report} {found m : UInt32} {handover : Handover}
    (h : handover.Writes m ρ.minor) : ρ.RoundTrips found m ↔ handover.Faithful found m := by
  rw [Report.roundTrips_iff]
  cases handover with
  | mapped =>
    have hm : ρ.minor = some (mapError m) := h
    rw [hm]
    exact and_iff_right rfl
  | passed =>
    rcases h with hm | hm
    · rw [hm]; exact passed_faithful_iff (.inl rfl)
    · rw [hm]; exact passed_faithful_iff (.inr rfl)
  | unwritten =>
    have hm : ρ.minor = none := h
    rw [hm]
    exact Iff.rfl
  | replaced minor =>
    have hm : ρ.minor = some (mapError minor) := h
    rw [hm]
    exact Iff.rfl

def useHandover (ctx : Parts) (imported : Import) : Handover :=
  match ctx, imported with
  | ⟨false, true⟩, .ok convert => if convert.major ≠ GSS_S_COMPLETE then .mapped else .passed
  | _, _ => .passed

def addHandover (mech : Bool) (create add release : Reply) : Handover :=
  if mech = true ∧ create.major = GSS_S_COMPLETE ∧ add.major ≠ GSS_S_COMPLETE then
    .replaced release.minor
  else .mapped

def initHandover (r : Reply) : Handover := if keep r.major then .passed else .mapped

/-- The kind of exit that a call leaves by. -/
def Invocation.handover (c : Invocation) (r : Reply) : Handover :=
  match c with
  | .useSecContext _ ctx imported _ => useHandover (ctx.getD ⟨false, false⟩) imported
  | .exportSecContext misread imported _ => useHandover misread imported
  | .setSecContextOption ctx imported _ => useHandover (ctx.getD ⟨false, false⟩) imported
  | .initSecContext _ _ _ _ _ _ => initHandover r
  | .contextTime ctx _ _ _ =>
    if ctx.any (·.hasRemote) = true ∧ r.major ≠ GSS_S_COMPLETE then .mapped else .passed
  | .inquireContext _ wantName _ _ =>
    if r.major = GSS_S_COMPLETE ∧ wantName = true then .passed else .mapped
  | .deleteSecContext _ _ _ => if r.major = GSS_S_COMPLETE then .unwritten else .mapped
  | .setCredOption cred _ _ => if cred.any (·.hasRemote) then .passed else .mapped
  | .releaseCred _ _ _ _ | .exportCred _ _ | .displayStatus _ _ _ _ _ => .passed
  | .addCred mech create add release _ _ _ _ _ => addHandover mech create add release
  | .addCredFrom mech create add release _ _ _ _ _ => addHandover mech create add release
  | _ => .mapped

/-- A call that is passed on leaves by an exit of its kind with its major status, unless the context
    is found expired. -/
def Report.PassesOn (ρ : Report) (handover : Reply → Handover) : Prop :=
  ∀ r, ρ.call = some r →
    (ρ.major = r.major ∨ ρ.major = GSS_S_CONTEXT_EXPIRED) ∧ (handover r).Writes r.minor ρ.minor

abbrev Report.Maps (ρ : Report) : Prop := ρ.PassesOn fun _ => .mapped

section Rules

variable {handover : Reply → Handover}

@[simp]
theorem Report.PassesOn.untouched {major : UInt32} : (untouched major).PassesOn handover := by
  intro r hc
  cases hc

@[simp]
theorem Report.PassesOn.zeroed {major : UInt32} : (zeroed major).PassesOn handover := by
  intro r hc
  cases hc

theorem Report.PassesOn.of_call {ρ : Report} {reply : Reply} {exit : Handover}
    (hc : ρ.call = some reply) (he : handover reply = exit)
    (hm : ρ.major = reply.major ∨ ρ.major = GSS_S_CONTEXT_EXPIRED)
    (hmi : exit.Writes reply.minor ρ.minor) : ρ.PassesOn handover := by
  intro r hr
  obtain rfl := Option.some.inj (hc.symm.trans hr)
  rw [he]
  exact ⟨hm, hmi⟩

theorem Reply.mapped_passesOn (reply : Reply) (he : handover reply = .mapped) :
    (Held.given reply).mapped.PassesOn handover :=
  .of_call rfl he (.inl rfl) rfl

@[simp]
theorem Report.PassesOn.mapped {held : Held} : held.mapped.Maps := by
  cases held with
  | given reply => exact reply.mapped_passesOn rfl
  | own reply => intro r hc; cases hc

theorem Report.PassesOn.unmapped {held : Held} : held.unmapped.PassesOn fun _ => .passed := by
  intro r hc
  cases held with
  | given reply => cases hc; exact ⟨.inl rfl, .inl rfl⟩
  | own reply => cases hc

@[simp]
theorem Report.PassesOn.ite {p : Prop} [Decidable p] {ρ ρ' : Report} (h : ρ.PassesOn handover)
    (h' : ρ'.PassesOn handover) : (if p then ρ else ρ').PassesOn handover := by
  split
  · exact h
  · exact h'

end Rules

/-! ## Entry points that map -/

section

variable {reply localReply remoteReply convert : Reply} {behavior : Behavior}
  {name cred ctx : Option Parts} {made : Parts} {d : Defaults} {wanted mech cached : Bool}
  {imported : Import} {store : Option UInt32} {saved : Held} {a : Acquisition}

theorem askName_maps {name : Parts} {remote : Held} : (askName name reply remote).Maps := by
  unfold askName
  split <;> simp

theorem gssiImportNameByMech_maps : (gssiImportNameByMech mech reply).Maps :=
  .ite .mapped .untouched

theorem gssiDuplicateName_maps {name : Parts} :
    (gssiDuplicateName name localReply remoteReply).Maps := by
  unfold gssiDuplicateName
  split <;> simp

theorem gssiReleaseName_maps : (gssiReleaseName name reply).Maps := by
  unfold gssiReleaseName
  split <;> simp

theorem converted_maps {name : Parts} {rest : Report} (h : rest.Maps) :
    (converted name convert rest).Maps := by
  unfold converted
  split <;> simp [h]

theorem gssiCompareName_maps {name1 name2 : Parts} {convert1 convert2 : Reply} :
    (gssiCompareName name1 name2 convert1 convert2 localReply remoteReply).Maps := by
  refine .ite ?_ (.ite .untouched .mapped)
  exact converted_maps (converted_maps .mapped)

theorem gssiLocalname_maps {made : Bool} : (gssiLocalname name remoteReply convert made reply).Maps := by
  unfold gssiLocalname
  split
  · exact .zeroed
  · exact .zeroed
  · exact .mapped
  · refine .ite .mapped (.ite .mapped (.ite ?_ .mapped))
    exact .ite .mapped .mapped

theorem convertedFirst_maps {rest : Report} (h : rest.Maps) :
    (convertedFirst name convert rest).Maps := by
  unfold convertedFirst
  split <;> simp [h]

theorem gssiReleaseAnyNameMapping_maps : (gssiReleaseAnyNameMapping name reply).Maps := by
  unfold gssiReleaseAnyNameMapping
  split <;> simp

theorem inquireMech_maps {first again : Reply} :
    (inquireMech behavior first remoteReply again).Maps := by
  refine .ite ?_ (.ite .mapped .mapped)
  exact .ite .mapped (.ite .mapped .mapped)

theorem Acquisition.remotely_maps {next : Report} (h : next.Maps) : (a.remotely saved next).Maps := by
  unfold Acquisition.remotely
  split <;> simp [h]

theorem Acquisition.called_maps : (a.called behavior store saved).Maps := by
  refine .ite ?_ (.ite .mapped .mapped)
  split <;> exact .mapped

theorem Acquisition.fromDaemon_maps : (a.fromDaemon behavior store saved).Maps :=
  Acquisition.remotely_maps Acquisition.called_maps

theorem gssiAcquireCredFrom_maps {ccache : Bool} :
    (gssiAcquireCredFrom a behavior ccache cached store wanted).Maps := by
  refine .ite (.ite (.ite .mapped ?_) ?_) .mapped <;> exact Acquisition.fromDaemon_maps

theorem gssiAcquireCredWithPassword_maps {name mechs : Bool} :
    (gssiAcquireCredWithPassword a behavior name mechs wanted).Maps := by
  refine .ite .mapped (.ite .mapped (.ite .untouched ?_))
  exact .ite .mapped (.ite .mapped .mapped)

theorem gssiAcquireCredImpersonateName_maps {impersonator : Bool} :
    (gssiAcquireCredImpersonateName a behavior impersonator wanted).Maps := by
  have hd : ∀ saved : Held, (a.remotely saved
      (if a.acquireRemote.major = GSS_S_COMPLETE ∨ behavior ≠ .remoteFirst then
        ((Held.given a.acquireRemote).orSavedFailure saved).mapped
      else (a.locally.orSavedFailure saved).mapped)).Maps := by
    intro saved
    exact Acquisition.remotely_maps (.ite .mapped .mapped)
  refine .ite .mapped (.ite .mapped (.ite (.ite ?_ ?_) ?_))
  · exact .mapped
  · exact hd a.locally
  · exact hd unsaved

theorem askCred_maps {cred : Parts} : (askCred cred localReply remoteReply).Maps := by
  unfold askCred
  split <;> exact .mapped

theorem inquireCred_maps : (inquireCred cred behavior d made localReply remoteReply).Maps := by
  unfold inquireCred
  split <;> simp [askCred_maps]

theorem gssiInquireCredByOid_maps : (gssiInquireCredByOid cred reply).Maps := by
  unfold gssiInquireCredByOid
  split <;> simp

theorem gssiStoreCredInto_maps {store : UInt32} : (gssiStoreCredInto cred store reply).Maps := by
  unfold gssiStoreCredInto
  split <;> simp

theorem gssiAcceptSecContext_maps {acceptor : Option Parts} :
    (gssiAcceptSecContext ctx acceptor behavior d made localReply remoteReply).Maps := by
  unfold gssiAcceptSecContext
  split <;> simp

/-! ## Entry points with other exits -/

theorem useContext_passesOn {ctx : Parts} :
    (useContext ctx imported reply).PassesOn fun _ => useHandover ctx imported := by
  match ctx, imported with
  | ⟨false, true⟩, .error _ => intro r hca; cases hca
  | ⟨false, true⟩, .ok convert =>
    by_cases hc : convert.major ≠ GSS_S_COMPLETE
    · simp only [useContext, useHandover, if_pos hc]; exact .mapped
    · simp only [useContext, useHandover, if_neg hc]; exact .unmapped
  | ⟨true, _⟩, _ => exact .unmapped
  | ⟨false, false⟩, _ => exact .unmapped

theorem useGiven_passesOn : (useGiven ctx imported reply).PassesOn fun _ =>
      useHandover (ctx.getD ⟨false, false⟩) imported := by
  cases ctx with
  | none => exact .untouched
  | some ctx => exact useContext_passesOn

theorem gssiContextTime_passesOn {lifetime : UInt32} :
    (gssiContextTime ctx lifetime localReply remoteReply).PassesOn
      (Invocation.contextTime ctx lifetime localReply remoteReply).handover := by
  match ctx with
  | none => exact .zeroed
  | some ⟨true, false⟩ => exact .unmapped
  | some ⟨false, false⟩ => exact .zeroed
  | some ⟨_, true⟩ =>
    by_cases hre : remoteReply.major ≠ GSS_S_COMPLETE
    · simp only [gssiContextTime, if_pos hre]
      exact remoteReply.mapped_passesOn (if_pos ⟨rfl, hre⟩)
    simp only [gssiContextTime, if_neg hre]
    refine .of_call rfl (if_neg fun h => hre h.2) ?_ (.inr rfl)
    split
    · exact .inl (not_not.mp hre).symm
    · exact .inr rfl

theorem gssiInquireContext_passesOn {wantName : Bool} :
    (gssiInquireContext ctx wantName localReply remoteReply).PassesOn
      (Invocation.inquireContext ctx wantName localReply remoteReply).handover := by
  have hi : ∀ reply : Reply, (if reply.major = GSS_S_COMPLETE ∧ wantName = true then
      ⟨some reply, GSS_S_COMPLETE, some (mapError 0)⟩
      else (Held.given reply).mapped : Report).PassesOn
        (Invocation.inquireContext ctx wantName localReply remoteReply).handover := by
    intro reply
    by_cases hn : reply.major = GSS_S_COMPLETE ∧ wantName = true
    · rw [if_pos hn]
      exact .of_call rfl (if_pos hn) (.inl hn.1.symm) (.inr rfl)
    · rw [if_neg hn]; exact reply.mapped_passesOn (if_neg hn)
  match ctx with
  | none => exact .untouched
  | some ⟨false, false⟩ => exact .untouched
  | some ⟨true, _⟩ => exact hi localReply
  | some ⟨false, true⟩ => exact hi remoteReply

theorem gssiDeleteSecContext_passesOn : (gssiDeleteSecContext ctx localReply remoteReply).PassesOn
      (Invocation.deleteSecContext ctx localReply remoteReply).handover := by
  unfold gssiDeleteSecContext
  split
  · exact .zeroed
  rename_i ctx
  split
  · rename_i hl
    exact localReply.mapped_passesOn (if_neg hl.2)
  rename_i hl
  split
  · rename_i hre
    exact remoteReply.mapped_passesOn (if_neg hre.2)
  intro r hca
  obtain ⟨hp, hr⟩ := Option.ite_none_right_eq_some.mp hca
  have hc : localReply.major = GSS_S_COMPLETE := not_not.mp fun hne => hl ⟨hp, hne⟩
  have he : Report.PassesOn ⟨some localReply, GSS_S_COMPLETE, none⟩
      (Invocation.deleteSecContext (some ctx) localReply remoteReply).handover :=
    .of_call rfl (if_pos hc) (.inl hc.symm) rfl
  exact he r hr

theorem gssiSetCredOption_passesOn {option : Option UInt32} :
    (gssiSetCredOption cred option reply).PassesOn
      (Invocation.setCredOption cred option reply).handover := by
  match cred, option with
  | none, _ => exact .zeroed
  | some ⟨_, true⟩, none => exact .zeroed
  | some ⟨_, true⟩, some err => exact .unmapped
  | some ⟨true, false⟩, _ => exact .mapped
  | some ⟨false, false⟩, _ => exact .zeroed

theorem gssiReleaseCred_passesOn {pointer : Bool} :
    (gssiReleaseCred pointer cred localReply remoteReply).PassesOn fun _ => .passed := by
  refine .ite ?_ .untouched
  split
  · exact .zeroed
  · exact .ite .unmapped .unmapped

theorem gssiExportCred_passesOn : (gssiExportCred cred reply).PassesOn fun _ => .passed := by
  unfold gssiExportCred
  split
  · exact .untouched
  · exact .ite .unmapped .untouched

theorem gssiDisplayStatus_passesOn {saved : Option Proto.GssxStatus}
    {glue : UInt32 → UInt32 → Shown} {value : UInt32} {statusType : StatusType}
    {messageContext : UInt32} :
    (gssiDisplayStatus saved glue value statusType messageContext).PassesOn fun _ => .passed := by
  intro r hc
  obtain ⟨minor, hm, rfl⟩ := Option.map_eq_some_iff.mp hc
  exact ⟨.inl rfl, .inl hm⟩

theorem gssiAddCredFrom_passesOn {create add release : Reply} :
    (gssiAddCredFrom mech create add release a behavior cached store wanted).PassesOn fun _ =>
      addHandover mech create add release := by
  refine .ite ?_ .untouched
  split
  · rename_i hm
    split
    · rename_i hc
      exact create.mapped_passesOn (if_neg fun h => hc h.2.1)
    rename_i hc
    split
    · rename_i ha
      exact .of_call rfl (if_pos ⟨hm, not_not.mp hc, ha⟩) (.inl rfl) rfl
    · rename_i ha
      rw [addHandover, if_neg fun h => ha h.2.2]
      exact gssiAcquireCredFrom_maps
  · rename_i hm
    rw [addHandover, if_neg fun h => hm h.1]
    exact gssiAcquireCredFrom_maps

theorem Report.PassesOn.initiated {held : Held} : (held.initiated saved).PassesOn initHandover := by
  unfold Held.initiated
  cases held.orSavedFailure saved with
  | own reply =>
    intro r hc
    dsimp only at hc
    split at hc <;> cases hc
  | given reply =>
    dsimp only
    split
    · rename_i hk
      exact .of_call rfl (if_pos hk) (.inl rfl) (.inr rfl)
    · rename_i hk; exact reply.mapped_passesOn (if_neg hk)

theorem Initiation.fromDaemon_passesOn {a : Initiation} :
    (a.fromDaemon behavior saved).PassesOn initHandover := by
  have hc : (a.called behavior saved).PassesOn initHandover := .ite .initiated .initiated
  unfold Initiation.fromDaemon
  cases a.toRemote with
  | none => exact hc
  | some convert => exact .ite .initiated hc

theorem Initiation.establish_passesOn {a : Initiation} :
    (a.establish behavior).PassesOn initHandover := by
  refine .ite (.ite .initiated ?_) ?_ <;> exact Initiation.fromDaemon_passesOn

theorem gssiInitSecContext_passesOn {a : Initiation} {target ctxLocal : Bool}
    {claimant : Option Parts} :
    (gssiInitSecContext a behavior target mech ctxLocal claimant).PassesOn initHandover := by
  refine .ite .zeroed (.ite .zeroed ?_)
  split
  · exact Initiation.establish_passesOn
  · exact .ite .initiated Initiation.establish_passesOn
  · exact Initiation.establish_passesOn

end

theorem Invocation.report_passesOn (c : Invocation) : c.report.PassesOn c.handover := by
  cases c with
  -- names
  | displayName | inquireName => exact askName_maps
  | displayNameExt | getNameAttribute => exact askName_maps
  | setNameAttribute | deleteNameAttribute => exact askName_maps
  | importName => exact .untouched
  | importNameByMech => exact gssiImportNameByMech_maps
  | duplicateName => exact gssiDuplicateName_maps
  | releaseName => exact gssiReleaseName_maps
  | compareName => exact gssiCompareName_maps
  | localname => exact gssiLocalname_maps
  | authorizeLocalname => exact convertedFirst_maps (.ite .mapped .mapped)
  | mapNameToAny => exact convertedFirst_maps .mapped
  | releaseAnyNameMapping => exact gssiReleaseAnyNameMapping_maps
  -- mechanisms
  | forMech => rw [Invocation.report, mechEntry_eq]; exact inquireMech_maps
  | indicateMechs => exact .zeroed
  | inquireMechForSaslname => exact .untouched
  | mechInvoke => exact .mapped
  | internalReleaseOid => exact .zeroed
  | displayStatus => exact gssiDisplayStatus_passesOn
  -- credentials
  | acquireCred | acquireCredFrom => exact gssiAcquireCredFrom_maps
  | addCred | addCredFrom => exact gssiAddCredFrom_passesOn
  | acquireCredWithPassword => exact gssiAcquireCredWithPassword_maps
  | acquireCredImpersonateName => exact gssiAcquireCredImpersonateName_maps
  | inquireCred => rw [Invocation.report, inquireEntry_eq]; exact inquireCred_maps
  | inquireCredByOid => exact gssiInquireCredByOid_maps
  | setCredOption => exact gssiSetCredOption_passesOn
  | storeCred => rw [Invocation.report, storeEntry_eq]; exact gssiStoreCredInto_maps
  | releaseCred => exact gssiReleaseCred_passesOn
  | exportCred => exact gssiExportCred_passesOn
  | importCred => exact .untouched
  | importCredByMech => exact .ite .mapped .mapped
  -- contexts
  | initSecContext => exact gssiInitSecContext_passesOn
  | acceptSecContext => exact gssiAcceptSecContext_maps
  | useSecContext => rw [Invocation.report, useEntry_eq]; exact useGiven_passesOn
  | exportSecContext | setSecContextOption => exact useContext_passesOn
  | importSecContext => exact .untouched
  | importSecContextByMech => exact .ite .mapped .mapped
  | contextTime => exact gssiContextTime_passesOn
  | inquireContext => exact gssiInquireContext_passesOn
  | deleteSecContext => exact gssiDeleteSecContext_passesOn

/-- **The minor status of a call comes back through `gssi_display_status` exactly where the exit is
    faithful to it.** -/
theorem minor_round_trip_iff (c : Invocation) (found : UInt32) {r : Reply}
    (h : c.report.call = some r) :
    c.report.RoundTrips found r.minor ↔ (c.handover r).Faithful found r.minor :=
  (c.report_passesOn r h).2.roundTrips_iff

/-- An acceptance that fails on the local mechanism, with the code for an expired ticket. -/
theorem accept_minor_round_trip :
    let c := Invocation.acceptSecContext none (some ⟨true, false⟩) .localFirst
      ⟨none, ⟨GSS_S_COMPLETE, 0⟩, none⟩ ⟨false, false⟩ ⟨GSS_S_FAILURE, 0x96c73a20⟩
      ⟨GSS_S_COMPLETE, 0⟩
    c.report.call = some ⟨GSS_S_FAILURE, 0x96c73a20⟩ ∧ c.report.RoundTrips 0 0x96c73a20 := by
  refine ⟨rfl, ?_⟩
  refine (minor_round_trip_iff _ 0 (r := ⟨GSS_S_FAILURE, 0x96c73a20⟩) rfl).mpr ?_
  show (0x96c73a20 : UInt32) ≠ LOST_ERROR
  decide

/-- **The same failure of `gssi_wrap`** is reported as it is, and displayed as another; and a mapped
    code can be lost. -/
theorem wrap_minor_unmapped :
    let c := Invocation.useSecContext .wrap (some ⟨true, false⟩) (.ok ⟨GSS_S_COMPLETE, 0⟩)
      ⟨GSS_S_FAILURE, 0x96c73a20⟩
    let lost := Invocation.mechInvoke ⟨GSS_S_FAILURE, LOST_ERROR⟩
    (c.report.call = some ⟨GSS_S_FAILURE, 0x96c73a20⟩ ∧ c.report.minor = some 0x96c73a20 ∧
      DisplaysMessage 0x96c73a20 0x92a73a20 ∧ ¬ c.report.RoundTrips 0 0x96c73a20) ∧
      lost.report.minor = some 0 ∧ DisplaysMessage 0 0 ∧ ¬ lost.report.RoundTrips 0 LOST_ERROR := by
  refine ⟨⟨rfl, rfl, ?_, ?_⟩, ?_, ?_, ?_⟩
  · exact (displaysMessage_iff _ _).mpr (by decide)
  · rintro ⟨hm, _⟩; exact absurd hm (by decide)
  · decide
  · exact (displaysMessage_iff _ _).mpr rfl
  · rintro ⟨_, hd⟩
    exact absurd ((displaysMessage_iff _ _).mp hd) (by decide)

end GssProxy.Interposer.Reports
