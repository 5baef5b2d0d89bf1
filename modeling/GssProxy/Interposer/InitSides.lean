import GssProxy.Interposer.Sides

/-!
# The side of an initiating context

Each call of `gssi_init_sec_context` decides anew where its token goes.  A context with a local part stays
with the local mechanism; a remote part is not looked at.

* `init_stays_on_one_side`: when the calls of an initiation stay on one side.
-/

namespace GssProxy.Interposer

open Codec Gss Proto Client Effect

/-! ## Failed conversions of names -/

section

variable {N : Type} {lib : LocalNames N} {e : Exit}

structure LocalNames.FailsPlainly (lib : LocalNames N) : Prop where
  importName : ∀ value nameType s, lib.importName value nameType = .error s → keep s.major = false
  canonicalizeName : ∀ name mech s, lib.canonicalizeName name mech = .error s → keep s.major = false
  displayName : ∀ name s, lib.displayName name = .error s → keep s.major = false

variable {name : GssxName} {target : Option GssxName}

theorem stealExported_fails (h : stealExported name = .error e) : e.keep = false := by
  unfold stealExported at h
  split at h
  · split at h
    · cases h; rfl
    · cases h
  · cases h

theorem gpmNameOidToStatic_fails {nameType : Bytes} (h : gpmNameOidToStatic nameType = .error e) :
    e.keep = false := by
  unfold gpmNameOidToStatic at h
  split at h
  · cases h
  · cases h; rfl

theorem gpCopyGssxToStringBuffer_fails {buf : Bytes}
    (h : gpCopyGssxToStringBuffer buf = .error e) : e.keep = false := by
  unfold gpCopyGssxToStringBuffer at h
  split at h
  · cases h
  · cases h; rfl

theorem bind_fails {α β : Type} {m : Except Exit α} {f : α → Except Exit β}
    (hm : ∀ {e}, m = .error e → e.keep = false) (hf : ∀ {a e}, f a = .error e → e.keep = false)
    (h : (m >>= f) = .error e) : e.keep = false := by
  cases m with
  | error e' => cases h; exact hm rfl
  | ok a => exact hf h

theorem gpmDisplayName_fails (h : gpmDisplayName (some name) = .error e) : e.keep = false :=
  bind_fails stealExported_fails (bind_fails gpCopyGssxToStringBuffer_fails
    (bind_fails gpmNameOidToStatic_fails fun h => by cases h)) h

theorem displayName_fails (h : displayName name = .error e) : e.keep = false :=
  bind_fails stealExported_fails (fun h => by cases h) h

theorem importDisplayed_fails (hl : lib.FailsPlainly) {d : Displayed} {mech : Option Bytes}
    (h : (importDisplayed lib d mech).1 = .error e) : e.keep = false := by
  unfold importDisplayed at h
  split at h
  · rename_i s hi
    cases h
    exact hl.importName _ _ _ hi
  split at h
  · cases h
  split at h
  · rename_i s hc
    cases h
    exact hl.canonicalizeName _ _ _ hc
  · cases h

theorem gppNameToLocal_fails (hl : lib.FailsPlainly) {remote : GssxName} {mech : Option Bytes}
    (h : (gppNameToLocal lib remote mech).1 = .error e) : e.keep = false := by
  unfold gppNameToLocal at h
  split at h
  · rename_i e' hd
    cases h
    exact gpmDisplayName_fails hd
  · exact importDisplayed_fails hl h

theorem nameToLocal_fails (hl : lib.FailsPlainly) {remote : GssxName} {mech : Option Bytes}
    (h : (nameToLocal lib remote mech).1 = .error e) : e.keep = false := by
  unfold nameToLocal at h
  split at h
  · rename_i e' hd
    cases h
    exact displayName_fails hd
  split at h
  · rename_i e' hs
    cases h
    exact gpmNameOidToStatic_fails hs
  split at h
  · rename_i e' name hi
    cases h
    exact importDisplayed_fails hl (congrArg Prod.fst hi)
  · cases h

end

/-! ## The attempts of an initiation -/

def InitCall.party {C : Type} : InitCall C → Party
  | .localMech _ => .localMech
  | .daemon _ => .daemon

section

variable {N C X : Type}

structure LocalInit.Regular (lib : LocalInit N C X) : Prop
    extends lib.toLocalNames.FailsPlainly where
  keeps : ∀ cred ctx name mech req, keep (lib.initSecContext cred ctx name mech req).major = true →
    (lib.initSecContext cred ctx name mech req).ctx.isSome = true
  fails : ∀ cred name mech req, keep (lib.initSecContext cred none name mech req).major = false →
    (lib.initSecContext cred none name mech req).ctx = none

/-- A conversion or a call to the daemon that fails leaves no context or the one before. -/
structure Side.Regular (side : Side N) : Prop where
  toLocal : ∀ {remote mech e}, (side.toLocal remote mech).1 = .error e → e.keep = false
  failed : ∀ {cred context target mech req},
    (side.remote cred context target mech req).exit.keep = false →
      (side.remote cred context target mech req).context = none ∨
        (side.remote cred context target mech req).context = context

def Side.Answers (side : Side N) : Prop :=
  ∀ cred context target mech req, (side.remote cred context target mech req).exit.keep = true

theorem cSide_regular {w : World N C X} (hn : w.lib.toLocalNames.FailsPlainly) :
    (cSide w).Regular where
  toLocal h := gppNameToLocal_fails hn h
  failed {_ _ _ _ _} := by
    unfold cSide gpmInitSecContext
    simp only
    split
    · exact fun _ => .inl rfl
    split
    · exact fun _ => .inl rfl
    split
    · rename_i hk
      split
      · exact fun h => absurd (hk.symm.trans h) (by decide)
      · split <;> exact fun _ => .inl rfl
    · exact fun _ => .inl rfl

theorem rustSide_regular {w : World N C X} (hn : w.lib.toLocalNames.FailsPlainly) :
    (rustSide w).Regular where
  toLocal h := nameToLocal_fails hn h
  failed {cred context target mech req} := by
    unfold rustSide
    simp only
    split
    · rename_i hk
      exact fun h => absurd (hk.symm.trans h) (by decide)
    · exact fun _ => .inr rfl

variable {side : Side N} {w : World N C X} {mech : Bytes} {req : InitRequest} {behavior : Behavior}
  {cred : CredHandle C} {ctx : CtxHandle X} {name : NameHandle N}

structure Tries (p : Party) (ctx : CtxHandle X) (m : Calls (InitCall C) (Leg N C X)) : Prop
    extends TriedOn p ctx m.value.ctx m.value.exit (m.log.map InitCall.party) where
  made : m.value.exit.keep = true → m.log.map InitCall.party ≠ []
  failed : m.value.exit.keep = false → m.value.ctx.on p = true → ctx.on p = true

theorem Tries.unmade {p : Party} {exit : Exit} {output : InitOutput} (hf : exit.keep = false) :
    Tries p ctx (pure { exit, cred, ctx, name, output }) where
  calls _ hq := (nomatch hq)
  other _ _ := rfl
  kept _ h := absurd (hf.symm.trans h) (by decide)
  made h := absurd (hf.symm.trans h) (by decide)
  failed _ h := h

theorem NameHandle.localize_fails (hs : side.Regular) {e : Exit} {name' : NameHandle N}
    (h : name.localize side mech = (.error e, name')) : e.keep = false := by
  unfold NameHandle.localize at h
  split at h
  · exact hs.toLocal (congrArg Prod.fst h)
  · cases h

theorem NameHandle.toRemote_fails {lib : LocalNames N} (hl : lib.FailsPlainly) {e : Exit}
    (h : name.toRemote lib = .error e) : e.keep = false := by
  unfold NameHandle.toRemote gppLocalToName at h
  split at h
  · split at h
    · rename_i s hd
      cases h
      exact hl.displayName _ _ hd
    · cases h
  · cases h

variable (hs : side.Regular) (hl : w.lib.Regular)

include hs hl in
theorem initCtxLocal_tries :
    Tries .localMech ctx (initCtxLocal side w mech req cred ctx name) := by
  unfold initCtxLocal
  split
  · rename_i exit' name' hn
    exact .unmade (NameHandle.localize_fails hs hn)
  rename_i name' hn
  refine ⟨⟨?_, ?_, ?_⟩, ?_, ?_⟩
  · intro q hq; exact List.mem_singleton.mp hq
  · intro q hq
    cases q with
    | localMech => exact absurd rfl hq
    | daemon => rfl
  · intro _ hk; exact hl.keeps _ _ _ _ _ hk
  · intro _; exact List.cons_ne_nil _ _
  · intro hf hon
    by_contra ho
    have hc : ctx.localCtx = none := Option.not_isSome_iff_eq_none.mp ho
    have hno := hl.fails cred.localCred name'.localName (specialMech mech) req
    rw [← hc] at hno
    have hg : (w.lib.initSecContext cred.localCred ctx.localCtx name'.localName
        (specialMech mech) req).ctx.isSome = true := hon
    rw [hno hf, hc] at hg; cases hg

include hs in
theorem Side.Regular.left {credR : Option GssxCred} {context : Option GssxCtx}
    (hf : (side.remote credR context target mech req).exit.keep = false)
    (hc : (side.remote credR context target mech req).context.isSome = true) :
    context.isSome = true := by
  rcases hs.failed hf with hn | hsa
  · rw [hn] at hc; cases hc
  · rwa [hsa] at hc

theorem Side.Regular.tries (hs : side.Regular) {credR : Option GssxCred} {p : Leg N C X}
    (hc : p.ctx = { ctx with
      remote := (side.remote credR ctx.remote target mech req).context })
    (he : p.exit = (side.remote credR ctx.remote target mech req).exit)
    (arg : ArgInitSecContext) :
    Tries .daemon ctx (Calls.mk [InitCall.daemon arg] p : Calls (InitCall C) (Leg N C X)) where
  calls q hq := List.mem_singleton.mp hq
  other q hq := by
    cases q with
    | localMech =>
      show p.ctx.localCtx.isSome = ctx.localCtx.isSome
      rw [hc]
    | daemon => exact absurd rfl hq
  kept h := (nomatch h)
  made _ := List.cons_ne_nil _ _
  failed hf hon := by
    have hon' : p.ctx.remote.isSome = true := hon
    rw [hc] at hon'
    exact hs.left (he ▸ hf) hon'

theorem initCtxRemote_named (side : Side N) (mech : Bytes) (req : InitRequest)
    (behavior : Behavior) (cred : CredHandle C) (ctx : CtxHandle X) {name' : NameHandle N}
    (hn : name.toRemote w.lib.toLocalNames = .ok name') :
    ∃ cred' : CredHandle C, cred' = ⟨cred.remote <|> defaultRemote w, cred.localCred⟩ ∧
      initCtxRemote side w mech req behavior cred ctx name =
      (let reply := side.remote cred'.remote ctx.remote name'.remote mech req
      let ctx' := { ctx with remote := reply.context }
      let rest : Calls (InitCall C) (Leg N C X) :=
        if reply.exit.keep then
          pure ⟨reply.exit, { cred' with remote := reply.outCred <|> cred'.remote }, ctx', name',
            reply.output⟩
        else if behavior = .remoteFirst ∧ reply.exit ≠ .fault then
          initCtxLocal side w mech req cred' ctx' name'
        else pure ⟨reply.exit, cred', ctx', name', reply.output⟩
      ⟨.daemon (initArg cred'.remote ctx.remote name'.remote mech req) :: rest.log,
        rest.value⟩) := by
  unfold initCtxRemote
  rw [hn]
  obtain ⟨remote, localCred⟩ := cred
  cases remote with
  | none | some _ => exact ⟨_, rfl, rfl⟩

theorem initCtxRemote_ends (hs : side.Regular) (hna : w.lib.toLocalNames.FailsPlainly) :
    Tries .daemon ctx (initCtxRemote side w mech req behavior cred ctx name) ∨
      behavior = .remoteFirst ∧ ¬ side.Answers ∧ ∃ arg cred' ctx' name',
        (∀ q, ctx'.on q = true → ctx.on q = true) ∧
          initCtxRemote side w mech req behavior cred ctx name =
            ⟨.daemon arg :: (initCtxLocal side w mech req cred' ctx' name').log,
              (initCtxLocal side w mech req cred' ctx' name').value⟩ := by
  cases hn : name.toRemote w.lib.toLocalNames with
  | error exit =>
    unfold initCtxRemote
    rw [hn]
    exact .inl (.unmade (NameHandle.toRemote_fails hna hn))
  | ok name' =>
    obtain ⟨cred', -, heq⟩ := initCtxRemote_named side mech req behavior cred ctx hn
    simp only at heq
    rw [heq]
    by_cases hk : (side.remote cred'.remote ctx.remote name'.remote mech req).exit.keep = true
    · rw [if_pos hk]; exact .inl (hs.tries rfl rfl _)
    rw [if_neg hk]
    split
    · rename_i hf
      refine .inr ⟨hf.1, fun h => hk (h _ _ _ _ _), _, cred', _, name', ?_, rfl⟩
      intro q hq
      cases q with
      | localMech => exact hq
      | daemon => exact hs.left (by simpa using hk) hq
    · exact .inl (hs.tries rfl rfl _)

theorem Leg.orElse_keep {leg : Leg N C X} {saved : Exit} (hs : saved.keep = false) :
    (leg.orElse saved).exit.keep = leg.exit.keep := by
  unfold Leg.orElse
  split
  · rfl
  rename_i h
  cases hk : leg.exit.keep with
  | true => exact absurd (.inl hk) h
  | false => exact hs

theorem Leg.orElse_ctx {leg : Leg N C X} {saved : Exit} : (leg.orElse saved).ctx = leg.ctx := by
  unfold Leg.orElse
  split <;> rfl

def EndsFresh (m : Calls (InitCall C) (Leg N C X)) : Prop :=
  ∃ p before earlier given, before.Empty ∧ TriedOn p before m.value.ctx m.value.exit given ∧
      (m.value.exit.keep = true → given ≠ []) ∧ m.log.map InitCall.party = earlier ++ given

theorem Tries.endsFresh {p : Party} {m : Calls (InitCall C) (Leg N C X)} (h : Tries p ctx m)
    (he : ctx.Empty) : EndsFresh m :=
  ⟨p, ctx, [], _, he, h.toTriedOn, h.made, rfl⟩

theorem EndsFresh.after {m m' : Calls (InitCall C) (Leg N C X)} (h : EndsFresh m)
    (calls : List (InitCall C)) (hl : m'.log = calls ++ m.log)
    (hc : m'.value.ctx = m.value.ctx) (hk : m'.value.exit.keep = m.value.exit.keep) :
    EndsFresh m' := by
  obtain ⟨p, before, earlier, given, he, ht, hm, hg⟩ := h
  refine ⟨p, before, calls.map InitCall.party ++ earlier, given, he, ?_, ?_, ?_⟩
  · rw [hc]
    exact { ht with kept := fun hp h => ht.kept hp (hk ▸ h) }
  · exact fun h => hm (hk ▸ h)
  · rw [hl, List.map_append, hg, List.append_assoc]

theorem CtxHandle.Empty.of_le {ctx' : CtxHandle X} (he : ctx.Empty)
    (hle : ∀ q, ctx'.on q = true → ctx.on q = true) : ctx'.Empty := by
  intro q
  cases hon : ctx'.on q with
  | false => rfl
  | true => exact absurd ((he q).symm.trans (hle q hon)) (by decide)

include hs hl

theorem initCtxRemote_fresh (he : ctx.Empty) :
    EndsFresh (initCtxRemote side w mech req behavior cred ctx name) := by
  have hen : Tries .daemon ctx (initCtxRemote side w mech req behavior cred ctx name) ∨ _ :=
    initCtxRemote_ends hs hl.toFailsPlainly
  rcases hen with ht | ⟨-, -, arg, cred', ctx', name', hle, heq⟩
  · exact ht.endsFresh he
  · rw [heq]
    exact ((initCtxLocal_tries hs hl).endsFresh (he.of_le hle)).after [.daemon arg] rfl
      rfl rfl

theorem establish_fresh (he : ctx.Empty) :
    EndsFresh (establish side w mech req behavior cred ctx name) := by
  have ht : Tries .localMech ctx (initCtxLocal side w mech req cred ctx name) :=
    initCtxLocal_tries hs hl
  unfold establish
  generalize initCtxLocal side w mech req cred ctx name = tried at ht ⊢
  split
  · by_cases hk : tried.value.exit.keep = true ∨ behavior = .localOnly ∨ tried.value.exit = .fault
    · apply (ht.endsFresh he).after []
      · simp [if_pos hk]
      · simp [if_pos hk]
      · simp [if_pos hk]
    · -- The local attempt has failed, so it has left the handle empty for the daemon.
      have hf : tried.value.exit.keep = false := by simpa using fun h => hk (.inl h)
      have hle : ∀ q, tried.value.ctx.on q = true → ctx.on q = true := by
        intro q hq
        by_cases hlo : q = .localMech
        · rw [hlo] at hq ⊢; exact ht.failed hf hq
        · rwa [ht.other q hlo] at hq
      apply (initCtxRemote_fresh hs hl (he.of_le hle)).after
      · simp only [Calls.log_bind, if_neg hk, Calls.log_pure, List.append_nil]; rfl
      · simp [if_neg hk, Leg.orElse_ctx]
      · simp [if_neg hk, Leg.orElse_keep hf]
  · exact initCtxRemote_fresh hs hl he

theorem establish_localOnly :
    Tries .localMech ctx (establish side w mech req .localOnly cred ctx name) := by
  rw [establish_localOnly_eq]
  exact initCtxLocal_tries hs hl

theorem establish_remote (hb : behavior = .remoteOnly ∨ behavior = .remoteFirst ∧ side.Answers) :
    Tries .daemon ctx (establish side w mech req behavior cred ctx name) := by
  have he : Tries .daemon ctx (initCtxRemote side w mech req behavior cred ctx name) ∨ _ :=
    initCtxRemote_ends hs hl.toFailsPlainly
  rcases hb with rfl | ⟨rfl, ha⟩
  · rcases he with ht | ⟨hb, -⟩
    · exact ht
    · cases hb
  · rcases he with ht | ⟨-, hf, -⟩
    · exact ht
    · exact absurd ha hf

/-! ## The entry points -/

omit hs hl

theorem finish_asksMore {claimant : Option (CredHandle C)} {leg : Leg N C X} :
    asksMore (finish claimant leg).exit = asksMore leg.exit := by
  unfold finish
  cases leg.exit with
  | fault => rfl
  | status s =>
    simp only
    split <;> rfl

def TurnedBy (context : Option (CtxHandle X)) (r : Calls (InitCall C) (InitResult N C X)) : Prop :=
  Turned context r.value.exit r.value.context (r.log.map InitCall.party)

variable {claimant : Option (CredHandle C)} {m : Calls (InitCall C) (Leg N C X)}

theorem turnedBy_finish {context : Option (CtxHandle X)}
    (h : Turned context m.value.exit (freeEmpty m.value.exit m.value.ctx)
      (m.log.map InitCall.party)) :
    TurnedBy context (m >>= fun leg => pure (finish claimant leg)) where
  oneSided := h.oneSided
  asks ha := by
    have ha' : asksMore (finish claimant m.value).exit = true := ha
    rw [finish_asksMore] at ha'
    rw [Calls.log_bind, Calls.log_pure, List.append_nil]
    exact h.asks ha'
  calls p hp := by rw [Calls.log_bind, Calls.log_pure, List.append_nil]; exact h.calls p hp
  stays := h.stays

theorem Tries.turnedBy {p : Party} (h : Tries p ctx m) (ho : ctx.OwnedBy p) :
    TurnedBy (some ctx) (m >>= fun leg => pure (finish claimant leg)) :=
  turnedBy_finish (h.toTriedOn.turned (.inr ⟨rfl, ho⟩) (.inl rfl))

theorem EndsFresh.turnedBy (h : EndsFresh m) :
    TurnedBy none (m >>= fun leg => pure (finish claimant leg)) := by
  obtain ⟨p, before, earlier, given, he, ht, hm, hg⟩ := h
  apply turnedBy_finish
  rw [hg]
  exact ht.turned (.inl ⟨rfl, he⟩) (.inr ⟨rfl, hm⟩)

def DaemonAnswers (w : World N C X) : Prop :=
  ∀ arg, ∃ res, w.daemonInit arg = .ok res ∧ keep res.status.majorStatus.toUInt32 = true ∧
    res.contextHandle.isSome = true ∧ ∃ mechs, w.mechs = .ok mechs ∧ res.status.mech.data ∈ mechs

/-- A context without a local part is continued with a credential without one, under a behaviour
    that turns to the daemon first and to nobody else. -/
def LeadsToDaemon (w : World N C X) (behavior : Behavior) (claimant : Option (CredHandle C))
    (context : Option (CtxHandle X)) : Prop :=
  ∀ ctx ∈ context, ctx.localCtx = none →
    (behavior = .remoteOnly ∨ behavior = .remoteFirst ∧ DaemonAnswers w) ∧
      ∀ cred ∈ claimant, cred.localCred = none

include hs hl in
theorem initEntry_turnedBy (ha : DaemonAnswers w → side.Answers) {context : Option (CtxHandle X)}
    {target : Option (NameHandle N)} {mech : Option Bytes} (hsi : OneSided context)
    (hle : LeadsToDaemon w behavior claimant context) :
    TurnedBy context (initEntry side w behavior claimant context target mech req) := by
  unfold initEntry
  split
  · exact .refused hsi rfl
  split
  · exact .refused hsi rfl
  split
  · exact .refused hsi rfl
  cases context with
  | none =>
    have he : ({ remote := none, localCtx := none } : CtxHandle X).Empty := by
      intro q
      cases q <;> rfl
    cases claimant with
    | none => exact (establish_fresh hs hl he).turnedBy
    | some cred =>
      simp only
      split <;> exact (establish_fresh hs hl he).turnedBy
  | some ctx =>
    obtain ⟨p, ho⟩ := hsi ctx rfl
    cases p with
    | localMech =>
      have hlo : contextIsLocal (some ctx) = true := ho.present rfl
      cases claimant with
      | none =>
        simp only [hlo, if_true]
        exact (establish_localOnly hs hl).turnedBy ho
      | some cred =>
        simp only [hlo, if_true]
        split
        · exact (establish_localOnly hs hl).turnedBy ho
        · exact Tries.turnedBy (.unmade rfl) ho
    | daemon =>
      have hlo : contextIsLocal (some ctx) = false := ho.within .localMech (by decide)
      have hn : ctx.localCtx = none :=
        Option.isNone_iff_eq_none.mp (Option.isSome_eq_false_iff.mp hlo)
      obtain ⟨hb, hc⟩ := hle ctx rfl hn
      have hb' := hb.imp_right (And.imp_right ha)
      cases claimant with
      | none =>
        simp only [hlo]
        exact (establish_remote hs hl hb').turnedBy ho
      | some cred =>
        have hcr : cred.localCred = none := hc cred rfl
        simp only [hlo, hcr]
        exact (establish_remote hs hl hb').turnedBy ho

theorem cSide_answers (ha : DaemonAnswers w) : (cSide w).Answers := by
  intro cred context target mech req
  obtain ⟨res, hr, hk, hso, mechs, hm, hme⟩ := ha (initArg cred context target mech req)
  obtain ⟨ctx, hc⟩ := Option.isSome_iff_exists.mp hso
  have hs : ∃ oid, (if req.wantMech then gpmMechToStatic w.mechs res.status.mech.data
      else .ok []) = .ok oid := by
    rw [hm]
    cases req.wantMech with
    | false => exact ⟨[], rfl⟩
    | true =>
      refine ⟨res.status.mech.data, ?_⟩
      show (if res.status.mech.data ∈ mechs then _ else _) = _
      rw [if_pos hme]; rfl
  obtain ⟨oid, ho⟩ := hs
  show (gpmInitSecContext w.mechs w.daemonInit cred context target mech req).exit.keep = true
  rw [(gpmInitSecContext_kept hr ho hk hc).1]
  exact hk

theorem rustSide_answers (ha : DaemonAnswers w) : (rustSide w).Answers := by
  intro cred context target mech req
  obtain ⟨res, hr, hk, -⟩ := ha (initArg cred context target mech req)
  have hm : keep (initSecContext w.daemonInit cred context target mech req).major = true := by
    unfold initSecContext
    rw [hr]
    exact hk
  unfold rustSide
  simp only [if_pos hm]
  exact hm

/-! ## Sequences of calls -/

/-- A call with all it meets. -/
structure InitUse (N C X : Type) where
  world : World N C X
  behavior : Behavior
  claimant : Option (CredHandle C)
  target : Option (NameHandle N)
  mech : Option Bytes
  req : InitRequest

def InitUse.run (use : InitUse N C X) (context : Option (CtxHandle X)) :
    Port → Calls (InitCall C) (InitResult N C X)
  | .c => gssiInitSecContext use.world use.behavior use.claimant context use.target use.mech use.req
  | .rust =>
    rustGssiInitSecContext use.world use.behavior use.claimant context use.target use.mech use.req

def initDialogue (N C X : Type) (port : Port) :
    Dialogue (CtxHandle X) (InitUse N C X) (InitCall C) (InitResult N C X) Party where
  step context use := use.run context port
  next r := r.context
  more r := asksMore r.exit
  party k := some k.party

/-- The local mechanism leaves a context when it asks for more, and a context without a local part
    goes on to the daemon. -/
structure InitUse.Steady (context : Option (CtxHandle X)) (use : InitUse N C X) : Prop where
  lib : use.world.lib.Regular
  leads : LeadsToDaemon use.world use.behavior use.claimant context

theorem InitUse.Steady.turnedBy {port : Port} {use : InitUse N C X}
    {context : Option (CtxHandle X)} (hu : use.Steady context) (hs : OneSided context) :
    TurnedBy context (use.run context port) := by
  have hn := hu.lib.toFailsPlainly
  cases port with
  | c => exact initEntry_turnedBy (cSide_regular hn) hu.lib cSide_answers hs hu.leads
  | rust => exact initEntry_turnedBy (rustSide_regular hn) hu.lib rustSide_answers hs hu.leads

theorem initDialogue_keeps (port : Port) :
    (initDialogue N C X port).Keeps (fun context use => use.Steady context) OneSided BelongsTo := by
  apply keeps_of_turned InitResult.exit (fun _ => rfl)
  intro context use hs hu
  have ht : TurnedBy context (use.run context port) := hu.turnedBy hs
  have hp : (initDialogue N C X port).parties (use.run context port) =
      (use.run context port).log.map InitCall.party := congrFun List.filterMap_eq_map' _
  show Turned context _ _ ((initDialogue N C X port).parties (use.run context port))
  rw [hp]
  exact ht

/-- **An initiating context stays on one side.**  In every sequence of steady calls on one context,
    once the local mechanism or the daemon has asked for more, every later call passes its token
    to that side only. -/
theorem init_stays_on_one_side (port : Port) (uses : List (InitUse N C X))
    (hsteady : ∀ t ∈ (initDialogue N C X port).turns none none uses, t.input.Steady t.before) :
    ∀ t ∈ (initDialogue N C X port).turns none none uses, ∀ p ∈ t.bound,
      ∀ q ∈ (initDialogue N C X port).parties t.result, q = p :=
  (initDialogue_keeps port).faithful oneSided_none hsteady

end

/-! ## A daemon that asks for more -/

def twoLegs : World Unit Unit Unit where
  lib :=
    { importName := fun _ _ => .ok ()
      canonicalizeName := fun _ _ => .ok ()
      displayName := fun _ => .ok ([], [])
      compareName := fun _ _ => .ok true
      initSecContext := fun _ _ _ _ _ => ⟨GSS_S_NO_CRED, 0, none, default⟩ }
  daemonInit _ := .ok
    { (default : ResInitSecContext) with
      status := { (default : GssxStatus) with majorStatus := GSS_S_CONTINUE_NEEDED.toUInt64 }
      contextHandle := some default }
  daemonAcquire _ := .error ENOENT
  retrieved := none
  mechs := .ok [[]]

def twoLegsUse (behavior : Behavior) : InitUse Unit Unit Unit where
  world := twoLegs
  behavior
  claimant := none
  target := some ⟨none, some default, some ()⟩
  mech := some []
  req := default

theorem twoLegs_regular : twoLegs.lib.Regular where
  importName _ _ _ h := (nomatch h)
  canonicalizeName _ _ _ h := (nomatch h)
  displayName _ _ h := (nomatch h)
  keeps _ _ _ _ _ h := absurd h (by decide : ¬ keep GSS_S_NO_CRED = true)
  fails _ _ _ _ _ := rfl

theorem twoLegs_answers : DaemonAnswers twoLegs :=
  fun _ => ⟨_, rfl, by decide, rfl, _, rfl, List.mem_singleton.mpr rfl⟩

abbrev twoTurns (port : Port) (behavior : Behavior) :=
  (initDialogue Unit Unit Unit port).turns none none [twoLegsUse behavior, twoLegsUse behavior]

theorem twoTurns_steady {port : Port} :
    ∀ t ∈ twoTurns port .remoteFirst, t.input.Steady t.before := by
  have hs : ∀ context, (twoLegsUse .remoteFirst).Steady context := by
    intro context
    refine ⟨twoLegs_regular, ?_⟩
    intro ctx _ _
    exact ⟨.inr ⟨rfl, twoLegs_answers⟩, fun _ h => (nomatch h)⟩
  intro t ht
  rcases List.mem_cons.mp ht with rfl | ht
  · exact hs _
  · rcases List.mem_cons.mp ht with rfl | ht
    · exact hs _
    · cases ht

/-- Under REMOTE_FIRST the second token goes to the daemon that asked for it. -/
theorem remote_first_stays :
    (∃ t ∈ twoTurns .c .remoteFirst, t.bound = some .daemon ∧
      ∀ q ∈ (initDialogue Unit Unit Unit .c).parties t.result, q = .daemon) ∧
    ∃ t ∈ twoTurns .rust .remoteFirst, t.bound = some .daemon ∧
      ∀ q ∈ (initDialogue Unit Unit Unit .rust).parties t.result, q = .daemon := by
  constructor
  · refine ⟨_, List.mem_cons_of_mem _ List.mem_cons_self, rfl, ?_⟩
    exact init_stays_on_one_side .c _ twoTurns_steady _
      (List.mem_cons_of_mem _ List.mem_cons_self) .daemon rfl
  · refine ⟨_, List.mem_cons_of_mem _ List.mem_cons_self, rfl, ?_⟩
    exact init_stays_on_one_side .rust _ twoTurns_steady _
      (List.mem_cons_of_mem _ List.mem_cons_self) .daemon rfl

/-- Under the default behaviour it goes to the local mechanism first. -/
theorem remote_context_goes_local :
    (∃ t ∈ twoTurns .c .localFirst, t.bound = some .daemon ∧
      (initDialogue Unit Unit Unit .c).parties t.result = [.localMech, .daemon]) ∧
    ∃ t ∈ twoTurns .rust .localFirst, t.bound = some .daemon ∧
      (initDialogue Unit Unit Unit .rust).parties t.result = [.localMech, .daemon] :=
  ⟨⟨_, List.mem_cons_of_mem _ List.mem_cons_self, rfl, rfl⟩,
    ⟨_, List.mem_cons_of_mem _ List.mem_cons_self, rfl, rfl⟩⟩

end GssProxy.Interposer
