import GssProxy.Interposer.AcceptSecContext

/-!
# The side of an accepting context

A context stays on the side it has a part of.  But the client library gives up the context of a daemon
that asks for more: the handle has no part then, and the next call decides anew.

* `accept_stays_on_one_side`: when the calls of an acceptance stay on one side.
-/

namespace GssProxy.Interposer

open Codec Gss Proto Client Effect

/-! ## Attempts -/

section

variable {N C X : Type}

def AcceptStep.party : AcceptStep N C → Option Party
  | .localMech _ => some .localMech
  | .daemon _ => some .daemon
  | .cred _ | .release _ => none

def AcceptWorld.KeepsContext (w : AcceptWorld N C X) : Prop :=
  ∀ cred ctx ask, keep (w.acceptLocal cred ctx ask).major = true →
    (w.acceptLocal cred ctx ask).ctx.isSome = true

def AcceptsOn (p : Party) (ctx : CtxHandle X) (m : Calls (AcceptStep N C) (AcceptLeg N C X)) :
    Prop :=
  TriedOn p ctx m.value.ctx m.value.exit (m.log.filterMap AcceptStep.party)

variable {side : AcceptSide} {w : AcceptWorld N C X} {ask : AcceptAsk} {behavior : Behavior}
  {cred : OutCred C} {ctx : CtxHandle X} {p : Party}

theorem AcceptsOn.stopped {exit : Exit} (hk : p = .localMech → exit.keep = true → ctx.on p = true) :
    AcceptsOn p ctx (pure (.stopped exit ctx) : Calls (AcceptStep N C) (AcceptLeg N C X)) where
  calls _ hq := (nomatch hq)
  other _ _ := rfl
  kept := hk

theorem AcceptsOn.refused {major minor : UInt32} (hf : keep major = false) :
    AcceptsOn p ctx (pure (.stopped (.mk major minor) ctx) :
      Calls (AcceptStep N C) (AcceptLeg N C X)) :=
  .stopped fun _ hk => absurd (hf.symm.trans hk) (by decide)

theorem acceptCtxLocal_acceptsOn (hl : w.KeepsContext) :
    AcceptsOn .localMech ctx (acceptCtxLocal w ask cred ctx) where
  calls _ hq := List.mem_singleton.mp hq
  other q hq := by
    cases q with
    | localMech => exact absurd rfl hq
    | daemon => rfl
  kept _ hk := hl _ _ _ hk

theorem acceptCtxRemote_acceptsOn :
    AcceptsOn .daemon ctx (acceptCtxRemote side w ask cred ctx) where
  calls _ hq := List.mem_singleton.mp hq
  other q hq := by
    cases q with
    | localMech => rfl
    | daemon => exact absurd rfl hq
  kept h := (nomatch h)

theorem acceptOn_acceptsOn (hl : w.KeepsContext) :
    ∃ p, AcceptsOn p ctx (acceptOn side w ask behavior cred ctx) := by
  cases behavior with
  | localOnly => exact ⟨.localMech, acceptCtxLocal_acceptsOn hl⟩
  | remoteOnly => exact ⟨.daemon, acceptCtxRemote_acceptsOn⟩
  | localFirst | remoteFirst => exact ⟨.daemon, .refused rfl⟩

theorem credSide_cases (behavior : Behavior) (cred : OutCred C) :
    credSide behavior cred = .error GSS_S_DEFECTIVE_CREDENTIAL ∨
      ∃ next, credSide behavior cred = .ok next ∧ (behavior = .localOnly → next = .localOnly) ∧
        (behavior = .remoteOnly → next = .remoteOnly) ∧
        (cred.localCred = none → cred.remote.isSome = true → next = .remoteOnly) := by
  unfold credSide
  split
  · rename_i hl
    split
    · exact .inl rfl
    rename_i hb
    refine .inr ⟨_, rfl, fun _ => rfl, fun h => absurd h hb, ?_⟩
    intro hn
    rw [hn] at hl; cases hl
  · split
    · split
      · exact .inl rfl
      · rename_i hb
        exact .inr ⟨_, rfl, fun h => absurd h hb, fun _ => rfl, fun _ _ => rfl⟩
    · rename_i hr
      exact .inr ⟨_, rfl, id, id, fun _ h => absurd h hr⟩

theorem acceptWith_acceptsOn
    (hon : ∀ next, credSide behavior cred = .ok next →
      AcceptsOn p ctx (acceptOn side w ask next cred ctx)) :
    AcceptsOn p ctx (acceptWith side w ask behavior cred ctx) := by
  unfold acceptWith
  rcases credSide_cases behavior cred with hr | ⟨next, hn, -⟩
  · rw [hr]; exact .refused rfl
  · rw [hn]; exact hon next hn

theorem acceptWith_localOnly (hli : w.KeepsContext) :
    AcceptsOn .localMech ctx (acceptWith side w ask .localOnly cred ctx) := by
  apply acceptWith_acceptsOn
  intro next hn
  rcases credSide_cases .localOnly cred with hr | ⟨next', hn', hl, -⟩
  · rw [hr] at hn; cases hn
  · cases hn'.symm.trans hn
    rw [hl rfl]
    exact acceptCtxLocal_acceptsOn hli

theorem acceptWith_daemon
    (hd : behavior = .remoteOnly ∨ cred.localCred = none ∧ cred.remote.isSome = true) :
    AcceptsOn .daemon ctx (acceptWith side w ask behavior cred ctx) := by
  apply acceptWith_acceptsOn
  intro next hn
  rcases credSide_cases behavior cred with hr | ⟨next', hn', -, hre, hc⟩
  · rw [hr] at hn; cases hn
  cases hn'.symm.trans hn
  have hs : next = .remoteOnly := by
    rcases hd with hb | ⟨hl, hso⟩
    · exact hre hb
    · exact hc hl hso
  rw [hs]
  exact acceptCtxRemote_acceptsOn

theorem acceptWith_some (hl : w.KeepsContext) :
    ∃ p, AcceptsOn p ctx (acceptWith side w ask behavior cred ctx) := by
  unfold acceptWith
  split
  · rename_i major hr
    rcases credSide_cases behavior cred with hm | ⟨next, hn, -⟩
    · cases hr.symm.trans hm; exact ⟨.daemon, .refused rfl⟩
    · cases hr.symm.trans hn
  · exact acceptOn_acceptsOn hl

theorem acceptWithDefault_acceptsOn {d : Option (DefCreds C)}
    (hk : p = .localMech → ctx.on p = true)
    (hw : ∀ cred, AcceptsOn p ctx (acceptWith side w ask behavior cred ctx)) :
    AcceptsOn p ctx (acceptWithDefault side w ask behavior ctx d) := by
  unfold acceptWithDefault
  split
  · exact .stopped fun hp _ => hk hp
  split
  · split
    · exact .stopped fun hp _ => hk hp
    · exact hw _
  · exact .stopped fun hp _ => hk hp

theorem acceptWithDefault_some (hl : w.KeepsContext) {d : Option (DefCreds C)} :
    ∃ p, AcceptsOn p ctx (acceptWithDefault side w ask behavior ctx d) := by
  have hs : ∀ exit, ∃ p, AcceptsOn p ctx
      (pure (.stopped exit ctx) : Calls (AcceptStep N C) (AcceptLeg N C X)) :=
    fun exit => ⟨.daemon, .stopped fun h => (nomatch h)⟩
  unfold acceptWithDefault
  split
  · exact hs _
  split
  · split
    · exact hs _
    · exact acceptWith_some hl
  · exact hs _

end

/-! ## The entry points -/

section

variable {N C X : Type} {side : AcceptSide} {w : AcceptWorld N C X} {ask : AcceptAsk}
  {behavior : Behavior} {ctx : CtxHandle X} {context : Option (CtxHandle X)} {p : Party}
  {m : Calls (AcceptStep N C) (AcceptLeg N C X)} {r : Calls (AcceptStep N C) (AcceptResult N C X)}

def AcceptTurned (context : Option (CtxHandle X))
    (r : Calls (AcceptStep N C) (AcceptResult N C X)) : Prop :=
  Turned context r.value.exit r.value.context (r.log.filterMap AcceptStep.party)

theorem asksMore_mapExit (exit : Exit) : asksMore (mapExit exit) = asksMore exit := by
  cases exit <;> rfl

theorem AcceptsOn.turned (h : AcceptsOn p ctx m)
    (hc : context = none ∧ ctx.Empty ∨ context = some ctx ∧ ctx.OwnedBy p)
    (hv : r.value = finishAccept m.value)
    (hl : r.log.filterMap AcceptStep.party = m.log.filterMap AcceptStep.party) :
    AcceptTurned context r := by
  have ht := TriedOn.turned h hc (.inl rfl : ([] : List Party) = [] ∨ _)
  unfold AcceptTurned
  rw [hv, hl]
  exact { ht with asks := fun ha => ht.asks (asksMore_mapExit _ ▸ ha) }

variable (side w ask behavior context)

def acceptAttempt (acceptor : Option (OutCred C)) : Calls (AcceptStep N C) (AcceptLeg N C X) :=
  let ctx := context.getD { remote := none, localCtx := none }
  let behavior := contextSide behavior context
  match acceptor with
  | some cred => acceptWith side w ask behavior cred ctx
  | none =>
    acceptWithDefault side w ask behavior ctx
      (defCreds side.defaults w.creds (acceptDefaults w) behavior none).value

theorem acceptEntry_value (acceptor : Option (OutCred C)) :
    (acceptEntry side w ask behavior context acceptor).value =
      finishAccept (acceptAttempt side w ask behavior context acceptor).value := by
  cases acceptor <;> rfl

theorem releaseDefault_given (d : Option (DefCreds C)) :
    (releaseDefault d : Calls (AcceptStep N C) Unit).log.filterMap AcceptStep.party = [] := by
  unfold releaseDefault
  split <;> rfl

theorem credSteps_given (steps : List (CredStep N)) :
    (steps.map AcceptStep.cred).filterMap (AcceptStep.party : AcceptStep N C → Option Party) =
      [] := by
  rw [List.filterMap_map, List.filterMap_eq_nil_iff]
  intro step _
  rfl

theorem acceptEntry_given (acceptor : Option (OutCred C)) :
    (acceptEntry side w ask behavior context acceptor).log.filterMap AcceptStep.party =
      (acceptAttempt side w ask behavior context acceptor).log.filterMap AcceptStep.party := by
  cases acceptor with
  | some cred =>
    show (_ ++ []).filterMap _ = _
    rw [List.append_nil]; rfl
  | none =>
    unfold acceptEntry acceptAttempt
    simp only [Calls.log_bind, Calls.log_mapLog, Calls.value_mapLog, Calls.log_pure,
      List.filterMap_append, List.append_nil, credSteps_given, releaseDefault_given, List.nil_append]

variable {side w ask behavior context}

def ContinuesWithDaemon (behavior : Behavior) (acceptor : Option (OutCred C))
    (context : Option (CtxHandle X)) : Prop :=
  ∀ ctx ∈ context, ctx.Empty → (∀ cred ∈ acceptor, cred.localCred = none) ∧
      (behavior = .remoteOnly ∨ ∃ cred ∈ acceptor, cred.remote.isSome = true)

theorem contextSide_local (h : ctx.OwnedBy .localMech) :
    contextSide behavior (some ctx) = .localOnly :=
  if_pos (h.present rfl)

theorem contextSide_daemon (behavior : Behavior) (h : ctx.OwnedBy .daemon) :
    contextSide behavior (some ctx) = .remoteOnly ∨
      ctx.Empty ∧ contextSide behavior (some ctx) = behavior := by
  have hl : ctx.localCtx.isSome = false := h.within .localMech (by decide)
  show (if ctx.localCtx.isSome then _ else _) = _ ∨ _ ∧ (if ctx.localCtx.isSome then _ else _) = _
  rw [hl]
  cases hr : ctx.remote.isSome with
  | true => exact .inl rfl
  | false =>
    refine .inr ⟨?_, rfl⟩
    intro q
    cases q with
    | localMech => exact hl
    | daemon => exact hr

theorem acceptAttempt_local (hl : w.KeepsContext) (ho : ctx.OwnedBy .localMech)
    (acceptor : Option (OutCred C)) :
    AcceptsOn .localMech ctx (acceptAttempt side w ask behavior (some ctx) acceptor) := by
  unfold acceptAttempt
  rw [contextSide_local ho]
  cases acceptor with
  | some cred => exact acceptWith_localOnly hl
  | none =>
    exact acceptWithDefault_acceptsOn (fun _ => ho.present rfl)
      (fun _ => acceptWith_localOnly hl)

theorem acceptAttempt_daemon (ho : ctx.OwnedBy .daemon) {acceptor : Option (OutCred C)}
    (hc : ContinuesWithDaemon behavior acceptor (some ctx)) :
    AcceptsOn .daemon ctx (acceptAttempt side w ask behavior (some ctx) acceptor) := by
  unfold acceptAttempt
  rcases contextSide_daemon behavior ho with hs | ⟨he, hs⟩
  · rw [hs]
    cases acceptor with
    | some cred => exact acceptWith_daemon (.inl rfl)
    | none =>
      exact acceptWithDefault_acceptsOn (fun h => (nomatch h)) fun _ => acceptWith_daemon (.inl rfl)
  · rw [hs]
    obtain ⟨hl, hb⟩ := hc ctx rfl he
    cases acceptor with
    | some cred =>
      apply acceptWith_daemon
      rcases hb with hr | ⟨cred', hcr', hso⟩
      · exact .inl hr
      · cases hcr'; exact .inr ⟨hl cred rfl, hso⟩
    | none =>
      rcases hb with rfl | ⟨cred', hcr', -⟩
      · exact acceptWithDefault_acceptsOn (fun h => (nomatch h))
          (fun _ => acceptWith_daemon (.inl rfl))
      · cases hcr'

theorem acceptEntry_turned (hl : w.KeepsContext) {acceptor : Option (OutCred C)}
    (hs : OneSided context) (hc : ContinuesWithDaemon behavior acceptor context) :
    AcceptTurned context (acceptEntry side w ask behavior context acceptor) := by
  have hv := acceptEntry_value side w ask behavior context acceptor
  have hlo := acceptEntry_given side w ask behavior context acceptor
  cases context with
  | none =>
    have he : ({ remote := none, localCtx := none } : CtxHandle X).Empty := by
      intro q
      cases q <;> rfl
    have hso : ∃ p, AcceptsOn p { remote := none, localCtx := none }
        (acceptAttempt side w ask behavior none acceptor) := by
      cases acceptor with
      | some cred => exact acceptWith_some hl
      | none => exact acceptWithDefault_some hl
    obtain ⟨p, hp⟩ := hso
    exact hp.turned (.inl ⟨rfl, he⟩) hv hlo
  | some ctx =>
    obtain ⟨p, ho⟩ := hs ctx rfl
    cases p with
    | localMech => exact (acceptAttempt_local hl ho acceptor).turned (.inr ⟨rfl, ho⟩) hv hlo
    | daemon => exact (acceptAttempt_daemon ho hc).turned (.inr ⟨rfl, ho⟩) hv hlo

/-- The side that a credential is for. -/
def OutCred.party (cred : OutCred C) : Option Party :=
  if cred.localCred.isSome then some .localMech
  else if cred.remote.isSome then some .daemon
  else none

theorem credSide_other {cred : OutCred C} {q : Party} (hc : cred.party = some q)
    (ho : behavior = .localOnly ∧ q = .daemon ∨ behavior = .remoteOnly ∧ q = .localMech) :
    credSide behavior cred = .error GSS_S_DEFECTIVE_CREDENTIAL := by
  unfold OutCred.party at hc
  unfold credSide
  split at hc
  · rename_i hl
    cases hc
    rw [if_pos hl]
    rcases ho with ⟨-, h⟩ | ⟨rfl, -⟩
    · cases h
    · rfl
  · rename_i hl
    split at hc
    · rename_i hr
      cases hc
      rw [if_neg hl, if_pos hr]
      rcases ho with ⟨rfl, -⟩ | ⟨-, h⟩
      · rfl
      · cases h
    · cases hc

theorem acceptEntry_other {cred : OutCred C} {q : Party} (hb : BelongsTo context p)
    (hco : ContinuesWithDaemon behavior (some cred) context)
    (hc : cred.party = some q) (hne : q ≠ p) :
    (acceptEntry side w ask behavior context (some cred)).value.exit =
        .mk GSS_S_DEFECTIVE_CREDENTIAL 0 ∧
      (acceptEntry side w ask behavior context (some cred)).log.filterMap AcceptStep.party = [] := by
  obtain ⟨ctx, hct, ho⟩ := hb
  cases hct
  have hr : credSide (contextSide behavior (some ctx)) cred =
      .error GSS_S_DEFECTIVE_CREDENTIAL := by
    cases p with
    | localMech =>
      rw [contextSide_local ho]
      cases q with
      | localMech => exact absurd rfl hne
      | daemon => exact credSide_other hc (.inl ⟨rfl, rfl⟩)
    | daemon =>
      cases q with
      | daemon => exact absurd rfl hne
      | localMech =>
        rcases contextSide_daemon behavior ho with hs | ⟨he, -⟩
        · rw [hs]; exact credSide_other hc (.inr ⟨rfl, rfl⟩)
        -- A handle without a part is not continued with a local credential.
        have hn := (hco ctx rfl he).1 cred rfl
        unfold OutCred.party at hc
        rw [hn] at hc
        split at hc
        · rename_i h; cases h
        · split at hc <;> cases hc
  have ha : acceptAttempt side w ask behavior (some ctx) (some cred) =
      pure (.stopped (.mk GSS_S_DEFECTIVE_CREDENTIAL 0) ctx) := by
    unfold acceptAttempt acceptWith
    simp only [hr]; rfl
  rw [acceptEntry_value, acceptEntry_given, ha]
  exact ⟨rfl, rfl⟩

/-! ## Sequences of calls -/

/-- A call with all it meets. -/
structure AcceptUse (N C X : Type) where
  world : AcceptWorld N C X
  behavior : Behavior
  acceptor : Option (OutCred C)
  ask : AcceptAsk

def AcceptUse.run (use : AcceptUse N C X) (context : Option (CtxHandle X)) :
    Port → Calls (AcceptStep N C) (AcceptResult N C X)
  | .c => gssiAcceptSecContext use.world use.ask use.behavior context use.acceptor
  | .rust => rustGssiAcceptSecContext use.world use.ask use.behavior context use.acceptor

def acceptDialogue (N C X : Type) (port : Port) :
    Dialogue (CtxHandle X) (AcceptUse N C X) (AcceptStep N C) (AcceptResult N C X) Party where
  step context use := use.run context port
  next r := r.context
  more r := asksMore r.exit
  party := AcceptStep.party

/-- The local mechanism leaves a context when it asks for more, and a handle without a part goes to
    the daemon. -/
structure AcceptUse.Steady (context : Option (CtxHandle X)) (use : AcceptUse N C X) : Prop where
  lib : use.world.KeepsContext
  continues : ContinuesWithDaemon use.behavior use.acceptor context

theorem acceptDialogue_keeps (port : Port) :
    (acceptDialogue N C X port).Keeps (fun context use => use.Steady context) OneSided
      BelongsTo := by
  apply keeps_of_turned AcceptResult.exit (fun _ => rfl)
  intro context use hs hu
  cases port with
  | c | rust => exact acceptEntry_turned hu.lib hs hu.continues

/-- **An accepting context stays on one side.**  In every sequence of steady calls on one context,
    once the local mechanism or the daemon has asked for more, every later call passes its token to
    that side only, and a credential of the other side is refused. -/
theorem accept_stays_on_one_side (port : Port) (uses : List (AcceptUse N C X))
    (hsteady : ∀ t ∈ (acceptDialogue N C X port).turns none none uses, t.input.Steady t.before) :
    ∀ t ∈ (acceptDialogue N C X port).turns none none uses, ∀ p ∈ t.bound,
      (∀ q ∈ (acceptDialogue N C X port).parties t.result, q = p) ∧
        ∀ cred ∈ t.input.acceptor, ∀ q, cred.party = some q → q ≠ p →
          t.result.value.exit = .mk GSS_S_DEFECTIVE_CREDENTIAL 0 ∧
            (acceptDialogue N C X port).parties t.result = [] := by
  have hk := acceptDialogue_keeps (N := N) (C := C) (X := X) port
  intro t ht p hp
  refine ⟨hk.faithful oneSided_none hsteady t ht p hp, ?_⟩
  obtain ⟨-, hb, hr⟩ := hk.belongs oneSided_none (by rintro p ⟨⟩) hsteady t ht
  intro cred hcr q hs hne
  have hc := (hsteady t ht).continues
  rw [hr]
  obtain ⟨before, bound, ⟨world, behavior, acceptor, ask⟩, result⟩ := t
  cases hcr
  cases port with
  | c | rust => exact acceptEntry_other (hb p hp) hc hs hne

end

/-! ## Both sides ask for more -/

def moreTokens : AcceptWorld Unit Unit Unit where
  acceptLocal _ _ _ := ⟨GSS_S_CONTINUE_NEEDED, 0, some (), none, none, default⟩
  daemonAccept _ := .ok
    { (default : ResAcceptSecContext) with
      status := { (default : GssxStatus) with majorStatus := GSS_S_CONTINUE_NEEDED.toUInt64 }
      contextHandle := some default }
  mechs := .ok []
  creds :=
    { retrieve := fun _ _ => ⟨GSS_S_NO_CRED, 0, default⟩
      special := fun _ => false
      nameToLocal := fun _ _ => ⟨GSS_S_FAILURE, 0, none⟩
      acquireLocal := fun _ _ => ⟨GSS_S_NO_CRED, 0, none⟩
      localToName := fun _ => ⟨GSS_S_FAILURE, 0, none⟩
      acquireRemote := fun _ _ _ => ⟨GSS_S_NO_CRED, 0, none⟩
      equal := fun _ _ => true
      store := fun _ _ _ => (GSS_S_COMPLETE, 0) }
  interposed := none

def acceptUse (remote : Option GssxCred) (localCred : Option Unit) : AcceptUse Unit Unit Unit where
  world := moreTokens
  behavior := .localFirst
  acceptor := some (.delegated remote localCred)
  ask := default

abbrev localThenRemote (port : Port) :=
  (acceptDialogue Unit Unit Unit port).turns none none
    [acceptUse none (some ()), acceptUse (some default) none]

abbrev remoteThenLocal (port : Port) :=
  (acceptDialogue Unit Unit Unit port).turns none none
    [acceptUse (some default) none, acceptUse none (some ())]

theorem localThenRemote_steady {port : Port} :
    ∀ t ∈ localThenRemote port, t.input.Steady t.before := by
  intro t ht
  rcases List.mem_cons.mp ht with rfl | ht
  · refine ⟨fun _ _ _ _ => rfl, ?_⟩
    intro ctx hc; cases hc
  rcases List.mem_cons.mp ht with rfl | ht
  · refine ⟨fun _ _ _ _ => rfl, ?_⟩
    intro ctx hc he
    have hl : ctx.on .localMech = true := by
      cases port <;> cases hc <;> rfl
    rw [he] at hl; cases hl
  · cases ht

/-- A remote credential is refused once the local mechanism has asked for more. -/
theorem remote_cred_refused :
    (∃ t ∈ localThenRemote .c, t.bound = some .localMech ∧
      t.result.value.exit = .mk GSS_S_DEFECTIVE_CREDENTIAL 0 ∧
        (acceptDialogue Unit Unit Unit .c).parties t.result = []) ∧
    ∃ t ∈ localThenRemote .rust, t.bound = some .localMech ∧
      t.result.value.exit = .mk GSS_S_DEFECTIVE_CREDENTIAL 0 ∧
        (acceptDialogue Unit Unit Unit .rust).parties t.result = [] := by
  constructor
  · refine ⟨_, List.mem_cons_of_mem _ List.mem_cons_self, rfl, ?_⟩
    exact (accept_stays_on_one_side .c _ localThenRemote_steady _
      (List.mem_cons_of_mem _ List.mem_cons_self) .localMech rfl).2 _ rfl .daemon rfl (by decide)
  · refine ⟨_, List.mem_cons_of_mem _ List.mem_cons_self, rfl, ?_⟩
    exact (accept_stays_on_one_side .rust _ localThenRemote_steady _
      (List.mem_cons_of_mem _ List.mem_cons_self) .localMech rfl).2 _ rfl .daemon rfl (by decide)

/-- A local credential is taken after the daemon has asked for more, and the token goes to the local
    mechanism. -/
theorem continued_acceptance_goes_local :
    (∃ t ∈ remoteThenLocal .c, t.bound = some .daemon ∧
      t.result.value.exit = .mk GSS_S_CONTINUE_NEEDED 0 ∧
        (acceptDialogue Unit Unit Unit .c).parties t.result = [.localMech]) ∧
    ∃ t ∈ remoteThenLocal .rust, t.bound = some .daemon ∧
      t.result.value.exit = .mk GSS_S_CONTINUE_NEEDED 0 ∧
        (acceptDialogue Unit Unit Unit .rust).parties t.result = [.localMech] :=
  ⟨⟨_, List.mem_cons_of_mem _ List.mem_cons_self, rfl, rfl, rfl⟩,
    ⟨_, List.mem_cons_of_mem _ List.mem_cons_self, rfl, rfl, rfl⟩⟩

end GssProxy.Interposer
