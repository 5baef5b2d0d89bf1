import GssProxy.Interposer.InitSecContext

/-!
# Explicit credentials in context initiation

The local mechanism gets the local part of the caller's credential, and no credential at all where there
is none.

* `init_honours_cred_iff`: the handle is honoured exactly when such an attempt is not reached.
-/

namespace GssProxy.Interposer

open Codec Gss Proto Client Effect

/-- A credential handle with a part. -/
structure HeldCred (C : Type) where
  handle : CredHandle C
  held : handle.localCred.isSome ∨ handle.remote.isSome

/-- The call carries a part of the handle. -/
def Honours {C : Type} (handle : CredHandle C) : InitCall C → Prop
  | .localMech cred => cred.isSome ∧ cred = handle.localCred
  | .daemon arg => arg.credHandle.isSome ∧ arg.credHandle = handle.remote

section

variable {N C X : Type} (side : Side N) (w : World N C X) (mech : Bytes) (req : InitRequest)

def Localizes (name : NameHandle N) : Prop := (name.localize side mech).1 = .ok ()

def FallsBack (remote : Option GssxCred) (ctx : CtxHandle X) (name : NameHandle N) : Prop :=
  ∃ name', name.toRemote w.lib.toLocalNames = .ok name' ∧
    (∃ s, (side.remote remote ctx.remote name'.remote mech req).exit = .status s ∧ ¬ keep s.major) ∧
    Localizes side mech name'

def LocalAttempt (remote : Option GssxCred) (ctx : CtxHandle X) (name : NameHandle N) :
    Behavior → Prop
  | .localOnly | .localFirst => Localizes side mech name
  | .remoteFirst => FallsBack side w mech req remote ctx name
  | .remoteOnly => False

variable {side w mech req} {handle cred : CredHandle C} {ctx : CtxHandle X} {name : NameHandle N}

theorem always_initCtxLocal_iff (hc : cred.localCred = handle.localCred) :
    (initCtxLocal side w mech req cred ctx name).Always (Honours handle) ↔
      (Localizes side mech name → handle.localCred.isSome) := by
  unfold initCtxLocal Localizes
  rcases hn : name.localize side mech with ⟨status, name'⟩
  cases status with
  | error exit => simp
  | ok _ => simp [Honours, hc]

theorem initCtxLocal_cred : (initCtxLocal side w mech req cred ctx name).value.cred = cred := by
  unfold initCtxLocal
  split <;> rfl

theorem exit_cases (exit : Exit) :
    exit.keep = true ∨ exit = .fault ∨ ∃ s, exit = .status s ∧ ¬ keep s.major := by
  cases exit with
  | fault => exact .inr (.inl rfl)
  | status s =>
    by_cases h : keep s.major
    · exact .inl h
    · exact .inr (.inr ⟨s, rfl, h⟩)

theorem always_initCtxRemote_iff {behavior : Behavior} (hr : handle.remote.isSome)
    (hc : cred.remote = handle.remote) (hl : cred.localCred = handle.localCred) :
    (initCtxRemote side w mech req behavior cred ctx name).Always (Honours handle) ↔
      (behavior = .remoteFirst → FallsBack side w mech req handle.remote ctx name →
        handle.localCred.isSome) := by
  obtain ⟨own, ho⟩ := Option.isSome_iff_exists.mp hr
  unfold initCtxRemote FallsBack
  rcases hna : name.toRemote w.lib.toLocalNames with exit | name'
  · simp
  simp only [hc, ho, Calls.always_call_bind, Except.ok.injEq, exists_eq_left']
  have hd : Honours handle (.daemon (initArg (some own) ctx.remote name'.remote mech req)) :=
    ⟨rfl, ho.symm⟩
  generalize side.remote (some own) ctx.remote name'.remote mech req = reply
  rcases exit_cases reply.exit with hk | hfu | ⟨s, hs, hf⟩
  · have hno : ∀ s, reply.exit = .status s → keep s.major = true := by intro s hs; rwa [hs] at hk
    simp only [hd, hk, if_true, Calls.Always.pure, true_and, true_iff]
    rintro - ⟨⟨s, hs, hf⟩, -⟩
    exact absurd (hno s hs) hf
  · simp [hd, hfu, Exit.keep]
  · have hn : ¬ reply.exit.keep = true := by rw [hs]; exact hf
    have hfa : ∃ s, reply.exit = .status s ∧ ¬ keep s.major := ⟨s, hs, hf⟩
    by_cases hb : behavior = .remoteFirst
    · have hst : ¬ reply.exit = .fault := by rw [hs]; exact Exit.noConfusion
      rw [if_neg hn, if_pos ⟨hb, hst⟩, always_initCtxLocal_iff hl]
      simp only [hd, hb, hfa, true_and, forall_const]
    · simp [hd, hn, hb]

theorem always_establish_iff {behavior : Behavior} (hr : handle.remote.isSome) :
    (establish side w mech req behavior handle ctx name).Always (Honours handle) ↔
      (LocalAttempt side w mech req handle.remote ctx name behavior → handle.localCred.isSome) := by
  have hl : (initCtxLocal side w mech req handle ctx name).Always (Honours handle) ↔
      (Localizes side mech name → handle.localCred.isSome) := always_initCtxLocal_iff rfl
  unfold establish
  cases behavior with
  | localOnly => rw [if_pos (.inl rfl), Calls.always_bind, hl]; simp [LocalAttempt]
  | localFirst =>
    rw [if_pos (.inr rfl), Calls.always_bind, hl]
    refine and_iff_left ?_
    -- The daemon gets the remote part, and there is no second local attempt.
    split
    · exact .pure _
    · rw [Calls.always_bind, always_initCtxRemote_iff hr (by rw [initCtxLocal_cred])
        (by rw [initCtxLocal_cred])]
      exact ⟨fun h => Behavior.noConfusion h, .pure _⟩
  | remoteFirst | remoteOnly =>
    rw [if_neg (by decide), always_initCtxRemote_iff hr rfl rfl]; simp [LocalAttempt]

theorem always_establish_localOnly (hl : handle.localCred.isSome) :
    (establish side w mech req .localOnly handle ctx name).Always (Honours handle) := by
  unfold establish
  rw [if_pos (.inl rfl), Calls.always_bind, always_initCtxLocal_iff rfl]
  refine ⟨fun _ => hl, ?_⟩
  simp

end

/-! ## The entry points -/

section

variable {N C X : Type}

/-- No call is made with anything else: the arguments are rejected, the handle has a local part, the
    context is a local one (and the handle is refused), or the local mechanism is not reached. -/
def Spared (side : Side N) (w : World N C X) (behavior : Behavior) (handle : CredHandle C)
    (context : Option (CtxHandle X)) (target : Option (NameHandle N)) (mech : Option Bytes)
    (req : InitRequest) : Prop :=
  ∀ name ∈ target, ∀ oid ∈ mech, isSpecialOid oid = false →
    handle.localCred.isSome ∨ contextIsLocal context ∨ ¬ LocalAttempt side w oid req handle.remote
        (context.getD { remote := none, localCtx := none }) name behavior

theorem always_initEntry_iff (side : Side N) (w : World N C X) (behavior : Behavior)
    (h : HeldCred C) (context : Option (CtxHandle X)) (target : Option (NameHandle N))
    (mech : Option Bytes) (req : InitRequest) :
    (initEntry side w behavior (some h.handle) context target mech req).Always (Honours h.handle) ↔
      Spared side w behavior h.handle context target mech req := by
  unfold initEntry Spared
  cases target with
  | none => simp
  | some name =>
    cases mech with
    | none => simp
    | some oid =>
      by_cases hs : isSpecialOid oid
      · simp [hs]
      by_cases hl : h.handle.localCred.isSome
      · simp [hs, hl, always_establish_localOnly hl]
      have hr : h.handle.remote.isSome := h.held.resolve_left hl
      by_cases hc : contextIsLocal context
      · simp [hs, hl, hc]
      · simp [hs, hl, hc, always_establish_iff hr]

/-- **Explicit credentials in `gssi_init_sec_context`**: for every behaviour, handle, context and
    every answer from outside, each context-initiation call carries a part of the handle exactly
    when the handle is spared. -/
theorem init_honours_cred_iff (w : World N C X) (behavior : Behavior) (h : HeldCred C)
    (context : Option (CtxHandle X)) (target : Option (NameHandle N)) (mech : Option Bytes)
    (req : InitRequest) :
    ((gssiInitSecContext w behavior (some h.handle) context target mech req).Always
        (Honours h.handle) ↔
      Spared (cSide w) w behavior h.handle context target mech req) ∧
    ((rustGssiInitSecContext w behavior (some h.handle) context target mech req).Always
        (Honours h.handle) ↔
      Spared (rustSide w) w behavior h.handle context target mech req) :=
  ⟨always_initEntry_iff .., always_initEntry_iff ..⟩

end

def quietWorld : World Unit Unit Unit where
  lib :=
    { importName _ _ := .ok ()
      canonicalizeName _ _ := .ok ()
      displayName _ := .ok ([], [])
      compareName _ _ := .ok false
      initSecContext _ _ _ _ _ :=
        { major := GSS_S_COMPLETE, minor := 0, ctx := some (), output := default } }
  daemonInit _ := .error EIO
  daemonAcquire _ := .error EIO
  retrieved := none
  mechs := .ok []

/-- The default behaviour and a remote credential: the local mechanism gets none. -/
theorem remote_cred_dropped :
    let handle : CredHandle Unit := { remote := some default, localCred := none }
    let name : NameHandle Unit := { mechType := none, remote := none, localName := some () }
    (gssiInitSecContext quietWorld .localFirst (some handle) none (some name) (some [42])
        default).log = [.localMech none] ∧
      (rustGssiInitSecContext quietWorld .localFirst (some handle) none (some name) (some [42])
        default).log = [.localMech none] := by
  decide +kernel

end GssProxy.Interposer
