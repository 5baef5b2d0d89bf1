import Mathlib.Data.List.TakeWhile
import GssProxy.Daemon.FailedReplies

/-!
# The guard of constrained delegation

A credential got by impersonating a user may be used towards the impersonator only, unless the service
may delegate.  The C daemon looks for the impersonator also in a credential cache.

* `delegation_guard`: what the C daemon allows, and when the Rust daemon allows the same.
-/

namespace GssProxy.Compat.Delegation

open Codec Gss Proto Server

/-! ## The inquiry -/

structure Inquired where
  major : UInt32
  minor : UInt32
  buffers : List Bytes

/-- How the calls of `get_impersonator_name` end. -/
structure ImpersonatorCalls (A : Type) where
  inquireCredByOid : A → Inquired
  krb5InitContext : UInt32
  gssStoreCredInto : A → GssError
  krb5CcResolve : UInt32
  krb5CcGetConfig : A → Except UInt32 Bytes

def KRB5_CC_NOTFOUND : UInt32 := 2529639053

def strndup (name : Bytes) : Bytes := name.takeWhile (· ≠ 0)

section

variable {A : Type} (calls : ImpersonatorCalls A)

def getImpersonatorFallback (cred : A) : Except GssError Bytes := do
  if calls.krb5InitContext ≠ 0 then throw ⟨GSS_S_FAILURE, calls.krb5InitContext⟩
  if (calls.gssStoreCredInto cred).major ≠ 0 then throw (calls.gssStoreCredInto cred)
  if calls.krb5CcResolve ≠ 0 then throw ⟨GSS_S_FAILURE, calls.krb5CcResolve⟩
  match calls.krb5CcGetConfig cred with
  | .ok name => return strndup name
  | .error err => throw ⟨GSS_S_FAILURE, err⟩

def getImpersonatorName (cred : A) : Except GssError (Option Bytes) :=
  let inquired := calls.inquireCredByOid cred
  if inquired.major = GSS_S_COMPLETE then
    match inquired.buffers with
    | [] => .ok none
    | name :: _ => .ok (some (strndup name))
  else if inquired.major = GSS_S_UNAVAILABLE then
    match getImpersonatorFallback calls cred with
    | .ok name => .ok (some name)
    | .error e =>
      if e.major = GSS_S_FAILURE ∧ e.minor = KRB5_CC_NOTFOUND then .ok none else .error e
  else .error ⟨inquired.major, inquired.minor⟩

def inquireByOid (cred : A) : Except GssError (List Bytes) :=
  let inquired := calls.inquireCredByOid cred
  if inquired.major = GSS_S_UNAVAILABLE then .ok []
  else if isError inquired.major then .error ⟨inquired.major, inquired.minor⟩
  else .ok inquired.buffers

/-- A library whose look for an impersonator makes these calls. -/
def withCalls {N X H : Type} (lib : Daemon.GpLib N X A H) : Daemon.GpLib N X A H :=
  { lib with impersonatorName := getImpersonatorName calls, inquireImpersonator := inquireByOid calls }

/-- The impersonator that a credential records, if any. -/
inductive Records (cred : A) : Option Bytes → Prop where
  | noEntry (hcomplete : (calls.inquireCredByOid cred).major = GSS_S_COMPLETE)
      (hnone : (calls.inquireCredByOid cred).buffers = []) : Records cred none
  | entry {name : Bytes} (hcomplete : (calls.inquireCredByOid cred).major = GSS_S_COMPLETE)
      (hfirst : (calls.inquireCredByOid cred).buffers.head? = some name) :
      Records cred (some (strndup name))
  | fallback {name : Bytes}
      (hunavailable : (calls.inquireCredByOid cred).major = GSS_S_UNAVAILABLE)
      (hfound : getImpersonatorFallback calls cred = .ok name) : Records cred (some name)
  | noFallback {e : GssError}
      (hunavailable : (calls.inquireCredByOid cred).major = GSS_S_UNAVAILABLE)
      (hfailed : getImpersonatorFallback calls cred = .error e) (hmajor : e.major = GSS_S_FAILURE)
      (hminor : e.minor = KRB5_CC_NOTFOUND) : Records cred none

variable {calls} {cred : A}

theorem getImpersonatorName_ok_iff {recorded : Option Bytes} :
    getImpersonatorName calls cred = .ok recorded ↔ Records calls cred recorded := by
  have hd : GSS_S_COMPLETE ≠ GSS_S_UNAVAILABLE := by decide
  unfold getImpersonatorName
  constructor
  · intro h
    simp only at h
    split at h
    · rename_i hc
      split at h
      · rename_i hno
        cases h
        exact .noEntry hc hno
      · rename_i name rest hfi
        cases h
        exact .entry hc (by rw [hfi]; rfl)
    · split at h
      · rename_i hu
        split at h
        · rename_i name hfo
          cases h
          exact .fallback hu hfo
        rename_i e hf
        split at h
        · rename_i hn
          cases h
          exact .noFallback hu hf hn.1 hn.2
        · cases h
      · cases h
  · rintro (⟨hc, hno⟩ | ⟨hc, hfi⟩ | ⟨hu, hfo⟩ |
      ⟨hu, hf, hm, hmi⟩)
    · simp [hc, hno]
    · obtain ⟨rest, hb⟩ := List.head?_eq_some_iff.mp hfi; simp [hc, hb]
    · simp [hu, hd.symm, hfo]
    · simp [hu, hd.symm, hf, hm, hmi]

end

/-! ## The guard -/

section

variable {N X A H : Type} (calls : ImpersonatorCalls A) (lib : Daemon.GpLib N X A H)
  (call : Daemon.GpCall H) (cred : A) (target : N)

/-- The canonical name of the target is displayed so. -/
def DisplayedAs (name : Bytes) : Prop :=
  ∃ canon nameType, lib.canonicalizeName target KRB5_MECH_OID = .ok canon ∧
    lib.displayName canon = .ok (name, nameType)

/-- The service may not delegate. -/
structure Restricted (svc : Service) : Prop where
  trusted : svc.trusted = false
  impersonate : svc.impersonate = false
  allowConstDeleg : svc.allowConstDeleg = false

variable {calls lib call cred target}

theorem sameName_ok_iff {E : Type} {name : Bytes} (fail : UInt32 → E) :
    (match lib.canonicalizeName target KRB5_MECH_OID with
      | .error e => .error (fail e.major)
      | .ok canon =>
        match lib.displayName canon with
        | .error e => .error (fail e.major)
        | .ok (display, _) =>
          if display = name then .ok () else .error (fail GSS_S_UNAUTHORIZED) : Except E Unit) = .ok () ↔
      DisplayedAs lib target name := by
  unfold DisplayedAs
  cases lib.canonicalizeName target KRB5_MECH_OID with
  | error e => simp
  | ok canon =>
    cases hd : lib.displayName canon with
    | error e => simp [hd]
    | ok display =>
      obtain ⟨shown, nameType⟩ := display
      by_cases hn : shown = name <;> simp [hd, hn]

theorem checkImpersonatorName_ok_iff {name : Bytes} :
    Daemon.checkImpersonatorName lib target name = .ok () ↔ DisplayedAs lib target name := by
  exact sameName_ok_iff (fun major => (⟨major, 0⟩ : GssError))

def checkRecorded (lib : Daemon.GpLib N X A H) (target : N) : Option Bytes → Except GssError Unit
  | some name => Daemon.checkImpersonatorName lib target name
  | none => .ok ()

theorem gpCredAllowed_ok_iff (hs : Restricted call.service) :
    Daemon.gpCredAllowed (withCalls calls lib) call (some cred) target = .ok () ↔
      Records calls cred none ∨
        ∃ name, Records calls cred (some name) ∧ DisplayedAs lib target name := by
  have hg : Daemon.gpCredAllowed (withCalls calls lib) call (some cred) target =
      getImpersonatorName calls cred >>= checkRecorded lib target := by
    simp only [Daemon.gpCredAllowed, hs.trusted, hs.impersonate, hs.allowConstDeleg]; rfl
  rw [hg, bind_eq_ok]
  constructor
  · rintro ⟨recorded, hre, hok⟩
    have hr := getImpersonatorName_ok_iff.mp hre
    cases recorded with
    | none => exact .inl hr
    | some name => exact .inr ⟨name, hr, checkImpersonatorName_ok_iff.mp hok⟩
  · rintro (hno | ⟨name, hr, hn⟩)
    · exact ⟨none, getImpersonatorName_ok_iff.mpr hno, rfl⟩
    · exact ⟨some name, getImpersonatorName_ok_iff.mpr hr, checkImpersonatorName_ok_iff.mpr hn⟩

theorem credAllowed_ok_iff (hs : Restricted call.service) :
    credAllowed (withCalls calls lib).toLibrary call.service (some cred) target = .ok () ↔
      ∃ entries, inquireByOid calls cred = .ok entries ∧
        ∀ name, entries.head? = some name → name = [] ∨ DisplayedAs lib target name := by
  have hi : (withCalls calls lib).inquireImpersonator cred = inquireByOid calls cred := rfl
  simp only [credAllowed, hs.trusted, hs.impersonate, hs.allowConstDeleg, Bool.or_self,
    Bool.false_eq_true, if_false, hi]
  cases inquireByOid calls cred with
  | error e => simp
  | ok entries =>
    cases entries with
    | nil => simp
    | cons name rest =>
      by_cases he : name = []
      · simp [he]
      · simp only [he, if_false, List.head?_cons, Except.ok.injEq, Option.some.injEq,
          exists_eq_left', forall_eq', false_or]
        exact sameName_ok_iff id

/-- The inquiry does not end with the error that the mechanism does not know the question, and its
    first entry is a name that a C string can hold. -/
structure Answered (calls : ImpersonatorCalls A) (cred : A) : Prop where
  ended : (calls.inquireCredByOid cred).major = GSS_S_COMPLETE ∨
    isError (calls.inquireCredByOid cred).major = true
  available : (calls.inquireCredByOid cred).major ≠ GSS_S_UNAVAILABLE
  named : ∀ name, (calls.inquireCredByOid cred).buffers.head? = some name → name ≠ [] ∧ 0 ∉ name

theorem strndup_eq_self {name : Bytes} (hn : 0 ∉ name) : strndup name = name := by
  apply List.takeWhile_eq_self_iff.mpr
  intro b hb
  apply decide_eq_true
  rintro rfl
  exact hn hb

theorem records_iff_head (ha : Answered calls cred) {recorded : Option Bytes} :
    Records calls cred recorded ↔ (calls.inquireCredByOid cred).major = GSS_S_COMPLETE ∧
        recorded = (calls.inquireCredByOid cred).buffers.head? := by
  constructor
  · rintro (⟨hc, hn⟩ | ⟨hc, hf⟩ | ⟨hu, hfo⟩ |
      ⟨hu, hfa, hm, hmi⟩)
    · exact ⟨hc, by rw [hn]; rfl⟩
    · exact ⟨hc, by rw [hf, strndup_eq_self (ha.named _ hf).2]⟩
    · exact absurd hu ha.available
    · exact absurd hu ha.available
  · rintro ⟨hc, rfl⟩
    cases hf : (calls.inquireCredByOid cred).buffers.head? with
    | none => exact .noEntry hc (List.head?_eq_none_iff.mp hf)
    | some name =>
      have he := Records.entry hc hf
      rwa [strndup_eq_self (ha.named name hf).2] at he

theorem inquireByOid_ok_iff (ha : Answered calls cred) {entries : List Bytes} :
    inquireByOid calls cred = .ok entries ↔ (calls.inquireCredByOid cred).major = GSS_S_COMPLETE ∧
        entries = (calls.inquireCredByOid cred).buffers := by
  have hco : isError GSS_S_COMPLETE = false := by decide
  simp only [inquireByOid, ha.available, if_false]
  rcases ha.ended with hc | he
  · simp [hc, hco, eq_comm]
  have hf : (calls.inquireCredByOid cred).major ≠ GSS_S_COMPLETE := by
    intro hc
    rw [hc] at he; cases he
  simp [he, hf]

variable (calls lib call cred target) in
/-- **The guard of constrained delegation.**  For a service that may not delegate, the C daemon permits a
    credential just where it records no impersonator or the target is displayed as the impersonator; what
    cannot be determined is refused.  Where the inquiry answers, the Rust daemon permits the same; where the
    mechanism does not know the question, it permits every use. -/
theorem delegation_guard (hsvc : Restricted call.service) :
    (Daemon.gpCredAllowed (withCalls calls lib) call (some cred) target = .ok () ↔
      Records calls cred none ∨
        ∃ name, Records calls cred (some name) ∧ DisplayedAs lib target name) ∧
    (Answered calls cred →
      (credAllowed (withCalls calls lib).toLibrary call.service (some cred) target = .ok () ↔
        Daemon.gpCredAllowed (withCalls calls lib) call (some cred) target = .ok ())) ∧
    ((calls.inquireCredByOid cred).major = GSS_S_UNAVAILABLE →
      credAllowed (withCalls calls lib).toLibrary call.service (some cred) target = .ok ()) := by
  refine ⟨gpCredAllowed_ok_iff hsvc, ?_, ?_⟩
  · intro ha
    rw [credAllowed_ok_iff hsvc, gpCredAllowed_ok_iff hsvc]
    simp only [records_iff_head ha, inquireByOid_ok_iff ha]
    cases hf : (calls.inquireCredByOid cred).buffers.head? with
    | none => simp [hf]
    | some name => simp [hf, (ha.named name hf).1]
  · intro hu
    rw [credAllowed_ok_iff hsvc]
    refine ⟨[], ?_, by simp⟩
    simp only [inquireByOid, hu, if_true]

end

/-! ## Two daemons, two answers -/

def hostName : Bytes := [104, 111, 115, 116]

def hostLib : Daemon.GpLib Unit Unit Unit Unit :=
  { Daemon.forwardingLib with
    canonicalizeName := fun _ _ => .ok ()
    displayName := fun _ => .ok (hostName, []) }

def answering (entries : List Bytes) : ImpersonatorCalls Unit where
  inquireCredByOid := fun _ => ⟨GSS_S_COMPLETE, 0, entries⟩
  krb5InitContext := 0
  gssStoreCredInto := fun _ => ⟨GSS_S_COMPLETE, 0⟩
  krb5CcResolve := 0
  krb5CcGetConfig := fun _ => .error KRB5_CC_NOTFOUND

def cacheNamesWeb : ImpersonatorCalls Unit :=
  { answering [] with
    inquireCredByOid := fun _ => ⟨GSS_S_UNAVAILABLE, 0, []⟩
    krb5CcGetConfig := fun _ => .ok [119, 101, 98] }

/-- A credential got by impersonation, used towards the impersonator. -/
theorem towards_impersonator :
    credAllowed (withCalls (answering [hostName]) hostLib).toLibrary Daemon.webCall.service (some ()) () =
        .ok () ∧
      Daemon.gpCredAllowed (withCalls (answering [hostName]) hostLib) Daemon.webCall (some ()) () =
        .ok () := by
  have ha : Answered (answering [hostName]) () := by
    refine ⟨.inl rfl, by decide, ?_⟩
    decide
  obtain ⟨hp, hs, -⟩ := delegation_guard (answering [hostName]) hostLib Daemon.webCall () ()
    ⟨rfl, rfl, rfl⟩
  have hr : Records (answering [hostName]) () (some (strndup hostName)) := .entry rfl rfl
  have hc := hp.mpr (.inr ⟨_, hr, (), [], rfl, rfl⟩)
  exact ⟨(hs ha).mpr hc, hc⟩

/-- **The Rust daemon permits what the C daemon refuses**: an impersonator that is only in the
    cache, and one recorded as the empty name. -/
theorem impersonator_missed :
    (Daemon.gpCredAllowed (withCalls cacheNamesWeb hostLib) Daemon.webCall (some ()) () =
        .error ⟨GSS_S_UNAUTHORIZED, 0⟩ ∧
      credAllowed (withCalls cacheNamesWeb hostLib).toLibrary Daemon.webCall.service (some ()) () =
        .ok ()) ∧
    Daemon.gpCredAllowed (withCalls (answering [[]]) hostLib) Daemon.webCall (some ()) () =
        .error ⟨GSS_S_UNAUTHORIZED, 0⟩ ∧
      credAllowed (withCalls (answering [[]]) hostLib).toLibrary Daemon.webCall.service (some ()) () =
        .ok () :=
  ⟨⟨rfl, rfl⟩, rfl, rfl⟩

end GssProxy.Compat.Delegation
