import GssProxy.Interposer.Reports

/-!
# Local names

`gssi_localname` asks the daemon about a name with a remote part and falls back to the local mechanism if
the daemon cannot map names; the C function does so after every error if there is a local part.

* `localname_iff`: when that makes a difference.
* `entryPoint_ends`, `report_ends`: the models in `EntryPoints`, of the handle, and in `Reports`, of the
  status, end as this one does.
-/

namespace GssProxy.Interposer.Localname

open Codec Gss Proto Effect

structure Reply where
  major : UInt32
  minor : UInt32
  output : Option Bytes
  deriving DecidableEq

structure Failure where
  major : UInt32
  minor : UInt32
  major_ne : major ≠ GSS_S_COMPLETE

/-- The daemon, the conversion of a remote name, and the local mechanism. -/
structure World (N : Type) where
  daemon : GssxName → Option Bytes → Reply
  convert : GssxName → Option Bytes → Except Failure N
  specialMech : Option Bytes → Option Bytes
  localname : N → Option Bytes → Reply

inductive Call (N : Type) where
  | daemon (remote : GssxName) (mech : Option Bytes)
  | convert (remote : GssxName) (mech : Option Bytes)
  | localname (name : N) (mech : Option Bytes)
  deriving DecidableEq

section

variable {N : Type} (w : World N) (name : Option (NameHandle N)) (mech : Option Bytes)

def exit (r : Reply) : Calls (Call N) Reply := pure { r with minor := mapError r.minor }

def locally (n : N) : Calls (Call N) Reply :=
  Calls.call (.localname n (w.specialMech mech)) (w.localname n (w.specialMech mech)) >>= exit

def converted (remote : GssxName) : Calls (Call N) Reply := do
  match ← Calls.call (.convert remote mech) (w.convert remote mech) with
  | .error e => exit ⟨e.major, e.minor, none⟩
  | .ok n => locally w mech n

/-- What the C function makes of the daemon's reply. -/
def afterDaemonC (remote : GssxName) (known : Option N) (r : Reply) : Calls (Call N) Reply :=
  if r.major = GSS_S_COMPLETE then exit r
  else if r.major = GSS_S_FAILURE ∧ r.minor = ENOTSUP then
    match known with
    | some n => locally w mech n
    | none => converted w mech remote
  else
    match known with
    | some n => locally w mech n
    | none => exit r

def afterDaemonRust (remote : GssxName) (known : Option N) (r : Reply) : Calls (Call N) Reply :=
  if r.major = GSS_S_COMPLETE then exit r
  else if r.major ≠ GSS_S_FAILURE ∨ r.minor ≠ ENOTSUP then exit r
  else
    match known with
    | some n => locally w mech n
    | none => converted w mech remote

def gssiLocalname (port : Port) : Calls (Call N) Reply :=
  match name with
  | none => pure ⟨GSS_S_CALL_INACCESSIBLE_READ, 0, none⟩
  | some ⟨_, none, none⟩ => pure ⟨GSS_S_CALL_INACCESSIBLE_READ, 0, none⟩
  | some ⟨_, none, some n⟩ => locally w mech n
  | some ⟨_, some remote, known⟩ =>
    Calls.call (.daemon remote mech) (w.daemon remote mech) >>= match port with
      | .c => afterDaemonC w mech remote known
      | .rust => afterDaemonRust w mech remote known

/-- An error of the daemon that is not the one for an operation it does not support. -/
def Reply.Refuses (r : Reply) : Prop :=
  r.major ≠ GSS_S_COMPLETE ∧ ¬ (r.major = GSS_S_FAILURE ∧ r.minor = ENOTSUP)

/-- The same calls and the same results; a refusal of the daemon is what both return. -/
structure SameLocalname : Prop where
  same : gssiLocalname w name mech .c = gssiLocalname w name mech .rust
  unmasked : ∀ port handle remote, name = some handle → handle.remote = some remote →
    (w.daemon remote mech).Refuses →
      (gssiLocalname w name mech port).value.major = (w.daemon remote mech).major

/-- The daemon refuses a name that has a local part. -/
def RefusedWithLocal : Prop :=
  ∃ handle remote, name = some handle ∧ handle.remote = some remote ∧
    handle.localName.isSome = true ∧ (w.daemon remote mech).Refuses

variable {w mech} {remote : GssxName} {known : Option N} {r : Reply}

theorem afterDaemonRust_refused (h : r.Refuses) : afterDaemonRust w mech remote known r = exit r := by
  unfold afterDaemonRust
  rw [if_neg h.1, if_pos (not_and_or.mp h.2)]

theorem afterDaemonC_refused (h : r.Refuses) :
    afterDaemonC w mech remote known r =
      match known with
      | some n => locally w mech n
      | none => exit r := by
  unfold afterDaemonC
  rw [if_neg h.1, if_neg h.2]

theorem afterDaemon_same (h : ¬ r.Refuses) :
    afterDaemonC w mech remote known r = afterDaemonRust w mech remote known r := by
  unfold afterDaemonC afterDaemonRust
  by_cases hc : r.major = GSS_S_COMPLETE
  · rw [if_pos hc, if_pos hc]
  · have hs := not_not.mp fun hno => h ⟨hc, hno⟩
    rw [if_neg hc, if_neg hc, if_pos hs, if_neg (by simp [hs.1, hs.2])]

/-- **Local names.**  The two ports make the same calls with the same results, and report a refusal of the
    daemon, exactly if the daemon does not refuse a name that has a local part too. -/
theorem localname_iff (w : World N) (name : Option (NameHandle N)) (mech : Option Bytes) :
    SameLocalname w name mech ↔ ¬ RefusedWithLocal w name mech := by
  constructor
  · rintro ⟨hs, -⟩ ⟨⟨_, _, known⟩, remote, rfl, rfl, hk, hr⟩
    obtain ⟨n, rfl⟩ := Option.isSome_iff_exists.mp hk
    -- only the C function goes on to the local mechanism
    have hl := congrArg (fun r => r.log.length) hs
    simp [gssiLocalname, afterDaemonC_refused hr, afterDaemonRust_refused hr, locally, exit] at hl
  · intro h
    rcases name with _ | ⟨mechType, _ | remote, known⟩
    · exact ⟨rfl, nofun⟩
    · refine ⟨by cases known <;> rfl, ?_⟩
      rintro _ _ _ ⟨⟩ ⟨⟩
    by_cases hr : (w.daemon remote mech).Refuses
    · cases known with
      | some n => exact absurd ⟨_, remote, rfl, rfl, rfl, hr⟩ h
      | none =>
        have he : ∀ port, gssiLocalname w (some ⟨mechType, some remote, none⟩) mech port =
            Calls.call (.daemon remote mech) (w.daemon remote mech) >>= exit := by
          rintro (_ | _)
          · simp [gssiLocalname, Calls.call_bind, afterDaemonC_refused hr]
          · simp [gssiLocalname, Calls.call_bind, afterDaemonRust_refused hr]
        refine ⟨(he .c).trans (he .rust).symm, ?_⟩
        rintro port _ _ ⟨⟩ ⟨⟩ -
        rw [he port]; rfl
    · refine ⟨by simp [gssiLocalname, Calls.call_bind, afterDaemon_same hr], ?_⟩
      rintro port _ _ ⟨⟩ ⟨⟩ h
      exact absurd h hr

/-! ## The other models of the function -/

section

variable {handle : NameHandle N} {daemon : Reply}
  (hdaemon : ∀ remote, handle.remote = some remote → w.daemon remote mech = daemon)
include hdaemon

/-- The conversion answers as the world does. -/
def Converts (w : World N) (mech : Option Bytes) (conv : ToLocal N) : Prop :=
  ∀ remote, match w.convert remote mech with
    | .ok n => conv remote mech = (.ok (), some n)
    | .error e => (conv remote mech).1 = .error (.status ⟨e.major, some e.minor⟩)

/-- The entry point that keeps the handle returns the same major status. -/
theorem entryPoint_ends {conv : ToLocal N} {answer : UInt32} (port : Port) (hco : Converts w mech conv)
    (ha : ∀ n, (w.localname n (w.specialMech mech)).major = answer) :
    (Interposer.gssiLocalname port conv mech (daemon.major, daemon.minor) answer handle).value.1 =
      some (gssiLocalname w (some handle) mech port).value.major := by
  obtain ⟨mechType, _ | remote, known⟩ := handle
  · cases known with
    | none => rfl
    | some n => exact congrArg some (ha n).symm
  obtain rfl := hdaemon remote rfl
  have hco := hco remote
  unfold Interposer.gssiLocalname gssiLocalname
  simp only [Calls.value_bind, Calls.value_call]
  by_cases hc : (w.daemon remote mech).major = GSS_S_COMPLETE
  · cases port <;> simp [afterDaemonC, afterDaemonRust, hc, exit]
  by_cases hu : (w.daemon remote mech).major = GSS_S_FAILURE ∧
      (w.daemon remote mech).minor = ENOTSUP
  · cases known <;> cases port <;> cases hn : w.convert remote mech <;>
      simp_all [afterDaemonC, afterDaemonRust, exit, locally, converted, localnameLocally,
        NameHandle.convert, majorOf]
  have hr : (w.daemon remote mech).Refuses := ⟨hc, hu⟩
  have hp : ((w.daemon remote mech).major, (w.daemon remote mech).minor) ≠
      (GSS_S_FAILURE, ENOTSUP) := fun h => hu (Prod.mk.inj h)
  simp only [hc, hp, if_false]
  cases known <;> cases port <;>
    simp [afterDaemonC_refused hr, afterDaemonRust_refused hr, exit, locally, ha]

/-- The C entry point that keeps the status returns the same one. -/
theorem report_ends {convert reply : Reports.Reply} {made : Bool}
    (hc : ∀ remote, match w.convert remote mech with
      | .ok _ => convert.major = GSS_S_COMPLETE ∧ made = true
      | .error e => convert = ⟨e.major, e.minor⟩)
    (hr : ∀ n, (w.localname n (w.specialMech mech)).major = reply.major ∧
      (w.localname n (w.specialMech mech)).minor = reply.minor) :
    let report := Reports.gssiLocalname (some ⟨handle.localName.isSome, handle.remote.isSome⟩)
      ⟨daemon.major, daemon.minor⟩ convert made reply
    let ends := (gssiLocalname w (some handle) mech .c).value
    report.major = ends.major ∧ report.minor = some ends.minor := by
  obtain ⟨mechType, _ | remote, known⟩ := handle
  · cases known with
    | none => exact ⟨rfl, rfl⟩
    | some n =>
      simp [gssiLocalname, Reports.gssiLocalname, Reports.Held.mapped, Reports.Held.reply, locally, exit,
        hr n]
  · obtain rfl := hdaemon remote rfl
    have hc := hc remote
    unfold Reports.gssiLocalname gssiLocalname afterDaemonC
    by_cases hco : (w.daemon remote mech).major = GSS_S_COMPLETE
    · simp [hco, exit, Reports.Held.mapped, Reports.Held.reply]
    cases known with
    | some n => simp [hco, exit, locally, hr n, Reports.Held.mapped, Reports.Held.reply]
    | none =>
      by_cases hu : (w.daemon remote mech).major = GSS_S_FAILURE ∧
          (w.daemon remote mech).minor = ENOTSUP
      · have hne : GSS_S_FAILURE ≠ GSS_S_COMPLETE := by decide
        cases hn : w.convert remote mech with
        | ok n =>
          rw [hn] at hc
          simp [hu, hne, converted, hn, hc.1, hc.2, exit, locally, hr n,
            Reports.Held.mapped, Reports.Held.reply]
        | error e =>
          rw [hn] at hc
          obtain rfl := hc
          simp [hu, hne, converted, hn, exit, e.major_ne, Reports.Held.mapped, Reports.Held.reply]
      · simp [hco, hu, exit, Reports.Held.mapped, Reports.Held.reply]

end

def failingDaemon : World Nat where
  daemon _ _ := ⟨GSS_S_FAILURE, 5, none⟩
  convert _ _ := .ok 0
  specialMech := id
  localname _ _ := ⟨GSS_S_COMPLETE, 0, some [0x61]⟩

end

/-- **A masked refusal.**  The daemon fails (5); the C function goes on and completes. -/
theorem daemon_error_masked :
    (gssiLocalname failingDaemon (some ⟨none, some default, some 7⟩) none .c).value =
        ⟨GSS_S_COMPLETE, 0, some [0x61]⟩ ∧
      (gssiLocalname failingDaemon (some ⟨none, some default, some 7⟩) none .rust).value =
        ⟨GSS_S_FAILURE, mapError 5, none⟩ :=
  ⟨rfl, rfl⟩

end GssProxy.Interposer.Localname
