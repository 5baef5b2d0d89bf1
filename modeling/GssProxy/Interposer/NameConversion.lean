import GssProxy.Interposer.Process
import GssProxy.System.Run

/-!
# Failed conversions of a name

Entry points convert the remote part of a name if there is no local one.  A name that was imported but not
canonicalised must not be stored, or the next call takes it for the local name.

* `conversions_law`: unless one stops half-way, no failed conversion changes the handle.
-/

namespace GssProxy.Interposer.NameConversion

open Codec Gss Proto Client Effect GssProxy.System

variable {N C X : Type}

/-- A place where a name is made local. -/
inductive Site (N C X : Type) where
  | initCtxLocal (w : World N C X) (mech : Bytes) (req : InitRequest) (cred : CredHandle C)
      (ctx : CtxHandle X)
  | acquireLocal (lib : LocalNames N) (w : CredWorld N C)
  | compareName (lib : LocalNames N)
  | converted (lib : LocalNames N) (answer : UInt32)
  | localname (lib : LocalNames N) (mech : Option Bytes) (daemon : UInt32 × UInt32) (answer : UInt32)

def Site.lib : Site N C X → LocalNames N
  | .initCtxLocal w _ _ _ _ => w.lib.toLocalNames
  | .acquireLocal lib _ | .compareName lib | .converted lib _ | .localname lib _ _ _ => lib

def Site.mech (name : NameHandle N) : Site N C X → Option Bytes
  | .initCtxLocal _ mech _ _ _ => some mech
  | .localname _ mech _ _ => mech
  | _ => name.mechType

def outcome (r : Except Exit Unit × Option N) : Outcome (Option N) :=
  match r.1 with
  | .ok _ => ⟨GSS_S_COMPLETE, 0, r.2⟩
  | .error e => ⟨(majorOf e).getD GSS_S_FAILURE, 0, r.2⟩

def Site.leaves (port : Port) (name : NameHandle N) : Site N C X → NameHandle N
  | .initCtxLocal w mech req cred ctx =>
    (Interposer.initCtxLocal (port.initSide w) w mech req cred ctx name).value.name
  | .acquireLocal lib w =>
    let w := { w with nameToLocal := fun remote mech => outcome (port.toLocal lib remote mech) }
    (localName port.acquire w (some name)).value.2.getD name
  | .compareName lib => (name.toLocal (port.toLocal lib)).2
  | .converted lib answer => (onConverted (port.toLocal lib) answer name).2
  | .localname lib mech daemon answer =>
    (gssiLocalname port (port.toLocal lib) mech daemon answer name).value.2

def step (port : Port) (name : NameHandle N) (site : Site N C X) : Option (NameHandle N) :=
  some (site.leaves port name)

/-! ## What is wanted -/

structure Canonical (lib : LocalNames N) (mech : Option Bytes) (n : N) : Prop where
  imported : ∃ display nameType, lib.importName display nameType = .ok n
  canonicalized : ∀ m ∈ mech, lib.canonicalizeName n (specialMech m) = .ok ()

def HalfWay (lib : LocalNames N) (remote : GssxName) (mech : Option Bytes) : Prop :=
  ∃ d shown n m status, gpmDisplayName (some remote) = .ok (d, shown) ∧
    lib.importName d.display d.nameType = .ok n ∧ mech = some m ∧
    lib.canonicalizeName n (specialMech m) = .error status

def Site.HalfWay (name : NameHandle N) (site : Site N C X) : Prop :=
  name.localName = none ∧
    ∃ remote, name.remote = some remote ∧ NameConversion.HalfWay site.lib remote (site.mech name)

def Site.Fails (port : Port) (name : NameHandle N) (site : Site N C X) : Prop :=
  ∃ e, (name.convert (port.toLocal site.lib) (site.mech name)).1 = .error e

/-! ## One call -/

section

variable {port : Port} {lib : LocalNames N} {remote : GssxName} {mech : Option Bytes}

theorem importDisplayed_cases (lib : LocalNames N) (d : Displayed) (mech : Option Bytes) :
    (∃ n, importDisplayed lib d mech = (.ok (), some n) ∧ Canonical lib mech n) ∨
      (∃ e, importDisplayed lib d mech = (.error e, none)) ∨
      ∃ e n m status, importDisplayed lib d mech = (.error e, some n) ∧
        lib.importName d.display d.nameType = .ok n ∧ mech = some m ∧
        lib.canonicalizeName n (specialMech m) = .error status := by
  unfold importDisplayed
  cases hi : lib.importName d.display d.nameType with
  | error status => exact .inr (.inl ⟨_, rfl⟩)
  | ok n =>
    cases mech with
    | none => exact .inl ⟨n, rfl, ⟨_, _, hi⟩, nofun⟩
    | some m =>
      cases hc : lib.canonicalizeName n (specialMech m) with
      | error status => exact .inr (.inr ⟨.status status, n, m, status, by simp [hc], rfl, rfl, hc⟩)
      | ok _ =>
        refine .inl ⟨n, by simp [hc], ⟨_, _, hi⟩, fun m' hm' => ?_⟩
        cases hm'
        exact hc

theorem toLocal_cases (port : Port) (lib : LocalNames N) (remote : GssxName) (mech : Option Bytes) :
    (∃ n, port.toLocal lib remote mech = (.ok (), some n) ∧ Canonical lib mech n) ∨
      (∃ e, port.toLocal lib remote mech = (.error e, none)) ∨
      port = .c ∧ HalfWay lib remote mech := by
  cases port with
  | c =>
    rw [show Port.c.toLocal lib = gppNameToLocal lib from rfl]
    unfold gppNameToLocal
    cases hd : gpmDisplayName (some remote) with
    | error e => exact .inr (.inl ⟨e, rfl⟩)
    | ok shown =>
      obtain ⟨d, name⟩ := shown
      rcases importDisplayed_cases lib d mech with h | h | ⟨-, n, m, status, -, hi, hm, hc⟩
      · exact .inl h
      · exact .inr (.inl h)
      · exact .inr (.inr ⟨rfl, d, name, n, m, status, hd, hi, hm, hc⟩)
  | rust =>
    rw [show Port.rust.toLocal lib = nameToLocal lib from rfl]
    unfold nameToLocal
    cases displayName remote with
    | error e => exact .inr (.inl ⟨e, rfl⟩)
    | ok shown =>
      obtain ⟨d, name⟩ := shown
      cases ht : gpmNameOidToStatic d.nameType with
      | error e => exact .inr (.inl ⟨e, by simp [ht]⟩)
      | ok _ =>
        rcases importDisplayed_cases lib d mech with ⟨n, h, hn⟩ | ⟨e, h⟩ | ⟨e, n, -, -, h, -⟩
        · exact .inl ⟨n, by simp [ht, h], hn⟩
        · exact .inr (.inl ⟨e, by simp [ht, h]⟩)
        · exact .inr (.inl ⟨e, by simp [ht, h]⟩)

theorem toLocal_rust_error {e : Exit} (h : (Port.rust.toLocal lib remote mech).1 = .error e) :
    (Port.rust.toLocal lib remote mech).2 = none := by
  rcases toLocal_cases .rust lib remote mech with ⟨n, hok, -⟩ | ⟨e, he⟩ | ⟨hp, -⟩
  · rw [hok] at h; cases h
  · rw [he]
  · cases hp

theorem onConverted_snd (conv : ToLocal N) (answer : UInt32) (name : NameHandle N) :
    (onConverted conv answer name).2 = (name.convert conv name.mechType).2 := by
  unfold onConverted
  rcases name.convert conv name.mechType with ⟨_ | _, name'⟩ <;> rfl

theorem gssiLocalname_snd (port : Port) (conv : ToLocal N) (mech : Option Bytes)
    (daemon : UInt32 × UInt32) (answer : UInt32) (name : NameHandle N) :
    (gssiLocalname port conv mech daemon answer name).value.2 = name ∨
      (gssiLocalname port conv mech daemon answer name).value.2 = (name.convert conv mech).2 := by
  unfold gssiLocalname
  split
  · exact .inl rfl
  · exact .inl rfl
  · rw [Calls.call_bind]
    split_ifs
    · exact .inl rfl
    · unfold localnameLocally
      rcases name.convert conv mech with ⟨_ | _, name'⟩ <;> exact .inr rfl
    · split <;> exact .inl rfl

theorem toLocal_snd (conv : ToLocal N) (name : NameHandle N) :
    (name.toLocal conv).2 = (name.convert conv name.mechType).2 := by
  obtain ⟨mech, remote, known⟩ := name
  cases known with
  | some known => cases remote <;> rfl
  | none =>
    cases remote with
    | none => rfl
    | some remote =>
      unfold NameHandle.toLocal NameHandle.convert
      rcases hc : conv remote mech with ⟨_ | _, _ | n⟩ <;> simp [hc]

theorem initCtxLocal_name (port : Port) (w : World N C X) (mech : Bytes) (req : InitRequest)
    (cred : CredHandle C) (ctx : CtxHandle X) (name : NameHandle N) :
    (initCtxLocal (port.initSide w) w mech req cred ctx name).value.name =
      (name.convert (port.toLocal w.lib.toLocalNames) (some mech)).2 := by
  have hl : name.localize (port.initSide w) mech =
      name.convert (port.toLocal w.lib.toLocalNames) (some mech) := by cases port <;> rfl
  unfold initCtxLocal
  rw [hl]
  rcases name.convert _ _ with ⟨_ | _, name'⟩ <;> rfl

theorem localName_snd (port : Port) (w : CredWorld N C) (name : NameHandle N)
    (hw : w.nameToLocal = fun remote mech => outcome (port.toLocal lib remote mech)) :
    (localName port.acquire w (some name)).value.2 =
      some (name.convert (port.toLocal lib) name.mechType).2 := by
  obtain ⟨mech, remote, known⟩ := name
  cases known with
  | some known => cases remote <;> rfl
  | none =>
    cases remote with
    | none => rfl
    | some remote =>
      have hv : ∀ r : Except Exit Unit × Option N, (outcome r).value = r.2 := by
        rintro ⟨_ | _, _⟩ <;> rfl
      rw [localName_converts, hw]
      by_cases hm : (outcome (port.toLocal lib remote mech)).major = GSS_S_COMPLETE
      · simp only [if_pos hm, hv]; rfl
      simp only [if_neg hm, hv]
      cases port with
      | c => rfl
      | rust =>
        cases hs : (Port.rust.toLocal lib remote mech).1 with
        | ok _ => exact absurd (by rw [outcome, hs]) hm
        | error e =>
          unfold NameHandle.convert
          simp only [toLocal_rust_error hs]; rfl

theorem leaves_cases (port : Port) (site : Site N C X) (name : NameHandle N) :
    site.leaves port name = name ∨
      site.leaves port name = (name.convert (port.toLocal site.lib) (site.mech name)).2 := by
  cases site with
  | initCtxLocal w mech req cred ctx => exact .inr (initCtxLocal_name port w mech req cred ctx name)
  | acquireLocal lib w => exact .inr (congrArg (·.getD name) (localName_snd port _ name rfl))
  | compareName lib => exact .inr (toLocal_snd _ name)
  | converted lib answer => exact .inr (onConverted_snd _ answer name)
  | localname lib mech daemon answer => exact gssiLocalname_snd port _ mech daemon answer name

theorem leaves_law (site : Site N C X) (name : NameHandle N)
    (hh : port = .rust ∨ ¬ site.HalfWay name) :
    site.leaves port name = name ∨ name.localName = none ∧ ¬ site.Fails port name ∧
        ∀ n, (site.leaves port name).localName = some n → Canonical site.lib (site.mech name) n := by
  rcases leaves_cases port site name with hs | hc
  · exact .inl hs
  obtain ⟨mech, remote, known⟩ := name
  rw [hc, Site.Fails]
  cases known with
  | some known => cases remote <;> exact .inl rfl
  | none =>
    cases remote with
    | none => exact .inl rfl
    | some remote =>
      unfold NameHandle.convert
      rcases toLocal_cases port site.lib remote (site.mech ⟨mech, some remote, none⟩) with
        ⟨n, hok, hn⟩ | ⟨e, he⟩ | ⟨rfl, hw⟩
      · refine .inr ⟨rfl, ?_, fun n' hn' => ?_⟩
        · simp [hok]
        · simp only [hok, Option.some.injEq] at hn'; exact hn' ▸ hn
      · simp [he]
      · exact absurd ⟨rfl, remote, rfl, hw⟩ (hh.resolve_left nofun)

end

/-! ## Any sequence of calls -/

section

variable (port : Port) (start : NameHandle N) (sites : List (Site N C X))

/-- In C no conversion stops between its two steps. -/
def NeverHalfWay : Prop :=
  port = .rust ∨ ¬ Happened (step port) start (fun _ name site => site.HalfWay name) sites

/-- It was there, or a conversion completed with it. -/
def Settled (n : N) : Prop :=
  start.localName = some n ∨
    Happened (step port) start (fun _ name site => Canonical site.lib (site.mech name) n) sites

/-- A call failed and changed the handle. -/
def ChangedByFailure : Prop :=
  Happened (step port) start
    (fun _ name site => site.Fails port name ∧ site.leaves port name ≠ name) sites

end

/-- **Conversions.**  In a run where no conversion stops half-way a local part is one that a
    conversion completed, and no call that fails changes the handle. -/
theorem conversions_law {port : Port} {start name : NameHandle N} {sites : List (Site N C X)}
    (hrun : exec (step port) start sites = some name) (hhalf : NeverHalfWay port start sites) :
    (∀ n, name.localName = some n → Settled port start sites n) ∧ ¬ ChangedByFailure port start sites := by
  constructor
  · revert hhalf
    refine exec_invariant (I := fun sites name => NeverHalfWay port start sites →
      ∀ n, name.localName = some n → Settled port start sites n) (fun _ _ => .inl) ?_ hrun
    intro sites name site name' hrun ih hst hhalf n hn
    cases hst
    have hb := hhalf.imp_right (mt Happened.later)
    have hno := hhalf.imp_right (mt (Happened.now hrun))
    rcases leaves_law site name hno with hs | ⟨-, -, hc⟩
    · rw [hs] at hn; exact (ih hb n hn).imp_right Happened.later
    · exact .inr (Happened.now hrun (hc n hn))
  · rintro ⟨before, name', site, after, rfl, hb, hf, hch⟩
    have hno := hhalf.imp_right fun h hw => h ⟨before, name', site, after, rfl, hb, hw⟩
    rcases leaves_law site name' hno with hs | ⟨-, hfi, -⟩
    · exact hch hs
    · exact hfi hf

def importsOnly : LocalNames Nat where
  importName _ _ := .ok 1
  canonicalizeName _ _ := .error ⟨GSS_S_BAD_NAME, none⟩
  displayName _ := .error ⟨GSS_S_BAD_NAME, none⟩
  compareName _ _ := .error ⟨GSS_S_BAD_NAME, none⟩

def authorize : Site Nat Nat Nat := .converted importsOnly GSS_S_COMPLETE

def userName : NameHandle Nat :=
  .ofRemote (importName [0x61] NT_USER_NAME_OID) (some [0x2a])

theorem conversions_law_rust :
    exec (step .rust) userName [authorize, authorize] = some userName ∧
      (∀ n, userName.localName = some n → Settled .rust userName [authorize, authorize] n) ∧
      ¬ ChangedByFailure .rust userName [authorize, authorize] :=
  ⟨rfl, conversions_law rfl (.inl rfl)⟩

/-- The first call fails and leaves the name; the second takes it. -/
theorem authorize_takes_uncanonical :
    onConverted (Port.c.toLocal importsOnly) GSS_S_COMPLETE userName =
        (some GSS_S_BAD_NAME, { userName with localName := some 1 }) ∧
      onConverted (Port.c.toLocal importsOnly) GSS_S_COMPLETE { userName with localName := some 1 } =
        (some GSS_S_COMPLETE, { userName with localName := some 1 }) :=
  ⟨rfl, rfl⟩

end GssProxy.Interposer.NameConversion
