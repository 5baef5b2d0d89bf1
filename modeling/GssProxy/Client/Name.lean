import GssProxy.Gss.Status
import GssProxy.Proto.Gssx

/-!
# Names in the client libraries

`gpm_display_name` and `gpm_compare_name` with their Rust ports.  A name without a display name is shown
by its exported form.  The comparison sums up differences and equalities and calls names equal when the
sum is not zero.

* `gpmCompareName_eq`, `compareName_eq`: what the two come to.
-/

namespace GssProxy.Client

open Codec Gss Proto

/-! ## Display -/

structure Displayed where
  display : Bytes
  nameType : Bytes
  deriving DecidableEq

def gpmNameOidToStatic (nameType : Bytes) : Except Exit Bytes :=
  if nameType ∈ staticNameTypes then .ok nameType else .error (.mk GSS_S_FAILURE ENOENT)

def gpCopyGssxToStringBuffer (buf : Bytes) : Except Exit Bytes :=
  if buf.length + 1 < 4294967296 then .ok buf else .error .fault

def importName (value nameType : Bytes) : GssxName :=
  { (default : GssxName) with displayName := ⟨value⟩, nameType := ⟨nameType⟩ }

def stealExported (name : GssxName) : Except Exit GssxName :=
  if name.displayName.data = [] then
    if name.exportedName.data = [] then .error (.mk GSS_S_BAD_NAME 0)
    else
      let imported := importName name.exportedName.data NT_EXPORT_NAME_OID
      .ok { name with displayName := imported.displayName, nameType := imported.nameType }
  else .ok name

def gpmDisplayName : Option GssxName → Except Exit (Displayed × GssxName)
  | none => .error (.mk GSS_S_CALL_INACCESSIBLE_READ 0)
  | some name => do
    let name ← stealExported name
    let display ← gpCopyGssxToStringBuffer name.displayName.data
    let nameType ← gpmNameOidToStatic name.nameType.data
    return ({ display, nameType }, name)

def displayName (name : GssxName) : Except Exit (Displayed × GssxName) := do
  let name ← stealExported name
  return ({ display := name.displayName.data, nameType := name.nameType.data }, name)

def memcmp : Bytes → Bytes → Int
  | a :: as, b :: bs => if a = b then memcmp as bs else a.toNat - b.toNat
  | _, _ => 0

def gssOidEqual (a b : Bytes) : Int := if a = b then 1 else 0

/-- `gpm_compare_name`. -/
def gpmCompareName (name1 name2 : Option GssxName) : Except Exit Bool := do
  let (d1, _) ← gpmDisplayName name1
  let (d2, _) ← gpmDisplayName name2
  -- a difference of `size_t`s kept in an `int`
  let c := ((d1.display.length : Int) - d2.display.length).bmod 4294967296
  let c :=
    if c = 0 then
      let c := memcmp d1.display d2.display
      if c = 0 then gssOidEqual d1.nameType d2.nameType else c
    else c
  return c != 0

/-- `compare_name` of `gpm.rs`. -/
def compareName (name1 name2 : GssxName) : Except Exit Bool := do
  let (d1, _) ← displayName name1
  let (d2, _) ← displayName name2
  let c : Int := d1.display.length - d2.display.length
  let c :=
    if c = 0 then
      match compare d1.display d2.display with
      | .eq => if d1.nameType = d2.nameType then 1 else 0
      | .lt => -1
      | .gt => 1
    else c
  return c != 0

/-! ## What a name shows -/

section

variable (name : GssxName)

/-- The bytes that display a name. -/
def shown : Bytes :=
  if name.displayName.data = [] then name.exportedName.data else name.displayName.data

def shownType : Bytes :=
  if name.displayName.data = [] then NT_EXPORT_NAME_OID else name.nameType.data

def cached : GssxName := { name with displayName := ⟨shown name⟩, nameType := ⟨shownType name⟩ }

end

structure ShownName where
  name : GssxName
  nonempty : shown name ≠ []

/-- The Rust code can show it, with a type it knows. -/
structure StaticName extends ShownName where
  fits : (shown name).length + 1 < 4294967296
  known : shownType name ∈ staticNameTypes

theorem stealExported_eq (n : ShownName) : stealExported n.name = .ok (cached n.name) := by
  have hne := n.nonempty
  unfold stealExported cached shown shownType at *
  by_cases h : n.name.displayName.data = []
  · simp only [h, if_true] at hne ⊢
    rw [if_neg hne]; rfl
  · simp [h]

theorem gpmDisplayName_eq (n : StaticName) :
    gpmDisplayName (some n.name) =
      .ok ({ display := shown n.name, nameType := shownType n.name }, cached n.name) := by
  unfold gpmDisplayName gpCopyGssxToStringBuffer gpmNameOidToStatic
  simp only [stealExported_eq n.toShownName, bind, Except.bind, cached, if_pos n.fits,
    if_pos n.known]
  rfl

theorem displayName_eq (n : ShownName) :
    displayName n.name =
      .ok ({ display := shown n.name, nameType := shownType n.name }, cached n.name) := by
  unfold displayName
  rw [stealExported_eq]
  rfl

/-! ## What the comparison reports -/

theorem memcmp_eq_zero_iff {a b : Bytes} (h : a.length = b.length) : memcmp a b = 0 ↔ a = b := by
  induction a generalizing b with
  | nil =>
    cases b with
    | nil => simp [memcmp]
    | cons b bs => cases h
  | cons a as ih =>
    cases b with
    | nil => cases h
    | cons b bs =>
      unfold memcmp
      by_cases hab : a = b
      · rw [if_pos hab, ih (Nat.succ.inj h), hab]; simp
      · have hne : (a.toNat : Int) - b.toNat ≠ 0 := by
          intro hz; exact hab (UInt8.toNat_inj.mp (by omega))
        simp [hne, hab]

theorem bmod_length_eq_zero_iff {a b : Bytes} (ha : a.length + 1 < 4294967296)
    (hb : b.length + 1 < 4294967296) :
    ((a.length : Int) - b.length).bmod 4294967296 = 0 ↔ a.length = b.length := by
  rw [← Int.dvd_iff_bmod_eq_zero]
  omega

def Reported (n₁ n₂ : GssxName) : Prop :=
  shown n₁ = shown n₂ → shownType n₁ = shownType n₂

instance (n₁ n₂ : GssxName) : Decidable (Reported n₁ n₂) := by unfold Reported; infer_instance

theorem gpmCompareName_eq (n₁ n₂ : StaticName) :
    gpmCompareName (some n₁.name) (some n₂.name) = .ok (decide (Reported n₁.name n₂.name)) := by
  have hle := bmod_length_eq_zero_iff n₁.fits n₂.fits
  unfold gpmCompareName
  rw [gpmDisplayName_eq, gpmDisplayName_eq]
  simp only [bind, Except.bind, pure, Except.pure, Except.ok.injEq]
  unfold Reported
  by_cases hl : (shown n₁.name).length = (shown n₂.name).length
  · rw [if_pos (hle.mpr hl)]
    have hby := memcmp_eq_zero_iff hl
    by_cases hb : shown n₁.name = shown n₂.name
    · rw [if_pos (hby.mpr hb)]
      unfold gssOidEqual
      by_cases ht : shownType n₁.name = shownType n₂.name <;> simp [hb, ht]
    · simp [hb, mt hby.mp hb]
  · have hb : shown n₁.name ≠ shown n₂.name := fun h => hl (congrArg List.length h)
    simp [hb, mt hle.mp hl]

theorem compareName_eq (n₁ n₂ : ShownName) :
    compareName n₁.name n₂.name = .ok (decide (Reported n₁.name n₂.name)) := by
  have hcm : compare (shown n₁.name) (shown n₂.name) = .eq ↔ shown n₁.name = shown n₂.name :=
    Std.LawfulEqCmp.compare_eq_iff_eq
  unfold compareName
  rw [displayName_eq, displayName_eq]
  simp only [bind, Except.bind, pure, Except.pure, Except.ok.injEq]
  unfold Reported
  by_cases hl : (shown n₁.name).length = (shown n₂.name).length
  · rw [if_pos (by omega)]
    rcases hc : compare (shown n₁.name) (shown n₂.name) with _ | _ | _
    · have hb : shown n₁.name ≠ shown n₂.name := mt hcm.mpr (by rw [hc]; decide)
      simp [hb]
    · have hb := hcm.mp hc
      by_cases ht : shownType n₁.name = shownType n₂.name <;> simp [hb, ht]
    · have hb : shown n₁.name ≠ shown n₂.name := mt hcm.mpr (by rw [hc]; decide)
      simp [hb]
  · have hb : shown n₁.name ≠ shown n₂.name := fun h => hl (congrArg List.length h)
    have hne : ((shown n₁.name).length : Int) - (shown n₂.name).length ≠ 0 := by omega
    simp [hb, hne]

end GssProxy.Client
