import GssProxy.Client.Name

/-!
# Names in the interposer

A name handle holds a local name, a remote name, or both.  The local mechanism, a parameter, compares as
soon as one of two handles has a local name, and the client library otherwise.

* `compare_name_law_iff`: it is right exactly for names that are shown the same.
-/

namespace GssProxy.Interposer

open Codec Gss Proto Client

/-! ## Handles -/

/-- `struct gpp_name_handle`. -/
structure NameHandle (N : Type) where
  mechType : Option Bytes
  remote : Option GssxName
  localName : Option N

/-- The name functions of the local mechanism. -/
structure LocalNames (N : Type) where
  importName : Bytes → Bytes → Except Status N
  /-- works on the name itself: the code asks for no output name -/
  canonicalizeName : N → Bytes → Except Status Unit
  displayName : N → Except Status (Bytes × Bytes)
  compareName : N → N → Except Status Bool

def MAP_ERROR_BASE : UInt32 := 0x04200000

def mapError (err : UInt32) : UInt32 := if err ≠ 0 then err + MAP_ERROR_BASE else err

def mapExit : Exit → Exit
  | .status s => .status { s with minor := s.minor.map mapError }
  | .fault => .fault

def GSSPROXY_INTERPOSER_OID : Bytes :=
  [0x60, 0x86, 0x48, 0x01, 0x86, 0xf8, 0x42, 0x03, 0x08, 0x0f, 0x01]

def isSpecialOid (mech : Bytes) : Bool := GSSPROXY_INTERPOSER_OID.isPrefixOf mech

def specialMech (mech : Bytes) : Bytes :=
  if isSpecialOid mech then mech else GSSPROXY_INTERPOSER_OID ++ mech

section

variable {N : Type} (lib : LocalNames N)

def importDisplayed (d : Displayed) (mech : Option Bytes) : Except Exit Unit × Option N :=
  match lib.importName d.display d.nameType with
  | .error s => (.error (.status s), none)
  | .ok name =>
    match mech with
    | none => (.ok (), some name)
    | some mech =>
      match lib.canonicalizeName name (specialMech mech) with
      | .error s => (.error (.status s), some name)
      | .ok _ => (.ok (), some name)

def gppNameToLocal (remote : GssxName) (mech : Option Bytes) : Except Exit Unit × Option N :=
  match gpmDisplayName (some remote) with
  | .error e => (.error e, none)
  | .ok (d, _) => importDisplayed lib d mech

def nameToLocal (remote : GssxName) (mech : Option Bytes) : Except Exit Unit × Option N :=
  match displayName remote with
  | .error e => (.error e, none)
  | .ok (d, _) =>
    match gpmNameOidToStatic d.nameType with
    | .error e => (.error e, none)
    | .ok _ =>
      match importDisplayed lib d mech with
      | (.error e, _) => (.error e, none)
      | (.ok _, name) => (.ok (), name)

def gppLocalToName (name : N) : Except Exit GssxName :=
  match lib.displayName name with
  | .error s => .error (.status s)
  | .ok (display, nameType) => .ok (importName display nameType)

end

/-! ## Comparison -/

section

variable {N : Type}

abbrev ToLocal (N : Type) := GssxName → Option Bytes → Except Exit Unit × Option N

def NameHandle.toLocal (conv : ToLocal N) (h : NameHandle N) : Except Exit N × NameHandle N :=
  match h.localName with
  | some name => (.ok name, h)
  | none =>
    match h.remote with
    | none => (.error (.status ⟨GSS_S_CALL_INACCESSIBLE_READ, none⟩), h)
    | some remote =>
      match conv remote h.mechType with
      | (.ok _, some name) => (.ok name, { h with localName := some name })
      | (.ok _, none) => (.error .fault, h)
      | (.error e, name) => (.error e, { h with localName := name })

def compareHandles (lib : LocalNames N) (conv : ToLocal N)
    (cmp : Option GssxName → Option GssxName → Except Exit Bool) (h1 h2 : NameHandle N) :
    Except Exit Bool × NameHandle N × NameHandle N :=
  if h1.localName.isSome || h2.localName.isSome then
    match h1.toLocal conv with
    | (.error e, h1) => (.error (mapExit e), h1, h2)
    | (.ok name1, h1) =>
      match h2.toLocal conv with
      | (.error e, h2) => (.error (mapExit e), h1, h2)
      | (.ok name2, h2) => ((lib.compareName name1 name2).mapError (mapExit ∘ .status), h1, h2)
  else if h1.remote.isNone && h2.remote.isNone then
    (.error (.status ⟨GSS_S_CALL_INACCESSIBLE_READ, none⟩), h1, h2)
  else ((cmp h1.remote h2.remote).mapError mapExit, h1, h2)

/-- `gssi_compare_name` in C. -/
def gssiCompareName (lib : LocalNames N) (h1 h2 : NameHandle N) :
    Except Exit Bool × NameHandle N × NameHandle N :=
  compareHandles lib (gppNameToLocal lib) gpmCompareName h1 h2

/-- `gssi_compare_name` in Rust. -/
def rustGssiCompareName (lib : LocalNames N) (h1 h2 : NameHandle N) :
    Except Exit Bool × NameHandle N × NameHandle N :=
  compareHandles lib (nameToLocal lib)
    (fun
      | some name1, some name2 => compareName name1 name2
      | _, _ => .error .fault) h1 h2

def NameHandle.ofRemote (name : GssxName) (mech : Option Bytes) : NameHandle N :=
  { mechType := mech, remote := some name, localName := none }

/-- Names are equal if bytes and type are shown the same. -/
def CompareLaw (n₁ n₂ : ShownName) (verdict : Except Exit Bool) : Prop :=
  ∃ equal, verdict = .ok equal ∧
    (equal = true ↔ shown n₁.name = shown n₂.name ∧ shownType n₁.name = shownType n₂.name)

theorem compareLaw_reported_iff (n₁ n₂ : ShownName) :
    CompareLaw n₁ n₂ (.ok (decide (Reported n₁.name n₂.name))) ↔ shown n₁.name = shown n₂.name := by
  constructor
  · rintro ⟨equal, hok, hl⟩
    cases hok
    -- With different bytes the names are reported as equal.
    by_contra hne
    have he := hl.mp (decide_eq_true fun h => absurd h hne)
    exact hne he.1
  · intro heq
    refine ⟨_, rfl, ?_⟩
    rw [decide_eq_true_iff]
    exact ⟨fun h => ⟨heq, h heq⟩, fun h _ => h.2⟩

/-- **Where the comparison is right**: exactly on names that show the same bytes, in both
    languages, in the client libraries and for remote names in the interposers. -/
theorem compare_name_law_iff (lib : LocalNames N) (mech₁ mech₂ : Option Bytes) :
    (∀ n₁ n₂ : StaticName,
      (CompareLaw n₁.toShownName n₂.toShownName (gpmCompareName (some n₁.name) (some n₂.name)) ↔
        shown n₁.name = shown n₂.name) ∧
      (CompareLaw n₁.toShownName n₂.toShownName
          (gssiCompareName lib (.ofRemote n₁.name mech₁) (.ofRemote n₂.name mech₂)).1 ↔
        shown n₁.name = shown n₂.name)) ∧ (∀ n₁ n₂ : ShownName,
      (CompareLaw n₁ n₂ (compareName n₁.name n₂.name) ↔ shown n₁.name = shown n₂.name) ∧
      (CompareLaw n₁ n₂
          (rustGssiCompareName lib (.ofRemote n₁.name mech₁) (.ofRemote n₂.name mech₂)).1 ↔
        shown n₁.name = shown n₂.name)) := by
  constructor
  · intro n₁ n₂
    have hl := compareLaw_reported_iff n₁.toShownName n₂.toShownName
    simp only [gssiCompareName, compareHandles, NameHandle.ofRemote, gpmCompareName_eq]
    exact ⟨hl, hl⟩
  · intro n₁ n₂
    have hl := compareLaw_reported_iff n₁ n₂
    simp only [rustGssiCompareName, compareHandles, NameHandle.ofRemote, compareName_eq]
    exact ⟨hl, hl⟩

end

/-- Two user names that have nothing in common are reported as equal. -/
theorem alice_equals_bob :
    let alice := importName [97, 108, 105, 99, 101] NT_USER_NAME_OID
    let bob := importName [98, 111, 98] NT_USER_NAME_OID
    gpmCompareName (some alice) (some bob) = .ok true ∧ compareName alice bob = .ok true ∧
      shown alice ≠ shown bob := by
  decide +kernel

end GssProxy.Interposer
