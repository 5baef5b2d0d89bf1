import GssProxy.Interposer.InitSecContext

/-!
# Acquisition of credentials in the interposer

`gssi_acquire_cred_from` looks for a remote credential in the credential cache, tries the local mechanism,
the daemon, or one after the other, and stores a changed remote credential back.  Every step is recorded;
the outside is a parameter, `CredWorld`.  `AcquireSide` holds what differs between C and Rust.

* `acquireCredFrom_agree_iff`: when the two make the same steps to the same end.
-/

namespace GssProxy.Interposer

open Codec Gss Proto Client Effect

/-! ## The outside -/

structure Outcome (α : Type) where
  major : UInt32
  minor : UInt32
  value : α

structure StoreEntry where
  key : Bytes
  value : Option Bytes
  deriving DecidableEq

/-- The arguments of an acquisition. -/
structure CredRequest where
  timeReq : UInt32
  mechs : Option (List Bytes)
  usage : Int32
  store : List StoreEntry
  deriving DecidableEq

/-- A call that an acquisition makes. -/
inductive CredStep (N : Type) where
  | retrieve (ccache : Option Bytes) (name : Option GssxName)
  | nameToLocal (name : GssxName) (mech : Option Bytes)
  | acquireLocal (req : CredRequest) (name : Option N)
  | localToName (name : N)
  | acquireRemote (req : CredRequest) (input : Option GssxCred) (name : Option GssxName)
  | compare (input output : Option GssxCred)
  | store (asDefault : Bool) (ccache : Option Bytes) (cred : GssxCred)
  deriving DecidableEq

/-- How these calls end. -/
structure CredWorld (N C : Type) where
  retrieve : Option Bytes → Option GssxName → Outcome GssxCred
  special : Option (List Bytes) → Bool
  nameToLocal : GssxName → Option Bytes → Outcome (Option N)
  acquireLocal : CredRequest → Option N → Outcome (Option C)
  localToName : N → Outcome (Option GssxName)
  acquireRemote : CredRequest → Option GssxCred → Option GssxName → Outcome (Option GssxCred)
  equal : Option GssxCred → Option GssxCred → Bool
  store : Bool → Option Bytes → GssxCred → UInt32 × UInt32

def gppCredsAreEqual (a b : Option GssxCred) : Bool :=
  match a, b with
  | none, none => true
  | some a, some b =>
    a.desiredName.displayName == b.desiredName.displayName &&
      a.elements.length == b.elements.length && a.credHandleReference == b.credHandleReference
  | _, _ => false

/-! ## The two sides -/

def CCACHE_KEY : Bytes := [0x63, 0x63, 0x61, 0x63, 0x68, 0x65]

def gppCcacheName (store : List StoreEntry) : Option Bytes :=
  (store.find? fun e => e.key == CCACHE_KEY).bind (·.value)

def isText (bytes : Bytes) : Bool := (ByteArray.mk bytes.toArray).validateUTF8

def ccacheFromStore (store : List StoreEntry) : Option Bytes :=
  let kv := store.filter fun e => isText e.key && e.value.any isText
  (kv.find? fun e => e.key == CCACHE_KEY).bind (·.value)

structure AcquireSide where
  ccacheName : List StoreEntry → Option Bytes
  /-- whether a name that was imported but not canonicalised stays in the handle -/
  keepsName : Bool
  /-- the saved status after a store-back, from the one before and that of the store-back -/
  saved : UInt32 × UInt32 → UInt32 × UInt32 → UInt32 × UInt32

def cAcquire : AcquireSide where
  ccacheName := gppCcacheName
  keepsName := true
  saved _ stored := stored

def rustAcquire : AcquireSide where
  ccacheName := ccacheFromStore
  keepsName := false
  saved before _ := before

/-! ## Attempts -/

/-- `struct gpp_cred_handle`. -/
structure OutCred (C : Type) extends CredHandle C where
  defaultCreds : Bool
  ccache : Option Bytes

def OutCred.new {C : Type} (defaultCreds : Bool) (ccache : Option Bytes) : OutCred C :=
  { remote := none, localCred := none, defaultCreds, ccache }

structure AcquireResult (C : Type) where
  major : UInt32
  minor : UInt32
  cred : Option (OutCred C)

section

variable {N C : Type} (side : AcquireSide) (w : CredWorld N C)

def localName (name : Option (NameHandle N)) :
    Calls (CredStep N) (Except (UInt32 × UInt32) (Option N) × Option (NameHandle N)) :=
  match name with
  | none => pure (.ok none, none)
  | some handle =>
    match handle.localName, handle.remote with
    | none, some remote => do
      let r ← Calls.call (.nameToLocal remote handle.mechType)
        (w.nameToLocal remote handle.mechType)
      if r.major = GSS_S_COMPLETE then
        return (.ok r.value, some { handle with localName := r.value })
      else
        return (.error (r.major, r.minor),
          some { handle with localName := if side.keepsName then r.value else none })
    | known, _ => pure (.ok known, name)

structure Attempt (N C : Type) where
  major : UInt32
  minor : UInt32
  name : Option (NameHandle N)
  out : OutCred C

variable (behavior : Behavior) (req : CredRequest) (input : Option GssxCred)
  (saved : UInt32 × UInt32) (name : Option (NameHandle N)) (out : OutCred C)

def acquireLocal : Calls (CredStep N) (Attempt N C) :=
  if w.special req.mechs then do
    let converted ← localName side w name
    match converted with
    | (.error status, name) => return { major := status.1, minor := status.2, name, out }
    | (.ok known, name) =>
      let r ← Calls.call (.acquireLocal req known) (w.acquireLocal req known)
      return { major := r.major, minor := r.minor, name, out := { out with localCred := r.value } }
  else pure { major := GSS_S_BAD_MECH, minor := 0, name, out }

def finishAcquire (status saved : UInt32 × UInt32) (out : OutCred C) : AcquireResult C :=
  let status := if keep status.1 = false ∧ saved.1 ≠ GSS_S_COMPLETE then saved else status
  { major := status.1
    minor := mapError status.2
    cred := if status.1 = GSS_S_COMPLETE then some out else none }

def storeBack (input : Option GssxCred) (minor : UInt32) (saved : UInt32 × UInt32)
    (out : OutCred C) : Calls (CredStep N) (AcquireResult C) :=
  match out.remote with
  | none => pure (finishAcquire (GSS_S_COMPLETE, minor) saved out)
  | some cred => do
    let same ← Calls.call (.compare input (some cred)) (w.equal input (some cred))
    if same then return finishAcquire (GSS_S_COMPLETE, minor) saved out
    else
      let stored ← Calls.call (.store out.defaultCreds out.ccache cred)
        (w.store out.defaultCreds out.ccache cred)
      return finishAcquire (stored.1, minor) (side.saved saved stored) out

def acquireFromDaemon : Calls (CredStep N) (AcquireResult C) := do
  let remoteName := name.bind (·.remote)
  let r ← Calls.call (.acquireRemote req input remoteName) (w.acquireRemote req input remoteName)
  if r.major = GSS_S_COMPLETE then
    storeBack side w input r.minor saved { out with remote := r.value }
  else if behavior = .remoteFirst then
    let attempt ← acquireLocal side w req name out
    return finishAcquire (attempt.major, attempt.minor) (r.major, r.minor) attempt.out
  else return finishAcquire (r.major, r.minor) saved out

def acquireRemote : Calls (CredStep N) (AcquireResult C) :=
  match name with
  | some { mechType, remote := none, localName := some known } => do
    let r ← Calls.call (.localToName known) (w.localToName known)
    if r.major ≠ GSS_S_COMPLETE then return finishAcquire (r.major, r.minor) saved out
    else
      acquireFromDaemon side w behavior req input saved
        (some { mechType, remote := r.value, localName := some known }) out
  | name => acquireFromDaemon side w behavior req input saved name out

/-- A remote credential in the cache makes the daemon first; a cache asked for without one, the
    local mechanism. -/
def lookForRemote (ccache : Option Bytes) : Calls (CredStep N) (Behavior × Option GssxCred) :=
  if behavior = .localOnly then pure (behavior, none)
  else do
    let r ← Calls.call (.retrieve ccache none) (w.retrieve ccache none)
    if r.major = GSS_S_COMPLETE then return (.remoteFirst, some r.value)
    else return (if ccache.isSome then .localFirst else behavior, none)

def acquireInOrder : Calls (CredStep N) (AcquireResult C) :=
  if behavior = .localOnly ∨ behavior = .localFirst then do
    let attempt ← acquireLocal side w req name out
    if attempt.major = GSS_S_COMPLETE ∨ behavior = .localOnly then
      return finishAcquire (attempt.major, attempt.minor) (GSS_S_COMPLETE, 0) attempt.out
    else
      acquireRemote side w behavior req input (attempt.major, attempt.minor) attempt.name
        attempt.out
  else acquireRemote side w behavior req input (GSS_S_COMPLETE, 0) name out

/-- The entry point, under a behaviour; without `wanted` there is no place for the handle. -/
def acquireCredFrom (wanted : Bool) : Calls (CredStep N) (AcquireResult C) :=
  if wanted then do
    let ccache := side.ccacheName req.store
    let (behavior, input) ← lookForRemote w behavior ccache
    acquireInOrder side w behavior req input name (OutCred.new ccache.isNone ccache)
  else pure { major := GSS_S_FAILURE, minor := mapError EINVAL, cred := none }

/-- `gssi_acquire_cred_from` in C. -/
def gssiAcquireCredFrom (wanted : Bool) : Calls (CredStep N) (AcquireResult C) :=
  acquireCredFrom cAcquire w behavior req name wanted

/-- `gssi_acquire_cred_from` in Rust. -/
def rustGssiAcquireCredFrom (wanted : Bool) : Calls (CredStep N) (AcquireResult C) :=
  acquireCredFrom rustAcquire w behavior req name wanted

end

/-! ## Agreement -/

/-- A `ccache` entry that the Rust code reads. -/
def isTextCcache (e : StoreEntry) : Bool := e.key == CCACHE_KEY && e.value.any isText

/-- The first `ccache` entry is text, or it has no value and none of the others is text. -/
def TextStore (store : List StoreEntry) : Prop :=
  ∀ e, store.find? (fun e => e.key == CCACHE_KEY) = some e →
    match e.value with
    | some name => isText name = true
    | none => store.find? isTextCcache = none

theorem ccacheFromStore_eq (store : List StoreEntry) :
    ccacheFromStore store = (store.find? isTextCcache).bind (·.value) := by
  have hc : isText CCACHE_KEY = true := by decide +kernel
  unfold ccacheFromStore
  simp only [List.find?_filter]
  congr 2
  funext e
  by_cases hk : e.key = CCACHE_KEY <;> simp [isTextCcache, hk, hc]

theorem ccacheName_agree_iff (store : List StoreEntry) :
    gppCcacheName store = ccacheFromStore store ↔ TextStore store := by
  have ht : ∀ e, store.find? isTextCcache = some e → ∃ name, e.value = some name ∧
      isText name = true := by
    intro e hf
    have he := List.find?_some hf
    simpa [Option.any_eq_true] using (Bool.and_eq_true_iff.mp he).2
  unfold gppCcacheName TextStore
  rw [ccacheFromStore_eq]
  cases hf : store.find? (fun e => e.key == CCACHE_KEY) with
  | none =>
    have hno : store.find? isTextCcache = none := by
      simp only [List.find?_eq_none] at hf ⊢
      intro e he h
      exact hf e he (Bool.and_eq_true_iff.mp h).1
    simp [hno]
  | some e =>
    obtain ⟨key, value⟩ := e
    simp only [Option.bind_some, Option.some.injEq, forall_eq']
    cases value with
    | some name =>
      refine ⟨fun h => ?_, fun hn => ?_⟩
      · obtain ⟨e, he, hv⟩ := Option.bind_eq_some_iff.mp h.symm
        obtain ⟨name', hn', hi⟩ := ht e he
        cases hn'.symm.trans hv
        exact hi
      · obtain ⟨hk, before, after, rfl, hb⟩ := List.find?_eq_some_iff_append.mp hf
        rw [List.find?_eq_some_iff_append.mpr ⟨by simpa [isTextCcache, hn] using hk, before,
          after, rfl, fun e he => by simp_all [isTextCcache]⟩]
        rfl
    | none =>
      cases ho : store.find? isTextCcache with
      | none => simp
      | some e => obtain ⟨name, hn, -⟩ := ht e ho; simp [hn]

section

variable {N C : Type} (w : CredWorld N C)

/-- The exit reports a store-back alike, from its own status or the one saved before it. -/
def ReportedAlike (stored : UInt32 × UInt32) (minor : UInt32) (saved : UInt32 × UInt32) : Prop :=
  keep stored.1 = false →
    if saved.1 = GSS_S_COMPLETE then mapError minor = mapError stored.2
    else saved.1 = stored.1 ∧ mapError saved.2 = mapError stored.2

/-- If the daemon gives another credential than `input`, its store-back is reported alike. -/
def StoresBack (req : CredRequest) (input : Option GssxCred) (saved : UInt32 × UInt32)
    (out : OutCred C) (name : Option GssxName) : Prop :=
  let r := w.acquireRemote req input name
  r.major = GSS_S_COMPLETE → ∀ cred, r.value = some cred → w.equal input (some cred) = false →
    ReportedAlike (w.store out.defaultCreds out.ccache cred) r.minor saved

/-- The name the daemon is asked for, if it is asked. -/
def daemonName : Option (NameHandle N) → Option (Option GssxName)
  | some ⟨_, none, some known⟩ =>
    let r := w.localToName known
    if r.major = GSS_S_COMPLETE then some r.value else none
  | name => some (name.bind (·.remote))

/-- The store-back that the run makes, if it makes one, is reported alike. -/
def StoresInOrder (req : CredRequest) (input : Option GssxCred) (name : Option (NameHandle N))
    (out : OutCred C) : Behavior → Prop
  | .localOnly => True
  | .localFirst =>
    let tried := (acquireLocal cAcquire w req name out).value
    tried.major ≠ GSS_S_COMPLETE → ∀ remote ∈ daemonName w tried.name,
      StoresBack w req input (tried.major, tried.minor) tried.out remote
  | _ => ∀ remote ∈ daemonName w name, StoresBack w req input (GSS_S_COMPLETE, 0) out remote

structure Attempt.Agree (a b : Attempt N C) : Prop where
  major : a.major = b.major
  minor : a.minor = b.minor
  out : a.out = b.out
  name : a.name = b.name ∨ ∃ h h' remote, a.name = some h ∧ b.name = some h' ∧
    h.remote = some remote ∧ h'.remote = some remote

theorem localName_converts (side : AcquireSide) (remote : GssxName) (mech : Option Bytes) :
    localName side w (some ⟨mech, some remote, none⟩) =
      let r := w.nameToLocal remote mech
      Calls.call (.nameToLocal remote mech)
        (if r.major = GSS_S_COMPLETE then (.ok r.value, some ⟨mech, some remote, r.value⟩)
          else (.error (r.major, r.minor),
            some ⟨mech, some remote, if side.keepsName then r.value else none⟩)) := by
  show (Calls.call _ _ >>= _) = _
  rw [Calls.call_bind]
  by_cases hd : (w.nameToLocal remote mech).major = GSS_S_COMPLETE
  · simp only [if_pos hd]; rfl
  · simp only [if_neg hd]; rfl

theorem acquireLocal_agree (req : CredRequest) (name : Option (NameHandle N)) (out : OutCred C) :
    (acquireLocal cAcquire w req name out).log = (acquireLocal rustAcquire w req name out).log ∧
      Attempt.Agree (acquireLocal cAcquire w req name out).value
        (acquireLocal rustAcquire w req name out).value := by
  unfold acquireLocal
  split
  · match name with
    | none => exact ⟨rfl, rfl, rfl, rfl, .inl rfl⟩
    | some ⟨mech, none, none⟩ => exact ⟨rfl, rfl, rfl, rfl, .inl rfl⟩
    | some ⟨mech, remote, some known⟩ => exact ⟨rfl, rfl, rfl, rfl, .inl rfl⟩
    | some ⟨mech, some remote, none⟩ =>
      -- only here a name is converted, and it has a remote part
      rw [localName_converts, localName_converts]
      by_cases hd : (w.nameToLocal remote mech).major = GSS_S_COMPLETE
      · simp only [if_pos hd]; exact ⟨trivial, rfl, rfl, rfl, .inl rfl⟩
      · simp only [if_neg hd]
        exact ⟨rfl, rfl, rfl, rfl, .inr
          ⟨⟨mech, some remote, _⟩, ⟨mech, some remote, _⟩, remote, rfl, rfl, rfl, rfl⟩⟩
  · exact ⟨rfl, rfl, rfl, rfl, .inl rfl⟩

variable {w} {req : CredRequest} (behavior : Behavior) (input : Option GssxCred)
  (saved : UInt32 × UInt32) (name : Option (NameHandle N)) (out : OutCred C)

theorem finishAcquire_agree_iff {stored saved : UInt32 × UInt32} {minor : UInt32}
    {out : OutCred C} :
    finishAcquire (stored.1, minor) stored out = finishAcquire (stored.1, minor) saved out ↔
      ReportedAlike stored minor saved := by
  unfold finishAcquire ReportedAlike
  cases hk : keep stored.1 with
  | true => simp
  | false =>
    have hf : stored.1 ≠ GSS_S_COMPLETE := by
      rintro h
      rw [h] at hk; cases hk
    by_cases hs : saved.1 = GSS_S_COMPLETE <;> simp [hf, hs, eq_comm]

theorem storeBack_agree_iff (minor : UInt32) :
    storeBack cAcquire w input minor saved out = storeBack rustAcquire w input minor saved out ↔
      ∀ cred, out.remote = some cred → w.equal input (some cred) = false →
        ReportedAlike (w.store out.defaultCreds out.ccache cred) minor saved := by
  unfold storeBack
  cases out.remote with
  | none => simp
  | some cred =>
    simp only [Option.some.injEq, forall_eq']
    rw [Calls.bind_eq_iff rfl, Calls.value_call]
    cases w.equal input (some cred) with
    | true => simp
    | false =>
      simp only [Bool.false_eq_true, if_false, forall_const]
      rw [Calls.bind_eq_iff rfl, Calls.pure_inj]
      exact finishAcquire_agree_iff

theorem acquireFromDaemon_agree_iff {name name' : Option (NameHandle N)}
    (hr : name.bind (·.remote) = name'.bind (·.remote)) (hn : behavior = .remoteFirst → name = name') :
    acquireFromDaemon cAcquire w behavior req input saved name out =
        acquireFromDaemon rustAcquire w behavior req input saved name' out ↔
      StoresBack w req input saved out (name.bind (·.remote)) := by
  unfold acquireFromDaemon StoresBack
  rw [← hr, Calls.bind_eq_iff rfl, Calls.value_call]
  by_cases hd : (w.acquireRemote req input (name.bind (·.remote))).major = GSS_S_COMPLETE
  · simp only [hd, if_true, forall_const]; exact storeBack_agree_iff input saved _ _
  simp only [hd, if_false, false_implies, iff_true]
  by_cases hf : behavior = .remoteFirst
  · rw [if_pos hf, if_pos hf, hn hf]
    obtain ⟨hl, ha⟩ := acquireLocal_agree w req name' out
    apply Calls.bind_congr hl
    rw [ha.major, ha.minor, ha.out]
  · rw [if_neg hf, if_neg hf]

theorem acquireRemote_agree_iff :
    acquireRemote cAcquire w behavior req input saved name out =
        acquireRemote rustAcquire w behavior req input saved name out ↔
      ∀ remote ∈ daemonName w name, StoresBack w req input saved out remote := by
  have ha : ∀ name : Option (NameHandle N),
      acquireFromDaemon cAcquire w behavior req input saved name out =
          acquireFromDaemon rustAcquire w behavior req input saved name out ↔
        StoresBack w req input saved out (name.bind (·.remote)) := fun name =>
    acquireFromDaemon_agree_iff behavior input saved out rfl fun _ => rfl
  match name with
  | none => simpa [acquireRemote, daemonName] using ha none
  | some ⟨mech, some remote, known⟩ =>
    simpa [acquireRemote, daemonName] using ha (some ⟨mech, some remote, known⟩)
  | some ⟨mech, none, none⟩ => simpa [acquireRemote, daemonName] using ha (some ⟨mech, none, none⟩)
  | some ⟨mech, none, some known⟩ =>
    unfold acquireRemote daemonName
    rw [Calls.bind_eq_iff rfl]
    by_cases hd : (w.localToName known).major = GSS_S_COMPLETE
    · simpa [hd] using ha (some ⟨mech, (w.localToName known).value, some known⟩)
    · simp [hd]

theorem acquireRemote_agree_after {tried tried' : Attempt N C} (ha : tried.Agree tried') :
    acquireRemote cAcquire w .localFirst req input (tried.major, tried.minor) tried.name tried.out =
        acquireRemote rustAcquire w .localFirst req input (tried'.major, tried'.minor) tried'.name
          tried'.out ↔
      ∀ remote ∈ daemonName w tried.name,
        StoresBack w req input (tried.major, tried.minor) tried.out remote := by
  rw [← ha.major, ← ha.minor, ← ha.out]
  rcases ha.name with hn | ⟨⟨_, _, _⟩, ⟨_, _, _⟩, remote, hn, hn', rfl, rfl⟩
  · rw [← hn]; exact acquireRemote_agree_iff _ _ _ _ _
  · rw [hn, hn']
    simp only [daemonName, Option.mem_some_iff, forall_eq']
    exact acquireFromDaemon_agree_iff .localFirst input _ _ rfl nofun

theorem acquireInOrder_agree_iff :
    acquireInOrder cAcquire w behavior req input name out =
        acquireInOrder rustAcquire w behavior req input name out ↔
      StoresInOrder w req input name out behavior := by
  obtain ⟨hl, ha⟩ := acquireLocal_agree w req name out
  unfold acquireInOrder StoresInOrder
  cases behavior with
  | localOnly =>
    simp only [true_or, if_true, or_true, iff_true]
    apply Calls.bind_congr hl
    rw [ha.major, ha.minor, ha.out]
  | localFirst =>
    simp only [or_true, if_true, reduceCtorEq, or_false]
    rw [Calls.bind_eq_iff hl, ← ha.major]
    split
    · rename_i hd; simp [hd, ha.minor, ha.out]
    · rename_i hf
      rw [forall_prop_of_true hf]
      simpa [ha.major] using acquireRemote_agree_after input ha
  | remoteFirst | remoteOnly => exact acquireRemote_agree_iff _ _ _ _ _

/-- The local mechanism gives no credential. -/
def LocalFails (w : CredWorld N C) (req : CredRequest) (name : Option (NameHandle N)) : Prop :=
  (acquireLocal cAcquire w req name (OutCred.new true none)).value.major ≠ GSS_S_COMPLETE

/-- Where the handle is to be stored does not matter to the local mechanism. -/
theorem localOnly_eq (side : AcquireSide) (ccache : Option Bytes) :
    acquireInOrder side w .localOnly req none name (OutCred.new ccache.isNone ccache) =
      let r := acquireLocal side w req name (OutCred.new true none)
      ⟨r.log, finishAcquire (r.value.major, r.value.minor) (GSS_S_COMPLETE, 0)
        { r.value.out with defaultCreds := ccache.isNone, ccache }⟩ := by
  unfold acquireInOrder acquireLocal
  simp only [true_or, if_true, or_true]
  split
  · rcases localName side w name with ⟨log, status | known, name'⟩ <;>
      exact Calls.ext (by simp) rfl
  · rfl

theorem localOnly_agree_iff (ccache ccache' : Option Bytes) :
    acquireInOrder cAcquire w .localOnly req none name (OutCred.new ccache.isNone ccache) =
        acquireInOrder rustAcquire w .localOnly req none name (OutCred.new ccache'.isNone ccache') ↔
      ccache = ccache' ∨ LocalFails w req name := by
  obtain ⟨hl, ha⟩ := acquireLocal_agree w req name (OutCred.new true none)
  rw [localOnly_eq, localOnly_eq, Calls.ext_iff]
  simp only [hl, true_and, LocalFails, finishAcquire, ← ha.major, ← ha.minor, ← ha.out]
  by_cases hd : (acquireLocal cAcquire w req name (OutCred.new true none)).value.major =
      GSS_S_COMPLETE
  · simp only [hd, AcquireResult.mk.injEq, true_and, ne_eq, not_true_eq_false, or_false,
      and_false, if_false, if_true, Option.some.injEq, OutCred.mk.injEq]
    exact ⟨And.right, fun h => ⟨congrArg _ h, h⟩⟩
  · simp [hd]

/-- **When the two entry points agree.**  They take the same steps in the same order and end with
    the same status and handle exactly if the credential cache has one name in both, or a failed
    local acquisition is all there is, and the store-back the run makes is reported alike. -/
theorem acquireCredFrom_agree_iff (w : CredWorld N C) (behavior : Behavior) (req : CredRequest)
    (name : Option (NameHandle N)) (wanted : Bool) :
    gssiAcquireCredFrom w behavior req name wanted =
        rustGssiAcquireCredFrom w behavior req name wanted ↔
      (wanted = true →
        (TextStore req.store ∨ behavior = .localOnly ∧ LocalFails w req name) ∧
        let ccache := gppCcacheName req.store
        let found := (lookForRemote w behavior ccache).value
        StoresInOrder w req found.2 name (OutCred.new ccache.isNone ccache) found.1) := by
  unfold gssiAcquireCredFrom rustGssiAcquireCredFrom acquireCredFrom
  rw [← ccacheName_agree_iff]
  cases wanted with
  | false => simp
  | true =>
    simp only [if_true, forall_const]
    by_cases hl : behavior = .localOnly
    · subst hl
      have hf : ∀ ccache, lookForRemote w .localOnly ccache = pure (.localOnly, none) :=
        fun _ => rfl
      simp only [hf]
      exact (localOnly_agree_iff name _ _).trans (by simp [StoresInOrder, cAcquire, rustAcquire])
    · by_cases hs : gppCcacheName req.store = ccacheFromStore req.store
      · rw [show rustAcquire.ccacheName req.store = cAcquire.ccacheName req.store from hs.symm,
          Calls.bind_eq_iff rfl, acquireInOrder_agree_iff]
        simp [hs, cAcquire]
      refine iff_of_false (fun h => ?_) fun h => h.1.elim hs fun h => hl h.1
      have hlo := congrArg (·.log.head?) h
      simp only [lookForRemote, if_neg hl, Calls.log_bind, Calls.log_call,
        List.cons_append, List.head?_cons, Option.some.injEq,
        CredStep.retrieve.injEq, and_true] at hlo
      exact hs hlo

end

/-- No credential is cached or local (7), the daemon gives one, and its store ends with `stored`. -/
def cacheWorld (stored : UInt32 × UInt32) : CredWorld Unit Unit where
  retrieve _ _ := ⟨GSS_S_FAILURE, ENOENT, default⟩
  special _ := true
  nameToLocal _ _ := ⟨GSS_S_FAILURE, 0, none⟩
  acquireLocal _ _ := ⟨GSS_S_NO_CRED, 7, none⟩
  localToName _ := ⟨GSS_S_FAILURE, 0, none⟩
  acquireRemote _ _ _ := ⟨GSS_S_COMPLETE, 0, some default⟩
  equal := gppCredsAreEqual
  store _ _ _ := stored

def cacheRequest (ccache : Bytes) : CredRequest where
  timeReq := 0
  mechs := none
  usage := GSS_C_INITIATE
  store := [⟨CCACHE_KEY, some ccache⟩]

theorem stored_back_agree :
    gssiAcquireCredFrom (cacheWorld (GSS_S_COMPLETE, 0)) .localFirst (cacheRequest [0x58]) none
        true =
      rustGssiAcquireCredFrom (cacheWorld (GSS_S_COMPLETE, 0)) .localFirst (cacheRequest [0x58])
        none true := by
  refine (acquireCredFrom_agree_iff _ _ _ _ _).mpr fun _ => ⟨.inl ?_, ?_⟩
  · rintro e ⟨⟩
    exact (by decide +kernel : isText [0x58] = true)
  · intro _ _ _ _ _ _ _ _ _ hf; cases hf

/-- **The status of a failed store-back.**  The cache is full (28): the Rust code reports that there
    is no local credential.  And only the C code looks into a cache whose name is not UTF-8. -/
theorem failed_store_reported_differently :
    (let c := gssiAcquireCredFrom (cacheWorld (GSS_S_FAILURE, 28)) .localFirst
        (cacheRequest [0x58]) none true
      let rust := rustGssiAcquireCredFrom (cacheWorld (GSS_S_FAILURE, 28)) .localFirst
        (cacheRequest [0x58]) none true
      c.log = rust.log ∧ (c.value.major, c.value.minor) = (GSS_S_FAILURE, mapError 28) ∧
        (rust.value.major, rust.value.minor) = (GSS_S_NO_CRED, mapError 7)) ∧
      (gssiAcquireCredFrom (cacheWorld (GSS_S_COMPLETE, 0)) .remoteOnly (cacheRequest [0xff]) none
          true).log.head? = some (.retrieve (some [0xff]) none) ∧
      (rustGssiAcquireCredFrom (cacheWorld (GSS_S_COMPLETE, 0)) .remoteOnly (cacheRequest [0xff])
          none true).log.head? = some (.retrieve none none) := by
  decide +kernel

end GssProxy.Interposer
