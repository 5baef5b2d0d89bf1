import GssProxy.Interposer.AcquireCred

/-!
# Default credentials in the interposer

`gppint_get_def_creds` obtains credentials into a handle that exists or one that it creates.  The Rust
port leaves a handle that it has created in the slot also when it fails; the C code reads a null pointer
where the daemon answers without a credential in place of a cached one.

* `getDefCreds_agree_iff`: when the two agree.
-/

namespace GssProxy.Interposer

open Codec Gss Proto Client Effect

structure DefCreds (C : Type) where
  major : UInt32
  minor : UInt32
  slot : Option (OutCred C)

structure DefSide where
  storesNull : Bool
  releases : Bool

def cDef : DefSide := ⟨true, true⟩

def rustDef : DefSide := ⟨false, false⟩

/-- What default credentials are asked for. -/
structure DefRequest (N : Type) where
  interposed : Option (List Bytes)
  usage : Int32
  name : Option (NameHandle N)

section

variable {N C : Type} (side : DefSide) (w : CredWorld N C) (req : DefRequest N)

def DefRequest.localReq : CredRequest :=
  { timeReq := 0, mechs := req.interposed, usage := req.usage, store := [] }

def DefRequest.remoteReq : CredRequest :=
  { timeReq := 0, mechs := none, usage := req.usage, store := [] }

def getLocalDefCreds (cred : OutCred C) : Calls (CredStep N) ((UInt32 × UInt32) × OutCred C) :=
  if req.interposed.isSome ∧ w.special req.interposed = true then do
    let name := req.name.bind (·.localName)
    let r ← Calls.call (.acquireLocal req.localReq name) (w.acquireLocal req.localReq name)
    return ((r.major, r.minor), { cred with localCred := r.value })
  else pure ((GSS_S_FAILURE, 0), cred)

def replaceCached (cached : GssxCred) (minor : UInt32) (cred : OutCred C) :
    Calls (CredStep N) (Option ((UInt32 × UInt32) × OutCred C)) := do
  let same ← Calls.call (.compare (some cached) cred.remote) (w.equal (some cached) cred.remote)
  if same then return some ((GSS_S_COMPLETE, minor), cred)
  else
    match cred.remote with
    | none => return if side.storesNull then none else some ((GSS_S_COMPLETE, minor), cred)
    | some remote =>
      let stored ← Calls.call (.store cred.defaultCreds cred.ccache remote)
        (w.store cred.defaultCreds cred.ccache remote)
      return some (stored, cred)

def getRemoteDefCreds (cred : OutCred C) :
    Calls (CredStep N) (Option ((UInt32 × UInt32) × OutCred C)) := do
  let name := req.name.bind (·.remote)
  let r ← Calls.call (.retrieve none name) (w.retrieve none name)
  let cached := if r.major = GSS_S_COMPLETE then some r.value else none
  let a ← Calls.call (.acquireRemote req.remoteReq cached none)
    (w.acquireRemote req.remoteReq cached none)
  if a.major = GSS_S_COMPLETE then
    match cached with
    | none => return some ((GSS_S_COMPLETE, a.minor), { cred with remote := a.value })
    | some cached => replaceCached side w cached a.minor { cred with remote := a.value }
  else return some ((a.major, a.minor), cred)

def finishDefCreds (slot : Option (OutCred C)) (status saved : UInt32 × UInt32)
    (cred : OutCred C) : DefCreds C :=
  let status := if status.1 ≠ GSS_S_COMPLETE ∧ saved.1 ≠ GSS_S_COMPLETE then saved else status
  { major := status.1
    minor := status.2
    slot :=
      if status.1 ≠ GSS_S_COMPLETE ∧ slot.isNone ∧ side.releases then none else some cred }

variable (behavior : Behavior) (slot : Option (OutCred C))

def remoteDefCreds (saved : UInt32 × UInt32) (cred : OutCred C) :
    Calls (CredStep N) (Option (DefCreds C)) := do
  let reply ← getRemoteDefCreds side w req cred
  match reply with
  | none => return none
  | some (status, cred) =>
    if status.1 ≠ GSS_S_COMPLETE ∧ behavior = .remoteFirst then
      let (status, cred) ← getLocalDefCreds w req cred
      return some (finishDefCreds side slot status saved cred)
    else return some (finishDefCreds side slot status saved cred)

def defCreds : Calls (CredStep N) (Option (DefCreds C)) :=
  let cred := slot.getD (OutCred.new true none)
  if behavior = .localOnly ∨ behavior = .localFirst then do
    let (status, cred) ← getLocalDefCreds w req cred
    if status.1 = GSS_S_COMPLETE ∨ behavior = .localOnly then
      return some (finishDefCreds side slot status (GSS_S_COMPLETE, 0) cred)
    else remoteDefCreds side w req behavior slot status cred
  else remoteDefCreds side w req behavior slot (GSS_S_COMPLETE, 0) cred

/-- `gppint_get_def_creds`. -/
def gppintGetDefCreds : Calls (CredStep N) (Option (DefCreds C)) :=
  defCreds cDef w req behavior slot

/-- `get_def_creds`. -/
def getDefCreds : Calls (CredStep N) (Option (DefCreds C)) :=
  defCreds rustDef w req behavior slot

end

/-! ## What is obtained -/

section

variable {N C : Type} (w : CredWorld N C) (req : DefRequest N)

def LocalGives : Prop :=
  (req.interposed.isSome ∧ w.special req.interposed = true) ∧
    (w.acquireLocal req.localReq (req.name.bind (·.localName))).major = GSS_S_COMPLETE

def cachedCred : Option GssxCred :=
  let r := w.retrieve none (req.name.bind (·.remote))
  if r.major = GSS_S_COMPLETE then some r.value else none

def RemoteGives (asDefault : Bool) (ccache : Option Bytes) : Prop :=
  let a := w.acquireRemote req.remoteReq (cachedCred w req) none
  a.major = GSS_S_COMPLETE ∧
    ((cachedCred w req).isSome → w.equal (cachedCred w req) a.value = false →
      ∀ cred ∈ a.value, (w.store asDefault ccache cred).1 = GSS_S_COMPLETE)

/-- Credentials are obtained under the behaviour. -/
def Obtains (slot : Option (OutCred C)) : Behavior → Prop
  | .localOnly => LocalGives w req
  | .remoteOnly => RemoteGives w req ((slot.map (·.defaultCreds)).getD true)
      (slot.bind (·.ccache))
  | _ => LocalGives w req ∨ RemoteGives w req ((slot.map (·.defaultCreds)).getD true)
      (slot.bind (·.ccache))

/-- The behaviour and the local mechanism let the daemon be asked. -/
def AsksDaemon : Behavior → Prop
  | .localOnly => False
  | .localFirst => ¬ LocalGives w req
  | _ => True

/-- In place of a cached credential the daemon gives none, and that is taken for a change. -/
def StoresNull : Prop :=
  ∃ cached, cachedCred w req = some cached ∧
    (w.acquireRemote req.remoteReq (some cached) none).major = GSS_S_COMPLETE ∧
    (w.acquireRemote req.remoteReq (some cached) none).value = none ∧
    w.equal (some cached) none = false

/-! ## Agreement -/

variable {w req} {behavior : Behavior} {slot : Option (OutCred C)} {status saved : UInt32 × UInt32}
  {cred : OutCred C}

theorem getRemoteDefCreds_eq (side : DefSide) :
    getRemoteDefCreds side w req cred = ⟨[.retrieve none (req.name.bind (·.remote)),
          .acquireRemote req.remoteReq (cachedCred w req) none], ()⟩ >>= fun _ =>
        let a := w.acquireRemote req.remoteReq (cachedCred w req) none
        if a.major = GSS_S_COMPLETE then
          match cachedCred w req with
          | none => pure (some ((GSS_S_COMPLETE, a.minor), { cred with remote := a.value }))
          | some cached => replaceCached side w cached a.minor { cred with remote := a.value }
        else pure (some ((a.major, a.minor), cred)) := rfl

theorem getRemoteDefCreds_agree (hn : ¬ StoresNull w req) :
    getRemoteDefCreds cDef w req cred = getRemoteDefCreds rustDef w req cred := by
  rw [getRemoteDefCreds_eq, getRemoteDefCreds_eq]
  apply Calls.bind_congr rfl
  cases hc : cachedCred w req with
  | none => rfl
  | some cached =>
    simp only
    split
    · rename_i hd
      cases hv : (w.acquireRemote req.remoteReq (some cached) none).value with
      | some remote => rfl
      | none =>
        apply Calls.call_congr
        cases he : w.equal (some cached) none with
        | true => rfl
        | false => exact absurd ⟨cached, hc, hd, hv, he⟩ hn
    · rfl

theorem getRemoteDefCreds_null (hn : StoresNull w req) :
    (getRemoteDefCreds cDef w req cred).value = none := by
  obtain ⟨cached, hc, hd, hv, he⟩ := hn
  rw [getRemoteDefCreds_eq]
  simp [hc, hd, hv, replaceCached, he, cDef]

def released (slot : Option (OutCred C)) (d : DefCreds C) : DefCreds C :=
  if d.major ≠ GSS_S_COMPLETE ∧ slot.isNone then { d with slot := none } else d

theorem finishDefCreds_released :
    finishDefCreds cDef slot status saved cred =
      released slot (finishDefCreds rustDef slot status saved cred) := by
  unfold released finishDefCreds
  generalize (if status.1 ≠ GSS_S_COMPLETE ∧ saved.1 ≠ GSS_S_COMPLETE then saved else status) = final
  by_cases hf : final.1 ≠ GSS_S_COMPLETE ∧ slot.isNone = true
  · have hc : final.1 ≠ GSS_S_COMPLETE ∧ slot.isNone = true ∧ cDef.releases = true :=
      ⟨hf.1, hf.2, rfl⟩
    simp only [if_pos hf, if_pos hc]
  have hc : ¬ (final.1 ≠ GSS_S_COMPLETE ∧ slot.isNone = true ∧ cDef.releases = true) :=
    fun h => hf ⟨h.1, h.2.1⟩
  have hr : ¬ (final.1 ≠ GSS_S_COMPLETE ∧ slot.isNone = true ∧ rustDef.releases = true) :=
    fun h => nomatch h.2.2
  simp only [if_neg hf, if_neg hc, if_neg hr]

/-- The C run ends at the null pointer if `null`, and else is the Rust run with a new handle
    released after a failure. -/
def Follows (null : Prop) (slot : Option (OutCred C))
    (m m' : Calls (CredStep N) (Option (DefCreds C))) : Prop :=
  (null ∧ m.value = none) ∨ ¬ null ∧ m.log = m'.log ∧ m.value = m'.value.map (released slot)

section

variable {null null' : Prop}

theorem Follows.bind {α : Type} {p : Calls (CredStep N) α}
    {f f' : α → Calls (CredStep N) (Option (DefCreds C))}
    (h : Follows null slot (f p.value) (f' p.value)) : Follows null slot (p >>= f) (p >>= f') :=
  h.imp id fun ⟨hn, hl, hv⟩ => ⟨hn, congrArg (p.log ++ ·) hl, hv⟩

theorem Follows.finish (hn : ¬ null) :
    Follows null slot
      (pure (some (finishDefCreds cDef slot status saved cred)) : Calls (CredStep N) _)
      (pure (some (finishDefCreds rustDef slot status saved cred))) :=
  .inr ⟨hn, rfl, congrArg some finishDefCreds_released⟩

theorem Follows.congr {m m' : Calls (CredStep N) (Option (DefCreds C))}
    (h : Follows null slot m m') (hi : null ↔ null') : Follows null' slot m m' :=
  h.imp (And.imp_left hi.mp) (And.imp_left fun hn h => hn (hi.mpr h))

end

theorem remoteDefCreds_follows :
    Follows (StoresNull w req) slot (remoteDefCreds cDef w req behavior slot saved cred)
      (remoteDefCreds rustDef w req behavior slot saved cred) := by
  unfold remoteDefCreds
  by_cases hn : StoresNull w req
  · refine .inl ⟨hn, ?_⟩
    rw [Calls.value_bind, getRemoteDefCreds_null hn]; rfl
  rw [getRemoteDefCreds_agree hn]
  apply Follows.bind
  rcases (getRemoteDefCreds rustDef w req cred).value with _ | ⟨status, cred⟩
  · exact .inr ⟨hn, rfl, rfl⟩
  simp only
  split
  · apply Follows.bind
    exact .finish hn
  · exact .finish hn

variable (w req)

theorem getLocalDefCreds_complete_iff (cred : OutCred C) :
    (getLocalDefCreds w req cred).value.1.1 = GSS_S_COMPLETE ↔ LocalGives w req := by
  unfold getLocalDefCreds LocalGives
  split
  · rename_i hs; exact ⟨fun h => ⟨hs, h⟩, fun h => h.2⟩
  · rename_i hs
    exact ⟨fun h => absurd h (by decide : GSS_S_FAILURE ≠ GSS_S_COMPLETE), fun h => absurd h.1 hs⟩

variable (behavior slot)

theorem defCreds_follows :
    Follows (AsksDaemon w req behavior ∧ StoresNull w req) slot
      (gppintGetDefCreds w req behavior slot) (getDefCreds w req behavior slot) := by
  have hl := getLocalDefCreds_complete_iff w req (slot.getD (OutCred.new true none))
  unfold gppintGetDefCreds getDefCreds defCreds AsksDaemon
  cases behavior with
  | localOnly =>
    apply Follows.bind
    simp only [or_true, if_true]
    exact .finish fun h => h.1
  | localFirst =>
    apply Follows.bind
    simp only [← hl, reduceCtorEq, or_false]
    split
    · rename_i hg; exact .finish fun h => h.1 hg
    · rename_i hg
      exact remoteDefCreds_follows.congr (and_iff_right hg).symm
  | remoteFirst | remoteOnly => exact remoteDefCreds_follows.congr (and_iff_right trivial).symm

/-! ## When the credentials are obtained -/

variable (saved cred)

theorem getLocalDefCreds_place :
    (getLocalDefCreds w req cred).value.2.defaultCreds = cred.defaultCreds ∧
      (getLocalDefCreds w req cred).value.2.ccache = cred.ccache := by
  unfold getLocalDefCreds
  split <;> exact ⟨rfl, rfl⟩

theorem replaceCached_ends (cached : GssxCred) (minor : UInt32) :
    ∃ status cred', (replaceCached rustDef w cached minor cred).value = some (status, cred') ∧
      (status.1 = GSS_S_COMPLETE ↔ (w.equal (some cached) cred.remote = false →
        ∀ remote ∈ cred.remote,
          (w.store cred.defaultCreds cred.ccache remote).1 = GSS_S_COMPLETE)) := by
  unfold replaceCached
  cases he : w.equal (some cached) cred.remote with
  | true => exact ⟨_, _, rfl, ⟨fun _ h => (nomatch h), fun _ => rfl⟩⟩
  | false =>
    cases hr : cred.remote with
    | none => exact ⟨_, _, rfl, ⟨fun _ _ _ h => (nomatch h), fun _ => rfl⟩⟩
    | some remote =>
      refine ⟨_, _, rfl, ⟨fun h _ remote' hm => ?_, fun h => h rfl remote rfl⟩⟩
      cases hm
      exact h

theorem getRemoteDefCreds_ends :
    ∃ status cred', (getRemoteDefCreds rustDef w req cred).value = some (status, cred') ∧
      (status.1 = GSS_S_COMPLETE ↔ RemoteGives w req cred.defaultCreds cred.ccache) := by
  rw [getRemoteDefCreds_eq]
  unfold RemoteGives
  by_cases hd : (w.acquireRemote req.remoteReq (cachedCred w req) none).major = GSS_S_COMPLETE
  · rw [if_pos hd]
    cases hc : cachedCred w req with
    | none =>
      rw [hc] at hd
      exact ⟨_, _, rfl, fun _ => ⟨hd, fun h => nomatch h⟩, fun _ => rfl⟩
    | some cached =>
      rw [hc] at hd
      obtain ⟨status, cred', he, hi⟩ := replaceCached_ends w
        { cred with remote := (w.acquireRemote req.remoteReq (some cached) none).value } cached
        (w.acquireRemote req.remoteReq (some cached) none).minor
      refine ⟨status, cred', he, hi.trans ?_⟩
      exact ⟨fun h => ⟨hd, fun _ => h⟩, fun h => h.2 rfl⟩
  · rw [if_neg hd]
    exact ⟨_, _, rfl, fun h => absurd h hd, fun h => h.1⟩

theorem finishDefCreds_complete_iff :
    (finishDefCreds rustDef slot status saved cred).major = GSS_S_COMPLETE ↔
      status.1 = GSS_S_COMPLETE := by
  unfold finishDefCreds
  split
  · rename_i h
    exact ⟨fun hsa => absurd hsa h.2, fun hs => absurd hs h.1⟩
  · exact Iff.rfl

def EndsWith (m : Calls (CredStep N) (Option (DefCreds C))) (P : Prop) : Prop :=
  ∃ d, m.value = some d ∧ d.slot.isSome = true ∧ (d.major = GSS_S_COMPLETE ↔ P)

theorem EndsWith.bind {α : Type} {p : Calls (CredStep N) α}
    {f : α → Calls (CredStep N) (Option (DefCreds C))} {P : Prop} (h : EndsWith (f p.value) P) :
    EndsWith (p >>= f) P := h

theorem EndsWith.congr {m : Calls (CredStep N) (Option (DefCreds C))} {P Q : Prop}
    (h : EndsWith m P) (hi : P ↔ Q) : EndsWith m Q := by
  obtain ⟨d, hd, hs, hm⟩ := h
  exact ⟨d, hd, hs, hm.trans hi⟩

theorem EndsWith.finish {P : Prop} (h : status.1 = GSS_S_COMPLETE ↔ P) :
    EndsWith (pure (some (finishDefCreds rustDef slot status saved cred)) : Calls (CredStep N) _)
      P := by
  refine ⟨_, rfl, ?_, (finishDefCreds_complete_iff slot saved cred).trans h⟩
  have hr : ∀ p : Prop, ¬ (p ∧ slot.isNone = true ∧ rustDef.releases = true) :=
    fun _ h => nomatch h.2.2
  unfold finishDefCreds
  simp only [if_neg (hr _)]
  rfl

theorem remoteDefCreds_ends :
    EndsWith (remoteDefCreds rustDef w req behavior slot saved cred)
      (RemoteGives w req cred.defaultCreds cred.ccache ∨
        behavior = .remoteFirst ∧ LocalGives w req) := by
  obtain ⟨status, cred', hv, hi⟩ := getRemoteDefCreds_ends w req cred
  have hl := getLocalDefCreds_complete_iff w req cred'
  apply EndsWith.bind
  rw [hv]
  by_cases hf : status.1 ≠ GSS_S_COMPLETE ∧ behavior = .remoteFirst
  · have hn : ¬ RemoteGives w req cred.defaultCreds cred.ccache := fun h =>
      hf.1 (hi.mpr h)
    simp only [if_pos hf]
    apply EndsWith.bind
    apply EndsWith.finish
    rw [hl]
    exact ⟨fun h => .inr ⟨hf.2, h⟩, fun h => (h.resolve_left hn).2⟩
  · simp only [if_neg hf]
    apply EndsWith.finish
    rw [hi]
    refine ⟨.inl, fun h => ?_⟩
    rcases h with h | ⟨hfi, -⟩
    · exact h
    · by_contra hn
      exact hf ⟨fun hd => hn (hi.mp hd), hfi⟩

theorem defCreds_ends :
    EndsWith (getDefCreds w req behavior slot) (Obtains w req slot behavior) := by
  have hp : (slot.getD (OutCred.new true none)).defaultCreds =
        (slot.map (·.defaultCreds)).getD true ∧
      (slot.getD (OutCred.new true none)).ccache = slot.bind (·.ccache) := by
    cases slot <;> exact ⟨rfl, rfl⟩
  unfold getDefCreds defCreds Obtains
  rw [← hp.1, ← hp.2]
  generalize slot.getD (OutCred.new true none) = cred
  have hl := getLocalDefCreds_complete_iff w req cred
  have hk := getLocalDefCreds_place w req cred
  cases behavior with
  | localOnly =>
    apply EndsWith.bind
    simp only [or_true, if_true]
    exact .finish slot _ _ hl
  | localFirst =>
    apply EndsWith.bind
    by_cases hd : (getLocalDefCreds w req cred).value.1.1 = GSS_S_COMPLETE
    · simp only [hd, true_or, if_true]
      exact .finish slot _ _ ⟨fun _ => .inl (hl.mp hd), fun _ => hd⟩
    have hn : ¬ LocalGives w req := fun h => hd (hl.mpr h)
    have he := remoteDefCreds_ends w req .localFirst slot (getLocalDefCreds w req cred).value.1
      (getLocalDefCreds w req cred).value.2
    rw [hk.1, hk.2] at he
    simp only [hd, reduceCtorEq, or_self, if_false]
    exact he.congr ⟨fun h => .inr (h.resolve_right fun h => (nomatch h.1)),
      fun h => .inl (h.resolve_left hn)⟩
  | remoteFirst =>
    exact (remoteDefCreds_ends w req .remoteFirst slot _ _).congr
      ⟨fun h => h.symm.imp And.right id, fun h => h.symm.imp id fun h => ⟨rfl, h⟩⟩
  | remoteOnly =>
    exact (remoteDefCreds_ends w req .remoteOnly slot _ _).congr
      ⟨fun h => h.resolve_right fun h => (nomatch h.1), .inl⟩

theorem released_iff {d : DefCreds C} (hs : d.slot.isSome = true) :
    released slot d = d ↔ slot.isSome = true ∨ d.major = GSS_S_COMPLETE := by
  unfold released
  split
  · rename_i hf
    refine iff_of_false (fun h => ?_) ?_
    · rw [← h] at hs; cases hs
    · simpa [Option.isNone_iff_eq_none.mp hf.2] using hf.1
  · rename_i hk
    refine iff_of_true rfl (Classical.or_iff_not_imp_left.mpr fun hn => ?_)
    by_contra hm
    exact hk ⟨hm, by simpa using hn⟩

/-- **When the two agree.**  The C code and the Rust port do the same exactly if the C code stores
    no null pointer, and the slot has a handle or the credentials are obtained. -/
theorem getDefCreds_agree_iff (behavior : Behavior) (slot : Option (OutCred C)) :
    gppintGetDefCreds w req behavior slot = getDefCreds w req behavior slot ↔
      ¬ (AsksDaemon w req behavior ∧ StoresNull w req) ∧
        (slot.isSome = true ∨ Obtains w req slot behavior) := by
  obtain ⟨d, hd, hs, hi⟩ := defCreds_ends w req behavior slot
  rcases defCreds_follows w req behavior slot with ⟨hn, hv⟩ | ⟨hn, hl, hv⟩
  · refine iff_of_false (fun h => ?_) fun h => h.1 hn
    rw [h, hd] at hv; cases hv
  · rw [and_iff_right hn, ← hi, ← released_iff slot hs, Calls.ext_iff, hv, hd]; simp [hl]

end

def barrenWorld : CredWorld Unit Unit :=
  { cacheWorld (GSS_S_COMPLETE, 0) with
    acquireRemote := fun _ _ _ => ⟨GSS_S_NO_CRED, 9, none⟩ }

def defaultRequest : DefRequest Unit := ⟨some [], GSS_C_INITIATE, none⟩

/-- With a handle in the slot the two agree on the failure. -/
theorem existing_handle_agree :
    gppintGetDefCreds barrenWorld defaultRequest .remoteOnly (some (OutCred.new true none)) =
      getDefCreds barrenWorld defaultRequest .remoteOnly (some (OutCred.new true none)) := by
  refine (getDefCreds_agree_iff barrenWorld defaultRequest .remoteOnly
    (some (OutCred.new true none))).mpr ⟨?_, .inl rfl⟩
  rintro ⟨-, cached, hc, -⟩
  cases hc

/-- **A new handle after a failure.**  The C code leaves no handle, the Rust port an empty one. -/
theorem new_handle_left :
    ((gppintGetDefCreds barrenWorld defaultRequest .remoteOnly none).value.map fun d =>
        (d.major, d.slot.isSome)) = some (GSS_S_NO_CRED, false) ∧
      ((getDefCreds barrenWorld defaultRequest .remoteOnly none).value.map fun d =>
        (d.major, d.slot.isSome)) = some (GSS_S_NO_CRED, true) := by
  decide +kernel

end GssProxy.Interposer
