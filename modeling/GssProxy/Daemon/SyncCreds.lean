import GssProxy.Daemon.FailedReplies

/-!
# Credentials that are sent back

The C daemon compares the number of tickets of a credential before and after an initiation, unless the
service or the client does not want it back or the tickets are in a cache of the service.

* `synced_iff`: it is sent back where it is wanted and the number has changed.
-/

namespace GssProxy.Daemon.SyncCreds

open Codec Effect Gss Proto Server

def GPKRB_MAX_CRED_SIZE : Nat := 1024 * 512

def ENOSPC : UInt32 := 28

/-- The calls around tickets: what is read of a credential before and after the context call, and
    the allocations of `gp_add_option`. -/
structure TicketCalls (A T : Type) where
  before : Option A → Except GssError (List T)
  after : Option A → Except GssError (List T)
  addOption : Except UInt32 Unit

section

variable {N X A H T : Type}

/-- The loop of `gp_count_tickets`.  The end of the cache is counted too. -/
def countLoop : List T → UInt32 → UInt32
  | [], ccsum => ccsum + 1
  | _ :: rest, ccsum => countLoop rest (ccsum + 1)

def gpCountTickets (read : Except GssError (List T)) : Except GssError UInt32 :=
  read.map fun tickets => countLoop tickets 0

variable (lib : GpLib N X A H) (port : Port) (conv : Conversions) (call : GpCall H)
  (tickets : TicketCalls A T) (allowCcSync : Bool) (arg : ArgInitSecContext)

/-- `gp_check_sync_creds`, with the answer zero where nothing is to be sent back. -/
def gpCheckSyncCreds (read : Except GssError (List T)) : UInt32 :=
  if ¬ allowCcSync then 0
  else
    match findOption arg.options CRED_SYNC_OPTION with
    | none => 0
    | some value =>
      if value ≠ CRED_SYNC_DEFAULT then 0
      else if call.service.krb5Store.any fun entry => entry.1 == "ccache" then 0
      else
        match gpCountTickets read with
        | .ok ccsum => ccsum
        | .error _ => 0

def gpExportSyncCreds (cred : A) : Except GssError GssxOption :=
  match gpExportGssxCred lib conv call.creds cred default with
  | (.error e, _) => .error e
  | (.ok (), wire) =>
    if GPKRB_MAX_CRED_SIZE < (encode wire).length then .error ⟨GSS_S_FAILURE, ENOSPC⟩
    else
      match tickets.addOption with
      | .error e => .error ⟨GSS_S_FAILURE, e⟩
      | .ok () => .ok (option CRED_SYNC_PAYLOAD (encode wire))

/-- What `gp_init_sec_context` adds to its reply.  A failed export is not fatal. -/
def syncOptions (handle : Option GssxCred) (cred : Option A) : List GssxOption :=
  let given := (importGiven lib conv call handle).toOption.join
  let gccnBefore := if handle.isSome then gpCheckSyncCreds call allowCcSync arg (tickets.before given)
    else 0
  let gccnAfter := gpCheckSyncCreds call allowCcSync arg (tickets.after cred)
  if gccnBefore ≠ gccnAfter then
    (cred.bind fun cred => (gpExportSyncCreds lib conv call tickets cred).toOption).toList
  else []

def syncLib : GpLib N X A H :=
  { lib with syncOptions := syncOptions lib conv call tickets allowCcSync arg }

/-! ## When the credential is sent back -/

/-- The service allows it, the client has asked for it, and the service has no cache of its own. -/
structure Wanted : Prop where
  allowed : allowCcSync = true
  asked : findOption arg.options CRED_SYNC_OPTION = some CRED_SYNC_DEFAULT
  noCcache : ∀ entry ∈ call.service.krb5Store, entry.1 ≠ "ccache"

variable {lib port conv call tickets allowCcSync arg} {held held' : List T}

theorem gpCheckSyncCreds_ok (h : Wanted call allowCcSync arg) :
    gpCheckSyncCreds call allowCcSync arg (.ok held) = countLoop held 0 := by
  unfold gpCheckSyncCreds
  rw [if_neg (by rw [h.allowed]; simp), h.asked]
  have hs : call.service.krb5Store.any (fun entry => entry.1 == "ccache") = false := by
    rw [List.any_eq_false]
    intro entry he
    simpa using h.noCcache entry he
  simp only [ne_eq, not_true_eq_false, if_false, hs, Bool.false_eq_true]
  rfl

theorem gpCheckSyncCreds_zero (h : ¬ Wanted call allowCcSync arg) (read : Except GssError (List T)) :
    gpCheckSyncCreds call allowCcSync arg read = 0 := by
  unfold gpCheckSyncCreds
  split
  · rfl
  rename_i ha
  split
  · rfl
  rename_i value hv
  split
  · rfl
  rename_i hd
  split
  · rfl
  rename_i hs
  refine absurd ⟨by simpa using ha, ?_, ?_⟩ h
  · rw [hv, not_not.mp hd]
  · intro entry he hk
    exact hs (List.any_eq_true.mpr ⟨entry, he, beq_iff_eq.mpr hk⟩)

theorem countLoop_toNat (tickets : List T) (ccsum : UInt32) :
    (countLoop tickets ccsum).toNat = (ccsum.toNat + tickets.length + 1) % 4294967296 := by
  induction tickets generalizing ccsum with
  | nil => rfl
  | cons ticket rest ih =>
    have hn : (ccsum + 1).toNat = (ccsum.toNat + 1) % 4294967296 := UInt32.toNat_add ccsum 1
    show (countLoop rest (ccsum + 1)).toNat = _
    rw [ih, List.length_cons]; omega

theorem countLoop_eq_iff :
    countLoop held 0 = countLoop held' 0 ↔ held.length % 4294967296 = held'.length % 4294967296 := by
  have h := countLoop_toNat held 0
  have h' := countLoop_toNat held' 0
  have hz : (0 : UInt32).toNat = 0 := rfl
  rw [← UInt32.toNat_inj]
  omega

variable (lib port conv call tickets allowCcSync arg) in
/-- A successful call with a credential handle, which unseals to `given`: `cred` initiated the
    context, its tickets are read before and after, and it exports as `payload`. -/
structure Succeeds (given : Option A) (cred : A) (held held' : List T) (payload : GssxOption)
    (res : ResInitSecContext) where
  handle : GssxCred
  handed : arg.credHandle = some handle
  imported : importGiven lib conv call (some handle) = .ok given
  kept : Initiated X A
  initiated : initCall (syncLib lib conv call tickets allowCcSync arg) port conv call arg = .ok kept
  uses : kept.cred = some cred
  filled : ResInitSecContext
  fills : fillInit (syncLib lib conv call tickets allowCcSync arg) conv arg kept default =
    (.ok (), filled)
  replies : gpInitSecContext (syncLib lib conv call tickets allowCcSync arg) port conv call arg =
    some res
  readBefore : tickets.before given = .ok held
  readAfter : tickets.after (some cred) = .ok held'
  exported : gpExportSyncCreds lib conv call tickets cred = .ok payload

variable {given : Option A} {cred : A} {payload : GssxOption} {res : ResInitSecContext}

theorem options_of_fillInit {lib : GpLib N X A H} {kept : Initiated X A}
    (h : fillInit lib conv arg kept default = (.ok (), res)) :
    res.options = lib.syncOptions arg.credHandle kept.cred := by
  iterate 3 obtain ⟨_, _, -, h⟩ := Filling.bind_eq_ok h
  cases h
  rfl

theorem Succeeds.options (h : Succeeds lib port conv call tickets allowCcSync arg given cred held held'
    payload res) :
    res.options = if gpCheckSyncCreds call allowCcSync arg (.ok held) ≠
      gpCheckSyncCreds call allowCcSync arg (.ok held') then [payload] else [] := by
  obtain ⟨handle, hh, hi, kept, hin, hu, filled, hf, hr, hb, ha, he⟩ := h
  unfold gpInitSecContext finish at hr
  rw [hin] at hr
  simp only [hf] at hr
  obtain ⟨_, _, rfl⟩ := Option.map_eq_some_iff.mp hr
  rw [options_of_fillInit hf, hh, hu]
  show syncOptions lib conv call tickets allowCcSync arg (some handle) (some cred) = _
  unfold syncOptions
  rw [hi]
  simp [Except.toOption, hb, ha, he]

/-- **The decision of the daemon**, for every service, every request with a credential handle and
    every effect of the call on the tickets. -/
theorem synced_iff (h : Succeeds lib port conv call tickets allowCcSync arg given cred held held'
    payload res) :
    (res.options = [payload] ↔
      Wanted call allowCcSync arg ∧ held.length % 4294967296 ≠ held'.length % 4294967296) ∧
    (res.options = [payload] ∨ res.options = []) := by
  rw [h.options]
  by_cases hw : Wanted call allowCcSync arg
  · rw [gpCheckSyncCreds_ok hw, gpCheckSyncCreds_ok hw]
    by_cases hc : countLoop held 0 = countLoop held' 0
    · rw [if_neg (not_not.mpr hc)]
      exact ⟨⟨nofun, fun hch => absurd (countLoop_eq_iff.mp hc) hch.2⟩, .inr rfl⟩
    · rw [if_pos hc]
      exact ⟨⟨fun _ => ⟨hw, mt countLoop_eq_iff.mpr hc⟩, fun _ => rfl⟩, .inl rfl⟩
  · rw [gpCheckSyncCreds_zero hw, gpCheckSyncCreds_zero hw]; simp [hw]

end

/-! ## A ticket that is renewed -/

def initiatingLib : GpLib Unit Unit Unit Unit :=
  { forwardingLib with
    importName := fun _ _ => .ok ()
    displayName := fun _ => .ok ([97], [])
    exportName := fun _ => .ok none
    exportNameComposite := fun _ => .ok none
    inquireCred := fun _ => .ok ⟨some (), 600, GSS_C_INITIATE, []⟩
    exportToken := fun _ => .ok [3]
    init := fun _ _ _ _ _ _ _ _ => ⟨GSS_S_COMPLETE, 0, some (), [1]⟩ }

def syncRequest : ArgInitSecContext :=
  { (default : ArgInitSecContext) with
    credHandle := some default
    targetName := some default
    mechType := ⟨KRB5_MECH_OID⟩
    options := [option CRED_SYNC_OPTION CRED_SYNC_DEFAULT] }

def changing (held held' : List Nat) : TicketCalls Unit Nat :=
  ⟨fun _ => .ok held, fun _ => .ok held', .ok ()⟩

def syncReply (held held' : List Nat) : Option ResInitSecContext :=
  gpInitSecContext (syncLib initiatingLib noFailure webCall (changing held held') true syncRequest)
    plainPort noFailure webCall syncRequest

theorem synced_new_ticket :
    ∃ res payload, syncReply [1] [1, 2] = some res ∧ res.options = [payload] := by
  obtain ⟨res, payload, h⟩ : ∃ res payload, Nonempty (Succeeds initiatingLib plainPort noFailure webCall
      (changing [1] [1, 2]) true syncRequest (some ()) () [1] [1, 2] payload res) :=
    ⟨_, _, ⟨default, rfl, rfl, _, rfl, rfl, _, rfl, rfl, rfl, rfl, rfl⟩⟩
  obtain ⟨h⟩ := h
  exact ⟨res, payload, h.replies, (synced_iff h).1.mpr ⟨⟨rfl, rfl, by decide⟩, by decide⟩⟩

/-- **A renewed ticket stays in the daemon**: it has taken the place of another. -/
theorem renewed_ticket_not_synced :
    Wanted webCall true syncRequest ∧ (∃ ticket, ticket ∈ [1] ∧ ticket ∉ [2]) ∧
      ∃ res, syncReply [1] [2] = some res ∧ res.status.majorStatus = GSS_S_COMPLETE.toUInt64 ∧
        res.options = [] :=
  ⟨⟨rfl, rfl, by decide⟩, ⟨1, by decide, by decide⟩, _, rfl, rfl, rfl⟩

end GssProxy.Daemon.SyncCreds
