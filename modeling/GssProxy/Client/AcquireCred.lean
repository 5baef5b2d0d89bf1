import GssProxy.Client.InquireCred

/-!
# The lifetimes told at the acquisition of a credential

`gpm_acquire_cred` takes the smaller of two times of the daemon's reply, `gpm_add_cred` tells both;
`gpm_inquire_cred` and `gpm_inquire_cred_by_mech` read them of the handle later.

* `reportedTimes_iff`: when the handle tells the same times.
-/

namespace GssProxy.Client.Inquire

open Codec Gss Proto

/-- The results from `reply`, which `gpm_make_call` gives, with the error number of
    `gpmint_cred_to_actual_mechs` where the mechanisms are wanted.  The credential of a successful
    reply is not tested for. -/
def onCredReply {α : Type} (reply : Except UInt32 ResAcquireCred) (actualMechs : Option UInt32)
    (results : GssxCred → α) : Except Exit α :=
  match reply with
  | .error errno => .error (.mk GSS_S_FAILURE errno)
  | .ok res =>
    if res.status.majorStatus ≠ 0 then
      .error (.mk res.status.majorStatus.toUInt32 res.status.minorStatus.toUInt32)
    else
      match res.outputCredHandle with
      | none => .error .fault
      | some cred =>
        if actualMechs.getD 0 ≠ 0 then .error (.mk GSS_S_FAILURE (actualMechs.getD 0))
        else .ok (results cred)

structure Acquired where
  credHandle : GssxCred
  timeRec : UInt32

def firstTime (cred : GssxCred) : UInt32 :=
  match cred.elements with
  | [] => 0
  | e :: _ =>
    if e.initiatorTimeRec < e.acceptorTimeRec then e.initiatorTimeRec.toUInt32
    else e.acceptorTimeRec.toUInt32

def gpmAcquireCred (reply : Except UInt32 ResAcquireCred) (actualMechs : Option UInt32) :
    Except Exit Acquired :=
  onCredReply reply actualMechs fun cred => ⟨cred, firstTime cred⟩

structure Added where
  credHandle : GssxCred
  initiatorTimeRec : UInt32
  acceptorTimeRec : UInt32

def gpmAddCred (reply : Except UInt32 ResAcquireCred) (actualMechs : Option UInt32) :
    Except Exit Added :=
  onCredReply reply actualMechs fun cred =>
    match cred.elements with
    | [] => ⟨cred, 0, 0⟩
    | e :: _ => ⟨cred, e.initiatorTimeRec.toUInt32, e.initiatorTimeRec.toUInt32⟩

structure ByMech where
  status : Status
  name : Option GssxName
  initiatorLifetime : Option UInt32
  acceptorLifetime : Option UInt32
  usage : Option Int32

def elementByMech (e : GssxCredElement) : ByMech :=
  let told := ByMech.mk ⟨GSS_S_COMPLETE, some 0⟩ none
  if e.credUsage = GSSX_C_INITIATE then
    told (some e.initiatorTimeRec.toUInt32) none (some GSS_C_INITIATE)
  else if e.credUsage = GSSX_C_ACCEPT then
    told none (some e.acceptorTimeRec.toUInt32) (some GSS_C_ACCEPT)
  else if e.credUsage = GSSX_C_BOTH then
    told (some e.initiatorTimeRec.toUInt32) (some e.acceptorTimeRec.toUInt32) (some GSS_C_BOTH)
  else told none none none

def gpmInquireCredByMech (copyName : Option UInt32) (cred : Option GssxCred) (mechType : Bytes) :
    ByMech :=
  match cred with
  | none => ⟨⟨GSS_S_CALL_INACCESSIBLE_READ, some 0⟩, none, none, none, none⟩
  | some cred =>
    match cred.elements.find? fun e => e.mech.data == mechType with
    | none => ⟨⟨GSS_S_FAILURE, some 0⟩, none, none, none, none⟩
    | some e =>
      match copyName with
      | none => elementByMech e
      | some errno =>
        if errno ≠ 0 then { elementByMech e with status := ⟨GSS_S_FAILURE, some errno⟩ }
        else { elementByMech e with name := some (gpCopyGssxName e.mn) }

/-- A successful reply with one element: its lifetimes fit, and are 0 for a side it does not cover.
    -/
structure SingleReply where
  res : ResAcquireCred
  cred : GssxCred
  element : GssxCredElement
  successful : res.status.majorStatus = 0
  output : res.outputCredHandle = some cred
  single : cred.elements = [element]
  initiator_lt : element.initiatorTimeRec.toNat < 4294967295
  acceptor_lt : element.acceptorTimeRec.toNat < 4294967295
  initiator_zero : initiates element = false → element.initiatorTimeRec = 0
  acceptor_zero : accepts element = false → element.acceptorTimeRec = 0

/-- What acquisition tells is what the handle tells of itself, where that tells something. -/
structure ReportedTimes (r : SingleReply) : Prop where
  acquire : ∀ actualMechs acquired lib inquired,
    gpmAcquireCred (.ok r.res) actualMechs = .ok acquired →
    gpmInquireCred lib (some acquired.credHandle) = .ok inquired →
    acquired.timeRec = inquired.lifetime
  add : ∀ actualMechs added copyName time, gpmAddCred (.ok r.res) actualMechs = .ok added →
    ((gpmInquireCredByMech copyName (some added.credHandle) r.element.mech.data).initiatorLifetime =
        some time → added.initiatorTimeRec = time) ∧
      ((gpmInquireCredByMech copyName (some added.credHandle) r.element.mech.data).acceptorLifetime =
        some time → added.acceptorTimeRec = time)

namespace SingleReply

variable (r : SingleReply)

theorem onCredReply_eq {α : Type} (actualMechs : Option UInt32) (results : GssxCred → α) :
    onCredReply (.ok r.res) actualMechs results =
      if actualMechs.getD 0 ≠ 0 then .error (.mk GSS_S_FAILURE (actualMechs.getD 0))
      else .ok (results r.cred) := by
  simp only [onCredReply, r.output]
  rw [if_neg (not_not.mpr r.successful)]

theorem gpmAcquireCred_ok {actualMechs : Option UInt32} {acquired : Acquired}
    (h : gpmAcquireCred (.ok r.res) actualMechs = .ok acquired) :
    acquired = ⟨r.cred, firstTime r.cred⟩ := by
  rw [gpmAcquireCred, onCredReply_eq] at h
  split at h
  · cases h
  · exact (Except.ok.inj h).symm

theorem gpmAddCred_ok {actualMechs : Option UInt32} {added : Added}
    (h : gpmAddCred (.ok r.res) actualMechs = .ok added) :
    added = ⟨r.cred, r.element.initiatorTimeRec.toUInt32, r.element.initiatorTimeRec.toUInt32⟩ := by
  rw [gpmAddCred, onCredReply_eq, r.single] at h
  split at h
  · cases h
  · exact (Except.ok.inj h).symm

theorem byMech_lifetimes (copyName : Option UInt32) :
    (gpmInquireCredByMech copyName (some r.cred) r.element.mech.data).initiatorLifetime =
        (elementByMech r.element).initiatorLifetime ∧
      (gpmInquireCredByMech copyName (some r.cred) r.element.mech.data).acceptorLifetime =
        (elementByMech r.element).acceptorLifetime := by
  simp only [gpmInquireCredByMech, r.single, List.find?_cons, beq_self_eq_true]
  cases copyName with
  | none => exact ⟨rfl, rfl⟩
  | some errno =>
    show (ite _ _ _ : ByMech).initiatorLifetime = _ ∧ (ite _ _ _ : ByMech).acceptorLifetime = _
    split <;> exact ⟨rfl, rfl⟩

theorem firstTime_toNat :
    (firstTime r.cred).toNat =
      min r.element.initiatorTimeRec.toNat r.element.acceptorTimeRec.toNat := by
  have ha := r.acceptor_lt
  simp only [firstTime, r.single, UInt64.lt_iff_toNat_lt]
  split
  · rw [UInt64.toNat_toUInt32]; omega
  · rw [UInt64.toNat_toUInt32]; omega

theorem usage_cases :
    r.element.credUsage = GSSX_C_INITIATE ∧ r.element.acceptorTimeRec = 0 ∨
      r.element.credUsage = GSSX_C_ACCEPT ∧ r.element.initiatorTimeRec = 0 ∨
      r.element.credUsage = GSSX_C_BOTH ∨
      relevantTimes r.element = [] ∧ elementByMech r.element =
        ⟨⟨GSS_S_COMPLETE, some 0⟩, none, none, none, none⟩ ∧
        r.element.initiatorTimeRec = 0 ∧ r.element.acceptorTimeRec = 0 := by
  by_cases hi : r.element.credUsage = GSSX_C_INITIATE
  · refine .inl ⟨hi, r.acceptor_zero ?_⟩
    rw [accepts, hi]; rfl
  by_cases ha : r.element.credUsage = GSSX_C_ACCEPT
  · refine .inr (.inl ⟨ha, r.initiator_zero ?_⟩)
    rw [initiates, ha]; rfl
  by_cases hb : r.element.credUsage = GSSX_C_BOTH
  · exact .inr (.inr (.inl hb))
  refine .inr (.inr (.inr ⟨?_, ?_, r.initiator_zero ?_, r.acceptor_zero ?_⟩))
  · rw [relevantTimes, if_neg hi, if_neg ha, if_neg hb]
  · simp only [elementByMech]
    rw [if_neg hi, if_neg ha, if_neg hb]
  · rw [initiates, beq_false_of_ne hi, beq_false_of_ne hb]; rfl
  · rw [accepts, beq_false_of_ne ha, beq_false_of_ne hb]; rfl

end SingleReply

theorem SingleReply.firstTime_eq_iff (r : SingleReply) :
    firstTime r.cred = gpmLife r.cred.elements ↔
      r.element.credUsage = GSSX_C_BOTH ∧ r.element.initiatorTimeRec ≠ 0 ∧
        r.element.acceptorTimeRec ≠ 0 := by
  have ht : r.cred.elements.flatMap relevantTimes = relevantTimes r.element := by
    rw [r.single]; exact List.append_nil _
  rw [← UInt32.toNat_inj, gpmLife_toNat, ht, r.firstTime_toNat]
  constructor
  · intro h
    have hm : min r.element.initiatorTimeRec.toNat r.element.acceptorTimeRec.toNat ≠ 0 := by
      rw [h]; exact leastLifetime_ne_zero _
    have hi : r.element.initiatorTimeRec ≠ 0 := fun h0 => hm (by rw [h0]; exact Nat.zero_min _)
    have ha : r.element.acceptorTimeRec ≠ 0 := fun h0 => hm (by rw [h0]; exact Nat.min_zero _)
    rcases r.usage_cases with ⟨-, h0⟩ | ⟨-, h0⟩ | hb | ⟨-, -, h0, -⟩
    · exact absurd h0 ha
    · exact absurd h0 hi
    · exact ⟨hb, hi, ha⟩
    · exact absurd h0 hi
  · rintro ⟨hb, hi, ha⟩
    have hf := r.acceptor_lt
    have hr : relevantTimes r.element =
        [r.element.initiatorTimeRec, r.element.acceptorTimeRec] := by
      rw [relevantTimes, hb]; rfl
    rw [hr, leastLifetime, List.filter_cons_of_pos (by simpa using hi),
      List.filter_cons_of_pos (by simpa using ha)]
    simp only [List.filter_nil, List.foldr_cons, List.foldr_nil]
    rw [show GSS_C_INDEFINITE.toNat = 4294967295 from rfl]; omega

theorem SingleReply.addTimes_iff (r : SingleReply) :
    (∀ time, ((elementByMech r.element).initiatorLifetime = some time →
        r.element.initiatorTimeRec.toUInt32 = time) ∧
      ((elementByMech r.element).acceptorLifetime = some time →
        r.element.initiatorTimeRec.toUInt32 = time)) ↔
      (r.element.credUsage = GSSX_C_ACCEPT ∨ r.element.credUsage = GSSX_C_BOTH →
        r.element.initiatorTimeRec = r.element.acceptorTimeRec) := by
  have hs : r.element.initiatorTimeRec.toUInt32 = r.element.acceptorTimeRec.toUInt32 ↔
      r.element.initiatorTimeRec = r.element.acceptorTimeRec := by
    have hi := r.initiator_lt
    have ha := r.acceptor_lt
    rw [← UInt32.toNat_inj, ← UInt64.toNat_inj, UInt64.toNat_toUInt32, UInt64.toNat_toUInt32]; omega
  rcases r.usage_cases with ⟨h, -⟩ | ⟨h, -⟩ | h | ⟨-, hn, hi, ha⟩
  · simp [elementByMech, h, GSSX_C_INITIATE, GSSX_C_ACCEPT, GSSX_C_BOTH]
  · simp [elementByMech, h, GSSX_C_INITIATE, GSSX_C_ACCEPT, ← hs]
  · simp [elementByMech, h, GSSX_C_INITIATE, GSSX_C_ACCEPT, GSSX_C_BOTH, ← hs]
  · rw [hn, hi, ha]; simp

/-- **Times told at acquisition.**  They are those that the handle tells of itself for a credential that
    covers both sides with the same time, which is set. -/
theorem reportedTimes_iff (r : SingleReply) :
    ReportedTimes r ↔ r.element.credUsage = GSSX_C_BOTH ∧ r.element.initiatorTimeRec ≠ 0 ∧
        r.element.initiatorTimeRec = r.element.acceptorTimeRec := by
  have hac : gpmAcquireCred (.ok r.res) none = .ok ⟨r.cred, firstTime r.cred⟩ := by
    rw [gpmAcquireCred, r.onCredReply_eq]; rfl
  have had : gpmAddCred (.ok r.res) none =
      .ok ⟨r.cred, r.element.initiatorTimeRec.toUInt32, r.element.initiatorTimeRec.toUInt32⟩ := by
    rw [gpmAddCred, r.onCredReply_eq, r.single]; rfl
  constructor
  · intro h
    have hf := h.acquire none _ calm _ hac
      (gpmInquireCred_of_succeeds (by simp [r.single]) (calm_succeeds _))
    obtain ⟨hb, hin, -⟩ := r.firstTime_eq_iff.mp hf
    refine ⟨hb, hin, r.addTimes_iff.mp (fun time => ?_) (.inr hb)⟩
    obtain ⟨hi, ha⟩ := r.byMech_lifetimes none
    rw [← hi, ← ha]
    exact h.add none _ none time had
  · rintro ⟨hb, hin, hs⟩
    constructor
    · intro actualMechs acquired lib inquired haq hiq
      cases r.gpmAcquireCred_ok haq
      rw [gpmInquireCred_ok hiq]
      exact r.firstTime_eq_iff.mpr ⟨hb, hin, hs ▸ hin⟩
    · intro actualMechs added copyName time hadd
      cases r.gpmAddCred_ok hadd
      obtain ⟨hi, ha⟩ := r.byMech_lifetimes copyName
      rw [hi, ha]
      exact r.addTimes_iff.mpr (fun _ => hs) time

def replyOf (element : GssxCredElement) : ResAcquireCred :=
  { (default : ResAcquireCred) with
    outputCredHandle := some { (default : GssxCred) with elements := [element] } }

def hourReply : SingleReply :=
  let element := { (default : GssxCredElement) with
    credUsage := GSSX_C_INITIATE, initiatorTimeRec := 3600 }
  ⟨replyOf element, _, element, rfl, rfl, rfl, by decide, by decide, by decide, by decide⟩

def acceptReply : SingleReply :=
  let element := { (default : GssxCredElement) with
    credUsage := GSSX_C_ACCEPT, acceptorTimeRec := 3600 }
  ⟨replyOf element, _, element, rfl, rfl, rfl, by decide, by decide, by decide, by decide⟩

/-- A credential lasts an hour: `gpm_acquire_cred` tells no time, `gpm_add_cred` 0 for the acceptor.
    -/
theorem reportedTimes_hour :
    (∃ a, gpmAcquireCred (.ok hourReply.res) none = .ok a ∧ a.timeRec = 0) ∧
      (∃ q, gpmInquireCred calm (some hourReply.cred) = .ok q ∧ q.lifetime = 3600) ∧
      (∃ a, gpmAddCred (.ok acceptReply.res) none = .ok a ∧ a.acceptorTimeRec = 0) ∧
      (gpmInquireCredByMech none (some acceptReply.cred)
        acceptReply.element.mech.data).acceptorLifetime = some 3600 ∧
      ¬ ReportedTimes hourReply := by
  refine ⟨⟨_, rfl, rfl⟩, ⟨_, rfl, rfl⟩, ⟨_, rfl, rfl⟩, rfl, fun h => ?_⟩
  have := h.acquire none _ calm _ rfl rfl
  exact absurd this (by decide)

end GssProxy.Client.Inquire
