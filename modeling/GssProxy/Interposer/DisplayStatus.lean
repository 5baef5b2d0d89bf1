import GssProxy.Interposer.Name

/-!
# Minor statuses and their messages

The interposer adds a base to the minor statuses it reports, and `gssi_display_status` takes it off to
look for the message, in the status saved for the thread and then in the mechglue.

* `unmapError_mapError_iff`: all codes come back but one, which is reported as zero.
-/

namespace GssProxy.Interposer

open Codec Gss Proto

/-! ## The two maps -/

def unmapError (err : UInt32) : UInt32 := if err ≠ 0 then err - MAP_ERROR_BASE else err

def LOST_ERROR : UInt32 := 0xfbe00000

theorem add_base_eq_zero_iff (m : UInt32) : m + MAP_ERROR_BASE = 0 ↔ m = LOST_ERROR := by
  have hb : LOST_ERROR = 0 - MAP_ERROR_BASE := by decide
  rw [hb]
  constructor
  · intro h
    rw [← h, UInt32.add_sub_cancel]
  · intro h
    rw [h, UInt32.sub_add_cancel]

theorem mapError_eq_zero_iff (m : UInt32) : mapError m = 0 ↔ m = 0 ∨ m = LOST_ERROR := by
  unfold mapError
  split
  · rename_i hne
    rw [add_base_eq_zero_iff]
    exact ⟨.inr, fun h => h.resolve_left hne⟩
  · rename_i hz; exact ⟨.inl, fun _ => not_not.mp hz⟩

theorem mapError_eq_self_iff (m : UInt32) : mapError m = m ↔ m = 0 := by
  unfold mapError
  split
  · rename_i hne
    refine ⟨fun h => ?_, fun h => absurd h hne⟩
    have hb : MAP_ERROR_BASE = 0 := by
      rw [← UInt32.add_sub_cancel MAP_ERROR_BASE m, UInt32.add_comm, h, UInt32.sub_self]
    exact absurd hb (by decide)
  · rename_i hz; exact ⟨fun _ => not_not.mp hz, fun _ => rfl⟩

theorem unmapError_mapError_iff (m : UInt32) : unmapError (mapError m) = m ↔ m ≠ LOST_ERROR := by
  by_cases hz : mapError m = 0
  · rcases (mapError_eq_zero_iff m).mp hz with rfl | rfl
    · exact ⟨fun _ => by decide, fun _ => rfl⟩
    · exact ⟨fun h => absurd h (by decide), fun h => absurd rfl h⟩
  have hne : m ≠ 0 ∧ m ≠ LOST_ERROR := by rw [mapError_eq_zero_iff] at hz; exact not_or.mp hz
  have hm : mapError m = m + MAP_ERROR_BASE := if_pos hne.1
  have hu : unmapError (mapError m) = mapError m - MAP_ERROR_BASE := if_pos hz
  rw [hu, hm, UInt32.add_sub_cancel]
  exact ⟨fun _ => hne.2, fun _ => rfl⟩

/-! ## Messages -/

def GSS_S_BAD_STATUS : UInt32 := routineError 5

inductive StatusType where
  | gssCode
  | mechCode
  | other
  deriving DecidableEq

structure Shown where
  major : UInt32
  minor : Option UInt32
  text : Option Bytes

def gpmDisplayStatus (saved : Option GssxStatus) (value : UInt32) (statusType : StatusType)
    (messageContext : UInt32) : Shown :=
  match statusType, saved with
  | .gssCode, some last =>
    if last.majorStatus = value.toUInt64 ∧ last.majorStatusString.data ≠ [] then
      ⟨GSS_S_COMPLETE, some 0, some last.majorStatusString.data⟩
    else ⟨GSS_S_UNAVAILABLE, none, none⟩
  | .mechCode, some last =>
    if last.minorStatus = value.toUInt64 ∧ last.minorStatusString.data ≠ [] then
      if messageContext ≠ 0 then ⟨GSS_S_FAILURE, some EINVAL, none⟩
      else ⟨GSS_S_COMPLETE, some 0, some last.minorStatusString.data⟩
    else ⟨GSS_S_UNAVAILABLE, none, none⟩
  | .other, _ => ⟨GSS_S_BAD_STATUS, some EINVAL, none⟩
  | _, none => ⟨GSS_S_UNAVAILABLE, none, none⟩

section

variable (saved : Option GssxStatus) (glue : UInt32 → UInt32 → Shown)

/-- `gssi_display_status`; `glue` is what the mechglue shows when it is reentered. -/
def gssiDisplayStatus (value : UInt32) (statusType : StatusType) (messageContext : UInt32) : Shown :=
  if statusType ≠ .mechCode then ⟨GSS_S_BAD_STATUS, none, none⟩
  else
    let val := unmapError value
    let shown := gpmDisplayStatus saved val .mechCode messageContext
    if shown.major = GSS_S_UNAVAILABLE then glue val messageContext else shown

def messageOf (m : UInt32) : Shown :=
  match saved with
  | some last =>
    if last.minorStatus = m.toUInt64 ∧ last.minorStatusString.data ≠ [] then
      ⟨GSS_S_COMPLETE, some 0, some last.minorStatusString.data⟩
    else glue m 0
  | none => glue m 0

theorem gssiDisplayStatus_eq (value : UInt32) :
    gssiDisplayStatus saved glue value .mechCode 0 = messageOf saved glue (unmapError value) := by
  simp only [gssiDisplayStatus, gpmDisplayStatus, messageOf, ne_eq, not_true_eq_false, if_false]
  cases saved with
  | none => rfl
  | some last =>
    simp only
    split <;> rfl

end

/-- The message displayed for the value is that of the code, whatever is saved. -/
def DisplaysMessage (value m : UInt32) : Prop :=
  ∀ saved glue, gssiDisplayStatus saved glue value .mechCode 0 = messageOf saved glue m

theorem displaysMessage_iff (value m : UInt32) : DisplaysMessage value m ↔ unmapError value = m := by
  constructor
  · intro h
    have hs := h none fun code _ => ⟨code, none, none⟩
    exact congrArg Shown.major hs
  · rintro rfl saved glue; exact gssiDisplayStatus_eq saved glue value

end GssProxy.Interposer
