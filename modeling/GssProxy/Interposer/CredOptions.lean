import GssProxy.Daemon.Export
import GssProxy.Interposer.InitSecContext
import GssProxy.Server.Dispatch

/-!
# Credential options through the proxy

`gss_set_cred_option` on a remote credential notes the option in its first Kerberos element.  The daemon
sets the options when it imports the handle; it stops at the first list of encryption types.

* `options_reach_daemon_iff`: when it sets what the application has set.
-/

namespace GssProxy.Interposer

open Codec Gss Proto Server
open Daemon (GpLib Conversions CredOptions enctypesOf scanOptions scanElements
  gpSetCredOptions gpImportGssxCred KRB5_SET_ALLOWED_ENCTYPE KRB5_SET_NO_CI_FLAGS)

/-! ## Setting options -/

def KRB5_OLD_OID : Bytes := [0x2b, 0x05, 0x01, 0x05, 0x02]
def KRB5_WRONG_OID : Bytes := [0x2a, 0x86, 0x48, 0x82, 0xf7, 0x12, 0x01, 0x02, 0x02]
def IAKERB_OID : Bytes := [0x2b, 0x06, 0x01, 0x05, 0x02, 0x05]

def gppIsKrb5Oid (mech : Bytes) : Bool :=
  mech == KRB5_MECH_OID || mech == KRB5_OLD_OID || mech == KRB5_WRONG_OID || mech == IAKERB_OID

/-- An object that is set on a credential. -/
inductive CredObject where
  | allowableEnctypes (ktypes : List UInt32)
  | noCiFlags
  | other (object : Bytes)
  deriving DecidableEq

def enctypeBytes (ktype : UInt32) : Bytes :=
  [UInt8.ofNat ktype.toNat, UInt8.ofNat (ktype.toNat / 256), UInt8.ofNat (ktype.toNat / 65536),
    UInt8.ofNat (ktype.toNat / 16777216)]

def addToKrb5 (op : GssxOption) : List GssxCredElement → Option (List GssxCredElement)
  | [] => none
  | ce :: ces =>
    if gppIsKrb5Oid ce.mech.data then some ({ ce with options := ce.options ++ [op] } :: ces)
    else (addToKrb5 op ces).map (ce :: ·)

def addCredOption (op : GssxOption) (cred : GssxCred) : Except GssError GssxCred :=
  match addToKrb5 op cred.elements with
  | some elements => .ok { cred with elements }
  | none => .error ⟨GSS_S_FAILURE, EINVAL⟩

def gppSetOptAllowableEntypes (ktypes : List UInt32) : GssxCred → Except GssError GssxCred :=
  addCredOption (option KRB5_SET_ALLOWED_ENCTYPE (ktypes.flatMap enctypeBytes))

def gppSetNoCiFlags : GssxCred → Except GssError GssxCred :=
  addCredOption (option KRB5_SET_NO_CI_FLAGS [])

def gppRemoteOptions (cred : GssxCred) : CredObject → Except GssError GssxCred
  | .allowableEnctypes ktypes => gppSetOptAllowableEntypes ktypes cred
  | .noCiFlags => gppSetNoCiFlags cred
  | .other _ => .error ⟨GSS_S_UNAVAILABLE, 0⟩

/-- `gssi_set_cred_option`. -/
def gssiSetCredOption {C : Type} (setLocal : C → CredObject → Except GssError C)
    (cred : CredHandle C) (object : CredObject) : Except GssError (CredHandle C) :=
  match cred.remote, cred.localCred with
  | some remote, _ => (gppRemoteOptions remote object).map fun remote =>
      { cred with remote := some remote }
  | none, some localCred => (setLocal localCred object).map fun localCred =>
      { cred with localCred := some localCred }
  | none, none => .error ⟨GSS_S_UNAVAILABLE, 0⟩

/-! ## What the options are for -/

/-- The options in force. -/
@[ext]
structure OptionState where
  enctypes : Option (List UInt32)
  noCiFlags : Bool
  deriving DecidableEq, Inhabited

def OptionState.set (s : OptionState) : CredObject → OptionState
  | .allowableEnctypes ktypes => { s with enctypes := some ktypes }
  | .noCiFlags => { s with noCiFlags := true }
  | .other _ => s

/-- What the library has in force for a credential. -/
structure OptionView {N X A H : Type} (lib : GpLib N X A H) (supported : List UInt32 → Prop) where
  view : A → OptionState
  allows : ∀ a ktypes, supported ktypes → ∃ a', lib.setAllowableEnctypes a ktypes = .ok a' ∧
    view a' = (view a).set (.allowableEnctypes ktypes)
  setsNoCi : ∀ a, ∃ a', lib.setNoCiFlags a = .ok a' ∧ view a' = (view a).set .noCiFlags

def lastEnctypes (calls : List CredObject) : Option (List UInt32) :=
  (calls.foldl OptionState.set default).enctypes

/-- Up to the first list of encryption types anything goes.  That list is not empty, the last one is
    the same, and the flag is not first set after it. -/
def Settled : Bool → List CredObject → Prop
  | _, [] => True
  | seen, .allowableEnctypes ktypes :: calls =>
    ktypes ≠ [] ∧ (lastEnctypes calls).getD ktypes = ktypes ∧ (.noCiFlags ∈ calls → seen = true)
  | _, .noCiFlags :: calls => Settled true calls
  | seen, .other _ :: calls => Settled seen calls

def OptionState.takes (s : OptionState) : List CredObject → OptionState
  | [] => s
  | .allowableEnctypes ktypes :: _ => if ktypes = [] then s else { s with enctypes := some ktypes }
  | .noCiFlags :: calls => OptionState.takes { s with noCiFlags := true } calls
  | .other _ :: calls => s.takes calls

theorem foldl_set_enctypes (calls : List CredObject) (s : OptionState) :
    (calls.foldl OptionState.set s).enctypes = (lastEnctypes calls).or s.enctypes := by
  unfold lastEnctypes
  induction calls generalizing s with
  | nil => rfl
  | cons call calls ih =>
    rw [List.foldl_cons, List.foldl_cons, ih (s.set call), ih ((default : OptionState).set call),
      Option.or_assoc]
    cases call <;> rfl

theorem foldl_set_noCiFlags (calls : List CredObject) (s : OptionState) :
    (calls.foldl OptionState.set s).noCiFlags = (s.noCiFlags || decide (.noCiFlags ∈ calls)) := by
  induction calls generalizing s with
  | nil => simp
  | cons call calls ih =>
    rw [List.foldl_cons, ih]
    cases call <;> simp [OptionState.set]

theorem takes_eq_iff (calls : List CredObject) (s : OptionState) (hs : s.enctypes = none) :
    s.takes calls = calls.foldl OptionState.set s ↔ Settled s.noCiFlags calls := by
  induction calls generalizing s with
  | nil => exact ⟨fun _ => trivial, fun _ => rfl⟩
  | cons call calls ih =>
    cases call with
    | noCiFlags => exact ih { s with noCiFlags := true } hs
    | other object => exact ih s hs
    | allowableEnctypes ktypes =>
      rw [List.foldl_cons]
      have hen : (calls.foldl OptionState.set (s.set (.allowableEnctypes ktypes))).enctypes =
          some ((lastEnctypes calls).getD ktypes) := by
        rw [foldl_set_enctypes]
        exact Option.or_some
      have hn : (calls.foldl OptionState.set (s.set (.allowableEnctypes ktypes))).noCiFlags =
          (s.noCiFlags || decide (.noCiFlags ∈ calls)) := foldl_set_noCiFlags calls _
      rw [OptionState.ext_iff, hen, hn]
      unfold OptionState.takes Settled
      by_cases he : ktypes = []
      · rw [if_pos he, hs]; simp [he]
      rw [if_neg he]
      refine ⟨fun ⟨hl, hf⟩ => ⟨he, (Option.some.inj hl).symm, fun hm => ?_⟩,
        fun ⟨_, hl, hf⟩ => ⟨congrArg some hl.symm, ?_⟩⟩
      · simpa [hm] using hf
      · simpa using hf

/-! ## What the client notes -/

def noted : CredObject → Option GssxOption
  | .allowableEnctypes ktypes =>
    some (option KRB5_SET_ALLOWED_ENCTYPE (ktypes.flatMap enctypeBytes))
  | .noCiFlags => some (option KRB5_SET_NO_CI_FLAGS [])
  | .other _ => none

def placeOptions (ops : List GssxOption) : List GssxCredElement → List GssxCredElement
  | [] => []
  | ce :: ces =>
    if gppIsKrb5Oid ce.mech.data then { ce with options := ops } :: ces
    else ce :: placeOptions ops ces

def hasKrb5 (elements : List GssxCredElement) : Bool :=
  elements.any fun ce => gppIsKrb5Oid ce.mech.data

variable {ops : List GssxOption} {base : List GssxCredElement}

theorem addToKrb5_place {op : GssxOption} {elements : List GssxCredElement}
    (h : addToKrb5 op (placeOptions ops base) = some elements) :
    hasKrb5 base = true ∧ elements = placeOptions (ops ++ [op]) base := by
  unfold hasKrb5
  induction base generalizing elements with
  | nil => cases h
  | cons ce ces ih =>
    unfold placeOptions at h ⊢
    by_cases hk : gppIsKrb5Oid ce.mech.data = true
    · rw [if_pos hk] at h ⊢
      unfold addToKrb5 at h
      rw [if_pos hk] at h
      exact ⟨by simp [hk], (Option.some.inj h).symm⟩
    · rw [if_neg hk] at h ⊢
      unfold addToKrb5 at h
      rw [if_neg hk] at h
      obtain ⟨rest, hr, rfl⟩ := Option.map_eq_some_iff.mp h
      obtain ⟨ha, he⟩ := ih hr
      rw [he]
      exact ⟨by simp [ha], rfl⟩

theorem placeOptions_nil (hf : ∀ ce ∈ base, ce.options = []) : placeOptions [] base = base := by
  induction base with
  | nil => rfl
  | cons ce ces ih =>
    have hce : { ce with options := [] } = ce := by rw [← hf ce List.mem_cons_self]
    unfold placeOptions
    split
    · rw [hce]
    · rw [ih fun ce hm => hf ce (List.mem_cons_of_mem _ hm)]

variable {cred : GssxCred}

theorem addCredOption_place {op : GssxOption} {cred' : GssxCred}
    (h : addCredOption op { cred with elements := placeOptions ops base } = .ok cred') :
    hasKrb5 base = true ∧ cred' = { cred with elements := placeOptions (ops ++ [op]) base } := by
  unfold addCredOption at h
  cases ha : addToKrb5 op (placeOptions ops base) with
  | none => simp only [ha] at h; cases h
  | some elements =>
    simp only [ha] at h
    cases h
    obtain ⟨han, he⟩ := addToKrb5_place ha
    rw [he]
    exact ⟨han, rfl⟩

theorem setCredOption_notes {C : Type} {setLocal : C → CredObject → Except GssError C}
    {call : CredObject} {handle handle' : CredHandle C}
    (hre : handle.remote = some { cred with elements := placeOptions ops base })
    (hs : gssiSetCredOption setLocal handle call = .ok handle') :
    hasKrb5 base = true ∧ ∃ op, noted call = some op ∧
      handle'.remote = some { cred with elements := placeOptions (ops ++ [op]) base } := by
  unfold gssiSetCredOption at hs
  simp only [hre] at hs
  cases hr : gppRemoteOptions { cred with elements := placeOptions ops base } call with
  | error e => rw [hr] at hs; cases hs
  | ok cred' =>
    rw [hr] at hs
    cases hs
    cases call with
    | allowableEnctypes _ | noCiFlags =>
      obtain ⟨ha, hc⟩ := addCredOption_place hr; exact ⟨ha, _, rfl, congrArg some hc⟩
    | other object => cases hr

theorem setCredOptions_notes {C : Type} {setLocal : C → CredObject → Except GssError C}
    {calls : List CredObject} {handle handle' : CredHandle C}
    (hr : handle.remote = some { cred with elements := placeOptions ops base })
    (hs : calls.foldlM (gssiSetCredOption setLocal) handle = .ok handle') :
    (calls = [] ∨ hasKrb5 base = true) ∧ handle'.remote =
      some { cred with elements := placeOptions (ops ++ calls.filterMap noted) base } := by
  induction calls generalizing handle ops with
  | nil =>
    cases hs
    rw [hr]; simp
  | cons call calls ih =>
    obtain ⟨han, hf, hrs⟩ := bind_eq_ok.mp hs
    obtain ⟨ha, op, hop, hre⟩ := setCredOption_notes hr hf
    obtain ⟨-, hr'⟩ := ih hre hrs
    rw [hr', List.filterMap_cons_some hop, List.append_assoc]
    exact ⟨.inr ha, rfl⟩

/-! ## What the daemon reads -/

theorem enctypesOf_flatMap (ktypes : List UInt32) :
    enctypesOf (ktypes.flatMap enctypeBytes) = ktypes := by
  induction ktypes with
  | nil => rfl
  | cons ktype ktypes ih =>
    have hlt : ktype.toNat < 4294967296 := ktype.toNat_lt
    have hw : ktype.toNat % 256 + 256 * (ktype.toNat / 256 % 256) +
        65536 * (ktype.toNat / 65536 % 256) + 16777216 * (ktype.toNat / 16777216 % 256) =
        ktype.toNat := by
      omega
    show enctypesOf (enctypeBytes ktype ++ ktypes.flatMap enctypeBytes) = _
    simp only [enctypeBytes, List.cons_append, List.nil_append, enctypesOf, ih, UInt8.toNat_ofNat']
    rw [hw, UInt32.ofNat_toNat]

def effect (found : CredOptions) (s : OptionState) : OptionState where
  enctypes := if found.ktypes = [] then s.enctypes else some found.ktypes
  noCiFlags := s.noCiFlags || found.noCiFlags

theorem scanOptions_takes (calls : List CredObject) (found : CredOptions) (s : OptionState)
    (hf : found.ktypes = []) :
    effect (scanOptions (calls.filterMap noted) found) s = (effect found s).takes calls := by
  induction calls generalizing found with
  | nil => rfl
  | cons call calls ih =>
    cases call with
    | allowableEnctypes ktypes =>
      have hs : scanOptions ((CredObject.allowableEnctypes ktypes :: calls).filterMap noted)
          found = { found with ktypes := ktypes } := by
        show { found with ktypes := enctypesOf (ktypes.flatMap enctypeBytes) } = _
        rw [enctypesOf_flatMap]
      rw [hs]
      unfold effect OptionState.takes
      by_cases he : ktypes = []
      · simp [he, hf]
      · simp [he]
    | noCiFlags =>
      have hs : scanOptions ((CredObject.noCiFlags :: calls).filterMap noted) found =
          scanOptions (calls.filterMap noted) { found with noCiFlags := true } := rfl
      rw [hs, ih { found with noCiFlags := true } hf]
      show OptionState.takes _ calls = OptionState.takes _ calls
      simp [effect]
    | other object => exact ih found hf

theorem foldl_scan_fresh {ces : List GssxCredElement} (hf : ∀ ce ∈ ces, ce.options = [])
    (found : CredOptions) :
    ces.foldl (fun found ce => scanOptions ce.options found) found = found := by
  induction ces with
  | nil => rfl
  | cons ce ces ih =>
    rw [List.foldl_cons, hf ce List.mem_cons_self]
    exact ih fun ce hm => hf ce (List.mem_cons_of_mem _ hm)

theorem scanElements_place (ops : List GssxOption)
    (hf : ∀ ce ∈ base, ce.options = []) (ha : hasKrb5 base = true) :
    scanElements (placeOptions ops base) = scanOptions ops default := by
  unfold scanElements
  unfold hasKrb5 at ha
  induction base with
  | nil => cases ha
  | cons ce ces ih =>
    have hc : ∀ ce ∈ ces, ce.options = [] := fun ce hm =>
      hf ce (List.mem_cons_of_mem _ hm)
    unfold placeOptions
    by_cases hk : gppIsKrb5Oid ce.mech.data = true
    · rw [if_pos hk, List.foldl_cons, foldl_scan_fresh hc]
    · rw [if_neg hk, List.foldl_cons, hf ce List.mem_cons_self]
      exact ih hc (by simpa [hk] using ha)

theorem scanOptions_ktypes (calls : List CredObject) (found : CredOptions) :
    (scanOptions (calls.filterMap noted) found).ktypes = found.ktypes ∨
      .allowableEnctypes (scanOptions (calls.filterMap noted) found).ktypes ∈ calls := by
  induction calls generalizing found with
  | nil => exact .inl rfl
  | cons call calls ih =>
    cases call with
    | allowableEnctypes ktypes =>
      right
      show CredObject.allowableEnctypes (enctypesOf (ktypes.flatMap enctypeBytes)) ∈ _
      rw [enctypesOf_flatMap]
      exact List.mem_cons_self
    | noCiFlags => exact (ih { found with noCiFlags := true }).imp_right (List.mem_cons_of_mem _)
    | other object => exact (ih found).imp_right (List.mem_cons_of_mem _)

section

variable {N X A H : Type} {lib : GpLib N X A H} {supported : List UInt32 → Prop}

theorem view_allow (v : OptionView lib supported) (ktypes : List UInt32) (a : A)
    (hs : ktypes ≠ [] → supported ktypes) :
    v.view (if ktypes = [] then a else (lib.setAllowableEnctypes a ktypes).toOption.getD a) =
      ⟨if ktypes = [] then (v.view a).enctypes else some ktypes, (v.view a).noCiFlags⟩ := by
  by_cases he : ktypes = []
  · rw [if_pos he, if_pos he]
  · obtain ⟨a', hse, hv⟩ := v.allows a ktypes (hs he)
    rw [if_neg he, if_neg he, hse]
    exact hv

theorem view_noCi (v : OptionView lib supported) (noCi : Bool) (a : A) :
    v.view (if noCi then (lib.setNoCiFlags a).toOption.getD a else a) =
      ⟨(v.view a).enctypes, (v.view a).noCiFlags || noCi⟩ := by
  cases noCi with
  | false => rw [Bool.or_false]; rfl
  | true =>
    obtain ⟨a', hs, hv⟩ := v.setsNoCi a
    rw [hs, Bool.or_true]
    exact hv

theorem view_gpSetCredOptions (v : OptionView lib supported) (cred : GssxCred) (a : A)
    (hs : (scanElements cred.elements).ktypes ≠ [] →
      supported (scanElements cred.elements).ktypes) :
    v.view (gpSetCredOptions lib cred a) = effect (scanElements cred.elements) (v.view a) := by
  unfold gpSetCredOptions effect
  simp [view_noCi, view_allow v _ a hs]

theorem gpSetCredOptions_fresh (hf : ∀ ce ∈ cred.elements, ce.options = [])
    (a : A) : gpSetCredOptions lib cred a = a := by
  have hs : scanElements cred.elements = default := foldl_scan_fresh hf default
  unfold gpSetCredOptions
  rw [hs]
  rfl

theorem gpImportGssxCred_elements {conv : Conversions} {key : Option H} {a : A}
    (hf : ∀ ce ∈ cred.elements, ce.options = [])
    (hi : gpImportGssxCred lib conv key cred = .ok (some a)) (elements : List GssxCredElement) :
    gpImportGssxCred lib conv key { cred with elements } =
      .ok (some (gpSetCredOptions lib { cred with elements } a)) := by
  unfold gpImportGssxCred at hi ⊢
  cases key with
  | none => cases hi
  | some key =>
    cases hc : conv .handleToken with
    | error e => simp only [hc] at hi; cases hi
    | ok u =>
      simp only [hc, bind, Except.bind] at hi ⊢
      cases hd : lib.decryptBuffer key cred.credHandleReference.data with
      | error e => simp only [hd] at hi; cases hi
      | ok token =>
        simp only [hd] at hi ⊢
        cases ht : lib.importToken token with
        | error e => rw [ht] at hi; cases hi
        | ok b =>
          rw [ht] at hi
          have hs : gpSetCredOptions lib cred b = b := gpSetCredOptions_fresh hf b
          have hb : b = a := hs.symm.trans (Option.some.inj (Except.ok.inj hi))
          rw [hb]; rfl

/-- **Options through the proxy.**  A remote credential is set options by calls that all succeed,
    and then imported by the daemon.  That has in force what the same calls would have put in force
    on a local credential exactly if the calls are settled. -/
theorem options_reach_daemon_iff {C : Type} {setLocal : C → CredObject → Except GssError C}
    {handle handle' : CredHandle C} {cred : GssxCred} {calls : List CredObject}
    {conv : Conversions} {key : Option H} {a : A} (v : OptionView lib supported)
    (hremote : handle.remote = some cred) (hfresh : ∀ ce ∈ cred.elements, ce.options = [])
    (hsupported : ∀ ktypes, .allowableEnctypes ktypes ∈ calls → supported ktypes)
    (hset : calls.foldlM (gssiSetCredOption setLocal) handle = .ok handle')
    (himport : gpImportGssxCred lib conv key cred = .ok (some a)) (hview : v.view a = default) :
    ∃ cred' a', handle'.remote = some cred' ∧ gpImportGssxCred lib conv key cred' = .ok (some a') ∧
      (v.view a' = calls.foldl OptionState.set default ↔ Settled false calls) := by
  have hp : handle.remote = some { cred with elements := placeOptions [] cred.elements } := by
    rw [hremote, placeOptions_nil hfresh]
  obtain ⟨ha, hremote'⟩ := setCredOptions_notes hp hset
  refine ⟨_, _, hremote', gpImportGssxCred_elements hfresh himport _, ?_⟩
  have hs : scanElements (placeOptions (calls.filterMap noted) cred.elements) =
      scanOptions (calls.filterMap noted) default := by
    rcases ha with rfl | ha
    · rw [show ([] : List CredObject).filterMap noted = [] from rfl, placeOptions_nil hfresh]
      exact foldl_scan_fresh hfresh default
    · exact scanElements_place _ hfresh ha
  rw [view_gpSetCredOptions, List.nil_append, hs, hview, scanOptions_takes _ _ _ rfl]
  · exact takes_eq_iff calls default rfl
  · show (scanElements (placeOptions (calls.filterMap noted) cred.elements)).ktypes ≠ [] →
      supported (scanElements (placeOptions (calls.filterMap noted) cred.elements)).ktypes
    rw [hs]
    intro hf
    exact hsupported _ ((scanOptions_ktypes calls default).resolve_left hf)

end

/-! ## A list and a flag -/

def optionLib : GpLib Unit Unit OptionState Unit :=
  { refusingLib Unit Unit OptionState Unit with
    exportToken := fun _ => .ok []
    importToken := fun _ => .ok default
    init := fun _ _ _ _ _ _ _ _ => ⟨GSS_S_FAILURE, 0, none, []⟩
    encryptBuffer := fun _ token => .ok token
    decryptBuffer := fun _ reference => .ok reference
    setAllowableEnctypes := fun a ktypes => .ok (a.set (.allowableEnctypes ktypes))
    setNoCiFlags := fun a => .ok (a.set .noCiFlags)
    impersonatorName := fun _ => .ok none }

def optionView : OptionView optionLib fun _ => True where
  view := id
  allows _ _ _ := ⟨_, rfl, rfl⟩
  setsNoCi _ := ⟨_, rfl, rfl⟩

def webCred : GssxCred :=
  { (default : GssxCred) with
    elements := [{ (default : GssxCredElement) with mech := ⟨KRB5_MECH_OID⟩ }] }

def webHandle : CredHandle Unit := ⟨some webCred, none⟩

def setOptions (calls : List CredObject) : Except GssError (CredHandle Unit) :=
  calls.foldlM (gssiSetCredOption fun _ _ => .error invalid) webHandle

def importedOptions (calls : List CredObject) : Option OptionState :=
  match setOptions calls with
  | .ok handle => handle.remote.bind fun cred =>
      (gpImportGssxCred optionLib Daemon.noFailure (some ()) cred).toOption.join
  | .error _ => none

/-- The flag and then the list arrive. -/
theorem flag_then_list_arrive :
    ∃ cred' a', (∃ handle', setOptions [.noCiFlags, .allowableEnctypes [18, 17]] = .ok handle' ∧
        handle'.remote = some cred') ∧
      gpImportGssxCred optionLib Daemon.noFailure (some ()) cred' = .ok (some a') ∧
      a' = ⟨some [18, 17], true⟩ := by
  obtain ⟨handle', hs⟩ :
      ∃ handle', setOptions [.noCiFlags, .allowableEnctypes [18, 17]] = .ok handle' := ⟨_, rfl⟩
  obtain ⟨cred', a', hr, hi, hif⟩ := options_reach_daemon_iff optionView
      (rfl : webHandle.remote = some webCred) (by decide) (fun _ _ => trivial) hs
      (rfl : gpImportGssxCred optionLib Daemon.noFailure (some ()) webCred = .ok (some default)) rfl
  refine ⟨cred', a', ⟨handle', hs, hr⟩, hi, ?_⟩
  exact hif.mpr ⟨by decide, by decide, fun _ => rfl⟩

/-- **What follows a list does not arrive**: the second list and the flag are lost. -/
theorem later_options_lost :
    importedOptions [.allowableEnctypes [18], .allowableEnctypes [23], .noCiFlags] =
        some ⟨some [18], false⟩ ∧
      [CredObject.allowableEnctypes [18], .allowableEnctypes [23], .noCiFlags].foldl
        OptionState.set default = ⟨some [23], true⟩ := by
  decide +kernel

end GssProxy.Interposer
