import Mathlib.Data.List.Induction
import GssProxy.Server.Dispatch

/-!
# Indicating mechanisms

`gp_indicate_mechs` skips a mechanism whose name types cannot be inquired, but the status of the failed
inquiry stays in `ret_maj` until another call is made.  A failure of the other inquiries ends the handler,
here and in the Rust daemon.  Allocations succeed.

* `indicated_iff`: when both list exactly the mechanisms that can be inquired.
-/

namespace GssProxy.Daemon.IndicateMechs

open Codec Gss Proto Server

/-- How the inquiries for a mechanism end, with its entry so far and the attributes seen. -/
inductive Round where
  | skipped (e : GssError)
  | ended (mi : GssxMechInfo) (attrs : List Bytes) (e : GssError)
  | filled (mi : GssxMechInfo) (attrs : List Bytes)

/-- The table of `gp_indicate_mechs`, with the variables `h` and `ret_maj`, `ret_min` of its loop. -/
structure Table where
  mechsVal : List GssxMechInfo
  mechsLen : Nat
  h : Nat
  attrSet : List Bytes
  ret : Option GssError

section

variable {N X A H : Type} (lib : Library N X A H)

def inquire (mech : Bytes) : Round :=
  match lib.inquireNamesForMech mech with
  | .error e => .skipped e
  | .ok nameTypes =>
    let mi := { (default : GssxMechInfo) with mech := ⟨mech⟩, nameTypes := nameTypes.map Opaque.mk }
    match lib.inquireAttrsForMech mech with
    | .error e => .ended mi [] e
    | .ok (mechAttrs, knownMechAttrs) =>
      let mi := { mi with
        mechAttrs := mechAttrs.map Opaque.mk, knownMechAttrs := knownMechAttrs.map Opaque.mk }
      match lib.inquireSaslnameForMech mech with
      | .error e => .ended mi (mechAttrs ++ knownMechAttrs) e
      | .ok (sasl, mechName, mechDesc) =>
        .filled { mi with
          saslnameSaslMechName := ⟨sasl⟩
          saslnameMechName := ⟨mechName⟩
          saslnameMechDesc := ⟨mechDesc⟩ } (mechAttrs ++ knownMechAttrs)

def Table.put (t : Table) (mi : GssxMechInfo) (attrs : List Bytes) (ret : Option GssError) : Table :=
  { t with mechsVal := t.mechsVal.set t.h mi, attrSet := addAttrs t.attrSet attrs, ret }

/-- The first loop, and whether it jumps to the end of the handler. -/
def gpMechs : List Bytes → Table → Table × Bool
  | [], t => (t, false)
  | mech :: mechs, t =>
    match inquire lib mech with
    -- the entry is cleared, and `h--` takes back the `h++` of the loop
    | .skipped e => gpMechs mechs { t with mechsLen := t.mechsLen - 1, ret := some e }
    | .ended mi attrs e => (t.put mi attrs (some e), true)
    | .filled mi attrs => gpMechs mechs { t.put mi attrs none with h := t.h + 1 }

/-- The second loop; the entries to come are blank. -/
def gpAttrs : List Bytes → List GssxMechAttr → Option GssError → List GssxMechAttr × Option GssError
  | [], descs, ret => (descs, ret)
  | attr :: attrs, descs, _ =>
    let ma := { (default : GssxMechAttr) with attr := ⟨attr⟩ }
    match lib.displayMechAttr attr with
    | .error e => (descs ++ ma :: List.replicate attrs.length default, some e)
    | .ok (name, shortDesc, longDesc) =>
      let ma := { ma with name := ⟨name⟩, shortDesc := ⟨shortDesc⟩, longDesc := ⟨longDesc⟩ }
      gpAttrs attrs (descs ++ [ma]) none

def endStatus : Option GssError → GssxStatus
  | none => success lib none
  | some e => statusErr lib e none

/-- `gp_indicate_mechs`. -/
def gpIndicateMechs : ResIndicateMechs :=
  match lib.indicateMechs with
  | .error e => { (default : ResIndicateMechs) with status := statusErr lib e none }
  | .ok mechs =>
    let (t, ended) :=
      gpMechs lib mechs ⟨List.replicate mechs.length default, mechs.length, 0, [], none⟩
    let (descs, ret) := if ended then ([], t.ret) else gpAttrs lib t.attrSet [] t.ret
    { (default : ResIndicateMechs) with
      mechs := t.mechsVal.take t.mechsLen
      mechAttrDescs := descs
      status := endStatus lib ret }

/-! ## What the reply has to be -/

/-- The entry of a mechanism that all inquiries succeed for, and its attributes. -/
def inquired (mech : Bytes) : Option (GssxMechInfo × List Bytes) :=
  match inquire lib mech with
  | .filled mi attrs => some (mi, attrs)
  | _ => none

def described (attr : Bytes) : Option GssxMechAttr :=
  match lib.displayMechAttr attr with
  | .ok (name, shortDesc, longDesc) => some { (default : GssxMechAttr) with
      attr := ⟨attr⟩, name := ⟨name⟩, shortDesc := ⟨shortDesc⟩, longDesc := ⟨longDesc⟩ }
  | .error _ => none

def attrsOf (mechs : List Bytes) : List Bytes :=
  ((mechs.filterMap (inquired lib)).flatMap Prod.snd).eraseDups

/-- The status is complete, with an entry for each mechanism that can be inquired and a description
    of each of their attributes. -/
def Exact (mechs : List Bytes) (res : ResIndicateMechs) : Prop :=
  ∃ descs, (attrsOf lib mechs).map (described lib) = descs.map some ∧
    res = { (default : ResIndicateMechs) with
      mechs := (mechs.filterMap (inquired lib)).map Prod.fst
      mechAttrDescs := descs
      status := success lib none }

/-- Only inquiries of name types fail, every attribute can be displayed, and the last mechanism is
    not skipped unless an attribute remains. -/
structure Served (mechs : List Bytes) : Prop where
  inquires : ∀ mech ∈ mechs, ∀ mi attrs e, inquire lib mech ≠ .ended mi attrs e
  displays : ∀ attr ∈ attrsOf lib mechs, (described lib attr).isSome
  ends : attrsOf lib mechs = [] → ∀ mech ∈ mechs.getLast?, ∀ e, inquire lib mech ≠ .skipped e

/-- No inquiry fails with the status of a success. -/
structure Errs : Prop where
  skipped : ∀ mech e, inquire lib mech = .skipped e → e.major ≠ 0
  ended : ∀ mech mi attrs e, inquire lib mech = .ended mi attrs e → e.major ≠ 0
  display : ∀ attr e, lib.displayMechAttr attr = .error e → e.major ≠ 0

/-! ## The loops -/

variable {lib} {mechs attrs : List Bytes} {t : Table}

theorem addAttrs_append (set more rest : List Bytes) :
    addAttrs set (more ++ rest) = addAttrs (addAttrs set more) rest := List.foldl_append

theorem addAttrs_nil (attrs : List Bytes) : addAttrs [] attrs = attrs.eraseDups := by
  induction attrs using List.reverseRecOn with
  | nil => rfl
  | append_singleton attrs attr ih =>
    rw [addAttrs_append, ih, List.eraseDups_append]
    show (if attr ∈ attrs.eraseDups then _ else _) = _
    by_cases hm : attr ∈ attrs <;> simp [List.removeAll, hm, List.eraseDups_cons]

/-- The status that the loop leaves. -/
def leftover (lib : Library N X A H) : List Bytes → Option GssError → Option GssError
  | [], ret => ret
  | mech :: mechs, _ =>
    match inquire lib mech with
    | .skipped e => leftover lib mechs (some e)
    | _ => leftover lib mechs none

theorem collectMechs_cons (mech : Bytes) (infos : List GssxMechInfo) (set : List Bytes) :
    collectMechs lib (mech :: mechs) infos set =
      match inquire lib mech with
      | .skipped _ => collectMechs lib mechs infos set
      | .ended _ attrs e => ((infos, addAttrs set attrs), some e)
      | .filled mi attrs => collectMechs lib mechs (infos ++ [mi]) (addAttrs set attrs) := by
  rw [collectMechs]
  unfold inquire
  cases lib.inquireNamesForMech mech with
  | error e => rfl
  | ok types =>
    cases lib.inquireAttrsForMech mech with
    | error e => rfl
    | ok sets => cases lib.inquireSaslnameForMech mech <;> rfl

/-- **Both loops where none ends the handler**, by induction on the mechanisms: there are blank
    entries for at least those to come. -/
theorem gpMechs_filled (h : ∀ mech ∈ mechs, ∀ mi attrs e, inquire lib mech ≠ .ended mi attrs e)
    (done : List GssxMechInfo) (k : Nat) (hv : t.mechsVal = done ++ List.replicate k default)
    (hh : t.h = done.length) (hl : t.mechsLen = done.length + mechs.length) (hk : mechs.length ≤ k) :
    ∃ t', gpMechs lib mechs t = (t', false) ∧ t'.ret = leftover lib mechs t.ret ∧
      t'.attrSet = addAttrs t.attrSet ((mechs.filterMap (inquired lib)).flatMap Prod.snd) ∧
      t'.mechsVal.take t'.mechsLen = done ++ (mechs.filterMap (inquired lib)).map Prod.fst ∧
      collectMechs lib mechs done t.attrSet = ((t'.mechsVal.take t'.mechsLen, t'.attrSet), none) := by
  induction mechs generalizing t done k with
  | nil =>
    have ht : t.mechsVal.take t.mechsLen = done := by simp [hv, hl]
    exact ⟨t, rfl, rfl, rfl, by simpa using ht, by rw [ht]; rfl⟩
  | cons mech mechs ih =>
    obtain ⟨hm, hre⟩ := List.forall_mem_cons.mp h
    rw [List.length_cons] at hl hk
    rw [collectMechs_cons]
    unfold gpMechs leftover
    cases hr : inquire lib mech with
    | skipped e =>
      obtain ⟨t', hru⟩ := ih (t := { t with mechsLen := t.mechsLen - 1, ret := some e }) hre done k
        hv hh (by show t.mechsLen - 1 = _; omega) (by omega)
      refine ⟨t', ?_⟩
      simpa [inquired, hr] using hru
    | ended mi attrs e => exact absurd hr (hm mi attrs e)
    | filled mi attrs =>
      obtain ⟨k, rfl⟩ : ∃ k', k = k' + 1 := ⟨k - 1, by omega⟩
      obtain ⟨t', hru⟩ := ih (t := { t.put mi attrs none with h := t.h + 1 }) hre (done ++ [mi]) k
        (by simp [Table.put, hv, hh, List.set_append_right, List.replicate_succ]) (by simp [hh])
        (by simp only [Table.put, List.length_append, List.length_singleton]; omega) (by omega)
      refine ⟨t', ?_⟩
      simpa [inquired, hr, Table.put, addAttrs_append] using hru

theorem gpMechs_ended (he : Errs lib)
    (h : ¬ ∀ mech ∈ mechs, ∀ mi attrs e, inquire lib mech ≠ .ended mi attrs e) :
    ∃ t' e, gpMechs lib mechs t = (t', true) ∧ t'.ret = some e ∧ e.major ≠ 0 := by
  induction mechs generalizing t with
  | nil => exact absurd (by simp) h
  | cons mech mechs ih =>
    unfold gpMechs
    cases hr : inquire lib mech with
    | skipped e => exact ih (by simpa [hr] using h)
    | ended mi attrs e => exact ⟨_, e, rfl, rfl, he.ended mech mi attrs e hr⟩
    | filled mi attrs => exact ih (by simpa [hr] using h)

theorem leftover_cases (he : Errs lib) (ret : Option GssError) (hre : mechs = [] → ret = none) :
    (leftover lib mechs ret = none ∧ ∀ mech ∈ mechs.getLast?, ∀ e, inquire lib mech ≠ .skipped e) ∨
    ∃ e, leftover lib mechs ret = some e ∧ e.major ≠ 0 ∧
      ¬ ∀ mech ∈ mechs.getLast?, ∀ e, inquire lib mech ≠ .skipped e := by
  induction mechs generalizing ret with
  | nil => exact .inl ⟨hre rfl, by simp⟩
  | cons mech mechs ih =>
    cases mechs with
    | nil =>
      unfold leftover
      cases hr : inquire lib mech with
      | skipped e => exact .inr ⟨e, rfl, he.skipped mech e hr, fun h => h mech rfl e hr⟩
      | _ => exact .inl ⟨rfl, by simp [hr]⟩
    | cons next rest =>
      unfold leftover
      split <;> exact ih _ (by simp)

theorem ret_cases (her : Errs lib) (mechs : List Bytes) :
    ((if attrsOf lib mechs = [] then leftover lib mechs none else none) = none ∧
      (attrsOf lib mechs = [] → ∀ mech ∈ mechs.getLast?, ∀ e, inquire lib mech ≠ .skipped e)) ∨
    ∃ e, (if attrsOf lib mechs = [] then leftover lib mechs none else none) = some e ∧ e.major ≠ 0 ∧
      ¬ (attrsOf lib mechs = [] → ∀ mech ∈ mechs.getLast?, ∀ e, inquire lib mech ≠ .skipped e) := by
  by_cases he : attrsOf lib mechs = []
  · simpa only [he, if_true, forall_const] using leftover_cases her none fun _ => rfl
  · exact .inl ⟨if_neg he, fun h => absurd h he⟩

theorem gpAttrs_described (h : ∀ attr ∈ attrs, (described lib attr).isSome) (ret : Option GssError)
    (done : List GssxMechAttr) : ∃ descs, attrs.map (described lib) = descs.map some ∧
      gpAttrs lib attrs done ret = (done ++ descs, if attrs = [] then ret else none) ∧
      describeAttrs lib attrs done = (done ++ descs, none) := by
  induction attrs generalizing ret done with
  | nil => exact ⟨[], rfl, by simp [gpAttrs], by simp [describeAttrs]⟩
  | cons attr attrs ih =>
    obtain ⟨ha, hr⟩ := List.forall_mem_cons.mp h
    obtain ⟨desc, hd⟩ := Option.isSome_iff_exists.mp ha
    obtain ⟨descs, hde, hrn, hru⟩ := ih hr none (done ++ [desc])
    refine ⟨desc :: descs, by rw [List.map_cons, hd, hde, List.map_cons], ?_⟩
    unfold described at hd
    unfold gpAttrs describeAttrs
    cases hdi : lib.displayMechAttr attr with
    | error e => simp [hdi] at hd
    | ok texts =>
      rw [hdi] at hd
      cases hd
      simp only [hrn, hru]; simp

theorem gpAttrs_fails (he : Errs lib) (done : List GssxMechAttr) (ret : Option GssError)
    (h : ¬ ∀ attr ∈ attrs, (described lib attr).isSome) :
    ∃ e, (gpAttrs lib attrs done ret).2 = some e ∧ e.major ≠ 0 := by
  induction attrs generalizing done ret with
  | nil => exact absurd (by simp) h
  | cons attr attrs ih =>
    unfold gpAttrs
    cases hd : lib.displayMechAttr attr with
    | error e => exact ⟨e, rfl, he.display attr e hd⟩
    | ok texts => exact ih _ none (by simpa [described, hd] using h)

theorem not_exact {res : ResIndicateMechs} {e : GssError} (hm : e.major ≠ 0)
    (hs : res.status = endStatus lib (some e)) : ¬ Exact lib mechs res := by
  rintro ⟨_, -, rfl⟩
  have hz : (0 : UInt32).toUInt64 = e.major.toUInt64 := congrArg GssxStatus.majorStatus hs
  exact hm (UInt32.toUInt64_inj.mp hz).symm

/-- **The reply of the C daemon is the one it has to be, and that of the Rust daemon, exactly if** only
    inquiries of name types fail, and not the last one unless an attribute remains. -/
theorem indicated_iff (herrs : Errs lib) (hmechs : lib.indicateMechs = .ok mechs) :
    Exact lib mechs (gpIndicateMechs lib) ∧ indicateMechs lib = gpIndicateMechs lib ↔
      Served lib mechs := by
  unfold gpIndicateMechs indicateMechs
  simp only [hmechs]
  by_cases hi : ∀ mech ∈ mechs, ∀ mi attrs e, inquire lib mech ≠ .ended mi attrs e
  · obtain ⟨t, hru, hre, hs, ht, hr⟩ := gpMechs_filled hi [] mechs.length
      (t := ⟨List.replicate mechs.length default, mechs.length, 0, [], none⟩) rfl rfl
      (Nat.zero_add _).symm (Nat.le_refl _)
    replace hs : t.attrSet = attrsOf lib mechs := hs.trans (addAttrs_nil _)
    simp only [hru, hr, hs, Bool.false_eq_true, if_false]
    by_cases hd : ∀ attr ∈ attrsOf lib mechs, (described lib attr).isSome
    · obtain ⟨descs, hde, ha, hr'⟩ := gpAttrs_described hd t.ret []
      simp only [ha, hr', List.nil_append]
      rw [hre]
      obtain ⟨hn, he⟩ | ⟨e, hso, hm, he⟩ := ret_cases herrs mechs
      · rw [hn]
        exact iff_of_true ⟨⟨descs, hde, by rw [ht]; rfl⟩, rfl⟩ ⟨hi, hd, he⟩
      · rw [hso]
        exact iff_of_false (fun h => not_exact hm rfl h.1) fun h => he h.ends
    · obtain ⟨e, hf, hm⟩ := gpAttrs_fails herrs [] t.ret hd
      rw [hf]
      exact iff_of_false (fun h => not_exact hm rfl h.1) fun h => hd h.displays
  · obtain ⟨t, e, hru, hre, hm⟩ := gpMechs_ended herrs hi
      (t := ⟨List.replicate mechs.length default, mechs.length, 0, [], none⟩)
    simp only [hru, if_true, hre]
    exact iff_of_false (fun h => not_exact hm rfl h.1) fun h => hi h.inquires

end

/-! ## The last mechanism fails -/

def mechLib (mechs : List Bytes) : Library Unit Unit Unit Unit :=
  { failingLib with
    indicateMechs := .ok mechs
    inquireNamesForMech := fun mech => if mech = [1] then .ok [] else .error invalid
    inquireAttrsForMech := fun _ => .ok ([], [])
    inquireSaslnameForMech := fun _ => .ok ([], [], []) }

theorem inquire_mechLib (mechs : List Bytes) (mech : Bytes) :
    inquire (mechLib mechs) mech =
      if mech = [1] then .filled { (default : GssxMechInfo) with mech := ⟨mech⟩ } [] else
        .skipped invalid := by
  by_cases hm : mech = [1]
  · subst hm; rfl
  · simp [inquire, mechLib, hm]

theorem mechLib_errs (mechs : List Bytes) : Errs (mechLib mechs) := by
  refine ⟨fun mech e h => ?_, fun mech mi attrs e h => ?_, fun _ e h => ?_⟩
  · rw [inquire_mechLib] at h
    split at h
    · cases h
    · cases h; decide
  · rw [inquire_mechLib] at h
    split at h <;> cases h
  · cases h; decide

theorem indicated_skipped_first :
    Exact (mechLib [[2], [1]]) [[2], [1]] (gpIndicateMechs (mechLib [[2], [1]])) := by
  refine ((indicated_iff (mechLib_errs _) rfl).mpr ⟨?_, ?_, ?_⟩).1
  · simp [inquire_mechLib]
  · simp [attrsOf, inquired, inquire_mechLib]
  · simp [inquire_mechLib]

/-- **The status of a skipped mechanism is sent**: the C daemon has skipped the last and fails. -/
theorem skipped_last_fails :
    (gpIndicateMechs (mechLib [[1], [2]])).status.majorStatus = GSS_S_FAILURE.toUInt64 ∧
      (indicateMechs (mechLib [[1], [2]])).status.majorStatus = GSS_S_COMPLETE.toUInt64 ∧
      ¬ Exact (mechLib [[1], [2]]) [[1], [2]] (gpIndicateMechs (mechLib [[1], [2]])) :=
  ⟨by decide +kernel, by decide +kernel, not_exact (e := invalid) (by decide) rfl⟩

end GssProxy.Daemon.IndicateMechs
