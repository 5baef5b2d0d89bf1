import GssProxy.Interposer.Special

/-!
# Sets of special mechanisms

`gpp_special_available_mechs` asks whether a member is special inside the loop over the registry, which is
not entered while the registry is empty.  One thread is running and allocations succeed.  A special form
whose length does not fit in 32 bits is written beyond its memory, `none` here.

* `sets_iff`: when the set is that of the members' special forms, in both.
-/

namespace GssProxy.Interposer.SpecialSets

open Codec GssProxy.System Special

structure Entry where
  regular : Bytes
  special : Bytes
  deriving DecidableEq

abbrev Entries := List Entry

def gppSpecialEqual (s n : Bytes) : Bool :=
  s.length - GSSPROXY_INTERPOSER_OID.length == n.length &&
    s.drop GSSPROXY_INTERPOSER_OID.length == n

/-- The length of the special form fits in 32 bits. -/
abbrev Fits (n : Bytes) : Prop := GSSPROXY_INTERPOSER_OID.length + n.length < 4294967296

def gppNewSpecialMech (n : Bytes) (reg : Entries) : Option (Bytes × Entries) :=
  if Fits n then
    some (GSSPROXY_INTERPOSER_OID ++ n, reg ++ [⟨n, GSSPROXY_INTERPOSER_OID ++ n⟩])
  else none

/-- The loop over the registry: what is found for a member. -/
def scan (m : Bytes) : Entries → Option Bytes
  | [] => none
  | item :: rest =>
    if isSpecialOid m then some m
    else if gppSpecialEqual item.special m then some item.special
    else scan m rest

def lookup (m : Bytes) (reg : Entries) : Option (Bytes × Entries) :=
  match scan m reg with
  | some found => some (found, reg)
  | none => gppNewSpecialMech m reg

/-- `gpp_special_mech`.  Its loop is for members that are not special. -/
def gppSpecialMech (mech : Option Bytes) (reg : Entries) : Option (Option Bytes × Entries) :=
  match mech with
  | none => some (reg.head?.map Entry.special, reg)
  | some m => if isSpecialOid m then some (some m, reg) else (lookup m reg).map (Prod.map some id)

/-! `addMember` is `gss_add_oid_set_member`, which may keep duplicates. -/

section

variable (addMember : List Bytes → Bytes → List Bytes)

def availableLoop : List Bytes → Entries → List Bytes → Option (List Bytes × Entries)
  | [], reg, amechs => some (amechs, reg)
  | m :: mechs, reg, amechs =>
    (lookup m reg).bind fun found => availableLoop mechs found.2 (addMember amechs found.1)

def orNone (amechs : List Bytes) : Option (List Bytes) := if amechs = [] then none else some amechs

def gppSpecialAvailableMechs (mechs : List Bytes) (reg : Entries) :
    Option (Option (List Bytes) × Entries) :=
  (availableLoop addMember mechs reg []).map (Prod.map orNone id)

def gppInitSpecialAvailableMechs (mechs : List Bytes) (reg : Entries) : Option Entries :=
  mechs.foldlM (fun reg m => (lookup m reg).map Prod.snd) reg

def rustLoop : List Oid → Registry → List Bytes → List Bytes × Registry
  | [], reg, amechs => (amechs, reg)
  | m :: mechs, reg, amechs =>
    match Special.specialMech (some m) reg with
    | (some sp, reg) => rustLoop mechs reg (addMember amechs sp.bytes)
    | (none, reg) => ([], reg)

def specialAvailableMechs (mechs : List Oid) (reg : Registry) : Option (List Bytes) × Registry :=
  (rustLoop addMember mechs reg []).map orNone id

inductive Call where
  | special (mech : Option Bytes)
  | available (mechs : List Bytes)
  | initAvailable (mechs : List Bytes)

def step (reg : Entries) : Call → Option Entries
  | .special mech => (gppSpecialMech mech reg).map Prod.snd
  | .available mechs => (gppSpecialAvailableMechs addMember mechs reg).map Prod.snd
  | .initAvailable mechs => gppInitSpecialAvailableMechs mechs reg

abbrev Reachable (reg : Entries) : Prop := Reach (step addMember) (fun _ _ => True) [] reg

/-! ## The law -/

def addMissing (known oids : List Bytes) : List Bytes :=
  oids.foldl (fun known oid => if oid ∈ known then known else known ++ [oid]) known

def specialForm (m : Bytes) : Bytes := if isSpecialOid m then m else GSSPROXY_INTERPOSER_OID ++ m

def regulars (mechs : List Bytes) : List Bytes := mechs.filter fun m => !isSpecialOid m

/-- The set returned, the entries added, and what the Rust interposer returns in every state of its
    registry. -/
structure SetLaw (mechs : List Oid) (reg : Entries) (set : Option (List Bytes)) (reg' : Entries) :
    Prop where
  returned : set = orNone ((mechs.map fun m => specialForm m.bytes).foldl addMember [])
  forms : ∀ m ∈ mechs, ∃ after, gppSpecialMech (some m.bytes) reg = some (some (specialForm m.bytes), after)
  /-- each regular member that was missing is added, once and in its turn -/
  registered : reg'.map Entry.regular =
    addMissing (reg.map Entry.regular) (regulars (mechs.map (·.bytes)))
  kept : reg <+: reg'
  rust : ∀ rreg, Leads .empty rreg → (specialAvailableMechs addMember mechs rreg).1 = set

/-- The call does what `SetLaw` says. -/
def Law (mechs : List Oid) (reg : Entries) : Prop :=
  ∃ set reg', gppSpecialAvailableMechs addMember (mechs.map (·.bytes)) reg = some (set, reg') ∧
    SetLaw addMember mechs reg set reg'

/-- The special forms fit, and the registry is not empty when a special member is looked for. -/
structure Ready (mechs : List Oid) (reg : Entries) : Prop where
  short : ∀ m ∈ mechs, isSpecialOid m.bytes = false → m.Short
  started : reg = [] → ∀ m ∈ mechs.head?, isSpecialOid m.bytes = false

end

/-! ## The registry -/

def Formed (reg : Entries) : Prop :=
  ∀ item ∈ reg, item.special = GSSPROXY_INTERPOSER_OID ++ item.regular ∧ Fits item.regular

variable {addMember : List Bytes → Bytes → List Bytes} {reg reg' : Entries} {m n : Bytes} {mechs amechs set : List Bytes}

theorem gppSpecialEqual_append : gppSpecialEqual (GSSPROXY_INTERPOSER_OID ++ m) n = (m == n) := by
  unfold gppSpecialEqual
  rw [List.drop_left, List.length_append, Nat.add_sub_cancel_left, Bool.and_eq_right_iff_imp, beq_iff_eq,
    beq_iff_eq]
  exact congrArg List.length

theorem scan_regular (h : Formed reg) (hm : isSpecialOid m = false) :
    scan m reg = if m ∈ reg.map Entry.regular then some (GSSPROXY_INTERPOSER_OID ++ m) else none := by
  induction reg with
  | nil => rfl
  | cons item rest ih =>
    obtain ⟨hi, hr⟩ := List.forall_mem_cons.mp h
    rw [scan, hm, hi.1, gppSpecialEqual_append, ih hr]
    by_cases heq : item.regular = m
    · simp [heq]
    · simp [heq, Ne.symm heq]

theorem scan_special (hr : reg ≠ []) (hm : isSpecialOid m = true) : scan m reg = some m := by
  cases reg with
  | nil => exact absurd rfl hr
  | cons item rest => rw [scan, if_pos hm]

theorem Formed.lookup (h : Formed reg) (hr : lookup m reg = some (n, reg')) :
    Formed reg' ∧ reg <+: reg' ∧ (isSpecialOid m = false → Fits m) := by
  unfold SpecialSets.lookup at hr
  cases hs : scan m reg with
  | some found =>
    rw [hs] at hr
    cases hr
    refine ⟨h, List.prefix_rfl, fun hm => ?_⟩
    rw [scan_regular h hm] at hs
    obtain ⟨hme, -⟩ := Option.ite_none_right_eq_some.mp hs
    obtain ⟨item, hi, rfl⟩ := List.mem_map.mp hme
    exact (h item hi).2
  | none =>
    rw [hs] at hr
    obtain ⟨hl, hn⟩ := Option.ite_none_right_eq_some.mp hr
    cases hn
    exact ⟨List.forall_mem_append.mpr ⟨h, List.forall_mem_singleton.mpr ⟨rfl, hl⟩⟩,
      List.prefix_append _ _, fun _ => hl⟩

theorem Formed.available (h : Formed reg) (hr : availableLoop addMember mechs reg amechs = some (set, reg')) :
    Formed reg' ∧ reg <+: reg' ∧ ∀ m ∈ mechs, isSpecialOid m = false → Fits m := by
  induction mechs generalizing reg amechs with
  | nil => cases hr; exact ⟨h, List.prefix_rfl, nofun⟩
  | cons m mechs ih =>
    obtain ⟨found, hfo, hr⟩ := Option.bind_eq_some_iff.mp hr
    obtain ⟨hf, hp, hm⟩ := h.lookup hfo
    obtain ⟨hf', hp', hs⟩ := ih hf hr
    exact ⟨hf', hp.trans hp', List.forall_mem_cons.mpr ⟨hm, hs⟩⟩

theorem Formed.initAvailable (h : Formed reg)
    (hr : gppInitSpecialAvailableMechs mechs reg = some reg') : Formed reg' := by
  induction mechs generalizing reg with
  | nil => cases hr; exact h
  | cons m mechs ih =>
    obtain ⟨reg₁, hf, hr⟩ := Option.bind_eq_some_iff.mp hr
    obtain ⟨found, hn, rfl⟩ := Option.map_eq_some_iff.mp hf
    exact ih (h.lookup hn).1 hr

theorem formed_of_reachable (h : Reachable addMember reg) : Formed reg := by
  refine h.invariant (I := Formed) (fun _ hi => by cases hi) ?_
  intro reg call reg' hf _ hs
  cases call with
  | special mech =>
    obtain ⟨found, hr, rfl⟩ := Option.map_eq_some_iff.mp hs
    unfold gppSpecialMech at hr
    split at hr
    · cases hr; exact hf
    · split at hr
      · cases hr; exact hf
      · obtain ⟨new, hn, rfl⟩ := Option.map_eq_some_iff.mp hr; exact (hf.lookup hn).1
  | available mechs =>
    obtain ⟨r, hr, rfl⟩ := Option.map_eq_some_iff.mp hs
    obtain ⟨r', hl, rfl⟩ := Option.map_eq_some_iff.mp hr
    exact (hf.available hl).1
  | initAvailable mechs => exact hf.initAvailable hs

/-! ## Both directions -/

theorem mem_addMissing {oid : Bytes} {oids : List Bytes} :
    oid ∈ addMissing set oids ↔ oid ∈ set ∨ oid ∈ oids := by
  induction oids generalizing set with
  | nil => simp [addMissing]
  | cons first oids ih =>
    show oid ∈ addMissing (if first ∈ set then set else set ++ [first]) oids ↔ _
    split <;> grind

theorem lookup_regular (h : Formed reg) (hm : isSpecialOid m = false) (hs : Fits m) :
    ∃ reg', lookup m reg = some (specialForm m, reg') ∧
      reg'.map Entry.regular = addMissing (reg.map Entry.regular) [m] := by
  have hf : specialForm m = GSSPROXY_INTERPOSER_OID ++ m := by simp [specialForm, hm]
  unfold lookup addMissing
  rw [scan_regular h hm, hf]
  by_cases hme : m ∈ reg.map Entry.regular
  · exact ⟨reg, by rw [if_pos hme], (if_pos hme).symm⟩
  · refine ⟨reg ++ [⟨m, GSSPROXY_INTERPOSER_OID ++ m⟩], ?_, List.map_append.trans (if_neg hme).symm⟩
    rw [if_neg hme]
    exact if_pos hs

theorem available_ready (amechs : List Bytes) (h : Formed reg)
    (hsh : ∀ m ∈ mechs, isSpecialOid m = false → Fits m)
    (hst : reg = [] → ∀ m ∈ mechs.head?, isSpecialOid m = false) :
    ∃ reg', availableLoop addMember mechs reg amechs =
        some ((mechs.map specialForm).foldl addMember amechs, reg') ∧
      reg'.map Entry.regular = addMissing (reg.map Entry.regular) (regulars mechs) := by
  induction mechs generalizing reg amechs with
  | nil => exact ⟨reg, rfl, rfl⟩
  | cons m mechs ih =>
    obtain ⟨hm, hrs⟩ := List.forall_mem_cons.mp hsh
    obtain ⟨reg₁, hl, hr, hne⟩ : ∃ reg₁, lookup m reg = some (specialForm m, reg₁) ∧
        reg₁.map Entry.regular = addMissing (reg.map Entry.regular) (regulars [m]) ∧ reg₁ ≠ [] := by
      cases hs : isSpecialOid m with
      | true =>
        have hre : reg ≠ [] := fun he => by simpa [hs] using hst he m rfl
        refine ⟨reg, ?_, by simp [regulars, hs, addMissing], hre⟩
        rw [lookup, scan_special hre hs, specialForm, if_pos hs]
      | false =>
        obtain ⟨reg₁, hl, hr⟩ := lookup_regular h hs (hm hs)
        have hme : m ∈ reg₁.map Entry.regular := by
          rw [hr]; exact mem_addMissing.mpr (.inr (.head []))
        exact ⟨reg₁, hl, by simp [hr, regulars, hs, addMissing], by rintro rfl; cases hme⟩
    obtain ⟨reg', hru, hr'⟩ := ih (addMember amechs (specialForm m)) (h.lookup hl).1 hrs
      fun he => absurd he hne
    refine ⟨reg', ?_, ?_⟩
    · rw [availableLoop, hl]; exact hru
    · rw [hr', hr]
      simp [regulars, addMissing, List.filter_cons]
      split <;> simp

theorem rustLoop_set {mechs : List Oid} {rreg : Registry} (h : Sound rreg) (amechs : List Bytes)
    (hsh : ∀ m ∈ mechs, isSpecialOid m.bytes = false → m.Short) :
    (rustLoop addMember mechs rreg amechs).1 =
      (mechs.map fun m => specialForm m.bytes).foldl addMember amechs := by
  induction mechs generalizing rreg amechs with
  | nil => rfl
  | cons m mechs ih =>
    obtain ⟨hm, hre⟩ := List.forall_mem_cons.mp hsh
    have hso := (h.specialMech (some m) hm).1
    unfold rustLoop
    cases hs : isSpecialOid m.bytes with
    | true =>
      rw [specialMech_special hs] at hso ⊢
      rw [List.map_cons, specialForm, if_pos hs]
      exact ih hso _ hre
    | false =>
      obtain ⟨e, he, hr, hf⟩ := h.specialMech_entry hs (hm hs)
      rcases hru : Special.specialMech (some m) rreg with ⟨sp, rreg'⟩
      rw [hru] at hso he hf
      obtain rfl : sp = some e.special := hf
      have hb : e.special.bytes = specialForm m.bytes := by
        rw [hso.bytes e he, hr, specialForm, hs]; rfl
      rw [List.map_cons, ← hb]
      exact ih hso _ hre

/-- **Sets of special mechanisms are what they have to be exactly if** the special forms fit and the
    registry is not empty when a special member is looked for. -/
theorem sets_iff (hreach : Reachable addMember reg) (mechs : List Oid) :
    Law addMember mechs reg ↔ Ready mechs reg := by
  have hf := formed_of_reachable hreach
  constructor
  · rintro ⟨set, reg', hr, hla⟩
    obtain ⟨⟨amechs, after⟩, hl, ha⟩ := Option.map_eq_some_iff.mp hr
    cases ha
    refine ⟨fun m hm => (hf.available hl).2.2 m.bytes (List.mem_map_of_mem hm), ?_⟩
    rintro rfl m hm
    cases mechs with
    | nil => cases hm
    | cons first mechs =>
      cases hm
      obtain ⟨found, hfo, hl⟩ := Option.bind_eq_some_iff.mp hl
      obtain ⟨-, hn⟩ := Option.ite_none_right_eq_some.mp hfo
      cases hn
      -- the first member is registered, so it has to be regular
      have hme : m.bytes ∈ (id after).map Entry.regular := by
        obtain ⟨more, rfl⟩ := ((hf.lookup hfo).1.available hl).2.1; simp
      rw [hla.registered] at hme
      simpa using List.of_mem_filter ((mem_addMissing.mp hme).resolve_left (by simp))
  · rintro ⟨hsh, hst⟩
    have hsh' : ∀ m ∈ mechs.map (·.bytes), isSpecialOid m = false → Fits m :=
      List.forall_mem_map.mpr hsh
    obtain ⟨reg', hr, hre⟩ := available_ready [] hf hsh' fun he m hm => by
      obtain ⟨first, hfi, rfl⟩ := Option.map_eq_some_iff.mp (List.head?_map.symm.trans hm)
      exact hst he first hfi
    have hse : ((mechs.map (·.bytes)).map specialForm).foldl addMember [] =
        (mechs.map fun m => specialForm m.bytes).foldl addMember [] := by rw [List.map_map]; rfl
    refine ⟨_, reg', by rw [gppSpecialAvailableMechs, hr]; rfl, ⟨congrArg orNone hse, ?_, hre,
      (hf.available hr).2.1, ?_⟩⟩
    · intro m hm
      unfold gppSpecialMech
      cases hs : isSpecialOid m.bytes with
      | true => exact ⟨reg, by simp [specialForm, hs]⟩
      | false =>
        obtain ⟨after, ha, -⟩ := lookup_regular hf hs (hsh m hm hs); exact ⟨after, by simp [hs, ha]⟩
    · intro rreg hle
      show orNone (rustLoop addMember mechs rreg []).1 = _
      rw [rustLoop_set (Sound.empty.leads hle).1 [] hsh]
      exact congrArg orNone hse.symm

/-- `gss_add_oid_set_member` appends, as MIT's does. -/
def append (set : List Bytes) (oid : Bytes) : List Bytes := set ++ [oid]

/-- A regular member that is registered and a new one, with a special one between them. -/
theorem sets_mixed : ∃ reg, step append [] (.special (some (ones 5 (by decide)).bytes)) = some reg ∧
    Law append [ones 5 (by decide), ⟨0, GSSPROXY_INTERPOSER_OID, by decide⟩, ones 9 (by decide)] reg := by
  obtain ⟨reg, hs⟩ : ∃ reg, step append [] (.special (some (ones 5 (by decide)).bytes)) = some reg :=
    ⟨_, rfl⟩
  refine ⟨reg, hs, (sets_iff (.next .start trivial hs) _).mpr ⟨?_, ?_⟩⟩
  rotate_left
  · rintro rfl; cases hs
  intro m hm hr
  rcases List.mem_cons.mp hm with rfl | hm
  · exact Nat.lt_of_lt_of_le (by decide : 16 < 17) (by decide)
  rcases List.mem_cons.mp hm with rfl | hm
  · cases hr
  · rw [List.mem_singleton.mp hm]
    exact Nat.lt_of_lt_of_le (by decide : 20 < 21) (by decide)

/-- **A special mechanism is made special again**: the only member, while the registry is empty. -/
theorem special_registered_again :
    isSpecialOid GSSPROXY_INTERPOSER_OID = true ∧
      gppSpecialAvailableMechs append [GSSPROXY_INTERPOSER_OID] [] =
        some (some [GSSPROXY_INTERPOSER_OID ++ GSSPROXY_INTERPOSER_OID],
          [⟨GSSPROXY_INTERPOSER_OID, GSSPROXY_INTERPOSER_OID ++ GSSPROXY_INTERPOSER_OID⟩]) ∧
      ¬ Law append [⟨0, GSSPROXY_INTERPOSER_OID, by decide⟩] [] := by
  refine ⟨rfl, by decide +kernel, ?_⟩
  rintro ⟨set, reg', hr, hl⟩
  have hs : set = some [GSSPROXY_INTERPOSER_OID] := hl.returned
  subst hs
  revert hr
  intro h
  cases h

end GssProxy.Interposer.SpecialSets
