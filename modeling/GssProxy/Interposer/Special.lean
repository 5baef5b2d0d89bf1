import GssProxy.Interposer.Name
import GssProxy.System.Run
import Mathlib.Data.List.Nodup

/-!
# The registry of special mechanisms

A special mechanism is a regular one behind the interposer's object identifier.  `special.rs` keeps pairs
in a vector under a lock and frees nothing, so the calls of all threads are one sequence of steps.  A
descriptor has its length in 32 bits.

* `registry_law`: the two maps are inverse to each other and stay, while lengths fit.
-/

namespace GssProxy.Interposer.Special

open Codec GssProxy.System

/-- A descriptor, at its address. -/
structure Oid where
  ptr : Nat
  bytes : Bytes
  length_lt : bytes.length < 4294967296

structure SpecialEntry where
  regular : Oid
  special : Oid

/-- The pairs, and the next free address. -/
structure Registry where
  entries : List SpecialEntry
  next : Nat

def Registry.empty : Registry := ⟨[], 0⟩

def leakOid (ptr : Nat) (bytes : Bytes) : Oid where
  ptr := ptr
  bytes := bytes.take (bytes.length % 4294967296)
  length_lt := Nat.lt_of_le_of_lt (List.length_take_le _ _) (Nat.mod_lt _ (by decide))

def specialEqual (s n : Oid) : Bool :=
  GSSPROXY_INTERPOSER_OID.length ≤ s.bytes.length &&
    s.bytes.drop GSSPROXY_INTERPOSER_OID.length == n.bytes

def registerLocked (reg : Registry) (nb : Bytes) : Oid × Registry :=
  let special := leakOid (reg.next + 1) (GSSPROXY_INTERPOSER_OID ++ nb)
  (special, ⟨reg.entries ++ [⟨leakOid reg.next nb, special⟩], reg.next + 2⟩)

def findOrRegister (m : Oid) (reg : Registry) : Oid × Registry :=
  match reg.entries.find? fun e => specialEqual e.special m with
  | some e => (e.special, reg)
  | none => registerLocked reg m.bytes

def specialMech (mech : Option Oid) (reg : Registry) : Option Oid × Registry :=
  match mech with
  | none => (reg.entries.head?.map (·.special), reg)
  | some m =>
    if isSpecialOid m.bytes then (some m, reg)
    else (findOrRegister m reg).map some id

def unspecialMech (mech : Option Oid) (reg : Registry) : Option Oid :=
  match mech with
  | none => none
  | some m =>
    if isSpecialOid m.bytes then
      some (((reg.entries.find? fun e => e.special.bytes == m.bytes).map (·.regular)).getD m)
    else some m

def initSpecialAvailableMechs (mechs : List Oid) (reg : Registry) : Registry :=
  mechs.foldl (fun reg m => (specialMech (some m) reg).2) reg

inductive Call where
  | special (mech : Option Oid)
  | unspecial (mech : Option Oid)
  | initAvailable (mechs : List Oid)

def step (reg : Registry) : Call → Option Registry
  | .special mech => some (specialMech mech reg).2
  | .unspecial _ => some reg
  | .initAvailable mechs => some (initSpecialAvailableMechs mechs reg)

def Oid.Short (m : Oid) : Prop := GSSPROXY_INTERPOSER_OID.length + m.bytes.length < 4294967296

def Call.Short : Call → Prop
  | .special (some m) => isSpecialOid m.bytes = false → m.Short
  | .initAvailable mechs => ∀ m ∈ mechs, isSpecialOid m.bytes = false → m.Short
  | _ => True

/-- Calls whose lengths fit lead from one to the other. -/
def Leads (reg reg' : Registry) : Prop := Reach step (fun _ call => call.Short) reg reg'

/-! ## The invariant -/

structure Sound (reg : Registry) : Prop where
  regular_nodup : (reg.entries.map fun e => e.regular.bytes).Nodup
  bytes : ∀ e ∈ reg.entries, e.special.bytes = GSSPROXY_INTERPOSER_OID ++ e.regular.bytes
  special_nodup : (reg.entries.map fun e => e.special.ptr).Nodup
  special_lt : ∀ e ∈ reg.entries, e.special.ptr < reg.next

theorem Sound.empty : Sound .empty := ⟨.nil, nofun, .nil, nofun⟩

theorem leakOid_bytes (ptr : Nat) {bytes : Bytes} (h : bytes.length < 4294967296) :
    (leakOid ptr bytes).bytes = bytes := by
  show bytes.take (bytes.length % 4294967296) = bytes
  rw [Nat.mod_eq_of_lt h, List.take_length]

theorem leakOid_bytes_of_wrap {bytes : Bytes} {ptr : Nat} (h : bytes.length % 4294967296 = 0) :
    (leakOid ptr bytes).bytes = [] := by
  show bytes.take (bytes.length % 4294967296) = []
  rw [h, List.take_zero]

theorem isSpecialOid_append (bytes : Bytes) :
    isSpecialOid (GSSPROXY_INTERPOSER_OID ++ bytes) = true := by
  rw [isSpecialOid, List.isPrefixOf_iff_prefix]
  exact List.prefix_append _ _

section

variable {reg reg' : Registry} {e e' : SpecialEntry} {m : Oid}

theorem Sound.specialEqual_iff (h : Sound reg) (he : e ∈ reg.entries) :
    specialEqual e.special m = true ↔ e.regular.bytes = m.bytes := by
  rw [specialEqual, h.bytes e he]
  simp

theorem Sound.eq_of_regular (h : Sound reg) (he : e ∈ reg.entries) (he' : e' ∈ reg.entries)
    (hb : e.regular.bytes = e'.regular.bytes) : e = e' :=
  List.inj_on_of_nodup_map h.regular_nodup he he' hb

theorem Sound.findOrRegister_of_mem (h : Sound reg) (he : e ∈ reg.entries)
    (hm : e.regular.bytes = m.bytes) : findOrRegister m reg = (e.special, reg) := by
  unfold findOrRegister
  cases hf : reg.entries.find? fun e => specialEqual e.special m with
  | none => exact absurd ((h.specialEqual_iff he).mpr hm) (by simpa using List.find?_eq_none.mp hf e he)
  | some e' =>
    have he' := List.mem_of_find?_eq_some hf
    have heu : specialEqual e'.special m = true := by simpa using List.find?_some hf
    have hm' := (h.specialEqual_iff he').mp heu
    rw [h.eq_of_regular he' he (hm'.trans hm.symm)]

theorem Sound.findOrRegister (h : Sound reg) (hsh : m.Short) :
    Sound (findOrRegister m reg).2 ∧ reg.entries <+: (findOrRegister m reg).2.entries ∧
      ∃ e ∈ (findOrRegister m reg).2.entries, e.regular.bytes = m.bytes ∧
        e.special = (findOrRegister m reg).1 := by
  by_cases hk : ∃ e ∈ reg.entries, e.regular.bytes = m.bytes
  · obtain ⟨e, he, hm⟩ := hk
    rw [h.findOrRegister_of_mem he hm]
    exact ⟨h, List.prefix_rfl, e, he, hm, rfl⟩
  have hn : reg.entries.find? (fun e => specialEqual e.special m) = none := by
    refine List.find?_eq_none.mpr fun e he heu => hk ⟨e, he, ?_⟩
    exact (h.specialEqual_iff he).mp heu
  have hne : Special.findOrRegister m reg = registerLocked reg m.bytes := by
    rw [Special.findOrRegister, hn]
  have hr := leakOid_bytes reg.next m.length_lt
  have hl : (GSSPROXY_INTERPOSER_OID ++ m.bytes).length < 4294967296 := by
    rw [List.length_append]; exact hsh
  have hs := leakOid_bytes (reg.next + 1) hl
  rw [hne]
  refine ⟨⟨?_, ?_, ?_, ?_⟩, List.prefix_append _ _, _, List.mem_append_right _ (.head _), hr, rfl⟩
  · simp only [registerLocked, List.map_append, List.map_cons, List.map_nil, hr]
    refine h.regular_nodup.append (List.nodup_singleton _) ?_
    simpa [List.disjoint_singleton] using fun e he hm => hk ⟨e, he, hm⟩
  · refine List.forall_mem_append.mpr ⟨h.bytes, List.forall_mem_singleton.mpr ?_⟩
    rw [hs, hr]
  · simp only [registerLocked, List.map_append, List.map_cons, List.map_nil]
    refine h.special_nodup.append (List.nodup_singleton _) ?_
    simpa [leakOid] using fun e he hp => by
      have := h.special_lt e he
      omega
  · refine List.forall_mem_append.mpr ⟨fun e he => ?_, List.forall_mem_singleton.mpr ?_⟩
    · exact Nat.lt_add_right 2 (h.special_lt e he)
    · exact Nat.lt_succ_self _

theorem specialMech_regular (hm : isSpecialOid m.bytes = false) :
    specialMech (some m) reg = (findOrRegister m reg).map some id := by
  rw [specialMech, hm]
  rfl

theorem specialMech_special (hm : isSpecialOid m.bytes = true) :
    specialMech (some m) reg = (some m, reg) := by
  rw [specialMech, if_pos hm]

theorem Sound.specialMech (h : Sound reg) (mech : Option Oid) (hs : (Call.special mech).Short) :
    Sound (specialMech mech reg).2 ∧ reg.entries <+: (specialMech mech reg).2.entries := by
  cases mech with
  | none => exact ⟨h, List.prefix_rfl⟩
  | some m =>
    cases hm : isSpecialOid m.bytes with
    | true => rw [specialMech_special hm]; exact ⟨h, List.prefix_rfl⟩
    | false =>
      obtain ⟨hso, hg, -⟩ := h.findOrRegister (hs hm)
      rw [specialMech_regular hm]
      exact ⟨hso, hg⟩

theorem Sound.initSpecialAvailableMechs {mechs : List Oid} (h : Sound reg)
    (hs : (Call.initAvailable mechs).Short) :
    Sound (initSpecialAvailableMechs mechs reg) ∧
      reg.entries <+: (initSpecialAvailableMechs mechs reg).entries := by
  induction mechs generalizing reg with
  | nil => exact ⟨h, List.prefix_rfl⟩
  | cons m mechs ih =>
    obtain ⟨hm, hr⟩ := List.forall_mem_cons.mp hs
    obtain ⟨hso, hg⟩ := h.specialMech (some m) hm
    exact (ih hso hr).imp_right hg.trans

theorem Sound.leads (h : Sound reg) (hl : Leads reg reg') :
    Sound reg' ∧ reg.entries <+: reg'.entries := by
  refine Reach.invariant (I := fun reg' => Sound reg' ∧ reg.entries <+: reg'.entries)
    ⟨h, List.prefix_rfl⟩ ?_ hl
  rintro s call s' ⟨hs, hg⟩ hsh hst
  cases call with
  | special mech =>
    cases hst
    exact (hs.specialMech mech hsh).imp_right hg.trans
  | unspecial mech => cases hst; exact ⟨hs, hg⟩
  | initAvailable mechs =>
    cases hst
    exact (hs.initSpecialAvailableMechs hsh).imp_right hg.trans

end

/-! ## What a caller may rely on -/

structure Stable (m s : Oid) (reg : Registry) : Prop where
  unspecial : (unspecialMech (some s) reg).map (·.bytes) = some m.bytes
  unchanged : specialMech (some s) reg = (some s, reg)
  /-- equal mechanisms have the same pointer, different ones different pointers -/
  pointer : ∀ m', isSpecialOid m'.bytes = false → m'.Short →
    ∃ s', (specialMech (some m') reg).1 = some s' ∧ (s'.ptr = s.ptr ↔ m'.bytes = m.bytes)

/-- What holds in a registry, and from it on. -/
structure RegistryLaw (reg : Registry) : Prop where
  regular_nodup : (reg.entries.map fun e => e.regular.bytes).Nodup
  bytes : ∀ e ∈ reg.entries, e.special.bytes = GSSPROXY_INTERPOSER_OID ++ e.regular.bytes
  grows : ∀ reg', Leads reg reg' → reg.entries <+: reg'.entries
  idempotent : ∀ mech, (Call.special mech).Short →
    specialMech (specialMech mech reg).1 (specialMech mech reg).2 = specialMech mech reg
  stable : ∀ m, isSpecialOid m.bytes = false → m.Short →
    ∃ s, (specialMech (some m) reg).1 = some s ∧ s.bytes = GSSPROXY_INTERPOSER_OID ++ m.bytes ∧
      ∀ reg', Leads (specialMech (some m) reg).2 reg' → Stable m s reg'

section

variable {reg reg' : Registry} {e : SpecialEntry} {m : Oid}

theorem Sound.isSpecialOid (h : Sound reg) (he : e ∈ reg.entries) :
    isSpecialOid e.special.bytes = true := by
  rw [h.bytes e he]
  exact isSpecialOid_append _

theorem Sound.unspecialMech (h : Sound reg) (he : e ∈ reg.entries) :
    unspecialMech (some e.special) reg = some e.regular := by
  have hf : reg.entries.find? (fun e' => e'.special.bytes == e.special.bytes) = some e := by
    cases hf : reg.entries.find? fun e' => e'.special.bytes == e.special.bytes with
    | none => exact absurd BEq.rfl (List.find?_eq_none.mp hf e he)
    | some e' =>
      have he' := List.mem_of_find?_eq_some hf
      have hb : e'.special.bytes = e.special.bytes := by simpa using List.find?_some hf
      rw [h.bytes e' he', h.bytes e he, List.append_cancel_left_eq] at hb
      rw [h.eq_of_regular he' he hb]
  rw [Special.unspecialMech, if_pos (h.isSpecialOid he), hf]
  rfl

theorem Sound.specialMech_entry (h : Sound reg) (hm : Interposer.isSpecialOid m.bytes = false)
    (hsh : m.Short) : ∃ e ∈ (Special.specialMech (some m) reg).2.entries,
      e.regular.bytes = m.bytes ∧ (Special.specialMech (some m) reg).1 = some e.special := by
  obtain ⟨-, -, e, he, hb, hs⟩ := h.findOrRegister hsh
  rw [specialMech_regular hm]
  exact ⟨e, he, hb, congrArg some hs.symm⟩

theorem Sound.stable (h : Sound reg) (he : e ∈ reg.entries) (hm : e.regular.bytes = m.bytes) :
    Stable m e.special reg := by
  refine ⟨?_, specialMech_special (h.isSpecialOid he), fun m' hr hs => ?_⟩
  · rw [h.unspecialMech he, Option.map_some, hm]
  obtain ⟨e', he', hm', hsp⟩ := h.specialMech_entry hr hs
  obtain ⟨hso, hg⟩ := h.specialMech (some m') fun _ => hs
  have he := hg.subset he
  refine ⟨e'.special, hsp, fun hp => ?_, fun hb => ?_⟩
  · rw [← hm', ← hm, List.inj_on_of_nodup_map hso.special_nodup he' he hp]
  · rw [hso.eq_of_regular he' he (hm'.trans (hb.trans hm.symm))]

theorem Sound.idempotent {mech : Option Oid} (h : Sound reg) (hsh : (Call.special mech).Short) :
    Special.specialMech (Special.specialMech mech reg).1 (Special.specialMech mech reg).2 =
      Special.specialMech mech reg := by
  cases mech with
  | none =>
    -- the first entry, or no entry and then the same call again
    cases hen : reg.entries with
    | nil => simp [Special.specialMech, hen]
    | cons e es =>
      have he : e ∈ reg.entries := hen ▸ .head _
      simpa only [Special.specialMech, hen, List.head?_cons, Option.map_some] using
        specialMech_special (h.isSpecialOid he)
  | some m =>
    cases hm : Interposer.isSpecialOid m.bytes with
    | true => rw [specialMech_special hm, specialMech_special hm]
    | false =>
      obtain ⟨e, he, -, hs⟩ := h.specialMech_entry hm (hsh hm)
      have hso := (h.specialMech (some m) hsh).1
      rw [hs, specialMech_special (hso.isSpecialOid he), ← hs]

end

/-- **The registry.**  In every reachable registry no regular mechanism is twice, a special form is
    the regular one behind the interposer's identifier, entries stay, and a form that was given once
    is given from then on and leads back. -/
theorem registry_law {reg : Registry} (hreach : Leads .empty reg) : RegistryLaw reg := by
  have hs := (Sound.empty.leads hreach).1
  refine ⟨hs.regular_nodup, hs.bytes, fun _ h => (hs.leads h).2,
    fun _ => hs.idempotent, fun m hm hsh => ?_⟩
  obtain ⟨e, he, hb, hsp⟩ := hs.specialMech_entry hm hsh
  have ha := (hs.specialMech (some m) fun _ => hsh).1
  refine ⟨e.special, hsp, by rw [ha.bytes e he, hb], fun reg' hl => ?_⟩
  obtain ⟨hs', hg⟩ := ha.leads hl
  exact hs'.stable (hg.subset he) hb

def ones (n : Nat) (h : n < 4294967296) : Oid := ⟨0, List.replicate n 1, by rwa [List.length_replicate]⟩

theorem isSpecialOid_ones {n : Nat} {h : n < 4294967296} : isSpecialOid (ones n h).bytes = false := by
  show List.isPrefixOf _ (List.replicate n 1) = false
  cases n with
  | zero => rfl
  | succ n => rfl

theorem registry_law_registered :
    (specialMech (some (ones 9 (by decide))) .empty).2.entries.length = 1 ∧
      RegistryLaw (specialMech (some (ones 9 (by decide))) .empty).2 := by
  refine ⟨rfl, registry_law (.next (a := .special (some (ones 9 (by decide)))) .start (fun _ => ?_) rfl)⟩
  exact Nat.lt_of_lt_of_le (by decide : 20 < 21) (by decide)

theorem registry_truncates :
    isSpecialOid (ones 4294967285 (by decide)).bytes = false ∧
      (specialMech (some (ones 4294967285 (by decide))) .empty).1.map (·.bytes) = some [] := by
  refine ⟨isSpecialOid_ones, ?_⟩
  refine congrArg some (leakOid_bytes_of_wrap ?_)
  rw [List.length_append, show (ones _ _).bytes.length = _ from List.length_replicate]
  rfl

end GssProxy.Interposer.Special
