import GssProxy.Effect.Rounds
import GssProxy.Gss.Status
import GssProxy.Proto.Gssx
import Mathlib.Data.List.Induction

/-!
# Listing mechanisms by name type and by attribute

Two functions of `gpm_indicate_mechs.c` select from the table of mechanisms by tests that may fail.  The
status of the last call stays in `ret_maj` from round to round, and decides what is returned.

* `inquireMechsForName_iff`, `indicateMechsByAttrs_iff`: when they return what they are to select.
-/

namespace GssProxy.Client.IndicateMechs

open Codec Effect Gss Proto

abbrev OidSet : Type := List Bytes

/-- `struct gpm_mech_info`. -/
structure MechInfo where
  mech : Bytes
  nameTypes : OidSet
  mechAttrs : OidSet
  knownMechAttrs : OidSet
  deriving DecidableEq, Repr

structure Ret where
  major : UInt32
  minor : UInt32
  deriving DecidableEq, Repr

def Ret.Failed (ret : Ret) : Prop := ret.major ≠ 0

instance (ret : Ret) : Decidable ret.Failed := inferInstanceAs (Decidable (_ ≠ _))

/-- How the calls of the GSSAPI library end: a test at its site in the program, where it is made at
    most once, and an insertion at the index of its mechanism. -/
structure SetLib (Site : Type) where
  createEmptyOidSet : Ret
  testOidSetMember : Site → Ret
  addOidSetMember : Nat → Ret

def insert (mech : Bytes) (mechs : OidSet) : OidSet :=
  if mech ∈ mechs then mechs else mechs ++ [mech]

theorem mem_insert {oid mech : Bytes} {mechs : OidSet} :
    oid ∈ insert mech mechs ↔ oid ∈ mechs ∨ mech = oid := by
  unfold insert
  split
  · rename_i hm
    constructor
    · exact .inl
    · rintro (h | rfl)
      · exact h
      · exact hm
  · rw [List.mem_append, List.mem_singleton, eq_comm]

structure Listing where
  ret : Ret
  mechs : OidSet
  deriving DecidableEq, Repr

section

variable {Site : Type} (lib : SetLib Site)

def addMech (i : Nat) (mech : Bytes) (s : Listing) : Round Listing :=
  let ret := lib.addOidSetMember i
  if ret.Failed then .leave { s with ret } else .next ⟨ret, insert mech s.mechs⟩

/-- What both functions do around their loop, with the table of `gpmint_init_global_mechs` or its
    error number.  After the loop a failure in `ret` discards the set. -/
def listMechs (globalMechs : Except UInt32 (List MechInfo))
    (round : Nat → MechInfo → Listing → Round Listing) : Except Ret OidSet :=
  match globalMechs with
  | .error errno => .error ⟨GSS_S_FAILURE, errno⟩
  | .ok info =>
    let ret := lib.createEmptyOidSet
    if ret.Failed then .error ret
    else
      let s := (rounds round 0 info ⟨ret, []⟩).state
      if s.ret.Failed then .error s.ret else .ok s.mechs

end

/-! ## By the type of a name -/

def nameRound (lib : SetLib Nat) (nameType : Bytes) (i : Nat) (info : MechInfo) (s : Listing) :
    Round Listing :=
  let ret := lib.testOidSetMember i
  if ret.Failed then .next { s with ret }
  else if nameType ∈ info.nameTypes then addMech lib i info.mech s
  else .next { s with ret }

/-- `gpm_inquire_mechs_for_name`. -/
def gpmInquireMechsForName (lib : SetLib Nat) (globalMechs : Except UInt32 (List MechInfo))
    (inputName : GssxName) : Except Ret OidSet :=
  listMechs lib globalMechs (nameRound lib inputName.nameType.data)

/-! ## By attributes -/

inductive AttrList where
  | desired
  | except
  | critical
  deriving DecidableEq, Repr

/-- The test for an attribute of a list. -/
structure AttrSite where
  mech : Nat
  list : AttrList
  attr : Nat
  deriving DecidableEq, Repr

/-- The attributes of a request. -/
structure AttrSets where
  desired : Option OidSet
  except : Option OidSet
  critical : Option OidSet
  deriving DecidableEq, Repr

section

variable (test : Nat → Ret) (attrs : OidSet)

def presentRound (j : Nat) (attr : Bytes) (_ : Ret) : Round Ret :=
  let ret := test j
  if ret.Failed then .leave ret
  else if attr ∈ attrs then .next ret
  else .leave ret

def exceptRound (j : Nat) (attr : Bytes) (_ : Ret) : Round Ret :=
  let ret := test j
  if ret.Failed then .next ret
  else if attr ∈ attrs then .leave ret
  else .next ret

def passPresent (list : Option OidSet) (ret : Ret) : Bool × Ret :=
  match list with
  | none => (true, ret)
  | some list =>
    match rounds (presentRound test attrs) 0 list ret with
    | .next ret => (true, ret)
    | .leave ret => (false, ret)

def passExcept (list : Option OidSet) (ret : Ret) : Bool × Ret :=
  match list with
  | none => (true, ret)
  | some list =>
    match rounds (exceptRound test attrs) 0 list ret with
    | .next ret => (false, ret)
    | .leave ret => (true, ret)

end

def tests (lib : SetLib AttrSite) (i : Nat) (list : AttrList) (j : Nat) : Ret :=
  lib.testOidSetMember ⟨i, list, j⟩

def attrsRound (lib : SetLib AttrSite) (sets : AttrSets) (i : Nat) (info : MechInfo) (s : Listing) :
    Round Listing :=
  match passPresent (tests lib i .desired) info.mechAttrs sets.desired s.ret with
  | (false, ret) => .next { s with ret }
  | (true, ret) =>
    match passExcept (tests lib i .except) info.mechAttrs sets.except ret with
    | (false, ret) => .next { s with ret }
    | (true, ret) =>
      match passPresent (tests lib i .critical) info.knownMechAttrs sets.critical ret with
      | (false, ret) => .next { s with ret }
      | (true, _) => addMech lib i info.mech s

/-- `gpm_indicate_mechs_by_attrs`. -/
def gpmIndicateMechsByAttrs (lib : SetLib AttrSite) (globalMechs : Except UInt32 (List MechInfo))
    (sets : AttrSets) : Except Ret OidSet :=
  listMechs lib globalMechs (attrsRound lib sets)

/-! ## What a loop selects -/

def Listed (info : List MechInfo) (P : Nat → MechInfo → Prop) (oid : Bytes) : Prop :=
  ∃ i e, info[i]? = some e ∧ P i e ∧ e.mech = oid

/-- The last entry meets `P`. -/
def AtEnd (info : List MechInfo) (P : Nat → MechInfo → Prop) : Prop :=
  ∃ i e, info.length = i + 1 ∧ info[i]? = some e ∧ P i e

/-- The result is the set of the mechanisms that meet `P`. -/
def Returns (result : Except Ret OidSet) (info : List MechInfo) (P : Nat → MechInfo → Prop) : Prop :=
  ∃ mechs, result = .ok mechs ∧ ∀ oid, oid ∈ mechs ↔ Listed info P oid

section

variable {Site : Type} {lib : SetLib Site} {info : List MechInfo}
  {round : Nat → MechInfo → Listing → Round Listing}

/-- No insertion of a mechanism that meets `P` fails. -/
def Inserts (lib : SetLib Site) (info : List MechInfo) (P : Nat → MechInfo → Prop) : Prop :=
  ∀ i e, info[i]? = some e → P i e → ¬ (lib.addOidSetMember i).Failed

/-- The rounds of a loop add the entries that meet `P`; a skipped one leaves a failure if it meets
    `F`, and what was there if it made no test. -/
structure Selects (lib : SetLib Site) (round : Nat → MechInfo → Listing → Round Listing)
    (P F : Nat → MechInfo → Prop) : Prop where
  add : ∀ i e s, P i e → round i e s = addMech lib i e.mech s
  skip : ∀ i e s, ¬ P i e → ∃ ret, round i e s = .next { s with ret } ∧
    ((s.ret.Failed → ∃ k e, F k e) → (ret.Failed ↔ F i e))
  disjoint : ∀ i e, P i e → ¬ F i e

variable {P F : Nat → MechInfo → Prop} {s : Listing}

theorem addMech_next {i : Nat} {mech : Bytes} (h : ¬ (lib.addOidSetMember i).Failed) :
    addMech lib i mech s = .next ⟨lib.addOidSetMember i, insert mech s.mechs⟩ := if_neg h

structure Collected (info : List MechInfo) (P F : Nat → MechInfo → Prop) (j : Nat) (s : Listing) :
    Prop where
  ret : s.ret.Failed ↔ ∃ k e, j = k + 1 ∧ info[k]? = some e ∧ F k e
  mechs : ∀ oid, oid ∈ s.mechs ↔ ∃ k e, k < j ∧ info[k]? = some e ∧ P k e ∧ e.mech = oid

variable {ret : Ret}

theorem Collected.empty (hr : ¬ ret.Failed) : Collected info P F 0 ⟨ret, []⟩ where
  ret := by
    constructor
    · exact fun h => (hr h).elim
    · rintro ⟨k, e, hk, -⟩; omega
  mechs oid := by
    constructor
    · intro h; cases h
    · rintro ⟨k, e, hk, -⟩; omega

variable {j : Nat} {e : MechInfo}

theorem ret_iff_of_last (he : info[j]? = some e) (hr : ret.Failed ↔ F j e) :
    ret.Failed ↔ ∃ k e', j + 1 = k + 1 ∧ info[k]? = some e' ∧ F k e' := by
  constructor
  · intro h; exact ⟨j, e, rfl, he, hr.mp h⟩
  · rintro ⟨k, e', hk, he', hF⟩
    obtain rfl : j = k := by omega
    obtain rfl : e = e' := Option.some.inj (he.symm.trans he')
    exact hr.mpr hF

theorem before_succ_iff (he : info[j]? = some e) {R : Nat → MechInfo → Prop} :
    (∃ k e', k < j + 1 ∧ info[k]? = some e' ∧ R k e') ↔
      (∃ k e', k < j ∧ info[k]? = some e' ∧ R k e') ∨ R j e := by
  constructor
  · rintro ⟨k, e', hk, he', hR⟩
    by_cases hl : k = j
    · subst hl
      obtain rfl : e = e' := Option.some.inj (he.symm.trans he')
      exact .inr hR
    · exact .inl ⟨k, e', by omega, he', hR⟩
  · rintro (⟨k, e', hk, hr⟩ | hR)
    · exact ⟨k, e', by omega, hr⟩
    · exact ⟨j, e, Nat.lt_succ_self j, he, hR⟩

theorem Collected.add (h : Collected info P F j s)
    (he : info[j]? = some e) (hP : P j e) (hF : ¬ F j e) (hr : ¬ ret.Failed) :
    Collected info P F (j + 1) ⟨ret, insert e.mech s.mechs⟩ where
  ret := ret_iff_of_last he (iff_of_false hr hF)
  mechs oid := by
    rw [mem_insert, h.mechs, before_succ_iff he (R := fun k e => P k e ∧ e.mech = oid)]
    exact or_congr_right (and_iff_right hP).symm

theorem Collected.skip (h : Collected info P F j s)
    (he : info[j]? = some e) (hP : ¬ P j e) (hr : ret.Failed ↔ F j e) :
    Collected info P F (j + 1) { s with ret } where
  ret := ret_iff_of_last he hr
  mechs oid := by
    rw [h.mechs, before_succ_iff he (R := fun k e => P k e ∧ e.mech = oid)]
    exact (or_iff_left fun hm => hP hm.1).symm

theorem Selects.loop (h : Selects lib round P F) (hi : Inserts lib info P) (hre : ¬ ret.Failed) :
    ∃ s, rounds round 0 info ⟨ret, []⟩ = .next s ∧ Collected info P F info.length s := by
  rw [← Nat.zero_add info.length]
  refine rounds_invariant (Collected info P F) info 0 _ (.empty hre) ?_
  intro j e s he hs
  rw [Nat.zero_add] at hs ⊢
  by_cases hP : P j e
  · have ha := hi j e he hP
    exact ⟨_, (h.add j e s hP).trans (addMech_next ha), hs.add he hP (h.disjoint j e hP) ha⟩
  have hc : s.ret.Failed → ∃ k e, F k e := by
    intro hf
    obtain ⟨k, e', -, -, hF⟩ := hs.ret.mp hf
    exact ⟨k, e', hF⟩
  obtain ⟨ret, hr, hf⟩ := h.skip j e s hP
  exact ⟨_, hr, hs.skip he hP (hf hc)⟩

theorem Selects.left (h : Selects lib round P F) (hi : ¬ Inserts lib info P) (s : Listing) :
    (rounds round 0 info s).state.ret.Failed := by
  have hl : ∃ s', rounds round 0 info s = .leave s' ∧ s'.ret.Failed := by
    refine rounds_left (fun s => s.ret.Failed) info 0 s ?_ ?_
    · -- only an insertion leaves the loop
      intro j e s s' _ hr
      rw [Nat.zero_add] at hr
      by_cases hP : P j e
      · rw [h.add j e s hP] at hr
        by_cases ha : (lib.addOidSetMember j).Failed
        · rw [addMech, if_pos ha] at hr
          cases hr
          exact ha
        · rw [addMech_next ha] at hr; cases hr
      · obtain ⟨ret, hs, -⟩ := h.skip j e s hP
        rw [hs] at hr; cases hr
    · unfold Inserts at hi
      push Not at hi
      obtain ⟨j, e, he, hP, ha⟩ := hi
      refine ⟨j, e, he, fun s => ?_⟩
      rw [Nat.zero_add, h.add j e s hP]
      exact ⟨_, if_pos ha⟩
  obtain ⟨s', hro, hf⟩ := hl
  rw [hro]
  exact hf

theorem Selects.returns_iff (h : Selects lib round P F) (info : List MechInfo)
    (Q : Nat → MechInfo → Prop) :
    Returns (listMechs lib (.ok info) round) info Q ↔
      ¬ lib.createEmptyOidSet.Failed ∧ Inserts lib info P ∧ ¬ AtEnd info F ∧
        ∀ oid, Listed info P oid ↔ Listed info Q oid := by
  have hli : listMechs lib (.ok info) round =
      if lib.createEmptyOidSet.Failed then .error lib.createEmptyOidSet
      else
        let s := (rounds round 0 info ⟨lib.createEmptyOidSet, []⟩).state
        if s.ret.Failed then .error s.ret else .ok s.mechs := rfl
  rw [hli]
  by_cases hc : lib.createEmptyOidSet.Failed
  · rw [if_pos hc]
    refine iff_of_false ?_ (fun hco => hco.1 hc)
    rintro ⟨mechs, ⟨⟩, -⟩
  rw [if_neg hc]
  by_cases hi : Inserts lib info P
  · obtain ⟨s, hlo, hs⟩ := h.loop hi hc
    have hen : s.ret.Failed ↔ AtEnd info F := hs.ret
    have hm : ∀ oid, oid ∈ s.mechs ↔ Listed info P oid := by
      intro oid
      rw [hs.mechs]
      constructor
      · rintro ⟨k, e, -, hr⟩; exact ⟨k, e, hr⟩
      · rintro ⟨k, e, he, hr⟩
        exact ⟨k, e, (List.getElem?_eq_some_iff.mp he).1, he, hr⟩
    simp only [hlo, Round.state]
    by_cases hf : s.ret.Failed
    · rw [if_pos hf]
      refine iff_of_false ?_ (fun hco => hco.2.2.1 (hen.mp hf))
      rintro ⟨mechs, ⟨⟩, -⟩
    rw [if_neg hf]
    constructor
    · rintro ⟨mechs, ⟨⟩, hl⟩
      exact ⟨hc, hi, fun hF => hf (hen.mpr hF), fun oid => (hm oid).symm.trans (hl oid)⟩
    · rintro ⟨-, -, -, hl⟩
      exact ⟨s.mechs, rfl, fun oid => (hm oid).trans (hl oid)⟩
  · have hf := h.left hi ⟨lib.createEmptyOidSet, []⟩
    simp only [if_pos hf]
    refine iff_of_false ?_ (fun hco => hi hco.2.1)
    rintro ⟨mechs, ⟨⟩, -⟩

end

/-! ## Mechanisms for a name -/

def HasNameType (lib : SetLib Nat) (nameType : Bytes) (i : Nat) (e : MechInfo) : Prop :=
  ¬ (lib.testOidSetMember i).Failed ∧ nameType ∈ e.nameTypes

theorem nameRound_selects (lib : SetLib Nat) (nameType : Bytes) :
    Selects lib (nameRound lib nameType) (HasNameType lib nameType)
      (fun i _ => (lib.testOidSetMember i).Failed) where
  add i e s hP := (if_neg hP.1).trans (if_pos hP.2)
  skip i e s hP := by
    refine ⟨lib.testOidSetMember i, ?_, fun _ => Iff.rfl⟩
    by_cases hf : (lib.testOidSetMember i).Failed
    · exact if_pos hf
    · have hm : nameType ∉ e.nameTypes := fun h => hP ⟨hf, h⟩
      exact (if_neg hf).trans (if_neg hm)
  disjoint _ _ hP := hP.1

/-- **Mechanisms for a name.**  As long as the set can be made, the function returns the mechanisms that
    have the type of the name and whose test does not fail if and only if the test of the last
    mechanism does not fail. -/
theorem inquireMechsForName_iff (lib : SetLib Nat) (info : List MechInfo) (inputName : GssxName) :
    Returns (gpmInquireMechsForName lib (.ok info) inputName) info
        (HasNameType lib inputName.nameType.data) ↔
      ¬ lib.createEmptyOidSet.Failed ∧ Inserts lib info (HasNameType lib inputName.nameType.data) ∧
        ¬ AtEnd info (fun i _ => (lib.testOidSetMember i).Failed) := by
  have hs := nameRound_selects lib inputName.nameType.data
  refine (hs.returns_iff info (HasNameType lib inputName.nameType.data)).trans ?_
  constructor
  · rintro ⟨hc, hi, he, -⟩; exact ⟨hc, hi, he⟩
  · rintro ⟨hc, hi, he⟩; exact ⟨hc, hi, he, fun _ => Iff.rfl⟩

def krb5AndBare : List MechInfo :=
  [⟨[42], [NT_USER_NAME_OID], [], []⟩, ⟨[43], [], [], []⟩]

def bareFails : SetLib Nat :=
  ⟨⟨0, 0⟩, fun i => if i = 1 then ⟨GSS_S_CALL_INACCESSIBLE_READ, 0⟩ else ⟨0, 0⟩, fun _ => ⟨0, 0⟩⟩

theorem last_mech_fails :
    ¬ Returns (gpmInquireMechsForName bareFails (.ok krb5AndBare) default) krb5AndBare
      (HasNameType bareFails (default : GssxName).nameType.data) := by
  rintro ⟨mechs, ⟨⟩, -⟩

/-! ## Attributes of a mechanism -/

section

variable (test : Nat → Ret) (attrs : OidSet)

def AllPresent (list : OidSet) : Prop :=
  ∀ j attr, list[j]? = some attr → ¬ (test j).Failed ∧ attr ∈ attrs

def SomePresent (list : OidSet) : Prop :=
  ∃ j attr, list[j]? = some attr ∧ ¬ (test j).Failed ∧ attr ∈ attrs

def StopsAtFailure (list : OidSet) : Prop :=
  ∃ j, j < list.length ∧ (test j).Failed ∧ AllPresent test attrs (list.take j)

def LastFails (list : OidSet) : Prop :=
  ∃ j, list.length = j + 1 ∧ (test j).Failed

variable {test attrs} {list : OidSet} {attr : Bytes}

theorem concat_getElem? {a : Bytes} :
    (list ++ [attr])[j]? = some a ↔ list[j]? = some a ∨ j = list.length ∧ attr = a := by
  rw [List.getElem?_append, List.getElem?_singleton]
  split
  · simp; omega
  · rw [List.getElem?_eq_none (by omega)]
    simp; omega

theorem allPresent_concat :
    AllPresent test attrs (list ++ [attr]) ↔
      AllPresent test attrs list ∧ ¬ (test list.length).Failed ∧ attr ∈ attrs := by
  simp only [AllPresent, concat_getElem?]
  constructor
  · exact fun h => ⟨fun j a ha => h j a (.inl ha), h list.length attr (.inr ⟨rfl, rfl⟩)⟩
  · rintro ⟨hli, hl⟩ j a (ha | ⟨rfl, rfl⟩)
    · exact hli j a ha
    · exact hl

theorem somePresent_concat :
    SomePresent test attrs (list ++ [attr]) ↔
      SomePresent test attrs list ∨ (¬ (test list.length).Failed ∧ attr ∈ attrs) := by
  simp only [SomePresent, concat_getElem?]
  constructor
  · rintro ⟨j, a, ha | ⟨rfl, rfl⟩, hp⟩
    · exact .inl ⟨j, a, ha, hp⟩
    · exact .inr hp
  · rintro (⟨j, a, ha, hp⟩ | hl)
    · exact ⟨j, a, .inl ha, hp⟩
    · exact ⟨list.length, attr, .inr ⟨rfl, rfl⟩, hl⟩

theorem stopsAtFailure_concat :
    StopsAtFailure test attrs (list ++ [attr]) ↔
      StopsAtFailure test attrs list ∨ (AllPresent test attrs list ∧ (test list.length).Failed) := by
  constructor
  · rintro ⟨j, hj, hf, hb⟩
    rw [List.length_append, List.length_singleton] at hj
    rw [List.take_append_of_le_length (by omega)] at hb
    by_cases hl : j < list.length
    · exact .inl ⟨j, hl, hf, hb⟩
    · obtain rfl : j = list.length := by omega
      rw [List.take_length] at hb
      exact .inr ⟨hb, hf⟩
  · rintro (⟨j, hj, hf, hb⟩ | ⟨hb, hf⟩)
    · refine ⟨j, by simp; omega, hf, ?_⟩
      rwa [List.take_append_of_le_length (by omega)]
    · refine ⟨list.length, by simp, hf, ?_⟩
      rwa [List.take_left]

theorem lastFails_concat : LastFails test (list ++ [attr]) ↔ (test list.length).Failed := by
  constructor
  · rintro ⟨j, hj, hf⟩
    rw [List.length_append, List.length_singleton] at hj
    obtain rfl : j = list.length := by omega
    exact hf
  · intro h; exact ⟨list.length, by simp, h⟩

theorem StopsAtFailure.not_allPresent (h : StopsAtFailure test attrs list) :
    ¬ AllPresent test attrs list := by
  obtain ⟨j, hj, hf, -⟩ := h
  intro ha
  exact (ha j list[j] (List.getElem?_eq_getElem hj)).1 hf

theorem rounds_presentRound (list : OidSet) (ret : Ret) :
    (∃ r, rounds (presentRound test attrs) 0 list ret = .next r ∧ AllPresent test attrs list ∧
      (r.Failed ↔ list = [] ∧ ret.Failed)) ∨
    (∃ r, rounds (presentRound test attrs) 0 list ret = .leave r ∧ ¬ AllPresent test attrs list ∧
      (r.Failed ↔ StopsAtFailure test attrs list)) := by
  induction list using List.reverseRecOn with
  | nil => exact .inl ⟨ret, rfl, nofun, by simp⟩
  | append_singleton list attr ih =>
    rw [rounds_concat, allPresent_concat, stopsAtFailure_concat, Nat.zero_add]
    rcases ih with ⟨r, hl, hal, -⟩ | ⟨r, hl, hal, hr⟩
    · -- the loop has come to this attribute
      simp only [hl, hal, true_and, presentRound]
      by_cases hf : (test list.length).Failed
      · rw [if_pos hf]
        exact .inr ⟨_, rfl, fun h => h.1 hf, iff_of_true hf (.inr hf)⟩
      rw [if_neg hf]
      have hs : ¬ (StopsAtFailure test attrs list ∨ (test list.length).Failed) := by
        rintro (h | h)
        · exact h.not_allPresent hal
        · exact hf h
      by_cases ha : attr ∈ attrs
      · rw [if_pos ha]
        exact .inl ⟨_, rfl, ⟨hf, ha⟩, iff_of_false hf (by simp)⟩
      · rw [if_neg ha]
        exact .inr ⟨_, rfl, fun h => ha h.2, iff_of_false hf hs⟩
    · simp only [hl, hal, false_and, or_false]; exact .inr ⟨r, rfl, not_false, hr⟩

theorem rounds_exceptRound (list : OidSet) (ret : Ret) :
    (∃ r, rounds (exceptRound test attrs) 0 list ret = .next r ∧ ¬ SomePresent test attrs list ∧
      (r.Failed ↔ LastFails test list ∨ list = [] ∧ ret.Failed)) ∨
    (∃ r, rounds (exceptRound test attrs) 0 list ret = .leave r ∧ SomePresent test attrs list ∧
      ¬ r.Failed) := by
  induction list using List.reverseRecOn with
  | nil =>
    refine .inl ⟨ret, rfl, ?_, ?_⟩
    · rintro ⟨j, a, ⟨⟩, -⟩
    · have hla : ¬ LastFails test [] := by rintro ⟨j, hj, -⟩; cases hj
      simp [hla]
  | append_singleton list attr ih =>
    rw [rounds_concat, somePresent_concat, lastFails_concat, Nat.zero_add]
    rcases ih with ⟨r, hl, hn, -⟩ | ⟨r, hl, hs, hr⟩
    · simp only [hl, hn, false_or, exceptRound]
      by_cases hf : (test list.length).Failed
      · rw [if_pos hf]
        exact .inl ⟨_, rfl, fun h => h.1 hf, iff_of_true hf (.inl hf)⟩
      rw [if_neg hf]
      by_cases ha : attr ∈ attrs
      · rw [if_pos ha]; exact .inr ⟨_, rfl, ⟨hf, ha⟩, hf⟩
      · rw [if_neg ha]
        exact .inl ⟨_, rfl, fun h => ha h.2, iff_of_false hf (by simp [hf])⟩
    · simp only [hl, hs, true_or]; exact .inr ⟨r, rfl, trivial, hr⟩

def Untested (list : Option OidSet) : Prop := ∀ l ∈ list, l = []

theorem Untested.allPresent {list : Option OidSet} (h : Untested list) :
    ∀ l ∈ list, AllPresent test attrs l := by
  intro l hl
  rw [h l hl]
  exact nofun

theorem Untested.not_somePresent {list : Option OidSet} (h : Untested list) (hs : list ≠ none) : ¬ ∀ l ∈ list, SomePresent test attrs l := by
  intro hp
  obtain ⟨l, hl⟩ := Option.ne_none_iff_exists'.mp hs
  obtain ⟨j, a, ha, -⟩ := hp l hl
  rw [h l hl] at ha
  cases ha

variable (test attrs)

theorem passPresent_cases (list : Option OidSet) (ret : Ret) :
    (∃ r, passPresent test attrs list ret = (true, r) ∧ (∀ l ∈ list, AllPresent test attrs l) ∧
      (r.Failed ↔ Untested list ∧ ret.Failed)) ∨
    (∃ r, passPresent test attrs list ret = (false, r) ∧ (¬ ∀ l ∈ list, AllPresent test attrs l) ∧
      (r.Failed ↔ ∃ l ∈ list, StopsAtFailure test attrs l)) := by
  cases list with
  | none => exact .inl ⟨ret, rfl, nofun, by simp [Untested]⟩
  | some list =>
    simp only [passPresent, Untested, Option.mem_some_iff, forall_eq', exists_eq_left']
    rcases rounds_presentRound list ret with ⟨r, hl, ha, hr⟩ | ⟨r, hl, ha, hr⟩
    · exact .inl ⟨r, by rw [hl], ha, hr⟩
    · exact .inr ⟨r, by rw [hl], ha, hr⟩

theorem passExcept_cases (list : Option OidSet) (ret : Ret) :
    (∃ r, passExcept test attrs list ret = (true, r) ∧ (∀ l ∈ list, SomePresent test attrs l) ∧
      (r.Failed → list = none ∧ ret.Failed)) ∨
    (∃ r, passExcept test attrs list ret = (false, r) ∧ (¬ ∀ l ∈ list, SomePresent test attrs l) ∧
      (r.Failed ↔ (∃ l ∈ list, LastFails test l) ∨ Untested list ∧ ret.Failed)) := by
  cases list with
  | none => exact .inl ⟨ret, rfl, nofun, fun h => ⟨rfl, h⟩⟩
  | some list =>
    simp only [passExcept, Untested, Option.mem_some_iff, forall_eq', exists_eq_left']
    rcases rounds_exceptRound list ret with ⟨r, hl, hn, hr⟩ | ⟨r, hl, hs, hr⟩
    · exact .inr ⟨r, by rw [hl], hn, hr⟩
    · exact .inl ⟨r, by rw [hl], hs, fun h => (hr h).elim⟩

end

/-! ## Mechanisms with attributes -/

section

variable (lib : SetLib AttrSite) (sets : AttrSets) (i : Nat) (e : MechInfo)

structure Qualifies : Prop where
  desired : ∀ l ∈ sets.desired, AllPresent (tests lib i .desired) e.mechAttrs l
  critical : ∀ l ∈ sets.critical, AllPresent (tests lib i .critical) e.knownMechAttrs l

def Excepted : Prop := ∃ l ∈ sets.except, SomePresent (tests lib i .except) e.mechAttrs l

/-- What is to be selected.  A test that fails counts against the mechanism in the desired and
    critical attributes, and for nothing in the excepted ones. -/
def Wanted : Prop := Qualifies lib sets i e ∧ ¬ Excepted lib sets i e

/-- What the C function does select. -/
def Selected : Prop :=
  Qualifies lib sets i e ∧ ∀ l ∈ sets.except, SomePresent (tests lib i .except) e.mechAttrs l

/-- The mechanism is skipped at a test that fails. -/
inductive SkippedFailing : Prop where
  | desired {l} (hl : l ∈ sets.desired)
      (hstop : StopsAtFailure (tests lib i .desired) e.mechAttrs l)
  | except {l} (hdesired : ∀ l ∈ sets.desired, AllPresent (tests lib i .desired) e.mechAttrs l)
      (hl : l ∈ sets.except) (hnone : ¬ SomePresent (tests lib i .except) e.mechAttrs l)
      (hlast : LastFails (tests lib i .except) l)
  | critical {l} (hdesired : ∀ l ∈ sets.desired, AllPresent (tests lib i .desired) e.mechAttrs l)
      (hexcept : ∀ l ∈ sets.except, SomePresent (tests lib i .except) e.mechAttrs l)
      (hl : l ∈ sets.critical)
      (hstop : StopsAtFailure (tests lib i .critical) e.knownMechAttrs l)

variable {lib sets i e}

theorem Selected.not_skippedFailing (h : Selected lib sets i e) : ¬ SkippedFailing lib sets i e := by
  rintro (⟨hl, hs⟩ | ⟨-, hl, hn, -⟩ | ⟨-, -, hl, hs⟩)
  · exact hs.not_allPresent (h.1.desired _ hl)
  · exact hn (h.2 _ hl)
  · exact hs.not_allPresent (h.1.critical _ hl)

theorem not_skippedFailing_of_untested (hd : Untested sets.desired)
    (he : Untested sets.except) (hs : sets.except ≠ none) : ¬ SkippedFailing lib sets i e := by
  rintro (⟨hl, j, hj, -⟩ | ⟨-, hl, -, j, hj, -⟩ | ⟨-, hp, -, -⟩)
  · rw [hd _ hl] at hj; cases hj
  · rw [he _ hl] at hj; cases hj
  · exact he.not_somePresent hs hp

/-! The test at which a mechanism is skipped is the first that it does not pass. -/

theorem skippedFailing_desired_iff
    (hd : ¬ ∀ l ∈ sets.desired, AllPresent (tests lib i .desired) e.mechAttrs l) :
    SkippedFailing lib sets i e ↔
      ∃ l ∈ sets.desired, StopsAtFailure (tests lib i .desired) e.mechAttrs l := by
  constructor
  · rintro (⟨hl, hs⟩ | ⟨ha, -⟩ | ⟨ha, -⟩)
    · exact ⟨_, hl, hs⟩
    · exact (hd ha).elim
    · exact (hd ha).elim
  · rintro ⟨l, hl, hs⟩; exact .desired hl hs

theorem skippedFailing_except_iff
    (hd : ∀ l ∈ sets.desired, AllPresent (tests lib i .desired) e.mechAttrs l)
    (he : ¬ ∀ l ∈ sets.except, SomePresent (tests lib i .except) e.mechAttrs l) :
    SkippedFailing lib sets i e ↔ ∃ l ∈ sets.except, LastFails (tests lib i .except) l := by
  constructor
  · rintro (⟨hl, hs⟩ | ⟨-, hl, -, hla⟩ | ⟨-, hp, -, -⟩)
    · exact (hs.not_allPresent (hd _ hl)).elim
    · exact ⟨_, hl, hla⟩
    · exact (he hp).elim
  · rintro ⟨l, hl, hla⟩
    refine .except hd hl (fun hp => he ?_) hla
    intro l' hl'
    rwa [Option.mem_unique hl' hl]

theorem skippedFailing_critical_iff
    (hd : ∀ l ∈ sets.desired, AllPresent (tests lib i .desired) e.mechAttrs l)
    (he : ∀ l ∈ sets.except, SomePresent (tests lib i .except) e.mechAttrs l) :
    SkippedFailing lib sets i e ↔
      ∃ l ∈ sets.critical, StopsAtFailure (tests lib i .critical) e.knownMechAttrs l := by
  constructor
  · rintro (⟨hl, hs⟩ | ⟨-, hl, hn, -⟩ | ⟨-, -, hl, hs⟩)
    · exact (hs.not_allPresent (hd _ hl)).elim
    · exact (hn (he _ hl)).elim
    · exact ⟨_, hl, hs⟩
  · rintro ⟨l, hl, hs⟩; exact .critical hd he hl hs

variable (lib sets i e)

theorem attrsRound_cases (s : Listing) :
    (Selected lib sets i e ∧ attrsRound lib sets i e s = addMech lib i e.mech s) ∨
    (¬ Selected lib sets i e ∧ ∃ ret, attrsRound lib sets i e s = .next { s with ret } ∧
      (ret.Failed ↔ SkippedFailing lib sets i e ∨
        (Untested sets.desired ∧ Untested sets.except ∧ sets.except ≠ none ∧ s.ret.Failed))) := by
  unfold attrsRound
  rcases passPresent_cases (tests lib i .desired) e.mechAttrs sets.desired s.ret with
    ⟨r₁, hp, hd, hr₁⟩ | ⟨r₁, hp, hd, hr₁⟩
  · simp only [hp]
    rcases passExcept_cases (tests lib i .except) e.mechAttrs sets.except r₁ with
      ⟨r₂, hpa, he, hr₂⟩ | ⟨r₂, hpa, he, hr₂⟩
    · simp only [hpa]
      rcases passPresent_cases (tests lib i .critical) e.knownMechAttrs sets.critical r₂ with
        ⟨r₃, hps, hc, -⟩ | ⟨r₃, hps, hc, hr₃⟩
      · exact .inl ⟨⟨⟨hd, hc⟩, he⟩, by simp [hps]⟩
      -- a critical attribute is not known
      refine .inr ⟨fun h => hc h.1.critical, r₃, by simp [hps], ?_⟩
      rw [hr₃, skippedFailing_critical_iff hd he, or_iff_left]
      rintro ⟨-, hu, hs, -⟩
      exact hu.not_somePresent hs he
    · -- no excepted attribute is there
      refine .inr ⟨fun h => he h.2, r₂, by simp [hpa], ?_⟩
      have hs : sets.except ≠ none := by
        intro hn
        rw [hn] at he
        exact he nofun
      rw [hr₂, hr₁, skippedFailing_except_iff hd he, and_iff_right hs, and_left_comm]
  · -- a desired attribute is not there
    refine .inr ⟨fun h => hd h.1.desired, r₁, by simp [hp], ?_⟩
    rw [hr₁, skippedFailing_desired_iff hd, or_iff_left]
    rintro ⟨hu, -⟩
    exact hd hu.allPresent

theorem attrsRound_selects :
    Selects lib (attrsRound lib sets) (Selected lib sets) (SkippedFailing lib sets) where
  add i e s hP := by
    rcases attrsRound_cases lib sets i e s with ⟨-, ha⟩ | ⟨hn, -⟩
    · exact ha
    · exact (hn hP).elim
  skip i e s hP := by
    rcases attrsRound_cases lib sets i e s with ⟨hse, -⟩ | ⟨-, ret, hr, hre⟩
    · exact (hP hse).elim
    refine ⟨ret, hr, fun hc => hre.trans (or_iff_left ?_)⟩
    rintro ⟨hd, he, hs, hf⟩
    obtain ⟨k, e', hF⟩ := hc hf
    exact not_skippedFailing_of_untested hd he hs hF
  disjoint _ _ hP := hP.not_skippedFailing

end

/-- The excepted attributes change nothing: there are none, or every mechanism that qualifies is in
    the table both with and without one. -/
def ExceptIdle (lib : SetLib AttrSite) (sets : AttrSets) (info : List MechInfo) : Prop :=
  sets.except = none ∨
    ∀ oid, Listed info (fun i e => Qualifies lib sets i e ∧ Excepted lib sets i e) oid ↔
      Listed info (fun i e => Qualifies lib sets i e ∧ ¬ Excepted lib sets i e) oid

theorem exceptIdle_iff (lib : SetLib AttrSite) (sets : AttrSets) (info : List MechInfo) :
    (∀ oid, Listed info (Selected lib sets) oid ↔ Listed info (Wanted lib sets) oid) ↔
      ExceptIdle lib sets info := by
  unfold ExceptIdle
  cases he : sets.except with
  | none =>
    have hsa : Selected lib sets = Wanted lib sets := by
      funext i e
      simp [Selected, Wanted, Excepted, he]
    simp [hsa]
  | some l =>
    have hs : Selected lib sets = fun i e => Qualifies lib sets i e ∧ Excepted lib sets i e := by
      funext i e
      simp [Selected, Excepted, he]
    rw [hs]
    exact (or_iff_right (by simp)).symm

/-- **Mechanisms with attributes.**  As long as the set can be made, the function returns what it is to
    select if and only if the last mechanism is not skipped at a test that fails, and the excepted
    attributes change nothing. -/
theorem indicateMechsByAttrs_iff (lib : SetLib AttrSite) (info : List MechInfo) (sets : AttrSets) :
    Returns (gpmIndicateMechsByAttrs lib (.ok info) sets) info (Wanted lib sets) ↔
      ¬ lib.createEmptyOidSet.Failed ∧ Inserts lib info (Selected lib sets) ∧
        ¬ AtEnd info (SkippedFailing lib sets) ∧ ExceptIdle lib sets info := by
  rw [← exceptIdle_iff]
  exact (attrsRound_selects lib sets).returns_iff info (Wanted lib sets)

def working : SetLib AttrSite := ⟨⟨0, 0⟩, fun _ => ⟨0, 0⟩, fun _ => ⟨0, 0⟩⟩

def noAttrs : SetLib AttrSite :=
  ⟨⟨0, 0⟩, fun _ => ⟨GSS_S_CALL_INACCESSIBLE_READ, 0⟩, fun _ => ⟨0, 0⟩⟩

/-- A mechanism with the attribute 1 is not listed for a caller that wants none with 2; one without
    attributes makes the call fail for a caller that wants those with 1. -/
theorem excepted_absent :
    let info : List MechInfo := [⟨[42], [], [[1]], [[1]]⟩]
    let sets : AttrSets := ⟨none, some [[2]], none⟩
    gpmIndicateMechsByAttrs working (.ok info) sets = .ok [] ∧
      ¬ Returns (gpmIndicateMechsByAttrs working (.ok info) sets) info (Wanted working sets) ∧
    gpmIndicateMechsByAttrs noAttrs (.ok [⟨[42], [], [], []⟩]) ⟨some [[1]], none, none⟩ =
      .error ⟨GSS_S_CALL_INACCESSIBLE_READ, 0⟩ := by
  intro info sets
  have hr : gpmIndicateMechsByAttrs working (.ok info) sets = .ok [] := by decide
  refine ⟨hr, ?_, by decide⟩
  rintro ⟨mechs, ⟨⟩, hl⟩
  have hw : Listed info (Wanted working sets) [42] := by
    refine ⟨0, _, rfl, ⟨⟨nofun, nofun⟩, ?_⟩, rfl⟩
    rintro ⟨l, ⟨⟩, j, attr, ha, -, hm⟩
    have ha : attr ∈ [[2]] := List.mem_of_getElem? ha
    rw [List.mem_singleton.mp ha] at hm
    exact absurd hm (by decide)
  cases (hl [42]).mpr hw

end GssProxy.Client.IndicateMechs
