import GssProxy.Client.IndicateMechs
import GssProxy.Proto.Proc
import Mathlib.Data.List.Dedup
import Mathlib.Order.Lattice

/-!
# What a remote credential tells of itself

`gpm_inquire_cred` and `inquire_cred` fold the elements of a credential to one lifetime, one usage and
the set of mechanisms.  Lifetimes are cut from 64 bits to 32, in C after the comparison, in Rust before.

* `inquireCred_iff`: when the two agree.
-/

namespace GssProxy.Client.Inquire

open Codec Effect Gss Proto Client.IndicateMechs

def GSSX_C_INITIATE : Int32 := 1
def GSSX_C_ACCEPT : Int32 := 2
def GSSX_C_BOTH : Int32 := 3

def GSS_C_INDEFINITE : UInt32 := 4294967295

/-! ## One element -/

def gpmShorten (time : UInt64) (life : UInt32) : UInt32 :=
  if time ≠ 0 ∧ time < life.toUInt64 then time.toUInt32 else life

def shorten (time : UInt64) (life : UInt32) : UInt32 :=
  if time ≠ 0 ∧ time.toUInt32 < life then time.toUInt32 else life

def elementLife (shorten : UInt64 → UInt32 → UInt32) (e : GssxCredElement) (life : UInt32) :
    UInt32 :=
  if e.credUsage = GSSX_C_INITIATE then shorten e.initiatorTimeRec life
  else if e.credUsage = GSSX_C_ACCEPT then shorten e.acceptorTimeRec life
  else if e.credUsage = GSSX_C_BOTH then
    shorten e.acceptorTimeRec (shorten e.initiatorTimeRec life)
  else life

def elementUsage (e : GssxCredElement) (cu : Int32) : Int32 :=
  if e.credUsage = GSSX_C_INITIATE then
    if cu = GSS_C_BOTH then cu else if cu = GSS_C_ACCEPT then GSS_C_BOTH else GSS_C_INITIATE
  else if e.credUsage = GSSX_C_ACCEPT then
    if cu = GSS_C_BOTH then cu else if cu = GSS_C_INITIATE then GSS_C_BOTH else GSS_C_ACCEPT
  else if e.credUsage = GSSX_C_BOTH then GSS_C_BOTH
  else cu

/-! ## The inquiry in C -/

def gpCopyGssxName (name : GssxName) : GssxName :=
  { name with nameAttributes := [], extensions := [] }

/-- How the calls of an inquiry end, in the library with a minor of 0 where they complete. -/
structure InquireLib extends SetLib Empty where
  copyName : UInt32
  minor_of_complete : ∀ i, ¬ (addOidSetMember i).Failed → (addOidSetMember i).minor = 0

structure Inquired where
  minor : UInt32
  name : Option GssxName
  lifetime : UInt32
  usage : Int32
  mechs : OidSet
  deriving DecidableEq

structure Inquiry where
  life : UInt32
  usage : Int32
  ret : Ret
  mechs : OidSet

def inquireRound (lib : InquireLib) (i : Nat) (e : GssxCredElement) (s : Inquiry) : Round Inquiry :=
  let s := { s with life := elementLife gpmShorten e s.life, usage := elementUsage e s.usage }
  let ret := lib.addOidSetMember i
  if ret.Failed then .leave { s with ret }
  else .next { s with ret, mechs := IndicateMechs.insert e.mech.data s.mechs }

def gpmInquireCred (lib : InquireLib) (cred : Option GssxCred) : Except Status Inquired :=
  match cred with
  | none => .error ⟨GSS_S_CALL_INACCESSIBLE_READ, some 0⟩
  | some cred =>
    if cred.elements = [] then .error ⟨GSS_S_FAILURE, some 0⟩
    else if lib.copyName ≠ 0 then .error ⟨GSS_S_FAILURE, none⟩
    else
      let ret := lib.createEmptyOidSet
      if ret.Failed then .error ⟨ret.major, some ret.minor⟩
      else
        let s := (rounds (inquireRound lib) 0 cred.elements ⟨GSS_C_INDEFINITE, -1, ret, []⟩).state
        if s.ret.Failed then .error ⟨s.ret.major, some s.ret.minor⟩
        else .ok ⟨s.ret.minor, some (gpCopyGssxName cred.desiredName), s.life, s.usage, s.mechs⟩

structure InquireCred where
  major : UInt32
  minor : UInt32
  name : Option GssxName
  lifetime : UInt32
  usage : Int32
  mechs : List Bytes
  deriving DecidableEq

def inquireCred (cred : GssxCred) : InquireCred :=
  if cred.elements = [] then ⟨GSS_S_FAILURE, 0, none, 0, 0, []⟩
  else
    let s := cred.elements.foldl (fun s e =>
      (elementLife shorten e s.1, elementUsage e s.2.1, s.2.2 ++ [e.mech.data]))
      (GSS_C_INDEFINITE, -1, [])
    ⟨GSS_S_COMPLETE, 0, some cred.desiredName, s.1, s.2.1, s.2.2⟩

def InquireCred.result (r : InquireCred) : Except Status Inquired :=
  if r.major = GSS_S_COMPLETE then .ok ⟨r.minor, r.name, r.lifetime, r.usage, r.mechs⟩
  else .error ⟨r.major, some r.minor⟩

/-! ## Lifetimes -/

def relevantTimes (e : GssxCredElement) : List UInt64 :=
  if e.credUsage = GSSX_C_INITIATE then [e.initiatorTimeRec]
  else if e.credUsage = GSSX_C_ACCEPT then [e.acceptorTimeRec]
  else if e.credUsage = GSSX_C_BOTH then [e.initiatorTimeRec, e.acceptorTimeRec]
  else []

def leastLifetime (times : List UInt64) : Nat :=
  (times.filter (· ≠ 0)).foldr (fun t least => min t.toNat least) GSS_C_INDEFINITE.toNat

def ShortensBy (read : UInt64 → Nat) (shorten : UInt64 → UInt32 → UInt32) : Prop :=
  ∀ time life, (shorten time life).toNat =
    if time = 0 then life.toNat else min (read time) life.toNat

theorem gpmShorten_shortensBy : ShortensBy UInt64.toNat gpmShorten := by
  intro time life
  have hl : life.toNat < 4294967296 := life.toNat_lt
  unfold gpmShorten
  by_cases hz : time = 0
  · rw [if_neg (fun h => h.1 hz), if_pos hz]
  split
  · rename_i h
    have hlt : time.toNat < life.toNat := by simpa [UInt64.lt_iff_toNat_lt] using h.2
    rw [UInt64.toNat_toUInt32]; omega
  rename_i h
  have hge : ¬ time.toNat < life.toNat := fun hlt =>
    h ⟨hz, by simpa [UInt64.lt_iff_toNat_lt] using hlt⟩
  omega

def cut (time : UInt64) : Nat := time.toUInt32.toNat

theorem cut_eq (time : UInt64) : cut time = time.toNat % 4294967296 := UInt64.toNat_toUInt32 time

theorem shorten_shortensBy : ShortensBy cut shorten := by
  intro time life
  unfold shorten
  by_cases hz : time = 0
  · rw [if_neg (fun h => h.1 hz), if_pos hz]
  have hlt : time.toUInt32 < life ↔ cut time < life.toNat := UInt32.lt_iff_toNat_lt
  split
  · rename_i h
    have := hlt.mp h.2
    show cut time = _
    omega
  · rename_i h
    have : ¬ cut time < life.toNat := fun hl => h ⟨hz, hlt.mpr hl⟩
    omega

section

variable {read : UInt64 → Nat} {shorten : UInt64 → UInt32 → UInt32}

theorem elementLife_eq (e : GssxCredElement) (life : UInt32) :
    elementLife shorten e life = (relevantTimes e).foldl (fun l t => shorten t l) life := by
  unfold elementLife relevantTimes
  split
  · rfl
  split
  · rfl
  split <;> rfl

theorem le_foldl_shorten_iff (hs : ShortensBy read shorten) (times : List UInt64)
    (life : UInt32) (a : Nat) :
    a ≤ (times.foldl (fun l t => shorten t l) life).toNat ↔
      a ≤ life.toNat ∧ ∀ t ∈ times, t ≠ 0 → a ≤ read t := by
  induction times generalizing life with
  | nil => simp
  | cons t times ih =>
    rw [List.foldl_cons, ih, hs, List.forall_mem_cons]
    by_cases hz : t = 0
    · simp [hz]
    · rw [if_neg hz, Nat.le_min]
      tauto

theorem le_foldl_elementLife_iff (hs : ShortensBy read shorten) (es : List GssxCredElement)
    (life : UInt32) (a : Nat) :
    a ≤ (es.foldl (fun l e => elementLife shorten e l) life).toNat ↔
      a ≤ life.toNat ∧ ∀ t ∈ es.flatMap relevantTimes, t ≠ 0 → a ≤ read t := by
  have hf : es.foldl (fun l e => elementLife shorten e l) life =
      (es.flatMap relevantTimes).foldl (fun l t => shorten t l) life := by
    rw [List.foldl_flatMap]
    simp [elementLife_eq]
  rw [hf]
  exact le_foldl_shorten_iff hs _ life a

end

theorem le_leastLifetime_iff (times : List UInt64) (a : Nat) :
    a ≤ leastLifetime times ↔ a ≤ GSS_C_INDEFINITE.toNat ∧ ∀ t ∈ times, t ≠ 0 → a ≤ t.toNat := by
  unfold leastLifetime
  induction times with
  | nil => simp
  | cons t times ih =>
    rw [List.forall_mem_cons]
    by_cases hz : t = 0
    · rw [List.filter_cons_of_neg (by simpa using hz), ih]; simp [hz]
    · rw [List.filter_cons_of_pos (by simpa using hz), List.foldr_cons, Nat.le_min]
      tauto

theorem leastLifetime_attained (times : List UInt64) :
    leastLifetime times = GSS_C_INDEFINITE.toNat ∨
      ∃ t ∈ times, t ≠ 0 ∧ leastLifetime times = t.toNat := by
  by_cases ha : ∀ t ∈ times, t ≠ 0 → leastLifetime times + 1 ≤ t.toNat
  · -- nothing stops a longer lifetime but the bound
    left
    have hle := ((le_leastLifetime_iff times _).mp le_rfl).1
    have hn := mt (le_leastLifetime_iff times (leastLifetime times + 1)).mpr (by omega)
    have : ¬ leastLifetime times + 1 ≤ GSS_C_INDEFINITE.toNat := fun h => hn ⟨h, ha⟩
    omega
  · right
    push Not at ha
    obtain ⟨t, ht, hz, hlt⟩ := ha
    have hle := ((le_leastLifetime_iff times _).mp le_rfl).2 t ht hz
    exact ⟨t, ht, hz, by omega⟩

theorem leastLifetime_ne_zero (times : List UInt64) : leastLifetime times ≠ 0 := by
  rcases leastLifetime_attained times with h | ⟨t, -, hz, h⟩
  · rw [h]; decide
  · rw [h]; exact fun hn => hz (UInt64.toNat_inj.mp hn)

def LifetimesAlike (times : List UInt64) : Prop :=
  ∀ t ∈ times, 4294967296 ≤ t.toNat →
    cut t = GSS_C_INDEFINITE.toNat ∨ ∃ u ∈ times, u ≠ 0 ∧ u.toNat ≤ cut t

variable (es : List GssxCredElement)

def gpmLife : UInt32 :=
  es.foldl (fun l e => elementLife gpmShorten e l) GSS_C_INDEFINITE

def life : UInt32 :=
  es.foldl (fun l e => elementLife shorten e l) GSS_C_INDEFINITE

theorem gpmLife_toNat :
    (gpmLife es).toNat = leastLifetime (es.flatMap relevantTimes) := by
  refine eq_of_forall_le_iff fun a => ?_
  rw [le_leastLifetime_iff]
  exact le_foldl_elementLife_iff gpmShorten_shortensBy es GSS_C_INDEFINITE a

theorem le_life_iff (a : Nat) :
    a ≤ (life es).toNat ↔
      a ≤ GSS_C_INDEFINITE.toNat ∧ ∀ t ∈ es.flatMap relevantTimes, t ≠ 0 → a ≤ cut t :=
  le_foldl_elementLife_iff shorten_shortensBy es GSS_C_INDEFINITE a

theorem gpmLife_eq_life_iff :
    gpmLife es = life es ↔ LifetimesAlike (es.flatMap relevantTimes) := by
  have hle : (life es).toNat ≤ (gpmLife es).toNat := by
    rw [gpmLife_toNat, le_leastLifetime_iff]
    have hse := (le_life_iff es _).mp le_rfl
    refine ⟨hse.1, fun t ht hz => (hse.2 t ht hz).trans ?_⟩
    exact Nat.mod_le _ _
  have heq : gpmLife es = life es ↔ (gpmLife es).toNat ≤ (life es).toNat := by
    rw [← UInt32.toNat_inj]; omega
  have hl := (le_leastLifetime_iff (es.flatMap relevantTimes) _).mp le_rfl
  rw [heq, gpmLife_toNat, le_life_iff]
  constructor
  · rintro ⟨-, hc⟩ t ht hlo
    have hz : t ≠ 0 := by rintro rfl; exact absurd hlo (by decide)
    have hbo : cut t ≤ GSS_C_INDEFINITE.toNat := by
      rw [cut_eq, show GSS_C_INDEFINITE.toNat = 4294967295 from rfl]; omega
    have hb := hc t ht hz
    rcases leastLifetime_attained (es.flatMap relevantTimes) with hl | ⟨u, hu, hs, hl⟩
    · left
      omega
    · right
      exact ⟨u, hu, hs, by omega⟩
  · intro ha
    refine ⟨hl.1, fun t ht hz => ?_⟩
    by_cases hlo : 4294967296 ≤ t.toNat
    · rcases ha t ht hlo with hc | ⟨u, hu, hs, hc⟩
      · rw [hc]; exact hl.1
      · exact (hl.2 u hu hs).trans hc
    -- a short lifetime is not changed by the cut
    have hsa : cut t = t.toNat := by rw [cut_eq]; omega
    rw [hsa]
    exact hl.2 t ht hz

variable {es} {es' : List GssxCredElement}

theorem relevantTimes_perm (hp : es.Perm es') (t : UInt64) :
    t ∈ es.flatMap relevantTimes ↔ t ∈ es'.flatMap relevantTimes :=
  (hp.flatMap_right relevantTimes).mem_iff

theorem gpmLife_perm (hp : es.Perm es') : gpmLife es = gpmLife es' := by
  rw [← UInt32.toNat_inj, gpmLife_toNat, gpmLife_toNat]
  refine eq_of_forall_le_iff fun a => ?_
  simp only [le_leastLifetime_iff, relevantTimes_perm hp]

theorem life_perm (hp : es.Perm es') : life es = life es' := by
  rw [← UInt32.toNat_inj]
  refine eq_of_forall_le_iff fun a => ?_
  simp only [le_life_iff, relevantTimes_perm hp]

/-! ## Usages -/

def initiates (e : GssxCredElement) : Bool :=
  e.credUsage == GSSX_C_INITIATE || e.credUsage == GSSX_C_BOTH

def accepts (e : GssxCredElement) : Bool :=
  e.credUsage == GSSX_C_ACCEPT || e.credUsage == GSSX_C_BOTH

def usageOf : Bool → Bool → Int32
  | true, true => GSS_C_BOTH
  | true, false => GSS_C_INITIATE
  | false, true => GSS_C_ACCEPT
  | false, false => -1

def joinedUsage (es : List GssxCredElement) : Int32 := usageOf (es.any initiates) (es.any accepts)

theorem elementUsage_usageOf (e : GssxCredElement) (i a : Bool) :
    elementUsage e (usageOf i a) = usageOf (i || initiates e) (a || accepts e) := by
  unfold elementUsage initiates accepts
  by_cases hi : e.credUsage = GSSX_C_INITIATE
  · rw [hi]
    cases i <;> cases a <;> rfl
  by_cases ha : e.credUsage = GSSX_C_ACCEPT
  · rw [ha]
    cases i <;> cases a <;> rfl
  by_cases hb : e.credUsage = GSSX_C_BOTH
  · rw [hb]
    cases i <;> cases a <;> rfl
  · rw [if_neg hi, if_neg ha, if_neg hb, beq_false_of_ne hi, beq_false_of_ne ha, beq_false_of_ne hb]
    simp

theorem foldl_elementUsage (es : List GssxCredElement) :
    es.foldl (fun cu e => elementUsage e cu) (-1) = joinedUsage es := by
  have hf : ∀ i a, es.foldl (fun cu e => elementUsage e cu) (usageOf i a) =
      usageOf (i || es.any initiates) (a || es.any accepts) := by
    induction es with
    | nil => simp
    | cons e es ih =>
      intro i a
      rw [List.foldl_cons, elementUsage_usageOf, ih, List.any_cons, List.any_cons, Bool.or_assoc,
        Bool.or_assoc]
  exact hf false false

theorem joinedUsage_perm (hp : es.Perm es') : joinedUsage es = joinedUsage es' := by
  unfold joinedUsage
  rw [hp.any_eq, hp.any_eq]

/-! ## Names and mechanisms -/

theorem gpCopyGssxName_eq_iff (name : GssxName) :
    gpCopyGssxName name = name ↔ name.nameAttributes = [] ∧ name.extensions = [] := by
  cases name
  simp only [gpCopyGssxName, GssxName.mk.injEq, true_and]
  exact and_congr eq_comm eq_comm

def elementMechs (es : List GssxCredElement) : List Bytes := es.map fun e => e.mech.data

def gpmMechs (es : List GssxCredElement) : OidSet :=
  (elementMechs es).foldl (fun set mech => IndicateMechs.insert mech set) []

theorem nodup_insert {mech : Bytes} {set : OidSet} (hs : set.Nodup) :
    (IndicateMechs.insert mech set).Nodup := by
  unfold IndicateMechs.insert
  split
  · exact hs
  · rename_i hn
    rw [List.nodup_append_comm]
    exact List.nodup_cons.mpr ⟨hn, hs⟩

theorem foldl_insert (mechs : List Bytes) (set : OidSet) (hs : set.Nodup) :
    (mechs.foldl (fun set mech => IndicateMechs.insert mech set) set).Nodup ∧
      ∀ m, m ∈ mechs.foldl (fun set mech => IndicateMechs.insert mech set) set ↔
        m ∈ set ∨ m ∈ mechs := by
  induction mechs generalizing set with
  | nil => exact ⟨hs, fun m => by simp⟩
  | cons mech mechs ih =>
    obtain ⟨hn, hm⟩ := ih (IndicateMechs.insert mech set) (nodup_insert hs)
    refine ⟨hn, fun m => ?_⟩
    rw [List.foldl_cons, hm, mem_insert, List.mem_cons, or_assoc, @eq_comm _ m mech]

theorem gpmMechs_nodup (es : List GssxCredElement) : (gpmMechs es).Nodup :=
  (foldl_insert (elementMechs es) [] List.nodup_nil).1

theorem mem_gpmMechs_iff {m : Bytes} : m ∈ gpmMechs es ↔ m ∈ elementMechs es := by
  have hm := (foldl_insert (elementMechs es) [] List.nodup_nil).2 m
  simpa [gpmMechs] using hm

/-! ## The two loops -/

def inquired (cred : GssxCred) : Inquired :=
  ⟨0, some (gpCopyGssxName cred.desiredName), gpmLife cred.elements, joinedUsage cred.elements,
    gpmMechs cred.elements⟩

structure InquireLib.Succeeds (lib : InquireLib) (n : Nat) : Prop where
  copyName : lib.copyName = 0
  create : ¬ lib.createEmptyOidSet.Failed
  add : ∀ i < n, ¬ (lib.addOidSetMember i).Failed

theorem inquireCred_result (cred : GssxCred) :
    (inquireCred cred).result =
      if cred.elements = [] then .error ⟨GSS_S_FAILURE, some 0⟩
      else .ok ⟨0, some cred.desiredName, life cred.elements, joinedUsage cred.elements,
        elementMechs cred.elements⟩ := by
  have hf : ∀ (es : List GssxCredElement) (l : UInt32) (cu : Int32) (ms : List Bytes),
      es.foldl (fun (s : UInt32 × Int32 × List Bytes) e =>
        (elementLife shorten e s.1, elementUsage e s.2.1, s.2.2 ++ [e.mech.data])) (l, cu, ms) =
      (es.foldl (fun l e => elementLife shorten e l) l,
        es.foldl (fun cu e => elementUsage e cu) cu, ms ++ elementMechs es) := by
    intro es
    induction es with
    | nil => simp [elementMechs]
    | cons e es ih => intro l cu ms; simp [ih, elementMechs]
  unfold inquireCred
  split
  · rfl
  · simp only [hf, foldl_elementUsage, List.nil_append]; rfl

structure Complete (ret : Ret) : Prop where
  major : ¬ ret.Failed
  minor : ret.minor = 0

def Inquiry.over (s : Inquiry) (es : List GssxCredElement) (ret : Ret) : Inquiry :=
  ⟨es.foldl (fun l e => elementLife gpmShorten e l) s.life,
    es.foldl (fun cu e => elementUsage e cu) s.usage, ret,
    (elementMechs es).foldl (fun set mech => IndicateMechs.insert mech set) s.mechs⟩

/-- **The C loop** ends with `ret` of the last insertion, or is left with a failure. -/
theorem inquireRounds_cases (lib : InquireLib) (es : List GssxCredElement) (i : Nat) (s : Inquiry) :
    (∃ ret, rounds (inquireRound lib) i es s = .next (s.over es ret) ∧
      (∀ j < es.length, ¬ (lib.addOidSetMember (i + j)).Failed) ∧ (es ≠ [] → Complete ret)) ∨
    ∃ s', rounds (inquireRound lib) i es s = .leave s' ∧ s'.ret.Failed ∧
      ∃ j < es.length, (lib.addOidSetMember (i + j)).Failed := by
  induction es generalizing i s with
  | nil => exact .inl ⟨s.ret, rfl, by simp, by simp⟩
  | cons e es ih =>
    rw [rounds]
    by_cases ha : (lib.addOidSetMember i).Failed
    · exact .inr ⟨_, by rw [inquireRound, if_pos ha], ha, 0, by simp, ha⟩
    rw [inquireRound, if_neg ha]
    rcases ih (i + 1) ⟨elementLife gpmShorten e s.life, elementUsage e s.usage,
      lib.addOidSetMember i, IndicateMechs.insert e.mech.data s.mechs⟩ with
      ⟨ret, hl, hr, hre⟩ | ⟨s', hl, hf, j, hj, hfa⟩
    · cases es with
      | nil =>
        refine .inl ⟨lib.addOidSetMember i, rfl, fun j hj => ?_,
          fun _ => ⟨ha, lib.minor_of_complete i ha⟩⟩
        obtain rfl : j = 0 := by simpa using hj
        exact ha
      | cons e' es =>
        refine .inl ⟨ret, hl, fun j hj => ?_, fun _ => hre (by simp)⟩
        cases j with
        | zero => exact ha
        | succ j => rw [show i + (j + 1) = i + 1 + j by omega]; exact hr j (by simpa using hj)
    · refine .inr ⟨s', hl, hf, j + 1, by simpa using hj, ?_⟩
      rw [show i + (j + 1) = i + 1 + j by omega]
      exact hfa

variable {lib : InquireLib} {cred : GssxCred}

theorem gpmInquireCred_of_succeeds (hne : cred.elements ≠ [])
    (hl : lib.Succeeds cred.elements.length) :
    gpmInquireCred lib (some cred) = .ok (inquired cred) := by
  rcases inquireRounds_cases lib cred.elements 0 ⟨GSS_C_INDEFINITE, -1, lib.createEmptyOidSet, []⟩ with
    ⟨ret, hlo, -, hr⟩ | ⟨-, -, -, j, hj, hf⟩
  · simp only [gpmInquireCred]
    rw [if_neg hne, if_neg (not_not.mpr hl.copyName), if_neg hl.create, hlo]
    refine (if_neg (hr hne).major).trans ?_
    rw [inquired, ← foldl_elementUsage, ← (hr hne).minor]; rfl
  · rw [Nat.zero_add] at hf; exact absurd hf (hl.add j hj)

theorem succeeds_of_gpmInquireCred {r : Inquired} (h : gpmInquireCred lib (some cred) = .ok r) :
    cred.elements ≠ [] ∧ lib.Succeeds cred.elements.length := by
  simp only [gpmInquireCred] at h
  split at h
  · cases h
  rename_i hne
  split at h
  · cases h
  rename_i hn
  split at h
  · cases h
  rename_i hc
  split at h
  · cases h
  rename_i hf
  rcases inquireRounds_cases lib cred.elements 0 ⟨GSS_C_INDEFINITE, -1, lib.createEmptyOidSet, []⟩ with
    ⟨ret, -, ha, -⟩ | ⟨s', hl, hfa, -⟩
  · refine ⟨hne, not_not.mp hn, hc, fun i hi => ?_⟩
    rw [← Nat.zero_add i]
    exact ha i hi
  · rw [hl] at hf; exact absurd hfa hf

theorem gpmInquireCred_ok {r : Inquired}
    (h : gpmInquireCred lib (some cred) = .ok r) : r = inquired cred := by
  obtain ⟨hne, hl⟩ := succeeds_of_gpmInquireCred h
  exact (Except.ok.inj ((gpmInquireCred_of_succeeds hne hl).symm.trans h)).symm

/-! ## The inquiries agree -/

def SameInquiry : Except Status Inquired → Except Status Inquired → Prop
  | .ok a, .ok b => a.minor = b.minor ∧ a.name = b.name ∧ a.lifetime = b.lifetime ∧
      a.usage = b.usage ∧ a.mechs.Nodup ∧ b.mechs.Nodup ∧ ∀ m, m ∈ a.mechs ↔ m ∈ b.mechs
  | .error s, .error t => s = t
  | _, _ => False

/-- The inquiries in C and in Rust are one, and give the shortest lifetime and the joined usage, in
    any order of the elements. -/
structure InquiryLaw (lib : InquireLib) (cred : GssxCred) : Prop where
  same : SameInquiry (gpmInquireCred lib (some cred)) (inquireCred cred).result
  told : ∀ r, gpmInquireCred lib (some cred) = .ok r → r.name = some cred.desiredName ∧
      r.lifetime.toNat = leastLifetime (cred.elements.flatMap relevantTimes) ∧
      r.usage = joinedUsage cred.elements ∧ ∀ m, m ∈ r.mechs ↔ m ∈ elementMechs cred.elements
  order : ∀ es, cred.elements.Perm es → SameInquiry (gpmInquireCred lib (some cred))
        (gpmInquireCred lib (some { cred with elements := es })) ∧
      SameInquiry (inquireCred cred).result (inquireCred { cred with elements := es }).result

/-- Where the two inquiries are the same. -/
structure Faithful (lib : InquireLib) (cred : GssxCred) : Prop where
  lib : lib.Succeeds cred.elements.length
  name : cred.desiredName.nameAttributes = [] ∧ cred.desiredName.extensions = []
  lifetimes : LifetimesAlike (cred.elements.flatMap relevantTimes)
  mechs : (elementMechs cred.elements).Nodup

theorem InquiryLaw.of_nil (hn : cred.elements = []) : InquiryLaw lib cred := by
  have hg : ∀ c : GssxCred, c.elements = [] →
      gpmInquireCred lib (some c) = .error ⟨GSS_S_FAILURE, some 0⟩ :=
    fun c hc => by simp [gpmInquireCred, if_pos hc]
  have hru : ∀ c : GssxCred, c.elements = [] →
      (inquireCred c).result = .error ⟨GSS_S_FAILURE, some 0⟩ :=
    fun c hc => by rw [inquireCred_result, if_pos hc]
  refine ⟨?_, ?_, ?_⟩
  · rw [hg cred hn, hru cred hn]; exact rfl
  · intro r hr
    rw [hg cred hn] at hr; cases hr
  · intro es hp
    have hes : es = [] := by rw [hn] at hp; exact hp.nil_eq.symm
    rw [hg cred hn, hru cred hn, hg { cred with elements := es } hes,
      hru { cred with elements := es } hes]
    exact ⟨rfl, rfl⟩

theorem InquiryLaw.of_faithful (hne : cred.elements ≠ [])
    (h : Faithful lib cred) : InquiryLaw lib cred := by
  have hg := gpmInquireCred_of_succeeds hne h.lib
  have hru := (inquireCred_result cred).trans (if_neg hne)
  have hn := (gpCopyGssxName_eq_iff cred.desiredName).mpr h.name
  refine ⟨?_, ?_, ?_⟩
  · rw [hg, hru]
    exact ⟨rfl, congrArg some hn, (gpmLife_eq_life_iff _).mpr h.lifetimes, rfl,
      gpmMechs_nodup _, h.mechs, fun m => mem_gpmMechs_iff⟩
  · intro r hr
    rw [hg] at hr
    cases hr
    exact ⟨congrArg some hn, gpmLife_toNat _, rfl, fun m => mem_gpmMechs_iff⟩
  · intro es hp
    have hes : es ≠ [] := by rintro rfl; exact hne hp.eq_nil
    have hm := hp.map fun e => e.mech.data
    have hg' : gpmInquireCred lib (some { cred with elements := es }) = _ :=
      gpmInquireCred_of_succeeds hes (hp.length_eq ▸ h.lib)
    have hru' := (inquireCred_result { cred with elements := es }).trans (if_neg hes)
    rw [hg, hg', hru, hru']
    refine ⟨⟨rfl, rfl, gpmLife_perm hp, joinedUsage_perm hp, gpmMechs_nodup _,
      gpmMechs_nodup _, fun m => ?_⟩, ⟨rfl, rfl, life_perm hp, joinedUsage_perm hp, h.mechs,
      hm.nodup_iff.mp h.mechs, fun m => hm.mem_iff⟩⟩
    show m ∈ gpmMechs cred.elements ↔ m ∈ gpmMechs es
    rw [mem_gpmMechs_iff, mem_gpmMechs_iff]
    exact hm.mem_iff

/-- **The two inquiries.**  They agree, with the shortest lifetime and the joined usage in any order of
    the elements, for a credential without elements and for one whose name has no attributes and no
    extensions, whose mechanisms are distinct and of whose long lifetimes none is cut below the rest. -/
theorem inquireCred_iff (lib : InquireLib) (cred : GssxCred) :
    InquiryLaw lib cred ↔ cred.elements = [] ∨ Faithful lib cred := by
  by_cases hne : cred.elements = []
  · exact ⟨fun _ => .inl hne, fun _ => .of_nil hne⟩
  constructor
  · intro law
    right
    have hr := (inquireCred_result cred).trans (if_neg hne)
    have hs := law.same
    cases hg : gpmInquireCred lib (some cred) with
    | error s => rw [hg, hr] at hs; exact hs.elim
    | ok r =>
      have hl := (succeeds_of_gpmInquireCred hg).2
      rw [gpmInquireCred_of_succeeds hne hl, hr] at hs
      obtain ⟨-, hn, hli, -, -, hm, -⟩ := hs
      exact ⟨hl, (gpCopyGssxName_eq_iff _).mp (Option.some.inj hn),
        (gpmLife_eq_life_iff _).mp hli, hm⟩
  · rintro (h | h)
    · exact .of_nil h
    · exact .of_faithful hne h

def calm : InquireLib :=
  { createEmptyOidSet := ⟨GSS_S_COMPLETE, 0⟩, testOidSetMember := fun _ => ⟨GSS_S_COMPLETE, 0⟩,
    addOidSetMember := fun _ => ⟨GSS_S_COMPLETE, 0⟩, copyName := 0,
    minor_of_complete := fun _ _ => rfl }

theorem calm_succeeds (n : Nat) : calm.Succeeds n := ⟨rfl, fun h => h rfl, fun _ _ h => h rfl⟩

def longLived : GssxCred :=
  { (default : GssxCred) with
    elements := [{ (default : GssxCredElement) with
      credUsage := GSSX_C_INITIATE, initiatorTimeRec := 4294967296 }] }

/-- The lifetime 2^32 is no bound in C; in Rust it is cut to 0, an expired credential. -/
theorem inquireCred_longLived :
    (∃ r, gpmInquireCred calm (some longLived) = .ok r ∧ r.lifetime = GSS_C_INDEFINITE) ∧
      (inquireCred longLived).major = GSS_S_COMPLETE ∧ (inquireCred longLived).lifetime = 0 ∧
      ¬ InquiryLaw calm longLived := by
  refine ⟨⟨inquired longLived, rfl, rfl⟩, rfl, rfl, fun law => ?_⟩
  have hs : SameInquiry (.ok (inquired longLived)) (inquireCred longLived).result := law.same
  obtain ⟨-, -, hl, -⟩ := hs
  exact absurd hl (by decide)

end GssProxy.Client.Inquire
