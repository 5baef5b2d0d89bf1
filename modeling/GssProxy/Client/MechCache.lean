import GssProxy.Client.IndicateMechs
import GssProxy.Effect.Filling
import GssProxy.Proto.Proc

/-!
# The filling of the table of mechanisms

`gpmint_indicate_mechs` converts the daemon's reply into the global `global_mechs`.  Any call on the way
may fail; then what has been built is released, but the lengths of the tables stay.

* `attempts_iff`: when a sequence of attempts leaves all of a table or nothing.
-/

namespace GssProxy.Client.MechCache

open Codec Effect Gss Proto
open Client.IndicateMechs (OidSet)

/-! ## The table -/

structure MechInfo where
  mech : Option Bytes
  nameTypes : Option OidSet
  mechAttrs : Option OidSet
  knownMechAttrs : Option OidSet
  credOptions : Option OidSet
  secCtxOptions : Option OidSet
  saslnameSaslMechName : Option Bytes
  saslnameMechName : Option Bytes
  saslnameMechDesc : Option Bytes
  deriving DecidableEq, Inhabited

structure MechAttr where
  attr : Option Bytes
  name : Option Bytes
  shortDesc : Option Bytes
  longDesc : Option Bytes
  deriving DecidableEq, Inhabited

structure Mechs where
  initialized : Bool
  mechSet : Option OidSet
  infoLen : Nat
  info : Option (List MechInfo)
  descLen : Nat
  desc : Option (List MechAttr)
  deriving DecidableEq

def Mechs.empty : Mechs := ⟨false, none, 0, none, 0, none⟩

namespace Mechs

def setInfo (i : Nat) (set : MechInfo → MechInfo) (r : Mechs) : Mechs :=
  { r with info := r.info.map fun info => info.modify i set }

def setDesc (i : Nat) (set : MechAttr → MechAttr) (r : Mechs) : Mechs :=
  { r with desc := r.desc.map fun desc => desc.modify i set }

end Mechs

/-! ## An attempt -/

inductive InfoField where
  | mech | nameTypes | mechAttrs | knownMechAttrs | credOptions | secCtxOptions
  | saslnameSaslMechName | saslnameMechName | saslnameMechDesc
  deriving DecidableEq, Repr

inductive DescField where
  | attr | name | shortDesc | longDesc
  deriving DecidableEq, Repr

inductive Site where
  | createSet
  | allocInfo
  | info (i : Nat) (field : InfoField)
  | addMember (i : Nat)
  | allocDesc
  | desc (i : Nat) (field : DescField)
  deriving DecidableEq, Repr

/-- An attempt to fill the table: the reply, and which allocations fail. -/
structure Attempt where
  reply : Except UInt32 ResIndicateMechs
  fails : Site → Bool

inductive Jump where
  | failed
  | unnoticed
  deriving DecidableEq, Repr

def Attempt.answer (a : Attempt) : Except Jump ResIndicateMechs :=
  match a.reply with
  | .error _ => .error .failed
  | .ok res =>
    if res.status.majorStatus = 0 then .ok res
    else if res.status.majorStatus.toUInt32 = 0 then .error .unnoticed
    else .error .failed

section

variable {α : Type}

def converted (xs : List α) : Option (List α) := if xs = [] then none else some xs

def store (fails : Bool) (xs : List α) (set : Option (List α) → Mechs → Mechs) :
    Filling Jump Mechs Unit :=
  if xs ≠ [] ∧ fails then .fail .failed else .write (set (converted xs))

end

def allocate (fails : Bool) (jump : Jump) (set : Bool → Mechs → Mechs) : Filling Jump Mechs Unit := do
  .write (set (!fails))
  if fails then .fail jump else pure ()

def addMember (fails : Bool) (mech : Bytes) : Filling Jump Mechs Unit :=
  if mech = [] ∨ fails then .fail .failed
  else .write fun r => { r with mechSet := r.mechSet.map (IndicateMechs.insert mech) }

def oidSet (set : GssxOidSet) : OidSet := set.map fun oid => oid.data

def fillInfo (a : Attempt) (i : Nat) (mi : GssxMechInfo) : Filling Jump Mechs Unit := do
  store (a.fails (.info i .mech)) mi.mech.data fun v => .setInfo i fun gi => { gi with mech := v }
  addMember (a.fails (.addMember i)) mi.mech.data
  store (a.fails (.info i .nameTypes)) (oidSet mi.nameTypes) fun v =>
    .setInfo i fun gi => { gi with nameTypes := v }
  store (a.fails (.info i .mechAttrs)) (oidSet mi.mechAttrs) fun v =>
    .setInfo i fun gi => { gi with mechAttrs := v }
  store (a.fails (.info i .knownMechAttrs)) (oidSet mi.knownMechAttrs) fun v =>
    .setInfo i fun gi => { gi with knownMechAttrs := v }
  store (a.fails (.info i .credOptions)) (oidSet mi.credOptions) fun v =>
    .setInfo i fun gi => { gi with credOptions := v }
  store (a.fails (.info i .secCtxOptions)) (oidSet mi.secCtxOptions) fun v =>
    .setInfo i fun gi => { gi with secCtxOptions := v }
  store (a.fails (.info i .saslnameSaslMechName)) mi.saslnameSaslMechName.data fun v =>
    .setInfo i fun gi => { gi with saslnameSaslMechName := v }
  store (a.fails (.info i .saslnameMechName)) mi.saslnameMechName.data fun v =>
    .setInfo i fun gi => { gi with saslnameMechName := v }
  store (a.fails (.info i .saslnameMechDesc)) mi.saslnameMechDesc.data fun v =>
    .setInfo i fun gi => { gi with saslnameMechDesc := v }

def fillDesc (a : Attempt) (i : Nat) (ma : GssxMechAttr) : Filling Jump Mechs Unit := do
  store (a.fails (.desc i .attr)) ma.attr.data fun v => .setDesc i fun ga => { ga with attr := v }
  store (a.fails (.desc i .name)) ma.name.data fun v => .setDesc i fun ga => { ga with name := v }
  store (a.fails (.desc i .shortDesc)) ma.shortDesc.data fun v =>
    .setDesc i fun ga => { ga with shortDesc := v }
  store (a.fails (.desc i .longDesc)) ma.longDesc.data fun v =>
    .setDesc i fun ga => { ga with longDesc := v }

def fillAll {α : Type} (fill : Nat → α → Filling Jump Mechs Unit) : Nat → List α →
    Filling Jump Mechs Unit
  | _, [] => pure ()
  | i, x :: xs => do
    fill i x
    fillAll fill (i + 1) xs

def fillMechs (a : Attempt) (mechs : List GssxMechInfo) : Filling Jump Mechs Unit := do
  allocate (a.fails .createSet) .failed fun done r =>
    { r with mechSet := if done then some [] else none }
  allocate (a.fails .allocInfo) .failed fun done r =>
    { r with info := if done then some (List.replicate mechs.length default) else none }
  fillAll (fillInfo a) 0 mechs

def fillDescs (a : Attempt) (descs : List GssxMechAttr) : Filling Jump Mechs Unit := do
  allocate (a.fails .allocDesc) .unnoticed fun done r =>
    { r with desc := if done then some (List.replicate descs.length default) else none }
  fillAll (fillDesc a) 0 descs

def fill (a : Attempt) : Filling Jump Mechs Unit := do
  let res ← .ofExcept a.answer
  fillMechs a res.mechs
  .write fun r => { r with infoLen := res.mechs.length }
  fillDescs a res.mechAttrDescs
  .write fun r => { r with descLen := res.mechAttrDescs.length, initialized := true }

/-- The releases at `done`, by the lengths of both tables; none beyond the end of one. -/
def release (r : Mechs) : Option Mechs :=
  if r.descLen ≤ (r.desc.getD []).length ∧ r.infoLen ≤ (r.info.getD []).length then
    some { r with desc := none, info := none, mechSet := none }
  else none

def gpmintIndicateMechs (a : Attempt) (r : Mechs) : Option Mechs :=
  match fill a r with
  | (.ok (), r) => some r
  | (.error .unnoticed, r) => some r
  | (.error .failed, r) => release r

def attempts : List Attempt → Mechs → Option Mechs
  | [], r => some r
  | a :: as, r => if r.initialized then some r else gpmintIndicateMechs a r >>= attempts as

/-! ## What the steps do -/

section

variable {r : Mechs} {α : Type}

def Stores (fails : Bool) (xs : List α) : Prop := ¬ (xs ≠ [] ∧ fails = true)

theorem store_does (fails : Bool) (xs : List α) (set : Option (List α) → Mechs → Mechs) :
    Filling.Does (store fails xs set) r (Stores fails xs) .failed (set (converted xs) r) := by
  unfold store
  split
  · rename_i h
    exact ⟨fun hs => absurd h hs, fun _ => ⟨r, rfl⟩⟩
  · rename_i h; exact ⟨fun _ => rfl, fun hs => absurd h hs⟩

theorem allocate_does (fails : Bool) (jump : Jump) (set : Bool → Mechs → Mechs) :
    Filling.Does (allocate fails jump set) r (fails = false) jump (set true r) := by
  cases fails with
  | false => exact ⟨fun _ => rfl, fun h => absurd rfl h⟩
  | true => exact ⟨fun h => Bool.noConfusion h, fun _ => ⟨_, rfl⟩⟩

theorem addMember_does (fails : Bool) (mech : Bytes) :
    Filling.Does (addMember fails mech) r (mech ≠ [] ∧ fails = false) .failed
      { r with mechSet := r.mechSet.map (IndicateMechs.insert mech) } := by
  unfold addMember
  split
  · rename_i h
    refine ⟨fun hs => ?_, fun _ => ⟨r, rfl⟩⟩
    rcases h with h | h
    · exact absurd h hs.1
    · rw [hs.2] at h; cases h
  · rename_i h
    refine ⟨fun _ => rfl, fun hs => absurd ?_ hs⟩
    exact ⟨fun h0 => h (.inl h0), eq_false_of_ne_true fun h1 => h (.inr h1)⟩

end

def convertInfo (mi : GssxMechInfo) : MechInfo :=
  ⟨converted mi.mech.data, converted (oidSet mi.nameTypes), converted (oidSet mi.mechAttrs),
    converted (oidSet mi.knownMechAttrs), converted (oidSet mi.credOptions),
    converted (oidSet mi.secCtxOptions), converted mi.saslnameSaslMechName.data,
    converted mi.saslnameMechName.data, converted mi.saslnameMechDesc.data⟩

def convertDesc (ma : GssxMechAttr) : MechAttr :=
  ⟨converted ma.attr.data, converted ma.name.data, converted ma.shortDesc.data,
    converted ma.longDesc.data⟩

def infoStores (a : Attempt) (i : Nat) (mi : GssxMechInfo) : InfoField → Prop
  | .mech => Stores (a.fails (.info i .mech)) mi.mech.data
  | .nameTypes => Stores (a.fails (.info i .nameTypes)) (oidSet mi.nameTypes)
  | .mechAttrs => Stores (a.fails (.info i .mechAttrs)) (oidSet mi.mechAttrs)
  | .knownMechAttrs => Stores (a.fails (.info i .knownMechAttrs)) (oidSet mi.knownMechAttrs)
  | .credOptions => Stores (a.fails (.info i .credOptions)) (oidSet mi.credOptions)
  | .secCtxOptions => Stores (a.fails (.info i .secCtxOptions)) (oidSet mi.secCtxOptions)
  | .saslnameSaslMechName =>
    Stores (a.fails (.info i .saslnameSaslMechName)) mi.saslnameSaslMechName.data
  | .saslnameMechName => Stores (a.fails (.info i .saslnameMechName)) mi.saslnameMechName.data
  | .saslnameMechDesc => Stores (a.fails (.info i .saslnameMechDesc)) mi.saslnameMechDesc.data

def descStores (a : Attempt) (i : Nat) (ma : GssxMechAttr) : DescField → Prop
  | .attr => Stores (a.fails (.desc i .attr)) ma.attr.data
  | .name => Stores (a.fails (.desc i .name)) ma.name.data
  | .shortDesc => Stores (a.fails (.desc i .shortDesc)) ma.shortDesc.data
  | .longDesc => Stores (a.fails (.desc i .longDesc)) ma.longDesc.data

structure InfoOk (a : Attempt) (i : Nat) (mi : GssxMechInfo) : Prop where
  stores : ∀ field, infoStores a i mi field
  mech : mi.mech.data ≠ []
  add : a.fails (.addMember i) = false

def DescOk (a : Attempt) (i : Nat) (ma : GssxMechAttr) : Prop := ∀ field, descStores a i ma field

namespace Mechs

def putInfo (i : Nat) (mi : GssxMechInfo) (r : Mechs) : Mechs :=
  { r with
    info := r.info.map fun info => info.modify i fun _ => convertInfo mi
    mechSet := r.mechSet.map (IndicateMechs.insert mi.mech.data) }

def putDesc (i : Nat) (ma : GssxMechAttr) (r : Mechs) : Mechs :=
  r.setDesc i fun _ => convertDesc ma

theorem setInfo_setInfo (i : Nat) (f g : MechInfo → MechInfo) (r : Mechs) :
    (r.setInfo i f).setInfo i g = r.setInfo i (g ∘ f) := by
  simp only [setInfo, Option.map_map]
  congr 2
  funext info
  exact List.modify_modify_eq f g i info

theorem setDesc_setDesc (i : Nat) (f g : MechAttr → MechAttr) (r : Mechs) :
    (r.setDesc i f).setDesc i g = r.setDesc i (g ∘ f) := by
  simp only [setDesc, Option.map_map]
  congr 2
  funext desc
  exact List.modify_modify_eq f g i desc

end Mechs

theorem fillInfo_does (a : Attempt) (i : Nat) (mi : GssxMechInfo) (r : Mechs) :
    Filling.Does (fillInfo a i mi) r (InfoOk a i mi) .failed (r.putInfo i mi) := by
  refine Filling.Does.congr
    ((store_does _ _ _).bind fun _ => (addMember_does _ _).bind fun _ =>
      (store_does _ _ _).bind fun _ => (store_does _ _ _).bind fun _ =>
      (store_does _ _ _).bind fun _ => (store_does _ _ _).bind fun _ =>
      (store_does _ _ _).bind fun _ => (store_does _ _ _).bind fun _ =>
      (store_does _ _ _).bind fun _ => store_does _ _ _) ?_ ?_
  · constructor
    · rintro ⟨h₁, ⟨hm, ha⟩, h₂, h₃, h₄, h₅, h₆, h₇, h₈, h₉⟩
      refine ⟨fun field => ?_, hm, ha⟩
      cases field <;> assumption
    · intro h
      exact ⟨h.stores .mech, ⟨h.mech, h.add⟩, h.stores .nameTypes, h.stores .mechAttrs,
        h.stores .knownMechAttrs, h.stores .credOptions, h.stores .secCtxOptions,
        h.stores .saslnameSaslMechName, h.stores .saslnameMechName, h.stores .saslnameMechDesc⟩
  · intro _
    simp only [Mechs.setInfo_setInfo]
    rw [Mechs.setInfo, Mechs.setInfo]
    congr 1
    rw [Option.map_map]
    congr 1
    funext info
    exact List.modify_modify_eq _ _ i info

theorem fillDesc_does (a : Attempt) (i : Nat) (ma : GssxMechAttr) (r : Mechs) :
    Filling.Does (fillDesc a i ma) r (DescOk a i ma) .failed (r.putDesc i ma) := by
  refine Filling.Does.congr
    ((store_does _ _ _).bind fun _ => (store_does _ _ _).bind fun _ =>
      (store_does _ _ _).bind fun _ => store_does _ _ _) ?_ ?_
  · constructor
    · rintro ⟨h₁, h₂, h₃, h₄⟩ field
      cases field <;> assumption
    · intro h
      exact ⟨h .attr, h .name, h .shortDesc, h .longDesc⟩
  · intro _
    simp only [Mechs.setDesc_setDesc]; rfl

/-! ## What the loops do -/

variable {P : Mechs → Prop}

section

variable {α : Type}

def AllFrom (ok : Nat → α → Prop) : Nat → List α → Prop
  | _, [] => True
  | i, x :: xs => ok i x ∧ AllFrom ok (i + 1) xs

def putAll (put : Nat → α → Mechs → Mechs) : Nat → List α → Mechs → Mechs
  | _, [], r => r
  | i, x :: xs, r => putAll put (i + 1) xs (put i x r)

theorem fillAll_does {fill : Nat → α → Filling Jump Mechs Unit} {ok : Nat → α → Prop}
    {put : Nat → α → Mechs → Mechs}
    (hf : ∀ i x r, Filling.Does (fill i x) r (ok i x) .failed (put i x r)) (i : Nat) (xs : List α)
    (r : Mechs) : Filling.Does (fillAll fill i xs) r (AllFrom ok i xs) .failed (putAll put i xs r) := by
  induction xs generalizing i r with
  | nil => exact .pure
  | cons x xs ih => exact (hf i x r).bind fun _ => ih (i + 1) (put i x r)

theorem fillAll_keeps {fill : Nat → α → Filling Jump Mechs Unit}
    (hf : ∀ i x, Filling.Keeps P (fill i x)) (i : Nat) (xs : List α) :
    Filling.Keeps P (fillAll fill i xs) := by
  induction xs generalizing i with
  | nil => exact .pure ()
  | cons x xs ih => exact (hf i x).bind fun _ => ih (i + 1)

theorem modify_replicate {β : Type} (y z : β) (pre : List β) (n : Nat) :
    (pre ++ List.replicate (n + 1) z).modify pre.length (fun _ => y) =
      pre ++ [y] ++ List.replicate n z := by
  induction pre with
  | nil => rfl
  | cons x pre ih => rw [List.cons_append, List.length_cons, List.modify_succ_cons, ih]; rfl

end

def members (mechs : List GssxMechInfo) (set : OidSet) : OidSet :=
  mechs.foldl (fun set mi => IndicateMechs.insert mi.mech.data set) set

theorem putAll_putInfo (mechs : List GssxMechInfo) (r : Mechs) (pre : List MechInfo) (set : OidSet)
    (hi : r.info = some (pre ++ List.replicate mechs.length default)) (hs : r.mechSet = some set) :
    putAll Mechs.putInfo pre.length mechs r =
      { r with info := some (pre ++ mechs.map convertInfo), mechSet := some (members mechs set) } := by
  induction mechs generalizing r pre set with
  | nil =>
    obtain ⟨_, _, _, _, _, _⟩ := r
    subst hi hs
    simp [putAll, members]
  | cons mi mechs ih =>
    rw [List.length_cons] at hi
    have hl : pre.length + 1 = (pre ++ [convertInfo mi]).length := by simp
    rw [putAll, hl, ih (r.putInfo pre.length mi) (pre ++ [convertInfo mi])
      (IndicateMechs.insert mi.mech.data set)]
    · simp [Mechs.putInfo, members]
    · rw [Mechs.putInfo, hi, Option.map_some, modify_replicate]
    · rw [Mechs.putInfo, hs, Option.map_some]

theorem putAll_putDesc (descs : List GssxMechAttr) (r : Mechs) (pre : List MechAttr)
    (hd : r.desc = some (pre ++ List.replicate descs.length default)) :
    putAll Mechs.putDesc pre.length descs r =
      { r with desc := some (pre ++ descs.map convertDesc) } := by
  induction descs generalizing r pre with
  | nil =>
    obtain ⟨_, _, _, _, _, _⟩ := r
    subst hd
    simp [putAll]
  | cons ma descs ih =>
    rw [List.length_cons] at hd
    have hl : pre.length + 1 = (pre ++ [convertDesc ma]).length := by simp
    rw [putAll, hl, ih (r.putDesc pre.length ma) (pre ++ [convertDesc ma])]
    · simp [Mechs.putDesc, Mechs.setDesc]
    · rw [Mechs.putDesc, Mechs.setDesc, hd, Option.map_some, modify_replicate]

structure MechsOk (a : Attempt) (mechs : List GssxMechInfo) : Prop where
  createSet : a.fails .createSet = false
  allocInfo : a.fails .allocInfo = false
  info : AllFrom (InfoOk a) 0 mechs

theorem fillMechs_does (a : Attempt) (mechs : List GssxMechInfo) (r : Mechs) :
    Filling.Does (fillMechs a mechs) r (MechsOk a mechs) .failed
      { r with mechSet := some (members mechs []), info := some (mechs.map convertInfo) } := by
  refine Filling.Does.congr ((allocate_does _ _ _).bind fun _ => (allocate_does _ _ _).bind fun _ =>
    fillAll_does (fillInfo_does a) 0 mechs _) ?_ ?_
  · constructor
    · rintro ⟨h₁, h₂, h₃⟩; exact ⟨h₁, h₂, h₃⟩
    · intro h; exact ⟨h.createSet, h.allocInfo, h.info⟩
  · intro _; exact putAll_putInfo mechs _ [] [] rfl rfl

theorem fillDescs_does (a : Attempt) (descs : List GssxMechAttr) (r : Mechs)
    (ha : a.fails .allocDesc = false) :
    Filling.Does (fillDescs a descs) r (AllFrom (DescOk a) 0 descs) .failed
      { r with desc := some (descs.map convertDesc) } := by
  have hr : fillDescs a descs r = fillAll (fillDesc a) 0 descs
        { r with desc := some (List.replicate descs.length default) } := by
    rw [fillDescs, ha]; rfl
  rw [Filling.Does, hr]
  exact (fillAll_does (fillDesc_does a) 0 descs _).congr Iff.rfl fun _ =>
    putAll_putDesc descs _ [] rfl

/-! ## What an attempt leaves alone -/

theorem store_keeps {α : Type} {fails : Bool} {xs : List α}
    {set : Option (List α) → Mechs → Mechs} (hs : ∀ v r, P r → P (set v r)) :
    Filling.Keeps P (store fails xs set) := by
  intro r hr
  unfold store
  split
  · exact hr
  · exact hs _ r hr

theorem addMember_keeps {fails : Bool} {mech : Bytes}
    (hs : ∀ set r, P r → P { r with mechSet := set }) : Filling.Keeps P (addMember fails mech) := by
  intro r hr
  unfold addMember
  split
  · exact hr
  · exact hs _ r hr

theorem allocate_keeps {fails : Bool} {jump : Jump} {set : Bool → Mechs → Mechs}
    (hs : ∀ done r, P r → P (set done r)) : Filling.Keeps P (allocate fails jump set) := by
  intro r hr
  cases fails with
  | false | true => exact hs _ r hr

def Uncounted (r : Mechs) : Prop := r.initialized = false ∧ r.infoLen = 0 ∧ r.descLen = 0

theorem fillMechs_keeps (a : Attempt) (mechs : List GssxMechInfo) :
    Filling.Keeps Uncounted (fillMechs a mechs) := by
  have hs : ∀ {α : Type} (i : Nat) (xs : List α) (fails : Bool)
      (set : Option (List α) → MechInfo → MechInfo),
      Filling.Keeps Uncounted (store fails xs fun v => .setInfo i (set v)) :=
    fun i xs fails set => store_keeps fun v r hr => hr
  refine .bind (allocate_keeps ?_) fun _ => .bind (allocate_keeps ?_) fun _ =>
    fillAll_keeps (fun i mi => ?_) 0 mechs
  · exact fun done r hr => hr
  · exact fun done r hr => hr
  · exact .bind (hs i _ _ _) fun _ => .bind (addMember_keeps fun set r hr => hr) fun _ =>
      .bind (hs i _ _ _) fun _ => .bind (hs i _ _ _) fun _ => .bind (hs i _ _ _) fun _ =>
      .bind (hs i _ _ _) fun _ => .bind (hs i _ _ _) fun _ => .bind (hs i _ _ _) fun _ =>
      .bind (hs i _ _ _) fun _ => hs i _ _ _

theorem fillDescs_keeps (a : Attempt) (descs : List GssxMechAttr) (infoLen : Nat)
    (info : Option (List MechInfo)) :
    Filling.Keeps (fun r => r.initialized = false ∧ r.infoLen = infoLen ∧ r.info = info ∧ r.descLen = 0)
      (fillDescs a descs) := by
  refine .bind (allocate_keeps ?_) fun _ => fillAll_keeps (fun i ma => ?_) 0 descs
  · exact fun done r hr => hr
  · exact .bind (store_keeps fun v r hr => hr) fun _ => .bind (store_keeps fun v r hr => hr) fun _ =>
      .bind (store_keeps fun v r hr => hr) fun _ => store_keeps fun v r hr => hr

/-! ## How an attempt ends -/

def Mechs.ofReply (res : ResIndicateMechs) : Mechs :=
  { initialized := true
    mechSet := some (members res.mechs [])
    infoLen := res.mechs.length
    info := some (res.mechs.map convertInfo)
    descLen := res.mechAttrDescs.length
    desc := some (res.mechAttrDescs.map convertDesc) }

structure Attempt.SucceedsWith (a : Attempt) (res : ResIndicateMechs) : Prop where
  answer : a.answer = .ok res
  mechs : MechsOk a res.mechs
  allocDesc : a.fails .allocDesc = false
  descs : AllFrom (DescOk a) 0 res.mechAttrDescs

/-- The first table is complete, but the second one cannot be allocated, or filled where the first
    has entries. -/
structure Attempt.Abandons (a : Attempt) (res : ResIndicateMechs) : Prop where
  answer : a.answer = .ok res
  mechs : MechsOk a res.mechs
  stops : a.fails .allocDesc = true ∨ res.mechs ≠ [] ∧ ¬ AllFrom (DescOk a) 0 res.mechAttrDescs

def Mechs.withMechs (mechs : List GssxMechInfo) : Mechs :=
  { Mechs.empty with
    mechSet := some (members mechs []), info := some (mechs.map convertInfo), infoLen := mechs.length }

theorem release_uncounted {r : Mechs} (h : Uncounted r) : release r = some .empty := by
  obtain ⟨initialized, mechSet, infoLen, info, descLen, desc⟩ := r
  obtain ⟨rfl, rfl, rfl⟩ : initialized = false ∧ infoLen = 0 ∧ descLen = 0 := h
  rfl

section

variable {a : Attempt} {res : ResIndicateMechs}

theorem fill_of_mechsOk (ha : a.answer = .ok res) (hm : MechsOk a res.mechs) :
    fill a .empty = (do
      fillDescs a res.mechAttrDescs
      .write fun r => { r with descLen := res.mechAttrDescs.length, initialized := true })
        (.withMechs res.mechs) := by
  rw [fill, ha]
  show ((fillMechs a res.mechs) >>= _) Mechs.empty = _
  rw [Filling.bind_ok ((fillMechs_does a res.mechs .empty).1 hm)]
  rfl

theorem indicate_succeeds (h : a.SucceedsWith res) :
    gpmintIndicateMechs a .empty = some (.ofReply res) := by
  have hd := (fillDescs_does a res.mechAttrDescs (.withMechs res.mechs) h.allocDesc).1 h.descs
  rw [gpmintIndicateMechs, fill_of_mechsOk h.answer h.mechs, Filling.bind_ok hd]
  rfl

theorem indicate_of_not_mechsOk (ha : a.answer = .ok res) (hm : ¬ MechsOk a res.mechs) :
    gpmintIndicateMechs a .empty = some .empty := by
  obtain ⟨out, ho⟩ := (fillMechs_does a res.mechs .empty).2 hm
  have hk : Uncounted out := by
    have := fillMechs_keeps a res.mechs .empty ⟨rfl, rfl, rfl⟩
    rwa [ho] at this
  have hf : fill a .empty = (.error .failed, out) := by
    rw [fill, ha]
    show ((fillMechs a res.mechs) >>= _) Mechs.empty = _
    exact Filling.bind_error ho
  rw [gpmintIndicateMechs, hf]
  exact release_uncounted hk

theorem indicate_of_error {jump : Jump} (ha : a.answer = .error jump) :
    gpmintIndicateMechs a .empty = some .empty := by
  have hf : fill a .empty = (.error jump, .empty) := by rw [fill, ha]; rfl
  rw [gpmintIndicateMechs, hf]
  cases jump with
  | unnoticed => rfl
  | failed => exact release_uncounted ⟨rfl, rfl, rfl⟩

theorem indicate_of_not_descsOk (ha : a.answer = .ok res) (hm : MechsOk a res.mechs)
    (hal : a.fails .allocDesc = false) (hd : ¬ AllFrom (DescOk a) 0 res.mechAttrDescs) :
    gpmintIndicateMechs a .empty = some { Mechs.empty with infoLen := res.mechs.length } := by
  obtain ⟨out, ho⟩ := (fillDescs_does a res.mechAttrDescs (.withMechs res.mechs) hal).2 hd
  have hk := fillDescs_keeps a res.mechAttrDescs res.mechs.length
    (some (res.mechs.map convertInfo)) (.withMechs res.mechs) ⟨rfl, rfl, rfl, rfl⟩
  rw [ho] at hk
  rw [gpmintIndicateMechs, fill_of_mechsOk ha hm, Filling.bind_error ho]
  obtain ⟨initialized, mechSet, infoLen, info, descLen, desc⟩ := out
  obtain ⟨rfl, rfl, rfl, rfl⟩ : initialized = false ∧ infoLen = _ ∧ info = _ ∧ descLen = 0 := hk
  show release _ = _
  rw [release, if_pos ⟨Nat.zero_le _, by simp⟩]
  rfl

theorem indicate_of_not_allocDesc (ha : a.answer = .ok res) (hm : MechsOk a res.mechs)
    (hal : a.fails .allocDesc = true) :
    gpmintIndicateMechs a .empty = some (.withMechs res.mechs) := by
  have hd : fillDescs a res.mechAttrDescs (.withMechs res.mechs) =
      (.error .unnoticed, .withMechs res.mechs) := by
    rw [fillDescs, hal]; rfl
  rw [gpmintIndicateMechs, fill_of_mechsOk ha hm, Filling.bind_error hd]

end

def Attempt.Succeeds (a : Attempt) : Prop := ∃ res, a.SucceedsWith res

/-- **One attempt on the empty table**: the complete conversion, the empty table, or what an
    abandoned attempt leaves. -/
theorem indicate_cases (a : Attempt) :
    (∃ res, a.SucceedsWith res ∧ gpmintIndicateMechs a .empty = some (.ofReply res)) ∨
    (¬ a.Succeeds ∧ (∀ res, ¬ a.Abandons res) ∧ gpmintIndicateMechs a .empty = some .empty) ∨
    (∃ res r, a.Abandons res ∧ gpmintIndicateMechs a .empty = some r ∧ r ≠ .empty ∧
      r.initialized = false) := by
  cases ha : a.answer with
  | error jump =>
    refine .inr (.inl ⟨?_, ?_, indicate_of_error ha⟩)
    · rintro ⟨res, h⟩
      cases ha.symm.trans h.answer
    · intro res h
      cases ha.symm.trans h.answer
  | ok res =>
    have ho : ∀ res', a.answer = .ok res' → res' = res := fun res' h =>
      (Except.ok.inj (ha.symm.trans h)).symm
    by_cases hm : MechsOk a res.mechs
    · cases hal : a.fails .allocDesc with
      | true =>
        refine .inr (.inr ⟨res, .withMechs res.mechs, ⟨ha, hm, .inl hal⟩,
          indicate_of_not_allocDesc ha hm hal, ?_, rfl⟩)
        intro h
        cases congrArg Mechs.mechSet h
      | false =>
        by_cases hd : AllFrom (DescOk a) 0 res.mechAttrDescs
        · have hs : a.SucceedsWith res := ⟨ha, hm, hal, hd⟩
          exact .inl ⟨res, hs, indicate_succeeds hs⟩
        have he := indicate_of_not_descsOk ha hm hal hd
        by_cases hn : res.mechs = []
        · -- a length of 0 is no trace
          refine .inr (.inl ⟨?_, ?_, ?_⟩)
          · rintro ⟨res', h⟩
            cases ho res' h.answer
            exact hd h.descs
          · intro res' h
            cases ho res' h.answer
            rcases h.stops with hst | hst
            · rw [hal] at hst; cases hst
            · exact hst.1 hn
          · rw [he, hn]; rfl
        · refine .inr (.inr ⟨res, _, ⟨ha, hm, .inr ⟨hn, hd⟩⟩, he, ?_, rfl⟩)
          intro h
          exact hn (List.length_eq_zero_iff.mp (congrArg Mechs.infoLen h))
    · refine .inr (.inl ⟨?_, ?_, indicate_of_not_mechsOk ha hm⟩)
      · rintro ⟨res', h⟩
        cases ho res' h.answer
        exact hm h.mechs
      · intro res' h
        cases ho res' h.answer
        exact hm h.mechs

/-! ## Sequences of attempts -/

theorem attempts_initialized {r : Mechs} (as : List Attempt) (h : r.initialized = true) :
    attempts as r = some r := by
  cases as with
  | nil => rfl
  | cons a as => rw [attempts, if_pos h]

theorem attempts_append (as bs : List Attempt) (r : Mechs) :
    attempts (as ++ bs) r = attempts as r >>= attempts bs := by
  induction as generalizing r with
  | nil => rfl
  | cons a as ih =>
    rw [List.cons_append, attempts, attempts]
    split
    · rename_i h; exact (attempts_initialized bs h).symm
    · cases gpmintIndicateMechs a r with
      | none => rfl
      | some r' => exact ih r'

/-- After the attempts `made` the table is empty, or the conversion of the first success. -/
def AllOrNothing (made : List Attempt) (r : Mechs) : Prop :=
  r = .empty ∧ (∀ a ∈ made, ¬ a.Succeeds) ∨
    ∃ before a after res, made = before ++ a :: after ∧ (∀ b ∈ before, ¬ b.Succeeds) ∧
      a.SucceedsWith res ∧ r = .ofReply res

/-- So it is after each attempt. -/
def AlwaysAllOrNothing (as : List Attempt) : Prop :=
  ∀ made rest, as = made ++ rest → ∃ r, attempts made .empty = some r ∧ AllOrNothing made r

theorem attempts_allOrNothing (as : List Attempt)
    (hm : ∀ before a after, as = before ++ a :: after → (∀ b ∈ before, ¬ b.Succeeds) →
      ∀ res, ¬ a.Abandons res) : ∃ r, attempts as .empty = some r ∧ AllOrNothing as r := by
  induction as with
  | nil => exact ⟨.empty, rfl, .inl ⟨rfl, fun a h => absurd h List.not_mem_nil⟩⟩
  | cons a as ih =>
    rcases indicate_cases a with ⟨res, hs, he⟩ | ⟨hn, -, he⟩ | ⟨res, r, ha, -⟩
    · refine ⟨.ofReply res, ?_, .inr ⟨[], a, as, res, rfl, by simp, hs, rfl⟩⟩
      rw [attempts, he]
      exact attempts_initialized as rfl
    · obtain ⟨r, hru, hr⟩ := ih fun before b after has hbe =>
        hm (a :: before) b after (by rw [has]; rfl) (List.forall_mem_cons.mpr ⟨hn, hbe⟩)
      refine ⟨r, ?_, ?_⟩
      · rw [attempts, he]; exact hru
      · rcases hr with ⟨hem, hno⟩ | ⟨before, b, after, res, has, hbe, hb⟩
        · exact .inl ⟨hem, List.forall_mem_cons.mpr ⟨hn, hno⟩⟩
        · exact .inr ⟨a :: before, b, after, res, by rw [has]; rfl,
            List.forall_mem_cons.mpr ⟨hn, hbe⟩, hb⟩
    · exact absurd ha (hm [] a as rfl (by simp) res)

/-- **Sequences of attempts.**  The table is at all times empty or that of the first success, if and only
    if none of the attempts before that is abandoned in the second table. -/
theorem attempts_iff (as : List Attempt) :
    AlwaysAllOrNothing as ↔
      ∀ before a after, as = before ++ a :: after → (∀ b ∈ before, ¬ b.Succeeds) →
        ∀ res, ¬ a.Abandons res := by
  constructor
  · intro hal before a after has hbe res ha
    -- until then the table is empty
    obtain ⟨r, hru, hr⟩ := hal before (a :: after) has
    have he : r = .empty := by
      rcases hr with ⟨he, -⟩ | ⟨before', b, after', res', hsp, -, hb, -⟩
      · exact he
      · exact absurd ⟨res', hb⟩ (hbe b (by simp [hsp]))
    obtain ⟨r', hru', hr'⟩ := hal (before ++ [a]) after (by simp [has])
    rw [attempts_append, hru, he] at hru'
    have ho : gpmintIndicateMechs a .empty = some r' := by
      have hse : attempts [a] Mechs.empty = gpmintIndicateMechs a .empty := by
        rw [attempts]
        cases gpmintIndicateMechs a .empty <;> rfl
      rw [← hse]
      exact hru'
    rcases indicate_cases a with ⟨res', hs, -⟩ | ⟨-, hn, -⟩ | ⟨-, r'', -, hen, hne, hi⟩
    · -- the attempt cannot both succeed and be abandoned
      cases Except.ok.inj (hs.answer.symm.trans ha.answer)
      rcases ha.stops with hst | hst
      · cases hs.allocDesc.symm.trans hst
      · exact hst.2 hs.descs
    · exact hn res ha
    · cases Option.some.inj (ho.symm.trans hen)
      rcases hr' with ⟨he', -⟩ | ⟨-, -, -, res', -, -, -, hre⟩
      · exact hne he'
      · rw [hre] at hi; cases hi
  · intro hm made rest has
    refine attempts_allOrNothing made fun before a after hsp => ?_
    exact hm before a (after ++ rest) (by rw [has, hsp]; simp)

def smallReply : ResIndicateMechs :=
  { (default : ResIndicateMechs) with
    mechs := [{ (default : GssxMechInfo) with mech := ⟨[0x2a]⟩ }]
    mechAttrDescs := [{ (default : GssxMechAttr) with attr := ⟨[0x2b]⟩ }] }

def halfway : Attempt := ⟨.ok smallReply, fun site => site == .desc 0 .attr⟩

def tableless : Attempt := ⟨.ok smallReply, fun site => site == .allocDesc⟩

def unreachable : Attempt := ⟨.error ENOENT, fun _ => false⟩

/-- The first leaves the length of a released table, which a later attempt goes over; the second
    leaves an abandoned set of mechanisms. -/
theorem attempts_halfway : attempts [halfway] .empty = some { Mechs.empty with infoLen := 1 } ∧
      attempts [halfway, unreachable] .empty = none ∧
      (∃ r, attempts [tableless] .empty = some r ∧ r.initialized = false ∧
        r.mechSet = some [[0x2a]]) ∧
      ¬ AlwaysAllOrNothing [halfway] := by
  refine ⟨by decide, by decide, ⟨_, rfl, rfl, by decide⟩, fun ha => ?_⟩
  obtain ⟨r, hru, hr⟩ := ha [halfway] [] rfl
  have hen : r = { Mechs.empty with infoLen := 1 } := Option.some.inj (hru.symm.trans (by decide))
  rcases hr with ⟨he, -⟩ | ⟨-, -, -, res, -, -, -, hre⟩
  · rw [hen] at he; exact absurd he (by decide)
  · rw [hen] at hre
    cases congrArg Mechs.initialized hre

end GssProxy.Client.MechCache
