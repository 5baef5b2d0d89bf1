import GssProxy.Client.MechCache
import GssProxy.Interposer.InitSecContext

/-!
# Mechanism queries while the daemon comes and goes

Three entry points answer from the table of mechanisms.  In C, `gpmint_init_global_mechs` tries to fill it
twice at the first query and once at every later one until it succeeds; in Rust, `cache` keeps the outcome
of the first attempt.  A query without a place for its results ends in C before the table is looked at.
Allocations succeed here and so do the calls on sets, but for identifiers without bytes.

* `mechQueries_alike`: a condition on the history under which the two answer every query alike; for
  `REMOTE_ONLY` it is the exact one.
-/

namespace GssProxy.Interposer.MechQueries

open Codec Gss Proto Client
open Client.IndicateMechs (OidSet Ret)
open Client.MechCache (Mechs Attempt gpmintIndicateMechs oidSet convertInfo)

/-! ## Queries -/

/-- The `want` flags tell which places for results are not null. -/
inductive Query where
  | names (mech : Option Bytes) (wantNames : Bool)
  | attrs (mech : Option Bytes) (wantAttrs wantKnown : Bool)
  | saslname (mech : Option Bytes) (wantSasl wantName wantDesc : Bool)
  deriving DecidableEq, Repr

def Query.mech : Query → Option Bytes
  | .names mech _ => mech
  | .attrs mech _ _ => mech
  | .saslname mech _ _ _ => mech

/-- The places without which the C code does not start. -/
def Query.placed : Query → Bool
  | .names _ wantNames => wantNames
  | .attrs _ _ _ => true
  | .saslname _ wantSasl wantName wantDesc => wantSasl && wantName && wantDesc

inductive Data where
  | names (nameTypes : OidSet)
  | attrs (mechAttrs knownMechAttrs : Option OidSet)
  | saslname (saslMechName mechName mechDesc : Option Bytes)
  deriving DecidableEq, Repr

abbrev Answer : Type := Except Ret Data

/-- A query with the replies to a first and a second `GSSX_INDICATE_MECHS` call during it, or their
    error numbers, and the answers of the local mechanism to a first and a later call. -/
structure Ask where
  query : Query
  first : Except UInt32 ResIndicateMechs
  second : Except UInt32 ResIndicateMechs
  localFirst : Answer
  localThen : Answer

/-! ## Sets -/

/-- `gss_add_oid_set_member`: whether it takes an identifier without bytes, and where a new one goes. -/
structure SetLib where
  takesEmpty : Bool
  add : Bytes → OidSet → OidSet

variable (sets : SetLib)

def addMember (oid : Bytes) (set : OidSet) : Except Ret OidSet :=
  if oid = [] ∧ sets.takesEmpty = false then .error ⟨GSS_S_CALL_INACCESSIBLE_READ, 0⟩
  else .ok (sets.add oid set)

def copyMembers : List Bytes → OidSet → Except Ret OidSet
  | [], set => .ok set
  | oid :: oids, set => addMember sets oid set >>= copyMembers oids

def gpmCopyGssOidSet (oldset : Option OidSet) : Option (Except Ret OidSet) :=
  oldset.map fun oids => copyMembers sets oids []

def buildMember (set : OidSet) (oid : Bytes) : OidSet :=
  match addMember sets oid set with
  | .ok set' => set'
  | .error _ => set

def buildOidSet (oids : List Bytes) : OidSet :=
  oids.foldl (buildMember sets) []

/-! ## The table in C -/

def gssOidEqual : Option Bytes → Option Bytes → Bool
  | some a, some b => a == b
  | _, _ => false

def gpmFind (r : Mechs) (mech : Option Bytes) : Option MechCache.MechInfo :=
  ((r.info.getD []).take r.infoLen).find? fun gi => gssOidEqual gi.mech mech

def gpmCopyWanted (want : Bool) (oldset : Option OidSet) :
    Option (Except Ret (Option OidSet)) :=
  if want then (gpmCopyGssOidSet sets oldset).map fun x => x.map some else some (.ok none)

def gpmEntry (gi : MechCache.MechInfo) : Query → Option Answer
  | .names _ _ => (gpmCopyGssOidSet sets gi.nameTypes).map fun x => x.map .names
  | .attrs _ wantAttrs wantKnown =>
    match gpmCopyWanted sets wantAttrs gi.mechAttrs with
    | none => none
    | some (.error e) => some (.error e)
    | some (.ok mechAttrs) =>
      (gpmCopyWanted sets wantKnown gi.knownMechAttrs).map fun x => x.map (.attrs mechAttrs)
  | .saslname _ _ _ _ => some (.ok (.saslname (some (gi.saslnameSaslMechName.getD []))
      (some (gi.saslnameMechName.getD [])) (some (gi.saslnameMechDesc.getD []))))

/-- `gpm_inquire_names_for_mech`, `gpm_inquire_attrs_for_mech` and `gpm_inquire_saslname_for_mech`
    on the table. -/
def gpmInquire (r : Mechs) (q : Query) : Option Answer :=
  match gpmFind r q.mech with
  | none => some (.error ⟨GSS_S_BAD_MECH, 0⟩)
  | some gi => gpmEntry sets gi q

structure Globals where
  once : Bool
  mechs : Mechs

def Globals.start : Globals := ⟨false, .empty⟩

def attempt (reply : Except UInt32 ResIndicateMechs) : MechCache.Attempt := ⟨reply, fun _ => false⟩

def gpmintInitGlobalMechs (x : Ask) (s : Globals) : Option Globals := do
  let mechs ← if s.once then some s.mechs else gpmintIndicateMechs (attempt x.first) s.mechs
  let mechs ← if mechs.initialized then some mechs
    else gpmintIndicateMechs (attempt (if s.once then x.first else x.second)) mechs
  return ⟨true, mechs⟩

/-- The whole of the three functions; `none` is an access to a null set. -/
def gpmAsk (x : Ask) (s : Globals) : Option (Answer × Globals) :=
  if x.query.placed then do
    let s ← gpmintInitGlobalMechs x s
    if s.mechs.initialized then
      let answer ← gpmInquire sets s.mechs x.query
      return (answer, s)
    else return (.error ⟨GSS_S_FAILURE, EIO⟩, s)
  else some (.error ⟨GSS_S_CALL_INACCESSIBLE_WRITE, 0⟩, s)

/-! ## The cache in Rust -/

structure MechInfo where
  mech : Bytes
  nameTypes : List Bytes
  mechAttrs : List Bytes
  knownMechAttrs : List Bytes
  saslnameSaslMechName : Bytes
  saslnameMechName : Bytes
  saslnameMechDesc : Bytes

def MechInfo.ofGssx (m : GssxMechInfo) : MechInfo :=
  ⟨m.mech.data, oidSet m.nameTypes, oidSet m.mechAttrs, oidSet m.knownMechAttrs,
    m.saslnameSaslMechName.data, m.saslnameMechName.data, m.saslnameMechDesc.data⟩

structure Cache where
  ok : Bool
  info : List MechInfo

def indicateMechs (reply : Except UInt32 ResIndicateMechs) : UInt32 × List GssxMechInfo :=
  match reply with
  | .error _ => (GSS_S_FAILURE, [])
  | .ok res => (res.status.majorStatus.toUInt32, res.mechs)

def initCache (reply : Except UInt32 ResIndicateMechs) : Cache :=
  let (maj, mechs) := indicateMechs reply
  if maj ≠ GSS_S_COMPLETE then ⟨false, []⟩ else ⟨true, mechs.map MechInfo.ofGssx⟩

def findMech (c : Cache) (mech : Option Bytes) : Except Ret MechInfo :=
  if c.ok = false then .error ⟨GSS_S_FAILURE, EIO⟩
  else
    match mech with
    | none => .error ⟨GSS_S_BAD_MECH, 0⟩
    | some bytes =>
      match c.info.find? fun m => m.mech == bytes with
      | none => .error ⟨GSS_S_BAD_MECH, 0⟩
      | some info => .ok info

/-- What is written for a mechanism that is found; only the place of the name types is not looked at. -/
def inquire (info : MechInfo) : Query → Option Data
  | .names _ wantNames =>
    if wantNames then some (.names (buildOidSet sets info.nameTypes)) else none
  | .attrs _ wantAttrs wantKnown =>
    some (.attrs (if wantAttrs then some (buildOidSet sets info.mechAttrs) else none)
      (if wantKnown then some (buildOidSet sets info.knownMechAttrs) else none))
  | .saslname _ wantSasl wantName wantDesc =>
    some (.saslname (if wantSasl then some info.saslnameSaslMechName else none)
      (if wantName then some info.saslnameMechName else none)
      (if wantDesc then some info.saslnameMechDesc else none))

def ask (x : Ask) (cell : Option Cache) : Option (Answer × Option Cache) :=
  let c := cell.getD (initCache x.first)
  match findMech c x.query.mech with
  | .error e => some (.error e, some c)
  | .ok info => (inquire sets info x.query).map fun data => (.ok data, some c)

def report : Answer → Answer
  | .ok data => .ok data
  | .error e => .error { e with minor := mapError e.minor }

section

variable {σ : Type}

/-- The frame of the three entry points in both languages: `remote` is the way to the table. -/
def gssiInquire (behavior : Behavior) (x : Ask) (remote : σ → Option (Answer × σ)) (s : σ) :
    Option (Answer × σ) :=
  match behavior with
  | .localOnly => some (report x.localFirst, s)
  | .localFirst =>
    match x.localFirst with
    | .ok data => some (.ok data, s)
    | .error e =>
      (remote s).map fun (answer, s) =>
        match answer with
        | .ok data => (.ok data, s)
        | .error _ =>
          match x.localThen with
          | .ok data => (.ok data, s)
          | .error _ => (report (.error e), s)
  | .remoteFirst =>
    (remote s).map fun (answer, s) =>
      match answer with
      | .ok data => (.ok data, s)
      | .error _ => (report x.localThen, s)
  | .remoteOnly => (remote s).map fun (answer, s) => (report answer, s)

def answers (behavior : Behavior) (remote : Ask → σ → Option (Answer × σ)) :
    List Ask → σ → List (Option Answer)
  | [], _ => []
  | x :: xs, s =>
    match gssiInquire behavior x (remote x) s with
    | none => [none]
    | some (answer, s) => some answer :: answers behavior remote xs s

end

/-- Both languages answer the queries alike. -/
def Alike (behavior : Behavior) (sets : SetLib) (asks : List Ask) : Prop :=
  answers behavior (gpmAsk sets) asks .start = answers behavior (ask sets) asks none

/-! ## Replies -/

structure Usable (reply : Except UInt32 ResIndicateMechs) (res : ResIndicateMechs) : Prop where
  reply : reply = .ok res
  major : res.status.majorStatus = 0
  mechs : ∀ mi ∈ res.mechs, mi.mech.data ≠ []

structure Taken (reply : Except UInt32 ResIndicateMechs) (res : ResIndicateMechs) : Prop where
  reply : reply = .ok res
  major : res.status.majorStatus.toUInt32 = 0

def Useless (reply : Except UInt32 ResIndicateMechs) : Prop := ∀ res, ¬ Usable reply res

variable {reply : Except UInt32 ResIndicateMechs} {res : ResIndicateMechs} {sets}

theorem Usable.taken (h : Usable reply res) : Taken reply res := ⟨h.reply, by rw [h.major]; rfl⟩

theorem attempt_stores {α : Type} (xs : List α) : MechCache.Stores false xs := by
  simp [MechCache.Stores]

theorem attempt_mechsOk (reply : Except UInt32 ResIndicateMechs) (mechs : List GssxMechInfo) :
    MechCache.MechsOk (attempt reply) mechs ↔ ∀ mi ∈ mechs, mi.mech.data ≠ [] := by
  have ha : ∀ i, MechCache.AllFrom (MechCache.InfoOk (attempt reply)) i mechs ↔
      ∀ mi ∈ mechs, mi.mech.data ≠ [] := by
    induction mechs with
    | nil => simp [MechCache.AllFrom]
    | cons mi mechs ih =>
      intro i
      rw [MechCache.AllFrom, ih, List.forall_mem_cons]
      refine and_congr_left fun _ => ⟨fun h => h.mech, fun h => ⟨fun field => ?_, h, rfl⟩⟩
      cases field <;> exact attempt_stores _
  exact ⟨fun h => (ha 0).mp h.info, fun h => ⟨rfl, rfl, (ha 0).mpr h⟩⟩

theorem attempt_descsOk (reply : Except UInt32 ResIndicateMechs) (descs : List GssxMechAttr)
    (i : Nat) : MechCache.AllFrom (MechCache.DescOk (attempt reply)) i descs := by
  induction descs generalizing i with
  | nil => trivial
  | cons ma descs ih => exact ⟨fun field => by cases field <;> exact attempt_stores _, ih (i + 1)⟩

theorem attempt_answer :
    (attempt reply).answer = .ok res ↔ reply = .ok res ∧ res.status.majorStatus = 0 := by
  cases reply with
  | error _ => simp [Attempt.answer, attempt]
  | ok res' =>
    simp only [Attempt.answer, attempt, Except.ok.injEq]
    split
    · rename_i hz
      exact ⟨fun h => by cases h; exact ⟨rfl, hz⟩, fun h => congrArg _ h.1⟩
    · rename_i hne
      refine ⟨fun h => ?_, fun h => absurd (h.1 ▸ h.2) hne⟩
      split at h <;> cases h

theorem indicate_usable
    (h : Usable reply res) : gpmintIndicateMechs (attempt reply) .empty = some (.ofReply res) :=
  MechCache.indicate_succeeds ⟨attempt_answer.mpr ⟨h.reply, h.major⟩, (attempt_mechsOk _ _).mpr h.mechs,
    rfl, attempt_descsOk _ _ _⟩

theorem indicate_useless (h : Useless reply) :
    gpmintIndicateMechs (attempt reply) .empty = some .empty := by
  have hu : ∀ res, (attempt reply).answer = .ok res →
      MechCache.MechsOk (attempt reply) res.mechs → Usable reply res := fun res han hm =>
    ⟨(attempt_answer.mp han).1, (attempt_answer.mp han).2, (attempt_mechsOk _ _).mp hm⟩
  rcases MechCache.indicate_cases (attempt reply) with ⟨res, hs, -⟩ | ⟨-, -, he⟩ | ⟨res, r, ha, -⟩
  · exact absurd (hu res hs.answer hs.mechs) (h res)
  · exact he
  · exact absurd (hu res ha.answer ha.mechs) (h res)

/-! ## One query -/

def lookup (res : ResIndicateMechs) (mech : Option Bytes) : Option GssxMechInfo :=
  mech.bind fun bytes => res.mechs.find? fun mi => mi.mech.data == bytes

def Copied (sets : SetLib) (oids : List Bytes) : Prop :=
  oids ≠ [] ∧ (sets.takesEmpty = true ∨ [] ∉ oids)

def EntryServes (sets : SetLib) (mi : GssxMechInfo) : Query → Prop
  | .names _ _ => Copied sets (oidSet mi.nameTypes)
  | .attrs _ wantAttrs wantKnown =>
    (wantAttrs = true → Copied sets (oidSet mi.mechAttrs)) ∧
      (wantKnown = true → Copied sets (oidSet mi.knownMechAttrs))
  | .saslname _ _ _ _ => True

/-- The entry for the mechanism, if there is one, has what the query asks for. -/
def Serves (sets : SetLib) (res : ResIndicateMechs) (q : Query) : Prop :=
  ∀ mi, lookup res q.mech = some mi → EntryServes sets mi q

/-- The answer of the Rust code when its cache holds the reply. -/
def answerFrom (sets : SetLib) (res : ResIndicateMechs) (q : Query) : Option Answer :=
  match lookup res q.mech with
  | none => some (.error ⟨GSS_S_BAD_MECH, 0⟩)
  | some mi => (inquire sets (.ofGssx mi) q).map .ok

theorem gpmFind_ofReply (hm : ∀ mi ∈ res.mechs, mi.mech.data ≠ [])
    (mech : Option Bytes) : gpmFind (.ofReply res) mech = (lookup res mech).map convertInfo := by
  have hf : ∀ mechs : List GssxMechInfo, (∀ mi ∈ mechs, mi.mech.data ≠ []) →
      (mechs.map convertInfo).find? (fun gi => gssOidEqual gi.mech mech) =
        (mech.bind fun bytes => mechs.find? fun mi => mi.mech.data == bytes).map convertInfo := by
    intro mechs ha
    induction mechs with
    | nil => cases mech <;> rfl
    | cons mi mechs ih =>
      rw [List.forall_mem_cons] at ha
      have hme : (convertInfo mi).mech = some mi.mech.data := if_neg ha.1
      rw [List.map_cons, List.find?_cons, ih ha.2, hme]
      cases mech with
      | none => rfl
      | some bytes =>
        simp only [gssOidEqual, Option.bind_some, List.find?_cons]
        split <;> rfl
  have ht : ((Mechs.ofReply res).info.getD []).take (Mechs.ofReply res).infoLen =
      res.mechs.map convertInfo := List.take_of_length_le (by simp [Mechs.ofReply])
  rw [gpmFind, ht, hf res.mechs hm]
  rfl

variable {oids : List Bytes}

theorem copyMembers_eq (set : OidSet) (ht : sets.takesEmpty = true ∨ [] ∉ oids) :
    copyMembers sets oids set = .ok (oids.foldl (buildMember sets) set) := by
  induction oids generalizing set with
  | nil => rfl
  | cons oid oids ih =>
    have ho : ¬ (oid = [] ∧ sets.takesEmpty = false) := by
      rintro ⟨rfl, hf⟩
      simp [hf] at ht
    have ha : addMember sets oid set = .ok (buildMember sets set oid) := by
      rw [buildMember, addMember, if_neg ho]
    rw [copyMembers, ha]
    exact ih _ (ht.imp_right fun h hm => h (.tail _ hm))

theorem copyMembers_fails (set : OidSet) (hr : sets.takesEmpty = false) (hm : [] ∈ oids) :
    copyMembers sets oids set = .error ⟨GSS_S_CALL_INACCESSIBLE_READ, 0⟩ := by
  induction oids generalizing set with
  | nil => cases hm
  | cons oid oids ih =>
    by_cases ho : oid = []
    · rw [copyMembers, addMember, if_pos ⟨ho, hr⟩]; rfl
    · rw [copyMembers, addMember, if_neg fun h => ho h.1]
      exact ih _ ((List.mem_cons.mp hm).resolve_left (Ne.symm ho))

/-- A copy is complete, or it reads a null set, or it stops at an identifier without bytes. -/
theorem gpmCopyGssOidSet_cases (sets : SetLib) (oids : List Bytes) :
    (Copied sets oids ∧ gpmCopyGssOidSet sets (MechCache.converted oids) =
        some (.ok (buildOidSet sets oids))) ∨
      ¬ Copied sets oids ∧
        (gpmCopyGssOidSet sets (MechCache.converted oids) = none ∨
          gpmCopyGssOidSet sets (MechCache.converted oids) =
            some (.error ⟨GSS_S_CALL_INACCESSIBLE_READ, 0⟩)) := by
  unfold gpmCopyGssOidSet MechCache.converted
  by_cases he : oids = []
  · exact .inr ⟨fun h => h.1 he, .inl (by simp [he])⟩
  rw [if_neg he]
  by_cases ht : sets.takesEmpty = true ∨ [] ∉ oids
  · exact .inl ⟨⟨he, ht⟩, congrArg some (copyMembers_eq [] ht)⟩
  · refine .inr ⟨fun h => ht h.2, .inr (congrArg some ?_)⟩
    simp only [not_or, Bool.not_eq_true, not_not] at ht
    exact copyMembers_fails [] ht.1 ht.2

theorem gpmCopyWanted_cases (sets : SetLib) (want : Bool) (oids : List Bytes) :
    ((want = true → Copied sets oids) ∧
        gpmCopyWanted sets want (MechCache.converted oids) =
          some (.ok (if want then some (buildOidSet sets oids) else none))) ∨
      ¬ (want = true → Copied sets oids) ∧
        (gpmCopyWanted sets want (MechCache.converted oids) = none ∨
          gpmCopyWanted sets want (MechCache.converted oids) =
            some (.error ⟨GSS_S_CALL_INACCESSIBLE_READ, 0⟩)) := by
  unfold gpmCopyWanted
  cases want with
  | false => exact .inl ⟨nofun, rfl⟩
  | true =>
    simp only [if_true, forall_const]
    exact (gpmCopyGssOidSet_cases sets oids).imp (fun h => ⟨h.1, by rw [h.2]; rfl⟩)
      fun h => ⟨h.1, h.2.imp (fun h => by rw [h]; rfl) fun h => by rw [h]; rfl⟩

theorem converted_getD {α : Type} (xs : List α) : (MechCache.converted xs).getD [] = xs := by
  unfold MechCache.converted
  split
  · rename_i h; exact h.symm
  · rfl

/-- An entry that serves answers as the Rust code does; another gives no answer, or an error that
    the Rust code never reports. -/
theorem gpmEntry_cases (mi : GssxMechInfo) {q : Query} (hplaced : q.placed = true) :
    (EntryServes sets mi q ∧ gpmEntry sets (convertInfo mi) q =
        (inquire sets (.ofGssx mi) q).map .ok) ∨
      ¬ EntryServes sets mi q ∧ (gpmEntry sets (convertInfo mi) q = none ∨
        gpmEntry sets (convertInfo mi) q = some (.error ⟨GSS_S_CALL_INACCESSIBLE_READ, 0⟩)) := by
  cases q with
  | names mech wantNames =>
    obtain rfl : wantNames = true := hplaced
    simp only [gpmEntry, convertInfo, EntryServes, inquire, MechInfo.ofGssx]
    rcases gpmCopyGssOidSet_cases sets (oidSet mi.nameTypes) with ⟨h, hc⟩ | ⟨h, hc | hc⟩
    · exact .inl ⟨h, by rw [hc]; rfl⟩
    · exact .inr ⟨h, .inl (by rw [hc]; rfl)⟩
    · exact .inr ⟨h, .inr (by rw [hc]; rfl)⟩
  | attrs mech wantAttrs wantKnown =>
    simp only [gpmEntry, convertInfo, EntryServes, inquire, MechInfo.ofGssx]
    rcases gpmCopyWanted_cases sets wantAttrs (oidSet mi.mechAttrs) with ⟨h, hc⟩ | ⟨h, hc | hc⟩
    · rcases gpmCopyWanted_cases sets wantKnown (oidSet mi.knownMechAttrs) with
        ⟨h', hc'⟩ | ⟨h', hc' | hc'⟩
      · exact .inl ⟨⟨h, h'⟩, by rw [hc, hc']; rfl⟩
      · exact .inr ⟨fun hs => h' hs.2, .inl (by rw [hc, hc']; rfl)⟩
      · exact .inr ⟨fun hs => h' hs.2, .inr (by rw [hc, hc']; rfl)⟩
    · exact .inr ⟨fun hs => h hs.1, .inl (by rw [hc])⟩
    · exact .inr ⟨fun hs => h hs.1, .inr (by rw [hc])⟩
  | saslname mech wantSasl wantName wantDesc =>
    simp only [Query.placed, Bool.and_eq_true] at hplaced
    obtain ⟨⟨rfl, rfl⟩, rfl⟩ := hplaced
    exact .inl ⟨trivial, by simp only [gpmEntry, convertInfo, converted_getD]; rfl⟩

section

variable {q : Query} {answer : Answer}

theorem inquire_placed (sets : SetLib) (info : MechInfo) (hplaced : q.placed = true) :
    ∃ data, inquire sets info q = some data := by
  cases q with
  | names mech wantNames => obtain rfl : wantNames = true := hplaced; exact ⟨_, rfl⟩
  | attrs => exact ⟨_, rfl⟩
  | saslname => exact ⟨_, rfl⟩

theorem answerFrom_placed (sets : SetLib) (res : ResIndicateMechs) (hplaced : q.placed = true) :
    ∃ answer, answerFrom sets res q = some answer := by
  unfold answerFrom
  split
  · exact ⟨_, rfl⟩
  · obtain ⟨data, hd⟩ := inquire_placed sets (.ofGssx _) hplaced
    exact ⟨_, congrArg (Option.map _) hd⟩

theorem gpmInquire_eq_iff (hm : ∀ mi ∈ res.mechs, mi.mech.data ≠ []) (hplaced : q.placed = true) :
    gpmInquire sets (.ofReply res) q = answerFrom sets res q ↔ Serves sets res q := by
  rw [gpmInquire, gpmFind_ofReply hm, answerFrom, Serves]
  cases hf : lookup res q.mech with
  | none => exact iff_of_true rfl nofun
  | some mi =>
    simp only [Option.map_some, Option.some.injEq, forall_eq']
    obtain ⟨data, hd⟩ := inquire_placed sets (.ofGssx mi) hplaced
    rcases gpmEntry_cases mi hplaced with ⟨h, hc⟩ | ⟨h, hc | hc⟩
    · exact iff_of_true hc h
    · exact iff_of_false (by rw [hc, hd]; nofun) h
    · exact iff_of_false (by rw [hc, hd]; nofun) h

/-- From a table no answer is a failure with an error number. -/
def FromTable (answer : Answer) : Prop := ∀ e, answer = .error e → e.major ≠ GSS_S_FAILURE ∧ e.minor = 0

theorem gpmInquire_fromTable (hm : ∀ mi ∈ res.mechs, mi.mech.data ≠ []) (hplaced : q.placed = true)
    (h : gpmInquire sets (.ofReply res) q = some answer) : FromTable answer := by
  rw [gpmInquire, gpmFind_ofReply hm] at h
  cases hf : lookup res q.mech with
  | none =>
    rw [hf] at h
    cases h
    rintro _ ⟨⟩
    exact ⟨by decide, rfl⟩
  | some mi =>
    simp only [hf, Option.map_some] at h
    rcases gpmEntry_cases mi hplaced with ⟨-, hc⟩ | ⟨-, hc | hc⟩
    · rw [hc] at h
      obtain ⟨data, -, rfl⟩ := Option.map_eq_some_iff.mp h; nofun
    · rw [hc] at h; cases h
    · rw [hc] at h
      cases h
      rintro _ ⟨⟩
      exact ⟨by decide, rfl⟩

theorem answerFrom_fromTable (h : answerFrom sets res q = some answer) : FromTable answer := by
  unfold answerFrom at h
  split at h
  · cases h
    rintro _ ⟨⟩
    exact ⟨by decide, rfl⟩
  · obtain ⟨data, -, rfl⟩ := Option.map_eq_some_iff.mp h; nofun

theorem FromTable.report (h : FromTable answer) : MechQueries.report answer = answer := by
  cases answer with
  | ok data => rfl
  | error e =>
    obtain ⟨major, minor⟩ := e
    cases (h _ rfl).2
    rfl

end

/-! ## Histories -/

/-- The query comes to the table. -/
def Ask.consults (behavior : Behavior) (x : Ask) : Bool :=
  match behavior, x.localFirst with
  | .localOnly, _ => false
  | .localFirst, .ok _ => false
  | _, _ => true

/-- The first reply is usable and serves every query; or only the Rust code can use it and the
    second one, usable, gives the same answers; or all replies are lost, the first on Rust as well.
    -/
def HistoryAlike (sets : SetLib) : List Ask → Prop
  | [] => True
  | x :: xs =>
    (∀ y ∈ x :: xs, y.query.placed = true) ∧
    ((∃ res, Usable x.first res ∧ ∀ y ∈ x :: xs, Serves sets res y.query) ∨
    (∃ res res', Useless x.first ∧ Taken x.first res ∧ Usable x.second res' ∧ ∀ y ∈ x :: xs,
      gpmInquire sets (.ofReply res') y.query = answerFrom sets res y.query) ∨
    (∀ res, ¬ Taken x.first res) ∧ Useless x.second ∧ ∀ y ∈ xs, Useless y.first)

def tableOf (res : ResIndicateMechs) : Globals := ⟨true, .ofReply res⟩

def lostTable : Globals := ⟨true, .empty⟩

def cacheOf (res : ResIndicateMechs) : Option Cache := some ⟨true, res.mechs.map MechInfo.ofGssx⟩

def lostCache : Option Cache := some ⟨false, []⟩

def noTable : Answer := .error ⟨GSS_S_FAILURE, EIO⟩

section

variable {sets : SetLib} {x : Ask} {res : ResIndicateMechs}

theorem init_lost_useless (h : Useless x.first) : gpmintInitGlobalMechs x lostTable = some lostTable := by
  show (gpmintIndicateMechs (attempt x.first) .empty >>= _) = _
  rw [indicate_useless h]
  rfl

theorem init_lost_usable (h : Usable x.first res) :
    gpmintInitGlobalMechs x lostTable = gpmintInitGlobalMechs x (tableOf res) := by
  show (gpmintIndicateMechs (attempt x.first) .empty >>= _) = _
  rw [indicate_usable h]
  rfl

theorem init_start_usable (h : Usable x.first res) :
    gpmintInitGlobalMechs x .start = gpmintInitGlobalMechs x (tableOf res) := by
  show (gpmintIndicateMechs (attempt x.first) .empty >>= _) = _
  rw [indicate_usable h]
  rfl

theorem init_start_second (hf : Useless x.first) (h : Usable x.second res) :
    gpmintInitGlobalMechs x .start = gpmintInitGlobalMechs x (tableOf res) := by
  show (gpmintIndicateMechs (attempt x.first) .empty >>= _) = _
  rw [indicate_useless hf]
  show (gpmintIndicateMechs (attempt x.second) .empty >>= _) = _
  rw [indicate_usable h]
  rfl

theorem init_start_useless (hf : Useless x.first) (hs : Useless x.second) :
    gpmintInitGlobalMechs x .start = some lostTable := by
  show (gpmintIndicateMechs (attempt x.first) .empty >>= _) = _
  rw [indicate_useless hf]
  show (gpmintIndicateMechs (attempt x.second) .empty >>= _) = _
  rw [indicate_useless hs]
  rfl

variable (hplaced : x.query.placed = true)
include hplaced

theorem gpmAsk_tableOf : gpmAsk sets x (tableOf res) =
    (gpmInquire sets (.ofReply res) x.query).map fun answer => (answer, tableOf res) := by
  rw [gpmAsk, if_pos hplaced]
  show (gpmInquire sets (.ofReply res) x.query >>= fun answer => some (answer, tableOf res)) = _
  cases gpmInquire sets (.ofReply res) x.query <;> rfl

theorem gpmAsk_of_init {s s' : Globals} (h : gpmintInitGlobalMechs x s = gpmintInitGlobalMechs x s') :
    gpmAsk sets x s = gpmAsk sets x s' := by
  rw [gpmAsk, gpmAsk, if_pos hplaced, if_pos hplaced, h]

theorem gpmAsk_lost {s : Globals} (h : gpmintInitGlobalMechs x s = some lostTable) :
    gpmAsk sets x s = some (noTable, lostTable) := by
  rw [gpmAsk, if_pos hplaced, h]
  rfl

omit hplaced

theorem ask_cacheOf : ask sets x (cacheOf res) =
    (answerFrom sets res x.query).map fun answer => (answer, cacheOf res) := by
  unfold ask findMech answerFrom lookup
  cases x.query.mech with
  | none => rfl
  | some bytes =>
    simp only [cacheOf, Option.getD_some, Bool.true_eq_false, if_false, Option.bind_some, List.find?_map,
      Function.comp_def]
    have hm : ∀ mi, (MechInfo.ofGssx mi).mech = mi.mech.data := fun _ => rfl
    simp only [hm]
    cases res.mechs.find? fun mi => mi.mech.data == bytes with
    | none => rfl
    | some mi => simp [Function.comp_def]

theorem ask_none_taken (h : Taken x.first res) : ask sets x none = ask sets x (cacheOf res) := by
  have hi : initCache x.first = ⟨true, res.mechs.map MechInfo.ofGssx⟩ := by
    rw [h.reply]; exact if_neg (not_not.mpr h.major)
  rw [ask, hi]
  rfl

theorem ask_none_lost (h : ∀ res, ¬ Taken x.first res) :
    ask sets x none = some (noTable, lostCache) := by
  have hi : initCache x.first = ⟨false, []⟩ := by
    cases hr : x.first with
    | error errno => rfl
    | ok res => exact if_pos fun hm => h res ⟨hr, hm⟩
  rw [ask, hi]
  rfl

end

def AlikeFrom (behavior : Behavior) (sets : SetLib) (asks : List Ask) (s : Globals)
    (cell : Option Cache) : Prop :=
  answers behavior (gpmAsk sets) asks s = answers behavior (ask sets) asks cell

section

variable {behavior : Behavior} {sets : SetLib} {x : Ask} {xs : List Ask} {s s' : Globals}
  {cell cell' : Option Cache} {a b : Answer} {res' : ResIndicateMechs}

theorem AlikeFrom.skip (h : x.consults behavior = false) (hr : AlikeFrom behavior sets xs s cell) :
    AlikeFrom behavior sets (x :: xs) s cell := by
  unfold AlikeFrom answers gssiInquire
  cases behavior with
  | localOnly => exact congrArg _ hr
  | localFirst =>
    cases hl : x.localFirst with
    | ok data => exact congrArg _ hr
    | error e => simp [Ask.consults, hl] at h
  | remoteFirst => cases h
  | remoteOnly => cases h

theorem AlikeFrom.step (hc : gpmAsk sets x s = some (a, s'))
    (hr : ask sets x cell = some (a, cell')) (hco : x.consults behavior = true)
    (hre : AlikeFrom behavior sets xs s' cell') : AlikeFrom behavior sets (x :: xs) s cell := by
  unfold AlikeFrom answers gssiInquire
  rw [hc, hr]
  cases behavior with
  | localOnly => cases hco
  | localFirst =>
    cases hl : x.localFirst with
    | ok data => simp [Ask.consults, hl] at hco
    | error e =>
      cases a with
      | ok data => exact congrArg _ hre
      | error e =>
        cases x.localThen with
        | ok _ | error _ => exact congrArg _ hre
  | remoteFirst =>
    cases a with
    | ok _ | error _ => exact congrArg _ hre
  | remoteOnly => exact congrArg _ hre

theorem gssiInquire_congr {σ : Type} {remote : σ → Option (Answer × σ)} {t t' : σ}
    (hc : x.consults behavior = true) (h : remote t = remote t') :
    gssiInquire behavior x remote t = gssiInquire behavior x remote t' := by
  unfold gssiInquire
  cases behavior with
  | localOnly => cases hc
  | localFirst =>
    cases hl : x.localFirst with
    | ok data => simp [Ask.consults, hl] at hc
    | error e => simp [h]
  | remoteFirst => simp [h]
  | remoteOnly => simp [h]

theorem AlikeFrom.congr (hco : x.consults behavior = true)
    (hc : gpmAsk sets x s = gpmAsk sets x s') (hr : ask sets x cell = ask sets x cell') :
    AlikeFrom behavior sets (x :: xs) s cell ↔ AlikeFrom behavior sets (x :: xs) s' cell' := by
  simp [AlikeFrom, answers, gssiInquire_congr hco hc, gssiInquire_congr hco hr]

theorem AlikeFrom.lost (hplaced : ∀ y ∈ xs.filter (·.consults behavior), y.query.placed = true)
    (hxs : ∀ y ∈ xs.filter (·.consults behavior), Useless y.first) :
    AlikeFrom behavior sets xs lostTable lostCache := by
  induction xs with
  | nil => rfl
  | cons x xs ih =>
    cases hc : x.consults behavior with
    | false =>
      rw [List.filter_cons_of_neg (by simp [hc])] at hplaced hxs; exact .skip hc (ih hplaced hxs)
    | true =>
      rw [List.filter_cons_of_pos hc, List.forall_mem_cons] at hplaced hxs
      exact .step (gpmAsk_lost hplaced.1 (init_lost_useless hxs.1)) rfl hc (ih hplaced.2 hxs.2)

theorem AlikeFrom.settled (hplaced : ∀ y ∈ xs.filter (·.consults behavior), y.query.placed = true)
    (hxs : ∀ y ∈ xs.filter (·.consults behavior),
      gpmInquire sets (.ofReply res') y.query = answerFrom sets res y.query) :
    AlikeFrom behavior sets xs (tableOf res') (cacheOf res) := by
  induction xs with
  | nil => rfl
  | cons x xs ih =>
    cases hco : x.consults behavior with
    | false =>
      rw [List.filter_cons_of_neg (by simp [hco])] at hplaced hxs; exact .skip hco (ih hplaced hxs)
    | true =>
      rw [List.filter_cons_of_pos hco, List.forall_mem_cons] at hplaced hxs
      obtain ⟨answer, ha⟩ := answerFrom_placed sets res hplaced.1
      have hc : gpmAsk sets x (tableOf res') = some (answer, tableOf res') := by
        rw [gpmAsk_tableOf hplaced.1, hxs.1, ha]; rfl
      have hr : ask sets x (cacheOf res) = some (answer, cacheOf res) := by
        rw [ask_cacheOf, ha]; rfl
      exact .step hc hr hco (ih hplaced.2 hxs.2)

/-! ## Histories that are alike -/

theorem findMech_error {c : Cache} {mech : Option Bytes} {e : Ret} (h : findMech c mech = .error e) :
    e.major ≠ GSS_S_CALL_INACCESSIBLE_WRITE := by
  unfold findMech at h
  split at h
  · cases h; decide
  split at h
  · cases h; decide
  · split at h
    · cases h; decide
    · cases h

theorem AlikeFrom.inv (h : AlikeFrom .remoteOnly sets (x :: xs) s cell) (hc : gpmAsk sets x s = some (a, s'))
    (hr : ask sets x cell = some (b, cell')) :
    report a = report b ∧ AlikeFrom .remoteOnly sets xs s' cell' := by
  simpa [AlikeFrom, answers, gssiInquire, hc, hr] using h

theorem AlikeFrom.answered (h : AlikeFrom .remoteOnly sets (x :: xs) s cell)
    (hr : ask sets x cell = some (b, cell')) : ∃ a s', gpmAsk sets x s = some (a, s') := by
  cases hc : gpmAsk sets x s with
  | none => simp [AlikeFrom, answers, gssiInquire, hc, hr] at h
  | some next => exact ⟨next.1, next.2, rfl⟩

theorem AlikeFrom.placed (h : AlikeFrom .remoteOnly sets (x :: xs) s cell) : x.query.placed = true := by
  by_contra hplaced
  have hc : gpmAsk sets x s = some (.error ⟨GSS_S_CALL_INACCESSIBLE_WRITE, 0⟩, s) := if_neg hplaced
  cases hr : ask sets x cell with
  | none => simp [AlikeFrom, answers, gssiInquire, hc, hr] at h
  | some next =>
    have hs := (h.inv hc hr).1
    simp only [ask] at hr
    split at hr
    · rename_i e he
      cases hr
      exact findMech_error he (congrArg Ret.major (Except.error.inj hs)).symm
    · obtain ⟨data, -, hb⟩ := Option.map_eq_some_iff.mp hr
      cases hb; cases hs

/-- A table and a lost one never give the same answer. -/
theorem report_ne_noTable (h : FromTable a) : report a ≠ report noTable := by
  rw [h.report]
  rintro rfl
  exact (h _ rfl).1 rfl

theorem AlikeFrom.settled_inv (hm : ∀ mi ∈ res'.mechs, mi.mech.data ≠ [])
    (h : AlikeFrom .remoteOnly sets xs (tableOf res') (cacheOf res)) :
    ∀ y ∈ xs, y.query.placed = true ∧
      gpmInquire sets (.ofReply res') y.query = answerFrom sets res y.query := by
  induction xs with
  | nil => simp
  | cons x xs ih =>
    have hplaced := h.placed
    obtain ⟨b, hb⟩ := answerFrom_placed sets res hplaced
    have hr : ask sets x (cacheOf res) = some (b, cacheOf res) := by rw [ask_cacheOf, hb]; rfl
    obtain ⟨a, s', hc⟩ := h.answered hr
    obtain ⟨hs, hre⟩ := h.inv hc hr
    rw [gpmAsk_tableOf hplaced] at hc
    obtain ⟨a', ha, hp⟩ := Option.map_eq_some_iff.mp hc
    cases hp
    rw [(gpmInquire_fromTable hm hplaced ha).report, (answerFrom_fromTable hb).report] at hs
    exact List.forall_mem_cons.mpr ⟨⟨hplaced, by rw [ha, hb, hs]⟩, ih hre⟩

theorem AlikeFrom.not_lost (h : AlikeFrom .remoteOnly sets (x :: xs) s cell)
    (hr : ask sets x cell = some (noTable, cell')) (hu : Usable reply res)
    (hc : gpmAsk sets x s = gpmAsk sets x (tableOf res)) : False := by
  obtain ⟨a, s', ha⟩ := h.answered hr
  have hs := (h.inv ha hr).1
  rw [hc, gpmAsk_tableOf h.placed] at ha
  obtain ⟨a', ha', hp⟩ := Option.map_eq_some_iff.mp ha
  cases hp
  exact report_ne_noTable (gpmInquire_fromTable hu.mechs h.placed ha') hs

theorem AlikeFrom.lost_inv (h : AlikeFrom .remoteOnly sets xs lostTable lostCache) :
    ∀ y ∈ xs, y.query.placed = true ∧ Useless y.first := by
  induction xs with
  | nil => simp
  | cons x xs ih =>
    have hplaced := h.placed
    have hu : Useless x.first := fun res hus =>
      h.not_lost rfl hus (gpmAsk_of_init hplaced (init_lost_usable hus))
    have hr := (h.inv (gpmAsk_lost hplaced (init_lost_useless hu)) rfl).2
    exact List.forall_mem_cons.mpr ⟨⟨hplaced, hu⟩, ih hr⟩

theorem HistoryAlike.of_settled (hf : Taken x.first res) (hm : ∀ mi ∈ res'.mechs, mi.mech.data ≠ [])
    (hc : gpmAsk sets x .start = gpmAsk sets x (tableOf res'))
    (h : AlikeFrom .remoteOnly sets (x :: xs) .start none) :
    ∀ y ∈ x :: xs, y.query.placed = true ∧
      gpmInquire sets (.ofReply res') y.query = answerFrom sets res y.query :=
  AlikeFrom.settled_inv hm ((AlikeFrom.congr rfl hc (ask_none_taken hf)).mp h)

theorem AlikeFrom.history (h : AlikeFrom .remoteOnly sets xs .start none) : HistoryAlike sets xs := by
  cases xs with
  | nil => trivial
  | cons x xs =>
    have hplaced := h.placed
    by_cases ht : ∃ res, Taken x.first res
    · obtain ⟨res, ht⟩ := ht
      by_cases hu : ∃ res, Usable x.first res
      · obtain ⟨res', hu⟩ := hu
        cases ht.reply.symm.trans hu.reply
        have ha := HistoryAlike.of_settled ht hu.mechs
          (gpmAsk_of_init hplaced (init_start_usable hu)) h
        exact ⟨fun y hy => (ha y hy).1, .inl ⟨res, hu, fun y hy =>
          (gpmInquire_eq_iff hu.mechs (ha y hy).1).mp (ha y hy).2⟩⟩
      · have hf : Useless x.first := fun res h => hu ⟨res, h⟩
        by_cases hs : ∃ res, Usable x.second res
        · obtain ⟨res', hs⟩ := hs
          have ha := HistoryAlike.of_settled ht hs.mechs
            (gpmAsk_of_init hplaced (init_start_second hf hs)) h
          exact ⟨fun y hy => (ha y hy).1, .inr (.inl
            ⟨res, res', hf, ht, hs, fun y hy => (ha y hy).2⟩)⟩
        · obtain ⟨b, hb⟩ := answerFrom_placed sets res hplaced
          have hr : ask sets x none = some (b, cacheOf res) := by
            rw [ask_none_taken ht, ask_cacheOf, hb]; rfl
          have hl := init_start_useless hf fun res h => hs ⟨res, h⟩
          exact absurd (h.inv (gpmAsk_lost hplaced hl) hr).1.symm (report_ne_noTable (answerFrom_fromTable hb))
    · have hl : ∀ res, ¬ Taken x.first res := fun res h => ht ⟨res, h⟩
      have hf : Useless x.first := fun res hu => hl res hu.taken
      have hr : ask sets x none = some (noTable, lostCache) := ask_none_lost hl
      have hs : Useless x.second := fun res hu =>
        h.not_lost hr hu (gpmAsk_of_init hplaced (init_start_second hf hu))
      have hre := (h.inv (gpmAsk_lost hplaced (init_start_useless hf hs)) hr).2.lost_inv
      exact ⟨List.forall_mem_cons.mpr ⟨hplaced, fun y hy => (hre y hy).1⟩,
        .inr (.inr ⟨hl, hs, fun y hy => (hre y hy).2⟩)⟩

end

/-- **Histories of the daemon.**  In any behaviour the two answer alike, if the queries that come to the
    table make a history in which the first reply serves them all, or the second one makes up for it, or
    none is of use.  Where the table alone answers they are alike in no other history. -/
theorem mechQueries_alike (behavior : Behavior) (sets : SetLib) (asks : List Ask) :
    (HistoryAlike sets (asks.filter (·.consults behavior)) → Alike behavior sets asks) ∧
      (behavior = .remoteOnly → Alike behavior sets asks → HistoryAlike sets asks) := by
  constructor
  · intro h
    show AlikeFrom behavior sets asks .start none
    induction asks with
    | nil => rfl
    | cons x xs ih =>
      cases hc : x.consults behavior with
      | false => rw [List.filter_cons_of_neg (by simp [hc])] at h; exact .skip hc (ih h)
      | true =>
        have hf := List.filter_cons_of_pos (p := (·.consults behavior)) (l := xs) hc
        rw [hf] at h
        obtain ⟨ha, h⟩ := h
        have hplaced := ha x List.mem_cons_self
        rcases h with ⟨res, hu, hse⟩ | ⟨res, res', hfi, ht, hs, hsa⟩ |
          ⟨hl, hs, hr⟩
        · refine (AlikeFrom.congr hc (gpmAsk_of_init hplaced (init_start_usable hu))
            (ask_none_taken hu.taken)).mpr (.settled (hf ▸ ha) (hf ▸ fun y hy => ?_))
          exact (gpmInquire_eq_iff hu.mechs (ha y hy)).mpr (hse y hy)
        · exact (AlikeFrom.congr hc (gpmAsk_of_init hplaced (init_start_second hfi hs))
            (ask_none_taken ht)).mpr (.settled (hf ▸ ha) (hf ▸ hsa))
        · have hfi : Useless x.first := fun res hu => hl res hu.taken
          exact .step (gpmAsk_lost hplaced (init_start_useless hfi hs)) (ask_none_lost hl)
            hc (.lost (fun y hy => ha y (.tail _ hy)) hr)
  · rintro rfl h; exact AlikeFrom.history h

def oneMech : ResIndicateMechs :=
  { (default : ResIndicateMechs) with
    mechs := [{ (default : GssxMechInfo) with mech := ⟨[0x2a]⟩, nameTypes := [⟨[0x2b]⟩] }] }

/-- `gss_add_oid_set_member` appends, and refuses an identifier without bytes. -/
def appending : SetLib := ⟨false, fun oid set => set ++ [oid]⟩

/-- The daemon is there at the first query and away at the second. -/
theorem mechQueries_first_served :
    Alike .remoteOnly appending
      [⟨.names (some [0x2a]) true, .ok oneMech, .error ENOENT, noTable, noTable⟩,
        ⟨.saslname (some [0x2a]) true true true, .error ENOENT, .error ENOENT, noTable, noTable⟩] := by
  refine (mechQueries_alike _ _ _).1 ⟨by decide, .inl ⟨oneMech, ⟨rfl, rfl, by decide⟩, ?_⟩⟩
  have hs : Serves appending oneMech (.names (some [0x2a]) true) := by
    rintro mi ⟨⟩; exact ⟨by decide, .inr (by decide)⟩
  have hsa : Serves appending oneMech (.saslname (some [0x2a]) true true true) := fun _ _ => trivial
  simp [Ask.consults, hs, hsa]

def restart : List Ask :=
  [⟨.names (some [0x2a]) true, .error ENOENT, .error ENOENT, noTable, noTable⟩,
    ⟨.names (some [0x2a]) true, .ok oneMech, .ok oneMech, noTable, noTable⟩]

/-- The second query is answered in C; in Rust the failure of the first is kept. -/
theorem mechQueries_restart :
    answers .remoteOnly (gpmAsk appending) restart .start =
        [some (report noTable), some (.ok (.names [[0x2b]]))] ∧
      answers .remoteOnly (ask appending) restart none =
        [some (report noTable), some (report noTable)] ∧
      ¬ Alike .remoteOnly appending restart := by
  refine ⟨by decide, by decide, ?_⟩
  unfold Alike
  decide

end GssProxy.Interposer.MechQueries
