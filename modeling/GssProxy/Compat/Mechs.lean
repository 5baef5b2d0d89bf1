import GssProxy.Codec.Tokens
import GssProxy.Server.Creds
import Mathlib.Logic.Function.Iterate

/-!
# The mechanisms of a service

A service names its mechanisms in a list, of which only `krb5` is known; for it the principal and the
credential store are read.  The C function compares the whole value with `krb5` where it has the token,
and the Rust function reads the store again for every `krb5`.

* `mechs_iff`: for which lists each of the two does what the list says.
-/

namespace GssProxy.Compat.Mechs

open Codec Gss
open Server (GP_CRED_KRB5 bind_eq_ok)

abbrev Text : Type := List Char

/-- The krb5 part of a service. -/
structure Krb5 where
  mechs : UInt32
  principal : Option Text
  store : List (Text × Text)
  deriving DecidableEq, Repr

def Krb5.empty : Krb5 := ⟨0, none, []⟩

def Krb5.add (svc : Krb5) : Krb5 := { svc with mechs := svc.mechs ||| GP_CRED_KRB5 }

def isSeparator (c : Char) : Bool := c == ',' || c == ' '

def krb5 : Text := "krb5".toList

def splitEntry (entry : Text) : Option (Text × Text) :=
  match entry.dropWhile (· != ':') with
  | [] => none
  | _ :: value => some (entry.takeWhile (· != ':'), value)

def deprecatedOptions : List String := ["krb5_keytab", "krb5_ccache", "krb5_client_keytab"]

/-! ## The C daemon -/

/-- The section of a service as `gp_config_get_string` and its array form give it, and how
    `gp_init_creds_handle` ends with a keytab. -/
structure IniSection where
  getString : String → Except UInt32 Text
  getStringArray : String → Except UInt32 (List Text)
  initCredsHandle : Option Text → UInt32

section

variable (ini : IniSection)

def optional {α : Type} : Except UInt32 α → Except UInt32 (Option α)
  | .ok v => .ok (some v)
  | .error e => if e = ENOENT then .ok none else .error e

def checkDeprecated : List String → Except UInt32 Unit
  | [] => .ok ()
  | name :: names => do
    match ← optional (ini.getString name) with
    | some _ => throw EINVAL
    | none => checkDeprecated names

def splitEntries : List Text → Except UInt32 (List (Text × Text))
  | [] => .ok []
  | entry :: entries => do
    match splitEntry entry with
    | none => throw EINVAL
    | some e => return e :: (← splitEntries entries)

def readCredStore (svc : Krb5) : Except UInt32 Krb5 := do
  match ← optional (ini.getStringArray "cred_store") with
  | some strings => return { svc with store := ← splitEntries strings }
  | none => return svc

def setupKrb5CredsHandle (svc : Krb5) : Except UInt32 Unit :=
  let ret := ini.initCredsHandle ((svc.store.find? (·.1 = "keytab".toList)).map Prod.snd)
  if ret = 0 then .ok () else .error ret

def getKrb5MechCfg (svc : Krb5) : Except UInt32 Krb5 := do
  let principal ← optional (ini.getString "krb5_principal")
  checkDeprecated ini deprecatedOptions
  let svc ← readCredStore ini { svc with principal := principal <|> svc.principal }
  setupKrb5CredsHandle ini svc
  return svc

def gpMechLoop (value : Text) : Nat → Text → Krb5 → Option (Except UInt32 Krb5)
  | 0, _, _ => none
  | fuel + 1, handle, svc =>
    let next := if value = krb5 then (getKrb5MechCfg ini svc).map Krb5.add else .ok svc
    match next with
    | .error ret => some (.error ret)
    | .ok svc =>
      match strtok isSeparator handle with
      | none => some (.ok svc)
      | some (_, handle) => gpMechLoop value fuel handle svc

def keep (svc : Krb5) : Option Krb5 := if svc.mechs = 0 then none else some svc

/-- The loop over `mechs` in `load_services`. -/
def gpLoadMechs (value : Text) : Option (Except UInt32 (Option Krb5)) :=
  let handle := match strtok isSeparator value with
    | none => []
    | some (_, handle) => handle
  (gpMechLoop ini value (value.length + 1) handle Krb5.empty).map (Except.map keep)

end

/-! ## The Rust daemon -/

/-- The section of a service in the Rust daemon. -/
structure Properties where
  get : String → Option Text
  getAll : String → List Text

inductive ConfigError where
  | deprecated (option : String)
  | noSeparator (entry : Text)
  deriving DecidableEq, Repr

def ConfigError.text : ConfigError → String
  | .deprecated option => "\"" ++ option ++ "\" is deprecated, please use \"cred_store\"."
  | .noSeparator entry =>
    "Invalid cred_store value, no ':' separator found in [" ++ String.ofList entry ++ "]."

def isWhitespace (c : Char) : Bool :=
  let n := c.toNat
  (9 ≤ n && n ≤ 13) || n == 32 || n == 0x85 || n == 0xa0 || n == 0x1680 ||
    (0x2000 ≤ n && n ≤ 0x200a) || n == 0x2028 || n == 0x2029 || n == 0x202f || n == 0x205f ||
    n == 0x3000

def trim (s : Text) : Text := ((s.dropWhile isWhitespace).reverse.dropWhile isWhitespace).reverse

section

variable (props : Properties)

def credStoreEntries : List Text :=
  (((props.getAll "cred_store").flatMap (·.splitOnP (· == ','))).map trim).filter (!·.isEmpty)

def pushEntry (svc : Krb5) (entry : Text) : Except ConfigError Krb5 :=
  match splitEntry entry with
  | none => .error (.noSeparator entry)
  | some e => .ok { svc with store := svc.store ++ [e] }

def parseKrb5Cfg (svc : Krb5) : Except ConfigError Krb5 :=
  let svc := { svc with principal := props.get "krb5_principal" <|> svc.principal }
  match deprecatedOptions.find? fun name => (props.get name).isSome with
  | some name => .error (.deprecated name)
  | none => (credStoreEntries props).foldlM pushEntry svc

def mechToken (svc : Krb5) (token : Text) : Except ConfigError Krb5 :=
  if token = krb5 then (parseKrb5Cfg props svc).map Krb5.add else .ok svc

/-- The loop over `mechs` in `parse_service`. -/
def parseMechs (mechs : Text) : Except ConfigError (Option Krb5) :=
  ((tokens isSeparator mechs).foldlM (mechToken props) Krb5.empty).map keep

end

/-! ## What the functions are to do -/

/-- A service is kept if `krb5` is among its mechanisms, with the settings that `once` reads and the
    store that is configured. -/
structure Lawful {ε : Type} (mechs : Text) (once : Except ε Krb5) (configured : List (Text × Text))
    (result : Except ε (Option Krb5)) : Prop where
  outcome : result = if krb5 ∈ tokens isSeparator mechs then once.map some else .ok none
  store : ∀ svc, result = .ok (some svc) → svc.store = configured

theorem keep_add (svc : Krb5) : keep svc.add = some svc.add := by
  have hm : svc.add.mechs ≠ 0 := by
    intro h
    have hb := congrArg (fun w : UInt32 => w.toBitVec.getLsbD 0) h
    simp [Krb5.add, GP_CRED_KRB5] at hb
  exact if_neg hm

/-- What reading the settings once gives. -/
def gpOnce (ini : IniSection) : Except UInt32 Krb5 := (getKrb5MechCfg ini Krb5.empty).map Krb5.add

/-- The store that the section configures. -/
def gpConfigured (ini : IniSection) : List (Text × Text) :=
  match ini.getStringArray "cred_store" with
  | .ok strings => strings.filterMap splitEntry
  | .error _ => []

theorem splitEntries_ok {strings : List Text} {store : List (Text × Text)}
    (h : splitEntries strings = .ok store) : store = strings.filterMap splitEntry := by
  induction strings generalizing store with
  | nil => cases h; rfl
  | cons entry entries ih =>
    unfold splitEntries at h
    cases he : splitEntry entry with
    | none => rw [he] at h; cases h
    | some e =>
      rw [he] at h
      obtain ⟨rest, hr, ⟨⟩⟩ := bind_eq_ok.mp h
      rw [List.filterMap_cons_some he, ih hr]

variable {props : Properties} {ini : IniSection}

theorem readCredStore_store {svc filled : Krb5}
    (h : readCredStore ini svc = .ok filled) (he : svc.store = []) :
    filled.store = gpConfigured ini := by
  unfold readCredStore at h
  unfold gpConfigured
  cases hs : ini.getStringArray "cred_store" with
  | ok strings =>
    rw [hs] at h
    obtain ⟨_, ⟨⟩, h⟩ := bind_eq_ok.mp h
    obtain ⟨store, hst, ⟨⟩⟩ := bind_eq_ok.mp h
    exact splitEntries_ok hst
  | error ret =>
    rw [hs] at h
    unfold optional at h
    by_cases hr : ret = ENOENT
    · simp only [if_pos hr] at h
      cases h
      exact he
    · simp only [if_neg hr] at h; cases h

theorem getKrb5MechCfg_store {svc read : Krb5}
    (h : getKrb5MechCfg ini svc = .ok read) (he : svc.store = []) :
    read.store = gpConfigured ini := by
  obtain ⟨principal, -, h⟩ := bind_eq_ok.mp h
  obtain ⟨-, -, h⟩ := bind_eq_ok.mp h
  obtain ⟨filled, hf, h⟩ := bind_eq_ok.mp h
  obtain ⟨-, -, h⟩ := bind_eq_ok.mp h
  cases h
  exact readCredStore_store hf he

theorem gpOnce_store {svc : Krb5} (h : gpOnce ini = .ok svc) : svc.store = gpConfigured ini := by
  unfold gpOnce at h
  cases hc : getKrb5MechCfg ini Krb5.empty with
  | error ret => rw [hc] at h; cases h
  | ok read =>
    rw [hc] at h
    cases h
    have hs : read.store = gpConfigured ini := getKrb5MechCfg_store hc rfl
    exact hs

/-! ## The C daemon -/

variable {value : Text}

theorem gpMechLoop_other (hv : value ≠ krb5) (svc : Krb5)
    (fuel : Nat) : ∀ handle : Text, handle.length < fuel →
      gpMechLoop ini value fuel handle svc = some (.ok svc) := by
  induction fuel with
  | zero => omega
  | succ fuel ih =>
    intro handle hf
    rw [gpMechLoop, if_neg hv]
    cases ht : strtok isSeparator handle with
    | none => rfl
    | some found =>
      obtain ⟨token, rest⟩ := found
      obtain ⟨hne, -, hl, -⟩ := strtok_spec ht
      have hp := List.length_pos_iff.mpr hne
      exact ih rest (by omega)

theorem gpLoadMechs_other (hv : value ≠ krb5) : gpLoadMechs ini value = some (.ok none) := by
  unfold gpLoadMechs
  cases ht : strtok isSeparator value with
  | none =>
    simp only
    rw [gpMechLoop_other hv Krb5.empty _ [] (by simp)]; rfl
  | some found =>
    obtain ⟨token, rest⟩ := found
    obtain ⟨-, -, hl, -⟩ := strtok_spec ht
    simp only
    rw [gpMechLoop_other hv Krb5.empty _ rest (by omega)]; rfl

theorem strtok_krb5 : strtok isSeparator krb5 = some (krb5, []) := by decide

theorem gpLoadMechs_krb5 (ini : IniSection) :
    gpLoadMechs ini krb5 = some ((gpOnce ini).map some) := by
  unfold gpLoadMechs gpOnce
  rw [strtok_krb5]
  simp only
  rw [gpMechLoop, if_pos rfl]
  cases getKrb5MechCfg ini Krb5.empty with
  | error ret => rfl
  | ok read =>
    have he : strtok isSeparator [] = none := rfl
    simp [Except.map, he, keep_add]

theorem krb5_tokens : tokens isSeparator krb5 = [krb5] := by decide

theorem gp_lawful_iff (ini : IniSection) (value : Text) :
    (∃ result, gpLoadMechs ini value = some result ∧
      Lawful value (gpOnce ini) (gpConfigured ini) result) ↔
    value = krb5 ∨ krb5 ∉ tokens isSeparator value := by
  by_cases hv : value = krb5
  · subst hv
    refine iff_of_true ⟨_, gpLoadMechs_krb5 ini, ⟨?_, ?_⟩⟩ (.inl rfl)
    · rw [krb5_tokens, if_pos (List.mem_singleton.mpr rfl)]
    · intro svc hs
      cases hon : gpOnce ini with
      | error ret => rw [hon] at hs; cases hs
      | ok read =>
        rw [hon] at hs
        cases hs
        exact gpOnce_store hon
  · rw [gpLoadMechs_other hv]
    constructor
    · rintro ⟨result, ⟨⟩, hl⟩
      refine .inr fun hm => ?_
      have ho := hl.outcome
      rw [if_pos hm] at ho
      cases hon : gpOnce ini with
      | error _ | ok _ => rw [hon] at ho; cases ho
    · rintro (h | hm)
      · exact (hv h).elim
      · exact ⟨_, rfl, by rw [if_neg hm], by rintro svc ⟨⟩⟩

/-! ## The Rust daemon -/

/-- What reading the settings once gives. -/
def once (props : Properties) : Except ConfigError Krb5 :=
  (parseKrb5Cfg props Krb5.empty).map Krb5.add

/-- The store that the section configures. -/
def configured (props : Properties) : List (Text × Text) := (credStoreEntries props).filterMap splitEntry

/-- It has a deprecated option, or a store entry without separator. -/
def Refused (props : Properties) : Prop :=
  (∃ name ∈ deprecatedOptions, (props.get name).isSome) ∨
    ∃ entry ∈ credStoreEntries props, splitEntry entry = none

theorem foldlM_pushEntry {entries : List Text} (h : ∀ entry ∈ entries, splitEntry entry ≠ none)
    (svc : Krb5) :
    entries.foldlM pushEntry svc =
      .ok { svc with store := svc.store ++ entries.filterMap splitEntry } := by
  induction entries generalizing svc with
  | nil =>
    simp
    rfl
  | cons entry entries ih =>
    obtain ⟨e, he⟩ := Option.ne_none_iff_exists'.mp (h entry List.mem_cons_self)
    have hp : pushEntry svc entry = .ok { svc with store := svc.store ++ [e] } := by
      rw [pushEntry, he]
    rw [List.foldlM_cons, hp, List.filterMap_cons_some he]
    refine (ih (fun entry hm => h entry (List.mem_cons_of_mem _ hm)) _).trans ?_
    simp

theorem foldlM_pushEntry_error {entries : List Text} (h : ∃ entry ∈ entries, splitEntry entry = none) :
    ∃ e, ∀ svc, entries.foldlM pushEntry svc = .error e := by
  induction entries with
  | nil => obtain ⟨entry, hm, -⟩ := h; cases hm
  | cons entry entries ih =>
    cases he : splitEntry entry with
    | none =>
      refine ⟨.noSeparator entry, fun svc => ?_⟩
      rw [List.foldlM_cons, pushEntry, he]; rfl
    | some e =>
      obtain ⟨bad, hm, hb⟩ := h
      have hr : bad ∈ entries := by
        rcases List.mem_cons.mp hm with rfl | hm
        · rw [he] at hb; cases hb
        · exact hm
      obtain ⟨err, her⟩ := ih ⟨bad, hr, hb⟩
      refine ⟨err, fun svc => ?_⟩
      rw [List.foldlM_cons, pushEntry, he]
      exact her _

theorem parseKrb5Cfg_refused (h : Refused props) :
    ∃ e, ∀ svc, parseKrb5Cfg props svc = .error e := by
  unfold parseKrb5Cfg
  cases hf : deprecatedOptions.find? fun name => (props.get name).isSome with
  | some name => exact ⟨_, fun _ => rfl⟩
  | none =>
    rcases h with ⟨name, hm, hs⟩ | hen
    · exact (List.find?_eq_none.mp hf name hm hs).elim
    · obtain ⟨e, he⟩ := foldlM_pushEntry_error hen; exact ⟨e, fun svc => he _⟩

def addSettings (props : Properties) (svc : Krb5) : Krb5 :=
  { svc with principal := props.get "krb5_principal" <|> svc.principal,
             store := svc.store ++ configured props }

theorem parseKrb5Cfg_accepted (h : ¬ Refused props) (svc : Krb5) :
    parseKrb5Cfg props svc = .ok (addSettings props svc) := by
  have hf : deprecatedOptions.find? (fun name => (props.get name).isSome) = none := by
    refine List.find?_eq_none.mpr fun name hm hs => h (.inl ⟨name, hm, hs⟩)
  have he : ∀ entry ∈ credStoreEntries props, splitEntry entry ≠ none :=
    fun entry hm hn => h (.inr ⟨entry, hm, hn⟩)
  unfold parseKrb5Cfg
  rw [hf]
  exact foldlM_pushEntry he _

def readAgain (props : Properties) (svc : Krb5) : Krb5 := (addSettings props svc).add

theorem foldlM_mechToken (ts : List Text) (h : ¬ Refused props ∨ krb5 ∉ ts) (svc : Krb5) :
    ts.foldlM (mechToken props) svc = .ok ((readAgain props)^[ts.count krb5] svc) := by
  induction ts generalizing svc with
  | nil => rfl
  | cons t ts ih =>
    have hr : ¬ Refused props ∨ krb5 ∉ ts :=
      h.imp_right fun hm hts => hm (List.mem_cons_of_mem _ hts)
    rw [List.foldlM_cons, mechToken]
    by_cases ht : t = krb5
    · subst ht
      have ha : ¬ Refused props := h.resolve_right fun hm => hm List.mem_cons_self
      rw [parseKrb5Cfg_accepted ha, List.count_cons_self]
      exact ih hr _
    · rw [if_neg ht, List.count_cons_of_ne ht]; exact ih hr svc

theorem foldlM_mechToken_refused {e : ConfigError}
    (he : ∀ svc, parseKrb5Cfg props svc = .error e) {ts : List Text} (hm : krb5 ∈ ts) (svc : Krb5) :
    ts.foldlM (mechToken props) svc = .error e := by
  induction ts generalizing svc with
  | nil => cases hm
  | cons t ts ih =>
    rw [List.foldlM_cons, mechToken]
    by_cases ht : t = krb5
    · rw [if_pos ht, he]; rfl
    rw [if_neg ht]
    refine ih ?_ svc
    rcases List.mem_cons.mp hm with rfl | hm
    · exact (ht rfl).elim
    · exact hm

theorem length_store_iterate (props : Properties) (k : Nat) (svc : Krb5) :
    ((readAgain props)^[k] svc).store.length = svc.store.length + k * (configured props).length := by
  induction k with
  | zero => simp
  | succ k ih =>
    rw [Function.iterate_succ_apply']
    have hs : ∀ svc, (readAgain props svc).store = svc.store ++ configured props := fun _ => rfl
    rw [hs, List.length_append, ih, Nat.succ_mul, Nat.add_assoc]

theorem readAgain_idempotent (h : configured props = []) (svc : Krb5) :
    readAgain props (readAgain props svc) = readAgain props svc := by
  simp only [readAgain, addSettings, Krb5.add, h, List.append_nil, UInt32.or_assoc, UInt32.or_self]
  cases props.get "krb5_principal" <;> rfl

theorem iterate_readAgain (h : configured props = []) (k : Nat) (svc : Krb5) :
    (readAgain props)^[k + 1] svc = readAgain props svc := by
  induction k with
  | zero => rfl
  | succ k ih => rw [Function.iterate_succ_apply', ih, readAgain_idempotent h]

theorem configured_eq_nil_iff (h : ¬ Refused props) :
    configured props = [] ↔ credStoreEntries props = [] := by
  rw [configured, List.filterMap_eq_nil_iff]
  constructor
  · intro ha
    refine List.eq_nil_iff_forall_not_mem.mpr fun entry hm => ?_
    exact h (.inr ⟨entry, hm, ha entry hm⟩)
  · intro hn entry hm
    rw [hn] at hm; cases hm

theorem parseMechs_unlisted (hm : krb5 ∉ tokens isSeparator value) :
    parseMechs props value = .ok none := by
  have hc : (tokens isSeparator value).count krb5 = 0 := List.count_eq_zero.mpr hm
  rw [parseMechs, foldlM_mechToken _ (.inr hm), hc]
  rfl

theorem parseMechs_accepted {k : Nat} (h : ¬ Refused props)
    (hk : (tokens isSeparator value).count krb5 = k + 1) :
    parseMechs props value = .ok (some ((readAgain props)^[k + 1] Krb5.empty)) := by
  rw [parseMechs, foldlM_mechToken _ (.inl h), hk, Function.iterate_succ_apply']
  exact congrArg Except.ok (keep_add _)

theorem store_iterate_iff (props : Properties) (k : Nat) :
    ((readAgain props)^[k + 1] Krb5.empty).store = configured props ↔ k = 0 ∨ configured props = [] := by
  constructor
  · intro hs
    have hl := length_store_iterate props (k + 1) Krb5.empty
    rw [hs, Nat.succ_mul] at hl
    have hn : k * (configured props).length = 0 := by omega
    exact (Nat.mul_eq_zero.mp hn).imp_right List.length_eq_zero_iff.mp
  · rintro (rfl | hni)
    · exact List.nil_append _
    · rw [iterate_readAgain hni]; exact List.nil_append _

theorem lawful_iff (props : Properties) (value : Text) :
    Lawful value (once props) (configured props) (parseMechs props value) ↔
      (tokens isSeparator value).count krb5 ≤ 1 ∨ credStoreEntries props = [] ∨ Refused props := by
  by_cases hm : krb5 ∈ tokens isSeparator value
  · by_cases hr : Refused props
    · obtain ⟨e, he⟩ := parseKrb5Cfg_refused hr
      rw [parseMechs, foldlM_mechToken_refused he hm]
      refine iff_of_true ⟨?_, ?_⟩ (.inr (.inr hr))
      · rw [if_pos hm, once, he]; rfl
      · rintro svc ⟨⟩
    · obtain ⟨k, hk⟩ : ∃ k, (tokens isSeparator value).count krb5 = k + 1 :=
        Nat.exists_eq_succ_of_ne_zero (List.count_pos_iff.mpr hm).ne'
      have ho : once props = .ok (readAgain props Krb5.empty) := by
        rw [once, parseKrb5Cfg_accepted hr]; rfl
      have hri : ((tokens isSeparator value).count krb5 ≤ 1 ∨ credStoreEntries props = [] ∨
          Refused props) ↔ k = 0 ∨ configured props = [] := by
        rw [hk, or_iff_left hr, configured_eq_nil_iff hr, Nat.succ_le_succ_iff, Nat.le_zero]
      rw [parseMechs_accepted hr hk, hri]
      constructor
      · intro h
        exact (store_iterate_iff props k).mp (h.store _ rfl)
      · intro h
        have hs : (readAgain props)^[k + 1] Krb5.empty = readAgain props Krb5.empty := by
          rcases h with rfl | hn
          · rfl
          · exact iterate_readAgain hn k Krb5.empty
        refine ⟨?_, ?_⟩
        · rw [if_pos hm, ho, hs]; rfl
        · rintro svc ⟨⟩; exact (store_iterate_iff props k).mpr h
  · rw [parseMechs_unlisted hm]
    refine iff_of_true ⟨?_, ?_⟩ (.inl ?_)
    · rw [if_neg hm]
    · rintro svc ⟨⟩
    · rw [List.count_eq_zero.mpr hm]; exact Nat.zero_le 1

/-- **The mechanisms of a service.**  The C function does with a service what it is to do if and only if the
    value is `krb5` and nothing else, or does not list `krb5`; the Rust function, if and only if `krb5` is
    listed at most once, or the section has no store or is refused. -/
theorem mechs_iff (ini : IniSection) (props : Properties) (value : Text) :
    ((∃ result, gpLoadMechs ini value = some result ∧
        Lawful value (gpOnce ini) (gpConfigured ini) result) ↔
      value = krb5 ∨ krb5 ∉ tokens isSeparator value) ∧
    (Lawful value (once props) (configured props) (parseMechs props value) ↔
      (tokens isSeparator value).count krb5 ≤ 1 ∨ credStoreEntries props = [] ∨ Refused props) :=
  ⟨gp_lawful_iff ini value, lawful_iff props value⟩

def keytabOnly : IniSection where
  getString _ := .error ENOENT
  getStringArray name := if name = "cred_store" then .ok ["keytab:/k".toList] else .error ENOENT
  initCredsHandle _ := 0

def keytabProperties : Properties where
  get _ := none
  getAll name := if name = "cred_store" then ["keytab:/k".toList] else []

/-- The C daemon leaves out a service with `krb5` and another mechanism; the Rust daemon gives one
    with `krb5` twice two keytabs. -/
theorem krb5_among_others :
    (gpLoadMechs keytabOnly "krb5 iakerb".toList = some (.ok none) ∧
      krb5 ∈ tokens isSeparator "krb5 iakerb".toList) ∧
    (parseMechs keytabProperties "krb5,krb5".toList =
        .ok (some ⟨1, none, [("keytab".toList, "/k".toList), ("keytab".toList, "/k".toList)]⟩) ∧
      configured keytabProperties = [("keytab".toList, "/k".toList)]) := by
  decide

end GssProxy.Compat.Mechs
