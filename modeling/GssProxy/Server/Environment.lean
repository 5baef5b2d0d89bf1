import GssProxy.Gss.Options
import GssProxy.Server.Call

/-!
# The credential environment of a request

The usage after the filter of the service, the requested name, and the credential store expanded for the
user the request is for.  `gp_get_cred_environment` and its Rust port differ in three places, gathered in
`Port`.

* `getCredEnvironment_ok`: the store is the service's own and the usage is permitted.
-/

namespace GssProxy.Server

open Codec Gss Proto

abbrev Store : Type := List (String × String)

/-! ## Usage and acquisition type -/

def gssxToCredUsage (usage : Int32) : Int32 :=
  if usage = 3 then GSS_C_BOTH
  else if usage = 1 then GSS_C_INITIATE
  else if usage = 2 then GSS_C_ACCEPT
  else 0

inductive AcquireType where
  | normal
  | impName
  deriving DecidableEq, Repr

def getAcquireType (options : List GssxOption) : Option AcquireType :=
  match findOption options ACQUIRE_TYPE_OPTION with
  | some value => if value = ACQUIRE_IMPERSONATE_NAME then some .impName else none
  | none => some .normal

def tryImpersonate (svc : Service) (credUsage : Int32) (acquireType : AcquireType) : Bool :=
  (acquireType == .impName && (svc.allowProtoTrans || svc.trusted)) ||
    (svc.impersonate && (credUsage == GSS_C_INITIATE || credUsage == GSS_C_BOTH))

/-! ## User ids in names -/

def isDigit (b : UInt8) : Bool := 48 ≤ b && b ≤ 57

def parseLeadingUid (v : UInt32) : Bytes → UInt32
  | [] => v
  | b :: rest =>
    if isDigit b then parseLeadingUid (v * 10 + (b - 48).toUInt32) rest
    else if v = 0 ∧ (b = 32 ∨ b = 9) then parseLeadingUid v rest
    else v

def isSpace (b : UInt8) : Bool := b == 32 || (9 ≤ b && b ≤ 13)

def digitsValue (s : Bytes) : Int := s.foldl (fun v b => v * 10 + (b.toNat - 48 : Int)) 0

def atol (s : Bytes) : Int :=
  let value (s : Bytes) := digitsValue (s.takeWhile isDigit)
  match s.dropWhile isSpace with
  | 45 :: rest => max (-(value rest)) (-9223372036854775808)
  | 43 :: rest => min (value rest) 9223372036854775807
  | rest => min (value rest) 9223372036854775807

/-! ## Environment -/

/-- Where the daemons differ: the error number of a name that cannot be imported, the reading of a
    user id and the expansion of a template. -/
structure Port where
  nameErrno : UInt32
  leadingUid : Bytes → UInt32
  formattedString : (UInt32 → Option String) → String → UInt32 → Option String

/-- What the daemon asks of its system. -/
structure Host (N : Type) where
  uidToName : UInt32 → Option String
  tid : Nat
  importName : Bytes → Option Bytes → Except GssError N

/-- `CredEnv`: what to acquire with. -/
structure CredEnv (N : Type) where
  requestedName : Option N
  credUsage : Int32
  credStore : Store
  memCcache : Option String

section

variable {N : Type} (port : Port) (host : Host N)

def gssxToName (g : GssxName) : Except GssError N :=
  if g.displayName.data ≠ [] then
    host.importName g.displayName.data
      (if g.nameType.data = [] then none else some g.nameType.data)
  else host.importName g.exportedName.data (some NT_EXPORT_NAME_OID)

def utf8 (s : String) : Bytes := s.toUTF8.data.toList

def principalName (principal : String) : Except GssError N :=
  host.importName (utf8 principal ++ [0]) (some KRB5_NT_PRINCIPAL_NAME_OID)

def filterUsage (svc : Service) (usage : Int32) : Except UInt32 Int32 :=
  if svc.credUsage = GSS_C_BOTH then .ok usage
  else if usage = GSS_C_BOTH then .ok svc.credUsage
  else if svc.credUsage ≠ usage then .error EACCES
  else .ok usage

/-- The name gives the user that the request is for. -/
def namesUser (svc : Service) (uid : UInt32) (name : GssxName) : Bool :=
  svc.trusted && svc.euid == uid &&
    (name.nameType.data == NT_STRING_UID_NAME_OID || name.nameType.data == NT_MACHINE_UID_NAME_OID)

structure Target (N : Type) where
  uid : UInt32
  userRequested : Bool
  useServiceKeytab : Bool
  requestedName : Option N

def resolveTarget (svc : Service) (uid : UInt32) : Option GssxName → Except UInt32 (Target N)
  | some name =>
    if namesUser svc uid name then
      .ok { uid := port.leadingUid name.displayName.data, userRequested := true,
            useServiceKeytab := false, requestedName := none }
    else
      match gssxToName host name with
      | .ok n => .ok { uid, userRequested := svc.euid != uid, useServiceKeytab := svc.euid == uid,
                       requestedName := some n }
      | .error _ => .error port.nameErrno
  | none =>
    .ok { uid, userRequested := svc.euid != uid,
          useServiceKeytab := svc.trusted && svc.euid == uid, requestedName := none }

def impersonateUser (svc : Service) (usage : Int32) (t : Target N) : Except UInt32 (Target N) :=
  if t.userRequested && tryImpersonate svc usage .normal then
    match host.uidToName t.uid with
    | none => .error ENOENT
    | some username =>
      match host.importName (utf8 username) (some NT_USER_NAME_OID) with
      | .ok n => .ok { t with useServiceKeytab := true, requestedName := some n }
      | .error _ => .error ENOMEM
  else .ok t

def configuredName (svc : Service) (t : Target N) : Except UInt32 (Target N) :=
  match t.useServiceKeytab, t.requestedName, svc.krb5Principal with
  | true, none, some principal =>
    match principalName host principal with
    | .ok n => .ok { t with requestedName := some n }
    | .error _ => .error port.nameErrno
  | _, _, _ => .ok t

/-! ## The store -/

def lastIdx (key : String) : Store → Option Nat
  | [] => none
  | e :: rest =>
    match lastIdx key rest with
    | some i => some (i + 1)
    | none => if e.1 = key then some 0 else none

def expandStore (uid : UInt32) : Store → Except UInt32 Store
  | [] => .ok []
  | e :: rest =>
    match port.formattedString host.uidToName e.2 uid with
    | none => .error ENOMEM
    | some value => (expandStore uid rest).map ((e.1, value) :: ·)

/-- The service's keytab becomes the client keytab.  The store is final if the service defines only
    the client keytab. -/
def useKeytab (store : Store) : Except UInt32 (Store × Bool) :=
  match lastIdx "keytab" store, lastIdx "client_keytab" store with
  | none, none => .error EINVAL
  | none, some _ => .ok (store, true)
  | some k, some ck => .ok (store.set ck ("client_keytab", (store.getD k default).2), false)
  | some k, none => .ok (store ++ [("client_keytab", (store.getD k default).2)], false)

def privateCcache : String := "MEMORY:internal_" ++ toString host.tid

def ensureSegregatedCcache (store : Store) : Store × Option String :=
  match lastIdx "ccache" store with
  | some _ => (store, none)
  | none => (store ++ [("ccache", privateCcache host)], some (privateCcache host))

def buildStore (svc : Service) (t : Target N) : Except UInt32 (Store × Option String) := do
  if svc.krb5Store = [] then return ([], none)
  let store ← expandStore port host t.uid svc.krb5Store
  if t.useServiceKeytab then
    let (store, final) ← useKeytab store
    if final then return (store, none)
    return ensureSegregatedCcache host store
  return ensureSegregatedCcache host store

/-- `gp_get_cred_environment`. -/
def getCredEnvironment (svc : Service) (uid : UInt32) (desiredName : Option GssxName)
    (usage : Int32) : Except UInt32 (CredEnv N) := do
  let usage ← filterUsage svc usage
  let target ← resolveTarget port host svc uid desiredName
  let target ← impersonateUser host svc usage target
  let target ← configuredName port host svc target
  let (store, ccache) ← buildStore port host svc target
  return { requestedName := target.requestedName, credUsage := usage, credStore := store,
           memCcache := ccache }

/-! ## The service's own store -/

def Permitted (svc : Service) (usage : Int32) : Prop :=
  svc.credUsage = GSS_C_BOTH ∨ usage = svc.credUsage

/-- The user that the request is for. -/
def authorisedUid (svc : Service) (uid : UInt32) : Option GssxName → UInt32
  | some name => if namesUser svc uid name then port.leadingUid name.displayName.data else uid
  | none => uid

def Expands (svc : Service) (uid : UInt32) (key value : String) : Prop :=
  ∃ template, (key, template) ∈ svc.krb5Store ∧
    port.formattedString host.uidToName template uid = some value

/-- An entry of the service's store, its keytab as client keytab, or the private cache where it
    configures none. -/
def OwnEntry (svc : Service) (uid : UInt32) (e : String × String) : Prop :=
  Expands port host svc uid e.1 e.2 ∨
    (e.1 = "client_keytab" ∧ Expands port host svc uid "keytab" e.2) ∨
    (e = ("ccache", privateCcache host) ∧ svc.krb5Store ≠ [] ∧
      "ccache" ∉ svc.krb5Store.map Prod.fst)

/-- The service's own store, expanded for the user: each configured entry, and nothing else. -/
structure OwnStore (svc : Service) (uid : UInt32) (store : Store) : Prop where
  entries : ∀ e ∈ store, OwnEntry port host svc uid e
  keys : svc.krb5Store.map Prod.fst <+: store.map Prod.fst

section

variable {port host} {svc : Service} {uid : UInt32} {store : Store}

theorem ownStore_nil_iff : OwnStore port host svc uid [] ↔ svc.krb5Store = [] := by
  constructor
  · intro h; simpa using h.keys
  · intro h; exact ⟨by simp, by simp [h]⟩

theorem expandStore_ok (hex : expandStore port host uid svc.krb5Store = .ok store) :
    OwnStore port host svc uid store := by
  -- a part of the configured store expands to entries of the service under the same keys
  have go : ∀ (cfg out : Store), (∀ e ∈ cfg, e ∈ svc.krb5Store) →
      expandStore port host uid cfg = .ok out →
      (∀ e ∈ out, Expands port host svc uid e.1 e.2) ∧ cfg.map Prod.fst = out.map Prod.fst := by
    intro cfg
    induction cfg with
    | nil => rintro out _ ⟨⟩; exact ⟨by simp, rfl⟩
    | cons c cfg ih =>
      intro out hc ho
      unfold expandStore at ho
      cases hv : port.formattedString host.uidToName c.2 uid with
      | none => simp [hv] at ho
      | some value =>
        cases hr : expandStore port host uid cfg with
        | error e => simp [hv, hr, Except.map] at ho
        | ok rest =>
          simp only [hv, hr, Except.map, Except.ok.injEq] at ho
          obtain ⟨how, hk⟩ := ih rest (fun e he => hc e (.tail _ he)) hr
          subst ho
          refine ⟨fun e he => ?_, by simp [hk]⟩
          rcases List.mem_cons.mp he with rfl | he
          · exact ⟨c.2, hc c (.head _), hv⟩
          · exact how e he
  obtain ⟨how, hk⟩ := go _ _ (fun _ he => he) hex
  exact ⟨fun e he => .inl (how e he), [], by simp [hk]⟩

theorem lastIdx_some {key : String} {i : Nat} (h : lastIdx key store = some i) :
    ∃ value, store[i]? = some (key, value) := by
  induction store generalizing i with
  | nil => cases h
  | cons e rest ih =>
    unfold lastIdx at h
    cases hr : lastIdx key rest with
    | some j =>
      obtain ⟨value, hv⟩ := ih hr
      simp only [hr, Option.some.injEq] at h
      subst h
      exact ⟨value, hv⟩
    | none =>
      simp only [hr, Option.ite_none_right_eq_some, Option.some.injEq] at h
      obtain ⟨rfl, rfl⟩ := h
      exact ⟨e.2, rfl⟩

theorem lastIdx_none {key : String} (h : lastIdx key store = none) : key ∉ store.map Prod.fst := by
  induction store with
  | nil => simp
  | cons e rest ih =>
    unfold lastIdx at h
    cases hr : lastIdx key rest with
    | some j => simp [hr] at h
    | none =>
      have hne : e.1 ≠ key := by simpa [hr] using h
      simpa [hne.symm] using ih hr

theorem OwnStore.keytab (h : OwnStore port host svc uid store) {k : Nat}
    (hk : lastIdx "keytab" store = some k) :
    Expands port host svc uid "keytab" (store.getD k default).2 := by
  obtain ⟨value, hv⟩ := lastIdx_some hk
  have hg : store.getD k default = ("keytab", value) := by simp [List.getD, hv]
  rw [hg]
  rcases h.entries _ (List.mem_of_getElem? hv) with ho | ⟨hke, -⟩ | ⟨hc, -⟩
  · exact ho
  · simp at hke
  · simp at hc

theorem useKeytab_ok (h : OwnStore port host svc uid store) {out : Store} {final : Bool}
    (ho : useKeytab store = .ok (out, final)) : OwnStore port host svc uid out := by
  unfold useKeytab at ho
  cases hk : lastIdx "keytab" store with
  | none =>
    cases hck : lastIdx "client_keytab" store with
    | none => simp [hk, hck] at ho
    | some ck => simp only [hk, hck, Except.ok.injEq, Prod.mk.injEq] at ho; rwa [← ho.1]
  | some k =>
    have hke := h.keytab hk
    cases hck : lastIdx "client_keytab" store with
    | none =>
      simp only [hk, hck, Except.ok.injEq, Prod.mk.injEq] at ho
      rw [← ho.1]
      refine ⟨fun e he => ?_, ?_⟩
      · rcases List.mem_append.mp he with he | he
        · exact h.entries e he
        · rw [List.mem_singleton.mp he]; exact .inr (.inl ⟨rfl, hke⟩)
      · rw [List.map_append]; exact h.keys.trans ⟨_, rfl⟩
    | some ck =>
      obtain ⟨old, hold⟩ := lastIdx_some hck
      simp only [hk, hck, Except.ok.injEq, Prod.mk.injEq] at ho
      rw [← ho.1]
      refine ⟨fun e he => ?_, ?_⟩
      · rcases List.mem_or_eq_of_mem_set he with he | rfl
        · exact h.entries e he
        · exact .inr (.inl ⟨rfl, hke⟩)
      · -- the overwritten entry had the same key
        have hky : (store.map Prod.fst)[ck]? = some "client_keytab" := by simp [hold]
        obtain ⟨hlt, hky⟩ := List.getElem?_eq_some_iff.mp hky
        rw [List.map_set, ← hky, List.set_getElem_self]
        exact h.keys

theorem ensureSegregatedCcache_ok (h : OwnStore port host svc uid store) (hs : svc.krb5Store ≠ []) :
    OwnStore port host svc uid (ensureSegregatedCcache host store).1 := by
  unfold ensureSegregatedCcache
  cases hcc : lastIdx "ccache" store with
  | some i => exact h
  | none =>
    refine ⟨fun e he => ?_, ?_⟩
    · rcases List.mem_append.mp he with he | he
      · exact h.entries e he
      · rw [List.mem_singleton.mp he]
        exact .inr (.inr ⟨rfl, hs, fun hm => lastIdx_none hcc (h.keys.subset hm)⟩)
    · simp only [List.map_append]; exact h.keys.trans ⟨_, rfl⟩

theorem bind_eq_ok {ε α β : Type} {x : Except ε α} {f : α → Except ε β} {b : β} :
    (x >>= f) = .ok b ↔ ∃ a, x = .ok a ∧ f a = .ok b := by
  cases x with
  | ok a => exact ⟨fun h => ⟨a, rfl, h⟩, by rintro ⟨_, ⟨⟩, h⟩; exact h⟩
  | error e => exact ⟨fun h => (nomatch h), by rintro ⟨_, ⟨⟩, _⟩⟩

theorem bind_eq_error {ε α β : Type} {x : Except ε α} {f : α → Except ε β} {e : ε} :
    x >>= f = .error e ↔ x = .error e ∨ ∃ a, x = .ok a ∧ f a = .error e := by
  cases x with
  | error _ | ok _ => simp [bind, Except.bind]

theorem mapError_eq_ok {ε ε' α : Type} {x : Except ε α} {f : ε → ε'} {a : α} :
    x.mapError f = .ok a ↔ x = .ok a := by
  cases x with
  | ok _ | error _ => simp [Except.mapError]

variable {t : Target N}

theorem buildStore_ok {ccache : Option String}
    (h : buildStore port host svc t = .ok (store, ccache)) :
    OwnStore port host svc t.uid store := by
  unfold buildStore at h
  have segregated {s : Store} (h : Except.ok (ensureSegregatedCcache host s) =
      (Except.ok (store, ccache) : Except UInt32 _)) :
      (ensureSegregatedCcache host s).1 = store := congrArg Prod.fst (Except.ok.inj h)
  by_cases hn : svc.krb5Store = []
  · rw [if_pos hn] at h
    cases h
    exact ownStore_nil_iff.mpr hn
  rw [if_neg hn] at h
  obtain ⟨expanded, he, h⟩ := bind_eq_ok.mp h
  have ho := expandStore_ok he
  by_cases hk : t.useServiceKeytab = true
  · rw [if_pos hk] at h
    obtain ⟨⟨keyed, final⟩, hke, h⟩ := bind_eq_ok.mp h
    have ho := useKeytab_ok ho hke
    cases final with
    | true => cases h; exact ho
    | false => rw [← segregated h]; exact ensureSegregatedCcache_ok ho hn
  · rw [if_neg hk] at h
    rw [← segregated h]
    exact ensureSegregatedCcache_ok ho hn

theorem filterUsage_ok {usage filtered : Int32} (h : filterUsage svc usage = .ok filtered) :
    Permitted svc filtered := by
  unfold filterUsage at h
  split_ifs at h with hb ha hd
  · exact .inl hb
  · cases h; exact .inr rfl
  · cases h; exact .inr (not_not.mp hd).symm

theorem resolveTarget_uid {desiredName : Option GssxName}
    (h : resolveTarget port host svc uid desiredName = .ok t) :
    t.uid = authorisedUid port svc uid desiredName := by
  unfold resolveTarget at h
  unfold authorisedUid
  cases desiredName with
  | none => cases h; rfl
  | some name =>
    by_cases hn : namesUser svc uid name = true
    · simp only [hn, if_true] at h ⊢
      cases h; rfl
    simp only [hn] at h ⊢
    cases hna : gssxToName host name with
    | ok n =>
      simp only [hna] at h
      cases h; rfl
    | error e => simp [hna] at h

theorem impersonateUser_uid {usage : Int32} {t' : Target N}
    (h : impersonateUser host svc usage t = .ok t') : t'.uid = t.uid := by
  unfold impersonateUser at h
  split at h
  · split at h
    · cases h
    · split at h
      · cases h; rfl
      · cases h
  · cases h; rfl

theorem configuredName_uid {t' : Target N} (h : configuredName port host svc t = .ok t') :
    t'.uid = t.uid := by
  unfold configuredName at h
  split at h
  · split at h
    · cases h; rfl
    · cases h
  · cases h; rfl

theorem getCredEnvironment_ok {desiredName : Option GssxName} {usage : Int32} {env : CredEnv N}
    (h : getCredEnvironment port host svc uid desiredName usage = .ok env) :
    OwnStore port host svc (authorisedUid port svc uid desiredName) env.credStore ∧
      Permitted svc env.credUsage := by
  obtain ⟨filtered, hf, h⟩ := bind_eq_ok.mp h
  obtain ⟨t₁, ht₁, h⟩ := bind_eq_ok.mp h
  obtain ⟨t₂, ht₂, h⟩ := bind_eq_ok.mp h
  obtain ⟨t₃, ht₃, h⟩ := bind_eq_ok.mp h
  obtain ⟨⟨store, ccache⟩, hs, h⟩ := bind_eq_ok.mp h
  cases h
  have hu : t₃.uid = authorisedUid port svc uid desiredName := by
    rw [configuredName_uid ht₃, impersonateUser_uid ht₂, resolveTarget_uid ht₁]
  exact ⟨hu ▸ buildStore_ok hs, filterUsage_ok hf⟩

end

end

def getFormattedString (uidToName : UInt32 → Option String) (uid : UInt32) :
    List Char → Option (List Char)
  | [] => some []
  | '%' :: '%' :: rest => (getFormattedString uidToName uid rest).map ('%' :: ·)
  | '%' :: 'U' :: rest => (getFormattedString uidToName uid rest).map ((toString uid).toList ++ ·)
  | '%' :: 'u' :: rest => do
    let name ← uidToName uid
    (getFormattedString uidToName uid rest).map (name.toList ++ ·)
  | '%' :: _ => none
  | c :: rest => (getFormattedString uidToName uid rest).map (c :: ·)

def rustPort : Port where
  nameErrno := EINVAL
  leadingUid := parseLeadingUid 0
  formattedString uidToName template uid :=
    (getFormattedString uidToName uid template.toList).map String.ofList

def cPort (formattedString : (UInt32 → Option String) → String → UInt32 → Option String) :
    Port where
  nameErrno := 4294967295
  leadingUid s := UInt32.ofInt (atol s)
  formattedString

end GssProxy.Server
