import GssProxy.Server.Ports

/-!
# For whom and with what a credential is acquired

`gp_get_cred_environment` decides on three flags from the service, the peer and the name it asks for.

* `authorised_target`: the user, the name and the store that come of them.
* `segregated_iff`: a request has a cache of its own, but where the keytab of the service is to
  be used and neither it nor a cache is configured.
-/

namespace GssProxy.Server

open Codec Gss Proto Server.Format

/-! ## The decisions -/

section

variable (svc : Service) (uid : UInt32) (desiredName : Option GssxName) (usage : Int32)

def effectiveUsage : Int32 := if svc.credUsage = GSS_C_BOTH then usage else svc.credUsage

def forUser : Bool := svc.euid != uid || desiredName.any (namesUser svc uid)

def impersonates : Bool :=
  forUser svc uid desiredName && tryImpersonate svc (effectiveUsage svc usage) .normal

def asksItself : Bool :=
  svc.euid == uid &&
    match desiredName with
    | some name => !namesUser svc uid name
    | none => svc.trusted

/-- The keytab of the service is to be used. -/
def usesServiceKeytab : Bool := impersonates svc uid desiredName usage || asksItself svc uid desiredName

end

section

variable {N : Type} {port : Port} {host : Host N} {svc : Service} {uid : UInt32}
  {desiredName : Option GssxName} {usage : Int32} {env : CredEnv N}

theorem filterUsage_eq {filtered : Int32} (h : filterUsage svc usage = .ok filtered) :
    filtered = effectiveUsage svc usage := by
  unfold filterUsage at h
  unfold effectiveUsage
  split_ifs at h ⊢ with hb ha hs
  · cases h; rfl
  · cases h; rfl
  · cases h; exact (not_not.mp hs).symm

structure Resolved (port : Port) (host : Host N) (svc : Service) (uid : UInt32)
    (desiredName : Option GssxName) (usage : Int32) (t : Target N) : Prop where
  uid_eq : t.uid = authorisedUid port svc uid desiredName
  keytab : t.useServiceKeytab = usesServiceKeytab svc uid desiredName usage
  user : impersonates svc uid desiredName usage = true → ∃ username name,
    host.uidToName t.uid = some username ∧
      host.importName (utf8 username) (some NT_USER_NAME_OID) = .ok name ∧ t.requestedName = some name
  given : impersonates svc uid desiredName usage = false → ∀ g, desiredName = some g →
    namesUser svc uid g = false → ∃ name, gssxToName host g = .ok name ∧ t.requestedName = some name
  /-- a missing one is that of the configured principal, with the keytab of the service -/
  missing : impersonates svc uid desiredName usage = false →
    (∀ g, desiredName = some g → namesUser svc uid g = true) →
    t.requestedName = none ∨ usesServiceKeytab svc uid desiredName usage = true ∧ ∃ principal name,
      svc.krb5Principal = some principal ∧ principalName host principal = .ok name ∧
        t.requestedName = some name

structure Asked (port : Port) (host : Host N) (svc : Service) (uid : UInt32)
    (desiredName : Option GssxName) (t : Target N) : Prop where
  uid_eq : t.uid = authorisedUid port svc uid desiredName
  requested : t.userRequested = forUser svc uid desiredName
  keytab : t.useServiceKeytab = asksItself svc uid desiredName
  given : ∀ g, desiredName = some g → namesUser svc uid g = false →
    ∃ name, gssxToName host g = .ok name ∧ t.requestedName = some name
  missing : (∀ g, desiredName = some g → namesUser svc uid g = true) → t.requestedName = none

variable {t : Target N}

theorem resolveTarget_asked (h : resolveTarget port host svc uid desiredName = .ok t) :
    Asked port host svc uid desiredName t := by
  have hu := resolveTarget_uid h
  unfold resolveTarget at h
  cases desiredName with
  | none =>
    cases h
    exact ⟨hu, by simp [forUser], Bool.and_comm _ _, nofun, fun _ => rfl⟩
  | some g =>
    by_cases hn : namesUser svc uid g = true
    · simp only [hn, if_true] at h
      cases h
      refine ⟨hu, by simp [forUser, hn], by simp [asksItself, hn], ?_, fun _ => rfl⟩
      rintro g' ⟨⟩ hno
      rw [hn] at hno; cases hno
    · have hno : namesUser svc uid g = false := Bool.eq_false_iff.mpr hn
      simp only [hno, Bool.false_eq_true, if_false] at h
      cases hna : gssxToName host g with
      | error e => rw [hna] at h; cases h
      | ok name =>
        rw [hna] at h
        cases h
        refine ⟨hu, by simp [forUser, hno], by simp [asksItself, hno], ?_, ?_⟩
        · rintro g' ⟨⟩ _; exact ⟨name, hna, rfl⟩
        · intro ha; exact absurd (ha g rfl) hn

variable {t' : Target N} {cfg : Store} {i : Nat}

theorem impersonateUser_cases (h : impersonateUser host svc usage t = .ok t') :
    (t.userRequested && tryImpersonate svc usage .normal) = true ∧ t'.useServiceKeytab = true ∧
        (∃ username name, host.uidToName t'.uid = some username ∧
          host.importName (utf8 username) (some NT_USER_NAME_OID) = .ok name ∧
          t'.requestedName = some name) ∨
      (t.userRequested && tryImpersonate svc usage .normal) = false ∧ t' = t := by
  unfold impersonateUser at h
  split at h
  · rename_i hi
    refine .inl ⟨hi, ?_⟩
    split at h
    · cases h
    rename_i username hl
    split at h
    · rename_i name him
      cases h
      exact ⟨rfl, username, name, hl, him, rfl⟩
    · cases h
  · rename_i hn
    cases h
    exact .inr ⟨Bool.eq_false_iff.mpr hn, rfl⟩

theorem configuredName_cases (h : configuredName port host svc t = .ok t') :
    t'.useServiceKeytab = t.useServiceKeytab ∧ (t'.requestedName = t.requestedName ∨
        t.requestedName = none ∧ t.useServiceKeytab = true ∧ ∃ principal name,
          svc.krb5Principal = some principal ∧ principalName host principal = .ok name ∧
            t'.requestedName = some name) := by
  unfold configuredName at h
  split at h
  · rename_i principal hk hn hp
    split at h
    · rename_i name hi
      cases h
      exact ⟨rfl, .inr ⟨hn, hk, principal, name, hp, hi, rfl⟩⟩
    · cases h
  · cases h; exact ⟨rfl, .inl rfl⟩

theorem configuredName_kept {name : N} (h : configuredName port host svc t = .ok t')
    (hn : t.requestedName = some name) : t'.requestedName = some name := by
  rcases (configuredName_cases h).2 with hs | ⟨hno, -⟩
  · rw [hs, hn]
  · rw [hn] at hno; cases hno

theorem resolved {filtered : Int32} {t₁ t₂ t₃ : Target N} (hf : filterUsage svc usage = .ok filtered)
    (h₁ : resolveTarget port host svc uid desiredName = .ok t₁)
    (h₂ : impersonateUser host svc filtered t₁ = .ok t₂)
    (h₃ : configuredName port host svc t₂ = .ok t₃) :
    Resolved port host svc uid desiredName usage t₃ := by
  have ha := resolveTarget_asked h₁
  have hui : t₃.uid = authorisedUid port svc uid desiredName := by
    rw [configuredName_uid h₃, impersonateUser_uid h₂, ha.uid_eq]
  have hi : impersonates svc uid desiredName usage =
      (t₁.userRequested && tryImpersonate svc filtered .normal) := by
    rw [impersonates, ha.requested, filterUsage_eq hf]
  obtain ⟨hke, hna⟩ := configuredName_cases h₃
  rcases impersonateUser_cases h₂ with ⟨him, hk, username, name, hl, hip, hne⟩ | ⟨hn, rfl⟩
  · rw [← hi] at him
    refine ⟨hui, by rw [hke, hk, usesServiceKeytab, him, Bool.true_or], ?_, ?_, ?_⟩
    · intro _
      refine ⟨username, name, ?_, hip, configuredName_kept h₃ hne⟩
      rw [configuredName_uid h₃]
      exact hl
    · intro hn
      rw [him] at hn; cases hn
    · intro hn
      rw [him] at hn; cases hn
  · rw [← hi] at hn
    have hu : t₂.useServiceKeytab = usesServiceKeytab svc uid desiredName usage := by
      rw [ha.keytab, usesServiceKeytab, hn, Bool.false_or]
    refine ⟨hui, by rw [hke, hu], ?_, ?_, ?_⟩
    · intro him
      rw [hn] at him; cases him
    · intro _ g hg hnm
      obtain ⟨name, hip, hgi⟩ := ha.given g hg hnm
      exact ⟨name, hip, configuredName_kept h₃ hgi⟩
    · intro _ hal
      rcases hna with hna | ⟨-, hk, hp⟩
      · exact .inl (hna.trans (ha.missing hal))
      · exact .inr ⟨hu.symm.trans hk, hp⟩

/-! ## The store -/

def Expanded (port : Port) (host : Host N) (uid : UInt32) (configured entry : String × String) : Prop :=
  entry.1 = configured.1 ∧ port.formattedString host.uidToName configured.2 uid = some entry.2

variable {out : Store}

theorem expandStore_expanded (h : expandStore port host uid cfg = .ok out) :
    List.Forall₂ (Expanded port host uid) cfg out := by
  induction cfg generalizing out with
  | nil => cases h; exact .nil
  | cons c cfg ih =>
    unfold expandStore at h
    cases hv : port.formattedString host.uidToName c.2 uid with
    | none => rw [hv] at h; cases h
    | some value =>
      cases hr : expandStore port host uid cfg with
      | error e => rw [hv, hr] at h; cases h
      | ok rest =>
        rw [hv, hr] at h
        cases h
        exact .cons ⟨rfl, hv⟩ (ih hr)

theorem keys_expanded (h : List.Forall₂ (Expanded port host uid) cfg out) :
    out.map Prod.fst = cfg.map Prod.fst := by
  induction h with
  | nil => rfl
  | cons he _ ih => rw [List.map_cons, List.map_cons, he.1, ih]

theorem getElem?_expanded (h : List.Forall₂ (Expanded port host uid) cfg out)
    {c : String × String} (hc : cfg[i]? = some c) :
    ∃ e, out[i]? = some e ∧ Expanded port host uid c e := by
  induction h generalizing i with
  | nil => cases hc
  | cons he _ ih =>
    cases i with
    | zero => cases hc; exact ⟨_, rfl, he⟩
    | succ i => exact ih hc

variable {store : Store}

theorem lastIdx_eq_none_iff {key : String} :
    lastIdx key store = none ↔ key ∉ store.map Prod.fst := by
  constructor
  · exact lastIdx_none
  · intro hn
    cases h : lastIdx key store with
    | none => rfl
    | some i =>
      obtain ⟨value, hv⟩ := lastIdx_some h
      exact absurd (List.mem_map.mpr ⟨_, List.mem_of_getElem? hv, rfl⟩) hn

def lastValue (key : String) (store : Store) : Option String :=
  (lastIdx key store).map fun i => (store.getD i default).2

def withClientKeytab (value : Option String) (store : Store) : Store :=
  match value, lastIdx "client_keytab" store with
  | none, _ => store
  | some value, some ck => store.set ck ("client_keytab", value)
  | some value, none => store ++ [("client_keytab", value)]

def usedKeytab (used : Bool) (store : Store) : Option String :=
  if used then lastValue "keytab" store else none

theorem useKeytab_eq {final : Bool} (h : useKeytab store = .ok (out, final)) :
    out = withClientKeytab (lastValue "keytab" store) store ∧
      (final = true ↔ "keytab" ∉ store.map Prod.fst) := by
  rw [← lastIdx_eq_none_iff]
  unfold useKeytab at h
  unfold withClientKeytab lastValue
  cases hk : lastIdx "keytab" store with
  | none =>
    cases hck : lastIdx "client_keytab" store with
    | none => rw [hk, hck] at h; cases h
    | some ck =>
      rw [hk, hck] at h
      cases h
      exact ⟨rfl, by simp⟩
  | some k =>
    cases hck : lastIdx "client_keytab" store with
    | none | some _ =>
      rw [hk, hck] at h
      cases h
      exact ⟨rfl, by simp⟩

theorem buildStore_cases {ccache : Option String}
    (hne : svc.krb5Store ≠ []) (h : buildStore port host svc t = .ok (store, ccache)) :
    ∃ expanded, List.Forall₂ (Expanded port host t.uid) svc.krb5Store expanded ∧
      let keyed := withClientKeytab (usedKeytab t.useServiceKeytab expanded) expanded
      if t.useServiceKeytab = true ∧ "keytab" ∉ svc.krb5Store.map Prod.fst then
        store = keyed ∧ ccache = none
      else (store, ccache) = ensureSegregatedCcache host keyed := by
  unfold buildStore at h
  rw [if_neg hne] at h
  obtain ⟨expanded, hex, h⟩ := bind_eq_ok.mp h
  have he := expandStore_expanded hex
  refine ⟨expanded, he, ?_⟩
  by_cases hu : t.useServiceKeytab = true
  · rw [if_pos hu] at h
    obtain ⟨⟨keyed, final⟩, hk, h⟩ := bind_eq_ok.mp h
    obtain ⟨rfl, hf⟩ := useKeytab_eq hk
    rw [keys_expanded he] at hf
    simp only [usedKeytab, hu, true_and, if_true, ← hf]
    cases final with
    | true => cases h; exact ⟨rfl, rfl⟩
    | false => exact (Except.ok.inj h).symm
  · rw [if_neg hu] at h
    simp only [usedKeytab, hu]
    exact (Except.ok.inj h).symm

/-! ## A cache of its own -/

theorem keys_withClientKeytab (value : Option String) (store : Store) :
    (withClientKeytab value store).map Prod.fst = store.map Prod.fst ∨
      (withClientKeytab value store).map Prod.fst = store.map Prod.fst ++ ["client_keytab"] := by
  unfold withClientKeytab
  cases value with
  | none => exact .inl rfl
  | some value =>
    cases hck : lastIdx "client_keytab" store with
    | none => exact .inr (List.map_append)
    | some ck =>
      -- the entry that is replaced has the same key
      obtain ⟨old, hold⟩ := lastIdx_some hck
      have hk : (store.map Prod.fst)[ck]? = some "client_keytab" := by simp [hold]
      obtain ⟨hlt, hk⟩ := List.getElem?_eq_some_iff.mp hk
      left
      rw [List.map_set, ← hk, List.set_getElem_self]

theorem mem_withClientKeytab (value : String) (store : Store) :
    ("client_keytab", value) ∈ withClientKeytab (some value) store := by
  unfold withClientKeytab
  cases hck : lastIdx "client_keytab" store with
  | none => exact List.mem_append_right _ List.mem_cons_self
  | some ck =>
    obtain ⟨old, hold⟩ := lastIdx_some hck
    exact List.mem_set (List.getElem?_eq_some_iff.mp hold).1 _

theorem ccache_mem_withClientKeytab {value : Option String} :
    "ccache" ∈ (withClientKeytab value store).map Prod.fst ↔ "ccache" ∈ store.map Prod.fst := by
  rcases keys_withClientKeytab value store with hk | hk
  · rw [hk]
  · rw [hk, List.mem_append]; exact or_iff_left (by decide)

/-- The store has a credential cache, each configured entry in order and expanded for the user, the
    keytab as client keytab if it is used, and nothing else; a private cache is to be destroyed. -/
structure Segregated (port : Port) (host : Host N) (svc : Service) (uid : UInt32) (keytab : Bool)
    (expanded : Store) (env : CredEnv N) : Prop where
  expands : List.Forall₂ (Expanded port host uid) svc.krb5Store expanded
  store : env.credStore = withClientKeytab (usedKeytab keytab expanded) expanded ++
    if "ccache" ∈ svc.krb5Store.map Prod.fst then [] else [("ccache", privateCcache host)]
  ccache : "ccache" ∈ env.credStore.map Prod.fst
  clientKeytab : ∀ value, usedKeytab keytab expanded = some value →
    ("client_keytab", value) ∈ env.credStore
  registered : "ccache" ∉ svc.krb5Store.map Prod.fst → env.memCcache = some (privateCcache host)

theorem getCredEnvironment_resolved (h : getCredEnvironment port host svc uid desiredName usage = .ok env) :
    ∃ t, Resolved port host svc uid desiredName usage t ∧
      buildStore port host svc t = .ok (env.credStore, env.memCcache) ∧
      env.requestedName = t.requestedName ∧ env.credUsage = effectiveUsage svc usage := by
  obtain ⟨filtered, hf, h⟩ := bind_eq_ok.mp h
  obtain ⟨t₁, h₁, h⟩ := bind_eq_ok.mp h
  obtain ⟨t₂, h₂, h⟩ := bind_eq_ok.mp h
  obtain ⟨t₃, h₃, h⟩ := bind_eq_ok.mp h
  obtain ⟨⟨store, ccache⟩, hs, h⟩ := bind_eq_ok.mp h
  cases h
  exact ⟨t₃, resolved hf h₁ h₂ h₃, hs, rfl, filterUsage_eq hf⟩

def AddsPrivate (svc : Service) (keytab : Bool) : Prop :=
  (keytab = true → "keytab" ∈ svc.krb5Store.map Prod.fst) ∧ "ccache" ∉ svc.krb5Store.map Prod.fst

instance (svc : Service) (keytab : Bool) : Decidable (AddsPrivate svc keytab) :=
  inferInstanceAs (Decidable (_ ∧ _))

theorem ensureSegregatedCcache_eq (host : Host N) (store : Store) :
    ensureSegregatedCcache host store = if "ccache" ∈ store.map Prod.fst then (store, none)
      else (store ++ [("ccache", privateCcache host)], some (privateCcache host)) := by
  unfold ensureSegregatedCcache
  cases hi : lastIdx "ccache" store with
  | none => rw [if_neg (lastIdx_none hi)]
  | some i =>
    have hm : "ccache" ∈ store.map Prod.fst := by
      by_contra hn
      rw [lastIdx_eq_none_iff.mpr hn] at hi; cases hi
    rw [if_pos hm]

theorem getCredEnvironment_store (hne : svc.krb5Store ≠ [])
    (h : getCredEnvironment port host svc uid desiredName usage = .ok env) :
    let used := usesServiceKeytab svc uid desiredName usage
    ∃ expanded, List.Forall₂ (Expanded port host (authorisedUid port svc uid desiredName))
        svc.krb5Store expanded ∧
      env.credStore = withClientKeytab (usedKeytab used expanded) expanded ++
        (if AddsPrivate svc used then [("ccache", privateCcache host)] else []) ∧
      (AddsPrivate svc used → env.memCcache = some (privateCcache host)) := by
  intro used
  obtain ⟨t, hr, hb, -, -⟩ := getCredEnvironment_resolved h
  obtain ⟨expanded, hex, hc⟩ := buildStore_cases hne hb
  rw [hr.uid_eq] at hex
  simp only [hr.keytab, ensureSegregatedCcache_eq, ccache_mem_withClientKeytab,
    keys_expanded hex] at hc
  refine ⟨expanded, hex, ?_⟩
  by_cases he : used = true ∧ "keytab" ∉ svc.krb5Store.map Prod.fst
  · have hn : ¬ AddsPrivate svc used := fun ha => he.2 (ha.1 he.1)
    rw [if_pos he] at hc
    rw [if_neg hn, List.append_nil]
    exact ⟨hc.1, fun ha => absurd ha hn⟩
  · rw [if_neg he] at hc
    by_cases hcc : "ccache" ∈ svc.krb5Store.map Prod.fst
    · have hn : ¬ AddsPrivate svc used := fun ha => ha.2 hcc
      rw [if_pos hcc] at hc
      rw [if_neg hn, List.append_nil]
      exact ⟨congrArg Prod.fst hc, fun ha => absurd ha hn⟩
    · have ha : AddsPrivate svc used :=
        ⟨fun hu => not_not.mp fun hno => he ⟨hu, hno⟩, hcc⟩
      rw [if_neg hcc] at hc
      rw [if_pos ha]
      exact ⟨congrArg Prod.fst hc, fun _ => congrArg Prod.snd hc⟩

/-- **Segregated credential caches.**  A request of a service with a store gets a cache of its own, unless the
    keytab of the service is to be used and neither a keytab nor a cache is configured. -/
theorem segregated_iff (hstore : svc.krb5Store ≠ [])
    (h : getCredEnvironment port host svc uid desiredName usage = .ok env) :
    (∃ expanded, Segregated port host svc (authorisedUid port svc uid desiredName)
      (usesServiceKeytab svc uid desiredName usage) expanded env) ↔
    ¬ (usesServiceKeytab svc uid desiredName usage = true ∧ "keytab" ∉ svc.krb5Store.map Prod.fst ∧
      "ccache" ∉ svc.krb5Store.map Prod.fst) := by
  obtain ⟨expanded, he, hcr, hp⟩ := getCredEnvironment_store hstore h
  have hco : "ccache" ∈ (withClientKeytab (usedKeytab (usesServiceKeytab svc uid desiredName usage)
      expanded) expanded).map Prod.fst ↔ "ccache" ∈ svc.krb5Store.map Prod.fst := by
    rw [ccache_mem_withClientKeytab, keys_expanded he]
  constructor
  · rintro ⟨_, hs⟩ ⟨hu, hnk, hn⟩
    have hc := hs.ccache
    rw [hcr, if_neg fun ha => hnk (ha.1 hu), List.append_nil, hco] at hc
    exact hn hc
  · intro hnt
    have ha : AddsPrivate svc (usesServiceKeytab svc uid desiredName usage) ↔
        "ccache" ∉ svc.krb5Store.map Prod.fst :=
      ⟨And.right, fun hc => ⟨fun hu => not_not.mp fun hno => hnt ⟨hu, hno, hc⟩, hc⟩⟩
    refine ⟨expanded, he, ?_, ?_, ?_, fun hc => hp (ha.mpr hc)⟩
    · rw [hcr]
      simp only [ha, ite_not]
    · by_cases hc : "ccache" ∈ svc.krb5Store.map Prod.fst
      · rw [hcr, List.map_append]; exact List.mem_append_left _ (hco.mpr hc)
      · rw [hcr, if_pos (ha.mpr hc), List.map_append]
        exact List.mem_append_right _ List.mem_cons_self
    · intro value hv
      rw [hcr, hv]
      exact List.mem_append_left _ (mem_withClientKeytab value expanded)

def userHost : Host Unit where
  uidToName _ := some "user"
  tid := 7
  importName _ _ := .ok ()

def keytabService : Service :=
  { (default : Service) with trusted := true, krb5Store := [("keytab", "/etc/krb5.keytab")] }

theorem keytab_segregated :
    ∃ env, getCredEnvironment rustPort userHost keytabService 0 none GSS_C_INITIATE = .ok env ∧
      ∃ expanded, Segregated rustPort userHost keytabService 0 true expanded env := by
  obtain ⟨env, he⟩ : ∃ env, getCredEnvironment rustPort userHost keytabService 0 none GSS_C_INITIATE =
    .ok env := ⟨_, rfl⟩
  have hne : keytabService.krb5Store ≠ [] := List.cons_ne_nil _ _
  exact ⟨env, he, (segregated_iff hne he).mpr (by decide)⟩

def clientKeytabService : Service :=
  { (default : Service) with trusted := true, krb5Store := [("client_keytab", "/var/lib/client.keytab")] }

/-- **No cache of its own.**  Both daemons give back the store of such a service before they come to
    the cache. -/
theorem client_keytab_only :
    getCredEnvironment (cPort gpFormattedString) userHost clientKeytabService 0 none GSS_C_INITIATE =
      .ok ⟨none, GSS_C_INITIATE, [("client_keytab", "/var/lib/client.keytab")], none⟩ ∧
    getCredEnvironment rustPort userHost clientKeytabService 0 none GSS_C_INITIATE =
      .ok ⟨none, GSS_C_INITIATE, [("client_keytab", "/var/lib/client.keytab")], none⟩ :=
  ⟨rfl, rfl⟩

/-- Everything is for the authorised user: the peer, unless a trusted service names another. -/
structure Authorised (port : Port) (host : Host N) (svc : Service) (uid : UInt32)
    (desiredName : Option GssxName) (usage : Int32) (env : CredEnv N) : Prop where
  peer : (∀ g, desiredName = some g → namesUser svc uid g = false) →
    authorisedUid port svc uid desiredName = uid
  store : OwnStore port host svc (authorisedUid port svc uid desiredName) env.credStore
  /-- a service that impersonates gets the name of the user, whatever was asked for -/
  user : impersonates svc uid desiredName usage = true → ∃ username name,
    host.uidToName (authorisedUid port svc uid desiredName) = some username ∧
      host.importName (utf8 username) (some NT_USER_NAME_OID) = .ok name ∧ env.requestedName = some name
  given : impersonates svc uid desiredName usage = false → ∀ g, desiredName = some g →
    namesUser svc uid g = false → ∃ name, gssxToName host g = .ok name ∧ env.requestedName = some name
  /-- the principal stands for a missing name with the keytab of the service only -/
  missing : impersonates svc uid desiredName usage = false →
    (∀ g, desiredName = some g → namesUser svc uid g = true) →
    env.requestedName = none ∨ usesServiceKeytab svc uid desiredName usage = true ∧ ∃ principal name,
      svc.krb5Principal = some principal ∧ principalName host principal = .ok name ∧
        env.requestedName = some name
  usage_eq : env.credUsage = effectiveUsage svc usage
  permitted : Permitted svc env.credUsage

theorem authorisedUid_peer (h : ∀ g, desiredName = some g → namesUser svc uid g = false) :
    authorisedUid port svc uid desiredName = uid := by
  cases desiredName with
  | none => rfl
  | some g => rw [authorisedUid, h g rfl]; rfl

theorem getCredEnvironment_authorised
    (h : getCredEnvironment port host svc uid desiredName usage = .ok env) :
    Authorised port host svc uid desiredName usage env := by
  obtain ⟨t, hr, -, hn, hu⟩ := getCredEnvironment_resolved h
  obtain ⟨ho, hp⟩ := getCredEnvironment_ok h
  refine ⟨authorisedUid_peer, ho, ?_, ?_, ?_, hu, hp⟩
  · intro him
    obtain ⟨username, name, hl, hi, hre⟩ := hr.user him
    rw [hr.uid_eq] at hl
    exact ⟨username, name, hl, hi, hn.trans hre⟩
  · intro hno g hg hna
    obtain ⟨name, hi, hre⟩ := hr.given hno g hg hna
    exact ⟨name, hi, hn.trans hre⟩
  · intro hno ha
    rw [hn]
    exact hr.missing hno ha

/-! ## Different peers, different values -/

theorem getElem?_withClientKeytab {value : Option String} {e : String × String}
    (he : store[i]? = some e) (hk : e.1 = "client_keytab" → value = none) :
    (withClientKeytab value store)[i]? = some e := by
  unfold withClientKeytab
  cases value with
  | none => exact he
  | some value =>
    have hlt := (List.getElem?_eq_some_iff.mp he).1
    cases hck : lastIdx "client_keytab" store with
    | none => rw [List.getElem?_append_left hlt, he]
    | some ck =>
      obtain ⟨old, hold⟩ := lastIdx_some hck
      have hne : ck ≠ i := by
        rintro rfl
        rw [hold] at he
        cases he
        cases hk rfl
      rw [List.getElem?_set_ne hne, he]

theorem getElem?_credStore (h : getCredEnvironment port host svc uid desiredName usage = .ok env)
    {key template : String} (hen : svc.krb5Store[i]? = some (key, template))
    (hk : key = "client_keytab" → usesServiceKeytab svc uid desiredName usage = true →
      "keytab" ∉ svc.krb5Store.map Prod.fst) :
    ∃ value, env.credStore[i]? = some (key, value) ∧
      port.formattedString host.uidToName template (authorisedUid port svc uid desiredName) =
        some value := by
  have hne : svc.krb5Store ≠ [] := by
    intro hni
    rw [hni] at hen; cases hen
  obtain ⟨expanded, hex, hs, -⟩ := getCredEnvironment_store hne h
  obtain ⟨e, he, hke, hv⟩ := getElem?_expanded hex hen
  refine ⟨e.2, ?_, hv⟩
  have hk' : e.1 = "client_keytab" →
      usedKeytab (usesServiceKeytab svc uid desiredName usage) expanded = none := by
    intro hc
    unfold usedKeytab
    split
    · rename_i hu
      have hn := hk (hke.symm.trans hc) hu
      rw [← keys_expanded hex, ← lastIdx_eq_none_iff] at hn
      rw [lastValue, hn]; rfl
    · rfl
  have hg := getElem?_withClientKeytab he hk'
  rw [hs, List.getElem?_append_left (List.getElem?_eq_some_iff.mp hg).1, hg]
  exact congrArg some (Prod.ext hke rfl)

/-- **The target of a request.**  What a request gets is for the authorised user: the peer, unless a trusted
    service acting under its own user id names another, and a decimal number names the user it is.  So two
    peers of a service that is not trusted get different values for every entry that asks for the user id
    and nothing else, except for a client keytab that is replaced by the keytab of the service. -/
theorem authorised_target {port : Port} (hport : port.OfDaemon) (svc : Service)
    (hstrings : ∀ e ∈ svc.krb5Store, 0 ∉ utf8 e.2) :
    (∀ (host : Host N) uid desiredName usage env,
      getCredEnvironment port host svc uid desiredName usage = .ok env →
        Authorised port host svc uid desiredName usage env) ∧
    (∀ uid name n, namesUser svc uid name = true → n < 4294967296 → name.displayName.data = digits n →
      authorisedUid port svc uid (some name) = UInt32.ofNat n) ∧
    ∀ (host host' : Host N) uid uid' desiredName desiredName' usage usage' env env',
      getCredEnvironment port host svc uid desiredName usage = .ok env →
      getCredEnvironment port host' svc uid' desiredName' usage' = .ok env' →
      svc.trusted = false → uid ≠ uid' →
      ∀ (i : Nat) key template, svc.krb5Store[i]? = some (key, template) →
        charMarks.NumberOnly template.toList →
        (key = "client_keytab" → "keytab" ∈ svc.krb5Store.map Prod.fst →
          usesServiceKeytab svc uid desiredName usage = false ∧
            usesServiceKeytab svc uid' desiredName' usage' = false) →
        ∃ value value', env.credStore[i]? = some (key, value) ∧ env'.credStore[i]? = some (key, value') ∧
          value ≠ value' := by
  refine ⟨fun _ _ _ _ _ h => getCredEnvironment_authorised h, ?_, ?_⟩
  · intro uid name n hna hn hnm
    rw [authorisedUid, if_pos hna, hnm]
    exact hport.leadingUid_digits hn
  · intro host host' uid uid' desiredName desiredName' usage usage' env env' h h' htr hne i key template
      he ht hke
    have hp (uid : UInt32) (desiredName : Option GssxName) :
        authorisedUid port svc uid desiredName = uid :=
      authorisedUid_peer fun g _ => by simp [namesUser, htr]
    have hcl {used : Bool} (hu : key = "client_keytab" → "keytab" ∈ svc.krb5Store.map Prod.fst →
        used = false) : key = "client_keytab" → used = true → "keytab" ∉ svc.krb5Store.map Prod.fst := by
      intro hci htu hky
      rw [hu hci hky] at htu; cases htu
    obtain ⟨value, hg, hv⟩ := getElem?_credStore h he (hcl fun hc hk => (hke hc hk).1)
    obtain ⟨value', hg', hv'⟩ := getElem?_credStore h' he (hcl fun hc hk => (hke hc hk).2)
    refine ⟨value, value', hg, hg', ?_⟩
    rintro rfl
    rw [hp] at hv hv'
    exact hne (hport.uid_eq ht (hstrings _ (List.mem_of_getElem? he)) hv hv')

end

def sharedService : Service :=
  { (default : Service) with anyUid := true, krb5Store := [("ccache", "FILE:/tmp/krb5cc_%U")] }

theorem sharedService_numberOnly : charMarks.NumberOnly "FILE:/tmp/krb5cc_%U".toList :=
  ⟨"FILE:/tmp/krb5cc_".toList, [[]], by decide, by decide, by decide, by decide⟩

theorem peers_differ :
    ∃ env env', getCredEnvironment (cPort gpFormattedString) userHost sharedService 1001 none
        GSS_C_INITIATE = .ok env ∧
      getCredEnvironment (cPort gpFormattedString) userHost sharedService 1002 none GSS_C_INITIATE =
        .ok env' ∧
      ∃ value value', env.credStore[0]? = some ("ccache", value) ∧
        env'.credStore[0]? = some ("ccache", value') ∧ value ≠ value' := by
  obtain ⟨env, he⟩ : ∃ env, getCredEnvironment (cPort gpFormattedString) userHost sharedService 1001 none
    GSS_C_INITIATE = .ok env := ⟨_, rfl⟩
  obtain ⟨env', he'⟩ : ∃ env, getCredEnvironment (cPort gpFormattedString) userHost sharedService 1002 none
    GSS_C_INITIATE = .ok env := ⟨_, rfl⟩
  refine ⟨env, env', he, he', ?_⟩
  exact (authorised_target (.c gpFormattedString_follows) sharedService (by decide)).2.2 _ _ _ _ _ _ _ _ _ _
    he he' rfl (by decide) 0 "ccache" _ rfl sharedService_numberOnly (by decide)

def impersonatingService : Service :=
  { (default : Service) with
    anyUid := true
    impersonate := true
    krb5Store := [("keytab", "/etc/krb5.keytab"), ("client_keytab", "/var/lib/%U.keytab"),
      ("ccache", "FILE:/tmp/krb5cc_%U")] }

/-- **The same value for two users**: the keytab of the service is their client keytab. -/
theorem client_keytab_shared :
    let store (uid : String) : Store := [("keytab", "/etc/krb5.keytab"),
      ("client_keytab", "/etc/krb5.keytab"), ("ccache", "FILE:/tmp/krb5cc_" ++ uid)]
    (getCredEnvironment (cPort gpFormattedString) userHost impersonatingService 1001 none GSS_C_INITIATE =
        .ok ⟨some (), GSS_C_INITIATE, store "1001", none⟩ ∧
      getCredEnvironment (cPort gpFormattedString) userHost impersonatingService 1002 none GSS_C_INITIATE =
        .ok ⟨some (), GSS_C_INITIATE, store "1002", none⟩) ∧
    getCredEnvironment rustPort userHost impersonatingService 1001 none GSS_C_INITIATE =
        .ok ⟨some (), GSS_C_INITIATE, store "1001", none⟩ ∧
      getCredEnvironment rustPort userHost impersonatingService 1002 none GSS_C_INITIATE =
        .ok ⟨some (), GSS_C_INITIATE, store "1002", none⟩ :=
  ⟨⟨rfl, rfl⟩, rfl, rfl⟩

end GssProxy.Server
