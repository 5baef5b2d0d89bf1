import GssProxy.Server.Creds

/-!
# Reusing an input credential

Both daemons check the credential of a request first: it is used as it is, a new one is acquired as if
there had been none, or the request is refused.

* `input_cred_reuse`: which way each daemon takes, and that they take the same one exactly if asking for
  the name makes no difference to a request that desires none.
-/

namespace GssProxy.Server

open Effect Gss Proto

/-! ## The three ways -/

def Covers (usage requested : Int32) : Prop :=
  (requested = GSS_C_ACCEPT → usage ≠ GSS_C_INITIATE) ∧
  (requested = GSS_C_INITIATE → usage ≠ GSS_C_ACCEPT) ∧
  (requested = GSS_C_BOTH → usage = GSS_C_BOTH)

theorem covers_iff {usage requested : Int32}
    (hu : usage ∈ [GSS_C_BOTH, GSS_C_INITIATE, GSS_C_ACCEPT])
    (hr : requested ∈ [GSS_C_BOTH, GSS_C_INITIATE, GSS_C_ACCEPT]) :
    Covers usage requested ↔ usage = GSS_C_BOTH ∨ usage = requested := by
  simp only [List.mem_cons, List.not_mem_nil, or_false] at hu hr
  unfold Covers
  rcases hu with rfl | rfl | rfl <;> rcases hr with rfl | rfl | rfl <;> decide

section

variable {N A : Type} (lib : CredLib N A) (svc : Service) (inquired : Except GssError (CredInfo N))
  (desiredName : Option GssxName) (usage : Int32)

structure Suitable (info : CredInfo N) : Prop where
  krb5 : KRB5_MECH_OID ∈ info.mechs
  named : ∀ name, desiredName = some name → ∃ required own,
    gssxToName lib.toHost name = .ok required ∧ info.name = some own ∧
      lib.compareName (some required) (some own) = .ok true

structure Serviceable (info : CredInfo N) : Prop where
  covers : Covers info.usage usage
  alive : info.lifetime ≠ 0
  lasts : svc.minLifetime ≤ info.lifetime

/-- The inquiry tells of a credential that can be used as it is. -/
def Usable : Prop :=
  ∃ info, inquired = .ok info ∧ Suitable lib desiredName info ∧ Serviceable svc usage info

/-- It tells of one that only does not serve any more, or reports it as expired, missing or
    defective. -/
def Outworn : Prop :=
  (∃ info, inquired = .ok info ∧ Suitable lib desiredName info ∧ ¬ Serviceable svc usage info) ∨
  ∃ e, inquired = .error e ∧ renewable e.major = true

/-- Converting and comparing names never fail with the status of an expired, missing or defective
    credential, and no name equals a missing one. -/
structure NameCalls : Prop where
  converting : ∀ name e, gssxToName lib.toHost name = .error e → renewable e.major = false
  comparing : ∀ first second e, lib.compareName first second = .error e → renewable e.major = false
  missing : ∀ required, lib.compareName (some required) none ≠ .ok true

/-! ## The check -/

def checkName (compare : N → Option N → Except GssError Bool) (info : CredInfo N) :
    Except GssError Unit :=
  match desiredName with
  | none => .ok ()
  | some name => do
    let required ← gssxToName lib.toHost name
    let equal ← compare required info.name
    if ¬ equal then .error ⟨GSS_S_CRED_UNAVAIL, 0⟩ else .ok ()

def checkSuitable (compare : N → Option N → Except GssError Bool) (info : CredInfo N) :
    Except GssError Unit :=
  if KRB5_MECH_OID ∉ info.mechs then .error ⟨GSS_S_CRED_UNAVAIL, 0⟩
  else checkName lib desiredName compare info

def checkService (info : CredInfo N) : Except GssError Unit :=
  if usage = GSS_C_ACCEPT ∧ info.usage = GSS_C_INITIATE then .error ⟨GSS_S_NO_CRED, 0⟩
  else if usage = GSS_C_INITIATE ∧ info.usage = GSS_C_ACCEPT then .error ⟨GSS_S_NO_CRED, 0⟩
  else if usage = GSS_C_BOTH ∧ info.usage ≠ GSS_C_BOTH then .error ⟨GSS_S_NO_CRED, 0⟩
  else if info.lifetime = 0 then .error ⟨GSS_S_CREDENTIALS_EXPIRED, 0⟩
  else if svc.minLifetime ≠ 0 ∧ info.lifetime < svc.minLifetime then
    .error ⟨GSS_S_CREDENTIALS_EXPIRED, 0⟩
  else .ok ()

structure Compares (compare : N → Option N → Except GssError Bool) : Prop where
  named : ∀ required own, compare required (some own) = lib.compareName (some required) (some own)
  missing : ∀ required, compare required none ≠ .ok true
  failing : ∀ required own e, compare required own = .error e → renewable e.major = false

variable {lib svc inquired desiredName usage} {compare : N → Option N → Except GssError Bool}
  {info : CredInfo N}

variable {e : GssError}

theorem ite_error_bind {c : Prop} [Decidable c] {x k : Except GssError Unit} :
    ((if c then .error e else x) >>= fun _ => k) = if c then .error e else x >>= fun _ => k := by
  split <;> rfl

theorem checkInquired_eq :
    checkInquired lib inquired compare svc desiredName usage = (do
      let info ← inquired
      checkSuitable lib desiredName compare info
      checkService svc usage info) := by
  cases desiredName with
  | none => simp only [checkSuitable, ite_error_bind]; rfl
  | some name => simp only [checkSuitable, checkName, ite_error_bind, bind_assoc]; rfl

section

variable (hcompares : Compares lib compare)
include hcompares

theorem checkName_error (hc : ∀ name e, gssxToName lib.toHost name = .error e →
      renewable e.major = false)
    (h : checkName lib desiredName compare info = .error e) : renewable e.major = false := by
  cases desiredName with
  | none => cases h
  | some name =>
    rcases bind_eq_error.mp h with hn | ⟨required, -, h⟩
    · exact hc name e hn
    rcases bind_eq_error.mp h with hco | ⟨equal, -, h⟩
    · exact hcompares.failing _ _ _ hco
    · cases equal with
      | true => cases h
      | false => cases h; decide

theorem checkName_ok_iff :
    checkName lib desiredName compare info = .ok () ↔
      ∀ name, desiredName = some name → ∃ required own,
        gssxToName lib.toHost name = .ok required ∧ info.name = some own ∧
          lib.compareName (some required) (some own) = .ok true := by
  unfold checkName
  cases desiredName with
  | none => simp
  | some name =>
    have he (equal : Bool) :
        (if ¬ equal then .error ⟨GSS_S_CRED_UNAVAIL, 0⟩ else .ok () : Except GssError Unit) = .ok () ↔
          equal = true := by
      cases equal with
      | true => exact ⟨fun _ => rfl, fun _ => rfl⟩
      | false => exact ⟨nofun, nofun⟩
    simp only [bind_eq_ok, he, exists_eq_right, Option.some.injEq, forall_eq']
    constructor
    · rintro ⟨required, hn, hc⟩
      cases ho : info.name with
      | none => rw [ho] at hc; exact absurd hc (hcompares.missing required)
      | some own => rw [ho, hcompares.named] at hc; exact ⟨required, own, hn, rfl, hc⟩
    · rintro ⟨required, own, hn, ho, hc⟩
      refine ⟨required, hn, ?_⟩
      rw [ho, hcompares.named]
      exact hc

theorem checkSuitable_ok_iff :
    checkSuitable lib desiredName compare info = .ok () ↔ Suitable lib desiredName info := by
  unfold checkSuitable
  by_cases hk : KRB5_MECH_OID ∈ info.mechs
  · rw [if_neg (not_not.mpr hk), checkName_ok_iff hcompares]
    exact ⟨fun hn => ⟨hk, hn⟩, Suitable.named⟩
  · rw [if_pos hk]; exact ⟨nofun, fun hs => absurd hs.krb5 hk⟩

theorem checkSuitable_error
    (hc : ∀ name e, gssxToName lib.toHost name = .error e → renewable e.major = false)
    (h : checkSuitable lib desiredName compare info = .error e) : renewable e.major = false := by
  unfold checkSuitable at h
  by_cases hk : KRB5_MECH_OID ∈ info.mechs
  · rw [if_neg (not_not.mpr hk)] at h; exact checkName_error hcompares hc h
  · rw [if_pos hk] at h
    cases h; decide

end

theorem checkService_error (h : checkService svc usage info = .error e) :
    renewable e.major = true := by
  unfold checkService at h
  split_ifs at h <;> cases h <;> decide

theorem checkService_ok_iff : checkService svc usage info = .ok () ↔ Serviceable svc usage info := by
  unfold checkService
  constructor
  · intro h
    split_ifs at h with ha hi hb hd hs
    refine ⟨⟨fun hr hu => ha ⟨hr, hu⟩, fun hr hu => hi ⟨hr, hu⟩,
      fun hr => by_contra fun hu => hb ⟨hr, hu⟩⟩, hd, ?_⟩
    by_contra hle
    have hlt : info.lifetime < svc.minLifetime := UInt32.not_le.mp hle
    refine hs ⟨?_, hlt⟩
    intro hz
    rw [hz] at hlt
    exact UInt32.not_lt_zero hlt
  · rintro ⟨⟨ha, hi, hb⟩, hal, hl⟩
    rw [if_neg (fun h => ha h.1 h.2), if_neg (fun h => hi h.1 h.2),
      if_neg (fun h => h.2 (hb h.1)), if_neg hal,
      if_neg (fun h => UInt32.not_lt.mpr hl h.2)]

section

variable (hcompares : Compares lib compare)
include hcompares

theorem checkInquired_ok_iff :
    checkInquired lib inquired compare svc desiredName usage = .ok () ↔
      Usable lib svc inquired desiredName usage := by
  simp [checkInquired_eq, Usable, bind_eq_ok, checkSuitable_ok_iff hcompares, checkService_ok_iff]

theorem checkInquired_renewable_iff
    (hco : ∀ name e, gssxToName lib.toHost name = .error e → renewable e.major = false) :
    (∃ e, checkInquired lib inquired compare svc desiredName usage = .error e ∧
        renewable e.major = true) ↔
      Outworn lib svc inquired desiredName usage := by
  rw [checkInquired_eq]
  constructor
  · rintro ⟨e, h, hr⟩
    rcases bind_eq_error.mp h with hi | ⟨info, hi, h⟩
    · exact .inr ⟨e, hi, hr⟩
    rcases bind_eq_error.mp h with hs | ⟨_, hs, hse⟩
    · rw [checkSuitable_error hcompares hco hs] at hr; cases hr
    · refine .inl ⟨info, hi, (checkSuitable_ok_iff hcompares).mp hs, ?_⟩
      intro hok
      rw [checkService_ok_iff.mpr hok] at hse; cases hse
  · rintro (⟨info, hi, hs, hse⟩ | ⟨e, hi, hr⟩)
    · cases hc : checkService svc usage info with
      | ok _ => exact absurd (checkService_ok_iff.mp hc) hse
      | error e =>
        refine ⟨e, bind_eq_error.mpr (.inr ⟨info, hi, ?_⟩), checkService_error hc⟩
        exact bind_eq_error.mpr (.inr ⟨(), (checkSuitable_ok_iff hcompares).mpr hs, hc⟩)
    · exact ⟨e, bind_eq_error.mpr (.inl hi), hr⟩

end

/-! ## The two daemons -/

/-- The three ways of a check: reuse, acquire, refuse. -/
structure Sorts (reuse : Except GssError Bool) (usable outworn : Prop) : Prop where
  reuses : reuse = .ok true ↔ usable
  acquires : reuse = .ok false ↔ outworn
  refuses : ∀ e, reuse = .error e → e.major = GSS_S_CRED_UNAVAIL

variable {check : Cred A → Except GssError Unit} {cred : Cred A}

theorem reuseInput_sorts (minor : GssError → UInt32) (hcompares : Compares lib compare)
    (hc : ∀ name e, gssxToName lib.toHost name = .error e → renewable e.major = false)
    (hch : check cred = checkInquired lib inquired compare svc desiredName usage) :
    Sorts (reuseInput check minor .normal (some cred)) (Usable lib svc inquired desiredName usage)
      (Outworn lib svc inquired desiredName usage) := by
  rw [← checkInquired_ok_iff hcompares, ← checkInquired_renewable_iff hcompares hc, ← hch]
  unfold reuseInput
  simp only
  cases check cred with
  | ok _ => exact ⟨by simp, by simp, nofun⟩
  | error e =>
    cases hr : renewable e.major with
    | true => exact ⟨by simp [hr], by simp [hr], by simp [hr]⟩
    | false =>
      refine ⟨by simp [hr], by simp [hr], ?_⟩
      simp [hr]

theorem Sorts.alike_iff {reuse reuse' : Except GssError Bool} {usable outworn usable' outworn' : Prop}
    (h : Sorts reuse usable outworn) (h' : Sorts reuse' usable' outworn') :
    reuse.toOption = reuse'.toOption ↔ (usable ↔ usable') ∧ (outworn ↔ outworn') := by
  rw [← h.reuses, ← h.acquires, ← h'.reuses, ← h'.acquires]
  rcases reuse with e | _ | _ <;> rcases reuse' with e' | _ | _ <;> simp [Except.toOption]

/-- The first thing a new acquisition asks the library for, and whether it goes on from there. -/
structure Ask (N : Type) where
  name : Option N
  usage : Int32
  store : Option Store
  impersonates : Bool

/-- A new acquisition asks the library, reports its failure and records what it is given; it ends
    with that if it impersonates nobody. -/
structure Acquires (lib : CredLib N A) (asked : Except GssError (Ask N))
    (acquire : Acquiring (Option (Cred A))) : Prop where
  refused : ∀ e, asked = .error e → acquire.run = ⟨[], .error e⟩
  failed : ∀ ask e, asked = .ok ask → lib.acquireCredFrom ask.name ask.usage ask.store = .error e →
    acquire.run = ⟨[], .error e⟩
  given : ∀ ask handle, asked = .ok ask →
    lib.acquireCredFrom ask.name ask.usage ask.store = .ok handle →
      acquire.run.log.head? = some (.acquired ask.usage ask.store) ∧
        (ask.impersonates = false → acquire.run = ⟨[.acquired ask.usage ask.store],
          .ok (some ⟨handle, .acquired ask.usage ask.store⟩)⟩)

theorem Acquires.ofExcept {β : Type} {x : Except GssError β} {asked : β → Except GssError (Ask N)}
    {f : β → Acquiring (Option (Cred A))} (h : ∀ b, Acquires lib (asked b) (f b)) :
    Acquires lib (x >>= asked) (Fallible.ofExcept x >>= f) := by
  cases x with
  | ok b => exact h b
  | error e =>
    refine ⟨?_, nofun, nofun⟩
    rintro _ ⟨⟩; rfl

theorem Acquires.ite {c : Prop} [Decidable c] {asked asked' : Except GssError (Ask N)}
    {acquire acquire' : Acquiring (Option (Cred A))} (h : Acquires lib asked acquire)
    (h' : Acquires lib asked' acquire') :
    Acquires lib (if c then asked else asked') (if c then acquire else acquire') := by
  split
  · exact h
  · exact h'

theorem Acquires.acquireFrom {ask : Ask N} {next : Cred A → Acquiring (Option (Cred A))}
    (hn : ask.impersonates = false → ∀ cred, next cred = pure (some cred)) :
    Acquires lib (.ok ask) (Server.acquireFrom lib ask.name ask.usage ask.store >>= next) := by
  refine ⟨nofun, ?_, ?_⟩
  · rintro _ e ⟨⟩ hf
    unfold Server.acquireFrom
    rw [hf]; rfl
  · rintro _ handle ⟨⟩ hg
    unfold Server.acquireFrom
    rw [hg]
    refine ⟨rfl, fun hi => ?_⟩
    rw [show next = fun cred => pure (some cred) from funext (hn hi)]; rfl

theorem Acquires.not_quiet {asked : Except GssError (Ask N)} {acquire : Acquiring (Option (Cred A))}
    (h : Acquires lib asked acquire) (out : Option (Cred A)) : acquire.run ≠ ⟨[], .ok out⟩ := by
  intro hr
  cases ha : asked with
  | error e => cases hr.symm.trans (h.refused e ha)
  | ok ask =>
    cases hg : lib.acquireCredFrom ask.name ask.usage ask.store with
    | error e => cases hr.symm.trans (h.failed ask e ha hg)
    | ok handle =>
      have hl := (h.given ask handle ha hg).1
      rw [hr] at hl; cases hl

/-- What becomes of the input credential: used, replaced or refused. -/
structure Decides (lib : CredLib N A) (asked : Except GssError (Ask N))
    (add : Option (Cred A) → Acquiring (Option (Cred A))) (cred : Cred A) (usable outworn : Prop) :
    Prop where
  reuses : (∃ out, (add (some cred)).run = ⟨[], .ok out⟩) ↔ usable
  acquires : outworn → add (some cred) = add none ∧ Acquires lib asked (add none)
  refuses : ¬ usable → ¬ outworn →
    ∃ minor, (add (some cred)).run = ⟨[], .error ⟨GSS_S_CRED_UNAVAIL, minor⟩⟩

def reuseOr (reuse : Option (Cred A) → Except GssError Bool) (acquire : Acquiring (Option (Cred A)))
    (inCred : Option (Cred A)) : Acquiring (Option (Cred A)) := do
  let reused ← Fallible.ofExcept (reuse inCred)
  if reused then return none
  acquire

theorem decides_reuseOr {reuse : Option (Cred A) → Except GssError Bool}
    {asked : Except GssError (Ask N)} {acquire : Acquiring (Option (Cred A))} {usable outworn : Prop}
    (hac : Acquires lib asked acquire) (hn : reuse none = .ok false)
    (hs : Sorts (reuse (some cred)) usable outworn) :
    Decides lib asked (reuseOr reuse acquire) cred usable outworn := by
  have ha {inCred : Option (Cred A)} (h : reuse inCred = .ok false) :
      reuseOr reuse acquire inCred = acquire := by
    simp [reuseOr, h, Fallible.ofExcept_ok_bind]
  constructor
  · rw [← hs.reuses]
    cases hr : reuse (some cred) with
    | error e =>
      simp only [reuseOr, hr, reduceCtorEq, iff_false]
      rintro ⟨out, hru⟩; cases hru
    | ok reused =>
      cases reused with
      | true =>
        refine iff_of_true ⟨none, ?_⟩ rfl
        simp only [reuseOr, hr]; rfl
      | false =>
        rw [ha hr]
        exact iff_of_false (fun ⟨out, hru⟩ => hac.not_quiet out hru) nofun
  · intro h
    rw [ha (hs.acquires.mpr h), ha hn]
    exact ⟨rfl, hac⟩
  · intro hu ho
    rw [← hs.reuses] at hu
    rw [← hs.acquires] at ho
    rcases hr : reuse (some cred) with ⟨major, min⟩ | _ | _
    · cases hs.refuses _ hr
      refine ⟨min, ?_⟩
      simp only [reuseOr, hr]; rfl
    · exact absurd hr ho
    · exact absurd hr hu

section

variable (lib svc desiredName usage) (port : Port) (uid : UInt32)

/-- What is asked for: with impersonation the service's own credential comes first. -/
def firstAsked (storeArg : Store → Option Store) : Except GssError (Ask N) := do
  let env ← acquireEnvironment lib port svc uid .normal desiredName usage
  if tryImpersonate svc env.credUsage .normal then
    let principal ← hostPrincipal lib svc
    return ⟨principal, GSS_C_BOTH, storeArg env.credStore, true⟩
  else return ⟨env.requestedName, env.credUsage, storeArg env.credStore, false⟩

def gpAcquireNew : Acquiring (Option (Cred A)) := do
  let env ← Fallible.ofExcept (acquireEnvironment lib port svc uid .normal desiredName usage)
  if tryImpersonate svc env.credUsage .normal then gpImpersonate lib svc .normal none env
  else
    let cred ← acquireFrom lib env.requestedName env.credUsage (some env.credStore)
    return some cred

def acquireNew : Acquiring (Option (Cred A)) := do
  let env ← Fallible.ofExcept (acquireEnvironment lib rustPort svc uid .normal desiredName usage)
  if tryImpersonate svc env.credUsage .normal then
    let cred ← impersonateAcquire lib svc .normal none env
    return some cred
  else
    let cred ← acquireFrom lib env.requestedName env.credUsage (storeArg env.credStore)
    return some cred

theorem gpAcquireNew_acquires :
    Acquires lib (firstAsked lib svc desiredName usage port uid some)
      (gpAcquireNew lib svc desiredName usage port uid) := by
  refine .ofExcept fun env => .ite ?_ (.acquireFrom fun _ _ => rfl)
  exact .ofExcept fun principal => .acquireFrom (by rintro ⟨⟩)

theorem acquireNew_acquires :
    Acquires lib (firstAsked lib svc desiredName usage rustPort uid storeArg)
      (acquireNew lib svc desiredName usage uid) := by
  refine .ofExcept fun env => .ite ?_ (.acquireFrom fun _ _ => rfl)
  simp only [impersonateAcquire, bind_assoc]
  exact .ofExcept fun principal => .acquireFrom (by rintro ⟨⟩)

/-- **Reuse of the input credential.**  In a normal acquisition each daemon uses the input credential as it is
    just where its inquiry tells of a Kerberos credential of the desired name that covers the usage and lasts
    long enough.  One that only does not serve, or that the inquiry reports as expired, missing or defective,
    leads to a new acquisition; every other one is refused, and nothing is acquired.  The two take the same way
    exactly if, where no name is desired, asking for the name makes no difference. -/
theorem input_cred_reuse (cred : Cred A) (hnames : NameCalls lib) :
    let named := lib.inquireCred (some cred.handle)
    let unnamed := lib.inquireUnnamed cred.handle
    Decides lib (firstAsked lib svc desiredName usage port uid some)
        (fun inCred => gpAddKrb5Creds lib port svc uid .normal inCred desiredName usage) cred
        (Usable lib svc (gpInquired lib cred desiredName) desiredName usage)
        (Outworn lib svc (gpInquired lib cred desiredName) desiredName usage) ∧
      Decides lib (firstAsked lib svc desiredName usage rustPort uid storeArg)
        (fun inCred => addKrb5Creds lib svc uid .normal inCred desiredName usage) cred
        (Usable lib svc named desiredName usage) (Outworn lib svc named desiredName usage) ∧
      ((reuseInput (gpCheckCred lib svc desiredName usage) GssError.minor .normal (some cred)).toOption =
          (reuseInput (checkCred lib svc desiredName usage) (fun _ => 0) .normal (some cred)).toOption ↔
        (desiredName = none →
          (Usable lib svc unnamed desiredName usage ↔ Usable lib svc named desiredName usage) ∧
          (Outworn lib svc unnamed desiredName usage ↔ Outworn lib svc named desiredName usage))) := by
  have hgp : Compares lib fun required name => lib.compareName (some required) name :=
    ⟨fun _ _ => rfl, hnames.missing, fun _ _ => hnames.comparing _ _⟩
  have hru : Compares lib (comparePresent lib) := by
    refine ⟨fun _ _ => rfl, nofun, ?_⟩
    intro required own e he
    cases own with
    | some own => exact hnames.comparing _ _ _ he
    | none => cases he; decide
  have hg := reuseInput_sorts GssError.minor hgp hnames.converting
    (rfl : gpCheckCred lib svc desiredName usage cred = _)
  have hr := reuseInput_sorts (fun _ => 0) hru hnames.converting
    (rfl : checkCred lib svc desiredName usage cred = _)
  refine ⟨decides_reuseOr (gpAcquireNew_acquires lib svc desiredName usage port uid) rfl hg,
    decides_reuseOr (acquireNew_acquires lib svc desiredName usage uid) rfl hr, ?_⟩
  rw [hg.alike_iff hr]
  cases desiredName with
  | none | some _ => simp [gpInquired]

end

end

/-- A library with one ticket of a name, and with a second answer for who does not ask for it. -/
def ticketLib (lifetime : UInt32) (named : Bool) : CredLib Unit Unit where
  uidToName _ := none
  tid := 0
  importName _ _ := .ok ()
  compareName
    | some _, some _ => .ok true
    | _, _ => .error ⟨GSS_S_BAD_NAME, 0⟩
  inquireCred _ :=
    if named then .ok ⟨some (), lifetime, GSS_C_INITIATE, [KRB5_MECH_OID]⟩
    else .error ⟨GSS_S_FAILURE, ENOENT⟩
  inquireUnnamed _ := .ok ⟨none, lifetime, GSS_C_INITIATE, [KRB5_MECH_OID]⟩
  acquireCredFrom _ _ _ := .ok ()
  acquireCredImpersonateName _ _ _ := .ok ()
  initToSelf _ _ := ⟨0, 0, []⟩
  acceptFromSelf _ _ := ⟨0, 0, none⟩

theorem ticketLib_nameCalls (lifetime : UInt32) (named : Bool) :
    NameCalls (ticketLib lifetime named) := by
  refine ⟨?_, ?_, nofun⟩
  · intro name e h
    unfold gssxToName at h
    split at h <;> cases h
  · intro first second e h
    cases first <;> cases second <;> cases h <;> decide

def ticketService : Service := { (default : Service) with minLifetime := 300 }

/-- A ticket that lasts long enough is used as it is; one that does not is replaced by a new one. -/
theorem ticket_reused :
    let desired : Option GssxName := some default
    let ticket : Cred Unit := ⟨(), .unsealed⟩
    (∃ out, (gpAddKrb5Creds (ticketLib 600 true) rustPort ticketService 48 .normal (some ticket) desired
      GSS_C_INITIATE).run = ⟨[], .ok out⟩) ∧
    (addKrb5Creds (ticketLib 200 true) ticketService 48 .normal (some ticket) desired GSS_C_INITIATE).run =
      ⟨[.acquired GSS_C_INITIATE none], .ok (some ⟨(), .acquired GSS_C_INITIATE none⟩)⟩ := by
  intro desired ticket
  have hs (lifetime : UInt32) : Suitable (ticketLib lifetime true) desired
      ⟨some (), lifetime, GSS_C_INITIATE, [KRB5_MECH_OID]⟩ := by
    refine ⟨List.mem_singleton.mpr rfl, ?_⟩
    intro name hn
    cases Option.some.inj hn
    exact ⟨(), (), rfl, rfl, rfl⟩
  have hc : Covers GSS_C_INITIATE GSS_C_INITIATE :=
    (covers_iff (by decide) (by decide)).mpr (.inr rfl)
  constructor
  · refine (input_cred_reuse (ticketLib 600 true) ticketService desired GSS_C_INITIATE rustPort 48 ticket
      (ticketLib_nameCalls 600 true)).1.reuses.mpr ?_
    exact ⟨_, rfl, hs 600, hc, by decide, by decide⟩
  · obtain ⟨hsa, ha⟩ := (input_cred_reuse (ticketLib 200 true) ticketService desired
      GSS_C_INITIATE rustPort 48 ticket (ticketLib_nameCalls 200 true)).2.1.acquires
        (.inl ⟨_, rfl, hs 200, fun hse => absurd hse.lasts (by decide)⟩)
    exact (ha.given ⟨some (), GSS_C_INITIATE, none, false⟩ () rfl rfl).2 rfl

/-- **A name nobody wants.**  The name of the ticket cannot be told.  The C daemon does not ask and
    uses the ticket; the Rust daemon refuses the request. -/
theorem name_asked_in_vain : let lib := ticketLib 600 false
    let ticket : Cred Unit := ⟨(), .unsealed⟩
    (gpAddKrb5Creds lib rustPort ticketService 48 .normal (some ticket) none GSS_C_INITIATE).run =
        ⟨[], .ok none⟩ ∧
      (addKrb5Creds lib ticketService 48 .normal (some ticket) none GSS_C_INITIATE).run =
        ⟨[], .error ⟨GSS_S_CRED_UNAVAIL, 0⟩⟩ :=
  ⟨rfl, rfl⟩

end GssProxy.Server
