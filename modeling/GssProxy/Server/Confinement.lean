import GssProxy.Server.Creds

/-!
# Confinement of service credentials

A request is confined if every credential obtained for it comes from the service's own store or from the
client's unsealed handle, and what goes back was acquired with a usage the service permits.

* `acquire_confined_iff`: which requests each daemon confines.
-/

namespace GssProxy.Server

open Codec Effect Gss Proto

/-! ## Confinement -/

def Origin.UsesDefaults : Origin → Prop
  | .noCredential => True
  | .unsealed => False
  | .acquired _ store => store.getD [] = []
  | .impersonated impersonator _ => impersonator.UsesDefaults
  | .delegated user => user.UsesDefaults

def Origin.Impersonator : Origin → Prop
  | .acquired _ _ => True
  | .unsealed => True
  | _ => False

section

variable {N A : Type}

/-- All is acquired from the service's own store, and for a permitted usage. -/
structure Confined (port : Port) (host : Host N) (svc : Service) (uid : UInt32)
    (run : Calls Origin (Acquired A)) : Prop where
  store : ∀ usage store, .acquired usage store ∈ run.log →
    OwnStore port host svc uid (store.getD [])
  impersonator : ∀ impersonator usage, .impersonated impersonator usage ∈ run.log →
    impersonator = .unsealed ∨ ∃ usage store, impersonator = .acquired usage store ∧
      OwnStore port host svc uid (store.getD [])
  usage : ∀ cred, run.value.output = some (.fresh cred) →
    ∃ usage, cred.origin.usage = some usage ∧ Permitted svc usage
  defaults : svc.krb5Store ≠ [] → Calls.Always (¬ ·.UsesDefaults) run

def Origin.Proper (own : Store → Prop) : Origin → Prop
  | .noCredential => False
  | .unsealed => True
  | .acquired _ store => own (store.getD [])
  | .impersonated impersonator _ => impersonator.Impersonator ∧ impersonator.Proper own
  | .delegated user => user.Proper own

abbrev ProperFor (port : Port) (host : Host N) (svc : Service) (uid : UInt32)
    (desiredName : Option GssxName) : Origin → Prop :=
  Origin.Proper (OwnStore port host svc (authorisedUid port svc uid desiredName))

theorem not_usesDefaults {own : Store → Prop} (ho : ¬ own []) (o : Origin) (h : o.Proper own) :
    ¬ o.UsesDefaults := by
  induction o with
  | noCredential => exact h.elim
  | unsealed => exact id
  | acquired =>
    intro hn
    rw [Origin.Proper, hn] at h
    exact ho h
  | impersonated impersonator usage ih => exact ih h.2
  | delegated user ih => exact ih h

variable {host : Host N} {svc : Service} {usage : Int32} {inCred : Option (Cred A)} {env : CredEnv N}
  {origin : Origin}

theorem confined_of_proper {port : Port} {uid : UInt32} {run : Calls Origin (Acquired A)}
    (hl : Calls.Always (Origin.Proper (OwnStore port host svc uid)) run)
    (hu : ∀ cred, run.value.output = some (.fresh cred) →
      ∃ usage, cred.origin.usage = some usage ∧ Permitted svc usage) :
    Confined port host svc uid run where
  store usage store hm := hl _ hm
  impersonator impersonator usage hm := by
    obtain ⟨hk, hp⟩ := hl _ hm
    cases impersonator with
    | unsealed => exact .inl rfl
    | acquired usage store => exact .inr ⟨usage, store, rfl, hp⟩
    | noCredential | impersonated _ _ => exact hk.elim
    | delegated _ => exact hk.elim
  usage := hu
  defaults hs o hm := not_usesDefaults (fun hn => hs (ownStore_nil_iff.mp hn)) o (hl o hm)

variable {lib : CredLib N A} {own : Store → Prop}

theorem acquireFrom_meets {name : Option N} {store : Option Store} (hs : own (store.getD [])) :
    Fallible.Meets (Origin.Proper own) (fun cred => cred.origin = .acquired usage store)
      (acquireFrom lib name usage store) :=
  .bind (.recorded hs fun _ _ => trivial) fun _ _ => .pure rfl

theorem impersonateName_meets {impersonator : Option (Cred A)} {name : Option N}
    (hk : (originOf impersonator).Impersonator) (hp : (originOf impersonator).Proper own) :
    Fallible.Meets (Origin.Proper own)
      (fun cred => cred.origin = .impersonated (originOf impersonator) GSS_C_INITIATE)
      (impersonateName lib impersonator name) :=
  .bind (.recorded ⟨hk, hp⟩ fun _ _ => trivial) fun _ _ => .pure rfl

theorem delegateToSelf_meets {failed : UInt32 → Bool} {impersonator user : Cred A}
    {target : Option N} (hu : user.origin.Proper own) :
    Fallible.Meets (Origin.Proper own)
      (fun r => ∀ cred, r = some cred → cred.origin = .delegated user.origin)
      (delegateToSelf lib failed impersonator user target) := by
  refine .ite (fun _ => .throw_bind _ _) fun _ => .ite (fun _ => .throw_bind _ _) fun _ => ?_
  cases (lib.acceptFromSelf impersonator.handle _).output with
  | none => exact .pure (by simp)
  | some handle =>
    refine .bind (.recorded hu fun _ _ => trivial) fun handle _ => .pure ?_
    rintro cred ⟨⟩; rfl

section

variable {port : Port} {svc : Service} {uid : UInt32} {desiredName : Option GssxName}
  {usage : Int32} {env : CredEnv N}

theorem acquireEnvironment_normal
    (h : acquireEnvironment lib port svc uid .normal desiredName usage = .ok env) :
    OwnStore port lib.toHost svc (authorisedUid port svc uid desiredName) env.credStore ∧
      Permitted svc env.credUsage := by
  exact getCredEnvironment_ok (mapError_eq_ok.mp h)

theorem acquireEnvironment_impName
    (h : acquireEnvironment lib port svc uid .impName desiredName usage = .ok env) :
    env.credStore = [] ∧ env.credUsage = usage := by
  obtain ⟨name, -, h⟩ := bind_eq_ok.mp h
  cases h
  exact ⟨rfl, rfl⟩

theorem permitted_initiate (hp : Permitted svc usage)
    (ht : tryImpersonate svc usage .normal = true) : Permitted svc GSS_C_INITIATE := by
  have hu : usage = GSS_C_INITIATE ∨ usage = GSS_C_BOTH := by
    simp only [tryImpersonate, Bool.or_eq_true, Bool.and_eq_true, beq_iff_eq, reduceCtorEq,
      false_and, false_or] at ht
    exact ht.2
  rcases hu with rfl | rfl
  · exact hp
  · exact .inl (hp.elim id Eq.symm)

theorem reuseInput_impName {check : Cred A → Except GssError Unit} {minor : GssError → UInt32} :
    reuseInput check minor .impName inCred = .ok false := by
  cases inCred <;> rfl

end

/-! ## The C daemon -/

def ReturnsUsage (U : Int32 → Prop) (r : Option (Cred A)) : Prop :=
  ∀ cred, r = some cred → ∃ usage, cred.origin.usage = some usage ∧ U usage

variable {U : Int32 → Prop}

theorem ReturnsUsage.none : ReturnsUsage U (none : Option (Cred A)) := by rintro cred ⟨⟩

variable {cred : Cred A}

theorem ReturnsUsage.some (ho : cred.origin.usage = some usage)
    (hU : U usage) : ReturnsUsage U (some cred) := by
  rintro cred ⟨⟩
  exact ⟨usage, ho, hU⟩

theorem gpSelfCred_meets {impersonator : Cred A} (ho : own env.credStore) (hU : U env.credUsage) :
    Fallible.Meets (Origin.Proper own) (ReturnsUsage U) (gpSelfCred lib env impersonator) := by
  unfold gpSelfCred
  cases env.requestedName with
  | none => exact .pure .none
  | some =>
    refine .bind (.ofExcept fun _ _ => trivial) fun info _ =>
      .bind (.ofExcept fun _ _ => trivial) fun equal _ => .ite (fun _ => ?_) fun _ =>
        .pure .none
    refine (Fallible.Meets.attempt (acquireFrom_meets ho)).mono fun r hr cred hc => ?_
    exact ⟨env.credUsage, by rw [hr cred hc]; rfl, hU⟩

theorem gpImpersonate_normal_meets (ho : own env.credStore) (hU : U env.credUsage)
    (hin : U GSS_C_INITIATE) :
    Fallible.Meets (Origin.Proper own) (ReturnsUsage U) (gpImpersonate lib svc .normal inCred env) := by
  refine .bind (.ofExcept fun _ _ => trivial) fun principal _ =>
    .bind (acquireFrom_meets ho) fun impersonator hi =>
      .bind (gpSelfCred_meets ho hU) fun self hs => ?_
  cases self with
  | some cred => exact .pure hs
  | none =>
    have hk : (originOf (some impersonator)).Impersonator := by simp [originOf, hi,
      Origin.Impersonator]
    have hp : (originOf (some impersonator)).Proper own := by
      simpa [originOf, hi, Origin.Proper] using ho
    refine .bind (.ofExcept fun _ _ => trivial) fun info _ =>
      .bind (impersonateName_meets hk hp) fun user hu => ?_
    refine (delegateToSelf_meets (hu ▸ ⟨hk, hp⟩)).mono fun r hr cred hc => ?_
    exact ⟨GSS_C_INITIATE, by rw [hr cred hc, hu]; rfl, hin⟩

section

variable {port : Port} {svc : Service} {uid : UInt32} {inCred : Option (Cred A)}
  {desiredName : Option GssxName} {usage : Int32}

theorem gpAddKrb5Creds_normal_meets (hU : ∀ usage, Permitted svc usage → U usage) :
    Fallible.Meets (ProperFor port lib.toHost svc uid desiredName)
      (ReturnsUsage U) (gpAddKrb5Creds lib port svc uid .normal inCred desiredName usage) := by
  refine .bind (.ofExcept fun _ _ => trivial) fun reuse _ => .ite (fun _ => .pure .none)
    fun _ => .bind (.ofExcept fun _ => acquireEnvironment_normal) fun env he => ?_
  obtain ⟨ho, hp⟩ := he
  refine .ite (fun ht => ?_) fun _ => ?_
  · exact gpImpersonate_normal_meets ho (hU _ hp)
      (hU _ (permitted_initiate hp ht))
  · refine .bind (acquireFrom_meets ho) fun cred hc => ?_
    exact .pure (.some (by rw [hc]; rfl) (hU _ hp))

theorem gpAddKrb5Creds_impName_meets
    (hg : if tryImpersonate svc usage .impName then
      originOf inCred = .unsealed ∧ U GSS_C_INITIATE else svc.krb5Store = [] ∧ U usage) :
    Fallible.Meets (ProperFor port lib.toHost svc uid desiredName)
      (ReturnsUsage U) (gpAddKrb5Creds lib port svc uid .impName inCred desiredName usage) := by
  refine .bind (.ofExcept fun _ _ => trivial) fun reuse _ => .ite (fun _ => .pure .none)
    fun _ => .bind (.ofExcept fun _ => acquireEnvironment_impName) fun env he => ?_
  obtain ⟨hs, rfl⟩ := he
  refine .ite (fun ht => ?_) fun ht => ?_
  · rw [if_pos ht] at hg
    obtain ⟨hin, hi⟩ := hg
    refine .bind (.ofExcept fun _ _ => trivial) fun info _ => ?_
    refine .bind (impersonateName_meets (by rw [hin]; trivial) (by rw [hin]; trivial))
      fun user hu => ?_
    exact .pure (.some (by rw [hu]; rfl) hi)
  · rw [if_neg ht] at hg
    refine .bind (acquireFrom_meets ?_) fun cred hc => ?_
    · rw [hs]; exact ownStore_nil_iff.mpr hg.1
    · exact .pure (.some (by rw [hc]; rfl) hg.2)

/-! ## The Rust daemon -/

theorem storeArg_getD (store : Store) : (storeArg store).getD [] = store := by
  unfold storeArg
  by_cases h : store = []
  · rw [h]; rfl
  · rw [if_neg h]; rfl

theorem selfCred_meets {impersonator : Cred A} (ho : own env.credStore) (hU : U env.credUsage) :
    Fallible.Meets (Origin.Proper own) (ReturnsUsage U) (selfCred lib env impersonator) := by
  unfold selfCred
  split
  · split
    · refine (Fallible.Meets.attempt (acquireFrom_meets ?_)).mono fun r hr cred hc => ?_
      · rwa [storeArg_getD]
      · exact ⟨env.credUsage, by rw [hr cred hc]; rfl, hU⟩
    · exact .pure .none
  · exact .pure .none

theorem impersonateAcquire_normal_meets (ho : own env.credStore)
    (hU : U env.credUsage) (hin : U GSS_C_INITIATE) :
    Fallible.Meets (Origin.Proper own) (fun cred => ReturnsUsage U (some cred))
      (impersonateAcquire lib svc .normal inCred env) := by
  have hs : own ((storeArg env.credStore).getD []) := by rwa [storeArg_getD]
  refine .bind (.ofExcept fun _ _ => trivial) fun principal _ =>
    .bind (acquireFrom_meets hs) fun impersonator hi =>
      .bind (selfCred_meets ho hU) fun self hse => ?_
  cases self with
  | some cred => exact .pure hse
  | none =>
    have hk : (originOf (some impersonator)).Impersonator := by
      simp [originOf, hi, Origin.Impersonator]
    have hp : (originOf (some impersonator)).Proper own := by
      simpa [originOf, hi, Origin.Proper] using hs
    refine .bind (.ofExcept fun _ _ => trivial) fun target _ =>
      .bind (impersonateName_meets hk hp) fun user hu =>
        .bind (delegateToSelf_meets (hu ▸ ⟨hk, hp⟩)) fun delegated hd => ?_
    cases delegated with
    | none => exact .throw _
    | some cred =>
      refine .pure (.some ?_ hin)
      rw [hd cred rfl, hu]; rfl

theorem impersonateAcquire_impName_meets
    (hin : ∀ cred, inCred = some cred → cred.origin = .unsealed ∧ U GSS_C_INITIATE) :
    Fallible.Meets (Origin.Proper own) (fun cred => ReturnsUsage U (some cred))
      (impersonateAcquire lib svc .impName inCred env) := by
  cases inCred with
  | none => exact .throw _
  | some cred =>
    obtain ⟨ho, hi⟩ := hin cred rfl
    have hu : originOf (some cred) = .unsealed := ho
    refine .bind (.ofExcept fun _ _ => trivial) fun name _ =>
      (impersonateName_meets (by rw [hu]; trivial) (by rw [hu]; trivial)).mono
        fun user hus => .some (by rw [hus]; rfl) hi

theorem addKrb5Creds_normal_meets (hU : ∀ usage, Permitted svc usage → U usage) :
    Fallible.Meets (ProperFor rustPort lib.toHost svc uid desiredName)
      (ReturnsUsage U) (addKrb5Creds lib svc uid .normal inCred desiredName usage) := by
  refine .bind (.ofExcept fun _ _ => trivial) fun reuse _ => .ite (fun _ => .pure .none)
    fun _ => .bind (.ofExcept fun _ => acquireEnvironment_normal) fun env he => ?_
  obtain ⟨ho, hp⟩ := he
  refine .ite (fun ht => ?_) fun _ => ?_
  · exact .bind (impersonateAcquire_normal_meets ho (hU _ hp)
      (hU _ (permitted_initiate hp ht))) fun cred hc => .pure hc
  · refine .bind (acquireFrom_meets ?_) fun cred hc => ?_
    · rwa [storeArg_getD]
    · exact .pure (.some (by rw [hc]; rfl) (hU _ hp))

theorem addKrb5Creds_impName_meets
    (hg : if tryImpersonate svc usage .impName then
      ∀ cred, inCred = some cred → cred.origin = .unsealed ∧ U GSS_C_INITIATE
      else svc.krb5Store = [] ∧ U usage) :
    Fallible.Meets (ProperFor rustPort lib.toHost svc uid desiredName)
      (ReturnsUsage U) (addKrb5Creds lib svc uid .impName inCred desiredName usage) := by
  refine .bind (.ofExcept fun _ _ => trivial) fun reuse _ => .ite (fun _ => .pure .none)
    fun _ => .bind (.ofExcept fun _ => acquireEnvironment_impName) fun env he => ?_
  obtain ⟨hs, rfl⟩ := he
  refine .ite (fun ht => ?_) fun ht => ?_
  · rw [if_pos ht] at hg
    exact .bind (impersonateAcquire_impName_meets hg) fun cred hc => .pure hc
  · rw [if_neg ht] at hg
    refine .bind (acquireFrom_meets ?_) fun cred hc => ?_
    · rw [hs]; exact ownStore_nil_iff.mpr hg.1
    · exact .pure (.some (by rw [hc]; rfl) hg.2)

/-! ## Requests -/

theorem allowedMech_eq {mech : Bytes} (h : allowedMech svc mech = true) : mech = KRB5_MECH_OID := by
  simp only [allowedMech, Bool.and_eq_true, beq_iff_eq] at h
  exact h.2

theorem foldl_addMech (mechs : GssxOidSet) :
    mechs.foldl (addMech svc) [KRB5_MECH_OID] = [KRB5_MECH_OID] := by
  induction mechs with
  | nil => rfl
  | cons m mechs ih =>
    have hs : addMech svc [KRB5_MECH_OID] m = [KRB5_MECH_OID] := by
      unfold addMech
      rw [if_neg]
      rintro ⟨ha, hn⟩
      exact hn (by rw [allowedMech_eq ha]; exact .head _)
    rw [List.foldl_cons, hs, ih]

theorem useMechs_eq (mechs : GssxOidSet) :
    useMechs svc mechs =
      if mechs = [] ∨ mechs.any (fun m => allowedMech svc m.data) then [KRB5_MECH_OID] else [] := by
  unfold useMechs
  by_cases hn : mechs = []
  · rw [if_pos hn, if_pos (.inl hn)]
  simp only [hn, false_or]
  clear hn
  induction mechs with
  | nil => rfl
  | cons m mechs ih =>
    by_cases ha : allowedMech svc m.data = true
    · have hs : addMech svc [] m = [KRB5_MECH_OID] := by
        unfold addMech
        rw [if_pos ⟨ha, List.not_mem_nil⟩, allowedMech_eq ha]; rfl
      simp [hs, foldl_addMech, ha]
    · have hs : addMech svc [] m = [] := by simp [addMech, ha]
      rw [List.foldl_cons, hs, ih]
      simp [ha]

end

structure ImpersonationRequest (svc : Service) (importCred : GssxCred → Except GssError (Option A))
    (arg : ArgAcquireCred) (inCred : Option A) : Prop where
  handle : ∃ handle, arg.inputCredHandle = some handle ∧ importCred handle = .ok inCred
  acquireType : getAcquireType arg.options = some .impName
  mech : arg.desiredMechs = [] ∨ arg.desiredMechs.any (fun m => allowedMech svc m.data) = true

/-- A credential of this usage may be the result; what is added to the input handle does not go back
    to the client. -/
def Returnable (svc : Service) (arg : ArgAcquireCred) (usage : Int32) : Prop :=
  arg.addCredToInputHandle = false → Permitted svc usage

/-- A request to impersonate that the C daemon confines. -/
def GpGuarded (svc : Service) (importCred : GssxCred → Except GssError (Option A))
    (arg : ArgAcquireCred) : Prop :=
  ∀ inCred, ImpersonationRequest svc importCred arg inCred →
    if tryImpersonate svc (gssxToCredUsage arg.credUsage) .impName then
      inCred.isSome ∧ Returnable svc arg GSS_C_INITIATE
    else svc.krb5Store = [] ∧ Returnable svc arg (gssxToCredUsage arg.credUsage)

/-- A request to impersonate that the Rust daemon confines. -/
def RustGuarded (svc : Service) (importCred : GssxCred → Except GssError (Option A))
    (arg : ArgAcquireCred) : Prop :=
  ∀ inCred, ImpersonationRequest svc importCred arg inCred →
    if tryImpersonate svc (gssxToCredUsage arg.credUsage) .impName then
      inCred.isSome → Returnable svc arg GSS_C_INITIATE
    else svc.krb5Store = [] ∧ Returnable svc arg (gssxToCredUsage arg.credUsage)

section

variable {port : Port} {svc : Service} {uid : UInt32} {arg : ArgAcquireCred}
  {importCred : GssxCred → Except GssError (Option A)}

variable {acquireType : AcquireType}

theorem inputCred_ok (h : inputCred importCred arg = .ok (inCred, acquireType)) :
    acquireType = .normal ∨ acquireType = .impName ∧ ∃ cred, inCred = cred.map (⟨·, .unsealed⟩) ∧
        (∃ handle, arg.inputCredHandle = some handle ∧ importCred handle = .ok cred) ∧
        getAcquireType arg.options = some .impName := by
  unfold inputCred at h
  cases hh : arg.inputCredHandle with
  | none =>
    simp only [hh] at h
    cases h
    exact .inl rfl
  | some handle =>
    simp only [hh] at h
    cases hi : importCred handle with
    | error e => simp [hi] at h
    | ok cred =>
      simp only [hi] at h
      cases ht : getAcquireType arg.options with
      | none => simp [ht] at h
      | some t =>
        simp only [ht] at h
        cases h
        cases acquireType with
        | normal => exact .inl rfl
        | impName => exact .inr ⟨rfl, cred, rfl, ⟨handle, rfl, hi⟩, rfl⟩

theorem confined_failed (e : GssError) (mech : Option Bytes) :
    Confined port host svc uid (pure (.failed e mech) : Calls Origin (Acquired A)) :=
  confined_of_proper (.pure _) (by rintro cred ⟨⟩)

theorem confined_of_meets {α : Type} {m : Acquiring α} {Q : α → Prop}
    {choose : Except GssError α → Acquired A}
    (hm : Fallible.Meets (Origin.Proper (OwnStore port host svc uid)) Q m)
    (he : ∀ e, (choose (.error e)).output = none)
    (hok : ∀ a, Q a → ∀ cred, (choose (.ok a)).output = some (.fresh cred) →
      ∃ usage, cred.origin.usage = some usage ∧ Permitted svc usage) :
    Confined port host svc uid (m.run >>= fun r => pure (choose r)) := by
  refine confined_of_proper (Calls.always_bind.mpr ⟨hm.calls, .pure _⟩) ?_
  intro cred hc
  rw [Calls.value_bind, Calls.value_pure] at hc
  cases hr : m.run.value with
  | error e => rw [hr, he] at hc; cases hc
  | ok a => rw [hr] at hc; exact hok a (hm.result a hr) cred hc

theorem addCreds_meets (ha : Fallible.Meets (ProperFor port lib.toHost svc uid arg.desiredName)
      (ReturnsUsage (Returnable svc arg)) (gpAddKrb5Creds lib port svc uid acquireType inCred
        arg.desiredName (gssxToCredUsage arg.credUsage))) :
    Fallible.Meets (ProperFor port lib.toHost svc uid arg.desiredName)
      (fun slots => ReturnsUsage (Permitted svc) slots.output)
      (addCreds lib port svc uid arg acquireType [KRB5_MECH_OID] ⟨inCred, none⟩) := by
  refine .bind ha fun cred hcr => .pure ?_
  cases har : arg.addCredToInputHandle with
  | true => exact .none
  | false =>
    intro c hc
    obtain ⟨usage, hu, hp⟩ := hcr c hc
    exact ⟨usage, hu, hp har⟩

theorem gpAddKrb5Creds_meets (hg : GpGuarded svc importCred arg)
    (hm : arg.desiredMechs = [] ∨
      arg.desiredMechs.any (fun m => allowedMech svc m.data) = true)
    (hi : inputCred importCred arg = .ok (inCred, acquireType)) :
    Fallible.Meets (ProperFor port lib.toHost svc uid arg.desiredName)
      (ReturnsUsage (Returnable svc arg)) (gpAddKrb5Creds lib port svc uid acquireType inCred
        arg.desiredName (gssxToCredUsage arg.credUsage)) := by
  rcases inputCred_ok hi with rfl | ⟨rfl, cred, rfl, hh, ht⟩
  · exact gpAddKrb5Creds_normal_meets fun usage hp _ => hp
  refine gpAddKrb5Creds_impName_meets ?_
  have hc := hg cred ⟨hh, ht, hm⟩
  split_ifs at hc ⊢ with htr
  · obtain ⟨hs, hin⟩ := hc
    obtain ⟨c, rfl⟩ := Option.isSome_iff_exists.mp hs
    exact ⟨rfl, hin⟩
  · exact hc

theorem gpAcquireCred_confined (hg : GpGuarded svc importCred arg) :
    Confined port lib.toHost svc (authorisedUid port svc uid arg.desiredName)
      (gpAcquireCred lib importCred port svc uid arg) := by
  unfold gpAcquireCred
  cases hi : inputCred importCred arg with
  | error e => exact confined_failed e none
  | ok input =>
    simp only [useMechs_eq]
    by_cases hm : arg.desiredMechs = [] ∨
        arg.desiredMechs.any (fun m => allowedMech svc m.data) = true
    · simp only [if_pos hm]
      refine confined_of_meets (addCreds_meets (gpAddKrb5Creds_meets hg hm hi))
        (fun _ => rfl) fun slots hr cred hc => ?_
      obtain ⟨input, output⟩ := slots
      cases output with
      | some c => cases hc; exact hr _ rfl
      | none =>
        cases input with
        | some c => cases hc
        | none => cases hc
    · simp only [if_neg hm]; exact confined_failed _ none

theorem addKrb5Creds_meets (hg : RustGuarded svc importCred arg)
    (hm : arg.desiredMechs = [] ∨
      arg.desiredMechs.any (fun m => allowedMech svc m.data) = true)
    (hi : inputCred importCred arg = .ok (inCred, acquireType)) :
    Fallible.Meets (ProperFor rustPort lib.toHost svc uid arg.desiredName)
      (ReturnsUsage (Returnable svc arg)) (addKrb5Creds lib svc uid acquireType inCred
        arg.desiredName (gssxToCredUsage arg.credUsage)) := by
  rcases inputCred_ok hi with rfl | ⟨rfl, cred, rfl, hh, ht⟩
  · exact addKrb5Creds_normal_meets fun usage hp _ => hp
  refine addKrb5Creds_impName_meets ?_
  have hcr := hg cred ⟨hh, ht, hm⟩
  split_ifs at hcr ⊢ with htr
  · intro c hc
    obtain ⟨a, rfl, rfl⟩ := Option.map_eq_some_iff.mp hc
    exact ⟨rfl, hcr rfl⟩
  · exact hcr

theorem chooseOutput_fresh {inCred acquired : Option (Cred A)}
    (hr : ReturnsUsage (Returnable svc arg) acquired)
    (h : (chooseOutput arg inCred (.ok acquired)).output = some (.fresh cred)) :
    ∃ usage, cred.origin.usage = some usage ∧ Permitted svc usage := by
  unfold chooseOutput at h
  cases ha : arg.addCredToInputHandle with
  | true =>
    simp only [ha, if_true] at h
    split_ifs at h <;> cases h
  | false =>
    cases acquired with
    | some c =>
      simp only [ha] at h
      cases h
      obtain ⟨usage, hu, hp⟩ := hr _ rfl
      exact ⟨usage, hu, hp ha⟩
    | none =>
      simp only [ha] at h
      cases inCred <;> cases h

theorem acquireForService_confined (hg : RustGuarded svc importCred arg) :
    Confined rustPort lib.toHost svc (authorisedUid rustPort svc uid arg.desiredName)
      (acquireForService lib importCred svc uid arg) := by
  unfold acquireForService
  cases hi : inputCred importCred arg with
  | error e => exact confined_failed e none
  | ok input =>
    by_cases hn : arg.desiredMechs ≠ [] ∧ ¬ (arg.desiredMechs.any fun m => allowedMech svc m.data)
    · simp only [if_pos hn]; exact confined_failed _ none
    have hm : arg.desiredMechs = [] ∨
        arg.desiredMechs.any (fun m => allowedMech svc m.data) = true := by
      rcases not_and_or.mp hn with h | h
      · exact .inl (not_not.mp h)
      · exact .inr (not_not.mp h)
    simp only [if_neg hn]
    exact confined_of_meets (addKrb5Creds_meets hg hm hi) (fun _ => rfl)
      fun acquired hr cred => chooseOutput_fresh hr

/-! ## Necessity -/

theorem inputCred_request {inCred : Option A} (h : ImpersonationRequest svc importCred arg inCred) :
    inputCred importCred arg = .ok (inCred.map (⟨·, .unsealed⟩), .impName) := by
  obtain ⟨handle, hh, hi⟩ := h.handle
  unfold inputCred
  simp [hh, hi, h.acquireType]

theorem Confined.single {run : Calls Origin (Acquired A)}
    {handle : A} (h : Confined port host svc uid run) (hl : run.log = [origin])
    (ho : arg.addCredToInputHandle = false → run.value.output = some (.fresh ⟨handle, origin⟩)) :
    (∀ usage store, origin = .acquired usage store →
      OwnStore port host svc uid (store.getD []) ∧ Returnable svc arg usage) ∧
    (∀ impersonator usage, origin = .impersonated impersonator usage →
      impersonator ≠ .noCredential ∧ Returnable svc arg usage) := by
  have hm : origin ∈ run.log := by simp [hl]
  have hr {usage : Int32} (hu : origin.usage = some usage) : Returnable svc arg usage := by
    intro had
    obtain ⟨usage', hu', hp⟩ := h.usage _ (ho had)
    rw [hu] at hu'
    cases hu'
    exact hp
  constructor
  · rintro usage store rfl; exact ⟨h.store usage store hm, hr rfl⟩
  · rintro impersonator usage rfl
    refine ⟨?_, hr rfl⟩
    rintro rfl
    rcases h.impersonator _ _ hm with hun | ⟨_, _, ha, -⟩
    · cases hun
    · cases ha

theorem gpAcquireCred_single {lib : CredLib N A} {inCred : Option A}
    (hr : ImpersonationRequest svc importCred arg inCred)
    (hru : (gpAddKrb5Creds lib port svc uid .impName (inCred.map (⟨·, .unsealed⟩))
      arg.desiredName (gssxToCredUsage arg.credUsage)).run = ⟨[origin], .ok (some cred)⟩) :
    (gpAcquireCred lib importCred port svc uid arg).log = [origin] ∧
      (arg.addCredToInputHandle = false →
        (gpAcquireCred lib importCred port svc uid arg).value.output = some (.fresh cred)) := by
  have hs : (addCreds lib port svc uid arg .impName [KRB5_MECH_OID]
      ⟨inCred.map (⟨·, .unsealed⟩), none⟩).run = ⟨[origin], .ok (if arg.addCredToInputHandle then
        ⟨some cred, none⟩ else ⟨inCred.map (⟨·, .unsealed⟩), some cred⟩)⟩ := by
    unfold addCreds
    rw [if_pos rfl, Fallible.run_bind_ok (by rw [hru])]
    rw [hru]; rfl
  unfold gpAcquireCred
  simp only [inputCred_request hr, useMechs_eq, if_pos hr.mech, hs]
  refine ⟨rfl, fun ha => ?_⟩
  simp only [ha]
  rfl

theorem acquireForService_single {lib : CredLib N A} {inCred : Option A}
    (hr : ImpersonationRequest svc importCred arg inCred)
    (hru : (addKrb5Creds lib svc uid .impName (inCred.map (⟨·, .unsealed⟩)) arg.desiredName
      (gssxToCredUsage arg.credUsage)).run = ⟨[origin], .ok (some cred)⟩) :
    (acquireForService lib importCred svc uid arg).log = [origin] ∧
      (arg.addCredToInputHandle = false →
        (acquireForService lib importCred svc uid arg).value.output = some (.fresh cred)) := by
  have hm : ¬ (arg.desiredMechs ≠ [] ∧
      ¬ (arg.desiredMechs.any fun m => allowedMech svc m.data)) := by
    rintro ⟨hs, han⟩
    exact hr.mech.elim hs han
  unfold acquireForService
  simp only [inputCred_request hr, if_neg hm, hru]
  refine ⟨rfl, fun ha => ?_⟩
  simp [chooseOutput, ha]

variable [Inhabited N] [Inhabited A]

def generousLib : CredLib N A where
  uidToName _ := none
  tid := 0
  importName _ _ := .ok default
  compareName _ _ := .ok true
  inquireCred _ := .ok ⟨some default, 1, GSS_C_BOTH, []⟩
  acquireCredFrom _ _ _ := .ok default
  acquireCredImpersonateName _ _ _ := .ok default
  initToSelf _ _ := ⟨0, 0, []⟩
  acceptFromSelf _ _ := ⟨0, 0, none⟩

theorem acquireEnvironment_generous (port : Port) (svc : Service) (uid : UInt32)
    (desiredName : Option GssxName) (usage : Int32) :
    ∃ requestedName, acquireEnvironment (generousLib : CredLib N A) port svc uid .impName
      desiredName usage = .ok ⟨requestedName, usage, [], none⟩ := by
  cases desiredName with
  | none => exact ⟨none, rfl⟩
  | some name =>
    have hn : gssxToName (generousLib : CredLib N A).toHost name = .ok default := by
      unfold gssxToName
      split <;> rfl
    exact ⟨some default, by simp only [acquireEnvironment, Option.mapM_some, hn]; rfl⟩

theorem gpAddKrb5Creds_generous (port : Port) (svc : Service) (uid : UInt32)
    (inCred : Option (Cred A)) (desiredName : Option GssxName) (usage : Int32) :
    let origin : Origin := if tryImpersonate svc usage .impName then
      .impersonated (originOf inCred) GSS_C_INITIATE else .acquired usage (some [])
    (gpAddKrb5Creds (generousLib : CredLib N A) port svc uid .impName inCred desiredName
      usage).run = ⟨[origin], .ok (some ⟨default, origin⟩)⟩ := by
  obtain ⟨requestedName, he⟩ :=
    acquireEnvironment_generous (N := N) (A := A) port svc uid desiredName usage
  unfold gpAddKrb5Creds
  simp only [reuseInput_impName, he, Fallible.ofExcept_ok_bind, Bool.false_eq_true, if_false]
  by_cases ht : tryImpersonate svc usage .impName = true
  · simp only [if_pos ht]; rfl
  · simp only [if_neg ht]; rfl

theorem addKrb5Creds_generous_impersonates (cred : Cred A) (desiredName : Option GssxName)
    (ht : tryImpersonate svc usage .impName = true) :
    let origin : Origin := .impersonated cred.origin GSS_C_INITIATE
    (addKrb5Creds (generousLib : CredLib N A) svc uid .impName (some cred) desiredName usage).run =
      ⟨[origin], .ok (some ⟨default, origin⟩)⟩ := by
  obtain ⟨requestedName, he⟩ :=
    acquireEnvironment_generous (N := N) (A := A) rustPort svc uid desiredName usage
  unfold addKrb5Creds
  simp only [reuseInput_impName, he, Fallible.ofExcept_ok_bind, Bool.false_eq_true, if_false,
    if_pos ht]
  rfl

theorem addKrb5Creds_generous_acquires (inCred : Option (Cred A)) (desiredName : Option GssxName)
    (ht : ¬ tryImpersonate svc usage .impName = true) :
    let origin : Origin := .acquired usage none
    (addKrb5Creds (generousLib : CredLib N A) svc uid .impName inCred desiredName usage).run =
      ⟨[origin], .ok (some ⟨default, origin⟩)⟩ := by
  obtain ⟨requestedName, he⟩ :=
    acquireEnvironment_generous (N := N) (A := A) rustPort svc uid desiredName usage
  unfold addKrb5Creds
  simp only [reuseInput_impName, he, Fallible.ofExcept_ok_bind, Bool.false_eq_true, if_false,
    if_neg ht]
  rfl

theorem gpGuarded_of_confined
    (h : ∀ lib : CredLib N A, Confined port lib.toHost svc
      (authorisedUid port svc uid arg.desiredName)
      (gpAcquireCred lib importCred port svc uid arg)) : GpGuarded svc importCred arg := by
  intro inCred hre
  obtain ⟨hl, ho⟩ := gpAcquireCred_single hre (gpAddKrb5Creds_generous (N := N) port svc uid
    (inCred.map (⟨·, .unsealed⟩)) arg.desiredName (gssxToCredUsage arg.credUsage))
  obtain ⟨ha, hi⟩ := (h generousLib).single hl ho
  split_ifs with ht
  · obtain ⟨hso, hr⟩ := hi _ _ (if_pos ht)
    refine ⟨?_, hr⟩
    cases inCred with
    | none => exact (hso rfl).elim
    | some cred => rfl
  · obtain ⟨hs, hr⟩ := ha _ _ (if_neg ht); exact ⟨ownStore_nil_iff.mp hs, hr⟩

theorem rustGuarded_of_confined
    (h : ∀ lib : CredLib N A, Confined rustPort lib.toHost svc
      (authorisedUid rustPort svc uid arg.desiredName)
      (acquireForService lib importCred svc uid arg)) : RustGuarded svc importCred arg := by
  intro inCred hre
  split_ifs with ht
  · intro hso
    obtain ⟨a, rfl⟩ := Option.isSome_iff_exists.mp hso
    obtain ⟨hl, ho⟩ := acquireForService_single hre
      (addKrb5Creds_generous_impersonates (N := N) ⟨a, .unsealed⟩ arg.desiredName ht)
    exact (((h generousLib).single hl ho).2 _ _ rfl).2
  · obtain ⟨hl, ho⟩ := acquireForService_single hre
      (addKrb5Creds_generous_acquires (N := N) _ arg.desiredName ht)
    obtain ⟨hs, hr⟩ := ((h generousLib).single hl ho).1 _ _ rfl
    exact ⟨ownStore_nil_iff.mp hs, hr⟩

end

end

def webService : Service :=
  { (default : Service) with
    name := "service/web"
    euid := 48
    mechs := GP_CRED_KRB5
    krb5Store := [("keytab", "/etc/web.keytab")] }

def strayRequest : ArgAcquireCred :=
  { (default : ArgAcquireCred) with
    inputCredHandle := some default
    options := [option ACQUIRE_TYPE_OPTION ACQUIRE_IMPERSONATE_NAME] }

end GssProxy.Server
