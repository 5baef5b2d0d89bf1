import GssProxy.Server.Target

/-!
# The credential environment of the two daemons

`gp_get_cred_environment` and its port differ in how they read a user id from a name and in how they
expand a template.

* `observe_alike_iff`: where templates are expanded properly, they agree just where they read the same
  user id.
-/

namespace GssProxy.Compat.CredEnvironment

open Codec Gss Proto Server Server.Format

/-! ## What is compared -/

/-- The service permits the usage. -/
def admits (svc : Service) (usage : Int32) : Bool :=
  svc.credUsage == GSS_C_BOTH || usage == GSS_C_BOTH || svc.credUsage == usage

/-- The user of a request whose usage is let through, and name, usage and store, or a failure. -/
structure Observed (N : Type) where
  uid : Option UInt32
  result : Option (Option N × Int32 × Store)

/-- What is compared of an environment. -/
def observe {N : Type} (port : Port) (host : Host N) (svc : Service) (uid : UInt32)
    (desiredName : Option GssxName) (usage : Int32) : Observed N where
  uid := if admits svc usage then some (authorisedUid port svc uid desiredName) else none
  result := (getCredEnvironment port host svc uid desiredName usage).toOption.map fun env =>
    (env.requestedName, env.credUsage, env.credStore)

/-- The request gets past the checks of usage and name, and every template before this one expands. -/
def Reached {N : Type} (port : Port) (host : Host N) (svc : Service) (uid : UInt32)
    (desiredName : Option GssxName) (usage : Int32) (template : String) : Prop :=
  ((do
    let usage ← filterUsage svc usage
    let target ← resolveTarget port host svc uid desiredName
    let target ← impersonateUser host svc usage target
    configuredName port host svc target).toOption : Option (Target N)).isSome = true ∧
  ∃ before key after, svc.krb5Store = before ++ (key, template) :: after ∧
    ∀ e ∈ before, (port.formattedString host.uidToName e.2
      (authorisedUid port svc uid desiredName)).isSome = true

/-! ## The steps -/

theorem toOption_bind {ε α β : Type} (x : Except ε α) (f : α → Except ε β) :
    (x >>= f).toOption = x.toOption.bind fun a => (f a).toOption := by
  cases x with
  | error e => rfl
  | ok a => rfl

theorem ok_of_toOption {ε α : Type} {x : Except ε α} {a : α} (h : x.toOption = some a) : x = .ok a := by
  cases x with
  | error e => cases h
  | ok b => exact congrArg Except.ok (Option.some.inj h)

section

variable {N : Type} {host : Host N} {svc : Service} {uid : UInt32} {desiredName : Option GssxName}
  {usage : Int32} {port port' : Port}

theorem filterUsage_not_admitted (h : admits svc usage = false) : (filterUsage svc usage).toOption = none := by
  simp only [admits, Bool.or_eq_false_iff, beq_eq_false_iff_ne] at h
  obtain ⟨⟨hb, ha⟩, hd⟩ := h
  rw [filterUsage, if_neg hb, if_neg ha, if_pos hd]
  rfl

theorem resolveTarget_alike
    (h : authorisedUid port svc uid desiredName = authorisedUid port' svc uid desiredName) :
    (resolveTarget port host svc uid desiredName).toOption =
      (resolveTarget port' host svc uid desiredName).toOption := by
  unfold resolveTarget
  unfold authorisedUid at h
  cases desiredName with
  | none => rfl
  | some name =>
    by_cases hn : namesUser svc uid name = true
    · simp only [hn, if_true] at h ⊢
      rw [h]
    simp only [hn]
    cases gssxToName host name with
    | ok n => rfl
    | error e => rfl

variable (port port') in
theorem configuredName_alike (t : Target N) :
    (configuredName port host svc t).toOption = (configuredName port' host svc t).toOption := by
  unfold configuredName
  split
  · rename_i principal _ _ _
    cases principalName host principal with
    | ok n => rfl
    | error e => rfl
  · rfl

theorem expandStore_alike {cfg : Store} (h : ∀ before e after, cfg = before ++ e :: after →
      (∀ e ∈ before, (port.formattedString host.uidToName e.2 uid).isSome = true) →
      port.formattedString host.uidToName e.2 uid = port'.formattedString host.uidToName e.2 uid) :
    expandStore port host uid cfg = expandStore port' host uid cfg := by
  induction cfg with
  | nil => rfl
  | cons e cfg ih =>
    rw [expandStore, expandStore, ← h [] e cfg rfl nofun]
    cases hv : port.formattedString host.uidToName e.2 uid with
    | none => rfl
    | some value =>
      rw [ih fun before e' after hc hb => h (e :: before) e' after (congrArg (e :: ·) hc) ?_]
      simpa [hv] using hb

theorem getCredEnvironment_alike
    (hu : authorisedUid port svc uid desiredName = authorisedUid port' svc uid desiredName)
    (h : ∀ template, Reached port host svc uid desiredName usage template →
      port.formattedString host.uidToName template (authorisedUid port svc uid desiredName) =
        port'.formattedString host.uidToName template (authorisedUid port svc uid desiredName)) :
    (getCredEnvironment port host svc uid desiredName usage).toOption =
      (getCredEnvironment port' host svc uid desiredName usage).toOption := by
  unfold Reached at h
  unfold getCredEnvironment
  simp only [toOption_bind, resolveTarget_alike hu, configuredName_alike port port'] at h ⊢
  refine Option.bind_congr fun filtered h₀ => Option.bind_congr fun t₁ h₁ =>
    Option.bind_congr fun t₂ h₂ => Option.bind_congr fun t₃ h₃ => ?_
  have hui : t₃.uid = authorisedUid port svc uid desiredName := by
    rw [configuredName_uid (ok_of_toOption h₃), impersonateUser_uid (ok_of_toOption h₂),
      resolveTarget_uid (ok_of_toOption h₁), hu]
  have he := expandStore_alike fun before e after hc hb =>
    h e.2 ⟨by simp [h₀, h₁, h₂, h₃], before, e.1, after, hc, hb⟩
  rw [buildStore, buildStore, hui, he]

variable {formattedString : (UInt32 → Option String) → String → UInt32 → Option String}

variable (formattedString) in
theorem authorisedUid_alike_iff :
    authorisedUid (cPort formattedString) svc uid desiredName = authorisedUid rustPort svc uid desiredName ↔
      ∀ name, desiredName = some name → namesUser svc uid name = true → Alike name.displayName.data := by
  cases desiredName with
  | none => exact ⟨fun _ => nofun, fun _ => rfl⟩
  | some name =>
    simp only [Option.some.injEq, forall_eq', authorisedUid]
    by_cases hn : namesUser svc uid name = true
    · simp only [hn, if_true, forall_const]
      exact leadingUid_alike_iff name.displayName.data
    · simp only [hn]
      exact ⟨fun _ h => absurd h (by decide), fun _ => rfl⟩

variable (host svc uid desiredName usage)

/-- **The credential environments of the two daemons.**  For a request whose templates, as far as they are
    reached, the C daemon expands properly, both agree on success or failure, on the user, the usage, the
    requested name and the store just where a user id that they have to read from a name is read alike. -/
theorem observe_alike_iff (hfollows : Follows formattedString)
    (hvalues : ∀ e ∈ svc.krb5Store, 0 ∉ utf8 e.2)
    (hnames : ∀ u name, host.uidToName u = some name → 0 ∉ utf8 name)
    (hsound : ∀ template, Reached (cPort formattedString) host svc uid desiredName usage template →
      Sound (fun u => (host.uidToName u).bind cString)
        (authorisedUid (cPort formattedString) svc uid desiredName) 0 (utf8 template)) :
    observe (cPort formattedString) host svc uid desiredName usage =
        observe rustPort host svc uid desiredName usage ↔
      (admits svc usage = true → ∀ name, desiredName = some name → namesUser svc uid name = true →
        Alike name.displayName.data) := by
  rw [← authorisedUid_alike_iff formattedString]
  constructor
  · intro ho ha
    have hu := congrArg Observed.uid ho
    simp only [observe, ha, if_true, Option.some.injEq] at hu
    exact hu
  · intro hal
    cases ha : admits svc usage with
    | false =>
      simp only [observe, getCredEnvironment, toOption_bind, filterUsage_not_admitted ha, ha,
        Option.bind_none]
      rfl
    | true =>
      have hu := hal ha
      rw [observe, observe, hu, getCredEnvironment_alike hu]
      intro template hr
      have ⟨_, before, key, after, hs, _⟩ := hr
      exact formattedString_eq hfollows (hvalues (key, template) (by simp [hs])) (hnames _)
        (hsound template hr)

end

/-! ## A name with a sign -/

def nfsService : Service :=
  { (default : Service) with trusted := true, krb5Store := [("ccache", "FILE:/tmp/krb5cc_%U")] }

def uidName (text : Bytes) : GssxName :=
  { (default : GssxName) with displayName := ⟨text⟩, nameType := ⟨NT_STRING_UID_NAME_OID⟩ }

/-- Both daemons read a plain number. -/
theorem plain_number_alike :
    observe (cPort gpFormattedString) userHost nfsService 0 (some (uidName (digits 1000))) GSS_C_INITIATE =
      observe rustPort userHost nfsService 0 (some (uidName (digits 1000))) GSS_C_INITIATE := by
  have ht : byteMarks.NumberOnly (utf8 "FILE:/tmp/krb5cc_%U") := by
    exact sharedService_numberOnly.flatMap charMarks_encodes
  refine (observe_alike_iff _ _ _ _ _ gpFormattedString_follows (by decide) ?_ ?_).mpr ?_
  · rintro u name ⟨⟩; decide
  · rintro template ⟨-, before, key, after, hst, -⟩
    have hm : (key, template) ∈ nfsService.krb5Store := by simp [hst]
    cases List.mem_singleton.mp hm
    exact ⟨fun _ _ _ hs _ => absurd hs (numberOnly_ne ht), fun _ _ _ _ _ => by decide⟩
  · rintro _ name ⟨⟩ _; decide

/-- **A sign before the number.**  The C daemon takes the credentials of the user 1000, the Rust daemon those of
    the user 0. -/
theorem sign_not_read :
    let plus1000 := uidName [43, 49, 48, 48, 48]
    observe (cPort gpFormattedString) userHost nfsService 0 (some plus1000) GSS_C_INITIATE =
      ⟨some 1000, some (none, GSS_C_INITIATE, [("ccache", "FILE:/tmp/krb5cc_1000")])⟩ ∧
    observe rustPort userHost nfsService 0 (some plus1000) GSS_C_INITIATE =
      ⟨some 0, some (none, GSS_C_INITIATE, [("ccache", "FILE:/tmp/krb5cc_0")])⟩ :=
  ⟨rfl, rfl⟩

end GssProxy.Compat.CredEnvironment
