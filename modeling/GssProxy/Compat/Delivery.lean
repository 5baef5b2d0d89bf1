import GssProxy.Daemon.FailedReplies
import GssProxy.Server.Confinement

/-!
# What a completed acquisition delivers

The credential a client gets is what the daemon makes of the handle when it comes back.

* `acquire_delivers_iff`: it is the new one, or the valid input one, exactly if what is added to an input
  handle adds nothing and no impersonation of the C daemon ends without a credential.
-/

namespace GssProxy.Compat

open Codec Effect Gss Proto Server Daemon

/-! ## Errors -/

/-- No error has the status of a success. -/
def Errs {α : Type} (x : Except GssError α) : Prop := ∀ e, x = .error e → e.major ≠ 0

theorem Errs.ok {α : Type} (a : α) : Errs (.ok a) := by rintro e ⟨⟩

theorem Errs.error {α : Type} {e : GssError} (h : e.major ≠ 0) :
    Errs (.error e : Except GssError α) := by
  rintro e' ⟨⟩
  exact h

theorem Errs.bind {α β : Type} {x : Except GssError α} {f : α → Except GssError β} (hx : Errs x)
    (hf : ∀ a, Errs (f a)) : Errs (x >>= f) := by
  cases x with
  | error e => exact .error (hx e rfl)
  | ok a => exact hf a

theorem Errs.map {α β : Type} {x : Except GssError α} (hx : Errs x) (f : α → β) :
    Errs (x.map f) := by
  cases x with
  | error e => exact .error (hx e rfl)
  | ok a => exact .ok (f a)

structure SoundCreds {N A : Type} (lib : CredLib N A) : Prop where
  importName : ∀ bytes type, Errs (lib.importName bytes type)
  compareName : ∀ n n', Errs (lib.compareName n n')
  inquireCred : ∀ cred, Errs (lib.inquireCred cred)
  acquireCredFrom : ∀ name usage store, Errs (lib.acquireCredFrom name usage store)
  acquireCredImpersonateName : ∀ cred name usage,
    Errs (lib.acquireCredImpersonateName cred name usage)

/-- No call of the library fails with the status of a success. -/
structure SoundErrors {N X A H : Type} (lib : Library N X A H) : Prop where
  creds : SoundCreds lib.toCredLib
  displayName : ∀ name, Errs (lib.displayName name)
  exportName : ∀ name, Errs (lib.exportName name)
  exportNameComposite : ∀ name, Errs (lib.exportNameComposite name)
  exportToken : ∀ cred, Errs (lib.exportToken cred)
  importToken : ∀ token, Errs (lib.importToken token)

section

variable {N A : Type} {lib : CredLib N A} {port : Port} {svc : Service} {uid : UInt32}
  {acquireType : AcquireType} {inCred : Option (Cred A)} {name : Option GssxName} {usage : Int32}
  {env : CredEnv N} {impersonator user : Cred A} {target : Option N}

section

variable (hlib : SoundCreds lib)
include hlib

theorem gssxToName_errs {name : GssxName} : Errs (gssxToName lib.toHost name) := by
  unfold gssxToName
  split <;> exact hlib.importName _ _

theorem acquireEnvironment_errs :
    Errs (acquireEnvironment lib port svc uid acquireType name usage) := by
  cases acquireType with
  | normal =>
    unfold acquireEnvironment
    cases getCredEnvironment port lib.toHost svc uid name usage with
    | error e => exact .error (by decide : GSS_S_CRED_UNAVAIL ≠ 0)
    | ok env => exact .ok env
  | impName =>
    refine .bind ?_ fun _ => .ok _
    cases name with
    | none => exact .ok none
    | some name => exact (gssxToName_errs hlib).bind fun _ => .ok _

omit hlib in
theorem reuseInput_errs {check : Cred A → Except GssError Unit} {minor : GssError → UInt32} :
    Errs (reuseInput check minor acquireType inCred) := by
  unfold reuseInput
  split
  · split
    · exact .ok true
    · split
      · exact .ok false
      · exact .error (by decide : GSS_S_CRED_UNAVAIL ≠ 0)
  · exact .ok false

theorem acquireFrom_fails {name : Option N} {store : Option Store} :
    (acquireFrom lib name usage store).Fails (·.major ≠ 0) :=
  .bind (.recorded (hlib.acquireCredFrom name usage store)) fun _ => .pure _

theorem impersonateName_fails {impersonator : Option (Cred A)} {name : Option N} :
    (impersonateName lib impersonator name).Fails (·.major ≠ 0) :=
  .bind (.recorded (hlib.acquireCredImpersonateName _ name _)) fun _ => .pure _

omit hlib in
theorem delegateToSelf_fails {failed : UInt32 → Bool} (hf : failed 0 = false) :
    (delegateToSelf lib failed impersonator user target).Fails (·.major ≠ 0) := by
  have hne {major : UInt32} (h : failed major = true) : major ≠ 0 := by
    rintro rfl
    rw [hf] at h; cases h
  refine .ite (fun h => .throw_bind _ (hne h)) fun _ =>
    .ite (fun h => .throw_bind _ (hne h)) fun _ => ?_
  cases (lib.acceptFromSelf impersonator.handle _).output with
  | none => exact .pure _
  | some handle => exact .bind (.recorded (by rintro e ⟨⟩)) fun _ => .pure _

theorem hostPrincipal_errs : Errs (hostPrincipal lib svc) := by
  unfold hostPrincipal
  cases svc.krb5Principal with
  | none => exact .ok none
  | some => exact (hlib.importName _ _).bind fun _ => .ok _

theorem inquireName_errs : Errs (inquireName lib user) := by
  refine .bind (hlib.inquireCred _) fun info => ?_
  cases info.name with
  | some name => exact .ok name
  | none => exact .error (by decide : GSS_S_FAILURE ≠ 0)

theorem gpSelfCred_fails : (gpSelfCred lib env impersonator).Fails (·.major ≠ 0) := by
  unfold gpSelfCred
  cases env.requestedName with
  | none => exact .pure none
  | some =>
    refine .bind (.ofExcept (hlib.inquireCred _)) fun info =>
      .bind (.ofExcept (hlib.compareName _ _)) fun equal => ?_
    exact .ite (fun _ => .attempt _) fun _ => .pure none

theorem gpImpersonate_fails :
    (gpImpersonate lib svc acquireType inCred env).Fails (·.major ≠ 0) := by
  cases acquireType with
  | normal =>
    refine .bind (.ofExcept (hostPrincipal_errs hlib)) fun principal =>
      .bind (acquireFrom_fails hlib) fun impersonator =>
        .bind (gpSelfCred_fails hlib) fun self => ?_
    cases self with
    | some cred => exact .pure (some cred)
    | none =>
      exact .bind (.ofExcept (hlib.inquireCred _)) fun info =>
        .bind (impersonateName_fails hlib) fun user =>
          delegateToSelf_fails rfl
  | impName =>
    exact .bind (.ofExcept (hlib.inquireCred _)) fun info =>
      .bind (impersonateName_fails hlib) fun user => .pure (some user)

theorem gpAddKrb5Creds_fails :
    (gpAddKrb5Creds lib port svc uid acquireType inCred name usage).Fails (·.major ≠ 0) := by
  refine .bind (.ofExcept reuseInput_errs) fun reuse => .ite (fun _ => .pure none)
    fun _ => .bind (.ofExcept (acquireEnvironment_errs hlib)) fun env => ?_
  refine .ite (fun _ => gpImpersonate_fails hlib) fun _ => ?_
  exact .bind (acquireFrom_fails hlib) fun cred => .pure (some cred)

omit hlib in
theorem selfCred_fails : (selfCred lib env impersonator).Fails (·.major ≠ 0) := by
  unfold selfCred
  split
  · split
    · exact .attempt _
    · exact .pure none
  · exact .pure none

theorem impersonateAcquire_fails :
    (impersonateAcquire lib svc acquireType inCred env).Fails (·.major ≠ 0) := by
  cases acquireType with
  | normal =>
    refine .bind (.ofExcept (hostPrincipal_errs hlib)) fun principal =>
      .bind (acquireFrom_fails hlib) fun impersonator =>
        .bind selfCred_fails fun self => ?_
    cases self with
    | some cred => exact .pure cred
    | none =>
      refine .bind (.ofExcept (inquireName_errs hlib)) fun target =>
        .bind (impersonateName_fails hlib) fun user =>
          .bind (delegateToSelf_fails rfl) fun delegated => ?_
      cases delegated with
      | some cred => exact .pure cred
      | none => exact .throw (by decide : GSS_S_FAILURE ≠ 0)
  | impName =>
    cases inCred with
    | none => exact .throw (by decide : GSS_S_FAILURE ≠ 0)
    | some cred =>
      exact .bind (.ofExcept (inquireName_errs hlib)) fun _ =>
        impersonateName_fails hlib

theorem addKrb5Creds_fails :
    (addKrb5Creds lib svc uid acquireType inCred name usage).Fails (·.major ≠ 0) := by
  refine .bind (.ofExcept reuseInput_errs) fun reuse => .ite (fun _ => .pure none)
    fun _ => .bind (.ofExcept (acquireEnvironment_errs hlib)) fun env => ?_
  refine .ite (fun _ => ?_) fun _ => ?_
  · exact .bind (impersonateAcquire_fails hlib) fun cred =>
      .pure (some cred)
  · exact .bind (acquireFrom_fails hlib) fun cred => .pure (some cred)

end

/-! ## New credentials -/

abbrev Gives (m : Acquiring (Option (Cred A))) : Prop :=
  m.Meets (fun _ => True) fun r => r.isSome

theorem acquireFrom_gives {name : Option N} {store : Option Store} :
    Gives (do return some (← acquireFrom lib name usage store)) :=
  .bind (.trivial _) fun _ _ => .pure rfl

theorem reuseInput_true {check : Cred A → Except GssError Unit} {minor : GssError → UInt32}
    (h : reuseInput check minor acquireType inCred = .ok true) :
    acquireType = .normal ∧ ∃ cred, inCred = some cred ∧ check cred = .ok () := by
  unfold reuseInput at h
  split at h
  · rename_i cred
    split at h
    · rename_i hc; exact ⟨rfl, cred, rfl, hc⟩
    · split at h <;> cases h
  · cases h

theorem none_of_reuse {reuse : Except GssError Bool} {rest : Acquiring (Option (Cred A))}
    (hr : Gives rest)
    (h : (Fallible.ofExcept reuse >>= fun r => if r then pure none else rest).run.value =
      .ok none) : reuse = .ok true := by
  cases reuse with
  | error e => cases h
  | ok r =>
    cases r with
    | true => rfl
    | false =>
      have hs := hr.result none h
      cases hs

theorem addKrb5Creds_none
    (h : (addKrb5Creds lib svc uid acquireType inCred name usage).run.value = .ok none) :
    acquireType = .normal ∧ ∃ cred, inCred = some cred ∧
      checkCred lib svc name usage cred = .ok () := by
  refine reuseInput_true (none_of_reuse ?_ h)
  refine .bind (.trivial _) fun env _ => .ite (fun _ => ?_) fun _ => ?_
  · exact .bind (.trivial _) fun _ _ => .pure rfl
  · exact acquireFrom_gives

end

/-! ## Exported credentials -/

section

variable {N X A H : Type}

/-- What is exported and sealed comes back. -/
structure GpFaithful (lib : GpLib N X A H) : Prop where
  token : ∀ a t, lib.exportToken a = .ok t → lib.importToken t = .ok a
  buffer : ∀ key t r, lib.encryptBuffer key t = .ok r → lib.decryptBuffer key r = .ok t

/-- What is exported and sealed comes back. -/
structure RustFaithful (lib : Library N X A H) : Prop where
  token : ∀ a t, lib.exportToken a = .ok t → lib.importToken t = .ok a
  sealed : ∀ key t r, lib.sealBytes key t = some r → r ≠ [] ∧ lib.unsealBytes key r = some t

theorem fillElements_options {lib : GpLib N X A H} {conv : Conversions} {cred : A}
    {mechs : List Bytes} {filled : List GssxCredElement} {r out : GssxCred}
    (hf : ∀ el ∈ filled, el.options = [])
    (h : fillElements lib conv cred mechs filled r = (.ok (), out)) :
    ∀ el ∈ out.elements, el.options = [] := by
  induction mechs generalizing filled r with
  | nil => cases h; exact hf
  | cons mech mechs ih =>
    unfold fillElements at h
    cases hi : lib.inquireCredByMech cred mech with
    | error e => simp only [hi] at h; exact ih hf h
    | ok info =>
      simp only [hi] at h
      iterate 4 obtain ⟨_, _, -, h⟩ := Filling.bind_eq_ok h
      refine ih (fun el hel => ?_) h
      rcases List.mem_append.mp hel with hel | hel
      · exact hf el hel
      · rw [List.mem_singleton.mp hel]

theorem scanElements_default {elements : List GssxCredElement}
    (h : ∀ el ∈ elements, el.options = []) : scanElements elements = default := by
  unfold scanElements
  induction elements with
  | nil => rfl
  | cons el elements ih =>
    rw [List.foldl_cons, h el List.mem_cons_self]
    exact ih fun el' hel => h el' (List.mem_cons_of_mem _ hel)

theorem gpExport_imports {lib : GpLib N X A H} (hlib : GpFaithful lib) {conv : Conversions}
    {handle : Option H} {cred : A} {wire : GssxCred}
    (h : gpExportGssxCred lib conv handle cred default = (.ok (), wire)) :
    gpImportGssxCred lib noFailure handle wire = .ok (some cred) := by
  iterate 6 obtain ⟨_, _, -, h⟩ := Filling.bind_eq_ok h
  obtain ⟨_, out, hf, h⟩ := Filling.bind_eq_ok h
  have ho := fillElements_options (List.forall_mem_nil _) hf
  cases handle with
  | none => cases h
  | some key =>
    obtain ⟨token, _, hex, hs⟩ := Filling.bind_eq_ok h
    obtain ⟨ht, rfl⟩ := Filling.ofExcept_eq_ok hex
    obtain ⟨reference, _, hse, hw⟩ := Filling.bind_eq_ok hs
    obtain ⟨hr, rfl⟩ := Filling.ofExcept_eq_ok hse
    have hwi := congrArg Prod.snd hw
    have he : lib.encryptBuffer key token = .ok reference := mapError_eq_ok.mp hr
    have hst : scanElements out.elements = default := scanElements_default ho
    have hd := hlib.buffer key token reference he
    have hi := hlib.token cred token ht
    subst hwi
    unfold gpImportGssxCred
    simp only [noFailure, Filling.write, bind, Except.bind, hd, hi, Except.map,
      gpSetCredOptions, hst]
    rfl

theorem rustExport_imports {lib : Library N X A H} (hlib : RustFaithful lib) {handle : H}
    {cred : A} {wire : GssxCred} (h : exportGssxCred lib handle cred = .ok wire) :
    importGssxCred lib handle wire = .ok (some cred) := by
  iterate 3 obtain ⟨_, -, h⟩ := bind_eq_ok.mp h
  obtain ⟨token, ht, h⟩ := bind_eq_ok.mp h
  cases hs : lib.sealBytes handle token with
  | none => simp only [hs] at h; cases h
  | some reference =>
    simp only [hs] at h
    cases h
    obtain ⟨hne, hu⟩ := hlib.sealed handle token reference hs
    unfold importGssxCred
    simp only [if_neg hne, hu, hlib.token cred token ht]; rfl

/-! ## Errors of an export -/

variable {lib : GpLib N X A H} {conv : Conversions}

theorem nameToGssx_errs {lib : Library N X A H} (hlib : SoundErrors lib) (name : N) :
    Errs (nameToGssx lib name) :=
  .bind (hlib.displayName name) fun _ => .bind (hlib.exportName name) fun _ =>
    .bind (hlib.exportNameComposite name) fun _ => .ok _

variable (hlib : SoundErrors lib.toLibrary)
include hlib

theorem gpNameToGssx_errs (name : Option N) :
    Errs (gpNameToGssx lib name) := by
  cases name with
  | none => exact .error (by decide : GSS_S_CALL_INACCESSIBLE_READ ||| GSS_S_BAD_NAME ≠ 0)
  | some name => exact nameToGssx_errs hlib name

variable (hc : ∀ c, Errs (conv c))
include hc

theorem fillElements_fails (cred : A) (mechs : List Bytes) (filled : List GssxCredElement) :
    (fillElements lib conv cred mechs filled).Fails (·.major ≠ 0) := by
  induction mechs generalizing filled with
  | nil => exact .write _
  | cons mech mechs ih =>
    unfold fillElements
    cases lib.inquireCredByMech cred mech with
    | error e => exact .bind (.write _) fun _ => ih filled
    | ok info =>
      refine .bind (.ofExcept (gpNameToGssx_errs hlib info.name)) fun mn => ?_
      refine .bind (.ofExcept (hc _)) fun _ => .bind (.write _) fun _ => ?_
      exact .bind (.ofExcept (hc _)) fun _ => .bind (.write _) fun _ => ih _

theorem gpExportGssxCred_fails (handle : Option H) (cred : A) :
    (gpExportGssxCred lib conv handle cred).Fails (·.major ≠ 0) := by
  refine .bind (.ofExcept (hlib.creds.inquireCred _)) fun info =>
    .bind (.ofExcept (gpNameToGssx_errs hlib _)) fun name => .bind (.ofExcept (hc _)) fun _ =>
    .bind (.write _) fun _ => .bind (.ofExcept (hc _)) fun _ => .bind (.write _) fun _ =>
    .bind (fillElements_fails hlib hc cred info.mechs []) fun _ => ?_
  cases handle with
  | none => exact .fail (by decide : GSS_S_FAILURE ≠ 0)
  | some key =>
    refine .bind (.ofExcept (hlib.exportToken cred)) fun token => .bind (.ofExcept ?_) fun _ =>
      .write _
    cases lib.encryptBuffer key token with
    | error e => exact Errs.error (by decide : GSS_S_FAILURE ≠ 0)
    | ok reference => exact Errs.ok reference

theorem gpImportGssxCred_errs (handle : Option H) (cred : GssxCred) :
    Errs (gpImportGssxCred lib conv handle cred) := by
  cases handle with
  | none => exact .error (by decide : GSS_S_FAILURE ≠ 0)
  | some key =>
    refine .bind (hc _) fun _ => ?_
    split
    · exact .ok none
    · exact (hlib.importToken _).map _

end

/-! ## Delivery -/

section

variable {N X A H : Type}

/-- What a request that acquired `cred` is to hand out: it, or the input credential with it. -/
def handedOut (extend : A → A → A) (arg : ArgAcquireCred) (inCred : Option (Cred A))
    (cred : Cred A) : A :=
  match arg.addCredToInputHandle, inCred with
  | true, some input => extend input.handle cred.handle
  | _, _ => cred.handle

/-- The credential to deliver: what comes of the one acquired, or the input one if none was acquired
    and it passed its check. -/
def Delivered (extend : A → A → A) (arg : ArgAcquireCred) (inCred : Option (Cred A))
    (acquireType : AcquireType) (check : Cred A → Prop)
    (acquired : Except GssError (Option (Cred A))) (a : A) : Prop :=
  (∃ cred, acquired = .ok (some cred) ∧ a = handedOut extend arg inCred cred) ∨
    acquired = .ok none ∧ acquireType = .normal ∧
      ∃ cred, inCred = some cred ∧ check cred ∧ a = cred.handle

/-- The new credential adds nothing to the input one. -/
def AddsNothing (extend : A → A → A) (inCred : Option (Cred A)) (cred : Cred A) : Prop :=
  ∃ input, inCred = some input ∧ extend input.handle cred.handle = input.handle

theorem inputCred_errs {importCred : GssxCred → Except GssError (Option A)}
    (hi : ∀ g, Errs (importCred g)) (arg : ArgAcquireCred) : Errs (inputCred importCred arg) := by
  unfold inputCred
  split
  · exact .ok _
  rename_i handle _
  split
  · rename_i e he; exact .error (hi handle e he)
  · split
    · exact .ok _
    · exact .error (by decide : GSS_S_FAILURE ≠ 0)

section

variable {importCred importBack : GssxCred → Except GssError (Option A)} {arg : ArgAcquireCred}
  {inCred : Option (Cred A)} {acquireType : AcquireType} {extend : A → A → A}
  {check : Cred A → Prop} {acquired : Except GssError (Option (Cred A))}

theorem inputCred_some {cred : Cred A} (h : inputCred importCred arg = .ok (some cred, acquireType)) :
    ∃ handle, arg.inputCredHandle = some handle ∧ importCred handle = .ok (some cred.handle) := by
  unfold inputCred at h
  split at h
  · cases h
  rename_i handle hh
  split at h
  · cases h
  rename_i a hi
  split at h
  · cases a with
    | none => cases h
    | some a => cases h; exact ⟨handle, hh, hi⟩
  · cases h

theorem inputCred_handle {wire : GssxCred} {a : A}
    (h : inputCred importCred arg = .ok (inCred, acquireType)) (hw : arg.inputCredHandle = some wire)
    (hi : ∀ cred, importCred wire = .ok cred → cred = some a) : inCred = some ⟨a, .unsealed⟩ := by
  unfold inputCred at h
  rw [hw] at h
  cases hc : importCred wire with
  | error e => simp only [hc] at h; cases h
  | ok cred =>
    cases hi cred hc
    simp only [hc] at h
    split at h
    · cases h; rfl
    · cases h

/-- What becomes of the input handle when it is given back. -/
def GivenBack (importBack : GssxCred → Except GssError (Option A)) (extend : A → A → A)
    (arg : ArgAcquireCred) (inCred : Option (Cred A)) (acquireType : AcquireType)
    (check : Cred A → Prop) (acquired : Except GssError (Option (Cred A))) : Prop :=
  ∃ wire a, arg.inputCredHandle = some wire ∧ importBack wire = .ok (some a) ∧
    Delivered extend arg inCred acquireType check acquired a

theorem givenBack_new {cred : Cred A} (hb : ∀ wire cred, importCred wire = .ok cred →
      importBack wire = .ok cred) (hin : inputCred importCred arg = .ok (inCred, acquireType))
    (hf : arg.addCredToInputHandle = true) :
    GivenBack importBack extend arg inCred acquireType check (.ok (some cred)) ↔
      AddsNothing extend inCred cred := by
  constructor
  · rintro ⟨wire, a, hw, hi, hd⟩
    obtain rfl : inCred = some ⟨a, .unsealed⟩ := inputCred_handle hin hw fun cred hc =>
      Except.ok.inj ((hb wire cred hc).symm.trans hi)
    obtain ⟨cred', hc, ha⟩ | ⟨hn, -⟩ := hd
    · cases hc
      simp only [handedOut, hf] at ha
      exact ⟨_, rfl, ha.symm⟩
    · cases hn
  · rintro ⟨input, rfl, hs⟩
    obtain ⟨wire, hw, hi⟩ := inputCred_some hin
    refine ⟨wire, input.handle, hw, hb wire _ hi, .inl ⟨cred, rfl, ?_⟩⟩
    simp only [handedOut, hf]
    exact hs.symm

/-- A completed request ends with an exported new credential, or the handle it came with. -/
def Ends (exports : Cred A → GssxCred → Prop) (r : Acquired A) (wire : Option GssxCred) : Prop :=
  (r.output = none ∧ r.major = 0) ∨
  (∃ cred g, r.output = some (.fresh cred) ∧ wire = some g ∧ exports cred g) ∨
  ∃ handle, r.output = some (.input handle) ∧ wire = handle

section

variable {exports : Cred A → GssxCred → Prop} {r : Acquired A} {wire handle : Option GssxCred}

theorem Ends.of_none (h : Ends exports r wire) (ho : r.output = none) : r.major = 0 := by
  simpa [Ends, ho] using h

theorem Ends.of_fresh {cred : Cred A} (h : Ends exports r wire)
    (ho : r.output = some (.fresh cred)) : ∃ g, wire = some g ∧ exports cred g := by
  simpa [Ends, ho] using h

theorem Ends.of_input (h : Ends exports r wire) (ho : r.output = some (.input handle)) :
    wire = handle := by
  simpa [Ends, ho, eq_comm] using h

end

theorem givenBack_input {input : Cred A} (hb : ∀ wire cred, importCred wire = .ok cred →
      importBack wire = .ok cred) (hi : inputCred importCred arg = .ok (some input, acquireType)) :
    GivenBack importBack extend arg (some input) acquireType check (.ok none) ↔
      acquireType = .normal ∧ check input := by
  constructor
  · rintro ⟨wire, a, -, -, ⟨cred, hcr, -⟩ | ⟨-, hn, input', hi', hc, -⟩⟩
    · cases hcr
    · cases hi'; exact ⟨hn, hc⟩
  · rintro ⟨hn, hc⟩
    obtain ⟨wire, hw, him⟩ := inputCred_some hi
    exact ⟨wire, input.handle, hw, hb wire _ him, .inr ⟨rfl, hn, input, rfl, hc, rfl⟩⟩

theorem chooseOutput_delivers {exports : Cred A → GssxCred → Prop} {wire : Option GssxCred}
    (he : Ends exports (chooseOutput arg inCred acquired) wire) (her : Errs acquired)
    (hex : ∀ cred g, exports cred g → importBack g = .ok (some cred.handle))
    (hb : ∀ wire cred, importCred wire = .ok cred → importBack wire = .ok cred)
    (hi : inputCred importCred arg = .ok (inCred, acquireType))
    (hn : arg.addCredToInputHandle = true → ∀ cred, acquired = .ok (some cred) →
      AddsNothing extend inCred cred) (hold : acquired = .ok none → ∀ input, inCred = some input →
      acquireType = .normal ∧ check input) :
    ∃ g a, wire = some g ∧ importBack g = .ok (some a) ∧
      Delivered extend arg inCred acquireType check acquired a := by
  have hgi : GivenBack importBack extend arg inCred acquireType check acquired →
      wire = arg.inputCredHandle → ∃ g a, wire = some g ∧ importBack g = .ok (some a) ∧
        Delivered extend arg inCred acquireType check acquired a := by
    rintro ⟨g, a, hg, hgi⟩ rfl
    exact ⟨g, a, hg, hgi⟩
  unfold chooseOutput at he
  rcases acquired with e | cred | cred
  · exact absurd (he.of_none rfl) (her e rfl)
  · cases inCred with
    | none =>
      have hfa : GSS_S_NO_CRED = 0 := by
        cases hf : arg.addCredToInputHandle <;> simp only [hf] at he <;>
          exact he.of_none rfl
      cases hfa
    | some input =>
      have hw : wire = arg.inputCredHandle := by
        cases hf : arg.addCredToInputHandle <;> simp only [hf] at he <;>
          exact he.of_input rfl
      exact hgi ((givenBack_input hb hi).mpr (hold rfl input rfl)) hw
  · cases hf : arg.addCredToInputHandle with
    | true =>
      simp only [hf, Option.isSome_some, Bool.or_true, if_true] at he
      exact hgi ((givenBack_new hb hi hf).mpr (hn hf cred rfl))
        (he.of_input rfl)
    | false =>
      simp only [hf] at he
      obtain ⟨g, rfl, hg⟩ := he.of_fresh rfl
      refine ⟨g, cred.handle, rfl, hex cred g hg, .inl ⟨cred, rfl, ?_⟩⟩
      simp [handedOut, hf]

end

section

variable (lib : GpLib N X A H) (extend : A → A → A) (port : Port) (conv : Conversions)
  (call : GpCall H) (arg : ArgAcquireCred) (inCred : Option (Cred A)) (acquireType : AcquireType)

abbrev gpAcquired : Except GssError (Option (Cred A)) :=
  (gpAddKrb5Creds lib.toCredLib port call.service call.uid acquireType inCred arg.desiredName
    (gssxToCredUsage arg.credUsage)).run.value

/-- The request gets as far as `gp_add_krb5_creds`, and a status can be sent. -/
structure GpProceeds : Prop where
  input : inputCred (gpImportGssxCred lib conv call.creds) arg = .ok (inCred, acquireType)
  desiredMechs : conv .desiredMechs = .ok ()
  mechs : useMechs call.service arg.desiredMechs = [KRB5_MECH_OID]
  status : conv .status = .ok ()

abbrev gpValid (cred : Cred A) : Prop :=
  gpCheckCred lib.toCredLib call.service arg.desiredName (gssxToCredUsage arg.credUsage) cred =
    .ok ()

/-- A completed request of the C daemon hands out the credential to deliver. -/
def GpDelivers : Prop :=
  ∀ res, Daemon.gpAcquireCred lib port conv call arg = some res → res.status.majorStatus = 0 →
    ∃ inCred acquireType wire a,
      inputCred (gpImportGssxCred lib conv call.creds) arg = .ok (inCred, acquireType) ∧
      res.outputCredHandle = some wire ∧
      gpImportGssxCred lib noFailure call.creds wire = .ok (some a) ∧
      Delivered extend arg inCred acquireType (gpValid lib call arg)
        (gpAcquired lib port call arg inCred acquireType) a

/-- What that takes: a credential acquired with the flag set adds nothing to the input one, and
    without the flag `gp_add_krb5_creds` gives no credential only if the input one is valid. -/
def GpKeeps : Prop :=
  ∀ inCred acquireType, GpProceeds lib conv call arg inCred acquireType →
    (arg.addCredToInputHandle = true → ∀ cred,
      gpAcquired lib port call arg inCred acquireType = .ok (some cred) →
        AddsNothing extend inCred cred) ∧
    (arg.addCredToInputHandle = false →
      gpAcquired lib port call arg inCred acquireType = .ok none → ∀ input, inCred = some input →
        acquireType = .normal ∧ gpValid lib call arg input)

variable {lib port conv call arg inCred acquireType}

theorem addCreds_value (inCred : Option (Cred A)) (acquireType : AcquireType) :
    (addCreds lib.toCredLib port call.service call.uid arg acquireType [KRB5_MECH_OID]
      ⟨inCred, none⟩).run.value = (gpAcquired lib port call arg inCred acquireType).map fun cred =>
          if arg.addCredToInputHandle then ⟨cred, none⟩ else ⟨inCred, cred⟩ := by
  unfold addCreds gpAcquired
  rw [if_pos rfl]
  cases hv : (gpAddKrb5Creds lib.toCredLib port call.service call.uid acquireType inCred
      arg.desiredName (gssxToCredUsage arg.credUsage)).run.value with
  | error e => rw [Fallible.run_bind_error hv]; rfl
  | ok cred => rw [Fallible.run_bind_ok hv]; rfl

theorem GpProceeds.acquireResult (h : GpProceeds lib conv call arg inCred acquireType) :
    acquireResult lib port conv call arg =
      gpChooseOutput arg ((gpAcquired lib port call arg inCred acquireType).map fun cred =>
        if arg.addCredToInputHandle then ⟨cred, none⟩ else ⟨inCred, cred⟩) := by
  unfold Daemon.acquireResult Server.gpAcquireCred
  simp only [h.input, h.desiredMechs, h.mechs, Calls.value_bind, addCreds_value]
  rfl

theorem gpChooseOutput_eq (acquired : Except GssError (Option (Cred A))) :
    gpChooseOutput arg (acquired.map fun cred =>
        if arg.addCredToInputHandle then ⟨cred, none⟩ else ⟨inCred, cred⟩) =
      match arg.addCredToInputHandle, acquired with
      | true, .ok none => .failed ⟨GSS_S_NO_CRED, 0⟩ (some KRB5_MECH_OID)
      | _, _ => chooseOutput arg inCred acquired := by
  rcases acquired with e | cred | cred <;> cases hf : arg.addCredToInputHandle <;>
    cases inCred <;> simp [Except.map, gpChooseOutput, chooseOutput, hf]

theorem acquireResult_cases (port : Port) (call : GpCall H) (arg : ArgAcquireCred)
    (hlib : SoundErrors lib.toLibrary) (hc : ∀ c, Errs (conv c)) (hs : conv .status = .ok ()) :
    ((acquireResult lib port conv call arg).output = none ∧
      (acquireResult lib port conv call arg).major ≠ 0) ∨
    ∃ inCred acquireType, GpProceeds lib conv call arg inCred acquireType := by
  unfold acquireResult Server.gpAcquireCred
  cases hi : inputCred (gpImportGssxCred lib conv call.creds) arg with
  | error e =>
    simp only [hi]
    exact .inl ⟨rfl, inputCred_errs (gpImportGssxCred_errs hlib hc call.creds) arg e hi⟩
  | ok input =>
    obtain ⟨inCred, acquireType⟩ := input
    cases hm : conv .desiredMechs with
    | error e => simp only [hi]; exact .inl ⟨rfl, hc _ e hm⟩
    | ok u =>
      by_cases ha : arg.desiredMechs = [] ∨
          arg.desiredMechs.any (fun m => allowedMech call.service m.data) = true
      · exact .inr ⟨inCred, acquireType, hi, hm, (useMechs_eq _).trans (if_pos ha), hs⟩
      · simp only [hi, useMechs_eq, if_neg ha]
        exact .inl ⟨rfl, (by decide : GSS_S_NO_CRED ≠ 0)⟩

theorem gpImportGssxCred_noFailure {handle : Option H} {g : GssxCred} {cred : Option A}
    (h : gpImportGssxCred lib conv handle g = .ok cred) :
    gpImportGssxCred lib noFailure handle g = .ok cred := by
  cases handle with
  | none => cases h
  | some key => obtain ⟨-, -, h⟩ := bind_eq_ok.mp h; exact h

theorem ending_complete {s : Ending} {status : GssxStatus}
    (hs : endingStatus lib conv s = some status) (h : status.majorStatus = 0) : s.major = 0 :=
  (endingStatus_major hs).symm.trans (congrArg UInt64.toUInt32 h)

theorem status_ok {s : Ending} {status : GssxStatus} (h : endingStatus lib conv s = some status) :
    conv .status = .ok () := by
  obtain ⟨_, hs, -⟩ := Option.bind_eq_some_iff.mp h
  cases hc : conv .status with
  | error e => rw [hc] at hs; cases hs
  | ok => rfl

theorem fillAcquire_fresh {cred : Cred A} {out : ResAcquireCred}
    (h : fillAcquire lib conv call (.fresh cred) default = (.ok (), out)) :
    ∃ wire, out.outputCredHandle = some wire ∧
      gpExportGssxCred lib conv call.creds cred.handle default = (.ok (), wire) := by
  obtain ⟨_, _, ha, hp⟩ := Filling.bind_eq_ok h
  have he : (gpExportGssxCred lib conv call.creds cred.handle default).1 = .ok () :=
    congrArg Prod.fst hp
  have ho := congrArg Prod.snd hp
  subst ho
  exact ⟨_, rfl, pair_of_fst he⟩

theorem acquire_complete (hlib : SoundErrors lib.toLibrary) (hc : ∀ c, Errs (conv c))
    {res : ResAcquireCred} (hr : Daemon.gpAcquireCred lib port conv call arg = some res)
    (hm : res.status.majorStatus = 0) :
    conv .status = .ok () ∧
    Ends (fun cred g => gpExportGssxCred lib conv call.creds cred.handle default = (.ok (), g))
      (acquireResult lib port conv call arg) res.outputCredHandle := by
  unfold Daemon.gpAcquireCred acquireCall at hr
  cases ho : (acquireResult lib port conv call arg).output with
  | none =>
    simp only [ho] at hr
    obtain ⟨_, hs, rfl⟩ := Option.map_eq_some_iff.mp hr
    exact ⟨status_ok hs, .inl ⟨ho, ending_complete hs hm⟩⟩
  | some output =>
    simp only [ho] at hr
    rcases hf : fillAcquire lib conv call output default with ⟨x, out⟩
    simp only [finish, hf] at hr
    cases x with
    | ok u =>
      obtain ⟨_, hs, rfl⟩ := Option.map_eq_some_iff.mp hr
      refine ⟨status_ok hs, .inr ?_⟩
      cases output with
      | fresh cred =>
        obtain ⟨wire, hw, he⟩ := fillAcquire_fresh hf; exact .inl ⟨cred, wire, ho, hw, he⟩
      | input handle => cases hf; exact .inr ⟨handle, ho, rfl⟩
    | error e =>
      obtain ⟨_, hs, rfl⟩ := Option.map_eq_some_iff.mp hr
      refine absurd (ending_complete hs hm) ?_
      have hfa : (fillAcquire lib conv call output).Fails (·.major ≠ 0) := by
        cases output with
        | input handle => exact .write _
        | fresh cred =>
          exact .bind (.ofExcept (hc _)) fun _ =>
            .part (gpExportGssxCred_fails hlib hc call.creds cred.handle)
      exact hfa default e (by rw [hf])

theorem gpAcquireCred_input {mech : Option Bytes} {handle : Option GssxCred}
    (h : acquireResult lib port conv call arg = ⟨0, 0, mech, some (.input handle)⟩)
    (hs : conv .status = .ok ()) :
    ∃ res, Daemon.gpAcquireCred lib port conv call arg = some res ∧ res.status.majorStatus = 0 ∧
      res.outputCredHandle = handle := by
  unfold Daemon.gpAcquireCred acquireCall endingStatus
  simp only [h, hs]
  exact ⟨_, rfl, rfl, rfl⟩

theorem gp_delivers_iff (hlib : SoundErrors lib.toLibrary)
    (hfa : GpFaithful lib) (hc : ∀ c, Errs (conv c)) :
    GpDelivers lib extend port conv call arg ↔ GpKeeps lib extend port conv call arg := by
  have hb : ∀ wire cred, gpImportGssxCred lib conv call.creds wire = .ok cred →
    gpImportGssxCred lib noFailure call.creds wire = .ok cred :=
    fun _ _ => gpImportGssxCred_noFailure
  constructor
  · intro hde inCred acquireType hp
    have hg : ∀ mech, acquireResult lib port conv call arg =
        ⟨0, 0, mech, some (.input arg.inputCredHandle)⟩ →
        GivenBack (gpImportGssxCred lib noFailure call.creds) extend arg inCred acquireType
          (gpValid lib call arg) (gpAcquired lib port call arg inCred acquireType) := by
      intro mech hre
      obtain ⟨res, hr, hm, hh⟩ := gpAcquireCred_input hre hp.status
      obtain ⟨inCred', acquireType', wire, a, hi, hw, hd⟩ := hde res hr hm
      cases hp.input.symm.trans hi
      exact ⟨wire, a, hh.symm.trans hw, hd⟩
    rw [hp.acquireResult] at hg
    constructor
    · intro hf cred ha
      rw [ha] at hg
      refine (givenBack_new hb hp.input hf).mp (hg (some KRB5_MECH_OID) ?_)
      simp only [Except.map, if_pos hf]; rfl
    · rintro hf ha input rfl
      rw [ha] at hg
      refine (givenBack_input hb hp.input).mp (hg (some KRB5_MECH_OID) ?_)
      simp only [Except.map, hf]; rfl
  · intro hk res hr hm
    obtain ⟨hs, he⟩ := acquire_complete hlib hc hr hm
    obtain ⟨hn, hne⟩ | ⟨inCred, acquireType, hp⟩ := acquireResult_cases port call arg hlib hc hs
    · exact absurd (he.of_none hn) hne
    obtain ⟨hnw, hold⟩ := hk inCred acquireType hp
    have her : Errs (gpAcquired lib port call arg inCred acquireType) :=
      gpAddKrb5Creds_fails hlib.creds
    rw [hp.acquireResult, gpChooseOutput_eq] at he
    split at he
    · have hfi : GSS_S_NO_CRED = 0 := he.of_none rfl
      cases hfi
    rename_i ho
    have hv : gpAcquired lib port call arg inCred acquireType = .ok none → ∀ input,
        inCred = some input → acquireType = .normal ∧ gpValid lib call arg input := by
      intro ha
      cases hf : arg.addCredToInputHandle with
      | true => exact absurd ha (ho hf)
      | false => exact hold hf ha
    obtain ⟨g, a, hd⟩ := chooseOutput_delivers he her
      (fun _ _ => gpExport_imports hfa) hb hp.input hnw hv
    exact ⟨inCred, acquireType, g, a, hp.input, hd⟩

end

section

variable (lib : Library N X A H) (extend : A → A → A) (ctx : CallContext H) (svc : Service)
  (uid : UInt32) (arg : ArgAcquireCred) (inCred : Option (Cred A)) (acquireType : AcquireType)

abbrev rustAcquired : Except GssError (Option (Cred A)) :=
  (addKrb5Creds lib.toCredLib svc uid acquireType inCred arg.desiredName
    (gssxToCredUsage arg.credUsage)).run.value

/-- The request gets as far as `add_krb5_creds`. -/
structure RustProceeds (arg : ArgAcquireCred) (svc : Service) (handle : H)
    (inCred : Option (Cred A)) (acquireType : AcquireType) : Prop where
  service : ctx.service = some svc
  creds : ctx.creds = some handle
  input : inputCred (importGssxCred lib handle) arg = .ok (inCred, acquireType)
  mechs : arg.desiredMechs = [] ∨ arg.desiredMechs.any (fun m => allowedMech svc m.data) = true

abbrev rustValid (cred : Cred A) : Prop :=
  checkCred lib.toCredLib svc arg.desiredName (gssxToCredUsage arg.credUsage) cred = .ok ()

/-- The same of the Rust daemon. -/
def RustDelivers : Prop :=
  (acquireCred lib ctx arg).status.majorStatus = 0 →
    ∃ svc handle inCred acquireType wire a, ctx.service = some svc ∧ ctx.creds = some handle ∧
      inputCred (importGssxCred lib handle) arg = .ok (inCred, acquireType) ∧
      (acquireCred lib ctx arg).outputCredHandle = some wire ∧
      importGssxCred lib handle wire = .ok (some a) ∧
      Delivered extend arg inCred acquireType (rustValid lib svc arg)
        (rustAcquired lib svc ctx.uid arg inCred acquireType) a

/-- The Rust daemon fails where no credential is acquired, so only the flag matters. -/
def RustKeeps : Prop :=
  ∀ svc handle inCred acquireType, RustProceeds lib ctx arg svc handle inCred acquireType →
    arg.addCredToInputHandle = true → ∀ cred,
      rustAcquired lib svc ctx.uid arg inCred acquireType = .ok (some cred) →
        AddsNothing extend inCred cred

variable {lib ctx svc arg inCred acquireType} {handle : H}

section

variable (hlib : SoundErrors lib)
include hlib

theorem optionalName_errs (name : Option N) :
    Errs (optionalName lib name) := by
  cases name with
  | none => exact .ok default
  | some name => exact nameToGssx_errs hlib name

theorem credElements_errs (cred : A) (mechs : List Bytes) :
    Errs (credElements lib cred mechs) := by
  induction mechs with
  | nil => exact .ok []
  | cons mech mechs ih =>
    unfold credElements
    split
    · exact ih
    · exact .bind (optionalName_errs hlib _) fun _ => .bind ih fun _ => .ok _

theorem exportGssxCred_errs (handle : H) (cred : A) :
    Errs (exportGssxCred lib handle cred) := by
  refine .bind (hlib.creds.inquireCred _) fun info => .bind (optionalName_errs hlib _) fun _ =>
    .bind (credElements_errs hlib cred _) fun _ => .bind (hlib.exportToken cred) fun token => ?_
  split
  · exact .ok _
  · exact .error (by decide : GSS_S_FAILURE ≠ 0)

theorem importGssxCred_errs (handle : H) (g : GssxCred) :
    Errs (importGssxCred lib handle g) := by
  unfold importGssxCred
  simp only
  split
  · exact .ok none
  · split
    · exact (hlib.importToken _).map _
    · exact .ok none

end

theorem RustProceeds.result (h : RustProceeds lib ctx arg svc handle inCred acquireType) :
    (acquireForService lib.toCredLib (importGssxCred lib handle) svc ctx.uid arg).value =
      chooseOutput arg inCred (rustAcquired lib svc ctx.uid arg inCred acquireType) := by
  have hm : ¬ (arg.desiredMechs ≠ [] ∧
      ¬ (arg.desiredMechs.any fun m => allowedMech svc m.data) = true) := by
    rintro ⟨hne, hn⟩
    exact h.mechs.elim hne hn
  unfold acquireForService
  simp only [h.input, if_neg hm]
  rfl

theorem acquireForService_cases (arg : ArgAcquireCred) (hlib : SoundErrors lib)
    (hs : ctx.service = some svc) (hc : ctx.creds = some handle) :
    (let r := (acquireForService lib.toCredLib (importGssxCred lib handle) svc ctx.uid arg).value;
      r.output = none ∧ r.major ≠ 0) ∨
    ∃ inCred acquireType, RustProceeds lib ctx arg svc handle inCred acquireType := by
  unfold acquireForService
  cases hi : inputCred (importGssxCred lib handle) arg with
  | error e => exact .inl ⟨rfl, inputCred_errs (importGssxCred_errs hlib handle) arg e hi⟩
  | ok input =>
    obtain ⟨inCred, acquireType⟩ := input
    by_cases hm : arg.desiredMechs = [] ∨
        arg.desiredMechs.any (fun m => allowedMech svc m.data) = true
    · exact .inr ⟨inCred, acquireType, hs, hc, hi, hm⟩
    · simp only [if_pos (not_or.mp hm)]
      exact .inl ⟨rfl, (by decide : GSS_S_NO_CRED ≠ 0)⟩

theorem acquireCred_major :
    (acquireCred lib ctx arg).status.majorStatus = (acquireCredInner lib ctx arg).1.major.toUInt64 :=
  rfl

theorem acquireCredInner_complete (hlib : SoundErrors lib)
    (h : (acquireCredInner lib ctx arg).1.major = 0) :
    ∃ svc handle, ctx.service = some svc ∧ ctx.creds = some handle ∧
      Ends (fun cred g => exportGssxCred lib handle cred.handle = .ok g)
        (acquireForService lib.toCredLib (importGssxCred lib handle) svc ctx.uid arg).value
        (acquireCredInner lib ctx arg).2.1 := by
  unfold acquireCredInner at h ⊢
  split at h
  · rename_i svc handle hs hc
    refine ⟨svc, handle, hs, hc, ?_⟩
    generalize (acquireForService lib.toCredLib (importGssxCred lib handle) svc ctx.uid arg).value =
      r at h ⊢
    obtain ⟨major, minor, mech, _ | cred | wire⟩ := r
    · exact .inl ⟨rfl, h⟩
    · cases he : exportGssxCred lib handle cred.handle with
      | ok wire => simp only [he]; exact .inr (.inl ⟨cred, wire, rfl, rfl, he⟩)
      | error e =>
        simp only [he] at h
        exact absurd h (exportGssxCred_errs hlib handle cred.handle e he)
    · exact .inr (.inr ⟨wire, rfl, rfl⟩)
  · exact absurd h (by decide : GSS_S_FAILURE ≠ 0)

theorem rust_delivers_iff (hlib : SoundErrors lib) (hf : RustFaithful lib) :
    RustDelivers lib extend ctx arg ↔ RustKeeps lib extend ctx arg := by
  constructor
  · intro hde svc handle inCred acquireType hp hfl cred ha
    have hi : acquireCredInner lib ctx arg = (⟨0, 0⟩, arg.inputCredHandle, some KRB5_MECH_OID) := by
      unfold acquireCredInner
      simp [hp.service, hp.creds, hp.result, ha, chooseOutput, if_pos hfl]
    have hm : (acquireCred lib ctx arg).status.majorStatus = 0 := by rw [acquireCred_major, hi]; rfl
    have hh : (acquireCred lib ctx arg).outputCredHandle = arg.inputCredHandle :=
      congrArg (·.2.1) hi
    obtain ⟨svc', handle', inCred', acquireType', wire, a, hs, hc, hin, hw, hd⟩ := hde hm
    cases hp.service.symm.trans hs
    cases hp.creds.symm.trans hc
    cases hp.input.symm.trans hin
    rw [ha] at hd
    exact (givenBack_new (fun _ _ h => h) hp.input hfl).mp
      ⟨wire, a, hh.symm.trans hw, hd⟩
  · intro hk hm
    have hco : (acquireCredInner lib ctx arg).1.major = 0 := by
      have h := congrArg UInt64.toUInt32 hm
      rwa [acquireCred_major, UInt32.toUInt32_toUInt64] at h
    obtain ⟨svc, handle, hs, hc, he⟩ := acquireCredInner_complete hlib hco
    obtain ⟨hno, hne⟩ | ⟨inCred, acquireType, hp⟩ := acquireForService_cases arg hlib hs hc
    · exact absurd (he.of_none hno) hne
    rw [hp.result] at he
    have hv : rustAcquired lib svc ctx.uid arg inCred acquireType = .ok none → ∀ input,
        inCred = some input → acquireType = .normal ∧ rustValid lib svc arg input := by
      rintro ha input rfl
      obtain ⟨hn, cred, hcr, hch⟩ := addKrb5Creds_none ha
      cases hcr
      exact ⟨hn, hch⟩
    obtain ⟨g, a, hd⟩ := chooseOutput_delivers he (addKrb5Creds_fails hlib.creds)
      (fun _ _ => rustExport_imports hf) (fun _ _ h => h) hp.input
      (hk svc handle inCred acquireType hp) hv
    exact ⟨svc, handle, inCred, acquireType, g, a, hs, hc, hp.input, hd⟩

end

end

/-! ## A new credential for the web server -/

def grantingLib : GpLib Unit Unit Unit Unit :=
  { failingLib with
    importName := fun _ _ => .ok ()
    compareName := fun _ _ => .ok true
    inquireCred := fun _ => .ok ⟨some (), 600, GSS_C_BOTH, [KRB5_MECH_OID]⟩
    acquireCredFrom := fun _ _ _ => .ok ()
    acquireCredImpersonateName := fun _ _ _ => .ok ()
    acceptFromSelf := fun _ _ => ⟨0, 0, some ()⟩
    displayName := fun _ => .ok ([1], [])
    exportName := fun _ => .ok none
    exportNameComposite := fun _ => .ok none
    inquireCredByMech := fun _ _ => .ok ⟨some (), 600, 600, GSS_C_BOTH⟩
    exportToken := fun _ => .ok [5]
    importToken := fun _ => .ok ()
    sealBytes := fun _ token => some (0 :: token)
    unsealBytes := fun _ reference => some reference.tail
    init := fun _ _ _ _ _ _ _ _ => ⟨GSS_S_FAILURE, 0, none, []⟩
    encryptBuffer := fun _ token => .ok (0 :: token)
    decryptBuffer := fun _ reference => .ok reference.tail
    setAllowableEnctypes := fun _ _ => .ok ()
    setNoCiFlags := fun _ => .ok ()
    impersonatorName := fun _ => .ok none }

theorem grantingLib_sound : SoundErrors grantingLib.toLibrary where
  creds := ⟨fun _ _ => .ok _, fun _ _ => .ok _, fun _ => .ok _, fun _ _ _ => .ok _,
    fun _ _ _ => .ok _⟩
  displayName _ := .ok _
  exportName _ := .ok _
  exportNameComposite _ := .ok _
  exportToken _ := .ok _
  importToken _ := .ok _

theorem grantingLib_gpFaithful : GpFaithful grantingLib where
  token _ _ _ := rfl
  buffer := by rintro key t r ⟨⟩; rfl

theorem grantingLib_rustFaithful : RustFaithful grantingLib.toLibrary where
  token _ _ _ := rfl
  sealed := by rintro key t r ⟨⟩; exact ⟨by simp, rfl⟩

def webContext : CallContext Unit :=
  { uid := 48, gid := 48, pid := none, socket := "", program := none,
    service := some webCall.service, creds := some () }

def webRequest (addToInput : Bool) : ArgAcquireCred :=
  { (default : ArgAcquireCred) with addCredToInputHandle := addToInput }

end GssProxy.Compat
