import GssProxy.Daemon.Handlers

/-!
# In which form a context goes back

A request may ask for the kernel's form of the context and of the peer's credentials.  The C daemon
refuses values that it does not know; the Rust daemon has neither form.

* `export_forms`: which forms the two choose, and that their handlers follow.
-/

namespace GssProxy.Compat

open Codec Daemon Gss Proto Server

/-! ## Finding options -/

def strncmpZero : Nat → Bytes → Bytes → Bool
  | n + 1, a :: as, b :: bs => a = b && (a = 0 || strncmpZero n as bs)
  | _, _, _ => true

def gpoptStringMatch (buf val : Bytes) : Bool :=
  val.length = buf.length && strncmpZero buf.length val buf

def gpOptionsFind (name : Bytes) : List GssxOption → Option GssxOption
  | [] => none
  | opt :: rest => if gpoptStringMatch opt.option.data name then some opt else gpOptionsFind name rest

section

variable (options : List GssxOption)

def gpGetExportedContextType : ExpCtxType :=
  match gpOptionsFind EXP_CTX_TYPE_OPTION options with
  | some val => if gpoptStringMatch val.value.data LINUX_LUCID_V1 then .expLucid else .expPartial
  | none => .expDefault

def gpGetExportCredsType : Option Bool :=
  match gpOptionsFind EXP_CREDS_TYPE_OPTION options with
  | some val => if gpoptStringMatch val.value.data LINUX_CREDS_V1 then some true else none
  | none => some false

def ZeroEnded (val : Bytes) : Prop := ∃ text, val = text ++ [0] ∧ (0 : UInt8) ∉ text

theorem strncmpZero_iff {text : Bytes} (hz : (0 : UInt8) ∉ text) :
    ∀ {buf : Bytes}, (text ++ [0]).length = buf.length →
      (strncmpZero buf.length (text ++ [0]) buf = true ↔ buf = text ++ [0]) := by
  induction text with
  | nil =>
    intro buf hl
    match buf, hl with
    | [b], _ => simp [strncmpZero, eq_comm]
  | cons a text ih =>
    intro buf hl
    rw [List.mem_cons, not_or] at hz
    cases buf with
    | nil => cases hl
    | cons b buf =>
      have hr := ih hz.2 (Nat.succ.inj hl)
      simp only [List.length_cons, List.cons_append, strncmpZero, Bool.and_eq_true, Bool.or_eq_true,
        decide_eq_true_eq, hr, List.cons.injEq]
      constructor
      · rintro ⟨rfl, ha | hb⟩
        · exact absurd ha.symm hz.1
        · exact ⟨rfl, hb⟩
      · rintro ⟨rfl, hb⟩; exact ⟨rfl, .inr hb⟩

theorem gpoptStringMatch_iff {val : Bytes} (hv : ZeroEnded val) (buf : Bytes) :
    gpoptStringMatch buf val = true ↔ buf = val := by
  obtain ⟨text, rfl, hz⟩ := hv
  unfold gpoptStringMatch
  rw [Bool.and_eq_true, decide_eq_true_eq]
  constructor
  · rintro ⟨hl, hm⟩; exact (strncmpZero_iff hz hl).mp hm
  · rintro rfl; exact ⟨rfl, (strncmpZero_iff hz rfl).mpr rfl⟩

theorem gpOptionsFind_eq {name : Bytes} (hn : ZeroEnded name) :
    (gpOptionsFind name options).map (fun opt => opt.value.data) = findOption options name := by
  unfold findOption
  induction options with
  | nil => rfl
  | cons opt rest ih =>
    rw [gpOptionsFind, List.find?_cons]
    by_cases hm : opt.option.data = name
    · simp [(gpoptStringMatch_iff hn _).mpr hm, beq_iff_eq.mpr hm]
    · rw [if_neg fun h => hm ((gpoptStringMatch_iff hn _).mp h), beq_false_of_ne hm]; exact ih

theorem gpGetExportedContextType_eq :
    gpGetExportedContextType options = exportedContextType options := by
  have hn : ZeroEnded EXP_CTX_TYPE_OPTION := ⟨_, rfl, by decide⟩
  have hv : ZeroEnded LINUX_LUCID_V1 := ⟨_, rfl, by decide⟩
  unfold gpGetExportedContextType exportedContextType
  rw [← gpOptionsFind_eq _ hn]
  cases gpOptionsFind EXP_CTX_TYPE_OPTION options with
  | none => rfl
  | some val => simp [gpoptStringMatch_iff hv]

theorem gpGetExportCredsType_eq :
    gpGetExportCredsType options = exportCredsType options := by
  have hn : ZeroEnded EXP_CREDS_TYPE_OPTION := ⟨_, rfl, by decide⟩
  have hv : ZeroEnded LINUX_CREDS_V1 := ⟨_, rfl, by decide⟩
  unfold gpGetExportCredsType exportCredsType
  rw [← gpOptionsFind_eq _ hn]
  cases gpOptionsFind EXP_CREDS_TYPE_OPTION options with
  | none => rfl
  | some val => simp [gpoptStringMatch_iff hv]

end

/-! ## Choices -/

inductive ContextProc where
  | init
  | accept
  deriving DecidableEq, Repr

/-- The form of the context, and whether that of the credentials is the kernel's. -/
structure Forms where
  context : ExpCtxType
  creds : Bool
  deriving DecidableEq, Repr

/-- The forms that the C daemon chooses, and its refusals. -/
def gpChoice (proc : ContextProc) (options : List GssxOption) (more : Bool) :
    Except GssError Forms :=
  let type := gpGetExportedContextType options
  if type = .expPartial then .error ⟨GSS_S_FAILURE, EINVAL⟩
  else
    match proc with
    | .init => .ok ⟨if more then .expPartial else type, false⟩
    | .accept =>
      match gpGetExportCredsType options with
      | none => .error ⟨GSS_S_FAILURE, EINVAL⟩
      | some creds => .ok ⟨if more then .expPartial else type, creds⟩

/-- The forms that the Rust daemon chooses, and its refusals. -/
def rustChoice (options : List GssxOption) (more : Bool) : Except GssError Forms :=
  match if more then .expPartial else exportedContextType options with
  | .expLucid => .error ⟨GSS_S_FAILURE, ENOSYS⟩
  | type => .ok ⟨type, false⟩

section

variable {options : List GssxOption} {more : Bool}

theorem gpChoice_init (hk : exportedContextType options ≠ .expPartial) :
    gpChoice .init options more =
      .ok ⟨if more then .expPartial else exportedContextType options, false⟩ := by
  unfold gpChoice
  rw [gpGetExportedContextType_eq]
  exact if_neg hk

theorem gpChoice_accept (hk : exportedContextType options ≠ .expPartial) :
    gpChoice .accept options more =
      match exportCredsType options with
      | none => .error ⟨GSS_S_FAILURE, EINVAL⟩
      | some creds => .ok ⟨if more then .expPartial else exportedContextType options, creds⟩ := by
  unfold gpChoice
  rw [gpGetExportedContextType_eq, gpGetExportCredsType_eq]
  exact if_neg hk

theorem gpChoice_unknown (proc : ContextProc) (hu : exportedContextType options = .expPartial) :
    gpChoice proc options more = .error ⟨GSS_S_FAILURE, EINVAL⟩ := by
  unfold gpChoice
  rw [gpGetExportedContextType_eq]
  exact if_pos hu

end

section

variable {N X A H : Type} {lib : GpLib N X A H} {port : Port} {conv : Conversions} {call : GpCall H}

theorem gpInit_choice {arg : ArgInitSecContext} {p : Initiated X A}
    (h : initCall lib port conv call arg = .ok p) :
    gpChoice .init arg.callCtx.options (p.step.major = GSS_S_CONTINUE_NEEDED) =
      .ok ⟨p.type, false⟩ := by
  obtain ⟨⟨type, ctx, given⟩, hh, h⟩ := bind_eq_ok.mp h
  obtain ⟨target, -, h⟩ := bind_eq_ok.mp h
  obtain ⟨-, -, h⟩ := bind_eq_ok.mp h
  obtain ⟨cred, -, h⟩ := bind_eq_ok.mp h
  obtain ⟨-, -, h⟩ := bind_eq_ok.mp h
  have hh' := withMech_ok hh
  unfold initHandles at hh'
  by_cases hk : exportedContextType arg.callCtx.options = .expPartial
  · simp only [if_pos hk] at hh'; cases hh'
  simp only [if_neg hk] at hh'
  obtain ⟨_, _, hc⟩ := bind_eq_ok.mp hh'
  obtain ⟨_, _, hg⟩ := bind_eq_ok.mp hc
  cases hg
  unfold initKept at h
  split at h
  · cases h
    rw [gpChoice_init hk]; simp
  · cases h

theorem gpInit_refused {arg : ArgInitSecContext} {more : Bool} {e : GssError}
    (h : gpChoice .init arg.callCtx.options more = .error e) :
    Daemon.gpInitSecContext lib port conv call arg =
      (endingStatus lib conv ⟨GSS_S_FAILURE, EINVAL, none⟩).map fun status =>
        { (default : ResInitSecContext) with status } := by
  by_cases hk : exportedContextType arg.callCtx.options = .expPartial
  · have hc : initCall lib port conv call arg = .error (.status ⟨GSS_S_FAILURE, EINVAL, none⟩) := by
      unfold initCall initHandles
      simp only [if_pos hk]; rfl
    unfold Daemon.gpInitSecContext
    rw [hc]; rfl
  · rw [gpChoice_init hk] at h; cases h

theorem gpAccept_choice {arg : ArgAcceptSecContext} {p : Accepted X A}
    (h : acceptCall lib port conv call arg = .ok p) :
    gpChoice .accept arg.callCtx.options (p.step.major = GSS_S_CONTINUE_NEEDED) =
      .ok ⟨p.type, p.linuxCreds⟩ := by
  obtain ⟨hk, hc, -, -, -, ht⟩ := acceptCall_ok lib port call h
  rw [gpChoice_accept hk, hc, ht]
  simp

theorem gpAccept_refused {arg : ArgAcceptSecContext} {more : Bool} {e : GssError}
    (h : gpChoice .accept arg.callCtx.options more = .error e) :
    Daemon.gpAcceptSecContext lib port conv call arg =
      (endingStatus lib conv ⟨GSS_S_FAILURE, EINVAL, none⟩).map fun status =>
        { (default : ResAcceptSecContext) with status } := by
  have hf : acceptForms arg = .error ⟨GSS_S_FAILURE, EINVAL⟩ := by
    unfold acceptForms
    by_cases hk : exportedContextType arg.callCtx.options = .expPartial
    · simp only [if_pos hk]
      split <;> rfl
    rw [gpChoice_accept hk] at h
    cases hc : exportCredsType arg.callCtx.options with
    | none => rfl
    | some creds => rw [hc] at h; cases h
  unfold Daemon.gpAcceptSecContext acceptCall
  rw [hf]
  rfl

end

/-! ## The handlers of the Rust daemon -/

section

variable {N X A H : Type} {lib : Library N X A H} {ctx : CallContext H}

theorem rustChoice_of_export {clib : ContextLib X A} {options : List GssxOption} {more : Bool}
    {mech : Option Bytes} {x : Option X} {wire : GssxCtx}
    (h : exportGssxCtx clib (if more then .expPartial else exportedContextType options) mech x =
      .ok wire) :
    rustChoice options more = .ok ⟨if more then .expPartial else exportedContextType options, false⟩ := by
  unfold rustChoice
  generalize (if more then ExpCtxType.expPartial else exportedContextType options) = type at h ⊢
  cases type with
  | expDefault => rfl
  | expPartial => rfl
  | expLucid =>
    obtain ⟨out, -, h⟩ := bind_eq_ok.mp h
    obtain ⟨token, ht, -⟩ := bind_eq_ok.mp h; cases ht

def OnSuccess {ε α : Type} (Q : α → Prop) (x : Except ε α) : Prop := ∀ a, x = .ok a → Q a

theorem OnSuccess.bind {ε α β : Type} {Q : β → Prop} {x : Except ε α} {f : α → Except ε β}
    (h : ∀ a, OnSuccess Q (f a)) : OnSuccess Q (x >>= f) := by
  intro b hb
  obtain ⟨a, -, ha⟩ := bind_eq_ok.mp hb
  exact h a b ha

/-- The context on the wire was exported in the form chosen. -/
def ExportedAs (clib : ContextLib X A) (options : List GssxOption) (more : Bool) (wire : GssxCtx) :
    Prop :=
  ∃ type mech x, rustChoice options more = .ok ⟨type, false⟩ ∧
    exportGssxCtx clib type mech x = .ok wire

theorem rustInit_choice (arg : ArgInitSecContext) :
    OnSuccess (fun r => ExportedAs lib.toContextLib arg.callCtx.options r.1 r.2.1)
      (initInner lib ctx arg) := by
  unfold initInner
  split
  · refine .bind fun existing => ?_
    extract_lets mech withGiven
    let Q (r : Bool × GssxCtx × Option GssxBuffer) : Prop :=
      ExportedAs lib.toContextLib arg.callCtx.options r.1 r.2.1
    have hg : ∀ given, OnSuccess Q (withGiven given) := by
      intro given
      dsimp -zeta only [withGiven]
      extract_lets withTarget
      have ht : ∀ target, OnSuccess Q (withTarget target) := by
        intro target
        dsimp -zeta only [withTarget]
        extract_lets withCred
        have hc : ∀ cred, OnSuccess Q (withCred cred) := by
          intro cred
          refine .bind fun _ => .bind fun r => ?_
          rintro ⟨more, wire, token⟩ h
          obtain ⟨wire', he, hen⟩ := bind_eq_ok.mp h
          cases hen
          exact ⟨_, _, _, rustChoice_of_export he, he⟩
        split
        · exact .bind hc
        · split <;> exact .bind hc
      split <;> exact .bind ht
    split <;> exact .bind hg
  · exact nofun

theorem rustAccept_choice (clib : ContextLib X A) (arg : ArgAcceptSecContext) :
    OnSuccess (fun r => ExportedAs clib arg.callCtx.options r.1 r.2.1) (acceptInner clib ctx arg) := by
  unfold acceptInner
  split
  · exact nofun
  refine .bind fun existing => .bind fun cred => ?_
  extract_lets r more
  split
  · exact nofun
  rintro ⟨more', wire, token, delegated, mech⟩ h
  obtain ⟨wire', he, hd⟩ := bind_eq_ok.mp h
  obtain ⟨delegated', _, hen⟩ := bind_eq_ok.mp hd
  cases hen
  have he' : exportGssxCtx clib (if decide more = true then .expPartial
      else exportedContextType arg.callCtx.options) r.mech r.ctx = .ok wire := by
    simpa only [decide_eq_true_eq] using he
  exact ⟨_, _, _, rustChoice_of_export he', he'⟩

end

/-- The credentials as the option says, if it is known. -/
def credsChoice (type : ExpCtxType) (options : List GssxOption) : Except GssError Forms :=
  match exportCredsType options with
  | some creds => .ok ⟨type, creds⟩
  | none => .error ⟨GSS_S_FAILURE, EINVAL⟩

theorem choices {options : List GssxOption} (more : Bool)
    (hk : exportedContextType options ≠ .expPartial) :
    ∃ type, gpChoice .init options more = .ok ⟨type, false⟩ ∧
      gpChoice .accept options more = credsChoice type options ∧
      rustChoice options more =
        if type = .expLucid then .error ⟨GSS_S_FAILURE, ENOSYS⟩ else .ok ⟨type, false⟩ := by
  refine ⟨_, gpChoice_init hk, ?_, ?_⟩
  · rw [gpChoice_accept hk]
    unfold credsChoice
    cases exportCredsType options <;> rfl
  · unfold rustChoice
    cases if more then ExpCtxType.expPartial else exportedContextType options <;> rfl

end GssProxy.Compat
