import GssProxy.Interposer.EntryPoints
import GssProxy.Interposer.WrapToken

/-!
# What an operation leaves of a context

Entry points that need the local part of a context import the remote one, which is given up whatever the
local library says.  `gssi_export_sec_context` takes the variable with the handle for what is behind it.

* `keeps_iff`: when an operation leaves a usable context.
* `export_iff`: only the Rust function exports the context.
-/

namespace GssProxy.Interposer.ContextFrame

open Codec Gss Proto Effect WrapToken

variable {X : Type}

/-- A context handle with a part. -/
structure Established (X : Type) extends CtxHandle X where
  part : remote.isSome = true ∨ localCtx.isSome = true

/-! ## Failed operations -/

/-- What comes of the exported token: it cannot be taken apart, or the local library fails, whatever
    it stores, or it gives a context. -/
inductive Import (X : Type) where
  | refused
  | failed (major : UInt32) (hmajor : major ≠ GSS_S_COMPLETE) (stored : Option X)
  | complete (ctx : X)

def Import.answer : Import X → Option (UInt32 × Option X)
  | .refused => none
  | .failed major _ stored => some (major, stored)
  | .complete ctx => some (GSS_S_COMPLETE, some ctx)

inductive Operation (X : Type) where
  /-- the conversion at the head of the entry points for messages and inquiries -/
  | convert
  /-- `gssi_set_sec_context_option`, with the local library's answer -/
  | setOption (answer : UInt32 × Option X)

def Operation.run (imported : Import X) (ctx : CtxHandle X) :
    Operation X → UInt32 × Option (CtxHandle X)
  | .convert => ((ctx.convert imported.answer).1, some (ctx.convert imported.answer).2)
  | .setOption answer => (gssiSetSecContextOption imported.answer answer (some ctx)).value

def ensureLocalCtx (imported : Import X) (ctx : CtxHandle X) : Except UInt32 (Option X) :=
  match ctx.convert imported.answer with
  | (major, ctx) => if major = GSS_S_COMPLETE then .ok ctx.localCtx else .error major

/-- A failure leaves the context, and a local part that is ensured is there. -/
structure Keeps (op : Operation X) (imported : Import X) (ctx : CtxHandle X) : Prop where
  unchanged : (op.run imported ctx).1 ≠ GSS_S_COMPLETE → (op.run imported ctx).2 = some ctx
  ensured : ∀ known, ensureLocalCtx imported ctx = .ok known → known.isSome = true

/-- No import that is made fails, and an option is set. -/
def Operation.Safe (imported : Import X) (ctx : CtxHandle X) : Operation X → Prop
  | .convert => ctx.localCtx = none → ∀ major hmajor stored, imported ≠ .failed major hmajor stored
  | .setOption answer =>
    answer.1 = GSS_S_COMPLETE ∧ (ctx.localCtx = none → ∃ known, imported = .complete known)

def Import.leaves (ctx : CtxHandle X) : Import X → UInt32 × CtxHandle X
  | .refused => (GSS_S_FAILURE, ctx)
  | .failed major _ stored => (major, ⟨none, stored⟩)
  | .complete known => (GSS_S_COMPLETE, ⟨none, some known⟩)

section

variable {imported : Import X} {ctx : Established X} {known : X}

theorem convert_of_local (h : ctx.localCtx = some known) :
    ctx.toCtxHandle.convert imported.answer = (GSS_S_COMPLETE, ctx.toCtxHandle) := by
  unfold CtxHandle.convert
  rw [h]
  cases ctx.remote <;> rfl

theorem convert_of_remote (h : ctx.localCtx = none) :
    ctx.toCtxHandle.convert imported.answer = imported.leaves ctx.toCtxHandle := by
  obtain ⟨remote, hr⟩ : ∃ remote, ctx.remote = some remote := by
    refine Option.isSome_iff_exists.mp (ctx.part.resolve_right ?_)
    rw [h]
    exact Bool.false_ne_true
  unfold CtxHandle.convert
  rw [h, hr]
  cases imported <;> rfl

theorem convert_complete_iff :
    (ctx.toCtxHandle.convert imported.answer).1 = GSS_S_COMPLETE ↔
      (ctx.localCtx = none → ∃ known, imported = .complete known) := by
  cases hl : ctx.localCtx with
  | some known => simp [convert_of_local hl]
  | none =>
    rw [convert_of_remote hl]
    cases imported with
    | refused => exact iff_of_false (show GSS_S_FAILURE ≠ _ by decide) fun h => nomatch h rfl
    | failed major hm stored => exact iff_of_false hm fun h => nomatch h rfl
    | complete known => exact iff_of_true rfl fun _ => ⟨known, rfl⟩

theorem ensureLocalCtx_isSome {known : Option X}
    (h : ensureLocalCtx imported ctx.toCtxHandle = .ok known) : known.isSome = true := by
  unfold ensureLocalCtx at h
  cases hl : ctx.localCtx with
  | some x =>
    rw [convert_of_local hl] at h
    cases h
    rw [hl]; rfl
  | none =>
    rw [convert_of_remote hl] at h
    cases imported with
    | refused => cases h
    | failed major hm stored => cases (if_neg hm).symm.trans h
    | complete known => cases h; rfl

theorem setOption_run (imported : Import X) (ctx : Established X) (answer : UInt32 × Option X) :
    let r := (Operation.setOption answer).run imported ctx.toCtxHandle
    (r.1 = GSS_S_COMPLETE ↔
        (ctx.toCtxHandle.convert imported.answer).1 = GSS_S_COMPLETE ∧ answer.1 = GSS_S_COMPLETE) ∧
      (r.1 ≠ GSS_S_COMPLETE → r.2 = none) := by
  unfold Operation.run gssiSetSecContextOption
  by_cases hc : (ctx.toCtxHandle.convert imported.answer).1 = GSS_S_COMPLETE
  · by_cases ha : answer.1 = GSS_S_COMPLETE <;> simp [hc, ha]
  · simp [hc]

end

/-- **Failed operations.**  An operation that fails leaves an established context as it was exactly
    if it is `Safe`: no import that is made fails, and a setting of an option is answered well. -/
theorem keeps_iff (op : Operation X) (imported : Import X) (ctx : Established X) :
    Keeps op imported ctx.toCtxHandle ↔ op.Safe imported ctx.toCtxHandle := by
  have he : ∀ known, ensureLocalCtx imported ctx.toCtxHandle = .ok known → known.isSome = true :=
    fun _ => ensureLocalCtx_isSome
  cases op with
  | setOption answer =>
    obtain ⟨hm, hd⟩ := setOption_run imported ctx answer
    rw [convert_complete_iff] at hm
    refine ⟨fun h => ?_, fun h => ⟨fun hf => absurd (hm.mpr h.symm) hf, he⟩⟩
    refine (hm.mp ?_).symm
    by_contra hf
    cases (hd hf).symm.trans (h.unchanged hf)
  | convert =>
    refine ⟨?_, fun h => ⟨fun hf => ?_, he⟩⟩
    · rintro h hl major hm stored rfl
      have hru := h.unchanged
      rw [Operation.run, convert_of_remote hl] at hru
      have hr := congrArg CtxHandle.remote (Option.some.inj (hru hm))
      exact absurd ctx.part (by simp [← hr, hl, Import.leaves])
    · cases hl : ctx.localCtx with
      | some known => exact absurd (congrArg Prod.fst (convert_of_local hl)) hf
      | none =>
        rw [Operation.run, convert_of_remote hl] at hf ⊢
        cases imported with
        | refused => rfl
        | failed major hm stored => exact absurd rfl (h hl major hm stored)
        | complete known => exact absurd rfl hf

/-- A remote context whose import fails is gone, and so is a local one whose option is refused. -/
theorem failed_import_loses_context :
    ((Operation.convert (X := Nat)).run (.failed GSS_S_FAILURE (by decide) none)
        ⟨some default, none⟩) = (GSS_S_FAILURE, some ⟨none, none⟩) ∧
      ((Operation.setOption (GSS_S_UNAVAILABLE, some 7)).run .refused ⟨none, some 7⟩) =
        (GSS_S_UNAVAILABLE, none) :=
  ⟨rfl, rfl⟩

/-! ## Exporting a context -/

structure ExportAnswer (X : Type) where
  major : UInt32
  minor : UInt32
  token : Bytes
  left : Option X

/-- The local library; a context that is exported is gone. -/
structure ExportLib (X : Type) where
  importSec : Bytes → UInt32 × Option X
  exportSec : Option X → ExportAnswer X
  left_of_complete : ∀ ctx, (exportSec ctx).major = GSS_S_COMPLETE → (exportSec ctx).left = none

inductive ExportCall (X : Type) where
  | importSecContext (token : Bytes)
  | exportSecContext (ctx : Option X)
  | deleteSecContext (ctx : GssxCtx)

/-- The status of a failed conversion or the answer to the export, and the context; `none` where
    memory is read that is not there. -/
abbrev ExportEnd (X : Type) := Option (Except UInt32 (ExportAnswer X) × CtxHandle X)

def exportLocal (lib : ExportLib X) (ctx : CtxHandle X) : Calls (ExportCall X) (ExportEnd X) := do
  let answer ← Calls.call (.exportSecContext ctx.localCtx) (lib.exportSec ctx.localCtx)
  match ctx.remote with
  | some remote =>
    if answer.major = GSS_S_COMPLETE then
      Calls.call (.deleteSecContext remote) (some (.ok answer, ⟨none, answer.left⟩))
    else return some (.ok answer, ⟨some remote, answer.left⟩)
  | none => return some (.ok answer, ⟨none, answer.left⟩)

def exportTaken (take : Bytes → Passed) (lib : ExportLib X) (ctx : CtxHandle X) :
    Calls (ExportCall X) (ExportEnd X) :=
  match ctx.remote, ctx.localCtx with
  | some remote, none =>
    match take remote.exportedContextToken.data with
    | .refused => pure (some (.error GSS_S_FAILURE, ctx))
    | .undefined => pure none
    | .token wrapped => do
      let (major, localCtx) ← Calls.call (.importSecContext wrapped) (lib.importSec wrapped)
      if major = GSS_S_COMPLETE then exportLocal lib ⟨none, localCtx⟩
      else return some (.error major, ⟨none, localCtx⟩)
  | _, _ => exportLocal lib ctx

/-- What the handle points to as a remote context, and what is behind the variable that holds it. -/
structure Memory (X : Type) where
  misread : GssxCtx
  behind : Option X

/-- `gssi_export_sec_context`. -/
def gssiExportSecContext (port : Port) (lib : ExportLib X) (memory : Memory X) (h : CtxHandle X) :
    Calls (ExportCall X) (ExportEnd X) :=
  match port with
  | .c =>
    let r := exportTaken gppRemoteToLocalCtx lib ⟨some memory.misread, memory.behind⟩
    ⟨r.log, r.value.map fun (result, _) => (result, h)⟩
  | .rust => exportTaken remoteToLocalCtx lib h

def denoted (lib : ExportLib X) (h : CtxHandle X) : Calls (ExportCall X) (Except UInt32 (Option X)) :=
  match h.localCtx, h.remote with
  | none, some remote =>
    match remoteToLocalCtx remote.exportedContextToken.data with
    | .token wrapped =>
      Calls.call (.importSecContext wrapped)
        (if (lib.importSec wrapped).1 = GSS_S_COMPLETE then .ok (lib.importSec wrapped).2
          else .error (lib.importSec wrapped).1)
    | _ => pure (.error GSS_S_FAILURE)
  | known, _ => pure (.ok known)

def exportCalls (lib : ExportLib X) (h : CtxHandle X) : Except UInt32 (Option X) → List (ExportCall X)
  | .error _ => []
  | .ok known => .exportSecContext known ::
      if (lib.exportSec known).major = GSS_S_COMPLETE ∧ h.localCtx.isSome = true then
        h.remote.toList.map .deleteSecContext
      else []

/-- The context is exported, made local before, and both parts are cleared. -/
structure Exports (lib : ExportLib X) (h : CtxHandle X) (r : Calls (ExportCall X) (ExportEnd X)) :
    Prop where
  calls : r.log = (denoted lib h).log ++ exportCalls lib h (denoted lib h).value
  returned : r.value.map (·.1) = some ((denoted lib h).value.map lib.exportSec)
  cleared : ∀ answer ctx, r.value = some (.ok answer, ctx) → answer.major = GSS_S_COMPLETE →
    ctx = ⟨none, none⟩

theorem remoteToLocalCtx_ne_undefined (token : Bytes) : remoteToLocalCtx token ≠ .undefined := by
  unfold remoteToLocalCtx wrapSecCtxToken specialForm
  dsimp only
  split
  · exact nofun
  split
  · exact nofun
  split <;> exact nofun

section

variable {lib : ExportLib X}

theorem exportLocal_eq (remote : Option GssxCtx) (known : Option X) :
    exportLocal lib ⟨remote, known⟩ =
      ⟨.exportSecContext known ::
          if (lib.exportSec known).major = GSS_S_COMPLETE then remote.toList.map .deleteSecContext else [],
        some (.ok (lib.exportSec known),
          ⟨if (lib.exportSec known).major = GSS_S_COMPLETE then none else remote,
            (lib.exportSec known).left⟩)⟩ := by
  unfold exportLocal
  by_cases hm : (lib.exportSec known).major = GSS_S_COMPLETE <;> cases remote <;>
    simp [Calls.ext_iff, hm]

theorem exportLocal_cleared (remote : Option GssxCtx) (known : Option X) {answer : ExportAnswer X}
    {ctx : CtxHandle X} (h : (exportLocal lib ⟨remote, known⟩).value = some (.ok answer, ctx))
    (hm : answer.major = GSS_S_COMPLETE) : ctx = ⟨none, none⟩ := by
  rw [exportLocal_eq] at h
  cases h
  rw [if_pos hm, lib.left_of_complete known hm]

theorem exportTaken_exports (h : Established X) :
    Exports lib h.toCtxHandle (exportTaken remoteToLocalCtx lib h.toCtxHandle) := by
  obtain ⟨⟨remote, _ | known⟩, hp⟩ := h
  · cases remote with
    | none => exact absurd hp (by simp)
    | some remote =>
      cases ht : remoteToLocalCtx remote.exportedContextToken.data with
      | refused => constructor <;> simp [exportTaken, denoted, ht, exportCalls, Except.map]
      | undefined => exact absurd ht (remoteToLocalCtx_ne_undefined _)
      | token wrapped =>
        by_cases hm : (lib.importSec wrapped).1 = GSS_S_COMPLETE
        · have heq : exportTaken remoteToLocalCtx lib ⟨some remote, none⟩ =
              Calls.call (.importSecContext wrapped) () >>= fun _ =>
                exportLocal lib ⟨none, (lib.importSec wrapped).2⟩ := by
            simp [exportTaken, ht, Calls.call_bind, hm]
          have hd : denoted lib ⟨some remote, none⟩ =
              Calls.call (.importSecContext wrapped) (.ok (lib.importSec wrapped).2) := by
            simp [denoted, ht, hm]
          rw [heq]
          refine ⟨?_, ?_, fun _ _ => exportLocal_cleared none _⟩
          · simp [exportLocal_eq, hd, exportCalls]
          · simp [exportLocal_eq, hd, Except.map]
        · constructor <;>
            simp [exportTaken, denoted, ht, hm, Calls.call_bind, exportCalls, Except.map]
  · have heq : exportTaken remoteToLocalCtx lib ⟨remote, some known⟩ =
        exportLocal lib ⟨remote, some known⟩ := by cases remote <;> rfl
    have hd : denoted lib ⟨remote, some known⟩ = pure (.ok (some known)) := rfl
    rw [heq]
    refine ⟨?_, ?_, fun _ _ => exportLocal_cleared _ _⟩
    · simp [exportLocal_eq, hd, exportCalls]
    · simp [exportLocal_eq, hd, Except.map]

theorem gssiExportSecContext_c_imports (h : CtxHandle X) :
    (gssiExportSecContext .c lib ⟨{ (default : GssxCtx) with exportedContextToken := ⟨[0, 0, 0, 0, 1]⟩ },
      none⟩ h).log ≠ [] := by
  obtain ⟨wrapped, hw⟩ : ∃ wrapped, gppRemoteToLocalCtx [0, 0, 0, 0, 1] = .token wrapped := ⟨_, rfl⟩
  simp [gssiExportSecContext, exportTaken, hw, Calls.call_bind]

theorem not_exports_c (h : Established X) :
    ¬ ∀ memory, Exports lib h.toCtxHandle (gssiExportSecContext .c lib memory h.toCtxHandle) := by
  intro ha
  have hq : [] = _ := (ha ⟨default, none⟩).calls
  have hl := (ha ⟨{ (default : GssxCtx) with exportedContextToken := ⟨[0, 0, 0, 0, 1]⟩ }, none⟩).calls
  exact gssiExportSecContext_c_imports _ (hl.trans hq.symm)

end

/-- **Exporting a context.**  Whatever is in memory around the variable with the handle, the Rust
    function exports the context; that is not so of the C one. -/
theorem export_iff (port : Port) (lib : ExportLib X) (h : Established X) :
    (∀ memory, Exports lib h.toCtxHandle (gssiExportSecContext port lib memory h.toCtxHandle)) ↔
      port = .rust := by
  cases port with
  | c => exact iff_of_false (not_exports_c h) nofun
  | rust => exact iff_of_true (fun _ => exportTaken_exports h) rfl

def oneContext : ExportLib Nat where
  importSec _ := (GSS_S_FAILURE, none)
  exportSec _ := ⟨GSS_S_COMPLETE, 0, [1], none⟩
  left_of_complete _ _ := rfl

theorem export_misses_context :
    gssiExportSecContext .c oneContext ⟨default, none⟩ ⟨none, some 7⟩ =
        ⟨[], some (.error GSS_S_FAILURE, ⟨none, some 7⟩)⟩ ∧
      gssiExportSecContext .rust oneContext ⟨default, none⟩ ⟨none, some 7⟩ =
        ⟨[.exportSecContext (some 7)], some (.ok ⟨GSS_S_COMPLETE, 0, [1], none⟩, ⟨none, none⟩)⟩ :=
  ⟨rfl, rfl⟩

end GssProxy.Interposer.ContextFrame
