import GssProxy.Daemon.Handlers
import GssProxy.Server.Dispatch

/-!
# What a failed reply carries

Three procedures fill in their reply in place, and no failure takes back what is filled in.

* `failed_reply_bare_iff`: a failed reply is bare as long as nothing fails once the library has made the
  context or the credential.
-/

namespace GssProxy.Daemon

open Codec Effect Gss Proto Server

/-! ## Replies -/

inductive Request where
  | init (arg : ArgInitSecContext)
  | accept (arg : ArgAcceptSecContext)
  | acquire (arg : ArgAcquireCred)

/-- What a reply hands out. -/
structure Payload where
  context : Option GssxCtx
  token : Option GssxBuffer
  cred : Option GssxCred
  options : List GssxOption
  deriving DecidableEq

def Payload.empty : Payload := ⟨none, none, none, []⟩

structure Reply where
  major : UInt64
  payload : Payload
  deriving DecidableEq

def initPayload (res : ResInitSecContext) : Payload :=
  ⟨res.contextHandle, res.outputToken, none, res.options⟩

def acceptPayload (res : ResAcceptSecContext) : Payload :=
  ⟨res.contextHandle, res.outputToken, res.delegatedCredHandle, res.options⟩

def acquirePayload (res : ResAcquireCred) : Payload :=
  ⟨none, none, res.outputCredHandle, res.options⟩

/-- The status is neither complete nor asks for more. -/
def Reply.failed (reply : Reply) : Prop := keep reply.major.toUInt32 = false

section

variable {N X A H : Type} (lib : GpLib N X A H) (port : Port) (conv : Conversions)
  (call : GpCall H)

/-- The reply of the C daemon. -/
def replyTo : Request → Option Reply
  | .init arg => (gpInitSecContext lib port conv call arg).map fun res =>
      ⟨res.status.majorStatus, initPayload res⟩
  | .accept arg => (gpAcceptSecContext lib port conv call arg).map fun res =>
      ⟨res.status.majorStatus, acceptPayload res⟩
  | .acquire arg => (gpAcquireCred lib port conv call arg).map fun res =>
      ⟨res.status.majorStatus, acquirePayload res⟩

structure InitAnswers (p : Initiated X A) : Prop where
  context : (exportCtxInto lib conv p.type p.mech p.step.ctx default).1 = .ok ()
  token : p.step.output ≠ [] → conv .outputToken = .ok () ∧ conv .outputTokenData = .ok ()

structure AcceptAnswers (arg : ArgAcceptSecContext) (p : Accepted X A) : Prop where
  context : (exportCtxInto lib conv p.type p.step.mech p.step.ctx default).1 = .ok ()
  token : conv .outputToken = .ok () ∧ conv .outputTokenData = .ok ()
  delegated : ∀ cred, delegatedFor arg p.step = some cred → conv .delegatedHandle = .ok () ∧
      (gpExportGssxCred lib conv call.creds cred default).1 = .ok ()
  options : ∃ options, credsOptions lib conv p = .ok options

/-- Nothing fails once there is a context or a credential, and its handle is allocated. -/
def Finishes : Request → Prop
  | .init arg => ∀ p, initCall lib port conv call arg = .ok p → conv .contextHandle = .ok () →
      InitAnswers lib conv p
  | .accept arg => ∀ p, acceptCall lib port conv call arg = .ok p →
      conv .contextHandle = .ok () → AcceptAnswers lib conv call arg p
  | .acquire arg => ∀ cred s, acquireCall lib port conv call arg = .ok (.fresh cred, s) →
      conv .credHandle = .ok () →
      (gpExportGssxCred lib conv call.creds cred.handle default).1 = .ok ()

end

section

variable {ρ σ : Type} [Inhabited ρ] {setStatus : GssxStatus → ρ → ρ}
  {status : Ending → Option GssxStatus} {start : Except Stop σ} {ending : σ → Ending}
  {fill : σ → Filling GssError ρ Unit}

theorem finish_cases {res : ρ} (h : finish setStatus status start ending fill = some res) :
    (∃ s st, start = .error (.status s) ∧ status s = some st ∧ res = setStatus st default) ∨
    (∃ p e out st, start = .ok p ∧ fill p default = (.error e, out) ∧
      status ⟨e.major, e.minor, (ending p).mech⟩ = some st ∧ res = setStatus st out) ∨
    (∃ p out st, start = .ok p ∧ fill p default = (.ok (), out) ∧ status (ending p) = some st ∧
      res = setStatus st out) := by
  unfold finish at h
  cases hs : start with
  | error stop =>
    rw [hs] at h
    cases stop with
    | crash => cases h
    | status s =>
      obtain ⟨st, hst, hr⟩ := Option.map_eq_some_iff.mp h; exact .inl ⟨s, st, rfl, hst, hr.symm⟩
  | ok p =>
    rw [hs] at h
    rcases hf : fill p default with ⟨x, out⟩
    cases x with
    | error e =>
      simp only [hf] at h
      obtain ⟨st, hst, hr⟩ := Option.map_eq_some_iff.mp h
      exact .inr (.inl ⟨p, e, out, st, rfl, hf, hst, hr.symm⟩)
    | ok u =>
      simp only [hf] at h
      obtain ⟨st, hst, hr⟩ := Option.map_eq_some_iff.mp h
      exact .inr (.inr ⟨p, out, st, rfl, hf, hst, hr.symm⟩)

end

section

variable {N X A H : Type} {lib : GpLib N X A H} {port : Port} {conv : Conversions}
  {call : GpCall H}

theorem statusWith_of_ending {s : Ending} {status : GssxStatus}
    (h : endingStatus lib conv s = some status) :
    ∃ majorString minorString,
      status = statusWith s.major s.minor s.mech majorString minorString := by
  obtain ⟨-, -, h⟩ := Option.bind_eq_some_iff.mp h
  exact statusWith_of_conv h

theorem endingStatus_major {s : Ending} {status : GssxStatus}
    (h : endingStatus lib conv s = some status) : status.majorStatus.toUInt32 = s.major := by
  obtain ⟨_, _, rfl⟩ := statusWith_of_ending h
  exact UInt32.toUInt32_toUInt64 s.major

theorem pair_of_fst {ε ρ : Type} {x : Except ε Unit × ρ} (h : x.1 = .ok ()) :
    x = (.ok (), x.2) := Prod.ext h rfl

end

section

variable {N X A H : Type} (lib : GpLib N X A H) (port : Port) (conv : Conversions)
  (call : GpCall H)

/-! ## Filling in the replies -/

theorem fill_error {ρ : Type} [Inhabited ρ] {payload : ρ → Payload} {Answers : Prop}
    {alloc : Except GssError Unit} {steps : Filling GssError ρ Unit} {e : GssError} {out : ρ}
    (hd : payload default = .empty) (ha : payload (steps default).2 ≠ .empty)
    (hok : Answers → ∃ res, steps default = (.ok (), res))
    (h : (Filling.ofExcept alloc >>= fun _ => steps) default = (.error e, out)) :
    payload out = .empty ↔ (alloc = .ok () → Answers) := by
  cases alloc with
  | error e' =>
    cases h
    exact ⟨fun _ hok => (nomatch hok), fun _ => hd⟩
  | ok u =>
    rw [Filling.ofExcept_ok_bind] at h
    constructor
    · intro he
      rw [h] at ha
      exact absurd he ha
    · intro han
      obtain ⟨res, hr⟩ := hok (han rfl)
      rw [hr] at h; cases h

theorem payload_ne_empty {p : Payload} (h : p.context.isSome) : p ≠ .empty := by
  rintro rfl
  cases h

theorem initToken_keeps (output : Bytes) :
    (initToken conv output).Keeps fun res => res.contextHandle.isSome := by
  unfold initToken
  split
  · exact .pure ()
  · exact .bind (.ofExcept _) fun _ => .part fun _ _ h => h

theorem initToken_ok {output : Bytes} (res : ResInitSecContext)
    (h : output ≠ [] → conv .outputToken = .ok () ∧ conv .outputTokenData = .ok ()) :
    ∃ out, initToken conv output res = (.ok (), out) := by
  unfold initToken
  split
  · exact ⟨res, rfl⟩
  rename_i hne
  obtain ⟨ha, hd⟩ := h hne
  unfold tokenData
  rw [ha, hd]
  exact ⟨_, rfl⟩

theorem initSteps_attached (arg : ArgInitSecContext) (p : Initiated X A) :
    (initSteps lib conv arg p).Leaves fun res => res.contextHandle.isSome := by
  refine .bind (.part fun _ _ => rfl) fun _ => ?_
  exact .bind (initToken_keeps conv p.step.output) fun _ => .write fun _ h => h

theorem initSteps_ok (arg : ArgInitSecContext) (p : Initiated X A) (h : InitAnswers lib conv p) :
    ∃ out, initSteps lib conv arg p default = (.ok (), out) := by
  unfold initSteps
  rw [Filling.bind_ok (Filling.part_ok (pair_of_fst h.context))]
  obtain ⟨out, ht⟩ := initToken_ok conv _ h.token
  rw [Filling.bind_ok ht]
  exact ⟨_, rfl⟩

theorem fillDelegated_keeps (cred : Option A) :
    (fillDelegated lib conv call cred).Keeps fun res => res.contextHandle.isSome := by
  cases cred with
  | none => exact .pure ()
  | some cred => exact .bind (.ofExcept _) fun _ => .part fun _ _ h => h

theorem fillDelegated_ok {cred : Option A} (res : ResAcceptSecContext)
    (h : ∀ a, cred = some a → conv .delegatedHandle = .ok () ∧
      (gpExportGssxCred lib conv call.creds a default).1 = .ok ()) :
    ∃ out, fillDelegated lib conv call cred res = (.ok (), out) := by
  cases cred with
  | none => exact ⟨res, rfl⟩
  | some a =>
    obtain ⟨ha, he⟩ := h a rfl
    simp only [fillDelegated, ha]
    exact ⟨_, Filling.part_ok (pair_of_fst he)⟩

theorem acceptSteps_attached (arg : ArgAcceptSecContext) (p : Accepted X A) :
    (acceptSteps lib conv call arg p).Leaves fun res => res.contextHandle.isSome := by
  refine .bind (.part fun _ _ => rfl) fun _ => ?_
  refine .bind (.ofExcept _) fun _ => .bind (.part fun _ _ h => h) fun _ => ?_
  refine .bind (fillDelegated_keeps lib conv call _) fun _ => ?_
  exact .bind (.ofExcept _) fun _ => .write fun _ h => h

theorem acceptSteps_ok (arg : ArgAcceptSecContext) (p : Accepted X A)
    (h : AcceptAnswers lib conv call arg p) :
    ∃ out, acceptSteps lib conv call arg p default = (.ok (), out) := by
  unfold acceptSteps
  rw [Filling.bind_ok (Filling.part_ok (pair_of_fst h.context)), h.token.1,
    Filling.ofExcept_ok_bind]
  have ht (res : ResAcceptSecContext) :
      Filling.part (fun token res => { res with outputToken := some token }) default
        (tokenData conv p.step.output) res =
      (.ok (), { res with outputToken := some ⟨p.step.output⟩ }) := by
    unfold tokenData
    rw [h.token.2]; rfl
  rw [Filling.bind_ok (ht _)]
  obtain ⟨out, hd⟩ := fillDelegated_ok lib conv call _ h.delegated
  obtain ⟨options, ho⟩ := h.options
  rw [Filling.bind_ok hd, ho]
  exact ⟨_, rfl⟩

/-! ## The three procedures -/

theorem initCall_keep {arg : ArgInitSecContext} {p : Initiated X A}
    (h : initCall lib port conv call arg = .ok p) : keep p.step.major = true := by
  obtain ⟨⟨type, ctx, given⟩, -, h⟩ := bind_eq_ok.mp h
  obtain ⟨target, -, h⟩ := bind_eq_ok.mp h
  obtain ⟨-, -, h⟩ := bind_eq_ok.mp h
  obtain ⟨cred, -, h⟩ := bind_eq_ok.mp h
  obtain ⟨-, -, h⟩ := bind_eq_ok.mp h
  unfold initKept at h
  split at h
  · rename_i hk
    cases h
    exact hk
  · cases h

theorem finish_bare_iff {ρ σ : Type} [Inhabited ρ] {setStatus : GssxStatus → ρ → ρ}
    {start : Except Stop σ} {ending : σ → Ending} {fill : σ → Filling GssError ρ Unit}
    {Ready : σ → Prop} {res : ρ} (major : ρ → UInt32) (payload : ρ → Payload)
    (hre : finish setStatus (endingStatus lib conv) start ending fill = some res)
    (hf : keep (major res) = false) (hm : ∀ st r, major (setStatus st r) = st.majorStatus.toUInt32)
    (hpa : ∀ s r, payload (setStatus s r) = payload r) (hd : payload default = .empty)
    (hk : ∀ p, start = .ok p → keep (ending p).major = true)
    (hfi : ∀ p e out, fill p default = (.error e, out) → (payload out = .empty ↔ Ready p)) :
    payload res = .empty ↔ ∀ p, start = .ok p → Ready p := by
  rcases finish_cases hre with ⟨s, st, hs, -, rfl⟩ | ⟨p, e, out, st, hs, he, -, rfl⟩ |
    ⟨p, out, st, hs, -, hst, rfl⟩
  · refine ⟨fun _ p hp => ?_, fun _ => (hpa st default).trans hd⟩
    rw [hs] at hp; cases hp
  · rw [hpa, hfi p e out he]
    refine ⟨fun hr p' hp' => ?_, fun h => h p hs⟩
    rw [hs] at hp'
    cases hp'
    exact hr
  · -- without a failure the status is that of the library, which kept the context
    rw [hm, endingStatus_major hst, hk p hs] at hf; cases hf

theorem init_bare_iff {arg : ArgInitSecContext} {res : ResInitSecContext}
    (hr : gpInitSecContext lib port conv call arg = some res)
    (hf : keep res.status.majorStatus.toUInt32 = false) :
    initPayload res = .empty ↔ Finishes lib port conv call (.init arg) := by
  refine finish_bare_iff lib conv (fun res => res.status.majorStatus.toUInt32) initPayload hr
    hf (fun _ _ => rfl) (fun _ _ => rfl) rfl
    (fun p hp => initCall_keep lib port conv call hp) fun p e out he => ?_
  exact fill_error rfl (payload_ne_empty (initSteps_attached lib conv arg p default))
    (initSteps_ok lib conv arg p) he

theorem accept_bare_iff {arg : ArgAcceptSecContext} {res : ResAcceptSecContext}
    (hr : gpAcceptSecContext lib port conv call arg = some res)
    (hf : keep res.status.majorStatus.toUInt32 = false) :
    acceptPayload res = .empty ↔ Finishes lib port conv call (.accept arg) := by
  refine finish_bare_iff lib conv (fun res => res.status.majorStatus.toUInt32) acceptPayload hr
    hf (fun _ _ => rfl) (fun _ _ => rfl) rfl
    (fun p hp => (acceptCall_ok lib port call hp).2.2.2.2.1) fun p e out he => ?_
  exact fill_error rfl (payload_ne_empty (acceptSteps_attached lib conv call arg p default))
    (acceptSteps_ok lib conv call arg p) he

variable {arg : ArgAcquireCred} {output : Output A}

theorem gpChooseOutput_major {slots : Except GssError (Slots A)}
    (h : (gpChooseOutput arg slots).output = some output) :
    (gpChooseOutput arg slots).major = GSS_S_COMPLETE := by
  rcases slots with e | ⟨input | input, output | output⟩
  · cases h
  · cases h
  · rfl
  · rfl
  · rfl

theorem acquireResult_major (h : (acquireResult lib port conv call arg).output = some output) :
    (acquireResult lib port conv call arg).major = GSS_S_COMPLETE := by
  unfold acquireResult Server.gpAcquireCred at h ⊢
  cases hi : inputCred (gpImportGssxCred lib conv call.creds) arg with
  | error e => simp only [hi] at h; cases h
  | ok input =>
    simp only [hi] at h ⊢
    cases hm : conv .desiredMechs with
    | error e => simp only [hm] at h; cases h
    | ok u =>
      simp only [hm] at h ⊢
      cases hu : useMechs call.service arg.desiredMechs with
      | nil => simp only [hu] at h; cases h
      | cons => simp only [hu] at h ⊢; exact gpChooseOutput_major h

theorem acquireCall_ok {p : Output A × Ending}
    (h : acquireCall lib port conv call arg = .ok p) : p.2.major = GSS_S_COMPLETE := by
  unfold acquireCall at h
  simp only at h
  split at h
  · rename_i output ho
    cases h
    exact acquireResult_major lib port conv call ho
  · cases h

theorem fillAcquire_error {e : GssError} {out : ResAcquireCred}
    (h : fillAcquire lib conv call output default = (.error e, out)) :
    acquirePayload out = .empty ↔ ∀ cred, output = .fresh cred → conv .credHandle = .ok () →
      (gpExportGssxCred lib conv call.creds cred.handle default).1 = .ok () := by
  cases output with
  | input handle => cases h
  | fresh cred =>
    have hi : acquirePayload out = .empty ↔ _ := fill_error rfl (by rintro ⟨⟩)
      (fun hok : (gpExportGssxCred lib conv call.creds cred.handle default).1 = .ok () =>
        ⟨_, Filling.part_ok (pair_of_fst hok)⟩) h
    rw [hi]
    refine ⟨?_, fun h => h cred rfl⟩
    rintro h cred' ⟨⟩
    exact h

theorem acquire_bare_iff {res : ResAcquireCred}
    (hr : gpAcquireCred lib port conv call arg = some res)
    (hf : keep res.status.majorStatus.toUInt32 = false) :
    acquirePayload res = .empty ↔ Finishes lib port conv call (.acquire arg) := by
  have hi := finish_bare_iff lib conv (fun res => res.status.majorStatus.toUInt32)
    acquirePayload hr hf (fun _ _ => rfl) (fun _ _ => rfl) rfl
    (fun p hp => by rw [acquireCall_ok lib port conv call hp]; rfl)
    fun p e out he => fillAcquire_error lib conv call he
  rw [hi]
  constructor
  · intro h cred s hs; exact h _ hs cred rfl
  · rintro h ⟨output, s⟩ hs cred rfl; exact h cred s hs

/-- **What a failed reply carries.**  It is bare exactly if nothing failed after the library had
    established the context or acquired the credential and the handle was allocated. -/
theorem failed_reply_bare_iff {request : Request} {reply : Reply}
    (hreply : replyTo lib port conv call request = some reply) (hfailed : reply.failed) :
    reply.payload = .empty ↔ Finishes lib port conv call request := by
  cases request with
  | init arg =>
    obtain ⟨res, hr, rfl⟩ := Option.map_eq_some_iff.mp hreply
    exact init_bare_iff lib port conv call hr hfailed
  | accept arg =>
    obtain ⟨res, hr, rfl⟩ := Option.map_eq_some_iff.mp hreply
    exact accept_bare_iff lib port conv call hr hfailed
  | acquire arg =>
    obtain ⟨res, hr, rfl⟩ := Option.map_eq_some_iff.mp hreply
    exact acquire_bare_iff lib port conv call hr hfailed

end

/-! ## A peer that delegates -/

def forwardingLib : GpLib Unit Unit Unit Unit :=
  { failingLib with
    accept := fun _ _ _ _ _ =>
      ⟨GSS_S_COMPLETE, 0, some (), none, some KRB5_MECH_OID, [2], GSS_C_DELEG_FLAG, some ()⟩
    inquire := fun _ => .ok ⟨KRB5_MECH_OID, none, none, 600, GSS_C_DELEG_FLAG, false, true⟩
    exportSec := fun _ => .ok [1]
    importToken := fun _ => .ok ()
    init := fun _ _ _ _ _ _ _ _ => ⟨GSS_S_FAILURE, 0, none, []⟩
    encryptBuffer := fun _ token => .ok token
    decryptBuffer := fun _ reference => .ok reference
    setAllowableEnctypes := fun _ _ => .error invalid
    setNoCiFlags := fun _ => .error invalid
    impersonatorName := fun _ => .ok none }

def refusingLib : GpLib Unit Unit Unit Unit :=
  { forwardingLib with
    accept := fun _ _ _ _ _ => ⟨GSS_S_NO_CRED, 0, none, none, none, [], 0, none⟩ }

def plainPort : Port := cPort fun _ template _ => some template

def delegatingRequest : Request :=
  .accept { (default : ArgAcceptSecContext) with credHandle := some default, retDelegCred := true }

def webCall : GpCall Unit := ⟨{ (default : Service) with euid := 48 }, 48, some ()⟩

/-- A token that the library refuses gives a bare reply. -/
theorem refused_reply_bare :
    ∃ reply, replyTo refusingLib plainPort noFailure webCall delegatingRequest = some reply ∧
      reply.failed ∧ reply.payload = .empty := by
  obtain ⟨reply, hr, hf⟩ :
      ∃ reply, replyTo refusingLib plainPort noFailure webCall delegatingRequest = some reply ∧
        reply.failed := ⟨_, rfl, rfl⟩
  refine ⟨reply, hr, hf, ?_⟩
  apply (failed_reply_bare_iff refusingLib plainPort noFailure webCall hr hf).mpr
  intro p hp
  cases hp

/-- **A failed reply that hands out the context.**  The delegated credential cannot be exported, and
    the reply carries the context, the token and an empty credential handle. -/
theorem failed_reply_with_context :
    ∃ reply, replyTo forwardingLib plainPort noFailure webCall delegatingRequest = some reply ∧
      reply.failed ∧ reply.payload.token = some ⟨[2]⟩ ∧ reply.payload.cred = some default ∧
      ∃ ctx, reply.payload.context = some ctx ∧ ctx.exportedContextToken = ⟨[1]⟩ :=
  ⟨_, rfl, rfl, rfl, rfl, _, rfl, rfl⟩

end GssProxy.Daemon
