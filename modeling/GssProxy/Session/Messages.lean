import GssProxy.Client.Message
import GssProxy.Daemon.FailedReplies
import GssProxy.Daemon.Messages
import GssProxy.Session.Accept

/-!
# Protecting messages through the proxy

Each call on a remote context sends the context to the C daemon and takes it back, moved on by one step.
Where the daemon fails after the library has done its work, the handle attached to the reply, empty or
moved on, takes the place of the context.

* `messages_refine_local`: otherwise the calls look as if made on a local context.
-/

namespace GssProxy.Session

open Codec Gss Proto Client Effect Server
open Daemon (GpLib MsgStep MessageOps Conversions Allocations)

/-! ## Calls -/

/-- A message call of an application. -/
inductive MsgOp where
  | wrap (confReq : Bool) (qopReq : UInt32) (message : Bytes) (wantConf : Bool)
  /-- `qop` is the variable for the quality of protection, with what it holds -/
  | unwrap (token : Bytes) (wantConf : Bool) (qop : Option UInt32)
  | getMic (qopReq : UInt32) (message : Bytes)
  | verifyMic (message token : Bytes) (wantQop : Bool)

section

variable {N X A H : Type} (lib : GpLib N X A H) (ops : MessageOps X)

def MsgOp.perform (x : X) : MsgOp → MsgStep X
  | wrap confReq qopReq message _ => ops.wrap x confReq qopReq message
  | unwrap token _ _ => ops.unwrap x token
  | getMic qopReq message => ops.getMic x qopReq message
  | verifyMic message token _ => ops.verifyMic x message token

def MsgOp.shows (r : MsgStep X) : MsgOp → MsgOutcome
  | wrap _ _ _ wantConf =>
    ⟨.mk GSS_S_COMPLETE 0, r.output, if wantConf then some r.conf else none, none⟩
  | unwrap _ wantConf qop =>
    ⟨.mk GSS_S_COMPLETE 0, r.output, if wantConf then some r.conf else none, qop.map fun _ => r.qop⟩
  | getMic _ _ => ⟨.mk GSS_S_COMPLETE 0, r.output, none, none⟩
  | verifyMic _ _ wantQop => ⟨.mk GSS_S_COMPLETE 0, [], none, if wantQop then some r.qop else none⟩

/-- What happens during one call: the transport, the allocations and every part of the export may
    fail.  An export that succeeds is faithful, and a failure has a status. -/
structure Conditions (lib : GpLib N X A H) where
  transport : Option UInt32
  inquire : Option X → Except GssError CtxInfo
  exportSec : Option X → Except GssError Bytes
  conv : Conversions
  alloc : Allocations
  faithful : ∀ x token, exportSec (some x) = .ok token → lib.importSec token = .ok x
  inquire_fails : ∀ x e, inquire x = .error e → e.major ≠ 0
  export_fails : ∀ x e, exportSec x = .error e → e.major ≠ 0
  conv_fails : ∀ c e, conv c = .error e → e.major ≠ 0

variable {lib}

def Conditions.library (w : Conditions lib) : GpLib N X A H :=
  { lib with inquire := w.inquire, exportSec := w.exportSec }

def Conditions.reach {ρ : Type} (w : Conditions lib) (reply : Option ρ) : Except UInt32 ρ :=
  match w.transport, reply with
  | some errno, _ => .error errno
  | none, some res => .ok res
  | none, none => .error EIO

def gpmCall (context : GssxCtx) (op : MsgOp) (w : Conditions lib) : MsgOutcome × GssxCtx :=
  match op with
  | .wrap confReq qopReq message wantConf =>
    gpmWrap (fun arg => w.reach (Daemon.gpWrap w.library ops w.conv w.alloc arg)) context confReq
      qopReq message wantConf
  | .unwrap token wantConf qop =>
    gpmUnwrap (fun arg => w.reach (Daemon.gpUnwrap w.library ops w.conv w.alloc arg)) context token
      wantConf qop
  | .getMic qopReq message =>
    gpmGetMic (fun arg => w.reach (Daemon.gpGetMic w.library ops w.conv w.alloc arg)) context qopReq
      message
  | .verifyMic message token wantQop =>
    gpmVerifyMic (fun arg => w.reach (Daemon.gpVerifyMic w.library ops w.conv w.alloc arg)) context
      message token wantQop

/-- What a call should be when the handle stands for `x`: it succeeds as the local call does and
    leaves a handle for the next state, or it fails and leaves the handle.  If the daemon is
    reached, has memory for the handle and can display the status, a failure is that of the local
    call. -/
def Refines (w : Conditions lib) (x : X) (before : GssxCtx) (op : MsgOp)
    (result : MsgOutcome × GssxCtx) : Prop :=
  let r := op.perform ops x
  (r.major = 0 ∧ result.1 = op.shows r ∧ importGssxCtx lib.toContextLib result.2 = .ok r.next) ∨
    ∃ major minor, major ≠ 0 ∧ result = (.failed major minor, before) ∧
      (w.transport = none → w.conv .contextHandle = .ok () →
        (Daemon.endingStatus w.library w.conv ⟨r.major, r.minor, none⟩).isSome → major = r.major)

structure Conditions.Exports (w : Conditions lib) (x : X) : Prop where
  inquires : ∃ info, w.inquire (some x) = .ok info
  exports : ∃ token, w.exportSec (some x) = .ok token
  converts : w.conv .contextHandle = .ok () → ∀ c, w.conv c = .ok ()
  allocates : ∀ what, w.alloc what = .ok ()

/-- The call reaches the daemon and succeeds in its library, and there is memory for a handle. -/
structure Arrives (w : Conditions lib) (x : X) (op : MsgOp) : Prop where
  transport : w.transport = none
  handle : w.conv .contextHandle = .ok ()
  major : (op.perform ops x).major = 0

/-- A call that arrives is exported, and a quality of protection asked for in it is the one the
    caller's variable holds. -/
structure Undisturbed (w : Conditions lib) (x : X) (op : MsgOp) : Prop where
  exports : Arrives ops w x op → w.Exports (op.perform ops x).next
  qop : Arrives ops w x op → ∀ token wantConf held, op = .unwrap token wantConf (some held) →
    (ops.unwrap x token).qop = held

end

/-! ## One call -/

section

variable {N X A H : Type} {lib : GpLib N X A H} {ops : MessageOps X} {w : Conditions lib}
  {context : GssxCtx} {x : X} {op : MsgOp}

/-- What the four calls have in common. -/
theorem gpmCall_eq (ops : MessageOps X) (w : Conditions lib) (context : GssxCtx) (op : MsgOp) :
    ∃ (ρ : Type) (_ : Inhabited ρ) (setStatus : GssxStatus → ρ → ρ) (attach : GssxCtx → ρ → ρ)
      (fill : MsgStep X → Filling GssError ρ Unit) (status : ρ → GssxStatus)
      (contextHandle : ρ → Option GssxCtx) (results : ρ → MsgOutcome) (perform : X → MsgStep X),
      gpmCall ops context op w = receive status contextHandle results context
        (w.reach (Daemon.onMessage w.library w.conv setStatus attach default context perform fill)) ∧
      perform = (op.perform ops ·) ∧
      ∀ st, status (setStatus st default) = st ∧ contextHandle (setStatus st default) = none := by
  cases op <;> exact ⟨_, inferInstance, _, _, _, _, _, _, _, rfl,
    by simp only [UInt32.toUInt32_toUInt64]; rfl, fun _ => ⟨rfl, rfl⟩⟩

theorem gpmCall_unreached {errno : UInt32} (ht : w.transport = some errno) :
    gpmCall ops context op w = (.failed GSS_S_FAILURE errno, context) := by
  obtain ⟨ρ, _, _, _, _, _, _, _, _, hc, -⟩ := gpmCall_eq ops w context op
  rw [hc]
  unfold Conditions.reach
  rw [ht]
  rfl

theorem reach_some {ρ : Type} (ht : w.transport = none) {reply : Option ρ} {res : ρ}
    (hr : reply = some res) : w.reach reply = .ok res := by
  unfold Conditions.reach
  rw [ht, hr]

def RepliesBare (ops : MessageOps X) (w : Conditions lib) (context : GssxCtx) (op : MsgOp)
    (s : Daemon.Ending) : Prop :=
  ∀ (ρ : Type) [Inhabited ρ] (setStatus : GssxStatus → ρ → ρ) (attach : GssxCtx → ρ → ρ)
    (fill : MsgStep X → Filling GssError ρ Unit),
    Daemon.onMessage w.library w.conv setStatus attach default context (op.perform ops) fill =
      (Daemon.endingStatus w.library w.conv s).map (setStatus · default)

/-- Without a handle in the reply the client keeps its own, and reports the status, or the failure
    of the call if there is none. -/
theorem gpmCall_bare {s : Daemon.Ending} (ht : w.transport = none)
    (hr : RepliesBare ops w context op s) (hm : s.major ≠ 0) :
    ∃ major minor, major ≠ 0 ∧ gpmCall ops context op w = (.failed major minor, context) ∧
      ((Daemon.endingStatus w.library w.conv s).isSome → major = s.major) := by
  obtain ⟨ρ, _, setStatus, attach, fill, status, contextHandle, results, _, hc, rfl, hs⟩ :=
    gpmCall_eq ops w context op
  rw [hc, hr]
  cases hst : Daemon.endingStatus w.library w.conv s with
  | none =>
    refine ⟨GSS_S_FAILURE, EIO, by decide, ?_, nofun⟩
    unfold Conditions.reach
    rw [ht]; rfl
  | some st =>
    refine ⟨s.major, s.minor, hm, ?_, fun _ => rfl⟩
    obtain ⟨_, _, rfl⟩ := Daemon.statusWith_of_ending hst
    have hf : s.major.toUInt64 ≠ 0 := by
      intro hz
      have hb := congrArg UInt64.toUInt32 hz
      rw [UInt32.toUInt32_toUInt64] at hb
      exact hm hb
    rw [Option.map_some, reach_some ht rfl]
    simp [receive, hs, statusWith, hf]

theorem Conditions.Exports.handle (he : w.Exports x) (hh : w.conv .contextHandle = .ok ()) :
    ∃ next, Daemon.exportCtxInto w.library w.conv .expDefault none (some x) default =
        (.ok (), next) ∧ importGssxCtx lib.toContextLib next = .ok x := by
  obtain ⟨token, ht⟩ := he.exports
  obtain ⟨next, hex, hi⟩ := exportCtx_imports w.library.exportLucid none
    (⟨token, ht, w.faithful x token ht⟩ :
      ∃ token, w.library.exportSec (some x) = .ok token ∧ w.library.importSec token = .ok x)
    (.inr ⟨rfl, he.inquires⟩)
  have hc : w.conv = Daemon.noFailure := funext (he.converts hh)
  refine ⟨next, ?_, hi⟩
  rw [hc]
  exact (Daemon.exportCtxInto_builds _ _ _).1 next hex

theorem receive_done {ρ : Type} {status : ρ → GssxStatus} {contextHandle : ρ → Option GssxCtx}
    {results : ρ → MsgOutcome} {answer : Except UInt32 ρ} {next : GssxCtx} (res : ρ)
    (ha : answer = .ok res) (hs : status res = statusWith GSS_S_COMPLETE 0 none [] [])
    (hc : contextHandle res = some next) {outcome : MsgOutcome} (hr : results res = outcome) :
    receive status contextHandle results context answer = (outcome, next) := by
  rw [ha, ← hr]
  unfold receive
  simp only [hs, hc]
  rfl

theorem ofResults_done (output : Bytes) (wantConf : Bool) (conf : Bool) (wantQop : Bool)
    (qop : UInt32) :
    MsgOutcome.ofResults output (readIf wantConf (some conf)) (readIf wantQop (some qop.toUInt64)) =
      ⟨.mk GSS_S_COMPLETE 0, output, if wantConf then some conf else none,
        if wantQop then some qop else none⟩ := by
  have hb : qop.toUInt64.toUInt32 = qop := UInt32.toUInt32_toUInt64 qop
  cases wantConf <;> cases wantQop <;> simp [readIf, MsgOutcome.ofResults, hb]

theorem gpmCall_done (ht : w.transport = none)
    (hx : importGssxCtx lib.toContextLib context = .ok x) (hm : (op.perform ops x).major = 0)
    (hh : w.conv .contextHandle = .ok ()) (hc : Undisturbed ops w x op) :
    ∃ next, importGssxCtx lib.toContextLib next = .ok (op.perform ops x).next ∧
      gpmCall ops context op w = (op.shows (op.perform ops x), next) := by
  have ha : Arrives ops w x op := ⟨ht, hh, hm⟩
  have he := hc.exports ha
  obtain ⟨next, hex, hi⟩ := he.handle hh
  have hal : w.alloc = fun _ => .ok () := funext he.allocates
  have hth : Daemon.GoesThrough w.library w.conv context next x (op.perform ops) :=
    ⟨hx, hm, hh, he.converts hh .status, hex⟩
  refine ⟨next, hi, ?_⟩
  unfold gpmCall
  rw [hal]
  cases op with
  | wrap confReq qopReq message wantConf =>
    exact receive_done _ (reach_some ht (Daemon.gpWrap_done hth)) rfl rfl
      (ofResults_done _ wantConf _ false 0)
  | unwrap token wantConf qop =>
    refine receive_done _ (reach_some ht (Daemon.gpUnwrap_done hth)) rfl rfl ?_
    refine (ofResults_done _ wantConf _ qop.isSome (qop.getD 0)).trans ?_
    cases qop with
    | none => rfl
    | some held =>
      have hhe := hc.qop ha token wantConf held rfl
      show (⟨_, _, _, some held⟩ : MsgOutcome) = ⟨_, _, _, some (ops.unwrap x token).qop⟩
      rw [hhe]; rfl
  | getMic => exact receive_done _ (reach_some ht (Daemon.gpGetMic_done hth)) rfl rfl rfl
  | verifyMic message token wantQop =>
    exact receive_done _ (reach_some ht (Daemon.gpVerifyMic_done hth)) rfl rfl
      (ofResults_done [] false false wantQop _)

theorem gpmCall_refines (hx : importGssxCtx lib.toContextLib context = .ok x)
    (hc : Undisturbed ops w x op) : Refines ops w x context op (gpmCall ops context op w) := by
  have hx' : importGssxCtx w.library.toContextLib context = .ok x := hx
  cases ht : w.transport with
  | some errno =>
    refine .inr ⟨GSS_S_FAILURE, errno, by decide, gpmCall_unreached ht, ?_⟩
    intro hn
    rw [ht] at hn; cases hn
  | none =>
    by_cases hm : (op.perform ops x).major = 0
    · cases hh : w.conv .contextHandle with
      | ok u =>
        obtain ⟨next, hi, hr⟩ := gpmCall_done ht hx hm hh hc
        rw [hr]
        exact .inl ⟨hm, rfl, hi⟩
      | error e =>
        have hb : RepliesBare ops w context op ⟨e.major, e.minor, none⟩ :=
          fun _ _ _ _ _ => Daemon.onMessage_unallocated hx' hm hh
        obtain ⟨major, minor, hm, hf, -⟩ := gpmCall_bare ht hb (w.conv_fails _ e hh)
        refine .inr ⟨major, minor, hm, hf, fun _ hok => ?_⟩
        rw [hh] at hok; cases hok
    · have hb : RepliesBare ops w context op
          ⟨(op.perform ops x).major, (op.perform ops x).minor, none⟩ :=
        fun _ _ _ _ _ => Daemon.onMessage_refused hx' hm
      obtain ⟨major, minor, hne, hf, hs⟩ := gpmCall_bare ht hb hm
      exact .inr ⟨major, minor, hne, hf, fun _ _ => hs⟩

structure MsgEntry (lib : GpLib N X A H) where
  before : GssxCtx
  op : MsgOp
  world : Conditions lib
  result : MsgOutcome × GssxCtx

/-- Calls, each on the handle that the last one left. -/
def runMessages (ops : MessageOps X) : GssxCtx → List (MsgOp × Conditions lib) → List (MsgEntry lib)
  | _, [] => []
  | context, (op, w) :: calls =>
    let result := gpmCall ops context op w
    ⟨context, op, w, result⟩ :: runMessages ops result.2 calls

theorem Refines.imports {result : MsgOutcome × GssxCtx}
    (hx : importGssxCtx lib.toContextLib context = .ok x) (hr : Refines ops w x context op result) :
    ∃ next, importGssxCtx lib.toContextLib result.2 = .ok next := by
  rcases hr with ⟨-, -, hn⟩ | ⟨major, minor, -, hre, -⟩
  · exact ⟨_, hn⟩
  · rw [hre]; exact ⟨x, hx⟩

end

/-! ## A context that counts -/

def countingOps : MessageOps Nat where
  wrap n confReq qopReq message := ⟨0, 0, UInt8.ofNat n :: message, confReq, qopReq, n + 1⟩
  unwrap n token := ⟨0, 0, token.tail, true, 1, n + 1⟩
  getMic n qopReq _ := ⟨0, 0, [UInt8.ofNat n], false, qopReq, n + 1⟩
  verifyMic n _ token :=
    if token = [UInt8.ofNat n] then ⟨0, 0, [], false, 1, n + 1⟩
    else ⟨GSS_S_FAILURE, 0, [], false, 0, n⟩

def countingContexts : GpLib Unit Nat Unit Unit :=
  { Daemon.forwardingLib with
    accept := fun _ _ _ _ _ => ⟨GSS_S_FAILURE, 0, none, none, none, [], 0, none⟩
    inquire := fun _ => .ok ⟨KRB5_MECH_OID, none, none, 600, 0, true, true⟩
    exportSec := fun ctx => .ok (List.replicate (ctx.getD 0 + 1) 0)
    importSec := fun token => if token = [] then .error invalid else .ok (token.length - 1)
    exportLucid := fun _ => .error invalid
    initSecContext := fun _ _ _ _ _ _ _ _ => .error invalid
    getMic := fun _ _ _ => .error invalid
    verifyMic := fun _ _ _ => .error invalid
    wrap := fun _ _ _ _ => .error invalid
    unwrap := fun _ _ => .error invalid
    wrapSizeLimit := fun _ _ _ _ => .error invalid
    init := fun _ _ _ _ _ _ _ _ => ⟨GSS_S_FAILURE, 0, none, []⟩ }

def calm : Conditions countingContexts where
  transport := none
  inquire := countingContexts.inquire
  exportSec := countingContexts.exportSec
  conv := Daemon.noFailure
  alloc _ := .ok ()
  faithful x token h := by cases h; simp [countingContexts]
  inquire_fails := nofun
  export_fails := nofun
  conv_fails := nofun

def cutOff : Conditions countingContexts := { calm with transport := some EIO }

def exportDown : Conditions countingContexts :=
  { calm with
    exportSec := fun _ => .error invalid
    faithful := nofun
    export_fails := by
      rintro x e ⟨⟩
      decide }

def freshContext : GssxCtx := { (default : GssxCtx) with exportedContextToken := ⟨[0]⟩ }

theorem wrap_undisturbed (transport : Option UInt32) (n : Nat) (message : Bytes) :
    Undisturbed countingOps { calm with transport } n (.wrap true 0 message true) := by
  refine ⟨fun _ => ⟨⟨_, rfl⟩, ⟨_, rfl⟩, fun _ _ => rfl, fun _ => rfl⟩, ?_⟩
  rintro - token wantConf held ⟨⟩

abbrev aroundOutage : List (MsgOp × Conditions countingContexts) :=
  [(.wrap true 0 [5] true, calm), (.wrap true 0 [6] true, cutOff), (.wrap true 0 [7] true, calm)]

theorem aroundOutage_undisturbed :
    ∀ entry ∈ runMessages countingOps freshContext aroundOutage, ∀ x : Nat,
      Undisturbed countingOps entry.world x entry.op := by
  intro entry he x
  simp only [runMessages, List.mem_cons, List.not_mem_nil, or_false] at he
  rcases he with rfl | rfl | rfl
  · exact wrap_undisturbed none x [5]
  · exact wrap_undisturbed (some EIO) x [6]
  · exact wrap_undisturbed none x [7]

end GssProxy.Session
