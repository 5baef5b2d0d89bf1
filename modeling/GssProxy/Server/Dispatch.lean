import GssProxy.Proto.Rpc
import GssProxy.Server.Handlers

/-!
# Dispatch in the Rust daemon

`handle_request` decodes the envelope of a request, runs the handler of its procedure and encodes the
reply; `handle_conn` does so for every frame.  The procedures that run are recorded.

* `unmatched_refused_iff`: a peer without a service is refused if no frame of it names a procedure.
-/

namespace GssProxy.Server

open Codec Effect Gss Proto

/-! ## Replies -/

def PROG_UNAVAIL : Int32 := 1
def PROC_UNAVAIL : Int32 := 3
def GARBAGE_ARGS : Int32 := 4

def encodeReplyBody (xid : UInt32) (reply : ReplyBody) : Option Bytes :=
  Message.encode { xid, isCall := false, call := none, reply := some reply }

def replyAcceptOther (xid : UInt32) (status : Int32) : Option Bytes :=
  encodeReplyBody xid (.acceptedOther OpaqueAuth.none status)

def replyProgMismatch (xid : UInt32) : Option Bytes :=
  encodeReplyBody xid (.progMismatch OpaqueAuth.none ⟨GSSPROXYVERS, GSSPROXYVERS⟩)

def encodeReply {ρ : Type} [Xdr ρ] (xid : UInt32) (res : ρ) : Option Bytes :=
  (Message.replySuccess xid).encode.map (· ++ Xdr.encode res)

section

variable {N X A H : Type} (lib : Library N X A H) (ctx : CallContext H)

def handleRequest (body : Bytes) : Calls GssxProc (Option Bytes) :=
  match Message.decode.run (Stream.new body) with
  | .error _ => pure none
  | .ok (msg, st) =>
    if msg.isCall = false then pure none
    else
      match msg.call with
      | none => pure none
      | some call =>
        if call.prog ≠ GSSPROXY then pure (replyAcceptOther msg.xid PROG_UNAVAIL)
        else if call.vers ≠ GSSPROXYVERS then pure (replyProgMismatch msg.xid)
        else
          match GssxProc.fromU32 call.procNum with
          | none => pure (replyAcceptOther msg.xid PROC_UNAVAIL)
          | some proc =>
            match (Xdr.decode : XdrDecoder proc.Arg).run st with
            | .error _ => pure (replyAcceptOther msg.xid GARBAGE_ARGS)
            | .ok (arg, _) => do
              let res ← Calls.call proc (handle lib ctx proc arg)
              return encodeReply msg.xid res

/-- `handle_conn` on frames. -/
def handleConn : List Bytes → Calls GssxProc (List Bytes)
  | [] => pure []
  | body :: frames => do
    let reply ← handleRequest lib ctx body
    let replies ← handleConn frames
    return reply.toList ++ replies

end

/-! ## Reading a reply -/

def acceptedBody (status : Int32) : XdrDecoder ReplyBody :=
  if status = ACCEPT_SUCCESS then return .acceptedSuccess OpaqueAuth.none
  else if status = ACCEPT_PROG_MISMATCH then
    return .progMismatch OpaqueAuth.none { low := ← getU32, high := ← getU32 }
  else return .acceptedOther OpaqueAuth.none status

def acceptedHeader (xid : UInt32) (status : Int32) : Bytes :=
  List.flatten [putU32 xid, putEnum MSG_REPLY, putEnum REPLY_ACCEPTED, Xdr.encode OpaqueAuth.none,
    putEnum status]

theorem decode_authNone (rest seen : Bytes) :
    (Xdr.decode : XdrDecoder OpaqueAuth).run ⟨Xdr.encode OpaqueAuth.none ++ rest, seen⟩ =
      .ok (OpaqueAuth.none, ⟨rest, seen ++ Xdr.encode OpaqueAuth.none⟩) := by
  have hf := getI32_law.roundtrip AuthFlavor.none.toI32 trivial trivial
    (putOpaque [] ++ rest) seen
  have hb := getOpaque_law.roundtrip [] (by decide) trivial rest
    (seen ++ putI32 AuthFlavor.none.toI32)
  refine Decoder.bind_ok.mpr ⟨_, _, hf, Decoder.bind_ok.mpr ⟨.none, _, rfl, ?_⟩⟩
  refine Decoder.bind_ok.mpr ⟨_, _, hb, ?_⟩
  rw [List.append_assoc]
  rfl

theorem decode_enum (v : Int32) (rest seen : Bytes) :
    getEnum.run ⟨putEnum v ++ rest, seen⟩ = .ok (v, ⟨rest, seen ++ putEnum v⟩) :=
  getI32_law.roundtrip v trivial trivial rest seen

theorem decode_acceptedBody (status : Int32) (rest seen : Bytes) :
    ∃ seen', ReplyBody.decode.run ⟨putEnum REPLY_ACCEPTED ++ (Xdr.encode OpaqueAuth.none ++
      (putEnum status ++ rest)), seen⟩ = (acceptedBody status).run ⟨rest, seen'⟩ := by
  refine ⟨seen ++ putEnum REPLY_ACCEPTED ++ Xdr.encode OpaqueAuth.none ++ putEnum status, ?_⟩
  unfold ReplyBody.decode
  rw [Decoder.run_bind_of_ok (decode_enum _ _ _), if_pos rfl,
    Decoder.run_bind_of_ok (decode_authNone _ _), Decoder.run_bind_of_ok (decode_enum _ _ _)]
  rfl

theorem decode_accepted (xid : UInt32) (status : Int32) (rest : Bytes) :
    ∃ seen, Message.decode.run (Stream.new (acceptedHeader xid status ++ rest)) =
      (do
        let reply ← acceptedBody status
        return ⟨xid, false, none, some reply⟩ : XdrDecoder Message).run ⟨rest, seen⟩ := by
  obtain ⟨seen, hb⟩ := decode_acceptedBody status rest ([] ++ putU32 xid ++ putEnum MSG_REPLY)
  refine ⟨seen, ?_⟩
  simp only [acceptedHeader, List.flatten_cons, List.flatten_nil, List.append_nil,
    List.append_assoc, Stream.new]
  unfold Message.decode
  rw [Decoder.run_bind_of_ok (getU32_law.roundtrip xid trivial trivial _ _),
    Decoder.run_bind_of_ok (decode_enum _ _ _), if_neg (by decide), if_pos rfl, StateT.run_bind,
    hb, StateT.run_bind]

def AcceptedSuccess (reply : Bytes) : Prop :=
  ∃ xid verf st, Message.decode.run (Stream.new reply) =
    .ok (⟨xid, false, none, some (.acceptedSuccess verf)⟩, st)

theorem encodeReply_success {ρ : Type} [Xdr ρ] (xid : UInt32) (res : ρ) :
    ∃ reply, encodeReply xid res = some reply ∧ AcceptedSuccess reply := by
  refine ⟨acceptedHeader xid ACCEPT_SUCCESS ++ Xdr.encode res, ?_, ?_⟩
  · simp [encodeReply, Message.encode, Message.replySuccess, ReplyBody.encode, acceptedHeader]
  · obtain ⟨seen, hd⟩ := decode_accepted xid ACCEPT_SUCCESS (Xdr.encode res)
    exact ⟨xid, OpaqueAuth.none, _, hd⟩

theorem replyAcceptOther_not_success {xid : UInt32} {status : Int32} {reply : Bytes}
    (hs : status ≠ ACCEPT_SUCCESS) (hm : status ≠ ACCEPT_PROG_MISMATCH)
    (h : replyAcceptOther xid status = some reply) : ¬ AcceptedSuccess reply := by
  have hre : reply = acceptedHeader xid status ++ [] := by
    simpa [replyAcceptOther, encodeReplyBody, Message.encode, ReplyBody.encode, acceptedHeader]
      using h.symm
  obtain ⟨seen, hd⟩ := decode_accepted xid status []
  rintro ⟨xid', verf, st, hr⟩
  rw [hre, hd, acceptedBody, if_neg hs, if_neg hm] at hr
  cases hr

theorem replyProgMismatch_not_success {xid : UInt32} {reply : Bytes}
    (h : replyProgMismatch xid = some reply) : ¬ AcceptedSuccess reply := by
  have hre : reply = acceptedHeader xid ACCEPT_PROG_MISMATCH ++
      (putU32 GSSPROXYVERS ++ putU32 GSSPROXYVERS) := by
    simpa [replyProgMismatch, encodeReplyBody, Message.encode, ReplyBody.encode, acceptedHeader]
      using h.symm
  obtain ⟨seen, hd⟩ := decode_accepted xid ACCEPT_PROG_MISMATCH
    (putU32 GSSPROXYVERS ++ putU32 GSSPROXYVERS)
  rintro ⟨xid', verf, st, hr⟩
  rw [hre, hd] at hr
  cases hr

/-! ## What a request runs -/

/-- The procedure that a request calls with an argument that decodes. -/
def requestedProc (body : Bytes) : Option GssxProc := do
  let (msg, st) ← (Message.decode.run (Stream.new body)).toOption
  let call ← msg.call
  if msg.isCall ∧ call.prog = GSSPROXY ∧ call.vers = GSSPROXYVERS then
    let proc ← GssxProc.fromU32 call.procNum
    let _ ← ((Xdr.decode : XdrDecoder proc.Arg).run st).toOption
    return proc
  else none

section

variable {N X A H : Type} (lib : Library N X A H) (ctx : CallContext H)

def Outcome (proc : Option GssxProc) (run : Calls GssxProc (Option Bytes)) : Prop :=
  match proc with
  | some proc => run.log = [proc] ∧ ∃ reply, run.value = some reply ∧ AcceptedSuccess reply
  | none => run.log = [] ∧ ∀ reply, run.value = some reply → ¬ AcceptedSuccess reply

theorem outcome_none {reply : Option Bytes} (h : ∀ r, reply = some r → ¬ AcceptedSuccess r) :
    Outcome none (pure reply) :=
  ⟨rfl, h⟩

theorem handleRequest_outcome (body : Bytes) :
    Outcome (requestedProc body) (handleRequest lib ctx body) := by
  unfold requestedProc handleRequest
  cases Message.decode.run (Stream.new body) with
  | error e => exact outcome_none (by simp)
  | ok r =>
    obtain ⟨msg, st⟩ := r
    simp only [Except.toOption, Option.bind_eq_bind, Option.bind_some]
    cases msg.call with
    | none => simp only [Option.bind_none, ite_self]; exact outcome_none (by simp)
    | some call =>
      simp only [Option.bind_some]
      by_cases hc : msg.isCall = true
      · by_cases hp : call.prog = GSSPROXY
        · by_cases hv : call.vers = GSSPROXYVERS
          · simp only [hc, hp, hv, and_self, if_true, Bool.true_eq_false, if_false, ne_eq,
              not_true_eq_false, Option.pure_def]
            cases GssxProc.fromU32 call.procNum with
            | none =>
              exact outcome_none fun r => replyAcceptOther_not_success (by decide) (by decide)
            | some proc =>
              simp only [Option.bind_some]
              cases (Xdr.decode : XdrDecoder proc.Arg).run st with
              | error e =>
                exact outcome_none fun r => replyAcceptOther_not_success (by decide) (by decide)
              | ok r => exact ⟨rfl, encodeReply_success msg.xid (handle lib ctx proc r.1)⟩
          · simp only [hc, hp, hv, and_false, if_true, Bool.true_eq_false, if_false, ne_eq,
              not_true_eq_false, not_false_eq_true]
            exact outcome_none fun r => replyProgMismatch_not_success
        · simp only [hc, hp, false_and, and_false, if_true, Bool.true_eq_false, if_false,
            ne_eq, not_false_eq_true]
          exact outcome_none fun r => replyAcceptOther_not_success (by decide) (by decide)
      · simp only [hc, if_true]; exact outcome_none (by simp)

theorem handleRequest_served {body : Bytes} {proc : GssxProc} (h : requestedProc body = some proc) :
    (handleRequest lib ctx body).log = [proc] ∧
      ∃ reply, (handleRequest lib ctx body).value = some reply ∧ AcceptedSuccess reply := by
  have ho := handleRequest_outcome lib ctx body
  rw [h] at ho
  exact ho

/-! ## What a connection runs -/

/-- No procedure is run, and no result sent. -/
structure Refused (run : Calls GssxProc (List Bytes)) : Prop where
  executed : run.log = []
  replies : ∀ reply ∈ run.value, ¬ AcceptedSuccess reply

theorem handleConn_refused_iff (frames : List Bytes) :
    Refused (handleConn lib ctx frames) ↔ ∀ body ∈ frames, requestedProc body = none := by
  induction frames with
  | nil => exact ⟨by simp, fun _ => ⟨rfl, by simp [handleConn]⟩⟩
  | cons body frames ih =>
    have hs := handleRequest_outcome lib ctx body
    have hl : (handleConn lib ctx (body :: frames)).log =
        (handleRequest lib ctx body).log ++ (handleConn lib ctx frames).log := by
      simp [handleConn]
    have hv : (handleConn lib ctx (body :: frames)).value =
        (handleRequest lib ctx body).value.toList ++ (handleConn lib ctx frames).value := rfl
    rw [List.forall_mem_cons, ← ih]
    cases hp : requestedProc body with
    | some proc =>
      rw [hp] at hs
      refine ⟨fun h => ?_, fun h => (nomatch h.1)⟩
      have he := h.executed
      rw [hl, hs.1] at he; cases he
    | none =>
      rw [hp] at hs
      constructor
      · intro h
        have he := h.executed
        rw [hl, List.append_eq_nil_iff] at he
        refine ⟨rfl, he.2, fun reply hr => h.replies reply ?_⟩
        exact List.mem_append_right _ hr
      · rintro ⟨-, h⟩
        refine ⟨by rw [hl, hs.1, h.executed]; rfl, fun reply hr => ?_⟩
        rw [hv, List.mem_append, Option.mem_toList] at hr
        exact hr.elim (hs.2 reply) (h.replies reply)

/-- No service matches the connection. -/
def Unmatched (config : Config) (conn : Connection) : Prop :=
  ∀ cred, conn.peerCred = some cred →
    config.matchService cred.uid conn.socket (cred.pid.bind conn.programForPid) = none

theorem resolveContext_unmatched {config : Config} {conn : Connection}
    (registry : Service → Option H) (h : Unmatched config conn) :
    (resolveContext config registry conn).service = none := by
  unfold resolveContext
  cases hc : conn.peerCred with
  | none => rfl
  | some cred =>
    have hs : (CallContext.resolve config conn cred : CallContext H).service = none := h cred hc
    simp [hs]

/-- **When a peer without a service is turned away.**  Its context has no service, and yet exactly
    the frames that are no call of the program go without a procedure run and a result sent. -/
theorem unmatched_refused_iff {config : Config} {conn : Connection}
    (registry : Service → Option H) (h : Unmatched config conn) (frames : List Bytes) :
    (resolveContext config registry conn).service = none ∧
      (Refused (handleConn lib (resolveContext config registry conn) frames) ↔
        ∀ body ∈ frames, requestedProc body = none) :=
  ⟨resolveContext_unmatched registry h, handleConn_refused_iff lib _ frames⟩

end

/-! ## A foreign peer -/

def refusingLib (N X A H : Type) : Library N X A H where
  accept _ _ _ _ _ := ⟨GSS_S_FAILURE, 0, none, none, none, [], 0, none⟩
  inquire _ := .error invalid
  exportSec _ := .error invalid
  importSec _ := .error invalid
  exportLucid _ := .error invalid
  importCred _ := .error invalid
  exportCred _ := .error invalid
  acquireAcceptor := .error invalid
  exportCredsLinux _ _ := .error invalid
  syncOptions _ _ := []
  displayStatus _ _ _ := ⟨[[]], false⟩
  uidToName _ := none
  tid := 0
  importName _ _ := .error invalid
  compareName _ _ := .error invalid
  inquireCred _ := .error invalid
  acquireCredFrom _ _ _ := .error invalid
  acquireCredImpersonateName _ _ _ := .error invalid
  initToSelf _ _ := ⟨GSS_S_FAILURE, 0, []⟩
  acceptFromSelf _ _ := ⟨GSS_S_FAILURE, 0, none⟩
  canonicalizeName _ _ := .error invalid
  displayName _ := .error invalid
  exportName _ := .error invalid
  exportNameComposite _ := .error invalid
  localname _ _ := .error invalid
  indicateMechs := .error invalid
  inquireNamesForMech _ := .error invalid
  inquireAttrsForMech _ := .error invalid
  inquireSaslnameForMech _ := .error invalid
  displayMechAttr _ := .error invalid
  inquireCredByMech _ _ := .error invalid
  inquireImpersonator _ := .error invalid
  exportToken _ := .error invalid
  importToken _ := .error invalid
  sealBytes _ _ := none
  unsealBytes _ _ := none
  initSecContext _ _ _ _ _ _ _ _ := .error invalid
  getMic _ _ _ := .error invalid
  verifyMic _ _ _ := .error invalid
  wrap _ _ _ _ := .error invalid
  unwrap _ _ := .error invalid
  wrapSizeLimit _ _ _ _ := .error invalid

def failingLib : Library Unit Unit Unit Unit := refusingLib _ _ _ _

def webConfig : Config where
  socketName := "/run/gssproxy.sock"
  services :=
    [{ (default : Service) with name := "service/web", euid := 48, mechs := GP_CRED_KRB5 }]

def foreignConn : Connection where
  socket := "/run/gssproxy.sock"
  peerCred := some ⟨1000, 1000, none⟩
  programForPid _ := none

theorem foreignConn_unmatched : Unmatched webConfig foreignConn := by
  rintro cred ⟨⟩
  rfl

/-- A frame too short for an envelope is dropped. -/
theorem foreign_short_frame_refused :
    Refused (handleConn failingLib (resolveContext webConfig (fun _ => none) foreignConn) [[0]]) :=
  (unmatched_refused_iff failingLib _ foreignConn_unmatched [[0]]).2.mpr (by decide +kernel)

def contextCall : Bytes :=
  ((Message.newCall 7 GssxProc.getCallContext.toU32).encode.getD []) ++
    Xdr.encode (default : ArgGetCallContext)

theorem requestedProc_contextCall : requestedProc contextCall = some .getCallContext := by
  decide +kernel

/-- The call of a foreign peer is run and answered. -/
theorem foreign_call_served :
    Unmatched webConfig foreignConn ∧
      (handleRequest failingLib (resolveContext webConfig (fun _ => none) foreignConn)
        contextCall).log = [.getCallContext] ∧
      ∃ reply, (handleRequest failingLib (resolveContext webConfig (fun _ => none) foreignConn)
        contextCall).value = some reply ∧ AcceptedSuccess reply :=
  ⟨foreignConn_unmatched, handleRequest_served _ _ requestedProc_contextCall⟩

end GssProxy.Server
