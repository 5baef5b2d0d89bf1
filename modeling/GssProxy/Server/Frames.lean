import GssProxy.Proto.Frame
import GssProxy.Server.Dispatch

/-!
# Frames of the Rust daemon

`handle_conn` reads a frame, has it handled by handlers that are a parameter, and writes the reply as a
frame of its own.

* `frames_readable_iff`: when a client can read every reply.
-/

namespace GssProxy.Server

open Codec Effect Proto

/-! ## Requests and any handlers -/

def checkCall (call : CallHeader) (st : Stream) : Except ReplyBody ((proc : GssxProc) × proc.Arg) :=
  if call.prog ≠ GSSPROXY then .error (.acceptedOther OpaqueAuth.none PROG_UNAVAIL)
  else if call.vers ≠ GSSPROXYVERS then
    .error (.progMismatch OpaqueAuth.none ⟨GSSPROXYVERS, GSSPROXYVERS⟩)
  else
    match GssxProc.fromU32 call.procNum with
    | none => .error (.acceptedOther OpaqueAuth.none PROC_UNAVAIL)
    | some proc =>
      match (Xdr.decode : XdrDecoder proc.Arg).run st with
      | .error _ => .error (.acceptedOther OpaqueAuth.none GARBAGE_ARGS)
      | .ok (arg, _) => .ok ⟨proc, arg⟩

/-- The transaction of a request, and the call it makes or the reply that refuses it. -/
def judge (body : Bytes) : Option (UInt32 × Except ReplyBody ((proc : GssxProc) × proc.Arg)) :=
  match Message.decode.run (Stream.new body) with
  | .error _ => none
  | .ok (msg, st) =>
    if msg.isCall = false then none else msg.call.map fun call => (msg.xid, checkCall call st)

def serve (run : (proc : GssxProc) → proc.Arg → proc.Res) (body : Bytes) :
    Calls GssxProc (Option Bytes) :=
  match judge body with
  | none => pure none
  | some (xid, .error reply) => pure (encodeReplyBody xid reply)
  | some (xid, .ok ⟨proc, arg⟩) => Calls.call proc (encodeReply xid (run proc arg))

theorem handleRequest_eq_serve {N X A H : Type} (lib : Library N X A H) (ctx : CallContext H)
    (body : Bytes) : handleRequest lib ctx body = serve (handle lib ctx) body := by
  unfold handleRequest serve judge
  rcases Message.decode.run (Stream.new body) with e | ⟨⟨xid, _ | _, _ | call, reply⟩, st⟩
  case ok.true.some =>
    simp only [Bool.true_eq_false, if_false, Option.map_some, checkCall]
    split
    · rfl
    split
    · rfl
    cases GssxProc.fromU32 call.procNum with
    | none => rfl
    | some proc =>
      cases hd : (Xdr.decode : XdrDecoder proc.Arg).run st <;> simp only [hd] <;> rfl
  all_goals rfl

/-! ## The connection -/

/-- Why a connection ends. -/
inductive ConnEnd where
  | disconnected
  | unexpectedEof
  | invalidData (e : FrameError)
  deriving DecidableEq, Repr

def readBody (header : UInt32) (input : Bytes) : Except ConnEnd (Bytes × Bytes) :=
  match parseHeader header with
  | .error e => .error (.invalidData e)
  | .ok len =>
    if input.length < len then .error .unexpectedEof else .ok (input.take len, input.drop len)

def readRequest : Bytes → Except ConnEnd (Bytes × Bytes)
  | b₀ :: b₁ :: b₂ :: b₃ :: input => readBody (ofBeBytes b₀ b₁ b₂ b₃) input
  | _ => .error .disconnected

variable {input body : Bytes} {rest : Bytes}

theorem readBody_le {header : UInt32}
    (h : readBody header input = .ok (body, rest)) : rest.length ≤ input.length := by
  unfold readBody at h
  split at h
  · cases h
  · split at h
    · cases h
    · cases h; simp

theorem readRequest_shorter (h : readRequest input = .ok (body, rest)) :
    rest.length < input.length := by
  unfold readRequest at h
  split at h
  · have hle := readBody_le h
    simp only [List.length_cons]; omega
  · cases h

/-- `handle_conn` on the bytes of a connection. -/
def handleStream (run : (proc : GssxProc) → proc.Arg → proc.Res) (input : Bytes) :
    Calls GssxProc (List Bytes × ConnEnd) :=
  match _h : readRequest input with
  | .error e => pure ([], e)
  | .ok (body, rest) => do
    let reply ← serve run body
    let (written, e) ← handleStream run rest
    return (reply.toList.map frame ++ written, e)
termination_by input.length
decreasing_by exact readRequest_shorter _h

/-- The requests in the bytes of a connection. -/
def requests (input : Bytes) : List Bytes :=
  match _h : readRequest input with
  | .error _ => []
  | .ok (body, rest) => body :: requests rest
termination_by input.length
decreasing_by exact readRequest_shorter _h

section

variable (run : (proc : GssxProc) → proc.Arg → proc.Res)

theorem requests_of_error {e : ConnEnd} (h : readRequest input = .error e) :
    requests input = [] := by
  rw [requests]
  split
  · rfl
  · simp_all

theorem requests_of_ok (h : readRequest input = .ok (body, rest)) :
    requests input = body :: requests rest := by
  rw [requests]
  split
  · simp_all
  · rename_i hr
    rw [h] at hr
    cases hr; rfl

theorem handleStream_of_error {e : ConnEnd} (h : readRequest input = .error e) :
    handleStream run input = pure ([], e) := by
  rw [handleStream]
  split <;> simp_all

theorem handleStream_of_ok (h : readRequest input = .ok (body, rest)) : handleStream run input = do
      let reply ← serve run body
      let (written, e) ← handleStream run rest
      return (reply.toList.map frame ++ written, e) := by
  rw [handleStream]
  split
  · simp_all
  · rename_i hr
    rw [h] at hr
    cases hr; rfl

theorem handleStream_written (input : Bytes) :
    (handleStream run input).value.1 =
      (requests input).flatMap fun body => (serve run body).value.toList.map frame := by
  induction hn : input.length using Nat.strongRecOn generalizing input with
  | ind n ih =>
    cases hr : readRequest input with
    | error e => rw [handleStream_of_error run hr, requests_of_error hr]; rfl
    | ok r =>
      obtain ⟨body, rest⟩ := r
      rw [handleStream_of_ok run hr, requests_of_ok hr, List.flatMap_cons,
        ← ih rest.length (hn ▸ readRequest_shorter hr) rest rfl]
      rfl

/-! ## Sizes -/

variable {reply : ReplyBody}

theorem checkCall_error {call : CallHeader} {st : Stream} (h : checkCall call st = .error reply) :
    (∃ status, (status = PROG_UNAVAIL ∨ status = PROC_UNAVAIL ∨ status = GARBAGE_ARGS) ∧
      reply = .acceptedOther OpaqueAuth.none status) ∨
      reply = .progMismatch OpaqueAuth.none ⟨GSSPROXYVERS, GSSPROXYVERS⟩ := by
  unfold checkCall at h
  split at h
  · exact .inl ⟨_, .inl rfl, (Except.error.inj h).symm⟩
  split at h
  · exact .inr (Except.error.inj h).symm
  split at h
  · exact .inl ⟨_, .inr (.inl rfl), (Except.error.inj h).symm⟩
  split at h
  · exact .inl ⟨_, .inr (.inr rfl), (Except.error.inj h).symm⟩
  · cases h

theorem judge_error {xid : UInt32}
    (h : judge body = some (xid, .error reply)) : ∃ call st, checkCall call st = .error reply := by
  unfold judge at h
  split at h
  · cases h
  split at h
  · cases h
  obtain ⟨call, -, hc⟩ := Option.map_eq_some_iff.mp h
  exact ⟨call, _, (Prod.mk.inj hc).2⟩

theorem length_encodeReplyBody {bytes : Bytes} {xid : UInt32}
    (h : judge body = some (xid, .error reply)) (hb : encodeReplyBody xid reply = some bytes) :
    bytes.length ≤ 32 := by
  obtain ⟨call, st, hc⟩ := judge_error h
  rcases checkCall_error hc with ⟨status, -, rfl⟩ | rfl
  · cases hb; exact Nat.le_of_ble_eq_true rfl
  · cases hb; exact Nat.le_of_ble_eq_true rfl

theorem length_encodeReply {ρ : Type} [Xdr ρ] {xid : UInt32} {res : ρ} {bytes : Bytes}
    (h : encodeReply xid res = some bytes) : bytes.length = 24 + (Xdr.encode res).length := by
  obtain ⟨envelope, he, rfl⟩ := Option.map_eq_some_iff.mp h
  cases he
  rw [List.length_append]
  rfl

/-- The result of the call fits in a message. -/
def ResultFits (body : Bytes) : Prop :=
  ∀ xid proc arg, judge body = some (xid, .ok ⟨proc, arg⟩) →
    24 + (Xdr.encode (run proc arg)).length ≤ MAX_RPC_SIZE

theorem serve_fits_iff (body : Bytes) :
    (∀ reply, (serve run body).value = some reply → reply.length ≤ MAX_RPC_SIZE) ↔
      ResultFits run body := by
  unfold serve ResultFits
  cases hj : judge body with
  | none => simp
  | some verdict =>
    obtain ⟨xid, reply | ⟨proc, arg⟩⟩ := verdict
    · simp only [Option.some.injEq, Prod.mk.injEq, reduceCtorEq, and_false, false_implies,
        implies_true, iff_true]
      intro bytes hb
      have hl := length_encodeReplyBody hj hb
      unfold MAX_RPC_SIZE; omega
    · constructor
      · rintro h xid' proc' arg' ⟨⟩
        obtain ⟨reply, hr, -⟩ := encodeReply_success xid (run proc arg)
        rw [← length_encodeReply hr]
        exact h reply hr
      · intro h reply hr
        rw [length_encodeReply hr]
        exact h xid proc arg rfl

/-- **When every frame written is readable.**  For every stream a client sends, and every result of
    the handlers. -/
theorem frames_readable_iff (input : Bytes) :
    (∀ written ∈ (handleStream run input).value.1, Readable written) ↔
      ∀ body ∈ requests input, ResultFits run body := by
  rw [handleStream_written]
  simp only [← serve_fits_iff, List.mem_flatMap, List.mem_map, Option.mem_toList]
  constructor
  · intro h body hb reply hr
    exact (readable_frame_iff reply).mp (h _ ⟨body, hb, reply, hr, rfl⟩)
  · rintro h _ ⟨body, hb, reply, hr, rfl⟩
    exact (readable_frame_iff reply).mpr (h body hb reply hr)

end

/-! ## A result beyond the limit -/

theorem readRequest_beBytes (header : UInt32) (input : Bytes) :
    readRequest (beBytes header ++ input) = readBody header input := by
  simp only [beBytes, List.cons_append, List.nil_append, readRequest, ofBeBytes_beBytes]

theorem readRequest_frame (body : Bytes) (h : body.length ≤ MAX_RPC_SIZE) (rest : Bytes) :
    readRequest (frame body ++ rest) = .ok (body, rest) := by
  rw [frame, encodeHeader, List.append_assoc, readRequest_beBytes]
  unfold readBody
  rw [parseHeader_marked h]
  simp

instance (proc : GssxProc) : DecidableEq proc.Arg := by
  cases proc <;> exact inferInstance

instance (proc : GssxProc) : Inhabited proc.Res := by
  cases proc <;> exact inferInstance

def contextResult (data : Bytes) : ResGetCallContext :=
  { (default : ResGetCallContext) with serverCallCtx := ⟨data⟩ }

def largeResults : (proc : GssxProc) → proc.Arg → proc.Res
  | .getCallContext, _ => contextResult (List.replicate 1048576 0)
  | _, _ => default

theorem length_contextResult (data : Bytes) :
    data.length ≤ (Xdr.encode (contextResult data)).length := by
  simp only [Xdr.encode, contextResult, putOpaque, List.length_flatten, List.map_cons, List.sum_cons,
    List.length_append]
  omega

theorem judge_contextCall :
    judge contextCall = some (7, .ok ⟨.getCallContext, (default : ArgGetCallContext)⟩) := by
  decide +kernel

theorem requests_contextCall : requests (frame contextCall) = [contextCall] := by
  have hr := readRequest_frame contextCall (by decide) []
  rw [List.append_nil] at hr
  rw [requests_of_ok hr, requests_of_error (show readRequest [] = .error .disconnected from rfl)]

/-- The frame with the large result is written, and no client reads it. -/
theorem large_result_unreadable :
    ∃ written ∈ (handleStream largeResults (frame contextCall)).value.1, ¬ Readable written := by
  obtain ⟨reply, hr, -⟩ := encodeReply_success 7 (contextResult (List.replicate 1048576 0))
  have hs : (serve largeResults contextCall).value = some reply := by
    rw [serve, judge_contextCall]; exact hr
  refine ⟨frame reply, ?_, ?_⟩
  · rw [handleStream_written, requests_contextCall]; simp [hs]
  · have hl := length_contextResult (List.replicate 1048576 0)
    rw [List.length_replicate] at hl
    rw [readable_frame_iff, length_encodeReply hr, MAX_RPC_SIZE]; omega

end GssProxy.Server
