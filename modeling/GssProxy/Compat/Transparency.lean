import GssProxy.Client.Discipline
import GssProxy.Client.Transact
import GssProxy.Compat.Dispatch
import GssProxy.Interposer.Sides

/-!
# A call from a client of either port to a daemon of either port

* `call_transparent`: a call returns the result of the daemon's handler.
* `calls_served`: so does each call in a smooth run of the C client.
-/

namespace GssProxy.Compat

open Codec Daemon Interposer Proto Rpcgen

section

variable (xid : UInt32) (proc : GssxProc)

/-- The request that a client sends. -/
def requestBytes (arg : proc.Arg) : Port → Option Bytes
  | .c => Client.Gpm.encodeCall xid proc arg
  | .rust => some (Client.Conn.encodeRequest xid proc.toU32 arg)

/-- What a client reads of a reply. -/
def readResult (reply : Bytes) : Port → Option proc.Res
  | .c => (Client.Gpm.decodeReply xid proc reply).toOption
  | .rust => (Client.Conn.decodeReply xid reply).toOption

end

variable (results : Results) (debris : Bytes) (replyBuffer : ReplyBuffer)

/-- What a daemon does with a request. -/
def outcomeOf (body : Bytes) : Port → Outcome
  | .c => daemonOutcome results debris replyBuffer (some ()) body
  | .rust => serverOutcome results body

variable {xid : UInt32} {proc : GssxProc} {arg : proc.Arg} {res : proc.Res} {body : Bytes}

theorem authNone_known : KnownFlavor OpaqueAuth.none.flavor := by decide

theorem call_bytes (xid procNum : UInt32) : ∃ bytes,
    (Message.newCall xid procNum).encode = some bytes ∧
      xdrGpRpcMsg.encode ⟨xid, .chdr (CallHeader.new procNum)⟩ = some bytes ∧
        MsgBytes ⟨xid, .chdr (CallHeader.new procNum)⟩ bytes := by
  refine ⟨_, rfl, ?_, _, ⟨_, _, authNone_bytes, authNone_bytes, rfl⟩, rfl⟩
  rw [xdrGpRpcMsg, proc_encode _ (put_bind (put_field rfl) (put_map (put_field rfl)))]
  simp [putU32, putEnum, putI32, Message.newCall, encode, CallHeader.new, OpaqueAuth.none,
    putOpaque, padLen, roundUp, GpRpcMsgUnion.type, MSG_CALL, GP_RPC_CALL]

theorem requestBytes_eq (ha : Fits arg) (client : Port)
    (h : requestBytes xid proc arg client = some body) :
    ∃ bytes, MsgBytes ⟨xid, .chdr (CallHeader.new proc.toU32)⟩ bytes ∧
      body = bytes ++ Xdr.encode arg := by
  obtain ⟨bytes, hr, hc, hb⟩ := call_bytes xid proc.toU32
  refine ⟨bytes, hb, ?_⟩
  cases client with
  | c =>
    simp [requestBytes, Client.Gpm.encodeCall, hc, (xdrArg_agrees proc).encode arg ha] at h
    exact h.2.symm
  | rust => simp [requestBytes, Client.Conn.encodeRequest, hr] at h; exact h.symm

theorem request_served (client daemon : Port) (ha : Fits arg)
    (h : requestBytes xid proc arg client = some body)
    (hf : 24 + (Xdr.encode (results proc arg).1).length ≤ MAX_RPC_SIZE) :
    outcomeOf results debris replyBuffer body daemon =
      .reply (replyBytes xid successHeader ++ Xdr.encode (results proc arg).1) := by
  obtain ⟨bytes, hb, rfl⟩ := requestBytes_eq ha client h
  obtain ⟨⟨unread, seen⟩, hst, rfl⟩ :=
    decodeMessage_accepts.complete (s := Stream.new (bytes ++ Xdr.encode arg))
      (.inr ⟨_, .call xid _, ⟨authNone_known, authNone_known⟩, hb⟩) rfl
  have hp : Passes (CallHeader.new proc.toU32) proc := ⟨rfl, rfl, rfl, by cases proc <;> rfl, rfl⟩
  have hd := LawfulXdr.law.roundtrip arg ha trivial [] seen
  rw [List.append_nil] at hd
  cases daemon with
  | c =>
    obtain ⟨x, hx⟩ := decodeArg_to_c hd
    exact (daemonOutcome_served results hst debris replyBuffer ()
      (hp.daemon_serves hx)).trans (if_pos hf)
  | rust => exact serverOutcome_served results hst (hp.server_serves hd)

theorem readResult_served (client : Port) (hr : Fits res) :
    readResult xid proc (replyBytes xid successHeader ++ Xdr.encode res) client = some res := by
  obtain ⟨-, hb⟩ := encode_reply xid success_emitted
  have hd := LawfulXdr.law.roundtrip res hr trivial []
  rw [List.append_nil] at hd
  cases client with
  | c =>
    obtain ⟨⟨unread, bools⟩, hx, rfl⟩ := xdrGpRpcMsg_accepts.complete
      (s := XdrMem.new (replyBytes xid successHeader ++ Xdr.encode res)) hb rfl
    obtain rfl : bools = [] := Unlogged.xdrGpRpcMsg _ _ _ hx
    obtain ⟨x, hr', -⟩ := (xdrRes_agrees proc).decode.to_c (hd [])
      ⟨Xdr.encode res, []⟩ rfl (List.forall_mem_nil _)
    simp only [readResult, Client.Gpm.decodeReply, hx, hr']
    simp [successHeader, GpRpcReplyUnion.status, Except.toOption]
  | rust =>
    obtain ⟨⟨unread, seen⟩, hst, rfl⟩ := decodeMessage_accepts.complete
      (s := Stream.new (replyBytes xid successHeader ++ Xdr.encode res))
      (.inr ⟨_, .reply xid (.success _), authNone_known, hb⟩) rfl
    simp only [readResult, Client.Conn.decodeReply, hst, hd]
    simp [Except.toOption]

/-- **A call reaches the handler and its result comes back.**  Whichever port the client and the
    daemon are of, the handler gets the argument of the client, and the client reads the handler's
    result from the reply. -/
theorem call_transparent (client daemon : Port) (harg : Fits arg)
    (hsent : requestBytes xid proc arg client = some body)
    (hfits : 24 + (Xdr.encode (results proc arg).1).length ≤ MAX_RPC_SIZE) :
    ∃ reply, outcomeOf results debris replyBuffer body daemon = .reply reply ∧
      readResult xid proc reply client = some (results proc arg).1 :=
  ⟨_, request_served results debris replyBuffer client daemon harg hsent hfits,
    readResult_served client (results proc arg).2⟩

def asked : ArgGetCallContext := ⟨{ (default : GssxCallCtx) with serverCtx := ⟨[1, 2]⟩ }, [⟨⟨[3]⟩, ⟨[4]⟩⟩]⟩

def answer : ResGetCallContext :=
  { (default : ResGetCallContext) with serverCallCtx := ⟨[2, 1]⟩, options := [⟨⟨[3]⟩, ⟨[4, 5]⟩⟩] }

theorem asked_fits : Fits asked := by
  have hd : (Xdr.decode : XdrDecoder ArgGetCallContext).run (Stream.new (Xdr.encode asked)) =
      .ok (asked, ⟨[], Xdr.encode asked⟩) := by decide +kernel
  exact (LawfulXdr.law.sound _ _ _ hd).1.1

theorem answer_fits : Fits answer := by
  have hd : (Xdr.decode : XdrDecoder ResGetCallContext).run (Stream.new (Xdr.encode answer)) =
      .ok (answer, ⟨[], Xdr.encode answer⟩) := by decide +kernel
  exact (LawfulXdr.law.sound _ _ _ hd).1.1

/-- A handler that knows one request. -/
def answering : Results
  | .getCallContext, arg =>
    if (show ArgGetCallContext from arg) = asked then ⟨answer, answer_fits⟩
    else blankResults .getCallContext arg
  | proc, arg => blankResults proc arg

theorem call_transparent_answer : ∃ body reply,
    requestBytes 7 .getCallContext asked .rust = some body ∧
      outcomeOf answering [] blankBuffer body .c = .reply reply ∧
        readResult 7 .getCallContext reply .rust = some answer := by
  have hs : requestBytes 7 .getCallContext asked .rust = some _ := rfl
  obtain ⟨reply, hr⟩ :=
    call_transparent answering [] blankBuffer .rust .c asked_fits hs (by decide +kernel)
  exact ⟨_, reply, rfl, hr⟩

/-! ## Runs of the C client -/

open Client.Gpm GssProxy.System

/-- **Calls are served.**  In every run of smooth calls of the C client, a call that succeeds on a
    request that is answered as a daemon of either port does returns the handler's result. -/
theorem calls_served (daemon : Port) {server : Client.Daemon} {nextXid : Int32} {ctx ctx' : GpmCtx}
    {call : Invocation} {res : call.proc.Res} (hrun : call.run server ctx = some (.ok res, ctx'))
    (hreach : Reach (step server) Smooth (.init nextXid) ctx) (hsmooth : Smooth ctx call)
    (hlimit : ∀ id requests, (server id requests).length ≤ MAX_RPC_SIZE) (harg : Fits call.arg)
    (hfits : 24 + (Xdr.encode (results call.proc call.arg).1).length ≤ MAX_RPC_SIZE)
    (hserver : ∀ body, encodeCall (gpmNextXid ctx.nextXid).1 call.proc call.arg = some body →
      ∀ id before, outcomeOf results debris replyBuffer body daemon =
        .reply (server id (before ++ [body]))) : res = (results call.proc call.arg).1 := by
  have hse : Settled ctx.fd :=
    hreach.invariant (I := fun ctx => Settled ctx.fd) settled_none (settled_step hlimit)
  obtain ⟨-, hsu⟩ := gpmMakeCall_spec (φ := True) (fun _ => hlimit) ⟨ctx, call.events⟩ _ _
    ⟨fun _ => ⟨hsmooth, hse⟩, smooth_any _, rfl⟩ (run_eq_some hrun)
  obtain ⟨reply, -, ⟨accepted, rest, _, hm, hst, hrs⟩, ho⟩ := hsu res rfl
  obtain ⟨body, ch, hsn, -, -, ⟨before, hre⟩, rfl⟩ := ho trivial
  have hs := request_served results debris replyBuffer .c daemon harg hsn hfits
  rw [hserver body hsn ch.id before, ← hre] at hs
  have hr := @readResult_served (gpmNextXid ctx.nextXid).1 _ _ .c
    (results call.proc call.arg).2
  rw [← Outcome.reply.inj hs] at hr
  simp only [readResult, decodeReply, hm, hst, hrs] at hr
  simpa [Except.toOption] using hr

/-- A daemon that gives the answer to every request. -/
def answerer : Client.Daemon := fun _ requests =>
  (requests.getLastD []).take 4 ++ ((replyBytes 0 successHeader).drop 4 ++ Xdr.encode answer)

theorem answerer_length (id : Nat) (requests : List Bytes) :
    (answerer id requests).length ≤ MAX_RPC_SIZE := by
  have ha : ((replyBytes 0 successHeader).drop 4 ++ Xdr.encode answer).length = 84 := by
    decide +kernel
  have ht := List.length_take_le 4 (requests.getLastD [])
  simp only [answerer, List.length_append, ha, MAX_RPC_SIZE]
  omega

abbrev askedCall (opened : List Event) : Invocation :=
  ⟨⟨1, 0, 0⟩, .getCallContext, asked,
    grabbed opened ++ ready ++ [.send .header (.ok 4)] ++ ready ++ [.send .body (.ok 76)] ++ ready ++
      [.read .header (.ok 4), .returns .malloc 0] ++ ready ++ [.read .body (.ok 88)]⟩

/-- The second call on a connection gets the answer. -/
theorem calls_served_second : ∃ ctx ctx', step answerer (.init 7) (askedCall opening) = some ctx ∧
      (askedCall []).run answerer ctx = some (.ok answer, ctx') := by
  have hok : (step answerer (.init 7) (askedCall opening)).bind (fun ctx =>
      ((askedCall []).run answerer ctx).map fun r => (ctx.nextXid, r.1.isOk)) = some (8, true) := by
    decide +kernel
  obtain ⟨ctx, hf, hs⟩ := Option.bind_eq_some_iff.mp hok
  obtain ⟨⟨r, ctx'⟩, hru, hr⟩ := Option.map_eq_some_iff.mp hs
  obtain ⟨hx, hr⟩ := Prod.mk.inj hr
  cases r with
  | error ret => cases hr
  | ok res =>
    have hse : ∀ body, encodeCall (gpmNextXid ctx.nextXid).1 .getCallContext asked = some body →
        ∀ id before, outcomeOf answering [] blankBuffer body .rust =
          .reply (answerer id (before ++ [body])) := by
      rw [hx]
      rintro _ ⟨⟩ id before
      simp only [answerer, List.getLastD_concat]
      decide +kernel
    obtain rfl := calls_served answering [] blankBuffer .rust hru
      (.next .start (by decide +kernel : Smooth _ (askedCall opening)) hf)
      (show smooth .idle (askedCall []).events = true by decide +kernel) answerer_length asked_fits
      (by decide +kernel) hse
    exact ⟨ctx, ctx', hf, hru⟩

end GssProxy.Compat
