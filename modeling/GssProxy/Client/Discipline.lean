import GssProxy.Client.Exchange
import GssProxy.System.Run

/-!
# The connection of the C client between calls

* `connection_discipline`: in smooth calls the socket stays at a message boundary.
* `late_reply_misread`: after another one a call reads the reply to the call before.
-/

namespace GssProxy.Client.Gpm

open Codec Effect Effect.Traced Gss Proto
open Rpcgen GssProxy.System

section

variable {daemon : Daemon} {who : Identity} {buffer reply rest : Bytes}

/-! ## A call -/

theorem Reading.settled {w : World Event GpmCtx} (h : Reading daemon buffer reply [] w) :
    Settled w.state.fd := by
  obtain ⟨ch, hc, ha, hu⟩ := h
  rintro ch' hch'
  cases hc.2.symm.trans hch'
  exact ⟨ha.sent, hu⟩

theorem retry_adrift {J : Option Channel → Prop} {m : GpmM (Except UInt32 Bytes)}
    {Q : Except UInt32 Bytes → World Event GpmCtx → Prop} (hm : Triple Idle m Q)
    (hQ : ∀ ret w, Settled w.state.fd → Q (.error ret) w) :
    Triple (Adrift J) (do
      let ret ← gpmRetrySocket who
      if ret ≠ 0 then return .error ret
      m) Q := by
  refine .bind gpmRetrySocket_adrift fun ret => ?_
  refine .ite (fun hne => .pure fun w h => hQ ret w ?_) fun h0 => ?_
  · obtain ⟨p, hc, -⟩ := h.2 hne
    rw [hc.2]
    exact settled_none
  · exact hm.conseq (fun w h => h.1 (not_not.mp h0)) fun _ _ h => h

theorem sendRecv_idle (hd : ∀ id requests, (daemon id requests).length ≤ MAX_RPC_SIZE) (n : Nat) :
    Triple Idle (sendRecv daemon who buffer n) fun r w =>
      match r with
      | .error _ => Settled w.state.fd
      | .ok reply => Reading daemon buffer reply [] w := by
  induction n with
  | zero => exact .pure fun w h => h.2
  | succ n ih =>
    refine .bind gpmSendBuffer_idle fun ret => ?_
    refine .ite (fun ht => ?_) fun ho => .ite (fun hne => .pure fun w h => ?_) fun h0 => ?_
    · have hne : ret ≠ 0 := ht ▸ by decide
      exact (retry_adrift ih fun _ _ h => h).conseq (fun w h => h.2 hne) fun _ _ h => h
    · obtain ⟨p, hc, -⟩ := h.2 hne; exact hc.2 ho
    · refine .bind ((gpmRecvBuffer_awaiting hd).conseq (fun w h => h.1 (not_not.mp h0))
        fun _ _ h => h) fun r => ?_
      cases r with
      | ok reply => exact .pure fun w h => h
      | error ret =>
        refine .ite (fun _ => ?_) fun hne => .pure fun w h => absurd h.1 hne
        exact (retry_adrift ih fun _ _ h => h).conseq (fun w h => h.2) fun _ _ h => h

theorem ask_idle {call : Sys} (hc : call ≠ .connect) : Triple Idle (ask call) fun _ => Idle :=
  (ask_calm hc).conseq (fun _ h => h) fun _ _ h => h.1

theorem gpmTimerSetup_calm {p : Phase} {J : Option Channel → Int32 → Prop} :
    Triple (Calm p J) gpmTimerSetup fun _ => Calm p J := by
  refine .bind gpmTimerClose_calm fun _ => ?_
  refine .bind (ask_calm (by decide)) fun ret => .assuming fun _ => ?_
  refine .ite (fun _ => .pure fun w h => h) fun _ => ?_
  refine .bind (update_calm (fun _ => rfl) fun _ => rfl) fun _ => ?_
  refine .bind (ask_calm (by decide)) fun ret => .assuming fun _ => ?_
  exact .ite (fun _ => .bind gpmTimerClose_calm fun _ => .pure fun w h => h)
    fun _ => .pure fun w h => h

theorem gpmDropForeign_idle : Triple Idle (gpmDropForeign who) fun _ => Idle := by
  refine .update fun w h => ⟨h.1, ?_⟩
  split
  · exact settled_none
  · exact h.2

theorem gpmEnsureSocket_idle :
    Triple Idle (gpmEnsureSocket who) fun ret w =>
      (ret = 0 → Idle w) ∧ (ret ≠ 0 → Adrift (· = none) w) := by
  refine .bind (.read (Q := fun ctx w => Idle w ∧ w.state = ctx) fun w h => ⟨h, rfl⟩) fun ctx => ?_
  refine .ite (fun hn => ?_) fun _ => .pure fun w h => ⟨fun _ => h.1, fun hne => absurd rfl hne⟩
  refine gpmOpenSocket_shut.conseq (fun w ⟨h, hc⟩ => ⟨.idle, ⟨h.1, ?_⟩, by decide⟩) fun _ _ h => h
  rw [hc]
  exact hn

theorem gpmSetupSock_idle :
    Triple Idle (gpmSetupSock who) fun ret w => (ret = 0 → Idle w) ∧ Settled w.state.fd := by
  refine .bind gpmDropForeign_idle fun _ => .bind gpmEnsureSocket_idle fun ret => ?_
  refine .ite (fun hne => .pure fun w h => ⟨fun h0 => absurd h0 hne, ?_⟩) fun h0 => ?_
  · obtain ⟨p, hc, -⟩ := h.2 hne
    rw [hc.2]
    exact settled_none
  refine .bind (gpmTimerSetup_calm.conseq (fun w h => h.1 (not_not.mp h0)) fun _ _ h => h)
    fun ret => ?_
  refine .ite (fun _ => .pure fun w h => ⟨fun _ => h, h.2⟩) fun _ => ?_
  exact gpmEpollSetup_calm.conseq (fun _ h => h) fun _ _ h => ⟨fun _ => h.1, h.1.2⟩

theorem gpmReleaseSock_any :
    Triple (fun w => Settled w.state.fd) gpmReleaseSock fun _ w => Settled w.state.fd :=
  (gpmReleaseSock_calm (p := .any) (J := fun fd _ => Settled fd)).conseq
    (fun _ h => ⟨smooth_any _, h⟩) fun _ _ h => h.2

theorem gpmGrabSock_idle :
    Triple Idle (gpmGrabSock who) fun ret w => (ret = 0 → Idle w) ∧ Settled w.state.fd := by
  refine .bind (ask_calm (by decide)) fun ret => .assuming fun _ => ?_
  refine .ite (fun _ => .pure fun w h => ⟨fun _ => h, h.2⟩) fun _ => ?_
  refine .bind gpmSetupSock_idle fun ret => ?_
  refine .ite (fun hne => ?_) fun h0 => .pure fun w h => ⟨fun _ => h.1 (not_not.mp h0), h.2⟩
  refine .bind (gpmReleaseSock_any.conseq (fun w h => h.2) fun _ _ h => h) fun _ => ?_
  exact .pure fun w h => ⟨fun h0 => absurd h0 hne, h⟩

/-! ## The transaction number -/

section

variable {J : Int32 → Prop}

abbrev Counter (J : Int32 → Prop) : World Event GpmCtx → Prop := Calm .any fun _ xid => J xid

theorem ask_counter {call : Sys} : Triple (Counter J) (ask call) fun _ => Counter J :=
  ask_triple fun _ _ _ h => (calm_cons.mp h).2

theorem update_counter {f : GpmCtx → GpmCtx} (hx : ∀ ctx, (f ctx).nextXid = ctx.nextXid) :
    Triple (Counter J) (update f) fun _ => Counter J := by
  refine .update fun w h => ⟨smooth_any _, ?_⟩
  rw [hx]
  exact h.2

theorem gpmOpenSocket_counter : Triple (Counter J) (gpmOpenSocket who) fun _ => Counter J := by
  refine .bind ask_counter fun ret => .ite (fun _ => .pure fun w h => h) fun _ => ?_
  refine .bind ask_counter fun ret => .bind (update_counter fun ctx => ?_) fun _ => .pure fun w h => h
  split <;> rfl

theorem gpmGrabSock_counter : Triple (Counter J) (gpmGrabSock who) fun _ => Counter J := by
  refine .bind ask_counter fun ret => .ite (fun _ => .pure fun w h => h) fun _ => ?_
  refine .bind (Q := fun _ => Counter J) ?_ fun ret => .ite
    (fun _ => .bind gpmReleaseSock_calm fun _ => .pure fun w h => h) fun _ => .pure fun w h => h
  refine .bind (update_counter fun ctx => ?_) fun _ => ?_
  · split <;> rfl
  refine .bind (Q := fun _ => Counter J) ?_ fun ret => .ite (fun _ => .pure fun w h => h) fun _ => ?_
  · refine .bind (.read (Q := fun _ => Counter J) fun w h => h) fun ctx => ?_
    exact .ite (fun _ => gpmOpenSocket_counter) fun _ => .pure fun w h => h
  refine .bind gpmTimerSetup_calm fun ret => .ite (fun _ => .pure fun w h => h) fun _ => ?_
  exact gpmEpollSetup_calm.conseq (fun _ h => h) fun _ _ h => h.1

end

/-! ## What was read -/

def Received (bytes : Bytes) (fd : Option Channel) : Prop :=
  ∃ ch, fd = some ch ∧ bytes <:+ ch.received

theorem readHeader_received :
    Triple (Calm .any fun _ _ => True) readHeader fun r w =>
      ∀ size, r = .ok size → Received [] w.state.fd := by
  refine .loop (I := fun _ => Calm .any fun _ _ => True) (fun _ => ?_) ()
  refine .bind gpmEpollWait_calm fun ret => .assuming fun _ => ?_
  refine .ite (fun _ => .pure fun w h => nofun) fun _ => ?_
  refine .bind (Q := fun r w => Calm .any (fun _ _ => True) w ∧ ∀ size, r = .ok size →
    Received [] w.state.fd) ?_ fun r => ?_
  · exact read_triple (fun s errno es h => ⟨(calm_cons.mp h).2, nofun⟩) fun s ch rn es _ _ _ h =>
      ⟨(calm_cons.mp h).2, fun _ _ => ⟨_, rfl, List.nil_suffix⟩⟩
  cases r with
  | error errno =>
    refine .pure fun w h => ?_
    by_cases hi : errno = EINTR
    · rw [if_pos hi]; exact h.1
    · rw [if_neg hi]; exact nofun
  | ok size => exact .pure fun w h size' _ => h.2 size rfl

theorem readSocket_received {part : Part} {count : Nat} {bytes : Bytes} :
    Triple (Calm .any fun fd _ => Received bytes fd) (readSocket part count) fun r =>
      Calm .any fun fd _ => Received (bytes ++ r.toOption.getD []) fd := by
  refine read_triple (fun s errno es h => ?_) fun s ch rn es hfd _ _ h => ?_
  · rw [Except.toOption, Option.getD_none, List.append_nil]; exact (calm_cons.mp h).2
  · obtain ⟨ch', hch', before, hb⟩ := h.2
    cases hfd.symm.trans hch'
    refine ⟨smooth_any _, ch.read rn, rfl, before, ?_⟩
    rw [← List.append_assoc, hb]; rfl

theorem readBody_received {length : Nat} :
    Triple (Calm .any fun fd _ => Received [] fd) (readBody length) fun r w =>
      ∀ bytes, r = .ok bytes → Received bytes w.state.fd := by
  refine .loop (I := fun bytes => Calm .any fun fd _ => Received bytes fd) (fun bytes => ?_) []
  refine .ite (fun _ => .pure fun w h bytes' heq => ?_) fun _ => ?_
  · cases heq; exact h.2
  refine .bind gpmEpollWait_calm fun ret => .assuming fun _ => ?_
  refine .ite (fun _ => .pure fun w h => nofun) fun _ => ?_
  refine .bind readSocket_received fun r => ?_
  cases r with
  | error errno =>
    refine .pure fun w h => ?_
    rw [Except.toOption, Option.getD_none, List.append_nil] at h
    by_cases ha : errno = EINTR ∨ errno = EAGAIN
    · rw [if_pos ha]; exact h
    · rw [if_neg ha]; exact nofun
  | ok more =>
    refine .pure fun w h => ?_
    by_cases he : more = []
    · rw [if_pos he]; exact nofun
    · rw [if_neg he]; exact h

theorem gpmRecvBuffer_received :
    Triple (fun _ => True) gpmRecvBuffer fun r w =>
      ∀ reply, r = .ok reply → Received reply w.state.fd := by
  refine .bind (readHeader_received.conseq (fun w _ => ⟨smooth_any _, trivial⟩) fun _ _ h => h)
    fun r => ?_
  cases r with
  | error ret => exact .pure fun w h => nofun
  | ok size =>
    simp only
    split
    · exact .pure fun w h => nofun
    refine .ite (fun _ => .pure fun w h => nofun) fun _ => ?_
    refine .bind ((ask_calm (p := .any) (J := fun fd _ => Received [] fd) (by decide)).conseq
      (fun w h => ⟨smooth_any _, h size rfl⟩) fun _ _ h => h) fun ret => .assuming fun _ => ?_
    exact .ite (fun _ => .pure fun w h => nofun) fun _ => readBody_received

theorem sendRecv_received (n : Nat) :
    Triple (fun _ => True) (sendRecv daemon who buffer n) fun r w =>
      ∀ reply, r = .ok reply → Received reply w.state.fd := by
  induction n with
  | zero => exact .pure fun w h => nofun
  | succ n ih =>
    have hr : Triple (fun _ => True) (do
        let ret ← gpmRetrySocket who
        if ret ≠ 0 then return .error ret
        sendRecv daemon who buffer n) fun r w =>
          ∀ reply, r = .ok reply → Received reply w.state.fd := by
      refine .bind (Q := fun _ _ => True) (fun _ _ _ _ _ => trivial) fun ret => ?_
      exact .ite (fun _ => .pure fun w h => nofun) fun _ => ih
    refine .bind (Q := fun _ _ => True) (fun _ _ _ _ _ => trivial) fun ret => ?_
    refine .ite (fun _ => hr) fun _ => .ite (fun _ => .pure fun w h => nofun) fun _ => ?_
    refine .bind gpmRecvBuffer_received fun r => ?_
    cases r with
    | ok reply => exact .pure fun w h => h
    | error ret =>
      refine .ite (fun _ => ?_) fun _ => .pure fun w h => nofun
      exact hr.conseq (fun _ _ => trivial) fun _ _ h => h

/-! ## Calls -/

/-- An accepted reply to `xid` with the result. -/
def SuccessReply (xid : UInt32) (proc : GssxProc) (reply : Bytes) (res : proc.Res) : Prop :=
  ∃ accepted xdrReplyCtx rest, xdrGpRpcMsg.decode.run (XdrMem.new reply) =
        some (⟨xid, .rhdr (.accepted accepted)⟩, xdrReplyCtx) ∧
      accepted.replyData.status = GP_RPC_SUCCESS ∧
        (xdrRes proc).decode.run xdrReplyCtx = some (res, rest)

theorem decodeReply_success {xid : UInt32} {proc : GssxProc} {reply : Bytes} {res : proc.Res}
    (h : decodeReply xid proc reply = .ok res) : SuccessReply xid proc reply res := by
  unfold decodeReply at h
  split at h
  · cases h
  rename_i msg xdrReplyCtx hm
  obtain ⟨xid', header⟩ := msg
  split at h
  · rename_i accepted hh
    split at h
    · cases h
    rename_i hb
    rw [not_or, not_not, not_not] at hb
    split at h
    · cases h
    rename_i res' rest hr
    cases h
    cases hh
    exact ⟨accepted, xdrReplyCtx, rest, hb.1 ▸ hm, hb.2, hr⟩
  · cases h

variable {proc : GssxProc} {arg : proc.Arg}

/-- If nothing was under way before (`φ`), nothing is after a round trip, and its reply is its own.
    -/
def Returned (daemon : Daemon) (φ : Prop) (buffer : Bytes) (r : Except UInt32 Bytes)
    (fd : Option Channel) : Prop :=
  (φ → Settled fd) ∧ ∀ reply, r = .ok reply →
    Received reply fd ∧ (φ → ∃ ch, fd = some ch ∧ Answered daemon buffer reply ch)

theorem gpmSendRecvLoop_returned {φ : Prop}
    (hd : φ → ∀ id requests, (daemon id requests).length ≤ MAX_RPC_SIZE) :
    Triple (fun w => φ → Idle w) (gpmSendRecvLoop daemon who buffer) fun r =>
      Calm .any fun fd _ => Returned daemon φ buffer r fd := by
  intro w r w' hi hru
  have hre := sendRecv_received _ w r w' trivial hru
  have hp := fun hφ => sendRecv_idle (hd hφ) _ w r w' (hi hφ) hru
  refine ⟨smooth_any _, fun hφ => ?_, fun reply hr => ⟨hre reply hr, fun hφ => ?_⟩⟩
  · have he := hp hφ
    cases r with
    | error ret => exact he
    | ok reply => exact he.settled
  · have he := hp hφ
    subst hr
    obtain ⟨ch, hc, ha, -⟩ := he
    exact ⟨ch, hc.2, ha⟩

/-- **A call.**  Its result is in the last bytes that it read.  If it starts with nothing under way
    (`φ`), it ends so, and these bytes are the reply to its request. -/
theorem gpmMakeCall_spec {φ : Prop} {xid : Int32}
    (hd : φ → ∀ id requests, (daemon id requests).length ≤ MAX_RPC_SIZE) :
    Triple (fun w => (φ → Idle w) ∧ Counter (· = xid) w) (gpmMakeCall daemon who proc arg)
      fun r w => (φ → Settled w.state.fd) ∧ ∀ res, r = .ok res → ∃ reply,
        Received reply w.state.fd ∧ SuccessReply (gpmNextXid xid).1 proc reply res ∧
          (φ → ∃ buffer ch, encodeCall (gpmNextXid xid).1 proc arg = some buffer ∧
            w.state.fd = some ch ∧ Answered daemon buffer reply ch) := by
  refine .bind (.and (.imp (ask_idle (by decide))) ask_counter) fun ret => ?_
  refine .ite (fun _ => .pure fun w h => ⟨fun hφ => (h.1 hφ).2, nofun⟩) fun _ => ?_
  refine .bind (.and (.imp gpmGrabSock_idle) gpmGrabSock_counter) fun ret => ?_
  refine .ite (fun _ => .pure fun w h => ⟨fun hφ => (h.1 hφ).2, nofun⟩) fun h0 => ?_
  refine .bind (.read (Q := fun ctx w => (φ → Idle w) ∧ ctx.nextXid = xid)
    fun w h => ⟨fun hφ => (h.1 hφ).1 (not_not.mp h0), h.2.2⟩) fun ctx => .assuming fun hx => ?_
  refine .bind (Q := fun _ w => φ → Idle w) (.update fun w h => h) fun _ => ?_
  subst hx
  simp only
  split
  · refine .bind (.imp gpmReleaseSock_calm) fun _ => ?_
    exact .pure fun w h => ⟨fun hφ => (h hφ).2, nofun⟩
  rename_i buffer hb
  refine .bind (gpmSendRecvLoop_returned hd) fun r => .bind gpmReleaseSock_calm fun _ => ?_
  cases r with
  | error ret => exact .pure fun w h => ⟨h.2.1, nofun⟩
  | ok reply =>
    refine .pure fun w h => ⟨h.2.1, fun res hre => ?_⟩
    obtain ⟨hr, ho⟩ := h.2.2 reply rfl
    refine ⟨reply, hr, decodeReply_success hre, fun hφ => ?_⟩
    obtain ⟨ch, hfd, ha⟩ := ho hφ
    exact ⟨buffer, ch, hb, hfd, ha⟩

end

/-! ## Runs -/

/-- A call with all it meets. -/
structure Invocation where
  who : Identity
  proc : GssxProc
  arg : proc.Arg
  events : List Event

def Invocation.run (daemon : Daemon) (ctx : GpmCtx) (call : Invocation) :
    Option (Except UInt32 call.proc.Res × GpmCtx) :=
  match gpmMakeCall daemon call.who call.proc call.arg ⟨ctx, call.events⟩ with
  | some (r, ⟨ctx', []⟩) => some (r, ctx')
  | _ => none

def step (daemon : Daemon) (ctx : GpmCtx) (call : Invocation) : Option GpmCtx :=
  (call.run daemon ctx).map (·.2)

/-- Once a header is sent, and sent whole, nothing fails in the call, except by a timeout. -/
def Smooth (_ : GpmCtx) (call : Invocation) : Prop := smooth .idle call.events = true

instance (ctx : GpmCtx) (call : Invocation) : Decidable (Smooth ctx call) :=
  inferInstanceAs (Decidable (_ = true))

theorem run_eq_some {daemon : Daemon} {ctx ctx' : GpmCtx} {call : Invocation}
    {r : Except UInt32 call.proc.Res} (h : call.run daemon ctx = some (r, ctx')) :
    gpmMakeCall daemon call.who call.proc call.arg ⟨ctx, call.events⟩ = some (r, ⟨ctx', []⟩) := by
  unfold Invocation.run at h
  split at h
  · cases h; assumption
  · cases h

theorem settled_step {daemon : Daemon} {ctx ctx' : GpmCtx} {call : Invocation}
    (hd : ∀ id requests, (daemon id requests).length ≤ MAX_RPC_SIZE)
    (hs : Settled ctx.fd) (hsm : Smooth ctx call)
    (hst : step daemon ctx call = some ctx') : Settled ctx'.fd := by
  obtain ⟨⟨r, ctx''⟩, hr, rfl⟩ := Option.map_eq_some_iff.mp hst
  exact (gpmMakeCall_spec (φ := True) (fun _ => hd) ⟨ctx, call.events⟩ r _
    ⟨fun _ => ⟨hsm, hs⟩, smooth_any _, rfl⟩ (run_eq_some hr)).1 trivial

/-- **The discipline of the connection.**  A call returns success only with the result in an
    accepted reply with its own transaction number, in the last bytes that it read.  In every run of
    smooth calls, with replies within the limit, the socket is closed or at a message boundary after
    each call, and a reply is the one to its own request. -/
theorem connection_discipline (daemon : Daemon) :
    (∀ (ctx : GpmCtx) (call : Invocation) res ctx', call.run daemon ctx = some (.ok res, ctx') →
      ∃ ch reply, ctx'.fd = some ch ∧ reply <:+ ch.received ∧
        SuccessReply (gpmNextXid ctx.nextXid).1 call.proc reply res) ∧
    ((∀ id requests, (daemon id requests).length ≤ MAX_RPC_SIZE) →
      ∀ nextXid ctx, Reach (step daemon) Smooth (GpmCtx.init nextXid) ctx →
        Settled ctx.fd ∧ ∀ (call : Invocation) res ctx', Smooth ctx call →
          call.run daemon ctx = some (.ok res, ctx') → ∃ buffer ch reply,
            encodeCall (gpmNextXid ctx.nextXid).1 call.proc call.arg = some buffer ∧
              ctx'.fd = some ch ∧ Answered daemon buffer reply ch ∧
                SuccessReply (gpmNextXid ctx.nextXid).1 call.proc reply res) := by
  refine ⟨fun ctx call res ctx' hru => ?_, fun hd nextXid ctx hre => ?_⟩
  · obtain ⟨-, hs⟩ := gpmMakeCall_spec (φ := False) nofun ⟨ctx, call.events⟩ _ _
      ⟨nofun, smooth_any _, rfl⟩ (run_eq_some hru)
    obtain ⟨reply, ⟨ch, hfd, hsu⟩, hr, -⟩ := hs res rfl
    exact ⟨ch, reply, hfd, hsu, hr⟩
  · have hse : Settled ctx.fd :=
      hre.invariant (I := fun ctx => Settled ctx.fd) settled_none (settled_step hd)
    refine ⟨hse, fun call res ctx' hsm hru => ?_⟩
    obtain ⟨-, hs⟩ := gpmMakeCall_spec (φ := True) (fun _ => hd)
      ⟨ctx, call.events⟩ _ _ ⟨fun _ => ⟨hsm, hse⟩, smooth_any _, rfl⟩ (run_eq_some hru)
    obtain ⟨reply, -, hr, ho⟩ := hs res rfl
    obtain ⟨buffer, ch, hb, hfd, ha⟩ := ho trivial
    exact ⟨buffer, ch, reply, hb, hfd, ha, hr⟩

theorem echo_length (id : Nat) (requests : List Bytes) :
    (echo id requests).length ≤ MAX_RPC_SIZE := by
  simp only [echo, List.length_append, List.length_take, List.length_replicate, MAX_RPC_SIZE]
  simp only [List.length_cons, List.length_nil]
  omega

abbrev contextCall (events : List Event) : Invocation :=
  ⟨⟨1, 0, 0⟩, .getCallContext, (default : ArgGetCallContext), events⟩

def contextRequest (xid : UInt8) : Bytes :=
  [0, 0, 0, xid, 0, 0, 0, 0, 0, 0, 0, 2, 0, 6, 26, 240, 0, 0, 0, 1, 0, 0, 0, 2] ++
    List.replicate 32 0

def ready : List Event :=
  [.returns .addSocket 0, .epollWait (.ok [⟨.socket, true⟩]), .returns .delSocket 0]

def grabbed (opened : List Event) : List Event :=
  [.returns .malloc 0, .returns .lock 0] ++ opened ++ [.returns .timerfdCreate 0,
    .returns .timerfdSettime 0, .returns .epollCreate 0, .returns .addTimer 0]

def opening : List Event := [.returns .pipeName 0, .returns .connect 0]

def sending : List Event :=
  ready ++ [.send .header (.ok 4)] ++ ready ++ [.send .body (.ok 20)] ++ ready ++
    [.send .body (.ok 36)]

def reading : List Event :=
  ready ++ [.read .header (.ok 4), .returns .malloc 0] ++ ready ++ [.read .body (.ok 10)] ++ ready ++
    [.read .body (.ok 58)]

theorem connection_discipline_echo : ∃ res ctx,
    (contextCall (grabbed opening ++ sending ++ reading)).run echo (GpmCtx.init 7) =
        some (.ok res, ctx) ∧
      Settled ctx.fd ∧ ∃ buffer ch reply, encodeCall 7 .getCallContext default = some buffer ∧
        ctx.fd = some ch ∧ Answered echo buffer reply ch ∧ SuccessReply 7 .getCallContext reply res := by
  have hok : ((contextCall (grabbed opening ++ sending ++ reading)).run echo
      (GpmCtx.init 7)).map (·.1.isOk) = some true := by decide +kernel
  have hs : Smooth (GpmCtx.init 7) (contextCall (grabbed opening ++ sending ++ reading)) := by
    decide +kernel
  obtain ⟨⟨r, ctx⟩, hru, hr⟩ := Option.map_eq_some_iff.mp hok
  cases r with
  | error ret => cases hr
  | ok res =>
    have hrn := (connection_discipline echo).2 echo_length 7
    have hre : Reach (step echo) Smooth (GpmCtx.init 7) ctx :=
      Reach.start.next hs (Option.map_eq_some_iff.mpr ⟨_, hru, rfl⟩)
    exact ⟨res, ctx, hru, (hrn ctx hre).1, (hrn _ .start).2 _ res ctx hs hru⟩

def abandoned : GpmCtx where
  fd := some
    { id := 0, requests := [contextRequest 7], unread := frame (echo 0 [contextRequest 7]) }
  owner := ⟨1, 0, 0⟩
  nextXid := 8
  epollfd := false
  timerfd := false
  opened := 1

/-- The wait for a reply fails and the socket stays open: the next call takes it for its own. -/
theorem late_reply_misread :
    (contextCall (grabbed opening ++ sending ++ [.returns .addSocket ENOMEM])).run echo
        (GpmCtx.init 7) = some (.error ENOMEM, abandoned) ∧
      ¬ Settled abandoned.fd ∧ ∃ ctx ch,
        (contextCall (grabbed [] ++ sending ++ reading)).run echo abandoned =
            some (.error EINVAL, ctx) ∧
          ctx.fd = some ch ∧ ch.requests = [contextRequest 7, contextRequest 8] ∧
            ch.received = frame (echo 0 [contextRequest 7]) := by
  refine ⟨by decide +kernel, fun h => ?_, ?_⟩
  · obtain ⟨-, hu⟩ := h _ rfl
    revert hu
    decide +kernel
  · refine ⟨⟨some ⟨0, [contextRequest 7, contextRequest 8], [], frame (echo 0 [contextRequest 7]),
      frame (echo 0 [contextRequest 8])⟩, ⟨1, 0, 0⟩, 9, false, false, 1⟩, _, ?_, rfl, rfl, rfl⟩
    decide +kernel

end GssProxy.Client.Gpm
