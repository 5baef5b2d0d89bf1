import GssProxy.Client.Channel
import GssProxy.Effect.Traced
import GssProxy.Gss.Status
import GssProxy.Rpcgen.GpRpcXdr
import GssProxy.Rpcgen.GssProxyXdr

/-!
# Calls of the C client

`gpm_make_call` and what it stands on.  All calls share one socket, kept in a global context under a
lock, with a timer and an epoll descriptor for each call.  What the system calls return is a trace of
events; the bytes that are read are those that the daemon sent.
-/

namespace GssProxy.Client.Gpm

open Codec Effect Effect.Traced Gss Proto
open Rpcgen

/-! ## Events -/

inductive Sys where
  | malloc
  | lock
  | pipeName
  | connect
  | timerfdCreate
  | timerfdSettime
  | epollCreate
  | addTimer
  | addSocket
  | delSocket
  | readTimer
  deriving DecidableEq, Repr

inductive EpollFd where
  | timer
  | socket
  deriving DecidableEq, Repr

/-- An event of `epoll_wait`, `ready` if it is one of those asked for. -/
structure EpollEvent where
  fd : EpollFd
  ready : Bool
  deriving DecidableEq, Repr

inductive Part where
  | header
  | body
  deriving DecidableEq, Repr

inductive Event where
  | returns (call : Sys) (ret : UInt32)
  | epollWait (ret : Except UInt32 (List EpollEvent))
  | send (part : Part) (wn : Except UInt32 Nat)
  | read (part : Part) (rn : Except UInt32 Nat)

/-! ## The context -/

/-- `struct gpm_ctx`. -/
structure GpmCtx where
  fd : Option Channel
  owner : Identity
  nextXid : Int32
  epollfd : Bool
  timerfd : Bool
  opened : Nat
  deriving DecidableEq, Repr

def GpmCtx.init (nextXid : Int32) : GpmCtx where
  fd := none
  owner := ⟨0, 0, 0⟩
  nextXid := nextXid
  epollfd := false
  timerfd := false
  opened := 0

abbrev GpmM := Traced Event GpmCtx

def ask (call : Sys) : GpmM UInt32 :=
  next fun
    | .returns c ret => if c = call then some ret else none
    | _ => none

section

variable (daemon : Daemon)

def send (part : Part) (bytes : Bytes) : GpmM (Except UInt32 Nat) :=
  interact fun ctx e =>
    match e, ctx.fd with
    | .send p (.error errno), _ => if p = part then some (.error errno, ctx) else none
    | .send p (.ok wn), some ch =>
      if p = part ∧ wn ≤ bytes.length then
        some (.ok wn, { ctx with fd := some (ch.send daemon.peer (bytes.take wn)) })
      else none
    | _, _ => none

def readSocket (part : Part) (count : Nat) : GpmM (Except UInt32 Bytes) :=
  interact fun ctx e =>
    match e, ctx.fd with
    | .read p (.error errno), _ => if p = part then some (.error errno, ctx) else none
    | .read p (.ok rn), some ch =>
      if p = part ∧ rn ≤ count ∧ rn ≤ ch.unread.length then
        some (.ok (ch.unread.take rn), { ctx with fd := some (ch.read rn) })
      else none
    | _, _ => none

end

/-! ## Socket, timer and epoll -/

def gpmOpenSocket (who : Identity) : GpmM UInt32 := do
  let ret ← ask .pipeName
  if ret ≠ 0 then return ret
  let ret ← ask .connect
  update fun ctx =>
    if ret ≠ 0 then { ctx with fd := none, owner := who }
    else { ctx with fd := some { id := ctx.opened }, owner := who, opened := ctx.opened + 1 }
  return ret

def gpmCloseSocket : GpmM Unit := update fun ctx => { ctx with fd := none }

def gpmTimerClose : GpmM Unit := update fun ctx => { ctx with timerfd := false }

def gpmTimerSetup : GpmM UInt32 := do
  gpmTimerClose
  let ret ← ask .timerfdCreate
  if ret ≠ 0 then return ret
  update fun ctx => { ctx with timerfd := true }
  let ret ← ask .timerfdSettime
  if ret ≠ 0 then
    gpmTimerClose
    return ret
  return 0

def gpmEpollClose : GpmM Unit := update fun ctx => { ctx with epollfd := false }

def gpmEpollSetup : GpmM UInt32 := do
  gpmEpollClose
  let ret ← ask .epollCreate
  if ret ≠ 0 then return ret
  update fun ctx => { ctx with epollfd := true }
  let ret ← ask .addTimer
  if ret ≠ 0 then
    gpmEpollClose
    return ret
  return 0

def gpmReleaseSock : GpmM Unit := do
  gpmEpollClose
  gpmTimerClose

def gpmDropForeign (who : Identity) : GpmM Unit :=
  update fun ctx =>
    if ctx.fd.isSome ∧ who ≠ ctx.owner then { ctx with fd := none } else ctx

def gpmEnsureSocket (who : Identity) : GpmM UInt32 := do
  let ctx ← Traced.read
  if ctx.fd = none then gpmOpenSocket who else return 0

def gpmSetupSock (who : Identity) : GpmM UInt32 := do
  gpmDropForeign who
  let ret ← gpmEnsureSocket who
  if ret ≠ 0 then return ret
  let ret ← gpmTimerSetup
  if ret ≠ 0 then return ret
  gpmEpollSetup

def gpmGrabSock (who : Identity) : GpmM UInt32 := do
  let ret ← ask .lock
  if ret ≠ 0 then return ret
  let ret ← gpmSetupSock who
  if ret ≠ 0 then
    gpmReleaseSock
    return ret
  return 0

def waitEvents : GpmM (Except UInt32 (List EpollEvent)) :=
  loop (fun () => do
    match ← next fun | .epollWait ret => some ret | _ => none with
    | .error errno => return if errno = EINTR then .inl () else .inr (.error errno)
    | .ok events => return .inr (.ok events)) ()

def readiness : List EpollEvent → Option UInt32
  | [] => some ETIMEDOUT
  | [⟨.timer, ready⟩] => if ready then none else some EBADF
  | [e] => some (if e.ready then 0 else EBADFD)
  -- of two events the one of the socket counts
  | e :: e' :: _ => some (if (if e.fd = .socket then e else e').ready then 0 else EBADFD)

def timerRet : GpmM UInt32 := do
  let ret ← ask .readTimer
  return if ret ≠ 0 ∧ ret ≠ EAGAIN then ret else ETIMEDOUT

def gpmEpollLeave (ret : UInt32) : GpmM UInt32 := do
  let ctx ← Traced.read
  if ctx.epollfd = false then return ret
  let del ← ask .delSocket
  if del ≠ 0 then
    gpmEpollClose
    return if ret = 0 then del else ret
  return ret

def gpmEnsureEpoll : GpmM UInt32 := do
  let ctx ← Traced.read
  if ctx.epollfd = false then gpmEpollSetup else return 0

def waitRet : GpmM UInt32 := do
  match ← waitEvents with
  | .error errno => return errno
  | .ok events =>
    match readiness events with
    | none => timerRet
    | some ret => return ret

def gpmEpollWait : GpmM UInt32 := do
  let ret ← gpmEnsureEpoll
  if ret ≠ 0 then return ret
  let ret ← ask .addSocket
  if ret ≠ 0 then
    gpmEpollClose
    return ret
  let ret ← waitRet
  if ret ≠ 0 then
    gpmEpollClose
    gpmEpollLeave ret
  else gpmEpollLeave ret

def gpmRetrySocket (who : Identity) : GpmM UInt32 := do
  gpmEpollClose
  gpmCloseSocket
  gpmOpenSocket who

/-! ## Messages -/

section

variable (daemon : Daemon) (who : Identity)

def sendHeader (size : Bytes) : GpmM (Except UInt32 (Except UInt32 Nat)) :=
  loop (fun () => do
    let ret ← gpmEpollWait
    if ret ≠ 0 then return .inr (.error ret)
    let wn ← send daemon .header size
    return if wn = .error EINTR then .inl () else .inr (.ok wn)) ()

def sendHeaderRetry (size : Bytes) : GpmM UInt32 :=
  loop (fun retry => do
    match ← sendHeader daemon size with
    | .error ret => return .inr ret
    | .ok wn =>
      if wn = .ok 4 then return .inr 0
      if retry then return .inr EIO
      let ret ← gpmRetrySocket who
      return if ret = 0 then .inl true else .inr ret) false

def sendBody (buffer : Bytes) : GpmM UInt32 :=
  loop (fun pos => do
    if buffer.length ≤ pos then return .inr 0
    let ret ← gpmEpollWait
    if ret ≠ 0 then return .inr ret
    match ← send daemon .body (buffer.drop pos) with
    | .error errno => return if errno = EINTR ∨ errno = EAGAIN then .inl pos else .inr errno
    | .ok wn => return .inl (pos + wn)) 0

def gpmSendBuffer (buffer : Bytes) : GpmM UInt32 := do
  if buffer.length > MAX_RPC_SIZE then return EINVAL
  let ret ← sendHeaderRetry daemon who (beBytes (UInt32.ofNat buffer.length ||| FRAGMENT_BIT))
  if ret ≠ 0 then return ret
  sendBody daemon buffer

def readHeader : GpmM (Except UInt32 Bytes) :=
  loop (fun () => do
    let ret ← gpmEpollWait
    if ret ≠ 0 then return .inr (.error ret)
    match ← readSocket .header 4 with
    | .error errno => return if errno = EINTR then .inl () else .inr (.error EIO)
    | .ok size => return .inr (.ok size)) ()

def announced : Bytes → Option Nat
  | [b₀, b₁, b₂, b₃] => some (bodyLength (ofBeBytes b₀ b₁ b₂ b₃))
  | _ => none

def readBody (length : Nat) : GpmM (Except UInt32 Bytes) :=
  loop (fun buffer => do
    if length ≤ buffer.length then return .inr (.ok buffer)
    let ret ← gpmEpollWait
    if ret ≠ 0 then return .inr (.error ret)
    match ← readSocket .body (length - buffer.length) with
    | .error errno =>
      return if errno = EINTR ∨ errno = EAGAIN then .inl buffer else .inr (.error errno)
    | .ok bytes => return if bytes = [] then .inr (.error EIO) else .inl (buffer ++ bytes)) []

def gpmRecvBuffer : GpmM (Except UInt32 Bytes) := do
  match ← readHeader with
  | .error ret => return .error ret
  | .ok size =>
    match announced size with
    | none => return .error EIO
    | some length =>
      if length > MAX_RPC_SIZE then return .error EMSGSIZE
      let ret ← ask .malloc
      if ret ≠ 0 then return .error ENOMEM
      readBody length

def MAX_TIMEOUT_RETRY : Nat := 3

def sendRecv (sendBuffer : Bytes) : Nat → GpmM (Except UInt32 Bytes)
  | 0 => return .error ETIMEDOUT
  | n + 1 => do
    let ret ← gpmSendBuffer daemon who sendBuffer
    if ret = ETIMEDOUT then
      let ret ← gpmRetrySocket who
      if ret ≠ 0 then return .error ret
      sendRecv sendBuffer n
    else if ret ≠ 0 then return .error ret
    else
      match ← gpmRecvBuffer with
      | .ok recvBuffer => return .ok recvBuffer
      | .error ret =>
        if ret = ETIMEDOUT then
          let ret ← gpmRetrySocket who
          if ret ≠ 0 then return .error ret
          sendRecv sendBuffer n
        else return .error ret

def gpmSendRecvLoop (sendBuffer : Bytes) : GpmM (Except UInt32 Bytes) :=
  sendRecv daemon who sendBuffer MAX_TIMEOUT_RETRY

/-- `gpm_next_xid`. -/
def gpmNextXid (nextXid : Int32) : UInt32 × Int32 :=
  if nextXid < 0 then (0, 1) else (nextXid.toUInt32, nextXid + 1)

/-- The request of `gpm_make_call`. -/
def encodeCall (xid : UInt32) (proc : GssxProc) (arg : proc.Arg) : Option Bytes := do
  let header ← xdrGpRpcMsg.encode ⟨xid, .chdr (CallHeader.new proc.toU32)⟩
  let data ← (xdrArg proc).encode arg
  if (header ++ data).length ≤ MAX_RPC_SIZE then some (header ++ data) else none

def decodeReply (xid : UInt32) (proc : GssxProc) (reply : Bytes) : Except UInt32 proc.Res :=
  match xdrGpRpcMsg.decode.run (XdrMem.new reply) with
  | none => .error EINVAL
  | some (msg, xdrReplyCtx) =>
    match msg.header with
    | .rhdr (.accepted reply) =>
      if msg.xid ≠ xid ∨ reply.replyData.status ≠ GP_RPC_SUCCESS then .error EINVAL
      else
        match (xdrRes proc).decode.run xdrReplyCtx with
        | none => .error EINVAL
        | some (res, _) => .ok res
    | _ => .error EINVAL

def gpmMakeCall (proc : GssxProc) (arg : proc.Arg) : GpmM (Except UInt32 proc.Res) := do
  let ret ← ask .malloc
  if ret ≠ 0 then return .error ENOMEM
  let ret ← gpmGrabSock who
  if ret ≠ 0 then return .error ret
  let ctx ← Traced.read
  update fun ctx => { ctx with nextXid := (gpmNextXid ctx.nextXid).2 }
  let xid := (gpmNextXid ctx.nextXid).1
  match encodeCall xid proc arg with
  | none =>
    gpmReleaseSock
    return .error EINVAL
  | some sendBuffer =>
    let reply ← gpmSendRecvLoop daemon who sendBuffer
    gpmReleaseSock
    match reply with
    | .error ret => return .error ret
    | .ok recvBuffer => return decodeReply xid proc recvBuffer

end

end GssProxy.Client.Gpm
