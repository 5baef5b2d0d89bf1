import GssProxy.Client.Channel
import GssProxy.Effect.Traced
import GssProxy.Proto.Proc

/-!
# Calls of the Rust client

`make_call` and the connection it keeps.  What the system calls return is a trace of events, and the peer
is arbitrary.  The state also records, for the statements, who opened each connection and how the
attempts of the call ended.
-/

namespace GssProxy.Client.Conn

open Codec Effect Effect.Traced Proto

/-! ## Errors and events -/

inductive ErrorKind where
  | timedOut
  | wouldBlock
  | brokenPipe
  | connectionReset
  | connectionAborted
  | unexpectedEof
  | interrupted
  | writeZero
  | other (errno : UInt32)
  deriving DecidableEq, Repr

/-- `GpmError`. -/
inductive GpmError where
  | io (e : ErrorKind)
  | frame (e : FrameError)
  | decode (e : XdrError)
  | badReply
  | tooLarge
  deriving DecidableEq, Repr

inductive Sys where
  | connect
  | setReadTimeout
  | setWriteTimeout
  deriving DecidableEq, Repr

inductive Event where
  | returns (call : Sys) (r : Except ErrorKind Unit)
  | write (r : Except ErrorKind Nat)
  | read (r : Except ErrorKind Nat)

/-! ## The connection -/

/-- An attempt of a call. -/
structure Attempt where
  /-- the connection, as the attempt found it, unless there was none and opening one failed -/
  stream : Option Channel
  outcome : Except GpmError Bytes
  deriving DecidableEq

/-- `ClientConn`, with the record of what it did. -/
structure ClientConn where
  stream : Option Channel := none
  owner : Identity := ⟨0, 0, 0⟩
  nextXid : UInt32 := 0
  seeded : Bool := false
  openers : List Identity := []
  attempts : List Attempt := []
  deriving DecidableEq

abbrev ConnM := Traced Event ClientConn

abbrev Fallible := ExceptT GpmError ConnM

def io {α : Type} : Except ErrorKind α → Except GpmError α
  | .ok a => .ok a
  | .error e => .error (.io e)

def ask (call : Sys) : Fallible Unit :=
  ExceptT.mk (next fun
    | .returns c r => if c = call then some (io r) else none
    | _ => none)

def ClientConn.ensureSeeded (seed : UInt32) (conn : ClientConn) : ClientConn :=
  if conn.seeded then conn else { conn with nextXid := seed, seeded := true }

def ClientConn.refreshIdentity (who : Identity) (conn : ClientConn) : ClientConn :=
  if conn.stream = none then conn
  else if who ≠ conn.owner then { conn with stream := none }
  else conn

def connect (who : Identity) : Fallible Unit := do
  ask .connect
  ask .setReadTimeout
  ask .setWriteTimeout
  ExceptT.lift (update fun conn =>
    { conn with
      stream := some { id := conn.openers.length }
      owner := who
      openers := conn.openers ++ [who] })

def disconnect : ConnM Unit := update fun conn => { conn with stream := none }

/-! ## A transaction -/

section

variable (peer : Peer) (who : Identity)

def write (buf : Bytes) : ConnM (Except ErrorKind Nat) :=
  interact fun conn e =>
    match e, conn.stream with
    | .write (.error e), _ => some (.error e, conn)
    | .write (.ok n), some ch =>
      if n ≤ buf.length then
        some (.ok n, { conn with stream := some (ch.send peer (buf.take n)) })
      else none
    | _, _ => none

def readSome (count : Nat) : ConnM (Except ErrorKind Bytes) :=
  interact fun conn e =>
    match e, conn.stream with
    | .read (.error e), _ => some (.error e, conn)
    | .read (.ok n), some ch =>
      if n ≤ count ∧ n ≤ ch.unread.length then
        some (.ok (ch.unread.take n), { conn with stream := some (ch.read n) })
      else none
    | _, _ => none

def writeAll (buf : Bytes) : Fallible Unit :=
  ExceptT.mk (loop (fun buf => do
    if buf = [] then return .inr (.ok ())
    match ← write peer buf with
    | .ok n => return if n = 0 then .inr (.error (.io .writeZero)) else .inl (buf.drop n)
    | .error e => return if e = .interrupted then .inl buf else .inr (.error (.io e))) buf)

def readExact (count : Nat) : Fallible Bytes :=
  ExceptT.mk (loop (fun buf => do
    if count ≤ buf.length then return .inr (.ok buf)
    match ← readSome (count - buf.length) with
    | .ok bytes => return if bytes = [] then .inr (.error (.io .unexpectedEof)) else .inl (buf ++ bytes)
    | .error e => return if e = .interrupted then .inl buf else .inr (.error (.io e))) [])

def bodyLength : Bytes → Except GpmError Nat
  | [b₀, b₁, b₂, b₃] => (parseHeader (ofBeBytes b₀ b₁ b₂ b₃)).mapError .frame
  | _ => .error (.io .unexpectedEof)

def tryTransact (body : Bytes) : Fallible Bytes := do
  writeAll peer (encodeHeader body.length)
  writeAll peer body
  let hdr ← readExact 4
  let len ← ExceptT.mk (pure (bodyLength hdr))
  readExact len

def record (stream : Option Channel) (outcome : Except GpmError Bytes) : ConnM Unit :=
  update fun conn => { conn with attempts := conn.attempts ++ [⟨stream, outcome⟩] }

def attempt (body : Bytes) : ConnM (Except GpmError Bytes) := do
  let conn ← Traced.read
  match conn.stream with
  | none => stuck
  | some ch =>
    let outcome ← (tryTransact peer body).run
    record (some ch) outcome
    return outcome

/-- `is_retryable`. -/
def isRetryable : ErrorKind → Bool
  | .timedOut | .wouldBlock | .brokenPipe | .connectionReset | .connectionAborted
  | .unexpectedEof => true
  | _ => false

def GpmError.retryable : GpmError → Bool
  | .io e => isRetryable e
  | _ => false

def ensureConnected : ConnM (Except GpmError Unit) := do
  let conn ← Traced.read
  if conn.stream = none then (connect who).run else return .ok ()

def MAX_TIMEOUT_RETRY : Nat := 3

def rounds (body : Bytes) (lastErr : Option GpmError) : Nat → ConnM (Except GpmError Bytes)
  | 0 => return .error (lastErr.getD .badReply)
  | n + 1 => do
    match ← ensureConnected who with
    | .error e =>
      record none (.error e)
      return .error e
    | .ok () =>
      match ← attempt peer body with
      | .ok buf => return .ok buf
      | .error e =>
        disconnect
        if e.retryable then rounds body (some e) n else return .error e

def transact (body : Bytes) : ConnM (Except GpmError Bytes) :=
  if body.length > MAX_RPC_SIZE then return .error .tooLarge
  else rounds peer who body none MAX_TIMEOUT_RETRY

def encodeRequest {α : Type} [Xdr α] (xid procNum : UInt32) (arg : α) : Bytes :=
  (Message.newCall xid procNum).encode.getD [] ++ Xdr.encode arg

def decodeReply {ρ : Type} [Xdr ρ] (xid : UInt32) (reply : Bytes) : Except GpmError ρ :=
  match Message.decode.run (Stream.new reply) with
  | .error e => .error (.decode e)
  | .ok (msg, d) =>
    if msg.xid ≠ xid ∨ msg.isCall then .error .badReply
    else
      match msg.reply with
      | some (.acceptedSuccess _) =>
        match (Xdr.decode : XdrDecoder ρ).run d with
        | .error e => .error (.decode e)
        | .ok (res, _) => .ok res
      | _ => .error .badReply

def makeCall {α ρ : Type} [Xdr α] [Xdr ρ] (seed : UInt32) (proc : GssxProc) (arg : α) :
    ConnM (Except GpmError ρ) := do
  update (·.ensureSeeded seed)
  update (·.refreshIdentity who)
  let conn ← Traced.read
  update fun conn => { conn with nextXid := conn.nextXid + 1 }
  match ← transact peer who (encodeRequest conn.nextXid proc.toU32 arg) with
  | .error e => return .error e
  | .ok reply => return decodeReply conn.nextXid reply

end

end GssProxy.Client.Conn
