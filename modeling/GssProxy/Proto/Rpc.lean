import GssProxy.Proto.Xdr

/-!
# The RPC envelope

The message header before every argument and result: a call header, or a reply with its accept or reject
status.
-/

namespace GssProxy.Proto

open Codec

def GSSPROXY : UInt32 := 400112

def GSSPROXYVERS : UInt32 := 1

def RPC_VERS : UInt32 := 2

def MAX_RPC_SIZE : Nat := 1048576

/-! ## Authenticators -/

inductive AuthFlavor where
  | none
  | sys
  | short
  | dh
  | rpcSecGss
  deriving DecidableEq, Repr

def AuthFlavor.toI32 : AuthFlavor → Int32
  | .none => 0
  | .sys => 1
  | .short => 2
  | .dh => 3
  | .rpcSecGss => 6

def AuthFlavor.fromI32 (v : Int32) : Except XdrError AuthFlavor :=
  if v = 0 then .ok .none
  else if v = 1 then .ok .sys
  else if v = 2 then .ok .short
  else if v = 3 then .ok .dh
  else if v = 6 then .ok .rpcSecGss
  else .error (.invalidValue "auth_flavor")

structure OpaqueAuth where
  flavor : Int32
  body : Bytes
  deriving DecidableEq, Repr

def OpaqueAuth.none : OpaqueAuth := ⟨AuthFlavor.none.toI32, []⟩

instance : Xdr OpaqueAuth where
  encode self := putEnum self.flavor ++ putOpaque self.body
  decode := do
    let flavor ← getEnum
    -- only the flavors of the table are accepted
    let _ ← (AuthFlavor.fromI32 flavor : Except XdrError AuthFlavor)
    let body ← getOpaque
    if body.length > 400 then
      throw .tooLong
    else
      return { flavor, body }

structure CallHeader where
  rpcvers : UInt32
  prog : UInt32
  vers : UInt32
  procNum : UInt32
  cred : OpaqueAuth
  verf : OpaqueAuth
  deriving DecidableEq, Repr

def CallHeader.new (procNum : UInt32) : CallHeader where
  rpcvers := RPC_VERS
  prog := GSSPROXY
  vers := GSSPROXYVERS
  procNum := procNum
  cred := OpaqueAuth.none
  verf := OpaqueAuth.none

instance : Xdr CallHeader where
  encode self := List.flatten [putU32 self.rpcvers, putU32 self.prog, putU32 self.vers,
    putU32 self.procNum, encode self.cred, encode self.verf]
  decode := return {
    rpcvers := ← getU32, prog := ← getU32, vers := ← getU32, procNum := ← getU32,
    cred := ← decode, verf := ← decode }

/-! ## Replies -/

structure MismatchInfo where
  low : UInt32
  high : UInt32
  deriving DecidableEq, Repr

/-- `ReplyBody` of `rpc.rs`. -/
inductive ReplyBody where
  | acceptedSuccess (verf : OpaqueAuth)
  | progMismatch (verf : OpaqueAuth) (info : MismatchInfo)
  | acceptedOther (verf : OpaqueAuth) (status : Int32)
  | denied (rejectStatus : Int32) (value : Int32)
  deriving DecidableEq, Repr

def REPLY_ACCEPTED : Int32 := 0

def REPLY_DENIED : Int32 := 1

def ACCEPT_SUCCESS : Int32 := 0

def ACCEPT_PROG_MISMATCH : Int32 := 2

def ReplyBody.encode : ReplyBody → Bytes
  | .acceptedSuccess verf =>
    List.flatten [putEnum REPLY_ACCEPTED, Xdr.encode verf, putEnum ACCEPT_SUCCESS]
  | .progMismatch verf info =>
    List.flatten [putEnum REPLY_ACCEPTED, Xdr.encode verf, putEnum ACCEPT_PROG_MISMATCH,
      putU32 info.low, putU32 info.high]
  | .acceptedOther verf status =>
    List.flatten [putEnum REPLY_ACCEPTED, Xdr.encode verf, putEnum status]
  | .denied rejectStatus value =>
    List.flatten [putEnum REPLY_DENIED, putEnum rejectStatus, putEnum value]

def ReplyBody.decode : XdrDecoder ReplyBody := do
  let status ← getEnum
  if status = REPLY_ACCEPTED then
    let verf ← Xdr.decode
    let accept ← getEnum
    if accept = ACCEPT_SUCCESS then
      return .acceptedSuccess verf
    else if accept = ACCEPT_PROG_MISMATCH then
      return .progMismatch verf { low := ← getU32, high := ← getU32 }
    else
      return .acceptedOther verf accept
  else if status = REPLY_DENIED then
    return .denied (← getEnum) (← getEnum)
  else
    throw (.invalidValue "reply_status")

/-! ## Messages -/

structure Message where
  xid : UInt32
  isCall : Bool
  call : Option CallHeader
  reply : Option ReplyBody
  deriving DecidableEq, Repr

def MSG_CALL : Int32 := 0

def MSG_REPLY : Int32 := 1

def Message.newCall (xid procNum : UInt32) : Message :=
  { xid, isCall := true, call := some (CallHeader.new procNum), reply := none }

def Message.replySuccess (xid : UInt32) : Message :=
  { xid, isCall := false, call := none, reply := some (.acceptedSuccess OpaqueAuth.none) }

def Message.encode (self : Message) : Option Bytes :=
  if self.isCall then do
    let call ← self.call
    return List.flatten [putU32 self.xid, putEnum MSG_CALL, Xdr.encode call]
  else do
    let reply ← self.reply
    return List.flatten [putU32 self.xid, putEnum MSG_REPLY, reply.encode]

def Message.decode : XdrDecoder Message := do
  let xid ← getU32
  let type ← getEnum
  if type = MSG_CALL then
    return { xid, isCall := true, call := some (← Xdr.decode), reply := none }
  else if type = MSG_REPLY then
    let reply ← ReplyBody.decode
    return { xid, isCall := false, call := none, reply := some reply }
  else
    throw (.invalidValue "msg_type")

end GssProxy.Proto
