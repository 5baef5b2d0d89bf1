import GssProxy.Proto.Rpc
import GssProxy.Rpcgen.Xdr

/-!
# The generated routines of the RPC envelope

The message header as rpcgen declares it, with its four nested unions, and its routines statement for
statement.
-/

namespace GssProxy.Rpcgen

open Proto

/-! ## Types -/

def GP_RPC_AUTH_NONE : Int32 := 0

def GP_RPC_CALL : Int32 := 0

def GP_RPC_REPLY : Int32 := 1

def GP_RPC_MSG_ACCEPTED : Int32 := 0

def GP_RPC_MSG_DENIED : Int32 := 1

def GP_RPC_SUCCESS : Int32 := 0

def GP_RPC_PROG_UNAVAIL : Int32 := 1

def GP_RPC_PROG_MISMATCH : Int32 := 2

def GP_RPC_PROC_UNAVAIL : Int32 := 3

def GP_RPC_GARBAGE_ARGS : Int32 := 4

def GP_RPC_SYSTEM_ERR : Int32 := 5

def GP_RPC_RPC_MISMATCH : Int32 := 0

def GP_RPC_AUTH_ERROR : Int32 := 1

def GP_RPC_AUTH_FAILED : Int32 := 7

inductive GpRpcReplyUnion where
  | results
  | mismatchInfo (info : MismatchInfo)
  | void (status : Int32)
  deriving DecidableEq, Repr

def GpRpcReplyUnion.status : GpRpcReplyUnion → Int32
  | .results => GP_RPC_SUCCESS
  | .mismatchInfo _ => GP_RPC_PROG_MISMATCH
  | .void status => status

structure GpRpcAcceptedReply where
  verf : OpaqueAuth
  replyData : GpRpcReplyUnion
  deriving DecidableEq, Repr

inductive GpRpcRejectedReply where
  | mismatchInfo (info : MismatchInfo)
  | status (authStatus : Int32)
  deriving DecidableEq, Repr

def GpRpcRejectedReply.rejectStatus : GpRpcRejectedReply → Int32
  | .mismatchInfo _ => GP_RPC_RPC_MISMATCH
  | .status _ => GP_RPC_AUTH_ERROR

/-- `gp_rpc_reply_header`. -/
inductive GpRpcReplyHeader where
  | accepted (reply : GpRpcAcceptedReply)
  | rejected (reply : GpRpcRejectedReply)
  deriving DecidableEq, Repr

def GpRpcReplyHeader.status : GpRpcReplyHeader → Int32
  | .accepted _ => GP_RPC_MSG_ACCEPTED
  | .rejected _ => GP_RPC_MSG_DENIED

inductive GpRpcMsgUnion where
  | chdr (header : CallHeader)
  | rhdr (header : GpRpcReplyHeader)
  deriving DecidableEq, Repr

def GpRpcMsgUnion.type : GpRpcMsgUnion → Int32
  | .chdr _ => GP_RPC_CALL
  | .rhdr _ => GP_RPC_REPLY

/-- `gp_rpc_msg`. -/
structure GpRpcMsg where
  xid : UInt32
  header : GpRpcMsgUnion
  deriving DecidableEq, Repr

/-! ## Routines -/

def xdrGpRpcAuthFlavor : XdrProc Int32 := xdrEnum

def xdrGpRpcOpaqueAuth : XdrProc OpaqueAuth := Fields.proc do
  return {
    flavor := ← xdrGpRpcAuthFlavor.field (·.flavor)
    body := ← (xdrBytes 400).field (·.body) }

def xdrGpRpcMsgType : XdrProc Int32 := xdrEnum

def xdrGpRpcReplyStatus : XdrProc Int32 := xdrEnum

def xdrGpRpcAcceptStatus : XdrProc Int32 := xdrEnum

def xdrGpRpcRejectStatus : XdrProc Int32 := xdrEnum

def xdrGpRpcAuthStatus : XdrProc Int32 := xdrEnum

def xdrGpRpcMismatchInfo : XdrProc MismatchInfo := Fields.proc do
  return {
    low := ← xdrUInt32.field (·.low)
    high := ← xdrUInt32.field (·.high) }

def xdrGpRpcReplyUnion : XdrProc GpRpcReplyUnion := Fields.proc do
  let status ← xdrGpRpcAcceptStatus.field (·.status)
  if status = GP_RPC_SUCCESS then
    return .results
  else if status = GP_RPC_PROG_MISMATCH then
    return .mismatchInfo (← xdrGpRpcMismatchInfo.arm fun | .mismatchInfo info => some info | _ => none)
  else
    return .void status

def xdrGpRpcAcceptedReply : XdrProc GpRpcAcceptedReply := Fields.proc do
  return {
    verf := ← xdrGpRpcOpaqueAuth.field (·.verf)
    replyData := ← xdrGpRpcReplyUnion.field (·.replyData) }

def xdrGpRpcRejectedReply : XdrProc GpRpcRejectedReply := Fields.proc do
  let status ← xdrGpRpcRejectStatus.field (·.rejectStatus)
  if status = GP_RPC_RPC_MISMATCH then
    return .mismatchInfo (← xdrGpRpcMismatchInfo.arm fun | .mismatchInfo info => some info | _ => none)
  else if status = GP_RPC_AUTH_ERROR then
    return .status (← xdrGpRpcAuthStatus.arm fun | .status authStatus => some authStatus | _ => none)
  else
    Fields.fail

def xdrGpRpcCallHeader : XdrProc CallHeader := Fields.proc do
  return {
    rpcvers := ← xdrUInt32.field (·.rpcvers)
    prog := ← xdrUInt32.field (·.prog)
    vers := ← xdrUInt32.field (·.vers)
    procNum := ← xdrUInt32.field (·.procNum)
    cred := ← xdrGpRpcOpaqueAuth.field (·.cred)
    verf := ← xdrGpRpcOpaqueAuth.field (·.verf) }

def xdrGpRpcReplyHeader : XdrProc GpRpcReplyHeader := Fields.proc do
  let status ← xdrGpRpcReplyStatus.field (·.status)
  if status = GP_RPC_MSG_ACCEPTED then
    return .accepted (← xdrGpRpcAcceptedReply.arm fun | .accepted reply => some reply | _ => none)
  else if status = GP_RPC_MSG_DENIED then
    return .rejected (← xdrGpRpcRejectedReply.arm fun | .rejected reply => some reply | _ => none)
  else
    Fields.fail

def xdrGpRpcMsgUnion : XdrProc GpRpcMsgUnion := Fields.proc do
  let type ← xdrGpRpcMsgType.field (·.type)
  if type = GP_RPC_CALL then
    return .chdr (← xdrGpRpcCallHeader.arm fun | .chdr header => some header | _ => none)
  else if type = GP_RPC_REPLY then
    return .rhdr (← xdrGpRpcReplyHeader.arm fun | .rhdr header => some header | _ => none)
  else
    Fields.fail

/-- `xdr_gp_rpc_msg`. -/
def xdrGpRpcMsg : XdrProc GpRpcMsg := Fields.proc do
  return {
    xid := ← xdrUInt32.field (·.xid)
    header := ← xdrGpRpcMsgUnion.field (·.header) }

end GssProxy.Rpcgen
