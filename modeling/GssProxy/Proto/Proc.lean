import GssProxy.Proto.Gssx

/-!
# Procedures

The procedure table with argument and result types.  `WireType` names every type that travels on the wire.

* `decode_encode`: what is encoded is decoded again.
-/

namespace GssProxy.Proto

open Codec

/-! ## The procedure table -/

/-- The procedures of the program. -/
inductive GssxProc where
  | indicateMechs
  | getCallContext
  | importAndCanonName
  | exportCred
  | importCred
  | acquireCred
  | storeCred
  | initSecContext
  | acceptSecContext
  | releaseHandle
  | getMic
  | verifyMic
  | wrap
  | unwrap
  | wrapSizeLimit
  deriving DecidableEq, Repr

def GssxProc.toU32 : GssxProc → UInt32
  | .indicateMechs => 1
  | .getCallContext => 2
  | .importAndCanonName => 3
  | .exportCred => 4
  | .importCred => 5
  | .acquireCred => 6
  | .storeCred => 7
  | .initSecContext => 8
  | .acceptSecContext => 9
  | .releaseHandle => 10
  | .getMic => 11
  | .verifyMic => 12
  | .wrap => 13
  | .unwrap => 14
  | .wrapSizeLimit => 15

def GssxProc.fromU32 : UInt32 → Option GssxProc
  | 1 => some .indicateMechs
  | 2 => some .getCallContext
  | 3 => some .importAndCanonName
  | 4 => some .exportCred
  | 5 => some .importCred
  | 6 => some .acquireCred
  | 7 => some .storeCred
  | 8 => some .initSecContext
  | 9 => some .acceptSecContext
  | 10 => some .releaseHandle
  | 11 => some .getMic
  | 12 => some .verifyMic
  | 13 => some .wrap
  | 14 => some .unwrap
  | 15 => some .wrapSizeLimit
  | _ => none

/-! ## Arguments and results -/

structure ArgReleaseHandle where
  callCtx : GssxCallCtx
  credHandle : GssxHandle
  deriving DecidableEq

instance : Xdr ArgReleaseHandle where
  encode self := List.flatten [encode self.callCtx, encode self.credHandle]
  decode := return { callCtx := ← decode, credHandle := ← decode }

instance : Sized ArgReleaseHandle where
  Fits self := All [Fits self.callCtx, Fits self.credHandle]

structure ResReleaseHandle where
  status : GssxStatus
  deriving DecidableEq, Inhabited

instance : Xdr ResReleaseHandle where
  encode self := List.flatten [encode self.status]
  decode := return { status := ← decode }

instance : Sized ResReleaseHandle where
  Fits self := All [Fits self.status]

structure ArgIndicateMechs where
  callCtx : GssxCallCtx
  deriving DecidableEq, Inhabited

instance : Xdr ArgIndicateMechs where
  encode self := List.flatten [encode self.callCtx]
  decode := return { callCtx := ← decode }

instance : Sized ArgIndicateMechs where
  Fits self := All [Fits self.callCtx]

/-- `gssx_res_indicate_mechs`. -/
structure ResIndicateMechs where
  status : GssxStatus
  mechs : List GssxMechInfo
  mechAttrDescs : List GssxMechAttr
  supportedExtensions : List GssxBuffer
  options : List GssxOption
  deriving DecidableEq, Inhabited

instance : Xdr ResIndicateMechs where
  encode self := List.flatten [encode self.status, encodeArray self.mechs,
    encodeArray self.mechAttrDescs, encodeArray self.supportedExtensions,
    encodeArray self.options]
  decode := return {
    status := ← decode, mechs := ← decodeArray, mechAttrDescs := ← decodeArray,
    supportedExtensions := ← decodeArray, options := ← decodeArray }

instance : Sized ResIndicateMechs where
  Fits self := All [Fits self.status, Fits self.mechs, Fits self.mechAttrDescs,
    Fits self.supportedExtensions, Fits self.options]

structure ArgImportAndCanonName where
  callCtx : GssxCallCtx
  inputName : GssxName
  mech : GssxOid
  nameAttributes : List GssxNameAttr
  options : List GssxOption
  deriving DecidableEq, Inhabited

instance : Xdr ArgImportAndCanonName where
  encode self := List.flatten [encode self.callCtx, encode self.inputName, encode self.mech,
    encodeArray self.nameAttributes, encodeArray self.options]
  decode := return {
    callCtx := ← decode, inputName := ← decode, mech := ← decode, nameAttributes := ← decodeArray,
    options := ← decodeArray }

instance : Sized ArgImportAndCanonName where
  Fits self := All [Fits self.callCtx, Fits self.inputName, Fits self.mech,
    Fits self.nameAttributes, Fits self.options]

structure ResImportAndCanonName where
  status : GssxStatus
  outputName : Option GssxName
  options : List GssxOption
  deriving DecidableEq, Inhabited

instance : Xdr ResImportAndCanonName where
  encode self := List.flatten [encode self.status, encodeOptional self.outputName,
    encodeArray self.options]
  decode := return {
    status := ← decode, outputName := ← decodeOptional, options := ← decodeArray }

instance : Sized ResImportAndCanonName where
  Fits self := All [Fits self.status, Fits self.outputName, Fits self.options]

structure ArgGetCallContext where
  callCtx : GssxCallCtx
  options : List GssxOption
  deriving DecidableEq, Inhabited

instance : Xdr ArgGetCallContext where
  encode self := List.flatten [encode self.callCtx, encodeArray self.options]
  decode := return { callCtx := ← decode, options := ← decodeArray }

instance : Sized ArgGetCallContext where
  Fits self := All [Fits self.callCtx, Fits self.options]

structure ResGetCallContext where
  status : GssxStatus
  serverCallCtx : OctetString
  options : List GssxOption
  deriving DecidableEq, Inhabited

instance : Xdr ResGetCallContext where
  encode self := List.flatten [encode self.status, encode self.serverCallCtx,
    encodeArray self.options]
  decode := return { status := ← decode, serverCallCtx := ← decode, options := ← decodeArray }

instance : Sized ResGetCallContext where
  Fits self := All [Fits self.status, Fits self.serverCallCtx, Fits self.options]

/-- `gssx_arg_acquire_cred`. -/
structure ArgAcquireCred where
  callCtx : GssxCallCtx
  inputCredHandle : Option GssxCred
  addCredToInputHandle : Bool
  desiredName : Option GssxName
  timeReq : UInt64
  desiredMechs : GssxOidSet
  credUsage : Int32
  initiatorTimeReq : UInt64
  acceptorTimeReq : UInt64
  options : List GssxOption
  deriving DecidableEq, Inhabited

instance : Xdr ArgAcquireCred where
  encode self := List.flatten [encode self.callCtx, encodeOptional self.inputCredHandle,
    encode self.addCredToInputHandle, encodeOptional self.desiredName, encode self.timeReq,
    encodeArray self.desiredMechs, encode self.credUsage, encode self.initiatorTimeReq,
    encode self.acceptorTimeReq, encodeArray self.options]
  decode := return {
    callCtx := ← decode, inputCredHandle := ← decodeOptional, addCredToInputHandle := ← decode,
    desiredName := ← decodeOptional, timeReq := ← decode, desiredMechs := ← decodeArray,
    credUsage := ← decode, initiatorTimeReq := ← decode, acceptorTimeReq := ← decode,
    options := ← decodeArray }

instance : Sized ArgAcquireCred where
  Fits self := All [Fits self.callCtx, Fits self.inputCredHandle, Fits self.addCredToInputHandle,
    Fits self.desiredName, Fits self.timeReq, Fits self.desiredMechs, Fits self.credUsage,
    Fits self.initiatorTimeReq, Fits self.acceptorTimeReq, Fits self.options]

structure ResAcquireCred where
  status : GssxStatus
  outputCredHandle : Option GssxCred
  options : List GssxOption
  deriving DecidableEq, Inhabited

instance : Xdr ResAcquireCred where
  encode self := List.flatten [encode self.status, encodeOptional self.outputCredHandle,
    encodeArray self.options]
  decode := return {
    status := ← decode, outputCredHandle := ← decodeOptional, options := ← decodeArray }

instance : Sized ResAcquireCred where
  Fits self := All [Fits self.status, Fits self.outputCredHandle, Fits self.options]

structure ArgExportCred where
  callCtx : GssxCallCtx
  inputCredHandle : GssxCred
  credUsage : Int32
  options : List GssxOption
  deriving DecidableEq, Inhabited

instance : Xdr ArgExportCred where
  encode self := List.flatten [encode self.callCtx, encode self.inputCredHandle,
    encode self.credUsage, encodeArray self.options]
  decode := return {
    callCtx := ← decode, inputCredHandle := ← decode, credUsage := ← decode,
    options := ← decodeArray }

instance : Sized ArgExportCred where
  Fits self := All [Fits self.callCtx, Fits self.inputCredHandle, Fits self.credUsage,
    Fits self.options]

structure ResExportCred where
  status : GssxStatus
  usageExported : Int32
  exportedHandle : Option OctetString
  options : List GssxOption
  deriving DecidableEq, Inhabited

instance : Xdr ResExportCred where
  encode self := List.flatten [encode self.status, encode self.usageExported,
    encodeOptional self.exportedHandle, encodeArray self.options]
  decode := return {
    status := ← decode, usageExported := ← decode, exportedHandle := ← decodeOptional,
    options := ← decodeArray }

instance : Sized ResExportCred where
  Fits self := All [Fits self.status, Fits self.usageExported, Fits self.exportedHandle,
    Fits self.options]

structure ArgImportCred where
  callCtx : GssxCallCtx
  exportedHandle : OctetString
  options : List GssxOption
  deriving DecidableEq, Inhabited

instance : Xdr ArgImportCred where
  encode self := List.flatten [encode self.callCtx, encode self.exportedHandle,
    encodeArray self.options]
  decode := return { callCtx := ← decode, exportedHandle := ← decode, options := ← decodeArray }

instance : Sized ArgImportCred where
  Fits self := All [Fits self.callCtx, Fits self.exportedHandle, Fits self.options]

structure ResImportCred where
  status : GssxStatus
  outputCredHandle : Option GssxCred
  options : List GssxOption
  deriving DecidableEq, Inhabited

instance : Xdr ResImportCred where
  encode self := List.flatten [encode self.status, encodeOptional self.outputCredHandle,
    encodeArray self.options]
  decode := return {
    status := ← decode, outputCredHandle := ← decodeOptional, options := ← decodeArray }

instance : Sized ResImportCred where
  Fits self := All [Fits self.status, Fits self.outputCredHandle, Fits self.options]

structure ArgStoreCred where
  callCtx : GssxCallCtx
  inputCredHandle : GssxCred
  credUsage : Int32
  desiredMech : GssxOid
  overwriteCred : Bool
  defaultCred : Bool
  options : List GssxOption
  deriving DecidableEq, Inhabited

instance : Xdr ArgStoreCred where
  encode self := List.flatten [encode self.callCtx, encode self.inputCredHandle,
    encode self.credUsage, encode self.desiredMech, encode self.overwriteCred,
    encode self.defaultCred, encodeArray self.options]
  decode := return {
    callCtx := ← decode, inputCredHandle := ← decode, credUsage := ← decode,
    desiredMech := ← decode, overwriteCred := ← decode, defaultCred := ← decode,
    options := ← decodeArray }

instance : Sized ArgStoreCred where
  Fits self := All [Fits self.callCtx, Fits self.inputCredHandle, Fits self.credUsage,
    Fits self.desiredMech, Fits self.overwriteCred, Fits self.defaultCred, Fits self.options]

structure ResStoreCred where
  status : GssxStatus
  elementsStored : GssxOidSet
  credUsageStored : Int32
  options : List GssxOption
  deriving DecidableEq, Inhabited

instance : Xdr ResStoreCred where
  encode self := List.flatten [encode self.status, encodeArray self.elementsStored,
    encode self.credUsageStored, encodeArray self.options]
  decode := return {
    status := ← decode, elementsStored := ← decodeArray, credUsageStored := ← decode,
    options := ← decodeArray }

instance : Sized ResStoreCred where
  Fits self := All [Fits self.status, Fits self.elementsStored, Fits self.credUsageStored,
    Fits self.options]

/-- `gssx_arg_init_sec_context`. -/
structure ArgInitSecContext where
  callCtx : GssxCallCtx
  contextHandle : Option GssxCtx
  credHandle : Option GssxCred
  targetName : Option GssxName
  mechType : GssxOid
  reqFlags : UInt64
  timeReq : UInt64
  inputCb : Option GssxCb
  inputToken : Option GssxBuffer
  options : List GssxOption
  deriving DecidableEq, Inhabited

instance : Xdr ArgInitSecContext where
  encode self := List.flatten [encode self.callCtx, encodeOptional self.contextHandle,
    encodeOptional self.credHandle, encodeOptional self.targetName, encode self.mechType,
    encode self.reqFlags, encode self.timeReq, encodeOptional self.inputCb,
    encodeOptional self.inputToken, encodeArray self.options]
  decode := return {
    callCtx := ← decode, contextHandle := ← decodeOptional, credHandle := ← decodeOptional,
    targetName := ← decodeOptional, mechType := ← decode, reqFlags := ← decode,
    timeReq := ← decode, inputCb := ← decodeOptional, inputToken := ← decodeOptional,
    options := ← decodeArray }

instance : Sized ArgInitSecContext where
  Fits self := All [Fits self.callCtx, Fits self.contextHandle, Fits self.credHandle,
    Fits self.targetName, Fits self.mechType, Fits self.reqFlags, Fits self.timeReq,
    Fits self.inputCb, Fits self.inputToken, Fits self.options]

/-- `gssx_res_init_sec_context`. -/
structure ResInitSecContext where
  status : GssxStatus
  contextHandle : Option GssxCtx
  outputToken : Option GssxBuffer
  options : List GssxOption
  deriving DecidableEq, Inhabited

instance : Xdr ResInitSecContext where
  encode self := List.flatten [encode self.status, encodeOptional self.contextHandle,
    encodeOptional self.outputToken, encodeArray self.options]
  decode := return {
    status := ← decode, contextHandle := ← decodeOptional, outputToken := ← decodeOptional,
    options := ← decodeArray }

instance : Sized ResInitSecContext where
  Fits self := All [Fits self.status, Fits self.contextHandle, Fits self.outputToken,
    Fits self.options]

/-- `gssx_arg_accept_sec_context`. -/
structure ArgAcceptSecContext where
  callCtx : GssxCallCtx
  contextHandle : Option GssxCtx
  credHandle : Option GssxCred
  inputToken : GssxBuffer
  inputCb : Option GssxCb
  retDelegCred : Bool
  options : List GssxOption
  deriving DecidableEq, Inhabited

instance : Xdr ArgAcceptSecContext where
  encode self := List.flatten [encode self.callCtx, encodeOptional self.contextHandle,
    encodeOptional self.credHandle, encode self.inputToken, encodeOptional self.inputCb,
    encode self.retDelegCred, encodeArray self.options]
  decode := return {
    callCtx := ← decode, contextHandle := ← decodeOptional, credHandle := ← decodeOptional,
    inputToken := ← decode, inputCb := ← decodeOptional, retDelegCred := ← decode,
    options := ← decodeArray }

instance : Sized ArgAcceptSecContext where
  Fits self := All [Fits self.callCtx, Fits self.contextHandle, Fits self.credHandle,
    Fits self.inputToken, Fits self.inputCb, Fits self.retDelegCred, Fits self.options]

/-- `gssx_res_accept_sec_context`. -/
structure ResAcceptSecContext where
  status : GssxStatus
  contextHandle : Option GssxCtx
  outputToken : Option GssxBuffer
  delegatedCredHandle : Option GssxCred
  options : List GssxOption
  deriving DecidableEq, Inhabited

instance : Xdr ResAcceptSecContext where
  encode self := List.flatten [encode self.status, encodeOptional self.contextHandle,
    encodeOptional self.outputToken, encodeOptional self.delegatedCredHandle,
    encodeArray self.options]
  decode := return {
    status := ← decode, contextHandle := ← decodeOptional, outputToken := ← decodeOptional,
    delegatedCredHandle := ← decodeOptional, options := ← decodeArray }

instance : Sized ResAcceptSecContext where
  Fits self := All [Fits self.status, Fits self.contextHandle, Fits self.outputToken,
    Fits self.delegatedCredHandle, Fits self.options]

structure ArgGetMic where
  callCtx : GssxCallCtx
  contextHandle : GssxCtx
  qopReq : UInt64
  messageBuffer : GssxBuffer
  deriving DecidableEq, Inhabited

instance : Xdr ArgGetMic where
  encode self := List.flatten [encode self.callCtx, encode self.contextHandle, encode self.qopReq,
    encode self.messageBuffer]
  decode := return {
    callCtx := ← decode, contextHandle := ← decode, qopReq := ← decode,
    messageBuffer := ← decode }

instance : Sized ArgGetMic where
  Fits self := All [Fits self.callCtx, Fits self.contextHandle, Fits self.qopReq,
    Fits self.messageBuffer]

structure ResGetMic where
  status : GssxStatus
  contextHandle : Option GssxCtx
  tokenBuffer : GssxBuffer
  qopState : Option UInt64
  deriving DecidableEq, Inhabited

instance : Xdr ResGetMic where
  encode self := List.flatten [encode self.status, encodeOptional self.contextHandle,
    encode self.tokenBuffer, encodeOptional self.qopState]
  decode := return {
    status := ← decode, contextHandle := ← decodeOptional, tokenBuffer := ← decode,
    qopState := ← decodeOptional }

instance : Sized ResGetMic where
  Fits self := All [Fits self.status, Fits self.contextHandle, Fits self.tokenBuffer,
    Fits self.qopState]

structure ArgVerifyMic where
  callCtx : GssxCallCtx
  contextHandle : GssxCtx
  messageBuffer : GssxBuffer
  tokenBuffer : GssxBuffer
  deriving DecidableEq, Inhabited

instance : Xdr ArgVerifyMic where
  encode self := List.flatten [encode self.callCtx, encode self.contextHandle,
    encode self.messageBuffer, encode self.tokenBuffer]
  decode := return {
    callCtx := ← decode, contextHandle := ← decode, messageBuffer := ← decode,
    tokenBuffer := ← decode }

instance : Sized ArgVerifyMic where
  Fits self := All [Fits self.callCtx, Fits self.contextHandle, Fits self.messageBuffer,
    Fits self.tokenBuffer]

structure ResVerifyMic where
  status : GssxStatus
  contextHandle : Option GssxCtx
  qopState : Option UInt64
  deriving DecidableEq, Inhabited

instance : Xdr ResVerifyMic where
  encode self := List.flatten [encode self.status, encodeOptional self.contextHandle,
    encodeOptional self.qopState]
  decode := return {
    status := ← decode, contextHandle := ← decodeOptional, qopState := ← decodeOptional }

instance : Sized ResVerifyMic where
  Fits self := All [Fits self.status, Fits self.contextHandle, Fits self.qopState]

structure ArgWrap where
  callCtx : GssxCallCtx
  contextHandle : GssxCtx
  confReq : Bool
  messageBuffer : List GssxBuffer
  qopState : UInt64
  deriving DecidableEq, Inhabited

instance : Xdr ArgWrap where
  encode self := List.flatten [encode self.callCtx, encode self.contextHandle,
    encode self.confReq, encodeArray self.messageBuffer, encode self.qopState]
  decode := return {
    callCtx := ← decode, contextHandle := ← decode, confReq := ← decode,
    messageBuffer := ← decodeArray, qopState := ← decode }

instance : Sized ArgWrap where
  Fits self := All [Fits self.callCtx, Fits self.contextHandle, Fits self.confReq,
    Fits self.messageBuffer, Fits self.qopState]

structure ResWrap where
  status : GssxStatus
  contextHandle : Option GssxCtx
  tokenBuffer : List GssxBuffer
  confState : Option Bool
  qopState : Option UInt64
  deriving DecidableEq, Inhabited

instance : Xdr ResWrap where
  encode self := List.flatten [encode self.status, encodeOptional self.contextHandle,
    encodeArray self.tokenBuffer, encodeOptional self.confState, encodeOptional self.qopState]
  decode := return {
    status := ← decode, contextHandle := ← decodeOptional, tokenBuffer := ← decodeArray,
    confState := ← decodeOptional, qopState := ← decodeOptional }

instance : Sized ResWrap where
  Fits self := All [Fits self.status, Fits self.contextHandle, Fits self.tokenBuffer,
    Fits self.confState, Fits self.qopState]

structure ArgUnwrap where
  callCtx : GssxCallCtx
  contextHandle : GssxCtx
  tokenBuffer : List GssxBuffer
  qopState : UInt64
  deriving DecidableEq, Inhabited

instance : Xdr ArgUnwrap where
  encode self := List.flatten [encode self.callCtx, encode self.contextHandle,
    encodeArray self.tokenBuffer, encode self.qopState]
  decode := return {
    callCtx := ← decode, contextHandle := ← decode, tokenBuffer := ← decodeArray,
    qopState := ← decode }

instance : Sized ArgUnwrap where
  Fits self := All [Fits self.callCtx, Fits self.contextHandle, Fits self.tokenBuffer,
    Fits self.qopState]

structure ResUnwrap where
  status : GssxStatus
  contextHandle : Option GssxCtx
  messageBuffer : List GssxBuffer
  confState : Option Bool
  qopState : Option UInt64
  deriving DecidableEq, Inhabited

instance : Xdr ResUnwrap where
  encode self := List.flatten [encode self.status, encodeOptional self.contextHandle,
    encodeArray self.messageBuffer, encodeOptional self.confState, encodeOptional self.qopState]
  decode := return {
    status := ← decode, contextHandle := ← decodeOptional, messageBuffer := ← decodeArray,
    confState := ← decodeOptional, qopState := ← decodeOptional }

instance : Sized ResUnwrap where
  Fits self := All [Fits self.status, Fits self.contextHandle, Fits self.messageBuffer,
    Fits self.confState, Fits self.qopState]

structure ArgWrapSizeLimit where
  callCtx : GssxCallCtx
  contextHandle : GssxCtx
  confReq : Bool
  qopState : UInt64
  reqOutputSize : UInt64
  deriving DecidableEq, Inhabited

instance : Xdr ArgWrapSizeLimit where
  encode self := List.flatten [encode self.callCtx, encode self.contextHandle,
    encode self.confReq, encode self.qopState, encode self.reqOutputSize]
  decode := return {
    callCtx := ← decode, contextHandle := ← decode, confReq := ← decode, qopState := ← decode,
    reqOutputSize := ← decode }

instance : Sized ArgWrapSizeLimit where
  Fits self := All [Fits self.callCtx, Fits self.contextHandle, Fits self.confReq,
    Fits self.qopState, Fits self.reqOutputSize]

structure ResWrapSizeLimit where
  status : GssxStatus
  maxInputSize : UInt64
  deriving DecidableEq, Inhabited

instance : Xdr ResWrapSizeLimit where
  encode self := List.flatten [encode self.status, encode self.maxInputSize]
  decode := return { status := ← decode, maxInputSize := ← decode }

instance : Sized ResWrapSizeLimit where
  Fits self := All [Fits self.status, Fits self.maxInputSize]

/-! ## Laws -/

section Laws

open LawfulXdr

instance : LawfulXdr ArgReleaseHandle := .ofFields

instance : LawfulXdr ResReleaseHandle := .ofFields

instance : LawfulXdr ArgIndicateMechs := .ofFields

instance : LawfulXdr ResIndicateMechs := .ofFields

instance : LawfulXdr ArgImportAndCanonName := .ofFields

instance : LawfulXdr ResImportAndCanonName := .ofFields

instance : LawfulXdr ArgGetCallContext := .ofFields

instance : LawfulXdr ResGetCallContext := .ofFields

instance : LawfulXdr ArgAcquireCred := .ofFields

instance : LawfulXdr ResAcquireCred := .ofFields

instance : LawfulXdr ArgExportCred := .ofFields

instance : LawfulXdr ResExportCred := .ofFields

instance : LawfulXdr ArgImportCred := .ofFields

instance : LawfulXdr ResImportCred := .ofFields

instance : LawfulXdr ArgStoreCred := .ofFields

instance : LawfulXdr ResStoreCred := .ofFields

instance : LawfulXdr ArgInitSecContext := .ofFields

instance : LawfulXdr ResInitSecContext := .ofFields

instance : LawfulXdr ArgAcceptSecContext := .ofFields

instance : LawfulXdr ResAcceptSecContext := .ofFields

instance : LawfulXdr ArgGetMic := .ofFields

instance : LawfulXdr ResGetMic := .ofFields

instance : LawfulXdr ArgVerifyMic := .ofFields

instance : LawfulXdr ResVerifyMic := .ofFields

instance : LawfulXdr ArgWrap := .ofFields

instance : LawfulXdr ResWrap := .ofFields

instance : LawfulXdr ArgUnwrap := .ofFields

instance : LawfulXdr ResUnwrap := .ofFields

instance : LawfulXdr ArgWrapSizeLimit := .ofFields

instance : LawfulXdr ResWrapSizeLimit := .ofFields

end Laws

/-! ## All types at once -/

abbrev GssxProc.Arg : GssxProc → Type
  | .indicateMechs => ArgIndicateMechs
  | .getCallContext => ArgGetCallContext
  | .importAndCanonName => ArgImportAndCanonName
  | .exportCred => ArgExportCred
  | .importCred => ArgImportCred
  | .acquireCred => ArgAcquireCred
  | .storeCred => ArgStoreCred
  | .initSecContext => ArgInitSecContext
  | .acceptSecContext => ArgAcceptSecContext
  | .releaseHandle => ArgReleaseHandle
  | .getMic => ArgGetMic
  | .verifyMic => ArgVerifyMic
  | .wrap => ArgWrap
  | .unwrap => ArgUnwrap
  | .wrapSizeLimit => ArgWrapSizeLimit

abbrev GssxProc.Res : GssxProc → Type
  | .indicateMechs => ResIndicateMechs
  | .getCallContext => ResGetCallContext
  | .importAndCanonName => ResImportAndCanonName
  | .exportCred => ResExportCred
  | .importCred => ResImportCred
  | .acquireCred => ResAcquireCred
  | .storeCred => ResStoreCred
  | .initSecContext => ResInitSecContext
  | .acceptSecContext => ResAcceptSecContext
  | .releaseHandle => ResReleaseHandle
  | .getMic => ResGetMic
  | .verifyMic => ResVerifyMic
  | .wrap => ResWrap
  | .unwrap => ResUnwrap
  | .wrapSizeLimit => ResWrapSizeLimit

inductive GssxType where
  | buffer | option | mechAttr | mechInfo | nameAttr | status | callCtx | name
  | credElement | cred | ctx | handle | cb
  deriving DecidableEq, Repr

abbrev GssxType.Value : GssxType → Type
  | .buffer => GssxBuffer
  | .option => GssxOption
  | .mechAttr => GssxMechAttr
  | .mechInfo => GssxMechInfo
  | .nameAttr => GssxNameAttr
  | .status => GssxStatus
  | .callCtx => GssxCallCtx
  | .name => GssxName
  | .credElement => GssxCredElement
  | .cred => GssxCred
  | .ctx => GssxCtx
  | .handle => GssxHandle
  | .cb => GssxCb

/-- A type that is sent. -/
inductive WireType where
  | arg (proc : GssxProc)
  | res (proc : GssxProc)
  | gssx (type : GssxType)
  deriving DecidableEq, Repr

abbrev WireType.Value : WireType → Type
  | .arg proc => proc.Arg
  | .res proc => proc.Res
  | .gssx type => type.Value

instance (proc : GssxProc) : Xdr proc.Arg := by
  cases proc <;> exact inferInstance

instance (proc : GssxProc) : Xdr proc.Res := by
  cases proc <;> exact inferInstance

instance (type : GssxType) : Xdr type.Value := by
  cases type <;> exact inferInstance

instance (type : WireType) : Xdr type.Value := by
  cases type <;> exact inferInstance

instance (proc : GssxProc) : Sized proc.Arg := by
  cases proc <;> exact inferInstance

instance (proc : GssxProc) : Sized proc.Res := by
  cases proc <;> exact inferInstance

instance (type : GssxType) : Sized type.Value := by
  cases type <;> exact inferInstance

instance (type : WireType) : Sized type.Value := by
  cases type <;> exact inferInstance

instance (proc : GssxProc) : LawfulXdr proc.Arg := by
  cases proc <;> exact inferInstance

instance (proc : GssxProc) : LawfulXdr proc.Res := by
  cases proc <;> exact inferInstance

instance (type : GssxType) : LawfulXdr type.Value := by
  cases type <;> exact inferInstance

instance (type : WireType) : LawfulXdr type.Value := by
  cases type <;> exact inferInstance

/-- **Round trip**: for every type of the protocol, a value within bounds is decoded from its
    encoding exactly, and the decoder stops where the encoding ends. -/
theorem decode_encode (type : WireType) (v : type.Value) (hfits : Fits v) (rest : Bytes) :
    (decode : XdrDecoder type.Value).run (Stream.new (encode v ++ rest)) =
      .ok (v, ⟨rest, encode v⟩) := by
  have h := (LawfulXdr.law (α := type.Value)).roundtrip v hfits trivial rest []
  rwa [List.nil_append] at h

def releaseExtension : ArgReleaseHandle where
  callCtx := { locale := ⟨[101, 110]⟩, serverCtx := ⟨[]⟩, options := [⟨⟨[1]⟩, ⟨[2, 3]⟩⟩] }
  credHandle := .extensions 7 ⟨[1, 2, 3, 4, 5]⟩

theorem releaseExtension_fits : Fits releaseExtension := by
  simp [releaseExtension, Fits, All, GSSX_C_HANDLE_CRED, GSSX_C_HANDLE_SEC_CTX]

theorem decode_encode_releaseExtension : Fits releaseExtension ∧
    decode.run (Stream.new (encode releaseExtension ++ [9])) =
      .ok (releaseExtension, ⟨[9], encode releaseExtension⟩) :=
  ⟨releaseExtension_fits,
    decode_encode (.arg .releaseHandle) releaseExtension releaseExtension_fits [9]⟩

end GssProxy.Proto
