import GssProxy.Proto.Proc
import GssProxy.Rpcgen.Xdr

/-!
# The generated routines of the procedure types

The rpcgen routines for the `gssx` types, arguments and results, statement for statement.
-/

namespace GssProxy.Rpcgen

open Proto

/-! ## Basic types -/

def UINT32_MAX : Nat := 4294967295

def xdrUtf8string : XdrProc Utf8String := Fields.proc do
  return { data := ← (xdrBytes UINT32_MAX).field (·.data) }

def xdrOctetString : XdrProc OctetString := Fields.proc do
  return { data := ← (xdrBytes UINT32_MAX).field (·.data) }

def xdrGssxUint64 : XdrProc UInt64 := gpXdrUint64

def xdrGssxQop : XdrProc UInt64 := gpXdrUint64

def xdrGssxBuffer : XdrProc GssxBuffer := xdrOctetString

def xdrGssxOid : XdrProc GssxOid := xdrOctetString

def xdrGssxOidSet : XdrProc GssxOidSet := xdrArray xdrGssxOid

def xdrGssxCredUsage : XdrProc Int32 := xdrEnum

def xdrGssxTime : XdrProc UInt64 := gpXdrUint64

def xdrGssxHandleType : XdrProc Int32 := xdrEnum

/-! ## Structures -/

def xdrGssxOption : XdrProc GssxOption := Fields.proc do
  return {
    option := ← xdrGssxBuffer.field (·.option)
    value := ← xdrGssxBuffer.field (·.value) }

def xdrGssxMechAttr : XdrProc GssxMechAttr := Fields.proc do
  return {
    attr := ← xdrGssxOid.field (·.attr)
    name := ← xdrGssxBuffer.field (·.name)
    shortDesc := ← xdrGssxBuffer.field (·.shortDesc)
    longDesc := ← xdrGssxBuffer.field (·.longDesc)
    extensions := ← (xdrArray xdrGssxOption).field (·.extensions) }

def xdrGssxMechInfo : XdrProc GssxMechInfo := Fields.proc do
  return {
    mech := ← xdrGssxOid.field (·.mech)
    nameTypes := ← xdrGssxOidSet.field (·.nameTypes)
    mechAttrs := ← xdrGssxOidSet.field (·.mechAttrs)
    knownMechAttrs := ← xdrGssxOidSet.field (·.knownMechAttrs)
    credOptions := ← xdrGssxOidSet.field (·.credOptions)
    secCtxOptions := ← xdrGssxOidSet.field (·.secCtxOptions)
    saslnameSaslMechName := ← xdrGssxBuffer.field (·.saslnameSaslMechName)
    saslnameMechName := ← xdrGssxBuffer.field (·.saslnameMechName)
    saslnameMechDesc := ← xdrGssxBuffer.field (·.saslnameMechDesc)
    extensions := ← (xdrArray xdrGssxOption).field (·.extensions) }

def xdrGssxNameAttr : XdrProc GssxNameAttr := Fields.proc do
  return {
    attr := ← xdrGssxBuffer.field (·.attr)
    value := ← xdrGssxBuffer.field (·.value)
    extensions := ← (xdrArray xdrGssxOption).field (·.extensions) }

def xdrGssxStatus : XdrProc GssxStatus := Fields.proc do
  return {
    majorStatus := ← xdrGssxUint64.field (·.majorStatus)
    mech := ← xdrGssxOid.field (·.mech)
    minorStatus := ← xdrGssxUint64.field (·.minorStatus)
    majorStatusString := ← xdrUtf8string.field (·.majorStatusString)
    minorStatusString := ← xdrUtf8string.field (·.minorStatusString)
    serverCtx := ← xdrOctetString.field (·.serverCtx)
    options := ← (xdrArray xdrGssxOption).field (·.options) }

def xdrGssxCallCtx : XdrProc GssxCallCtx := Fields.proc do
  return {
    locale := ← xdrUtf8string.field (·.locale)
    serverCtx := ← xdrOctetString.field (·.serverCtx)
    options := ← (xdrArray xdrGssxOption).field (·.options) }

def xdrGssxName : XdrProc GssxName := Fields.proc do
  return {
    displayName := ← xdrGssxBuffer.field (·.displayName)
    nameType := ← xdrGssxOid.field (·.nameType)
    exportedName := ← xdrGssxBuffer.field (·.exportedName)
    exportedCompositeName := ← xdrGssxBuffer.field (·.exportedCompositeName)
    nameAttributes := ← (xdrArray xdrGssxNameAttr).field (·.nameAttributes)
    extensions := ← (xdrArray xdrGssxOption).field (·.extensions) }

def xdrGssxCredElement : XdrProc GssxCredElement := Fields.proc do
  return {
    mn := ← xdrGssxName.field (·.mn)
    mech := ← xdrGssxOid.field (·.mech)
    credUsage := ← xdrGssxCredUsage.field (·.credUsage)
    initiatorTimeRec := ← xdrGssxTime.field (·.initiatorTimeRec)
    acceptorTimeRec := ← xdrGssxTime.field (·.acceptorTimeRec)
    options := ← (xdrArray xdrGssxOption).field (·.options) }

def xdrGssxCred : XdrProc GssxCred := Fields.proc do
  return {
    desiredName := ← xdrGssxName.field (·.desiredName)
    elements := ← (xdrArray xdrGssxCredElement).field (·.elements)
    credHandleReference := ← xdrOctetString.field (·.credHandleReference)
    needsRelease := ← xdrBool.field (·.needsRelease) }

def xdrGssxCtx : XdrProc GssxCtx := Fields.proc do
  return {
    exportedContextToken := ← xdrGssxBuffer.field (·.exportedContextToken)
    state := ← xdrOctetString.field (·.state)
    needsRelease := ← xdrBool.field (·.needsRelease)
    mech := ← xdrGssxOid.field (·.mech)
    srcName := ← xdrGssxName.field (·.srcName)
    targName := ← xdrGssxName.field (·.targName)
    lifetime := ← xdrGssxTime.field (·.lifetime)
    ctxFlags := ← xdrGssxUint64.field (·.ctxFlags)
    locallyInitiated := ← xdrBool.field (·.locallyInitiated)
    isOpen := ← xdrBool.field (·.isOpen)
    options := ← (xdrArray xdrGssxOption).field (·.options) }

def xdrGssxHandle : XdrProc GssxHandle := Fields.proc do
  let handleType ← xdrGssxHandleType.field GssxHandle.tag
  if handleType = GSSX_C_HANDLE_CRED then
    return .cred (← xdrGssxCred.arm fun | .cred c => some c | _ => none)
  else if handleType = GSSX_C_HANDLE_SEC_CTX then
    return .secCtx (← xdrGssxCtx.arm fun | .secCtx c => some c | _ => none)
  else
    return .extensions handleType
      (← xdrOctetString.arm fun | .extensions _ data => some data | _ => none)

def xdrGssxCb : XdrProc GssxCb := Fields.proc do
  return {
    initiatorAddrtype := ← xdrGssxUint64.field (·.initiatorAddrtype)
    initiatorAddress := ← xdrGssxBuffer.field (·.initiatorAddress)
    acceptorAddrtype := ← xdrGssxUint64.field (·.acceptorAddrtype)
    acceptorAddress := ← xdrGssxBuffer.field (·.acceptorAddress)
    applicationData := ← xdrGssxBuffer.field (·.applicationData) }

def xdrGssxArgReleaseHandle : XdrProc ArgReleaseHandle := Fields.proc do
  return {
    callCtx := ← xdrGssxCallCtx.field (·.callCtx)
    credHandle := ← xdrGssxHandle.field (·.credHandle) }

def xdrGssxResReleaseHandle : XdrProc ResReleaseHandle := Fields.proc do
  return {
    status := ← xdrGssxStatus.field (·.status) }

def xdrGssxArgIndicateMechs : XdrProc ArgIndicateMechs := Fields.proc do
  return {
    callCtx := ← xdrGssxCallCtx.field (·.callCtx) }

def xdrGssxResIndicateMechs : XdrProc ResIndicateMechs := Fields.proc do
  return {
    status := ← xdrGssxStatus.field (·.status)
    mechs := ← (xdrArray xdrGssxMechInfo).field (·.mechs)
    mechAttrDescs := ← (xdrArray xdrGssxMechAttr).field (·.mechAttrDescs)
    supportedExtensions := ← (xdrArray xdrGssxBuffer).field (·.supportedExtensions)
    options := ← (xdrArray xdrGssxOption).field (·.options) }

def xdrGssxArgImportAndCanonName : XdrProc ArgImportAndCanonName := Fields.proc do
  return {
    callCtx := ← xdrGssxCallCtx.field (·.callCtx)
    inputName := ← xdrGssxName.field (·.inputName)
    mech := ← xdrGssxOid.field (·.mech)
    nameAttributes := ← (xdrArray xdrGssxNameAttr).field (·.nameAttributes)
    options := ← (xdrArray xdrGssxOption).field (·.options) }

def xdrGssxResImportAndCanonName : XdrProc ResImportAndCanonName := Fields.proc do
  return {
    status := ← xdrGssxStatus.field (·.status)
    outputName := ← (xdrPointer xdrGssxName).field (·.outputName)
    options := ← (xdrArray xdrGssxOption).field (·.options) }

def xdrGssxArgGetCallContext : XdrProc ArgGetCallContext := Fields.proc do
  return {
    callCtx := ← xdrGssxCallCtx.field (·.callCtx)
    options := ← (xdrArray xdrGssxOption).field (·.options) }

def xdrGssxResGetCallContext : XdrProc ResGetCallContext := Fields.proc do
  return {
    status := ← xdrGssxStatus.field (·.status)
    serverCallCtx := ← xdrOctetString.field (·.serverCallCtx)
    options := ← (xdrArray xdrGssxOption).field (·.options) }

def xdrGssxArgAcquireCred : XdrProc ArgAcquireCred := Fields.proc do
  return {
    callCtx := ← xdrGssxCallCtx.field (·.callCtx)
    inputCredHandle := ← (xdrPointer xdrGssxCred).field (·.inputCredHandle)
    addCredToInputHandle := ← xdrBool.field (·.addCredToInputHandle)
    desiredName := ← (xdrPointer xdrGssxName).field (·.desiredName)
    timeReq := ← xdrGssxTime.field (·.timeReq)
    desiredMechs := ← xdrGssxOidSet.field (·.desiredMechs)
    credUsage := ← xdrGssxCredUsage.field (·.credUsage)
    initiatorTimeReq := ← xdrGssxTime.field (·.initiatorTimeReq)
    acceptorTimeReq := ← xdrGssxTime.field (·.acceptorTimeReq)
    options := ← (xdrArray xdrGssxOption).field (·.options) }

def xdrGssxResAcquireCred : XdrProc ResAcquireCred := Fields.proc do
  return {
    status := ← xdrGssxStatus.field (·.status)
    outputCredHandle := ← (xdrPointer xdrGssxCred).field (·.outputCredHandle)
    options := ← (xdrArray xdrGssxOption).field (·.options) }

def xdrGssxArgExportCred : XdrProc ArgExportCred := Fields.proc do
  return {
    callCtx := ← xdrGssxCallCtx.field (·.callCtx)
    inputCredHandle := ← xdrGssxCred.field (·.inputCredHandle)
    credUsage := ← xdrGssxCredUsage.field (·.credUsage)
    options := ← (xdrArray xdrGssxOption).field (·.options) }

def xdrGssxResExportCred : XdrProc ResExportCred := Fields.proc do
  return {
    status := ← xdrGssxStatus.field (·.status)
    usageExported := ← xdrGssxCredUsage.field (·.usageExported)
    exportedHandle := ← (xdrPointer xdrOctetString).field (·.exportedHandle)
    options := ← (xdrArray xdrGssxOption).field (·.options) }

def xdrGssxArgImportCred : XdrProc ArgImportCred := Fields.proc do
  return {
    callCtx := ← xdrGssxCallCtx.field (·.callCtx)
    exportedHandle := ← xdrOctetString.field (·.exportedHandle)
    options := ← (xdrArray xdrGssxOption).field (·.options) }

def xdrGssxResImportCred : XdrProc ResImportCred := Fields.proc do
  return {
    status := ← xdrGssxStatus.field (·.status)
    outputCredHandle := ← (xdrPointer xdrGssxCred).field (·.outputCredHandle)
    options := ← (xdrArray xdrGssxOption).field (·.options) }

def xdrGssxArgStoreCred : XdrProc ArgStoreCred := Fields.proc do
  return {
    callCtx := ← xdrGssxCallCtx.field (·.callCtx)
    inputCredHandle := ← xdrGssxCred.field (·.inputCredHandle)
    credUsage := ← xdrGssxCredUsage.field (·.credUsage)
    desiredMech := ← xdrGssxOid.field (·.desiredMech)
    overwriteCred := ← xdrBool.field (·.overwriteCred)
    defaultCred := ← xdrBool.field (·.defaultCred)
    options := ← (xdrArray xdrGssxOption).field (·.options) }

def xdrGssxResStoreCred : XdrProc ResStoreCred := Fields.proc do
  return {
    status := ← xdrGssxStatus.field (·.status)
    elementsStored := ← xdrGssxOidSet.field (·.elementsStored)
    credUsageStored := ← xdrGssxCredUsage.field (·.credUsageStored)
    options := ← (xdrArray xdrGssxOption).field (·.options) }

def xdrGssxArgInitSecContext : XdrProc ArgInitSecContext := Fields.proc do
  return {
    callCtx := ← xdrGssxCallCtx.field (·.callCtx)
    contextHandle := ← (xdrPointer xdrGssxCtx).field (·.contextHandle)
    credHandle := ← (xdrPointer xdrGssxCred).field (·.credHandle)
    targetName := ← (xdrPointer xdrGssxName).field (·.targetName)
    mechType := ← xdrGssxOid.field (·.mechType)
    reqFlags := ← xdrGssxUint64.field (·.reqFlags)
    timeReq := ← xdrGssxTime.field (·.timeReq)
    inputCb := ← (xdrPointer xdrGssxCb).field (·.inputCb)
    inputToken := ← (xdrPointer xdrGssxBuffer).field (·.inputToken)
    options := ← (xdrArray xdrGssxOption).field (·.options) }

def xdrGssxResInitSecContext : XdrProc ResInitSecContext := Fields.proc do
  return {
    status := ← xdrGssxStatus.field (·.status)
    contextHandle := ← (xdrPointer xdrGssxCtx).field (·.contextHandle)
    outputToken := ← (xdrPointer xdrGssxBuffer).field (·.outputToken)
    options := ← (xdrArray xdrGssxOption).field (·.options) }

def xdrGssxArgAcceptSecContext : XdrProc ArgAcceptSecContext := Fields.proc do
  return {
    callCtx := ← xdrGssxCallCtx.field (·.callCtx)
    contextHandle := ← (xdrPointer xdrGssxCtx).field (·.contextHandle)
    credHandle := ← (xdrPointer xdrGssxCred).field (·.credHandle)
    inputToken := ← xdrGssxBuffer.field (·.inputToken)
    inputCb := ← (xdrPointer xdrGssxCb).field (·.inputCb)
    retDelegCred := ← xdrBool.field (·.retDelegCred)
    options := ← (xdrArray xdrGssxOption).field (·.options) }

def xdrGssxResAcceptSecContext : XdrProc ResAcceptSecContext := Fields.proc do
  return {
    status := ← xdrGssxStatus.field (·.status)
    contextHandle := ← (xdrPointer xdrGssxCtx).field (·.contextHandle)
    outputToken := ← (xdrPointer xdrGssxBuffer).field (·.outputToken)
    delegatedCredHandle := ← (xdrPointer xdrGssxCred).field (·.delegatedCredHandle)
    options := ← (xdrArray xdrGssxOption).field (·.options) }

def xdrGssxArgGetMic : XdrProc ArgGetMic := Fields.proc do
  return {
    callCtx := ← xdrGssxCallCtx.field (·.callCtx)
    contextHandle := ← xdrGssxCtx.field (·.contextHandle)
    qopReq := ← xdrGssxQop.field (·.qopReq)
    messageBuffer := ← xdrGssxBuffer.field (·.messageBuffer) }

def xdrGssxResGetMic : XdrProc ResGetMic := Fields.proc do
  return {
    status := ← xdrGssxStatus.field (·.status)
    contextHandle := ← (xdrPointer xdrGssxCtx).field (·.contextHandle)
    tokenBuffer := ← xdrGssxBuffer.field (·.tokenBuffer)
    qopState := ← (xdrPointer xdrGssxQop).field (·.qopState) }

def xdrGssxArgVerifyMic : XdrProc ArgVerifyMic := Fields.proc do
  return {
    callCtx := ← xdrGssxCallCtx.field (·.callCtx)
    contextHandle := ← xdrGssxCtx.field (·.contextHandle)
    messageBuffer := ← xdrGssxBuffer.field (·.messageBuffer)
    tokenBuffer := ← xdrGssxBuffer.field (·.tokenBuffer) }

def xdrGssxResVerifyMic : XdrProc ResVerifyMic := Fields.proc do
  return {
    status := ← xdrGssxStatus.field (·.status)
    contextHandle := ← (xdrPointer xdrGssxCtx).field (·.contextHandle)
    qopState := ← (xdrPointer xdrGssxQop).field (·.qopState) }

def xdrGssxArgWrap : XdrProc ArgWrap := Fields.proc do
  return {
    callCtx := ← xdrGssxCallCtx.field (·.callCtx)
    contextHandle := ← xdrGssxCtx.field (·.contextHandle)
    confReq := ← xdrBool.field (·.confReq)
    messageBuffer := ← (xdrArray xdrGssxBuffer).field (·.messageBuffer)
    qopState := ← xdrGssxQop.field (·.qopState) }

def xdrGssxResWrap : XdrProc ResWrap := Fields.proc do
  return {
    status := ← xdrGssxStatus.field (·.status)
    contextHandle := ← (xdrPointer xdrGssxCtx).field (·.contextHandle)
    tokenBuffer := ← (xdrArray xdrGssxBuffer).field (·.tokenBuffer)
    confState := ← (xdrPointer xdrBool).field (·.confState)
    qopState := ← (xdrPointer xdrGssxQop).field (·.qopState) }

def xdrGssxArgUnwrap : XdrProc ArgUnwrap := Fields.proc do
  return {
    callCtx := ← xdrGssxCallCtx.field (·.callCtx)
    contextHandle := ← xdrGssxCtx.field (·.contextHandle)
    tokenBuffer := ← (xdrArray xdrGssxBuffer).field (·.tokenBuffer)
    qopState := ← xdrGssxQop.field (·.qopState) }

def xdrGssxResUnwrap : XdrProc ResUnwrap := Fields.proc do
  return {
    status := ← xdrGssxStatus.field (·.status)
    contextHandle := ← (xdrPointer xdrGssxCtx).field (·.contextHandle)
    messageBuffer := ← (xdrArray xdrGssxBuffer).field (·.messageBuffer)
    confState := ← (xdrPointer xdrBool).field (·.confState)
    qopState := ← (xdrPointer xdrGssxQop).field (·.qopState) }

def xdrGssxArgWrapSizeLimit : XdrProc ArgWrapSizeLimit := Fields.proc do
  return {
    callCtx := ← xdrGssxCallCtx.field (·.callCtx)
    contextHandle := ← xdrGssxCtx.field (·.contextHandle)
    confReq := ← xdrBool.field (·.confReq)
    qopState := ← xdrGssxQop.field (·.qopState)
    reqOutputSize := ← xdrGssxUint64.field (·.reqOutputSize) }

def xdrGssxResWrapSizeLimit : XdrProc ResWrapSizeLimit := Fields.proc do
  return {
    status := ← xdrGssxStatus.field (·.status)
    maxInputSize := ← xdrGssxUint64.field (·.maxInputSize) }

def xdrArg : (proc : GssxProc) → XdrProc proc.Arg
  | .indicateMechs => xdrGssxArgIndicateMechs
  | .getCallContext => xdrGssxArgGetCallContext
  | .importAndCanonName => xdrGssxArgImportAndCanonName
  | .exportCred => xdrGssxArgExportCred
  | .importCred => xdrGssxArgImportCred
  | .acquireCred => xdrGssxArgAcquireCred
  | .storeCred => xdrGssxArgStoreCred
  | .initSecContext => xdrGssxArgInitSecContext
  | .acceptSecContext => xdrGssxArgAcceptSecContext
  | .releaseHandle => xdrGssxArgReleaseHandle
  | .getMic => xdrGssxArgGetMic
  | .verifyMic => xdrGssxArgVerifyMic
  | .wrap => xdrGssxArgWrap
  | .unwrap => xdrGssxArgUnwrap
  | .wrapSizeLimit => xdrGssxArgWrapSizeLimit

def xdrRes : (proc : GssxProc) → XdrProc proc.Res
  | .indicateMechs => xdrGssxResIndicateMechs
  | .getCallContext => xdrGssxResGetCallContext
  | .importAndCanonName => xdrGssxResImportAndCanonName
  | .exportCred => xdrGssxResExportCred
  | .importCred => xdrGssxResImportCred
  | .acquireCred => xdrGssxResAcquireCred
  | .storeCred => xdrGssxResStoreCred
  | .initSecContext => xdrGssxResInitSecContext
  | .acceptSecContext => xdrGssxResAcceptSecContext
  | .releaseHandle => xdrGssxResReleaseHandle
  | .getMic => xdrGssxResGetMic
  | .verifyMic => xdrGssxResVerifyMic
  | .wrap => xdrGssxResWrap
  | .unwrap => xdrGssxResUnwrap
  | .wrapSizeLimit => xdrGssxResWrapSizeLimit

def xdrGssx : (type : GssxType) → XdrProc type.Value
  | .buffer => xdrGssxBuffer
  | .option => xdrGssxOption
  | .mechAttr => xdrGssxMechAttr
  | .mechInfo => xdrGssxMechInfo
  | .nameAttr => xdrGssxNameAttr
  | .status => xdrGssxStatus
  | .callCtx => xdrGssxCallCtx
  | .name => xdrGssxName
  | .credElement => xdrGssxCredElement
  | .cred => xdrGssxCred
  | .ctx => xdrGssxCtx
  | .handle => xdrGssxHandle
  | .cb => xdrGssxCb

/-- The routine of a type. -/
def xdrOf : (type : WireType) → XdrProc type.Value
  | .arg proc => xdrArg proc
  | .res proc => xdrRes proc
  | .gssx type => xdrGssx type

end GssProxy.Rpcgen
