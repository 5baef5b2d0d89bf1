import GssProxy.Proto.Xdr

/-!
# The `gssx` data types

The values of the protocol with their codecs, field for field as the crate declares and encodes them, each
with its `LawfulXdr` instance.
-/

namespace GssProxy.Proto

open Codec

/-! ## Opaque values -/

structure Opaque where
  data : Bytes
  deriving DecidableEq, Inhabited

abbrev GssxBuffer := Opaque

abbrev GssxOid := Opaque

abbrev OctetString := Opaque

abbrev Utf8String := Opaque

abbrev GssxOidSet := List GssxOid

instance : Xdr Opaque where
  encode self := putOpaque self.data
  decode := return { data := ← getOpaque }

instance : Sized Opaque where
  Fits self := self.data.length < 4294967296

/-! ## Records -/

/-- `gssx_option`. -/
structure GssxOption where
  option : GssxBuffer
  value : GssxBuffer
  deriving DecidableEq, Inhabited

instance : Xdr GssxOption where
  encode self := List.flatten [encode self.option, encode self.value]
  decode := return { option := ← decode, value := ← decode }

instance : Sized GssxOption where
  Fits self := All [Fits self.option, Fits self.value]

structure GssxMechAttr where
  attr : GssxOid
  name : GssxBuffer
  shortDesc : GssxBuffer
  longDesc : GssxBuffer
  extensions : List GssxOption
  deriving DecidableEq, Inhabited

instance : Xdr GssxMechAttr where
  encode self := List.flatten [encode self.attr, encode self.name, encode self.shortDesc,
    encode self.longDesc, encodeArray self.extensions]
  decode := return {
    attr := ← decode, name := ← decode, shortDesc := ← decode, longDesc := ← decode,
    extensions := ← decodeArray }

instance : Sized GssxMechAttr where
  Fits self := All [Fits self.attr, Fits self.name, Fits self.shortDesc, Fits self.longDesc,
    Fits self.extensions]

structure GssxMechInfo where
  mech : GssxOid
  nameTypes : GssxOidSet
  mechAttrs : GssxOidSet
  knownMechAttrs : GssxOidSet
  credOptions : GssxOidSet
  secCtxOptions : GssxOidSet
  saslnameSaslMechName : GssxBuffer
  saslnameMechName : GssxBuffer
  saslnameMechDesc : GssxBuffer
  extensions : List GssxOption
  deriving DecidableEq, Inhabited

instance : Xdr GssxMechInfo where
  encode self := List.flatten [encode self.mech, encodeArray self.nameTypes,
    encodeArray self.mechAttrs, encodeArray self.knownMechAttrs, encodeArray self.credOptions,
    encodeArray self.secCtxOptions, encode self.saslnameSaslMechName,
    encode self.saslnameMechName, encode self.saslnameMechDesc, encodeArray self.extensions]
  decode := return {
    mech := ← decode, nameTypes := ← decodeArray, mechAttrs := ← decodeArray,
    knownMechAttrs := ← decodeArray, credOptions := ← decodeArray, secCtxOptions := ← decodeArray,
    saslnameSaslMechName := ← decode, saslnameMechName := ← decode, saslnameMechDesc := ← decode,
    extensions := ← decodeArray }

instance : Sized GssxMechInfo where
  Fits self := All [Fits self.mech, Fits self.nameTypes, Fits self.mechAttrs,
    Fits self.knownMechAttrs, Fits self.credOptions, Fits self.secCtxOptions,
    Fits self.saslnameSaslMechName, Fits self.saslnameMechName, Fits self.saslnameMechDesc,
    Fits self.extensions]

structure GssxNameAttr where
  attr : GssxBuffer
  value : GssxBuffer
  extensions : List GssxOption
  deriving DecidableEq, Inhabited

instance : Xdr GssxNameAttr where
  encode self := List.flatten [encode self.attr, encode self.value, encodeArray self.extensions]
  decode := return { attr := ← decode, value := ← decode, extensions := ← decodeArray }

instance : Sized GssxNameAttr where
  Fits self := All [Fits self.attr, Fits self.value, Fits self.extensions]

/-- `gssx_status`. -/
structure GssxStatus where
  majorStatus : UInt64
  mech : GssxOid
  minorStatus : UInt64
  majorStatusString : Utf8String
  minorStatusString : Utf8String
  serverCtx : OctetString
  options : List GssxOption
  deriving DecidableEq, Inhabited

instance : Xdr GssxStatus where
  encode self := List.flatten [encode self.majorStatus, encode self.mech, encode self.minorStatus,
    encode self.majorStatusString, encode self.minorStatusString, encode self.serverCtx,
    encodeArray self.options]
  decode := return {
    majorStatus := ← decode, mech := ← decode, minorStatus := ← decode,
    majorStatusString := ← decode, minorStatusString := ← decode, serverCtx := ← decode,
    options := ← decodeArray }

instance : Sized GssxStatus where
  Fits self := All [Fits self.majorStatus, Fits self.mech, Fits self.minorStatus,
    Fits self.majorStatusString, Fits self.minorStatusString, Fits self.serverCtx,
    Fits self.options]

structure GssxCallCtx where
  locale : Utf8String
  serverCtx : OctetString
  options : List GssxOption
  deriving DecidableEq, Inhabited

instance : Xdr GssxCallCtx where
  encode self := List.flatten [encode self.locale, encode self.serverCtx, encodeArray self.options]
  decode := return { locale := ← decode, serverCtx := ← decode, options := ← decodeArray }

instance : Sized GssxCallCtx where
  Fits self := All [Fits self.locale, Fits self.serverCtx, Fits self.options]

/-- `gssx_name`. -/
structure GssxName where
  displayName : GssxBuffer
  nameType : GssxOid
  exportedName : GssxBuffer
  exportedCompositeName : GssxBuffer
  nameAttributes : List GssxNameAttr
  extensions : List GssxOption
  deriving DecidableEq, Inhabited

instance : Xdr GssxName where
  encode self := List.flatten [encode self.displayName, encode self.nameType,
    encode self.exportedName, encode self.exportedCompositeName, encodeArray self.nameAttributes,
    encodeArray self.extensions]
  decode := return {
    displayName := ← decode, nameType := ← decode, exportedName := ← decode,
    exportedCompositeName := ← decode, nameAttributes := ← decodeArray,
    extensions := ← decodeArray }

instance : Sized GssxName where
  Fits self := All [Fits self.displayName, Fits self.nameType, Fits self.exportedName,
    Fits self.exportedCompositeName, Fits self.nameAttributes, Fits self.extensions]

/-- `gssx_cred_element`. -/
structure GssxCredElement where
  mn : GssxName
  mech : GssxOid
  credUsage : Int32
  initiatorTimeRec : UInt64
  acceptorTimeRec : UInt64
  options : List GssxOption
  deriving DecidableEq, Inhabited

instance : Xdr GssxCredElement where
  encode self := List.flatten [encode self.mn, encode self.mech, encode self.credUsage,
    encode self.initiatorTimeRec, encode self.acceptorTimeRec, encodeArray self.options]
  decode := return {
    mn := ← decode, mech := ← decode, credUsage := ← decode, initiatorTimeRec := ← decode,
    acceptorTimeRec := ← decode, options := ← decodeArray }

instance : Sized GssxCredElement where
  Fits self := All [Fits self.mn, Fits self.mech, Fits self.credUsage, Fits self.initiatorTimeRec,
    Fits self.acceptorTimeRec, Fits self.options]

/-- `gssx_cred`. -/
structure GssxCred where
  desiredName : GssxName
  elements : List GssxCredElement
  credHandleReference : OctetString
  needsRelease : Bool
  deriving DecidableEq, Inhabited

instance : Xdr GssxCred where
  encode self := List.flatten [encode self.desiredName, encodeArray self.elements,
    encode self.credHandleReference, encode self.needsRelease]
  decode := return {
    desiredName := ← decode, elements := ← decodeArray, credHandleReference := ← decode,
    needsRelease := ← decode }

instance : Sized GssxCred where
  Fits self := All [Fits self.desiredName, Fits self.elements, Fits self.credHandleReference,
    Fits self.needsRelease]

/-- `gssx_ctx`. -/
structure GssxCtx where
  exportedContextToken : GssxBuffer
  state : OctetString
  needsRelease : Bool
  mech : GssxOid
  srcName : GssxName
  targName : GssxName
  lifetime : UInt64
  ctxFlags : UInt64
  locallyInitiated : Bool
  isOpen : Bool
  options : List GssxOption
  deriving DecidableEq, Inhabited

instance : Xdr GssxCtx where
  encode self := List.flatten [encode self.exportedContextToken, encode self.state,
    encode self.needsRelease, encode self.mech, encode self.srcName, encode self.targName,
    encode self.lifetime, encode self.ctxFlags, encode self.locallyInitiated, encode self.isOpen,
    encodeArray self.options]
  decode := return {
    exportedContextToken := ← decode, state := ← decode, needsRelease := ← decode,
    mech := ← decode, srcName := ← decode, targName := ← decode, lifetime := ← decode,
    ctxFlags := ← decode, locallyInitiated := ← decode, isOpen := ← decode,
    options := ← decodeArray }

instance : Sized GssxCtx where
  Fits self := All [Fits self.exportedContextToken, Fits self.state, Fits self.needsRelease,
    Fits self.mech, Fits self.srcName, Fits self.targName, Fits self.lifetime, Fits self.ctxFlags,
    Fits self.locallyInitiated, Fits self.isOpen, Fits self.options]

structure GssxCb where
  initiatorAddrtype : UInt64
  initiatorAddress : GssxBuffer
  acceptorAddrtype : UInt64
  acceptorAddress : GssxBuffer
  applicationData : GssxBuffer
  deriving DecidableEq, Inhabited

instance : Xdr GssxCb where
  encode self := List.flatten [encode self.initiatorAddrtype, encode self.initiatorAddress,
    encode self.acceptorAddrtype, encode self.acceptorAddress, encode self.applicationData]
  decode := return {
    initiatorAddrtype := ← decode, initiatorAddress := ← decode, acceptorAddrtype := ← decode,
    acceptorAddress := ← decode, applicationData := ← decode }

instance : Sized GssxCb where
  Fits self := All [Fits self.initiatorAddrtype, Fits self.initiatorAddress,
    Fits self.acceptorAddrtype, Fits self.acceptorAddress, Fits self.applicationData]

/-! ## Handles -/

def GSSX_C_HANDLE_SEC_CTX : Int32 := 0

def GSSX_C_HANDLE_CRED : Int32 := 1

inductive GssxHandle where
  | secCtx (ctx : GssxCtx)
  | cred (cred : GssxCred)
  | extensions (handleType : Int32) (data : OctetString)
  deriving DecidableEq

instance : Xdr GssxHandle where
  encode
    | .secCtx ctx => putEnum GSSX_C_HANDLE_SEC_CTX ++ encode ctx
    | .cred cred => putEnum GSSX_C_HANDLE_CRED ++ encode cred
    | .extensions ha data => putEnum ha ++ encode data
  decode := do
    let ha ← getEnum
    if ha = GSSX_C_HANDLE_CRED then
      return .cred (← decode)
    else if ha = GSSX_C_HANDLE_SEC_CTX then
      return .secCtx (← decode)
    else
      return .extensions ha (← decode)

instance : Sized GssxHandle where
  Fits
    | .secCtx ctx => Fits ctx
    | .cred cred => Fits cred
    | .extensions ha data => (ha ≠ GSSX_C_HANDLE_CRED ∧ ha ≠ GSSX_C_HANDLE_SEC_CTX) ∧ Fits data

/-! ## Laws -/

section Laws

open LawfulXdr

instance : LawfulXdr Opaque where
  law := by
    refine Law.map getOpaque_law Opaque.mk (fun _ h => ⟨h, trivial⟩) ?_ (fun _ _ => rfl)
    rintro ⟨data⟩ h _
    exact ⟨data, h, rfl⟩
  encode_pos _ := Nat.zero_lt_succ _

instance : LawfulXdr GssxOption := .ofFields

instance : LawfulXdr GssxMechAttr := .ofFields

instance : LawfulXdr GssxMechInfo := .ofFields

instance : LawfulXdr GssxNameAttr := .ofFields

instance : LawfulXdr GssxStatus := .ofFields

instance : LawfulXdr GssxCallCtx := .ofFields

instance : LawfulXdr GssxName := .ofFields

instance : LawfulXdr GssxCredElement := .ofFields

instance : LawfulXdr GssxCred := .ofFields

instance : LawfulXdr GssxCtx := .ofFields

instance : LawfulXdr GssxCb := .ofFields

def GssxHandle.tag : GssxHandle → Int32
  | .secCtx _ => GSSX_C_HANDLE_SEC_CTX
  | .cred _ => GSSX_C_HANDLE_CRED
  | .extensions handleType _ => handleType

def GssxHandle.body : GssxHandle → Bytes
  | .secCtx ctx => encode ctx
  | .cred c => encode c
  | .extensions _ data => encode data

theorem GssxHandle.encode_eq :
    (encode : GssxHandle → Bytes) = fun self => putEnum self.tag ++ self.body := by
  funext self
  cases self <;> rfl

instance : LawfulXdr GssxHandle where
  law := by
    rw [GssxHandle.encode_eq]
    refine Law.bind getI32_law GssxHandle.tag (fun _ _ _ => trivial) fun ha _ => ?_
    split
    · rename_i hta
      refine Law.map LawfulXdr.law GssxHandle.cred (fun _ h => ⟨h, trivial, hta.symm⟩) ?_
        (fun _ _ => rfl)
      rintro (ctx | c | ⟨ht, data⟩) hf ⟨-, rfl⟩
      · exact absurd hta (show GSSX_C_HANDLE_SEC_CTX ≠ GSSX_C_HANDLE_CRED by decide)
      · exact ⟨c, hf, rfl⟩
      · exact absurd hta hf.1.1
    · rename_i hc
      split
      · rename_i hta
        refine Law.map LawfulXdr.law GssxHandle.secCtx (fun _ h => ⟨h, trivial, hta.symm⟩) ?_
          (fun _ _ => rfl)
        rintro (ctx | c | ⟨ht, data⟩) hf ⟨-, rfl⟩
        · exact ⟨ctx, hf, rfl⟩
        · exact absurd rfl hc
        · exact absurd hta hf.1.2
      · rename_i hct
        refine Law.map LawfulXdr.law (GssxHandle.extensions ha)
          (fun _ h => ⟨⟨⟨hc, hct⟩, h⟩, trivial, rfl⟩) ?_ (fun _ _ => rfl)
        rintro (ctx | c | ⟨ht, data⟩) hf ⟨-, rfl⟩
        · exact absurd rfl hct
        · exact absurd rfl hc
        · exact ⟨data, hf.2, rfl⟩
  encode_pos self := by cases self <;> exact Nat.zero_lt_succ _

end Laws

end GssProxy.Proto
