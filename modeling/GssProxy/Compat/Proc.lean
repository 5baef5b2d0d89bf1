import GssProxy.Compat.Agree
import GssProxy.Rpcgen.GssProxyXdr

/-!
# Wire compatibility of the procedure types

* `codecs_agree`: both codecs of every `gssx` type, argument and result agree.
-/

namespace GssProxy.Compat

open Codec Proto Rpcgen

/-! ## Basic types -/

instance xdrOctetString_agrees : Agrees OctetString xdrOctetString :=
  Agree.proc
    { put := fun v hv _ => by
        have hl : v.data.length ≤ UINT32_MAX := Nat.le_of_lt_succ hv
        exact ⟨v, put_map (put_field (xdrBytes_encode hl))⟩
      get := DecodeAgree.getOpaque.bind fun _ => .ret _ }

instance xdrUtf8string_agrees : Agrees Utf8String xdrUtf8string := xdrOctetString_agrees

instance xdrGssxBuffer_agrees : Agrees GssxBuffer xdrGssxBuffer := xdrOctetString_agrees

instance xdrGssxOid_agrees : Agrees GssxOid xdrGssxOid := xdrOctetString_agrees

instance xdrGssxOidSet_agrees : Agrees GssxOidSet xdrGssxOidSet := .array

instance xdrGssxUint64_agrees : Agrees UInt64 xdrGssxUint64 := gpXdrUint64_agrees

instance xdrGssxQop_agrees : Agrees UInt64 xdrGssxQop := gpXdrUint64_agrees

instance xdrGssxTime_agrees : Agrees UInt64 xdrGssxTime := gpXdrUint64_agrees

instance xdrGssxCredUsage_agrees : Agrees Int32 xdrGssxCredUsage := xdrEnum_agrees

/-! ## Structures -/

theorem Agrees.ofMembers {σ : Type} [Xdr σ] [Sized σ] {body : Fields σ σ}
    (members : Agree Fits (fun _ => True) Xdr.encode Xdr.decode body := by
      repeat refine Agree.field _ fun _ => ?_
      exact .done) :
    Agrees σ body.proc :=
  Agree.proc members

instance xdrGssxOption_agrees : Agrees GssxOption xdrGssxOption := .ofMembers

instance xdrGssxMechAttr_agrees : Agrees GssxMechAttr xdrGssxMechAttr := .ofMembers

instance xdrGssxMechInfo_agrees : Agrees GssxMechInfo xdrGssxMechInfo := .ofMembers

instance xdrGssxNameAttr_agrees : Agrees GssxNameAttr xdrGssxNameAttr := .ofMembers

instance xdrGssxStatus_agrees : Agrees GssxStatus xdrGssxStatus := .ofMembers

instance xdrGssxCallCtx_agrees : Agrees GssxCallCtx xdrGssxCallCtx := .ofMembers

instance xdrGssxName_agrees : Agrees GssxName xdrGssxName := .ofMembers

instance xdrGssxCredElement_agrees : Agrees GssxCredElement xdrGssxCredElement := .ofMembers

instance xdrGssxCred_agrees : Agrees GssxCred xdrGssxCred := .ofMembers

instance xdrGssxCtx_agrees : Agrees GssxCtx xdrGssxCtx := .ofMembers

instance xdrGssxHandle_agrees : Agrees GssxHandle xdrGssxHandle := by
  refine Agree.proc ⟨?_, ?_⟩
  · rintro (ctx | c | ⟨ha, data⟩) hf _
    · refine ⟨.secCtx ctx, put_bind (put_field rfl) ?_⟩
      exact put_map (put_arm rfl (xdrGssxCtx_agrees.encode ctx hf))
    · refine ⟨.cred c, put_bind (put_field rfl) ?_⟩
      exact put_map (put_arm rfl (xdrGssxCred_agrees.encode c hf))
    · refine ⟨.extensions ha data, put_bind (put_field rfl) ?_⟩
      rw [GssxHandle.tag, if_neg hf.1.1, if_neg hf.1.2]
      exact put_map (put_arm rfl (xdrOctetString_agrees.encode data hf.2))
  · refine DecodeAgree.getI32.bind fun ha => ?_
    refine .ite (fun _ => xdrGssxCred_agrees.decode.bind fun _ => .ret _) fun _ => ?_
    exact .ite (fun _ => xdrGssxCtx_agrees.decode.bind fun _ => .ret _)
      fun _ => xdrOctetString_agrees.decode.bind fun _ => .ret _

instance xdrGssxCb_agrees : Agrees GssxCb xdrGssxCb := .ofMembers

/-! ## All types at once -/

theorem xdrArg_agrees (proc : GssxProc) : Agrees proc.Arg (xdrArg proc) := by
  cases proc <;> exact .ofMembers

theorem xdrRes_agrees (proc : GssxProc) : Agrees proc.Res (xdrRes proc) := by
  cases proc <;> exact .ofMembers

theorem xdrGssx_agrees (type : GssxType) : Agrees type.Value (xdrGssx type) := by
  cases type <;> dsimp only [xdrGssx] <;> infer_instance

theorem xdrOf_agrees : ∀ type : WireType, Agrees type.Value (xdrOf type)
  | .arg proc => xdrArg_agrees proc
  | .res proc => xdrRes_agrees proc
  | .gssx type => xdrGssx_agrees type

/-- **Wire compatibility.**  For every type of the protocol the two decoders accept the same
    byte strings, as long as the words read as booleans are zero or one, with the same value and
    the same number of bytes consumed; and the two encoders write the same bytes. -/
theorem codecs_agree (type : WireType) :
    (∀ buf (v : type.Value) k, decodeFrom buf = .ok (v, k) ↔
      ∃ bools, (xdrOf type).decodeFrom buf = some (v, k, bools) ∧ Canonical bools) ∧
    ∀ v : type.Value, Fits v → (xdrOf type).encode v = some (encode v) := by
  have ha := xdrOf_agrees type
  refine ⟨fun buf v k => ⟨fun h => ?_, fun h => ?_⟩, ha.encode⟩
  · obtain ⟨d, hd, rfl⟩ := decodeFrom_ok.mp h
    have hn : Canonical (XdrMem.new buf).bools := List.forall_mem_nil _
    obtain ⟨x, hx, hu, hca⟩ := ha.decode.to_c hd (XdrMem.new buf) rfl hn
    refine ⟨x.bools, XdrProc.decodeFrom_eq_some.mpr ⟨x, hx, ?_, rfl⟩, hca⟩
    rw [hu, position_eq hd]
  · obtain ⟨bools, hc, hca⟩ := h
    obtain ⟨x, hx, rfl, rfl⟩ := XdrProc.decodeFrom_eq_some.mp hc
    obtain ⟨d, hd, hu⟩ := ha.decode.to_rust hx hca (Stream.new buf) rfl
    refine decodeFrom_ok.mpr ⟨d, hd, ?_⟩
    rw [position_eq hd, hu]

theorem codecs_agree_releaseExtension : Fits releaseExtension ∧
    xdrGssxArgReleaseHandle.encode releaseExtension = some (encode releaseExtension) :=
  ⟨releaseExtension_fits,
    (codecs_agree (.arg .releaseHandle)).2 releaseExtension releaseExtension_fits⟩

def boolTwo : Bytes := List.replicate 31 0 ++ [2, 0, 0, 0, 0]

theorem codecs_differ_on_boolean_two :
    decodeFrom (α := ArgAcceptSecContext) boolTwo = .error (.invalidValue "bool") ∧
    xdrGssxArgAcceptSecContext.decodeFrom boolTwo =
      some ({ (default : ArgAcceptSecContext) with retDelegCred := true }, 36, [0, 0, 0, 2]) := by
  decide +kernel

end GssProxy.Compat
