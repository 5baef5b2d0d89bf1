import GssProxy.Codec.Bytes

/-!
# GSSAPI status codes and object identifiers

The numbers of `gssapi.h` that are tested for, and the bytes of the well-known object identifiers.
-/

namespace GssProxy.Gss

open Codec

/-! ## Status codes -/

def callingError (n : UInt32) : UInt32 := n * 16777216

def routineError (n : UInt32) : UInt32 := n * 65536

def GSS_S_COMPLETE : UInt32 := 0
def GSS_S_CONTINUE_NEEDED : UInt32 := 1
def GSS_S_CALL_INACCESSIBLE_READ : UInt32 := callingError 1
def GSS_S_CALL_INACCESSIBLE_WRITE : UInt32 := callingError 2
def GSS_S_CALL_BAD_STRUCTURE : UInt32 := callingError 3
def GSS_S_BAD_MECH : UInt32 := routineError 1
def GSS_S_BAD_NAME : UInt32 := routineError 2
def GSS_S_NO_CRED : UInt32 := routineError 7
def GSS_S_NO_CONTEXT : UInt32 := routineError 8
def GSS_S_DEFECTIVE_CREDENTIAL : UInt32 := routineError 10
def GSS_S_CREDENTIALS_EXPIRED : UInt32 := routineError 11
def GSS_S_CONTEXT_EXPIRED : UInt32 := routineError 12
def GSS_S_FAILURE : UInt32 := routineError 13
def GSS_S_UNAUTHORIZED : UInt32 := routineError 15
def GSS_S_UNAVAILABLE : UInt32 := routineError 16

def GSS_S_CRED_UNAVAIL : UInt32 := GSS_S_FAILURE

def ENOENT : UInt32 := 2
def EINTR : UInt32 := 4
def EIO : UInt32 := 5
def EBADF : UInt32 := 9
def EAGAIN : UInt32 := 11
def ENOMEM : UInt32 := 12
def EACCES : UInt32 := 13
def EFAULT : UInt32 := 14
def EINVAL : UInt32 := 22
def EBADFD : UInt32 := 77
def EMSGSIZE : UInt32 := 90
def ENOTSUP : UInt32 := 95
def ETIMEDOUT : UInt32 := 110

structure Status where
  major : UInt32
  minor : Option UInt32
  deriving DecidableEq, Repr

/-- How a function ends without a result. -/
inductive Exit where
  | status (s : Status)
  /-- undefined behaviour of the C code, a panic of the Rust code -/
  | fault
  deriving DecidableEq, Repr

def Exit.mk (major minor : UInt32) : Exit := .status ⟨major, some minor⟩

def keep (major : UInt32) : Bool :=
  major == GSS_S_COMPLETE || major == GSS_S_CONTINUE_NEEDED

def Exit.keep : Exit → Bool
  | .status s => Gss.keep s.major
  | .fault => false

def GSS_C_BOTH : Int32 := 0
def GSS_C_INITIATE : Int32 := 1
def GSS_C_ACCEPT : Int32 := 2

/-! ## Object identifiers -/

def NT_USER_NAME_OID : Bytes := [0x2a, 0x86, 0x48, 0x86, 0xf7, 0x12, 0x01, 0x02, 0x01, 0x01]
def NT_MACHINE_UID_NAME_OID : Bytes :=
  [0x2a, 0x86, 0x48, 0x86, 0xf7, 0x12, 0x01, 0x02, 0x01, 0x02]
def NT_STRING_UID_NAME_OID : Bytes :=
  [0x2a, 0x86, 0x48, 0x86, 0xf7, 0x12, 0x01, 0x02, 0x01, 0x03]
def NT_HOSTBASED_SERVICE_OID : Bytes :=
  [0x2a, 0x86, 0x48, 0x86, 0xf7, 0x12, 0x01, 0x02, 0x01, 0x04]
def NT_HOSTBASED_SERVICE_X_OID : Bytes := [0x2b, 0x06, 0x01, 0x05, 0x06, 0x02]
def NT_ANONYMOUS_OID : Bytes := [0x2b, 0x06, 0x01, 0x05, 0x06, 0x03]
def NT_EXPORT_NAME_OID : Bytes := [0x2b, 0x06, 0x01, 0x05, 0x06, 0x04]
def NT_COMPOSITE_EXPORT_OID : Bytes := [0x2b, 0x06, 0x01, 0x05, 0x06, 0x06]
def KRB5_NT_PRINCIPAL_NAME_OID : Bytes :=
  [0x2a, 0x86, 0x48, 0x86, 0xf7, 0x12, 0x01, 0x02, 0x02, 0x01]

def staticNameTypes : List Bytes :=
  [NT_USER_NAME_OID, NT_MACHINE_UID_NAME_OID, NT_STRING_UID_NAME_OID, NT_HOSTBASED_SERVICE_X_OID,
    NT_HOSTBASED_SERVICE_OID, NT_ANONYMOUS_OID, NT_EXPORT_NAME_OID, NT_COMPOSITE_EXPORT_OID,
    KRB5_NT_PRINCIPAL_NAME_OID]

end GssProxy.Gss
