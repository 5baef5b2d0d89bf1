import GssProxy.Proto.Gssx

/-!
# Options

The options of requests and replies.  Keys and values are C strings with their terminating zero, and are
compared as a whole.
-/

namespace GssProxy.Gss

open Codec Proto

def cString (s : String) : Bytes := s.toList.map (fun c => UInt8.ofNat c.toNat) ++ [0]

def ACQUIRE_TYPE_OPTION : Bytes := cString "acquire_type"
def ACQUIRE_IMPERSONATE_NAME : Bytes := cString "impersonate_name"
def CRED_SYNC_OPTION : Bytes := cString "sync_modified_creds"
def CRED_SYNC_DEFAULT : Bytes := cString "default"
def CRED_SYNC_PAYLOAD : Bytes := cString "sync_creds"
def LOCALNAME_OPTION : Bytes := cString "localname"
def EXP_CTX_TYPE_OPTION : Bytes := cString "exported_context_type"
def LINUX_LUCID_V1 : Bytes := cString "linux_lucid_v1"
def EXP_CREDS_TYPE_OPTION : Bytes := cString "exported_creds_type"
def LINUX_CREDS_V1 : Bytes := cString "linux_creds_v1"

def option (key value : Bytes) : GssxOption := ⟨⟨key⟩, ⟨value⟩⟩

def findOption (options : List GssxOption) (key : Bytes) : Option Bytes :=
  (options.find? fun o => o.option.data == key).map fun o => o.value.data

end GssProxy.Gss
