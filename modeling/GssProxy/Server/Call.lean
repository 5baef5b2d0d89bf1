import GssProxy.Gss.Status

/-!
# Services and call contexts

The configured services, the match of a connection to one of them, and the context of its requests in the
Rust daemon, where the service may be absent.
-/

namespace GssProxy.Server

open Gss

/-- `GssError`. -/
structure GssError where
  major : UInt32
  minor : UInt32
  deriving DecidableEq, Repr

/-! ## Configuration -/

/-- `Service`, or `struct gp_service`. -/
structure Service where
  name : String
  euid : UInt32
  anyUid : Bool
  allowProtoTrans : Bool
  allowConstDeleg : Bool
  trusted : Bool
  impersonate : Bool
  socket : Option String
  program : Option String
  credUsage : Int32
  filterFlags : UInt32
  enforceFlags : UInt32
  minLifetime : UInt32
  mechs : UInt32
  krb5Principal : Option String
  krb5Store : List (String × String)
  deriving DecidableEq, Inhabited

/-- `Config`. -/
structure Config where
  socketName : String
  services : List Service
  deriving Inhabited

def Service.matches (svc : Service) (socketName : String) (uid : UInt32) (socket : String)
    (program : Option String) : Bool :=
  (svc.anyUid || svc.euid == uid) &&
    (match svc.program with
      | some p => program == some p
      | none => true) &&
    (match svc.socket with
      | some s => socket == s
      | none => socket == socketName)

/-- `Config::match_service`. -/
def Config.matchService (config : Config) (uid : UInt32) (socket : String)
    (program : Option String) : Option Service :=
  config.services.find? fun svc => svc.matches config.socketName uid socket program

/-! ## Call contexts -/

/-- `CallContext`. -/
structure CallContext (H : Type) where
  uid : UInt32
  gid : UInt32
  pid : Option Int32
  socket : String
  program : Option String
  service : Option Service
  creds : Option H

structure PeerCred where
  uid : UInt32
  gid : UInt32
  pid : Option Int32

/-- A connection: its socket, the peer credentials, and the program behind a process id. -/
structure Connection where
  socket : String
  peerCred : Option PeerCred
  programForPid : Int32 → Option String

section

variable {H : Type}

def CallContext.resolve (config : Config) (conn : Connection) (cred : PeerCred) : CallContext H :=
  let program := cred.pid.bind conn.programForPid
  { uid := cred.uid
    gid := cred.gid
    pid := cred.pid
    socket := conn.socket
    program
    service := config.matchService cred.uid conn.socket program
    creds := none }

def CallContext.anonymous (socket : String) : CallContext H :=
  { uid := 4294967295, gid := 4294967295, pid := none, socket, program := none, service := none,
    creds := none }

/-- `resolve_context`. -/
def resolveContext (config : Config) (registry : Service → Option H) (conn : Connection) :
    CallContext H :=
  let ctx : CallContext H :=
    match conn.peerCred with
    | some cred => .resolve config conn cred
    | none => .anonymous conn.socket
  match ctx.service with
  | some svc => { ctx with creds := registry svc }
  | none => ctx

end

end GssProxy.Server
