import GssProxy.Compat.Dispatch
import GssProxy.Server.Reload

/-!
# Which configuration a request is served under

The C daemon looks the service up for every query and derives all keys when it reads a configuration.  The
Rust daemon resolves the service when it accepts a connection, and keeps the first key under a name.

* `reload_discipline`: what a request sees of a reload in each daemon.
-/

namespace GssProxy.Compat

open Codec Daemon Proto Server GssProxy.System

/-! ## Services of the C daemon -/

structure SelinuxContext where
  user : String
  role : String
  type : String
  range : Option String

def gpSelinuxCtxEqual (ctx₁ ctx₂ : SelinuxContext) : Bool :=
  ctx₁.user == ctx₂.user && ctx₁.role == ctx₂.role && ctx₁.type == ctx₂.type &&
    (match ctx₁.range, ctx₂.range with
      | some ra, some rb => ra == rb
      | _, _ => true)

/-- A section of the files. -/
structure GpSection extends Service where
  selinuxCtx : Option SelinuxContext

/-- `struct gp_service`. -/
structure GpService (H : Type) extends GpSection where
  credsHandle : H

/-- `struct gp_config`. -/
structure GpConfig (H : Type) where
  socketName : String
  svcs : List (GpService H)

/-- `struct gp_conn`, with the service whose socket it came in on. -/
structure GpConn where
  uid : UInt32
  program : Option String
  socket : String
  owner : Option String
  selinuxCtx : Option SelinuxContext

section

variable {H : Type}

/-- `setup_krb5_creds_handle`: the handle of a service from its keytab. -/
def setupKrb5CredsHandle (new : Option String → Option H) (sec : GpSection) :
    Option (GpService H) :=
  (new sec.keytab).map fun credsHandle => ⟨sec, credsHandle⟩

/-- `read_config`: it fails if the key of a service cannot be set up or there are no services. -/
def readConfig (socketName : String) (new : Option String → Option H)
    (sections : List GpSection) : Option (GpConfig H) :=
  (sections.mapM (setupKrb5CredsHandle new)).bind fun svcs =>
    if svcs.isEmpty then none else some ⟨socketName, svcs⟩

/-- `gp_conn_check_selinux`. -/
def gpConnCheckSelinux (conn : GpConn) : Option SelinuxContext → Bool
  | none => true
  | some ctx =>
    match conn.selinuxCtx with
    | none => false
    | some connCtx => gpSelinuxCtxEqual ctx connCtx

/-- A service that the loop of `gp_creds_match_conn` goes past. -/
def GpConfig.skips (config : GpConfig H) (conn : GpConn) (svc : GpService H) : Bool :=
  (!svc.anyUid && svc.euid != conn.uid) ||
    !gpConnCheckSelinux conn svc.selinuxCtx ||
    (svc.program.isSome && conn.program != svc.program) ||
    (svc.socket.isSome && some conn.socket != svc.socket) ||
    (svc.socket.isNone && conn.socket != config.socketName)

/-- `gp_creds_match_conn`. -/
def gpCredsMatchConn (config : GpConfig H) (conn : GpConn) : Option (GpService H) :=
  config.svcs.find? fun svc => !config.skips conn svc

/-- The daemon listens on the socket of the connection: `init_sockets` hands it on to the service of
    the same name and socket. -/
def GpConfig.listens (config : GpConfig H) (conn : GpConn) : Bool :=
  match conn.owner with
  | none => conn.socket == config.socketName
  | some name =>
    match config.svcs.find? fun svc => svc.name == name with
    | some svc => svc.socket == some conn.socket
    | none => false

/-! ## The machine of the C daemon -/

structure GpHandled (H : Type) where
  conn : Nat
  service : Option (GpService H)
  outcome : Outcome

/-- The daemon with its connections and the queries it has handled. -/
structure GpState (H : Type) where
  config : GpConfig H
  conns : List (Option GpConn)
  handled : List (GpHandled H)

def GpState.start (config : GpConfig H) : GpState H := ⟨config, [], []⟩

inductive GpEvent (H : Type) where
  /-- a `SIGHUP`; the sections of the files if they parse and pass `check_services`, and
      `gp_init_creds_handle` by then -/
  | hup (parsed : Option (List GpSection)) (new : Option String → Option H)
  | accept (conn : GpConn)
  | query (i : Nat) (body : Bytes)
  | free (i : Nat)

variable (results : Option (GpService H) → Results) (debris : Bytes) (replyBuffer : ReplyBuffer)

def GpState.answer (s : GpState H) (i : Nat) (conn : GpConn) (body : Bytes) : GpHandled H :=
  let service := gpCredsMatchConn s.config conn
  ⟨i, service, daemonOutcome (results service) debris replyBuffer service body⟩

/-- One event of the daemon, if it can happen.  No event is a reload that drops the socket of an
    open connection: it frees the `sock_ctx` that the connection points to. -/
def gpStep (s : GpState H) : GpEvent H → Option (GpState H)
  | .hup parsed new =>
    match parsed.bind (readConfig s.config.socketName new) with
    | none => some s
    | some config =>
      if s.conns.all fun conn => conn.all config.listens then some { s with config } else none
  | .accept conn =>
    if s.config.listens conn then some { s with conns := s.conns ++ [some conn] } else none
  | .query i body =>
    match s.conns[i]? with
    | some (some conn) =>
      let entry := s.answer results debris replyBuffer i conn body
      some { s with
        handled := s.handled ++ [entry]
        conns := if entry.outcome = .close then s.conns.set i none else s.conns }
    | _ => none
  | .free i =>
    match s.conns[i]? with
    | some (some _) => some { s with conns := s.conns.set i none }
    | _ => none

/-! ## Keys of the C daemon -/

variable {new : Option String → Option H}

theorem mapM_keys {sections : List GpSection}
    {svcs : List (GpService H)} (h : sections.mapM (setupKrb5CredsHandle new) = some svcs) :
    ∀ svc ∈ svcs, new svc.keytab = some svc.credsHandle := by
  induction sections generalizing svcs with
  | nil => cases h; exact List.forall_mem_nil _
  | cons sec sections ih =>
    rw [List.mapM_cons] at h
    obtain ⟨svc, hs, h⟩ := Option.bind_eq_some_iff.mp h
    obtain ⟨rest, hr, h⟩ := Option.bind_eq_some_iff.mp h
    cases h
    obtain ⟨handle, hn, rfl⟩ := Option.map_eq_some_iff.mp hs
    exact List.forall_mem_cons.mpr ⟨hn, ih hr⟩

theorem readConfig_keys {socketName : String} {sections : List GpSection} {config : GpConfig H}
    (h : readConfig socketName new sections = some config) :
    ∀ svc ∈ config.svcs, new svc.keytab = some svc.credsHandle := by
  obtain ⟨svcs, hs, h⟩ := Option.bind_eq_some_iff.mp h
  obtain ⟨-, h⟩ := Option.ite_none_left_eq_some.mp h
  cases h
  exact mapM_keys hs

def ReadWith (init : GpState H) (atStart new : Option String → Option H) (config : GpConfig H)
    (events : List (GpEvent H)) : Prop :=
  new = atStart ∧ config = init.config ∨ Happened (gpStep results debris replyBuffer) init
      (fun _ s e => ∃ sections, e = .hup (some sections) new ∧
        readConfig s.config.socketName new sections = some config) events

variable {results debris replyBuffer} {s s' init : GpState H} {e : GpEvent H}
  {events : List (GpEvent H)} {atStart : Option String → Option H}

theorem gpStep_config (h : gpStep results debris replyBuffer s e = some s') :
    s'.config = s.config ∨ ∃ sections new, e = .hup (some sections) new ∧
        readConfig s.config.socketName new sections = some s'.config := by
  cases e with
  | hup parsed new =>
    simp only [gpStep] at h
    split at h
    · cases h; exact .inl rfl
    rename_i config hr
    obtain ⟨sections, rfl, hr⟩ := Option.bind_eq_some_iff.mp hr
    obtain ⟨-, h⟩ := Option.ite_none_right_eq_some.mp h
    cases h
    exact .inr ⟨sections, new, rfl, hr⟩
  | accept conn =>
    obtain ⟨-, h⟩ := Option.ite_none_right_eq_some.mp h
    cases h
    exact .inl rfl
  | query _ _ | free _ =>
    simp only [gpStep] at h
    split at h
    · cases h; exact .inl rfl
    · cases h

theorem keys_in_force (hs : ∀ svc ∈ init.config.svcs, atStart svc.keytab = some svc.credsHandle)
    (hru : exec (gpStep results debris replyBuffer) init events = some s) :
    ∃ new, ReadWith results debris replyBuffer init atStart new s.config events ∧
      ∀ svc ∈ s.config.svcs, new svc.keytab = some svc.credsHandle := by
  refine exec_invariant (I := fun events s =>
    ∃ new, ReadWith results debris replyBuffer init atStart new s.config events ∧
      ∀ svc ∈ s.config.svcs, new svc.keytab = some svc.credsHandle)
    ⟨atStart, .inl ⟨rfl, rfl⟩, hs⟩ ?_ hru
  intro events s e s' hru ⟨new, hr, hk⟩ hst
  obtain heq | ⟨sections, new', rfl, hr'⟩ := gpStep_config hst
  · rw [heq]; exact ⟨new, hr.imp_right Happened.later, hk⟩
  · exact ⟨new', .inr (.now hru ⟨sections, rfl, hr'⟩), readConfig_keys hr'⟩

/-- **A query of the C daemon** is handled under the service in force; without one it is freed. -/
theorem gpStep_query {i : Nat} {body : Bytes}
    (h : gpStep results debris replyBuffer s (.query i body) = some s') :
    ∃ conn, s.conns[i]? = some (some conn) ∧
      s'.handled = s.handled ++ [s.answer results debris replyBuffer i conn body] ∧
      (gpCredsMatchConn s.config conn = none → s'.conns[i]? = some none) := by
  simp only [gpStep] at h
  split at h
  · rename_i conn hc
    cases h
    refine ⟨conn, hc, rfl, fun hn => ?_⟩
    have hcl : (s.answer results debris replyBuffer i conn body).outcome = .close := by
      simp only [GpState.answer, hn]; rfl
    obtain ⟨hlt, -⟩ := List.getElem?_eq_some_iff.mp hc
    rw [if_pos hcl, List.getElem?_set_self hlt]
  · cases h

end

/-- A request of the Rust daemon: the service is that of the configuration the connection was
    accepted under, and the key the first derived under its name. -/
def ServedAsAccepted {N X A H : Type} (lib : Library N X A H) (init : ServerState H)
    (events : List (ServerEvent H)) (i : Nat) (body : Bytes) (s s' : ServerState H) : Prop :=
  ∃ conn accepted ctx, ResolvedAs lib init i conn accepted ctx events ∧
    s'.handled = s.handled ++ [⟨i, ctx, handleRequest lib ctx body⟩] ∧
    ctx.service = accepted.serviceFor conn ∧
    ∀ handle, ctx.creds = some handle → ∃ svc, accepted.serviceFor conn = some svc ∧
      FirstDerived lib init svc.name handle events

/-- A query of the C daemon: the service is that of the configuration in force, with the key derived
    when that was read, and without a service the connection is freed. -/
def ServedInForce {H : Type} (results : Option (GpService H) → Results) (debris : Bytes)
    (replyBuffer : ReplyBuffer) (init : GpState H) (atStart : Option String → Option H)
    (events : List (GpEvent H)) (i : Nat) (body : Bytes) (s s' : GpState H) : Prop :=
  ∃ conn, s.conns[i]? = some (some conn) ∧
    s'.handled = s.handled ++ [⟨i, gpCredsMatchConn s.config conn,
      daemonOutcome (results (gpCredsMatchConn s.config conn)) debris replyBuffer
        (gpCredsMatchConn s.config conn) body⟩] ∧
    (gpCredsMatchConn s.config conn = none → s'.conns[i]? = some none) ∧
    ∀ svc, gpCredsMatchConn s.config conn = some svc → ∃ new,
      ReadWith results debris replyBuffer init atStart new s.config events ∧
        new svc.keytab = some svc.credsHandle

/-- **Which configuration a request is served under**, in every run of either daemon. -/
theorem reload_discipline {N X A H K : Type} (lib : Library N X A H) {config : Config}
    {binds : String → Bool} {events : List (ServerEvent H)} {s s' : ServerState H} {i : Nat}
    {body : Bytes} (hrun : exec (serverStep lib) (.start config binds) events = some s)
    (hrequest : serverStep lib s (.request i body) = some s')
    (results : Option (GpService K) → Results) (debris : Bytes) (replyBuffer : ReplyBuffer)
    {socketName : String} {atStart : Option String → Option K} {sections : List GpSection}
    {gpConfig : GpConfig K} {gpEvents : List (GpEvent K)} {t t' : GpState K} {j : Nat}
    {query : Bytes} (hread : readConfig socketName atStart sections = some gpConfig)
    (hgpRun : exec (gpStep results debris replyBuffer) (.start gpConfig) gpEvents = some t)
    (hquery : gpStep results debris replyBuffer t (.query j query) = some t') :
    ServedAsAccepted lib (.start config binds) events i body s s' ∧
      ServedInForce results debris replyBuffer (.start gpConfig) atStart gpEvents j query t t' := by
  constructor
  · have hp := provenance hrun
    cases serverStep_transition hrequest with
    | requested ht =>
      rename_i ctx
      obtain ⟨conn, accepted, hr⟩ := hp.serving ht
      have hs : ctx.service = accepted.serviceFor conn := by
        obtain ⟨_, _, _, _, -, -, _, -, -, rfl⟩ := hr; exact resolveContext_service _ _ _
      refine ⟨conn, accepted, ctx, hr, rfl, hs, fun handle hc => ?_⟩
      obtain ⟨svc, hsv, hha⟩ := hp.keys ht hc
      exact ⟨svc, hs.symm.trans hsv, hp.handles hha⟩
  · obtain ⟨conn, hco, hh, hf⟩ := gpStep_query hquery
    refine ⟨conn, hco, hh, hf, fun svc hm => ?_⟩
    obtain ⟨new, hre, hk⟩ := keys_in_force (readConfig_keys hread) hgpRun
    exact ⟨new, hre, hk svc (List.mem_of_find?_eq_some hm)⟩

/-! ## A connection that outlives a reload -/

def keytabService (name : String) (euid : UInt32) (keytab : String) : Service :=
  { (default : Service) with name, euid, mechs := GP_CRED_KRB5, krb5Store := [("keytab", keytab)] }

abbrev oldWeb : Service := keytabService "web" 48 "old.keytab"

abbrev newWeb : Service := keytabService "web" 48 "new.keytab"

abbrev nfs : Service := keytabService "nfs" 0 "nfs.keytab"

def webConn : Connection where
  socket := "/run/gssproxy.sock"
  peerCred := some ⟨48, 48, none⟩
  programForPid _ := none

def keyedLib : Library Unit Unit Unit String :=
  { failingLib with sealBytes := fun _ _ => none, unsealBytes := fun _ _ => none }

abbrev webStart : ServerState String :=
  .start ⟨"/run/gssproxy.sock", [oldWeb]⟩ fun _ => true

abbrev webReload (svc : Service) : List (ServerEvent String) :=
  [.accept webConn, .attach 0 id, .hup (some [svc]) fun _ => true]

def gpWebConn : GpConn := ⟨48, none, "/run/gssproxy.sock", none, none⟩

abbrev gpWebStart : GpState String :=
  .start ⟨"/run/gssproxy.sock", [⟨⟨oldWeb, none⟩, "old.keytab"⟩]⟩

abbrev gpWebReload : List (GpEvent String) := [.accept gpWebConn, .hup (some [⟨nfs, none⟩]) id]

/-- A reload that removes the service of an open connection. -/
theorem reload_discipline_removed :
    ∃ s s' t t', exec (serverStep keyedLib) webStart (webReload nfs) = some s ∧
      serverStep keyedLib s (.request 0 contextCall) = some s' ∧
      exec (gpStep (fun _ => blankResults) [] blankBuffer) gpWebStart gpWebReload = some t ∧
      gpStep (fun _ => blankResults) [] blankBuffer t (.query 0 contextCall) = some t' ∧
      ServedAsAccepted keyedLib webStart (webReload nfs) 0 contextCall s s' ∧
      ServedInForce (fun _ => blankResults) [] blankBuffer gpWebStart id gpWebReload 0 contextCall
        t t' := by
  have hre : readConfig "/run/gssproxy.sock" id [⟨oldWeb, none⟩] = some gpWebStart.config := rfl
  obtain ⟨s, hru, s', hr⟩ :
      ∃ s, exec (serverStep keyedLib) webStart (webReload nfs) = some s ∧
        ∃ s', serverStep keyedLib s (.request 0 contextCall) = some s' :=
    ⟨_, rfl, _, rfl⟩
  obtain ⟨t, hg, t', hq⟩ :
      ∃ t, exec (gpStep (fun _ => blankResults) [] blankBuffer) gpWebStart gpWebReload = some t ∧
        ∃ t', gpStep (fun _ => blankResults) [] blankBuffer t (.query 0 contextCall) = some t' :=
    ⟨_, rfl, _, rfl⟩
  have h := reload_discipline keyedLib hru hr (fun _ => blankResults) [] blankBuffer hre
    hg hq
  exact ⟨s, s', t, t', hru, hr, hg, hq, h⟩

/-- A removed service still serves the open connection, and after a reload that changes its keytab
    even a new connection gets the old key. -/
theorem reload_not_seen :
    (∃ s s' ctx,
      exec (serverStep keyedLib) webStart (webReload nfs) = some s ∧
      serverStep keyedLib s (.request 0 contextCall) = some s' ∧
      s'.handled = [⟨0, ctx, handleRequest keyedLib ctx contextCall⟩] ∧
      (handleRequest keyedLib ctx contextCall).log = [.getCallContext] ∧
      s.config.serviceFor webConn = none ∧ ctx.service = some oldWeb) ∧
    ∃ s s' ctx, exec (serverStep keyedLib) webStart
        (webReload newWeb ++ [.accept webConn, .attach 1 id]) = some s ∧
      serverStep keyedLib s (.request 1 contextCall) = some s' ∧
      s'.handled = [⟨1, ctx, handleRequest keyedLib ctx contextCall⟩] ∧
      s.config.serviceFor webConn = some newWeb ∧ ctx.service = some newWeb ∧
      ctx.creds = some "old.keytab" ∧ newWeb.keytab = some "new.keytab" := by
  refine ⟨⟨_, _, _, rfl, rfl, rfl, ?_, rfl, rfl⟩, _, _, _, rfl, rfl, rfl, rfl, rfl, rfl, rfl⟩
  exact (handleRequest_served _ _ requestedProc_contextCall).1

end GssProxy.Compat
