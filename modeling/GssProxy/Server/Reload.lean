import GssProxy.Server.Dispatch
import GssProxy.System.Run
import Mathlib.Data.List.Dedup

/-!
# Reloads of the Rust daemon

`run` reads the configuration again on every `SIGHUP`.  Three things outlive a reload: the context that
`resolve_context` gave a connection, the key that the registry holds under the name of a service, and the
accept loop of a socket.  An event is one critical section: a reload may fall between the mutexes of the
configuration and of the registry.

* `provenance`: which configuration contexts and keys come from.
-/

namespace GssProxy.Server

open Codec Effect Proto GssProxy.System

/-! ## The key registry -/

def Service.keytab (svc : Service) : Option String :=
  (svc.krb5Store.find? fun entry => entry.1 == "keytab").map Prod.snd

structure CredsRegistry (H : Type) where
  handles : String → Option H

section

variable {H : Type}

def CredsRegistry.new : CredsRegistry H := ⟨fun _ => none⟩

def CredsRegistry.getOrInit (registry : CredsRegistry H) (new : Option String → Option H)
    (svc : Service) : Option H × CredsRegistry H :=
  match registry.handles svc.name with
  | some handle => (some handle, registry)
  | none =>
    match new svc.keytab with
    | some handle => (some handle, ⟨Function.update registry.handles svc.name (some handle)⟩)
    | none => (none, registry)

namespace CredsRegistry

variable {registry : CredsRegistry H} {new : Option String → Option H} {svc : Service}
  {name : String} {handle : H}

theorem getOrInit_held (hh : registry.handles svc.name = some handle) :
    registry.getOrInit new svc = (some handle, registry) := by
  simp [getOrInit, hh]

theorem getOrInit_derived (hh : registry.handles svc.name = none)
    (hn : new svc.keytab = some handle) :
    registry.getOrInit new svc =
      (some handle, ⟨Function.update registry.handles svc.name (some handle)⟩) := by
  simp [getOrInit, hh, hn]

theorem getOrInit_failed (hh : registry.handles svc.name = none) (hn : new svc.keytab = none) :
    registry.getOrInit new svc = (none, registry) := by
  simp [getOrInit, hh, hn]

theorem getOrInit_returns (h : (registry.getOrInit new svc).1 = some handle) :
    (registry.getOrInit new svc).2.handles svc.name = some handle := by
  cases hh : registry.handles svc.name with
  | some held => rw [getOrInit_held hh] at h ⊢; exact hh.trans h
  | none =>
    cases hn : new svc.keytab with
    | none => rw [getOrInit_failed hh hn] at h; cases h
    | some derived =>
      rw [getOrInit_derived hh hn] at h ⊢; exact (Function.update_self _ _ _).trans h

theorem getOrInit_origin (h : (registry.getOrInit new svc).2.handles name = some handle) :
    registry.handles name = some handle ∨
      svc.name = name ∧ registry.handles name = none ∧ new svc.keytab = some handle := by
  cases hh : registry.handles svc.name with
  | some held => rw [getOrInit_held hh] at h; exact .inl h
  | none =>
    cases hne : new svc.keytab with
    | none => rw [getOrInit_failed hh hne] at h; exact .inl h
    | some derived =>
      rw [getOrInit_derived hh hne] at h
      by_cases hn : name = svc.name
      · subst hn
        simp only [Function.update_self] at h
        exact .inr ⟨rfl, hh, h⟩
      · exact .inl ((Function.update_of_ne hn _ _).symm.trans h)

theorem getOrInit_keeps (new : Option String → Option H) (svc : Service)
    (h : registry.handles name = some handle) :
    (registry.getOrInit new svc).2.handles name = some handle := by
  cases hh : registry.handles svc.name with
  | some held => rwa [getOrInit_held hh]
  | none =>
    have hna : name ≠ svc.name := by rintro rfl; exact nomatch h.symm.trans hh
    cases hn : new svc.keytab with
    | none => rwa [getOrInit_failed hh hn]
    | some derived => rw [getOrInit_derived hh hn]; exact (Function.update_of_ne hna _ _).trans h

end CredsRegistry

/-! ## The two halves of `resolve_context` -/

variable (config : Config) (registry : Service → Option H) (conn : Connection)
  (ctx : CallContext H)

def peerContext : CallContext H :=
  match conn.peerCred with
  | some cred => .resolve config conn cred
  | none => .anonymous conn.socket

def CallContext.attach : CallContext H :=
  match ctx.service with
  | some svc => { ctx with creds := registry svc }
  | none => ctx

theorem resolveContext_eq :
    resolveContext config registry conn = (peerContext config conn).attach registry := rfl

def Config.serviceFor : Option Service :=
  conn.peerCred.bind fun cred =>
    config.matchService cred.uid conn.socket (cred.pid.bind conn.programForPid)

@[simp]
theorem peerContext_service :
    (peerContext config conn : CallContext H).service = config.serviceFor conn := by
  unfold peerContext Config.serviceFor
  cases conn.peerCred <;> rfl

@[simp]
theorem peerContext_creds :
    (peerContext config conn : CallContext H).creds = none := by
  unfold peerContext
  cases conn.peerCred <;> rfl

@[simp]
theorem CallContext.attach_service :
    (ctx.attach registry).service = ctx.service := by
  unfold attach
  split <;> rfl

theorem resolveContext_service :
    (resolveContext config registry conn).service = config.serviceFor conn := by
  rw [resolveContext_eq, CallContext.attach_service, peerContext_service]

variable {config registry conn}

theorem resolveContext_creds {handle : H}
    (h : (resolveContext config registry conn).creds = some handle) :
    ∃ svc, config.serviceFor conn = some svc ∧ registry svc = some handle := by
  rw [resolveContext_eq, CallContext.attach, peerContext_service] at h
  cases hs : config.serviceFor conn with
  | some svc => rw [hs] at h; exact ⟨svc, rfl, h⟩
  | none => rw [hs, peerContext_creds] at h; cases h

end

/-! ## The machine -/

inductive Task (H : Type) where
  | resolving (ctx : CallContext H)
  | serving (ctx : CallContext H)
  | closed

structure Handled (H : Type) where
  conn : Nat
  ctx : CallContext H
  outcome : Calls GssxProc (Option Bytes)

/-- What the tasks of the daemon share.  `listeners` are the keys of the map in `run`, `running` the
    sockets whose loop has not stopped; a connection is known by its place in `tasks`. -/
structure ServerState (H : Type) where
  config : Config
  registry : CredsRegistry H
  listeners : List String
  running : List String
  tasks : List (Task H)
  handled : List (Handled H)

inductive ServerEvent (H : Type) where
  /-- a `SIGHUP`; the services of the file if they parse and pass `check_services`, and which
      sockets can be bound -/
  | hup (parsed : Option (List Service)) (binds : String → Bool)
  | stop (path : String)
  | accept (conn : Connection)
  /-- `get_or_init` for a connection; `new` is `CredHandle::new` at that time -/
  | attach (i : Nat) (new : Option String → Option H)
  | request (i : Nat) (body : Bytes)
  | close (i : Nat)

def Config.ofServices (socketName : String) (services : List Service) : Option Config :=
  if services.isEmpty then none else some ⟨socketName, services⟩

/-- The paths to listen on. -/
def Config.desired (config : Config) : List String :=
  (config.socketName :: config.services.filterMap Service.socket).dedup

section

variable {N X A H : Type}

def ServerState.reconcileListeners (binds : String → Bool) (s : ServerState H) : ServerState H :=
  let kept := s.listeners.filter fun path => path ∈ s.config.desired
  let bound := s.config.desired.filter fun path => path ∉ kept && binds path
  { s with listeners := kept ++ bound, running := s.running ++ bound }

def ServerState.start (config : Config) (binds : String → Bool) : ServerState H :=
  { config, registry := .new, listeners := [], running := [], tasks := [],
    handled := [] : ServerState H }.reconcileListeners binds

def ServerState.reload (config : Config) (binds : String → Bool) (s : ServerState H) :
    ServerState H :=
  { s with config }.reconcileListeners binds

def ServerState.attach (i : Nat) (new : Option String → Option H) (ctx : CallContext H)
    (s : ServerState H) : ServerState H :=
  { s with
    tasks := s.tasks.set i (.serving (ctx.attach fun svc => (s.registry.getOrInit new svc).1))
    registry :=
      match ctx.service with
      | some svc => (s.registry.getOrInit new svc).2
      | none => s.registry }

def ServerState.record (entry : Handled H) (s : ServerState H) : ServerState H :=
  { s with handled := s.handled ++ [entry] }

/-- One event of the daemon, if it can happen. -/
def serverStep (lib : Library N X A H) (s : ServerState H) : ServerEvent H → Option (ServerState H)
  | .hup parsed binds =>
    match parsed.bind (Config.ofServices s.config.socketName) with
    | none => some s
    | some config => some (s.reload config binds)
  | .stop path => if path ∈ s.running then some { s with running := s.running.erase path } else none
  | .accept conn =>
    if conn.socket ∈ s.running then
      some { s with tasks := s.tasks ++ [.resolving (peerContext s.config conn)] }
    else none
  | .attach i new =>
    match s.tasks[i]? with
    | some (.resolving ctx) => some (s.attach i new ctx)
    | _ => none
  | .request i body =>
    match s.tasks[i]? with
    | some (.serving ctx) => some (s.record ⟨i, ctx, handleRequest lib ctx body⟩)
    | _ => none
  | .close i =>
    match s.tasks[i]? with
    | some (.serving _) => some { s with tasks := s.tasks.set i .closed }
    | _ => none

inductive Transition (lib : Library N X A H) (s : ServerState H) :
    ServerEvent H → ServerState H → Prop where
  | unparsed {parsed : Option (List Service)} {binds : String → Bool}
      (hparsed : parsed.bind (Config.ofServices s.config.socketName) = none) :
      Transition lib s (.hup parsed binds) s
  | reloaded {parsed : Option (List Service)} {binds : String → Bool} {config : Config}
      (hparsed : parsed.bind (Config.ofServices s.config.socketName) = some config) :
      Transition lib s (.hup parsed binds) (s.reload config binds)
  | stopped {path : String} (hpath : path ∈ s.running) :
      Transition lib s (.stop path) { s with running := s.running.erase path }
  | accepted {conn : Connection} (hsocket : conn.socket ∈ s.running) :
      Transition lib s (.accept conn)
        { s with tasks := s.tasks ++ [.resolving (peerContext s.config conn)] }
  | attached {i : Nat} {new : Option String → Option H} {ctx : CallContext H}
      (htask : s.tasks[i]? = some (.resolving ctx)) :
      Transition lib s (.attach i new) (s.attach i new ctx)
  | requested {i : Nat} {body : Bytes} {ctx : CallContext H}
      (htask : s.tasks[i]? = some (.serving ctx)) :
      Transition lib s (.request i body) (s.record ⟨i, ctx, handleRequest lib ctx body⟩)
  | closed {i : Nat} {ctx : CallContext H} (htask : s.tasks[i]? = some (.serving ctx)) :
      Transition lib s (.close i) { s with tasks := s.tasks.set i .closed }

variable {lib : Library N X A H} {s s' : ServerState H} {e : ServerEvent H}

theorem serverStep_transition (h : serverStep lib s e = some s') : Transition lib s e s' := by
  cases e with
  | hup =>
    simp only [serverStep] at h
    split at h
    · rename_i hp
      cases h
      exact .unparsed hp
    · rename_i config hp
      cases h
      exact .reloaded hp
  | stop path =>
    obtain ⟨hpa, h⟩ := Option.ite_none_right_eq_some.mp h
    cases h
    exact .stopped hpa
  | accept conn =>
    obtain ⟨hs, h⟩ := Option.ite_none_right_eq_some.mp h
    cases h
    exact .accepted hs
  | attach i new =>
    simp only [serverStep] at h
    split at h
    · rename_i ctx ht
      cases h
      exact .attached ht
    · cases h
  | request i body =>
    simp only [serverStep] at h
    split at h
    · rename_i ctx ht
      cases h
      exact .requested ht
    · cases h
  | close i =>
    simp only [serverStep] at h
    split at h
    · rename_i ctx ht
      cases h
      exact .closed ht
    · cases h

/-! ## Where contexts and keys come from -/

theorem task_of_set {α : Type} {l : List α} {i j : Nat} {a t : α}
    (h : (l.set j a)[i]? = some t) : l[i]? = some t ∨ i = j ∧ t = a := by
  rw [List.getElem?_set] at h
  split at h
  · rename_i hij
    obtain ⟨-, h⟩ := Option.ite_none_right_eq_some.mp h
    cases h
    exact .inr ⟨hij.symm, rfl⟩
  · exact .inl h

theorem Transition.task {i : Nat} {t : Task H} (hs : Transition lib s e s')
    (ht : s'.tasks[i]? = some t) :
    s.tasks[i]? = some t ∨
      (∃ conn, e = .accept conn ∧ s.tasks.length = i ∧
        t = .resolving (peerContext s.config conn)) ∨
      (∃ new ctx, e = .attach i new ∧ s.tasks[i]? = some (.resolving ctx) ∧
        t = .serving (ctx.attach fun svc => (s.registry.getOrInit new svc).1) ∧
        s' = s.attach i new ctx) ∨
      t = .closed := by
  cases hs with
  | unparsed | reloaded | stopped | requested => exact .inl ht
  | accepted hso =>
    rename_i conn
    obtain hlt | hge := Nat.lt_or_ge i s.tasks.length
    · exact .inl ((List.getElem?_append_left hlt).symm.trans ht)
    · rw [List.getElem?_append_right hge, List.getElem?_singleton] at ht
      obtain ⟨hi, ht⟩ := Option.ite_none_right_eq_some.mp ht
      exact .inr (.inl ⟨conn, rfl, by omega, (Option.some.inj ht).symm⟩)
  | attached hr =>
    rename_i j new ctx
    obtain ht | ⟨rfl, rfl⟩ := task_of_set ht
    · exact .inl ht
    · exact .inr (.inr (.inl ⟨new, ctx, rfl, hr, rfl, rfl⟩))
  | closed hse =>
    obtain ht | ⟨-, rfl⟩ := task_of_set ht
    · exact .inl ht
    · exact .inr (.inr (.inr rfl))

theorem Transition.handle {name : String} {handle : H} (hst : Transition lib s e s')
    (hh : s'.registry.handles name = some handle) :
    s.registry.handles name = some handle ∨
      ∃ i new ctx svc, e = .attach i new ∧ s.tasks[i]? = some (.resolving ctx) ∧
        ctx.service = some svc ∧ svc.name = name ∧ s.registry.handles name = none ∧
        new svc.keytab = some handle := by
  cases hst with
  | unparsed | reloaded | stopped | accepted | requested | closed => exact .inl hh
  | attached ht =>
    rename_i i new ctx
    simp only [ServerState.attach] at hh
    cases hs : ctx.service with
    | none => rw [hs] at hh; exact .inl hh
    | some svc =>
      rw [hs] at hh
      obtain hhe | ⟨hn, hno, hne⟩ := CredsRegistry.getOrInit_origin hh
      · exact .inl hhe
      · exact .inr ⟨i, new, ctx, svc, rfl, ht, hs, hn, hno, hne⟩

theorem Transition.keeps {name : String} {handle : H} (hs : Transition lib s e s')
    (hh : s.registry.handles name = some handle) : s'.registry.handles name = some handle := by
  cases hs with
  | unparsed | reloaded | stopped | accepted | requested | closed => exact hh
  | attached ht =>
    rename_i i new ctx
    simp only [ServerState.attach]
    cases ctx.service with
    | none => exact hh
    | some svc => exact CredsRegistry.getOrInit_keeps new svc hh

section

variable (lib : Library N X A H) (init : ServerState H) (i : Nat) (conn : Connection)
  (config : Config)

def AcceptedUnder : List (ServerEvent H) → Prop :=
  Happened (serverStep lib) init fun _ s e =>
    e = .accept conn ∧ s.tasks.length = i ∧ s.config = config

/-- `ctx` was resolved for the connection `i`: the service from the configuration it was accepted
    under, the key from the registry by then. -/
def ResolvedAs (ctx : CallContext H) : List (ServerEvent H) → Prop :=
  Happened (serverStep lib) init fun before s e =>
    ∃ new, e = .attach i new ∧ AcceptedUnder lib init i conn config before ∧
      ctx = resolveContext config (fun svc => (s.registry.getOrInit new svc).1) conn

/-- `handle` was derived as the first key under `name`, from the keytab in the configuration of some
    connection's acceptance. -/
def FirstDerived (name : String) (handle : H) : List (ServerEvent H) → Prop :=
  Happened (serverStep lib) init fun before s e =>
    ∃ i new conn config svc, e = .attach i new ∧ AcceptedUnder lib init i conn config before ∧
      config.serviceFor conn = some svc ∧ svc.name = name ∧ s.registry.handles name = none ∧
      new svc.keytab = some handle

structure Provenance (events : List (ServerEvent H)) (s : ServerState H) : Prop where
  resolving : ∀ {i : Nat} {ctx : CallContext H}, s.tasks[i]? = some (.resolving ctx) →
    ∃ conn config, AcceptedUnder lib init i conn config events ∧ ctx = peerContext config conn
  serving : ∀ {i : Nat} {ctx : CallContext H}, s.tasks[i]? = some (.serving ctx) →
    ∃ conn config, ResolvedAs lib init i conn config ctx events
  keys : ∀ {i : Nat} {ctx : CallContext H} {handle : H}, s.tasks[i]? = some (.serving ctx) →
    ctx.creds = some handle →
      ∃ svc, ctx.service = some svc ∧ s.registry.handles svc.name = some handle
  handles : ∀ {name : String} {handle : H}, s.registry.handles name = some handle →
    FirstDerived lib init name handle events

end

variable {init : ServerState H} {events : List (ServerEvent H)}

theorem Provenance.step (hru : exec (serverStep lib) init events = some s)
    (hp : Provenance lib init events s) (hst : Transition lib s e s') :
    Provenance lib init (events ++ [e]) s' where
  resolving {i ctx} ht := by
    obtain ht | ⟨conn, rfl, hl, heq⟩ | ⟨_, _, -, -, heq, -⟩ | heq := hst.task ht
    · obtain ⟨conn, config, ha, hct⟩ := hp.resolving ht; exact ⟨conn, config, ha.later, hct⟩
    · cases heq
      exact ⟨conn, s.config, .now hru ⟨rfl, hl, rfl⟩, rfl⟩
    · cases heq
    · cases heq
  serving {i ctx} ht := by
    obtain ht | ⟨_, -, -, heq⟩ | ⟨new, ctx₀, rfl, hr, heq, -⟩ | heq := hst.task ht
    · obtain ⟨conn, config, hre⟩ := hp.serving ht; exact ⟨conn, config, hre.later⟩
    · cases heq
    · obtain ⟨conn, config, ha, rfl⟩ := hp.resolving hr
      cases heq
      exact ⟨conn, config, .now hru ⟨new, rfl, ha, rfl⟩⟩
    · cases heq
  keys {i ctx handle} ht hc := by
    obtain ht | ⟨_, -, -, heq⟩ | ⟨new, ctx₀, rfl, hr, heq, hs'⟩ | heq := hst.task ht
    · obtain ⟨svc, hse, hh⟩ := hp.keys ht hc; exact ⟨svc, hse, hst.keeps hh⟩
    · cases heq
    · -- the context resolved just now, with what `get_or_init` has just returned
      obtain ⟨conn, config, ha, rfl⟩ := hp.resolving hr
      cases heq
      obtain ⟨svc, hse, hrt⟩ := resolveContext_creds hc
      refine ⟨svc, (resolveContext_service _ _ _).trans hse, ?_⟩
      rw [hs', ServerState.attach, peerContext_service, hse]
      exact CredsRegistry.getOrInit_returns hrt
    · cases heq
  handles {name handle} hh := by
    obtain hhe | ⟨i, new, ctx, svc, rfl, ht, hse, hn, hno, hne⟩ := hst.handle hh
    · exact (hp.handles hhe).later
    · obtain ⟨conn, config, ha, rfl⟩ := hp.resolving ht
      rw [peerContext_service] at hse
      exact .now hru ⟨i, new, conn, config, svc, rfl, ha, hse, hn, hno, hne⟩

theorem provenance {config : Config} {binds : String → Bool}
    (hr : exec (serverStep lib) (.start config binds) events = some s) :
    Provenance lib (.start config binds) events s := by
  refine exec_invariant (I := Provenance lib (.start config binds)) ?_ ?_ hr
  · exact ⟨nofun, nofun, nofun, nofun⟩
  · intro events s e s' hr hp hs; exact hp.step hr (serverStep_transition hs)

end

end GssProxy.Server
