import GssProxy.System.Bindings
import Mathlib.Data.List.Nodup

/-!
# Listening sockets of the C daemon

On a reload the events of services are carried over by name, what is not wanted any more is closed and
what is new is bound.  Each service binds its own socket, also where another one has the same path.

* `listening_sockets`: which sockets the daemon listens on after any number of reloads.
-/

namespace GssProxy.Daemon

open GssProxy.System

/-! ## Configurations and events -/

structure SvcSocket where
  name : String
  socket : Option String
  ev : Option Nat
  deriving DecidableEq, Repr

structure SocketConfig where
  socketName : String
  svcs : List SvcSocket
  deriving DecidableEq, Repr

structure Gpctx where
  config : SocketConfig
  sockEv : Nat
  bindings : Bindings String

/-- What a configuration says of sockets. -/
structure ReadSockets where
  socketName : String
  services : List (String × Option String)
  names_nodup : (services.map Prod.fst).Nodup

def ReadSockets.load (c : ReadSockets) : SocketConfig :=
  ⟨c.socketName, c.services.map fun svc => ⟨svc.1, svc.2, none⟩⟩

/-! ## `init_sockets` -/

def findServiceByName (svcs : List SvcSocket) (name : String) : Option SvcSocket :=
  svcs.find? fun svc => svc.name = name

/-- `setup_socket`: binds the path anew. -/
def setupSocket (sockName : String) (b : Bindings String) : Nat × Bindings String :=
  (b.next, b.bind sockName)

def setEv (name : String) (ev : Nat) : List SvcSocket → List SvcSocket
  | [] => []
  | svc :: rest => if svc.name = name then { svc with ev := some ev } :: rest else svc :: setEv name ev rest

/-- The loop over the old services: the event of one that stays with its socket goes to the new
    configuration, the others are deleted. -/
def propagate : List SvcSocket → List SvcSocket → Bindings String → List SvcSocket × Bindings String
  | [], svcs, b => (svcs, b)
  | old :: rest, svcs, b =>
    match old.ev with
    | none => propagate rest svcs b
    | some ev =>
      match findServiceByName svcs old.name with
      | some svc =>
        if svc.socket = old.socket then propagate rest (setEv old.name ev svcs) b
        else propagate rest svcs (b.close ev)
      | none => propagate rest svcs (b.close ev)

def initServices : List SvcSocket → Bindings String → List SvcSocket × Bindings String
  | [], b => ([], b)
  | svc :: rest, b =>
    match svc.socket, svc.ev with
    | some socket, none =>
      let (ev, b) := setupSocket socket b
      let (rest, b) := initServices rest b
      ({ svc with ev := some ev } :: rest, b)
    | _, _ =>
      let (rest, b) := initServices rest b
      (svc :: rest, b)

def initMain (sockName : String) : Option Gpctx → Nat × Bindings String
  | none => setupSocket sockName .empty
  | some g =>
    if g.config.socketName ≠ sockName then
      let (ev, b) := setupSocket sockName g.bindings
      (ev, b.close g.sockEv)
    else (g.sockEv, g.bindings)

def initSockets (new : SocketConfig) (old : Option Gpctx) : Gpctx :=
  let (sockEv, b) := initMain new.socketName old
  let (svcs, b) :=
    match old with
    | none => (new.svcs, b)
    | some g => propagate g.config.svcs new.svcs b
  let (svcs, b) := initServices svcs b
  ⟨⟨new.socketName, svcs⟩, sockEv, b⟩

/-- The start of the daemon, and reloads after it. -/
def listenRun (first : ReadSockets) (reloads : List ReadSockets) : Gpctx :=
  reloads.foldl (fun g c => initSockets c.load (some g)) (initSockets first.load none)

def ReadSockets.claims (c : ReadSockets) : List (Option String × String) :=
  (none, c.socketName) :: c.services.filterMap fun svc => svc.2.map fun p => (some svc.1, p)

def lastBinderFrom (old : ReadSockets) (last : String → Option (Option String)) :
    List ReadSockets → String → Option (Option String)
  | [] => last
  | new :: rest =>
    lastBinderFrom new (binders (new.claims.filter fun a => a ∉ old.claims) last) rest

def lastBinder (first : ReadSockets) (reloads : List ReadSockets) : String → Option (Option String) :=
  lastBinderFrom first (binders first.claims fun _ => none) reloads

/-! ## The loops -/

variable {p : String}

section

variable {svcs old rest : List SvcSocket} {svc o : SvcSocket} {name : String} {ev : Nat}
  {b : Bindings String}

theorem findServiceByName_of_mem (hn : (svcs.map SvcSocket.name).Nodup) (hm : svc ∈ svcs) :
    findServiceByName svcs svc.name = some svc := by
  induction svcs with
  | nil => cases hm
  | cons s rest ih =>
    rw [List.map_cons, List.nodup_cons] at hn
    unfold findServiceByName
    rw [List.find?_cons]
    rcases List.mem_cons.mp hm with rfl | hm
    · simp
    · have hne : s.name ≠ svc.name := fun h => hn.1 (h ▸ List.mem_map_of_mem hm)
      simp only [hne, decide_false]
      exact ih hn.2 hm

theorem findServiceByName_eq_some (h : findServiceByName svcs name = some svc) :
    svc ∈ svcs ∧ svc.name = name :=
  ⟨List.mem_of_find?_eq_some h, by simpa using List.find?_some h⟩

theorem eq_of_findServiceByName (hno : (svcs.map SvcSocket.name).Nodup)
    (hf : findServiceByName svcs name = some o) (hm : svc ∈ svcs) (hn : svc.name = name) :
    svc = o := by
  obtain ⟨ho, hn'⟩ := findServiceByName_eq_some hf
  exact List.inj_on_of_nodup_map hno hm ho (hn.trans hn'.symm)

theorem findServiceByName_eq_none : findServiceByName svcs name = none ↔
    ∀ svc ∈ svcs, svc.name ≠ name := by
  simp [findServiceByName, List.find?_eq_none]

theorem setEv_eq_map (hno : (svcs.map SvcSocket.name).Nodup) :
    setEv name ev svcs =
      svcs.map fun svc => if svc.name = name then { svc with ev := some ev } else svc := by
  induction svcs with
  | nil => rfl
  | cons svc rest ih =>
    rw [List.map_cons, List.nodup_cons] at hno
    unfold setEv
    by_cases hn : svc.name = name
    · have hr : (rest.map fun svc => if svc.name = name then { svc with ev := some ev } else svc) =
          rest := by
        refine (List.map_congr_left fun s hs => ?_).trans (List.map_id rest)
        have hne : s.name ≠ name := fun h => hno.1 (hn ▸ h ▸ List.mem_map_of_mem hs)
        simp [if_neg hne]
      rw [if_pos hn, List.map_cons, if_pos hn, hr]
    · rw [if_neg hn, List.map_cons, if_neg hn, ih hno.2]

theorem setEv_names (hn : (svcs.map SvcSocket.name).Nodup) :
    (setEv name ev svcs).map SvcSocket.name = svcs.map SvcSocket.name := by
  rw [setEv_eq_map hn, List.map_map]
  refine List.map_congr_left fun svc _ => ?_
  simp only [Function.comp_apply]
  split <;> rfl

def KeepsSocket (svcs : List SvcSocket) (o : SvcSocket) : Prop :=
  ∃ svc ∈ svcs, svc.name = o.name ∧ svc.socket = o.socket

theorem keepsSocket_setEv (hn : (svcs.map SvcSocket.name).Nodup) :
    KeepsSocket (setEv name ev svcs) o ↔ KeepsSocket svcs o := by
  rw [setEv_eq_map hn]
  unfold KeepsSocket
  simp only [List.mem_map, exists_exists_and_eq_and]
  refine exists_congr fun svc => and_congr_right fun _ => ?_
  split <;> rfl

def carry (old : List SvcSocket) (svc : SvcSocket) : SvcSocket :=
  match findServiceByName old svc.name with
  | some o => if svc.socket = o.socket ∧ o.ev.isSome then { svc with ev := o.ev } else svc
  | none => svc

theorem carry_of_notMem (hn : ∀ o ∈ old, o.name ≠ svc.name) : carry old svc = svc := by
  unfold carry
  rw [findServiceByName_eq_none.mpr hn]

theorem carry_cons_of_ne (hn : o.name ≠ svc.name) : carry (o :: rest) svc = carry rest svc := by
  unfold carry findServiceByName
  rw [List.find?_cons_of_neg (by simpa using hn)]

theorem carry_cons_self (hn : o.name = svc.name) : carry (o :: rest) svc =
    if svc.socket = o.socket ∧ o.ev.isSome then { svc with ev := o.ev } else svc := by
  unfold carry findServiceByName
  rw [List.find?_cons_of_pos (by simpa using hn)]

theorem propagate_fst (hold : (old.map SvcSocket.name).Nodup) :
    ∀ {svcs : List SvcSocket} {b : Bindings String}, (svcs.map SvcSocket.name).Nodup →
      (propagate old svcs b).1 = svcs.map (carry old) := by
  induction old with
  | nil => intro svcs b _; exact (List.map_id svcs).symm
  | cons o rest ih =>
    intro svcs b hno
    rw [List.map_cons, List.nodup_cons] at hold
    have hr : ∀ svc : SvcSocket, o.name = svc.name → carry rest svc = svc := by
      intro svc hn
      exact carry_of_notMem fun o' hm h => hold.1 (hn ▸ h ▸ List.mem_map_of_mem hm)
    -- a service of the name that does not take the event over
    have hsk : (∀ svc ∈ svcs, svc.name = o.name → ¬ (svc.socket = o.socket ∧ o.ev.isSome)) →
        svcs.map (carry rest) = svcs.map (carry (o :: rest)) := by
      intro hnt
      refine List.map_congr_left fun svc hm => ?_
      by_cases hn : o.name = svc.name
      · rw [hr svc hn, carry_cons_self hn, if_neg (hnt svc hm hn.symm)]
      · rw [carry_cons_of_ne hn]
    unfold propagate
    cases hev : o.ev with
    | none => rw [ih hold.2 hno]; exact hsk fun svc _ _ h => by simp [hev] at h
    | some ev =>
      cases hf : findServiceByName svcs o.name with
      | none =>
        rw [ih hold.2 hno]
        exact hsk fun svc hm hn => absurd hn (findServiceByName_eq_none.mp hf svc hm)
      | some s =>
        simp only
        by_cases hs : s.socket = o.socket
        · rw [if_pos hs, ih hold.2 (by rwa [setEv_names hno]), setEv_eq_map hno, List.map_map]
          refine List.map_congr_left fun svc hm => ?_
          simp only [Function.comp_apply]
          by_cases hn : svc.name = o.name
          · obtain rfl := eq_of_findServiceByName hno hf hm hn
            rw [if_pos hn, hr { svc with ev := some ev } hn.symm,
              carry_cons_self hn.symm, if_pos ⟨hs, by simp [hev]⟩, hev]
          · rw [if_neg hn, carry_cons_of_ne fun h => hn h.symm]
        · rw [if_neg hs, ih hold.2 hno]
          refine hsk fun svc hm hn h => hs ?_
          obtain rfl := eq_of_findServiceByName hno hf hm hn
          exact h.1

def SvcSocket.lease (svc : SvcSocket) : Option (String × Nat) :=
  svc.socket.bind fun p => svc.ev.map fun ev => (p, ev)

/-- The events of old services are closed if the services have no place in the new configuration. -/
structure Propagated (old svcs : List SvcSocket) (l l' : Leases (Option String) String) :
    Prop where
  held_none : l'.held none = l.held none
  last : l'.last = l.last
  closed : ∀ o ∈ old, ¬ KeepsSocket svcs o → l'.held (some o.name) = none
  kept : ∀ name, (∀ o ∈ old, o.name = name → KeepsSocket svcs o) →
    l'.held (some name) = l.held (some name)

section

variable {l l₁ l' : Leases (Option String) String} {svcs' : List SvcSocket}

theorem Propagated.cons (hf : Propagated [o] svcs l l₁) (hr : Propagated rest svcs' l₁ l')
    (hk : ∀ o', KeepsSocket svcs' o' ↔ KeepsSocket svcs o')
    (ho : ∀ o' ∈ rest, o'.name ≠ o.name) : Propagated (o :: rest) svcs l l' where
  held_none := hr.held_none.trans hf.held_none
  last := hr.last.trans hf.last
  closed o' hm hn := by
    rcases List.mem_cons.mp hm with rfl | hm
    · rw [hr.kept o'.name fun o'' hm' h => absurd h (ho o'' hm')]
      exact hf.closed o' (List.mem_singleton_self o') hn
    · exact hr.closed o' hm fun h => hn ((hk o').mp h)
  kept name ha := by
    rw [List.forall_mem_cons] at ha
    rw [hr.kept name fun o' hm h => (hk o').mpr (ha.2 o' hm h)]
    exact hf.kept name (List.forall_mem_singleton.mpr ha.1)

theorem Propagated.same (h : ¬ KeepsSocket svcs o → l.held (some o.name) = none) :
    Propagated [o] svcs l l where
  held_none := rfl
  last := rfl
  closed o' hm hn := by obtain rfl := List.mem_singleton.mp hm; exact h hn
  kept _ _ := rfl

theorem Propagated.release (hl : l.held (some o.name) = some (p, ev))
    (hn : ¬ KeepsSocket svcs o) : Propagated [o] svcs l (l.release hl) where
  held_none := l.release_held_of_ne hl (Option.some_ne_none _).symm
  last := rfl
  closed o' hm _ := by obtain rfl := List.mem_singleton.mp hm; exact l.release_held_self hl
  kept name ha := by
    refine l.release_held_of_ne hl fun h => hn ?_
    exact List.forall_mem_singleton.mp ha (Option.some.inj h).symm

end

theorem propagate_leases (hold : (old.map SvcSocket.name).Nodup)
    (he : ∀ o ∈ old, o.ev.isSome = o.socket.isSome) :
    ∀ {svcs : List SvcSocket} (l : Leases (Option String) String),
      (svcs.map SvcSocket.name).Nodup → (∀ o ∈ old, l.held (some o.name) = o.lease) →
      ∃ l' : Leases (Option String) String, l'.bindings = (propagate old svcs l.bindings).2 ∧
        Propagated old svcs l l' := by
  induction old with
  | nil => exact fun l _ _ => ⟨l, rfl, rfl, rfl, nofun, fun _ _ => rfl⟩
  | cons o rest ih =>
    intro svcs l hn hh
    rw [List.map_cons, List.nodup_cons] at hold
    rw [List.forall_mem_cons] at he hh
    have ho : ∀ o' ∈ rest, o'.name ≠ o.name := fun o' hm h => hold.1 (h ▸ List.mem_map_of_mem hm)
    -- the loop goes on with the service list `svcs'` and the leases `l₁`
    have hgo : ∀ (svcs' : List SvcSocket) (l₁ : Leases (Option String) String),
        (svcs'.map SvcSocket.name).Nodup → (∀ o', KeepsSocket svcs' o' ↔ KeepsSocket svcs o') →
        Propagated [o] svcs l l₁ →
        ∃ l' : Leases (Option String) String, l'.bindings = (propagate rest svcs' l₁.bindings).2 ∧
          Propagated (o :: rest) svcs l l' := by
      intro svcs' l₁ hn' hk hfi
      have hhe : ∀ o' ∈ rest, l₁.held (some o'.name) = o'.lease := by
        intro o' hm
        rw [← hh.2 o' hm]
        refine hfi.kept o'.name (List.forall_mem_singleton.mpr fun h => ?_)
        exact absurd h.symm (ho o' hm)
      obtain ⟨l', hb, hr⟩ := ih hold.2 he.2 l₁ hn' hhe
      exact ⟨l', hb, hfi.cons hr hk ho⟩
    unfold propagate
    cases hev : o.ev with
    | none =>
      have hl : l.held (some o.name) = none := by
        rw [hh.1, SvcSocket.lease, hev]
        cases o.socket <;> rfl
      exact hgo svcs l hn (fun _ => Iff.rfl) (.same fun _ => hl)
    | some ev =>
      obtain ⟨p, hp⟩ := Option.isSome_iff_exists.mp (he.1.symm.trans (by rw [hev]; rfl))
      have hl : l.held (some o.name) = some (p, ev) := by rw [hh.1, SvcSocket.lease, hp, hev]; rfl
      cases hf : findServiceByName svcs o.name with
      | none =>
        refine hgo svcs (l.release hl) hn (fun _ => Iff.rfl) (.release hl ?_)
        rintro ⟨svc, hm, hna, -⟩
        exact findServiceByName_eq_none.mp hf svc hm hna
      | some svc =>
        obtain ⟨hm, hna⟩ := findServiceByName_eq_some hf
        simp only
        by_cases hs : svc.socket = o.socket
        · rw [if_pos hs]
          exact hgo _ l (by rwa [setEv_names hn]) (fun _ => keepsSocket_setEv hn)
            (.same fun hno => absurd ⟨svc, hm, hna, hs⟩ hno)
        rw [if_neg hs]
        refine hgo svcs (l.release hl) hn (fun _ => Iff.rfl) (.release hl ?_)
        rintro ⟨svc', hm', hna', hs'⟩
        obtain rfl := eq_of_findServiceByName hn hf hm' hna'
        exact hs hs'

def unbound (svc : SvcSocket) : Option (Option String × String) :=
  match svc.socket, svc.ev with
  | some socket, none => some (some svc.name, socket)
  | _, _ => none

structure Bound (svcs svcs' : List SvcSocket) (l l' : Leases (Option String) String) : Prop where
  sections : svcs'.map (fun svc => (svc.name, svc.socket)) =
    svcs.map fun svc => (svc.name, svc.socket)
  evs : ∀ svc ∈ svcs', svc.ev.isSome = svc.socket.isSome
  held : ∀ svc ∈ svcs', l'.held (some svc.name) = svc.lease
  held_none : l'.held none = l.held none
  held_other : ∀ name, name ∉ svcs.map SvcSocket.name → l'.held (some name) = l.held (some name)
  last : l'.last = binders (svcs.filterMap unbound) l.last

section

variable {l l₁ l' : Leases (Option String) String} {svc' : SvcSocket} {rest' : List SvcSocket}

theorem Bound.cons (hf : Bound [svc] [svc'] l l₁) (hr : Bound rest rest' l₁ l')
    (hna : svc.name ∉ rest.map SvcSocket.name) : Bound (svc :: rest) (svc' :: rest') l l' where
  sections := by
    rw [List.map_cons, hr.sections]
    exact congrArg (· ++ rest.map fun svc => (svc.name, svc.socket)) hf.sections
  evs := List.forall_mem_cons.mpr ⟨hf.evs svc' (List.mem_singleton_self svc'), hr.evs⟩
  held := by
    have hs : svc'.name = svc.name := congrArg Prod.fst (List.singleton_injective hf.sections)
    refine List.forall_mem_cons.mpr ⟨?_, hr.held⟩
    rw [hr.held_other svc'.name (hs ▸ hna)]
    exact hf.held svc' (List.mem_singleton_self svc')
  held_none := hr.held_none.trans hf.held_none
  held_other name hn := by
    rw [List.map_cons, List.mem_cons, not_or] at hn
    exact (hr.held_other name hn.2).trans
      (hf.held_other name fun h => hn.1 (List.mem_singleton.mp h))
  last := by rw [hr.last, hf.last, ← binders_append, ← List.filterMap_append]; rfl

theorem Bound.same (he : svc.ev.isSome = svc.socket.isSome)
    (hh : l.held (some svc.name) = svc.lease) : Bound [svc] [svc] l l where
  sections := rfl
  evs := List.forall_mem_singleton.mpr he
  held := List.forall_mem_singleton.mpr hh
  held_none := rfl
  held_other _ _ := rfl
  last := by
    have hu : unbound svc = none := by
      unfold unbound
      split
      · rename_i hs hev
        rw [hs, hev] at he; cases he
      · rfl
    rw [List.filterMap_cons_none hu]; rfl

theorem Bound.acquire (hs : svc.socket = some p) (hev : svc.ev = none)
    (hh : l.held (some svc.name) = none) :
    Bound [svc] [{ svc with ev := some l.bindings.next }] l (l.acquire p hh) where
  sections := rfl
  evs := by
    refine List.forall_mem_singleton.mpr ?_
    simp only [hs]; rfl
  held := by
    refine List.forall_mem_singleton.mpr ?_
    rw [l.acquire_held_self hh]
    simp only [hs]; rfl
  held_none := l.acquire_held_of_ne hh (Option.some_ne_none _).symm
  held_other name hn :=
    l.acquire_held_of_ne hh fun h => hn (List.mem_singleton.mpr (Option.some.inj h))
  last := by
    have hu : unbound svc = some (some svc.name, p) := by simp [unbound, hs, hev]
    rw [List.filterMap_cons_some hu]; rfl

end

theorem initServices_leases :
    ∀ {svcs : List SvcSocket} (l : Leases (Option String) String), (svcs.map SvcSocket.name).Nodup →
      (∀ svc ∈ svcs, l.held (some svc.name) = svc.lease) →
      (∀ svc ∈ svcs, svc.ev.isSome → svc.socket.isSome) →
      ∃ l' : Leases (Option String) String, l'.bindings = (initServices svcs l.bindings).2 ∧
        Bound svcs (initServices svcs l.bindings).1 l l' := by
  intro svcs
  induction svcs with
  | nil => exact fun l _ _ _ => ⟨l, rfl, rfl, nofun, nofun, rfl, fun _ _ => rfl, rfl⟩
  | cons svc rest ih =>
    intro l hn hh he
    rw [List.map_cons, List.nodup_cons] at hn
    rw [List.forall_mem_cons] at hh he
    -- the first service becomes `svc'` and leaves the leases `l₁`
    have hgo : ∀ (svc' : SvcSocket) (l₁ : Leases (Option String) String),
        initServices (svc :: rest) l.bindings =
          (svc' :: (initServices rest l₁.bindings).1, (initServices rest l₁.bindings).2) →
        Bound [svc] [svc'] l l₁ →
        ∃ l' : Leases (Option String) String,
          l'.bindings = (initServices (svc :: rest) l.bindings).2 ∧
          Bound (svc :: rest) (initServices (svc :: rest) l.bindings).1 l l' := by
      intro svc' l₁ heq hf
      have hhe : ∀ s ∈ rest, l₁.held (some s.name) = s.lease := by
        intro s hs
        rw [← hh.2 s hs]
        refine hf.held_other s.name fun h => hn.1 ?_
        exact List.mem_singleton.mp h ▸ List.mem_map_of_mem hs
      obtain ⟨l', hb, hr⟩ := ih l₁ hn.2 hhe he.2
      rw [heq]
      exact ⟨l', hb, hf.cons hr hn.1⟩
    cases hso : svc.socket with
    | none =>
      have hev : svc.ev = none := by
        rw [← Option.not_isSome_iff_eq_none]
        intro h
        have hsm := he.1 h
        rw [hso] at hsm; cases hsm
      refine hgo svc l ?_ (.same ?_ hh.1)
      · rw [initServices, hso]
      · rw [hso, hev]; rfl
    | some p =>
      cases hev : svc.ev with
      | some ev =>
        refine hgo svc l ?_ (.same ?_ hh.1)
        · rw [initServices, hso, hev]
        · rw [hso, hev]; rfl
      | none =>
        have hno : l.held (some svc.name) = none := by rw [hh.1, SvcSocket.lease, hso, hev]; rfl
        refine hgo { svc with ev := some l.bindings.next } (l.acquire p hno) ?_
          (.acquire hso hev hno)
        rw [initServices, hso, hev]; rfl

end

/-! ## Reloads -/

structure Listening (c : ReadSockets) (g : Gpctx) (l : Leases (Option String) String) : Prop where
  bindings : l.bindings = g.bindings
  main : g.config.socketName = c.socketName
  sections : g.config.svcs.map (fun svc => (svc.name, svc.socket)) = c.services
  evs : ∀ svc ∈ g.config.svcs, svc.ev.isSome = svc.socket.isSome
  held : ∀ svc ∈ g.config.svcs, l.held (some svc.name) = svc.lease
  held_none : l.held none = some (c.socketName, g.sockEv)
  held_other : ∀ name, name ∉ g.config.svcs.map SvcSocket.name → l.held (some name) = none

section

variable {c old new : ReadSockets} {g : Gpctx} {l : Leases (Option String) String}

theorem ReadSockets.load_names (c : ReadSockets) : (c.load.svcs.map SvcSocket.name).Nodup := by
  have hn := c.names_nodup
  unfold ReadSockets.load
  rw [List.map_map]
  exact hn

theorem Listening.names (h : Listening c g l) : (g.config.svcs.map SvcSocket.name).Nodup := by
  have hn := c.names_nodup
  rw [← h.sections, List.map_map] at hn
  exact hn

theorem mem_claims_none : (none, p) ∈ c.claims ↔ p = c.socketName := by simp [ReadSockets.claims]

variable {name : String}

theorem mem_claims_some : (some name, p) ∈ c.claims ↔ (name, some p) ∈ c.services := by
  simp [ReadSockets.claims]

theorem Listening.mem_claims_some (h : Listening c g l) :
    (some name, p) ∈ c.claims ↔
      ∃ o, findServiceByName g.config.svcs name = some o ∧ o.socket = some p := by
  rw [Daemon.mem_claims_some, ← h.sections, List.mem_map]
  constructor
  · rintro ⟨o, hm, ho⟩
    rw [Prod.mk.injEq] at ho
    exact ⟨o, ho.1 ▸ findServiceByName_of_mem h.names hm, ho.2⟩
  · rintro ⟨o, hf, hs⟩
    obtain ⟨hm, hn⟩ := findServiceByName_eq_some hf
    exact ⟨o, hm, by rw [hn, hs]⟩

theorem Listening.held_iff (h : Listening c g l) {hol : Option String} :
    (∃ fd, l.held hol = some (p, fd)) ↔ (hol, p) ∈ c.claims := by
  cases hol with
  | none => rw [mem_claims_none, h.held_none]; simp [eq_comm]
  | some name =>
    rw [h.mem_claims_some]
    constructor
    · rintro ⟨fd, hfd⟩
      by_cases hm : name ∈ g.config.svcs.map SvcSocket.name
      · obtain ⟨o, ho, rfl⟩ := List.mem_map.mp hm
        refine ⟨o, findServiceByName_of_mem h.names ho, ?_⟩
        rw [h.held o ho, SvcSocket.lease] at hfd
        cases hs : o.socket with
        | none => simp [hs] at hfd
        | some q =>
          simp only [hs, Option.bind_some, Option.map_eq_some_iff, Prod.mk.injEq] at hfd
          obtain ⟨_, -, rfl, -⟩ := hfd; rfl
      · rw [h.held_other name hm] at hfd; cases hfd
    · rintro ⟨o, hf, hs⟩
      obtain ⟨ho, rfl⟩ := findServiceByName_eq_some hf
      have hev := h.evs o ho
      rw [hs, Option.isSome_some, Option.isSome_iff_exists] at hev
      obtain ⟨ev, hev⟩ := hev
      exact ⟨ev, by rw [h.held o ho, SvcSocket.lease, hs, hev]; rfl⟩

theorem Listening.initMain (h : Listening old g l) (sockName : String) :
    ∃ l₁ : Leases (Option String) String, l₁.bindings = (initMain sockName (some g)).2 ∧
      l₁.held none = some (sockName, (Daemon.initMain sockName (some g)).1) ∧
      (∀ name, l₁.held (some name) = l.held (some name)) ∧
      l₁.last = binders ([(none, sockName)].filter fun a => a ∉ old.claims) l.last := by
  have hne : ∀ name : String, (some name : Option String) ≠ none := Option.some_ne_none
  by_cases hs : old.socketName = sockName
  · have hm : ((none : Option String), sockName) ∈ old.claims := mem_claims_none.mpr hs.symm
    refine ⟨l, ?_, ?_, fun _ => rfl, ?_⟩
    · simp [Daemon.initMain, h.main, hs, h.bindings]
    · simp [Daemon.initMain, h.main, hs, h.held_none]
    · simp [hm, binders]
  · -- bound and then closed is closed and then bound
    have hm : ((none : Option String), sockName) ∉ old.claims :=
      fun hm => hs (mem_claims_none.mp hm).symm
    have hn := l.release_held_self h.held_none
    refine ⟨(l.release h.held_none).acquire sockName hn, ?_, ?_, ?_, ?_⟩
    · simp only [Daemon.initMain, h.main, ne_eq, hs, not_false_iff, if_true, setupSocket,
        ← h.bindings]
      exact (Bindings.close_bind (l.held_lt h.held_none)).symm
    · simp only [Daemon.initMain, h.main, ne_eq, hs, not_false_iff, if_true, setupSocket,
        ← h.bindings]
      rfl
    · intro name
      rw [Leases.acquire_held_of_ne _ _ (hne name), l.release_held_of_ne _ (hne name)]
    · simp only [List.filter_cons, hm, not_false_iff, decide_true, if_true, List.filter_nil]; rfl

/-! ### The services -/

theorem Listening.carried (h : Listening old g l) {l₁ l₂ : Leases (Option String) String}
    {svcs : List SvcSocket} (hna : (svcs.map SvcSocket.name).Nodup)
    (hsa : ∀ name, l₁.held (some name) = l.held (some name))
    (hp : Propagated g.config.svcs svcs l₁ l₂) {svc : SvcSocket} (hm : svc ∈ svcs) (hev : svc.ev = none) :
    l₂.held (some (carry g.config.svcs svc).name) = (carry g.config.svcs svc).lease ∧
      ((carry g.config.svcs svc).ev.isSome → (carry g.config.svcs svc).socket.isSome) := by
  have hl : svc.lease = none := by
    rw [SvcSocket.lease, hev]
    cases svc.socket <;> rfl
  have hb : svc.ev.isSome → svc.socket.isSome := by rw [hev]; exact nofun
  unfold carry
  cases hf : findServiceByName g.config.svcs svc.name with
  | none =>
    have hno := findServiceByName_eq_none.mp hf
    refine ⟨?_, hb⟩
    rw [hp.kept svc.name fun o ho hn => absurd hn (hno o ho), hsa, hl]
    refine h.held_other svc.name fun hn => ?_
    obtain ⟨o, ho, hn⟩ := List.mem_map.mp hn
    exact hno o ho hn
  | some o =>
    obtain ⟨ho, hn⟩ := findServiceByName_eq_some hf
    simp only
    by_cases hs : svc.socket = o.socket
    · have hst : l₂.held (some svc.name) = o.lease := by
        rw [hp.kept svc.name, hsa, ← hn, h.held o ho]
        intro o' ho' hn'
        obtain rfl := eq_of_findServiceByName h.names hf ho' hn'
        exact ⟨svc, hm, hn'.symm, hs⟩
      by_cases hso : o.ev.isSome
      · rw [if_pos ⟨hs, hso⟩]
        refine ⟨?_, fun _ => ?_⟩
        · rw [hst, SvcSocket.lease, SvcSocket.lease, hs]
        · rw [hs, ← h.evs o ho]; exact hso
      · rw [if_neg fun hbo => hso hbo.2]
        refine ⟨?_, hb⟩
        rw [hst, hl, SvcSocket.lease, Option.not_isSome_iff_eq_none.mp hso]
        cases o.socket <;> rfl
    · rw [if_neg fun hbo => hs hbo.1]
      refine ⟨?_, hb⟩
      rw [hl, ← hn]
      refine hp.closed o ho ?_
      rintro ⟨svc', hm', hn', hs'⟩
      have hfo := findServiceByName_of_mem hna hm
      obtain rfl := eq_of_findServiceByName hna hfo hm' (hn'.trans hn)
      exact hs hs'

theorem unbound_carry (h : Listening old g l) (name : String) (socket : Option String) :
    unbound (carry g.config.svcs ⟨name, socket, none⟩) =
      (socket.map fun p => (some name, p)).filter fun a => a ∉ old.claims := by
  cases socket with
  | none =>
    unfold carry
    split
    · split <;> rfl
    · rfl
  | some p =>
    simp only [Option.map_some, Option.filter_some, decide_eq_true_eq, h.mem_claims_some]
    unfold carry
    cases hf : findServiceByName g.config.svcs name with
    | none => simp [unbound]
    | some o =>
      obtain ⟨ho, -⟩ := findServiceByName_eq_some hf
      have hev := h.evs o ho
      by_cases hs : o.socket = some p
      · rw [hs] at hev
        obtain ⟨ev, hev'⟩ := Option.isSome_iff_exists.mp hev
        simp [unbound, hs, hev']
      · simp [unbound, hs, Ne.symm hs]

theorem unbound_carried (h : Listening old g l) :
    (new.load.svcs.map (carry g.config.svcs)).filterMap unbound =
      (new.services.filterMap fun svc => svc.2.map fun p => (some svc.1, p)).filter
        fun a => a ∉ old.claims := by
  rw [List.filter_filterMap]
  unfold ReadSockets.load
  rw [List.map_map, List.filterMap_map]
  congr 1
  funext svc
  exact unbound_carry h svc.1 svc.2

theorem carry_section (old : List SvcSocket) (svc : SvcSocket) :
    ((carry old svc).name, (carry old svc).socket) = (svc.name, svc.socket) := by
  unfold carry
  split
  · split <;> rfl
  · rfl

theorem carried_names (old svcs : List SvcSocket) :
    (svcs.map (carry old)).map SvcSocket.name = svcs.map SvcSocket.name := by
  rw [List.map_map]
  exact List.map_congr_left fun svc _ => congrArg Prod.fst (carry_section old svc)

theorem carried_sections (old : List SvcSocket) (new : ReadSockets) :
    (new.load.svcs.map (carry old)).map (fun svc => (svc.name, svc.socket)) = new.services := by
  rw [List.map_map]
  refine (List.map_congr_left fun svc _ => carry_section old svc).trans ?_
  unfold ReadSockets.load
  rw [List.map_map]
  exact List.map_id _

theorem Bound.names {svcs svcs' : List SvcSocket} {l l' : Leases (Option String) String}
    (h : Bound svcs svcs' l l') : svcs'.map SvcSocket.name = svcs.map SvcSocket.name := by
  have hn := congrArg (List.map Prod.fst) h.sections
  rw [List.map_map, List.map_map] at hn
  exact hn

theorem Listening.unnamed (h : Listening old g l) {l₁ l₂ : Leases (Option String) String}
    {svcs : List SvcSocket} (hs : ∀ name, l₁.held (some name) = l.held (some name))
    (hp : Propagated g.config.svcs svcs l₁ l₂)
    (hno : name ∉ svcs.map SvcSocket.name) : l₂.held (some name) = none := by
  by_cases hold : name ∈ g.config.svcs.map SvcSocket.name
  · obtain ⟨o, ho, rfl⟩ := List.mem_map.mp hold
    refine hp.closed o ho ?_
    rintro ⟨svc, hm, hn, -⟩
    exact hno (hn ▸ List.mem_map_of_mem hm)
  · rw [hp.kept name fun o ho hn => absurd (hn ▸ List.mem_map_of_mem ho) hold, hs]
    exact h.held_other name hold

theorem Listening.initSockets (h : Listening old g l) (new : ReadSockets) :
    ∃ l', Listening new (initSockets new.load (some g)) l' ∧
      l'.last = binders (new.claims.filter fun a => a ∉ old.claims) l.last := by
  let svcs := new.load.svcs.map (carry g.config.svcs)
  obtain ⟨l₁, hb₁, hma, hs, hl⟩ := h.initMain new.socketName
  have hn := new.load_names
  obtain ⟨l₂, hb₂, hp⟩ :=
    propagate_leases h.names h.evs l₁ hn fun o ho => (hs o.name).trans (h.held o ho)
  have hca : ∀ svc ∈ svcs,
      l₂.held (some svc.name) = svc.lease ∧ (svc.ev.isSome → svc.socket.isSome) := by
    intro svc' hm'
    obtain ⟨svc, hm, rfl⟩ := List.mem_map.mp hm'
    have hev : svc.ev = none := by obtain ⟨_, -, rfl⟩ := List.mem_map.mp hm; rfl
    exact h.carried hn hs hp hm hev
  have hc := carried_names g.config.svcs new.load.svcs
  obtain ⟨l₃, hb₃, hb⟩ := initServices_leases l₂ (hc ▸ hn)
    (fun svc hm => (hca svc hm).1) fun svc hm => (hca svc hm).2
  have hi : Daemon.initSockets new.load (some g) =
      ⟨⟨new.socketName, (initServices svcs l₂.bindings).1⟩,
        (Daemon.initMain new.socketName (some g)).1, (initServices svcs l₂.bindings).2⟩ := by
    rw [show svcs = _ from (propagate_fst h.names hn (b := l₁.bindings)).symm, hb₂, hb₁]; rfl
  rw [hi]
  refine ⟨l₃, ⟨hb₃, rfl, ?_, hb.evs, hb.held, ?_, ?_⟩, ?_⟩
  · exact hb.sections.trans (carried_sections g.config.svcs new)
  · exact hb.held_none.trans (hp.held_none.trans hma)
  · intro name hno
    have hne : name ∉ svcs.map SvcSocket.name := fun hm => hno (hb.names ▸ hm)
    rw [hb.held_other name hne]
    exact h.unnamed hs hp (hc ▸ hne)
  · have hcl : new.claims.filter (fun a => a ∉ old.claims) =
        [(none, new.socketName)].filter (fun a => a ∉ old.claims) ++ svcs.filterMap unbound := by
      rw [unbound_carried h, ← List.filter_append]; rfl
    rw [hb.last, hp.last, hl, hcl, binders_append]

theorem Listening.first (c : ReadSockets) :
    ∃ l, Listening c (Daemon.initSockets c.load none) l ∧
      l.last = binders c.claims fun _ => none := by
  have hma : (Leases.empty : Leases (Option String) String).held none = none := rfl
  have hl : ∀ svc ∈ c.load.svcs, svc.ev = none ∧ svc.lease = none := by
    intro svc hm
    obtain ⟨s, -, rfl⟩ := List.mem_map.mp hm
    refine ⟨rfl, ?_⟩
    cases s.2 <;> rfl
  have hba : ∀ name, ((Leases.empty : Leases (Option String) String).acquire c.socketName hma).held
      (some name) = none := fun name => Leases.acquire_held_of_ne _ _ (Option.some_ne_none _)
  obtain ⟨l, hb, hbo⟩ := initServices_leases (Leases.acquire .empty c.socketName hma) c.load_names
    (fun svc hm => (hba svc.name).trans (hl svc hm).2.symm)
    (fun svc hm h => by rw [(hl svc hm).1] at h; cases h)
  refine ⟨l, ⟨hb, rfl, ?_, hbo.evs, hbo.held, ?_, ?_⟩, ?_⟩
  · refine hbo.sections.trans ?_
    unfold ReadSockets.load
    rw [List.map_map]
    exact List.map_id _
  · exact hbo.held_none.trans (Leases.acquire_held_self _ hma)
  · intro name hn
    exact (hbo.held_other name fun hm => hn (hbo.names ▸ hm)).trans (hba name)
  · rw [hbo.last]
    have hc : c.claims = [(none, c.socketName)] ++ c.load.svcs.filterMap unbound := by
      unfold ReadSockets.claims ReadSockets.load
      rw [List.filterMap_map]
      congr 2
      funext svc
      rcases svc with ⟨name, socket⟩
      cases socket <;> rfl
    rw [hc]; rfl

theorem Listening.run (h : Listening c g l) (reloads : List ReadSockets) :
    ∃ l', Listening (reloads.getLastD c)
        (reloads.foldl (fun g c => Daemon.initSockets c.load (some g)) g) l' ∧
      l'.last = lastBinderFrom c l.last reloads := by
  induction reloads generalizing c g l with
  | nil => exact ⟨l, h, rfl⟩
  | cons new rest ih =>
    obtain ⟨l₁, h₁, hl⟩ := h.initSockets new
    obtain ⟨l', h', hl'⟩ := ih h₁
    refine ⟨l', ?_, by rw [hl', hl]; rfl⟩
    rw [List.getLastD_cons]
    exact h'

end

/-! ## Which paths are served -/

def ReadSockets.paths (c : ReadSockets) : List String := c.claims.map Prod.snd

/-- The descriptor listens for the main socket or a service, on the path that is configured. -/
def Gpctx.Listens (g : Gpctx) (p : String) (fd : Nat) : Prop :=
  g.config.socketName = p ∧ g.sockEv = fd ∨ ∃ svc ∈ g.config.svcs, svc.socket = some p ∧ svc.ev = some fd

/-- The last to bind the path is configured to listen on it. -/
def StillHeld (first : ReadSockets) (reloads : List ReadSockets) (p : String) : Prop :=
  ∃ holder, lastBinder first reloads p = some holder ∧ (holder, p) ∈ (reloads.getLastD first).claims

section

variable {c : ReadSockets} {g : Gpctx} {l : Leases (Option String) String}

theorem listening_run (first : ReadSockets) (reloads : List ReadSockets) :
    ∃ l, Listening (reloads.getLastD first) (listenRun first reloads) l ∧
      l.last = lastBinder first reloads := by
  obtain ⟨l₀, h₀, hl⟩ := Listening.first first
  obtain ⟨l, h, hla⟩ := h₀.run reloads
  exact ⟨l, h, by rw [hla, hl]; rfl⟩

theorem Listening.listens (h : Listening c g l) {ho : Option String} {fd : Nat}
    (hh : l.held ho = some (p, fd)) : g.Listens p fd := by
  cases ho with
  | none =>
    rw [h.held_none] at hh
    cases hh
    exact .inl ⟨h.main, rfl⟩
  | some name =>
    by_cases hm : name ∈ g.config.svcs.map SvcSocket.name
    · obtain ⟨svc, hsv, rfl⟩ := List.mem_map.mp hm
      rw [h.held svc hsv, SvcSocket.lease, Option.bind_eq_some_iff] at hh
      obtain ⟨q, hs, hev⟩ := hh
      obtain ⟨ev, hev, hp⟩ := Option.map_eq_some_iff.mp hev
      cases hp
      exact .inr ⟨svc, hsv, hs, hev⟩
    · rw [h.held_other name hm] at hh; cases hh

theorem Listening.serves_iff (h : Listening c g l) (p : String) :
    (∃ fd, g.bindings.Serves p fd) ↔ ∃ ho, l.last p = some ho ∧ (ho, p) ∈ c.claims := by
  simp only [← h.bindings, l.serves_iff, ← h.held_iff]
  exact ⟨fun ⟨fd, ho, hl, hh⟩ => ⟨ho, hl, fd, hh⟩, fun ⟨ho, hl, fd, hh⟩ => ⟨fd, ho, hl, hh⟩⟩

theorem lastBinderFrom_of_distinct {reloads : List ReadSockets}
    (hd : ∀ new ∈ reloads, new.paths.Nodup) :
    ∀ {old : ReadSockets} {last : String → Option (Option String)},
      (∀ a ∈ old.claims, last a.2 = some a.1) →
      ∀ a ∈ (reloads.getLastD old).claims, lastBinderFrom old last reloads a.2 = some a.1 := by
  induction reloads with
  | nil => exact fun hl => hl
  | cons new rest ih =>
    intro old last hl
    rw [List.forall_mem_cons] at hd
    rw [List.getLastD_cons]
    refine ih hd.2 ?_
    rintro ⟨ho, p⟩ hm
    have hno : ((new.claims.filter fun a => a ∉ old.claims).map Prod.snd).Nodup :=
      List.Nodup.sublist (List.Sublist.map _ List.filter_sublist) hd.1
    by_cases hold : (ho, p) ∈ old.claims
    · -- nobody else of the new configuration has the path
      refine (binders_of_notMem fun hp => ?_).trans (hl _ hold)
      obtain ⟨⟨ho', _⟩, hm', rfl⟩ := List.mem_map.mp hp
      obtain ⟨hm', hn⟩ := List.mem_filter.mp hm'
      have heq := List.inj_on_of_nodup_map hd.1 hm hm' rfl
      rw [← heq] at hn
      simp [hold] at hn
    · exact binders_of_mem hno (List.mem_filter.mpr ⟨hm, by simpa using hold⟩)

end

/-- **Listening sockets.**  After any reloads each configured path has one socket, which serves it,
    exactly if every path is still held by its last binder, as is so where no configuration names a
    path twice.  What is served is configured and listened on. -/
theorem listening_sockets (first : ReadSockets) (reloads : List ReadSockets) :
    ((∀ p ∈ (reloads.getLastD first).paths, ∃ fd, (listenRun first reloads).Listens p fd ∧
        ∀ fd', (listenRun first reloads).bindings.Serves p fd' ↔ fd' = fd) ↔
      ∀ p ∈ (reloads.getLastD first).paths, StillHeld first reloads p) ∧
    (∀ p fd, (listenRun first reloads).bindings.Serves p fd →
      p ∈ (reloads.getLastD first).paths ∧ (listenRun first reloads).Listens p fd) ∧
    ((∀ c ∈ first :: reloads, c.paths.Nodup) →
      ∀ p ∈ (reloads.getLastD first).paths, StillHeld first reloads p) := by
  obtain ⟨l, h, hl⟩ := listening_run first reloads
  have hse : ∀ p fd, (listenRun first reloads).bindings.Serves p fd →
      p ∈ (reloads.getLastD first).paths ∧ (listenRun first reloads).Listens p fd := by
    intro p fd hs
    rw [← h.bindings, l.serves_iff] at hs
    obtain ⟨ho, -, hh⟩ := hs
    exact ⟨List.mem_map.mpr ⟨_, h.held_iff.mp ⟨fd, hh⟩, rfl⟩, h.listens hh⟩
  have hst : ∀ p, (∃ fd, (listenRun first reloads).bindings.Serves p fd) ↔
      StillHeld first reloads p := by
    intro p
    rw [h.serves_iff, hl]; rfl
  refine ⟨forall₂_congr fun p hp => ?_, hse, ?_⟩
  · rw [← hst]
    constructor
    · rintro ⟨fd, -, hfd⟩; exact ⟨fd, (hfd fd).mpr rfl⟩
    · rintro ⟨fd, hs⟩
      refine ⟨fd, (hse p fd hs).2, fun fd' => ⟨fun h' => h'.unique hs, ?_⟩⟩
      rintro rfl
      exact hs
  · intro hd p hp
    rw [List.forall_mem_cons] at hd
    obtain ⟨⟨ho, _⟩, hm, rfl⟩ := List.mem_map.mp hp
    refine ⟨ho, ?_, hm⟩
    exact lastBinderFrom_of_distinct hd.2
      (fun a ha => binders_of_mem hd.1 ha) (ho, _) hm

/-- Two services share a path, and the one that bound it last is removed. -/
theorem shared_path_lost :
    let first : ReadSockets := ⟨"/main", [("a", some "/x"), ("b", some "/x")], by decide⟩
    let new : ReadSockets := ⟨"/main", [("a", some "/x")], by decide⟩
    "/x" ∈ new.paths ∧ (listenRun first []).bindings.Serves "/x" 2 ∧
      ∀ fd, ¬ (listenRun first [new]).bindings.Serves "/x" fd := by
  intro first new
  refine ⟨by decide, by decide, ?_⟩
  rintro fd ⟨hf, hl⟩
  cases hf
  revert hl
  decide

end GssProxy.Daemon
