import GssProxy.Server.Reload
import GssProxy.System.Bindings

/-!
# Listening sockets of the Rust daemon

On a reload the daemon aborts the accept loops of paths that are not wanted any more, and spawns one for
every wanted path that is not a key of its map.  A loop that ends after an error of `accept` stays in the
map, and an aborted one goes on until the runtime drops it.  The map is gone through in any order.

* `listeners_reconciled`: a reload leaves a loop on each wanted path, unless one ended, and on no
  other.
-/

namespace GssProxy.Server

open GssProxy.System

/-! ## State -/

/-- The accept loops of the daemon. -/
structure Listeners where
  config : Config
  handles : List (String × Nat)
  aborted : List Nat
  bindings : Bindings String

def Listeners.stop (s : Listeners) (path : String) : Listeners :=
  match s.handles.lookup path with
  | some fd =>
    { s with
      handles := s.handles.filter fun h => h.1 ≠ path
      aborted := s.aborted ++ [fd]
      bindings := s.bindings.unlink path }
  | none => s

def Listeners.spawn (s : Listeners) (path : String) : Listeners :=
  if path ∈ s.handles.map Prod.fst then s
  else
    let bindings := s.bindings.unlink path
    { s with
      handles := s.handles ++ [(path, bindings.next)]
      bindings := bindings.bind path }

def Listeners.stale (s : Listeners) : List String :=
  (s.handles.map Prod.fst).filter fun path => path ∉ s.config.desired

def Listeners.reconcile (s : Listeners) (stale desired : List String) : Listeners :=
  desired.foldl Listeners.spawn (stale.foldl Listeners.stop s)

inductive ListenEvent where
  | hup (parsed : Option (List Service)) (stale desired : List String)
  | accepted (fd : Nat)
  | acceptError (fd : Nat)
  | dropped (fd : Nat)
  deriving DecidableEq

/-- The loop of `run`, and the accept loops. -/
def listenStep (s : Listeners) : ListenEvent → Option Listeners
  | .hup parsed stale desired =>
    match parsed.bind (Config.ofServices s.config.socketName) with
    | none => some s
    | some config =>
      let s := { s with config }
      if stale.isPerm s.stale ∧ desired.isPerm config.desired then some (s.reconcile stale desired)
      else none
  | .accepted fd => if s.bindings.live fd then some s else none
  | .acceptError fd =>
    if s.bindings.live fd then some { s with bindings := s.bindings.close fd } else none
  | .dropped fd => if fd ∈ s.aborted then some { s with bindings := s.bindings.close fd } else none

def Listeners.start (config : Config) (desired : List String) : Listeners :=
  Listeners.reconcile ⟨config, [], [], .empty⟩ [] desired

/-! ## The map and the loops -/

structure Recorded (es : List ListenEvent) (s : Listeners) : Prop where
  keys : (s.handles.map Prod.fst).Nodup
  inj : ∀ {p q fd}, (p, fd) ∈ s.handles → (q, fd) ∈ s.handles → p = q
  lt : ∀ {p fd}, (p, fd) ∈ s.handles → fd < s.bindings.next
  files : ∀ {p fd}, (p, fd) ∈ s.handles → s.bindings.files p = some fd
  served : ∀ {p fd}, s.bindings.Serves p fd → (p, fd) ∈ s.handles
  live : ∀ {p fd}, (p, fd) ∈ s.handles → (s.bindings.live fd = true ↔ .acceptError fd ∉ es)
  aborted : ∀ {p fd}, fd ∈ s.aborted → fd < s.bindings.next ∧ (p, fd) ∉ s.handles
  errors : ∀ {fd}, .acceptError fd ∈ es → fd < s.bindings.next

section

variable {es : List ListenEvent} {s s' : Listeners} {path p : String} {fd : Nat}

theorem mem_of_lookup {l : List (String × Nat)} (h : l.lookup path = some fd) : (path, fd) ∈ l := by
  obtain ⟨l₁, l₂, rfl, -⟩ := List.lookup_eq_some_iff.mp h
  simp

theorem Recorded.stop (h : Recorded es s) (path : String) : Recorded es (s.stop path) := by
  unfold Listeners.stop
  split
  · rename_i fd hl
    have hm := mem_of_lookup hl
    have hold : ∀ {q fd'}, (q, fd') ∈ s.handles.filter (fun h => h.1 ≠ path) →
        q ≠ path ∧ (q, fd') ∈ s.handles := by
      intro q fd' hq
      obtain ⟨hq, hne⟩ := List.mem_filter.mp hq
      exact ⟨by simpa using hne, hq⟩
    refine ⟨?_, ?_, ?_, ?_, ?_, ?_, ?_, h.errors⟩
    · exact List.Nodup.sublist (List.Sublist.map _ List.filter_sublist) h.keys
    · exact fun hp hq => h.inj (hold hp).2 (hold hq).2
    · exact fun hp => h.lt (hold hp).2
    · intro q fd' hq
      obtain ⟨hne, hq⟩ := hold hq
      exact (Function.update_of_ne hne ..).trans (h.files hq)
    · rintro q fd' ⟨hf, hli⟩
      have hne : q ≠ path := by
        rintro rfl
        simp [Bindings.unlink] at hf
      have hf' : s.bindings.files q = some fd' := (Function.update_of_ne hne ..).symm.trans hf
      exact List.mem_filter.mpr ⟨h.served ⟨hf', hli⟩, by simpa using hne⟩
    · exact fun hp => h.live (hold hp).2
    · intro q fd' hfd
      rcases List.mem_append.mp hfd with hfd | hfd
      · exact ⟨(h.aborted (p := q) hfd).1, fun hq => (h.aborted hfd).2 (hold hq).2⟩
      · obtain rfl := List.mem_singleton.mp hfd
        exact ⟨h.lt hm, fun hq => (hold hq).1 (h.inj (hold hq).2 hm)⟩
  · exact h

theorem Recorded.spawn (h : Recorded es s) (path : String) : Recorded es (s.spawn path) := by
  unfold Listeners.spawn
  split
  · exact h
  rename_i hn
  have hc : ∀ {q fd'}, (q, fd') ∈ s.handles ++ [(path, s.bindings.next)] →
      (q, fd') ∈ s.handles ∧ q ≠ path ∨ q = path ∧ fd' = s.bindings.next := by
    intro q fd' hq
    rcases List.mem_append.mp hq with hold | hl
    · refine .inl ⟨hold, ?_⟩
      rintro rfl
      exact hn (List.mem_map_of_mem hold)
    · rw [List.mem_singleton, Prod.mk.injEq] at hl; exact .inr hl
  have hse : (path, s.bindings.next) ∈ s.handles ++ [(path, s.bindings.next)] :=
    List.mem_append_right _ (List.mem_singleton_self _)
  have hfi : ∀ {q}, q ≠ path →
      ((s.bindings.unlink path).bind path).files q = s.bindings.files q := by
    intro q hne
    rw [Bindings.bind_files_of_ne hne]
    exact Function.update_of_ne hne ..
  have hli : ∀ {fd'}, fd' < s.bindings.next →
      ((s.bindings.unlink path).bind path).live fd' = s.bindings.live fd' :=
    fun hlt => Bindings.bind_live_of_lt (b := s.bindings.unlink path) hlt
  refine ⟨?_, ?_, ?_, ?_, ?_, ?_, ?_, fun he => Nat.lt_succ_of_lt (h.errors he)⟩
  · rw [List.map_append]
    exact h.keys.append (List.nodup_singleton _) (by simpa using hn)
  · intro q r fd' hq hr
    obtain ⟨hq', -⟩ | ⟨rfl, rfl⟩ := hc hq
    · obtain ⟨hr', -⟩ | ⟨rfl, rfl⟩ := hc hr
      · exact h.inj hq' hr'
      · exact absurd (h.lt hq') (Nat.lt_irrefl _)
    · obtain ⟨hr', -⟩ | ⟨rfl, -⟩ := hc hr
      · exact absurd (h.lt hr') (Nat.lt_irrefl _)
      · rfl
  · intro q fd' hq
    obtain ⟨hq, -⟩ | ⟨-, rfl⟩ := hc hq
    · exact Nat.lt_succ_of_lt (h.lt hq)
    · exact Nat.lt_succ_self _
  · intro q fd' hq
    obtain ⟨hq, hne⟩ | ⟨rfl, rfl⟩ := hc hq
    · rw [hfi hne, h.files hq]
    · exact Bindings.bind_files_self
  · rintro q fd' ⟨hf, hs⟩
    by_cases hne : q = path
    · subst hne
      rw [Bindings.bind_files_self] at hf
      cases hf
      exact hse
    · rw [hfi hne] at hf
      rw [hli (s.bindings.files_lt q fd' hf)] at hs
      exact List.mem_append_left _ (h.served ⟨hf, hs⟩)
  · intro q fd' hq
    obtain ⟨hq, -⟩ | ⟨-, rfl⟩ := hc hq
    · rw [hli (h.lt hq), h.live hq]
    · -- an error can only come from a loop that was spawned before
      refine iff_of_true Bindings.bind_live_next fun he => ?_
      exact absurd (h.errors he) (Nat.lt_irrefl _)
  · intro q fd' hfd
    obtain ⟨hlt, -⟩ := h.aborted (p := q) hfd
    refine ⟨Nat.lt_succ_of_lt hlt, fun hq => ?_⟩
    obtain ⟨hq, -⟩ | ⟨-, rfl⟩ := hc hq
    · exact (h.aborted hfd).2 hq
    · exact absurd hlt (Nat.lt_irrefl _)

theorem Recorded.reconcile (h : Recorded es s) (stale desired : List String) :
    Recorded es (s.reconcile stale desired) := by
  have hst : ∀ {s : Listeners}, Recorded es s → Recorded es (stale.foldl Listeners.stop s) := by
    induction stale with
    | nil => exact fun h => h
    | cons path rest ih => exact fun h => ih (h.stop path)
  have hs : ∀ {s : Listeners}, Recorded es s → Recorded es (desired.foldl Listeners.spawn s) := by
    induction desired with
    | nil => exact fun h => h
    | cons path rest ih => exact fun h => ih (h.spawn path)
  exact hs (hst h)

theorem Recorded.withConfig (h : Recorded es s) (config : Config) : Recorded es { s with config } :=
  ⟨h.keys, h.inj, h.lt, h.files, h.served, h.live, h.aborted, h.errors⟩

theorem Recorded.silent {e : ListenEvent} (h : Recorded es s) (he : ∀ fd, e ≠ .acceptError fd) :
    Recorded (es ++ [e]) s := by
  have hm : ∀ fd, ListenEvent.acceptError fd ∈ es ++ [e] ↔ .acceptError fd ∈ es := by
    intro fd; simp [List.mem_append, (he fd).symm]
  refine ⟨h.keys, h.inj, h.lt, h.files, h.served, ?_, h.aborted, ?_⟩
  · intro q fd' hq
    rw [hm, h.live hq]
  · exact fun her => h.errors ((hm _).mp her)

theorem Recorded.close {es' : List ListenEvent} (h : Recorded es s)
    (hl : ∀ {p fd'}, (p, fd') ∈ s.handles →
      ((s.bindings.close fd).live fd' = true ↔ .acceptError fd' ∉ es'))
    (he : ∀ {fd'}, .acceptError fd' ∈ es' → fd' < s.bindings.next) :
    Recorded es' { s with bindings := s.bindings.close fd } := by
  refine ⟨h.keys, h.inj, h.lt, h.files, ?_, hl, h.aborted, he⟩
  rintro q fd' ⟨hf, hs⟩
  exact h.served ⟨hf, (Bindings.live_of_close hs).2⟩

theorem Recorded.step {e : ListenEvent} (h : Recorded es s) (hs : listenStep s e = some s') :
    Recorded (es ++ [e]) s' := by
  cases e with
  | hup parsed stale desired =>
    have hn : ∀ fd, ListenEvent.hup parsed stale desired ≠ .acceptError fd := nofun
    simp only [listenStep] at hs
    split at hs
    · cases hs; exact h.silent hn
    split at hs
    · cases hs
      exact ((h.withConfig _).reconcile stale desired).silent hn
    · cases hs
  | accepted fd =>
    simp only [listenStep] at hs
    split at hs
    · cases hs; exact h.silent nofun
    · cases hs
  | acceptError fd =>
    simp only [listenStep] at hs
    split at hs
    · rename_i hfd
      cases hs
      refine h.close ?_ ?_
      · intro q fd' hq
        by_cases hsa : fd' = fd
        · subst hsa; simp
        · rw [Bindings.close_live_of_ne hsa, h.live hq]; simp [hsa]
      · intro fd' he
        rcases List.mem_append.mp he with he | he
        · exact h.errors he
        · cases List.mem_singleton.mp he; exact s.bindings.live_lt fd hfd
    · cases hs
  | dropped fd =>
    simp only [listenStep] at hs
    split at hs
    · rename_i hfd
      cases hs
      refine (h.close ?_ h.errors).silent nofun
      intro q fd' hq
      have hne : fd' ≠ fd := by rintro rfl; exact (h.aborted hfd).2 hq
      rw [Bindings.close_live_of_ne hne, h.live hq]
    · cases hs

/-! ## A reload -/

theorem mem_stop (path : String) : (p, fd) ∈ (s.stop path).handles ↔ (p, fd) ∈ s.handles ∧ p ≠ path := by
  unfold Listeners.stop
  cases hl : s.handles.lookup path with
  | some fd' => simp
  | none =>
    refine ⟨fun hm => ⟨hm, ?_⟩, fun hm => hm.1⟩
    rintro rfl
    have hn := List.lookup_eq_none_iff.mp hl (p, fd) hm
    simp at hn

theorem mem_stops (stale : List String) :
    ∀ {s : Listeners}, (p, fd) ∈ (stale.foldl Listeners.stop s).handles ↔
      (p, fd) ∈ s.handles ∧ p ∉ stale := by
  induction stale with
  | nil => simp
  | cons path rest ih =>
    intro s
    rw [List.foldl_cons, ih, mem_stop, List.mem_cons, not_or, and_assoc]

theorem stops_config (stale : List String) :
    ∀ {s : Listeners}, (stale.foldl Listeners.stop s).config = s.config := by
  induction stale with
  | nil => exact rfl
  | cons path rest ih =>
    intro s
    rw [List.foldl_cons, ih]
    unfold Listeners.stop
    split <;> rfl

theorem spawn_spec (path : String) :
    (s.spawn path).config = s.config ∧ s.bindings.next ≤ (s.spawn path).bindings.next ∧
    (∀ h ∈ s.handles, h ∈ (s.spawn path).handles) ∧ path ∈ (s.spawn path).handles.map Prod.fst ∧
    ∀ {p fd}, (p, fd) ∈ (s.spawn path).handles →
      (p, fd) ∈ s.handles ∨ p = path ∧ s.bindings.next ≤ fd := by
  unfold Listeners.spawn
  split
  · rename_i hk
    exact ⟨rfl, Nat.le_refl _, fun _ hm => hm, hk, .inl⟩
  refine ⟨rfl, Nat.le_succ _, fun _ hm => List.mem_append_left _ hm, by simp, ?_⟩
  intro p fd hm
  rcases List.mem_append.mp hm with hold | hn
  · exact .inl hold
  · rw [List.mem_singleton, Prod.mk.injEq] at hn; exact .inr ⟨hn.1, Nat.le_of_eq hn.2.symm⟩

theorem spawns_spec (desired : List String) :
    ∀ {s : Listeners}, let s' := desired.foldl Listeners.spawn s
      s'.config = s.config ∧ (∀ h ∈ s.handles, h ∈ s'.handles) ∧
      (∀ p ∈ desired, p ∈ s'.handles.map Prod.fst) ∧
      ∀ {p fd}, (p, fd) ∈ s'.handles → (p, fd) ∈ s.handles ∨ p ∈ desired ∧ s.bindings.next ≤ fd := by
  induction desired with
  | nil => exact ⟨rfl, fun _ hm => hm, nofun, .inl⟩
  | cons path rest ih =>
    intro s
    obtain ⟨hc, hne, hk, hky, hn⟩ := spawn_spec (s := s) path
    obtain ⟨hc', hk', hke', hn'⟩ := ih (s := s.spawn path)
    refine ⟨hc'.trans hc, fun h hm => hk' h (hk h hm), ?_, ?_⟩
    · refine List.forall_mem_cons.mpr ⟨?_, hke'⟩
      obtain ⟨h, hm, rfl⟩ := List.mem_map.mp hky
      exact List.mem_map_of_mem (hk' h hm)
    · intro p fd hm
      rcases hn' hm with hold | ⟨hr, hle⟩
      · rcases hn hold with hold | ⟨rfl, hle⟩
        · exact .inl hold
        · exact .inr ⟨List.mem_cons_self .., hle⟩
      · exact .inr ⟨List.mem_cons_of_mem _ hr, Nat.le_trans hne hle⟩

theorem Recorded.unique (h : Recorded es s) {fd' : Nat} (hm : (p, fd) ∈ s.handles)
    (hm' : (p, fd') ∈ s.handles) : fd = fd' := by
  have heq := List.inj_on_of_nodup_map h.keys hm hm' rfl
  exact (Prod.mk.inj heq).2

structure Reconciled (s s' : Listeners) : Prop where
  keeps : ∀ {p fd}, (p, fd) ∈ s.handles → p ∈ s'.config.desired → (p, fd) ∈ s'.handles
  has : ∀ p ∈ s'.config.desired, ∃ fd, (p, fd) ∈ s'.handles
  cases : ∀ {p fd}, (p, fd) ∈ s'.handles →
    p ∈ s'.config.desired ∧ ((p, fd) ∈ s.handles ∨ s.bindings.next ≤ fd)

theorem stops_next (stale : List String) :
    ∀ {s : Listeners}, (stale.foldl Listeners.stop s).bindings.next = s.bindings.next := by
  induction stale with
  | nil => exact rfl
  | cons path rest ih =>
    intro s
    rw [List.foldl_cons, ih]
    unfold Listeners.stop
    split <;> rfl

theorem reconciled {stale desired : List String} (hs : ∀ p, p ∈ stale ↔ p ∈ s.stale)
    (hd : ∀ p, p ∈ desired ↔ p ∈ s.config.desired) : Reconciled s (s.reconcile stale desired) := by
  obtain ⟨hc, hk, hke, hn⟩ := spawns_spec desired (s := stale.foldl Listeners.stop s)
  rw [stops_config] at hc
  have hc' : (s.reconcile stale desired).config = s.config := hc
  refine ⟨?_, ?_, ?_⟩
  · intro p fd hm hw
    rw [hc'] at hw
    refine hk (p, fd) ((mem_stops stale).mpr ⟨hm, fun hp => ?_⟩)
    rw [hs, Listeners.stale] at hp
    simp [hw] at hp
  · intro p hw
    rw [hc', ← hd] at hw
    obtain ⟨⟨_, fd⟩, hm, rfl⟩ := List.mem_map.mp (hke p hw)
    exact ⟨fd, hm⟩
  · intro p fd hm
    rw [hc']
    rcases hn hm with hold | ⟨hp, hle⟩
    · obtain ⟨hold, hp⟩ := (mem_stops stale).mp hold
      refine ⟨?_, .inl hold⟩
      by_contra hno
      rw [hs, Listeners.stale, List.mem_filter] at hp
      exact hp ⟨List.mem_map_of_mem hold, by simpa using hno⟩
    · exact ⟨(hd p).mp hp, .inr (by rwa [stops_next] at hle)⟩

theorem reconcile_config (stale desired : List String) :
    (s.reconcile stale desired).config = s.config :=
  (spawns_spec desired).1.trans (stops_config stale)

theorem listenStep_socketName {e : ListenEvent} (hs : listenStep s e = some s') :
    s'.config.socketName = s.config.socketName := by
  cases e with
  | hup =>
    simp only [listenStep] at hs
    split at hs
    · cases hs; rfl
    rename_i config hc
    split at hs
    · cases hs
      rw [reconcile_config]
      obtain ⟨services, -, hse⟩ := Option.bind_eq_some_iff.mp hc
      unfold Config.ofServices at hse
      split at hse
      · cases hse
      · cases hse; rfl
    · cases hs
  | accepted _ | acceptError _ =>
    simp only [listenStep] at hs
    split at hs <;> cases hs
    rfl
  | dropped fd =>
    simp only [listenStep] at hs
    split at hs <;> cases hs
    rfl

theorem recorded_empty (config : Config) : Recorded [] ⟨config, [], [], .empty⟩ where
  keys := List.nodup_nil
  inj := nofun
  lt := nofun
  files := nofun
  served hs := nomatch hs.1
  live := nofun
  aborted := nofun
  errors := nofun

theorem recorded_run {s₀ : Listeners} (h₀ : Recorded [] s₀) (hr : exec listenStep s₀ es = some s) :
    Recorded es s ∧ s.config.socketName = s₀.config.socketName :=
  exec_invariant (I := fun es s => Recorded es s ∧ s.config.socketName = s₀.config.socketName)
    ⟨h₀, rfl⟩
    (fun _ h hs => ⟨h.1.step hs, (listenStep_socketName hs).trans h.2⟩) hr

theorem Recorded.serves_iff (h : Recorded es s) (hm : (p, fd) ∈ s.handles) :
    s.bindings.Serves p fd ↔ .acceptError fd ∉ es :=
  ⟨fun hs => (h.live hm).mp hs.2, fun he => ⟨h.files hm, (h.live hm).mpr he⟩⟩

theorem Reconciled.served_iff (hr : Reconciled s s') (h : Recorded es s) (h' : Recorded es s') :
    (∀ p ∈ s'.config.desired, ∃ fd, s'.bindings.Serves p fd) ↔
      ∀ p fd, p ∈ s'.config.desired → (p, fd) ∈ s.handles → .acceptError fd ∉ es := by
  constructor
  · intro ha p fd hp hm
    obtain ⟨fd', hs⟩ := ha p hp
    obtain rfl := h'.unique (hr.keeps hm hp) (h'.served hs)
    exact (h'.serves_iff (hr.keeps hm hp)).mp hs
  · intro hn p hp
    obtain ⟨fd, hm⟩ := hr.has p hp
    refine ⟨fd, (h'.serves_iff hm).mpr ?_⟩
    rcases (hr.cases hm).2 with hold | hne
    · exact hn p fd hp hold
    · -- the loop was not there when an error happened
      intro he
      exact absurd (h.errors he) (Nat.not_lt.mpr hne)

end

/-- **Listeners after a reload.**  A reload leaves a loop on each configured path exactly if none
    that was kept for one of them had ended with an error, and on no other path; a loop that serves
    a configured path stays. -/
theorem listeners_reconciled (config₀ : Config) (order₀ : List String) (es : List ListenEvent)
    (s s' : Listeners) (services : List Service) (stale desired : List String)
    (horder : order₀.Perm config₀.desired)
    (hrun : exec listenStep (.start config₀ order₀) es = some s) (hservices : services ≠ [])
    (hreload : listenStep s (.hup (some services) stale desired) = some s') :
    (∀ p, (∃ fd, (Listeners.start config₀ order₀).bindings.Serves p fd) ↔ p ∈ config₀.desired) ∧
    s'.config = ⟨config₀.socketName, services⟩ ∧
    ((∀ p ∈ s'.config.desired, ∃ fd, s'.bindings.Serves p fd) ↔
      ∀ p fd, p ∈ s'.config.desired → (p, fd) ∈ s.handles → .acceptError fd ∉ es) ∧
    (∀ p fd, s'.bindings.Serves p fd → p ∈ s'.config.desired) ∧
    (∀ p fd, s.bindings.Serves p fd → p ∈ s'.config.desired → s'.bindings.Serves p fd) := by
  have hst : Recorded [] (Listeners.start config₀ order₀) :=
    (recorded_empty config₀).reconcile [] order₀
  obtain ⟨h, hma⟩ := recorded_run hst hrun
  have hf : Reconciled ⟨config₀, [], [], .empty⟩ (Listeners.start config₀ order₀) :=
    reconciled (fun p => Iff.rfl) fun p => horder.mem_iff
  have hc : (Listeners.start config₀ order₀).config = config₀ := reconcile_config [] order₀
  have hp : Config.ofServices s.config.socketName services =
      some ⟨config₀.socketName, services⟩ := by
    rw [hma, hc, Config.ofServices, if_neg (by simpa using hservices)]
  simp only [listenStep, Option.bind_some, hp] at hreload
  split at hreload
  · rename_i hpe
    cases hreload
    obtain ⟨hsa, hd⟩ := hpe
    have h₁ := h.withConfig ⟨config₀.socketName, services⟩
    have h₂ := h₁.reconcile stale desired
    have hr := reconciled (s := { s with config := ⟨config₀.socketName, services⟩ })
      (fun p => (List.isPerm_iff.mp hsa).mem_iff) fun p => (List.isPerm_iff.mp hd).mem_iff
    refine ⟨?_, reconcile_config stale desired, hr.served_iff h₁ h₂, ?_, ?_⟩
    · intro p
      have ha := (hf.served_iff (recorded_empty config₀) hst).mpr nofun
      rw [hc] at ha
      refine ⟨?_, ha p⟩
      rintro ⟨fd, hs⟩
      have hw := (hf.cases (hst.served hs)).1
      rwa [hc] at hw
    · exact fun p fd hs => (hr.cases (h₂.served hs)).1
    · intro p fd hs hw
      have hm := h.served hs
      exact (h₂.serves_iff (hr.keeps hm hw)).mpr ((h.serves_iff hm).mp hs)
  · cases hreload

def socketService (name socket : String) : Service :=
  { (default : Service) with name := name, socket := some socket }

theorem sockets_moved : ∃ s s',
    exec listenStep (.start ⟨"/main", [socketService "nfs" "/nfs"]⟩ ["/main", "/nfs"]) [.accepted 1] =
      some s ∧
    listenStep s (.hup (some [socketService "http" "/http"]) ["/nfs"] ["/http", "/main"]) = some s' ∧
    ∀ p ∈ ["/main", "/http"], ∃ fd, s'.bindings.Serves p fd := by
  refine ⟨_, _, rfl, rfl, ?_⟩
  exact (listeners_reconciled ⟨"/main", [socketService "nfs" "/nfs"]⟩ ["/main", "/nfs"] [.accepted 1]
    _ _ [socketService "http" "/http"] ["/nfs"] ["/http", "/main"] (by decide) rfl nofun rfl).2.2.1.mpr
    (fun _ _ _ _ => by simp)

/-- The accept loop of the main socket ends, and a reload does not bring it back. -/
theorem main_socket_lost : ∃ s s',
    exec listenStep (.start ⟨"/main", [socketService "nfs" "/nfs"]⟩ ["/main", "/nfs"])
      [.acceptError 0] = some s ∧
    listenStep s (.hup (some [socketService "nfs" "/nfs"]) [] ["/main", "/nfs"]) = some s' ∧
    "/main" ∈ s'.config.desired ∧ ∀ fd, ¬ s'.bindings.Serves "/main" fd := by
  refine ⟨_, _, rfl, rfl, by decide, ?_⟩
  rintro fd ⟨hf, hl⟩
  cases (show some 0 = some fd from hf)
  revert hl
  decide

end GssProxy.Server
