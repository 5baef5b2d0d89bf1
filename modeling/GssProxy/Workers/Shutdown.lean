import GssProxy.Workers.Conservation

/-!
# Stopping the worker pool

Once `gp_workers_free` has set `shutdown`, threads are taken off the lists one by one, signalled and
joined.  One that tested `shutdown` before it was set, and does not wait yet, misses its signal.

* `workers_freed`: unless one does, all threads end and are joined.
-/

namespace GssProxy.Workers

open Function GssProxy.System

/-- Where `gp_worker_main` stands. -/
inductive Stage where
  | top | entering | asleep | roused | taken | handled | signalling | exited
  deriving DecidableEq, Repr

/-- With `shutdown` set.  There may be a query in the slot, and a wait may end without a signal. -/
def gpWorkerMain (query spurious : Bool) : Stage → Option Stage
  | .top | .roused => some .exited
  | .entering => some (if query then .taken else .asleep)
  | .asleep => if spurious then some .roused else none
  | .taken => some .handled
  | .handled => some .signalling
  | .signalling => some .top
  | .exited => none

/-- `left` is the free list and behind it the busy list, as the two loops take them. -/
structure Stopping (n : Nat) where
  left : List (Fin n)
  joining : Option (Fin n)
  stage : Fin n → Stage
  freed : List (Fin n)

/-- A step of `gp_workers_free`, or of a thread. -/
inductive Move (n : Nat) where
  | main
  | thread (t : Fin n) (spurious : Bool)

namespace Stopping

variable {n : Nat}

def goto (s : Stopping n) (t : Fin n) (stage : Stage) : Stopping n :=
  { s with stage := update s.stage t stage }

def gpWorkersFree (s : Stopping n) : Option (Stopping n) :=
  match s.joining, s.left with
  | some t, _ =>
    if s.stage t = .exited then some { s with joining := none, freed := t :: s.freed } else none
  | none, t :: rest =>
    -- a signal that nobody waits for is gone
    let stage := if s.stage t = .asleep then .roused else s.stage t
    some { s.goto t stage with left := rest, joining := some t }
  | none, [] => none

def step (query : Fin n → Bool) (s : Stopping n) : Move n → Option (Stopping n)
  | .main => s.gpWorkersFree
  | .thread t spurious => (gpWorkerMain (query t) spurious (s.stage t)).map (s.goto t)

/-- The signal finds a thread that does not wait yet, and that will. -/
def Missed (query : Fin n → Bool) (s : Stopping n) (m : Move n) : Prop :=
  m = .main ∧ s.joining = none ∧ ∃ t ∈ s.left.head?, s.stage t = .entering ∧ query t = false

/-- The pool when `gp_workers_free` is called. -/
def start (s : Pool n) (stage : Fin n → Stage) : Stopping n :=
  ⟨s.freeList ++ s.busyList, none, stage, []⟩

/-! ## What a step does -/

structure Ok (s : Stopping n) : Prop where
  places : ∀ t, s.left.count t + s.joining.toList.count t + s.freed.count t = 1
  ended : ∀ t ∈ s.freed, s.stage t = .exited

def stageWork : Stage → Nat
  | .exited => 0
  | .top | .roused => 1
  | .asleep | .signalling => 2
  | .handled => 3
  | .taken => 4
  | .entering => 5

def work (s : Stopping n) : Nat :=
  2 * s.left.length + s.joining.toList.length + ∑ t, stageWork (s.stage t)

/-- The thread to be joined sleeps, or is about to. -/
def Hangs (query : Fin n → Bool) (s : Stopping n) : Prop :=
  ∃ t, s.joining = some t ∧ (s.stage t = .asleep ∨ s.stage t = .entering ∧ query t = false)

variable {query : Fin n → Bool} {s s' : Stopping n} {m : Move n} {t : Fin n} {stage : Stage}

@[grind =] theorem goto_stage (t' : Fin n) :
    (s.goto t stage).stage t' = if t' = t then stage else s.stage t' := update_apply ..

theorem work_goto (s : Stopping n) (t : Fin n) (stage : Stage) :
    (s.goto t stage).work + stageWork (s.stage t) = s.work + stageWork stage := by
  have hs := sum_weight_update stageWork s.stage t stage
  simp only [work, goto]
  omega

theorem gpWorkerMain_spec {q spurious : Bool} {stage' : Stage}
    (h : gpWorkerMain q spurious stage = some stage') :
    stage ≠ .exited ∧ stageWork stage' < stageWork stage ∧ stage' ≠ .entering ∧
      (stage' = .asleep → stage = .entering ∧ q = false) := by
  cases stage <;> cases q <;> cases spurious <;> cases h <;> decide

theorem step_spec (hst : s.step query m = some s') :
    (Ok s → Ok s') ∧ s'.work < s.work ∧ (Hangs query s' → Hangs query s ∨ Missed query s m) := by
  cases m with
  | thread t spurious =>
    obtain ⟨stage, hn, rfl⟩ := Option.map_eq_some_iff.mp hst
    obtain ⟨hli, hle, hen, ha⟩ := gpWorkerMain_spec hn
    have hw := s.work_goto t stage
    refine ⟨fun h => ⟨h.places, fun t' ht' => by grind [h.ended t' ht']⟩, by omega, ?_⟩
    rintro ⟨t', hj, hat⟩
    exact .inl ⟨t', hj, by grind⟩
  | main =>
    change s.gpWorkersFree = some s' at hst
    unfold gpWorkersFree at hst
    split at hst
    · rename_i t hj
      obtain ⟨hex, hs⟩ := Option.ite_none_right_eq_some.mp hst
      cases hs
      refine ⟨fun ⟨hp, he⟩ => ⟨?_, by grind⟩, by simp [work, hj], nofun⟩
      grind
    · rename_i t rest hj hl
      cases hst
      have hw := s.work_goto t (if s.stage t = .asleep then .roused else s.stage t)
      refine ⟨fun ⟨hp, he⟩ => ⟨?_, ?_⟩, ?_, ?_⟩
      · grind [goto]
      · grind [goto]
      · grind [work, goto, stageWork]
      · rintro ⟨t', hj', hat⟩
        exact .inr ⟨rfl, hj, t, by simp [hl], by grind⟩
    · cases hst

/-! ## Runs -/

theorem stuck (hm : s.step query .main = none) (ht : ∀ t, s.step query (.thread t false) = none) :
    s.left = [] ∧ s.joining = none ∨ Hangs query s := by
  change s.gpWorkersFree = none at hm
  unfold gpWorkersFree at hm
  split at hm
  · rename_i t hj
    have hn := Option.map_eq_none_iff.mp (ht t)
    refine .inr ⟨t, hj, ?_⟩
    cases hold : s.stage t <;> simp_all [gpWorkerMain]
  · cases hm
  · exact .inl ⟨by assumption, by assumption⟩

variable {s₀ : Pool n} {stages : Fin n → Stage} {moves : List (Move n)}

theorem run_spec (hpo : Reachable s₀) (hr : exec (step query) (start s₀ stages) moves = some s) :
    Ok s ∧ moves.length + s.work ≤ (start s₀ stages).work ∧ (Hangs query s →
      Happened (step query) (start s₀ stages) (fun _ => Missed query) moves) := by
  have hp : ∀ t, (start s₀ stages).left.count t + 0 + 0 = 1 := by
    simpa [start] using (threadsOk hpo).listed
  refine exec_invariant (I := fun moves s => Ok s ∧ moves.length + s.work ≤ _ ∧
    (Hangs query s → Happened _ _ _ moves)) ⟨⟨hp, ?_⟩, by simp, ?_⟩ ?_ hr
  · rintro t ⟨⟩
  · rintro ⟨t, ⟨⟩, -⟩
  · rintro moves s m s' he ⟨hok, hw, hh⟩ hs
    obtain ⟨hok', hl, hh'⟩ := step_spec hs
    refine ⟨hok' hok, ?_, fun h => ?_⟩
    · rw [List.length_append, List.length_singleton]; omega
    · exact (hh' h).elim (fun h => (hh h).later) fun h => .now he h

/-- **The pool is freed.**  In every interleaving of `gp_workers_free` with the threads, whatever
    they are doing, a thread is freed once and after it has ended, and only finitely much happens.
    At rest all threads are freed, unless a signal was missed. -/
theorem workers_freed (hpool : Reachable s₀)
    (hrun : exec (step query) (start s₀ stages) moves = some s) :
    s.freed.Nodup ∧ (∀ t ∈ s.freed, s.stage t = .exited) ∧
    moves.length + s.work ≤ (start s₀ stages).work ∧
    (s.step query .main = none → (∀ t, s.step query (.thread t false) = none) → (∀ t, t ∈ s.freed) ∨
      Happened (step query) (start s₀ stages) (fun _ => Missed query) moves) := by
  obtain ⟨⟨hp, he⟩, hw, hh⟩ := run_spec hpool hrun
  refine ⟨List.nodup_iff_count_le_one.mpr fun t => ?_, he, hw, fun hm ht =>
    (stuck hm ht).imp (fun ⟨hl, hj⟩ t => ?_) hh⟩
  · have hpl := hp t
    omega
  · have hpl := hp t
    simp only [hl, hj, List.count_nil, Option.toList_none] at hpl
    exact List.count_pos_iff.mp (by omega)

/-- A thread that is signalled before it waits is waited for in vain. -/
theorem workers_freed_missed :
    Happened (step fun _ => false) (start (Pool.init 1) fun _ => .entering)
      (fun _ => Missed fun _ => false) [.main, .thread 0 false] := by
  have hr : exec (step fun _ => false) (start (Pool.init 1) fun _ => .entering)
    [.main, .thread 0 false] = some _ := rfl
  have he := (workers_freed .start hr).2.2.2 rfl (by decide)
  exact he.resolve_left fun h => nomatch h 0

end Stopping

end GssProxy.Workers
