import GssProxy.Workers.Pool

/-!
# The order in which queries get their threads

The wait list is a stack, and a query that arrives does not look at it.  A query is known by the order of
its arrival, so whoever is given a thread is served in turn if no smaller number waits.

* `served_in_turn`: when all are.
-/

namespace GssProxy.Workers

open GssProxy.System

variable {n : Nat} {s s' : Pool n} {a : Action n} {q w : Query}

/-- The query that `gp_query_assign` is about to give a thread to. -/
def Pool.assigns (s : Pool n) : Option Query :=
  match s.dispatcher, s.freeList with
  | .assigning q, _ :: _ => some q
  | _, _ => none

/-- Who is given a thread has arrived before everybody who waits. -/
def Pool.InTurn (s : Pool n) : Prop :=
  ∀ q w, s.assigns = some q → w ∈ s.waitList → q.id < w.id

/-- No query arrives while another one waits. -/
def Uncrowded (s : Pool n) (a : Action n) : Prop :=
  a = .newQuery → s.waitList = []

def Dispatcher.unplaced : Dispatcher n → Bool
  | .assigning _ => true
  | .queuing _ => true
  | _ => false

structure Alone (s : Pool n) : Prop where
  waiting : s.waitList.length ≤ 1
  placing : s.dispatcher.unplaced = true → s.waitList = []

theorem Alone.step (h : Alone s) (ha : Uncrowded s a) (hs : step s a = some s') : Alone s' := by
  have hk : ∀ {d : Dispatcher n}, d.unplaced = false → d.unplaced = true → s.waitList = [] := by
    intro d hd hp
    rw [hd] at hp; cases hp
  have hp : ∀ {d : Dispatcher n}, s.dispatcher = d → d.unplaced = true → s.waitList = [] := by
    intro d hd hd'
    apply h.placing
    rw [hd]
    exact hd'
  cases step_transition hs with
  | newQuery _ => exact ⟨h.waiting, fun _ => ha rfl⟩
  | noThread hat _ => exact ⟨h.waiting, fun _ => hp hat rfl⟩
  | queue hat =>
    have he : s.waitList = [] := hp hat rfl
    refine ⟨?_, fun hp => by cases hp⟩
    rw [he]
    exact Nat.le_refl 1
  | @unqueue q rest _ hw =>
    -- only one query was waiting, and it is the one that is taken off
    have hl : s.waitList.length = rest.length + 1 := by rw [hw, List.length_cons]
    have hr : rest.length = 0 := by have := h.waiting; omega
    exact ⟨by rw [hr]; exact Nat.zero_le 1, fun _ => List.length_eq_zero_iff.mp hr⟩
  | wakeup _ _ => exact h
  | grab _ _ | handle _ => exact ⟨h.waiting, h.placing⟩
  | putBack _ | signal _ => exact ⟨h.waiting, h.placing⟩
  | signalFails _ => exact ⟨h.waiting, h.placing⟩
  | _ => exact ⟨h.waiting, hk rfl⟩

theorem unplaced_of_assigns (h : s.assigns = some q) : s.dispatcher.unplaced = true := by
  unfold Pool.assigns at h
  split at h
  · rename_i hat _
    rw [hat]; rfl
  · cases h

/-- **Queries are served in turn where none arrives while another one waits**, for every number of
    threads and every interleaving. -/
theorem served_in_turn (h : Reach step Uncrowded (Pool.init n) s) : s.InTurn := by
  have hal : Alone s := h.invariant ⟨by simp [Pool.init], fun _ => rfl⟩ Alone.step
  intro q w ha hw
  rw [hal.placing (unplaced_of_assigns ha)] at hw
  cases hw

/-- One thread: the second query waits for the first, and is given the thread after it. -/
theorem served_in_turn_second :
    crowdedPool.waitList = [⟨1, .queryIn⟩] ∧ ∃ s, exec step crowdedPool servingRun = some s ∧
      s.assigns = some ⟨1, .queryIn⟩ ∧ s.InTurn := by
  have hf : Reach step Uncrowded (Pool.init 1) _ :=
    .next .start (fun _ => rfl) (rfl : step _ .newQuery = some _)
  have hh := hf.exec (by simp [Uncrowded]) (rfl : exec step _ [.dispatch, .dispatch] = some _)
  have hs := hh.next (fun _ => rfl) (rfl : step _ .newQuery = some _)
  have hse := hs.exec (by simp [Uncrowded, crowdedRun, servingRun])
    (rfl : exec step _ (crowdedRun.drop 4 ++ servingRun) = some _)
  exact ⟨rfl, _, rfl, rfl, served_in_turn hse⟩

/-- One thread: the first query has given it back, the second waits, and the third, which arrives
    before the signal is read, is given it. -/
theorem waiting_query_overtaken :
    crowdedPool.waitList = [⟨1, .queryIn⟩] ∧ ∃ s, step crowdedPool .newQuery = some s ∧
      s.assigns = some ⟨2, .queryIn⟩ ∧ (⟨1, .queryIn⟩ : Query) ∈ s.waitList ∧ ¬ s.InTurn := by
  refine ⟨rfl, _, rfl, rfl, List.mem_singleton.mpr rfl, ?_⟩
  intro h
  have hlt : 2 < 1 := h _ _ rfl (List.mem_singleton.mpr rfl)
  omega

end GssProxy.Workers
