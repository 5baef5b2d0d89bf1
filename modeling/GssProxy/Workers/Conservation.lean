import Mathlib.Data.Fintype.Sum
import Mathlib.Tactic.DeriveFintype
import GssProxy.System.Marking
import GssProxy.Workers.Pool

/-!
# Conservation of queries

A query moves from the dispatcher to a slot or the wait list, to its thread, to the reply list and to the
dispatcher again.  Every step moves at most one query (`step_effect`), so none is lost or duplicated
(`queriesOk`).  A thread is on the free list only while it is in charge of no query (`threadsOk`), so no
slot is overwritten.
-/

namespace GssProxy.Workers

open GssProxy.System

variable {n : Nat} {s s' : Pool n} {a : Action n}

/-! ## Threads -/

def Worker.query : Worker → Option Query
  | .waiting => none
  | .taken q => some q
  | .handled q => some q
  | .signalling => none

def Dispatcher.hands (d : Dispatcher n) (t : Fin n) : Bool :=
  match d with
  | .handing _ t' => t' = t
  | _ => false

def Pool.load (s : Pool n) (t : Fin n) : Nat :=
  (s.slot t).isSome.toNat + (s.worker t).query.isSome.toNat + (s.dispatcher.hands t).toNat

attribute [local simp] Worker.query Dispatcher.hands Pool.load

structure ThreadsOk (s : Pool n) : Prop where
  listed : ∀ t, s.freeList.count t + s.busyList.count t = 1
  busy : ∀ t, s.busyList.count t = s.load t

theorem threadsOk_init : ThreadsOk (Pool.init n) where
  listed t := by
    have hn : (List.finRange n).reverse.Nodup := List.nodup_reverse.mpr (List.nodup_finRange n)
    simp [Pool.init, hn.count]
  busy t := by simp [Pool.init]

theorem ThreadsOk.congr (h : ThreadsOk s) (hf : s'.freeList = s.freeList)
    (hb : s'.busyList = s.busyList) (hl : ∀ t, s'.load t = s.load t) : ThreadsOk s' where
  listed t := by rw [hf, hb, h.listed]
  busy t := by rw [hb, hl, h.busy]

theorem ThreadsOk.moved (h : ThreadsOk s) (t : Fin n) (hf : s'.freeList = s.freeList)
    (hb : s'.busyList = s.busyList) (hs : s'.load t = s.load t)
    (ho : ∀ t', t' ≠ t → s'.load t' = s.load t') : ThreadsOk s' := by
  refine h.congr hf hb fun t' => ?_
  by_cases htt : t' = t
  · rw [htt, hs]
  · exact ho t' htt

theorem ThreadsOk.occupied (h : ThreadsOk s) (t : Fin n) (hf : s.freeList = t :: s'.freeList)
    (hb : s'.busyList = t :: s.busyList) (hs : s'.load t = s.load t + 1)
    (ho : ∀ t', t' ≠ t → s'.load t' = s.load t') : ThreadsOk s' := by
  constructor
  · intro t'
    have hl := h.listed t'
    rw [hf] at hl
    simp only [hb, List.count_cons] at hl ⊢; omega
  · intro t'
    by_cases htt : t' = t
    · subst htt
      rw [hb, List.count_cons_self, h.busy, hs]
    · rw [hb, List.count_cons_of_ne (Ne.symm htt), h.busy, ho t' htt]

theorem ThreadsOk.freed (h : ThreadsOk s) (t : Fin n) (hf : s'.freeList = t :: s.freeList)
    (hb : s'.busyList = s.busyList.erase t) (hs : s.load t = s'.load t + 1)
    (ho : ∀ t', t' ≠ t → s'.load t' = s.load t') : ThreadsOk s' := by
  constructor
  · intro t'
    have hl := h.listed t'
    by_cases htt : t' = t
    · subst htt
      have hlo := h.busy t'
      rw [hf, hb, List.count_cons_self, List.count_erase_self]; omega
    · rw [hf, hb, List.count_cons_of_ne (Ne.symm htt), List.count_erase_of_ne htt]; exact hl
  · intro t'
    by_cases htt : t' = t
    · subst htt
      rw [hb, List.count_erase_self, h.busy, hs, Nat.add_sub_cancel]
    · rw [hb, List.count_erase_of_ne htt, h.busy, ho t' htt]

theorem ThreadsOk.slot_handing (h : ThreadsOk s) {q : Query} {t : Fin n}
    (hat : s.dispatcher = .handing q t) : s.slot t = none := by
  have hl := h.listed t
  have hb := h.busy t
  simp only [Pool.load, hat, Dispatcher.hands, decide_true, Bool.toNat_true] at hb
  cases hs : s.slot t with
  | none => rfl
  | some q' =>
    rw [hs] at hb
    simp only [Option.isSome_some, Bool.toNat_true] at hb; omega

theorem ThreadsOk.step (h : ThreadsOk s) (hst : Transition s a s') : ThreadsOk s' := by
  cases hst with
  | takeThread hat hf =>
    rename_i q t rest
    refine h.occupied t hf rfl ?_ fun t' htt => ?_
    · simp [hat]
    · simp [hat, Ne.symm htt]
  | handOver hat =>
    rename_i q t
    have hs := h.slot_handing hat
    refine h.moved t rfl rfl ?_ fun t' htt => ?_
    · simp [hat, hs, Nat.add_comm]
    · simp [hat, htt, Ne.symm htt]
  | grab hat hs =>
    rename_i t q
    refine h.moved t rfl rfl ?_ fun t' htt => ?_
    · simp [hat, hs]
    · simp [htt]
  | handle hat =>
    rename_i t q ok
    refine h.moved t rfl rfl ?_ fun t' htt => ?_
    · simp [hat]
    · simp [htt]
  | putBack hat =>
    rename_i t q
    refine h.freed t rfl rfl ?_ fun t' htt => ?_
    · simp [hat, Nat.add_right_comm]
    · simp [htt]
  | signal hat | signalFails hat =>
    rename_i t
    refine h.moved t rfl rfl ?_ fun t' htt => ?_
    · simp [hat]
    · simp [htt]
  | wakeup => exact h
  | newQuery hat | read hat _ | readFails hat | noThread hat _ | queue hat | seeReply hat _
  | seeNoReply hat _ | popReply hat _ | popNoReply hat _ | answer hat | unqueue hat _
  | done hat _ =>
    -- the dispatcher moves on without touching a thread
    exact h.congr rfl rfl fun t' => by simp [hat]

theorem threadsOk (h : Reachable s) : ThreadsOk s :=
  h.invariant threadsOk_init fun hok _ hs => hok.step (step_transition hs)

/-! ## Places

Where a query can be.  The last two are the local variables of the dispatcher inside a call. -/

/-- Where a query can be. -/
inductive Place (n : Nat) where
  | waitList
  | slot (t : Fin n)
  /-- being handled by a thread, before and after its call of `gp_handle_query` -/
  | taken (t : Fin n)
  | handled (t : Fin n)
  | replyList
  | answered
  | assigning
  | answering
  deriving DecidableEq, Fintype

/-- After `gp_handle_query` was called. -/
def Place.late : Place n → Bool
  | .handled _ => true
  | .replyList => true
  | .answering => true
  | .answered => true
  | _ => false

def Worker.takenQueries : Worker → List Query
  | .taken q => [q]
  | _ => []

def Worker.handledQueries : Worker → List Query
  | .handled q => [q]
  | _ => []

def Dispatcher.assigned : Dispatcher n → List Query
  | .assigning q => [q]
  | .handing q _ => [q]
  | .queuing q => [q]
  | _ => []

def Dispatcher.answers : Dispatcher n → List Query
  | .answering q => [q]
  | _ => []

def ids (l : List Query) : Multiset Nat := (l.map Query.id : List Nat)

@[simp] theorem ids_nil : ids [] = 0 := rfl

@[simp] theorem ids_cons (q : Query) (l : List Query) : ids (q :: l) = ids l + {q.id} := by
  rw [add_comm]
  rfl

/-- The queries at each place. -/
def Pool.at (s : Pool n) : Marking (Place n) Nat
  | .waitList => ids s.waitList
  | .slot t => ids (s.slot t).toList
  | .taken t => ids (s.worker t).takenQueries
  | .handled t => ids (s.worker t).handledQueries
  | .replyList => ids s.replyList
  | .answered => (s.answeredLog.map Prod.fst : List Nat)
  | .assigning => ids s.dispatcher.assigned
  | .answering => ids s.dispatcher.answers

attribute [local simp] Worker.takenQueries Worker.handledQueries Dispatcher.assigned Dispatcher.answers
  Pool.at

inductive Effect (s s' : Pool n) : Prop where
  | quiet (hat : s'.at = s.at) (haccepted : s'.accepted = s.accepted)
      (hlog : s'.handledLog = s.handledLog)
  | moves (p p' : Place n) (id : Nat) (hat : Moves s.at s'.at p p' id) (hlate : p.late = p'.late)
      (haccepted : s'.accepted = s.accepted) (hlog : s'.handledLog = s.handledLog)
  | arrives (hat : Adds s.at s'.at .assigning s.accepted)
      (haccepted : s'.accepted = s.accepted + 1) (hlog : s'.handledLog = s.handledLog)
  | handles (t : Fin n) (id : Nat) (hat : Moves s.at s'.at (.taken t) (.handled t) id)
      (haccepted : s'.accepted = s.accepted) (hlog : s'.handledLog = s.handledLog ++ [id])

theorem step_effect (hok : ThreadsOk s) (hst : Transition s a s') : Effect s s' := by
  cases hst with
  | newQuery hat =>
    refine .arrives ?_ rfl rfl
    funext p
    cases p <;> simp [hat]
  | handOver hat =>
    rename_i q t
    have hs := hok.slot_handing hat
    refine .moves .assigning (.slot t) q.id ?_ rfl rfl rfl
    funext p
    cases p with
    | slot t' =>
      by_cases htt : t' = t
      · subst htt; simp [hs]
      · simp [htt]
    | _ => simp [hat]
  | queue hat =>
    rename_i q
    refine .moves .assigning .waitList q.id ?_ rfl rfl rfl
    funext p
    cases p <;> simp [hat]
  | popReply hat hr =>
    rename_i q rest
    refine .moves .replyList .answering q.id ?_ rfl rfl rfl
    funext p
    cases p <;> simp [hat, hr]
  | answer hat =>
    rename_i q
    refine .moves .answering .answered q.id ?_ rfl rfl rfl
    funext p
    cases p with
    | answered =>
      simp only [Pi.add_apply, Pool.at, List.map_append, token_same]
      rw [token_ne (by simp), add_zero]; rfl
    | _ => simp [hat]
  | unqueue hat hw =>
    rename_i q rest
    refine .moves .waitList .assigning q.id ?_ rfl rfl rfl
    funext p
    cases p <;> simp [hat, hw]
  | grab hat hs =>
    rename_i t q
    refine .moves (.slot t) (.taken t) q.id ?_ rfl rfl rfl
    funext p
    cases p with
    | slot t' | taken t' | handled t' =>
      by_cases htt : t' = t
      · subst htt; simp [hat, hs]
      · simp [htt]
    | _ => simp
  | handle hat =>
    rename_i t q ok
    refine .handles t q.id ?_ rfl rfl
    funext p
    cases p with
    | taken t' | handled t' =>
      by_cases htt : t' = t
      · subst htt; simp [hat]
      · simp [htt]
    | _ => simp
  | putBack hat =>
    rename_i t q
    refine .moves (.handled t) .replyList q.id ?_ rfl rfl rfl
    funext p
    cases p with
    | taken t' | handled t' =>
      by_cases htt : t' = t
      · subst htt; simp [hat]
      · simp [htt]
    | _ => simp
  | signal hat | signalFails hat =>
    rename_i t
    refine .quiet ?_ rfl rfl
    funext p
    cases p with
    | taken t' | handled t' =>
      by_cases htt : t' = t
      · subst htt; simp [hat]
      · simp [htt]
    | _ => simp
  | wakeup => exact .quiet rfl rfl rfl
  | read hat _ | readFails hat | takeThread hat _ | noThread hat _ | seeReply hat _
  | seeNoReply hat _ | popNoReply hat _ | done hat _ =>
    refine .quiet ?_ rfl rfl
    funext p
    cases p <;> simp [hat]

/-! ## Conservation -/

/-- Every accepted query is somewhere, once; those handled are those past `gp_handle_query`. -/
structure QueriesOk (s : Pool n) : Prop where
  conserved : total s.at = Multiset.range s.accepted
  handled : totalOn Place.late s.at = (s.handledLog : Multiset Nat)

theorem queriesOk_init : QueriesOk (Pool.init n) := by
  have hat : (Pool.init n).at = fun _ => 0 := by
    funext p
    cases p <;> rfl
  constructor
  · rw [hat, total, Finset.sum_const_zero]; rfl
  · rw [hat, totalOn]
    simp only [ite_self, Finset.sum_const_zero]; rfl

theorem QueriesOk.step (h : QueriesOk s) (he : Effect s s') : QueriesOk s' := by
  obtain ⟨hc, hh⟩ := h
  cases he with
  | quiet hat ha hl =>
    constructor
    · rw [hat, ha, hc]
    · rw [hat, hl, hh]
  | moves _ _ _ hat hla ha hl =>
    constructor
    · rw [total_moves hat, ha, hc]
    · rw [totalOn_moves_within hat hla, hl, hh]
  | arrives hat ha hl =>
    constructor
    · rw [total_adds hat, ha, hc, Multiset.range_succ, Multiset.add_comm]; rfl
    · rw [totalOn_adds _ hat, hl, hh]; exact add_zero _
  | handles _ _ hat ha hl =>
    constructor
    · rw [total_moves hat, ha, hc]
    · have hs := totalOn_moves Place.late hat
      rw [hh] at hs
      rw [hl, ← Multiset.coe_add]
      simpa [Place.late] using hs

theorem queriesOk (h : Reachable s) : QueriesOk s :=
  h.invariant_with (J := ThreadsOk) threadsOk queriesOk_init
    fun hok hq _ hs => hq.step (step_effect hok (step_transition hs))

theorem QueriesOk.count_total (h : QueriesOk s) {id : Nat} (hid : id < s.accepted) :
    (total s.at).count id = 1 := by
  rw [h.conserved]
  exact Multiset.count_eq_one_of_mem (Multiset.nodup_range _) (Multiset.mem_range.mpr hid)

theorem QueriesOk.accepted_of_mem (h : QueriesOk s) {p : Place n} {id : Nat} (hm : id ∈ s.at p) :
    id < s.accepted := by
  rw [← Multiset.mem_range, ← h.conserved]
  exact Multiset.mem_sum.mpr ⟨p, Finset.mem_univ p, hm⟩

theorem QueriesOk.count_handledLog (h : QueriesOk s) {p : Place n} {id : Nat}
    (hm : id ∈ s.at p) : s.handledLog.count id = if p.late then 1 else 0 := by
  rw [← Multiset.coe_count, ← h.handled]
  exact count_totalOn_of_mem (h.count_total (h.accepted_of_mem hm)) hm

theorem QueriesOk.count_answeredLog (h : QueriesOk s) (id : Nat) :
    (s.answeredLog.map Prod.fst).count id ≤ 1 := by
  have hle : (s.at .answered).count id ≤ (total s.at).count id := by
    rw [System.count_total]
    exact Finset.single_le_sum (f := fun p => (s.at p).count id) (fun _ _ => Nat.zero_le _)
      (Finset.mem_univ _)
  rw [h.conserved, Pool.at, Multiset.coe_count] at hle
  exact hle.trans (Multiset.nodup_iff_count_le_one.mp (Multiset.nodup_range _) id)

theorem QueriesOk.once_of_answered (h : QueriesOk s) {id : Nat} (hm : id ∈ s.at .answered) :
    s.handledLog.count id = 1 ∧ (s.answeredLog.map Prod.fst).count id = 1 := by
  have hle := h.count_answeredLog id
  have hp : 0 < (s.answeredLog.map Prod.fst).count id := List.count_pos_iff.mpr hm
  exact ⟨h.count_handledLog hm, by omega⟩

theorem slot_kept (hok : ThreadsOk s) (hst : Transition s a s') {t : Fin n} {q : Query}
    (hs : s.slot t = some q) : s'.slot t = some q ∨ s'.slot t = none ∧ s'.worker t = .taken q := by
  cases hst with
  | handOver hat =>
    rename_i q' t'
    have he := hok.slot_handing hat
    have htt : t ≠ t' := by
      rintro rfl
      rw [hs] at he; cases he
    left
    rw [← hs]
    exact Function.update_of_ne htt _ _
  | grab hat hs' =>
    rename_i t' q'
    by_cases htt : t = t'
    · subst htt
      obtain rfl : q = q' := Option.some.inj (hs.symm.trans hs')
      exact .inr ⟨Function.update_self _ _ _, Function.update_self _ _ _⟩
    · left
      rw [← hs]
      exact Function.update_of_ne htt _ _
  | _ => exact .inl hs

end GssProxy.Workers
