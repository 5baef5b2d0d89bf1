import GssProxy.Workers.Conservation

/-!
# No stranded request

The dispatcher looks at the wait list once for each byte it reads from the pipe.  As long as queries wait,
there are no more free threads than signals on their way (`SignalsOk`).

* `no_stranded_request`: a pool at rest has no query waiting.
* `query_conservation`: every query is answered once.
-/

namespace GssProxy.Workers

open GssProxy.System

variable {n : Nat} {s s' : Pool n} {a : Action n}

def Delivers (_ : Pool n) : Action n → Prop
  | .replyReady ok => ok = true
  | .signal _ ok => ok = true
  | _ => True

def Worker.signals : Worker → Nat
  | .signalling => 1
  | _ => 0

@[simp] theorem signals_waiting : Worker.waiting.signals = 0 := rfl
@[simp] theorem signals_taken (q : Query) : (Worker.taken q).signals = 0 := rfl
@[simp] theorem signals_handled (q : Query) : (Worker.handled q).signals = 0 := rfl
@[simp] theorem signals_signalling : Worker.signalling.signals = 1 := rfl

/-- The signals in the pipe or about to be written. -/
def Pool.pending (s : Pool n) : Nat := s.pipe + ∑ t, (s.worker t).signals

/-- A signal read whose reply is not taken yet. -/
def Dispatcher.inHand : Dispatcher n → Nat
  | .woken => 1
  | .popping => 1
  | _ => 0

/-- A signal read before the wait list is looked at. -/
def Dispatcher.due : Dispatcher n → Nat
  | .woken => 1
  | .popping => 1
  | .answering _ => 1
  | .checking => 1
  | .assigning _ => 1
  | _ => 0

def Dispatcher.queues : Dispatcher n → Bool
  | .queuing _ => true
  | _ => false

attribute [local simp] Pool.pending Dispatcher.inHand Dispatcher.due Dispatcher.queues

structure SignalsOk (s : Pool n) : Prop where
  replies : s.pending + s.dispatcher.inHand = s.replyList.length
  free : s.waitList ≠ [] ∨ s.dispatcher.queues = true →
    s.freeList.length ≤ s.pending + s.dispatcher.due

theorem signalsOk_init : SignalsOk (Pool.init n) where
  replies := by simp [Pool.init]
  free h := by simp [Pool.init] at h

theorem SignalsOk.balance (h : SignalsOk s)
    (hr : s'.pending + s'.dispatcher.inHand + s.replyList.length =
      s.pending + s.dispatcher.inHand + s'.replyList.length)
    (hw : s'.waitList ≠ [] ∨ s'.dispatcher.queues = true →
      s.waitList ≠ [] ∨ s.dispatcher.queues = true)
    (hf : s'.freeList.length + (s.pending + s.dispatcher.due) ≤
      s.freeList.length + (s'.pending + s'.dispatcher.due)) : SignalsOk s' where
  replies := by
    have hb := h.replies
    omega
  free hn := by
    have hb := h.free (hw hn)
    omega

theorem SignalsOk.worker (h : SignalsOk s) {t : Fin n} {w : Worker}
    (hw : s'.worker = Function.update s.worker t w)
    (hd : s'.dispatcher = s.dispatcher) (hwa : s'.waitList = s.waitList)
    (hr : s'.pipe + w.signals + s.replyList.length =
      s.pipe + (s.worker t).signals + s'.replyList.length)
    (hf : s'.freeList.length + (s.pipe + (s.worker t).signals) ≤
      s.freeList.length + (s'.pipe + w.signals)) : SignalsOk s' := by
  have hs := sum_weight_update Worker.signals s.worker t w
  apply h.balance
  · simp only [Pool.pending, hw, hd]; omega
  · rw [hwa, hd]; exact id
  · simp only [Pool.pending, hw, hd]; omega

theorem SignalsOk.step (h : SignalsOk s) (hd : Delivers s a) (hs : Transition s a s') :
    SignalsOk s' := by
  cases hs with
  | readFails hat | signalFails hat => cases hd
  | noThread hat ht =>
    refine ⟨?_, fun _ => ?_⟩
    · simpa [hat] using h.replies
    · simp only [ht, List.length_nil]; omega
  | seeNoReply hat hr | popNoReply hat hr =>
    -- the signal that was read has its reply on the list
    have hre := h.replies
    simp only [hat, hr, Dispatcher.inHand, List.length_nil] at hre; omega
  | done hat hw =>
    refine ⟨?_, fun hn => ?_⟩
    · simpa [hat] using h.replies
    · simp [hw] at hn
  | read hat hp =>
    apply h.balance
    · simp only [hat, Pool.pending, Dispatcher.inHand]; omega
    · simp [hat]
    · simp only [hat, Pool.pending, Dispatcher.due]; omega
  | takeThread hat ht =>
    apply h.balance
    · simp [hat]
    · simp [hat]
    · simp only [hat, ht, Pool.pending, Dispatcher.due, List.length_cons]; omega
  | popReply hat hr =>
    apply h.balance
    · simp only [hat, hr, Pool.pending, Dispatcher.inHand, List.length_cons]; omega
    · simp [hat]
    · simp [hat]
  | unqueue hat hw =>
    apply h.balance
    · simp [hat]
    · simp [hw]
    · simp [hat]
  | newQuery hat | handOver hat | queue hat | seeReply hat _ | answer hat =>
    apply h.balance
    all_goals simp [hat]
  | wakeup => exact h
  | grab hat hsl => exact h.worker rfl rfl rfl (by rw [hat]; rfl) (by rw [hat]; rfl)
  | handle hat => exact h.worker rfl rfl rfl (by rw [hat]; rfl) (by rw [hat]; rfl)
  | putBack hat =>
    refine h.worker rfl rfl rfl ?_ ?_
    · simp only [hat, signals_handled, signals_signalling, List.length_cons]; omega
    · simp only [hat, signals_handled, signals_signalling, List.length_cons]; omega
  | signal hat => refine h.worker rfl rfl rfl ?_ ?_ <;> simp [hat]

/-- The states of runs in which signals are read. -/
abbrev DeliveringReach (s : Pool n) : Prop := Reach step Delivers (Pool.init n) s

theorem signalsOk (h : DeliveringReach s) : SignalsOk s :=
  h.invariant signalsOk_init fun hok hd hs => hok.step hd (step_transition hs)

theorem DeliveringReach.reachable (h : DeliveringReach s) : Reachable s :=
  h.mono fun _ _ _ => trivial

/-! ## Progress -/

theorem ThreadsOk.length_lists (h : ThreadsOk s) : s.freeList.length + s.busyList.length = n := by
  have hp : (s.freeList ++ s.busyList).Perm (List.finRange n) := by
    refine List.perm_iff_count.mpr fun t => ?_
    rw [List.count_append, h.listed, (List.nodup_finRange n).count, if_pos (List.mem_finRange t)]
  rw [← List.length_append, hp.length_eq, List.length_finRange]

/-- Neither an arrival nor a failure, nor a spurious wakeup. -/
def Action.works : Action n → Bool
  | .newQuery => false
  | .replyReady ok => ok
  | .wakeup _ => false
  | .signal _ ok => ok
  | _ => true

theorem dispatch_isSome (h : s.dispatcher ≠ .idle) : (dispatch s).isSome := by
  unfold dispatch
  split
  · rename_i hi; exact absurd hi h
  all_goals first | rfl | (split <;> rfl)

theorem quiescent (h : ∀ a : Action n, a.works → step s a = none) :
    s.dispatcher = .idle ∧ s.pipe = 0 ∧ (∀ t, s.worker t = .waiting) ∧ ∀ t, s.slot t = none := by
  have hi : s.dispatcher = .idle := by
    by_contra hne
    have hs := dispatch_isSome hne
    have hn : dispatch s = none := h .dispatch rfl
    rw [hn] at hs; cases hs
  have hwo : ∀ t, s.worker t = .waiting := by
    intro t
    cases hw : s.worker t with
    | waiting => rfl
    | taken q =>
      have hn := h (.handle t true) rfl
      simp [step, hw] at hn
    | handled q =>
      have hn := h (.putBack t) rfl
      simp [step, hw] at hn
    | signalling =>
      have hn := h (.signal t true) rfl
      simp [step, hw] at hn
  refine ⟨hi, ?_, hwo, fun t => ?_⟩
  · have hn := h (.replyReady true) rfl
    simp [step, hi] at hn
    exact hn
  · cases hsl : s.slot t with
    | none => rfl
    | some q =>
      have hn := h (.grab t) rfl
      simp [step, hwo t, hsl] at hn

theorem busyList_of_idle (hth : ThreadsOk s) (hi : s.dispatcher = .idle)
    (hw : ∀ t, s.worker t = .waiting) (hs : ∀ t, s.slot t = none) : s.busyList = [] := by
  refine List.eq_nil_iff_forall_not_mem.mpr fun t ht => ?_
  have hc := List.count_pos_iff.mpr ht
  rw [hth.busy t] at hc
  simp [Pool.load, hi, hw t, hs t, Worker.query, Dispatcher.hands] at hc

theorem quiescent_empty (hn : 0 < n) (ht : ThreadsOk s) (hs : SignalsOk s)
    (h : ∀ a : Action n, a.works → step s a = none) : s.waitList = [] ∧ s.replyList = [] := by
  obtain ⟨hi, hpi, hw, hsl⟩ := quiescent h
  have hp : s.pending = 0 := by simp [hpi, hw]
  have hb := busyList_of_idle ht hi hw hsl
  have hf := ht.length_lists
  rw [hb, List.length_nil] at hf
  constructor
  · by_contra hwa
    have hle := hs.free (.inl hwa)
    rw [hi] at hle
    simp only [Dispatcher.due] at hle; omega
  · have hr := hs.replies
    rw [hp, hi] at hr
    exact List.eq_nil_of_length_eq_zero hr.symm

theorem quiescent_answered (hn : 0 < n) (hq : QueriesOk s) (ht : ThreadsOk s)
    (hs : SignalsOk s) (h : ∀ a : Action n, a.works → step s a = none) {id : Nat}
    (hid : id < s.accepted) : id ∈ s.at .answered := by
  obtain ⟨hi, -, hw, hsl⟩ := quiescent h
  obtain ⟨hwa, hr⟩ := quiescent_empty hn ht hs h
  obtain ⟨p, hp, -⟩ := unique_place (hq.count_total hid)
  have hm : id ∈ s.at p := Multiset.count_pos.mp (hp ▸ Nat.one_pos)
  cases p with
  | answered => exact hm
  | waitList => simp [Pool.at, hwa] at hm
  | replyList => simp [Pool.at, hr] at hm
  | slot t => simp [Pool.at, hsl t] at hm
  | taken t => simp [Pool.at, hw t, Worker.takenQueries] at hm
  | handled t => simp [Pool.at, hw t, Worker.handledQueries] at hm
  | assigning => simp [Pool.at, hi, Dispatcher.assigned] at hm
  | answering => simp [Pool.at, hi, Dispatcher.answers] at hm

/-! ### The work left

Every query still to be handled has a weight that pays for the actions it takes to the reply
list and for the signal it then sends; a signal pays for one call of `gp_handle_reply`. -/

def slotWork : Option Query → Nat
  | none => 0
  | some _ => 12

def Worker.work : Worker → Nat
  | .waiting => 0
  | .taken _ => 11
  | .handled _ => 10
  | .signalling => 9

def Dispatcher.work : Dispatcher n → Nat
  | .idle => 0
  | .assigning _ => 15
  | .handing _ _ => 13
  | .queuing _ => 13
  | .woken => 7
  | .popping => 6
  | .answering _ => 5
  | .checking => 4

/-- How much is left to be done. -/
def Pool.work (s : Pool n) : Nat :=
  12 * s.waitList.length + ∑ t, slotWork (s.slot t) + ∑ t, (s.worker t).work + 8 * s.pipe +
    s.dispatcher.work

@[simp] theorem slotWork_none : slotWork none = 0 := rfl
@[simp] theorem slotWork_some (q : Query) : slotWork (some q) = 12 := rfl
@[simp] theorem work_waiting : Worker.waiting.work = 0 := rfl
@[simp] theorem work_taken (q : Query) : (Worker.taken q).work = 11 := rfl
@[simp] theorem work_handled (q : Query) : (Worker.handled q).work = 10 := rfl
@[simp] theorem work_signalling : Worker.signalling.work = 9 := rfl

theorem work_decreases (hwo : a.works) (hst : Transition s a s') : s'.work < s.work := by
  cases hst with
  | newQuery | readFails | wakeup | signalFails => cases hwo
  | handOver hat =>
    rename_i q t
    have hsu := sum_weight_update slotWork s.slot t (some q)
    rw [slotWork_some] at hsu
    simp only [Pool.work, hat, Dispatcher.work]; omega
  | grab hat hsl =>
    rename_i t q
    have hs := sum_weight_update slotWork s.slot t none
    have hw := sum_weight_update Worker.work s.worker t (.taken q)
    rw [hsl, slotWork_none, slotWork_some] at hs
    rw [work_taken] at hw
    simp only [Pool.work]; omega
  | handle hat =>
    rename_i t q ok
    have hw := sum_weight_update Worker.work s.worker t
      (.handled { q with status := if ok then .queryOut else .queryErr })
    rw [hat, work_taken, work_handled] at hw
    simp only [Pool.work]; omega
  | putBack hat =>
    rename_i t q
    have hw := sum_weight_update Worker.work s.worker t .signalling
    rw [hat, work_handled, work_signalling] at hw
    simp only [Pool.work]; omega
  | signal hat =>
    rename_i t
    have hw := sum_weight_update Worker.work s.worker t .waiting
    rw [hat, work_signalling, work_waiting] at hw
    simp only [Pool.work]; omega
  | read hat hp => simp only [Pool.work, hat, Dispatcher.work]; omega
  | queue hat => simp only [Pool.work, hat, Dispatcher.work, List.length_cons]; omega
  | unqueue hat hwa => simp only [Pool.work, hat, hwa, Dispatcher.work, List.length_cons]; omega
  | takeThread hat _ | noThread hat _ | seeReply hat _ | seeNoReply hat _ | popReply hat _
  | popNoReply hat _ | answer hat | done hat _ => simp only [Pool.work, hat, Dispatcher.work]; omega

/-- **Conservation of queries**, in every interleaving of any number of threads.  Every accepted
    query is in exactly one place, which between the calls of the dispatcher is none of its local
    variables.  `gp_handle_query` is called for it once, before it can be on the reply list, and it
    is answered at most once.  Every thread is on exactly one of the two lists, and a query slot in
    use is not overwritten.  Without arrivals only finitely much happens, and at rest every query
    has been handled and answered once. -/
theorem query_conservation (s : Pool n) (h : Reachable s) :
    (∀ id < s.accepted, ∃ p, (s.at p).count id = 1 ∧ ∀ p', p' ≠ p → id ∉ s.at p') ∧
    (s.dispatcher = .idle → s.at .assigning = 0 ∧ s.at .answering = 0) ∧
    (∀ p, ∀ id ∈ s.at p, s.handledLog.count id = if p.late then 1 else 0) ∧
    (∀ id, (s.answeredLog.map Prod.fst).count id ≤ 1) ∧
    (∀ t, s.freeList.count t + s.busyList.count t = 1) ∧
    (∀ a s', step s a = some s' → ∀ t q, s.slot t = some q →
      s'.slot t = some q ∨ s'.slot t = none ∧ s'.worker t = .taken q) ∧
    (∀ a s', a.works → step s a = some s' → s'.work < s.work) ∧
    (0 < n → DeliveringReach s → (∀ a : Action n, a.works → step s a = none) → ∀ id < s.accepted,
        s.handledLog.count id = 1 ∧ (s.answeredLog.map Prod.fst).count id = 1) := by
  have hq := queriesOk h
  have ht := threadsOk h
  refine ⟨fun id hid => unique_place (hq.count_total hid), ?_,
    fun p id hm => hq.count_handledLog hm, hq.count_answeredLog,
    ht.listed, fun a s' hs t q => slot_kept ht (step_transition hs),
    fun a s' hw hs => work_decreases hw (step_transition hs), ?_⟩
  · intro hi
    simp [Pool.at, hi, Dispatcher.assigned, Dispatcher.answers]
  · intro hn hd hr id hid
    exact hq.once_of_answered
      (quiescent_answered hn hq ht (signalsOk hd) hr hid)

def restedPool : Pool 1 := (exec step crowdedPool (servingRun ++ restingRun)).getD crowdedPool

/-- One thread and two queries, of which the second waits for the first and is then served. -/
theorem query_conservation_rested :
    exec step crowdedPool (servingRun ++ restingRun) = some restedPool ∧ restedPool.accepted = 2 ∧
      restedPool.answeredLog = [(0, .sent), (1, .killed)] ∧ ∀ id < 2,
        restedPool.handledLog.count id = 1 ∧ (restedPool.answeredLog.map Prod.fst).count id = 1 := by
  have hc : DeliveringReach crowdedPool :=
    Reach.start.exec (by simp [crowdedRun, Delivers]) crowdedRun_exec
  have hru : exec step crowdedPool (servingRun ++ restingRun) = some restedPool :=
    (Option.getD_of_ne_none (by decide +kernel) _).symm
  have hr : DeliveringReach restedPool := hc.exec (by simp [servingRun, restingRun, Delivers]) hru
  have hre : ∀ a : Action 1, a.works → step restedPool a = none := by
    intro a hw
    cases a with
    | newQuery | wakeup t => cases hw
    | dispatch => decide +kernel
    | replyReady ok =>
      cases hw
      decide +kernel
    | grab t | putBack t =>
      obtain rfl := Subsingleton.elim t 0
      decide +kernel
    | handle t ok | signal t ok =>
      obtain rfl := Subsingleton.elim t 0
      cases ok <;> decide +kernel
  obtain ⟨-, -, -, -, -, -, -, ho⟩ := query_conservation _ hr.reachable
  have ha : restedPool.accepted = 2 := by decide +kernel
  exact ⟨hru, ha, by decide +kernel, ho Nat.one_pos hr hre⟩

/-- **No stranded request.**  Between two calls of the dispatcher the signals written or about to be
    are as many as the replies on the list, and while a query waits there are no more free threads
    than such signals; inside a call its signal counts until the reply is taken, and until the wait
    list has been looked at.  So a waiting query has a busy thread or a signal on its way.  Without
    arrivals the pool comes to rest, and then no query waits and all have been answered. -/
theorem no_stranded_request (hn : 0 < n) (s : Pool n) (h : DeliveringReach s) :
    (s.dispatcher = .idle → s.pending = s.replyList.length ∧
      (s.waitList ≠ [] → s.freeList.length ≤ s.pending)) ∧
    s.pending + s.dispatcher.inHand = s.replyList.length ∧
    (s.waitList ≠ [] → s.freeList.length ≤ s.pending + s.dispatcher.due) ∧
    (s.waitList ≠ [] → s.busyList ≠ [] ∨ 0 < s.pending + s.dispatcher.due) ∧
    (∀ a s', a.works → step s a = some s' → s'.work < s.work) ∧
    ((∀ a : Action n, a.works → step s a = none) →
      s.waitList = [] ∧ ∀ id < s.accepted, id ∈ s.at .answered) := by
  have hs := signalsOk h
  have ht := threadsOk h.reachable
  have hq := queriesOk h.reachable
  refine ⟨?_, hs.replies, fun hw => hs.free (.inl hw), ?_, ?_, ?_⟩
  · intro hi
    have hr := hs.replies
    have hf := hs.free
    rw [hi] at hr hf
    exact ⟨hr, fun hw => hf (.inl hw)⟩
  · intro hw
    by_contra hno
    obtain ⟨hb, hsi⟩ := not_or.mp hno
    have hl := ht.length_lists
    rw [not_not.mp hb, List.length_nil] at hl
    have hle := hs.free (.inl hw)
    omega
  · intro a s' hwo hst
    exact work_decreases hwo (step_transition hst)
  · intro hre
    exact ⟨(quiescent_empty hn ht hs hre).1, fun id hid =>
      quiescent_answered hn hq ht hs hre hid⟩

theorem no_stranded_request_crowdedPool :
    DeliveringReach crowdedPool ∧ crowdedPool.waitList ≠ [] ∧ crowdedPool.freeList.length = 1 ∧
    crowdedPool.freeList.length ≤ crowdedPool.pending := by
  have hr : DeliveringReach crowdedPool :=
    Reach.start.exec (by simp [crowdedRun, Delivers]) crowdedRun_exec
  obtain ⟨hi, -⟩ := no_stranded_request Nat.one_pos crowdedPool hr
  have hw : crowdedPool.waitList ≠ [] := by decide
  exact ⟨hr, hw, rfl, (hi rfl).2 hw⟩

end GssProxy.Workers
