import Mathlib.Data.List.FinRange
import GssProxy.System.Run

/-!
# The worker pool

The dispatcher hands queries to `n` worker threads and takes their replies back.  The pool lock protects
the free, busy and reply lists, the condition mutex of a thread its query slot; the wait list belongs to
the dispatcher.  An action is one critical section, or one access outside of them.

* `step_transition`: what each action does.
-/

namespace GssProxy.Workers

open GssProxy.System

inductive QueryStatus where
  | queryIn | queryOut | queryErr
  deriving DecidableEq, Repr

/-- `struct gp_query`. -/
structure Query where
  id : Nat
  status : QueryStatus
  deriving DecidableEq, Repr

/-- Where a thread stands in `gp_worker_main`. -/
inductive Worker where
  | waiting
  /-- has taken its query off the slot; `gp_handle_query` is called next -/
  | taken (q : Query)
  /-- `gp_handle_query` has returned; the pool lock is taken next -/
  | handled (q : Query)
  /-- has given the query back and itself free; the pipe is written next -/
  | signalling
  deriving DecidableEq, Repr

/-- Where the event loop stands. -/
inductive Dispatcher (n : Nat) where
  | idle
  | assigning (q : Query)
  | handing (q : Query) (t : Fin n)
  /-- has no thread for the query; the wait list is written next -/
  | queuing (q : Query)
  | woken
  | popping
  /-- has taken a reply off the list; it is sent or the connection is freed next -/
  | answering (q : Query)
  | checking
  deriving DecidableEq, Repr

/-- What becomes of the client. -/
inductive Answer where
  | sent | killed
  deriving DecidableEq, Repr

/-- `struct gp_workers` with its threads.  `accepted` counts the queries, `handledLog` has the calls
    of `gp_handle_query`, `answeredLog` what was done with the replies. -/
structure Pool (n : Nat) where
  waitList : List Query
  replyList : List Query
  freeList : List (Fin n)
  busyList : List (Fin n)
  slot : Fin n → Option Query
  worker : Fin n → Worker
  dispatcher : Dispatcher n
  pipe : Nat
  accepted : Nat
  handledLog : List Nat
  answeredLog : List (Nat × Answer)

/-- `gp_workers_init`. -/
def Pool.init (n : Nat) : Pool n where
  waitList := []
  replyList := []
  freeList := (List.finRange n).reverse
  busyList := []
  slot _ := none
  worker _ := .waiting
  dispatcher := .idle
  pipe := 0
  accepted := 0
  handledLog := []
  answeredLog := []

/-- What may happen next. -/
inductive Action (n : Nat) where
  | newQuery
  /-- the event loop calls `gp_handle_reply`, which reads the pipe; whether a byte was read -/
  | replyReady (ok : Bool)
  | dispatch
  | wakeup (t : Fin n)
  | grab (t : Fin n)
  | handle (t : Fin n) (ok : Bool)
  /-- a thread puts the query on the reply list and itself on the free list -/
  | putBack (t : Fin n)
  | signal (t : Fin n) (ok : Bool)
  deriving DecidableEq, Repr

variable {n : Nat}

def answerOf : QueryStatus → Answer
  | .queryIn => .killed
  | .queryErr => .killed
  | .queryOut => .sent

def dispatch (s : Pool n) : Option (Pool n) :=
  match s.dispatcher with
  | .idle => none
  | .assigning q =>
    match s.freeList with
    | t :: rest =>
      some { s with freeList := rest, busyList := t :: s.busyList, dispatcher := .handing q t }
    | [] => some { s with dispatcher := .queuing q }
  | .handing q t => some { s with slot := Function.update s.slot t (some q), dispatcher := .idle }
  | .queuing q => some { s with waitList := q :: s.waitList, dispatcher := .idle }
  -- the first look at the reply list is taken without the lock
  | .woken => some { s with dispatcher := if s.replyList = [] then .checking else .popping }
  | .popping =>
    match s.replyList with
    | q :: rest => some { s with replyList := rest, dispatcher := .answering q }
    | [] => some { s with dispatcher := .checking }
  | .answering q =>
    some { s with answeredLog := s.answeredLog ++ [(q.id, answerOf q.status)],
                  dispatcher := .checking }
  | .checking =>
    match s.waitList with
    | q :: rest => some { s with waitList := rest, dispatcher := .assigning q }
    | [] => some { s with dispatcher := .idle }

/-- One step of the event loop or a thread, if it can be made. -/
def step (s : Pool n) : Action n → Option (Pool n)
  | .newQuery =>
    if s.dispatcher = .idle then
      some { s with dispatcher := .assigning ⟨s.accepted, .queryIn⟩, accepted := s.accepted + 1 }
    else none
  | .replyReady ok =>
    if s.dispatcher = .idle ∧ (ok = true → 0 < s.pipe) then
      some { s with dispatcher := .woken, pipe := if ok then s.pipe - 1 else s.pipe }
    else none
  | .dispatch => dispatch s
  | .wakeup t => if s.worker t = .waiting ∧ s.slot t = none then some s else none
  | .grab t =>
    match s.worker t, s.slot t with
    | .waiting, some q =>
      some { s with slot := Function.update s.slot t none,
                    worker := Function.update s.worker t (.taken q) }
    | _, _ => none
  | .handle t ok =>
    match s.worker t with
    | .taken q =>
      let status := if ok then .queryOut else .queryErr
      some { s with worker := Function.update s.worker t (.handled { q with status := status }),
                    handledLog := s.handledLog ++ [q.id] }
    | _ => none
  | .putBack t =>
    match s.worker t with
    | .handled q =>
      some { s with replyList := q :: s.replyList, busyList := s.busyList.erase t,
                    freeList := t :: s.freeList,
                    worker := Function.update s.worker t .signalling }
    | _ => none
  | .signal t ok =>
    if s.worker t = .signalling then
      some { s with pipe := if ok then s.pipe + 1 else s.pipe,
                    worker := Function.update s.worker t .waiting }
    else none

/-! ## What a step can do -/

inductive Transition (s : Pool n) : Action n → Pool n → Prop where
  | newQuery (hidle : s.dispatcher = .idle) : Transition s .newQuery
      { s with dispatcher := .assigning ⟨s.accepted, .queryIn⟩, accepted := s.accepted + 1 }
  | read (hidle : s.dispatcher = .idle) (hpipe : 0 < s.pipe) : Transition s (.replyReady true)
      { s with dispatcher := .woken, pipe := s.pipe - 1 }
  | readFails (hidle : s.dispatcher = .idle) : Transition s (.replyReady false)
      { s with dispatcher := .woken }
  | takeThread {q : Query} {t : Fin n} {rest : List (Fin n)}
      (hat : s.dispatcher = .assigning q) (hfree : s.freeList = t :: rest) :
      Transition s .dispatch
        { s with freeList := rest, busyList := t :: s.busyList, dispatcher := .handing q t }
  | noThread {q : Query} (hat : s.dispatcher = .assigning q) (hfree : s.freeList = []) :
      Transition s .dispatch { s with dispatcher := .queuing q }
  | handOver {q : Query} {t : Fin n} (hat : s.dispatcher = .handing q t) :
      Transition s .dispatch
        { s with slot := Function.update s.slot t (some q), dispatcher := .idle }
  | queue {q : Query} (hat : s.dispatcher = .queuing q) : Transition s .dispatch
      { s with waitList := q :: s.waitList, dispatcher := .idle }
  | seeReply (hat : s.dispatcher = .woken) (hreply : s.replyList ≠ []) :
      Transition s .dispatch { s with dispatcher := .popping }
  | seeNoReply (hat : s.dispatcher = .woken) (hreply : s.replyList = []) :
      Transition s .dispatch { s with dispatcher := .checking }
  | popReply {q : Query} {rest : List Query} (hat : s.dispatcher = .popping)
      (hreply : s.replyList = q :: rest) :
      Transition s .dispatch { s with replyList := rest, dispatcher := .answering q }
  | popNoReply (hat : s.dispatcher = .popping) (hreply : s.replyList = []) :
      Transition s .dispatch { s with dispatcher := .checking }
  | answer {q : Query} (hat : s.dispatcher = .answering q) : Transition s .dispatch
      { s with answeredLog := s.answeredLog ++ [(q.id, answerOf q.status)],
               dispatcher := .checking }
  | unqueue {q : Query} {rest : List Query} (hat : s.dispatcher = .checking)
      (hwait : s.waitList = q :: rest) :
      Transition s .dispatch { s with waitList := rest, dispatcher := .assigning q }
  | done (hat : s.dispatcher = .checking) (hwait : s.waitList = []) :
      Transition s .dispatch { s with dispatcher := .idle }
  | wakeup {t : Fin n} (hat : s.worker t = .waiting) (hslot : s.slot t = none) :
      Transition s (.wakeup t) s
  | grab {t : Fin n} {q : Query} (hat : s.worker t = .waiting) (hslot : s.slot t = some q) :
      Transition s (.grab t)
        { s with slot := Function.update s.slot t none,
                 worker := Function.update s.worker t (.taken q) }
  | handle {t : Fin n} {q : Query} {ok : Bool} (hat : s.worker t = .taken q) :
      Transition s (.handle t ok)
        { s with worker := Function.update s.worker t
                   (.handled { q with status := if ok then .queryOut else .queryErr }),
                 handledLog := s.handledLog ++ [q.id] }
  | putBack {t : Fin n} {q : Query} (hat : s.worker t = .handled q) : Transition s (.putBack t)
      { s with replyList := q :: s.replyList, busyList := s.busyList.erase t,
               freeList := t :: s.freeList, worker := Function.update s.worker t .signalling }
  | signal {t : Fin n} (hat : s.worker t = .signalling) : Transition s (.signal t true)
      { s with pipe := s.pipe + 1, worker := Function.update s.worker t .waiting }
  | signalFails {t : Fin n} (hat : s.worker t = .signalling) : Transition s (.signal t false)
      { s with worker := Function.update s.worker t .waiting }

theorem dispatch_transition {s s' : Pool n} (h : dispatch s = some s') :
    Transition s .dispatch s' := by
  unfold dispatch at h
  split at h
  · cases h
  · rename_i q hat
    split at h
    · rename_i t rest hf
      cases h
      exact .takeThread hat hf
    · rename_i hf
      cases h
      exact .noThread hat hf
  · rename_i q t hat
    cases h
    exact .handOver hat
  · rename_i q hat
    cases h
    exact .queue hat
  · rename_i hat
    cases h
    by_cases hr : s.replyList = []
    · rw [if_pos hr]; exact .seeNoReply hat hr
    · rw [if_neg hr]; exact .seeReply hat hr
  · rename_i hat
    split at h
    · rename_i q rest hr
      cases h
      exact .popReply hat hr
    · rename_i hr
      cases h
      exact .popNoReply hat hr
  · rename_i q hat
    cases h
    exact .answer hat
  · rename_i hat
    split at h
    · rename_i q rest hw
      cases h
      exact .unqueue hat hw
    · rename_i hw
      cases h
      exact .done hat hw

theorem step_transition {s s' : Pool n} {a : Action n} (h : step s a = some s') :
    Transition s a s' := by
  cases a with
  | newQuery =>
    obtain ⟨hi, hs⟩ := Option.ite_none_right_eq_some.mp h
    cases hs
    exact .newQuery hi
  | replyReady ok =>
    obtain ⟨⟨hi, hp⟩, hs⟩ := Option.ite_none_right_eq_some.mp h
    cases hs
    cases ok with
    | true => exact .read hi (hp rfl)
    | false => exact .readFails hi
  | dispatch => exact dispatch_transition h
  | wakeup t =>
    obtain ⟨⟨hat, hsl⟩, hs⟩ := Option.ite_none_right_eq_some.mp h
    cases hs
    exact .wakeup hat hsl
  | grab t =>
    simp only [step] at h
    split at h
    · rename_i q hat hsl
      cases h
      exact .grab hat hsl
    · cases h
  | handle t ok =>
    simp only [step] at h
    split at h
    · rename_i q hat
      cases h
      exact .handle hat
    · cases h
  | putBack t =>
    simp only [step] at h
    split at h
    · rename_i q hat
      cases h
      exact .putBack hat
    · cases h
  | signal t ok =>
    obtain ⟨hat, hs⟩ := Option.ite_none_right_eq_some.mp h
    cases hs
    cases ok with
    | true => exact .signal hat
    | false => exact .signalFails hat

abbrev Reachable (s : Pool n) : Prop := Reach step (fun _ _ => True) (Pool.init n) s

/-- One thread: the first query is given back, its signal to be written, and the second waits. -/
def crowdedRun : List (Action 1) :=
  [.newQuery, .dispatch, .dispatch, .newQuery, .dispatch, .dispatch, .grab 0, .handle 0 true,
    .putBack 0]

def crowdedPool : Pool 1 := (exec step (Pool.init 1) crowdedRun).getD (Pool.init 1)

theorem crowdedRun_exec : exec step (Pool.init 1) crowdedRun = some crowdedPool := rfl

/-- The signal is written and read, the first query answered, and the second taken off the list. -/
def servingRun : List (Action 1) :=
  [.signal 0 true, .replyReady true, .dispatch, .dispatch, .dispatch, .dispatch]

/-- The second query is handled, without success, and its connection killed. -/
def restingRun : List (Action 1) :=
  [.dispatch, .dispatch, .grab 0, .handle 0 false, .putBack 0, .signal 0 true, .replyReady true,
    .dispatch, .dispatch, .dispatch, .dispatch]

end GssProxy.Workers
