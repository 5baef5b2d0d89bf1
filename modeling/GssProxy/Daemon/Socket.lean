import GssProxy.Proto.Frame
import GssProxy.System.Run

/-!
# Connections of the C daemon

The callbacks of the event loop.  A connection is in the buffer of a read event, with a query in the pool,
or in the buffer of a write event; each callback takes it out of one of these and puts it into another or
frees it.  Any query may come back at any time.  What the system calls return is part of the action.

* `step_transition`: a step takes one holder out and passes its connection on once.
-/

namespace GssProxy.Daemon

open Codec Proto GssProxy.System

/-! ## State -/

/-- The buffer of a read event.  `body` is `none` while `data` is NULL; then it has the size and the
    bytes received. -/
structure ReadBuffer where
  conn : Nat
  body : Option (Nat × Bytes)
  deriving DecidableEq, Repr

structure WriteBuffer where
  conn : Nat
  data : Bytes
  pos : Nat
  deriving DecidableEq, Repr

/-- Who has a connection. -/
inductive Holder where
  | reader (rbuf : ReadBuffer)
  | query (conn : Nat) (buffer : Bytes)
  | writer (wbuf : WriteBuffer)
  deriving DecidableEq, Repr

def Holder.conn : Holder → Nat
  | .reader rbuf => rbuf.conn
  | .query conn _ => conn
  | .writer wbuf => wbuf.conn

/-- What has passed on a connection. -/
structure History where
  requests : List Bytes := []
  answered : List (Bytes × Bytes) := []
  written : Bytes := []
  deriving DecidableEq, Repr

/-- The connections, by their holders. -/
structure EventLoop where
  accepted : Nat
  holders : List Holder
  released : List Nat
  history : Nat → History

def EventLoop.init : EventLoop := ⟨0, [], [], fun _ => {}⟩

def EventLoop.hold (h : Holder) (s : EventLoop) : EventLoop :=
  { s with holders := s.holders ++ [h] }

def EventLoop.connFree (conn : Nat) (s : EventLoop) : EventLoop :=
  { s with released := s.released ++ [conn] }

def EventLoop.record (conn : Nat) (f : History → History) (s : EventLoop) : EventLoop :=
  { s with history := Function.update s.history conn (f (s.history conn)) }

/-! ## What the outside answers -/

inductive ReadResult where
  | again
  | failed
  | data (bytes : Bytes)
  deriving DecidableEq, Repr

def ReadResult.upTo (n : Nat) : ReadResult → ReadResult
  | .data bytes => .data (bytes.take n)
  | r => r

inductive WriteResult where
  | again
  | failed
  | wrote (n : Nat)
  deriving DecidableEq, Repr

/-- What one callback is answered: by `read` for a header and a body, by `writev`, by the worker
    that had the query, by `malloc`, `calloc` and `verto_add_io`. -/
structure Answers where
  header : ReadResult := .again
  body : ReadResult := .again
  writev : WriteResult := .again
  reply : Option Bytes := none
  malloc : Bool := true
  calloc : Bool := true
  addIo : Bool := true
  deriving DecidableEq, Repr

inductive Ret where
  | ok
  | again
  | error
  deriving DecidableEq, Repr

/-! ## Reading -/

section

variable (ans : Answers)

def gpSocketScheduleRead (rbuf : ReadBuffer) (s : EventLoop) : EventLoop :=
  if ans.addIo then s.hold (.reader rbuf) else s.connFree rbuf.conn

def gpSetupReader (conn : Nat) (s : EventLoop) : EventLoop :=
  if ans.calloc then gpSocketScheduleRead ans ⟨conn, none⟩ s else s.connFree conn

def gpQueryNew (conn : Nat) (buffer : Bytes) (s : EventLoop) : Ret × EventLoop :=
  if ans.calloc then
    (.ok, (s.hold (.query conn buffer)).record conn
      fun h => { h with requests := h.requests ++ [buffer] })
  else (.error, s)

def fragmentSize (word : UInt32) : Option Nat :=
  if word &&& FRAGMENT_BIT = 0 then none
  else
    let size := (word &&& ~~~FRAGMENT_BIT).toNat
    if size > MAX_RPC_SIZE then none else some size

/-- The size that the four bytes of a header give. -/
def headerSize : Bytes → Option Nat
  | [b₀, b₁, b₂, b₃] => fragmentSize (ofBeBytes b₀ b₁ b₂ b₃)
  | _ => none

def readBody (header : Bool) (conn size : Nat) (received : Bytes) (s : EventLoop) :
    Ret × ReadBuffer × EventLoop :=
  let rbuf : ReadBuffer := ⟨conn, some (size, received)⟩
  match ans.body.upTo (size - received.length) with
  | .again => (.again, rbuf, s)
  | .failed => (.error, rbuf, s)
  | .data [] => (if header then .again else .error, rbuf, s)
  | .data bytes =>
    let received := received ++ bytes
    let rbuf : ReadBuffer := ⟨conn, some (size, received)⟩
    if received.length = size then
      let (ret, s) := gpQueryNew ans conn received s
      (ret, rbuf, s)
    else (.again, rbuf, s)

def readEvent (rbuf : ReadBuffer) (s : EventLoop) : Ret × ReadBuffer × EventLoop :=
  match rbuf.body with
  | some (size, received) => readBody ans false rbuf.conn size received s
  | none =>
    match ans.header.upTo 4 with
    | .again => (.again, rbuf, s)
    | .failed => (.error, rbuf, s)
    | .data bytes =>
      match headerSize bytes with
      | none => (.error, rbuf, s)
      | some size => if ans.malloc then readBody ans true rbuf.conn size [] s else (.error, rbuf, s)

def gpSocketRead (rbuf : ReadBuffer) (s : EventLoop) : EventLoop :=
  let (ret, rbuf, s) := readEvent ans rbuf s
  match ret with
  | .again => gpSocketScheduleRead ans rbuf s
  | .ok => s
  | .error => s.connFree rbuf.conn

def gpSocketScheduleWrite (wbuf : WriteBuffer) (s : EventLoop) : EventLoop :=
  if ans.addIo then s.hold (.writer wbuf) else s.connFree wbuf.conn

def gpSocketSendData (conn : Nat) (buffer : Bytes) (s : EventLoop) : EventLoop :=
  if ans.calloc then gpSocketScheduleWrite ans ⟨conn, buffer, 0⟩ s else s.connFree conn

def WriteBuffer.vectors (wbuf : WriteBuffer) : Bytes :=
  (if wbuf.pos = 0 then beBytes (UInt32.ofNat wbuf.data.length ||| FRAGMENT_BIT) else []) ++
    wbuf.data.drop wbuf.pos

def gpSocketWrite (wbuf : WriteBuffer) (s : EventLoop) : EventLoop :=
  match ans.writev with
  | .again => gpSocketScheduleWrite ans wbuf s
  | .failed => s.connFree wbuf.conn
  | .wrote n =>
    let sent := wbuf.vectors.take n
    let s := s.record wbuf.conn fun h => { h with written := h.written ++ sent }
    if wbuf.pos = 0 ∧ sent.length < 4 then s.connFree wbuf.conn
    else
      let wn := if wbuf.pos = 0 then sent.length - 4 else sent.length
      let wbuf := { wbuf with pos := wbuf.pos + wn }
      if wbuf.data.length > wbuf.pos then gpSocketScheduleWrite ans wbuf s
      else gpSetupReader ans wbuf.conn s

/-! ## The loop -/

def gpHandleReply (conn : Nat) (buffer : Bytes) (s : EventLoop) : EventLoop :=
  match ans.reply with
  | none => s.connFree conn
  | some reply =>
    gpSocketSendData ans conn reply
      (s.record conn fun h => { h with answered := h.answered ++ [(buffer, reply)] })

def callback : Holder → EventLoop → EventLoop
  | .reader rbuf => gpSocketRead ans rbuf
  | .query conn buffer => gpHandleReply ans conn buffer
  | .writer wbuf => gpSocketWrite ans wbuf

end

inductive Action where
  | accept (ans : Answers)
  /-- the holder in the given position is due: its event fires, or its query comes back -/
  | fire (i : Nat) (ans : Answers)
  deriving DecidableEq, Repr

/-- `accept_sock_conn`, or the callback of a holder. -/
def step (s : EventLoop) : Action → Option EventLoop
  | .accept ans => some (gpSetupReader ans s.accepted { s with accepted := s.accepted + 1 })
  | .fire i ans => s.holders[i]?.map fun h => callback ans h { s with holders := s.holders.eraseIdx i }

abbrev Reachable (s : EventLoop) : Prop := Reach step (fun _ _ => True) EventLoop.init s

/-! ## What a callback does with its connection -/

/-- A callback leaves this history of its connection and passes it to a holder or frees it. -/
def EventLoop.leave (s : EventLoop) (conn : Nat) (hist : History) : Option Holder → EventLoop
  | some h => (s.record conn fun _ => hist).hold h
  | none => (s.record conn fun _ => hist).connFree conn

def WriteBuffer.advance (wbuf : WriteBuffer) (n : Nat) : WriteBuffer :=
  let sent := (wbuf.vectors.take n).length
  { wbuf with pos := wbuf.pos + if wbuf.pos = 0 then sent - 4 else sent }

inductive Next (ans : Answers) : Holder → History → Option Holder → History → Prop where
  | rereads {rbuf rbuf' : ReadBuffer} {hist : History} (hconn : rbuf'.conn = rbuf.conn) :
    Next ans (.reader rbuf) hist (some (.reader rbuf')) hist
  | hangsUp {rbuf : ReadBuffer} {hist : History} : Next ans (.reader rbuf) hist none hist
  | requests {rbuf : ReadBuffer} {hist : History} (body : Bytes) :
    Next ans (.reader rbuf) hist (some (.query rbuf.conn body))
      { hist with requests := hist.requests ++ [body] }
  | refused {conn : Nat} {buffer : Bytes} {hist : History} : Next ans (.query conn buffer) hist none hist
  | dropped {conn : Nat} {buffer : Bytes} {hist : History} (reply : Bytes) :
    Next ans (.query conn buffer) hist none { hist with answered := hist.answered ++ [(buffer, reply)] }
  | replies {conn : Nat} {buffer : Bytes} {hist : History} (reply : Bytes) :
    Next ans (.query conn buffer) hist (some (.writer ⟨conn, reply, 0⟩))
      { hist with answered := hist.answered ++ [(buffer, reply)] }
  | stalls {wbuf : WriteBuffer} {hist : History} :
    Next ans (.writer wbuf) hist (some (.writer wbuf)) hist
  | breaks {wbuf : WriteBuffer} {hist : History} : Next ans (.writer wbuf) hist none hist
  | cut {wbuf : WriteBuffer} {hist : History} {n : Nat} (hwritev : ans.writev = .wrote n) :
    Next ans (.writer wbuf) hist none { hist with written := hist.written ++ wbuf.vectors.take n }
  | sends {wbuf : WriteBuffer} {hist : History} {n : Nat} (hwritev : ans.writev = .wrote n)
    (hheader : wbuf.pos = 0 → 4 ≤ (wbuf.vectors.take n).length)
    (hshort : (wbuf.advance n).pos < wbuf.data.length) :
    Next ans (.writer wbuf) hist (some (.writer (wbuf.advance n)))
      { hist with written := hist.written ++ wbuf.vectors.take n }
  | finishes {wbuf : WriteBuffer} {hist : History} {n : Nat} (hwritev : ans.writev = .wrote n)
    (hheader : wbuf.pos = 0 → 4 ≤ (wbuf.vectors.take n).length)
    (hwhole : wbuf.data.length ≤ (wbuf.advance n).pos) :
    Next ans (.writer wbuf) hist (some (.reader ⟨wbuf.conn, none⟩))
      { hist with written := hist.written ++ wbuf.vectors.take n }

section

variable (ans : Answers) (s : EventLoop)

@[simp] theorem leave_same_some (conn : Nat) (h : Holder) :
    s.leave conn (s.history conn) (some h) = s.hold h := by
  simp [EventLoop.leave, EventLoop.record, EventLoop.hold]

@[simp] theorem leave_same_none (conn : Nat) :
    s.leave conn (s.history conn) none = s.connFree conn := by
  simp [EventLoop.leave, EventLoop.record, EventLoop.connFree]

def ReadsTo (conn : Nat) : Ret × ReadBuffer × EventLoop → Prop
  | (.ok, _, s') => ∃ body, s' = s.leave conn
      { s.history conn with requests := (s.history conn).requests ++ [body] }
      (some (.query conn body))
  | (_, rbuf, s') => rbuf.conn = conn ∧ s' = s

theorem readBody_readsTo (header : Bool) (conn size : Nat) (received : Bytes) :
    ReadsTo s conn (readBody ans header conn size received s) := by
  unfold readBody
  split
  · exact ⟨rfl, rfl⟩
  · exact ⟨rfl, rfl⟩
  · cases header <;> exact ⟨rfl, rfl⟩
  · rename_i bytes _ _
    by_cases hs : (received ++ bytes).length = size
    · simp only [if_pos hs, gpQueryNew]
      cases ans.calloc
      · exact ⟨rfl, rfl⟩
      · exact ⟨received ++ bytes, rfl⟩
    · simp only [if_neg hs]; exact ⟨rfl, rfl⟩

theorem readEvent_readsTo (rbuf : ReadBuffer) : ReadsTo s rbuf.conn (readEvent ans rbuf s) := by
  unfold readEvent
  split
  · exact readBody_readsTo ..
  split
  · exact ⟨rfl, rfl⟩
  · exact ⟨rfl, rfl⟩
  · split
    · exact ⟨rfl, rfl⟩
    · split
      · exact readBody_readsTo ..
      · exact ⟨rfl, rfl⟩

theorem gpSocketRead_next (rbuf : ReadBuffer) :
    ∃ next hi, gpSocketRead ans rbuf s = s.leave rbuf.conn hi next ∧
      Next ans (.reader rbuf) (s.history rbuf.conn) next hi := by
  have hr := readEvent_readsTo ans s rbuf
  unfold gpSocketRead
  generalize readEvent ans rbuf s = r at hr
  obtain ⟨ret, rbuf', s'⟩ := r
  cases ret with
  | ok => obtain ⟨body, rfl⟩ := hr; exact ⟨_, _, rfl, .requests body⟩
  | again =>
    obtain ⟨hc, rfl⟩ := hr
    unfold gpSocketScheduleRead
    cases ans.addIo
    · exact ⟨none, _, by simp [hc], .hangsUp⟩
    · exact ⟨some (.reader rbuf'), _, by simp, .rereads hc⟩
  | error => obtain ⟨hc, rfl⟩ := hr; exact ⟨none, _, by simp [hc], .hangsUp⟩

theorem gpHandleReply_next (conn : Nat) (buffer : Bytes) :
    ∃ next hi, gpHandleReply ans conn buffer s = s.leave conn hi next ∧
      Next ans (.query conn buffer) (s.history conn) next hi := by
  unfold gpHandleReply
  cases ans.reply with
  | none => exact ⟨none, _, by simp, .refused⟩
  | some reply =>
    simp only [gpSocketSendData, gpSocketScheduleWrite]
    cases ans.calloc
    · exact ⟨none, _, rfl, .dropped reply⟩
    · cases ans.addIo
      · exact ⟨none, _, rfl, .dropped reply⟩
      · exact ⟨_, _, rfl, .replies reply⟩

theorem gpSocketWrite_next (wbuf : WriteBuffer) :
    ∃ next hi, gpSocketWrite ans wbuf s = s.leave wbuf.conn hi next ∧
      Next ans (.writer wbuf) (s.history wbuf.conn) next hi := by
  unfold gpSocketWrite
  cases hw : ans.writev with
  | again =>
    simp only [gpSocketScheduleWrite]
    cases ans.addIo
    · exact ⟨none, _, by simp, .breaks⟩
    · exact ⟨some (.writer wbuf), _, by simp, .stalls⟩
  | failed => exact ⟨none, _, by simp, .breaks⟩
  | wrote n =>
    by_cases hh : wbuf.pos = 0 ∧ (wbuf.vectors.take n).length < 4
    · simp only [if_pos hh]; exact ⟨none, _, rfl, .cut hw⟩
    have hf : wbuf.pos = 0 → 4 ≤ (wbuf.vectors.take n).length := by
      intro hp
      by_contra hlt
      exact hh ⟨hp, by omega⟩
    simp only [if_neg hh]
    by_cases hs : wbuf.data.length > (wbuf.advance n).pos
    · rw [if_pos (show wbuf.data.length > wbuf.pos + _ from hs)]
      unfold gpSocketScheduleWrite
      cases ans.addIo
      · exact ⟨none, _, rfl, .cut hw⟩
      · exact ⟨_, _, rfl, .sends hw hf hs⟩
    · rw [if_neg (show ¬ wbuf.data.length > wbuf.pos + _ from hs)]
      unfold gpSetupReader gpSocketScheduleRead
      cases ans.calloc
      · exact ⟨none, _, rfl, .cut hw⟩
      · cases ans.addIo
        · exact ⟨none, _, rfl, .cut hw⟩
        · exact ⟨_, _, rfl, .finishes hw hf (Nat.le_of_not_lt hs)⟩

theorem callback_next (h : Holder) :
    ∃ next hi, callback ans h s = s.leave h.conn hi next ∧
      Next ans h (s.history h.conn) next hi := by
  cases h with
  | reader rbuf => exact gpSocketRead_next ans s rbuf
  | query conn buffer => exact gpHandleReply_next ans s conn buffer
  | writer wbuf => exact gpSocketWrite_next ans s wbuf

end

inductive Transition (s : EventLoop) : Action → EventLoop → Prop where
  | opened {ans : Answers} : Transition s (.accept ans)
      ({ s with accepted := s.accepted + 1 }.hold (.reader ⟨s.accepted, none⟩))
  | aborted {ans : Answers} : Transition s (.accept ans)
      ({ s with accepted := s.accepted + 1 }.connFree s.accepted)
  | fired {i : Nat} {ans : Answers} {h : Holder} {next : Option Holder} {hist : History}
      (hget : s.holders[i]? = some h) (hnext : Next ans h (s.history h.conn) next hist) :
      Transition s (.fire i ans)
        ({ s with holders := s.holders.eraseIdx i }.leave h.conn hist next)

theorem step_transition {s s' : EventLoop} {a : Action} (h : step s a = some s') :
    Transition s a s' := by
  cases a with
  | accept ans =>
    cases h
    unfold gpSetupReader gpSocketScheduleRead
    cases ans.calloc
    · exact .aborted
    · cases ans.addIo
      · exact .aborted
      · exact .opened
  | fire i ans =>
    obtain ⟨ho, hg, rfl⟩ := Option.map_eq_some_iff.mp h
    obtain ⟨next, hi, hl, hn⟩ := callback_next ans { s with holders := s.holders.eraseIdx i } ho
    rw [hl]
    exact .fired hg hn

end GssProxy.Daemon
