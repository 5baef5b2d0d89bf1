import GssProxy.Daemon.WriteEvents

/-!
# Reading requests

The read events of one connection, fed by a byte stream that the kernel cuts up in any way.  A read of no
bytes means that the client has closed.  A header that does not come in one piece is refused.

* `requests_read`: the daemon reads the frames of the stream, one by one.
-/

namespace GssProxy.Daemon

open Codec Proto

/-! ## Events -/

inductive Grant where
  | again
  | bytes (more : Nat)
  deriving DecidableEq, Repr

def Grant.read (want : Nat) (stream : Bytes) : Grant → ReadResult × Bytes
  | .again => (.again, stream)
  | .bytes more => (.data (stream.take (min (more + 1) want)), stream.drop (min (more + 1) want))

/-- What a read event meets. -/
structure ReadEvent where
  header : Grant := .bytes 3
  body : Grant := .again
  malloc : Bool := true
  calloc : Bool := true
  addIo : Bool := true
  deriving DecidableEq, Repr

def ReadEvent.answers (ev : ReadEvent) : Answers :=
  { malloc := ev.malloc, calloc := ev.calloc, addIo := ev.addIo }

def ReadEvent.serve (ev : ReadEvent) (rbuf : ReadBuffer) (stream : Bytes) : Answers × Bytes :=
  match rbuf.body with
  | some (size, received) =>
    let (body, stream) := ev.body.read (size - received.length) stream
    ({ ev.answers with body := body }, stream)
  | none =>
    let (header, stream) := ev.header.read 4 stream
    match header with
    | .data bytes =>
      match headerSize bytes with
      | none => ({ ev.answers with header := header }, stream)
      | some size =>
        if ev.malloc then
          let (body, stream) := ev.body.read size stream
          ({ ev.answers with header := header, body := body }, stream)
        else ({ ev.answers with header := header }, stream)
    | _ => ({ ev.answers with header := header }, stream)

/-- Events on a connection whose reader is the only holder. -/
def readEvents : List ReadEvent → Bytes → EventLoop → Bytes × EventLoop
  | [], stream, s => (stream, s)
  | ev :: rest, stream, s =>
    match s.holders with
    | [.reader rbuf] =>
      let (ans, stream) := ev.serve rbuf stream
      readEvents rest stream (gpSocketRead ans rbuf { s with holders := [] })
    | _ => (stream, s)

/-- A read event, or the answer to the query. -/
inductive Move where
  | read (ev : ReadEvent)
  | answered
  deriving DecidableEq, Repr

/-- A connection from one request to the next. -/
def session : List Move → Bytes → EventLoop → Bytes × EventLoop
  | [], stream, s => (stream, s)
  | .read ev :: rest, stream, s =>
    let (stream, s) := readEvents [ev] stream s
    session rest stream s
  | .answered :: rest, stream, s =>
    match s.holders with
    | [.query conn _] => session rest stream { s with holders := [.reader ⟨conn, none⟩] }
    | _ => session rest stream s

def record (stream : Bytes) : Option (Bytes × Bytes) :=
  match headerSize (stream.take 4) with
  | none => none
  | some size =>
    let stream := stream.drop 4
    if 1 ≤ size ∧ size ≤ stream.length then some (stream.take size, stream.drop size) else none

def headerWhole : List ReadEvent → Bool
  | [] => true
  | ev :: rest =>
    match ev.header with
    | .again => headerWhole rest
    | .bytes more => 4 ≤ more + 1

def ReadEvent.served (ev : ReadEvent) : Bool := ev.malloc && ev.calloc && ev.addIo

def ReadEvent.ready (ev : ReadEvent) : Bool := ev.header != .again && ev.body != .again

/-! ## The body -/

def readDone (ans : Answers) : Ret × ReadBuffer × EventLoop → EventLoop
  | (.again, rbuf, s) => gpSocketScheduleRead ans rbuf s
  | (.ok, _, s) => s
  | (.error, rbuf, s) => s.connFree rbuf.conn

theorem gpSocketRead_eq (ans : Answers) (rbuf : ReadBuffer) (s : EventLoop) :
    gpSocketRead ans rbuf s = readDone ans (readEvent ans rbuf s) := by
  unfold gpSocketRead
  rcases readEvent ans rbuf s with ⟨ret, rbuf', s'⟩
  cases ret <;> rfl

/-- Where the reading of a body is: `pending` was to come after the header, `served` says whether
    there has been memory, `fired` counts the events that read something. -/
inductive BodyRead (s : EventLoop) (conn size : Nat) (pending : Bytes) (served : Bool) (fired : Nat) :
    Bytes → EventLoop → Prop where
  | reading {s' : EventLoop} {received stream : Bytes}
    (hholders : s'.holders = [.reader ⟨conn, some (size, received)⟩])
    (hreleased : s'.released = s.released) (hhistory : s'.history = s.history)
    (hpending : received ++ stream = pending) (hroom : received = [] ∨ received.length < size)
    (hfired : fired ≤ received.length) :
    BodyRead s conn size pending served fired stream s'
  | query {s' : EventLoop} {body stream : Bytes} (hholders : s'.holders = [.query conn body])
    (hreleased : s'.released = s.released)
    (hrequests : (s'.history conn).requests = (s.history conn).requests ++ [body])
    (hpending : body ++ stream = pending) (hbody : 1 ≤ body.length) (hsize : body.length = size) :
    BodyRead s conn size pending served fired stream s'
  | freed {s' : EventLoop} {stream : Bytes} (hholders : s'.holders = [])
    (hreleased : s'.released = s.released ++ [conn]) (hhistory : s'.history = s.history)
    (hstream : stream <:+ pending)
    (hwhy : served = false ∨ size = 0 ∨ pending.length < size) :
    BodyRead s conn size pending served fired stream s'

section

variable {s₀ s : EventLoop} {conn size fired : Nat} {received stream pending : Bytes}
  {served : Bool}

structure Taken (s₀ s : EventLoop) : Prop where
  holders : s.holders = []
  released : s.released = s₀.released
  history : s.history = s₀.history

theorem Taken.freed (h : Taken s₀ s) (hs : stream <:+ pending)
    (hw : served = false ∨ size = 0 ∨ pending.length < size) :
    BodyRead s₀ conn size pending served fired stream (s.connFree conn) :=
  .freed h.holders (congrArg (· ++ [conn]) h.released) h.history hs hw

theorem Taken.scheduled (h : Taken s₀ s) {ans : Answers} (hp : received ++ stream = pending)
    (hr : received = [] ∨ received.length < size) (hf : fired ≤ received.length)
    (hs : ans.addIo = false → served = false) :
    BodyRead s₀ conn size pending served fired stream
      (gpSocketScheduleRead ans ⟨conn, some (size, received)⟩ s) := by
  unfold gpSocketScheduleRead
  cases hio : ans.addIo with
  | true =>
    have hh : (s.hold (.reader ⟨conn, some (size, received)⟩)).holders =
        [.reader ⟨conn, some (size, received)⟩] := by
      rw [EventLoop.hold, h.holders]; rfl
    exact .reading hh h.released h.history hp hr hf
  | false => exact h.freed (hp ▸ List.suffix_append ..) (.inl (hs hio))

theorem Taken.queried (h : Taken s₀ s) {ans : Answers} {rbuf : ReadBuffer}
    (hc : rbuf.conn = conn) (hp : received ++ stream = pending)
    (hb : 1 ≤ received.length) (hsi : received.length = size)
    (hs : ans.calloc = false → served = false) :
    BodyRead s₀ conn size pending served fired stream
      (readDone ans ((gpQueryNew ans conn received s).1, rbuf,
        (gpQueryNew ans conn received s).2)) := by
  unfold gpQueryNew
  cases hm : ans.calloc with
  | true =>
    refine .query ?_ h.released ?_ hp hb hsi
    · simp [readDone, EventLoop.hold, EventLoop.record, h.holders]
    · simp [readDone, EventLoop.hold, EventLoop.record, h.history]
  | false =>
    subst hc
    exact h.freed (hp ▸ List.suffix_append ..) (.inl (hs hm))

theorem body_cut_short {n more : Nat} (hn : min (more + 1) (size - received.length) = n)
    (hb : stream.take n = []) (hr : received = [] ∨ received.length < size) :
    size = 0 ∨ (received ++ stream).length < size := by
  rcases List.take_eq_nil_iff.mp hb with hz | he
  · left
    rcases hr with rfl | hlt
    · simp only [List.length_nil] at hn; omega
    · omega
  · rw [he, List.append_nil]
    rcases hr with rfl | hlt
    · simp only [List.length_nil]; omega
    · exact .inr hlt

theorem BodyRead.event (ans : Answers) (ev : ReadEvent) (conn : Nat) (header served : Bool)
    (hbo : ans.body = (ev.body.read (size - received.length) stream).1)
    (hc : ans.calloc = ev.calloc) (had : ans.addIo = ev.addIo) (ht : Taken s₀ s)
    (hr : received = [] ∨ received.length < size) (hf : fired ≤ received.length) :
    BodyRead s₀ conn size (received ++ stream) (served && ev.served)
      (if header then fired else fired + if ev.ready then 1 else 0)
      (ev.body.read (size - received.length) stream).2
      (readDone ans (readBody ans header conn size received s)) := by
  have ha : ans.addIo = false → (served && ev.served) = false := by
    intro h; simp [ReadEvent.served, ← had, h]
  have hm : ans.calloc = false → (served && ev.served) = false := by
    intro h; simp [ReadEvent.served, ← hc, h]
  cases hg : ev.body with
  | again =>
    have hre : ev.ready = false := by simp [ReadEvent.ready, hg]
    simp only [hg, Grant.read] at hbo ⊢
    simp only [readBody, hbo, ReadResult.upTo, readDone, hre]
    refine ht.scheduled rfl hr ?_ ha
    simpa using hf
  | bytes more =>
    have hco : (if header then fired else fired + if ev.ready then 1 else 0) ≤ fired + 1 := by
      split
      · omega
      · split <;> omega
    simp only [hg, Grant.read] at hbo ⊢
    generalize hn : min (more + 1) (size - received.length) = n at hbo ⊢
    have hup : ReadResult.upTo (size - received.length) ans.body = .data (stream.take n) := by
      rw [hbo, ReadResult.upTo, List.take_take, Nat.min_eq_right (by omega)]
    cases hb : stream.take n with
    | nil =>
      have hrs : stream.drop n = stream := by
        have hs := List.take_append_drop n stream
        rwa [hb] at hs
      rw [hrs]
      simp only [readBody, hup, hb]
      cases header with
      | true => exact ht.scheduled rfl hr hf ha
      | false => exact ht.freed (List.suffix_append ..) (.inr (body_cut_short hn hb hr))
    | cons b bs =>
      have hl : (b :: bs).length ≤ size - received.length := by rw [← hb, List.length_take]; omega
      have hs : received ++ (b :: bs) ++ stream.drop n = received ++ stream := by
        rw [List.append_assoc, ← hb, List.take_append_drop]
      simp only [readBody, hup, hb]
      by_cases hsi : (received ++ (b :: bs)).length = size
      · simp only [if_pos hsi]
        refine ht.queried rfl hs ?_ hsi hm
        simp only [List.length_append, List.length_cons]; omega
      simp only [if_neg hsi]
      simp only [List.length_append, List.length_cons] at hsi hl
      refine ht.scheduled hs (.inr ?_) ?_ ha
      · simp only [List.length_append, List.length_cons]; omega
      · simp only [List.length_append, List.length_cons]; omega

theorem BodyRead.readEvents (events : List ReadEvent) :
    ∀ {s' : EventLoop} {stream : Bytes} {fired : Nat} {served : Bool},
      BodyRead s conn size pending served fired stream s' →
      BodyRead s conn size pending (served && events.all ReadEvent.served)
        (fired + events.countP ReadEvent.ready) (readEvents events stream s').1
        (readEvents events stream s').2 := by
  induction events with
  | nil => intro s' stream fired served h; simpa [Daemon.readEvents] using h
  | cons ev rest ih =>
    intro s' stream fired served h
    cases h with
    | reading hh hr hhi hp hro hf =>
      rename_i received
      subst hp
      have he := BodyRead.event (s := { s' with holders := [] })
        (ev.serve ⟨conn, some (size, received)⟩ stream).1 ev conn false served
        rfl rfl rfl ⟨rfl, hr, hhi⟩ hro hf
      have hrs := ih he
      simp only [Daemon.readEvents, hh]
      rw [List.all_cons, ← Bool.and_assoc, List.countP_cons, Nat.add_comm (rest.countP _),
        ← Nat.add_assoc, gpSocketRead_eq]
      exact hrs
    | query hh hr hre hp hb hsi =>
      simp only [Daemon.readEvents, hh]; exact .query hh hr hre hp hb hsi
    | freed hh hr hhi hs hw =>
      simp only [Daemon.readEvents, hh]
      exact .freed hh hr hhi hs (hw.imp_left fun h => by rw [h, Bool.false_and])

theorem BodyRead.unserved {served' : Bool} {s' : EventLoop}
    (h : BodyRead s conn size pending served fired stream s')
    (hs : served = false → served' = false) :
    BodyRead s conn size pending served' fired stream s' := by
  cases h with
  | reading hh hr hhi hp hro hf => exact .reading hh hr hhi hp hro hf
  | query hh hr hre hp hb hsi => exact .query hh hr hre hp hb hsi
  | freed hh hr hhi hst hw => exact .freed hh hr hhi hst (hw.imp_left hs)

/-! ## The header -/

inductive RecordRead (s : EventLoop) (conn : Nat) (stream₀ : Bytes) (whole served : Bool)
    (fired : Nat) : Bytes → EventLoop → Prop where
  | waiting {s' : EventLoop} (hholders : s'.holders = [.reader ⟨conn, none⟩])
    (hreleased : s'.released = s.released) (hhistory : s'.history = s.history)
    (hfired : fired = 0) :
    RecordRead s conn stream₀ whole served fired stream₀ s'
  | body {s' : EventLoop} {stream : Bytes} {size fired' : Nat} (hwhole : whole = true)
    (hsize : headerSize (stream₀.take 4) = some size) (hfired : fired ≤ fired' + 1)
    (hbody : BodyRead s conn size (stream₀.drop 4) served fired' stream s') :
    RecordRead s conn stream₀ whole served fired stream s'
  | refused {s' : EventLoop} {stream : Bytes} (hholders : s'.holders = [])
    (hreleased : s'.released = s.released ++ [conn]) (hhistory : s'.history = s.history)
    (hstream : stream <:+ stream₀)
    (hwhy : served = false ∨ whole = false ∨ headerSize (stream₀.take 4) = none) :
    RecordRead s conn stream₀ whole served fired stream s'

theorem RecordRead.unserved {stream₀ : Bytes} {whole served' : Bool} {s' : EventLoop}
    (h : RecordRead s conn stream₀ whole served fired stream s')
    (hs : served = false → served' = false) :
    RecordRead s conn stream₀ whole served' fired stream s' := by
  cases h with
  | waiting hho hr hh hf => exact .waiting hho hr hh hf
  | body hw hsi hf hb => exact .body hw hsi hf (hb.unserved hs)
  | refused hho hr hh hst hwh => exact .refused hho hr hh hst (hwh.imp_left hs)

theorem headerSize_of_length_ne {bytes : Bytes} (hl : bytes.length ≠ 4) :
    headerSize bytes = none := by
  unfold headerSize
  split
  · exact absurd rfl hl
  · rfl

theorem readEvents_of_free (events : List ReadEvent) (stream : Bytes) (hf : s.holders = []) :
    readEvents events stream s = (stream, s) := by
  cases events with
  | nil => rfl
  | cons ev rest => simp [Daemon.readEvents, hf]

theorem header_cases {ev : ReadEvent} {more : Nat} (conn : Nat) (stream : Bytes)
    (hg : ev.header = .bytes more) (ht : Taken s₀ s) :
    let next := ev.serve ⟨conn, none⟩ stream
    gpSocketRead next.1 ⟨conn, none⟩ s = s.connFree conn ∧ next.2 <:+ stream ∧
        (ev.served = false ∨ ¬ 4 ≤ more + 1 ∨ headerSize (stream.take 4) = none) ∨
      4 ≤ more + 1 ∧ ∃ size, headerSize (stream.take 4) = some size ∧
        BodyRead s₀ conn size (stream.drop 4) ev.served 0 next.2
          (gpSocketRead next.1 ⟨conn, none⟩ s) := by
  intro next
  rw [gpSocketRead_eq]
  by_cases hf : 4 ≤ more + 1
  · have hr : ev.header.read 4 stream = (.data (stream.take 4), stream.drop 4) := by
      rw [hg, Grant.read, Nat.min_eq_right hf]
    cases hs : headerSize (stream.take 4) with
    | none =>
      refine .inl ⟨?_, ?_, .inr (.inr rfl)⟩
      · simp [next, ReadEvent.serve, hr, hs, readEvent, ReadResult.upTo, List.take_take, readDone]
      · simp only [next, ReadEvent.serve, hr, hs]; exact List.drop_suffix ..
    | some size =>
      cases hm : ev.malloc with
      | false =>
        refine .inl ⟨?_, ?_, .inl (by simp [ReadEvent.served, hm])⟩
        · simp [next, ReadEvent.serve, hr, hs, hm, ReadEvent.answers, readEvent, ReadResult.upTo,
            List.take_take, readDone]
        · simp only [next, ReadEvent.serve, hr, hs, hm, Bool.false_eq_true, if_false]
          exact List.drop_suffix ..
      | true =>
        refine .inr ⟨hf, size, rfl, ?_⟩
        simp only [next, ReadEvent.serve, hr, hs, hm, ReadEvent.answers, readEvent,
          ReadResult.upTo, List.take_take, Nat.min_self, if_true]
        exact BodyRead.event
          { header := .data (stream.take 4), body := (ev.body.read size (stream.drop 4)).1,
            malloc := true, calloc := ev.calloc, addIo := ev.addIo }
          ev conn true true rfl rfl rfl ht (.inl rfl) (Nat.zero_le _)
  · have hs : headerSize (stream.take (min (more + 1) 4)) = none :=
      headerSize_of_length_ne (by rw [List.length_take]; omega)
    refine .inl ⟨?_, ?_, .inr (.inl hf)⟩
    · simp [next, ReadEvent.serve, hg, Grant.read, hs, readEvent, ReadResult.upTo, List.take_take,
        Nat.min_comm 4, readDone]
    · simp only [next, ReadEvent.serve, hg, Grant.read, hs]; exact List.drop_suffix ..

theorem RecordRead.readEvents (stream : Bytes) (events : List ReadEvent) :
    ∀ {s : EventLoop}, s.holders = [.reader ⟨conn, none⟩] → s.released = s₀.released →
      s.history = s₀.history →
      RecordRead s₀ conn stream (headerWhole events) (events.all ReadEvent.served)
        (events.countP ReadEvent.ready) (readEvents events stream s).1
        (readEvents events stream s).2 := by
  induction events with
  | nil => exact fun hho hr hh => .waiting hho hr hh rfl
  | cons ev rest ih =>
    intro s hho hr hh
    have hf : ∀ {stream' : Bytes}, stream' <:+ stream →
        ((ev :: rest).all ReadEvent.served = false ∨ headerWhole (ev :: rest) = false ∨
          headerSize (stream.take 4) = none) →
        RecordRead s₀ conn stream (headerWhole (ev :: rest)) ((ev :: rest).all ReadEvent.served)
          ((ev :: rest).countP ReadEvent.ready)
          (Daemon.readEvents rest stream' (EventLoop.connFree conn { s with holders := [] })).1
          (Daemon.readEvents rest stream' (EventLoop.connFree conn { s with holders := [] })).2 := by
      intro stream' hs hwh
      rw [readEvents_of_free rest stream' rfl]
      exact .refused rfl (congrArg (· ++ [conn]) hr) hh hs hwh
    have hse : ev.served = false → (ev :: rest).all ReadEvent.served = false := by intro h; simp [h]
    simp only [Daemon.readEvents, hho]
    cases hg : ev.header with
    | again =>
      have hw : headerWhole (ev :: rest) = headerWhole rest := by simp [headerWhole, hg]
      have hre : ev.ready = false := by simp [ReadEvent.ready, hg]
      simp only [gpSocketRead_eq, ReadEvent.serve, hg, Grant.read, readEvent, ReadResult.upTo,
        readDone, gpSocketScheduleRead, ReadEvent.answers]
      cases hio : ev.addIo with
      | true =>
        rw [hw, List.countP_cons_of_neg (by simp [hre])]
        exact (ih (s := EventLoop.hold (.reader ⟨conn, none⟩) { s with holders := [] })
          rfl hr hh).unserved fun hrs => by simp [hrs]
      | false => exact hf List.suffix_rfl (.inl (hse (by simp [ReadEvent.served, hio])))
    | bytes more =>
      have hw : headerWhole (ev :: rest) = decide (4 ≤ more + 1) := by simp [headerWhole, hg]
      have hc : (ev :: rest).countP ReadEvent.ready ≤ rest.countP ReadEvent.ready + 1 := by
        rw [List.countP_cons]
        split <;> omega
      have ht : Taken s₀ { s with holders := [] } := ⟨rfl, hr, hh⟩
      rcases header_cases conn stream hg ht with
        ⟨hgo, hs, hwh⟩ | ⟨hfo, size, hsi, hb⟩
      · rw [hgo]
        refine hf hs ?_
        rcases hwh with hno | hsh | hn
        · exact .inl (hse hno)
        · exact .inr (.inl (by rw [hw, decide_eq_false hsh]))
        · exact .inr (.inr hn)
      · refine .body (by rw [hw, decide_eq_true hfo]) hsi hc ?_
        simpa using hb.readEvents rest

/-! ## One record -/

/-- The next request of the stream, if its header is read in one piece. -/
def expected (events : List ReadEvent) (stream : Bytes) : Option (Bytes × Bytes) :=
  if headerWhole events then record stream else none

theorem BodyRead.query_take {body : Bytes} (hp : body ++ stream = pending)
    (hs : body.length = size) : body = pending.take size ∧ stream = pending.drop size := by
  subst hp hs
  simp

variable {events : List ReadEvent}

theorem expected_eq_some_iff {body after : Bytes} :
    expected events stream = some (body, after) ↔
      headerWhole events = true ∧ ∃ size, headerSize (stream.take 4) = some size ∧ 1 ≤ size ∧
        size ≤ (stream.drop 4).length ∧ body = (stream.drop 4).take size ∧
        after = (stream.drop 4).drop size := by
  unfold expected record
  cases headerSize (stream.take 4) with
  | none => simp
  | some size =>
    by_cases hb : 1 ≤ size ∧ size ≤ (stream.drop 4).length
    · simp only [if_pos hb, Option.ite_none_right_eq_some, Option.some.injEq, Prod.mk.injEq]
      constructor
      · rintro ⟨hw, rfl, rfl⟩; exact ⟨hw, size, rfl, hb.1, hb.2, rfl, rfl⟩
      · rintro ⟨hw, size', rfl, -, -, rfl, rfl⟩; exact ⟨hw, rfl, rfl⟩
    · simp only [if_neg hb, ite_self, reduceCtorEq, false_iff]
      rintro ⟨-, size', hs, hp, hl, -⟩
      cases hs
      exact hb ⟨hp, hl⟩

theorem four_le_of_headerSize (hs : headerSize (stream.take 4) = some size) :
    4 ≤ stream.length := by
  by_contra hsh
  rw [headerSize_of_length_ne (by rw [List.length_take]; omega)] at hs
  cases hs

theorem BodyRead.not_reading {fired' : Nat}
    (hs : headerSize (stream.take 4) = some size) (hp : received ++ pending = stream.drop 4)
    (hf' : events.countP ReadEvent.ready ≤ fired' + 1) (hf : fired' ≤ received.length) :
    events.countP ReadEvent.ready ≤ stream.length := by
  have hfo := four_le_of_headerSize hs
  have hl := congrArg List.length hp
  rw [List.length_append, List.length_drop] at hl
  omega

theorem RecordRead.of_some {stream₀ body after : Bytes} {s' : EventLoop}
    (h : RecordRead s conn stream₀ (headerWhole events) true (events.countP ReadEvent.ready)
      stream s') (he : expected events stream₀ = some (body, after))
    (hra : stream₀.length < events.countP ReadEvent.ready) :
    s'.holders = [.query conn body] ∧ stream = after ∧
      (s'.history conn).requests = (s.history conn).requests ++ [body] := by
  obtain ⟨hwh, size, hs, hpo, hlo, rfl, rfl⟩ := expected_eq_some_iff.mp he
  cases h with
  | waiting => omega
  | body hwh' hs' hf' hb =>
    rw [hs] at hs'
    cases hs'
    cases hb with
    | reading hh hr hhi hp hro hf =>
      exact absurd hra (Nat.not_lt.mpr (BodyRead.not_reading hs hp hf' hf))
    | query hh hr hre hp hb hl =>
      obtain ⟨rfl, rfl⟩ := BodyRead.query_take hp hl; exact ⟨hh, rfl, hre⟩
    | freed hh hr hhi hst hw =>
      rcases hw with hse | hz | hsh
      · cases hse
      · omega
      · omega
  | refused hh hr hhi hst hw =>
    rw [hwh, hs] at hw
    simp at hw

theorem RecordRead.of_none {stream₀ : Bytes} {s' : EventLoop}
    (h : RecordRead s conn stream₀ (headerWhole events) served (events.countP ReadEvent.ready)
      stream s') (he : expected events stream₀ = none) :
    s'.history = s.history ∧ (stream₀.length < events.countP ReadEvent.ready →
      s'.holders = [] ∧ s'.released = s.released ++ [conn]) := by
  cases h with
  | waiting hho hr hh hf => exact ⟨hh, fun hre => by omega⟩
  | body hw hs hf' hb =>
    cases hb with
    | reading hho hr hh hp hro hf =>
      refine ⟨hh, fun hre => ?_⟩
      exact absurd hre (Nat.not_lt.mpr (BodyRead.not_reading hs hp hf' hf))
    | query hho hr hrq hp hb hl =>
      -- the stream would have a record
      obtain ⟨rfl, rfl⟩ := BodyRead.query_take hp hl
      have hso := expected_eq_some_iff.mpr
        ⟨hw, _, hs, hl ▸ hb, hl ▸ List.length_take_le' .., rfl, rfl⟩
      rw [he] at hso; cases hso
    | freed hho hr hh => exact ⟨hh, fun _ => ⟨hho, hr⟩⟩
  | refused hho hr hh => exact ⟨hh, fun _ => ⟨hho, hr⟩⟩

end

/-! ## Sessions -/

theorem parseHeader_of_fragmentSize {word : UInt32} {size : Nat} (h : fragmentSize word = some size) :
    parseHeader word = .ok size := by
  unfold fragmentSize at h
  unfold parseHeader
  split at h
  · cases h
  rename_i hb
  rw [if_neg hb]
  simp only at h ⊢
  split at h
  · cases h
  · rename_i hl
    rw [if_neg hl]
    cases h; rfl

theorem headerSize_eq_some {bytes : Bytes} {size : Nat} (h : headerSize bytes = some size) :
    bytes = encodeHeader size ∧ size ≤ MAX_RPC_SIZE := by
  unfold headerSize at h
  split at h
  · have hp := parseHeader_of_fragmentSize h
    have hb := beBytes_of_parseHeader hp
    rw [beBytes_ofBeBytes] at hb
    exact ⟨hb, parseHeader_le hp⟩
  · cases h

structure Requests (s₀ : EventLoop) (conn : Nat) (stream₀ : Bytes) (requests : List Bytes)
    (taken stream : Bytes) (s : EventLoop) : Prop where
  requests_eq : (s.history conn).requests = (s₀.history conn).requests ++ requests
  stream_eq : stream₀ = requests.flatMap frame ++ taken ++ stream
  sizes : ∀ body ∈ requests, 1 ≤ body.length ∧ body.length ≤ MAX_RPC_SIZE

inductive InSession (s₀ : EventLoop) (conn : Nat) (stream₀ stream : Bytes) (s : EventLoop) : Prop where
  | waiting {requests : List Bytes} (hholders : s.holders = [.reader ⟨conn, none⟩])
    (h : Requests s₀ conn stream₀ requests [] stream s)
  | reading {requests : List Bytes} {size : Nat} {received : Bytes}
    (hholders : s.holders = [.reader ⟨conn, some (size, received)⟩])
    (hroom : received = [] ∨ received.length < size) (hsize : size ≤ MAX_RPC_SIZE)
    (h : Requests s₀ conn stream₀ requests (encodeHeader size ++ received) stream s)
  | query {requests : List Bytes} {body : Bytes} (hholders : s.holders = [.query conn body])
    (h : Requests s₀ conn stream₀ (requests ++ [body]) [] stream s)
  | freed {requests : List Bytes} {taken : Bytes} (hholders : s.holders = [])
    (h : Requests s₀ conn stream₀ requests taken stream s)

section

variable {s₀ s s' : EventLoop} {conn size fired : Nat} {stream₀ stream stream' pending : Bytes}
  {requests : List Bytes} {served whole : Bool}

theorem BodyRead.inSession (hsz : size ≤ MAX_RPC_SIZE)
    (hr : (s.history conn).requests = (s₀.history conn).requests ++ requests)
    (hs : stream₀ = requests.flatMap frame ++ (encodeHeader size ++ pending))
    (hsi : ∀ body ∈ requests, 1 ≤ body.length ∧ body.length ≤ MAX_RPC_SIZE)
    (h : BodyRead s conn size pending served fired stream s') :
    InSession s₀ conn stream₀ stream s' := by
  cases h with
  | reading hh hre hhi hp hro hf =>
    refine .reading hh hro hsz ⟨by rw [hhi, hr], ?_, hsi⟩
    rw [hs, ← hp]; simp
  | query hh hre hr' hp hb hl =>
    rename_i body
    refine .query hh (show Requests s₀ conn stream₀ (requests ++ [body]) [] stream s' from ?_)
    refine ⟨?_, ?_, ?_⟩
    · rw [hr', hr, List.append_assoc]
    · rw [hs, ← hp, ← hl]; simp [frame]
    · intro body hm
      rcases List.mem_append.mp hm with hm | hm
      · exact hsi body hm
      · rw [List.mem_singleton.mp hm]; exact ⟨hb, hl ▸ hsz⟩
  | freed hh hre hhi hsu hw =>
    obtain ⟨taken, ht⟩ := hsu
    refine .freed hh
      (show Requests s₀ conn stream₀ requests (encodeHeader size ++ taken) stream s' from
        ⟨by rw [hhi, hr], ?_, hsi⟩)
    rw [hs, ← ht]; simp

theorem RecordRead.inSession (h : Requests s₀ conn stream₀ requests [] stream s)
    (hre : RecordRead s conn stream whole served fired stream' s') :
    InSession s₀ conn stream₀ stream' s' := by
  have hs := h.stream_eq
  rw [List.append_nil] at hs
  cases hre with
  | waiting hho hr hh hf => exact .waiting hho ⟨by rw [hh, h.requests_eq], h.stream_eq, h.sizes⟩
  | body hw hsi hf hb =>
    obtain ⟨hhe, hm⟩ := headerSize_eq_some hsi
    refine hb.inSession hm h.requests_eq ?_ h.sizes
    rw [← hhe, List.take_append_drop, hs]
  | refused hho hr hh hsu hwh =>
    obtain ⟨taken, rfl⟩ := hsu
    exact .freed hho ⟨by rw [hh, h.requests_eq], by rw [hs, List.append_assoc], h.sizes⟩

theorem InSession.read (h : InSession s₀ conn stream₀ stream s) (ev : ReadEvent) :
    InSession s₀ conn stream₀ (readEvents [ev] stream s).1 (readEvents [ev] stream s).2 := by
  cases h with
  | waiting hh h => exact (RecordRead.readEvents stream [ev] hh rfl rfl).inSession h
  | reading hh hr hs h =>
    rename_i requests size received
    have hb : BodyRead s conn size (received ++ stream) true 0 stream s :=
      .reading hh rfl rfl rfl hr (Nat.zero_le _)
    refine (hb.readEvents [ev]).inSession hs h.requests_eq ?_ h.sizes
    rw [h.stream_eq]; simp
  | query hh h => simp only [readEvents, hh]; exact .query hh h
  | freed hh h => simp only [readEvents, hh]; exact .freed hh h

theorem InSession.session (moves : List Move) : ∀ {stream : Bytes} {s : EventLoop},
    InSession s₀ conn stream₀ stream s →
      InSession s₀ conn stream₀ (session moves stream s).1 (session moves stream s).2 := by
  induction moves with
  | nil => exact fun h => h
  | cons move rest ih =>
    intro stream s h
    cases move with
    | read ev => exact ih (h.read ev)
    | answered =>
      unfold Daemon.session
      split
      · rename_i conn' body hq
        cases h with
        | query hh h =>
          rw [hq] at hh
          cases hh
          exact ih (.waiting rfl ⟨h.requests_eq, h.stream_eq, h.sizes⟩)
        | waiting hh => simp [hq] at hh
        | reading hh => simp [hq] at hh
        | freed hh => simp [hq] at hh
      · exact ih h

end

/-- **Requests of a stream.**  Whatever the events, the queries of a connection are the bodies of
    consecutive frames of its stream, each of an allowed size.  With enough bytes ready the next
    frame is read, if its header is read in one piece; else nothing is, and the connection is given
    up. -/
theorem requests_read (s : EventLoop) (conn : Nat) (stream : Bytes) (moves : List Move)
    (hreader : s.holders = [.reader ⟨conn, none⟩]) :
    (∃ requests taken, stream = requests.flatMap frame ++ taken ++ (session moves stream s).1 ∧
      ((session moves stream s).2.history conn).requests = (s.history conn).requests ++ requests ∧
      (∀ body ∈ requests, 1 ≤ body.length ∧ body.length ≤ MAX_RPC_SIZE) ∧
      (∀ body, (session moves stream s).2.holders = [.query conn body] →
        requests.getLast? = some body ∧ taken = []) ∧
      ((session moves stream s).2.holders = [.reader ⟨conn, none⟩] → taken = [])) ∧
    ∀ s' stream' events, session moves stream s = (stream', s') →
      s'.holders = [.reader ⟨conn, none⟩] →
      (∀ body after, expected events stream' = some (body, after) →
        (∀ ev ∈ events, ev.served) → stream'.length < events.countP ReadEvent.ready →
        (readEvents events stream' s').2.holders = [.query conn body] ∧
        (readEvents events stream' s').1 = after ∧
        ((readEvents events stream' s').2.history conn).requests =
          (s'.history conn).requests ++ [body]) ∧ (expected events stream' = none →
        (readEvents events stream' s').2.history = s'.history ∧
        (stream'.length < events.countP ReadEvent.ready →
          (readEvents events stream' s').2.holders = [] ∧
          (readEvents events stream' s').2.released = s'.released ++ [conn])) := by
  have hst : Requests s conn stream [] [] stream s := ⟨by simp, by simp, by simp⟩
  have hs := InSession.session moves (.waiting hreader hst)
  refine ⟨?_, ?_⟩
  · cases hs with
    | waiting hh h =>
      refine ⟨_, _, h.stream_eq, h.requests_eq, h.sizes, ?_, fun _ => rfl⟩
      intro body hq
      simp [hh] at hq
    | reading hh hro hsi h =>
      refine ⟨_, _, h.stream_eq, h.requests_eq, h.sizes, ?_, ?_⟩
      · intro body hq
        simp [hh] at hq
      · intro hw
        simp [hh] at hw
    | query hh h =>
      refine ⟨_, _, h.stream_eq, h.requests_eq, h.sizes, ?_, fun _ => rfl⟩
      intro body hq
      rw [hh] at hq
      cases hq
      exact ⟨List.getLast?_concat .., rfl⟩
    | freed hh h =>
      refine ⟨_, _, h.stream_eq, h.requests_eq, h.sizes, ?_, ?_⟩
      · intro body hq
        simp [hh] at hq
      · intro hw
        simp [hh] at hw
  · intro s' stream' events _ hh
    have hr := RecordRead.readEvents stream' events hh rfl rfl
    refine ⟨?_, hr.of_none⟩
    intro body after he hse hre
    rw [List.all_eq_true.mpr hse] at hr
    exact hr.of_some he hre

/-- Two records, the first in one event and the second byte by byte. -/
theorem second_request_read :
    let s : EventLoop := { EventLoop.init with accepted := 1, holders := [.reader ⟨0, none⟩] }
    let next := session [.read { body := .bytes 9 }, .answered]
      [0x80, 0, 0, 1, 7, 0x80, 0, 0, 2, 8, 9] s
    (next.2.history 0).requests = [[7]] ∧
      (readEvents (List.replicate 7 { body := .bytes 0 }) next.1 next.2).2.holders =
        [.query 0 [8, 9]] := by
  intro s next
  obtain ⟨-, hr⟩ := requests_read s 0 [0x80, 0, 0, 1, 7, 0x80, 0, 0, 2, 8, 9]
    [.read { body := .bytes 9 }, .answered] rfl
  obtain ⟨hre, -⟩ := hr next.2 next.1 (List.replicate 7 { body := .bytes 0 }) rfl (by decide)
  exact ⟨by decide, (hre [8, 9] [] (by decide) (by decide) (by decide)).1⟩

end GssProxy.Daemon
