import GssProxy.Daemon.Ownership

/-!
# Writing a reply

The write events of one reply.  The position in the buffer counts the body only: after a `writev` that
takes just the header it is still zero, and the header is sent once more.

* `reply_written`: what is written under any sequence of results of `writev`.
-/

namespace GssProxy.Daemon

open Codec Proto

/-! ## Events -/

def writeEvents : List Answers → EventLoop → EventLoop
  | [], s => s
  | ans :: rest, s =>
    match s.holders with
    | [.writer wbuf] => writeEvents rest (gpSocketWrite ans wbuf { s with holders := [] })
    | _ => s

/-- A reply is sent, and these events write it. -/
def sendReply (ans : Answers) (conn : Nat) (body : Bytes) (events : List Answers) (s : EventLoop) :
    EventLoop :=
  writeEvents events (gpSocketSendData ans conn body s)

/-- The size of the first write that takes something. -/
def firstWrite : List Answers → Option Nat
  | [] => none
  | ans :: rest =>
    match ans.writev with
    | .wrote n => some n
    | _ => firstWrite rest

/-! ## Progress -/

inductive Progress (s₀ : EventLoop) (conn : Nat) (body : Bytes) (extra : Nat) : EventLoop → Prop where
  | writing {s : EventLoop} (pos : Nat) (hpos : pos = 0 ∨ pos < body.length)
    (hholders : s.holders = [.writer ⟨conn, body, pos⟩]) (hreleased : s.released = s₀.released)
    (hlength : (s.history conn).written.length =
      (s₀.history conn).written.length + extra + (WriteBuffer.mk conn body pos).sent)
    (hwritten : extra = 0 → (s.history conn).written =
      (s₀.history conn).written ++ (frame body).take (WriteBuffer.mk conn body pos).sent) :
    Progress s₀ conn body extra s
  | rearmed {s : EventLoop} (hholders : s.holders = [.reader ⟨conn, none⟩])
    (hreleased : s.released = s₀.released)
    (hlength : (s.history conn).written.length =
      (s₀.history conn).written.length + extra + (frame body).length)
    (hwritten : extra = 0 → (s.history conn).written = (s₀.history conn).written ++ frame body) :
    Progress s₀ conn body extra s
  | closed {s : EventLoop} (hholders : s.holders = []) (hreleased : s.released = s₀.released ++ [conn]) :
    Progress s₀ conn body extra s

section

variable {s₀ s : EventLoop} {conn pos extra : Nat} {body : Bytes} {ans : Answers}

theorem Progress.header (hh : HeaderOnly ans ⟨conn, body, pos⟩) (hr : s.released = s₀.released)
    (hl : (s.history conn).written.length =
      (s₀.history conn).written.length + extra + (WriteBuffer.mk conn body pos).sent) :
    Progress s₀ conn body (extra + 4)
      (gpSocketWrite ans ⟨conn, body, pos⟩ { s with holders := [] }) := by
  obtain ⟨hp, hd, hw⟩ := hh
  subst hp
  have hf : ((WriteBuffer.mk conn body 0).vectors.take 4).length = 4 := by
    rw [vectors_eq, List.length_take, List.length_drop, length_frame, WriteBuffer.sent, if_pos rfl]
    omega
  have hm : body.length > 0 := List.length_pos_iff.mpr hd
  simp only [gpSocketWrite, hw, hf, true_and, Nat.lt_irrefl, if_false, if_true,
    Nat.sub_self, Nat.add_zero, if_pos hm, gpSocketScheduleWrite]
  cases ans.addIo with
  | false => exact .closed rfl (congrArg (· ++ [conn]) hr)
  | true =>
    refine .writing 0 (.inl rfl) rfl hr ?_ (fun he => absurd he (by omega))
    simp only [if_true, EventLoop.hold, EventLoop.record, Function.update_self, List.length_append,
      hl, hf]
    omega

theorem sent_lt_length_frame (conn : Nat) (hp : pos = 0 ∨ pos < body.length) :
    (WriteBuffer.mk conn body pos).sent < (frame body).length := by
  rw [length_frame, WriteBuffer.sent]
  split
  · exact Nat.lt_add_right _ (Nat.zero_lt_succ 3)
  rename_i hne
  have hlt := hp.resolve_left hne
  simp only
  omega

theorem Progress.advance (hhe : ¬ HeaderOnly ans ⟨conn, body, pos⟩)
    (hp : pos = 0 ∨ pos < body.length) (hr : s.released = s₀.released)
    (hl : (s.history conn).written.length =
      (s₀.history conn).written.length + extra + (WriteBuffer.mk conn body pos).sent)
    (hw : extra = 0 → (s.history conn).written =
      (s₀.history conn).written ++ (frame body).take (WriteBuffer.mk conn body pos).sent) :
    Progress s₀ conn body extra (gpSocketWrite ans ⟨conn, body, pos⟩ { s with holders := [] }) := by
  obtain ⟨next, hi, hle, hn⟩ := gpSocketWrite_next ans { s with holders := [] } ⟨conn, body, pos⟩
  rw [hle]
  have hh : ∀ next', (({ s with holders := [] } : EventLoop).leave conn hi next').history conn =
      hi := by
    intro next'
    cases next' <;> simp [EventLoop.leave, EventLoop.record, EventLoop.hold, EventLoop.connFree]
  cases hn with
  | stalls =>
    exact .writing pos hp rfl hr (by rw [hh]; exact hl)
      (by rw [hh]; exact hw)
  | breaks | cut _ => exact .closed rfl (congrArg (· ++ [conn]) hr)
  | sends hwr hf hs =>
    rename_i n
    have hse := sent_advance hhe hwr hf hs
    have hb : WriteBuffer.mk conn body (WriteBuffer.advance ⟨conn, body, pos⟩ n).pos =
      WriteBuffer.advance ⟨conn, body, pos⟩ n := rfl
    refine .writing (WriteBuffer.advance ⟨conn, body, pos⟩ n).pos (.inr hs) rfl hr ?_ ?_
    · rw [hh, hb, List.length_append]
      simp only [hl]; omega
    · intro he
      rw [hh, hb, hse]
      simp only [hw he]
      rw [List.append_assoc, take_vectors]
  | finishes hwr hf hwh =>
    rename_i n
    have ha := (take_vectors ⟨conn, body, pos⟩ n).trans (take_finished hf hwh)
    have hla : _ = (frame body).length := congrArg List.length ha
    rw [List.length_append, List.length_take,
      Nat.min_eq_left (Nat.le_of_lt (sent_lt_length_frame conn hp))] at hla
    refine .rearmed rfl hr ?_ ?_
    · rw [hh, List.length_append]
      simp only [hl]; omega
    · intro he
      rw [hh]
      simp only [hw he]
      rw [List.append_assoc]
      exact congrArg _ ha

/-! ## Runs -/

theorem writeEvents_extends (conn : Nat) (events : List Answers) :
    ∀ s : EventLoop, (s.history conn).written <+: ((writeEvents events s).history conn).written := by
  induction events with
  | nil => exact fun s => List.prefix_rfl
  | cons ans rest ih =>
    intro s
    unfold writeEvents
    split
    · rename_i wbuf _
      refine List.IsPrefix.trans ?_ (ih _)
      obtain ⟨next, hi, hl, hn⟩ := gpSocketWrite_next ans { s with holders := [] } wbuf
      rw [hl]
      have hh : (s.history wbuf.conn).written <+: hi.written := by
        cases hn with
        | stalls | breaks => exact List.prefix_rfl
        | cut | sends => exact List.prefix_append ..
        | finishes => exact List.prefix_append ..
      have hle : (({ s with holders := [] } : EventLoop).leave wbuf.conn hi next).history =
          Function.update s.history wbuf.conn hi := by
        cases next <;> rfl
      rw [hle]
      by_cases hc : conn = wbuf.conn
      · subst hc; rwa [Function.update_self]
      · have hs : Function.update s.history wbuf.conn hi conn = s.history conn :=
          Function.update_of_ne hc ..
        exact hs ▸ List.prefix_rfl
    · exact List.prefix_rfl

def Clean (events : List Answers) (s : EventLoop) : Prop :=
  ∀ wbuf, s.holders = [.writer wbuf] → wbuf.pos = 0 → firstWrite events ≠ some 4

theorem wrote_holders {wbuf wbuf' : WriteBuffer} {n : Nat} (hw : ans.writev = .wrote n)
    (hh : (gpSocketWrite ans wbuf { s with holders := [] }).holders = [.writer wbuf']) :
    wbuf' = wbuf.advance n ∧ (wbuf.pos = 0 → 4 ≤ (wbuf.vectors.take n).length) ∧
      (wbuf.advance n).pos < wbuf.data.length := by
  simp only [gpSocketWrite, hw] at hh
  split at hh
  · cases hh
  rename_i hhe
  have hf : wbuf.pos = 0 → 4 ≤ (wbuf.vectors.take n).length :=
    fun hp => Nat.le_of_not_lt fun hlt => hhe ⟨hp, hlt⟩
  by_cases hs : wbuf.data.length > (wbuf.advance n).pos
  · rw [if_pos (show wbuf.data.length > wbuf.pos + _ from hs), gpSocketScheduleWrite]
      at hh
    split at hh
    · cases hh; exact ⟨rfl, hf, hs⟩
    · cases hh
  · rw [if_neg (show ¬ wbuf.data.length > wbuf.pos + _ from hs), gpSetupReader,
      gpSocketScheduleRead] at hh
    repeat' split at hh
    all_goals cases hh

theorem Clean.step {rest : List Answers} (hc : pos = 0 → firstWrite (ans :: rest) ≠ some 4) :
    Clean rest (gpSocketWrite ans ⟨conn, body, pos⟩ { s with holders := [] }) := by
  intro wbuf hh hz
  cases hw : ans.writev with
  | again =>
    have hf : firstWrite (ans :: rest) = firstWrite rest := by simp [firstWrite, hw]
    rw [hf] at hc
    simp only [gpSocketWrite, hw, gpSocketScheduleWrite] at hh
    split at hh
    · simp only [EventLoop.hold, List.nil_append, List.cons.injEq, Holder.writer.injEq, and_true]
        at hh
      subst hh
      exact hc hz
    · cases hh
  | failed => simp only [gpSocketWrite, hw] at hh; cases hh
  | wrote n =>
    -- the position moves on, or the connection goes to another holder
    have hf : firstWrite (ans :: rest) = some n := by simp [firstWrite, hw]
    rw [hf] at hc
    obtain ⟨rfl, hfo, hs⟩ := wrote_holders hw hh
    simp only [WriteBuffer.advance] at hz hs
    have hp : pos = 0 := by omega
    subst hp
    simp only [if_true, forall_const, vectors_eq, WriteBuffer.sent, List.drop_zero,
      List.length_take, length_frame] at hfo hs hz
    exact absurd (congrArg some (by omega)) (hc rfl)

variable {events : List Answers}

theorem Progress.writeEvents_dirty :
    ∀ {s : EventLoop} {extra : Nat}, 4 ≤ extra → Progress s₀ conn body extra s →
      ∃ extra', 4 ≤ extra' ∧ Progress s₀ conn body extra' (writeEvents events s) := by
  induction events with
  | nil => exact fun he h => ⟨_, he, h⟩
  | cons ans rest ih =>
    intro s extra he h
    cases h with
    | writing pos hp hh hr hl hw =>
      simp only [writeEvents, hh]
      by_cases hhe : HeaderOnly ans ⟨conn, body, pos⟩
      · exact ih (by omega) (.header hhe hr hl)
      · exact ih he (.advance hhe hp hr hl hw)
    | rearmed hh hr hl hw => simp only [writeEvents, hh]; exact ⟨_, he, .rearmed hh hr hl hw⟩
    | closed hh hr => simp only [writeEvents, hh]; exact ⟨_, he, .closed hh hr⟩

theorem not_headerOnly {rest : List Answers} (hc : pos = 0 → firstWrite (ans :: rest) ≠ some 4) :
    ¬ HeaderOnly ans ⟨conn, body, pos⟩ := by
  rintro ⟨hp, -, hw⟩
  exact hc hp (by simp [firstWrite, hw])

theorem Progress.writeEvents_clean :
    ∀ {s : EventLoop}, Clean events s → Progress s₀ conn body extra s →
      Progress s₀ conn body extra (writeEvents events s) := by
  induction events with
  | nil => exact fun _ h => h
  | cons ans rest ih =>
    intro s hc h
    cases h with
    | writing pos hp hh hr hl hw =>
      simp only [writeEvents, hh]
      have hc' := hc _ hh
      exact ih (Clean.step hc')
        (.advance (not_headerOnly hc') hp hr hl hw)
    | rearmed hh hr hl hw => simp only [writeEvents, hh]; exact .rearmed hh hr hl hw
    | closed hh hr => simp only [writeEvents, hh]; exact .closed hh hr

theorem Progress.writeEvents_header (hb : body ≠ []) (hf : firstWrite events = some 4) :
    ∀ {s : EventLoop}, s.holders = [.writer ⟨conn, body, 0⟩] → s.released = s₀.released →
      (s.history conn).written = (s₀.history conn).written →
      ∃ extra', 4 ≤ extra' ∧ Progress s₀ conn body extra' (writeEvents events s) := by
  induction events with
  | nil => cases hf
  | cons ans rest ih =>
    intro s hh hr hwr
    have hl : (s.history conn).written.length =
        (s₀.history conn).written.length + 0 + (WriteBuffer.mk conn body 0).sent := by
      simp [hwr, WriteBuffer.sent]
    simp only [writeEvents, hh]
    cases hw : ans.writev with
    | again =>
      simp only [firstWrite, hw] at hf
      simp only [gpSocketWrite, hw, gpSocketScheduleWrite]
      cases ans.addIo with
      | true => exact ih hf rfl hr hwr
      | false =>
        exact writeEvents_dirty (Nat.le_refl 4)
          (.closed rfl (congrArg (· ++ [conn]) hr))
    | failed =>
      simp only [gpSocketWrite, hw]
      exact writeEvents_dirty (Nat.le_refl 4)
        (.closed rfl (congrArg (· ++ [conn]) hr))
    | wrote n =>
      simp only [firstWrite, hw, Option.some.injEq] at hf
      subst hf
      exact writeEvents_dirty (Nat.le_refl _)
        (Progress.header ⟨rfl, hb, hw⟩ hr hl)

theorem gpSocketSendData_cases (ans : Answers) (conn : Nat) (body : Bytes) (hf : s.holders = []) :
    let t := gpSocketSendData ans conn body s
    (t.holders = [.writer ⟨conn, body, 0⟩] ∧ t.released = s.released ∧ t.history = s.history) ∨
      t.holders = [] ∧ t.released = s.released ++ [conn] := by
  unfold gpSocketSendData gpSocketScheduleWrite
  split
  · split
    · exact .inl ⟨by simp [EventLoop.hold, hf], rfl, rfl⟩
    · exact .inr ⟨hf, rfl⟩
  · exact .inr ⟨hf, rfl⟩

theorem sendReply_extends (s : EventLoop) (conn : Nat) (body : Bytes) (start : Answers)
    (events : List Answers) :
    (s.history conn).written <+: ((sendReply start conn body events s).history conn).written := by
  have hs : (gpSocketSendData start conn body s).history = s.history := by
    unfold gpSocketSendData gpSocketScheduleWrite
    split
    · split <;> rfl
    · rfl
  have he := writeEvents_extends conn events (gpSocketSendData start conn body s)
  rwa [hs] at he

theorem Progress.sendReply (conn : Nat) (start : Answers) (events : List Answers)
    (hfr : s.holders = []) (hb : body ≠ []) :
    ∃ extra, Progress s conn body extra (sendReply start conn body events s) ∧
      (extra = 0 ↔ firstWrite events ≠ some 4) := by
  unfold Daemon.sendReply
  rcases gpSocketSendData_cases start conn body hfr with
    ⟨hh, hr, hhi⟩ | ⟨hh, hr⟩
  · by_cases hf : firstWrite events = some 4
    · obtain ⟨extra, he, h⟩ := writeEvents_header hb hf hh hr
        (by rw [hhi])
      exact ⟨extra, h, by omega, fun hne => absurd hf hne⟩
    refine ⟨0, writeEvents_clean ?_ (.writing 0 (.inl rfl) hh hr ?_ ?_), ?_⟩
    · exact fun wbuf _ _ => hf
    · simp [hhi, WriteBuffer.sent]
    · simp [hhi, WriteBuffer.sent]
    · exact ⟨fun _ => hf, fun _ => rfl⟩
  · -- nothing is written
    have hs : writeEvents events (gpSocketSendData start conn body s) =
        gpSocketSendData start conn body s := by
      cases events with
      | nil => rfl
      | cons => simp [writeEvents, hh]
    rw [hs]
    by_cases hf : firstWrite events = some 4
    · exact ⟨4, .closed hh hr, by omega, fun hne => absurd hf hne⟩
    · exact ⟨0, .closed hh hr, fun _ => hf, fun _ => rfl⟩

end

theorem headerSize_encodeHeader {len : Nat} (hl : len ≤ MAX_RPC_SIZE) :
    headerSize (encodeHeader len) = some len := by
  have hp := parseHeader_marked hl
  simp only [encodeHeader, beBytes, headerSize]
  rw [ofBeBytes_beBytes]
  unfold parseHeader at hp
  unfold fragmentSize
  grind

/-- **A reply on the stream.**  Unless the first write takes just the header, what is written is a
    start of header and body, and the connection is read from again exactly if it is all of them. -/
theorem reply_written (s : EventLoop) (conn : Nat) (body : Bytes) (start : Answers)
    (events : List Answers) (hfree : s.holders = []) (hbody : 1 ≤ body.length)
    (hmax : body.length ≤ MAX_RPC_SIZE)
    (hopen : (sendReply start conn body events s).released = s.released) :
    ∃ header accepted, headerSize header = some body.length ∧
      ((sendReply start conn body events s).history conn).written =
        (s.history conn).written ++ accepted ∧
      (firstWrite events ≠ some 4 →
        accepted <+: header ++ body ∧
        ((sendReply start conn body events s).holders = [.reader ⟨conn, none⟩] ↔
          accepted = header ++ body)) ∧
      ((sendReply start conn body events s).holders = [.reader ⟨conn, none⟩] →
        (accepted = header ++ body ↔ firstWrite events ≠ some 4)) := by
  have hne : body ≠ [] := List.length_pos_iff.mp hbody
  obtain ⟨extra, hp, he⟩ := Progress.sendReply conn start events hfree hne
  obtain ⟨accepted, ha⟩ := sendReply_extends s conn body start events
  refine ⟨encodeHeader body.length, accepted, headerSize_encodeHeader hmax, ha.symm, ?_⟩
  show (_ → accepted <+: frame body ∧ (_ ↔ accepted = frame body)) ∧
    (_ → (accepted = frame body ↔ _))
  cases hp with
  | writing pos hpo hh hr hl hw =>
    have hn : (sendReply start conn body events s).holders ≠ [.reader ⟨conn, none⟩] := by
      rw [hh]; simp
    refine ⟨?_, fun hre => absurd hre hn⟩
    intro hf
    have hb := hw (he.mpr hf)
    rw [← ha, List.append_cancel_left_eq] at hb
    refine ⟨hb ▸ List.take_prefix .., fun hre => absurd hre hn, ?_⟩
    intro hal
    -- the position is not behind the last byte
    have hs := congrArg List.length (hb.symm.trans hal)
    have hle := sent_lt_length_frame conn hpo
    rw [List.length_take] at hs; omega
  | rearmed hh hr hl hw =>
    rw [← ha, List.length_append] at hl
    rw [← ha, List.append_cancel_left_eq] at hw
    refine ⟨fun hf => ?_, fun _ => ⟨?_, fun hf => hw (he.mpr hf)⟩⟩
    · have hal := hw (he.mpr hf)
      exact ⟨hal ▸ List.prefix_rfl, fun _ => hal, fun _ => hh⟩
    · intro hal
      rw [hal] at hl
      exact he.mp (by omega)
  | closed hh hr =>
    rw [hopen] at hr
    simp at hr

theorem reply_written_in_two_parts :
    ∃ header accepted, headerSize header = some 2 ∧
      ((sendReply {} 0 [42, 43] [{ writev := .wrote 5 }, {}, { writev := .wrote 6 }]
        EventLoop.init).history 0).written = [] ++ accepted ∧
      accepted = header ++ [42, 43] := by
  obtain ⟨header, accepted, hh, hw, hc, -⟩ :=
    reply_written EventLoop.init 0 [42, 43] {} [{ writev := .wrote 5 }, {}, { writev := .wrote 6 }]
      rfl (by decide) (by decide) (by decide)
  exact ⟨header, accepted, hh, hw, (hc (by decide)).2.mp (by decide)⟩

theorem reply_header_repeated :
    let s := sendReply {} 0 [42, 43] [{ writev := .wrote 4 }, { writev := .wrote 6 }] EventLoop.init
    s.released = [] ∧ s.holders = [.reader ⟨0, none⟩] ∧
      (s.history 0).written = [0x80, 0, 0, 2, 0x80, 0, 0, 2, 42, 43] ∧
      frame [42, 43] = [0x80, 0, 0, 2, 42, 43] := by
  decide

end GssProxy.Daemon
