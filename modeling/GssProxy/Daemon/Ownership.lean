import GssProxy.Daemon.Socket
import Mathlib.Data.List.Perm.Basic

/-!
# One request at a time

Who owns a connection of the C daemon, and what goes out on it.  Every callback passes its connection on
exactly once, from a read event to a query to a write event and back.

* `one_request_at_a_time`: a connection has one owner, and its requests and replies alternate.
-/

namespace GssProxy.Daemon

open Codec Proto GssProxy.System

/-! ## Owners -/

def Owned (s : EventLoop) : Prop :=
  (s.holders.map Holder.conn ++ s.released).Perm (List.range s.accepted)

variable {s s' : EventLoop} {a : Action}

theorem owned_init : Owned EventLoop.init := .refl _

variable {ans : Answers} {h : Holder} {hist hist' : History} {i n : Nat}

theorem Next.conn_eq {h' : Holder} (hn : Next ans h hist (some h') hist') : h'.conn = h.conn := by
  cases hn with
  | rereads hc => exact hc
  | requests | replies | stalls | sends | finishes => rfl

theorem holders_perm (hg : s.holders[i]? = some h) :
    (s.holders.map Holder.conn).Perm (h.conn :: (s.holders.eraseIdx i).map Holder.conn) := by
  obtain ⟨hi, rfl⟩ := List.getElem?_eq_some_iff.mp hg
  exact ((List.getElem_cons_eraseIdx_perm hi).map Holder.conn).symm

theorem Owned.step (ho : Owned s) (hs : Transition s a s') : Owned s' := by
  unfold Owned at ho ⊢
  cases hs with
  | opened =>
    simp only [EventLoop.hold, List.map_append, List.map_cons, List.map_nil, List.append_assoc,
      List.range_succ]
    refine List.perm_middle.trans ?_
    exact (ho.cons s.accepted).trans (List.perm_append_singleton _ _).symm
  | aborted =>
    simp only [EventLoop.connFree, ← List.append_assoc, List.range_succ]
    exact ho.append_right [s.accepted]
  | fired hg hn =>
    rename_i i ans h next hist
    have hd := ((holders_perm hg).append_right s.released).symm.trans ho
    cases next with
    | some h' =>
      simp only [EventLoop.leave, EventLoop.record, EventLoop.hold, List.map_append, List.map_cons,
        List.map_nil, List.append_assoc, hn.conn_eq]
      exact List.perm_middle.trans hd
    | none =>
      simp only [EventLoop.leave, EventLoop.record, EventLoop.connFree, ← List.append_assoc]
      exact (List.perm_append_singleton _ _).trans hd

theorem owned (h : Reachable s) : Owned s :=
  h.invariant owned_init fun ho _ hs => ho.step (step_transition hs)

theorem Owned.count (h : Owned s) {conn : Nat} (hc : conn < s.accepted) :
    (s.holders.map Holder.conn).count conn + s.released.count conn = 1 := by
  rw [← List.count_append, h.count_eq, List.count_range, if_pos hc]

theorem Owned.conn_ne (ho : Owned s) {h' : Holder}
    (hg : s.holders[i]? = some h) (hm : h' ∈ s.holders.eraseIdx i) : h'.conn ≠ h.conn := by
  have hd := ((holders_perm hg).append_right s.released).symm.trans ho
  have hn := hd.nodup_iff.mpr List.nodup_range
  rw [List.cons_append, List.nodup_cons] at hn
  intro heq
  exact hn.1 (List.mem_append_left _ (heq ▸ List.mem_map_of_mem hm))

def Fresh (s : EventLoop) : Prop := ∀ conn, s.accepted ≤ conn → s.history conn = {}

theorem Owned.lt_accepted (ho : Owned s) (hm : h ∈ s.holders) : h.conn < s.accepted := by
  rw [← List.mem_range, ← ho.mem_iff]
  exact List.mem_append_left _ (List.mem_map_of_mem hm)

theorem Fresh.step (ho : Owned s) (hf : Fresh s) (hs : Transition s a s') : Fresh s' := by
  cases hs with
  | opened | aborted => exact fun conn hc => hf conn (Nat.le_of_succ_le hc)
  | fired hg hn =>
    rename_i i ans h next hist
    have hlt := ho.lt_accepted (List.mem_of_getElem? hg)
    have hu : ∀ conn, s.accepted ≤ conn → Function.update s.history h.conn hist conn = {} := by
      intro conn hc
      rw [Function.update_of_ne (by omega)]
      exact hf conn hc
    cases next <;> exact hu

theorem fresh (h : Reachable s) : Fresh s :=
  h.invariant_with (J := Owned) owned (fun _ _ => rfl)
    fun ho hf _ hs => hf.step ho (step_transition hs)

structure Kept (I : Holder → History → Prop) (J : History → Prop) (s : EventLoop) : Prop where
  held : ∀ h ∈ s.holders, I h (s.history h.conn)
  every : ∀ conn, J (s.history conn)

theorem Kept.fired {I : Holder → History → Prop} {J : History → Prop}
    {next : Option Holder} (how : Owned s) (hk : Kept I J s)
    (hg : s.holders[i]? = some h) (hn : Next ans h (s.history h.conn) next hist)
    (hh : ∀ h', next = some h' → I h' hist) (he : J hist) :
    Kept I J ({ s with holders := s.holders.eraseIdx i }.leave h.conn hist next) := by
  have ho : ∀ h' ∈ s.holders.eraseIdx i, I h' (Function.update s.history h.conn hist h'.conn) := by
    intro h' hm
    rw [Function.update_of_ne (how.conn_ne hg hm)]
    exact hk.held h' (List.mem_of_mem_eraseIdx hm)
  have ha : ∀ conn, J (Function.update s.history h.conn hist conn) := by
    intro conn
    by_cases hc : conn = h.conn
    · subst hc
      rw [Function.update_self]
      exact he
    · rw [Function.update_of_ne hc]; exact hk.every conn
  cases next with
  | none => exact ⟨ho, ha⟩
  | some h' =>
    refine ⟨fun h'' hm => ?_, ha⟩
    rcases List.mem_append.mp hm with hm | hm
    · exact ho h'' hm
    obtain rfl := List.mem_singleton.mp hm
    show I h'' (Function.update s.history h.conn hist h''.conn)
    rw [hn.conn_eq, Function.update_self]
    exact hh h'' rfl

theorem kept_of_reach {allowed : EventLoop → Action → Prop} {I : Holder → History → Prop}
    {J : History → Prop} (hop : ∀ conn, I (.reader ⟨conn, none⟩) {}) (he : J {})
    (hc : ∀ {s i ans h next hist}, allowed s (.fire i ans) → s.holders[i]? = some h →
      I h (s.history h.conn) → Next ans h (s.history h.conn) next hist →
        (∀ h', next = some h' → I h' hist) ∧ J hist)
    (h : Reach step allowed EventLoop.init s) : Kept I J s := by
  have hr : ∀ {s}, Reach step allowed EventLoop.init s → Owned s ∧ Fresh s := by
    intro s h
    have hal : Reachable s := h.mono fun _ _ _ => trivial
    exact ⟨owned hal, fresh hal⟩
  refine h.invariant_with (J := fun s => Owned s ∧ Fresh s) hr
    ⟨fun h hm => (nomatch hm), fun _ => he⟩ ?_
  intro s a s' hJ hk ha hs
  obtain ⟨ho, hf⟩ := hJ
  cases step_transition hs with
  | opened =>
    refine ⟨fun h hm => ?_, hk.every⟩
    rcases List.mem_append.mp hm with hm | hm
    · exact hk.held h hm
    obtain rfl := List.mem_singleton.mp hm
    show I _ (s.history s.accepted)
    rw [hf s.accepted (Nat.le_refl _)]
    exact hop s.accepted
  | aborted => exact ⟨hk.held, hk.every⟩
  | fired hg hn =>
    obtain ⟨hh, hev⟩ := hc ha hg
      (hk.held _ (List.mem_of_getElem? hg)) hn
    exact hk.fired ho hg hn hh hev

/-! ## Requests and replies -/

/-- All requests are answered, but for one in the pool. -/
def Paired : Holder → History → Prop
  | .query _ buffer, hist => hist.requests = hist.answered.map Prod.fst ++ [buffer]
  | _, hist => hist.requests = hist.answered.map Prod.fst

/-- The replies answer the requests in order, and at most one is outstanding. -/
structure InOrder (hist : History) : Prop where
  order : hist.answered.map Prod.fst <+: hist.requests
  outstanding : hist.requests.length ≤ hist.answered.length + 1

theorem inOrder_of_eq (h : hist.requests = hist.answered.map Prod.fst) : InOrder hist := by
  refine ⟨⟨[], ?_⟩, ?_⟩
  · rw [h, List.append_nil]
  rw [h, List.length_map]
  omega

theorem inOrder_of_append {buffer : Bytes}
    (h : hist.requests = hist.answered.map Prod.fst ++ [buffer]) : InOrder hist := by
  refine ⟨by rw [h]; exact List.prefix_append _ _, ?_⟩
  rw [h, List.length_append, List.length_map]
  exact Nat.le_refl _

theorem Paired.next {next : Option Holder} (hp : Paired h hist) (hn : Next ans h hist next hist') :
    (∀ h', next = some h' → Paired h' hist') ∧ InOrder hist' := by
  cases hn with
  | rereads | stalls | sends | finishes =>
    exact ⟨fun h' he => by cases he; exact hp, inOrder_of_eq hp⟩
  | hangsUp | breaks | cut => exact ⟨fun h' he => (nomatch he), inOrder_of_eq hp⟩
  | refused => exact ⟨fun h' he => (nomatch he), inOrder_of_append hp⟩
  | requests body =>
    have hr : hist.requests ++ [body] = hist.answered.map Prod.fst ++ [body] := by
      rw [show hist.requests = _ from hp]
    exact ⟨fun h' he => by cases he; exact hr, inOrder_of_append hr⟩
  | dropped reply =>
    refine ⟨fun h' he => (nomatch he), inOrder_of_eq ?_⟩
    rw [List.map_append]
    exact hp
  | replies reply =>
    rename_i conn buffer
    have hr : hist.requests = (hist.answered ++ [(buffer, reply)]).map Prod.fst := by
      rw [List.map_append]; exact hp
    exact ⟨fun h' he => by cases he; exact hr, inOrder_of_eq hr⟩

theorem paired (h : Reachable s) : Kept Paired InOrder s :=
  kept_of_reach (fun _ => rfl) (inOrder_of_eq rfl)
    (fun _ _ hp hn => hp.next hn) h

/-! ## The bytes written -/

def frames (answered : List (Bytes × Bytes)) : Bytes :=
  (answered.map fun answer => frame answer.2).flatten

def WriteBuffer.sent (wbuf : WriteBuffer) : Nat := if wbuf.pos = 0 then 0 else 4 + wbuf.pos

def Sent : Holder → History → Prop
  | .writer wbuf, hist => ∃ before request, hist.answered = before ++ [(request, wbuf.data)] ∧
      hist.written = frames before ++ (frame wbuf.data).take wbuf.sent
  | _, hist => hist.written = frames hist.answered

/-- Every reply but the last is written as a whole. -/
structure Whole (hist : History) : Prop where
  earlier : frames hist.answered.dropLast <+: hist.written
  last : hist.written <+: frames hist.answered

theorem frames_append (before : List (Bytes × Bytes)) (request reply : Bytes) :
    frames (before ++ [(request, reply)]) = frames before ++ frame reply := by
  simp [frames]

theorem frames_dropLast (answered : List (Bytes × Bytes)) :
    frames answered.dropLast <+: frames answered := by
  obtain ⟨rest, hr⟩ := List.dropLast_prefix answered
  refine ⟨frames rest, ?_⟩
  rw [frames, frames, ← List.flatten_append, ← List.map_append, hr]
  rfl

theorem whole_of_eq (h : hist.written = frames hist.answered) : Whole hist :=
  ⟨h ▸ frames_dropLast _, h ▸ List.prefix_refl _⟩

theorem whole_of_take {before : List (Bytes × Bytes)} {request reply : Bytes}
    (ha : hist.answered = before ++ [(request, reply)])
    (hw : hist.written = frames before ++ (frame reply).take n) : Whole hist := by
  constructor
  · rw [ha, hw, List.dropLast_concat]; exact List.prefix_append _ _
  · rw [ha, hw, frames_append]
    exact (List.prefix_append_right_inj _).mpr (List.take_prefix _ _)

theorem vectors_eq (wbuf : WriteBuffer) : wbuf.vectors = (frame wbuf.data).drop wbuf.sent := by
  unfold WriteBuffer.vectors WriteBuffer.sent
  by_cases hp : wbuf.pos = 0
  · simp only [hp, List.drop_zero]; rfl
  · rw [if_neg hp, if_neg hp, ← List.drop_drop]; rfl

theorem take_vectors (wbuf : WriteBuffer) (n : Nat) :
    (frame wbuf.data).take wbuf.sent ++ wbuf.vectors.take n =
      (frame wbuf.data).take (wbuf.sent + (wbuf.vectors.take n).length) := by
  rw [vectors_eq, List.take_add, List.length_take]
  congr 1
  rw [List.take_eq_take_iff]
  omega

theorem length_frame (body : Bytes) : (frame body).length = 4 + body.length := by
  rw [frame, List.length_append]
  rfl

def HeaderOnly (ans : Answers) (wbuf : WriteBuffer) : Prop :=
  wbuf.pos = 0 ∧ wbuf.data ≠ [] ∧ ans.writev = .wrote 4

theorem sent_advance {wbuf : WriteBuffer} (hc : ¬ HeaderOnly ans wbuf) (hw : ans.writev = .wrote n)
    (hh : wbuf.pos = 0 → 4 ≤ (wbuf.vectors.take n).length)
    (hs : (wbuf.advance n).pos < wbuf.data.length) :
    (wbuf.advance n).sent = wbuf.sent + (wbuf.vectors.take n).length := by
  unfold WriteBuffer.advance at hs ⊢
  unfold WriteBuffer.sent
  by_cases hp : wbuf.pos = 0
  · have hl : wbuf.vectors.length = 4 + wbuf.data.length := by
      rw [vectors_eq, WriteBuffer.sent, if_pos hp, List.drop_zero, length_frame]
    have hf := hh hp
    simp only [hp, if_true, List.length_take, hl] at hs hf ⊢
    have hd : wbuf.data ≠ [] := by
      intro hni
      rw [hni] at hs
      exact absurd hs (Nat.not_lt_zero _)
    have hn : n ≠ 4 := by rintro rfl; exact hc ⟨hp, hd, hw⟩
    rw [if_neg (by omega)]; omega
  · simp only [hp, if_false]
    rw [if_neg (by omega)]; omega

theorem take_finished {wbuf : WriteBuffer} (hh : wbuf.pos = 0 → 4 ≤ (wbuf.vectors.take n).length)
    (hw : wbuf.data.length ≤ (wbuf.advance n).pos) :
    (frame wbuf.data).take (wbuf.sent + (wbuf.vectors.take n).length) = frame wbuf.data := by
  apply List.take_of_length_le
  rw [length_frame]
  unfold WriteBuffer.advance at hw
  unfold WriteBuffer.sent
  by_cases hp : wbuf.pos = 0
  · have hf := hh hp
    simp only [hp, if_true] at hw hf ⊢; omega
  · simp only [hp, if_false] at hw ⊢; omega

theorem Sent.next {next : Option Holder}
    (hs : Sent h hist) (hc : ∀ wbuf, h = .writer wbuf → ¬ HeaderOnly ans wbuf)
    (hn : Next ans h hist next hist') : (∀ h', next = some h' → Sent h' hist') ∧ Whole hist' := by
  cases hn with
  | rereads | requests => exact ⟨fun h' he => by cases he; exact hs, whole_of_eq hs⟩
  | hangsUp | refused => exact ⟨fun h' he => (nomatch he), whole_of_eq hs⟩
  | dropped reply =>
    refine ⟨fun h' he => (nomatch he), whole_of_take rfl (n := 0) ?_⟩
    rw [List.take_zero, List.append_nil]
    exact hs
  | replies reply =>
    have hw : hist.written = frames hist.answered ++ (frame reply).take 0 := by
      rw [List.take_zero, List.append_nil]; exact hs
    exact ⟨fun h' he => by cases he; exact ⟨_, _, rfl, hw⟩, whole_of_take rfl hw⟩
  | stalls =>
    obtain ⟨before, request, ha, hw⟩ := hs
    exact ⟨fun h' he => by cases he; exact ⟨before, request, ha, hw⟩, whole_of_take ha hw⟩
  | breaks =>
    obtain ⟨before, request, ha, hw⟩ := hs
    exact ⟨fun h' he => (nomatch he), whole_of_take ha hw⟩
  | cut hwr =>
    rename_i wbuf n
    obtain ⟨before, request, ha, hw⟩ := hs
    have hm : hist.written ++ wbuf.vectors.take n = frames before ++
        (frame wbuf.data).take (wbuf.sent + (wbuf.vectors.take n).length) := by
      rw [hw, List.append_assoc, take_vectors]
    exact ⟨fun h' he => (nomatch he), whole_of_take ha hm⟩
  | sends hwr hh hsh =>
    rename_i wbuf n
    obtain ⟨before, request, ha, hw⟩ := hs
    have had := sent_advance (hc wbuf rfl) hwr hh hsh
    have hm : hist.written ++ wbuf.vectors.take n =
        frames before ++ (frame wbuf.data).take (wbuf.advance n).sent := by
      rw [hw, List.append_assoc, take_vectors, had]
    exact ⟨fun h' he => by cases he; exact ⟨before, request, ha, hm⟩, whole_of_take ha hm⟩
  | finishes hwr hh hwh =>
    rename_i wbuf n
    obtain ⟨before, request, ha, hw⟩ := hs
    have hd : hist.written ++ wbuf.vectors.take n = frames hist.answered := by
      rw [hw, List.append_assoc, take_vectors, take_finished hh hwh, ha, frames_append]
    exact ⟨fun h' he => by cases he; exact hd, whole_of_eq hd⟩

/-- No `writev` takes the header of a reply alone. -/
def Careful (s : EventLoop) (a : Action) : Prop :=
  ∀ i ans wbuf, a = .fire i ans → s.holders[i]? = some (.writer wbuf) → ¬ HeaderOnly ans wbuf

theorem sent (h : Reach step Careful EventLoop.init s) : Kept Sent Whole s := by
  refine kept_of_reach (fun _ => rfl) (whole_of_eq rfl) ?_ h
  intro s i ans ho next hist hc hg hs hn
  refine hs.next (fun wbuf hw => ?_) hn
  exact hc i ans wbuf rfl (hw ▸ hg)

/-! ## The discipline of connections -/

/-- **One request at a time.**  In every run each connection that was not freed has exactly one
    holder, none is freed twice, and the replies answer the requests in order; at most one request
    is outstanding, which is then in the pool.  Where no `writev` takes the header of a reply alone,
    the bytes on each connection are these replies as frames, each but the last in whole. -/
theorem one_request_at_a_time (s : EventLoop) :
    (Reachable s → ∀ conn < s.accepted,
      ((conn ∉ s.released ∧ (s.holders.map Holder.conn).count conn = 1) ∨
        (s.released.count conn = 1 ∧ conn ∉ s.holders.map Holder.conn)) ∧
      InOrder (s.history conn) ∧ ∀ h ∈ s.holders, h.conn = conn → Paired h (s.history conn)) ∧
    (Reach step Careful EventLoop.init s → ∀ conn < s.accepted, Whole (s.history conn)) := by
  refine ⟨fun h conn hc => ⟨?_, ?_, ?_⟩, fun h conn _ => (sent h).every conn⟩
  · have hco := (owned h).count hc
    rw [← List.count_eq_zero, ← List.count_eq_zero]; omega
  · exact (paired h).every conn
  · rintro ho hm rfl; exact (paired h).held ho hm

def exchange (writes : List Nat) : List Action :=
  [.accept {}, .fire 0 { header := .data [128, 0, 0, 1], body := .data [7] },
    .fire 0 { reply := some [42, 43] }] ++ writes.map fun n => .fire 0 { writev := .wrote n }

theorem careful_fire (h : ans.writev ≠ .wrote 4) : Careful s (.fire i ans) := by
  rintro _ _ wbuf ⟨⟩ - ⟨-, -, hw⟩
  exact h hw

theorem one_request_at_a_time_exchange : ∃ s, Reach step Careful EventLoop.init s ∧
    s.holders = [.reader ⟨0, none⟩] ∧
      s.history 0 = ⟨[[7]], [([7], [42, 43])], [128, 0, 0, 2, 42, 43]⟩ ∧
      (0 ∉ s.released ∧ (s.holders.map Holder.conn).count 0 = 1) ∧ Whole (s.history 0) := by
  obtain ⟨s, he, hh, hhi, hac⟩ : ∃ s,
      exec step EventLoop.init (exchange [5, 1]) = some s ∧ s.holders = [.reader ⟨0, none⟩] ∧
        s.history 0 = ⟨[[7]], [([7], [42, 43])], [128, 0, 0, 2, 42, 43]⟩ ∧ s.accepted = 1 :=
    ⟨_, rfl, rfl, rfl, rfl⟩
  have hr : Reach step Careful EventLoop.init s := by
    refine Reach.start.exec (fun a ha s => ?_) he
    simp only [exchange, List.map_cons, List.map_nil, List.cons_append, List.nil_append,
      List.mem_cons, List.not_mem_nil, or_false] at ha
    rcases ha with rfl | rfl | rfl | rfl | rfl
    · rintro i ans wbuf ⟨⟩
    all_goals exact careful_fire (by decide)
  obtain ⟨hal, hc⟩ := one_request_at_a_time s
  obtain ⟨ho, -⟩ := hal (hr.mono fun _ _ _ => trivial) 0 (hac ▸ Nat.zero_lt_one)
  refine ⟨s, hr, hh, hhi, ?_, hc hr 0 (hac ▸ Nat.zero_lt_one)⟩
  rw [hh] at ho ⊢
  exact ho.resolve_right fun h => h.2 (List.mem_singleton.mpr rfl)

/-- The first write takes the header of the reply; the next one sends it again. -/
theorem header_sent_twice : ∃ s, Reachable s ∧
    s.history 0 = ⟨[[7]], [([7], [42, 43])], [128, 0, 0, 2, 128, 0, 0, 2, 42, 43]⟩ ∧
      ¬ Whole (s.history 0) := by
  obtain ⟨s, he, hh⟩ : ∃ s, exec step EventLoop.init (exchange [4, 6]) = some s ∧
        s.history 0 = ⟨[[7]], [([7], [42, 43])], [128, 0, 0, 2, 128, 0, 0, 2, 42, 43]⟩ :=
    ⟨_, rfl, rfl⟩
  refine ⟨s, Reach.start.exec (fun _ _ _ => trivial) he, hh, ?_⟩
  rw [hh]
  rintro ⟨-, hl⟩
  revert hl
  decide

end GssProxy.Daemon
