import GssProxy.Client.Gpm

/-!
# The exchange of the C client with the daemon

A call that fails leaves the socket open, unless it failed by a timeout, and the next call finds the
rest of its exchange.  `smooth` says that nothing fails in between.

* `gpmRecvBuffer_awaiting`: a smooth call reads the reply to its own request.
-/

namespace GssProxy.Client.Gpm

open Codec Effect Effect.Traced Gss Proto
open Rpcgen

/-! ## Smooth events -/

def Event.fails : Event → Bool
  | .returns .pipeName _ => false
  | .returns .connect _ => false
  | .returns .readTimer ret => ret != 0 && ret != EAGAIN
  | .returns _ ret => ret != 0
  | .epollWait (.error errno) => errno != EINTR
  | .epollWait (.ok events) =>
    match readiness events with
    | none => false
    | some ret => ret != 0 && ret != ETIMEDOUT
  | .send _ (.ok _) => false
  | .send .header (.error _) => false
  | .send .body (.error errno) => errno != EINTR && errno != EAGAIN
  | .read .header (.error errno) => errno != EINTR
  | .read .header (.ok rn) => rn != 4
  | .read .body (.error errno) => errno != EINTR && errno != EAGAIN
  | .read .body (.ok rn) => rn == 0

def Event.short : Event → Bool
  | .send .header (.ok wn) => wn == 1 || wn == 2 || wn == 3
  | _ => false

inductive Phase where
  | any
  | idle
  | exchange
  deriving DecidableEq, Repr

def Phase.allows : Phase → Event → Bool
  | .any, _ => true
  | .idle, e => !e.short
  | .exchange, e => !e.fails

theorem Phase.allows_exchange {e : Event} : Phase.exchange.allows e = true ↔ e.fails = false := by
  simp [Phase.allows]

def Phase.next : Phase → Event → Phase
  | .any, _ => .any
  | _, .returns .connect _ => .idle
  | p, .send .header (.ok wn) => if wn = 4 then .exchange else p
  | p, _ => p

/-- From the header of a request, which is sent whole, until the call is over or the socket is
    opened again, nothing fails except by a timeout. -/
def smooth : Phase → List Event → Bool
  | _, [] => true
  | p, e :: es => p.allows e && smooth (p.next e) es

theorem smooth_any (events : List Event) : smooth .any events = true := by
  induction events with
  | nil => rfl
  | cons e es ih => exact ih

/-! ## Waiting -/

variable {call : Sys} {P : World Event GpmCtx → Prop}

section

variable {p : Phase} {J : Option Channel → Int32 → Prop}

def Calm (p : Phase) (J : Option Channel → Int32 → Prop) (w : World Event GpmCtx) : Prop :=
  smooth p w.events = true ∧ J w.state.fd w.state.nextXid

theorem calm_cons {s : GpmCtx} {e : Event} {es : List Event} :
    Calm p J ⟨s, e :: es⟩ ↔ p.allows e = true ∧ Calm (p.next e) J ⟨s, es⟩ := by
  simp [Calm, smooth, and_assoc]

theorem next_returns (hc : call ≠ .connect) (p : Phase) (ret : UInt32) :
    p.next (.returns call ret) = p := by
  cases p <;> cases call <;> first | rfl | exact absurd rfl hc

theorem ask_triple {Q : UInt32 → World Event GpmCtx → Prop}
    (h : ∀ s ret es, P ⟨s, .returns call ret :: es⟩ → Q ret ⟨s, es⟩) : Triple P (ask call) Q := by
  refine .next fun s e es ret he hP => ?_
  split at he
  · split at he
    · rename_i heq
      cases he
      subst heq
      exact h s ret es hP
    · cases he
  · cases he

theorem ask_calm (hca : call ≠ .connect) :
    Triple (Calm p J) (ask call) fun ret w =>
      Calm p J w ∧ p.allows (.returns call ret) = true := by
  refine ask_triple fun s ret es h => ?_
  obtain ⟨ha, hc⟩ := calm_cons.mp h
  rw [next_returns hca] at hc
  exact ⟨hc, ha⟩

theorem ret_zero {ret : UInt32} (h : p.allows (.returns call ret) = true)
    (hc : call ≠ .pipeName ∧ call ≠ .connect ∧ call ≠ .readTimer) (hp : p = .exchange) :
    ret = 0 := by
  cases call <;> simp_all [Phase.allows, Event.fails]

theorem update_calm {f : GpmCtx → GpmCtx} (hfd : ∀ ctx, (f ctx).fd = ctx.fd)
    (hx : ∀ ctx, (f ctx).nextXid = ctx.nextXid) :
    Triple (Calm p J) (update f) fun _ => Calm p J := by
  refine .update fun w h => ⟨h.1, ?_⟩
  rw [hfd, hx]
  exact h.2

theorem gpmEpollClose_calm : Triple (Calm p J) gpmEpollClose fun _ => Calm p J :=
  update_calm (fun _ => rfl) fun _ => rfl

theorem gpmTimerClose_calm : Triple (Calm p J) gpmTimerClose fun _ => Calm p J :=
  update_calm (fun _ => rfl) fun _ => rfl

theorem gpmReleaseSock_calm : Triple (Calm p J) gpmReleaseSock fun _ => Calm p J :=
  .bind gpmEpollClose_calm fun _ => gpmTimerClose_calm

theorem gpmEpollSetup_calm :
    Triple (Calm p J) gpmEpollSetup fun ret w => Calm p J w ∧ (p = .exchange → ret = 0) := by
  refine .bind gpmEpollClose_calm fun _ => ?_
  refine .bind (ask_calm (by decide)) fun ret => .assuming fun hc => ?_
  refine .ite (fun _ => .pure fun w h => ⟨h, ret_zero hc (by decide)⟩) fun _ => ?_
  refine .bind (update_calm (fun _ => rfl) fun _ => rfl) fun _ => ?_
  refine .bind (ask_calm (by decide)) fun ret => .assuming fun ha => ?_
  refine .ite (fun _ => ?_) fun _ => .pure fun w h => ⟨h, fun _ => rfl⟩
  exact .bind gpmEpollClose_calm fun _ => .pure fun w h => ⟨h, ret_zero ha (by decide)⟩

def Waited (p : Phase) (ret : UInt32) : Prop := p = .exchange → ret = 0 ∨ ret = ETIMEDOUT

theorem waitEvents_calm :
    Triple (Calm p J) waitEvents fun r w => Calm p J w ∧
      (p = .exchange → ∃ events, r = .ok events ∧
        ∀ ret, readiness events = some ret → ret = 0 ∨ ret = ETIMEDOUT) := by
  refine .loop (I := fun _ => Calm p J) (fun _ => ?_) ()
  refine .bind (Q := fun r w => Calm p J w ∧ p.allows (.epollWait r) = true) ?_ fun r => ?_
  · refine .next fun s e es r he h => ?_
    split at he
    · cases he
      obtain ⟨ha, hc⟩ := calm_cons.mp h
      exact ⟨by cases p <;> exact hc, ha⟩
    · cases he
  · refine .assuming fun ha => ?_
    cases r with
    | error errno =>
      refine .pure fun w h => ?_
      by_cases hi : errno = EINTR
      · simp only [if_pos hi]; exact h
      simp only [if_neg hi]
      refine ⟨h, fun hp => ?_⟩
      subst hp
      simp [Phase.allows, Event.fails, hi] at ha
    | ok events =>
      refine .pure fun w h => ⟨h, fun hp => ⟨events, rfl, fun ret hr => ?_⟩⟩
      subst hp
      simpa only [Phase.allows_exchange, Event.fails, hr, Bool.and_eq_false_iff,
        bne_eq_false_iff_eq] using ha

theorem timerRet_calm : Triple (Calm p J) timerRet fun ret w => Calm p J w ∧ Waited p ret := by
  refine .bind (ask_calm (by decide)) fun ret => .assuming fun ha => ?_
  refine .pure fun w h => ⟨h, fun hp => .inr (if_neg fun hr => ?_)⟩
  subst hp
  simp [Phase.allows, Event.fails, hr] at ha

theorem gpmEpollLeave_calm {ret : UInt32} (hr : Waited p ret) :
    Triple (Calm p J) (gpmEpollLeave ret) fun ret w => Calm p J w ∧ Waited p ret := by
  refine .bind (.read (Q := fun _ => Calm p J) fun w h => h) fun ctx => ?_
  refine .ite (fun _ => .pure fun w h => ⟨h, hr⟩) fun _ => ?_
  refine .bind (ask_calm (by decide)) fun del => .assuming fun hd => ?_
  refine .ite (fun hne => ?_) fun _ => .pure fun w h => ⟨h, hr⟩
  refine .bind gpmEpollClose_calm fun _ => .pure fun w h => ⟨h, fun hp => ?_⟩
  exact absurd (ret_zero hd (by decide) hp) hne

theorem gpmEnsureEpoll_calm :
    Triple (Calm p J) gpmEnsureEpoll fun ret w => Calm p J w ∧ (p = .exchange → ret = 0) := by
  refine .bind (.read (Q := fun _ => Calm p J) fun w h => h) fun ctx => ?_
  exact .ite (fun _ => gpmEpollSetup_calm) fun _ => .pure fun w h => ⟨h, fun _ => rfl⟩

theorem waitRet_calm : Triple (Calm p J) waitRet fun ret w => Calm p J w ∧ Waited p ret := by
  refine .bind waitEvents_calm fun r => .assuming fun hr => ?_
  cases r with
  | error errno =>
    refine .pure fun w h => ⟨h, fun hp => ?_⟩
    obtain ⟨events, heq, -⟩ := hr hp; cases heq
  | ok events =>
    simp only
    split
    · exact timerRet_calm
    rename_i ret hre
    refine .pure fun w h => ⟨h, fun hp => ?_⟩
    obtain ⟨events', heq, ha⟩ := hr hp
    cases heq
    exact ha ret hre

theorem gpmEpollWait_calm :
    Triple (Calm p J) gpmEpollWait fun ret w => Calm p J w ∧ Waited p ret := by
  refine .bind gpmEnsureEpoll_calm fun ret => .assuming fun hs => ?_
  refine .ite (fun _ => .pure fun w h => ⟨h, fun hp => .inl (hs hp)⟩) fun _ => ?_
  refine .bind (ask_calm (by decide)) fun ret => .assuming fun ha => ?_
  refine .ite (fun _ => ?_) fun _ => ?_
  · exact .bind gpmEpollClose_calm fun _ => .pure fun w h =>
      ⟨h, fun hp => .inl (ret_zero ha (by decide) hp)⟩
  refine .bind waitRet_calm fun ret => .assuming fun hr => ?_
  refine .ite (fun _ => ?_) fun _ => gpmEpollLeave_calm hr
  exact .bind gpmEpollClose_calm fun _ => gpmEpollLeave_calm hr

theorem gpmEpollWait_exchange :
    Triple (Calm .exchange J) gpmEpollWait fun ret w =>
      Calm .exchange J w ∧ (ret = 0 ∨ ret = ETIMEDOUT) :=
  gpmEpollWait_calm.conseq (fun _ h => h) fun _ _ h => ⟨h.1, h.2 rfl⟩

end

/-! ## Opening the socket -/

/-- The socket is closed or at a message boundary. -/
def Settled (fd : Option Channel) : Prop := ∀ ch, fd = some ch → ch.AtBoundary

abbrev Idle : World Event GpmCtx → Prop := Calm .idle fun fd _ => Settled fd

def Adrift (J : Option Channel → Prop) (w : World Event GpmCtx) : Prop :=
  ∃ p, Calm p (fun fd _ => J fd) w ∧ p ≠ .any

theorem settled_none : Settled none := fun _ h => nomatch h

variable {w : World Event GpmCtx}

theorem Adrift.mono {J J' : Option Channel → Prop} (h : Adrift J w)
    (hle : ∀ fd, J fd → J' fd) : Adrift J' w := by
  obtain ⟨p, ⟨hs, hJ⟩, hp⟩ := h
  exact ⟨p, ⟨hs, hle _ hJ⟩, hp⟩

theorem Idle.adrift (h : Idle w) : Adrift Settled w :=
  ⟨.idle, h, by decide⟩

variable {J : Option Channel → Prop} {part : Part} {size : Bytes}

theorem ask_connect : Triple (Adrift J) (ask .connect) fun _ => Calm .idle fun fd _ => J fd := by
  refine ask_triple fun s ret es ⟨p, h, hp⟩ => ?_
  obtain ⟨-, hc⟩ := calm_cons.mp h
  cases p with
  | any => exact absurd rfl hp
  | idle => exact hc
  | exchange => exact hc

theorem ask_adrift (hc : call ≠ .connect) : Triple (Adrift J) (ask call) fun _ => Adrift J :=
  .of_exists fun p => .assuming fun hp =>
    (ask_calm hc).conseq (fun _ h => h) fun _ _ h => ⟨p, h.1, hp⟩

theorem gpmOpenSocket_shut {who : Identity} :
    Triple (Adrift (· = none)) (gpmOpenSocket who) fun ret w =>
      (ret = 0 → Idle w) ∧ (ret ≠ 0 → Adrift (· = none) w) := by
  refine .bind (ask_adrift (by decide)) fun ret => ?_
  refine .ite (fun hne => .pure fun w h => ⟨fun h0 => absurd h0 hne, fun _ => h⟩) fun _ => ?_
  refine .bind ask_connect fun ret => ?_
  refine .bind (Q := fun _ w => (ret = 0 → Idle w) ∧ (ret ≠ 0 → Adrift (· = none) w)) ?_
    fun _ => .pure fun w h => h
  refine .update fun w h => ⟨fun h0 => ⟨h.1, ?_⟩, fun hne => ⟨.idle, ⟨h.1, ?_⟩, by decide⟩⟩
  · rw [if_neg (not_not.mpr h0)]
    rintro ch ⟨⟩
    exact ⟨rfl, rfl⟩
  · rw [if_pos hne]

theorem gpmCloseSocket_adrift : Triple (Adrift J) gpmCloseSocket fun _ => Adrift (· = none) :=
  .update fun _ ⟨p, h, hp⟩ => ⟨p, ⟨h.1, rfl⟩, hp⟩

theorem gpmRetrySocket_adrift {who : Identity} :
    Triple (Adrift J) (gpmRetrySocket who) fun ret w =>
      (ret = 0 → Idle w) ∧ (ret ≠ 0 → Adrift (· = none) w) := by
  refine .bind (Q := fun _ => Adrift J) ?_ fun _ => .bind gpmCloseSocket_adrift fun _ =>
    gpmOpenSocket_shut
  exact .of_exists fun p => .assuming fun hp =>
    gpmEpollClose_calm.conseq (fun _ h => h) fun _ _ h => ⟨p, h, hp⟩

/-! ## Sending a request -/

section

variable {daemon : Daemon} {who : Identity} {bytes : Bytes}

theorem send_triple {Q : Except UInt32 Nat → World Event GpmCtx → Prop}
    (her : ∀ s errno es, P ⟨s, .send part (.error errno) :: es⟩ → Q (.error errno) ⟨s, es⟩)
    (hok : ∀ s ch wn es, s.fd = some ch → wn ≤ bytes.length →
      P ⟨s, .send part (.ok wn) :: es⟩ →
        Q (.ok wn) ⟨{ s with fd := some (ch.send daemon.peer (bytes.take wn)) }, es⟩) :
    Triple P (send daemon part bytes) Q := by
  refine .interact fun s e es a s' he hP => ?_
  split at he
  · split at he
    · rename_i hp
      cases he
      exact her s _ es (hp ▸ hP)
    · cases he
  · rename_i p wn ch hfd
    split at he
    · rename_i hp
      cases he
      exact hok s ch wn es hfd hp.2 (hp.1 ▸ hP)
    · cases he
  · cases he

def Sent (daemon : Daemon) (bytes : Bytes) (w : World Event GpmCtx) : Prop :=
  ∃ ch : Channel, Calm .exchange (fun fd _ => fd = some (ch.send daemon.peer bytes)) w ∧ ch.AtBoundary

theorem send_header (hsi : size.length = 4) :
    Triple Idle (send daemon .header size) fun wn w =>
      (wn = .ok 4 → Sent daemon size w) ∧ (wn ≠ .ok 4 → Idle w) := by
  refine send_triple (fun s errno es h => ⟨nofun, fun _ => ?_⟩) fun s ch wn es hfd hle h => ?_
  · exact (calm_cons.mp h).2
  · obtain ⟨hs, hc⟩ := calm_cons.mp h
    have hb : ch.AtBoundary := hc.2 ch hfd
    refine ⟨fun h4 => ?_, fun h4 => ?_⟩
    · cases h4
      refine ⟨ch, ⟨hc.1, ?_⟩, hb⟩
      rw [List.take_of_length_le (Nat.le_of_eq hsi)]
    · have hz : wn = 0 := by
        simp only [Phase.allows, Event.short, Bool.not_eq_true', Bool.or_eq_false_iff,
          beq_eq_false_iff_ne] at hs
        simp only [ne_eq, Except.ok.injEq] at h4; omega
      subst hz
      refine ⟨hc.1, fun ch' hch' => ?_⟩
      cases hch'
      rw [List.take_zero, Channel.send_nil hb.1]
      exact hb

theorem sendHeader_idle (hs : size.length = 4) :
    Triple Idle (sendHeader daemon size) fun r w =>
      (r = .ok (.ok 4) → Sent daemon size w) ∧ (r ≠ .ok (.ok 4) → Idle w) ∧ r ≠ .error 0 := by
  refine .loop (I := fun _ => Idle) (fun _ => ?_) ()
  refine .bind gpmEpollWait_calm fun ret => .assuming fun _ => ?_
  refine .ite (fun hne => .pure fun w h => ⟨nofun, fun _ => h, ?_⟩) fun _ => ?_
  · exact fun h0 => hne (Except.error.inj h0)
  refine .bind (send_header hs) fun wn => .pure fun w h => ?_
  by_cases hi : wn = .error EINTR
  · rw [if_pos hi]; exact h.2 (hi ▸ nofun)
  · rw [if_neg hi]
    refine ⟨fun h4 => h.1 (Except.ok.inj h4), fun h4 => h.2 fun heq => ?_, nofun⟩
    exact h4 (congrArg _ heq)

theorem sendHeaderRetry_idle (hs : size.length = 4) :
    Triple Idle (sendHeaderRetry daemon who size) fun ret w =>
      (ret = 0 → Sent daemon size w) ∧ (ret ≠ 0 → Adrift Settled w) := by
  refine .loop (I := fun _ => Idle) (fun retry => ?_) false
  refine .bind (sendHeader_idle hs) fun r => ?_
  cases r with
  | error ret =>
    exact .pure fun w h => ⟨fun h0 => absurd (congrArg _ h0) h.2.2, fun _ => (h.2.1 nofun).adrift⟩
  | ok wn =>
    refine .ite (fun h4 => .pure fun w h => ⟨fun _ => h.1 (congrArg _ h4), ?_⟩) fun h4 => ?_
    · exact fun hne => absurd rfl hne
    have hi : (.ok wn : Except UInt32 (Except UInt32 Nat)) ≠ .ok (.ok 4) :=
      fun heq => h4 (Except.ok.inj heq)
    refine .ite (fun _ => .pure fun w h => ⟨nofun, fun _ => (h.2.1 hi).adrift⟩) fun _ => ?_
    refine .bind (gpmRetrySocket_adrift.conseq (fun w h => (h.2.1 hi).adrift) fun _ _ h => h)
      fun ret => .pure fun w h => ?_
    by_cases h0 : ret = 0
    · rw [if_pos h0]; exact h.1 h0
    · rw [if_neg h0]
      exact ⟨fun h0' => absurd h0' h0, fun _ => (h.2 h0).mono fun fd hfd => hfd ▸ settled_none⟩

theorem send_body {sent : Bytes} :
    Triple (Sent daemon sent) (send daemon .body bytes) fun wn w =>
      match wn with
      | .error errno => Sent daemon sent w ∧ (errno = EINTR ∨ errno = EAGAIN)
      | .ok wn => Sent daemon (sent ++ bytes.take wn) w := by
  refine send_triple (fun s errno es ⟨ch, h, hb⟩ => ?_)
    fun s ch' wn es hfd hle ⟨ch, h, hb⟩ => ?_
  · obtain ⟨ha, hc⟩ := calm_cons.mp h
    refine ⟨⟨ch, hc, hb⟩, ?_⟩
    simpa only [Phase.allows_exchange, Event.fails, Bool.and_eq_false_iff,
      bne_eq_false_iff_eq] using ha
  · obtain ⟨-, hc⟩ := calm_cons.mp h
    refine ⟨ch, ⟨hc.1, ?_⟩, hb⟩
    have hs : ch' = ch.send daemon.peer sent := Option.some.inj (hfd.symm.trans hc.2)
    rw [hs, Channel.send_send]

theorem gpmEpollWait_sent :
    Triple (Sent daemon bytes) gpmEpollWait fun ret w =>
      Sent daemon bytes w ∧ (ret = 0 ∨ ret = ETIMEDOUT) :=
  .framed fun _ _ => gpmEpollWait_exchange

theorem Sent.adrift (h : Sent daemon bytes w) : Adrift (fun _ => True) w := by
  obtain ⟨ch, hc, -⟩ := h
  exact ⟨.exchange, ⟨hc.1, trivial⟩, by decide⟩

theorem sendBody_sent {header buffer : Bytes} :
    Triple (Sent daemon header) (sendBody daemon buffer) fun ret w =>
      (ret = 0 → Sent daemon (header ++ buffer) w) ∧
        (ret ≠ 0 → ret = ETIMEDOUT ∧ Adrift (fun _ => True) w) := by
  refine .conseq (.loop (I := fun pos => Sent daemon (header ++ buffer.take pos))
    (fun pos => ?_) 0) (fun w h => ?_) fun _ _ h => h
  · refine .ite (fun hd => .pure fun w h => ⟨fun _ => ?_, fun hne => absurd rfl hne⟩)
      fun hm => ?_
    · rwa [List.take_of_length_le hd] at h
    refine .bind gpmEpollWait_sent fun ret => .assuming fun hr => ?_
    refine .ite (fun hne => .pure fun w h => ?_) fun _ => ?_
    · exact ⟨fun h0 => absurd h0 hne, fun _ => ⟨hr.resolve_left hne, h.adrift⟩⟩
    refine .bind send_body fun wn => ?_
    cases wn with
    | error errno =>
      refine .assuming fun ha => .pure fun w h => ?_
      rw [if_pos ha]
      exact h
    | ok wn =>
      refine .pure fun w h => ?_
      show Sent daemon (header ++ buffer.take (pos + wn)) w
      rw [List.take_add, ← List.append_assoc]
      exact h
  · rwa [List.take_zero, List.append_nil]

/-- The last request is sent, and `reply` answers it. -/
structure Answered (daemon : Daemon) (buffer reply : Bytes) (ch : Channel) : Prop where
  sent : ch.pending = []
  request : ∃ before, ch.requests = before ++ [buffer]
  reply : reply = daemon ch.id ch.requests

def Reading (daemon : Daemon) (buffer reply rest : Bytes) (w : World Event GpmCtx) : Prop :=
  ∃ ch : Channel, Calm .exchange (fun fd _ => fd = some ch) w ∧
    Answered daemon buffer reply ch ∧ ch.unread = rest

def Awaiting (daemon : Daemon) (buffer : Bytes) (w : World Event GpmCtx) : Prop :=
  ∃ reply, Reading daemon buffer reply (frame reply) w

theorem Sent.awaiting {buffer : Bytes} (h : Sent daemon (frame buffer) w)
    (hl : buffer.length ≤ MAX_RPC_SIZE) : Awaiting daemon buffer w := by
  obtain ⟨ch, hc, hb⟩ := h
  have hlt : buffer.length < 2147483648 := by unfold MAX_RPC_SIZE at hl; omega
  rw [Channel.send_frame hb.1 hlt] at hc
  refine ⟨_, _, hc, ⟨rfl, ⟨ch.requests, rfl⟩, rfl⟩, ?_⟩
  rw [Channel.answer, hb.2]
  rfl

theorem gpmSendBuffer_idle {buffer : Bytes} :
    Triple Idle (gpmSendBuffer daemon who buffer) fun ret w =>
      (ret = 0 → Awaiting daemon buffer w) ∧
        (ret ≠ 0 → Adrift (fun fd => ret ≠ ETIMEDOUT → Settled fd) w) := by
  refine .ite (fun _ => .pure fun w h => ⟨nofun, fun _ => ?_⟩) fun hl => ?_
  · exact h.adrift.mono fun fd hfd _ => hfd
  refine .bind (sendHeaderRetry_idle (beBytes_length _)) fun ret => ?_
  refine .ite (fun hne => .pure fun w h => ?_) fun h0 => ?_
  · exact ⟨fun h0 => absurd h0 hne, fun _ => (h.2 hne).mono fun fd hfd _ => hfd⟩
  refine sendBody_sent.conseq (fun w h => h.1 (not_not.mp h0)) fun ret w h => ⟨fun h0 => ?_, ?_⟩
  · exact (h.1 h0).awaiting (Nat.not_lt.mp hl)
  · intro hne
    obtain ⟨ht, ha⟩ := h.2 hne
    exact ha.mono fun fd _ ho => absurd ht ho

end

/-! ## Reading a reply -/

section

variable {daemon : Daemon} {who : Identity}

theorem read_triple {Q : Except UInt32 Bytes → World Event GpmCtx → Prop} {count : Nat}
    (her : ∀ s errno es, P ⟨s, .read part (.error errno) :: es⟩ → Q (.error errno) ⟨s, es⟩)
    (hok : ∀ s ch rn es, s.fd = some ch → rn ≤ count → rn ≤ ch.unread.length →
      P ⟨s, .read part (.ok rn) :: es⟩ →
        Q (.ok (ch.unread.take rn)) ⟨{ s with fd := some (ch.read rn) }, es⟩) :
    Triple P (readSocket part count) Q := by
  refine .interact fun s e es a s' he hP => ?_
  split at he
  · split at he
    · rename_i hp
      cases he
      exact her s _ es (hp ▸ hP)
    · cases he
  · rename_i p rn ch hfd
    split at he
    · rename_i hp
      cases he
      exact hok s ch rn es hfd hp.2.1 hp.2.2 (hp.1 ▸ hP)
    · cases he
  · cases he

variable {buffer reply rest : Bytes}

theorem Reading.adrift (h : Reading daemon buffer reply rest w) : Adrift (fun _ => True) w := by
  obtain ⟨ch, hc, -⟩ := h
  exact ⟨.exchange, ⟨hc.1, trivial⟩, by decide⟩

theorem gpmEpollWait_reading :
    Triple (Reading daemon buffer reply rest) gpmEpollWait fun ret w =>
      Reading daemon buffer reply rest w ∧ (ret = 0 ∨ ret = ETIMEDOUT) :=
  .framed fun _ _ => gpmEpollWait_exchange

theorem readSocket_reading {count : Nat} :
    Triple (Reading daemon buffer reply rest) (readSocket part count) fun r w =>
      match r with
      | .error errno =>
        Reading daemon buffer reply rest w ∧ (Event.read part (.error errno)).fails = false
      | .ok bytes => ∃ n, Reading daemon buffer reply (rest.drop n) w ∧
          (bytes = rest.take n ∧ n ≤ rest.length ∧ (Event.read part (.ok n)).fails = false) := by
  refine read_triple (fun s errno es ⟨ch, h, hch⟩ => ?_)
    fun s ch' rn es hfd _ hle ⟨ch, h, hch⟩ => ?_
  · obtain ⟨ha, hc⟩ := calm_cons.mp h
    exact ⟨⟨ch, hc, hch⟩, Phase.allows_exchange.mp ha⟩
  · obtain ⟨ha, hc⟩ := calm_cons.mp h
    obtain ⟨⟨hse, hr, hre⟩, hu⟩ := hch
    have hs : ch' = ch := Option.some.inj (hfd.symm.trans hc.2)
    subst hs
    subst hu
    exact ⟨rn, ⟨ch'.read rn, ⟨hc.1, rfl⟩, ⟨hse, hr, hre⟩, rfl⟩, rfl, hle,
      Phase.allows_exchange.mp ha⟩

theorem readHeader_reading :
    Triple (Reading daemon buffer reply (frame reply)) readHeader fun r w =>
      match r with
      | .error ret => ret = ETIMEDOUT ∧ Adrift (fun _ => True) w
      | .ok size => Reading daemon buffer reply reply w ∧ size = encodeHeader reply.length := by
  refine .loop (I := fun _ => Reading daemon buffer reply (frame reply)) (fun _ => ?_) ()
  refine .bind gpmEpollWait_reading fun ret => .assuming fun hr => ?_
  refine .ite (fun hne => .pure fun w h => ⟨hr.resolve_left hne, h.adrift⟩) fun _ => ?_
  refine .bind readSocket_reading fun r => ?_
  cases r with
  | error errno =>
    refine .assuming fun hf => .pure fun w h => ?_
    simp only [Event.fails, bne_eq_false_iff_eq] at hf
    rw [if_pos hf]
    exact h
  | ok bytes =>
    refine .of_exists fun n => .assuming fun ⟨hb, _, hf⟩ => .pure fun w h => ?_
    simp only [Event.fails, bne_eq_false_iff_eq] at hf
    subst hf
    exact ⟨h, hb⟩

theorem announced_encodeHeader {len : Nat} (h : len < 2147483648) :
    announced (encodeHeader len) = some len := by
  show some (bodyLength (ofBeBytes _ _ _ _)) = some len
  rw [ofBeBytes_beBytes, bodyLength_marked h]

theorem readBody_reading :
    Triple (Reading daemon buffer reply reply) (readBody reply.length) fun r w =>
      match r with
      | .error ret => ret = ETIMEDOUT ∧ Adrift (fun _ => True) w
      | .ok bytes => Reading daemon buffer reply [] w ∧ bytes = reply := by
  refine .conseq (.loop (I := fun bytes w => ∃ rest, Reading daemon buffer reply rest w ∧
    reply = bytes ++ rest) (fun bytes => .of_exists fun rest => .assuming fun hr => ?_) [])
    (fun w h => ⟨reply, h, rfl⟩) fun _ _ h => h
  have hln : reply.length = bytes.length + rest.length := by rw [hr, List.length_append]
  refine .ite (fun hd => .pure fun w h => ?_) fun hm => ?_
  · have hre : rest = [] := List.eq_nil_of_length_eq_zero (by omega)
    subst hre
    exact ⟨h, by rw [hr, List.append_nil]⟩
  refine .bind gpmEpollWait_reading fun ret => .assuming fun hrt => ?_
  refine .ite (fun hne => .pure fun w h => ⟨hrt.resolve_left hne, h.adrift⟩) fun _ => ?_
  refine .bind readSocket_reading fun r => ?_
  cases r with
  | error errno =>
    refine .assuming fun hf => .pure fun w h => ?_
    simp only [Event.fails, Bool.and_eq_false_iff, bne_eq_false_iff_eq] at hf
    rw [if_pos hf]
    exact ⟨rest, h, hr⟩
  | ok more =>
    refine .of_exists fun n => .assuming fun ⟨ht, hle, hf⟩ => .pure fun w h => ?_
    simp only [Event.fails, beq_eq_false_iff_ne] at hf
    have hs : more ≠ [] := by
      intro hn
      have hl := congrArg List.length ht
      rw [hn, List.length_take, List.length_nil] at hl; omega
    rw [if_neg hs]
    refine ⟨rest.drop n, h, ?_⟩
    rw [ht, List.append_assoc, List.take_append_drop]
    exact hr

theorem Reading.length_le (h : Reading daemon buffer reply rest w)
    (hd : ∀ id requests, (daemon id requests).length ≤ MAX_RPC_SIZE) :
    reply.length ≤ MAX_RPC_SIZE := by
  obtain ⟨ch, -, ha, -⟩ := h
  rw [ha.reply]
  exact hd _ _

theorem ask_reading (hc : call ≠ .connect) :
    Triple (Reading daemon buffer reply rest) (ask call) fun ret w =>
      Reading daemon buffer reply rest w ∧ (Event.returns call ret).fails = false :=
  .framed fun _ _ => (ask_calm hc).conseq (fun _ h => h) fun _ _ h =>
    ⟨h.1, Phase.allows_exchange.mp h.2⟩

theorem gpmRecvBuffer_awaiting (hd : ∀ id requests, (daemon id requests).length ≤ MAX_RPC_SIZE) :
    Triple (Awaiting daemon buffer) gpmRecvBuffer fun r w =>
      match r with
      | .error ret => ret = ETIMEDOUT ∧ Adrift (fun _ => True) w
      | .ok reply => Reading daemon buffer reply [] w := by
  refine .of_exists fun reply => .bind readHeader_reading fun r => ?_
  cases r with
  | error ret => exact .pure fun w h => h
  | ok size =>
    refine .assuming fun hs => .conseq (P := fun w => Reading daemon buffer reply reply w ∧
      reply.length ≤ MAX_RPC_SIZE) (.assuming fun hl => ?_)
      (fun w h => ⟨h, h.length_le hd⟩) fun _ _ h => h
    have hlt : reply.length < 2147483648 := by unfold MAX_RPC_SIZE at hl; omega
    simp only [hs, announced_encodeHeader hlt, if_neg (Nat.not_lt.mpr hl)]
    refine .bind (ask_reading (by decide)) fun ret => .assuming fun hm => ?_
    have hr : ret = 0 := by simpa [Event.fails] using hm
    rw [if_neg (not_not.mpr hr)]
    refine readBody_reading.conseq (fun w h => h) fun r w h => ?_
    cases r with
    | error ret => exact h
    | ok bytes => exact h.2 ▸ h.1

end

end GssProxy.Client.Gpm
