import GssProxy.Client.Transact
import GssProxy.System.Run

/-!
# Attempts of the Rust client

Unlike the C client this one closes the stream whenever an attempt fails, so nothing has to be assumed of
the events.

* `transport_discipline`: how a call leaves the connection, and whose reply it returns.
-/

namespace GssProxy.Client.Conn

open Codec Effect Effect.Traced Proto GssProxy.System

/-! ## One attempt -/

section

variable {peer : Peer} {conn : ClientConn} {ch : Channel}

def Holds (conn : ClientConn) (ch : Channel) (w : World Event ClientConn) : Prop :=
  w.state = { conn with stream := some ch }

theorem write_holds {buf : Bytes} :
    Triple (Holds conn ch) (write peer buf) fun r w =>
      match r with
      | .ok n => Holds conn (ch.send peer (buf.take n)) w
      | .error _ => Holds conn ch w := by
  refine .interact fun s e es a s' he hs => ?_
  cases (hs : s = _)
  split at he
  · cases he; rfl
  · rename_i heq
    cases heq
    split at he
    · cases he; rfl
    · cases he
  · cases he

theorem readSome_holds {count : Nat} :
    Triple (Holds conn ch) (readSome count) fun r w =>
      match r with
      | .ok bytes => ∃ n, Holds conn (ch.read n) w ∧
          (bytes = ch.unread.take n ∧ n ≤ count ∧ n ≤ ch.unread.length)
      | .error _ => Holds conn ch w := by
  refine .interact fun s e es a s' he hs => ?_
  cases (hs : s = _)
  split at he
  · cases he; rfl
  · rename_i n c heq
    cases heq
    split at he
    · rename_i hn
      cases he
      exact ⟨n, rfl, rfl, hn⟩
    · cases he
  · cases he

theorem writeAll_holds {sent bytes : Bytes} :
    Triple (Holds conn (ch.send peer sent)) (writeAll peer bytes).run fun r w =>
      match r with
      | .ok _ => Holds conn (ch.send peer (sent ++ bytes)) w
      | .error _ => ∃ ch', Holds conn ch' w := by
  rw [writeAll, ExceptT.run_mk]
  refine .conseq (.loop (I := fun buf w => ∃ done, Holds conn (ch.send peer (sent ++ done)) w ∧
    bytes = done ++ buf) (fun buf => .of_exists fun done => .assuming fun hb => ?_) bytes)
    (fun w h => ⟨[], by rwa [List.append_nil], rfl⟩) fun _ _ h => h
  refine .ite (fun hni => .pure fun w h => ?_) fun _ => ?_
  · rw [hni, List.append_nil] at hb
    rw [hb]
    exact h
  refine .bind write_holds fun r => ?_
  cases r with
  | ok n =>
    refine .pure fun w h => ?_
    by_cases hn : n = 0
    · rw [if_pos hn]; exact ⟨_, h⟩
    rw [if_neg hn]
    refine ⟨done ++ buf.take n, ?_, ?_⟩
    · rw [← List.append_assoc, ← Channel.send_send]; exact h
    · rw [List.append_assoc, List.take_append_drop]; exact hb
  | error e =>
    refine .pure fun w h => ?_
    by_cases he : e = .interrupted
    · rw [if_pos he]; exact ⟨done, h, hb⟩
    · rw [if_neg he]; exact ⟨_, h⟩

theorem readExact_holds {count : Nat} :
    Triple (Holds conn ch) (readExact count).run fun r w =>
      match r with
      | .ok buf => Holds conn (ch.read count) w ∧ (buf = ch.unread.take count ∧ buf.length = count)
      | .error _ => ∃ ch', Holds conn ch' w := by
  rw [readExact, ExceptT.run_mk]
  refine .conseq (.loop (I := fun buf w => ∃ k, Holds conn (ch.read k) w ∧
    (buf = ch.unread.take k ∧ k ≤ ch.unread.length ∧ k ≤ count))
    (fun buf => .of_exists fun k => .assuming fun ⟨hb, hk, hc⟩ => ?_) [])
    (fun w h => ⟨0, ?_, rfl, Nat.zero_le _, Nat.zero_le _⟩) fun _ _ h => h
  · have hl : buf.length = k := by rw [hb, List.length_take]; omega
    refine .ite (fun hd => .pure fun w h => ?_) fun _ => ?_
    · obtain rfl : k = count := by omega
      exact ⟨h, hb, hl⟩
    refine .bind readSome_holds fun r => ?_
    cases r with
    | ok bytes =>
      refine .of_exists fun n => .assuming fun ⟨hby, hn, hle⟩ => .pure fun w h => ?_
      by_cases hen : bytes = []
      · rw [if_pos hen]; exact ⟨_, h⟩
      rw [if_neg hen]
      have hu : (ch.read k).unread.length = ch.unread.length - k := List.length_drop
      refine ⟨k + n, ?_, ?_, by omega, by omega⟩
      · rw [← Channel.read_read]; exact h
      · rw [hb, hby, List.take_add]; rfl
    | error e =>
      refine .pure fun w h => ?_
      by_cases he : e = .interrupted
      · rw [if_pos he]; exact ⟨k, h, hb, hk, hc⟩
      · rw [if_neg he]; exact ⟨_, h⟩
  · have hr : ch.read 0 = ch := by simp [Channel.read]
    rw [hr]
    exact h

/-- One request was written, and one reply read. -/
structure Exchanged (body reply : Bytes) (before after : Channel) : Prop where
  id : after.id = before.id
  requests : after.requests = before.requests ++ [body]
  pending : after.pending = []
  received : after.received = before.received ++ frame reply

theorem bodyLength_ok {hdr : Bytes} {len : Nat} (h : bodyLength hdr = .ok len) :
    hdr = encodeHeader len := by
  unfold bodyLength at h
  split at h
  · rename_i b₀ b₁ b₂ b₃
    cases hp : parseHeader (ofBeBytes b₀ b₁ b₂ b₃) with
    | error e => rw [hp] at h; cases h
    | ok len' =>
      rw [hp] at h
      cases h
      rw [← beBytes_of_parseHeader hp, beBytes_ofBeBytes]
  · cases h

theorem tryTransact_holds {body : Bytes} (hp : ch.pending = []) (hb : body.length ≤ MAX_RPC_SIZE) :
    Triple (Holds conn ch) (tryTransact peer body).run fun r w =>
      ∃ ch', Holds conn ch' w ∧ ∀ reply, r = .ok reply → Exchanged body reply ch ch' := by
  have hlt : body.length < 2147483648 := by unfold MAX_RPC_SIZE at hb; omega
  refine .conseq (P := Holds conn (ch.send peer [])) ?_ (fun w h => ?_) fun _ _ h => h
  · refine .bindExcept writeAll_holds (fun _ => ?_) fun e w ⟨ch', h⟩ => ⟨ch', h, nofun⟩
    refine .bindExcept writeAll_holds (fun _ => ?_) fun e w ⟨ch', h⟩ => ⟨ch', h, nofun⟩
    rw [List.nil_append]
    have hs : ch.send peer (encodeHeader body.length ++ body) = ch.answer peer body [] :=
      Channel.send_frame hp hlt
    rw [hs]
    refine .bindExcept readExact_holds (fun hdr => .assuming fun ⟨hhd, _⟩ => ?_)
      fun e w ⟨ch', h⟩ => ⟨ch', h, nofun⟩
    refine .bindExcept (Q := fun r w => Holds conn ((ch.answer peer body []).read 4) w ∧
      bodyLength hdr = r) (.pure fun w h => ⟨h, rfl⟩)
      (fun len => .assuming fun hl => ?_) fun e w h => ⟨_, h.1, nofun⟩
    refine readExact_holds.conseq (fun _ h => h) fun r w h => ?_
    cases r with
    | error e => obtain ⟨ch', h⟩ := h; exact ⟨ch', h, nofun⟩
    | ok reply =>
      obtain ⟨hh, hr, rfl⟩ := h
      rw [Channel.read_read] at hh
      refine ⟨_, hh, ?_⟩
      rintro _ ⟨⟩
      refine ⟨rfl, rfl, rfl, ?_⟩
      have hre : ((ch.answer peer body []).read 4).unread =
        (ch.answer peer body []).unread.drop 4 := rfl
      rw [Channel.read, List.take_add, ← hhd, ← hre, ← hr, bodyLength_ok hl]; rfl
  · rw [Channel.send_nil hp]; exact h

theorem attempt_holds {body : Bytes} (hp : ch.pending = []) (hb : body.length ≤ MAX_RPC_SIZE) :
    Triple (Holds conn ch) (attempt peer body) fun r w =>
      ∃ ch', w.state = { conn with
        stream := some ch', attempts := conn.attempts ++ [⟨some ch, r⟩] } ∧
          ∀ reply, r = .ok reply → Exchanged body reply ch ch' := by
  refine .bind (.read (Q := fun s w => Holds conn ch w ∧ s.stream = some ch)
    fun w h => ⟨h, by rw [(h : w.state = _)]⟩) fun s => .assuming fun hs => ?_
  rw [hs]
  refine .bind (tryTransact_holds hp hb) fun r => .of_exists fun ch' =>
    .assuming fun hr => ?_
  refine .bind (.update (Q := fun _ w => w.state = { conn with
    stream := some ch', attempts := conn.attempts ++ [⟨some ch, r⟩] }) fun w h => ?_) fun _ =>
    .pure fun w h => ⟨ch', h, hr⟩
  rw [(h : w.state = _)]

end

/-! ## Attempts one after the other -/

variable {e : GpmError} {n : Nat}

section

variable {peer : Peer} {who : Identity} {conn conn' : ClientConn} {ch : Channel} {body : Bytes}

/-- A new connection without traffic. -/
def Fresh (conn : ClientConn) (ch : Channel) : Prop :=
  ch = { id := ch.id } ∧ conn.openers.length ≤ ch.id

structure Connected (who : Identity) (conn conn' : ClientConn) (ch : Channel) : Prop where
  stream : conn'.stream = some ch
  owner : conn'.owner = who
  opener : conn'.openers[ch.id]? = some who
  pending : ch.pending = []
  origin : conn.stream = some ch ∨ conn.stream = none ∧ Fresh conn ch
  openers : conn.openers <+: conn'.openers
  attempts : conn'.attempts = conn.attempts

def Ready (who : Identity) (conn : ClientConn) : Prop :=
  ∀ ch, conn.stream = some ch → conn.owner = who ∧ conn.openers[ch.id]? = some who ∧ ch.pending = []

theorem ask_state {call : Sys} : Triple (·.state = conn) (ask call).run fun _ w => w.state = conn :=
  .next fun _ _ _ _ _ h => h

theorem connect_connected (hn : conn.stream = none) :
    Triple (·.state = conn) (connect who).run fun r w =>
      match r with
      | .ok _ => ∃ ch, Connected who conn w.state ch
      | .error _ => w.state = conn := by
  iterate 3 refine .bindExcept ask_state (fun _ => ?_) fun _ _ h => h
  refine .liftExcept (.update fun w h => ?_)
  subst h
  exact ⟨{ id := w.state.openers.length },
    { stream := rfl
      owner := rfl
      opener := List.getElem?_concat_length
      pending := rfl
      origin := .inr ⟨hn, rfl, Nat.le_refl _⟩
      openers := List.prefix_append _ _
      attempts := rfl }⟩

theorem ensureConnected_connected (hr : Ready who conn) :
    Triple (·.state = conn) (ensureConnected who) fun r w =>
      match r with
      | .ok _ => ∃ ch, Connected who conn w.state ch
      | .error _ => w.state = conn ∧ conn.stream = none := by
  refine .bind (.read (Q := fun s w => w.state = conn ∧ s = conn) fun w h => ⟨h, h⟩)
    fun s => .assuming fun hs => ?_
  subst hs
  refine .ite (fun hn => (connect_connected hn).conseq (fun _ h => h) fun r w h => ?_)
    fun hso => .pure fun w h => ?_
  · cases r with
    | ok => exact h
    | error => exact ⟨h, hn⟩
  · obtain ⟨ch, hch⟩ := Option.ne_none_iff_exists'.mp hso
    obtain ⟨how, ho, hp⟩ := hr ch hch
    rw [h]
    exact ⟨ch, hch, how, ho, hp, .inl hch, List.prefix_refl _, rfl⟩

structure Rounds (who : Identity) (body : Bytes) (n : Nat) (conn : ClientConn)
    (r : Except GpmError Bytes) (conn' : ClientConn) (made : List Attempt) : Prop where
  attempts : conn'.attempts = conn.attempts ++ made
  count : made.length ≤ n
  retried : ∀ a ∈ made.dropLast, ∃ e, a.outcome = .error e ∧ e.retryable = true
  first : ∀ a, made.head? = some a → ∀ ch, a.stream = some ch →
    conn.stream = some ch ∨ conn.stream = none ∧ Fresh conn ch
  fresh : ∀ a ∈ made.tail, ∀ ch, a.stream = some ch → Fresh conn ch
  opener : ∀ a ∈ made, ∀ ch, a.stream = some ch → conn'.openers[ch.id]? = some who
  openers : conn.openers <+: conn'.openers
  failed : ∀ e, r = .error e → conn'.stream = none
  answered : ∀ reply, r = .ok reply → ∃ ch ch', made.getLast? = some ⟨some ch, .ok reply⟩ ∧
    conn'.stream = some ch' ∧ conn'.owner = who ∧ Exchanged body reply ch ch'

theorem Rounds.empty (hn : conn.stream = none) : Rounds who body n conn (.error e) conn [] where
  attempts := (List.append_nil _).symm
  count := Nat.zero_le n
  retried := nofun
  first := nofun
  fresh := nofun
  opener := nofun
  openers := List.prefix_refl _
  failed := fun _ _ => hn
  answered := nofun

theorem Rounds.unconnected (hn : conn.stream = none) :
    Rounds who body (n + 1) conn (.error e)
      { conn with attempts := conn.attempts ++ [⟨none, .error e⟩] } [⟨none, .error e⟩] where
  attempts := rfl
  count := Nat.le_add_left 1 n
  retried := nofun
  first := by rintro a ⟨⟩ ch hch; cases hch
  fresh := nofun
  opener := by
    intro a ha ch hch
    obtain rfl := List.mem_singleton.mp ha; cases hch
  openers := List.prefix_refl _
  failed := fun _ _ => hn
  answered := nofun

theorem Connected.last {stream : Option Channel} {r : Except GpmError Bytes}
    (h : Connected who conn conn' ch) (hf : ∀ e, r = .error e → stream = none)
    (han : ∀ reply, r = .ok reply → ∃ ch', stream = some ch' ∧ Exchanged body reply ch ch') :
    Rounds who body (n + 1) conn r
      { conn' with stream := stream, attempts := conn'.attempts ++ [⟨some ch, r⟩] } [⟨some ch, r⟩] where
  attempts := by rw [h.attempts]
  count := Nat.le_add_left 1 n
  retried := nofun
  first := by rintro a ⟨⟩ _ ⟨⟩; exact h.origin
  fresh := nofun
  opener := by
    intro a ha ch' hch'
    obtain rfl := List.mem_singleton.mp ha
    cases hch'
    exact h.opener
  openers := h.openers
  failed := hf
  answered := by
    intro reply hr
    obtain ⟨ch', hs, he⟩ := han reply hr
    exact ⟨ch, ch', hr ▸ rfl, hs, h.owner, he⟩

theorem Connected.retry {r : Except GpmError Bytes}
    {conn'' : ClientConn} {made : List Attempt} (h : Connected who conn conn' ch)
    (hrt : e.retryable = true) (hre : Rounds who body n
      { conn' with stream := none, attempts := conn'.attempts ++ [⟨some ch, .error e⟩] } r conn'' made) :
    Rounds who body (n + 1) conn r conn'' (⟨some ch, .error e⟩ :: made) where
  attempts := by rw [hre.attempts, h.attempts, List.append_assoc, List.singleton_append]
  count := Nat.succ_le_succ hre.count
  retried := by
    intro a ha
    cases made with
    | nil => cases ha
    | cons b made =>
      rcases List.mem_cons.mp ha with rfl | ha
      · exact ⟨e, rfl, hrt⟩
      · exact hre.retried a ha
  first := by rintro a ⟨⟩ _ ⟨⟩; exact h.origin
  fresh := by
    intro a ha ch' hch'
    have hg := h.openers.length_le
    cases made with
    | nil => cases ha
    | cons b made =>
      rcases List.mem_cons.mp ha with rfl | ha
      · obtain hs | ⟨-, hf⟩ := hre.first a rfl ch' hch'
        · cases hs
        · exact ⟨hf.1, Nat.le_trans hg hf.2⟩
      · obtain ⟨he, hl⟩ := hre.fresh a ha ch' hch'; exact ⟨he, Nat.le_trans hg hl⟩
  opener := by
    intro a ha ch' hch'
    rcases List.mem_cons.mp ha with rfl | ha
    · cases hch'
      obtain ⟨hlt, ho⟩ := List.getElem?_eq_some_iff.mp h.opener
      rw [← ho]
      exact List.prefix_iff_getElem?.mp hre.openers _ hlt
    · exact hre.opener a ha ch' hch'
  openers := h.openers.trans hre.openers
  failed := hre.failed
  answered := by
    intro reply hr
    obtain ⟨ch₀, ch', hla, hre⟩ := hre.answered reply hr
    refine ⟨ch₀, ch', ?_, hre⟩
    rw [List.getLast?_cons, hla]; rfl

theorem rounds_spec (hb : body.length ≤ MAX_RPC_SIZE) {lastErr : Option GpmError}
    (hre : Ready who conn) (hl : n = 0 → conn.stream = none) :
    Triple (·.state = conn) (rounds peer who body lastErr n) fun r w =>
      ∃ made, Rounds who body n conn r w.state made := by
  induction n generalizing conn lastErr with
  | zero =>
    refine .pure fun w h => ⟨[], ?_⟩
    rw [h]
    exact .empty (hl rfl)
  | succ n ih =>
    refine .bind (ensureConnected_connected hre) fun r => ?_
    cases r with
    | error e =>
      refine .assuming fun hn => .bind (.update (Q := fun _ w => w.state = { conn with
        attempts := conn.attempts ++ [⟨none, .error e⟩] }) fun w h => by rw [h]) fun _ => ?_
      refine .pure fun w h => ⟨[⟨none, .error e⟩], ?_⟩
      rw [h]
      exact .unconnected hn
    | ok =>
      refine .of_exists fun ch => .conseq (P := fun w => ∃ conn', Holds conn' ch w ∧
        Connected who conn conn' ch) (.of_exists fun conn' => .assuming fun hc => ?_)
        (fun w h => ⟨w.state, by rw [Holds, ← h.stream], h⟩) fun _ _ h => h
      refine .bind (attempt_holds hc.pending hb) fun r => .of_exists fun ch' =>
        .assuming fun he => ?_
      cases r with
      | ok reply =>
        refine .pure fun w h => ⟨[⟨some ch, .ok reply⟩], ?_⟩
        rw [h]
        exact hc.last nofun fun reply' hr => ⟨ch', rfl, he reply' hr⟩
      | error e =>
        -- the next round, if there is one, starts without a stream
        refine .bind (.update (Q := fun _ w => w.state = { conn' with
          stream := none, attempts := conn'.attempts ++ [⟨some ch, .error e⟩] }) fun w h => by rw [h])
          fun _ => ?_
        refine .ite (fun hrt => ?_) fun _ => .pure fun w h => ⟨[⟨some ch, .error e⟩], ?_⟩
        · refine .conseq (ih ?_ fun _ => rfl) (fun _ h => h) fun r w h => ?_
          · exact fun ch hch => nomatch hch
          · obtain ⟨made, hrs⟩ := h; exact ⟨_, hc.retry hrt hrs⟩
        · rw [h]; exact hc.last (fun _ _ => rfl) nofun

/-! ## A call -/

/-- An accepted reply to `xid` with the result. -/
def SuccessReply {ρ : Type} [Xdr ρ] (xid : UInt32) (reply : Bytes) (res : ρ) : Prop :=
  ∃ verf call d d', Message.decode.run (Stream.new reply) =
        .ok (⟨xid, false, call, some (.acceptedSuccess verf)⟩, d) ∧
      (Xdr.decode : XdrDecoder ρ).run d = .ok (res, d')

theorem decodeReply_success {ρ : Type} [Xdr ρ] {xid : UInt32} {reply : Bytes} {res : ρ}
    (h : decodeReply xid reply = .ok res) : SuccessReply xid reply res := by
  unfold decodeReply at h
  split at h
  · cases h
  rename_i msg d hm
  obtain ⟨xid', isCall, call, body⟩ := msg
  split at h
  · cases h
  rename_i hb
  rw [not_or, not_not, Bool.not_eq_true] at hb
  obtain ⟨rfl, rfl⟩ := hb
  split at h
  · rename_i verf hr
    split at h
    · cases h
    rename_i res' d' hre
    cases h
    cases hr
    exact ⟨verf, call, d, d', hm, hre⟩
  · cases h

def ClientConn.prepared (seed : UInt32) (who : Identity) (conn : ClientConn) : ClientConn :=
  (conn.ensureSeeded seed).refreshIdentity who

def ClientConn.numbered (conn : ClientConn) : ClientConn :=
  { conn with nextXid := conn.nextXid + 1 }

variable {α ρ : Type} [Xdr α] [Xdr ρ] {seed : UInt32} {proc : GssxProc} {arg : α}

theorem transact_spec (hr : Ready who conn) :
    Triple (·.state = conn) (transact peer who body) fun r w =>
      (MAX_RPC_SIZE < body.length ∧ r = .error .tooLarge ∧ w.state = conn) ∨
        ∃ made, Rounds who body MAX_TIMEOUT_RETRY conn r w.state made := by
  refine .ite (fun hl => .pure fun w h => .inl ⟨hl, rfl, h⟩) fun hb => ?_
  have hs : MAX_TIMEOUT_RETRY ≠ 0 := by decide
  exact (rounds_spec (Nat.not_lt.mp hb) hr fun h0 => absurd h0 hs).conseq
    (fun _ h => h) fun _ _ h => .inr h

theorem makeCall_spec (hr : Ready who (conn.prepared seed who)) (hb : body =
    encodeRequest (conn.prepared seed who).nextXid proc.toU32 arg) :
    Triple (·.state = conn) (makeCall peer who seed proc arg : ConnM (Except GpmError ρ))
      fun r w => ∃ r' : Except GpmError Bytes,
        r = r'.bind (decodeReply (conn.prepared seed who).nextXid) ∧
          ((MAX_RPC_SIZE < body.length ∧ r' = .error .tooLarge ∧
              w.state = (conn.prepared seed who).numbered) ∨
            ∃ made, Rounds who body MAX_TIMEOUT_RETRY (conn.prepared seed who).numbered r' w.state
              made) := by
  refine .bind (.update (Q := fun _ w => w.state = conn.ensureSeeded seed) fun w h => ?_) fun _ => ?_
  · rw [h]
  refine .bind (.update (Q := fun _ w => w.state = conn.prepared seed who) fun w h => ?_) fun _ => ?_
  · rw [h, ClientConn.prepared]
  refine .bind (.read (Q := fun s w => w.state = conn.prepared seed who ∧
    s = conn.prepared seed who) fun w h => ⟨h, h⟩) fun s => .assuming fun hs => ?_
  rw [hs, ← hb]
  refine .bind (.update (Q := fun _ w => w.state = (conn.prepared seed who).numbered)
    fun w h => ?_) fun _ => ?_
  · rw [h, ClientConn.numbered]
  refine .bind (transact_spec hr) fun r => ?_
  cases r with
  | error e => exact .pure fun w h => ⟨.error e, rfl, h⟩
  | ok reply => exact .pure fun w h => ⟨.ok reply, rfl, h⟩

end

/-! ## Runs -/

/-- A call with all it meets. -/
structure Invocation where
  who : Identity
  seed : UInt32
  proc : GssxProc
  arg : proc.Arg
  events : List Event

namespace Invocation

variable (peer : Peer) (conn : ClientConn) (call : Invocation)

def run : Option (Except GpmError call.proc.Res × ClientConn) :=
  match makeCall peer call.who call.seed call.proc call.arg
      ⟨{ conn with attempts := [] }, call.events⟩ with
  | some (r, ⟨conn', []⟩) => some (r, conn')
  | _ => none

def start : ClientConn :=
  ({ conn with attempts := [] } : ClientConn).prepared call.seed call.who

def xid : UInt32 := (call.start conn).nextXid

def body : Bytes := encodeRequest (call.xid conn) call.proc.toU32 call.arg

end Invocation

def step (peer : Peer) (conn : ClientConn) (call : Invocation) : Option ClientConn :=
  (call.run peer conn).map (·.2)

def Reachable (peer : Peer) : ClientConn → Prop := Reach (step peer) (fun _ _ => True) {}

/-- As many replies were read as requests were written. -/
structure Boundary (ch : Channel) : Prop where
  pending : ch.pending = []
  received : ∃ replies : List Bytes,
    replies.length = ch.requests.length ∧ ch.received = (replies.map frame).flatten

theorem Boundary.exchanged {ch ch' : Channel} {body reply : Bytes} (h : Boundary ch)
    (he : Exchanged body reply ch ch') : Boundary ch' := by
  obtain ⟨replies, hl, hr⟩ := h.received
  refine ⟨he.pending, replies ++ [reply], ?_, ?_⟩
  · rw [he.requests, List.length_append, List.length_append, hl]; rfl
  · rw [he.received, hr]; simp

def Inv (conn : ClientConn) : Prop :=
  ∀ ch, conn.stream = some ch → Boundary ch ∧ conn.openers[ch.id]? = some conn.owner

section

variable {peer : Peer} {conn conn' : ClientConn} {call : Invocation}
  {r : Except GpmError call.proc.Res}

theorem prepared_eq (seed : UInt32) (who : Identity) (conn : ClientConn) :
    (conn.prepared seed who).owner = conn.owner ∧ (conn.prepared seed who).openers = conn.openers ∧
        (conn.prepared seed who).attempts = conn.attempts ∧
          ∀ ch, (conn.prepared seed who).stream = some ch ↔
            conn.stream = some ch ∧ conn.owner = who := by
  have hse : (conn.ensureSeeded seed).owner = conn.owner ∧
      (conn.ensureSeeded seed).openers = conn.openers ∧
        (conn.ensureSeeded seed).attempts = conn.attempts ∧
          (conn.ensureSeeded seed).stream = conn.stream := by
    unfold ClientConn.ensureSeeded
    split <;> exact ⟨rfl, rfl, rfl, rfl⟩
  obtain ⟨ho, hop, ha, hs⟩ := hse
  unfold ClientConn.prepared ClientConn.refreshIdentity
  split
  · rename_i hn
    refine ⟨ho, hop, ha, fun ch => ?_⟩
    rw [← hs, hn]
    exact ⟨nofun, fun h => nomatch h.1⟩
  · split
    · rename_i hot
      refine ⟨ho, hop, ha, fun ch => ⟨nofun, fun h => ?_⟩⟩
      exact absurd (ho.trans h.2).symm hot
    rename_i hsa
    rw [ho, not_not] at hsa
    refine ⟨ho, hop, ha, fun ch => ?_⟩
    rw [hs]
    exact ⟨fun h => ⟨h, hsa.symm⟩, fun h => h.1⟩

theorem start_stream (hi : Inv conn) {ch : Channel} (h : (call.start conn).stream = some ch) :
    Boundary ch ∧ (call.start conn).owner = call.who ∧
      (call.start conn).openers[ch.id]? = some call.who := by
  obtain ⟨how, ho, -, hs⟩ := prepared_eq call.seed call.who { conn with attempts := [] }
  obtain ⟨hch, hw⟩ := (hs ch).mp h
  obtain ⟨hb, hop⟩ := hi ch hch
  refine ⟨hb, how.trans hw, ?_⟩
  rw [Invocation.start, ho, ← hw]
  exact hop

theorem run_spec (hi : Inv conn) (hru : call.run peer conn = some (r, conn')) :
    ∃ r' : Except GpmError Bytes, r = r'.bind (decodeReply (call.xid conn)) ∧
      ((MAX_RPC_SIZE < (call.body conn).length ∧ r' = .error .tooLarge ∧
          conn' = (call.start conn).numbered) ∨
        Rounds call.who (call.body conn) MAX_TIMEOUT_RETRY (call.start conn).numbered r' conn'
          conn'.attempts) := by
  unfold Invocation.run at hru
  split at hru
  · rename_i r₀ conn₀ hc
    cases hru
    have hre : Ready call.who (call.start conn) := fun ch hch => by
      obtain ⟨hb, how, ho⟩ := start_stream hi hch
      exact ⟨how, ho, hb.pending⟩
    obtain ⟨r', hr, hl | ⟨made, hm⟩⟩ := makeCall_spec hre rfl _ _ _ rfl hc
    · exact ⟨r', hr, .inl hl⟩
    have ha : conn'.attempts = made := by
      have hn : (call.start conn).numbered.attempts = [] :=
        (prepared_eq call.seed call.who { conn with attempts := [] }).2.2.1
      exact hm.attempts.trans (congrArg (· ++ made) hn)
    exact ⟨r', hr, .inr (ha ▸ hm)⟩
  · cases hru

theorem Rounds.boundary {who : Identity} {body : Bytes} {r : Except GpmError Bytes}
    {made : List Attempt} (h : Rounds who body n conn r conn' made)
    (hc : ∀ ch, conn.stream = some ch → Boundary ch) {a : Attempt} (ha : a ∈ made)
    {ch : Channel} (hch : a.stream = some ch) : Boundary ch := by
  have hf : ∀ {ch}, Fresh conn ch → Boundary ch := fun hch => hch.1 ▸ ⟨rfl, [], rfl, rfl⟩
  cases made with
  | nil => cases ha
  | cons b made =>
    rcases List.mem_cons.mp ha with rfl | ha
    · obtain hs | ⟨-, hl⟩ := h.first a rfl ch hch
      · exact hc _ hs
      · exact hf hl
    · exact hf (h.fresh a ha ch hch)

theorem inv_step (hi : Inv conn) (hst : step peer conn call = some conn') : Inv conn' := by
  obtain ⟨⟨r, conn''⟩, hru, rfl⟩ := Option.map_eq_some_iff.mp hst
  obtain ⟨r', -, ⟨-, -, rfl⟩ | hr⟩ := run_spec hi hru
  · intro ch hch
    obtain ⟨hb, ho, hop⟩ := start_stream hi hch
    refine ⟨hb, hop.trans (congrArg some ho.symm)⟩
  intro ch hch
  cases r' with
  | error e => rw [hr.failed e rfl] at hch; cases hch
  | ok reply =>
    obtain ⟨ch₀, ch', hl, hs, ho, he⟩ := hr.answered reply rfl
    cases hs.symm.trans hch
    have ha := List.mem_of_getLast? hl
    have hb := hr.boundary (fun ch hch => (start_stream hi hch).1) ha rfl
    refine ⟨hb.exchanged he, ?_⟩
    rw [he.id, ho]
    exact hr.opener _ ha ch₀ rfl

theorem Reachable.inv (h : Reachable peer conn) : Inv conn :=
  Reach.invariant (fun _ hch => by cases hch) (fun hi _ hs => inv_step hi hs) h

theorem retryable_io (h : e.retryable = true) : ∃ kind, e = .io kind ∧ isRetryable kind = true := by
  cases e with
  | io kind => exact ⟨kind, rfl, h⟩
  | _ => cases h

/-- **The discipline of the connection.**  Whatever the peer sends and the system calls return, a
    call makes at most `MAX_TIMEOUT_RETRY` attempts; all but the last end with a retryable I/O
    error, all but the first are made on a connection without traffic, and each on one that the
    caller's identity opened.  The stream is then closed; or one whole frame was written and one
    read since the last attempt found it at a boundary; or the request was too large, and it is as
    the check of the identity left it.  A result is the one in an accepted reply to the call's own
    transaction. -/
theorem transport_discipline (hreach : Reachable peer conn)
    (hrun : call.run peer conn = some (r, conn')) :
    conn'.attempts.length ≤ MAX_TIMEOUT_RETRY ∧
      (∀ a ∈ conn'.attempts.dropLast, ∃ e, a.outcome = .error (.io e) ∧ isRetryable e = true) ∧
      (∀ a ∈ conn'.attempts.tail, ∀ ch, a.stream = some ch → Fresh conn ch) ∧
      (∀ a ∈ conn'.attempts, ∀ ch, a.stream = some ch →
        conn'.openers[ch.id]? = some call.who) ∧ (conn'.stream = none ∨
        (∃ ch ch' reply, conn'.attempts.getLast? = some ⟨some ch, .ok reply⟩ ∧ Boundary ch ∧
          conn'.stream = some ch' ∧ Exchanged (call.body conn) reply ch ch') ∨
        (MAX_RPC_SIZE < (call.body conn).length ∧ conn'.attempts = [] ∧
          conn'.stream = (call.start conn).stream)) ∧
      ∀ res, r = .ok res → ∃ ch reply, conn'.attempts.getLast? = some ⟨some ch, .ok reply⟩ ∧
        SuccessReply (call.xid conn) reply res := by
  have hi := hreach.inv
  obtain ⟨-, ho, hat, -⟩ := prepared_eq call.seed call.who { conn with attempts := [] }
  obtain ⟨r', rfl, ⟨hla, rfl, rfl⟩ | hr⟩ := run_spec hi hrun
  · have hn : (call.start conn).numbered.attempts = [] := hat
    rw [hn]
    exact ⟨Nat.zero_le _, nofun, nofun, nofun, .inr (.inr ⟨hla, rfl, rfl⟩), nofun⟩
  refine ⟨hr.count, fun a ha => ?_, fun a ha ch hch => ?_, hr.opener, ?_, fun res hre => ?_⟩
  · obtain ⟨e, hou, hrt⟩ := hr.retried a ha
    obtain ⟨kind, rfl, hk⟩ := retryable_io hrt
    exact ⟨kind, hou, hk⟩
  · obtain ⟨hem, hlt⟩ := hr.fresh a ha ch hch; exact ⟨hem, ho ▸ hlt⟩
  · cases r' with
    | error e => exact .inl (hr.failed e rfl)
    | ok reply =>
      obtain ⟨ch, ch', hl, hs, -, he⟩ := hr.answered reply rfl
      have hb := hr.boundary (fun ch hch => (start_stream hi hch).1)
        (List.mem_of_getLast? hl) rfl
      exact .inr (.inl ⟨ch, ch', reply, hl, hb, hs, he⟩)
  · cases r' with
    | error e => cases hre
    | ok reply =>
      obtain ⟨ch, -, hl, -⟩ := hr.answered reply rfl
      exact ⟨ch, reply, hl, decodeReply_success hre⟩

end

def connecting : List Event :=
  [.returns .connect (.ok ()), .returns .setReadTimeout (.ok ()),
    .returns .setWriteTimeout (.ok ())]

def contextCall : Invocation :=
  ⟨⟨1, 0, 0⟩, 7, .getCallContext, (default : ArgGetCallContext),
    connecting ++ [.write (.ok 4), .write (.ok 56), .read (.error .wouldBlock)] ++
      connecting ++ [.write (.ok 4), .write (.error .interrupted), .write (.ok 20),
        .write (.ok 36), .read (.ok 4), .read (.ok 10), .read (.ok 58)]⟩

theorem transport_discipline_contextCall : ∃ res conn',
    contextCall.run echo.peer {} = some (.ok res, conn') ∧ conn'.attempts.length = 2 ∧
      (∀ a ∈ conn'.attempts.tail, ∀ ch, a.stream = some ch → Fresh {} ch) ∧
        ∃ ch reply, conn'.attempts.getLast? = some ⟨some ch, .ok reply⟩ ∧
          SuccessReply 7 reply res := by
  have hok : (contextCall.run echo.peer {}).map (fun r => (r.1.isOk, r.2.attempts.length)) =
      some (true, 2) := by decide +kernel
  obtain ⟨⟨r, conn'⟩, hru, hr⟩ := Option.map_eq_some_iff.mp hok
  cases r with
  | error e => cases hr
  | ok res =>
    have hre : Reachable echo.peer {} := .start
    obtain ⟨-, -, hf, -, -, hs⟩ := transport_discipline hre hru
    exact ⟨res, conn', hru, congrArg Prod.snd hr, hf, hs res rfl⟩

theorem run_large {peer : Peer} {conn : ClientConn} {call : Invocation} (he : call.events = [])
    (hl : MAX_RPC_SIZE < (call.body conn).length) :
    call.run peer conn = some (.error .tooLarge, (call.start conn).numbered) := by
  have ht : transact peer call.who (call.body conn) = pure (.error .tooLarge) := if_pos hl
  have hc : makeCall peer call.who call.seed call.proc call.arg
      ⟨{ conn with attempts := [] }, []⟩ =
        some ((.error .tooLarge : Except GpmError call.proc.Res), ⟨(call.start conn).numbered, []⟩) := by
    rw [makeCall, update_bind, update_bind, read_bind, update_bind]
    exact congrArg (fun m : ConnM (Except GpmError Bytes) => (m >>= _) _) ht
  rw [Invocation.run, he, hc]

def importCall (data : Bytes) : Invocation :=
  ⟨⟨1, 0, 0⟩, 7, .importCred, { (default : ArgImportCred) with exportedHandle := ⟨data⟩ }, []⟩

theorem length_importCall (data : Bytes) (conn : ClientConn) :
    data.length ≤ ((importCall data).body conn).length := by
  have ha : data.length ≤
      (Xdr.encode { (default : ArgImportCred) with exportedHandle := ⟨data⟩ }).length := by
    simp only [Xdr.encode, putOpaque, List.length_flatten, List.map_cons, List.sum_cons,
      List.length_append]
    omega
  rw [Invocation.body, encodeRequest, List.length_append]
  exact Nat.le_trans ha (Nat.le_add_left _ _)

/-- A request that is too large leaves the stream of the call before it, with no frame written or
    read. -/
theorem large_call_leaves_stream : ∃ conn conn' ch, Reachable echo.peer conn ∧
    conn.stream = some ch ∧
      (importCall (List.replicate 1048577 0)).run echo.peer conn = some (.error .tooLarge, conn') ∧
        conn'.stream = some ch ∧ conn'.attempts = [] := by
  have hok : (contextCall.run echo.peer {}).map (fun r => (r.2.stream.isSome, r.2.owner)) =
      some (true, ⟨1, 0, 0⟩) := by decide +kernel
  obtain ⟨⟨r, conn⟩, hru, hr⟩ := Option.map_eq_some_iff.mp hok
  have hre : Reachable echo.peer conn :=
    Reach.start.next trivial (Option.map_eq_some_iff.mpr ⟨_, hru, rfl⟩)
  obtain ⟨ch, hch⟩ := Option.isSome_iff_exists.mp (congrArg Prod.fst hr)
  have ho : conn.owner = ⟨1, 0, 0⟩ := congrArg Prod.snd hr
  have hl := length_importCall (List.replicate 1048577 0) conn
  rw [List.length_replicate] at hl
  refine ⟨conn, _, ch, hre, hch, run_large rfl (Nat.lt_of_lt_of_le (by decide) hl), ?_, ?_⟩
  · exact ((prepared_eq 7 ⟨1, 0, 0⟩ { conn with attempts := [] }).2.2.2 ch).mpr ⟨hch, ho⟩
  · exact (prepared_eq 7 ⟨1, 0, 0⟩ { conn with attempts := [] }).2.2.1

end GssProxy.Client.Conn
