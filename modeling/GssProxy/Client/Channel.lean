import GssProxy.Proto.Frame

/-!
# A connection to the daemon

The bytes of a connection as a client sees them.  The peer reads the stream of requests however it is
cut up and answers each complete frame; a daemon answers with one frame.

* `Channel.send_frame`: a whole frame on an idle connection is answered.
-/

namespace GssProxy.Client

open Codec Proto

/-- Who opens a connection. -/
structure Identity where
  pid : Int32
  uid : UInt32
  gid : UInt32
  deriving DecidableEq, Repr

/-- What it answers on a connection, by the requests so far. -/
abbrev Peer := Nat → List Bytes → Bytes

/-- The bodies of its replies, by connection and requests. -/
abbrev Daemon := Nat → List Bytes → Bytes

def Daemon.peer (daemon : Daemon) : Peer := fun id requests => frame (daemon id requests)

/-- A connection with the bytes on it. -/
structure Channel where
  id : Nat
  requests : List Bytes := []
  pending : Bytes := []
  received : Bytes := []
  unread : Bytes := []
  deriving DecidableEq, Repr

def Channel.AtBoundary (ch : Channel) : Prop := ch.pending = [] ∧ ch.unread = []

def echo : Daemon := fun _ requests =>
  (requests.getLastD []).take 4 ++ ([0, 0, 0, 1] ++ List.replicate 60 0)

/-! ## What the daemon reads -/

def bodyLength (header : UInt32) : Nat := (header &&& ~~~FRAGMENT_BIT).toNat

def takeBody (header : UInt32) (bytes : Bytes) : Option (Bytes × Bytes) :=
  if bytes.length < bodyLength header then none
  else some (bytes.take (bodyLength header), bytes.drop (bodyLength header))

def takeFrame : Bytes → Option (Bytes × Bytes)
  | b₀ :: b₁ :: b₂ :: b₃ :: bytes => takeBody (ofBeBytes b₀ b₁ b₂ b₃) bytes
  | _ => none

variable {bytes body rest : Bytes}

theorem takeBody_length {header : UInt32}
    (h : takeBody header bytes = some (body, rest)) : rest.length ≤ bytes.length := by
  unfold takeBody at h
  split at h
  · cases h
  · cases h; simp

theorem takeFrame_length (h : takeFrame bytes = some (body, rest)) :
    rest.length < bytes.length := by
  unfold takeFrame at h
  split at h
  · have hle := takeBody_length h
    simp only [List.length_cons]; omega
  · cases h

theorem takeBody_append {header : UInt32}
    (h : takeBody header bytes = some (body, rest)) (more : Bytes) :
    takeBody header (bytes ++ more) = some (body, rest ++ more) := by
  unfold takeBody at h ⊢
  split at h
  · cases h
  rename_i hl
  cases h
  have hle := Nat.not_lt.mp hl
  have hm : ¬ (bytes ++ more).length < bodyLength header := by rw [List.length_append]; omega
  rw [if_neg hm, List.take_append_of_le_length hle, List.drop_append_of_le_length hle]

theorem takeFrame_append (h : takeFrame bytes = some (body, rest))
    (more : Bytes) : takeFrame (bytes ++ more) = some (body, rest ++ more) := by
  unfold takeFrame at h
  split at h
  · exact takeBody_append h more
  · cases h

theorem bodyLength_marked {len : Nat} (h : len < 2147483648) :
    bodyLength (UInt32.ofNat len ||| FRAGMENT_BIT) = len := by
  rw [bodyLength, length_field, marked_toNat h]
  omega

theorem takeFrame_frame (h : body.length < 2147483648) :
    takeFrame (frame body) = some (body, []) := by
  show takeBody (ofBeBytes _ _ _ _) body = some (body, [])
  rw [ofBeBytes_beBytes]
  unfold takeBody
  simp [bodyLength_marked h]

namespace Channel

variable (peer : Peer)

/-! ## Sending and reading -/

def answer (ch : Channel) (request rest : Bytes) : Channel :=
  { ch with
    requests := ch.requests ++ [request]
    pending := rest
    unread := ch.unread ++ peer ch.id (ch.requests ++ [request]) }

def deliver : Nat → Channel → Channel
  | 0, ch => ch
  | n + 1, ch =>
    match takeFrame ch.pending with
    | none => ch
    | some (request, rest) => deliver n (ch.answer peer request rest)

def send (ch : Channel) (bytes : Bytes) : Channel :=
  deliver peer (ch.pending ++ bytes).length { ch with pending := ch.pending ++ bytes }

def read (ch : Channel) (n : Nat) : Channel :=
  { ch with received := ch.received ++ ch.unread.take n, unread := ch.unread.drop n }

variable {peer} {ch : Channel}

theorem deliver_none (h : takeFrame ch.pending = none) (n : Nat) : deliver peer n ch = ch := by
  cases n with
  | zero => rfl
  | succ n => rw [deliver, h]

theorem deliver_some {request : Bytes} (h : takeFrame ch.pending = some (request, rest)) (n : Nat) :
    deliver peer (n + 1) ch = deliver peer n (ch.answer peer request rest) := by
  rw [deliver, h]

theorem takeFrame_short (h : bytes.length ≤ 0) : takeFrame bytes = none := by
  rw [List.eq_nil_of_length_eq_zero (Nat.le_zero.mp h)]
  rfl

theorem deliver_fuel {n m : Nat} (hn : ch.pending.length ≤ n)
    (hm : ch.pending.length ≤ m) : deliver peer n ch = deliver peer m ch := by
  induction n generalizing m ch with
  | zero => rw [deliver_none (takeFrame_short hn), deliver_none (takeFrame_short hn)]
  | succ n ih =>
    cases hf : takeFrame ch.pending with
    | none => rw [deliver_none hf, deliver_none hf]
    | some r =>
      obtain ⟨request, rest⟩ := r
      have hp : (ch.answer peer request rest).pending.length < ch.pending.length :=
        takeFrame_length hf
      obtain ⟨m, rfl⟩ : ∃ k, m = k + 1 := Nat.exists_eq_succ_of_ne_zero (by omega)
      rw [deliver_some hf, deliver_some hf]
      exact ih (by omega) (by omega)

theorem deliver_append {n m : Nat} (hn : ch.pending.length ≤ n) (more : Bytes)
    (hm : (ch.pending ++ more).length ≤ m) :
    deliver peer m { ch with pending := ch.pending ++ more } =
      (deliver peer n ch).send peer more := by
  induction n generalizing m ch with
  | zero => exact deliver_fuel hm (Nat.le_refl _)
  | succ n ih =>
    cases hf : takeFrame ch.pending with
    | none => rw [deliver_none hf]; exact deliver_fuel hm (Nat.le_refl _)
    | some r =>
      obtain ⟨request, rest⟩ := r
      have hp : (ch.answer peer request rest).pending.length < ch.pending.length :=
        takeFrame_length hf
      rw [List.length_append] at hm
      obtain ⟨m, rfl⟩ : ∃ k, m = k + 1 := Nat.exists_eq_succ_of_ne_zero (by omega)
      have hn' : (ch.answer peer request rest).pending.length ≤ n := by omega
      rw [deliver_some hf, deliver_some (takeFrame_append hf more)]
      refine ih hn' ?_
      rw [List.length_append]; omega

theorem send_send (ch : Channel) (a b : Bytes) :
    (ch.send peer a).send peer b = ch.send peer (a ++ b) := by
  have hf : ({ ch with pending := ch.pending ++ a } : Channel).pending.length ≤
      (ch.pending ++ a).length := Nat.le_refl _
  rw [send.eq_1 peer ch (a ++ b), ← List.append_assoc]
  exact (deliver_append hf b (Nat.le_refl _)).symm

theorem send_nil (h : ch.pending = []) : ch.send peer [] = ch := by
  obtain ⟨id, requests, pending, received, unread⟩ := ch
  subst h
  rfl

theorem send_frame (hp : ch.pending = []) (hl : body.length < 2147483648) :
    ch.send peer (frame body) = ch.answer peer body [] := by
  obtain ⟨id, requests, pending, received, unread⟩ := ch
  subst hp
  rw [send, List.nil_append, frame_length, deliver_some (takeFrame_frame hl)]
  rfl

theorem read_read (ch : Channel) (n m : Nat) : (ch.read n).read m = ch.read (n + m) := by
  simp [read, ← List.take_add]

end Channel

end GssProxy.Client
