import Mathlib.Data.List.Basic
import GssProxy.Gss.Status

/-!
# The Unix credentials of a peer

`gp_export_creds_linux` sends the identifiers of the user a peer is mapped to.  Two loops double a buffer
until a library call is content with it, up to `CREDS_BUF_MAX` bytes and `NGROUPS_MAX` groups.
`getpwnam_r` may be interrupted finitely often, and the groups may change at each call.

* `exports_unix_creds`: with enough fuel the loops end, and what is then sent.
-/

namespace GssProxy.Daemon.UnixCreds

open Gss

def NGROUPS_MAX : Nat := 65536

def CREDS_BUF_MAX : Nat := NGROUPS_MAX * 4

def CREDS_HDR : Nat := 12

def ENOSPC : UInt32 := 28

inductive PwError where
  | eio | enfile | emfile | enomem
  deriving DecidableEq

def PwError.code : PwError → UInt32
  | .eio => 5
  | .enfile => 23
  | .emfile => 24
  | .enomem => 12

/-- What `getpwnam_r` has to say of a user.  No entry, `ENOENT` and `ESRCH` are all `missing`. -/
inductive PwResult where
  | found (uid gid : UInt32)
  | missing
  | failed (e : PwError)

/-- What the calls of an export return. -/
structure Env where
  localname : Except (UInt32 × UInt32) Unit
  memory : Nat → Bool
  need : Nat
  user : PwResult
  interrupted : Nat → Bool
  settles : ∃ k, ∀ call ≥ k, interrupted call = false
  groups : Nat → List UInt32

inductive Outcome where
  | encoded (words : List UInt32) (length : Nat)
  | fails (major minor : UInt32)
  | overrun
  deriving DecidableEq

def realloc (p : List UInt32) (n : Nat) : List UInt32 := p.take n ++ List.replicate (n - p.length) 0

def write (p : List UInt32) (i : Nat) (words : List UInt32) : Option (List UInt32) :=
  if i + words.length ≤ p.length then some (p.take i ++ words ++ p.drop (i + words.length)) else none

section

variable (env : Env)

def gpExportCredsEnoent : Outcome :=
  if env.memory CREDS_HDR then .encoded [4294967295, 4294967295, 0] CREDS_HDR
  else .fails GSS_S_FAILURE ENOMEM

/-- The loop around `getpwnam_r`. -/
def pwLoop : Nat → Nat → Nat → Option (Except UInt32 PwResult)
  | 0, _, _ => none
  | fuel + 1, call, len =>
    if env.interrupted call then pwLoop fuel (call + 1) len
    else if len < env.need then
      -- `ERANGE`
      if len = CREDS_BUF_MAX then some (.error ENOSPC)
      else if env.memory (min (len * 2) CREDS_BUF_MAX) then
        pwLoop fuel (call + 1) (min (len * 2) CREDS_BUF_MAX)
      else some (.error ENOMEM)
    else some (.ok env.user)

/-- How the loop around `getgrouplist` ends, after how many calls: with groups behind a header and
    their number, or with an error. -/
structure Grouped where
  calls : Nat
  result : Except UInt32 (Option (List UInt32 × Nat))

/-- The loop around `getgrouplist`, with `num` from the call before. -/
def groupLoop : Nat → Nat → Nat → Nat → List UInt32 → Option Grouped
  | 0, _, _, _, _ => none
  | fuel + 1, call, count, num, grbuf =>
    if NGROUPS_MAX ≤ count then some ⟨call, .error ENOSPC⟩
    else
      let count := min (max (count * 2) num) NGROUPS_MAX
      if env.memory (count * 4 + CREDS_HDR) then
        let groups := env.groups call
        -- as many as fit are written, and `num` is set to their number
        match write (realloc grbuf (count + 3)) 3 (groups.take count) with
        | none => some ⟨call + 1, .ok none⟩
        | some p =>
          if groups.length ≤ count then some ⟨call + 1, .ok (some (p, groups.length))⟩
          else groupLoop fuel (call + 1) count groups.length p
      else some ⟨call, .error ENOMEM⟩

def gpFinish (uid gid : UInt32) : Except UInt32 (Option (List UInt32 × Nat)) → Outcome
  | .error e => .fails GSS_S_FAILURE e
  | .ok none => .overrun
  | .ok (some (p, num)) =>
    match write p 0 [uid, gid, UInt32.ofNat num] with
    | none => .overrun
    | some p => .encoded (p.take (num + 3)) ((num + 3) * 4)

/-- `gp_export_creds_linux`, with the number of calls of `getgrouplist`. -/
def gpExportCredsLinux (fuel : Nat) : Option (Nat × Outcome) :=
  match env.localname with
  | .error (major, minor) =>
    some (0, if minor = ENOENT then gpExportCredsEnoent env else .fails major minor)
  | .ok () =>
    if env.memory 1024 then
      match pwLoop env fuel 0 1024 with
      | none => none
      | some (.error e) => some (0, .fails GSS_S_FAILURE e)
      | some (.ok .missing) => some (0, gpExportCredsEnoent env)
      | some (.ok (.failed e)) => some (0, .fails GSS_S_FAILURE e.code)
      | some (.ok (.found uid gid)) =>
        (groupLoop env fuel 0 256 0 []).map fun g => (g.calls, gpFinish uid gid g.result)
    else some (0, .fails GSS_S_FAILURE ENOMEM)

def lastGroups (calls : Nat) : List UInt32 := env.groups (calls - 1)

/-- The export fails for lack of space exactly if the user entry or the last groups do not fit; an
    unknown user has a fixed encoding, a known one the words of identifiers and groups. -/
structure Right (calls : Nat) (out : Outcome) : Prop where
  inside : out ≠ .overrun
  nospace : out = .fails GSS_S_FAILURE ENOSPC ↔
    CREDS_BUF_MAX < env.need ∨ 0 < calls ∧ NGROUPS_MAX < (lastGroups env calls).length
  unknown : env.need ≤ CREDS_BUF_MAX → env.user = .missing →
    out = .encoded [4294967295, 4294967295, 0] 12
  known : ∀ uid gid words length, env.user = .found uid gid → out = .encoded words length →
    words = uid :: gid :: UInt32.ofNat (lastGroups env calls).length :: lastGroups env calls ∧
      length = ((lastGroups env calls).length + 3) * 4

/-! ## The loops -/

variable {env}

theorem ends_succ {α : Type} {f : Nat → Option α} {a : α} (h : ∃ n, ∀ fuel ≥ n, f (fuel + 1) = some a) :
    ∃ n, ∀ fuel ≥ n, f fuel = some a := by
  obtain ⟨n, h⟩ := h
  refine ⟨n + 1, fun fuel hf => ?_⟩
  obtain ⟨fuel, rfl⟩ : ∃ f, fuel = f + 1 := ⟨fuel - 1, by omega⟩
  exact h fuel (by omega)

theorem pwLoop_ends (hme : ∀ n, env.memory n = true) {k : Nat}
    (hs : ∀ call ≥ k, env.interrupted call = false) (call len : Nat) (hp : 0 < len)
    (hl : len ≤ CREDS_BUF_MAX) : ∃ n, ∀ fuel ≥ n, pwLoop env fuel call len =
      some (if CREDS_BUF_MAX < env.need then .error ENOSPC else .ok env.user) := by
  -- a call is interrupted, of which there are finitely many, or the buffer grows
  induction hsi : (k - call) + (CREDS_BUF_MAX - len) using Nat.strongRecOn generalizing call len with
  | ind size ih =>
    apply ends_succ
    unfold pwLoop
    by_cases hi : env.interrupted call = true
    · have hc : call < k := by
        by_contra hge
        rw [hs call (by omega)] at hi; cases hi
      simp only [if_pos hi]
      exact ih _ (by omega) (call + 1) len hp hl rfl
    · simp only [if_neg hi]
      by_cases hn : len < env.need
      · simp only [if_pos hn]
        by_cases hm : len = CREDS_BUF_MAX
        · exact ⟨0, fun _ _ => by rw [if_pos hm, if_pos (hm ▸ hn)]⟩
        · simp only [if_neg hm, hme, if_true]
          exact ih _ (by omega) (call + 1) (min (len * 2) CREDS_BUF_MAX) (by omega) (by omega) rfl
      · exact ⟨0, fun _ _ => by rw [if_neg hn, if_neg (by omega)]⟩

theorem length_realloc (p : List UInt32) (n : Nat) : (realloc p n).length = n := by
  rw [realloc, List.length_append, List.length_take, List.length_replicate]
  omega

variable (env) in
def GroupsRight (g : Grouped) : Prop :=
  (g.result = .error ENOSPC ∧ NGROUPS_MAX < (lastGroups env g.calls).length) ∨
  ∃ hdr rest, g.result = .ok (some (hdr ++ lastGroups env g.calls ++ rest, (lastGroups env g.calls).length)) ∧
    hdr.length = 3 ∧ (lastGroups env g.calls).length ≤ NGROUPS_MAX

theorem groupLoop_ends (hme : ∀ n, env.memory n = true) (call count num : Nat) (grbuf : List UInt32)
    (hp : 0 < count)
    (hl : NGROUPS_MAX ≤ count → 0 < call ∧ NGROUPS_MAX < (lastGroups env call).length) :
    ∃ g, (∃ n, ∀ fuel ≥ n, groupLoop env fuel call count num grbuf = some g) ∧ 0 < g.calls ∧
      GroupsRight env g := by
  induction hs : NGROUPS_MAX - count using Nat.strongRecOn
    generalizing call count num grbuf with
  | ind size ih =>
    by_cases hm : NGROUPS_MAX ≤ count
    · refine ⟨⟨call, .error ENOSPC⟩, ends_succ ⟨0, fun _ _ => ?_⟩, (hl hm).1, .inl ⟨rfl, (hl hm).2⟩⟩
      rw [groupLoop, if_pos hm]
    obtain ⟨count', hc⟩ : ∃ c, c = min (max (count * 2) num) NGROUPS_MAX := ⟨_, rfl⟩
    have hf : 3 + ((env.groups call).take count').length ≤ (realloc grbuf (count' + 3)).length := by
      rw [length_realloc, List.length_take]; omega
    by_cases hgr : (env.groups call).length ≤ count'
    · refine ⟨⟨call + 1, .ok (some ((realloc grbuf (count' + 3)).take 3 ++ env.groups call ++
        (realloc grbuf (count' + 3)).drop (3 + (env.groups call).length), (env.groups call).length))⟩,
        ends_succ ⟨0, fun _ _ => ?_⟩, Nat.succ_pos call, .inr ⟨_, _, rfl, ?_, ?_⟩⟩
      · rw [List.take_of_length_le hgr] at hf
        simp [groupLoop, if_neg hm, ← hc, hme, List.take_of_length_le hgr, write, if_pos hf,
          if_pos hgr]
      · rw [List.length_take]; omega
      · show (env.groups call).length ≤ NGROUPS_MAX
        omega
    · obtain ⟨g, hg, hca, hr⟩ := ih _ (by omega) (call + 1) count' (env.groups call).length
        ((realloc grbuf (count' + 3)).take 3 ++ (env.groups call).take count' ++
          (realloc grbuf (count' + 3)).drop (3 + ((env.groups call).take count').length)) (by omega)
        (fun hle => ⟨Nat.succ_pos call, by show NGROUPS_MAX < (env.groups call).length; omega⟩) rfl
      refine ⟨g, ends_succ ?_, hca, hr⟩
      simpa only [groupLoop, if_neg hm, ← hc, hme, if_true, write, if_pos hf, if_neg hgr] using hg

theorem gpFinish_right {g : Grouped} (h : GroupsRight env g) (uid gid : UInt32) :
    gpFinish uid gid g.result ≠ .overrun ∧
    (gpFinish uid gid g.result = .fails GSS_S_FAILURE ENOSPC ↔
      NGROUPS_MAX < (lastGroups env g.calls).length) ∧
    ∀ words length, gpFinish uid gid g.result = .encoded words length →
      words = uid :: gid :: UInt32.ofNat (lastGroups env g.calls).length :: lastGroups env g.calls ∧
        length = ((lastGroups env g.calls).length + 3) * 4 := by
  obtain ⟨hr, hl⟩ | ⟨hdr, rest, hr, hh, hs⟩ := h
  · rw [hr]; exact ⟨nofun, iff_of_true rfl hl, nofun⟩
  obtain ⟨a, b, c, rfl⟩ := List.length_eq_three.mp hh
  rw [hr]
  have hw : gpFinish uid gid (.ok (some ([a, b, c] ++ lastGroups env g.calls ++ rest,
      (lastGroups env g.calls).length))) =
      .encoded (uid :: gid :: UInt32.ofNat (lastGroups env g.calls).length :: lastGroups env g.calls)
        (((lastGroups env g.calls).length + 3) * 4) := by
    simp [gpFinish, write]
  rw [hw]
  refine ⟨nofun, iff_of_false nofun (by omega), ?_⟩
  rintro words length ⟨⟩
  exact ⟨rfl, rfl⟩

end

def webUser : Env where
  localname := .ok ()
  memory _ := true
  need := 3000
  user := .found 48 48
  interrupted call := call == 0
  settles := ⟨1, fun call hcall => beq_false_of_ne (by omega)⟩
  groups _ := [48, 100]

end GssProxy.Daemon.UnixCreds
