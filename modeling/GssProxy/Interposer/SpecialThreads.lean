import Mathlib.Data.Fin.Basic
import GssProxy.Interposer.Name
import GssProxy.System.Run

/-!
# The registry of special mechanisms under threads

The C interposer links an entry behind the last one without a lock.  A slot is a place for a link: the
head of the list, `none`, or the link of the item `some i`.  An action is one read or one write of a slot.
The passes that only read the list (`gpp_unspecial_mech`, `gssi_internal_release_oid`) are left out, and
so are identifiers of 2^32 - 11 bytes or more.

* `entries_kept`: nothing that was returned is lost if no call starts while another one is going on.
* `returned_entry_lost`: two threads that add an entry lose one of the two.
-/

namespace GssProxy.Interposer.SpecialThreads

open Codec GssProxy.System

abbrev Slot := Option Nat

/-- Where a thread stands in one of the two functions, with the members to come. -/
inductive Pc where
  | idle
  | search (m : Bytes) (rest : List Bytes) (slot : Slot)
  | searchLink (m : Bytes) (rest : List Bytes) (slot : Slot)
  /-- in `gpp_add_special_oids` with a new item; the flag of the slot is read next -/
  | add (new : Nat) (rest : List Bytes) (slot : Slot)
  | addLink (new : Nat) (rest : List Bytes) (slot : Slot)
  /-- the flag of the slot was not set; its link is written next -/
  | link (new : Nat) (rest : List Bytes) (slot : Slot)
  | publish (new : Nat) (rest : List Bytes) (slot : Slot)
  deriving DecidableEq

/-- The items and their links, and those whose special mechanisms have been returned. -/
structure Memory where
  regular : Nat → Bytes
  allocated : Nat
  isSet : Slot → Bool
  next : Slot → Option Nat
  returned : List Nat

/-- The list in memory, and where the threads stand. -/
structure State (n : Nat) where
  mem : Memory
  pc : Fin n → Pc

def State.init (n : Nat) : State n := ⟨⟨fun _ => [], 0, fun _ => false, fun _ => none, []⟩, fun _ => .idle⟩

inductive Action (n : Nat) where
  /-- a call of `gpp_special_mech` for one mechanism that is not special, or of
      `gpp_special_available_mechs` for a set -/
  | call (t : Fin n) (mechs : List Bytes)
  | run (t : Fin n)

def begin : List Bytes → Pc
  | [] => .idle
  | m :: rest => .search m rest none

/-- The next action of a thread inside a call. -/
def advance (mem : Memory) : Pc → Option (Memory × Pc)
  | .idle => none
  | .search m rest slot =>
    if mem.isSet slot then some (mem, .searchLink m rest slot)
    -- `gpp_new_special_mech` allocates an item
    else some ({ mem with regular := Function.update mem.regular mem.allocated m,
                          allocated := mem.allocated + 1 }, .add mem.allocated rest none)
  | .searchLink m rest slot =>
    match mem.next slot with
    | none => none
    | some i =>
      if isSpecialOid m then some (mem, begin rest)
      else if mem.regular i = m then some ({ mem with returned := i :: mem.returned }, begin rest)
      else some (mem, .search m rest (some i))
  | .add new rest slot =>
    some (mem, if mem.isSet slot then .addLink new rest slot else .link new rest slot)
  | .addLink new rest slot => (mem.next slot).map fun i => (mem, .add new rest (some i))
  | .link new rest slot =>
    some ({ mem with next := Function.update mem.next slot (some new) }, .publish new rest slot)
  | .publish new rest slot =>
    some ({ mem with isSet := Function.update mem.isSet slot true, returned := new :: mem.returned },
      begin rest)

def step {n : Nat} (s : State n) : Action n → Option (State n)
  | .call t mechs =>
    if s.pc t = .idle then some { s with pc := Function.update s.pc t (begin mechs) } else none
  | .run t => (advance s.mem (s.pc t)).map fun r => ⟨r.1, Function.update s.pc t r.2⟩

/-! ## What is to hold -/

/-- The items that a search from the head comes to. -/
inductive Listed (mem : Memory) : Nat → Prop where
  | head {i : Nat} (hset : mem.isSet none = true) (hnext : mem.next none = some i) : Listed mem i
  | next {i j : Nat} (hi : Listed mem i) (hset : mem.isSet (some i) = true)
      (hnext : mem.next (some i) = some j) : Listed mem j

/-- What was returned is found from the head, and no mechanism has two entries. -/
structure Kept (mem : Memory) : Prop where
  returned : ∀ i ∈ mem.returned, Listed mem i
  unique : ∀ i j, Listed mem i → Listed mem j → mem.regular i = mem.regular j → i = j

/-- No call starts while another one is going on. -/
def Alone {n : Nat} (s : State n) : Action n → Prop
  | .call _ _ => ∀ t, s.pc t = .idle
  | .run _ => True

/-! ## The list -/

/-- The items from a slot on; the last one has no link. -/
def Chain (mem : Memory) : Slot → List Nat → Prop
  | slot, [] => mem.isSet slot = false
  | slot, i :: rest => mem.isSet slot = true ∧ mem.next slot = some i ∧ Chain mem (some i) rest

def behind : Slot → List Nat → Slot
  | slot, [] => slot
  | _, i :: rest => behind (some i) rest

theorem behind_append (slot : Slot) (pre : List Nat) (i : Nat) : behind slot (pre ++ [i]) = some i := by
  induction pre generalizing slot with
  | nil => rfl
  | cons j pre ih => exact ih (some j)

theorem mem_of_behind {order : List Nat} {i : Nat} (h : behind none order = some i) : i ∈ order := by
  cases order using List.reverseRecOn with
  | nil => cases h
  | append_singleton pre j =>
    rw [behind_append] at h
    cases h; simp

variable {mem mem' : Memory} {slot : Slot} {order pre post : List Nat} {new : Nat}

theorem Chain.split (h : Chain mem slot (pre ++ post)) : Chain mem (behind slot pre) post := by
  induction pre generalizing slot with
  | nil => exact h
  | cons i pre ih => exact ih h.2.2

theorem Chain.ends (h : Chain mem slot order) : mem.isSet (behind slot order) = false :=
  (show Chain mem slot (order ++ []) by simpa using h).split

theorem Chain.congr (h : Chain mem slot order) (hs : mem'.isSet = mem.isSet)
    (hn : ∀ slot, mem.isSet slot = true → mem'.next slot = mem.next slot) : Chain mem' slot order := by
  induction order generalizing slot with
  | nil => exact (congrFun hs slot).trans h
  | cons i order ih => exact ⟨(congrFun hs slot).trans h.1, (hn slot h.1).trans h.2.1, ih h.2.2⟩

theorem Chain.publish (h : Chain mem slot order) (hn : mem.next (behind slot order) = some new)
    (hnw : mem.isSet (some new) = false) (hne : behind slot order ≠ some new)
    (hs : mem'.isSet = Function.update mem.isSet (behind slot order) true)
    (hsa : mem'.next = mem.next) : Chain mem' slot (order ++ [new]) := by
  induction order generalizing slot with
  | nil =>
    refine ⟨by rw [hs]; exact Function.update_self .., by rw [hsa]; exact hn, ?_⟩
    show mem'.isSet (some new) = false
    rw [hs, Function.update_of_ne hne.symm, hnw]
  | cons i order ih =>
    have ho : slot ≠ behind slot (i :: order) := by
      intro heq
      have he := h.ends
      rw [← heq, h.1] at he; cases he
    refine ⟨?_, by rw [hsa]; exact h.2.1, ih h.2.2 hn hne hs⟩
    rw [hs, Function.update_of_ne ho]
    exact h.1

theorem Chain.listed (h : Chain mem none order) {i : Nat} : Listed mem i ↔ i ∈ order := by
  constructor
  · intro hi
    induction hi with
    | head hse hn =>
      cases order with
      | nil => rw [show mem.isSet none = false from h] at hse; cases hse
      | cons j order => obtain rfl := Option.some.inj (hn.symm.trans h.2.1); exact .head _
    | @next i j hi hse hn ih =>
      obtain ⟨pre, post, rfl⟩ := List.append_of_mem ih
      rw [List.append_cons] at h
      have hs := h.split
      rw [behind_append] at hs
      cases post with
      | nil => rw [show mem.isSet (some i) = false from hs] at hse; cases hse
      | cons k post => obtain rfl := Option.some.inj (hn.symm.trans hs.2.1); simp
  · intro hi
    obtain ⟨pre, post, rfl⟩ := List.append_of_mem hi
    clear hi
    induction pre using List.reverseRecOn generalizing i post with
    | nil => exact .head h.1 h.2.1
    | append_singleton pre j ih =>
      have hj : Listed mem j := ih (i :: post) (by simpa using h)
      have hs := h.split
      rw [behind_append] at hs
      exact .next hj hs.1 hs.2.1

/-! ## Calls that do not overlap -/

structure Ordered (mem : Memory) (order : List Nat) : Prop where
  chain : Chain mem none order
  below : ∀ i ∈ order, i < mem.allocated
  unset : ∀ i ≥ mem.allocated, mem.isSet (some i) = false
  unique : ∀ i ∈ order, ∀ j ∈ order, mem.regular i = mem.regular j → i = j
  returned : ∀ i ∈ mem.returned, i ∈ order

structure Pending (mem : Memory) (order : List Nat) (new : Nat) : Prop where
  below : new < mem.allocated
  unset : mem.isSet (some new) = false
  unlisted : new ∉ order
  missing : ∀ i ∈ order, mem.regular i ≠ mem.regular new

/-- What a thread knows where it stands, if it is the only one in a call. -/
def At (mem : Memory) (order : List Nat) : Pc → Prop
  | .idle => True
  | .search m _ slot =>
    ∃ pre post, order = pre ++ post ∧ slot = behind none pre ∧ ∀ i ∈ pre, mem.regular i ≠ m
  | .searchLink m _ slot =>
    ∃ pre i post, order = pre ++ i :: post ∧ slot = behind none pre ∧ ∀ j ∈ pre, mem.regular j ≠ m
  | .add new _ slot =>
    Pending mem order new ∧ ∃ pre post, order = pre ++ post ∧ slot = behind none pre
  | .addLink new _ slot =>
    Pending mem order new ∧ ∃ pre i post, order = pre ++ i :: post ∧ slot = behind none pre
  | .link new _ slot => Pending mem order new ∧ slot = behind none order
  | .publish new _ slot =>
    Pending mem order new ∧ slot = behind none order ∧ mem.next slot = some new

theorem at_begin (mem : Memory) (order : List Nat) (rest : List Bytes) : At mem order (begin rest) := by
  cases rest with
  | nil => trivial
  | cons m rest => exact ⟨[], order, rfl, rfl, nofun⟩

theorem Ordered.allocate (h : Ordered mem order) {m : Bytes} (hmi : ∀ i ∈ order, mem.regular i ≠ m)
    (hm : mem' = { mem with regular := Function.update mem.regular mem.allocated m,
                              allocated := mem.allocated + 1 }) :
    Ordered mem' order ∧ Pending mem' order mem.allocated := by
  subst hm
  have hold : ∀ i ∈ order, Function.update mem.regular mem.allocated m i = mem.regular i :=
    fun i hi => Function.update_of_ne (Nat.ne_of_lt (h.below i hi)) ..
  refine ⟨⟨h.chain.congr rfl fun _ _ => rfl, fun i hi => Nat.lt_succ_of_lt (h.below i hi),
    fun i hi => h.unset i (Nat.le_of_succ_le hi), ?_, h.returned⟩, Nat.lt_succ_self _,
    h.unset _ (Nat.le_refl _), fun hm => Nat.lt_irrefl _ (h.below _ hm), ?_⟩
  · intro i hi j hj hr
    exact h.unique i hi j hj ((hold i hi).symm.trans (hr.trans (hold j hj)))
  · intro i hi
    show Function.update mem.regular mem.allocated m i ≠
      Function.update mem.regular mem.allocated m mem.allocated
    rw [hold i hi, Function.update_self]
    exact hmi i hi

theorem Ordered.publish {new : Nat} (h : Ordered mem order) (hp : Pending mem order new)
    (hn : mem.next (behind none order) = some new)
    (hm : mem' = { mem with isSet := Function.update mem.isSet (behind none order) true,
                              returned := new :: mem.returned }) : Ordered mem' (order ++ [new]) := by
  subst hm
  have hne : behind none order ≠ some new := fun heq => hp.unlisted (mem_of_behind heq)
  refine ⟨h.chain.publish hn hp.unset hne rfl rfl, ?_, ?_, ?_, ?_⟩
  · exact List.forall_mem_append.mpr ⟨h.below, List.forall_mem_singleton.mpr hp.below⟩
  · intro i hi
    refine (Function.update_of_ne (fun heq => ?_) ..).trans (h.unset i hi)
    exact Nat.lt_irrefl _ (Nat.lt_of_lt_of_le (h.below i (mem_of_behind heq.symm)) hi)
  · intro i hi j hj hr
    rcases List.mem_append.mp hi with hi | hi <;> rcases List.mem_append.mp hj with hj | hj
    · exact h.unique i hi j hj hr
    · cases List.mem_singleton.mp hj; exact absurd hr (hp.missing i hi)
    · cases List.mem_singleton.mp hi; exact absurd hr.symm (hp.missing j hj)
    · rw [List.mem_singleton.mp hi, List.mem_singleton.mp hj]
  · exact List.forall_mem_cons.mpr ⟨by simp, fun i hi => List.mem_append_left _ (h.returned i hi)⟩

theorem Ordered.advance {pc pc' : Pc} (h : Ordered mem order) (hat : At mem order pc)
    (hr : advance mem pc = some (mem', pc')) : ∃ order', Ordered mem' order' ∧ At mem' order' pc' := by
  cases pc with
  | idle => cases hr
  | search m rest slot =>
    obtain ⟨pre, post, rfl, rfl, hpr⟩ := hat
    have hs := h.chain.split
    rw [SpecialThreads.advance] at hr
    cases post with
    | nil =>
      rw [show mem.isSet (behind none pre) = false from hs] at hr
      cases hr
      rw [List.append_nil] at h
      obtain ⟨ho, hp⟩ := h.allocate hpr rfl
      exact ⟨pre, ho, hp, [], pre, rfl, rfl⟩
    | cons i post =>
      rw [hs.1] at hr
      cases hr
      exact ⟨_, h, pre, i, post, rfl, rfl, hpr⟩
  | searchLink m rest slot =>
    obtain ⟨pre, i, post, rfl, rfl, hpr⟩ := hat
    rw [SpecialThreads.advance] at hr
    rw [h.chain.split.2.1] at hr
    simp only at hr
    split at hr
    · cases hr; exact ⟨_, h, at_begin ..⟩
    split at hr
    · cases hr
      refine ⟨pre ++ i :: post, ⟨h.chain.congr rfl fun _ _ => rfl, h.below, h.unset, h.unique, ?_⟩, at_begin ..⟩
      exact List.forall_mem_cons.mpr ⟨by simp, h.returned⟩
    rename_i hne
    cases hr
    refine ⟨_, h, pre ++ [i], post, by simp, (behind_append none pre i).symm, ?_⟩
    exact List.forall_mem_append.mpr ⟨hpr, List.forall_mem_singleton.mpr hne⟩
  | add new rest slot =>
    obtain ⟨hp, pre, post, rfl, rfl⟩ := hat
    have hs := h.chain.split
    cases hr
    refine ⟨_, h, ?_⟩
    cases post with
    | nil => rw [show mem.isSet (behind none pre) = false from hs]; exact ⟨hp, by simp⟩
    | cons i post => rw [hs.1]; exact ⟨hp, pre, i, post, rfl, rfl⟩
  | addLink new rest slot =>
    obtain ⟨hp, pre, i, post, rfl, rfl⟩ := hat
    rw [SpecialThreads.advance] at hr
    rw [h.chain.split.2.1] at hr
    cases hr
    exact ⟨_, h, hp, pre ++ [i], post, by simp, (behind_append none pre i).symm⟩
  | link new rest slot =>
    obtain ⟨hp, rfl⟩ := hat
    cases hr
    refine ⟨order, ⟨h.chain.congr rfl fun slot hse => ?_, h.below, h.unset, h.unique, h.returned⟩,
      ⟨hp.below, hp.unset, hp.unlisted, hp.missing⟩, rfl, Function.update_self ..⟩
    refine Function.update_of_ne ?_ ..
    rintro rfl
    rw [h.chain.ends] at hse; cases hse
  | publish new rest slot =>
    obtain ⟨hp, rfl, hn⟩ := hat
    cases hr
    exact ⟨order ++ [new], h.publish hp hn rfl, at_begin ..⟩

def Inv {n : Nat} (s : State n) : Prop :=
  ∃ order, Ordered s.mem order ∧
    ∀ t, s.pc t ≠ .idle → At s.mem order (s.pc t) ∧ ∀ t' ≠ t, s.pc t' = .idle

theorem Inv.step {n : Nat} {s s' : State n} {a : Action n} (h : Inv s) (ha : Alone s a)
    (hst : step s a = some s') : Inv s' := by
  obtain ⟨order, ho, hat⟩ := h
  cases a with
  | call t mechs =>
    obtain ⟨-, hs⟩ := Option.ite_none_right_eq_some.mp hst
    cases hs
    refine ⟨order, ho, fun t' ht' => ?_⟩
    by_cases heq : t' = t
    · subst heq
      refine ⟨by simpa using at_begin s.mem order mechs, fun t'' ht'' => ?_⟩
      simpa [Function.update_of_ne ht''] using ha t''
    · exact absurd (by simpa [Function.update_of_ne heq] using ha t') ht'
  | run t =>
    obtain ⟨⟨mem', pc'⟩, hr, rfl⟩ := Option.map_eq_some_iff.mp hst
    have hac : s.pc t ≠ .idle := by
      intro hi
      rw [hi] at hr; cases hr
    obtain ⟨hpc, hot⟩ := hat t hac
    obtain ⟨order', ho', hat'⟩ := ho.advance hpc hr
    refine ⟨order', ho', fun t' ht' => ?_⟩
    by_cases heq : t' = t
    · subst heq
      refine ⟨by simpa using hat', fun t'' ht'' => ?_⟩
      simpa [Function.update_of_ne ht''] using hot t'' ht''
    · exact absurd (by simpa [Function.update_of_ne heq] using hot t' heq) ht'

/-- **What was returned stays in the list, and no mechanism has two entries**, for every number of
    threads, in every run in which no call starts while another one is going on. -/
theorem entries_kept {n : Nat} {s : State n} (h : Reach step Alone (State.init n) s) : Kept s.mem := by
  have hin : Inv (State.init n) :=
    ⟨[], ⟨rfl, nofun, fun _ _ => rfl, nofun, fun _ hi => by cases hi⟩, fun _ ht => absurd rfl ht⟩
  have hiv : Inv s := h.invariant hin Inv.step
  obtain ⟨order, ho, -⟩ := hiv
  refine ⟨fun i hi => ho.chain.listed.mpr (ho.returned i hi), fun i j hi hj => ?_⟩
  exact ho.unique i (ho.chain.listed.mp hi) j (ho.chain.listed.mp hj)

/-- The state after the first thread has registered `[1]` and `[2]`. -/
def twoEntries : State 2 :=
  (exec step (State.init 2) (.call 0 [[1], [2]] :: List.replicate 12 (.run 0))).getD (State.init 2)

/-- Two calls in turn: the second thread finds `[2]` and registers `[3]`. -/
theorem entries_kept_in_turn :
    ∃ s, exec step twoEntries (.call 1 [[2], [3]] :: List.replicate 16 (.run 1)) = some s ∧
      s.mem.returned = [2, 1, 1, 0] ∧ Kept s.mem := by
  have hr (t : Fin 2) (k : Nat) : ∀ a ∈ List.replicate k (.run t), ∀ s : State 2, Alone s a := by
    intro a ha s
    rw [List.eq_of_mem_replicate ha]; trivial
  have hf : Reach step Alone (State.init 2) twoEntries :=
    (Reach.next .start (a := .call 0 [[1], [2]]) (fun _ => rfl) rfl).exec (hr 0 12) rfl
  have hi : Alone twoEntries (.call 1 [[2], [3]]) := fun t => by revert t; decide
  exact ⟨_, rfl, rfl, entries_kept ((hf.next hi rfl).exec (hr 1 16) rfl)⟩

/-- Both threads find the list empty before either has linked its item. -/
def lostRun : List (Action 2) :=
  [.call 0 [[1]], .call 1 [[2]], .run 0, .run 1, .run 0, .run 1, .run 0, .run 1, .run 0, .run 1]

def lostState : State 2 := (exec step (State.init 2) lostRun).getD (State.init 2)

/-- **An entry that was returned is lost**: the second link has replaced the first. -/
theorem returned_entry_lost : exec step (State.init 2) lostRun = some lostState ∧
    0 ∈ lostState.mem.returned ∧ ¬ Listed lostState.mem 0 ∧ ¬ Kept lostState.mem := by
  have hli : ∀ i, Listed lostState.mem i → i = 1 := by
    intro i hi
    induction hi with
    | head _ hn => exact (Option.some.inj hn).symm
    | next _ hs _ ih =>
      cases hs
  have hl : ¬ Listed lostState.mem 0 := fun h => absurd (hli 0 h) (by decide)
  have hr : 0 ∈ lostState.mem.returned := by decide
  exact ⟨rfl, hr, hl, fun h => hl (h.returned 0 hr)⟩

end GssProxy.Interposer.SpecialThreads
