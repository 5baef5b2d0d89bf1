import GssProxy.System.Linked
import GssProxy.Workers.Conservation

/-!
# The lists of threads

`LIST_ADD` and `LIST_DEL` assign to the links of an element and of its neighbours and to the head of the
list, and trust their arguments.  `opStep` says what they are for, on lists.

* `lists_kept`: they keep lists with that meaning.
* `pool_lists`: so they do in every run of the pool.
-/

namespace GssProxy.Workers.ThreadLists

open Function GssProxy.System

inductive ListName where
  | free | busy
  deriving DecidableEq

/-- The links of the threads, with `free_list` and `busy_list` of `struct gp_workers`. -/
structure Lists (T : Type) extends Links T where
  head : ListName → Option T

/-- An addition to a list, or a removal. -/
inductive Op (T : Type) where
  | add (l : ListName) (e : T)
  | del (l : ListName) (e : T)

section

variable {T : Type} [DecidableEq T]

/-- `if (p) { p->field = value; }` -/
def writeThrough (field : T → Option T) (p value : Option T) : T → Option T :=
  match p with
  | some x => update field x value
  | none => field

def listAdd (m : Lists T) (list : ListName) (elem : T) : Lists T :=
  let m := { m with prev := update m.prev elem none }
  let m := { m with next := update m.next elem (m.head list) }
  let m := { m with prev := writeThrough m.prev (m.head list) (some elem) }
  { m with head := update m.head list (some elem) }

def listDel (m : Lists T) (list : ListName) (elem : T) : Lists T :=
  let m := { m with prev := writeThrough m.prev (m.next elem) (m.prev elem) }
  let m := { m with next := writeThrough m.next (m.prev elem) (m.next elem) }
  let m := if m.head list = some elem then { m with head := update m.head list (m.next elem) } else m
  let m := { m with prev := update m.prev elem none }
  { m with next := update m.next elem none }

def Op.list : Op T → ListName
  | .add l _ => l
  | .del l _ => l

def Op.apply (m : Lists T) : Op T → Lists T
  | .add l e => listAdd m l e
  | .del l e => listDel m l e

def run (m : Lists T) (ops : List (Op T)) : Lists T := ops.foldl Op.apply m

/-- A list has the elements that were added to it and not deleted since, the last one in front. -/
def opStep (order : ListName → List T) : Op T → Option (ListName → List T)
  | .add l e =>
    if e ∉ order .free ∧ e ∉ order .busy then some (update order l (e :: order l)) else none
  | .del l e => if e ∈ order l then some (update order l ((order l).erase e)) else none

/-! ## What the macros write -/

variable {m : Lists T} {l k : ListName} {e x : T}

theorem writeThrough_apply (field : T → Option T) (p value : Option T) (x : T) :
    writeThrough field p value x = if p = some x then value else field x := by
  cases p with
  | none => rfl
  | some y => simp [writeThrough, update_apply, eq_comm]

theorem listAdd_prev (hx : x ≠ e) :
    (listAdd m l e).prev x = if m.head l = some x then some e else m.prev x := by
  simp [listAdd, writeThrough_apply, hx]

theorem listDel_prev (hx : x ≠ e) :
    (listDel m l e).prev x = if m.next e = some x then m.prev e else m.prev x := by
  simp only [listDel, update_of_ne hx]
  split <;> exact writeThrough_apply ..

/-- The second assignment reads `elem->prev` after the first has been made. -/
theorem listDel_next (hs : m.next e ≠ some e) (hx : x ≠ e) :
    (listDel m l e).next x = if m.prev e = some x then m.next e else m.next x := by
  simp only [listDel, update_of_ne hx, writeThrough_apply, if_neg hs]
  split <;> exact writeThrough_apply ..

theorem listDel_head : (listDel m l e).head =
    update m.head l (if m.head l = some e then m.next e else m.head l) := by
  simp only [listDel, writeThrough_apply, ite_self]
  split <;> simp

/-! ## What the links hold -/

/-- The links of each list hold it, and the lists are apart. -/
structure Represents (m : Lists T) (order : ListName → List T) : Prop where
  denotes : ∀ l, m.Denotes (m.head l) (order l)
  apart : ∀ {l k e}, e ∈ order l → e ∈ order k → l = k

omit [DecidableEq T] in
theorem represents_empty (he : ∀ l, m.head l = none) : Represents m fun _ => [] where
  denotes l := he l ▸ Links.denotes_nil
  apart h := by cases h

variable {order order' : ListName → List T} {op : Op T} {ops : List (Op T)}

theorem Represents.add (h : Represents m order) (hn : ∀ k, e ∉ order k) :
    Represents (listAdd m l e) (update order l (e :: order l)) where
  denotes k := by
    have hne : ∀ x ∈ order k, x ≠ e := fun x hx hxe => hn k (hxe ▸ hx)
    have hnx : ∀ x ∈ order k, (listAdd m l e).next x = m.next x :=
      fun x hx => update_of_ne (hne x hx) ..
    show (listAdd m l e).Denotes (update m.head l (some e) k) _
    by_cases hk : k = l
    · subst hk
      rw [update_self, update_self]
      refine (h.denotes k).push (hn k) (update_self ..) ?_ hnx fun x hx => listAdd_prev (hne x hx)
      have hf : m.head k ≠ some e := fun he => hn k ((h.denotes k).mem_of_first he)
      simp [listAdd, writeThrough_apply, hf]
    · rw [update_of_ne hk, update_of_ne hk]
      refine (h.denotes k).congr hnx fun x hx => ?_
      have hf : m.head l ≠ some x := fun hx' => hk (h.apart hx ((h.denotes l).mem_of_first hx'))
      rw [listAdd_prev (hne x hx), if_neg hf]
  apart := by
    have hm : ∀ k x, x ∈ update order l (e :: order l) k → k = l ∧ x = e ∨ x ∈ order k := by
      intro k x hx
      by_cases hk : k = l
      · subst hk; simpa using hx
      · rw [update_of_ne hk] at hx; exact .inr hx
    intro i j x hi hj
    rcases hm i x hi with ⟨rfl, rfl⟩ | hold <;> rcases hm j x hj with ⟨rfl, hx⟩ | hold'
    · rfl
    · exact (hn j hold').elim
    · exact (hn i (hx ▸ hold)).elim
    · exact h.apart hold hold'

theorem Represents.del (h : Represents m order) (he : e ∈ order l) :
    Represents (listDel m l e) (update order l ((order l).erase e)) where
  denotes k := by
    obtain ⟨before, after, ho⟩ := List.append_of_mem he
    have hl := ho ▸ h.denotes l
    have hn : e ∉ before ++ after := (List.nodup_cons.mp (List.perm_middle.nodup_iff.mp hl.nodup)).1
    have hs : m.next e ≠ some e := fun heq => hn (by simp [hl.mem_of_next heq])
    rw [listDel_head]
    by_cases hk : k = l
    · subst hk
      have her : (order k).erase e = before ++ after := by
        rw [ho, List.erase_append_right, List.erase_cons_head]; exact fun hm => hn (by simp [hm])
      rw [update_self, update_self, her]
      exact hl.unlink (fun x hx => listDel_next hs hx) fun x hx => listDel_prev hx
    · rw [update_of_ne hk, update_of_ne hk]
      have hot : ∀ x ∈ order k, x ∉ before ++ e :: after :=
        fun x hx hx' => hk (h.apart hx (ho ▸ hx'))
      have hne : ∀ x ∈ order k, x ≠ e := fun x hx hxe => hot x hx (by simp [hxe])
      refine (h.denotes k).congr (fun x hx => ?_) fun x hx => ?_
      · rw [listDel_next hs (hne x hx), if_neg]
        exact fun heq => hot x hx (by simp [hl.mem_of_prev heq])
      · rw [listDel_prev (hne x hx), if_neg]
        exact fun heq => hot x hx (by simp [hl.mem_of_next heq])
  apart := by
    have hm : ∀ k x, x ∈ update order l ((order l).erase e) k → x ∈ order k := by
      intro k x hx
      by_cases hk : k = l
      · subst hk
        exact List.mem_of_mem_erase (by simpa using hx)
      · rwa [update_of_ne hk] at hx
    exact fun {_ _ _} hi hj => h.apart (hm _ _ hi) (hm _ _ hj)

theorem Represents.step (h : Represents m order) (hs : opStep order op = some order') :
    Represents (op.apply m) order' ∧ ∀ k, k ≠ op.list → order' k = order k := by
  cases op with
  | add l e =>
    obtain ⟨⟨hf, hb⟩, rfl⟩ := by simpa [opStep] using hs
    exact ⟨h.add fun k => by cases k <;> assumption, fun k hk => update_of_ne hk ..⟩
  | del l e =>
    obtain ⟨he, rfl⟩ := by simpa [opStep] using hs
    exact ⟨h.del he, fun k hk => update_of_ne hk ..⟩

theorem run_concat : run m (ops ++ [op]) = op.apply (run m ops) := by simp [run]

theorem Represents.run (h : Represents m order) (hru : exec opStep order ops = some order') :
    Represents (run m ops) order' := by
  refine exec_invariant (I := fun ops => Represents (ThreadLists.run m ops)) h ?_ hru
  intro ops order op order' _ hr hs
  rw [run_concat]
  exact (hr.step hs).1

theorem Represents.move (h : Represents m order) (he : e ∈ order l) (hk : k ≠ l)
    (hf : order' l = (order l).erase e) (hto : order' k = e :: order k) :
    exec opStep order [.del l e, .add k e] = some order' := by
  have hn : e ∉ (order l).erase e := fun hm => ((h.denotes l).nodup.mem_erase_iff.mp hm).1 rfl
  have hn' : e ∉ order k := fun hm => hk (h.apart hm he)
  have ho : update (update order l ((order l).erase e)) k (e :: order k) = order' := by
    funext i
    cases i <;> cases k <;> cases l <;> simp_all
  cases k <;> cases l <;> simp_all [exec, opStep]

/-- **The links hold the lists.**  Before the first operation the lists are empty, and the links may be any.
    Whatever is done then, each head leads through the elements of its list, and one more operation
    changes neither the head nor a link of the other list. -/
theorem lists_kept (m : Lists T) (hempty : ∀ l, m.head l = none) (ops : List (Op T))
    (order : ListName → List T) (h : exec opStep (fun _ => []) ops = some order) :
    (∀ l, (run m ops).Denotes ((run m ops).head l) (order l)) ∧
    ∀ op order', opStep order op = some order' → ∀ l, l ≠ op.list →
      (run m (ops ++ [op])).head l = (run m ops).head l ∧
      ∀ e ∈ order l, (run m (ops ++ [op])).next e = (run m ops).next e ∧
        (run m (ops ++ [op])).prev e = (run m ops).prev e := by
  have hr := (represents_empty hempty).run h
  refine ⟨hr.denotes, fun op order' hst l hl => ?_⟩
  obtain ⟨ha, hs⟩ := hr.step hst
  rw [run_concat]
  exact (hr.denotes l).unchanged (hs l hl ▸ ha.denotes l)

end

/-- The element that was added first is moved, from behind the second one. -/
def movedThread : List (Op Nat) := [.add .free 0, .add .free 1, .del .free 0, .add .busy 0]

theorem lists_kept_moved :
    ∃ order, exec opStep (fun _ => []) movedThread = some order ∧ order .free = [1] ∧ order .busy = [0] ∧
      ∀ l, (run ⟨⟨fun _ => none, fun _ => none⟩, fun _ => none⟩ movedThread).Denotes
        ((run ⟨⟨fun _ => none, fun _ => none⟩, fun _ => none⟩ movedThread).head l) (order l) :=
  ⟨_, rfl, rfl, rfl, (lists_kept _ (fun _ => rfl) _ _ rfl).1⟩

/-! ## The lists of the pool -/

section

variable {n : Nat}

/-- `gp_workers_init`: all threads are free. -/
def gpWorkersInit (n : Nat) : List (Op (Fin n)) := (List.finRange n).map (.add .free)

def gpQueryAssign (m : Lists (Fin n)) : List (Op (Fin n)) :=
  match m.head .free with
  | some t => [.del .free t, .add .busy t]
  | none => []

def gpWorkerMain (t : Fin n) : List (Op (Fin n)) := [.del .busy t, .add .free t]

/-- The operations of an action. -/
def opsOf (s : Pool n) (m : Lists (Fin n)) : Action n → List (Op (Fin n))
  | .dispatch =>
    match s.dispatcher with
    | .assigning _ => gpQueryAssign m
    | _ => []
  | .putBack t => gpWorkerMain t
  | _ => []

/-- A step of the pool, with its operations on the links. -/
def linkedStep (s : Pool n × Lists (Fin n)) (a : Action n) : Option (Pool n × Lists (Fin n)) :=
  (step s.1 a).map fun s' => (s', run s.2 (opsOf s.1 s.2 a))

/-- The lists as `Pool` has them. -/
def order (s : Pool n) : ListName → List (Fin n)
  | .free => s.freeList
  | .busy => s.busyList

variable {s s' : Pool n} {m : Lists (Fin n)} {a : Action n}

theorem exec_init : exec opStep (fun _ => []) (gpWorkersInit n) = some (order (Pool.init n)) := by
  have ha : ∀ ts : List (Fin n), ts.Nodup →
      exec opStep (fun _ => []) (ts.map (.add .free)) = some (update (fun _ => []) .free ts.reverse) := by
    intro ts hts
    induction ts using List.reverseRecOn with
    | nil => simp [exec]
    | append_singleton ts t ih =>
      obtain ⟨hn, -, hne⟩ := List.nodup_append.mp hts
      have ht : t ∉ ts := fun ht => hne t ht t (by simp) rfl
      simp [exec_concat, ih hn, opStep, ht]
  rw [gpWorkersInit, ha _ (List.nodup_finRange n), Option.some_inj]
  funext l
  cases l <;> rfl

theorem busy_of_handled (h : ThreadsOk s) {t : Fin n} {q : Query} (hat : s.worker t = .handled q) :
    t ∈ s.busyList := by
  have hb := h.busy t
  simp only [Pool.load, hat, Worker.query, Option.isSome_some, Bool.toNat_true] at hb
  exact List.count_pos_iff.mp (by omega)

theorem exec_opsOf (hok : ThreadsOk s) (h : Represents m (order s)) (hs : step s a = some s') :
    exec opStep (order s) (opsOf s m a) = some (order s') := by
  have hfi : m.head .free = s.freeList.head? := (h.denotes .free).first
  cases step_transition hs with
  | takeThread hat hf =>
    simp only [opsOf, gpQueryAssign, hat, hfi, hf]
    exact h.move (by simp [order, hf]) nofun (by simp [order, hf]) rfl
  | noThread hat hf =>
    rw [hf] at hfi
    simp only [opsOf, gpQueryAssign, hat, hfi, List.head?_nil]; rfl
  | putBack hat => exact h.move (busy_of_handled hok hat) nofun rfl rfl
  | handOver hat | queue hat | seeReply hat _ | seeNoReply hat _ | popReply hat _ | popNoReply hat _
  | answer hat | unqueue hat _ | done hat _ => simp only [opsOf, hat]; rfl
  | _ => rfl

/-- **The lists of the pool are linked.**  In every interleaving the threads are moved by such operations,
    and their links hold the free and the busy list of the pool. -/
theorem pool_lists (hempty : ∀ l, m.head l = none) {s : Pool n × Lists (Fin n)}
    (h : Reach linkedStep (fun _ _ => True) (Pool.init n, run m (gpWorkersInit n)) s) :
    Represents s.2 (order s.1) := by
  have hb : ThreadsOk s.1 ∧ Represents s.2 (order s.1) := by
    refine h.invariant (I := fun s => ThreadsOk s.1 ∧ Represents s.2 (order s.1))
      ⟨threadsOk_init, (represents_empty hempty).run exec_init⟩ ?_
    rintro s a s' ⟨hok, hr⟩ - hs
    obtain ⟨p, hp, rfl⟩ := Option.map_eq_some_iff.mp hs
    exact ⟨hok.step (step_transition hp), hr.run (exec_opsOf hok hr hp)⟩
  exact hb.2

theorem pool_lists_crowded :
    let m : Lists (Fin 1) := ⟨⟨fun _ => none, fun _ => none⟩, fun _ => none⟩
    ∃ s, exec linkedStep (Pool.init 1, run m (gpWorkersInit 1)) crowdedRun = some s ∧
      Represents s.2 (order s.1) := by
  intro m
  have hr : exec linkedStep (Pool.init 1, run m (gpWorkersInit 1)) crowdedRun = some _ := rfl
  exact ⟨_, hr, pool_lists (fun _ => rfl) (Reach.start.exec (fun _ _ _ => trivial) hr)⟩

end

end GssProxy.Workers.ThreadLists
