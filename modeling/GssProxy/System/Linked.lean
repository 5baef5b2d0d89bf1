import Mathlib.Data.List.Induction
import Mathlib.Data.List.Nodup

/-!
# Doubly linked lists

The links of a set of elements, `none` being the null pointer.  `Links.Denotes`: which list they hold from
a first element on.

* `Links.Denotes.push`, `Links.Denotes.unlink`: an element is added and taken out.
-/

namespace GssProxy.System

structure Links (T : Type) where
  prev : T → Option T
  next : T → Option T

/-- The elements of `order` are distinct and linked, with null links at the ends. -/
structure Links.Denotes {T : Type} (m : Links T) (first : Option T) (order : List T) : Prop where
  first : first = order.head?
  next : ∀ {before e after}, order = before ++ e :: after → m.next e = after.head?
  prev : ∀ {before e after}, order = before ++ e :: after → m.prev e = before.getLast?
  nodup : order.Nodup

namespace Links

variable {T : Type} {m m' : Links T} {first first' : Option T} {order before after l r : List T} {e x : T}

theorem denotes_nil : m.Denotes none [] where
  first := rfl
  next h := by simp at h
  prev h := by simp at h
  nodup := List.nodup_nil

theorem Denotes.congr (h : m.Denotes first order) (hn : ∀ x ∈ order, m'.next x = m.next x)
    (hp : ∀ x ∈ order, m'.prev x = m.prev x) : m'.Denotes first order where
  first := h.first
  next heq := (hn _ (by simp [heq])).trans (h.next heq)
  prev heq := (hp _ (by simp [heq])).trans (h.prev heq)
  nodup := h.nodup

/-- The list determines its first element and the links. -/
theorem Denotes.unchanged (h : m.Denotes first order) (h' : m'.Denotes first' order) :
    first' = first ∧ ∀ x ∈ order, m'.next x = m.next x ∧ m'.prev x = m.prev x := by
  refine ⟨h'.first.trans h.first.symm, fun x hx => ?_⟩
  obtain ⟨before, after, heq⟩ := List.append_of_mem hx
  exact ⟨(h'.next heq).trans (h.next heq).symm, (h'.prev heq).trans (h.prev heq).symm⟩

theorem Denotes.mem_of_first (h : m.Denotes first order) (hx : first = some x) : x ∈ order :=
  List.mem_of_head? (h.first.symm.trans hx)

theorem Denotes.mem_of_next (h : m.Denotes first (before ++ e :: after)) (hx : m.next e = some x) :
    x ∈ after :=
  List.mem_of_head? ((h.next rfl).symm.trans hx)

theorem Denotes.mem_of_prev (h : m.Denotes first (before ++ e :: after)) (hx : m.prev e = some x) :
    x ∈ before :=
  List.mem_of_getLast? ((h.prev rfl).symm.trans hx)

/-- Forward and backward links agree. -/
theorem Denotes.agree (h : m.Denotes first order) (hx : x ∈ order) (he : e ∈ order) :
    m.next x = some e ↔ m.prev e = some x := by
  constructor
  · obtain ⟨before, after, rfl⟩ := List.append_of_mem hx
    rw [h.next rfl]
    intro hh
    obtain ⟨after, rfl⟩ := List.head?_eq_some_iff.mp hh
    rw [h.prev (List.append_cons before x (e :: after)), List.getLast?_concat]
  · obtain ⟨before, after, rfl⟩ := List.append_of_mem he
    rw [h.prev rfl]
    intro hl
    obtain ⟨before, rfl⟩ := List.getLast?_eq_some_iff.mp hl
    rw [h.next (List.append_cons before x (e :: after)).symm]; rfl

theorem split_cases (h : before ++ after = l ++ x :: r) :
    (∃ mid, before = l ++ x :: mid ∧ r = mid ++ after) ∨
      ∃ mid, after = mid ++ x :: r ∧ l = before ++ mid := by
  rcases List.append_eq_append_iff.mp h with ⟨mid, hl, ha⟩ | ⟨mid, hb, hr⟩
  · exact .inr ⟨mid, ha, hl⟩
  · cases mid with
    | nil => exact .inr ⟨[], hr.symm, by simpa using hb.symm⟩
    | cons y mid => obtain ⟨rfl, rfl⟩ := List.cons.inj hr; exact .inl ⟨mid, hb, rfl⟩

variable [DecidableEq T]

theorem Denotes.push (h : m.Denotes first order) (hnw : e ∉ order) (hne : m'.next e = first)
    (hpr : m'.prev e = none) (hn : ∀ x ∈ order, m'.next x = m.next x)
    (hp : ∀ x ∈ order, m'.prev x = if first = some x then some e else m.prev x) :
    m'.Denotes (some e) (e :: order) where
  first := rfl
  next := by
    intro before x after heq
    cases before with
    | nil => obtain ⟨rfl, rfl⟩ := List.cons.inj heq; exact hne.trans h.first
    | cons y before =>
      obtain ⟨rfl, rfl⟩ := List.cons.inj heq
      rw [hn x (by simp), h.next rfl]
  prev := by
    intro before x after heq
    cases before with
    | nil => obtain ⟨rfl, rfl⟩ := List.cons.inj heq; exact hpr
    | cons y before =>
      obtain ⟨rfl, rfl⟩ := List.cons.inj heq
      rw [hp x (by simp), h.first, h.prev rfl]
      cases before with
      | nil => simp
      | cons z before =>
        -- only the first element is given a new predecessor
        have hzx : z ≠ x := by rintro rfl; simpa using h.nodup
        simp [hzx]
  nodup := List.nodup_cons.mpr ⟨hnw, h.nodup⟩

/-- The neighbours of `e` are linked to each other. -/
theorem Denotes.unlink (h : m.Denotes first (before ++ e :: after))
    (hn : ∀ x, x ≠ e → m'.next x = if m.prev e = some x then m.next e else m.next x)
    (hp : ∀ x, x ≠ e → m'.prev x = if m.next e = some x then m.prev e else m.prev x) :
    m'.Denotes (if first = some e then m.next e else first) (before ++ after) := by
  have hc : (e :: (before ++ after)).Nodup := List.perm_middle.nodup_iff.mp h.nodup
  have hne : ∀ x ∈ before ++ after, x ≠ e := fun x hx hxe => (List.nodup_cons.mp hc).1 (hxe ▸ hx)
  have ha : ∀ x ∈ before ++ after, (m.next x = some e ↔ m.prev e = some x) ∧
      (m.next e = some x ↔ m.prev x = some e) := by
    intro x hx
    have hm : x ∈ before ++ e :: after := List.perm_middle.mem_iff.mpr (.tail _ hx)
    exact ⟨h.agree hm (by simp), h.agree (by simp) hm⟩
  constructor
  · rw [h.first, h.next rfl]
    cases before with
    | nil => simp
    | cons y before => simp [hne y (by simp)]
  · intro l x r heq
    have hx : x ∈ before ++ after := by simp [heq]
    simp only [hn x (hne x hx), ← (ha x hx).1]
    rcases split_cases heq with ⟨mid, rfl, rfl⟩ | ⟨mid, rfl, rfl⟩
    · rw [h.next (show _ = l ++ x :: (mid ++ e :: after) by simp), h.next rfl]
      cases mid with
      | nil => simp
      | cons y mid => simp [hne y (by simp)]
    · rw [h.next (show _ = (before ++ e :: mid) ++ x :: r by simp), if_neg]
      intro hh
      exact hne e (by simp [List.mem_of_head? hh]) rfl
  · intro l x r heq
    have hx : x ∈ before ++ after := by simp [heq]
    simp only [hp x (hne x hx), (ha x hx).2]
    rcases split_cases heq with ⟨mid, rfl, rfl⟩ | ⟨mid, rfl, rfl⟩
    · rw [h.prev (show _ = l ++ x :: (mid ++ e :: after) by simp), if_neg]
      intro hl
      exact hne e (by simp [List.mem_of_getLast? hl]) rfl
    rw [h.prev (show _ = (before ++ e :: mid) ++ x :: r by simp), h.prev rfl]
    cases mid using List.reverseRecOn with
    | nil => simp
    | append_singleton mid y =>
      rw [← List.cons_append, ← List.append_assoc, ← List.append_assoc, List.getLast?_concat,
        List.getLast?_concat, if_neg]
      simpa using hne y (by simp)
  · exact hc.of_cons

end Links

end GssProxy.System
