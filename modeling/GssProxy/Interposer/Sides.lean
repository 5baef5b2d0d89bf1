import GssProxy.Effect.Dialogue
import GssProxy.Interposer.InitSecContext

/-!
# The side of a context

A context has a local part, a remote part, both or none; one without a part counts as the daemon's, which
may ask for more without a context to go on with.

* `keeps_of_turned`: a call that turns to its side keeps to the dialogue.
-/

namespace GssProxy.Interposer

open Gss Effect

/-- Who a token goes to. -/
inductive Party where
  | localMech
  | daemon
  deriving DecidableEq

inductive Port where
  | c
  | rust

section

variable {X : Type}

def CtxHandle.on (ctx : CtxHandle X) : Party → Bool
  | .localMech => ctx.localCtx.isSome
  | .daemon => ctx.remote.isSome

def CtxHandle.Within (ctx : CtxHandle X) (p : Party) : Prop := ∀ q, q ≠ p → ctx.on q = false

def CtxHandle.Empty (ctx : CtxHandle X) : Prop := ∀ q, ctx.on q = false

structure CtxHandle.OwnedBy (ctx : CtxHandle X) (p : Party) : Prop where
  within : ctx.Within p
  present : p = .localMech → ctx.on p = true

def BelongsTo (context : Option (CtxHandle X)) (p : Party) : Prop := ∃ ctx ∈ context, ctx.OwnedBy p

def OneSided (context : Option (CtxHandle X)) : Prop := ∀ ctx ∈ context, ∃ p, ctx.OwnedBy p

def asksMore : Exit → Bool
  | .status s => s.major == GSS_S_CONTINUE_NEEDED
  | .fault => false

variable {ctx : CtxHandle X} {context : Option (CtxHandle X)} {p q : Party} {exit : Exit}

theorem CtxHandle.Empty.within (h : ctx.Empty) : ctx.Within p := fun q _ => h q

theorem CtxHandle.OwnedBy.unique (hp : ctx.OwnedBy p) (hq : ctx.OwnedBy q) : p = q := by
  by_contra hne
  have ho : ctx.on p = false := hq.within p hne
  have hof : ctx.on q = false := hp.within q (Ne.symm hne)
  cases p with
  | localMech => exact absurd (ho.symm.trans (hp.present rfl)) (by decide)
  | daemon =>
    cases q with
    | localMech => exact absurd (hof.symm.trans (hq.present rfl)) (by decide)
    | daemon => exact hne rfl

theorem not_belongsTo_none : ¬ BelongsTo (none : Option (CtxHandle X)) p := by
  rintro ⟨ctx, hc, -⟩
  cases hc

theorem belongsTo_some_iff : BelongsTo (some ctx) p ↔ ctx.OwnedBy p := by
  constructor
  · rintro ⟨ctx', ⟨⟩, ho⟩; exact ho
  · intro ho; exact ⟨ctx, rfl, ho⟩

theorem oneSided_none : OneSided (none : Option (CtxHandle X)) := by
  intro ctx hc
  cases hc

theorem BelongsTo.oneSided (h : BelongsTo context p) : OneSided context := by
  obtain ⟨ctx, hc, ho⟩ := h
  intro ctx' hc'
  cases hc
  cases hc'
  exact ⟨p, ho⟩

theorem keep_of_asksMore (h : asksMore exit = true) : exit.keep = true := by
  cases exit with
  | fault => cases h
  | status s =>
    have hm : (s.major == GSS_S_CONTINUE_NEEDED) = true := h
    show (s.major == GSS_S_COMPLETE || s.major == GSS_S_CONTINUE_NEEDED) = true
    rw [hm, Bool.or_true]

/-! ## The common exit -/

def freeEmpty (exit : Exit) (ctx : CtxHandle X) : Option (CtxHandle X) :=
  if ¬ exit.keep ∧ ctx.localCtx.isNone ∧ ctx.remote.isNone then none else some ctx

theorem freeEmpty_keep (hk : exit.keep = true) : freeEmpty exit ctx = some ctx := by
  have hf : ¬ (¬ exit.keep = true ∧ ctx.localCtx.isNone = true ∧ ctx.remote.isNone = true) :=
    fun h => h.1 hk
  exact if_neg hf

theorem freeEmpty_on (hon : ctx.on p = true) : freeEmpty exit ctx = some ctx := by
  have hf : ¬ (¬ exit.keep = true ∧ ctx.localCtx.isNone = true ∧ ctx.remote.isNone = true) := by
    rintro ⟨-, hl, hr⟩
    cases p with
    | localMech | daemon => simp_all [CtxHandle.on]
  exact if_neg hf

theorem freeEmpty_empty (hk : exit.keep = false) (he : ctx.Empty) : freeEmpty exit ctx = none := by
  have hl : ctx.localCtx.isNone = true := by
    have h := he .localMech
    simp_all [CtxHandle.on]
  have hr : ctx.remote.isNone = true := by
    have h := he .daemon
    simp_all [CtxHandle.on]
  have hf : ¬ exit.keep = true ∧ ctx.localCtx.isNone = true ∧ ctx.remote.isNone = true :=
    ⟨by rw [hk]; decide, hl, hr⟩
  exact if_pos hf

/-! ## Attempts -/

structure TriedOn (p : Party) (before after : CtxHandle X) (exit : Exit) (given : List Party) :
    Prop where
  calls : ∀ q ∈ given, q = p
  other : ∀ q, q ≠ p → after.on q = before.on q
  kept : p = .localMech → exit.keep = true → after.on p = true

structure Turned (context : Option (CtxHandle X)) (exit : Exit) (next : Option (CtxHandle X))
    (given : List Party) : Prop where
  oneSided : OneSided next
  asks : asksMore exit = true → ∀ p, given.getLast? = some p → BelongsTo next p
  calls : ∀ p, BelongsTo context p → ∀ q ∈ given, q = p
  stays : ∀ p, BelongsTo context p → next.isSome = true → BelongsTo next p

variable {before after : CtxHandle X} {given earlier : List Party} {next : Option (CtxHandle X)}

theorem TriedOn.within (h : TriedOn p before after exit given) (hb : before.Within p) :
    after.Within p := by
  intro q hq
  rw [h.other q hq]
  exact hb q hq

theorem TriedOn.freed (h : TriedOn p before after exit given) (hb : before.Within p) :
    BelongsTo (freeEmpty exit after) p ∨ exit.keep = false ∧ freeEmpty exit after = none := by
  have hw := h.within hb
  cases hk : exit.keep with
  | true => rw [freeEmpty_keep hk, belongsTo_some_iff]; exact .inl ⟨hw, fun hp => h.kept hp hk⟩
  | false =>
    cases hon : after.on p with
    | true => rw [freeEmpty_on hon, belongsTo_some_iff]; exact .inl ⟨hw, fun _ => hon⟩
    | false =>
      refine .inr ⟨rfl, freeEmpty_empty hk ?_⟩
      intro q
      by_cases hq : q = p
      · rw [hq, hon]
      · exact hw q hq

theorem TriedOn.turned (h : TriedOn p before after exit given)
    (hc : context = none ∧ before.Empty ∨ context = some before ∧ before.OwnedBy p)
    (he : earlier = [] ∨ context = none ∧ (exit.keep = true → given ≠ [])) :
    Turned context exit (freeEmpty exit after) (earlier ++ given) := by
  have hbe : before.Within p := by
    rcases hc with ⟨-, hem⟩ | ⟨-, ho⟩
    · exact hem.within
    · exact ho.within
  have hf := h.freed hbe
  constructor
  case oneSided =>
    rcases hf with hb | ⟨-, hn⟩
    · exact hb.oneSided
    · rw [hn]; exact oneSided_none
  case asks =>
    intro ha q hl
    have hk := keep_of_asksMore ha
    have hg : q ∈ given := by
      rcases he with rfl | ⟨-, hm⟩
      · exact List.mem_of_getLast? hl
      have hne := hm hk
      rw [List.getLast?_append, List.getLast?_eq_some_getLast hne] at hl
      cases hl
      exact List.getLast_mem hne
    rw [h.calls q hg]
    rcases hf with hb | ⟨hfa, -⟩
    · exact hb
    · rw [hk] at hfa; cases hfa
  case calls =>
    intro q hq
    rcases hc with ⟨rfl, -⟩ | ⟨rfl, ho⟩
    · exact absurd hq not_belongsTo_none
    rw [belongsTo_some_iff] at hq
    rw [hq.unique ho]
    rcases he with rfl | ⟨hn, -⟩
    · exact h.calls
    · cases hn
  case stays =>
    intro q hq hs
    rcases hc with ⟨rfl, -⟩ | ⟨rfl, ho⟩
    · exact absurd hq not_belongsTo_none
    rw [belongsTo_some_iff] at hq
    rw [hq.unique ho]
    rcases hf with hb | ⟨-, hn⟩
    · exact hb
    · rw [hn] at hs; cases hs

theorem Turned.refused (hs : OneSided context) (he : asksMore exit = false) :
    Turned context exit context [] where
  oneSided := hs
  asks h := by rw [he] at h; cases h
  calls _ _ _ hq := (nomatch hq)
  stays _ h _ := h

theorem keeps_of_turned {ι κ ω : Type} {d : Dialogue (CtxHandle X) ι κ ω Party}
    {Proper : Option (CtxHandle X) → ι → Prop} (exit : ω → Exit)
    (hm : ∀ r, d.more r = asksMore (exit r))
    (ht : ∀ {s i}, OneSided s → Proper s i →
      Turned s (exit (d.step s i).value) (d.next (d.step s i).value) (d.parties (d.step s i))) :
    d.Keeps Proper OneSided BelongsTo where
  valid hs hp := (ht hs hp).oneSided
  asks hs hp ha := by
    unfold Dialogue.asking at ha
    split at ha
    · rename_i h
      rw [hm] at h
      exact (ht hs hp).asks h _ ha
    · cases ha
  calls hs hp hb := (ht hs hp).calls _ hb
  stays hs hp hb := (ht hs hp).stays _ hb

end

end GssProxy.Interposer
