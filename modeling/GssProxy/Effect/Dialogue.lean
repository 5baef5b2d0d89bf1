import GssProxy.Effect.Calls

/-!
# Dialogues with one of several parties

Each call on the state may pass its token to several parties.  From the first that asks for another token
on, the dialogue is bound to it.

* `Keeps.faithful`: a routine that keeps to that in each call does so in every dialogue.
-/

namespace GssProxy.Effect

structure Dialogue (σ ι κ ω π : Type) where
  step : Option σ → ι → Calls κ ω
  next : ω → Option σ
  more : ω → Bool
  party : κ → Option π

/-- One call of a sequence. -/
structure Turn (σ ι κ ω π : Type) where
  before : Option σ
  bound : Option π
  input : ι
  result : Calls κ ω

namespace Dialogue

variable {σ ι κ ω π : Type} (d : Dialogue σ ι κ ω π)

/-- The parties that were given the token, in order. -/
def parties (r : Calls κ ω) : List π := r.log.filterMap d.party

/-- The party that asks for more: the last one that was given the token. -/
def asking (r : Calls κ ω) : Option π := if d.more r.value then (d.parties r).getLast? else none

/-- The party the dialogue is bound to after a call. -/
def binding (bound : Option π) (r : Calls κ ω) : Option π :=
  if (d.next r.value).isSome then bound <|> d.asking r else none

/-- The calls of a dialogue, each with the party bound before it. -/
def turns : Option σ → Option π → List ι → List (Turn σ ι κ ω π)
  | _, _, [] => []
  | s, bound, i :: is =>
    let result := d.step s i
    ⟨s, bound, i, result⟩ :: turns (d.next result.value) (d.binding bound result) is

/-- The state says whom it belongs to, and a call on it keeps to that. -/
structure Keeps (Proper : Option σ → ι → Prop) (Valid : Option σ → Prop)
    (Belongs : Option σ → π → Prop) : Prop where
  valid : ∀ {s i}, Valid s → Proper s i → Valid (d.next (d.step s i).value)
  asks : ∀ {s i p}, Valid s → Proper s i → d.asking (d.step s i) = some p →
    Belongs (d.next (d.step s i).value) p
  calls : ∀ {s i p}, Valid s → Proper s i → Belongs s p → ∀ q ∈ d.parties (d.step s i), q = p
  stays : ∀ {s i p}, Valid s → Proper s i → Belongs s p →
    (d.next (d.step s i).value).isSome = true → Belongs (d.next (d.step s i).value) p

variable {d} {Proper : Option σ → ι → Prop} {Valid : Option σ → Prop}
  {Belongs : Option σ → π → Prop}

theorem Keeps.binding_belongs (hk : d.Keeps Proper Valid Belongs) {s : Option σ}
    {bound : Option π} {i : ι} (hv : Valid s) (hpr : Proper s i) (hb : ∀ p ∈ bound, Belongs s p) :
    ∀ p ∈ d.binding bound (d.step s i), Belongs (d.next (d.step s i).value) p := by
  intro p hp
  unfold binding at hp
  split at hp
  · rename_i hn
    cases bound with
    | none => exact hk.asks hv hpr hp
    | some q => cases hp; exact hk.stays hv hpr (hb p rfl) hn
  · cases hp

theorem Keeps.belongs (hk : d.Keeps Proper Valid Belongs) {s : Option σ} {bound : Option π}
    {is : List ι} (hv : Valid s) (hb : ∀ p ∈ bound, Belongs s p)
    (hp : ∀ t ∈ d.turns s bound is, Proper t.before t.input) :
    ∀ t ∈ d.turns s bound is, Valid t.before ∧ (∀ p ∈ t.bound, Belongs t.before p) ∧
      t.result = d.step t.before t.input := by
  induction is generalizing s bound with
  | nil => intro t ht; cases ht
  | cons i is ih =>
    have hf : Proper s i := hp _ List.mem_cons_self
    intro t ht
    rcases List.mem_cons.mp ht with rfl | hl
    · exact ⟨hv, hb, rfl⟩
    · exact ih (hk.valid hv hf) (hk.binding_belongs hv hf hb)
        (fun t ht => hp t (List.mem_cons_of_mem _ ht)) t hl

/-- **Dialogues stay with one party.**  In any sequence of proper calls, after a party has asked for
    more, tokens go to that party only. -/
theorem Keeps.faithful (hk : d.Keeps Proper Valid Belongs) (hv : Valid none)
    {is : List ι} (hpr : ∀ t ∈ d.turns none none is, Proper t.before t.input) :
    ∀ t ∈ d.turns none none is, ∀ p ∈ t.bound, ∀ q ∈ d.parties t.result, q = p := by
  intro t ht p hp
  obtain ⟨htv, htb, hr⟩ := hk.belongs hv (by rintro p ⟨⟩) hpr t ht
  rw [hr]
  exact hk.calls htv (hpr t ht) (htb p hp)

end Dialogue

end GssProxy.Effect
