import GssProxy.Codec.Bytes

/-!
# Grammars

A grammar relates a value to the byte strings that spell it.  `Reads unread run G`: the reader `run`
recognises exactly `G`.  `Reads.bind`, `Reads.map` and `Reads.congr` compose readers.
-/

namespace GssProxy.Codec

variable {S α β : Type}

/-- `run s v s'`: from `s` the reader yields `v` and leaves the stream at `s'`. -/
structure Reads (unread : S → Bytes) (run : S → α → S → Prop) (G : α → Bytes → Prop) : Prop where
  sound : ∀ {s v s'}, run s v s' → ∃ c, G v c ∧ unread s = c ++ unread s'
  complete : ∀ {s v c rest}, G v c → unread s = c ++ rest → ∃ s', run s v s' ∧ unread s' = rest

namespace Reads

variable {unread : S → Bytes} {G : α → Bytes → Prop} {run : S → α → S → Prop}

theorem congr {G' : α → Bytes → Prop} (h : Reads unread run G)
    (hG : ∀ v c, G v c ↔ G' v c) : Reads unread run G' where
  sound hr := by obtain ⟨c, hc, hu⟩ := h.sound hr; exact ⟨c, (hG _ _).mp hc, hu⟩
  complete hc := h.complete ((hG _ _).mpr hc)

theorem ret (a : α) (hr : ∀ s v s', run s v s' ↔ v = a ∧ s' = s) :
    Reads unread run (fun v c => v = a ∧ c = []) where
  sound h := by obtain ⟨rfl, rfl⟩ := (hr _ _ _).mp h; exact ⟨[], ⟨rfl, rfl⟩, rfl⟩
  complete := by rintro s v c rest ⟨rfl, rfl⟩ hu; exact ⟨s, (hr _ _ _).mpr ⟨rfl, rfl⟩, hu⟩

theorem bind {run₁ : S → α → S → Prop} {run₂ : α → S → β → S → Prop} {run : S → β → S → Prop}
    {H : α → β → Bytes → Prop} (h₁ : Reads unread run₁ G) (h₂ : ∀ a, Reads unread (run₂ a) (H a))
    (hr : ∀ s v s', run s v s' ↔ ∃ a s₁, run₁ s a s₁ ∧ run₂ a s₁ v s') :
    Reads unread run (fun v c => ∃ a c₁ c₂, G a c₁ ∧ H a v c₂ ∧ c = c₁ ++ c₂) where
  sound h := by
    obtain ⟨a, s₁, ha, hv⟩ := (hr _ _ _).mp h
    obtain ⟨c₁, hc₁, hu₁⟩ := h₁.sound ha
    obtain ⟨c₂, hc₂, hu₂⟩ := (h₂ a).sound hv
    exact ⟨c₁ ++ c₂, ⟨a, c₁, c₂, hc₁, hc₂, rfl⟩, by rw [hu₁, hu₂, List.append_assoc]⟩
  complete := by
    rintro s v c rest ⟨a, c₁, c₂, hc₁, hc₂, rfl⟩ hu
    rw [List.append_assoc] at hu
    obtain ⟨s₁, ha, hu₁⟩ := h₁.complete hc₁ hu
    obtain ⟨s₂, hv, hu₂⟩ := (h₂ a).complete hc₂ hu₁
    exact ⟨s₂, (hr _ _ _).mpr ⟨a, s₁, ha, hv⟩, hu₂⟩

theorem map {run₁ : S → α → S → Prop} {run : S → β → S → Prop} (f : α → β) (h : Reads unread run₁ G)
    (hr : ∀ s v s', run s v s' ↔ ∃ a, run₁ s a s' ∧ v = f a) :
    Reads unread run (fun v c => ∃ a, G a c ∧ v = f a) where
  sound hs := by
    obtain ⟨a, ha, rfl⟩ := (hr _ _ _).mp hs
    obtain ⟨c, hc, hu⟩ := h.sound ha
    exact ⟨c, ⟨a, hc, rfl⟩, hu⟩
  complete := by
    rintro s v c rest ⟨a, hc, rfl⟩ hu
    obtain ⟨s', ha, hre⟩ := h.complete hc hu
    exact ⟨s', (hr _ _ _).mpr ⟨a, ha, rfl⟩, hre⟩

theorem reject (hr : ∀ s v s', ¬ run s v s') : Reads unread run (fun _ _ => False) where
  sound h := absurd h (hr _ _ _)
  complete h := h.elim

end Reads

end GssProxy.Codec
