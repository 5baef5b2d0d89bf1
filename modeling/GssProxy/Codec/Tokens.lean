import Mathlib.Data.List.Basic
import Mathlib.Data.List.TakeWhile

/-!
# Tokens between separators

A token is a longest part of a text without separators.  `tokens` splits the whole text, `strtok` takes
the first token off (`strtok_spec`).
-/

namespace GssProxy.Codec

variable {α : Type} (sep : α → Bool)

/-- The nonempty pieces between separators. -/
def tokens (s : List α) : List (List α) := (s.splitOnP sep).filter fun t => !t.isEmpty

/-- The first token and what is left behind it. -/
def strtok (s : List α) : Option (List α × List α) :=
  match s.dropWhile sep with
  | [] => none
  | c :: rest => some ((c :: rest).takeWhile (!sep ·), ((c :: rest).dropWhile (!sep ·)).tail)

variable {sep} {s t rest : List α}

theorem tokens_cons_sep {c : α} (hc : sep c = true) (s : List α) :
    tokens sep (c :: s) = tokens sep s := by
  rw [tokens, List.splitOnP_cons_eq_if_modifyHead, if_pos hc]
  rfl

theorem tokens_eq_singleton (hne : s ≠ []) (h : ∀ c ∈ s, sep c = false) : tokens sep s = [s] := by
  have hs : s.splitOnP sep = [s] := List.splitOnP_eq_singleton h
  simp [tokens, hs, hne]

theorem tokens_append_sep {c : α} (hne : s ≠ []) (h : ∀ c ∈ s, sep c = false) (hc : sep c = true)
    (rest : List α) : tokens sep (s ++ c :: rest) = s :: tokens sep rest := by
  have hs : (s ++ c :: rest).splitOnP sep = s :: rest.splitOnP sep :=
    List.splitOnP_append_cons_of_forall_mem h c hc rest
  simp [tokens, hs, hne]

theorem tokens_dropWhile (s : List α) : tokens sep (s.dropWhile sep) = tokens sep s := by
  induction s with
  | nil => rfl
  | cons c s ih =>
    by_cases hc : sep c = true
    · rw [List.dropWhile_cons_of_pos hc, tokens_cons_sep hc, ih]
    · rw [List.dropWhile_cons_of_neg hc]

theorem strtok_spec (h : strtok sep s = some (t, rest)) :
    t ≠ [] ∧ (∀ c ∈ t, sep c = false) ∧ t.length + rest.length ≤ s.length ∧
      tokens sep s = t :: tokens sep rest := by
  unfold strtok at h
  split at h
  · cases h
  rename_i c tail hdr
  cases h
  have hc : sep c = false := by
    have hh := List.head?_dropWhile_not sep s
    simpa [hdr] using hh
  have ht : ∀ d ∈ (c :: tail).takeWhile (!sep ·), sep d = false := by
    intro d hd; simpa using List.mem_takeWhile_imp hd
  have hne : (c :: tail).takeWhile (!sep ·) ≠ [] := by simp [hc]
  have ha := List.takeWhile_append_dropWhile (p := (!sep ·)) (l := c :: tail)
  have hl : (c :: tail).length ≤ s.length := by
    rw [← hdr]; exact (List.dropWhile_sublist sep).length_le
  refine ⟨hne, ht, ?_, ?_⟩
  · rw [← ha, List.length_append] at hl
    rw [List.length_tail]; omega
  · rw [← tokens_dropWhile s, hdr]
    cases hr : (c :: tail).dropWhile (!sep ·) with
    | nil =>
      rw [hr, List.append_nil] at ha
      rw [ha]
      exact tokens_eq_singleton (by simp) (ha ▸ ht)
    | cons d rest' =>
      have hd : sep d = true := by
        have hh := List.head?_dropWhile_not (!sep ·) (c :: tail)
        simpa [hr] using hh
      rw [hr] at ha
      rw [← ha]
      have hs := tokens_append_sep hne ht hd rest'
      rw [ha] at hs ⊢
      exact hs

theorem strtok_eq_self (hne : s ≠ []) (hs : ∀ c ∈ s, sep c = false) :
    strtok sep s = some (s, []) := by
  cases s with
  | nil => exact (hne rfl).elim
  | cons c s =>
    have hh : ¬ sep c = true := by simp [hs c List.mem_cons_self]
    have ht : (c :: s).takeWhile (!sep ·) = c :: s :=
      List.takeWhile_eq_self_iff.mpr fun d hd => by simp [hs d hd]
    have hdr : (c :: s).dropWhile (!sep ·) = [] :=
      List.dropWhile_eq_nil_iff.mpr fun d hd => by simp [hs d hd]
    unfold strtok
    rw [List.dropWhile_cons_of_neg hh]
    simp [ht, hdr]

theorem tokens_of_strtok_none (h : strtok sep s = none) : tokens sep s = [] := by
  unfold strtok at h
  split at h
  · rename_i hd
    rw [← tokens_dropWhile s, hd]; rfl
  · cases h

end GssProxy.Codec
