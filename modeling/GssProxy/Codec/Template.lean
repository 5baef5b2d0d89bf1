import Mathlib.Data.List.Basic

/-!
# Percent templates

A percent sign announces what to insert: a number, a name, or a percent sign.  `expand` reads the
template once from left to right.

* `number_eq_of_expand_eq`: where only the number is inserted, the expansion tells it.
-/

namespace GssProxy.Codec

/-- The characters with a meaning. -/
structure Marks (α : Type) where
  percent : α
  number : α
  name : α

/-- What is inserted; there may be no name. -/
structure Inserts (α : Type) where
  number : List α
  name : Option (List α)

/-- The texts over another alphabet, character by character. -/
def Inserts.encode {α β : Type} (ins : Inserts α) (g : α → List β) : Inserts β :=
  ⟨ins.number.flatMap g, ins.name.map (List.flatMap g)⟩

namespace Marks

variable {α : Type} [DecidableEq α] (m : Marks α) (ins : Inserts α)

/-- The text that the character after a percent sign stands for. -/
def insert (c : α) : Option (List α) :=
  if c = m.percent then some [m.percent]
  else if c = m.number then some ins.number
  else if c = m.name then ins.name
  else none

/-- The expansion; none where a percent sign has no meaning or there is no name to insert. -/
def expand : List α → Option (List α)
  | [] => some []
  | c :: rest =>
    if c = m.percent then
      match rest with
      | [] => none
      | d :: rest =>
        match m.insert ins d, expand rest with
        | some text, some out => some (text ++ out)
        | _, _ => none
    else (expand rest).map (c :: ·)

variable {m ins}

@[simp] theorem expand_nil : m.expand ins [] = some [] := rfl

/-! An accumulator in front of the expansion takes over what the next character gives. -/

theorem expand_plain {c : α} (hc : c ≠ m.percent) (out rest : List α) :
    (m.expand ins (c :: rest)).map (out ++ ·) = (m.expand ins rest).map (out ++ [c] ++ ·) := by
  have heq : m.expand ins (c :: rest) = (m.expand ins rest).map (c :: ·) := by
    rw [expand.eq_def]; simp [if_neg hc]
  rw [heq]
  simp [Function.comp_def]

variable {d : α} {template : List α}

theorem expand_insert {text : List α} (hd : m.insert ins d = some text) (out rest : List α) :
    (m.expand ins (m.percent :: d :: rest)).map (out ++ ·) =
      (m.expand ins rest).map (out ++ text ++ ·) := by
  rw [expand]
  simp only [hd]
  cases m.expand ins rest with
  | none => rfl
  | some tail => simp

theorem expand_insert_none {rest : List α} (hd : m.insert ins d = none) :
    m.expand ins (m.percent :: d :: rest) = none := by
  rw [expand, if_pos rfl]
  simp [hd]

@[simp] theorem expand_percent_nil : m.expand ins [m.percent] = none := by rw [expand, if_pos rfl]

theorem expand_append {front : List α} (hf : m.percent ∉ front) (rest : List α) :
    m.expand ins (front ++ rest) = (m.expand ins rest).map (front ++ ·) := by
  induction front with
  | nil => simp
  | cons c front ih =>
    have hc : c ≠ m.percent := fun h => hf (h ▸ List.mem_cons_self)
    have hp : m.expand ins (c :: (front ++ rest)) = (m.expand ins (front ++ rest)).map (c :: ·) := by
      simpa using expand_plain hc [] (front ++ rest)
    rw [List.cons_append, hp, ih (fun h => hf (List.mem_cons_of_mem _ h))]
    simp [Function.comp_def]

theorem expand_code (d : α) (rest : List α) :
    m.expand ins (m.percent :: d :: rest) =
      (m.insert ins d).bind fun text => (m.expand ins rest).map (text ++ ·) := by
  rw [expand, if_pos rfl]
  cases m.insert ins d with
  | none => rfl
  | some text => cases m.expand ins rest <;> rfl

/-! ## Templates with numbers only -/

/-- A template with a number before each of the parts that follow the first text. -/
def numbered (m : Marks α) (first : List α) (parts : List (List α)) : List α :=
  first ++ parts.flatMap fun part => m.percent :: m.number :: part

/-- The template asks for the number, and for nothing else. -/
def NumberOnly (m : Marks α) (template : List α) : Prop :=
  ∃ first parts, parts ≠ [] ∧ m.percent ∉ first ∧ (∀ part ∈ parts, m.percent ∉ part) ∧
    template = m.numbered first parts

theorem expand_numbered (hm : m.number ≠ m.percent) {first : List α} {parts : List (List α)}
    (hf : m.percent ∉ first) (hpa : ∀ part ∈ parts, m.percent ∉ part) :
    m.expand ins (m.numbered first parts) =
      some (first ++ parts.flatMap fun part => ins.number ++ part) := by
  have hi : m.insert ins m.number = some ins.number := by
    unfold insert
    rw [if_neg hm, if_pos rfl]
  unfold numbered
  induction parts generalizing first with
  | nil => rw [expand_append hf]; simp
  | cons part parts ih =>
    have hn := ih (hpa part List.mem_cons_self) fun p hp => hpa p (List.mem_cons_of_mem _ hp)
    rw [List.flatMap_cons, expand_append hf, List.cons_append, List.cons_append, expand_code, hi,
      hn]
    simp

theorem number_eq_of_expand_eq (hm : m.number ≠ m.percent)
    (ht : m.NumberOnly template) {ins' : Inserts α}
    (h : m.expand ins template = m.expand ins' template) : ins.number = ins'.number := by
  obtain ⟨first, parts, hne, hf, hp, rfl⟩ := ht
  rw [expand_numbered hm hf hp, expand_numbered hm hf hp, Option.some.injEq,
    List.append_cancel_left_eq] at h
  -- the expansions are as long as one another, so the numbers are
  have hl (number : List α) : (parts.flatMap fun part => number ++ part).length =
      parts.length * number.length + parts.flatten.length := by
    clear hne hp h
    induction parts with
    | nil => simp
    | cons part parts ih =>
      rw [List.flatMap_cons, List.length_append, List.length_append, List.flatten_cons,
        List.length_append, List.length_cons, Nat.add_mul]
      omega
  have hn : ins.number.length = ins'.number.length := by
    have hs := congrArg List.length h
    rw [hl, hl] at hs
    exact Nat.eq_of_mul_eq_mul_left (List.length_pos_iff.mpr hne) (Nat.add_right_cancel hs)
  cases parts with
  | nil => exact absurd rfl hne
  | cons =>
    rw [List.flatMap_cons, List.flatMap_cons, List.append_assoc, List.append_assoc] at h
    exact (List.append_inj h hn).1

omit [DecidableEq α] in
theorem NumberOnly.code (hm : m.number ≠ m.percent) (h : m.NumberOnly template)
    {front rest : List α} (hs : template = front ++ m.percent :: d :: rest) : d = m.number := by
  obtain ⟨first, parts, -, hf, hpa, rfl⟩ := h
  induction parts generalizing first front with
  | nil =>
    rw [numbered, List.flatMap_nil, List.append_nil] at hs
    exact absurd (hs ▸ List.mem_append_right _ List.mem_cons_self) hf
  | cons part parts ih =>
    have hn : m.numbered first (part :: parts) = first ++ m.percent :: m.number :: m.numbered part parts := by
      simp [numbered]
    rcases List.append_eq_append_iff.mp hs with ⟨between, hfr, ht⟩ | ⟨between, hfr, ht⟩
    · -- the sign is the one after the first text, or comes later
      rcases between with _ | ⟨p, _ | ⟨n, between⟩⟩
      · exact (List.cons.inj (List.cons.inj ht).2).1.symm
      · exact absurd (List.cons.inj (List.cons.inj ht).2).1 hm
      · exact ih part (hpa part List.mem_cons_self) (fun p hp => hpa p (List.mem_cons_of_mem _ hp))
          (List.cons.inj (List.cons.inj ht).2).2
    · rcases between with _ | ⟨p, between⟩
      · exact (List.cons.inj (List.cons.inj ht).2).1
      · have hp : m.percent = p := (List.cons.inj ht).1
        exact absurd (hfr ▸ List.mem_append_right _ (hp ▸ List.mem_cons_self)) hf

/-- Each character as a text over another alphabet; those with a meaning stand for themselves and
    show up nowhere else. -/
structure Encodes {β : Type} (m : Marks α) (m' : Marks β) (g : α → List β) : Prop where
  nonempty : ∀ c, g c ≠ []
  percent : g m.percent = [m'.percent]
  number : g m.number = [m'.number]
  name : g m.name = [m'.name]
  mem_percent : ∀ c, m'.percent ∈ g c → c = m.percent
  mem_number : ∀ c, m'.number ∈ g c → c = m.number
  mem_name : ∀ c, m'.name ∈ g c → c = m.name

section

variable {β : Type} [DecidableEq β] {m' : Marks β} {g : α → List β}

variable (ins) in
theorem insert_encode (he : m.Encodes m' g) {b : β} {tail : List β} (hd : g d = b :: tail) :
    m'.insert (ins.encode g) b = (m.insert ins d).map (List.flatMap g) ∧
      (m.insert ins d ≠ none → tail = []) := by
  have hb : b ∈ g d := hd ▸ List.mem_cons_self
  have hp' (h : d ≠ m.percent) : b ≠ m'.percent := fun hb' => h (he.mem_percent d (hb' ▸ hb))
  have hn' (h : d ≠ m.number) : b ≠ m'.number := fun hb' => h (he.mem_number d (hb' ▸ hb))
  have hna' (h : d ≠ m.name) : b ≠ m'.name := fun hb' => h (he.mem_name d (hb' ▸ hb))
  unfold insert
  by_cases hp : d = m.percent
  · rw [hp, he.percent] at hd
    cases hd
    simp [hp, he.percent]
  rw [if_neg (hp' hp), if_neg hp]
  by_cases hn : d = m.number
  · rw [hn, he.number] at hd
    cases hd
    rw [if_pos rfl, if_pos hn]
    exact ⟨rfl, fun _ => rfl⟩
  rw [if_neg (hn' hn), if_neg hn]
  by_cases hna : d = m.name
  · rw [hna, he.name] at hd
    cases hd
    rw [if_pos rfl, if_pos hna]
    exact ⟨rfl, fun _ => rfl⟩
  · rw [if_neg (hna' hna), if_neg hna]; exact ⟨rfl, fun h => absurd rfl h⟩

theorem expand_flatMap (he : m.Encodes m' g) : ∀ template : List α,
    m'.expand (ins.encode g) (template.flatMap g) = (m.expand ins template).map (List.flatMap g)
  | [] => rfl
  | c :: rest => by
    by_cases hc : c = m.percent
    · subst hc
      cases rest with
      | nil => rw [List.flatMap_cons, he.percent, expand_percent_nil]; exact expand_percent_nil
      | cons d rest =>
        obtain ⟨b, tail, hd⟩ := List.exists_cons_of_ne_nil (he.nonempty d)
        obtain ⟨hi, ht⟩ := insert_encode ins he hd
        rw [List.flatMap_cons, he.percent, List.flatMap_cons, hd, List.singleton_append,
          List.cons_append, expand_code, expand_code, hi]
        cases hin : m.insert ins d with
        | none => rfl
        | some text =>
          rw [ht (by simp [hin]), List.nil_append, expand_flatMap he rest]; simp [Function.comp_def]
    · have hp : m.expand ins ([c] ++ rest) = (m.expand ins rest).map ([c] ++ ·) :=
        expand_append (fun h => hc (List.mem_singleton.mp h).symm) rest
      rw [List.flatMap_cons, expand_append (fun h => hc (he.mem_percent c h)), expand_flatMap he rest,
        ← List.singleton_append, hp]
      simp [Function.comp_def]

omit [DecidableEq α] [DecidableEq β] in
theorem NumberOnly.flatMap (he : m.Encodes m' g) (h : m.NumberOnly template) :
    m'.NumberOnly (template.flatMap g) := by
  have hp {l : List α} (hl : m.percent ∉ l) : m'.percent ∉ l.flatMap g := by
    intro hm
    obtain ⟨c, hc, hco⟩ := List.mem_flatMap.mp hm
    exact hl (he.mem_percent c hco ▸ hc)
  obtain ⟨first, parts, hne, hf, hpa, rfl⟩ := h
  refine ⟨first.flatMap g, parts.map (List.flatMap g), by simpa using hne, hp hf, ?_, ?_⟩
  · intro part hpr
    obtain ⟨part, hm, rfl⟩ := List.mem_map.mp hpr
    exact hp (hpa part hm)
  · simp [numbered, List.flatMap_append, List.flatMap_assoc, List.flatMap_map, List.flatMap_cons,
      he.percent, he.number]

end

end Marks

end GssProxy.Codec
