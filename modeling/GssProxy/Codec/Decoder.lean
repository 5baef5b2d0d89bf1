import GssProxy.Codec.Bytes

/-!
# Sequential decoders and the codec law

A decoder reads a stream from the front; the stream keeps the bytes unread and those consumed.  `Law W P
enc dec` says that `enc` and `dec` are two directions of one format, for values within the bounds `W` and
the choices `P` made so far; `Law.bind`, `Law.map` and `Law.done` build it up.
-/

namespace GssProxy.Codec

/-! ## Streams and decoders -/

/-- A byte stream being read.  `seen` is what has been consumed, padding replaced by zeros. -/
structure Stream where
  unread : Bytes
  seen : Bytes
  deriving DecidableEq, Repr

/-- Number of bytes consumed so far. -/
def Stream.position (st : Stream) : Nat := st.seen.length

/-- Number of bytes still available. -/
def Stream.remaining (st : Stream) : Nat := st.unread.length

/-- A stream positioned at the start of a buffer. -/
def Stream.new (buf : Bytes) : Stream := ⟨buf, []⟩

/-- The same stream with more bytes behind the ones it has. -/
def Stream.extend (st : Stream) (more : Bytes) : Stream := ⟨st.unread ++ more, st.seen⟩

abbrev Decoder (ε α : Type) := StateT Stream (Except ε) α

variable {ε α β γ : Type} {st st' : Stream} {d : Decoder ε α} {a : α} {e : β → Bytes}

theorem Decoder.bind_ok {k : α → Decoder ε β} {r : β × Stream} :
    (d >>= k).run st = .ok r ↔ ∃ a st', d.run st = .ok (a, st') ∧ (k a).run st' = .ok r := by
  rw [StateT.run_bind]
  cases h : d.run st with
  | error e => simp [bind, Except.bind]
  | ok p =>
    obtain ⟨a, st'⟩ := p
    simp only [bind, Except.bind, Except.ok.injEq, Prod.mk.injEq]
    constructor
    · intro hk; exact ⟨a, st', ⟨rfl, rfl⟩, hk⟩
    · rintro ⟨a', st'', ⟨rfl, rfl⟩, hk⟩; exact hk

theorem Decoder.pure_ok {r : α × Stream} : (pure a : Decoder ε α).run st = .ok r ↔ r = (a, st) := by
  rw [StateT.run_pure]
  simp only [pure, Except.pure, Except.ok.injEq]
  exact eq_comm

theorem Decoder.run_bind_of_ok {k : α → Decoder ε β}
    (h : d.run st = .ok (a, st')) : (d >>= k).run st = (k a).run st' := by
  rw [StateT.run_bind, h]
  rfl

/-- The bytes `c` are those of the encoding `e`, but for padding, where `e` has zeros. -/
inductive Spells : Bytes → Bytes → Prop where
  | same (c : Bytes) : Spells c c
  | block {data pad : Bytes} (hlen : data.length < 4294967296) (hpad : pad.length < 4)
      (halign : (data.length + pad.length) % 4 = 0) :
      Spells (beBytes (UInt32.ofNat data.length) ++ (data ++ pad))
        (beBytes (UInt32.ofNat data.length) ++ (data ++ List.replicate pad.length 0))
  | append {c₁ c₂ e₁ e₂ : Bytes} (h₁ : Spells c₁ e₁) (h₂ : Spells c₂ e₂) :
      Spells (c₁ ++ c₂) (e₁ ++ e₂)

theorem Spells.length_eq {c e : Bytes} (h : Spells c e) : c.length = e.length := by
  induction h with
  | same c => rfl
  | block => simp
  | append h₁ h₂ ih₁ ih₂ => rw [List.length_append, List.length_append, ih₁, ih₂]

/-! ## The law -/

/-- `st'` is `st` after consuming a spelling of one encoding. -/
def Consumed (st : Stream) (enc : Bytes) (st' : Stream) : Prop :=
  st'.seen = st.seen ++ enc ∧ ∃ c, st.unread = c ++ st'.unread ∧ Spells c enc

/-- **The codec law** for the values `v` with `W v` and `P v`. -/
structure Law (W P : α → Prop) (enc : α → Bytes) (dec : Decoder ε α) : Prop where
  /-- an encoding is decoded to the value it encodes, and nothing behind it is read -/
  roundtrip : ∀ v, W v → P v → ∀ rest seen,
    dec.run ⟨enc v ++ rest, seen⟩ = .ok (v, ⟨rest, seen ++ enc v⟩)
  /-- what is decoded is within bounds and was spelled, up to padding, by its encoding -/
  sound : ∀ st v st', dec.run st = .ok (v, st') → (W v ∧ P v) ∧ Consumed st (enc v) st'
  extend : ∀ st v st', dec.run st = .ok (v, st') → ∀ more,
    dec.run (st.extend more) = .ok (v, st'.extend more)

theorem Consumed.nil (st : Stream) : Consumed st [] st :=
  ⟨by simp, [], by simp, .same []⟩

theorem Consumed.trans {st₁ st₂ st₃ : Stream} {e₁ e₂ : Bytes} (h₁ : Consumed st₁ e₁ st₂)
    (h₂ : Consumed st₂ e₂ st₃) : Consumed st₁ (e₁ ++ e₂) st₃ := by
  obtain ⟨hs₁, c₁, hu₁, hl₁⟩ := h₁
  obtain ⟨hs₂, c₂, hu₂, hl₂⟩ := h₂
  refine ⟨by rw [hs₂, hs₁, List.append_assoc], c₁ ++ c₂, ?_, hl₁.append hl₂⟩
  rw [hu₁, hu₂, List.append_assoc]

/-- The conjunction of a list of bounds, one for each component of a format. -/
def All : List Prop → Prop
  | [] => True
  | p :: ps => p ∧ All ps

/-- `n` repetitions of a decoder, left to right. -/
def Decoder.times (d : Decoder ε α) : Nat → Decoder ε (List α)
  | 0 => pure []
  | n + 1 => do
    let x ← d
    let xs ← Decoder.times d n
    return x :: xs

/-- A decoder that first checks how many bytes are left. -/
def Decoder.checkRemaining (tooMany : Nat → Bool) (e : ε) (d : Decoder ε α) : Decoder ε α := do
  let st ← get
  if tooMany st.remaining then throw e else d

theorem Decoder.times_succ_ok {n : Nat} {r : List α × Stream} :
    (d.times (n + 1)).run st = .ok r ↔ ∃ x xs st₁ st₂, d.run st = .ok (x, st₁) ∧
      (d.times n).run st₁ = .ok (xs, st₂) ∧ r = (x :: xs, st₂) := by
  simp only [Decoder.times, Decoder.bind_ok, Decoder.pure_ok]
  constructor
  · rintro ⟨x, st₁, hx, xs, st₂, hxs, rfl⟩; exact ⟨x, xs, st₁, st₂, hx, hxs, rfl⟩
  · rintro ⟨x, xs, st₁, st₂, hx, hxs, rfl⟩; exact ⟨x, st₁, hx, xs, st₂, hxs, rfl⟩

theorem Decoder.checkRemaining_run {tooMany : Nat → Bool} {e : ε}
    (st : Stream) : (Decoder.checkRemaining tooMany e d).run st =
      if tooMany st.remaining then .error e else d.run st := by
  show (if tooMany st.remaining then throw e else d : Decoder ε α).run st = _
  split <;> rfl

/-! ## Composing laws -/

namespace Law

variable {W P : α → Prop} {enc : α → Bytes} {dec : Decoder ε α}

theorem congr {W' P' : α → Prop} (h : Law W' P' enc dec)
    (hi : ∀ v, W v ∧ P v ↔ W' v ∧ P' v) : Law W P enc dec where
  roundtrip v hW hP := h.roundtrip v ((hi v).mp ⟨hW, hP⟩).1 ((hi v).mp ⟨hW, hP⟩).2
  sound st v st' hd := by obtain ⟨hv, hc⟩ := h.sound st v st' hd; exact ⟨(hi v).mpr hv, hc⟩
  extend := h.extend

theorem ret (hW : W a) (hP : P a) (hu : ∀ v, P v → v = a) (he : enc a = []) :
    Law W P enc (pure a : Decoder ε α) where
  roundtrip v _ hv rest seen := by rw [hu v hv, he, List.append_nil]; rfl
  sound st v st' h := by
    obtain ⟨rfl, rfl⟩ := Prod.mk.inj (Decoder.pure_ok.mp h); exact ⟨⟨hW, hP⟩, he ▸ Consumed.nil _⟩
  extend st v st' h more := by obtain ⟨rfl, rfl⟩ := Prod.mk.inj (Decoder.pure_ok.mp h); rfl

variable {S : β → Prop}

theorem bind {d : Decoder ε β} {k : β → Decoder ε α}
    {rest : α → Bytes} (hd : Law S (fun _ => True) e d) (f : α → β) (hS : ∀ v, W v → P v → S (f v))
    (hk : ∀ b, S b → Law W (fun v => P v ∧ f v = b) rest (k b)) :
    Law W P (fun v => e (f v) ++ rest v) (d >>= k) where
  roundtrip v hW hP more seen := by
    have hSv := hS v hW hP
    have hk' := (hk (f v) hSv).roundtrip v hW ⟨hP, rfl⟩ more (seen ++ e (f v))
    refine Decoder.bind_ok.mpr ⟨f v, ⟨rest v ++ more, seen ++ e (f v)⟩, ?_, ?_⟩
    · rw [List.append_assoc]; exact hd.roundtrip (f v) hSv trivial _ _
    · rw [hk', List.append_assoc]
  sound st v st' h := by
    obtain ⟨b, st₁, hb, hv⟩ := Decoder.bind_ok.mp h
    obtain ⟨⟨hSb, -⟩, hc⟩ := hd.sound st b st₁ hb
    obtain ⟨⟨hW, hP, rfl⟩, hc'⟩ := (hk b hSb).sound st₁ v st' hv
    exact ⟨⟨hW, hP⟩, hc.trans hc'⟩
  extend st v st' h more := by
    obtain ⟨b, st₁, hb, hv⟩ := Decoder.bind_ok.mp h
    obtain ⟨⟨hSb, -⟩, -⟩ := hd.sound st b st₁ hb
    exact Decoder.bind_ok.mpr ⟨b, st₁.extend more, hd.extend st b st₁ hb more,
      (hk b hSb).extend st₁ v st' hv more⟩

theorem map {d : Decoder ε β} (hd : Law S (fun _ => True) e d)
    (g : β → α) (hg : ∀ b, S b → W (g b) ∧ P (g b))
    (hs : ∀ v, W v → P v → ∃ b, S b ∧ v = g b) (he : ∀ b, S b → enc (g b) = e b) :
    Law W P enc (do return g (← d)) where
  roundtrip v hv hP more seen := by
    obtain ⟨b, hb, rfl⟩ := hs v hv hP
    rw [he b hb]
    exact Decoder.bind_ok.mpr ⟨b, _, hd.roundtrip b hb trivial more seen, Decoder.pure_ok.mpr rfl⟩
  sound st v st' h := by
    obtain ⟨b, st₁, hb, hv⟩ := Decoder.bind_ok.mp h
    obtain ⟨rfl, rfl⟩ := Prod.mk.inj (Decoder.pure_ok.mp hv)
    obtain ⟨⟨hSb, -⟩, hc⟩ := hd.sound st b _ hb
    exact ⟨hg b hSb, (he b hSb).symm ▸ hc⟩
  extend st v st' h more := by
    obtain ⟨b, st₁, hb, hv⟩ := Decoder.bind_ok.mp h
    obtain ⟨rfl, rfl⟩ := Prod.mk.inj (Decoder.pure_ok.mp hv)
    exact Decoder.bind_ok.mpr ⟨b, _, hd.extend st b _ hb more, Decoder.pure_ok.mpr rfl⟩

theorem reject {e : ε} (hP : ∀ v, ¬ P v) : Law W P enc (throw e : Decoder ε α) where
  roundtrip v _ hv := absurd hv (hP v)
  sound st v st' h := by cases h
  extend st v st' h := by cases h

theorem checkRemaining {tooMany : Nat → Bool} {e : ε} (hd : Law W P enc dec)
    (hmo : ∀ m n, m ≤ n → tooMany n = true → tooMany m = true)
    (he : ∀ v, W v → P v → tooMany (enc v).length = false) :
    Law W P enc (Decoder.checkRemaining tooMany e dec) := by
  have hp : ∀ m n, m ≤ n → tooMany m = false → tooMany n = false := by
    intro m n hmn hm
    by_contra hn
    exact absurd (hmo m n hmn (by simpa using hn)) (by simp [hm])
  have hok : ∀ {st : Stream} {r}, (Decoder.checkRemaining tooMany e dec).run st = .ok r →
      tooMany st.remaining = false ∧ dec.run st = .ok r := by
    intro st r h
    rw [Decoder.checkRemaining_run] at h
    split at h
    · cases h
    · rename_i hf; exact ⟨by simpa using hf, h⟩
  constructor
  · intro v hW hP rest seen
    have hfi : tooMany (enc v ++ rest).length = false := hp _ _ (by simp) (he v hW hP)
    rw [Decoder.checkRemaining_run]
    simp only [Stream.remaining, hfi, Bool.false_eq_true, if_false]
    exact hd.roundtrip v hW hP rest seen
  · intro st v st' h; exact hd.sound st v st' (hok h).2
  · intro st v st' h more
    have hfi : tooMany (st.extend more).remaining = false :=
      hp _ _ (by simp [Stream.remaining, Stream.extend]) (hok h).1
    rw [Decoder.checkRemaining_run, hfi]
    exact hd.extend st v st' (hok h).2 more

theorem times {d : Decoder ε β} (hd : Law S (fun _ => True) e d) (n : Nat) :
    Law (fun l : List β => l.length = n ∧ ∀ x ∈ l, S x) (fun _ => True)
      (fun l => (l.map e).flatten) (d.times n) := by
  induction n with
  | zero =>
    constructor
    · rintro l ⟨hl, -⟩ - rest seen
      rw [List.eq_nil_of_length_eq_zero hl]
      exact Decoder.pure_ok.mpr (by simp)
    · intro st l st' h
      obtain ⟨rfl, rfl⟩ := Prod.mk.inj (Decoder.pure_ok.mp h)
      exact ⟨⟨⟨rfl, by simp⟩, trivial⟩, Consumed.nil _⟩
    · intro st l st' h more
      obtain ⟨rfl, rfl⟩ := Prod.mk.inj (Decoder.pure_ok.mp h); rfl
  | succ n ih =>
    constructor
    · rintro (_ | ⟨x, xs⟩) ⟨hl, hS⟩ - rest seen
      · simp at hl
      · have hx := hd.roundtrip x (hS x List.mem_cons_self) trivial
          ((xs.map e).flatten ++ rest) seen
        have hxs := ih.roundtrip xs ⟨by simpa using hl, fun y hy => hS y (List.mem_cons_of_mem x hy)⟩
          trivial rest (seen ++ e x)
        refine Decoder.times_succ_ok.mpr ⟨x, xs, _, _, ?_, hxs, ?_⟩
        · rw [List.map_cons, List.flatten_cons, List.append_assoc]; exact hx
        · rw [List.map_cons, List.flatten_cons, List.append_assoc]
    · intro st l st' h
      obtain ⟨x, xs, st₁, st₂, hx, hxs, hr⟩ := Decoder.times_succ_ok.mp h
      obtain ⟨rfl, rfl⟩ := Prod.mk.inj hr
      obtain ⟨⟨hSx, -⟩, hcx⟩ := hd.sound st x st₁ hx
      obtain ⟨⟨⟨hle, hSxs⟩, -⟩, hc⟩ := ih.sound st₁ xs _ hxs
      refine ⟨⟨⟨by simp [hle], ?_⟩, trivial⟩, hcx.trans hc⟩
      exact List.forall_mem_cons.mpr ⟨hSx, hSxs⟩
    · intro st l st' h more
      obtain ⟨x, xs, st₁, st₂, hx, hxs, hr⟩ := Decoder.times_succ_ok.mp h
      obtain ⟨rfl, rfl⟩ := Prod.mk.inj hr
      exact Decoder.times_succ_ok.mpr
        ⟨x, xs, _, _, hd.extend st x st₁ hx more, ih.extend st₁ xs _ hxs more, rfl⟩

theorem cut_fails (h : Law W P enc dec) {buf seen : Bytes} {v : α}
    (hr : dec.run ⟨buf, seen⟩ = .ok (v, st')) {n : Nat} (hn : n < (enc v).length) :
    ∃ e, dec.run ⟨buf.take n, seen⟩ = .error e := by
  cases hcu : dec.run ⟨buf.take n, seen⟩ with
  | error e => exact ⟨e, rfl⟩
  | ok r =>
    have hw := h.extend _ _ _ hcu (buf.drop n)
    rw [Stream.extend, List.take_append_drop, hr] at hw
    obtain ⟨rfl, -⟩ := Prod.mk.inj (Except.ok.inj hw)
    obtain ⟨-, -, c, hc, hs⟩ := h.sound _ _ _ hcu
    have hl := congrArg List.length hc
    rw [List.length_append, hs.length_eq, List.length_take] at hl; omega

theorem field {d : Decoder ε β} {k : β → Decoder ε α}
    {bounds : α → List Prop} {parts : α → List Bytes} (hd : Law S (fun _ => True) e d) (f : α → β)
    (hk : ∀ b, Law (fun v => All (bounds v)) (fun v => P v ∧ f v = b)
      (fun v => (parts v).flatten) (k b)) :
    Law (fun v => All (S (f v) :: bounds v)) P
      (fun v => List.flatten (e (f v) :: parts v)) (d >>= k) := by
  refine bind hd f (fun v hv _ => hv.1) fun b hb => (hk b).congr fun v => ?_
  constructor
  · rintro ⟨⟨-, hbo⟩, hP⟩; exact ⟨hbo, hP⟩
  · rintro ⟨hbo, hP, rfl⟩; exact ⟨⟨hb, hbo⟩, hP, rfl⟩

theorem done (hP : P a := by simp) (hu : ∀ v, P v → v = a := by rintro ⟨⟩; simp_all) :
    Law (fun _ => All []) P (fun _ => List.flatten []) (pure a : Decoder ε α) :=
  ret trivial hP hu rfl

end Law

end GssProxy.Codec
