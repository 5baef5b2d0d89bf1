import GssProxy.Proto.Xdr
import GssProxy.Rpcgen.Xdr

/-!
# Agreement of the two codecs

The generated routines take every non-zero word for true, the hand-written decoder only the word one.
`DecodeAgree`: where the words read as booleans are zero or one, both accept the same streams with the
same value.  `Agree` adds that they encode alike; `Agree.field` and `Agree.done` build it up.
-/

namespace GssProxy.Compat

open Codec Proto Rpcgen

variable {σ α β : Type}

def Canonical (bools : List UInt32) : Prop := ∀ w ∈ bools, w = 0 ∨ w = 1

/-! ## Decoding -/

structure DecodeAgree (d : XdrDecoder α) (g : XdrIn α) : Prop where
  to_c : ∀ {st v st'}, d.run st = .ok (v, st') → ∀ x : XdrMem, x.unread = st.unread →
    Canonical x.bools → ∃ x', g.run x = some (v, x') ∧ x'.unread = st'.unread ∧ Canonical x'.bools
  to_rust : ∀ {x v x'}, g.run x = some (v, x') → Canonical x'.bools →
    ∀ st : Stream, st.unread = x.unread → ∃ st', d.run st = .ok (v, st') ∧ st'.unread = x'.unread
  mono : ∀ {x v x'}, g.run x = some (v, x') → Canonical x'.bools → Canonical x.bools

variable {g : XdrIn α} {x : XdrMem} {p : XdrProc α}

theorem bind_some {l : α → XdrIn β} {r : β × XdrMem} :
    (g >>= l).run x = some r ↔ ∃ a x', g.run x = some (a, x') ∧ (l a).run x' = some r := by
  rw [StateT.run_bind, Option.bind_eq_bind, Option.bind_eq_some_iff]
  exact Prod.exists

theorem pure_some {a : α} {r : α × XdrMem} : (pure a : XdrIn α).run x = some r ↔ r = (a, x) := by
  rw [StateT.run_pure, Option.pure_def, Option.some_inj]
  exact eq_comm

namespace DecodeAgree

theorem ret (a : α) : DecodeAgree (pure a) (pure a) where
  to_c := by
    intro st v st' h x hx hc
    obtain ⟨rfl, rfl⟩ := Prod.mk.inj (Decoder.pure_ok.mp h)
    exact ⟨x, rfl, hx, hc⟩
  to_rust := by
    intro x v x' h _ st hst
    obtain ⟨rfl, rfl⟩ := Prod.mk.inj (pure_some.mp h)
    exact ⟨st, rfl, hst⟩
  mono := by
    intro x v x' h hc
    obtain ⟨rfl, rfl⟩ := Prod.mk.inj (pure_some.mp h)
    exact hc

variable {d : XdrDecoder α}

theorem bind {k : α → XdrDecoder β} {l : α → XdrIn β}
    (h : DecodeAgree d g) (hk : ∀ a, DecodeAgree (k a) (l a)) :
    DecodeAgree (d >>= k) (g >>= l) where
  to_c := by
    intro st v st' hr x hx hc
    obtain ⟨a, st₁, ha, hv⟩ := Decoder.bind_ok.mp hr
    obtain ⟨x₁, hg, hx₁, hca⟩ := h.to_c ha x hx hc
    obtain ⟨x', hl, hx', hc'⟩ := (hk a).to_c hv x₁ hx₁ hca
    exact ⟨x', bind_some.mpr ⟨a, x₁, hg, hl⟩, hx', hc'⟩
  to_rust := by
    intro x v x' hr hc st hst
    obtain ⟨a, x₁, hg, hl⟩ := bind_some.mp hr
    obtain ⟨st₁, ha, hs⟩ := h.to_rust hg ((hk a).mono hl hc) st hst
    obtain ⟨st', hv, hst'⟩ := (hk a).to_rust hl hc st₁ hs
    exact ⟨st', Decoder.bind_ok.mpr ⟨a, st₁, ha, hv⟩, hst'⟩
  mono := by
    intro x v x' hr hc
    obtain ⟨a, x₁, hg, hl⟩ := bind_some.mp hr
    exact h.mono hg ((hk a).mono hl hc)

theorem ite {c : Prop} [Decidable c] {d₁ d₂ : XdrDecoder α} {m₁ m₂ : Fields σ α}
    (ht : c → DecodeAgree d₁ m₁.get) (he : ¬ c → DecodeAgree d₂ m₂.get) :
    DecodeAgree (if c then d₁ else d₂) (if c then m₁ else m₂).get := by
  split
  · rename_i hc; exact ht hc
  · rename_i hc; exact he hc

theorem checkRemaining {tooMany : Nat → Bool} {e : XdrError} (h : DecodeAgree d g)
    (hp : ∀ st r, d.run st = .ok r → tooMany st.remaining = false) :
    DecodeAgree (Decoder.checkRemaining tooMany e d) g where
  to_c := by
    intro st v st' hr
    rw [Decoder.checkRemaining_run] at hr
    split at hr
    · cases hr
    · exact h.to_c hr
  to_rust := by
    intro x v x' hr hc st hst
    obtain ⟨st', hd, hst'⟩ := h.to_rust hr hc st hst
    refine ⟨st', ?_, hst'⟩
    rw [Decoder.checkRemaining_run, hp st _ hd]
    exact hd
  mono := h.mono

theorem times (h : DecodeAgree d p.decode) : ∀ n, DecodeAgree (d.times n) (p.times n)
  | 0 => ret []
  | n + 1 => bind h fun x => bind (times h n) fun xs => ret (x :: xs)

/-! ### Primitives -/

theorem getBytes_some {n : Nat} {r : Bytes × XdrMem} :
    (getBytes n).run x = some r ↔ n ≤ x.unread.length ∧
      r = (x.unread.take n, { x with unread := x.unread.drop n }) := by
  show (if x.unread.length < n then none else some _) = some r ↔ _
  split
  · simp only [reduceCtorEq, false_iff, not_and]; omega
  · rw [Option.some_inj]
    exact ⟨fun h => ⟨by omega, h.symm⟩, fun h => h.2.symm⟩

theorem take (n : Nat) : DecodeAgree (Proto.take n) (getBytes n) where
  to_c := by
    intro st v st' h x hx hc
    obtain ⟨hn, hr⟩ := take_ok.mp h
    obtain ⟨rfl, rfl⟩ := Prod.mk.inj hr
    rw [← hx] at hn ⊢
    exact ⟨_, getBytes_some.mpr ⟨hn, rfl⟩, rfl, hc⟩
  to_rust := by
    intro x v x' h _ st hst
    obtain ⟨hn, hr⟩ := getBytes_some.mp h
    obtain ⟨rfl, rfl⟩ := Prod.mk.inj hr
    rw [← hst] at hn ⊢
    exact ⟨_, take_ok.mpr ⟨hn, rfl⟩, rfl⟩
  mono := by
    intro x v x' h hc
    obtain ⟨-, hr⟩ := getBytes_some.mp h
    obtain ⟨rfl, rfl⟩ := Prod.mk.inj hr
    exact hc

theorem takePad (n : Nat) (a : α) :
    DecodeAgree (do Proto.takePad n; return a) (do let _ ← getBytes n; return a) where
  to_c := by
    intro st v st' h x hx hc
    obtain ⟨_, st₁, hp, hre⟩ := Decoder.bind_ok.mp h
    obtain ⟨hn, hr⟩ := takePad_ok.mp hp
    obtain ⟨-, rfl⟩ := Prod.mk.inj hr
    obtain ⟨rfl, rfl⟩ := Prod.mk.inj (Decoder.pure_ok.mp hre)
    rw [← hx] at hn ⊢
    exact ⟨_, bind_some.mpr ⟨_, _, getBytes_some.mpr ⟨hn, rfl⟩, rfl⟩, rfl, hc⟩
  to_rust := by
    intro x v x' h _ st hst
    obtain ⟨_, x₁, hp, hre⟩ := bind_some.mp h
    obtain ⟨hn, hr⟩ := getBytes_some.mp hp
    obtain ⟨-, rfl⟩ := Prod.mk.inj hr
    obtain ⟨rfl, rfl⟩ := Prod.mk.inj (pure_some.mp hre)
    rw [← hst] at hn ⊢
    exact ⟨_, Decoder.bind_ok.mpr ⟨_, _, takePad_ok.mpr ⟨hn, rfl⟩, rfl⟩, rfl⟩
  mono := by
    intro x v x' h hc
    obtain ⟨_, x₁, hp, hre⟩ := bind_some.mp h
    obtain ⟨-, hr⟩ := getBytes_some.mp hp
    obtain ⟨-, rfl⟩ := Prod.mk.inj hr
    obtain ⟨rfl, rfl⟩ := Prod.mk.inj (pure_some.mp hre)
    exact hc

theorem getU32 : DecodeAgree Proto.getU32 xdrUInt32.decode :=
  bind (take 4) fun _ => ret _

theorem getI32 : DecodeAgree Proto.getI32 xdrEnum.decode :=
  bind getU32 fun _ => ret _

theorem getU64 : DecodeAgree Proto.getU64 gpXdrUint64.decode :=
  bind getU32 fun _ => bind getU32 fun _ => ret _

theorem getBool : DecodeAgree Proto.getBool xdrBool.decode where
  to_c := by
    intro st v st' h x hx hc
    obtain ⟨w, st₁, hw, hv⟩ := Decoder.bind_ok.mp h
    obtain ⟨x₁, hg, hx₁, hca⟩ := getU32.to_c hw x hx hc
    have hwo : (w = 0 ∨ w = 1) ∧ v = (w != 0) ∧ st' = st₁ := by
      split at hv
      · obtain ⟨rfl, rfl⟩ := Prod.mk.inj (Decoder.pure_ok.mp hv); simp
      · obtain ⟨rfl, rfl⟩ := Prod.mk.inj (Decoder.pure_ok.mp hv); simp
      · cases hv
    obtain ⟨hw01, rfl, rfl⟩ := hwo
    refine ⟨{ x₁ with bools := x₁.bools ++ [w] }, ?_, hx₁, ?_⟩
    · exact bind_some.mpr ⟨w, x₁, hg, bind_some.mpr ⟨(), _, rfl, rfl⟩⟩
    · intro w' hw'
      rcases List.mem_append.mp hw' with hold | hn
      · exact hca w' hold
      · rw [List.mem_singleton.mp hn]; exact hw01
  to_rust := by
    intro x v x' h hc st hst
    obtain ⟨w, x₁, hg, hr⟩ := bind_some.mp h
    obtain ⟨_, x₂, hl, hre⟩ := bind_some.mp hr
    cases hl
    obtain ⟨rfl, rfl⟩ := Prod.mk.inj (pure_some.mp hre)
    have hca : Canonical x₁.bools := fun w' hw' => hc w' (List.mem_append_left _ hw')
    obtain ⟨st₁, hw, hs⟩ := getU32.to_rust hg hca st hst
    refine ⟨st₁, Decoder.bind_ok.mpr ⟨w, st₁, hw, ?_⟩, hs⟩
    rcases hc w (by simp) with rfl | rfl <;> rfl
  mono := by
    intro x v x' h hc
    obtain ⟨w, x₁, hg, hr⟩ := bind_some.mp h
    obtain ⟨_, x₂, hl, hre⟩ := bind_some.mp hr
    cases hl
    obtain ⟨rfl, rfl⟩ := Prod.mk.inj (pure_some.mp hre)
    exact getU32.mono hg fun w' hw' => hc w' (List.mem_append_left _ hw')

theorem padLen_eq_roundUp (n : Nat) : padLen n = roundUp n := by
  unfold padLen roundUp
  split <;> omega

theorem getOpaque : DecodeAgree Proto.getOpaque (xdrBytes 4294967295).decode := by
  refine bind getU32 fun len => ?_
  have hl := len.toNat_lt
  rw [if_neg (by omega), ← padLen_eq_roundUp]
  exact bind (take _) fun data => takePad _ data

theorem decodeArray [Xdr α] [Sized α] [LawfulXdr α]
    (h : DecodeAgree (Xdr.decode : XdrDecoder α) p.decode) :
    DecodeAgree (Proto.decodeArray : XdrDecoder (List α)) (xdrArray p).decode := by
  refine bind getU32 fun count => checkRemaining (h.times count.toNat) ?_
  rintro st ⟨items, st'⟩ hr
  -- the elements were all read, and each took at least one byte of what was left
  obtain ⟨⟨⟨hco, -⟩, -⟩, -, c, hc, hcl⟩ :=
    (Law.times LawfulXdr.law count.toNat).sound st items st' hr
  have hle := length_le_flatten_encode items
  have hs := hcl.length_eq
  simp only [Stream.remaining, hc, List.length_append, decide_eq_false_iff_not]
  omega

theorem decodeOptional [Xdr α] (h : DecodeAgree (Xdr.decode : XdrDecoder α) p.decode) :
    DecodeAgree (Proto.decodeOptional : XdrDecoder (Option α)) (xdrPointer p).decode := by
  refine bind getBool fun present => ?_
  cases present with
  | true => exact bind h fun v => ret (some v)
  | false => exact ret none

end DecodeAgree

/-! ## Both directions -/

structure Agree (W P : σ → Prop) (enc : σ → Bytes) (dec : XdrDecoder σ)
    (body : Fields σ σ) : Prop where
  put : ∀ v, W v → P v → ∃ r, body.put v = some (r, enc v)
  get : DecodeAgree dec body.get

structure Agrees (α : Type) [Xdr α] [Sized α] (p : XdrProc α) : Prop where
  encode : ∀ v, Fits v → p.encode v = some (encode v)
  decode : DecodeAgree Xdr.decode p.decode

attribute [class] Agrees

theorem Agree.proc [Xdr σ] [Sized σ] {body : Fields σ σ}
    (h : Agree Fits (fun _ => True) encode decode body) : Agrees σ body.proc where
  encode v hv := by obtain ⟨r, hr⟩ := h.put v hv trivial; exact proc_encode r hr
  decode := h.get

theorem Agree.field [Xdr β] [Sized β] {p : XdrProc β} {P : σ → Prop} {k : β → XdrDecoder σ}
    {bounds : σ → List Prop} {parts : σ → List Bytes} {body : β → Fields σ σ}
    [hp : Agrees β p] (f : σ → β)
    (hk : ∀ b, Agree (fun v => All (bounds v)) (fun v => P v ∧ f v = b)
      (fun v => (parts v).flatten) (k b) (body b)) :
    Agree (fun v => All (Fits (f v) :: bounds v)) P
      (fun v => List.flatten (Xdr.encode (f v) :: parts v)) (Xdr.decode >>= k)
      (p.field f >>= body) where
  put v hW hP := by
    obtain ⟨r, hr⟩ := (hk (f v)).put v hW.2 ⟨hP, rfl⟩
    exact ⟨r, put_bind (put_field (hp.encode (f v) hW.1)) hr⟩
  get := hp.decode.bind fun b => (hk b).get

theorem Agree.done {P : σ → Prop} {a : σ} :
    Agree (fun _ => All []) P (fun _ => List.flatten []) (pure a) (pure a) where
  put _ _ _ := ⟨a, rfl⟩
  get := .ret a

theorem mapM_encode [Xdr α] [Sized α] (hp : Agrees α p) (items : List α)
    (hf : ∀ x ∈ items, Fits x) : items.mapM p.encode = some (items.map encode) := by
  induction items with
  | nil => rfl
  | cons x xs ih =>
    rw [List.forall_mem_cons] at hf
    rw [List.mapM_cons, hp.encode x hf.1, ih hf.2]; rfl

instance Agrees.array [Xdr α] [Sized α] [LawfulXdr α] {p : XdrProc α} [hp : Agrees α p] :
    Agrees (List α) (xdrArray p) where
  encode items hf := by
    show (do
      let count ← xdrUInt32.encode (UInt32.ofNat items.length)
      let elements ← items.mapM p.encode
      return count ++ elements.flatten) = _
    rw [mapM_encode hp items hf.2]; rfl
  decode := hp.decode.decodeArray

instance Agrees.pointer [Xdr α] [Sized α] {p : XdrProc α} [hp : Agrees α p] :
    Agrees (Option α) (xdrPointer p) where
  encode
    | none, _ => rfl
    | some v, hf => by
      show (do
        let marker ← xdrBool.encode true
        let object ← p.encode v
        return marker ++ object) = _
      rw [hp.encode v (hf v rfl)]; rfl
  decode := hp.decode.decodeOptional

theorem xdrBytes_encode {b : Bytes} {maxSize : Nat} (h : b.length ≤ maxSize) :
    (xdrBytes maxSize).encode b = some (putOpaque b) := by
  show (if b.length > maxSize then none else some _) = _
  rw [if_neg (by omega), ← DecodeAgree.padLen_eq_roundUp]
  rfl

instance xdrBool_agrees : Agrees Bool xdrBool := ⟨fun _ _ => rfl, .getBool⟩

instance xdrEnum_agrees : Agrees Int32 xdrEnum := ⟨fun _ _ => rfl, .getI32⟩

instance gpXdrUint64_agrees : Agrees UInt64 gpXdrUint64 := ⟨fun _ _ => rfl, .getU64⟩

end GssProxy.Compat
