import GssProxy.Codec.CString
import GssProxy.Codec.Template
import GssProxy.Server.Environment

/-!
# Expansion of the values of a `cred_store`

`%U` is the user id, `%u` the user name and `%%` a percent sign.  The C `get_formatted_string` works on a
copy of the value: it looks for the next percent sign with `strchr`, closes the gap of a `%%` in place,
and prints a new copy around an inserted text.  It is modelled on blocks of memory, so that an access
outside the copy shows.

* `template_expansion`: both expand the template, the C one where it is `Sound`.
-/

namespace GssProxy.Server.Format

open Codec

/-! ## The reference -/

def byteMarks : Marks UInt8 := ⟨37, 85, 117⟩

def charMarks : Marks Char := ⟨'%', 'U', 'u'⟩

def digits (n : Nat) : Bytes := (Nat.toDigits 10 n).map fun c => UInt8.ofNat c.toNat

def byteInserts (uidToName : UInt32 → Option CString) (uid : UInt32) : Inserts UInt8 :=
  ⟨digits uid.toNat, (uidToName uid).map CString.bytes⟩

def charInserts (uidToName : UInt32 → Option String) (uid : UInt32) : Inserts Char :=
  ⟨Nat.toDigits 10 uid.toNat, (uidToName uid).map String.toList⟩

def formatChars (uidToName : UInt32 → Option String) (uid : UInt32) :
    List Char → List Char → Option String → Option (List Char)
  | [], out, _ => some out
  | '%' :: '%' :: rest, out, username => formatChars uidToName uid rest (out ++ ['%']) username
  | '%' :: 'U' :: rest, out, username =>
    formatChars uidToName uid rest (out ++ (toString uid).toList) username
  | '%' :: 'u' :: rest, out, some name =>
    formatChars uidToName uid rest (out ++ name.toList) (some name)
  | '%' :: 'u' :: rest, out, none =>
    match uidToName uid with
    | some name => formatChars uidToName uid rest (out ++ name.toList) (some name)
    | none => none
  | '%' :: _, _, _ => none
  | c :: rest, out, username => formatChars uidToName uid rest (out ++ [c]) username

/-- `get_formatted_string` of the Rust daemon. -/
def getFormattedString (uidToName : UInt32 → Option String) (orig : String) (uid : UInt32) :
    Option String :=
  (formatChars uidToName uid orig.toList [] none).map String.ofList

/-! ## The C daemon -/

def printInt : Int → Bytes
  | .ofNat n => digits n
  | .negSucc n => 45 :: digits (n + 1)

structure Editing where
  str : Bytes
  len : Int
  p : Nat
  user : Option CString

/-- How the C function ends. -/
inductive Outcome where
  | returned (s : Option Bytes)
  | undefined
  | unfinished
  deriving DecidableEq, Repr

def Editing.print (e : Editing) (text : Bytes) : Option Editing := do
  let left := e.p + 1
  let right := e.len - left
  let rest ← cstrAt e.str left
  let out := precision e.str (left - 2) ++ text ++ rest
  let p := (out.length : Int) - right
  if 0 ≤ p ∧ p ≤ out.length + 1 then
    some { e with str := out ++ [0], len := out.length, p := p.toNat }
  else none

def Editing.close (e : Editing) : Option Editing := do
  let left := e.p
  let str ← memmove e.str e.p (e.p + 1) (left - 1)
  some { e with str, len := e.len - 1 }

def formatCode (uidToName : UInt32 → Option CString) (uid : UInt32) (loop : Editing → Outcome)
    (e : Editing) (c : UInt8) : Outcome :=
  let again (next : Option Editing) : Outcome := next.elim .undefined loop
  if c = 37 then again e.close
  else if c = 85 then again (e.print (printInt uid.toInt32.toInt))
  else if c = 117 then
    match e.user <|> uidToName uid with
    | some name => again ({ e with user := some name }.print name.bytes)
    | none => .returned none
  else .returned none

def formatLoop (uidToName : UInt32 → Option CString) (uid : UInt32) : Nat → Editing → Outcome
  | 0, _ => .unfinished
  | fuel + 1, e =>
    match strchr e.str e.p 37 with
    | none => .undefined
    | some none => (cstrAt e.str 0).elim .undefined fun s => .returned (some s)
    | some (some found) =>
      match e.str[found + 1]? with
      | none => .undefined
      | some c =>
        formatCode uidToName uid (formatLoop uidToName uid fuel) { e with p := found + 1 } c

/-- `get_formatted_string` of the C daemon. -/
def gpGetFormattedString (uidToName : UInt32 → Option CString) (orig : CString) (uid : UInt32) :
    Outcome :=
  formatLoop uidToName uid (orig.bytes.length + 2)
    { str := orig.bytes ++ [0], len := orig.bytes.length, p := 0, user := none }

/-! ## The loop ends -/

variable {e : Editing} {text : Bytes}

section

variable {uidToName : UInt32 → Option CString} {uid : UInt32}

theorem Editing.close_spec {e' : Editing} (h : e.close = some e') :
    e'.str.length = e.str.length ∧ e'.p = e.p ∧ e'.len = e.len - 1 := by
  obtain ⟨str, hm, heq⟩ := Option.bind_eq_some_iff.mp h
  cases heq
  exact ⟨length_memmove hm, rfl, rfl⟩

theorem Editing.print_spec {e' : Editing} (h : e.print text = some e') :
    e'.len + 1 = e'.str.length ∧ (e'.str.length : Int) - e'.p = e.len - e.p := by
  obtain ⟨rest, -, hif⟩ := Option.bind_eq_some_iff.mp h
  simp only at hif
  split at hif
  · rename_i hr
    cases hif
    simp only [List.length_append, List.length_singleton] at hr ⊢; omega
  · cases hif

variable {c : UInt8}

theorem formatCode_finished {loop : Editing → Outcome}
    (hc : ∀ e', e.close = some e' → loop e' ≠ .unfinished)
    (hp : ∀ user text e', { e with user }.print text = some e' → loop e' ≠ .unfinished) :
    formatCode uidToName uid loop e c ≠ .unfinished := by
  unfold formatCode
  split
  · cases hn : e.close with
    | none => exact nofun
    | some e' => exact hc e' hn
  split
  · cases hn : e.print (printInt uid.toInt32.toInt) with
    | none => exact nofun
    | some e' => exact hp e.user _ e' hn
  split
  · split
    · rename_i name _
      cases hn : { e with user := some name }.print name.bytes with
      | none => simp
      | some e' => simpa [hn] using hp (some name) _ e' hn
    · exact nofun
  · exact nofun

theorem formatLoop_finished (fuel : Nat) : ∀ e : Editing, e.len < e.str.length →
    e.str.length - e.p < fuel → formatLoop uidToName uid fuel e ≠ .unfinished := by
  induction fuel with
  | zero => omega
  | succ fuel ih =>
    intro e hl hfu
    rw [formatLoop]
    split
    · exact nofun
    · cases cstrAt e.str 0 <;> exact nofun
    · rename_i found hf
      have hle := le_of_strchr hf
      split
      · exact nofun
      rename_i c hg
      have hin : found + 1 < e.str.length := (List.getElem?_eq_some_iff.mp hg).1
      refine formatCode_finished ?_ ?_
      · intro e' hn
        obtain ⟨hs, hp, hl'⟩ := Editing.close_spec hn
        simp only at hs hp hl'
        exact ih e' (by omega) (by omega)
      · intro user text e' hn
        obtain ⟨hl', hlf⟩ := Editing.print_spec hn
        simp only at hlf
        exact ih e' (by omega) (by omega)

theorem gpGetFormattedString_finished (orig : CString) :
    gpGetFormattedString uidToName orig uid ≠ .unfinished := by
  have hl : (orig.bytes ++ [0]).length = orig.bytes.length + 1 := List.length_append
  refine formatLoop_finished _ _ ?_ ?_
  · simp only [hl]; omega
  · simp only [hl]; omega

end

theorem formatChars_eq {uidToName : UInt32 → Option String} {uid : UInt32} (rest out : List Char)
    (username : Option String) (hu : username = none ∨ username = uidToName uid) :
    formatChars uidToName uid rest out username =
      (charMarks.expand (charInserts uidToName uid) rest).map (out ++ ·) := by
  fun_induction formatChars uidToName uid rest out username with
  | case1 out username => simp
  | case2 rest out username ih =>
    exact (ih hu).trans (Marks.expand_insert rfl out rest).symm
  | case3 rest out username ih =>
    have hm : charMarks.insert (charInserts uidToName uid) 'U' = some (toString uid).toList :=
      congrArg some String.toList_ofList.symm
    exact (ih hu).trans (Marks.expand_insert hm out rest).symm
  | case4 rest out name ih =>
    have hn : some name = uidToName uid := hu.resolve_left (by simp)
    have hm : charMarks.insert (charInserts uidToName uid) 'u' = some name.toList :=
      congrArg (Option.map String.toList) hn.symm
    exact (ih hu).trans (Marks.expand_insert hm out rest).symm
  | case5 rest out name hn ih =>
    have hm : charMarks.insert (charInserts uidToName uid) 'u' = some name.toList :=
      congrArg (Option.map String.toList) hn
    exact (ih (.inr hn.symm)).trans (Marks.expand_insert hm out rest).symm
  | case6 rest out hno =>
    have hm : charMarks.insert (charInserts uidToName uid) 'u' = none :=
      congrArg (Option.map String.toList) hno
    exact (congrArg (Option.map (out ++ ·)) (Marks.expand_insert_none hm)).symm
  | case7 rest out username hp hnu hca hl =>
    -- nothing, or a character without a meaning
    cases rest with
    | nil => rfl
    | cons d rest =>
      have hm : charMarks.insert (charInserts uidToName uid) d = none := by
        have hd : d ≠ 'u' := by
          rintro rfl
          cases username with
          | none => exact hl rest rfl rfl
          | some name => exact hca rest name rfl rfl
        have hd' : d ≠ '%' := fun h => hp rest (h ▸ rfl)
        have hd'' : d ≠ 'U' := fun h => hnu rest (h ▸ rfl)
        unfold Marks.insert charMarks
        rw [if_neg hd', if_neg hd'', if_neg hd]
      exact (congrArg (Option.map (out ++ ·)) (Marks.expand_insert_none hm)).symm
  | case8 c rest out username _ _ _ _ hc ih =>
    exact (ih hu).trans (Marks.expand_plain (fun h => hc h) out rest).symm

theorem getFormattedString_reference (uidToName : UInt32 → Option String) (orig : String)
    (uid : UInt32) :
    getFormattedString uidToName orig uid =
      (charMarks.expand (charInserts uidToName uid) orig.toList).map String.ofList := by
  rw [getFormattedString, formatChars_eq _ _ _ (.inl rfl)]
  simp

theorem getFormattedString_eq (uidToName : UInt32 → Option String) (orig : String) (uid : UInt32) :
    rustPort.formattedString uidToName orig uid = getFormattedString uidToName orig uid := by
  have hlo : ∀ t out username, username = none ∨ username = uidToName uid →
      formatChars uidToName uid t out username =
        (Server.getFormattedString uidToName uid t).map (out ++ ·) := by
    intro t out username hu
    fun_induction formatChars uidToName uid t out username with
    | case1 out username => simp [Server.getFormattedString]
    | case2 rest out username ih =>
      rw [ih hu]
      simp [Server.getFormattedString, Function.comp_def]
    | case3 rest out username ih =>
      rw [ih hu]
      simp [Server.getFormattedString, Function.comp_def]
    | case4 rest out name ih =>
      have hn : some name = uidToName uid := hu.resolve_left (by simp)
      rw [ih hu]
      simp [Server.getFormattedString, Function.comp_def, ← hn]
    | case5 rest out name hn ih =>
      rw [ih (.inr hn.symm)]
      simp [Server.getFormattedString, Function.comp_def, hn]
    | case6 rest out hno => simp [Server.getFormattedString, hno]
    | case7 rest out username hp hnu hca hl =>
      have hn : ∀ tail, rest = 'u' :: tail → False := by
        intro tail hr
        cases username with
        | none => exact hl tail rfl hr
        | some name => exact hca tail name rfl hr
      rw [Server.getFormattedString.eq_5 _ _ _ hp hnu hn]; rfl
    | case8 c rest out username _ _ _ _ hc ih =>
      rw [ih hu, Server.getFormattedString.eq_6 _ _ _ _ (fun _ h => (hc h).elim)
        (fun _ h => (hc h).elim) (fun _ h => (hc h).elim) hc]
      simp [Function.comp_def]
  rw [getFormattedString, hlo _ _ _ (.inl rfl)]
  simp [rustPort]

/-! ## The C daemon expands -/

section

variable {uidToName : UInt32 → Option CString} {uid : UInt32}

/-- Where the C function is right, after `before` bytes: what is before a `%%` expands to one byte
    more than comes after it, and a user id that is printed is the same as a signed number. -/
structure Sound (uidToName : UInt32 → Option CString) (uid : UInt32) (before : Nat)
    (template : Bytes) : Prop where
  gap : ∀ front out rest, template = front ++ 37 :: 37 :: rest →
    byteMarks.expand (byteInserts uidToName uid) front = some out →
    before + out.length = rest.length + 1
  number : ∀ front out rest, template = front ++ 37 :: 85 :: rest →
    byteMarks.expand (byteInserts uidToName uid) front = some out → uid.toNat < 2147483648

structure Inserting (ins : Inserts UInt8) (uidToName : UInt32 → Option CString) (uid : UInt32)
    (before : Nat) (template : Bytes) : Prop where
  gap : ∀ front out rest, template = front ++ 37 :: 37 :: rest →
    byteMarks.expand ins front = some out → before + out.length = rest.length + 1
  number : ∀ front out rest, template = front ++ 37 :: 85 :: rest →
    byteMarks.expand ins front = some out → ins.number = printInt uid.toInt32.toInt
  name : ins.name = (uidToName uid).map CString.bytes

variable {ins : Inserts UInt8}

theorem Inserting.plain {before : Nat} {b : UInt8} {rest : Bytes}
    (h : Inserting ins uidToName uid before (b :: rest)) (hb : b ≠ 37) :
    Inserting ins uidToName uid (before + 1) rest := by
  have he : ∀ front out, byteMarks.expand ins front = some out →
      byteMarks.expand ins (b :: front) = some (b :: out) := by
    intro front out ho
    have hp : (byteMarks.expand ins (b :: front)).map ([] ++ ·) =
      (byteMarks.expand ins front).map ([] ++ [b] ++ ·) :=
      Marks.expand_plain hb [] front
    simpa [ho] using hp
  constructor
  · rintro front out tail rfl ho
    have hg := h.gap (b :: front) (b :: out) tail rfl (he front out ho)
    rw [List.length_cons] at hg; omega
  · rintro front out tail rfl ho
    exact h.number (b :: front) (b :: out) tail rfl (he front out ho)
  · exact h.name

theorem Inserting.insert {before : Nat} {d : UInt8} {rest : Bytes}
    (h : Inserting ins uidToName uid before (37 :: d :: rest))
    (hd : byteMarks.insert ins d = some text) :
    Inserting ins uidToName uid (before + text.length) rest := by
  have he : ∀ front out, byteMarks.expand ins front = some out →
      byteMarks.expand ins (37 :: d :: front) = some (text ++ out) := by
    intro front out ho
    have hi : (byteMarks.expand ins (37 :: d :: front)).map ([] ++ ·) =
      (byteMarks.expand ins front).map ([] ++ text ++ ·) :=
      Marks.expand_insert hd [] front
    simpa [ho] using hi
  constructor
  · rintro front out tail rfl ho
    have hg := h.gap (37 :: d :: front) (text ++ out) tail rfl (he front out ho)
    rw [List.length_append] at hg; omega
  · rintro front out tail rfl ho
    exact h.number (37 :: d :: front) (text ++ out) tail rfl (he front out ho)
  · exact h.name

theorem toNat_of_mem_toDigits {n : Nat} {c : Char} (hc : c ∈ Nat.toDigits 10 n) :
    48 ≤ c.toNat ∧ c.toNat ≤ 57 := by
  have hd := Nat.isDigit_of_mem_toDigits (by decide) (by decide) hc
  rw [Char.isDigit, Bool.and_eq_true, decide_eq_true_eq, decide_eq_true_eq] at hd
  exact ⟨UInt32.le_iff_toNat_le.mp hd.1, UInt32.le_iff_toNat_le.mp hd.2⟩

theorem digits_nonzero (n : Nat) : 0 ∉ digits n := by
  intro h
  obtain ⟨c, hc, hz⟩ := List.mem_map.mp h
  have hr := toNat_of_mem_toDigits hc
  have hn := congrArg UInt8.toNat hz
  rw [UInt8.toNat_ofNat', UInt8.toNat_zero] at hn
  omega

theorem printInt_nonzero (i : Int) : 0 ∉ printInt i := by
  cases i with
  | ofNat n => exact digits_nonzero n
  | negSucc n =>
    intro h
    rcases List.mem_cons.mp h with h | h
    · cases h
    · exact digits_nonzero _ h

theorem printInt_uid (h : uid.toNat < 2147483648) : printInt uid.toInt32.toInt = digits uid.toNat := by
  have hi : uid.toInt32.toInt = (uid.toNat : Int) := by
    rw [Int32.toInt, UInt32.toBitVec_toInt32, BitVec.toInt_eq_toNat_cond, UInt32.toNat_toBitVec,
      if_pos (by omega)]
  rw [hi]
  rfl

/-- The variables when `done` is expanded and `rest` to be read. -/
def Editing.between (done rest slack : Bytes) (user : Option CString) : Editing :=
  ⟨done ++ rest ++ 0 :: slack, done.length + rest.length, done.length, user⟩

def Editing.atCode (done : Bytes) (c : UInt8) (rest slack : Bytes) (user : Option CString) : Editing :=
  ⟨done ++ 37 :: c :: rest ++ 0 :: slack, done.length + rest.length + 2, done.length + 1, user⟩

variable {done rest slack : Bytes} {user : Option CString} {fuel : Nat}

theorem atCode_close (hg : done.length = rest.length + 1) :
    (Editing.atCode done 37 rest slack user).close =
      some (.between (done ++ [37]) rest (0 :: slack) user) := by
  have hs : done ++ 37 :: 37 :: rest ++ 0 :: slack = done ++ [37] ++ 37 :: (rest ++ 0 :: slack) := by
    simp
  have hm : memmove (done ++ [37] ++ 37 :: (rest ++ 0 :: slack)) (done ++ [37]).length
      ((done ++ [37]).length + 1) (rest.length + 1) = some (done ++ [37] ++ rest ++ 0 :: 0 :: slack) :=
    memmove_string
  rw [List.length_append, List.length_singleton] at hm
  have hn : done.length + 1 - 1 = rest.length + 1 := by omega
  simp only [Editing.close, Editing.atCode, hs, hn, hm]
  simp [Editing.between]
  omega

theorem atCode_print (hd : 0 ∉ done) (hr : 0 ∉ rest) :
    (Editing.atCode done c rest slack user).print text =
      some (.between (done ++ text) rest [] user) := by
  have hs : done ++ 37 :: c :: rest ++ 0 :: slack = done ++ [37, c] ++ rest ++ 0 :: slack := by simp
  have ht : cstrAt (done ++ [37, c] ++ rest ++ 0 :: slack) (done ++ [37, c]).length = some rest :=
    cstrAt_append hr
  have hl : (done ++ [37, c]).length = done.length + 1 + 1 := List.length_append
  have hf : precision (done ++ [37, c] ++ rest ++ 0 :: slack) done.length = done := by
    rw [List.append_assoc, List.append_assoc]; exact precision_append hd
  have hp : ((done ++ text ++ rest).length : Int) -
      (done.length + rest.length + 2 - (done.length + 1 + 1 : Nat)) =
      ((done.length + text.length : Nat) : Int) := by
    simp only [List.length_append]; omega
  rw [hl] at ht
  simp only [Editing.print, Editing.atCode, hs, ht, Option.bind_eq_bind, Option.bind_some,
    show done.length + 1 + 1 - 2 = done.length by omega, hf, hp]
  simp [Editing.between]
  omega

/-! ### Rounds of the loop -/

theorem formatLoop_plain {b : UInt8} (hb : b ≠ 37) (hz : b ≠ 0) :
    formatLoop uidToName uid (fuel + 1) (.between done (b :: rest) slack user) =
      formatLoop uidToName uid (fuel + 1) (.between (done ++ [b]) rest slack user) := by
  have hst : done ++ [b] ++ rest ++ 0 :: slack = done ++ b :: (rest ++ 0 :: slack) := by simp
  have hs : strchr (done ++ b :: (rest ++ 0 :: slack)) done.length 37 =
      strchr (done ++ b :: (rest ++ 0 :: slack)) (done.length + 1) 37 := strchr_skip hb hz
  have hbe : Editing.between done (b :: rest) slack user =
      { Editing.between (done ++ [b]) rest slack user with p := done.length } := by
    simp [Editing.between]
    omega
  rw [hbe]
  unfold formatLoop
  simp only [Editing.between, hst, hs, List.length_append, List.length_singleton]

theorem formatLoop_end (hd : 0 ∉ done) :
    formatLoop uidToName uid (fuel + 1) (.between done [] slack user) = .returned (some done) := by
  have he : strchr (done ++ 0 :: slack) done.length 37 = some none := strchr_end (by decide)
  have hs : cstrAt (done ++ 0 :: slack) 0 = some done := untilZero_append hd
  simp [formatLoop, Editing.between, he, hs]

theorem formatLoop_percent :
    formatLoop uidToName uid (fuel + 1) (.between done (37 :: c :: rest) slack user) =
      formatCode uidToName uid (formatLoop uidToName uid fuel) (.atCode done c rest slack user) c := by
  have hf : strchr (done ++ 37 :: c :: rest ++ 0 :: slack) done.length 37 =
      some (some done.length) := by
    rw [List.append_assoc]
    exact strchr_found
  have hg : (done ++ 37 :: c :: rest ++ 0 :: slack)[done.length + 1]? = some c := by simp
  rw [formatLoop]
  simp only [Editing.between, hf, hg, Editing.atCode, List.length_cons]
  congr 2

theorem formatLoop_percent_end :
    formatLoop uidToName uid (fuel + 1) (.between done [37] slack user) = .returned none := by
  have hf : strchr (done ++ [37] ++ 0 :: slack) done.length 37 = some (some done.length) := by
    rw [List.append_assoc]; exact strchr_found
  have hg : (done ++ [37] ++ 0 :: slack)[done.length + 1]? = some 0 := by simp
  rw [formatLoop]
  simp only [Editing.between, hf, hg]
  rfl

theorem formatCode_none {loop : Editing → Outcome}
    (hna : ins.name = (uidToName uid).map CString.bytes) (hc : byteMarks.insert ins c = none)
    (hu : e.user = none ∨ e.user = uidToName uid) :
    formatCode uidToName uid loop e c = .returned none := by
  have hp : c ≠ 37 := by rintro rfl; cases hc
  have hnu : c ≠ 85 := by rintro rfl; cases hc
  unfold formatCode
  rw [if_neg hp, if_neg hnu]
  split
  · rename_i hco
    subst hco
    have hn : uidToName uid = none := Option.map_eq_none_iff.mp (hna.symm.trans hc)
    have hu : e.user = none := hu.elim id fun h => h.trans hn
    simp only [hu, hn]; rfl
  · rfl

theorem formatCode_insert (loop : Editing → Outcome)
    (hc : byteMarks.insert ins c = some text) (hd : 0 ∉ done)
    (hr : 0 ∉ rest) (hu : user = none ∨ user = uidToName uid)
    (hs : Inserting ins uidToName uid done.length (37 :: c :: rest)) :
    0 ∉ text ∧ ∃ slack' user', (user' = none ∨ user' = uidToName uid) ∧
      formatCode uidToName uid loop (.atCode done c rest slack user) c =
        loop (.between (done ++ text) rest slack' user') := by
  by_cases hp : c = 37
  · subst hp
    cases hc
    have hg : done.length = rest.length + 1 := hs.gap [] [] rest rfl rfl
    refine ⟨by decide, 0 :: slack, user, hu, ?_⟩
    have hco : formatCode uidToName uid loop (.atCode done 37 rest slack user) 37 =
        (Editing.atCode done 37 rest slack user).close.elim .undefined loop := rfl
    rw [hco, atCode_close hg]; rfl
  by_cases hn : c = 85
  · subst hn
    cases hc
    have hpr : ins.number = printInt uid.toInt32.toInt := hs.number [] [] rest rfl rfl
    refine ⟨hpr ▸ printInt_nonzero _, [], user, hu, ?_⟩
    have hco : formatCode uidToName uid loop (.atCode done 85 rest slack user) 85 =
        ((Editing.atCode done 85 rest slack user).print (printInt uid.toInt32.toInt)).elim
          .undefined loop := rfl
    rw [hco, atCode_print hd hr, ← hpr]; rfl
  by_cases hna : c = 117
  · subst hna
    obtain ⟨name, hl, rfl⟩ := Option.map_eq_some_iff.mp (hs.name.symm.trans hc)
    have hk : (user <|> uidToName uid) = some name := by
      rcases hu with rfl | rfl
      · exact hl
      · rw [hl]; rfl
    refine ⟨name.nonzero, [], some name, .inr hl.symm, ?_⟩
    have hco : formatCode uidToName uid loop (.atCode done 117 rest slack user) 117 =
        ((Editing.atCode done 117 rest slack (some name)).print name.bytes).elim .undefined loop := by
      unfold formatCode
      simp only [Editing.atCode, hk]; rfl
    rw [hco, atCode_print hd hr]; rfl
  · have hno : byteMarks.insert ins c = none := by
      unfold Marks.insert byteMarks
      rw [if_neg hp, if_neg hn, if_neg hna]
    rw [hno] at hc; cases hc

theorem formatLoop_eq (n : Nat) : ∀ done rest slack user fuel, rest.length = n → n ≤ fuel →
    0 ∉ done → 0 ∉ rest → (user = none ∨ user = uidToName uid) →
    Inserting ins uidToName uid done.length rest →
    formatLoop uidToName uid (fuel + 1) (.between done rest slack user) =
      .returned ((byteMarks.expand ins rest).map (done ++ ·)) := by
  induction n using Nat.strong_induction_on with
  | _ n ih =>
    intro done rest slack user fuel hn hf hd hr hu hs
    subst hn
    cases rest with
    | nil => rw [formatLoop_end hd]; simp
    | cons b rest =>
      have hr' : 0 ∉ rest := fun h => hr (List.mem_cons_of_mem _ h)
      have hb0 : b ≠ 0 := fun h => hr (h ▸ List.mem_cons_self)
      by_cases hb : b = 37
      · subst hb
        cases rest with
        | nil => rw [formatLoop_percent_end]; rfl
        | cons c rest =>
          rw [formatLoop_percent]
          cases hc : byteMarks.insert ins c with
          | none =>
            rw [formatCode_none hs.name hc hu, show (37 : UInt8) = byteMarks.percent from rfl,
              Marks.expand_insert_none hc]
            rfl
          | some text =>
            have hr'' : 0 ∉ rest := fun h => hr' (List.mem_cons_of_mem _ h)
            rw [List.length_cons, List.length_cons] at hf
            obtain ⟨fuel, rfl⟩ : ∃ k, fuel = k + 1 := ⟨fuel - 1, by omega⟩
            obtain ⟨ht, slack', user', hu', hco⟩ :=
              formatCode_insert (formatLoop uidToName uid (fuel + 1)) hc hd hr'' hu hs
            have hsh : rest.length < (37 :: c :: rest).length := by
              simp only [List.length_cons]; omega
            have hne := ih rest.length hsh (done ++ text) rest slack' user' fuel rfl
              (by omega) (by simp [hd, ht]) hr'' hu' (by simpa using hs.insert hc)
            rw [hco, hne]
            exact congrArg _ (Marks.expand_insert hc done rest).symm
      · have hd' : 0 ∉ done ++ [b] := by simp [hd, hb0.symm]
        rw [List.length_cons] at hf
        have hne := ih rest.length (by simp) (done ++ [b]) rest slack user fuel rfl
          (by omega) hd' hr' hu (by simpa using hs.plain hb)
        rw [formatLoop_plain hb hb0, hne]
        exact congrArg _ (Marks.expand_plain hb done rest).symm

theorem gpGetFormattedString_inserting {orig : CString}
    (hi : Inserting ins uidToName uid 0 orig.bytes) :
    gpGetFormattedString uidToName orig uid = .returned (byteMarks.expand ins orig.bytes) := by
  have hl := formatLoop_eq orig.bytes.length [] orig.bytes [] none (orig.bytes.length + 1) rfl (Nat.le_succ _)
    (by simp) orig.nonzero (.inl rfl) hi
  have hs : (⟨orig.bytes ++ [0], orig.bytes.length, 0, none⟩ : Editing) =
      .between [] orig.bytes [] none := by
    simp [Editing.between]
  rw [gpGetFormattedString, hs, hl]
  simp

theorem gpGetFormattedString_eq {orig : CString} (hs : Sound uidToName uid 0 orig.bytes) :
    gpGetFormattedString uidToName orig uid =
      .returned (byteMarks.expand (byteInserts uidToName uid) orig.bytes) := by
  apply gpGetFormattedString_inserting
  refine ⟨hs.gap, ?_, rfl⟩
  intro front out rest hsp ho
  exact (printInt_uid (hs.number front out rest hsp ho)).symm

end

/-- **The expansion of a template.**  The Rust function is the expansion of its template on every
    input.  The C function is, if what comes before a `%%` that it gets to expands to one byte more
    than comes after, and the user id is below 2^31 or is not asked for. -/
theorem template_expansion (uid : UInt32) :
    (∀ (uidToName : UInt32 → Option String) (orig : String),
      getFormattedString uidToName orig uid =
        (charMarks.expand (charInserts uidToName uid) orig.toList).map String.ofList) ∧
    ∀ (uidToName : UInt32 → Option CString) (orig : CString), Sound uidToName uid 0 orig.bytes →
      gpGetFormattedString uidToName orig uid =
        .returned (byteMarks.expand (byteInserts uidToName uid) orig.bytes) :=
  ⟨fun uidToName orig => getFormattedString_reference uidToName orig uid,
    fun _ _ hsound => gpGetFormattedString_eq hsound⟩

def http : CString := ⟨[104, 116, 116, 112], by decide⟩

def balanced : CString := ⟨[37, 117, 37, 37, 97, 98, 99], by decide⟩

theorem balanced_sound : Sound (fun _ => some http) 48 0 balanced.bytes where
  gap := by
    rintro front out rest hs ho
    rcases front with _ | ⟨a, _ | ⟨b, _ | ⟨c, _ | ⟨d, _ | ⟨e, front⟩⟩⟩⟩⟩ <;>
      simp [balanced] at hs
    · obtain ⟨rfl, rfl, rfl⟩ := hs
      cases ho; rfl
    · have hm : (37 : UInt8) ∈ [98, 99] := by rw [hs.2.2.2.2.2]; simp
      simp at hm
  number _ _ _ _ _ := by decide

theorem balanced_expanded : Sound (fun _ => some http) 48 0 balanced.bytes ∧
    gpGetFormattedString (fun _ => some http) balanced 48 =
      .returned (some [104, 116, 116, 112, 37, 97, 98, 99]) :=
  ⟨balanced_sound, (template_expansion 48).2 _ _ balanced_sound⟩

/-- The C function makes `a%bb` of `a%%b`, and `-1` of `%U` for the greatest user id. -/
theorem gap_not_closed :
    gpGetFormattedString (fun _ => none) ⟨[97, 37, 37, 98], by decide⟩ 48 =
      .returned (some [97, 37, 98, 98]) ∧
    byteMarks.expand (byteInserts (fun _ => none) 48) [97, 37, 37, 98] = some [97, 37, 98] ∧
    gpGetFormattedString (fun _ => none) ⟨[37, 85], by decide⟩ 4294967295 =
      .returned (some [45, 49]) ∧
    byteMarks.expand (byteInserts (fun _ => none) 4294967295) [37, 85] =
      some [52, 50, 57, 52, 57, 54, 55, 50, 57, 53] := by
  decide

end GssProxy.Server.Format
