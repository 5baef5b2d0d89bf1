import GssProxy.Codec.CString
import GssProxy.Codec.FlagWord
import GssProxy.Codec.Strtoul
import GssProxy.Codec.Tokens

/-!
# Lists of flags in the configuration

`filter_flags` and `enforce_flags` are lists such as `+DELEGATE,-0x10`.  The C `parse_flags` gives
`strtok_r` and `strtoul` the same variable: after a number the next token is looked for in the same token.
The Rust function has its own idea of a number.

* `gpParseFlags_iff`, `parseFlags_iff`: when each gives the word that is meant.
-/

namespace GssProxy.Compat.Flags

open Codec

/-! ## Tokens and names -/

def isSeparator (b : UInt8) : Bool := b == 44 || b == 32

def ascii (s : String) : Bytes := s.toList.map fun c => UInt8.ofNat c.toNat

def flagNames : List (Bytes × UInt32) :=
  [(ascii "DELEGATE", 1), (ascii "MUTUAL_AUTH", 2), (ascii "REPLAY_DETECT", 4), (ascii "SEQUENCE", 8),
    (ascii "CONFIDENTIALITY", 16), (ascii "INTEGRITIY", 32), (ascii "ANONYMOUS", 64)]

def toLower (b : UInt8) : UInt8 := if 65 ≤ b ∧ b ≤ 90 then b + 32 else b

def sameLetters (s t : Bytes) : Bool := s.map toLower == t.map toLower

def flagNamed (name : Bytes) : Option UInt32 :=
  (flagNames.find? fun flag => sameLetters name flag.1).map Prod.snd

/-! ## What a list says -/

/-- What a token says, with this reading of numbers. -/
def tokenAction (read : Bytes → Option UInt32) : Bytes → Option FlagAction
  | [] => none
  | sign :: name =>
    if sign = 43 ∨ sign = 45 then (flagNamed name <|> read name).map (⟨sign == 43, ·⟩) else none

def applyToken (read : Bytes → Option UInt32) (w : UInt32) (token : Bytes) : UInt32 :=
  match tokenAction read token with
  | some action => FlagAction.apply w action
  | none => w

/-- What all tokens of a value make of a word. -/
def flagFold (read : Bytes → Option UInt32) (value : Bytes) (w : UInt32) : UInt32 :=
  (tokens isSeparator value).foldl (applyToken read) w

def readWord (name : Bytes) : Option Nat :=
  match scanNumber name with
  | some n => if n.size ≤ ULONG_MAX ∧ n.word ≠ 0 ∧ n.rest = [] then some n.word else none
  | none => none

/-- As `strtoul` reads it, cut to a word. -/
def readNumber (name : Bytes) : Option UInt32 := (readWord name).map UInt32.ofNat

def flagRound (token handle : Bytes) (w : UInt32) : Bytes × UInt32 :=
  match token with
  | [] => (handle, w)
  | sign :: name =>
    if sign = 43 ∨ sign = 45 then
      match flagNamed name with
      | some flagval => (handle, FlagAction.apply w ⟨sign == 43, flagval⟩)
      | none =>
        let (conv, handle) := strtoul name
        if conv = 0 ∨ conv = ULONG_MAX ∨ handle ≠ [] then (handle, w)
        else (handle, FlagAction.apply w ⟨sign == 43, UInt32.ofNat conv⟩)
    else (handle, w)

def flagLoop : Nat → Bytes → UInt32 → Option UInt32
  | 0, _, _ => none
  | fuel + 1, handle, w =>
    match strtok isSeparator handle with
    | none => some w
    | some (token, handle) =>
      let (handle, w) := flagRound token handle w
      flagLoop fuel handle w

/-- `parse_flags` of `gp_config.c`. -/
def gpParseFlags (value : CString) (storage : UInt32) : Option UInt32 :=
  flagLoop (value.bytes.length + 1) value.bytes storage

def afterPlus : Bytes → Bytes
  | 43 :: digits => digits
  | digits => digits

def fromStrRadix (radix : Nat) (s : Bytes) : Option UInt32 :=
  let digits := afterPlus s
  if digits ≠ [] ∧ digits.all (isDigitIn radix) ∧ numeral radix digits < 4294967296 then
    some (UInt32.ofNat (numeral radix digits))
  else none

def parseNumericFlag (s : Bytes) : Option UInt32 :=
  let parsed := match s with
    | 48 :: 120 :: hex => fromStrRadix 16 hex
    | 48 :: 88 :: hex => fromStrRadix 16 hex
    | s => fromStrRadix 10 s
  match parsed with
  | some v => if v ≠ 0 ∧ v ≠ 4294967295 then some v else none
  | none => none

/-- `parse_flags` of `config.rs`. -/
def parseFlags (value : Bytes) (storage : UInt32) : UInt32 :=
  (tokens isSeparator value).foldl (applyToken parseNumericFlag) storage

/-! ## How far the C daemon reads -/

def unnamed : Bytes → Bool
  | [] => false
  | sign :: name => (sign == 43 || sign == 45) && (flagNamed name).isNone

/-- The tokens made of the text behind a number, as long as each is signed and has no name. -/
def leftover : Nat → Bytes → List Bytes
  | 0, _ => []
  | n + 1, s =>
    if s = [] then []
    else s :: if unnamed s then leftover n (strtoul s.tail).2 else []

/-- The tokens that the C loop comes to. -/
def comesTo : List Bytes → List Bytes
  | [] => []
  | token :: rest =>
    token :: if unnamed token then leftover token.length (strtoul token.tail).2 else comesTo rest

def readBelowMax (name : Bytes) : Option UInt32 :=
  ((readWord name).filter (· ≠ ULONG_MAX)).map UInt32.ofNat

theorem readBelowMax_eq (name : Bytes) :
    readBelowMax name =
      if (strtoul name).1 = 0 ∨ (strtoul name).1 = ULONG_MAX ∨ (strtoul name).2 ≠ [] then none
      else some (UInt32.ofNat (strtoul name).1) := by
  unfold readBelowMax readWord strtoul
  cases scanNumber name with
  | none => simp
  | some n =>
    by_cases hs : ULONG_MAX < n.size
    · simp [hs, Nat.not_le.mpr hs]
    simp only [hs, if_false, Nat.not_lt.mp hs, true_and]
    by_cases hz : n.word = 0
    · simp [hz]
    by_cases hr : n.rest = []
    · by_cases hm : n.word = ULONG_MAX
      · simp [hr, hm]
      · simp [hz, hr, hm]
    · simp [hr]

theorem flagRound_eq (token handle : Bytes) (w : UInt32) :
    flagRound token handle w =
      (if unnamed token then (strtoul token.tail).2 else handle, applyToken readBelowMax w token) := by
  cases token with
  | nil => rfl
  | cons sign name =>
    by_cases hs : sign = 43 ∨ sign = 45
    · have hsi : (sign == 43 || sign == 45) = true := by simpa using hs
      simp only [flagRound, applyToken, tokenAction, unnamed, hs, hsi, if_true, List.tail_cons,
        Bool.true_and]
      cases hn : flagNamed name with
      | some flagval => simp
      | none =>
        simp only [Option.isNone_none, if_true, readBelowMax_eq]
        split <;> rfl
    · have hu : (sign == 43 || sign == 45) = false := by simpa using hs
      simp [flagRound, applyToken, tokenAction, unnamed, hs, hu]

theorem foldl_applyToken (read : Bytes → Option UInt32) (ts : List Bytes) (w : UInt32) :
    ts.foldl (applyToken read) w = FlagAction.applyAll w (ts.filterMap (tokenAction read)) := by
  induction ts generalizing w with
  | nil => rfl
  | cons t ts ih =>
    rw [List.foldl_cons, ih, applyToken]
    cases ha : tokenAction read t with
    | none => rw [List.filterMap_cons_none ha]
    | some action => rw [List.filterMap_cons_some ha, FlagAction.applyAll, FlagAction.applyAll,
        List.foldl_cons]

theorem flagLoop_leftover (fuel : Nat) : ∀ n s w, (∀ c ∈ s, isSeparator c = false) → s.length ≤ n →
    s.length < fuel → flagLoop fuel s w = some ((leftover n s).foldl (applyToken readBelowMax) w) := by
  induction fuel with
  | zero => omega
  | succ fuel ih =>
    intro n s w hs hn hf
    by_cases hne : s = []
    · subst hne
      have hl : leftover n [] = [] := by cases n <;> rfl
      rw [hl]; rfl
    have hle := List.length_pos_iff.mpr hne
    obtain ⟨n, rfl⟩ : ∃ k, n = k + 1 := ⟨n - 1, by omega⟩
    rw [flagLoop, strtok_eq_self hne hs, leftover, if_neg hne]
    simp only [flagRound_eq, List.foldl_cons]
    by_cases hun : unnamed s = true
    · have hsu := (strtoul_suffix s.tail).trans (List.tail_suffix s)
      have hsh := (strtoul_suffix s.tail).length_le
      rw [List.length_tail] at hsh
      rw [if_pos hun, if_pos hun]
      exact ih n _ _ (fun c hc => hs c (hsu.subset hc)) (by omega) (by omega)
    · rw [if_neg hun, if_neg hun]
      exact ih 0 [] _ (by simp) (by simp) (by simp; omega)

theorem flagLoop_comesTo (fuel : Nat) : ∀ s w, s.length < fuel → flagLoop fuel s w =
      some ((comesTo (tokens isSeparator s)).foldl (applyToken readBelowMax) w) := by
  induction fuel with
  | zero => omega
  | succ fuel ih =>
    intro s w hf
    rw [flagLoop]
    cases ht : strtok isSeparator s with
    | none => rw [tokens_of_strtok_none ht]; rfl
    | some found =>
      obtain ⟨token, rest⟩ := found
      obtain ⟨hne, hto, hl, hsp⟩ := strtok_spec ht
      have hp := List.length_pos_iff.mpr hne
      simp only [flagRound_eq, hsp, comesTo, List.foldl_cons]
      by_cases hun : unnamed token = true
      · have hs := (strtoul_suffix token.tail).trans (List.tail_suffix token)
        have hsh := (strtoul_suffix token.tail).length_le
        rw [List.length_tail] at hsh
        rw [if_pos hun, if_pos hun]
        exact flagLoop_leftover fuel _ _ _ (fun c hc => hto c (hs.subset hc)) (by omega)
          (by omega)
      · rw [if_neg hun, if_neg hun]; exact ih rest _ (by omega)

/-- **Flags in the C daemon.**  The function does what all of the tokens say if and only if every bit is
    settled by them as it is by the tokens that the loop comes to, among them no number that is the
    greatest word. -/
theorem gpParseFlags_iff (value : CString) (storage : UInt32) :
    gpParseFlags value storage = some (flagFold readNumber value.bytes storage) ↔ ∀ b < 32,
        FlagAction.settled storage
          ((comesTo (tokens isSeparator value.bytes)).filterMap (tokenAction readBelowMax)) b =
        FlagAction.settled storage
          ((tokens isSeparator value.bytes).filterMap (tokenAction readNumber)) b := by
  rw [gpParseFlags, flagLoop_comesTo _ _ _ (Nat.lt_succ_self _), flagFold, foldl_applyToken,
    foldl_applyToken, Option.some.injEq]
  exact FlagAction.applyAll_eq_iff

/-- A flag after a number, as in the manual page for `filter_flags`, or after an unknown name is not
    set; one behind a number in the same token is. -/
theorem flag_after_number_lost :
    gpParseFlags ⟨ascii "-0x0001 +ANONYMOUS", by decide⟩ 1 = some 0 ∧
      flagFold readNumber (ascii "-0x0001 +ANONYMOUS") 1 = 64 ∧
    gpParseFlags ⟨ascii "+DELEG, -MUTUAL_AUTH", by decide⟩ 2 = some 2 ∧
      flagFold readNumber (ascii "+DELEG, -MUTUAL_AUTH") 2 = 0 ∧
    gpParseFlags ⟨ascii "+12+DELEGATE", by decide⟩ 0 = some 1 ∧
      flagFold readNumber (ascii "+12+DELEGATE") 0 = 0 := by
  decide

/-! ## Numbers in the Rust daemon -/

def numeralOf (base : Nat) (digits : Bytes) : Option Nat :=
  if digits ≠ [] ∧ digits.all (isDigitIn base) then some (numeral base digits) else none

def plainWord : Bytes → Option Nat
  | 48 :: 120 :: s => numeralOf 16 (afterPlus s)
  | 48 :: 88 :: s => numeralOf 16 (afterPlus s)
  | s => numeralOf 10 (afterPlus s)

/-- As the Rust function reads it. -/
def plainNumber (name : Bytes) : Option UInt32 :=
  ((plainWord name).filter fun v => 0 < v ∧ v < 4294967295).map UInt32.ofNat

theorem ofNat_ne_iff {n m : Nat} (hn : n < 4294967296) (hm : m < 4294967296) :
    UInt32.ofNat n ≠ UInt32.ofNat m ↔ n ≠ m := by
  rw [ne_eq, ← UInt32.toNat_inj, UInt32.toNat_ofNat', UInt32.toNat_ofNat', Nat.mod_eq_of_lt hn,
    Nat.mod_eq_of_lt hm]

theorem parseNumericFlag_radix (radix : Nat) (s : Bytes) :
    (match fromStrRadix radix s with
      | some v => if v ≠ 0 ∧ v ≠ 4294967295 then some v else none
      | none => none) =
    ((numeralOf radix (afterPlus s)).filter fun v => 0 < v ∧ v < 4294967295).map UInt32.ofNat := by
  simp only [fromStrRadix, numeralOf]
  by_cases hd : afterPlus s ≠ [] ∧ (afterPlus s).all (isDigitIn radix) = true
  · rw [if_pos hd]
    generalize numeral radix (afterPlus s) = n
    by_cases hn : n < 4294967296
    · rw [if_pos ⟨hd.1, hd.2, hn⟩]
      have hz : UInt32.ofNat n ≠ 0 ↔ n ≠ 0 := ofNat_ne_iff hn (by decide)
      have hm : UInt32.ofNat n ≠ 4294967295 ↔ n ≠ 4294967295 := ofNat_ne_iff hn (by decide)
      simp only [hz, hm, Option.filter_some]
      by_cases hr : 0 < n ∧ n < 4294967295
      · rw [if_pos ⟨by omega, by omega⟩, if_pos (by simpa using hr)]; rfl
      · rw [if_neg (by omega), if_neg (by simpa using hr)]; rfl
    · rw [if_neg (fun h => hn h.2.2), Option.filter_some,
        if_neg (by simp only [decide_eq_true_eq]; omega)]
      rfl
  · rw [if_neg hd, if_neg (fun h => hd ⟨h.1, h.2.1⟩)]; rfl

theorem parseNumericFlag_eq (name : Bytes) : parseNumericFlag name = plainNumber name := by
  unfold parseNumericFlag plainNumber plainWord
  split
  · exact parseNumericFlag_radix 16 _
  · exact parseNumericFlag_radix 16 _
  · exact parseNumericFlag_radix 10 _

/-! ### Numbers that both read alike -/

def bits (n : Option UInt32) : UInt32 := n.getD 0

/-- The size of a number that both notations read alike. -/
def ReadAlike (n : Nat) : Prop := n < 4294967295 ∨ ULONG_MAX < n ∨ n % 4294967296 = 0

theorem bits_alike_iff {name : Bytes} {n : Nat} (hp : plainWord name = some n)
    (hr : scanNumber name = some ⟨false, n, []⟩) :
    bits (plainNumber name) = bits (readNumber name) ↔ ReadAlike n := by
  have hw : readWord name = if n ≤ ULONG_MAX ∧ n ≠ 0 then some n else none := by
    simp [readWord, hr, Scanned.word]
  have hm : 4294967295 < ULONG_MAX := by decide
  have hz : (0 : UInt32) = UInt32.ofNat n ↔ n % 4294967296 = 0 := by
    rw [← UInt32.toNat_inj, eq_comm]; rfl
  unfold plainNumber readNumber
  grind [bits, ReadAlike]

theorem isDigitIn_ten {b : UInt8} (h : isDigitIn 10 b = true) : 48 ≤ b ∧ b ≤ 57 := by
  grind [isDigitIn, digitValue, UInt8.le_iff_toNat_le]

variable {digits : Bytes}

theorem scanNumber_decimal {name : Bytes} {d : UInt8} (hn : afterPlus name = d :: digits)
    (hd : d ≠ 48) (hdi : (d :: digits).all (isDigitIn 10) = true) :
    scanNumber name = some ⟨false, numeral 10 (d :: digits), []⟩ := by
  have ht : isDigitIn 10 d = true := List.all_eq_true.mp hdi d List.mem_cons_self
  obtain ⟨hl, hh⟩ := isDigitIn_ten ht
  have hba : numberBase (d :: digits) = (10, d :: digits) := by
    unfold numberBase
    split <;> simp_all
  have hs : scanDigits false (d :: digits) = some ⟨false, numeral 10 (d :: digits), []⟩ :=
    scanDigits_of_all hba (by simp) hdi
  have hb : ¬ isBlank d = true := by grind [isBlank, UInt8.le_iff_toNat_le]
  unfold afterPlus at hn
  split at hn
  · subst hn; exact hs
  subst hn
  unfold scanNumber
  rw [List.dropWhile_cons_of_neg hb]
  -- neither sign is a digit
  split <;> grind

theorem scanNumber_hex {x : UInt8} (hx : x = 120 ∨ x = 88) (hne : digits ≠ [])
    (hd : digits.all (isDigitIn 16) = true) :
    scanNumber (48 :: x :: digits) = some ⟨false, numeral 16 digits, []⟩ := by
  cases digits with
  | nil => exact (hne rfl).elim
  | cons d digits =>
    have hs : isDigitIn 16 d = true := List.all_eq_true.mp hd d List.mem_cons_self
    have hb : numberBase (48 :: x :: d :: digits) = (16, d :: digits) := if_pos ⟨hx, hs⟩
    exact scanDigits_of_all hb hne hd

theorem decimal_alike_iff {name : Bytes} {d : UInt8} (hn : afterPlus name = d :: digits)
    (hd : d ≠ 48) (hdi : (d :: digits).all (isDigitIn 10) = true) :
    bits (plainNumber name) = bits (readNumber name) ↔ ReadAlike (numeral 10 (d :: digits)) := by
  have hp : plainWord name = numeralOf 10 (afterPlus name) := by
    unfold plainWord
    split <;> simp_all [afterPlus]
  have hw : plainWord name = some (numeral 10 (d :: digits)) := by
    rw [hp, hn, numeralOf, if_pos ⟨by simp, hdi⟩]
  exact bits_alike_iff hw (scanNumber_decimal hn hd hdi)

theorem hex_alike_iff {x : UInt8} (hx : x = 120 ∨ x = 88) (hne : digits ≠ [])
    (hd : digits.all (isDigitIn 16) = true) :
    bits (plainNumber (48 :: x :: digits)) = bits (readNumber (48 :: x :: digits)) ↔
      ReadAlike (numeral 16 digits) := by
  have hp : afterPlus digits = digits := by
    unfold afterPlus
    split
    · cases hd
    · rfl
  have hw : plainWord (48 :: x :: digits) = some (numeral 16 digits) := by
    have hn : numeralOf 16 (afterPlus digits) = some (numeral 16 digits) := by
      rw [hp, numeralOf, if_pos ⟨hne, hd⟩]
    rcases hx with rfl | rfl <;> exact hn
  exact bits_alike_iff hw (scanNumber_hex hx hne hd)

/-- **Flags in the Rust daemon.**  The function does what the tokens say, with numbers as `strtoul` reads
    them, if and only if every bit is settled alike by the numbers in plain notation.  A decimal number without
    leading zero, and a hexadecimal one without inner sign, is read alike if and only if it is below
    2^32 - 1, or overflows 64 bits, or has no bit in its lower half. -/
theorem parseFlags_iff (value : Bytes) (storage : UInt32) :
    (parseFlags value storage = flagFold readNumber value storage ↔ ∀ b < 32,
        FlagAction.settled storage
          ((tokens isSeparator value).filterMap (tokenAction plainNumber)) b =
        FlagAction.settled storage
          ((tokens isSeparator value).filterMap (tokenAction readNumber)) b) ∧
    (∀ name d digits, afterPlus name = d :: digits → d ≠ 48 → (d :: digits).all (isDigitIn 10) = true →
      (bits (plainNumber name) = bits (readNumber name) ↔ ReadAlike (numeral 10 (d :: digits)))) ∧
    ∀ x digits, x = 120 ∨ x = 88 → digits ≠ [] → digits.all (isDigitIn 16) = true →
      (bits (plainNumber (48 :: x :: digits)) = bits (readNumber (48 :: x :: digits)) ↔
        ReadAlike (numeral 16 digits)) := by
  refine ⟨?_, fun _ _ _ => decimal_alike_iff, fun _ _ => hex_alike_iff⟩
  rw [parseFlags, flagFold, foldl_applyToken, foldl_applyToken, funext parseNumericFlag_eq]
  exact FlagAction.applyAll_eq_iff

/-- The Rust daemon takes an octal number for decimal, ignores a number with all bits or with bits
    in its lower half, and reads a sign that `strtoul` does not. -/
theorem octal_read_as_decimal :
    parseFlags (ascii "+010") 0 = 10 ∧ flagFold readNumber (ascii "+010") 0 = 8 ∧
    parseFlags (ascii "+0xffffffff") 0 = 0 ∧
      flagFold readNumber (ascii "+0xffffffff") 0 = 4294967295 ∧
    parseFlags (ascii "+0x100000002") 0 = 0 ∧ flagFold readNumber (ascii "+0x100000002") 0 = 2 ∧
    parseFlags (ascii "+0x+2") 0 = 2 ∧ flagFold readNumber (ascii "+0x+2") 0 = 0 := by
  decide

end GssProxy.Compat.Flags
