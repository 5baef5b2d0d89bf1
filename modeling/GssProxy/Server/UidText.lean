import GssProxy.Server.Format

/-!
# User ids in names

A trusted service names a user by a user id in text, which the C daemon reads with `atol` and the Rust
daemon with a loop of its own.

* `leadingUid_alike_iff`: on which texts the two agree.
-/

namespace GssProxy.Server

open Codec Server.Format

/-! ## Numbers in a text -/

def decimal (digits : Bytes) : Nat := digits.foldl (fun v b => v * 10 + (b.toNat - 48)) 0

def leadingNumber (s : Bytes) : Nat := decimal (s.takeWhile isDigit)

def isBlank (b : UInt8) : Bool := b == 32 || b == 9

def numbersFrom (number : Option Nat) : Bytes → List Nat
  | [] => number.toList
  | b :: rest =>
    if isDigit b then numbersFrom (some (number.getD 0 * 10 + (b.toNat - 48))) rest
    else if isBlank b then number.toList ++ numbersFrom none rest
    else number.toList

def firstUid : List Nat → Nat
  | [] => 0
  | n :: rest => if n % 4294967296 = 0 then firstUid rest else n % 4294967296

/-! ## The Rust daemon -/

theorem firstUid_toList_append (number : Option Nat) (rest : List Nat) :
    firstUid (number.toList ++ rest) =
      if number.getD 0 % 4294967296 = 0 then firstUid rest else number.getD 0 % 4294967296 := by
  cases number with
  | none => rfl
  | some n => rfl

variable {b : UInt8}

theorem isDigit_iff : isDigit b = true ↔ 48 ≤ b.toNat ∧ b.toNat ≤ 57 := by
  rw [isDigit, Bool.and_eq_true, decide_eq_true_eq, decide_eq_true_eq]
  rfl

theorem ofNat_digit (hb : isDigit b = true) (v : Nat) :
    UInt32.ofNat v * 10 + (b - 48).toUInt32 = UInt32.ofNat (v * 10 + (b.toNat - 48)) := by
  have hd : (b - 48).toNat = b.toNat - 48 :=
    UInt8.toNat_sub_of_le _ _ (UInt8.le_iff_toNat_le.mpr (isDigit_iff.mp hb).1)
  apply UInt32.toNat_inj.mp
  rw [UInt32.toNat_add, UInt32.toNat_mul, UInt8.toNat_toUInt32, UInt32.toNat_ofNat',
    UInt32.toNat_ofNat', show (10 : UInt32).toNat = 10 from rfl]
  omega

theorem toNat_ofNat_number (number : Option Nat) :
    (UInt32.ofNat (number.getD 0)).toNat = firstUid number.toList := by
  have ha := firstUid_toList_append number []
  rw [List.append_nil] at ha
  rw [ha]
  split
  · assumption
  · rfl

theorem parseLeadingUid_eq (number : Option Nat) (s : Bytes) :
    (parseLeadingUid (UInt32.ofNat (number.getD 0)) s).toNat = firstUid (numbersFrom number s) := by
  induction s generalizing number with
  | nil => exact toNat_ofNat_number number
  | cons b rest ih =>
    have hz : UInt32.ofNat (number.getD 0) = 0 ↔ number.getD 0 % 4294967296 = 0 := by
      rw [← UInt32.toNat_inj, UInt32.toNat_ofNat', UInt32.toNat_zero]
    rw [parseLeadingUid, numbersFrom]
    by_cases hd : isDigit b = true
    · rw [if_pos hd, if_pos hd, ofNat_digit hd]
      exact ih (some (number.getD 0 * 10 + (b.toNat - 48)))
    rw [if_neg hd, if_neg hd]
    by_cases hb : isBlank b = true
    · have hb' : b = 32 ∨ b = 9 := by simpa [isBlank] using hb
      rw [if_pos hb, firstUid_toList_append]
      by_cases hv : number.getD 0 % 4294967296 = 0
      · rw [if_pos ⟨hz.mpr hv, hb'⟩, if_pos hv, hz.mpr hv]; exact ih none
      · rw [if_neg (fun h => hv (hz.mp h.1)), if_neg hv, UInt32.toNat_ofNat']
    · have hb' : ¬ (b = 32 ∨ b = 9) := by simpa [isBlank] using hb
      rw [if_neg (fun h => hb' h.2), if_neg hb]
      exact toNat_ofNat_number number

theorem not_isDigit_of_isSpace (hb : isSpace b = true) : ¬ isDigit b = true := by
  intro hd
  have hr := isDigit_iff.mp hd
  have hs : b.toNat = 32 ∨ 9 ≤ b.toNat ∧ b.toNat ≤ 13 := by
    simp only [isSpace, Bool.or_eq_true, beq_iff_eq, Bool.and_eq_true, decide_eq_true_eq,
      UInt8.le_iff_toNat_le] at hb
    rcases hb with rfl | hb
    · exact .inl rfl
    · exact .inr hb
  omega

theorem numbersFrom_space {space : Bytes} (hs : ∀ b ∈ space, isSpace b = true) (rest : Bytes) :
    numbersFrom none (space ++ rest) = if space.all isBlank then numbersFrom none rest else [] := by
  induction space with
  | nil => rfl
  | cons b space ih =>
    have hb := not_isDigit_of_isSpace (hs b List.mem_cons_self)
    rw [List.cons_append, numbersFrom, if_neg hb, List.all_cons]
    by_cases hbl : isBlank b = true
    · rw [ih fun c hc => hs c (List.mem_cons_of_mem _ hc), hbl]; rfl
    · rw [Bool.eq_false_iff.mpr hbl]; rfl

theorem numbersFrom_digits (v : Nat) (s : Bytes) :
    numbersFrom (some v) s = (s.takeWhile isDigit).foldl (fun v b => v * 10 + (b.toNat - 48)) v ::
        numbersFrom none (s.dropWhile isDigit) := by
  induction s generalizing v with
  | nil => rfl
  | cons b rest ih =>
    by_cases hb : isDigit b = true
    · rw [numbersFrom, if_pos hb, List.takeWhile_cons_of_pos hb, List.dropWhile_cons_of_pos hb]
      exact ih _
    · rw [numbersFrom, if_neg hb, List.takeWhile_cons_of_neg hb, List.dropWhile_cons_of_neg hb,
        numbersFrom]
      split <;> rfl

theorem firstUid_numbersFrom (s : Bytes) :
    firstUid (numbersFrom none s) =
      firstUid (leadingNumber s :: numbersFrom none (s.dropWhile isDigit)) := by
  cases s with
  | nil => rfl
  | cons b rest =>
    by_cases hb : isDigit b = true
    · rw [numbersFrom, if_pos hb, numbersFrom_digits, leadingNumber, List.takeWhile_cons_of_pos hb,
        List.dropWhile_cons_of_pos hb]
      rfl
    · rw [leadingNumber, List.takeWhile_cons_of_neg hb, List.dropWhile_cons_of_neg hb]; rfl

theorem parseLeadingUid_spec (s : Bytes) :
    (parseLeadingUid 0 s).toNat =
      if (s.takeWhile isSpace).all isBlank then
        firstUid (leadingNumber (s.dropWhile isSpace) ::
          numbersFrom none ((s.dropWhile isSpace).dropWhile isDigit))
      else 0 := by
  have hs : ∀ b ∈ s.takeWhile isSpace, isSpace b = true := fun b hb => List.mem_takeWhile_imp hb
  have hn := numbersFrom_space hs (s.dropWhile isSpace)
  rw [List.takeWhile_append_dropWhile] at hn
  have hp : (parseLeadingUid 0 s).toNat = firstUid (numbersFrom none s) := parseLeadingUid_eq none s
  rw [hp, hn]
  split
  · exact firstUid_numbersFrom _
  · rfl

theorem toNat_ofInt (i : Int) : (UInt32.ofInt i).toNat = (i % 4294967296).toNat := by
  rw [UInt32.ofInt, UInt32.toNat_ofNat']
  omega

theorem digitsValue_takeWhile (s : Bytes) :
    digitsValue (s.takeWhile isDigit) = (leadingNumber s : Int) := by
  have hf : ∀ (digits : Bytes) (v : Nat), (∀ b ∈ digits, isDigit b = true) →
      digits.foldl (fun v b => v * 10 + (b.toNat - 48 : Int)) (v : Int) =
        (digits.foldl (fun v b => v * 10 + (b.toNat - 48)) v : Nat) := by
    intro digits
    induction digits with
    | nil => intro v _; rfl
    | cons b digits ih =>
      intro v hd
      have hb := (isDigit_iff.mp (hd b List.mem_cons_self)).1
      have hs : (v : Int) * 10 + (b.toNat - 48 : Int) = ((v * 10 + (b.toNat - 48) : Nat) : Int) := by
        omega
      rw [List.foldl_cons, hs]
      exact ih _ fun c hc => hd c (List.mem_cons_of_mem _ hc)
  exact hf _ 0 fun b hb => List.mem_takeWhile_imp hb

/-! ## Where they read the same -/

/-- Where both read the same after white space, all of it blanks if `blanks`.  At a sign or other
    white space the Rust daemon stops, and the C daemon has to read a zero.  Otherwise the number is
    below 2^63 and either not zero as a user id or followed only by such; or it saturates, and is
    read as the greatest user id. -/
def AlikeAfter (blanks : Bool) : Bytes → Prop
  | 45 :: rest => 9223372036854775808 ≤ leadingNumber rest ∨ leadingNumber rest % 4294967296 = 0
  | 43 :: rest => leadingNumber rest < 9223372036854775808 ∧ leadingNumber rest % 4294967296 = 0
  | rest =>
    if blanks then
      if leadingNumber rest < 9223372036854775808 then
        leadingNumber rest % 4294967296 ≠ 0 ∨
          ∀ n ∈ numbersFrom none (rest.dropWhile isDigit), n % 4294967296 = 0
      else firstUid (leadingNumber rest :: numbersFrom none (rest.dropWhile isDigit)) = 4294967295
    else leadingNumber rest < 9223372036854775808 ∧ leadingNumber rest % 4294967296 = 0

/-- Both daemons read the same user id. -/
def Alike (s : Bytes) : Prop :=
  AlikeAfter ((s.takeWhile isSpace).all isBlank) (s.dropWhile isSpace)

theorem firstUid_eq_zero_iff (numbers : List Nat) :
    firstUid numbers = 0 ↔ ∀ n ∈ numbers, n % 4294967296 = 0 := by
  induction numbers with
  | nil => simp [firstUid]
  | cons n numbers ih =>
    rw [firstUid, List.forall_mem_cons]
    split
    · rename_i hn
      rw [ih, and_iff_right hn]
    · rename_i hn
      exact ⟨fun h => absurd h hn, fun h => absurd h.1 hn⟩

theorem sign_cases {motive : Bytes → Prop} (minus : ∀ rest, motive (45 :: rest))
    (plus : ∀ rest, motive (43 :: rest))
    (plain : ∀ s, (∀ rest, s ≠ 45 :: rest) → (∀ rest, s ≠ 43 :: rest) → motive s) (s : Bytes) : motive s := by
  by_cases hm : ∃ rest, s = 45 :: rest
  · obtain ⟨rest, rfl⟩ := hm; exact minus rest
  by_cases hp : ∃ rest, s = 43 :: rest
  · obtain ⟨rest, rfl⟩ := hp; exact plus rest
  · exact plain s (fun rest h => hm ⟨rest, h⟩) fun rest h => hp ⟨rest, h⟩

theorem leadingUid_alike_iff (s : Bytes) : UInt32.ofInt (atol s) = parseLeadingUid 0 s ↔ Alike s := by
  rw [← UInt32.toNat_inj, toNat_ofInt, parseLeadingUid_spec]
  unfold atol Alike
  simp only [digitsValue_takeWhile]
  generalize (s.takeWhile isSpace).all isBlank = blanks
  generalize s.dropWhile isSpace = text
  have hs {b : UInt8} (hd : ¬ isDigit b = true) (hb : ¬ isBlank b = true) (rest : Bytes) :
      (if blanks then
        firstUid (leadingNumber (b :: rest) :: numbersFrom none ((b :: rest).dropWhile isDigit))
      else 0) = 0 := by
    rw [← firstUid_numbersFrom, numbersFrom, if_neg hd, if_neg hb]
    exact ite_self 0
  induction text using sign_cases with
  | minus rest =>
    rw [hs (by decide) (by decide)]
    show (max (-(leadingNumber rest : Int)) (-9223372036854775808) % 4294967296).toNat = 0 ↔
      9223372036854775808 ≤ leadingNumber rest ∨ leadingNumber rest % 4294967296 = 0
    omega
  | plus rest =>
    rw [hs (by decide) (by decide)]
    show (min (leadingNumber rest : Int) 9223372036854775807 % 4294967296).toNat = 0 ↔
      leadingNumber rest < 9223372036854775808 ∧ leadingNumber rest % 4294967296 = 0
    omega
  | plain text hm hp =>
    rw [AlikeAfter.eq_3 blanks text hm hp]
    split
    · exact absurd rfl (hm _)
    · exact absurd rfl (hp _)
    have hl := firstUid_eq_zero_iff (numbersFrom none (text.dropWhile isDigit))
    cases blanks with
    | false => simp only [Bool.false_eq_true, if_false]; omega
    | true =>
      simp only [if_true, firstUid, ← hl]
      split_ifs <;> omega

instance (blanks : Bool) (s : Bytes) : Decidable (AlikeAfter blanks s) := by
  unfold AlikeAfter
  split <;> infer_instance

instance (s : Bytes) : Decidable (Alike s) := inferInstanceAs (Decidable (AlikeAfter _ _))

/-- White space that is not a blank, a blank after zeros, a sign and a number that saturates are read
    differently. -/
example : ¬ Alike [10, 49] ∧ ¬ Alike [48, 32, 53] ∧ ¬ Alike [45, 49] ∧
    ¬ Alike [57, 57, 57, 57, 57, 57, 57, 57, 57, 57, 57, 57, 57, 57, 57, 57, 57, 57, 57, 57] := by
  decide

/-! ## Decimal numbers -/

theorem toNat_digit {n : Nat} {c : Char} (hc : c ∈ Nat.toDigits 10 n) :
    (UInt8.ofNat c.toNat).toNat = c.toNat ∧ isDigit (UInt8.ofNat c.toNat) = true := by
  have hr := toNat_of_mem_toDigits hc
  have hb : (UInt8.ofNat c.toNat).toNat = c.toNat := by rw [UInt8.toNat_ofNat']; omega
  exact ⟨hb, isDigit_iff.mpr (by omega)⟩

theorem isDigit_of_mem_digits {n : Nat} (hb : b ∈ digits n) : isDigit b = true := by
  obtain ⟨c, hc, rfl⟩ := List.mem_map.mp hb
  exact (toNat_digit hc).2

theorem decimal_digits (n : Nat) : decimal (digits n) = n := by
  have hf : ∀ (l : List Char) (v : Nat), (∀ c ∈ l, c ∈ Nat.toDigits 10 n) →
      (l.map fun c => UInt8.ofNat c.toNat).foldl (fun v b => v * 10 + (b.toNat - 48)) v =
        Nat.ofDigitChars 10 l v := by
    intro l
    induction l with
    | nil => intro v _; rfl
    | cons c l ih =>
      intro v hl
      rw [List.map_cons, List.foldl_cons, (toNat_digit (hl c List.mem_cons_self)).1,
        ih _ fun d hd => hl d (List.mem_cons_of_mem _ hd), Nat.mul_comm]
      rfl
  rw [decimal, digits, hf _ _ fun c hc => hc]
  exact Nat.ofDigitChars_ten_toDigits

theorem leadingNumber_digits (n : Nat) : leadingNumber (digits n) = n := by
  rw [leadingNumber, List.takeWhile_eq_self_iff.mpr fun b hb => isDigit_of_mem_digits hb, decimal_digits]

/-- A decimal number starts with a digit. -/
theorem digits_cons (n : Nat) : ∃ b rest, digits n = b :: rest ∧ isDigit b = true := by
  cases h : digits n with
  | nil => exact absurd (List.map_eq_nil_iff.mp h) Nat.toDigits_ne_nil
  | cons b rest => exact ⟨b, rest, rfl, isDigit_of_mem_digits (h ▸ List.mem_cons_self)⟩

theorem digits_ne_cons (hb : ¬ isDigit b = true) (n : Nat) (rest : Bytes) :
    digits n ≠ b :: rest := by
  intro h
  exact hb (isDigit_of_mem_digits (h ▸ List.mem_cons_self))

theorem leadingUid_digits {n : Nat} (hn : n < 4294967296) :
    parseLeadingUid 0 (digits n) = UInt32.ofNat n ∧
      UInt32.ofInt (atol (digits n)) = UInt32.ofNat n := by
  obtain ⟨b, rest, hd, hb⟩ := digits_cons n
  have hs : ¬ isSpace b = true := fun h => not_isDigit_of_isSpace h hb
  have ht : (digits n).takeWhile isSpace = [] := by rw [hd, List.takeWhile_cons_of_neg hs]
  have hdr : (digits n).dropWhile isSpace = digits n := by rw [hd, List.dropWhile_cons_of_neg hs]
  have hr : (digits n).dropWhile isDigit = [] :=
    List.dropWhile_eq_nil_iff.mpr fun c hc => isDigit_of_mem_digits hc
  have hru : parseLeadingUid 0 (digits n) = UInt32.ofNat n := by
    apply UInt32.toNat_inj.mp
    rw [parseLeadingUid_spec, ht, hdr, hr, leadingNumber_digits, UInt32.toNat_ofNat']
    simp only [List.all_nil, if_true, firstUid, numbersFrom, Option.toList_none]
    split
    · omega
    · rfl
  have ha : Alike (digits n) := by
    have hm := digits_ne_cons (show ¬ isDigit 45 = true by decide) n
    have hp := digits_ne_cons (show ¬ isDigit 43 = true by decide) n
    rw [Alike, ht, hdr, AlikeAfter.eq_3 _ _ hm hp, leadingNumber_digits, hr, List.all_nil,
      if_pos rfl, if_pos (by omega)]
    exact .inr nofun
  exact ⟨hru, ((leadingUid_alike_iff _).mpr ha).trans hru⟩

end GssProxy.Server
