import GssProxy.Codec.Utf8
import GssProxy.Server.UidText

/-!
# The ports of the two daemons

The Rust daemon's is `rustPort`; the C daemon's is a `cPort` whose expansion is what
`get_formatted_string` returns, wherever that is defined and a text.

* `formattedString_eq`: the two expand a sound template alike.
-/

namespace GssProxy.Server

open Codec Server.Format
open String (utf8EncodeChar)

/-! ## Texts as C strings -/

theorem utf8_eq_flatMap (s : String) : utf8 s = s.toList.flatMap utf8EncodeChar := bytes_eq_flatMap s

theorem utf8_injective {s t : String} (h : utf8 s = utf8 t) : s = t := by
  apply String.toByteArray_inj.mp
  exact ByteArray.ext (Array.toList_inj.mp h)

def cString (s : String) : Option CString :=
  if h : 0 ∉ utf8 s then some ⟨utf8 s, h⟩ else none

theorem charMarks_encodes : charMarks.Encodes byteMarks utf8EncodeChar where
  nonempty _ := String.utf8EncodeChar_ne_nil
  percent := rfl
  number := rfl
  name := rfl
  mem_percent _ h := eq_of_mem_encode (by decide) h
  mem_number _ h := eq_of_mem_encode (by decide) h
  mem_name _ h := eq_of_mem_encode (by decide) h

/-! ## The expansion of the C daemon -/

/-- A model of the expansion against the function: a text that is not UTF-8 has no model, and of an
    access outside the copy nothing is said. -/
def Computes : Option String → Format.Outcome → Prop
  | some text, .returned (some bytes) => utf8 text = bytes
  | none, .returned (some bytes) => ∀ text, utf8 text ≠ bytes
  | none, .returned none => True
  | _, .undefined => True
  | _, _ => False

/-- The model says how the C function ends. -/
def Follows (formattedString : (UInt32 → Option String) → String → UInt32 → Option String) : Prop :=
  ∀ uidToName template orig uid, cString template = some orig →
    Computes (formattedString uidToName template uid)
      (gpGetFormattedString (fun u => (uidToName u).bind cString) orig uid)

def gpFormattedString (uidToName : UInt32 → Option String) (template : String) (uid : UInt32) :
    Option String :=
  match cString template with
  | none => none
  | some orig =>
    match gpGetFormattedString (fun u => (uidToName u).bind cString) orig uid with
    | .returned (some bytes) => String.fromUTF8? ⟨bytes.toArray⟩
    | _ => none

theorem fromUTF8_computes (bytes : Bytes) :
    Computes (String.fromUTF8? ⟨bytes.toArray⟩) (.returned (some bytes)) := by
  unfold String.fromUTF8?
  split
  · exact List.toList_toArray
  rename_i hi
  intro text ht
  apply hi
  have ha : (⟨bytes.toArray⟩ : ByteArray) = text.toByteArray := by
    rw [← ht]; exact String.toUTF8_eq_toByteArray
  rw [ha]
  exact text.isValidUTF8

theorem gpFormattedString_follows : Follows gpFormattedString := by
  intro uidToName template orig uid ho
  unfold gpFormattedString
  simp only [ho]
  cases he : gpGetFormattedString (fun u => (uidToName u).bind cString) orig uid with
  | returned s =>
    cases s with
    | none => trivial
    | some bytes => exact fromUTF8_computes bytes
  | undefined => trivial
  | unfinished => exact absurd he (gpGetFormattedString_finished orig)

/-- A port as one of the daemons has it. -/
inductive Port.OfDaemon : Port → Prop where
  | rust : OfDaemon rustPort
  | c {formattedString : (UInt32 → Option String) → String → UInt32 → Option String}
      (hfollows : Follows formattedString) : OfDaemon (cPort formattedString)

theorem Computes.bytes {text : String} {bytes : Option Bytes}
    (h : Computes (some text) (.returned bytes)) : bytes = some (utf8 text) := by
  cases bytes with
  | none => exact h.elim
  | some bytes => exact congrArg some h.symm

theorem Port.OfDaemon.leadingUid_digits {port : Port} (hp : port.OfDaemon) {n : Nat}
    (hn : n < 4294967296) : port.leadingUid (digits n) = UInt32.ofNat n := by
  cases hp with
  | rust => exact (Server.leadingUid_digits hn).1
  | c hf => exact (Server.leadingUid_digits hn).2

/-! ## Templates with the user id only -/

section

variable {uidToName uidToName' : UInt32 → Option String} {template value : String} {uid uid' : UInt32}

theorem digits_injective {n n' : Nat} (h : digits n = digits n') : n = n' := by
  rw [← decimal_digits n, ← decimal_digits n', h]

theorem printInt_injective {i i' : Int} (h : printInt i = printInt i') : i = i' := by
  have hs := digits_ne_cons (show ¬ isDigit 45 = true by decide)
  cases i with
  | ofNat n =>
    cases i' with
    | ofNat n' => exact congrArg Int.ofNat (digits_injective h)
    | negSucc n' => exact absurd h (hs _ _)
  | negSucc n =>
    cases i' with
    | ofNat n' => exact absurd h.symm (hs _ _)
    | negSucc n' =>
      have hsu := digits_injective (List.cons.inj h).2
      exact congrArg Int.negSucc (Nat.succ.inj hsu)

theorem numberOnly_ne {template front rest : Bytes} (ht : byteMarks.NumberOnly template) :
    template ≠ front ++ 37 :: 37 :: rest := by
  intro hs
  have hc : (37 : UInt8) = 85 := ht.code (by decide) hs
  exact absurd hc (by decide)

theorem gpGetFormattedString_numberOnly {names : UInt32 → Option CString} {orig : CString}
    (ht : byteMarks.NumberOnly orig.bytes) :
    gpGetFormattedString names orig uid =
      .returned (byteMarks.expand ⟨printInt uid.toInt32.toInt, (names uid).map CString.bytes⟩
        orig.bytes) := by
  apply gpGetFormattedString_inserting
  refine ⟨?_, fun _ _ _ _ _ => rfl, rfl⟩
  intro front out rest hs _
  exact absurd hs (numberOnly_ne ht)

theorem Port.OfDaemon.uid_eq {port : Port} (hpo : port.OfDaemon)
    (ht : charMarks.NumberOnly template.toList) (hs : 0 ∉ utf8 template)
    (h : port.formattedString uidToName template uid = some value)
    (h' : port.formattedString uidToName' template uid' = some value) : uid = uid' := by
  cases hpo with
  | rust =>
    rw [getFormattedString_eq, getFormattedString_reference] at h h'
    have hsa := Option.map_injective (fun _ _ hl => String.ofList_injective hl)
      (h.trans h'.symm)
    have hd : Nat.toDigits 10 uid.toNat = Nat.toDigits 10 uid'.toNat :=
      Marks.number_eq_of_expand_eq (by decide) ht hsa
    have hn := congrArg (Nat.ofDigitChars 10 · 0) hd
    simp only [Nat.ofDigitChars_ten_toDigits] at hn
    exact UInt32.toNat_inj.mp hn
  | c hf =>
    simp only [cPort] at h h'
    have ho : cString template = some ⟨utf8 template, hs⟩ := dif_pos hs
    have hb : byteMarks.NumberOnly (utf8 template) := by
      rw [utf8_eq_flatMap]; exact ht.flatMap charMarks_encodes
    have hc := hf uidToName template _ uid ho
    have hc' := hf uidToName' template _ uid' ho
    rw [h, gpGetFormattedString_numberOnly hb] at hc
    rw [h', gpGetFormattedString_numberOnly hb] at hc'
    have hp : printInt uid.toInt32.toInt = printInt uid'.toInt32.toInt :=
      Marks.number_eq_of_expand_eq (by decide) hb (hc.bytes.trans hc'.bytes.symm)
    have hsi : uid.toInt32 = uid'.toInt32 := Int32.toInt_inj.mp (printInt_injective hp)
    rw [← UInt32.toUInt32_toInt32 uid, hsi, UInt32.toUInt32_toInt32]

/-! ## Where both expand alike -/

theorem utf8_ofList (l : List Char) : utf8 (String.ofList l) = l.flatMap utf8EncodeChar := by
  rw [utf8_eq_flatMap, String.toList_ofList]

theorem Computes.eq_text {result : Option String} {out : Option (List Char)}
    (h : Computes result (.returned (out.map (List.flatMap utf8EncodeChar)))) :
    result = out.map String.ofList := by
  cases out with
  | none =>
    cases result with
    | none => rfl
    | some text => exact h.elim
  | some l =>
    cases result with
    | none => exact absurd (utf8_ofList l) (h (String.ofList l))
    | some text =>
      have hb : utf8 text = utf8 (String.ofList l) := Eq.trans h (utf8_ofList l).symm
      exact congrArg some (utf8_injective hb)

theorem digits_eq_flatMap (n : Nat) : digits n = (Nat.toDigits 10 n).flatMap utf8EncodeChar := by
  have ha : ∀ c ∈ Nat.toDigits 10 n, [UInt8.ofNat c.toNat] = utf8EncodeChar c := by
    intro c hc
    have hr := isDigit_iff.mp (toNat_digit hc).2
    rw [(toNat_digit hc).1] at hr
    exact (encode_ascii (by omega)).symm
  rw [digits, List.map_eq_flatMap]
  exact List.flatMap_congr ha

theorem byteInserts_eq (hn : ∀ name, uidToName uid = some name → 0 ∉ utf8 name) :
    byteInserts (fun u => (uidToName u).bind cString) uid =
      (charInserts uidToName uid).encode utf8EncodeChar := by
  have hb : ((uidToName uid).bind cString).map CString.bytes =
      ((uidToName uid).map String.toList).map (List.flatMap utf8EncodeChar) := by
    cases hl : uidToName uid with
    | none => rfl
    | some name =>
      have hs : cString name = some ⟨utf8 name, hn name hl⟩ := dif_pos _
      rw [Option.bind_some, hs]
      exact congrArg some (utf8_eq_flatMap name)
  simp [byteInserts, charInserts, Inserts.encode, hb, digits_eq_flatMap]

theorem formattedString_eq {formattedString : (UInt32 → Option String) → String → UInt32 → Option String}
    (hf : Follows formattedString) (hs : 0 ∉ utf8 template)
    (hn : ∀ name, uidToName uid = some name → 0 ∉ utf8 name)
    (hso : Sound (fun u => (uidToName u).bind cString) uid 0 (utf8 template)) :
    formattedString uidToName template uid = rustPort.formattedString uidToName template uid := by
  have ho : cString template = some ⟨utf8 template, hs⟩ := dif_pos hs
  have hc := hf uidToName template _ uid ho
  have he : byteMarks.expand ((charInserts uidToName uid).encode utf8EncodeChar) (utf8 template) =
      (charMarks.expand (charInserts uidToName uid) template.toList).map (List.flatMap utf8EncodeChar) := by
    rw [utf8_eq_flatMap]
    exact Marks.expand_flatMap charMarks_encodes _
  rw [gpGetFormattedString_eq hso, byteInserts_eq hn, he] at hc
  rw [getFormattedString_eq, getFormattedString_reference]
  exact hc.eq_text

end

end GssProxy.Server
