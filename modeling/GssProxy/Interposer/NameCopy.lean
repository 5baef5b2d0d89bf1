import GssProxy.Client.InquireCred
import GssProxy.Effect.Filling
import GssProxy.Interposer.Sides

/-!
# Copies of a name

`gp_copy_gssx_name` copies field by field into a structure of zeros and frees the copy if an allocation
fails; `gp_copy_gssx_name_alloc` allocates the structure too.  The Rust client clones.

* `copies_iff`: in C, names without attributes and extensions are copied.
-/

namespace GssProxy.Interposer.NameCopy

open Gss Proto Effect
open Client.Inquire (gpCopyGssxName gpCopyGssxName_eq_iff)

/-- What is allocated for a copy: the structure, and a field that is not empty. -/
inductive Site where
  | record | displayName | nameType | exportedName | exportedCompositeName

structure Out where
  name : GssxName
  blocks : Nat

def gpConvOctetString (granted : Bool) (value : OctetString)
    (set : OctetString → GssxName → GssxName) : Filling UInt32 Out Unit :=
  if value.data = [] then .write fun o => ⟨set ⟨[]⟩ o.name, o.blocks⟩
  else if granted then .write fun o => ⟨set value o.name, o.blocks + 1⟩
  else .fail ENOMEM

variable (memory : Site → Bool) (name : GssxName)

def copyFields : Filling UInt32 Out Unit := do
  gpConvOctetString (memory .displayName) name.displayName fun v n => { n with displayName := v }
  gpConvOctetString (memory .nameType) name.nameType fun v n => { n with nameType := v }
  gpConvOctetString (memory .exportedName) name.exportedName fun v n => { n with exportedName := v }
  gpConvOctetString (memory .exportedCompositeName) name.exportedCompositeName fun v n =>
    { n with exportedCompositeName := v }

/-- `gp_copy_gssx_name`: the result, and the blocks that are left. -/
def gpCopyGssxNameInto : Except UInt32 GssxName × Nat :=
  match (copyFields memory name).orElseClean (fun o => { o with blocks := 0 }) ⟨default, 0⟩ with
  | (.ok (), o) => (.ok o.name, o.blocks)
  | (.error ret, o) => (.error ret, o.blocks)

def gpCopyGssxNameAlloc : Except UInt32 GssxName × Nat :=
  if memory .record then
    match gpCopyGssxNameInto memory name with
    | (.ok copy, blocks) => (.ok copy, blocks + 1)
    | (.error ret, blocks) => (.error ret, blocks)
  else (.error ENOMEM, 0)

/-- `gpm_duplicate_name`: an error number becomes the minor status. -/
def gpmDuplicateName : Except Status GssxName × Nat :=
  match gpCopyGssxNameAlloc memory name with
  | (.ok copy, blocks) => (.ok copy, blocks)
  | (.error ret, blocks) => (.error ⟨GSS_S_FAILURE, some ret⟩, blocks)

/-- A clone has all fields; without memory the process ends. -/
def clone : Except Status GssxName × Nat := (.ok name, 0)

/-! ## The law of a copy -/

structure Preserves {ε : Type} (r : Except ε GssxName × Nat) : Prop where
  yields : (∀ site, memory site = true) → ∃ copy, r.1 = .ok copy
  copied : ∀ copy, r.1 = .ok copy → encode copy = encode name
  clean : ∀ e, r.1 = .error e → r.2 = 0

/-- All copies of the name are what it is. -/
def Copies : Port → Prop
  | .c => ∀ memory, Preserves memory name (gpmDuplicateName memory name) ∧
      Preserves memory name (gpCopyGssxNameAlloc memory name) ∧
      Preserves memory name (gpCopyGssxNameInto memory name)
  | .rust => ∀ memory, Preserves memory name (clone name)

section

variable {memory name} {ε : Type}

theorem Preserves.ok {copy : GssxName} {blocks : Nat} (h : encode copy = encode name) :
    Preserves memory name ((.ok copy : Except ε GssxName), blocks) := by
  refine ⟨fun _ => ⟨copy, rfl⟩, fun _ heq => ?_, nofun⟩
  cases heq
  exact h

theorem Preserves.error {e : ε} (h : ∃ site, memory site = false) :
    Preserves memory name (.error e, 0) := by
  obtain ⟨site, hno⟩ := h
  refine ⟨fun ha => ?_, nofun, fun _ _ => rfl⟩
  rw [ha site] at hno
  cases hno

end

theorem gpConvOctetString_cases (granted : Bool) (value : OctetString)
    (set : OctetString → GssxName → GssxName) (o : Out) :
    (∃ blocks, gpConvOctetString granted value set o = (.ok (), ⟨set value o.name, blocks⟩)) ∨
      gpConvOctetString granted value set o = (.error ENOMEM, o) ∧ granted = false := by
  unfold gpConvOctetString
  split
  · next he =>
    cases value
    cases he
    exact .inl ⟨_, rfl⟩
  · cases granted with
    | true => exact .inl ⟨_, rfl⟩
    | false => exact .inr ⟨rfl, rfl⟩

theorem copyFields_cases :
    (∃ blocks, copyFields memory name ⟨default, 0⟩ = (.ok (), ⟨gpCopyGssxName name, blocks⟩)) ∨
      (∃ o, copyFields memory name ⟨default, 0⟩ = (.error ENOMEM, o)) ∧ ∃ site, memory site = false := by
  unfold copyFields
  rcases gpConvOctetString_cases (memory .displayName) name.displayName _ _ with ⟨_, h⟩ | ⟨h, hno⟩
  swap; · exact .inr ⟨⟨_, Filling.bind_error h⟩, _, hno⟩
  rw [Filling.bind_ok h]
  rcases gpConvOctetString_cases (memory .nameType) name.nameType _ _ with ⟨_, h⟩ | ⟨h, hno⟩
  swap; · exact .inr ⟨⟨_, Filling.bind_error h⟩, _, hno⟩
  rw [Filling.bind_ok h]
  rcases gpConvOctetString_cases (memory .exportedName) name.exportedName _ _ with ⟨_, h⟩ | ⟨h, hno⟩
  swap; · exact .inr ⟨⟨_, Filling.bind_error h⟩, _, hno⟩
  rw [Filling.bind_ok h]
  rcases gpConvOctetString_cases (memory .exportedCompositeName) name.exportedCompositeName _ _ with
    ⟨_, h⟩ | ⟨h, hno⟩
  · exact .inl ⟨_, h⟩
  · exact .inr ⟨⟨_, h⟩, _, hno⟩

theorem gpCopyGssxNameInto_cases :
    (∃ blocks, gpCopyGssxNameInto memory name = (.ok (gpCopyGssxName name), blocks)) ∨
      gpCopyGssxNameInto memory name = (.error ENOMEM, 0) ∧ ∃ site, memory site = false := by
  unfold gpCopyGssxNameInto Filling.orElseClean
  rcases copyFields_cases memory name with ⟨blocks, h⟩ | ⟨⟨o, h⟩, hno⟩
  · exact .inl ⟨blocks, by rw [h]⟩
  · exact .inr ⟨by rw [h], hno⟩

theorem length_encodeArray {α : Type} [Xdr α] (items : List α) :
    (encodeArray items).length = 4 + ((items.map encode).flatten).length := List.length_append

theorem encode_copy_iff :
    encode (gpCopyGssxName name) = encode name ↔ name.nameAttributes = [] ∧ name.extensions = [] := by
  refine ⟨fun h => ?_, fun h => by rw [(gpCopyGssxName_eq_iff name).mpr h]⟩
  have hf : List.flatten [encode name.displayName, encode name.nameType, encode name.exportedName,
      encode name.exportedCompositeName, encodeArray ([] : List GssxNameAttr),
      encodeArray ([] : List GssxOption)] = encode name := h
  have hl := congrArg List.length hf
  have ha := length_le_flatten_encode name.nameAttributes
  have he := length_le_flatten_encode name.extensions
  change _ = (List.flatten [encode name.displayName, encode name.nameType, encode name.exportedName,
      encode name.exportedCompositeName, encodeArray name.nameAttributes,
      encodeArray name.extensions]).length at hl
  simp only [List.flatten_cons, List.flatten_nil, List.length_append, length_encodeArray, List.map_nil,
    List.length_nil] at hl
  exact ⟨List.length_eq_zero_iff.mp (by omega), List.length_eq_zero_iff.mp (by omega)⟩

/-- **Copies of a name.**  In Rust every copy is the name; in C exactly those of names that have
    neither attributes nor extensions. -/
theorem copies_iff (port : Port) :
    Copies name port ↔ port = .rust ∨ name.nameAttributes = [] ∧ name.extensions = [] := by
  cases port with
  | rust => exact iff_of_true (fun _ => .ok rfl) (.inl rfl)
  | c =>
    rw [← encode_copy_iff]
    constructor
    · intro h
      rcases gpCopyGssxNameInto_cases (fun _ => true) name with ⟨blocks, hok⟩ | ⟨-, _, hno⟩
      · exact .inr ((h fun _ => true).2.2.copied _ (congrArg Prod.fst hok))
      · cases hno
    · rintro (h | hc) memory
      · cases h
      unfold gpmDuplicateName gpCopyGssxNameAlloc
      cases hr : memory .record with
      | false =>
        refine ⟨.error ⟨_, hr⟩, .error ⟨_, hr⟩, ?_⟩
        rcases gpCopyGssxNameInto_cases memory name with ⟨blocks, hok⟩ | ⟨he, hno⟩
        · rw [hok]; exact .ok hc
        · rw [he]; exact .error hno
      | true =>
        rcases gpCopyGssxNameInto_cases memory name with ⟨blocks, hok⟩ | ⟨he, hno⟩
        · rw [hok]; exact ⟨.ok hc, .ok hc, .ok hc⟩
        · rw [he]; exact ⟨.error hno, .error hno, .error hno⟩

/-- A name with an attribute is copied without it. -/
theorem attribute_not_copied :
    (gpmDuplicateName (fun _ => true) { (default : GssxName) with nameAttributes := [default] }).1 =
        .ok default ∧
      encode (default : GssxName) ≠ encode { (default : GssxName) with nameAttributes := [default] } := by
  decide

end GssProxy.Interposer.NameCopy
