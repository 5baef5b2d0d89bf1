import GssProxy.Proto.Proc

/-!
# What the decoders accept

* `decode_canonical`: whatever a decoder accepts is the encoding of its value, with padding spelled in any
  way, and no shorter piece of it is accepted.
-/

namespace GssProxy.Proto

open Codec

section

variable {α : Type} [Xdr α] [Sized α] [LawfulXdr α] {buf : Bytes} {v : α} {d : Stream}
  (h : decode.run (Stream.new buf) = .ok (v, d))
include h

theorem seen_eq_encode : d.seen = encode v := by
  obtain ⟨-, hs, -⟩ := LawfulXdr.law.sound _ _ _ h
  exact hs

theorem decode_spells :
    d.position ≤ buf.length ∧ d.unread = buf.drop d.position ∧
      Spells (buf.take d.position) (encode v) := by
  obtain ⟨-, -, c, hc, hs⟩ := LawfulXdr.law.sound _ _ _ h
  have hb : buf = c ++ d.unread := hc
  have hp : d.position = c.length := by rw [Stream.position, seen_eq_encode h, hs.length_eq]
  rw [hp, hb, List.length_append, List.drop_left, List.take_left]
  exact ⟨Nat.le_add_right _ _, rfl, hs⟩

theorem decode_again :
    decode.run (Stream.new (encode v)) = .ok (v, ⟨[], encode v⟩) := by
  obtain ⟨⟨hwf, hf⟩, -⟩ := LawfulXdr.law.sound _ v d h
  have ha := LawfulXdr.law.roundtrip v hwf hf [] []
  rwa [List.append_nil] at ha

theorem decode_cut {n : Nat} (hn : n < d.position) :
    ∃ e, (decode : XdrDecoder α).run (Stream.new (buf.take n)) = .error e := by
  rw [Stream.position, seen_eq_encode h] at hn
  exact LawfulXdr.law.cut_fails h hn

end

/-- **Canonicity.**  If a decoder accepts bytes with the value `v`, those it has consumed are the
    encoding of `v` but for the padding, and zeroing that gives the encoding, which is decoded to
    `v` again; no proper part of the consumed bytes is accepted. -/
theorem decode_canonical (type : WireType) (buf : Bytes) (v : type.Value) (d : Stream)
    (h : decode.run (Stream.new buf) = .ok (v, d)) :
    d.position ≤ buf.length ∧ d.unread = buf.drop d.position ∧
      d.position = (encode v).length ∧ d.seen = encode v ∧
      Spells (buf.take d.position) (encode v) ∧
      decode.run (Stream.new (encode v)) = .ok (v, ⟨[], encode v⟩) ∧
      ∀ n < d.position,
        ∃ e, (decode : XdrDecoder type.Value).run (Stream.new (buf.take n)) = .error e := by
  obtain ⟨hle, hu, hsp⟩ := decode_spells h
  have hs := seen_eq_encode h
  exact ⟨hle, hu, congrArg List.length hs, hs, hsp, decode_again h, fun n hn => decode_cut h hn⟩

def paddedBuffer : Bytes := [0, 0, 0, 1, 65, 7, 8, 9, 66]

theorem decode_canonical_paddedBuffer :
    decode.run (Stream.new paddedBuffer) =
      .ok ((⟨[65]⟩ : GssxBuffer), ⟨[66], [0, 0, 0, 1, 65, 0, 0, 0]⟩) ∧
    Spells (paddedBuffer.take 8) (encode (⟨[65]⟩ : GssxBuffer)) ∧
    ∀ n < 8, ∃ e, (decode : XdrDecoder GssxBuffer).run (Stream.new (paddedBuffer.take n)) =
      .error e := by
  have h : decode.run (Stream.new paddedBuffer) =
      .ok ((⟨[65]⟩ : GssxBuffer), ⟨[66], [0, 0, 0, 1, 65, 0, 0, 0]⟩) := by decide +kernel
  obtain ⟨-, -, -, -, hs, -, hc⟩ := decode_canonical (.gssx .buffer) paddedBuffer _ _ h
  exact ⟨h, hs, hc⟩

end GssProxy.Proto
