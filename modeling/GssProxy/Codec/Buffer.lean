import GssProxy.Codec.Bytes

/-!
# Output buffers

Memory of a fixed size with a write position.  Rewinding leaves the memory as it is; what counts as
written is the memory before the position (`written_fill`, `written_rewind`).
-/

namespace GssProxy.Codec

structure Buffer (size : Nat) where
  mem : Bytes
  mem_length : mem.length = size
  pos : Nat
  pos_le : pos ≤ size

namespace Buffer

variable {size : Nat}

/-- A buffer over memory of any content. -/
def new (mem : Bytes) (h : mem.length = size) : Buffer size := ⟨mem, h, 0, Nat.zero_le _⟩

def rewind (b : Buffer size) : Buffer size := { b with pos := 0, pos_le := Nat.zero_le _ }

def written (b : Buffer size) : Bytes := b.mem.take b.pos

def Fits (b : Buffer size) (bytes : Bytes) : Prop := b.pos + bytes.length ≤ size

instance (b : Buffer size) (bytes : Bytes) : Decidable (b.Fits bytes) :=
  inferInstanceAs (Decidable (_ ≤ _))

/-- Writes as many of the bytes as there is room for. -/
def fill (b : Buffer size) (bytes : Bytes) : Buffer size :=
  let fitting := bytes.take (size - b.pos)
  { mem := b.mem.take b.pos ++ fitting ++ b.mem.drop (b.pos + fitting.length)
    mem_length := by
      have := b.mem_length
      have := b.pos_le
      simp only [List.length_append, List.length_take, List.length_drop, fitting]; omega
    pos := b.pos + fitting.length
    pos_le := by
      have := b.pos_le
      simp only [List.length_take, fitting]
      omega }

@[simp] theorem written_rewind (b : Buffer size) : b.rewind.written = [] := rfl

theorem length_written (b : Buffer size) : b.written.length = b.pos := by
  rw [written, List.length_take, b.mem_length]
  exact Nat.min_eq_left b.pos_le

theorem fits_iff {b : Buffer size} {bytes : Bytes} :
    b.Fits bytes ↔ b.written.length + bytes.length ≤ size := by
  rw [length_written]
  exact Iff.rfl

theorem written_fill {b : Buffer size} {bytes : Bytes} (h : b.Fits bytes) :
    (b.fill bytes).written = b.written ++ bytes := by
  have hle : bytes.length ≤ size - b.pos := by unfold Fits at h; omega
  have hl : (b.mem.take b.pos ++ bytes).length = b.pos + bytes.length := by
    rw [List.length_append, ← written, length_written]
  show (b.mem.take b.pos ++ bytes.take (size - b.pos) ++ _).take
    (b.pos + (bytes.take (size - b.pos)).length) = _
  rw [List.take_of_length_le hle, ← hl, List.take_left]
  rfl

end Buffer

end GssProxy.Codec
