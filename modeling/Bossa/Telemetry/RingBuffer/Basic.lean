import Bossa.Data.Circular
import Bossa.Telemetry.Sample

/-!
# The ring buffer

`src/telemetry/ring_buffer.cpp`. The resident samples occupy `size` slots from
`head` on, indices modulo the capacity. On overflow the resident of lowest
priority, the oldest among ties, makes room, unless the incoming sample has a
lower priority still.

The bounds on `head` and `size` are fields, so every operation shows that it
keeps them. The mutex has no counterpart: each operation holds it throughout.
-/

namespace Bossa.Telemetry

/-- The state of a `RingBuffer`. -/
structure RingBuffer where
  capacity : ℕ
  slots : Vector StoredSample capacity
  head : ℕ
  size : ℕ
  dropCount : ℕ
  capacity_pos : 0 < capacity
  head_lt : head < capacity
  size_le : size ≤ capacity

namespace RingBuffer

/-- The constructor. It throws when the capacity is zero. -/
def new (capacity : ℕ) (h : 0 < capacity) : RingBuffer where
  capacity := capacity
  slots := Vector.replicate capacity default
  head := 0
  size := 0
  dropCount := 0
  capacity_pos := h
  head_lt := h
  size_le := Nat.zero_le _

/-- `slots_[(head_ + offset) % capacity_]`. -/
def slotAt (b : RingBuffer) (offset : ℕ) : StoredSample :=
  Circular.read b.slots b.capacity_pos b.head offset

def residents (b : RingBuffer) : List StoredSample :=
  Circular.window b.slots b.capacity_pos b.head b.size

/-- The scan for the lowest-priority resident, the oldest among ties: its
offset and its priority. -/
def findDrop (b : RingBuffer) : ℕ × Priority :=
  (List.range' 1 (b.size - 1)).foldl
    (fun (dropOffset, dropPriority) i =>
      let priority := (b.slotAt i).priority
      if priority.toNat < dropPriority.toNat then (i, priority)
      else (dropOffset, dropPriority))
    (0, (b.slotAt 0).priority)

/-- Writing a sample behind the last resident of a buffer that is not full. -/
def append (b : RingBuffer) (sample : StoredSample) (h : b.size < b.capacity) :
    RingBuffer :=
  { b with
    slots := Circular.write b.slots b.capacity_pos b.head b.size sample
    size := b.size + 1
    size_le := h }

/-- `head_ = (head_ + 1) % capacity_; --size_;` -/
def advanceHead (b : RingBuffer) : RingBuffer :=
  { b with
    head := (b.head + 1) % b.capacity
    size := b.size - 1
    head_lt := Nat.mod_lt _ b.capacity_pos
    size_le := (Nat.sub_le _ _).trans b.size_le }

/-- `remove_at_offset`: the residents behind the offset move one slot towards
the head. -/
def removeAtOffset (b : RingBuffer) (offset : ℕ) : RingBuffer :=
  { b with
    slots := Circular.closeGap b.slots b.capacity_pos b.head b.size offset
    size := b.size - 1
    size_le := (Nat.sub_le _ _).trans b.size_le }

/-- The two ways to remove the resident at an offset: moving the head past it,
or closing the gap behind it. -/
def removeResident (b : RingBuffer) (dropOffset : ℕ) : RingBuffer :=
  if dropOffset = 0 then b.advanceHead else b.removeAtOffset dropOffset

/-- `++drop_count_;` -/
def countDrop (b : RingBuffer) : RingBuffer :=
  { b with dropCount := b.dropCount + 1 }

@[simp] theorem removeResident_size (b : RingBuffer) (i : ℕ) :
    (b.removeResident i).size = b.size - 1 := by
  unfold removeResident
  split <;> rfl

@[simp] theorem removeResident_capacity (b : RingBuffer) (i : ℕ) :
    (b.removeResident i).capacity = b.capacity := by
  unfold removeResident
  split <;> rfl

theorem removeResident_size_lt (b : RingBuffer) (i : ℕ) :
    (b.removeResident i).countDrop.size < (b.removeResident i).countDrop.capacity := by
  have hpos := b.capacity_pos
  have hle := b.size_le
  simp only [countDrop, removeResident_size, removeResident_capacity]
  omega

/-- `RingBuffer::enqueue`: whether the new sample was retained, and the buffer
afterwards. -/
def enqueue (b : RingBuffer) (sample : StoredSample) : Bool × RingBuffer :=
  if h : b.size < b.capacity then
    (true, b.append sample h)
  else
    let (dropOffset, dropPriority) := b.findDrop
    if sample.priority.toNat < dropPriority.toNat then
      (false, b.countDrop)
    else
      (true, (b.removeResident dropOffset).countDrop.append sample
        (b.removeResident_size_lt dropOffset))

/-- `RingBuffer::dequeue`. -/
def dequeue (b : RingBuffer) : Option StoredSample × RingBuffer :=
  if b.size = 0 then (none, b) else (some (b.slotAt 0), b.advanceHead)

/-- The sample that a call of `enqueue` drops, which it does not return: none
below capacity, and otherwise the incoming sample or the evicted resident. -/
def dropped (b : RingBuffer) (sample : StoredSample) : Option StoredSample :=
  if b.size < b.capacity then none
  else if sample.priority.toNat < b.findDrop.2.toNat then some sample
  else some (b.slotAt b.findDrop.1)

end RingBuffer

end Bossa.Telemetry
