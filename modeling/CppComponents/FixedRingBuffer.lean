import CppComponents.Transition
import Mathlib.Data.Nat.ModEq

/-!
# The fixed-capacity ring buffer

`FixedRingBuffer<T, capacity>` stores a FIFO queue in an array of `capacity`
elements, a power of two, between two 64-bit positions that only ever count
up: `head` is the oldest element and `tail` the next free one. A position is
turned into an array index by masking, so positions wrap the array, and they
wrap themselves modulo `2 ^ 64`.

- `FixedRingBuffer`: the operations as the header computes them. The array is
  a function on its indices; nothing else is different.
- `slot r i`: the array index of the `i`-th queued element. `slot_inj` is the
  fact everything rests on: masking is injective on a window of at most
  `capacity` positions, wherever it starts and whether or not it wraps.
- `toList`: the queue the buffer stands for, oldest element first. The
  `toList_*` lemmas are the refinement: each operation acts on `toList` as the
  operation of a bounded FIFO queue does.
-/

namespace CppComponents

universe u

/-- `FixedRingBuffer<T, 2 ^ k>`. -/
structure FixedRingBuffer (T : Type u) (k : Nat) where
  buffer : Fin (2 ^ k) → T
  /-- oldest element index -/
  head : UInt64
  /-- next free element index -/
  tail : UInt64

namespace FixedRingBuffer

variable {T : Type u} {k : Nat}

/-- The index of a position: `pos & (capacity - 1)`. -/
def getIndex (k : Nat) (pos : UInt64) : Fin (2 ^ k) :=
  ⟨(pos &&& UInt64.ofNat (2 ^ k - 1)).toNat, by
    rw [UInt64.toNat_and, UInt64.toNat_ofNat']
    have h₁ := Nat.and_le_right (n := pos.toNat) (m := (2 ^ k - 1) % 2 ^ 64)
    have h₂ := Nat.mod_le (2 ^ k - 1) (2 ^ 64)
    have h₃ := Nat.two_pow_pos k
    omega⟩

/-! ## The operations -/

def getCapacity (_ : FixedRingBuffer T k) : Nat := 2 ^ k

def isEmpty (r : FixedRingBuffer T k) : Bool := r.head == r.tail

def getSize (r : FixedRingBuffer T k) : Nat := (r.tail - r.head).toNat

def isFull (r : FixedRingBuffer T k) : Bool := r.getSize == r.getCapacity

/-- The element `get_back_slot()` refers to. -/
def getBackSlot (r : FixedRingBuffer T k) : T := r.buffer (getIndex k r.tail)

/-- An assignment through the reference `get_back_slot()` returns. -/
def setBackSlot (r : FixedRingBuffer T k) (value : T) : FixedRingBuffer T k :=
  { r with buffer := Function.update r.buffer (getIndex k r.tail) value }

/-- `push_back()`: queues what the back slot holds. -/
def pushBack (r : FixedRingBuffer T k) : FixedRingBuffer T k :=
  { r with tail := r.tail + 1 }

/-- `push_back(value)`, by copy or by move. -/
def pushBackValue (r : FixedRingBuffer T k) (value : T) : FixedRingBuffer T k :=
  (r.setBackSlot value).pushBack

/-- The element `get_front()` refers to. -/
def getFront (r : FixedRingBuffer T k) : T := r.buffer (getIndex k r.head)

/-- An assignment through the reference `get_front()` returns. -/
def setFront (r : FixedRingBuffer T k) (value : T) : FixedRingBuffer T k :=
  { r with buffer := Function.update r.buffer (getIndex k r.head) value }

/-- `pop_front()`: releases the oldest element and changes no slot. -/
def popFront (r : FixedRingBuffer T k) : FixedRingBuffer T k :=
  { r with head := r.head + 1 }

/-- An empty buffer whose positions stand at `pos`. -/
def emptyAt (buffer : Fin (2 ^ k) → T) (pos : UInt64) : FixedRingBuffer T k :=
  ⟨buffer, pos, pos⟩

/-- At most `capacity` elements are queued. -/
def WellFormed (r : FixedRingBuffer T k) : Prop := r.getSize ≤ 2 ^ k

/-! ## Positions -/

theorem getIndex_val (hk : k ≤ 63) (pos : UInt64) :
    (getIndex k pos).val = pos.toNat % 2 ^ k := by
  have hpow : 2 ^ k < 2 ^ 64 := Nat.pow_lt_pow_right (by decide) (by omega)
  have hlt : 2 ^ k - 1 < 2 ^ 64 := by omega
  show (pos &&& UInt64.ofNat (2 ^ k - 1)).toNat = _
  rw [UInt64.toNat_and, UInt64.toNat_ofNat', Nat.mod_eq_of_lt hlt,
    Nat.and_two_pow_sub_one_eq_mod]

/-- The capacity divides `2 ^ 64`, so an index does not see a position wrap. -/
theorem getIndex_add_val (hk : k ≤ 63) (pos : UInt64) (i : Nat) :
    (getIndex k (pos + UInt64.ofNat i)).val = (pos.toNat + i) % 2 ^ k := by
  have hdvd : 2 ^ k ∣ 2 ^ 64 := Nat.pow_dvd_pow 2 (by omega)
  rw [getIndex_val hk, UInt64.toNat_add, UInt64.toNat_ofNat', Nat.add_mod_mod,
    Nat.mod_mod_of_dvd _ hdvd]

/-- The array index of the `i`-th queued element. -/
def slot (r : FixedRingBuffer T k) (i : Nat) : Fin (2 ^ k) :=
  getIndex k (r.head + UInt64.ofNat i)

/-- Masking is injective on a window of `capacity` positions. -/
theorem slot_inj (hk : k ≤ 63) (r : FixedRingBuffer T k) {i j : Nat} (hi : i < 2 ^ k)
    (hj : j < 2 ^ k) (h : r.slot i = r.slot j) : i = j := by
  have hval := congrArg Fin.val h
  simp only [slot, getIndex_add_val hk] at hval
  have hmod : i ≡ j [MOD 2 ^ k] := Nat.ModEq.add_left_cancel' r.head.toNat hval
  simpa [Nat.ModEq, Nat.mod_eq_of_lt hi, Nat.mod_eq_of_lt hj] using hmod

theorem slot_zero (r : FixedRingBuffer T k) : r.slot 0 = getIndex k r.head := by
  simp [slot]

theorem slot_size (r : FixedRingBuffer T k) : r.slot r.getSize = getIndex k r.tail := by
  have h : r.head + UInt64.ofNat r.getSize = r.tail := by
    rw [getSize, UInt64.ofNat_toNat]
    grind
  rw [slot, h]

theorem slot_popFront (r : FixedRingBuffer T k) (i : Nat) :
    r.popFront.slot i = r.slot (i + 1) := by
  have h : r.head + 1 + UInt64.ofNat i = r.head + UInt64.ofNat (i + 1) := by
    have hone : UInt64.ofNat (i + 1) = UInt64.ofNat i + 1 := UInt64.ofNat_add i 1
    grind
  show getIndex k (r.head + 1 + UInt64.ofNat i) = _
  rw [h, slot]

/-! ## Sizes -/

theorem isEmpty_iff (r : FixedRingBuffer T k) : r.isEmpty = true ↔ r.getSize = 0 := by
  rw [isEmpty, beq_iff_eq, getSize]
  constructor
  · intro h
    simp [h]
  · intro h
    have hsub : r.tail - r.head = 0 := UInt64.toNat_inj.mp (by simpa using h)
    grind

theorem isFull_iff (r : FixedRingBuffer T k) : r.isFull = true ↔ r.getSize = 2 ^ k := by
  rw [isFull, beq_iff_eq, getCapacity]

@[simp] theorem getSize_setBackSlot (r : FixedRingBuffer T k) (value : T) :
    (r.setBackSlot value).getSize = r.getSize := rfl

@[simp] theorem getSize_setFront (r : FixedRingBuffer T k) (value : T) :
    (r.setFront value).getSize = r.getSize := rfl

theorem getSize_pushBack (hk : k ≤ 63) (r : FixedRingBuffer T k) (h : r.getSize < 2 ^ k) :
    r.pushBack.getSize = r.getSize + 1 := by
  have hpow : 2 ^ k ≤ 2 ^ 63 := Nat.pow_le_pow_right (by decide) hk
  have hsub : r.tail + 1 - r.head = r.tail - r.head + 1 := by grind
  show (r.tail + 1 - r.head).toNat = _
  rw [hsub, UInt64.toNat_add]
  show ((r.tail - r.head).toNat + 1) % 2 ^ 64 = (r.tail - r.head).toNat + 1
  have : (r.tail - r.head).toNat < 2 ^ k := h
  exact Nat.mod_eq_of_lt (by omega)

theorem getSize_popFront (r : FixedRingBuffer T k) (h : r.getSize ≠ 0) :
    r.popFront.getSize = r.getSize - 1 := by
  have hsub : r.tail - (r.head + 1) = r.tail - r.head - 1 := by grind
  show (r.tail - (r.head + 1)).toNat = _
  rw [hsub]
  have hle : (1 : UInt64) ≤ r.tail - r.head := by
    rw [UInt64.le_iff_toNat_le]
    show 1 ≤ r.getSize
    omega
  rw [UInt64.toNat_sub_of_le _ _ hle]
  rfl

/-! ## The queue a buffer stands for -/

/-- The queued elements, oldest first. -/
def toList (r : FixedRingBuffer T k) : List T :=
  (List.range r.getSize).map fun i => r.buffer (r.slot i)

@[simp] theorem length_toList (r : FixedRingBuffer T k) : r.toList.length = r.getSize := by
  simp [toList]

theorem toList_emptyAt (buffer : Fin (2 ^ k) → T) (pos : UInt64) :
    (emptyAt buffer pos).toList = [] := by
  simp [toList, emptyAt, getSize]

theorem toList_eq_nil_iff (r : FixedRingBuffer T k) : r.toList = [] ↔ r.isEmpty = true := by
  rw [isEmpty_iff, ← length_toList, List.length_eq_zero_iff]

/-- Only the element after the queued ones is in the back slot. -/
theorem slot_ne_back (hk : k ≤ 63) (r : FixedRingBuffer T k) (h : r.getSize < 2 ^ k) {i : Nat}
    (hi : i < 2 ^ k) (hne : i ≠ r.getSize) : r.slot i ≠ getIndex k r.tail := by
  rw [← slot_size]
  exact fun heq => hne (slot_inj hk r hi h heq)

/-- Writing the back slot of a buffer that is not full touches no queued
element. -/
theorem toList_setBackSlot (hk : k ≤ 63) (r : FixedRingBuffer T k) (h : r.getSize < 2 ^ k)
    (value : T) : (r.setBackSlot value).toList = r.toList := by
  refine List.map_congr_left fun i hi => ?_
  have hi' : i < r.getSize := List.mem_range.mp hi
  exact Function.update_of_ne (r.slot_ne_back hk h (by omega) hi'.ne) value r.buffer

theorem toList_pushBack (hk : k ≤ 63) (r : FixedRingBuffer T k) (h : r.getSize < 2 ^ k) :
    r.pushBack.toList = r.toList ++ [r.getBackSlot] := by
  have hslot : r.pushBack.slot = r.slot := rfl
  rw [toList, getSize_pushBack hk r h, List.range_succ, List.map_append, hslot]
  show r.toList ++ [r.buffer (r.slot r.getSize)] = _
  rw [slot_size]
  rfl

/-- Filling the back slot and pushing it appends the value. -/
theorem toList_pushBackValue (hk : k ≤ 63) (r : FixedRingBuffer T k)
    (h : r.getSize < 2 ^ k) (value : T) :
    (r.pushBackValue value).toList = r.toList ++ [value] := by
  have hback : (r.setBackSlot value).getBackSlot = value := by
    simp [setBackSlot, getBackSlot]
  rw [pushBackValue, toList_pushBack hk (r.setBackSlot value) h, toList_setBackSlot hk r h,
    hback]

theorem toList_eq_cons (r : FixedRingBuffer T k) (h : r.getSize ≠ 0) :
    r.toList = r.getFront :: r.popFront.toList := by
  obtain ⟨n, hn⟩ := Nat.exists_eq_succ_of_ne_zero h
  have hpop : r.popFront.getSize = n := by rw [getSize_popFront r h]; omega
  rw [toList, toList, hpop, hn, List.range_succ_eq_map, List.map_cons, List.map_map]
  refine congrArg₂ List.cons ?_ (List.map_congr_left fun i _ => ?_)
  · rw [slot_zero]
    rfl
  · show r.buffer (r.slot (i + 1)) = r.buffer (r.popFront.slot i)
    rw [slot_popFront]

theorem toList_popFront (r : FixedRingBuffer T k) (h : r.getSize ≠ 0) :
    r.popFront.toList = r.toList.tail := by
  rw [toList_eq_cons r h]
  rfl

/-- Writing through `get_front()` changes the oldest element only. -/
theorem toList_setFront (hk : k ≤ 63) (r : FixedRingBuffer T k) (h : r.getSize ≠ 0)
    (hwf : r.WellFormed) (value : T) :
    (r.setFront value).toList = value :: r.toList.tail := by
  have hfront : (r.setFront value).getFront = value := by
    simp [setFront, getFront]
  have hrest : (r.setFront value).popFront.toList = r.popFront.toList := by
    refine List.map_congr_left fun i hi => ?_
    have hi' : i < r.popFront.getSize := List.mem_range.mp hi
    rw [getSize_popFront r h] at hi'
    have hne : r.popFront.slot i ≠ getIndex k r.head := by
      rw [slot_popFront, ← slot_zero]
      intro heq
      have hle : r.getSize ≤ 2 ^ k := hwf
      have := slot_inj hk r (by omega) (by omega) heq
      omega
    exact Function.update_of_ne hne value r.buffer
  rw [toList_eq_cons (r.setFront value) h, hfront, hrest, toList_popFront r h]

/-! ## The operations keep the buffer well formed -/

theorem WellFormed.pushBackValue (hk : k ≤ 63) {r : FixedRingBuffer T k}
    (h : r.getSize < 2 ^ k) (value : T) : (r.pushBackValue value).WellFormed := by
  show (r.setBackSlot value).pushBack.getSize ≤ 2 ^ k
  rw [getSize_pushBack hk (r.setBackSlot value) h]
  exact h

theorem WellFormed.popFront {r : FixedRingBuffer T k} (hwf : r.WellFormed)
    (h : r.getSize ≠ 0) : r.popFront.WellFormed := by
  have hle : r.getSize ≤ 2 ^ k := hwf
  show r.popFront.getSize ≤ 2 ^ k
  rw [getSize_popFront r h]
  omega

end FixedRingBuffer

end CppComponents
