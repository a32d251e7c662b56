import CppComponents.FixedRingBuffer

/-!
# The ring buffer refines a bounded FIFO queue

What the header promises of `FixedRingBuffer` ("never allocates, moves, or
copies its elements"), over runs of its operations that respect the assertions:

- `BoundedQueue`: the abstract queue, a list of queued elements and a list of
  the free ones that wait to be filled. It knows neither positions nor an
  array;
- `Represents`: a buffer stands for a queue. `step_rel` is the simulation, one
  case for each operation;
- `Stays`: a queued element stays in its slot, with its value, until it is
  popped.
-/

namespace CppComponents

open CppComponents.Transition

universe u

/-- A call of an operation of the buffer, or an assignment through the
reference `get_back_slot()` returns. -/
inductive RingOp (T : Type u) where
  | fillBackSlot (value : T)
  | pushBack
  | pushBackCopy (value : T)
  | pushBackMove (value : T)
  | getFront
  | popFront

/-- The number of elements an operation pops. -/
def RingOp.pops {T : Type u} : RingOp T → Nat
  | .popFront => 1
  | _ => 0

/-! ## The abstract queue -/

/-- A queue of at most `capacity` elements. `items` are the queued elements,
oldest first; `free` are the others, in the order they will be filled. -/
structure BoundedQueue (T : Type u) (capacity : Nat) where
  items : List T
  free : List T
  size : items.length + free.length = capacity

namespace BoundedQueue

variable {T : Type u} {capacity : Nat}

/-- Put `value` in the next free element. -/
def fill (q : BoundedQueue T capacity) (value : T) : Option (BoundedQueue T capacity) :=
  match q with
  | ⟨_, [], _⟩ => none
  | ⟨items, _ :: free, size⟩ => some ⟨items, value :: free, size⟩

/-- Queue the next free element. -/
def enqueue (q : BoundedQueue T capacity) : Option (BoundedQueue T capacity) :=
  match q with
  | ⟨_, [], _⟩ => none
  | ⟨items, value :: free, size⟩ => some ⟨items ++ [value], free, by simp at size ⊢; omega⟩

/-- Release the oldest element. It is filled again after the other free ones. -/
def dequeue (q : BoundedQueue T capacity) : Option (BoundedQueue T capacity) :=
  match q with
  | ⟨[], _, _⟩ => none
  | ⟨value :: items, free, size⟩ => some ⟨items, free ++ [value], by simp at size ⊢; omega⟩

/-- The bounded FIFO queue: what each operation of the buffer is for. -/
def system : System (BoundedQueue T capacity) (RingOp T) where
  init q := q.items = []
  step q
    | .fillBackSlot value => q.fill value
    | .pushBack => q.enqueue
    | .pushBackCopy value => (q.fill value).bind enqueue
    | .pushBackMove value => (q.fill value).bind enqueue
    | .getFront => if q.items = [] then none else some q
    | .popFront => q.dequeue

end BoundedQueue

namespace FixedRingBuffer

variable {T : Type u} {k : Nat}

/-- The buffer, with the assertions of its operations. -/
def system : System (FixedRingBuffer T k) (RingOp T) where
  init r := r.head = r.tail
  step r
    | .fillBackSlot value => if r.isFull then none else some (r.setBackSlot value)
    | .pushBack => if r.isFull then none else some r.pushBack
    | .pushBackCopy value => if r.isFull then none else some (r.pushBackValue value)
    | .pushBackMove value => if r.isFull then none else some (r.pushBackValue value)
    | .getFront => if r.isEmpty then none else some r
    | .popFront => if r.isEmpty then none else some r.popFront

/-! ## The free elements -/

/-- The elements that are not queued, in the order they will be filled. -/
def freeList (r : FixedRingBuffer T k) : List T :=
  (List.range (2 ^ k - r.getSize)).map fun i => r.buffer (r.slot (r.getSize + i))

@[simp] theorem length_freeList (r : FixedRingBuffer T k) :
    r.freeList.length = 2 ^ k - r.getSize := by
  simp [freeList]

theorem freeList_eq_nil (r : FixedRingBuffer T k) (h : r.isFull = true) : r.freeList = [] := by
  rw [← List.length_eq_zero_iff, length_freeList, (isFull_iff r).mp h, Nat.sub_self]

/-- The slot after the last free one is the oldest element's. -/
theorem slot_capacity (hk : k ≤ 63) (r : FixedRingBuffer T k) : r.slot (2 ^ k) = r.slot 0 := by
  refine Fin.ext ?_
  rw [slot, slot, getIndex_add_val hk, getIndex_add_val hk, Nat.add_mod_right, Nat.add_zero]

theorem freeList_eq_cons (hk : k ≤ 63) (r : FixedRingBuffer T k) (h : r.getSize < 2 ^ k) :
    r.freeList = r.getBackSlot :: r.pushBack.freeList := by
  obtain ⟨n, hn⟩ := Nat.exists_eq_succ_of_ne_zero (Nat.sub_ne_zero_of_lt h)
  have hpush : 2 ^ k - (r.getSize + 1) = n := by omega
  rw [freeList, freeList, getSize_pushBack hk r h, hpush, hn, List.range_succ_eq_map,
    List.map_cons, List.map_map]
  refine congrArg₂ List.cons ?_ (List.map_congr_left fun i _ => ?_)
  · rw [Nat.add_zero, slot_size]
    rfl
  · show r.buffer (r.slot (r.getSize + (i + 1))) = r.buffer (r.slot (r.getSize + 1 + i))
    rw [Nat.add_right_comm, Nat.add_assoc]

/-- Writing the back slot changes the next free element only. -/
theorem freeList_setBackSlot (hk : k ≤ 63) (r : FixedRingBuffer T k) (h : r.getSize < 2 ^ k)
    (value : T) : (r.setBackSlot value).freeList = value :: r.pushBack.freeList := by
  have hback : (r.setBackSlot value).getBackSlot = value := by
    simp [setBackSlot, getBackSlot]
  have hrest : (r.setBackSlot value).pushBack.freeList = r.pushBack.freeList := by
    refine List.map_congr_left fun i hi => ?_
    have hi' : i < 2 ^ k - r.pushBack.getSize := List.mem_range.mp hi
    rw [getSize_pushBack hk r h] at hi'
    have hne : r.slot (r.pushBack.getSize + i) ≠ getIndex k r.tail := by
      rw [getSize_pushBack hk r h]
      exact r.slot_ne_back hk h (by omega) (by omega)
    exact Function.update_of_ne hne value r.buffer
  rw [freeList_eq_cons hk (r.setBackSlot value) h, hback, hrest]

theorem freeList_popFront (hk : k ≤ 63) (r : FixedRingBuffer T k) (h : r.getSize ≠ 0)
    (hwf : r.WellFormed) : r.popFront.freeList = r.freeList ++ [r.getFront] := by
  have hle : r.getSize ≤ 2 ^ k := hwf
  have hpop : 2 ^ k - (r.getSize - 1) = 2 ^ k - r.getSize + 1 := by omega
  rw [freeList, freeList, getSize_popFront r h, hpop, List.range_succ, List.map_append]
  refine congrArg₂ (· ++ ·) (List.map_congr_left fun i _ => ?_) (congrArg (fun x => [x]) ?_)
  · show r.buffer (r.popFront.slot (r.getSize - 1 + i)) = r.buffer (r.slot (r.getSize + i))
    rw [slot_popFront]
    congr 2
    omega
  · show r.buffer (r.popFront.slot (r.getSize - 1 + (2 ^ k - r.getSize))) = r.getFront
    have hlast : r.getSize - 1 + (2 ^ k - r.getSize) + 1 = 2 ^ k := by omega
    rw [slot_popFront, hlast, slot_capacity hk, slot_zero]
    rfl

/-! ## The simulation -/

/-- The buffer stands for the queue. -/
structure Represents (r : FixedRingBuffer T k) (q : BoundedQueue T (2 ^ k)) : Prop where
  items : q.items = r.toList
  free : q.free = r.freeList

/-- What the buffer's operations return is what the queue says. -/
structure Agrees (r : FixedRingBuffer T k) (q : BoundedQueue T (2 ^ k)) : Prop where
  size : r.getSize = q.items.length
  empty : r.isEmpty = true ↔ q.items = []
  full : r.isFull = true ↔ q.items.length = r.getCapacity
  front : r.isEmpty = false → q.items.head? = some r.getFront
  backSlot : r.isFull = false → q.free.head? = some r.getBackSlot

theorem getSize_lt (r : FixedRingBuffer T k) (hwf : r.WellFormed) (h : ¬ r.isFull = true) :
    r.getSize < 2 ^ k := by
  rw [isFull_iff] at h
  have hle : r.getSize ≤ 2 ^ k := hwf
  omega

namespace Represents

variable {r : FixedRingBuffer T k} {q : BoundedQueue T (2 ^ k)}

theorem wellFormed (h : r.Represents q) : r.WellFormed := by
  have hsize := q.size
  rw [h.items, length_toList] at hsize
  show r.getSize ≤ 2 ^ k
  omega

theorem agrees (hk : k ≤ 63) (h : r.Represents q) : r.Agrees q where
  size := by rw [h.items, length_toList]
  empty := by rw [h.items, toList_eq_nil_iff]
  full := by rw [isFull_iff, h.items, length_toList, getCapacity]
  front := fun hne => by
    have hsize : r.getSize ≠ 0 := fun hzero => by
      rw [(isEmpty_iff r).mpr hzero] at hne
      cases hne
    rw [h.items, toList_eq_cons r hsize]
    rfl
  backSlot := fun hne => by
    have hlt := r.getSize_lt h.wellFormed (by simp [hne])
    rw [h.free, freeList_eq_cons hk r hlt]
    rfl

theorem fill (hk : k ≤ 63) (h : r.Represents q) (value : T) :
    Option.Rel Represents (if r.isFull then none else some (r.setBackSlot value))
      (q.fill value) := by
  obtain ⟨items, free, hsize⟩ := q
  obtain ⟨rfl, rfl⟩ : items = r.toList ∧ free = r.freeList := ⟨h.items, h.free⟩
  by_cases hfull : r.isFull = true
  · simp only [hfull, if_true, BoundedQueue.fill, r.freeList_eq_nil hfull]
    exact .none
  · have hlt := r.getSize_lt h.wellFormed hfull
    simp only [hfull, freeList_eq_cons hk r hlt, BoundedQueue.fill]
    exact .some ⟨(toList_setBackSlot hk r hlt value).symm,
      (freeList_setBackSlot hk r hlt value).symm⟩

theorem enqueue (hk : k ≤ 63) (h : r.Represents q) :
    Option.Rel Represents (if r.isFull then none else some r.pushBack) q.enqueue := by
  obtain ⟨items, free, hsize⟩ := q
  obtain ⟨rfl, rfl⟩ : items = r.toList ∧ free = r.freeList := ⟨h.items, h.free⟩
  by_cases hfull : r.isFull = true
  · simp only [hfull, if_true, BoundedQueue.enqueue, r.freeList_eq_nil hfull]
    exact .none
  · have hlt := r.getSize_lt h.wellFormed hfull
    simp only [hfull, freeList_eq_cons hk r hlt, BoundedQueue.enqueue]
    exact .some ⟨(toList_pushBack hk r hlt).symm, rfl⟩

/-- `push_back(value)` fills the next free element and queues it. -/
theorem enqueueValue (hk : k ≤ 63) (h : r.Represents q) (value : T) :
    Option.Rel Represents (if r.isFull then none else some (r.pushBackValue value))
      ((q.fill value).bind BoundedQueue.enqueue) := by
  have hfill := h.fill hk value
  by_cases hfull : r.isFull = true
  · simp only [hfull, if_true] at hfill ⊢
    generalize q.fill value = q' at hfill
    cases hfill
    exact .none
  · simp only [hfull] at hfill ⊢
    generalize q.fill value = q' at hfill
    cases hfill with
    | some h' =>
      have henqueue := h'.enqueue hk
      have hfull' : ¬ (r.setBackSlot value).isFull = true := hfull
      rwa [if_neg hfull'] at henqueue

theorem dequeue (hk : k ≤ 63) (h : r.Represents q) :
    Option.Rel Represents (if r.isEmpty then none else some r.popFront) q.dequeue := by
  obtain ⟨items, free, hsize⟩ := q
  obtain ⟨rfl, rfl⟩ : items = r.toList ∧ free = r.freeList := ⟨h.items, h.free⟩
  by_cases hempty : r.isEmpty = true
  · simp only [hempty, if_true, BoundedQueue.dequeue, (toList_eq_nil_iff r).mpr hempty]
    exact .none
  · have hne : r.getSize ≠ 0 := fun hzero => hempty ((isEmpty_iff r).mpr hzero)
    simp only [hempty, toList_eq_cons r hne, BoundedQueue.dequeue]
    exact .some ⟨rfl, (freeList_popFront hk r hne h.wellFormed).symm⟩

/-- Every operation of the buffer is possible when that of the queue is, and
does the same. -/
theorem step_rel (hk : k ≤ 63) (h : r.Represents q) (op : RingOp T) :
    Option.Rel Represents (system.step r op) (BoundedQueue.system.step q op) := by
  cases op with
  | fillBackSlot value => exact h.fill hk value
  | pushBack => exact h.enqueue hk
  | pushBackCopy value => exact h.enqueueValue hk value
  | pushBackMove value => exact h.enqueueValue hk value
  | popFront => exact h.dequeue hk
  | getFront =>
    show Option.Rel Represents (if r.isEmpty then none else some r)
      (if q.items = [] then none else some q)
    by_cases hempty : r.isEmpty = true
    · rw [if_pos hempty, if_pos ((h.agrees hk).empty.mp hempty)]
      exact .none
    · rw [if_neg hempty, if_neg fun hnil => hempty ((h.agrees hk).empty.mpr hnil)]
      exact .some h

end Represents

/-- The queue a buffer stands for. -/
def queue (r : FixedRingBuffer T k) (hwf : r.WellFormed) : BoundedQueue T (2 ^ k) where
  items := r.toList
  free := r.freeList
  size := by
    have hle : r.getSize ≤ 2 ^ k := hwf
    rw [length_toList, length_freeList]
    omega

theorem represents_queue (r : FixedRingBuffer T k) (hwf : r.WellFormed) :
    r.Represents (r.queue hwf) := ⟨rfl, rfl⟩

theorem WellFormed.step (hk : k ≤ 63) {r r' : FixedRingBuffer T k} (hwf : r.WellFormed)
    {op : RingOp T} (h : system.step r op = some r') : r'.WellFormed := by
  have hrel := (r.represents_queue hwf).step_rel hk op
  rw [h] at hrel
  generalize BoundedQueue.system.step (r.queue hwf) op = q' at hrel
  cases hrel with
  | some h' => exact h'.wellFormed

/-! ## Queued elements do not move -/

/-- After `pops` pops that lead from `r` to `r'`, the elements that are still
queued are in the slots they were in, with the values they had. -/
def Stays (r r' : FixedRingBuffer T k) (pops : Nat) : Prop :=
  ∀ i, pops ≤ i → i < r.getSize →
    i - pops < r'.getSize ∧ r'.slot (i - pops) = r.slot i ∧
      r'.buffer (r.slot i) = r.buffer (r.slot i)

namespace Stays

variable {r r' : FixedRingBuffer T k}

theorem refl (r : FixedRingBuffer T k) : r.Stays r 0 := fun _ _ hi => ⟨hi, rfl, rfl⟩

theorem trans {r'' : FixedRingBuffer T k} {m n : Nat} (h : r.Stays r' m) (h' : r'.Stays r'' n) :
    r.Stays r'' (m + n) := by
  intro i hpops hi
  obtain ⟨hlt, hslot, hvalue⟩ := h i (by omega) hi
  obtain ⟨hlt', hslot', hvalue'⟩ := h' (i - m) (by omega) hlt
  rw [hslot] at hslot' hvalue'
  rw [Nat.sub_add_eq]
  exact ⟨hlt', hslot', hvalue'.trans hvalue⟩

theorem setBackSlot (hk : k ≤ 63) (h : r.getSize < 2 ^ k) (value : T) :
    r.Stays (r.setBackSlot value) 0 := by
  intro i _ hi
  refine ⟨hi, rfl, ?_⟩
  exact Function.update_of_ne (r.slot_ne_back hk h (by omega) hi.ne) value r.buffer

theorem pushBack (hk : k ≤ 63) (h : r.getSize < 2 ^ k) : r.Stays r.pushBack 0 := by
  intro i _ hi
  refine ⟨?_, rfl, rfl⟩
  rw [getSize_pushBack hk r h]
  omega

theorem popFront (h : r.getSize ≠ 0) : r.Stays r.popFront 1 := by
  intro i hpops hi
  rw [getSize_popFront r h, slot_popFront, Nat.sub_add_cancel hpops]
  exact ⟨by omega, rfl, rfl⟩

theorem step (hk : k ≤ 63) (hwf : r.WellFormed) {op : RingOp T}
    (h : system.step r op = some r') : r.Stays r' op.pops := by
  have hpush : ∀ {r₁ : FixedRingBuffer T k}, (r.getSize < 2 ^ k → r.Stays r₁ 0) →
      (if r.isFull then none else some r₁) = some r' → r.Stays r' 0 := by
    intro r₁ hstays h
    by_cases hfull : r.isFull = true
    · rw [if_pos hfull] at h
      cases h
    · rw [if_neg hfull] at h
      cases h
      exact hstays (r.getSize_lt hwf hfull)
  have hvalue : ∀ value, r.getSize < 2 ^ k → r.Stays (r.pushBackValue value) 0 := fun value hlt =>
    (setBackSlot hk hlt value).trans (pushBack hk (r := r.setBackSlot value) hlt)
  cases op with
  | fillBackSlot value => exact hpush (fun hlt => setBackSlot hk hlt value) h
  | pushBack => exact hpush (fun hlt => Stays.pushBack hk hlt) h
  | pushBackCopy value => exact hpush (hvalue value) h
  | pushBackMove value => exact hpush (hvalue value) h
  | getFront =>
    simp only [system] at h
    split at h
    · cases h
    · cases h
      exact refl r
  | popFront =>
    simp only [system] at h
    split at h
    · cases h
    · rename_i hempty
      cases h
      exact popFront fun hzero => hempty ((isEmpty_iff r).mpr hzero)

/-- Queued elements stay in place over a run. -/
theorem run (hk : k ≤ 63) (ops : List (RingOp T)) :
    ∀ {r : FixedRingBuffer T k}, r.WellFormed → Transition.run system anyStep r ops = some r' →
      r.Stays r' (ops.map RingOp.pops).sum := by
  induction ops with
  | nil =>
    intro r _ h
    cases h
    exact refl _
  | cons op ops ih =>
    intro r hwf h
    obtain ⟨-, r₁, hstep, hrun⟩ := run_cons_eq_some.mp h
    exact (step hk hwf hstep).trans (ih (hwf.step hk hstep) hrun)

end Stays

/-! ## Over runs -/

/-- **The buffer is a bounded FIFO queue.** A run of operations that starts
with an empty buffer, at any position, and respects the assertions is a run of
the abstract queue, and the buffer returns what the queue holds. The back slot
is no queued element's, queued elements stay in place until they are popped,
and a pop changes no slot. -/
theorem refines_boundedQueue (hk : k ≤ 63) {r₀ r : FixedRingBuffer T k}
    (hinit : system.init r₀) {ops : List (RingOp T)}
    (hrun : Transition.run system anyStep r₀ ops = some r) :
    (∃ q₀ q : BoundedQueue T (2 ^ k), BoundedQueue.system.init q₀ ∧ q₀.free = r₀.freeList ∧
      Transition.run BoundedQueue.system anyStep q₀ ops = some q ∧ r.Agrees q) ∧
    (r.isFull = false → ∀ i, i < r.getSize → r.slot i ≠ getIndex k r.tail) ∧
    (∀ later r', Transition.run system anyStep r later = some r' →
      r.Stays r' (later.map RingOp.pops).sum) ∧
    (∀ r', system.step r .popFront = some r' → r'.buffer = r.buffer) := by
  have hempty : r₀.getSize = 0 := by
    have hheads : r₀.head = r₀.tail := hinit
    rw [getSize, hheads, UInt64.sub_self]
    rfl
  have hwf₀ : r₀.WellFormed := by
    show r₀.getSize ≤ 2 ^ k
    rw [hempty]
    exact Nat.zero_le _
  -- the run is simulated by the queue that holds what the buffer starts with
  have hrel := run_rel (fun _ _ op h => h.step_rel hk op) ops (r₀.represents_queue hwf₀)
  rw [hrun] at hrel
  obtain ⟨q, hq, hrep⟩ : ∃ q, Transition.run BoundedQueue.system anyStep (r₀.queue hwf₀) ops =
      some q ∧ r.Represents q := by
    generalize Transition.run BoundedQueue.system anyStep (r₀.queue hwf₀) ops = q' at hrel
    cases hrel with
    | some h => exact ⟨_, rfl, h⟩
  refine ⟨⟨r₀.queue hwf₀, q, ?_, rfl, hq, hrep.agrees hk⟩, ?_, ?_, ?_⟩
  · exact List.length_eq_zero_iff.mp ((length_toList r₀).trans hempty)
  · intro hfull i hi
    have hlt := r.getSize_lt hrep.wellFormed (by simp [hfull])
    exact r.slot_ne_back hk hlt (by omega) hi.ne
  · exact fun later _ hlater => Stays.run hk later hrep.wellFormed hlater
  · intro r' hpop
    simp only [system] at hpop
    split at hpop
    · cases hpop
    · cases hpop
      rfl

/-- Two elements, the first of them at position `2 ^ 64 - 1`: the positions
wrap, and so do the slots. -/
theorem refines_boundedQueue_wrap :
    ∃ r : FixedRingBuffer Nat 1,
      (∃ q₀ q : BoundedQueue Nat (2 ^ 1), BoundedQueue.system.init q₀ ∧
        q₀.free = (emptyAt (fun _ => 0) (0 - 1) : FixedRingBuffer Nat 1).freeList ∧
        Transition.run BoundedQueue.system anyStep q₀
          [.pushBackCopy 5, .fillBackSlot 6, .pushBack, .popFront, .pushBackMove 7] = some q ∧
        r.Agrees q) ∧ r.toList = [6, 7] ∧ r.tail = 2 := by
  have hrun : ∃ r, Transition.run system anyStep
      (emptyAt (fun _ => 0) (0 - 1) : FixedRingBuffer Nat 1)
      [.pushBackCopy 5, .fillBackSlot 6, .pushBack, .popFront, .pushBackMove 7] = some r ∧
      r.toList = [6, 7] ∧ r.tail = 2 := ⟨_, rfl, by decide, by decide⟩
  obtain ⟨r, hrun, hitems, htail⟩ := hrun
  have hinit : system.init (emptyAt (fun _ => 0) (0 - 1) : FixedRingBuffer Nat 1) := rfl
  exact ⟨r, (refines_boundedQueue (by decide) hinit hrun).1, hitems, htail⟩

end FixedRingBuffer

end CppComponents
