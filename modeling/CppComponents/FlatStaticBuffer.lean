import Mathlib.Data.List.Basic

/-!
# The flat static buffer

`boost::beast::flat_static_buffer<N>` keeps its readable bytes in one piece inside an
array of `N` bytes. Bytes are appended behind them and consumed in front; when the room
behind runs out, the readable bytes move to the front of the array. A buffer of which
everything is consumed starts again at the front.

What follows the readable bytes in the array is not defined, but it may be read: `room`
is how much of it there is.
-/

namespace CppComponents

/-- A `flat_static_buffer` of `N` bytes. -/
structure FlatStaticBuffer (N : Nat) where
  /-- where the readable bytes begin in the array -/
  start : Nat
  /-- `cdata()`: the readable bytes -/
  bytes : List UInt8
  fits : start + bytes.length ≤ N
  deriving DecidableEq

namespace FlatStaticBuffer

variable {N : Nat}

/-- A constructed buffer. -/
def empty : FlatStaticBuffer N := ⟨0, [], Nat.zero_le N⟩

def size (b : FlatStaticBuffer N) : Nat := b.bytes.length

/-- The bytes of the array that follow the readable ones. -/
def room (b : FlatStaticBuffer N) : Nat := N - (b.start + b.size)

/-- `consume(n)` -/
def consume (b : FlatStaticBuffer N) (n : Nat) : FlatStaticBuffer N :=
  if h : b.size ≤ n then empty
  else ⟨b.start + n, b.bytes.drop n, by
    have := b.fits
    unfold size at *
    rw [List.length_drop]
    omega⟩

/-- `prepare()` and `commit()` of `data`. Of data that is too long the front is stored. -/
def append (b : FlatStaticBuffer N) (data : List UInt8) : FlatStaticBuffer N :=
  if h : b.start + b.size + data.length ≤ N then
    ⟨b.start, b.bytes ++ data, by
      rw [List.length_append]
      unfold size at h
      omega⟩
  else
    ⟨0, b.bytes ++ data.take (N - b.size), by
      have := b.fits
      unfold size at *
      rw [List.length_append, List.length_take]
      omega⟩

@[simp] theorem bytes_empty : (empty : FlatStaticBuffer N).bytes = [] := rfl

/-- Consuming everything starts the buffer again. -/
@[simp] theorem consume_size (b : FlatStaticBuffer N) : b.consume b.size = empty :=
  dif_pos (Nat.le_refl _)

/-- What is appended to an empty buffer is stored at the front of the array. -/
theorem append_empty {data : List UInt8} (h : data.length ≤ N) :
    (empty.append data : FlatStaticBuffer N).bytes = data ∧
      (empty.append data : FlatStaticBuffer N).room = N - data.length := by
  have hfits : (empty : FlatStaticBuffer N).start + (empty : FlatStaticBuffer N).size +
      data.length ≤ N := by
    simpa [empty, size] using h
  unfold append
  rw [dif_pos hfits]
  simp [empty, room, size]

end FlatStaticBuffer

end CppComponents
