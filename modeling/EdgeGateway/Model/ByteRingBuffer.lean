import Mathlib.Data.List.Basic
import Mathlib.Data.List.OfFn
import Mathlib.Tactic

/-!
# The byte ring buffer

`ByteRingBuffer` of `protocol/byte_ring_buffer.h`. The indices are `std::size_t`, so sums of them
are taken modulo `2 ^ 64` before they are reduced to the capacity. That the head stays below the
capacity and the size within it belongs to the type.
-/

namespace EdgeGateway

/-- A `std::size_t` computation on a 64-bit target. -/
def sizeT (n : Nat) : Nat :=
  n % 2 ^ 64

lemma sizeT_of_lt {n : Nat} (h : n < 2 ^ 64) : sizeT n = n :=
  Nat.mod_eq_of_lt h

structure ByteRingBuffer (capacity : Nat) where
  storage : Vector UInt8 capacity
  head : Nat
  size : Nat
  head_lt : head < capacity
  size_le : size ≤ capacity

namespace ByteRingBuffer

variable {capacity : Nat}

def empty (h : 0 < capacity) : ByteRingBuffer capacity :=
  ⟨Vector.replicate capacity 0, 0, 0, h, Nat.zero_le _⟩

lemma capacity_pos (b : ByteRingBuffer capacity) : 0 < capacity :=
  Nat.zero_lt_of_lt b.head_lt

def cell (b : ByteRingBuffer capacity) (offset : Nat) : Fin capacity :=
  ⟨sizeT (b.head + offset) % capacity, Nat.mod_lt _ b.capacity_pos⟩

def push (b : ByteRingBuffer capacity) (byte : UInt8) : Bool × ByteRingBuffer capacity :=
  if h : b.size = capacity then
    (false, b)
  else
    (true, { b with
      storage := b.storage.set (b.cell b.size) byte (b.cell b.size).isLt
      size := b.size + 1
      size_le := by have := b.size_le; omega })

/-- The bulk `push`: bytes are pushed until one is refused. -/
def pushAll (b : ByteRingBuffer capacity) : List UInt8 → Nat × ByteRingBuffer capacity
  | [] => (0, b)
  | byte :: rest =>
    match b.push byte with
    | (true, b') =>
      let (accepted, b'') := b'.pushAll rest
      (accepted + 1, b'')
    | (false, b') => (0, b')

def consume (b : ByteRingBuffer capacity) (count : Nat) : ByteRingBuffer capacity :=
  let consumed := if count < b.size then count else b.size
  { b with
    head := b.cell consumed
    size := b.size - consumed
    head_lt := (b.cell consumed).isLt
    size_le := (Nat.sub_le _ _).trans b.size_le }

def byteAt (b : ByteRingBuffer capacity) (index : Nat) : Except String UInt8 :=
  if index ≥ b.size then
    .error "ring buffer index out of range"
  else
    .ok b.storage[b.cell index]

def copy (b : ByteRingBuffer capacity) (offset length : Nat) : Except String (List UInt8) :=
  if offset > b.size ∨ length > b.size - offset then
    .error "ring buffer copy out of range"
  else
    (List.range length).mapM (fun index => b.byteAt (sizeT (offset + index)))

def clear (b : ByteRingBuffer capacity) : ByteRingBuffer capacity :=
  { b with head := 0, size := 0, head_lt := b.capacity_pos, size_le := Nat.zero_le _ }

def isEmpty (b : ByteRingBuffer capacity) : Bool :=
  b.size == 0

def full (b : ByteRingBuffer capacity) : Bool :=
  b.size == capacity

/-! ### The queue a buffer stands for -/

/-- The place of the `i`th queued byte, with the arithmetic of unbounded numbers. -/
def slot (b : ByteRingBuffer capacity) (i : Nat) : Fin capacity :=
  ⟨(b.head + i) % capacity, Nat.mod_lt _ b.capacity_pos⟩

/-- The abstract contents: the cells from the head on, around the end of the storage. -/
def contents (b : ByteRingBuffer capacity) : List UInt8 :=
  List.ofFn (fun i : Fin b.size => b.storage[b.slot i])

@[simp] lemma length_contents (b : ByteRingBuffer capacity) : b.contents.length = b.size := by
  simp [contents]

lemma getElem_contents (b : ByteRingBuffer capacity) (i : Nat) (h : i < b.contents.length) :
    b.contents[i] = b.storage[b.slot i] := by
  simp [contents]

@[simp] lemma contents_empty (h : 0 < capacity) : (empty h).contents = [] := by
  simp [contents, empty]

@[simp] lemma contents_clear (b : ByteRingBuffer capacity) : b.clear.contents = [] := by
  simp [contents, clear]

/-- Below half of the range of `std::size_t` the sum of an index and the head does not wrap. -/
lemma cell_eq_slot (hc : capacity < 2 ^ 63) (b : ByteRingBuffer capacity) {offset : Nat}
    (h : offset ≤ capacity) : b.cell offset = b.slot offset := by
  have hh := b.head_lt
  have hsum : sizeT (b.head + offset) = b.head + offset := sizeT_of_lt (by omega)
  simp only [cell, slot, hsum]

lemma slot_inj (b : ByteRingBuffer capacity) {i j : Nat} (hi : i < capacity) (hj : j < capacity)
    (h : b.slot i = b.slot j) : i = j := by
  have hmod : (b.head + i) % capacity = (b.head + j) % capacity := congrArg Fin.val h
  have hij : i % capacity = j % capacity := Nat.ModEq.add_left_cancel' b.head hmod
  rwa [Nat.mod_eq_of_lt hi, Nat.mod_eq_of_lt hj] at hij

/-- A byte goes to the back of the queue unless the buffer is full. -/
theorem push_spec (hc : capacity < 2 ^ 63) (b : ByteRingBuffer capacity) (byte : UInt8) :
    (b.size < capacity → (b.push byte).1 = true ∧
      (b.push byte).2.contents = b.contents ++ [byte]) ∧
    (b.size = capacity → b.push byte = (false, b)) := by
  refine ⟨fun h => ?_, fun h => by simp [push, h]⟩
  have hne : b.size ≠ capacity := h.ne
  simp only [push, hne, dite_false, true_and]
  apply List.ext_getElem
  · simp
  intro i hi hi'
  rw [getElem_contents]
  simp only [length_contents] at hi
  by_cases hlast : i = b.size
  · subst hlast
    rw [List.getElem_append_right (by simp)]
    simp [b.cell_eq_slot hc h.le, slot]
  · have hlt : i < b.size := by omega
    have hcell : (b.cell b.size).val ≠ (b.slot i).val := by
      rw [b.cell_eq_slot hc h.le]
      exact fun he => hlast (b.slot_inj h (by omega) (Fin.ext he)).symm
    rw [List.getElem_append_left (by simpa using hlt), getElem_contents]
    exact Vector.getElem_set_ne (b.cell b.size).isLt (b.slot i).isLt hcell

theorem contents_consume (hc : capacity < 2 ^ 63) (b : ByteRingBuffer capacity) (count : Nat) :
    (b.consume count).contents = b.contents.drop count := by
  have hs := b.size_le
  have hdrop : b.contents.drop count =
      b.contents.drop (if count < b.size then count else b.size) := by
    split
    · rfl
    · rw [List.drop_eq_nil_of_le (by simp; omega), List.drop_eq_nil_of_le (by simp)]
  rw [hdrop]
  apply List.ext_getElem
  · simp [consume]
  intro i hi hi'
  rw [List.getElem_drop, getElem_contents, getElem_contents]
  have hle : (if count < b.size then count else b.size) ≤ capacity := by split <;> omega
  simp only [consume, b.cell_eq_slot hc hle, slot, Nat.mod_add_mod, Nat.add_assoc]

@[simp] lemma size_consume (b : ByteRingBuffer capacity) (count : Nat) :
    (b.consume count).size = b.size - count := by
  simp only [consume]
  split <;> omega

theorem byteAt_eq (hc : capacity < 2 ^ 63) (b : ByteRingBuffer capacity) (index : Nat) :
    b.byteAt index = if h : index < b.contents.length then .ok b.contents[index]
      else .error "ring buffer index out of range" := by
  have hs := b.size_le
  unfold byteAt
  by_cases h : index < b.size
  · have hcell := b.cell_eq_slot hc (show index ≤ capacity by omega)
    rw [if_neg (by omega), dif_pos (by simpa using h), getElem_contents]
    simp only [hcell]
  · rw [if_pos (by omega), dif_neg (by simpa using h)]

lemma byteAt_ok (hc : capacity < 2 ^ 63) (b : ByteRingBuffer capacity) {index : Nat} {byte : UInt8}
    (h : b.contents[index]? = some byte) : b.byteAt index = .ok byte := by
  obtain ⟨hlt, hget⟩ := List.getElem?_eq_some_iff.mp h
  rw [byteAt_eq hc, dif_pos hlt, hget]

theorem copy_eq (hc : capacity < 2 ^ 63) (b : ByteRingBuffer capacity) (offset length : Nat) :
    b.copy offset length = if offset + length ≤ b.contents.length then
        .ok ((b.contents.drop offset).take length)
      else .error "ring buffer copy out of range" := by
  have hs := b.size_le
  unfold copy
  rw [length_contents]
  by_cases h : offset + length ≤ b.size
  · rw [if_neg (by omega), if_pos h]
    have hall : ∀ n, n ≤ length → (List.range n).mapM (fun index => b.byteAt (sizeT (offset + index))) =
        .ok ((b.contents.drop offset).take n) := by
      intro n hn
      induction n with
      | zero => rfl
      | succ n ih =>
        have hlt : offset + n < b.contents.length := by simp; omega
        have hsum : sizeT (offset + n) = offset + n := sizeT_of_lt (by omega)
        rw [List.range_succ, List.mapM_append, ih (by omega)]
        simp only [List.mapM_cons, List.mapM_nil, hsum, byteAt_eq hc, hlt, dite_true]
        have htake : (b.contents.drop offset).take (n + 1) =
            (b.contents.drop offset).take n ++ [b.contents[offset + n]] := by
          rw [List.take_succ_eq_append_getElem (by simp; omega), List.getElem_drop]
        rw [htake]
        rfl
    exact hall length le_rfl
  · rw [if_pos (by omega), if_neg h]

end ByteRingBuffer

end EdgeGateway
