import EdgeGateway.Lib.BoundedQueue
import EdgeGateway.Model.ByteRingBuffer

/-!
# The ring buffer is a bounded queue

The bytes in a `ByteRingBuffer`, read around the end of its storage, make a queue with room for `capacity`
bytes, and each operation does to this queue what it should. So a buffer that went through any number of
operations cannot be told from a queue.
-/

namespace EdgeGateway.ByteRingBuffer
open BoundedQueue (Request Reply)

variable {capacity : Nat}

/-- The queue a buffer stands for. -/
def queue (b : ByteRingBuffer capacity) : BoundedQueue UInt8 capacity :=
  ⟨b.contents, by rw [length_contents]; exact b.size_le⟩

lemma queue_empty (hpos : 0 < capacity) : (empty hpos).queue = BoundedQueue.empty :=
  BoundedQueue.ext (contents_empty hpos)

lemma queue_clear (b : ByteRingBuffer capacity) : b.clear.queue = BoundedQueue.empty :=
  BoundedQueue.ext (contents_clear b)

lemma queue_push (hcap : capacity < 2 ^ 63) (b : ByteRingBuffer capacity) (byte : UInt8) :
    b.queue.push byte = Prod.map id queue (b.push byte) := by
  by_cases hroom : b.size < capacity
  · obtain ⟨hyes, hcontents⟩ := (push_spec hcap b byte).1 hroom
    have hlength : b.queue.items.length < capacity := by
      rw [queue, length_contents]
      exact hroom
    obtain ⟨hyes', hitems⟩ := BoundedQueue.push_of_room hlength byte
    apply Prod.ext
    · rw [hyes', Prod.map_fst, hyes, id]
    · exact BoundedQueue.ext (hitems.trans hcontents.symm)
  · have hfull : b.size = capacity := by
      have hle := b.size_le
      omega
    have hlength : b.queue.items.length = capacity := by rw [queue, length_contents, hfull]
    rw [(push_spec hcap b byte).2 hfull, BoundedQueue.push_of_full hlength]
    rfl

/-- The loop of single pushes stops where the queue is full. -/
lemma queue_pushAll (hcap : capacity < 2 ^ 63) (b : ByteRingBuffer capacity) (data : List UInt8) :
    b.queue.pushAll data = Prod.map id queue (b.pushAll data) := by
  induction data generalizing b with
  | nil => exact BoundedQueue.pushAll_nil _
  | cons byte rest ih =>
    rw [BoundedQueue.pushAll_cons, queue_push hcap, pushAll]
    by_cases hroom : b.size = capacity
    · rw [(push_spec hcap b byte).2 hroom]
      rfl
    · have hlt : b.size < capacity := lt_of_le_of_ne b.size_le hroom
      have hyes : (b.push byte).1 = true := ((push_spec hcap b byte).1 hlt).1
      rw [show b.push byte = (true, (b.push byte).2) from Prod.ext hyes rfl]
      simp only [Prod.map_fst, Prod.map_snd, id, if_true, ih]
      rfl

/-- The first bytes go in, as many as there is room for. -/
theorem pushAll_spec (hcap : capacity < 2 ^ 63) (b : ByteRingBuffer capacity) (data : List UInt8) :
    (b.pushAll data).1 = min data.length (capacity - b.size) ∧
      (b.pushAll data).2.contents = b.contents ++ data.take (min data.length (capacity - b.size)) := by
  have hall := queue_pushAll hcap b data
  have hroom : b.queue.room = capacity - b.size := by rw [BoundedQueue.room, queue, length_contents]
  have hcount : min data.length b.queue.room = (b.pushAll data).1 := congrArg Prod.fst hall
  have hitems : b.contents ++ data.take b.queue.room = (b.pushAll data).2.contents :=
    congrArg (fun answer => answer.2.items) hall
  rw [hroom] at hcount hitems
  rw [List.take_eq_take_min, min_comm] at hitems
  exact ⟨hcount.symm, hitems.symm⟩

lemma queue_consume (hcap : capacity < 2 ^ 63) (b : ByteRingBuffer capacity) (count : Nat) :
    (b.consume count).queue = b.queue.consume count :=
  BoundedQueue.ext (contents_consume hcap b count)

/-- The operations that change a buffer. -/
def perform : Request UInt8 → ByteRingBuffer capacity → Reply × ByteRingBuffer capacity
  | .push byte, b => (.accepted (b.push byte).1, (b.push byte).2)
  | .pushAll data, b => (.taken (b.pushAll data).1, (b.pushAll data).2)
  | .consume count, b => (.done, b.consume count)
  | .clear, b => (.done, b.clear)

lemma perform_refines (hcap : capacity < 2 ^ 63) (request : Request UInt8) (b : ByteRingBuffer capacity) :
    BoundedQueue.perform request b.queue = Prod.map id queue (perform request b) := by
  cases request with
  | push byte =>
    rw [BoundedQueue.perform, queue_push hcap]
    rfl
  | pushAll data =>
    rw [BoundedQueue.perform, queue_pushAll hcap]
    rfl
  | consume count =>
    rw [BoundedQueue.perform, ← queue_consume hcap]
    rfl
  | clear =>
    rw [BoundedQueue.perform, ← queue_clear b]
    rfl

/-- The answers to a sequence of operations on a new buffer, and the buffer they leave. -/
def after (hpos : 0 < capacity) (requests : List (Request UInt8)) : List Reply × ByteRingBuffer capacity :=
  BoundedQueue.run perform requests (empty hpos)

/-- A buffer that went through any operations gave the answers of a bounded queue and stands for what is left
in it. Each operation on it does what it does to a queue, and bytes are read wherever there are some. -/
theorem bounded_fifo (hpos : 0 < capacity) (hcap : capacity < 2 ^ 63) (requests : List (Request UInt8)) :
    let b := (after hpos requests).2
    (b.head < capacity ∧ b.size ≤ capacity) ∧
    ((after hpos requests).1, b.queue) = BoundedQueue.run BoundedQueue.perform requests BoundedQueue.empty ∧
    (∀ byte, (b.size < capacity → (b.push byte).1 = true ∧ (b.push byte).2.contents = b.contents ++ [byte]) ∧
      (b.size = capacity → b.push byte = (false, b))) ∧
    (∀ data, (b.pushAll data).1 = min data.length (capacity - b.size) ∧
      (b.pushAll data).2.contents = b.contents ++ data.take (min data.length (capacity - b.size))) ∧
    (∀ count, (b.consume count).contents = b.contents.drop (min count b.size)) ∧
    b.clear.contents = [] ∧
    (∀ index, b.byteAt index =
      if h : index < b.contents.length then .ok b.contents[index] else .error "ring buffer index out of range") ∧
    ∀ offset length, b.copy offset length =
      if offset + length ≤ b.size then .ok ((b.contents.drop offset).take length)
      else .error "ring buffer copy out of range" := by
  intro b
  refine ⟨⟨b.head_lt, b.size_le⟩, ?_, push_spec hcap b, pushAll_spec hcap b, fun count => ?_, contents_clear b,
    byteAt_eq hcap b, fun offset length => ?_⟩
  · have hrun := BoundedQueue.run_refines queue (perform_refines hcap) requests (empty hpos)
    rw [queue_empty] at hrun
    rw [hrun]
    rfl
  · rw [contents_consume hcap, List.drop_eq_drop_min, length_contents]
  · rw [copy_eq hcap, length_contents]

/-- Four bytes, three of them consumed, and four more, which go around the end of the storage. -/
theorem bounded_fifo_wraps :
    let requests : List (Request UInt8) := [.pushAll [1, 2, 3, 4], .consume 3, .pushAll [5, 6, 7, 8]]
    let b := (after (show 0 < 5 by decide) requests).2
    b.head = 3 ∧ b.contents = [4, 5, 6, 7, 8] ∧ b.push 9 = (false, b) ∧
      b.copy 1 4 = .ok ((b.contents.drop 1).take 4) := by
  intro requests b
  obtain ⟨-, -, hpush, -, -, -, -, hcopy⟩ := bounded_fifo (show 0 < 5 by decide) (by decide) requests
  exact ⟨by decide, by decide, (hpush 9).2 (by decide), by rw [hcopy, if_pos (by decide)]⟩

end EdgeGateway.ByteRingBuffer
