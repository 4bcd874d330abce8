import Mathlib.Data.List.Basic
import Mathlib.Tactic

/-!
# Bounded queues

A queue with room for `capacity` items: items leave in the order in which they came, and what does not fit is
refused. An implementation is compared with it request by request, through the queue it stands for. That it
gives the same answers in a whole run, and stands for the right queue afterwards, follows from the one step.
-/

@[ext] structure BoundedQueue (α : Type*) (capacity : Nat) where
  items : List α
  length_le : items.length ≤ capacity

namespace BoundedQueue

variable {α : Type*} {capacity : Nat}

def empty : BoundedQueue α capacity :=
  ⟨[], Nat.zero_le _⟩

/-- How many items can still be taken. -/
def room (q : BoundedQueue α capacity) : Nat :=
  capacity - q.items.length

def push (q : BoundedQueue α capacity) (item : α) : Bool × BoundedQueue α capacity :=
  if h : q.items.length < capacity then
    (true, ⟨q.items ++ [item], by rw [List.length_append]; exact h⟩)
  else
    (false, q)

/-- The first items, as many as there is room for, and how many these are. -/
def pushAll (q : BoundedQueue α capacity) (items : List α) : Nat × BoundedQueue α capacity :=
  (min items.length q.room, ⟨q.items ++ items.take q.room, by
    have hle := q.length_le
    rw [List.length_append, List.length_take, room]
    omega⟩)

def consume (q : BoundedQueue α capacity) (count : Nat) : BoundedQueue α capacity :=
  ⟨q.items.drop count, by
    have hle := q.length_le
    rw [List.length_drop]
    omega⟩

lemma push_of_room {q : BoundedQueue α capacity} (h : q.items.length < capacity) (item : α) :
    (q.push item).1 = true ∧ (q.push item).2.items = q.items ++ [item] := by
  rw [push, dif_pos h]
  exact ⟨rfl, rfl⟩

lemma push_of_full {q : BoundedQueue α capacity} (h : q.items.length = capacity) (item : α) :
    q.push item = (false, q) := by
  rw [push, dif_neg (by omega)]

@[simp] lemma pushAll_nil (q : BoundedQueue α capacity) : q.pushAll [] = (0, q) := by
  simp [pushAll]

lemma pushAll_of_full {q : BoundedQueue α capacity} (h : q.items.length = capacity) (items : List α) :
    q.pushAll items = (0, q) := by
  have hroom : q.room = 0 := by rw [room, h, Nat.sub_self]
  simp [pushAll, hroom]

/-- Items that are pushed together go in one by one, until one is refused. -/
theorem pushAll_cons (q : BoundedQueue α capacity) (item : α) (items : List α) :
    q.pushAll (item :: items) =
      if (q.push item).1 then
        (((q.push item).2.pushAll items).1 + 1, ((q.push item).2.pushAll items).2)
      else (0, q) := by
  by_cases h : q.items.length < capacity
  · obtain ⟨hyes, hitems⟩ := push_of_room h item
    have hroom : q.room = (q.push item).2.room + 1 := by
      rw [room, room, hitems, List.length_append, List.length_singleton]
      omega
    rw [if_pos hyes]
    apply Prod.ext
    · change min (items.length + 1) q.room = min items.length (q.push item).2.room + 1
      omega
    · apply BoundedQueue.ext
      change q.items ++ (item :: items).take q.room =
        (q.push item).2.items ++ items.take (q.push item).2.room
      rw [hroom, hitems, List.take_succ_cons, List.append_assoc]
      rfl
  · have hfull : q.items.length = capacity := by
      have hle := q.length_le
      omega
    rw [push_of_full hfull, pushAll_of_full hfull]
    rfl

/-! ### Runs -/

/-- What a queue can be asked to do. -/
inductive Request (α : Type*) where
  | push (item : α)
  | pushAll (items : List α)
  | consume (count : Nat)
  | clear

inductive Reply where
  | accepted (yes : Bool)
  | taken (count : Nat)
  | done
deriving DecidableEq

def perform : Request α → BoundedQueue α capacity → Reply × BoundedQueue α capacity
  | .push item, q => (.accepted (q.push item).1, (q.push item).2)
  | .pushAll items, q => (.taken (q.pushAll items).1, (q.pushAll items).2)
  | .consume count, q => (.done, q.consume count)
  | .clear, _ => (.done, empty)

variable {σ τ ρ ι : Type*}

/-- The answers to requests that are performed one after the other, and the state they leave. -/
def run (step : ι → σ → ρ × σ) : List ι → σ → List ρ × σ
  | [], s => ([], s)
  | request :: requests, s =>
    ((step request s).1 :: (run step requests (step request s).2).1, (run step requests (step request s).2).2)

/-- Steps that answer alike and go to corresponding states make runs that do. -/
theorem run_refines {step : ι → σ → ρ × σ} {step' : ι → τ → ρ × τ} (view : σ → τ)
    (hstep : ∀ request s, step' request (view s) = Prod.map id view (step request s)) (requests : List ι) (s : σ) :
    run step' requests (view s) = Prod.map id view (run step requests s) := by
  induction requests generalizing s with
  | nil => rfl
  | cons request requests ih =>
    simp only [run, hstep, Prod.map_fst, Prod.map_snd, ih, id]
    rfl

end BoundedQueue
