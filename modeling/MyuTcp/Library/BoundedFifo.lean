import Mathlib

/-!
# Bounded first-in first-out queues

The queue that a ring buffer implements: a list, oldest element first, that is never longer
than its capacity.  The operations answer as those of an implementation do, and a run of
operations gives the list of the answers.

Main results:

- Theorem {lit}`answers_congr`: two systems whose operations answer alike and keep a relation
  between their states answer alike along every list of operations, and end in related states.
-/

namespace MyuTcp.Library

/-! ## Systems that answer -/

section Answers

variable {σ τ ι ο : Type*}

/-- The answers to a list of operations, and the state after them. -/
def answers (step : σ → ι → ο × σ) : σ → List ι → List ο × σ
  | s, [] => ([], s)
  | s, i :: is =>
      ((step s i).1 :: (answers step (step s i).2 is).1, (answers step (step s i).2 is).2)

/-- Operations that answer alike and keep a relation answer alike along every list. -/
theorem answers_congr {step : σ → ι → ο × σ} {step' : τ → ι → ο × τ} {R : σ → τ → Prop}
    (hstep : ∀ s t i, R s t → (step s i).1 = (step' t i).1 ∧ R (step s i).2 (step' t i).2)
    {s : σ} {t : τ} (h : R s t) (is : List ι) :
    (answers step s is).1 = (answers step' t is).1 ∧
      R (answers step s is).2 (answers step' t is).2 := by
  induction is generalizing s t with
  | nil => exact ⟨rfl, h⟩
  | cons i is ih =>
      rcases hstep s t i h with ⟨hanswer, hnext⟩
      rcases ih hnext with ⟨hrest, hlast⟩
      simp only [answers, hanswer, hrest, true_and]
      exact hlast

end Answers

/-! ## The queue -/

/-- The operations of a queue. -/
inductive FifoOp (α : Type*)
  | push (a : α)
  | tryPush (a : α)
  | pushBatch (l : List α)
  | pop
  | popFront (n : Nat)
  | clear

/-- The answer to an operation: nothing, whether it was carried out, or the element that was
removed, if there was one. -/
inductive FifoAnswer (α : Type*)
  | done
  | accepted (b : Bool)
  | popped (a : Option α)

/-- A list of at most {lit}`capacity` elements, oldest first. -/
@[ext]
structure BoundedFifo (α : Type*) (capacity : Nat) where
  toList : List α
  length_le : toList.length ≤ capacity

namespace BoundedFifo

variable {α : Type*} {capacity : Nat}

/-- The list without elements. -/
def empty : BoundedFifo α capacity where
  toList := []
  length_le := Nat.zero_le _

/-- Append; a full queue loses its oldest element. -/
def push (f : BoundedFifo α capacity) (hpos : 0 < capacity) (a : α) : BoundedFifo α capacity where
  toList := (if f.toList.length < capacity then f.toList else f.toList.drop 1) ++ [a]
  length_le := by
    have hle := f.length_le
    rw [List.length_append, List.length_singleton]
    split
    · omega
    · rw [List.length_drop]
      omega

/-- Append all elements, or none when they do not fit. -/
def pushBatch (f : BoundedFifo α capacity) (l : List α) : Bool × BoundedFifo α capacity :=
  if h : f.toList.length + l.length ≤ capacity then
    (true, { toList := f.toList ++ l, length_le := by rwa [List.length_append] })
  else (false, f)

/-- Remove the oldest elements. -/
def popFront (f : BoundedFifo α capacity) (n : Nat) : BoundedFifo α capacity where
  toList := f.toList.drop n
  length_le := by
    rw [List.length_drop]
    exact (Nat.sub_le _ _).trans f.length_le

/-- One operation.  A single element is appended like a batch, or replaces the oldest one. -/
def step (hpos : 0 < capacity) (f : BoundedFifo α capacity) :
    FifoOp α → FifoAnswer α × BoundedFifo α capacity
  | .push a => (.done, f.push hpos a)
  | .tryPush a => (.accepted (f.pushBatch [a]).1, (f.pushBatch [a]).2)
  | .pushBatch l => (.accepted (f.pushBatch l).1, (f.pushBatch l).2)
  | .pop => (.popped f.toList.head?, f.popFront 1)
  | .popFront n => (.done, f.popFront n)
  | .clear => (.done, empty)

end BoundedFifo

end MyuTcp.Library
