import MyuTcp.Core.RingBuffer
import MyuTcp.Library.BoundedFifo

/-!
# The ring implements a bounded queue

Every operation of {lit}`RingQueue` is the operation of the same name on the list of its
contents.  The ring and the list therefore give the same answers to every sequence of
operations, and the observers of the ring read that list.

Main results:

- Theorem {lit}`exec_refines`: one operation gives the answer of the list and leaves the
  contents that the list has.
- Theorem {lit}`answers_empty`: from the empty queue on, the ring is a bounded queue.
-/

namespace MyuTcp

open Library

namespace RingQueue

variable {T : Type} {Capacity : Nat}

/-! ## Operations as changes of the contents -/

/-- With room for the value, {lit}`try_push` is {lit}`push`. -/
theorem tryPush_of_lt (q : RingQueue T Capacity) (value : T) (h : q.size < Capacity) :
    q.tryPush value = some (q.push value) := by
  rw [tryPush, dif_neg h.ne, push, dif_pos h]

/-- A full queue takes no element. -/
theorem tryPush_of_full (q : RingQueue T Capacity) (value : T) (h : ¬ q.size < Capacity) :
    q.tryPush value = none := by
  have hsize := q.size_le
  rw [tryPush, dif_pos (by omega)]

/-- {lit}`pop` hands out the front and drops it. -/
theorem pop_of_ne (q : RingQueue T Capacity) (h : q.size ≠ 0) :
    q.pop = some (q.front, q.popFront 1) := by
  have hlt : ¬ q.size < 1 := by omega
  simp only [pop, popFront, dif_neg h, if_neg hlt, one_ne_zero, if_false]
  rfl

/-- An empty queue has no element. -/
theorem pop_of_eq (q : RingQueue T Capacity) (h : q.size = 0) : q.pop = none := by
  rw [pop, dif_pos h]

/-- A cleared queue holds nothing. -/
@[simp]
theorem toList_clear (q : RingQueue T Capacity) : q.clear.toList = [] :=
  rfl

/-! ## Observers -/

/-- Access by index is that of the list. -/
theorem get_eq_getElem (q : RingQueue T Capacity) {i : Nat} (h : i < q.toList.length) :
    q.get i = q.toList[i] := by
  have hsize : i < q.size := by rwa [length_toList] at h
  rw [getElem_toList, get_of_lt q (hsize.trans_le q.size_le)]

/-- The front is the head of the list. -/
theorem front_eq_head (q : RingQueue T Capacity) (h : q.toList ≠ []) :
    q.front = q.toList.head h := by
  have hsize : q.size ≠ 0 := by
    rw [← length_toList]
    exact mt List.length_eq_zero_iff.mp h
  have hcons := q.toList_eq_front_cons hsize
  simp only [hcons, List.head_cons]

/-- The slot before the write position is that of the last element. -/
theorem back_eq_getLast (q : RingQueue T Capacity) (h : q.toList ≠ []) :
    q.back = q.toList.getLast h := by
  have hcap := q.capacity_lt
  have hhead := q.head_lt
  have hpos : 0 < q.size := by
    rw [← length_toList]
    exact List.length_pos_iff.mpr h
  rw [List.getLast_eq_getElem, getElem_toList, back, sizeT_of_lt (by omega)]
  refine congrArg q.buffer (slot_congr _ ?_)
  have hmod : (q.head + (Capacity - 1)) % Capacity =
      (q.tail + q.size + (Capacity - 1)) % Capacity := by
    rw [q.head_eq, Nat.mod_add_mod]
  have hleft : q.head + Capacity - 1 = q.head + (Capacity - 1) := by omega
  have hright : q.tail + q.size + (Capacity - 1) = q.tail + (q.size - 1) + Capacity := by omega
  rw [hleft, hmod, hright, Nat.add_mod_right, length_toList]

/-- A queue is full when the list is as long as the capacity. -/
theorem full_iff (q : RingQueue T Capacity) : q.full = true ↔ q.toList.length = Capacity := by
  rw [full, beq_iff_eq, length_toList]

/-! ## Refinement -/

/-- One operation on the ring.  The results {lit}`true` and {lit}`false` and the element that
{lit}`pop` hands out are its answers. -/
def exec (q : RingQueue T Capacity) : FifoOp T → FifoAnswer T × RingQueue T Capacity
  | .push value => (.done, q.push value)
  | .tryPush value =>
      match q.tryPush value with
      | some q' => (.accepted true, q')
      | none => (.accepted false, q)
  | .pushBatch values =>
      match q.pushBatch values with
      | some q' => (.accepted true, q')
      | none => (.accepted false, q)
  | .pop =>
      match q.pop with
      | some (value, q') => (.popped (some value), q')
      | none => (.popped none, q)
  | .popFront n => (.done, q.popFront n)
  | .clear => (.done, q.clear)

/-- One operation gives the answer of the list and leaves the contents that the list has. -/
theorem exec_refines (hpos : 0 < Capacity) (q : RingQueue T Capacity)
    (f : BoundedFifo T Capacity) (op : FifoOp T) (h : q.toList = f.toList) :
    (q.exec op).1 = (f.step hpos op).1 ∧ (q.exec op).2.toList = (f.step hpos op).2.toList := by
  have hlen : q.size = f.toList.length := by rw [← h, length_toList]
  cases op with
  | push value => exact ⟨rfl, by rw [exec, toList_push, h, hlen]; rfl⟩
  | tryPush value =>
      by_cases hfit : q.size < Capacity
      · have hbatch : f.toList.length + [value].length ≤ Capacity := by
          rw [← hlen]
          exact hfit
        simp only [exec, tryPush_of_lt q value hfit, BoundedFifo.step, BoundedFifo.pushBatch,
          dif_pos hbatch, toList_push, if_pos hfit, h, and_self]
      · have hbatch : ¬ f.toList.length + [value].length ≤ Capacity := by
          rw [← hlen]
          exact hfit
        simp only [exec, tryPush_of_full q value hfit, BoundedFifo.step, BoundedFifo.pushBatch,
          dif_neg hbatch, h, and_self]
  | pushBatch values =>
      cases hpush : q.pushBatch values with
      | none =>
          have hbatch : ¬ f.toList.length + values.length ≤ Capacity := by
            rw [← hlen, not_le]
            exact (pushBatch_eq_none_iff q values).mp hpush
          simp only [exec, hpush, BoundedFifo.step, BoundedFifo.pushBatch, dif_neg hbatch, h,
            and_self]
      | some q' =>
          have hbatch : f.toList.length + values.length ≤ Capacity := by
            rw [← hlen, ← not_lt, ← pushBatch_eq_none_iff, hpush]
            simp
          simp only [exec, hpush, BoundedFifo.step, BoundedFifo.pushBatch, dif_pos hbatch,
            toList_pushBatch hpush, h, and_self]
  | pop =>
      by_cases hzero : q.size = 0
      · have hnil : f.toList = [] := List.length_eq_zero_iff.mp (hlen ▸ hzero)
        simp only [exec, pop_of_eq q hzero, BoundedFifo.step, BoundedFifo.popFront, h, hnil,
          List.head?_nil, List.drop_nil, and_self]
      · have hcons := q.toList_eq_front_cons hzero
        rw [h] at hcons
        simp only [exec, pop_of_ne q hzero, BoundedFifo.step, BoundedFifo.popFront,
          toList_popFront, h, and_true]
        rw [hcons, List.head?_cons]
  | popFront n => exact ⟨rfl, by rw [exec, toList_popFront, h]; rfl⟩
  | clear => exact ⟨rfl, rfl⟩

/-- The ring represents a list: its counters are in range and consistent, and its observers
read the list. -/
structure Represents (q : RingQueue T Capacity) (l : List T) : Prop where
  head_lt : q.head < Capacity
  tail_lt : q.tail < Capacity
  size_le : q.size ≤ Capacity
  head_eq : q.head = (q.tail + q.size) % Capacity
  size_eq : q.size = l.length
  isEmpty_eq : q.isEmpty = l.isEmpty
  full_iff : q.full = true ↔ l.length = Capacity
  get_eq : ∀ (i : Nat) (h : i < l.length), q.get i = l[i]
  front_eq : ∀ h : l ≠ [], q.front = l.head h
  back_eq : ∀ h : l ≠ [], q.back = l.getLast h

/-- A queue represents its own list. -/
theorem represents_toList (q : RingQueue T Capacity) : q.Represents q.toList where
  head_lt := q.head_lt
  tail_lt := q.tail_lt
  size_le := q.size_le
  head_eq := q.head_eq
  size_eq := q.length_toList.symm
  isEmpty_eq := by
    rw [Bool.eq_iff_iff, isEmpty_iff, List.isEmpty_iff]
  full_iff := q.full_iff
  get_eq _ h := q.get_eq_getElem h
  front_eq h := q.front_eq_head h
  back_eq h := q.back_eq_getLast h

/-- From the empty queue on, the ring gives the answers of a bounded queue and represents its
contents, whatever the operations. -/
theorem answers_empty [Inhabited T] (hpos : 0 < Capacity) (hlt : Capacity < 2 ^ 63)
    (ops : List (FifoOp T)) :
    (answers exec (empty hpos hlt : RingQueue T Capacity) ops).1 =
        (answers (BoundedFifo.step hpos) BoundedFifo.empty ops).1 ∧
      (answers exec (empty hpos hlt : RingQueue T Capacity) ops).2.Represents
        (answers (BoundedFifo.step hpos) BoundedFifo.empty ops).2.toList := by
  have hstart : (empty hpos hlt : RingQueue T Capacity).toList =
      (BoundedFifo.empty : BoundedFifo T Capacity).toList := rfl
  have hrun := answers_congr
    (R := fun (q : RingQueue T Capacity) (f : BoundedFifo T Capacity) => q.toList = f.toList)
    (exec_refines hpos) hstart ops
  refine ⟨hrun.1, ?_⟩
  rw [← hrun.2]
  exact represents_toList _

/-- A ring of two slots that overwrites, refuses a batch and wraps around. -/
theorem answers_empty_overwrite :
    (answers exec (empty (by decide) (by decide) : RingQueue Nat 2)
        [.push 1, .push 2, .push 3, .pushBatch [4], .pop, .tryPush 5, .popFront 9]).1 =
      (answers (BoundedFifo.step (by decide)) (BoundedFifo.empty : BoundedFifo Nat 2)
        [.push 1, .push 2, .push 3, .pushBatch [4], .pop, .tryPush 5, .popFront 9]).1 :=
  (answers_empty (by decide) (by decide) _).1

end RingQueue

end MyuTcp
