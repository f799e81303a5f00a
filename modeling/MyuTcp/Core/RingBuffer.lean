import Mathlib

/-!
# RingQueue

The fixed-capacity ring of {lit}`include/myutcp/core/RingBuffer.h`.  The three
counters are stored as in the source; the relation between them is carried by
the structure, so that every queue that can be built is well formed.  Index
arithmetic is done in {lit}`size_t`, that is modulo 2^64.

Main results:

- Theorem {lit}`toList_pushBatch`: a successful batch appends all its values.
- Theorem {lit}`pushBatch_eq_none_iff`: a batch is refused exactly when it does
  not fit the free space.
- Theorem {lit}`toList_popFront`: popping drops the oldest elements.
- Theorem {lit}`peekRange_eq`: a peek is a slice of the contents as long as
  {lit}`offset + n` does not overflow {lit}`size_t`.
- Theorem {lit}`toList_push`: a push appends, and drops the oldest element of a
  full queue.
-/

namespace MyuTcp

/-- Value of a {lit}`size_t` computation. -/
def sizeT (n : Nat) : Nat := n % 2 ^ 64

/-- Below 2^64 the counter does not wrap. -/
theorem sizeT_of_lt {n : Nat} (h : n < 2 ^ 64) : sizeT n = n :=
  Nat.mod_eq_of_lt h

/-- The ring: a backing array, the write position {lit}`head`, the read position
{lit}`tail` and the number of stored elements. -/
structure RingQueue (T : Type) (Capacity : Nat) where
  buffer : Fin Capacity → T
  head : Nat
  tail : Nat
  size : Nat
  capacity_lt : Capacity < 2 ^ 63
  tail_lt : tail < Capacity
  size_le : size ≤ Capacity
  head_eq : head = (tail + size) % Capacity

namespace RingQueue

variable {T : Type} {Capacity : Nat}

/-- A queue has room for at least one element. -/
theorem capacity_pos (q : RingQueue T Capacity) : 0 < Capacity :=
  Nat.zero_lt_of_lt q.tail_lt

/-- The head is an index of the buffer. -/
theorem head_lt (q : RingQueue T Capacity) : q.head < Capacity := by
  rw [q.head_eq]
  exact Nat.mod_lt _ q.capacity_pos

/-- Array slot of a position reduced modulo the capacity. -/
def slot (hcap : 0 < Capacity) (i : Nat) : Fin Capacity :=
  ⟨i % Capacity, Nat.mod_lt _ hcap⟩

/-! ## Operations -/

/-- The default-constructed queue. -/
def empty [Inhabited T] (hpos : 0 < Capacity) (hlt : Capacity < 2 ^ 63) :
    RingQueue T Capacity where
  buffer := fun _ => default
  head := 0
  tail := 0
  size := 0
  capacity_lt := hlt
  tail_lt := hpos
  size_le := Nat.zero_le _
  head_eq := (Nat.zero_mod _).symm

/-- The successor position {lit}`(i + 1) % Capacity`. -/
def nextIndex (Capacity i : Nat) : Nat := sizeT (i + 1) % Capacity

/-- The next index is the sum modulo the capacity. -/
theorem nextIndex_eq (q : RingQueue T Capacity) {i : Nat} (h : i < Capacity) :
    nextIndex Capacity i = (i + 1) % Capacity := by
  have := q.capacity_lt
  rw [nextIndex, sizeT_of_lt (by omega)]

/-- Store a value at the head and advance; a full queue loses its oldest element. -/
def push (q : RingQueue T Capacity) (value : T) : RingQueue T Capacity :=
  if h : q.size < Capacity then
    { q with
      buffer := Function.update q.buffer (slot q.capacity_pos q.head) value
      head := nextIndex Capacity q.head
      size := q.size + 1
      size_le := h
      head_eq := by
        rw [nextIndex_eq q q.head_lt, q.head_eq, Nat.mod_add_mod, Nat.add_assoc] }
  else
    { q with
      buffer := Function.update q.buffer (slot q.capacity_pos q.head) value
      head := nextIndex Capacity q.head
      tail := nextIndex Capacity q.tail
      tail_lt := Nat.mod_lt _ q.capacity_pos
      head_eq := by
        rw [nextIndex_eq q q.head_lt, nextIndex_eq q q.tail_lt, q.head_eq, Nat.mod_add_mod,
          Nat.mod_add_mod]
        congr 1
        omega }

/-- The loop of {lit}`push_batch`: write each value at the head and move on. -/
def writeBatch (hcap : 0 < Capacity) :
    (Fin Capacity → T) → Nat → List T → (Fin Capacity → T) × Nat
  | buffer, head, [] => (buffer, head)
  | buffer, head, value :: values =>
      writeBatch hcap (Function.update buffer (slot hcap head) value)
        (nextIndex Capacity head) values

/-- After a batch the head has moved by its length. -/
theorem writeBatch_head (q : RingQueue T Capacity) (buffer : Fin Capacity → T) (head : Nat)
    (values : List T) (hhead : head < Capacity) :
    (writeBatch q.capacity_pos buffer head values).2 = (head + values.length) % Capacity := by
  induction values generalizing buffer head with
  | nil => exact (Nat.mod_eq_of_lt hhead).symm
  | cons value values ih =>
      rw [writeBatch, nextIndex_eq q hhead, ih _ _ (Nat.mod_lt _ q.capacity_pos),
        Nat.mod_add_mod, List.length_cons]
      congr 1
      omega

/-- Append a batch; {lit}`none` is the {lit}`false` of a batch that does not fit. -/
def pushBatch (q : RingQueue T Capacity) (values : List T) : Option (RingQueue T Capacity) :=
  if h : Capacity - q.size < values.length then none
  else
    some
      { q with
        buffer := (writeBatch q.capacity_pos q.buffer q.head values).1
        head := (writeBatch q.capacity_pos q.buffer q.head values).2
        size := q.size + values.length
        size_le := by have := q.size_le; omega
        head_eq := by
          rw [writeBatch_head q _ _ _ q.head_lt, q.head_eq, Nat.mod_add_mod, Nat.add_assoc] }

/-- Whether every array slot is in use. -/
def full (q : RingQueue T Capacity) : Bool := q.size == Capacity

/-- Whether no element is stored. -/
def isEmpty (q : RingQueue T Capacity) : Bool := q.size == 0

/-- The number of array slots. -/
def capacity (_ : RingQueue T Capacity) : Nat := Capacity

/-- Append one value; {lit}`none` is the {lit}`false` of a full queue. -/
def tryPush (q : RingQueue T Capacity) (value : T) : Option (RingQueue T Capacity) :=
  if h : q.size = Capacity then none
  else
    some
      { q with
        buffer := Function.update q.buffer (slot q.capacity_pos q.head) value
        head := nextIndex Capacity q.head
        size := q.size + 1
        size_le := by have := q.size_le; omega
        head_eq := by
          rw [nextIndex_eq q q.head_lt, q.head_eq, Nat.mod_add_mod, Nat.add_assoc] }

/-- The element at a logical index, the {lit}`operator[]` of the source. -/
def get (q : RingQueue T Capacity) (logicalIndex : Nat) : T :=
  q.buffer (slot q.capacity_pos (sizeT (q.tail + logicalIndex)))

/-- Number of elements that {lit}`peek_range` decides to copy. -/
def peekCount (q : RingQueue T Capacity) (offset n : Nat) : Nat :=
  if q.size < sizeT (offset + n) then q.size - offset else n

/-- Copy up to {lit}`n` elements from a logical offset. -/
def peekRange (q : RingQueue T Capacity) (offset n : Nat) : List T :=
  if q.size ≤ offset ∨ n = 0 then []
  else (List.range (q.peekCount offset n)).map fun i => q.get (sizeT (offset + i))

/-- Drop up to {lit}`n` of the oldest elements. -/
def popFront (q : RingQueue T Capacity) (n : Nat) : RingQueue T Capacity :=
  if n = 0 then q
  else
    { q with
      tail := sizeT (q.tail + if q.size < n then q.size else n) % Capacity
      size := q.size - if q.size < n then q.size else n
      tail_lt := Nat.mod_lt _ q.capacity_pos
      size_le := (Nat.sub_le _ _).trans q.size_le
      head_eq := by
        have hcap := q.capacity_lt
        have htail := q.tail_lt
        have hsize := q.size_le
        rw [sizeT_of_lt (by split <;> omega), q.head_eq, Nat.mod_add_mod]
        congr 1
        split <;> omega }

/-- The oldest stored element. -/
def front (q : RingQueue T Capacity) : T := q.buffer ⟨q.tail, q.tail_lt⟩

/-- The newest stored element. -/
def back (q : RingQueue T Capacity) : T :=
  q.buffer (slot q.capacity_pos (sizeT (q.head + Capacity - 1)))

/-- Remove the oldest element and return it. -/
def pop (q : RingQueue T Capacity) : Option (T × RingQueue T Capacity) :=
  if h : q.size = 0 then none
  else
    some (q.front,
      { q with
        tail := nextIndex Capacity q.tail
        size := q.size - 1
        tail_lt := Nat.mod_lt _ q.capacity_pos
        size_le := (Nat.sub_le _ _).trans q.size_le
        head_eq := by
          rw [nextIndex_eq q q.tail_lt, q.head_eq, Nat.mod_add_mod]
          congr 1
          omega })

/-- Reset the three counters. -/
def clear (q : RingQueue T Capacity) : RingQueue T Capacity :=
  { q with
    head := 0
    tail := 0
    size := 0
    tail_lt := q.capacity_pos
    size_le := Nat.zero_le _
    head_eq := (Nat.zero_mod _).symm }

/-! ## Contents -/

/-- The stored elements, oldest first. -/
def toList (q : RingQueue T Capacity) : List T :=
  (List.range q.size).map q.get

/-- The queue holds as many elements as its size says. -/
@[simp]
theorem length_toList (q : RingQueue T Capacity) : q.toList.length = q.size := by
  simp [toList]

/-- A queue is empty exactly when it holds no element. -/
theorem isEmpty_iff (q : RingQueue T Capacity) : q.isEmpty = true ↔ q.toList = [] := by
  rw [isEmpty, beq_iff_eq, ← List.length_eq_zero_iff, length_toList]

/-- A new queue holds nothing. -/
@[simp]
theorem toList_empty [Inhabited T] (hpos : 0 < Capacity) (hlt : Capacity < 2 ^ 63) :
    (empty hpos hlt : RingQueue T Capacity).toList = [] :=
  rfl

/-- An index inside the buffer is a slot behind the tail. -/
theorem get_of_lt (q : RingQueue T Capacity) {i : Nat} (h : i < Capacity) :
    q.get i = q.buffer (slot q.capacity_pos (q.tail + i)) := by
  have hcap := q.capacity_lt
  have htail := q.tail_lt
  rw [get, sizeT_of_lt (by omega)]

/-- The elements of the queue are the slots behind the tail. -/
theorem getElem_toList (q : RingQueue T Capacity) {i : Nat} (h : i < q.toList.length) :
    q.toList[i] = q.buffer (slot q.capacity_pos (q.tail + i)) := by
  have hi : i < q.size := by simpa using h
  simp only [toList, List.getElem_map, List.getElem_range]
  exact q.get_of_lt (hi.trans_le q.size_le)

/-- Indices that agree modulo the capacity are one slot. -/
theorem slot_congr (hcap : 0 < Capacity) {i j : Nat} (h : i % Capacity = j % Capacity) :
    slot hcap i = slot hcap j :=
  Fin.ext h

/-- Positions less than a full turn apart have different slots. -/
theorem slot_ne (hcap : 0 < Capacity) {i j : Nat} (hij : i < j) (hlt : j < i + Capacity) :
    slot hcap i ≠ slot hcap j := by
  intro h
  have hmod : i % Capacity = j % Capacity := congrArg Fin.val h
  have hi := Nat.div_add_mod i Capacity
  have hj := Nat.div_add_mod j Capacity
  rcases Nat.lt_trichotomy (i / Capacity) (j / Capacity) with hd | hd | hd
  · have := Nat.mul_le_mul_left Capacity (Nat.succ_le_of_lt hd)
    rw [Nat.mul_succ] at this
    omega
  · rw [hd] at hi
    omega
  · have := Nat.mul_le_mul_left Capacity (Nat.succ_le_of_lt hd)
    rw [Nat.mul_succ] at this
    omega

/-- The batch loop writes its values at consecutive positions and nothing else. -/
theorem writeBatch_buffer (q : RingQueue T Capacity) (buffer : Fin Capacity → T) (head : Nat)
    (values : List T) (hhead : head < Capacity) (hlen : values.length ≤ Capacity) :
    (∀ i (h : i < values.length),
      (writeBatch q.capacity_pos buffer head values).1 (slot q.capacity_pos (head + i)) =
        values[i]) ∧
    ∀ s, (∀ i < values.length, s ≠ slot q.capacity_pos (head + i)) →
      (writeBatch q.capacity_pos buffer head values).1 s = buffer s := by
  induction values generalizing buffer head with
  | nil => exact ⟨fun i h => absurd h (Nat.not_lt_zero i), fun s _ => rfl⟩
  | cons value values ih =>
      rw [List.length_cons] at hlen
      have hnext : nextIndex Capacity head < Capacity := Nat.mod_lt _ q.capacity_pos
      have hslot : ∀ i, slot q.capacity_pos (nextIndex Capacity head + i) =
          slot q.capacity_pos (head + (i + 1)) := by
        intro i
        refine slot_congr _ ?_
        rw [nextIndex_eq q hhead, Nat.mod_add_mod]
        congr 1
        omega
      obtain ⟨hwritten, hkept⟩ := ih (Function.update buffer (slot q.capacity_pos head) value)
        (nextIndex Capacity head) hnext (by omega)
      constructor
      · intro i hi
        rw [writeBatch]
        cases i with
        | zero =>
            rw [hkept]
            · simp
            · intro j hj
              rw [hslot]
              exact slot_ne _ (by omega) (by omega)
        | succ i =>
            rw [List.length_cons] at hi
            rw [← hslot i, hwritten i (by omega), List.getElem_cons_succ]
      · intro s hs
        rw [writeBatch, hkept]
        · refine Function.update_of_ne ?_ _ _
          simpa using hs 0 (by simp)
        · intro i hi
          rw [hslot]
          exact hs (i + 1) (by simpa using hi)

/-- A batch is refused exactly when it does not fit the free space. -/
theorem pushBatch_eq_none_iff (q : RingQueue T Capacity) (values : List T) :
    q.pushBatch values = none ↔ Capacity < q.size + values.length := by
  have := q.size_le
  rw [pushBatch]
  split <;> simp <;> omega

/-- A successful batch appends all its values. -/
theorem toList_pushBatch {q q' : RingQueue T Capacity} {values : List T}
    (h : q.pushBatch values = some q') : q'.toList = q.toList ++ values := by
  rw [pushBatch] at h
  split at h <;> rename_i hfit
  · contradiction
  have hsize := q.size_le
  obtain ⟨hwritten, hkept⟩ :=
    writeBatch_buffer q q.buffer q.head values q.head_lt (by omega)
  have hhead : ∀ i, slot q.capacity_pos (q.head + i) =
      slot q.capacity_pos (q.tail + (q.size + i)) := by
    intro i
    refine slot_congr _ ?_
    rw [q.head_eq, Nat.mod_add_mod, Nat.add_assoc]
  simp only [Option.some.injEq] at h
  subst h
  refine List.ext_getElem (by simp) ?_
  intro i hi hi'
  rw [getElem_toList]
  dsimp only
  by_cases hold : i < q.toList.length
  · rw [List.getElem_append_left hold, getElem_toList]
    rw [length_toList] at hold
    refine hkept _ ?_
    intro j hj
    rw [hhead]
    exact slot_ne _ (by omega) (by omega)
  · rw [List.getElem_append_right (by omega)]
    rw [length_toList] at hold
    have hlt : i < q.size + values.length := by simpa using hi'
    have hpos : q.tail + i = q.tail + (q.size + (i - q.size)) := by omega
    simp only [hpos, ← hhead, length_toList]
    exact hwritten (i - q.size) (by omega)

/-- Popping drops the oldest elements. -/
theorem toList_popFront (q : RingQueue T Capacity) (n : Nat) :
    (q.popFront n).toList = q.toList.drop n := by
  have hcap := q.capacity_lt
  have htail := q.tail_lt
  have hsize := q.size_le
  rw [popFront]
  split <;> rename_i hn
  · simp [hn]
  refine List.ext_getElem ?_ ?_
  · simp only [length_toList, List.length_drop]
    split <;> omega
  · intro i hi hi'
    rw [length_toList] at hi
    have hlt : i < q.size - n := by simpa using hi'
    rw [getElem_toList, List.getElem_drop, getElem_toList]
    refine congrArg q.buffer (slot_congr _ ?_)
    dsimp only
    rw [sizeT_of_lt (by split <;> omega), Nat.mod_add_mod, if_neg (by omega)]
    congr 1
    omega

/-- Popping takes as many elements as there are, at most. -/
theorem size_popFront (q : RingQueue T Capacity) (n : Nat) :
    (q.popFront n).size = q.size - n := by
  rw [← length_toList, toList_popFront, List.length_drop, length_toList]

/-- A peek is a slice of the contents, provided that {lit}`offset + n` fits a
{lit}`size_t`. -/
theorem peekRange_eq (q : RingQueue T Capacity) {offset n : Nat}
    (h : offset + n < 2 ^ 64) :
    q.peekRange offset n = (q.toList.drop offset).take n := by
  have hcap := q.capacity_lt
  have hsize := q.size_le
  rw [peekRange]
  split <;> rename_i hoff
  · rcases hoff with hoff | hn
    · rw [List.drop_eq_nil_of_le (by simpa using hoff), List.take_nil]
    · simp [hn]
  · have hcount : q.peekCount offset n = min n (q.size - offset) := by
      rw [peekCount, sizeT_of_lt h]
      split <;> omega
    rw [hcount]
    refine List.ext_getElem (by simp) ?_
    intro i hi hi'
    have hlt : i < min n (q.size - offset) := by simpa using hi
    rw [List.getElem_map, List.getElem_range, List.getElem_take, List.getElem_drop,
      getElem_toList, sizeT_of_lt (by omega), get_of_lt q (by omega)]

/-- The front of a non-empty queue is its first element. -/
theorem toList_eq_front_cons (q : RingQueue T Capacity) (h : q.size ≠ 0) :
    q.toList = q.front :: (q.popFront 1).toList := by
  rw [toList_popFront, front]
  have hlen : 0 < q.toList.length := by rw [length_toList]; omega
  have hhead : q.toList[0] = q.buffer ⟨q.tail, q.tail_lt⟩ := by
    rw [getElem_toList]
    exact congrArg q.buffer (Fin.ext (Nat.mod_eq_of_lt q.tail_lt))
  rw [← hhead]
  exact (List.drop_zero (l := q.toList)).symm.trans (List.drop_eq_getElem_cons hlen)

/-- A push appends, and drops the oldest element of a full queue. -/
theorem toList_push (q : RingQueue T Capacity) (value : T) :
    (q.push value).toList =
      (if q.size < Capacity then q.toList else q.toList.drop 1) ++ [value] := by
  have hcap := q.capacity_lt
  have hsize := q.size_le
  have hwrite : ∀ i, i < q.size → q.size = Capacity → i ≠ 0 ∨ q.size < Capacity →
      slot q.capacity_pos (q.tail + i) ≠ slot q.capacity_pos q.head := by
    intro i hi hfull hne h
    have hmod : slot q.capacity_pos q.head = slot q.capacity_pos (q.tail + q.size) :=
      slot_congr _ (by rw [q.head_eq, Nat.mod_mod])
    rw [hmod] at h
    exact slot_ne q.capacity_pos (by omega) (by omega) h
  have hhead : slot q.capacity_pos q.head = slot q.capacity_pos (q.tail + q.size) :=
    slot_congr _ (by rw [q.head_eq, Nat.mod_mod])
  rw [push]
  split <;> rename_i hlt
  · refine List.ext_getElem (by simp) ?_
    intro i hi hi'
    rw [getElem_toList]
    dsimp only
    by_cases hold : i < q.toList.length
    · rw [List.getElem_append_left hold, getElem_toList]
      rw [length_toList] at hold
      rw [hhead]
      exact Function.update_of_ne (slot_ne _ (by omega) (by omega)) _ _
    · rw [List.getElem_append_right (by omega)]
      rw [length_toList] at hold
      have hi : i = q.size := by
        have : i < q.size + 1 := by simpa using hi'
        omega
      subst hi
      simp [hhead]
  · refine List.ext_getElem (by simp; omega) ?_
    intro i hi hi'
    rw [length_toList] at hi
    rw [getElem_toList]
    have hnext : slot q.capacity_pos (nextIndex Capacity q.tail + i) =
        slot q.capacity_pos (q.tail + (i + 1)) := by
      refine slot_congr _ ?_
      rw [nextIndex_eq q q.tail_lt, Nat.mod_add_mod]
      congr 1
      omega
    simp only [hnext]
    by_cases hold : i < (q.toList.drop 1).length
    · rw [List.getElem_append_left hold, List.getElem_drop, getElem_toList]
      have hlt' : i < q.size - 1 := by simpa using hold
      rw [Nat.add_comm 1 i]
      exact Function.update_of_ne (hwrite _ (by omega) (by omega) (by omega)) _ _
    · rw [List.getElem_append_right (by omega)]
      have hge : ¬ i < q.size - 1 := by simpa using hold
      have hi1 : i + 1 = q.size := by simp only at hi; omega
      rw [hi1, ← hhead]
      simp

end RingQueue

end MyuTcp
