import MyuTcp.Core.RingBuffer

/-!
# Peeking at a range of the ring

{lit}`peek_range` clamps its count with {lit}`offset + n > size_` and reserves the clamped count
before it copies.  When the sum overflows {lit}`size_t` the count is not clamped, and the
reservation of more elements than a {lit}`std::vector` can hold throws.

Main results:

- Theorem {lit}`peekCount_of_overflow`: an overflowing sum leaves the count as it is.
- Theorem {lit}`lt_size_of_mem_peekReads`: the loop reads stored elements only.
- Theorem {lit}`peekRangeReserved_iff`: a peek returns the slice unless the sum overflows.
-/

namespace MyuTcp

/-- The {lit}`max_size` of a vector.  A vector can be as long as an array, and its iterators
have a signed distance. -/
structure VectorLimit (Capacity : Nat) where
  value : Nat
  capacity_le : Capacity ≤ value
  lt : value < 2 ^ 63

namespace RingQueue

variable {T : Type} {Capacity : Nat}

/-- {lit}`peek_range` with its reservation; {lit}`none` is {lit}`std::length_error`. -/
def peekRangeReserved (limit : VectorLimit Capacity) (q : RingQueue T Capacity)
    (offset n : UInt64) : Option (List T) :=
  if q.size ≤ offset.toNat ∨ n.toNat = 0 then some []
  else if limit.value < q.peekCount offset.toNat n.toNat then none
  else
    some ((List.range (q.peekCount offset.toNat n.toNat)).map fun i =>
      q.get (sizeT (offset.toNat + i)))

/-- The logical indices that its loop reads. -/
def peekReads (limit : VectorLimit Capacity) (q : RingQueue T Capacity) (offset n : UInt64) :
    List Nat :=
  if q.size ≤ offset.toNat ∨ n.toNat = 0 then []
  else if limit.value < q.peekCount offset.toNat n.toNat then []
  else (List.range (q.peekCount offset.toNat n.toNat)).map fun i => sizeT (offset.toNat + i)

/-- The arguments whose sum wraps around while the offset is inside the queue. -/
def PeekOverflows (q : RingQueue T Capacity) (offset n : UInt64) : Prop :=
  offset.toNat < q.size ∧ 2 ^ 64 ≤ offset.toNat + n.toNat

instance (q : RingQueue T Capacity) (offset n : UInt64) : Decidable (q.PeekOverflows offset n) :=
  inferInstanceAs (Decidable (_ ∧ _))

variable (q : RingQueue T Capacity) {offset n : UInt64}

/-- The wrapped sum lies below the offset, so the count is not clamped. -/
theorem peekCount_of_overflow (h : q.PeekOverflows offset n) :
    q.peekCount offset.toNat n.toNat = n.toNat := by
  obtain ⟨hoffset, hsum⟩ := h
  have hcap := q.capacity_lt
  have hsize := q.size_le
  have hn := n.toNat_lt
  have hwrapped : sizeT (offset.toNat + n.toNat) = offset.toNat + n.toNat - 2 ^ 64 := by
    rw [sizeT]
    omega
  rw [peekCount, hwrapped, if_neg (by omega)]

theorem peekCount_of_not_overflow (hoffset : offset.toNat < q.size)
    (h : ¬ q.PeekOverflows offset n) :
    q.peekCount offset.toNat n.toNat = min n.toNat (q.size - offset.toNat) := by
  have hsum : offset.toNat + n.toNat < 2 ^ 64 := by
    by_contra hge
    exact h ⟨hoffset, not_lt.mp hge⟩
  rw [peekCount, sizeT_of_lt hsum]
  split <;> omega

/-- A clamped count can be reserved, and the copy is the slice. -/
theorem peekRangeReserved_of_not_overflow (limit : VectorLimit Capacity)
    (h : ¬ q.PeekOverflows offset n) :
    q.peekRangeReserved limit offset n =
      some ((q.toList.drop offset.toNat).take n.toNat) := by
  by_cases hempty : q.size ≤ offset.toNat ∨ n.toNat = 0
  · rw [peekRangeReserved, if_pos hempty]
    rcases hempty with hoffset | hn
    · rw [List.drop_eq_nil_of_le (by rwa [length_toList]), List.take_nil]
    · rw [hn, List.take_zero]
  · have hoffset : offset.toNat < q.size := by omega
    have hsum : offset.toNat + n.toNat < 2 ^ 64 := by
      by_contra hge
      exact h ⟨hoffset, not_lt.mp hge⟩
    have hfit : ¬ limit.value < q.peekCount offset.toNat n.toNat := by
      have hsize := q.size_le
      have hlimit := limit.capacity_le
      rw [q.peekCount_of_not_overflow hoffset h]
      omega
    have hcopy := q.peekRange_eq hsum
    rw [peekRange, if_neg hempty] at hcopy
    rw [peekRangeReserved, if_neg hempty, if_neg hfit, hcopy]

/-- An unclamped count exceeds what a vector can hold. -/
theorem peekRangeReserved_of_overflow (limit : VectorLimit Capacity)
    (h : q.PeekOverflows offset n) : q.peekRangeReserved limit offset n = none := by
  have hcap := q.capacity_lt
  have hsize := q.size_le
  have hlimit := limit.lt
  have hoffset := h.1
  have hsum := h.2
  rw [peekRangeReserved, if_neg (by omega), q.peekCount_of_overflow h, if_pos (by omega)]

/-- The loop reads stored elements only: it is not entered with an unclamped count. -/
theorem lt_size_of_mem_peekReads (limit : VectorLimit Capacity) {i : Nat}
    (hi : i ∈ q.peekReads limit offset n) : i < q.size := by
  rw [peekReads] at hi
  split at hi <;> rename_i hempty
  · exact absurd hi List.not_mem_nil
  split at hi <;> rename_i hfit
  · exact absurd hi List.not_mem_nil
  have hcap := q.capacity_lt
  have hsize := q.size_le
  have hlimit := limit.lt
  have hnot : ¬ q.PeekOverflows offset n := by
    intro h
    rw [q.peekCount_of_overflow h] at hfit
    have hsum := h.2
    omega
  rcases List.mem_map.mp hi with ⟨j, hj, rfl⟩
  rw [List.mem_range, q.peekCount_of_not_overflow (by omega) hnot] at hj
  rw [sizeT_of_lt (by omega)]
  omega

/-- A peek returns the slice, and reads stored elements only, exactly if the sum of its
arguments does not wrap around inside the queue. -/
theorem peekRangeReserved_iff (limit : VectorLimit Capacity) (offset n : UInt64) :
    (q.peekRangeReserved limit offset n =
        some ((q.toList.drop offset.toNat).take n.toNat) ∧
      ∀ i ∈ q.peekReads limit offset n, i < q.size) ↔
      ¬ q.PeekOverflows offset n := by
  constructor
  · rintro ⟨hslice, -⟩ hover
    rw [q.peekRangeReserved_of_overflow limit hover] at hslice
    cases hslice
  · intro hnot
    exact ⟨q.peekRangeReserved_of_not_overflow limit hnot,
      fun i hi => q.lt_size_of_mem_peekReads limit hi⟩

/-- The elements {lit}`1, 2` in a ring of four slots. -/
def twoElements : RingQueue UInt8 4 := ((empty (by decide) (by decide)).push 1).push 2

/-- From index one on, the largest count throws instead of returning {lit}`[2]`. -/
theorem peekRangeReserved_largest_count :
    twoElements.peekRangeReserved ⟨2 ^ 63 - 1, by decide, by decide⟩ 1 18446744073709551615 ≠
      some ((twoElements.toList.drop 1).take 18446744073709551615) := by
  have hover : twoElements.PeekOverflows 1 18446744073709551615 := by decide
  rw [peekRangeReserved_of_overflow _ _ hover]
  simp

end RingQueue

end MyuTcp
