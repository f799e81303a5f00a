import Mathlib

/-!
# Received indices

The pieces {lit}`0, ..., n - 1` of a whole arrive in any order.  This file computes the first
piece that is missing and the pieces that are kept behind it.

Main results:

- Theorem {lit}`longestPrefix_firstMissing`: the pieces before the first missing one are the
  longest prefix that has been received.
- Theorem {lit}`firstMissing_insert_of_ne`: a piece elsewhere does not lengthen the prefix.
- Theorem {lit}`receivedFrom_insert_of_lt`: nor does a piece below change what is kept above.
-/

namespace MyuTcp.Library

/-- The first index that is not received, from {lit}`start` on and among {lit}`count`. -/
def firstMissing (received : Finset ℕ) : ℕ → ℕ → ℕ
  | start, 0 => start
  | start, count + 1 =>
      if start ∈ received then firstMissing received (start + 1) count else start

/-- The received indices from {lit}`start` on, among {lit}`count`, in increasing order. -/
def receivedFrom (received : Finset ℕ) : ℕ → ℕ → List ℕ
  | _, 0 => []
  | start, count + 1 =>
      if start ∈ received then start :: receivedFrom received (start + 1) count
      else receivedFrom received (start + 1) count

/-- The first {lit}`m` of {lit}`n` pieces are the longest prefix that has been received. -/
structure LongestPrefix (received : ℕ → Prop) (n m : ℕ) : Prop where
  le : m ≤ n
  all : ∀ i < m, received i
  stops : m < n → ¬ received m

variable {received : Finset ℕ} {start count i : ℕ}

/-- There is one longest prefix. -/
theorem LongestPrefix.unique {P : ℕ → Prop} {n a b : ℕ} (ha : LongestPrefix P n a)
    (hb : LongestPrefix P n b) : a = b := by
  by_contra hne
  rcases Nat.lt_or_gt_of_ne hne with hlt | hlt
  · exact ha.stops (hlt.trans_le hb.le) (hb.all a hlt)
  · exact hb.stops (hlt.trans_le ha.le) (ha.all b hlt)

/-! ## The first missing index -/

/-- The search starts at the given number. -/
theorem le_firstMissing (received : Finset ℕ) (start count : ℕ) :
    start ≤ firstMissing received start count := by
  induction count generalizing start with
  | zero => simp [firstMissing]
  | succ count ih =>
      unfold firstMissing
      split
      · exact (Nat.le_succ start).trans (ih (start + 1))
      · simp

/-- The search ends after the given count. -/
theorem firstMissing_le (received : Finset ℕ) (start count : ℕ) :
    firstMissing received start count ≤ start + count := by
  induction count generalizing start with
  | zero => simp [firstMissing]
  | succ count ih =>
      unfold firstMissing
      split
      · have hle := ih (start + 1)
        omega
      · omega

/-- All below the first missing one have been received. -/
theorem mem_of_lt_firstMissing (hle : start ≤ i) (hlt : i < firstMissing received start count) :
    i ∈ received := by
  induction count generalizing start with
  | zero =>
      simp only [firstMissing] at hlt
      omega
  | succ count ih =>
      unfold firstMissing at hlt
      split at hlt <;> rename_i hmem
      · by_cases heq : i = start
        · rwa [heq]
        · exact ih (by omega) hlt
      · omega

/-- The first missing one has not been received. -/
theorem firstMissing_notMem (hlt : firstMissing received start count < start + count) :
    firstMissing received start count ∉ received := by
  induction count generalizing start with
  | zero =>
      simp only [firstMissing] at hlt
      omega
  | succ count ih =>
      unfold firstMissing at hlt ⊢
      split <;> rename_i hmem
      · rw [if_pos hmem] at hlt
        exact ih (by omega)
      · exact hmem

/-- The pieces before the first missing one are the longest received prefix. -/
theorem longestPrefix_firstMissing (received : Finset ℕ) (n : ℕ) :
    LongestPrefix (· ∈ received) n (firstMissing received 0 n) where
  le := by simpa using firstMissing_le received 0 n
  all _ hi := mem_of_lt_firstMissing (Nat.zero_le _) hi
  stops hlt := firstMissing_notMem (by simpa using hlt)

/-- A piece other than the first missing one does not lengthen the prefix. -/
theorem firstMissing_insert_of_ne {n : ℕ} (hne : i ≠ firstMissing received 0 n) :
    firstMissing (insert i received) 0 n = firstMissing received 0 n := by
  have hlongest := longestPrefix_firstMissing received n
  apply (longestPrefix_firstMissing (insert i received) n).unique
  constructor
  · exact hlongest.le
  · intro j hj
    exact Finset.mem_insert_of_mem (hlongest.all j hj)
  · intro hlt hmem
    rcases Finset.mem_insert.mp hmem with heq | hmem
    · exact hne heq.symm
    · exact hlongest.stops hlt hmem

/-- Received pieces in front do not matter to the first missing one. -/
theorem firstMissing_add (received : Finset ℕ) (start : ℕ) {k : ℕ}
    (hall : ∀ i, start ≤ i → i < start + k → i ∈ received) (count : ℕ) :
    firstMissing received start (k + count) = firstMissing received (start + k) count := by
  induction k generalizing start with
  | zero => simp
  | succ k ih =>
      have hstep : firstMissing received start (k + count + 1) =
          firstMissing received (start + 1) (k + count) := by
        conv_lhs => unfold firstMissing
        exact if_pos (hall start le_rfl (by omega))
      rw [Nat.add_right_comm, hstep, ih (start + 1) fun i hle hlt => hall i (by omega) (by omega)]
      congr 1
      omega

/-- The search looks at the numbers from the start on only. -/
theorem firstMissing_congr {received' : Finset ℕ}
    (h : ∀ i, start ≤ i → (i ∈ received' ↔ i ∈ received)) :
    firstMissing received' start count = firstMissing received start count := by
  induction count generalizing start with
  | zero => rfl
  | succ count ih =>
      unfold firstMissing
      rw [ih fun i hi => h i (by omega)]
      simp only [h start le_rfl]

/-! ## What is kept -/

/-- What has been received in a range. -/
theorem mem_receivedFrom : i ∈ receivedFrom received start count ↔
    start ≤ i ∧ i < start + count ∧ i ∈ received := by
  induction count generalizing start with
  | zero =>
      simp only [receivedFrom, List.not_mem_nil, false_iff]
      omega
  | succ count ih =>
      unfold receivedFrom
      split <;> rename_i hmem
      · rw [List.mem_cons, ih]
        constructor
        · rintro (rfl | ⟨hle, hlt, hi⟩)
          · exact ⟨le_rfl, by omega, hmem⟩
          · exact ⟨by omega, by omega, hi⟩
        · rintro ⟨hle, hlt, hi⟩
          by_cases heq : i = start
          · exact Or.inl heq
          · exact Or.inr ⟨by omega, by omega, hi⟩
      · rw [ih]
        constructor
        · rintro ⟨hle, hlt, hi⟩
          exact ⟨by omega, by omega, hi⟩
        · rintro ⟨hle, hlt, hi⟩
          have hne : i ≠ start := by
            rintro rfl
            exact hmem hi
          exact ⟨by omega, by omega, hi⟩

/-- The numbers are listed in order. -/
theorem pairwise_receivedFrom (received : Finset ℕ) (start count : ℕ) :
    (receivedFrom received start count).Pairwise (· < ·) := by
  induction count generalizing start with
  | zero => simp [receivedFrom]
  | succ count ih =>
      unfold receivedFrom
      split
      · apply List.Pairwise.cons _ (ih (start + 1))
        intro i hi
        have hle := (mem_receivedFrom.mp hi).1
        omega
      · exact ih (start + 1)

/-- A missing number is skipped. -/
theorem receivedFrom_of_notMem (hmem : start ∉ received) :
    receivedFrom received start (count + 1) = receivedFrom received (start + 1) count := by
  conv_lhs => unfold receivedFrom
  exact if_neg hmem

/-- The list looks at the numbers from the start on only. -/
theorem receivedFrom_congr {received' : Finset ℕ}
    (h : ∀ i, start ≤ i → (i ∈ received' ↔ i ∈ received)) :
    receivedFrom received' start count = receivedFrom received start count := by
  induction count generalizing start with
  | zero => rfl
  | succ count ih =>
      unfold receivedFrom
      rw [ih fun i hi => h i (by omega)]
      simp only [h start le_rfl]

/-- A piece below does not change what is kept above it. -/
theorem receivedFrom_insert_of_lt (hlt : i < start) :
    receivedFrom (insert i received) start count = receivedFrom received start count := by
  apply receivedFrom_congr
  intro j hj
  rw [Finset.mem_insert, or_iff_right (by omega)]

/-- What is kept starts with the pieces before the first missing one. -/
theorem drop_receivedFrom (received : Finset ℕ) (start count : ℕ) :
    (receivedFrom received start count).drop (firstMissing received start count - start) =
      receivedFrom received (firstMissing received start count)
        (start + count - firstMissing received start count) := by
  induction count generalizing start with
  | zero => simp [receivedFrom, firstMissing]
  | succ count ih =>
      by_cases hmem : start ∈ received
      · have hfirst : firstMissing received start (count + 1) =
            firstMissing received (start + 1) count := by
          conv_lhs => unfold firstMissing
          exact if_pos hmem
        have hle := le_firstMissing received (start + 1) count
        have hkept : receivedFrom received start (count + 1) =
            start :: receivedFrom received (start + 1) count := by
          conv_lhs => unfold receivedFrom
          exact if_pos hmem
        obtain ⟨k, hk⟩ := Nat.exists_eq_add_of_le hle
        have hdrop := ih (start + 1)
        rw [hfirst, hkept]
        rw [hk] at hdrop ⊢
        have hsub : start + 1 + k - start = k + 1 := by omega
        have hsub' : start + 1 + k - (start + 1) = k := by omega
        rw [hsub, List.drop_succ_cons]
        rw [hsub'] at hdrop
        rw [hdrop]
        congr 1
        omega
      · have hfirst : firstMissing received start (count + 1) = start := by
          unfold firstMissing
          exact if_neg hmem
        rw [hfirst, Nat.sub_self, List.drop_zero, Nat.add_sub_cancel_left]

end MyuTcp.Library
