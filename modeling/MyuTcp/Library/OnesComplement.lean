import Mathlib

/-!
# One's complement sums

The end-around-carry arithmetic under the internet checksum, over natural
numbers.  A byte string is summed as little-endian 16-bit words, an odd last byte
counting as a word of its own, and the carries above 16 bits are folded back.

Main results:

- Theorem {lit}`foldCarry_modEq`: folding keeps the sum modulo 65535.
- Theorem {lit}`foldCarry_lt`: two folds bring every 32-bit sum below 2^16.
- Theorem {lit}`foldCarry_complement`: a sum completed by the complement of its
  own fold folds to all ones.
- Theorem {lit}`wordSum_of_agreeOutside`: replacing one word changes the sum by the difference
  of the two words.
- Theorem {lit}`foldCarry_ne_of_agreeOutside`: sums that fold to all ones do not differ in one
  word only, the two zeros apart.
-/

namespace MyuTcp.Library

/-- Sum of the little-endian 16-bit words of a byte string. -/
def wordSum : List UInt8 → Nat
  | [] => 0
  | [a] => a.toNat
  | a :: b :: rest => a.toNat + 256 * b.toNat + wordSum rest

/-- Fold the carries above 16 bits back until none is left or the fuel runs out. -/
def foldCarry : Nat → Nat → Nat
  | 0, s => s
  | fuel + 1, s => if s / 65536 = 0 then s else foldCarry fuel (s % 65536 + s / 65536)

/-- After an even number of bytes a new word starts. -/
theorem wordSum_append_of_even (xs ys : List UInt8) (h : xs.length % 2 = 0) :
    wordSum (xs ++ ys) = wordSum xs + wordSum ys := by
  induction xs using wordSum.induct with
  | case1 => simp [wordSum]
  | case2 a => simp at h
  | case3 a b rest ih =>
      have hrest : rest.length % 2 = 0 := by simp only [List.length_cons] at h; omega
      simp only [List.cons_append, wordSum, ih hrest]
      omega

/-- Each pair of bytes adds at most 65535 to the sum. -/
theorem wordSum_le (xs : List UInt8) : wordSum xs ≤ 65535 * ((xs.length + 1) / 2) := by
  induction xs using wordSum.induct with
  | case1 => simp [wordSum]
  | case2 a =>
      have := a.toNat_lt
      simp only [wordSum, List.length_singleton]
      omega
  | case3 a b rest ih =>
      have := a.toNat_lt
      have := b.toNat_lt
      simp only [wordSum, List.length_cons]
      omega

/-- One fold keeps the sum modulo 65535. -/
theorem foldStep_modEq (s : Nat) : (s % 65536 + s / 65536) % 65535 = s % 65535 := by
  omega

/-- Folding keeps the sum modulo 65535. -/
theorem foldCarry_modEq (fuel s : Nat) : foldCarry fuel s % 65535 = s % 65535 := by
  induction fuel generalizing s with
  | zero => rfl
  | succ fuel ih =>
      rw [foldCarry]
      split
      · rfl
      · rw [ih, foldStep_modEq]

/-- Folding neither creates nor loses a zero sum. -/
theorem foldCarry_pos_iff (fuel s : Nat) : 0 < foldCarry fuel s ↔ 0 < s := by
  induction fuel generalizing s with
  | zero => rfl
  | succ fuel ih =>
      rw [foldCarry]
      split
      · rfl
      · rw [ih]
        omega

/-- Two folds bring every 32-bit sum below 2^16. -/
theorem foldCarry_lt {fuel s : Nat} (hfuel : 2 ≤ fuel) (hs : s < 2 ^ 32) :
    foldCarry fuel s < 65536 := by
  obtain ⟨fuel, rfl⟩ : ∃ k, fuel = k + 2 := ⟨fuel - 2, by omega⟩
  have hstop : ∀ fuel s, s < 65536 → foldCarry fuel s = s := by
    intro fuel s hlt
    cases fuel with
    | zero => rfl
    | succ fuel => rw [foldCarry, if_pos (by omega)]
  rw [foldCarry]
  split
  · omega
  · rw [foldCarry]
    split
    · omega
    · rw [hstop _ _ (by omega)]
      omega

/-- A sum completed by the complement of its own fold folds to all ones. -/
theorem foldCarry_complement {fuel s : Nat} (hfuel : 2 ≤ fuel)
    (hs : s + 65535 < 2 ^ 32) :
    foldCarry fuel (s + (65535 - foldCarry fuel s)) = 65535 := by
  have hlt := foldCarry_lt hfuel (show s < 2 ^ 32 by omega)
  have hmod := foldCarry_modEq fuel s
  have hpos := foldCarry_pos_iff fuel s
  have hlt' := foldCarry_lt hfuel (show s + (65535 - foldCarry fuel s) < 2 ^ 32 by omega)
  have hmod' := foldCarry_modEq fuel (s + (65535 - foldCarry fuel s))
  have hpos' := foldCarry_pos_iff fuel (s + (65535 - foldCarry fuel s))
  omega

/-! ## Altered words -/

/-- The value of the word at an index; bytes past the end count as zero. -/
def wordAt (xs : List UInt8) (i : Nat) : Nat :=
  (xs.getD (2 * i) 0).toNat + 256 * (xs.getD (2 * i + 1) 0).toNat

/-- A word has 16 bits. -/
theorem wordAt_lt (xs : List UInt8) (i : Nat) : wordAt xs i < 65536 := by
  have hlow := (xs.getD (2 * i) 0).toNat_lt
  have hhigh := (xs.getD (2 * i + 1) 0).toNat_lt
  rw [wordAt]
  omega

/-- The words after the first one. -/
theorem wordAt_cons_cons_succ (a b : UInt8) (xs : List UInt8) (i : Nat) :
    wordAt (a :: b :: xs) (i + 1) = wordAt xs i := by
  rfl

/-- Two byte strings of one length that agree outside the word at an index. -/
def AgreeOutside (i : Nat) (xs ys : List UInt8) : Prop :=
  xs.length = ys.length ∧ ∀ j, j / 2 ≠ i → xs.getD j 0 = ys.getD j 0

/-- Before the word in question the bytes are the same. -/
theorem AgreeOutside.tail {i : Nat} {a b c d : UInt8} {xs ys : List UInt8}
    (h : AgreeOutside (i + 1) (a :: b :: xs) (c :: d :: ys)) :
    a = c ∧ b = d ∧ AgreeOutside i xs ys := by
  refine ⟨h.2 0 (by omega), h.2 1 (by omega), ?_, ?_⟩
  · have hlen := h.1
    simp only [List.length_cons] at hlen
    omega
  · intro j hj
    exact h.2 (j + 2) (by omega)

/-- After the word in question the bytes are the same. -/
theorem AgreeOutside.tail_eq {a b c d : UInt8} {xs ys : List UInt8}
    (h : AgreeOutside 0 (a :: b :: xs) (c :: d :: ys)) : xs = ys := by
  have hlen := h.1
  simp only [List.length_cons] at hlen
  refine List.ext_getElem (by omega) ?_
  intro j hj hj'
  have hget := h.2 (j + 2) (by omega)
  simp only [List.getD_cons_succ] at hget
  rwa [List.getD_eq_getElem _ _ hj, List.getD_eq_getElem _ _ hj'] at hget

/-- Replacing one word changes the sum by the difference of the two words. -/
theorem wordSum_of_agreeOutside {i : Nat} {xs ys : List UInt8} (h : AgreeOutside i xs ys) :
    wordSum xs + wordAt ys i = wordSum ys + wordAt xs i := by
  induction xs using wordSum.induct generalizing ys i with
  | case1 =>
      have hnil : ys = [] := List.length_eq_zero_iff.mp h.1.symm
      rw [hnil]
  | case2 a =>
      rcases List.length_eq_one_iff.mp h.1.symm with ⟨b, rfl⟩
      cases i with
      | zero =>
          simp only [wordSum, wordAt, Nat.mul_zero, List.getD_cons_zero, List.getD_cons_succ,
            List.getD_nil, UInt8.toNat_zero, Nat.mul_zero, Nat.add_zero]
          omega
      | succ i =>
          have hab : a = b := h.2 0 (by omega)
          rw [hab]
  | case3 a b rest ih =>
      match ys, h with
      | [], h => exact absurd h.1 (by simp)
      | [_], h => exact absurd h.1 (by simp)
      | c :: d :: ys, h =>
          cases i with
          | zero =>
              rw [h.tail_eq]
              simp only [wordSum, wordAt, Nat.mul_zero, List.getD_cons_zero, Nat.zero_add,
                List.getD_cons_succ]
              omega
          | succ i =>
              rcases h.tail with ⟨rfl, rfl, hrest⟩
              have hsum := ih hrest
              rw [wordAt_cons_cons_succ, wordAt_cons_cons_succ]
              simp only [wordSum]
              omega

/-- A fold is all ones exactly for the positive multiples of 65535. -/
theorem foldCarry_eq_iff {fuel s : Nat} (hfuel : 2 ≤ fuel) (hs : s < 2 ^ 32) :
    foldCarry fuel s = 65535 ↔ s % 65535 = 0 ∧ 0 < s := by
  have hlt := foldCarry_lt hfuel hs
  have hmod := foldCarry_modEq fuel s
  have hpos := foldCarry_pos_iff fuel s
  omega

/-- Two sums that differ in one word do not both fold to all ones, unless the word changes from
one zero of one's complement to the other. -/
theorem foldCarry_ne_of_agreeOutside {fuel i : Nat} {xs ys : List UInt8} (hfuel : 2 ≤ fuel)
    (h : AgreeOutside i xs ys) (hne : wordAt xs i ≠ wordAt ys i)
    (hswap : ¬ (wordAt xs i = 0 ∧ wordAt ys i = 65535))
    (hswap' : ¬ (wordAt xs i = 65535 ∧ wordAt ys i = 0))
    (hxs : wordSum xs < 2 ^ 32) (hys : wordSum ys < 2 ^ 32)
    (hfold : foldCarry fuel (wordSum xs) = 65535) : foldCarry fuel (wordSum ys) ≠ 65535 := by
  intro hfold'
  have hsum := wordSum_of_agreeOutside h
  have hx := wordAt_lt xs i
  have hy := wordAt_lt ys i
  rw [foldCarry_eq_iff hfuel hxs] at hfold
  rw [foldCarry_eq_iff hfuel hys] at hfold'
  omega

end MyuTcp.Library
