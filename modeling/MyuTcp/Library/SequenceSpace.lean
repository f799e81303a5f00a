import Mathlib

/-!
# Sequence numbers

Sequence numbers are 32-bit values compared as numbers and added modulo 2^32.
This file orders them for use as map keys and relates numeric comparisons to
distances {lit}`b - a` on the circle.

Main results:

- Theorem {lit}`lt_and_le_iff_sub`: a numeric half-open range that does not wrap is
  a range of distances.
- Theorem {lit}`lt_pred_iff_sub`: how such a range is cut below the predecessor of a bound.
- Theorem {lit}`ofNat_add_inj`: positions below 2^32 are determined by their
  sequence numbers.
-/

namespace MyuTcp.Library

instance instLinearOrderUInt32 : LinearOrder UInt32 where
  le_refl := UInt32.le_refl
  le_trans _ _ _ := UInt32.le_trans
  lt_iff_le_not_ge a b := by
    rw [UInt32.not_le]
    exact ⟨fun h => ⟨UInt32.le_of_lt h, h⟩, fun h => h.2⟩
  le_antisymm _ _ := UInt32.le_antisymm
  le_total := UInt32.le_total
  toDecidableLE := inferInstance
  toDecidableEq := inferInstance
  toDecidableLT := inferInstance
  min_def _ _ := rfl
  max_def _ _ := rfl
  compare_eq_compareOfLessAndEq _ _ := rfl

/-- A numeric half-open range that does not wrap is a range of distances. -/
theorem lt_and_le_iff_sub {a b c : UInt32} (h : a ≤ c) :
    a < b ∧ b ≤ c ↔ 0 < (b - a).toNat ∧ (b - a).toNat ≤ (c - a).toNat := by
  have ha := a.toNat_lt
  have hb := b.toNat_lt
  have hc := c.toNat_lt
  simp only [UInt32.lt_iff_toNat_lt, UInt32.le_iff_toNat_le, UInt32.toNat_sub] at *
  omega

/-- The predecessor of a number that is not the least one. -/
theorem toNat_pred_of_lt {a b : UInt32} (h : a < b) : (b - 1).toNat + 1 = b.toNat := by
  have hone : (1 : UInt32).toNat = 1 := rfl
  rw [UInt32.lt_iff_toNat_lt] at h
  have hle : (1 : UInt32) ≤ b := by
    rw [UInt32.le_iff_toNat_le]
    omega
  rw [UInt32.toNat_sub_of_le _ _ hle]
  omega

/-- Moving the lower end of a range past its first number. -/
theorem sub_succ_lt_sub_succ {k a c : UInt32} (h : k - a < c - a) (hne : k ≠ a) :
    k - (a + 1) < c - (a + 1) := by
  have hk := k.toNat_lt
  have ha := a.toNat_lt
  have hc := c.toNat_lt
  have hone : (1 : UInt32).toNat = 1 := rfl
  rw [Ne, ← UInt32.toNat_inj] at hne
  simp only [UInt32.lt_iff_toNat_lt, UInt32.toNat_sub, UInt32.toNat_add, hone] at *
  omega

/-- A number of a range that does not wrap lies below the predecessor of a bound exactly when its
distance does. -/
theorem lt_pred_iff_sub {k a b c : UInt32} (hlow : a < b) (hle : b ≤ c) (hk : k - a < c - a) :
    k < b - 1 ↔ k - a < b - 1 - a := by
  have hpred := toNat_pred_of_lt hlow
  have hone : (b - 1).toNat + 1 = b.toNat := hpred
  have h₁ := k.toNat_lt
  have h₂ := (b - 1).toNat_lt
  have h₃ := a.toNat_lt
  have h₄ := c.toNat_lt
  simp only [UInt32.lt_iff_toNat_lt, UInt32.le_iff_toNat_le] at *
  rw [UInt32.toNat_sub k a, UInt32.toNat_sub (b - 1) a]
  rw [UInt32.toNat_sub k a, UInt32.toNat_sub c a] at hk
  omega

/-- What is left of such a range from the predecessor of the bound on. -/
theorem sub_lt_sub_of_not_lt_pred {k a b c : UInt32} (hlow : a < b) (hle : b ≤ c)
    (hk : k - a < c - a) (hnot : ¬ k < b - 1) : k - b < c - b ∨ k + 1 = b := by
  have hpred := toNat_pred_of_lt hlow
  have h₁ := k.toNat_lt
  have h₂ := b.toNat_lt
  have h₃ := a.toNat_lt
  have h₄ := c.toNat_lt
  have hone : (1 : UInt32).toNat = 1 := rfl
  simp only [UInt32.lt_iff_toNat_lt, UInt32.le_iff_toNat_le, ← UInt32.toNat_inj,
    UInt32.toNat_add, hone] at *
  rw [UInt32.toNat_sub k a, UInt32.toNat_sub c a] at hk
  rw [UInt32.toNat_sub k b, UInt32.toNat_sub c b]
  omega

/-- The number before the lower end is the furthest one from it. -/
theorem not_sub_lt_of_succ_eq {k a d : UInt32} (hk : k + 1 = a) : ¬ k - a < d := by
  have hd := d.toNat_lt
  have h₁ := k.toNat_lt
  have hone : (1 : UInt32).toNat = 1 := rfl
  subst hk
  rw [UInt32.lt_iff_toNat_lt, UInt32.toNat_sub, UInt32.toNat_add, hone]
  omega

/-- The number before the lower end, which does not wrap, lies below the predecessor too. -/
theorem lt_pred_of_succ_eq {k a b : UInt32} (hlow : a < b) (hk : k + 1 = a) (hne : a ≠ 0) :
    k < b - 1 := by
  have hpred := toNat_pred_of_lt hlow
  have h₁ := k.toNat_lt
  have hone : (1 : UInt32).toNat = 1 := rfl
  have hzero : (0 : UInt32).toNat = 0 := rfl
  simp only [Ne, UInt32.lt_iff_toNat_lt, ← UInt32.toNat_inj, UInt32.toNat_add, hone, hzero] at *
  omega

/-- Positions below 2^32 are determined by their sequence numbers. -/
theorem ofNat_add_inj {s : UInt32} {m n : Nat} (hm : m < 2 ^ 32) (hn : n < 2 ^ 32)
    (h : s + UInt32.ofNat m = s + UInt32.ofNat n) : m = n := by
  have hmn := (UInt32.add_right_inj s).mp h
  rw [← UInt32.toNat_inj, UInt32.toNat_ofNat', UInt32.toNat_ofNat'] at hmn
  omega

/-- A position behind the first one is determined by its number among one full circle. -/
theorem ofNat_add_inj_of_pos {s : UInt32} {m n : Nat} (hpos : 1 ≤ m) (hm : m < 2 ^ 32)
    (hn : n ≤ 2 ^ 32) (h : s + UInt32.ofNat m = s + UInt32.ofNat n) : m = n := by
  have hmn := (UInt32.add_right_inj s).mp h
  rw [← UInt32.toNat_inj, UInt32.toNat_ofNat', UInt32.toNat_ofNat'] at hmn
  omega

end MyuTcp.Library
