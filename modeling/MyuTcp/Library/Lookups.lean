import Mathlib

/-!
# Lookups in lists

What is at a position of a list that has been extended, or that is related to another list
element by element.

Main results:

- Theorem {lit}`getElem?_concat_eq_some`: lookups in a list with one more element at its end.
- Theorem {lit}`getElem?_of_prefix`: lookups in a longer list.
- Theorem {lit}`forall₂_getElem`: lookups in related lists.
-/

namespace MyuTcp.Library

variable {α β : Type*} {R : α → β → Prop} {l xs ys : List α} {l' : List β} {i : Nat}

/-- The elements of a list with one more at its end. -/
theorem getElem?_concat_eq_some {a b : α} :
    (l ++ [a])[i]? = some b ↔ l[i]? = some b ∨ i = l.length ∧ b = a := by
  rw [List.getElem?_append]
  split <;> rename_i hi
  · simp [hi.ne]
  · rw [List.getElem?_singleton, List.getElem?_eq_none (not_lt.mp hi)]
    split <;> rename_i hlast
    · have hlength : i = l.length := by omega
      simp [hlength, eq_comm]
    · have hlength : i ≠ l.length := by omega
      simp [hlength]

/-- A longer list has the elements of its beginning. -/
theorem getElem?_of_prefix (h : xs <+: ys) {x : α} (hx : xs[i]? = some x) : ys[i]? = some x := by
  rcases List.getElem?_eq_some_iff.mp hx with ⟨hi, rfl⟩
  exact List.prefix_iff_getElem?.mp h i hi

/-- Lists that are related element by element are related at every position. -/
theorem forall₂_getElem (h : List.Forall₂ R l l') (n : Nat) : Option.Rel R l[n]? l'[n]? := by
  induction h generalizing n with
  | nil => exact .none
  | cons hab _ ih =>
      cases n with
      | zero => exact .some hab
      | succ n => exact ih n

end MyuTcp.Library
