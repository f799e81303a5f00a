import Mathlib

/-!
# Streams with marks

A list of optional values is a stream whose {lit}`none` entries are marks that carry no
value.  This file relates the values up to the first mark to prefixes of the stream, and
says which part of a stream a reader knows that has collected some values.

Main results:

- Theorem {lit}`map_some_prefix_iff`: a list of values begins the stream exactly when it
  begins the values before the first mark.
- Theorems {lit}`leading_append_of_mem` and {lit}`leading_append_of_notMem`: how these values
  grow with the stream.
- Theorems {lit}`KnownTo.mono`, {lit}`KnownTo.le` and {lit}`KnownTo.mark`: how knowledge of a
  stream grows and shrinks.
-/

namespace MyuTcp.Library

variable {α : Type*}

/-! ## The values before the first mark -/

/-- The values before the first mark. -/
def leading : List (Option α) → List α
  | some a :: w => a :: leading w
  | _ => []

@[simp]
theorem leading_nil : leading ([] : List (Option α)) = [] :=
  rfl

@[simp]
theorem leading_some_cons (a : α) (w : List (Option α)) :
    leading (some a :: w) = a :: leading w :=
  rfl

@[simp]
theorem leading_none_cons (w : List (Option α)) : leading (none :: w) = [] :=
  rfl

@[simp]
theorem leading_map_some (l : List α) : leading (l.map some) = l := by
  induction l with
  | nil => rfl
  | cons a l ih => simp [ih]

/-- A list of values begins the stream exactly when it begins the values before the first
mark. -/
theorem map_some_prefix_iff {l : List α} {w : List (Option α)} :
    l.map some <+: w ↔ l <+: leading w := by
  induction l generalizing w with
  | nil => simp
  | cons a l ih =>
      match w with
      | [] => simp
      | none :: w => simp
      | some b :: w => simp [List.cons_prefix_cons, ih]

/-- Without a mark the stream consists of its values. -/
theorem map_some_leading {w : List (Option α)} (h : none ∉ w) : (leading w).map some = w := by
  induction w with
  | nil => rfl
  | cons x w ih =>
      rw [List.mem_cons, not_or] at h
      match x with
      | none => exact absurd rfl h.1
      | some a => simp [ih h.2]

/-- Without marks all of the wire is leading. -/
theorem length_leading {w : List (Option α)} (h : none ∉ w) : (leading w).length = w.length := by
  rw [← List.length_map (f := some), map_some_leading h]

/-- What follows a mark does not count. -/
theorem leading_append_of_mem {u : List (Option α)} (h : none ∈ u) (w : List (Option α)) :
    leading (u ++ w) = leading u := by
  induction u with
  | nil => contradiction
  | cons x u ih =>
      match x with
      | none => rfl
      | some a =>
          have hu : none ∈ u := by simpa using h
          simp [ih hu]

/-- What follows a stream without a mark is added. -/
theorem leading_append_of_notMem {u : List (Option α)} (h : none ∉ u) (w : List (Option α)) :
    leading (u ++ w) = leading u ++ leading w := by
  induction u with
  | nil => rfl
  | cons x u ih =>
      rw [List.mem_cons, not_or] at h
      match x with
      | none => exact absurd rfl h.1
      | some a => simp [ih h.2]

/-- A mark that is added changes nothing. -/
theorem leading_append_none (u w : List (Option α)) : leading (u ++ none :: w) = leading u := by
  by_cases h : none ∈ u
  · exact leading_append_of_mem h _
  · rw [leading_append_of_notMem h, leading_none_cons, List.append_nil]

/-! ## Knowledge of a stream -/

@[simp]
theorem reduceOption_map_some (l : List α) : (l.map some).reduceOption = l := by
  induction l with
  | nil => rfl
  | cons a l ih => simp [ih]

/-- The values among the first {lit}`n` entries of the stream begin the list. -/
structure KnownTo (w : List (Option α)) (l : List α) (n : Nat) : Prop where
  le_length : n ≤ w.length
  values : (w.take n).reduceOption <+: l

/-- What is known stays known when more is sent and received. -/
theorem KnownTo.mono {w w' : List (Option α)} {l l' : List α} {n : Nat} (h : KnownTo w l n)
    (hw : w <+: w') (hl : l <+: l') : KnownTo w' l' n := by
  rcases hw with ⟨u, rfl⟩
  have hle := h.le_length
  refine ⟨by rw [List.length_append]; omega, ?_⟩
  rw [List.take_append_of_le_length hle]
  exact h.values.trans hl

/-- What is known is known up to any smaller place. -/
theorem KnownTo.le {w : List (Option α)} {l : List α} {m n : Nat} (h : KnownTo w l n)
    (hm : m ≤ n) : KnownTo w l m := by
  refine ⟨hm.trans h.le_length, List.IsPrefix.trans ?_ h.values⟩
  rw [← Nat.min_eq_left hm, ← List.take_take]
  conv_rhs => rw [← List.take_append_drop m (w.take n), List.reduceOption_append]
  exact List.prefix_append _ _

/-- A mark carries no value. -/
theorem KnownTo.mark {w : List (Option α)} {l : List α} {n : Nat} (h : KnownTo w l n)
    (hmark : w[n]? = some none) : KnownTo w l (n + 1) := by
  rcases List.getElem?_eq_some_iff.mp hmark with ⟨hlt, hget⟩
  refine ⟨hlt, ?_⟩
  rw [List.take_add_one, hmark, List.reduceOption_append]
  simpa using h.values

/-- A reader that has collected the first values behind a mark knows all of them. -/
theorem knownTo_of_prefix {w : List (Option α)} {l : List α} (h : none :: l.map some <+: w) :
    KnownTo w l (1 + l.length) := by
  have hlen := h.length_le
  rw [List.length_cons, List.length_map] at hlen
  have hlen' : (none :: l.map some).length = 1 + l.length := by
    rw [List.length_cons, List.length_map, Nat.add_comm]
  refine ⟨by omega, ?_⟩
  rw [← hlen', ← List.prefix_iff_eq_take.mp h]
  simp

/-- Who knows a part of a stream that has one mark at its start has collected a value for
each further entry. -/
theorem KnownTo.le_of_notMem {w : List (Option α)} {l : List α} {k : Nat}
    (h : KnownTo (none :: w) l (1 + k)) (hw : none ∉ w) : k ≤ l.length := by
  have hle := h.le_length
  have hvalues := h.values.length_le
  have hsome : ((none :: w).take (1 + k)).reduceOption = (leading w).take k := by
    have htake : w.take k = ((leading w).take k).map some := by
      rw [List.map_take, map_some_leading hw]
    rw [Nat.add_comm, List.take_succ_cons, List.reduceOption_cons_of_none, htake,
      reduceOption_map_some]
  rw [hsome, List.length_take, length_leading hw] at hvalues
  rw [List.length_cons] at hle
  omega

end MyuTcp.Library
