import Mathlib

/-!
# Streams in pieces

A stream that is handed over in pieces, none of them empty.  Each piece has a position in the
stream, and a reader that takes whole pieces, one after another, is always at the position of the
next one.

Main results:

- Theorem {lit}`pieceStart_lt`: pieces start in their order.
- Theorem {lit}`pieceStart_add_le`: a piece ends where the next one starts, or before.
-/

namespace MyuTcp.Library

variable {α : Type*}

/-- The position at which a piece starts. -/
def pieceStart (pieces : List (List α)) (i : Nat) : Nat := (pieces.take i).flatten.length

section Pieces

variable {pieces : List (List α)} {piece : List α} {i j : Nat}

/-- The first piece starts at the beginning. -/
@[simp]
theorem pieceStart_zero (pieces : List (List α)) : pieceStart pieces 0 = 0 :=
  rfl

/-- After the last piece comes the end. -/
@[simp]
theorem pieceStart_length (pieces : List (List α)) :
    pieceStart pieces pieces.length = pieces.flatten.length := by
  rw [pieceStart, List.take_length]

/-- A piece starts where the one before it ends. -/
theorem pieceStart_succ (h : pieces[i]? = some piece) :
    pieceStart pieces (i + 1) = pieceStart pieces i + piece.length := by
  rw [pieceStart, pieceStart, List.take_add_one, h]
  simp

/-- One piece more in front. -/
theorem pieceStart_cons_succ (piece : List α) (pieces : List (List α)) (i : Nat) :
    pieceStart (piece :: pieces) (i + 1) = piece.length + pieceStart pieces i := by
  simp [pieceStart]

/-- More pieces leave those that are there where they are. -/
theorem pieceStart_append_of_le (more : List (List α)) (h : i ≤ pieces.length) :
    pieceStart (pieces ++ more) i = pieceStart pieces i := by
  rw [pieceStart, pieceStart, List.take_append_of_le_length h]

/-- Pieces behind others start later by the length of those. -/
theorem pieceStart_append_add (pieces more : List (List α)) (i : Nat) :
    pieceStart (pieces ++ more) (pieces.length + i) =
      pieces.flatten.length + pieceStart more i := by
  rw [pieceStart, pieceStart, List.take_length_add_append, List.flatten_append,
    List.length_append]

/-- Pieces start in their order. -/
theorem pieceStart_mono (pieces : List (List α)) (h : i ≤ j) :
    pieceStart pieces i ≤ pieceStart pieces j := by
  have hprefix : pieces.take i <+: pieces.take j := List.take_prefix_take_left h
  exact hprefix.flatten.length_le

/-- A piece ends where the next one starts, or before. -/
theorem pieceStart_add_le (h : pieces[i]? = some piece) (hij : i < j) :
    pieceStart pieces i + piece.length ≤ pieceStart pieces j := by
  rw [← pieceStart_succ h]
  exact pieceStart_mono pieces hij

/-- A piece ends inside the whole. -/
theorem pieceStart_add_le_length (h : pieces[i]? = some piece) :
    pieceStart pieces i + piece.length ≤ pieces.flatten.length := by
  rw [← pieceStart_length]
  exact pieceStart_add_le h (List.getElem?_eq_some_iff.mp h).1

/-- Pieces start in their order. -/
theorem pieceStart_lt (hne : [] ∉ pieces) (hij : i < j) (hi : i < pieces.length) :
    pieceStart pieces i < pieceStart pieces j := by
  have hpiece := List.getElem?_eq_getElem hi
  have hpos : 0 < pieces[i].length := by
    rw [List.length_pos_iff]
    intro hnil
    exact hne (hnil ▸ List.getElem_mem hi)
  have hend := pieceStart_add_le hpiece hij
  omega

/-- A piece that starts earlier is an earlier one. -/
theorem lt_of_pieceStart_lt (h : pieceStart pieces i < pieceStart pieces j) : i < j := by
  by_contra hnot
  have hle := pieceStart_mono pieces (Nat.le_of_not_lt hnot)
  omega

/-- The position tells the piece. -/
theorem eq_of_pieceStart_eq (hne : [] ∉ pieces) (hi : i ≤ pieces.length) (hj : j ≤ pieces.length)
    (h : pieceStart pieces i = pieceStart pieces j) : i = j := by
  rcases Nat.lt_trichotomy i j with hlt | heq | hlt
  · have hstart := pieceStart_lt hne hlt (by omega)
    omega
  · exact heq
  · have hstart := pieceStart_lt hne hlt (by omega)
    omega

end Pieces

end MyuTcp.Library
