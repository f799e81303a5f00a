import Mathlib

/-!
# Ordered maps

A map kept as a list of entries in strictly increasing key order, the reading
order of a C++ {lit}`std::map`.  The order is a field of the structure, so that
every map that can be built is sorted and lookups determine the map's meaning.

Main results:

- Theorems {lit}`find?_insert`, {lit}`find?_erase`, {lit}`find?_tryEmplace` and
  {lit}`find?_mapValues`: lookups after each update.
- Theorems {lit}`find?_of_mem_entries`, {lit}`entries_eq_of_mem_iff` and {lit}`eq_of_find?`:
  lookups determine the entries.
- Theorem {lit}`mem_takeWhile_entries`: the entries before a bound.
- Theorem {lit}`find?_dropBelow`: erasing from the front while the first key is
  below a bound removes exactly the keys below it.
-/

namespace MyuTcp.Library

variable {κ ν : Type*} [LinearOrder κ]

/-- A finite map with its entries in strictly increasing key order. -/
structure OrderedMap (κ ν : Type*) [LinearOrder κ] where
  entries : List (κ × ν)
  sorted : entries.Pairwise fun a b => a.1 < b.1

namespace OrderedMap

/-! ## Entry lists -/

/-- Value stored under a key of an entry list. -/
def lookup (k : κ) : List (κ × ν) → Option ν
  | [] => none
  | (k', v) :: rest => if k' = k then some v else lookup k rest

/-- Insert an entry at its place, replacing the value of an equal key. -/
def place (k : κ) (v : ν) : List (κ × ν) → List (κ × ν)
  | [] => [(k, v)]
  | (k', v') :: rest =>
      if k < k' then (k, v) :: (k', v') :: rest
      else if k = k' then (k, v) :: rest
      else (k', v') :: place k v rest

/-- What is found is an entry. -/
theorem mem_of_lookup {k : κ} {v : ν} {es : List (κ × ν)} (h : lookup k es = some v) :
    (k, v) ∈ es := by
  induction es with
  | nil => simp [lookup] at h
  | cons e es ih =>
      rw [lookup] at h
      split at h <;> rename_i hk
      · simp only [Option.some.injEq] at h
        subst hk h
        simp
      · exact List.mem_cons_of_mem _ (ih h)

/-- A key of no entry is not found. -/
theorem lookup_eq_none {k : κ} {es : List (κ × ν)} (h : ∀ e ∈ es, e.1 ≠ k) :
    lookup k es = none := by
  induction es with
  | nil => rfl
  | cons e es ih =>
      rw [lookup, if_neg (h e List.mem_cons_self)]
      exact ih fun e' he' => h e' (List.mem_cons_of_mem _ he')

/-- What is found after an entry has been placed. -/
theorem lookup_place (k j : κ) (v : ν) (es : List (κ × ν)) :
    lookup j (place k v es) = if j = k then some v else lookup j es := by
  induction es with
  | nil => simp [place, lookup, eq_comm]
  | cons e es ih =>
      rw [place]
      split
      · simp [lookup, eq_comm]
      · split <;> rename_i hk
        · subst hk
          by_cases hj : j = e.1
          · simp [lookup, hj]
          · simp [lookup, hj, Ne.symm hj]
        · rw [lookup, ih, lookup]
          by_cases hj : e.1 = j
          · have hne : j ≠ k := fun h => hk (h ▸ hj.symm)
            simp [hj, hne]
          · simp [hj]

/-- An entry is the one placed or an older one. -/
theorem mem_place {k : κ} {v : ν} {es : List (κ × ν)} {e : κ × ν}
    (h : e ∈ place k v es) : e = (k, v) ∨ e ∈ es := by
  induction es with
  | nil => simpa [place] using h
  | cons e' es ih =>
      rw [place] at h
      split at h
      · simpa using h
      · split at h
        · rcases List.mem_cons.mp h with h | h
          · exact Or.inl h
          · exact Or.inr (List.mem_cons_of_mem _ h)
        · rcases List.mem_cons.mp h with h | h
          · exact Or.inr (h ▸ List.mem_cons_self)
          · exact (ih h).imp_right (List.mem_cons_of_mem _)

/-- Placing an entry keeps the keys in order. -/
theorem pairwise_place {k : κ} {v : ν} {es : List (κ × ν)}
    (h : es.Pairwise fun a b => a.1 < b.1) :
    (place k v es).Pairwise fun a b => a.1 < b.1 := by
  induction es with
  | nil => simp [place]
  | cons e es ih =>
      rw [List.pairwise_cons] at h
      rw [place]
      split <;> rename_i hlt
      · refine List.pairwise_cons.mpr ⟨?_, List.pairwise_cons.mpr h⟩
        intro x hx
        rcases List.mem_cons.mp hx with rfl | hx
        · exact hlt
        · exact hlt.trans (h.1 x hx)
      · split <;> rename_i heq
        · exact List.pairwise_cons.mpr ⟨fun x hx => heq ▸ h.1 x hx, h.2⟩
        · refine List.pairwise_cons.mpr ⟨?_, ih h.2⟩
          intro x hx
          rcases mem_place hx with rfl | hx
          · exact lt_of_le_of_ne (not_lt.mp hlt) (Ne.symm heq)
          · exact h.1 x hx

/-! ## Map operations -/

/-- The empty map. -/
def empty : OrderedMap κ ν where
  entries := []
  sorted := List.Pairwise.nil

/-- Value stored under a key. -/
def find? (m : OrderedMap κ ν) (k : κ) : Option ν :=
  lookup k m.entries

/-- Assign a value to a key, as {lit}`m[k] = v` does. -/
def insert (m : OrderedMap κ ν) (k : κ) (v : ν) : OrderedMap κ ν where
  entries := place k v m.entries
  sorted := pairwise_place m.sorted

/-- Store a value only under a key that is not in use. -/
def tryEmplace (m : OrderedMap κ ν) (k : κ) (v : ν) : OrderedMap κ ν :=
  if (m.find? k).isSome then m else m.insert k v

/-- Remove one key. -/
def erase (m : OrderedMap κ ν) (k : κ) : OrderedMap κ ν where
  entries := m.entries.filter fun e => e.1 ≠ k
  sorted := m.sorted.filter _

/-- Apply a function to every value, keeping the keys. -/
def mapValues (f : κ → ν → ν) (m : OrderedMap κ ν) : OrderedMap κ ν where
  entries := m.entries.map fun e => (e.1, f e.1 e.2)
  sorted := List.pairwise_map.mpr m.sorted

/-- Apply a partial function to every value, losing the keys where it is undefined. -/
def filterMapValues {μ : Type*} (f : ν → Option μ) (m : OrderedMap κ ν) : OrderedMap κ μ where
  entries := m.entries.filterMap fun e => (f e.2).map fun v => (e.1, v)
  sorted := by
    refine m.sorted.filterMap _ fun a b hab a' ha' b' hb' => ?_
    rcases Option.map_eq_some_iff.mp ha' with ⟨v, -, rfl⟩
    rcases Option.map_eq_some_iff.mp hb' with ⟨w, -, rfl⟩
    exact hab

/-- Erase the first entry for as long as its key is below {lit}`a`. -/
def dropBelow (m : OrderedMap κ ν) (a : κ) : OrderedMap κ ν where
  entries := m.entries.dropWhile fun e => e.1 < a
  sorted := m.sorted.sublist (List.dropWhile_sublist _)

/-- Erase the first {lit}`n` entries. -/
def dropFirst (m : OrderedMap κ ν) (n : Nat) : OrderedMap κ ν where
  entries := m.entries.drop n
  sorted := m.sorted.sublist (List.drop_sublist _ _)

/-- Nothing is found in the empty map. -/
@[simp]
theorem find?_empty (k : κ) : (empty : OrderedMap κ ν).find? k = none :=
  rfl

/-- The empty map has no entries. -/
@[simp]
theorem empty_entries : (empty : OrderedMap κ ν).entries = [] :=
  rfl

/-- Assignment changes the lookup of the assigned key only. -/
theorem find?_insert (m : OrderedMap κ ν) (k j : κ) (v : ν) :
    (m.insert k v).find? j = if j = k then some v else m.find? j :=
  lookup_place k j v m.entries

/-- The value inserted is found. -/
@[simp]
theorem find?_insert_self (m : OrderedMap κ ν) (k : κ) (v : ν) :
    (m.insert k v).find? k = some v := by
  simp [find?_insert]

/-- Other keys are found as before. -/
theorem find?_insert_of_ne (m : OrderedMap κ ν) {k j : κ} (v : ν) (h : j ≠ k) :
    (m.insert k v).find? j = m.find? j := by
  simp [find?_insert, h]

/-- Conditional insertion never replaces a stored value. -/
theorem find?_tryEmplace (m : OrderedMap κ ν) (k j : κ) (v : ν) :
    (m.tryEmplace k v).find? j =
      if j = k then some ((m.find? k).getD v) else m.find? j := by
  rw [tryEmplace]
  cases hk : m.find? k with
  | none => simp [find?_insert]
  | some w =>
      by_cases hj : j = k
      · subst hj
        simp [hk]
      · simp [hj]

/-- Erasing removes the erased key only. -/
theorem find?_erase (m : OrderedMap κ ν) (k j : κ) :
    (m.erase k).find? j = if j = k then none else m.find? j := by
  have hlist : ∀ es : List (κ × ν),
      lookup j (es.filter fun e => e.1 ≠ k) = if j = k then none else lookup j es := by
    intro es
    induction es with
    | nil => simp [lookup]
    | cons e es ih =>
        by_cases he : e.1 = k
        · rw [List.filter_cons_of_neg (by simp [he]), ih, lookup]
          by_cases hj : j = k
          · simp [hj]
          · have hne : e.1 ≠ j := fun h => hj (h.symm.trans he)
            simp [hj, hne]
        · rw [List.filter_cons_of_pos (by simp [he]), lookup, ih, lookup]
          by_cases hj : e.1 = j
          · have hne : j ≠ k := fun h => he (hj.trans h)
            simp [hj, hne]
          · simp [hj]
  exact hlist m.entries

/-- Every stored entry is found under its key. -/
theorem find?_of_mem_entries {m : OrderedMap κ ν} {k : κ} {v : ν} (h : (k, v) ∈ m.entries) :
    m.find? k = some v := by
  have hlist : ∀ es : List (κ × ν), es.Pairwise (fun a b => a.1 < b.1) → (k, v) ∈ es →
      lookup k es = some v := by
    intro es hsorted hmem
    induction es with
    | nil => contradiction
    | cons e es ih =>
        rw [List.pairwise_cons] at hsorted
        rcases List.mem_cons.mp hmem with rfl | hmem
        · rw [lookup, if_pos rfl]
        · have hlt := hsorted.1 _ hmem
          rw [lookup, if_neg hlt.ne]
          exact ih hsorted.2 hmem
  exact hlist m.entries m.sorted h

/-- The entries are what is found. -/
theorem mem_entries_iff {m : OrderedMap κ ν} {k : κ} {v : ν} :
    (k, v) ∈ m.entries ↔ m.find? k = some v :=
  ⟨find?_of_mem_entries, mem_of_lookup⟩

/-- A sorted list with the same entries is the list of entries. -/
theorem entries_eq_of_mem_iff {m : OrderedMap κ ν} {es : List (κ × ν)}
    (hsorted : es.Pairwise fun a b => a.1 < b.1) (h : ∀ e, e ∈ m.entries ↔ e ∈ es) :
    m.entries = es := by
  have hanti : Std.Antisymm fun a b : κ × ν => a.1 < b.1 :=
    ⟨fun _ _ hab hba => absurd hab (lt_asymm hba)⟩
  have hirrefl : Std.Irrefl fun a b : κ × ν => a.1 < b.1 := ⟨fun a => lt_irrefl a.1⟩
  exact m.sorted.eq_of_mem_iff hsorted h

/-- Maps with the same lookups are equal. -/
theorem eq_of_find? {m n : OrderedMap κ ν} (h : ∀ k, m.find? k = n.find? k) : m = n := by
  have hentries : m.entries = n.entries := by
    refine entries_eq_of_mem_iff n.sorted fun e => ?_
    rw [mem_entries_iff, mem_entries_iff, h]
  rcases m with ⟨es, hsorted⟩
  rcases n with ⟨es', hsorted'⟩
  cases hentries
  rfl

/-- Assigning the value that a key already has changes nothing. -/
theorem insert_eq_self {m : OrderedMap κ ν} {k : κ} {v : ν} (h : m.find? k = some v) :
    m.insert k v = m := by
  apply eq_of_find?
  intro j
  rw [find?_insert]
  split <;> rename_i hj
  · rw [hj, h]
  · rfl

/-- The entries before the first key that is not below {lit}`a` are those below it. -/
theorem mem_takeWhile_entries {m : OrderedMap κ ν} {a : κ} {e : κ × ν} :
    e ∈ m.entries.takeWhile (fun e => e.1 < a) ↔ e ∈ m.entries ∧ e.1 < a := by
  have hlist : ∀ es : List (κ × ν), es.Pairwise (fun x y => x.1 < y.1) →
      (e ∈ es.takeWhile (fun e => e.1 < a) ↔ e ∈ es ∧ e.1 < a) := by
    intro es hsorted
    induction es with
    | nil => simp
    | cons first es ih =>
        rw [List.pairwise_cons] at hsorted
        by_cases hfirst : first.1 < a
        · rw [List.takeWhile_cons_of_pos (by simpa using hfirst), List.mem_cons, List.mem_cons,
            ih hsorted.2]
          constructor
          · rintro (rfl | hmem)
            · exact ⟨Or.inl rfl, hfirst⟩
            · exact ⟨Or.inr hmem.1, hmem.2⟩
          · rintro ⟨rfl | hmem, hlt⟩
            · exact Or.inl rfl
            · exact Or.inr ⟨hmem, hlt⟩
        · rw [List.takeWhile_cons_of_neg (by simpa using hfirst)]
          constructor
          · intro hmem
            contradiction
          · rintro ⟨hmem, hlt⟩
            rcases List.mem_cons.mp hmem with rfl | hmem
            · exact absurd hlt hfirst
            · exact absurd ((hsorted.1 e hmem).trans hlt) hfirst
  exact hlist m.entries m.sorted

/-- Lookup commutes with a map over the values. -/
theorem find?_mapValues (f : κ → ν → ν) (m : OrderedMap κ ν) (k : κ) :
    (m.mapValues f).find? k = (m.find? k).map (f k) := by
  have hlist : ∀ es : List (κ × ν),
      lookup k (es.map fun e => (e.1, f e.1 e.2)) = (lookup k es).map (f k) := by
    intro es
    induction es with
    | nil => rfl
    | cons e es ih =>
        simp only [List.map_cons, lookup, ih]
        split <;> rename_i h
        · simp [h]
        · rfl
  exact hlist m.entries

/-- Filtering looks at each value by itself. -/
theorem find?_filterMapValues {μ : Type*} (f : ν → Option μ) (m : OrderedMap κ ν) (k : κ) :
    (m.filterMapValues f).find? k = (m.find? k).bind f := by
  apply Option.ext
  intro v
  rw [← mem_entries_iff, Option.bind_eq_some_iff]
  change (k, v) ∈ m.entries.filterMap _ ↔ _
  rw [List.mem_filterMap]
  constructor
  · rintro ⟨e, he, hv⟩
    rcases Option.map_eq_some_iff.mp hv with ⟨w, hw, heq⟩
    cases heq
    exact ⟨e.2, find?_of_mem_entries he, hw⟩
  · rintro ⟨w, hw, hv⟩
    exact ⟨(k, w), mem_entries_iff.mpr hw, by rw [hv]; rfl⟩

/-- Erasing from the front while the key is below {lit}`a` removes exactly the
keys below {lit}`a`. -/
theorem find?_dropBelow (m : OrderedMap κ ν) (a k : κ) :
    (m.dropBelow a).find? k = if k < a then none else m.find? k := by
  have hlist : ∀ es : List (κ × ν), es.Pairwise (fun x y => x.1 < y.1) →
      lookup k (es.dropWhile fun e => e.1 < a) = if k < a then none else lookup k es := by
    intro es hsorted
    induction es with
    | nil => simp [lookup]
    | cons e es ih =>
        rw [List.pairwise_cons] at hsorted
        by_cases he : e.1 < a
        · rw [List.dropWhile_cons_of_pos (by simp [he]), ih hsorted.2, lookup]
          by_cases hk : k < a
          · simp [hk]
          · have hne : e.1 ≠ k := fun h => hk (h ▸ he)
            simp [hk, hne]
        · rw [List.dropWhile_cons_of_neg (by simp [he])]
          by_cases hk : k < a
          · have hnone : lookup k (e :: es) = none := by
              refine lookup_eq_none fun x hx hxk => ?_
              have hle : e.1 ≤ x.1 := by
                rcases List.mem_cons.mp hx with rfl | hx
                · exact le_rfl
                · exact (hsorted.1 x hx).le
              exact he (hle.trans_lt (hxk ▸ hk))
            simp [hk, hnone]
          · simp [hk]
  exact hlist m.entries m.sorted

end OrderedMap

end MyuTcp.Library
