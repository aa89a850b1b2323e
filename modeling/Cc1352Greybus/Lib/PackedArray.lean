import Mathlib.Tactic

/-!
Tables kept at the front of an array: looked up by a scan from the start, and
closed up on a deletion by moving the last element into the gap.

* `findEntry_eq_some_iff`, `findEntry_eq_none_iff`: what a scan finds.
* `swapRemove_perm`: what a deletion leaves is what plain deletion leaves, in
  some order.
-/

namespace PackedArray

variable {α : Type*}

/-! ### Lookup -/

/-- The first element that passes, with its index. -/
def findEntry (p : α → Bool) (l : List α) : Option (ℕ × α) :=
  (l.findIdx? p).bind fun i => l[i]?.map fun a => (i, a)

lemma findEntry_eq_some_iff {p : α → Bool} {l : List α} {i : ℕ} {a : α} :
    findEntry p l = some (i, a) ↔
      ∃ h : i < l.length, l[i] = a ∧ p a = true ∧ ∀ j (hj : j < i), p l[j] = false := by
  simp only [findEntry, Option.bind_eq_some_iff, Option.map_eq_some_iff, Prod.mk.injEq,
    List.findIdx?_eq_some_iff_getElem]
  constructor
  · rintro ⟨k, ⟨hk, hp, hmin⟩, b, hb, rfl, rfl⟩
    obtain ⟨-, rfl⟩ := List.getElem?_eq_some_iff.mp hb
    exact ⟨hk, rfl, hp, fun j hj => by simpa using hmin j hj⟩
  · rintro ⟨h, rfl, hp, hmin⟩
    exact ⟨i, ⟨h, hp, fun j hj => by simpa using hmin j hj⟩, l[i],
      List.getElem?_eq_getElem h, rfl, rfl⟩

lemma findEntry_eq_none_iff {p : α → Bool} {l : List α} :
    findEntry p l = none ↔ ∀ a ∈ l, p a = false := by
  rw [← List.findIdx?_eq_none_iff, findEntry]
  cases h : l.findIdx? p with
  | none => simp
  | some i =>
      obtain ⟨hi, -⟩ := List.findIdx?_eq_some_iff_getElem.mp h
      simp [List.getElem?_eq_getElem hi]

/-- What a scan finds is in the table and passes. -/
lemma findEntry_some {p : α → Bool} {l : List α} {i : ℕ} {a : α}
    (h : findEntry p l = some (i, a)) : a ∈ l ∧ p a = true := by
  obtain ⟨hi, rfl, hp, -⟩ := findEntry_eq_some_iff.mp h
  exact ⟨List.getElem_mem hi, hp⟩

/-- A scan for something only one element has finds that element. -/
lemma findEntry_of_unique {p : α → Bool} {l : List α} {a : α} (ha : a ∈ l) (hp : p a = true)
    (huniq : ∀ b ∈ l, p b = true → b = a) : ∃ i, findEntry p l = some (i, a) := by
  cases h : findEntry p l with
  | none =>
      rw [findEntry_eq_none_iff] at h
      simp [h a ha] at hp
  | some r =>
      obtain ⟨i, b⟩ := r
      obtain ⟨hb, hpb⟩ := findEntry_some h
      exact ⟨i, by rw [huniq b hb hpb]⟩

/-! ### Deletion -/

/-- Delete the element at `i`: the last element takes its place. -/
def swapRemove (l : List α) (i : ℕ) : List α :=
  match l.getLast? with
  | none => []
  | some last => l.dropLast.set i last

lemma swapRemove_concat (l : List α) (a : α) (i : ℕ) : swapRemove (l ++ [a]) i = l.set i a := by
  simp [swapRemove]

/-- Up to order, an element is deleted and the others stay. -/
theorem swapRemove_perm {l : List α} {i : ℕ} (h : i < l.length) :
    (swapRemove l i).Perm (l.eraseIdx i) := by
  obtain ⟨l, a, rfl⟩ : ∃ l' a, l = l' ++ [a] := by
    refine ⟨l.dropLast, l.getLast (List.ne_nil_of_length_pos (by omega)), ?_⟩
    rw [List.dropLast_append_getLast]
  rw [swapRemove_concat]
  rw [List.length_append, List.length_singleton] at h
  rcases Nat.lt_or_ge i l.length with hi | hi
  · rw [List.eraseIdx_append_of_lt_length hi]
    exact (List.set_perm_cons_eraseIdx hi a).trans (List.perm_append_singleton a _).symm
  · -- the last element itself goes
    obtain rfl : i = l.length := by omega
    rw [List.set_eq_of_length_le le_rfl, List.eraseIdx_append_of_length_le le_rfl]
    simp

/-- The element deleted and what is left. -/
lemma cons_swapRemove_perm {l : List α} {i : ℕ} (h : i < l.length) :
    (l[i] :: swapRemove l i).Perm l :=
  ((swapRemove_perm h).cons _).trans (List.getElem_cons_eraseIdx_perm h)

/-- The same for an element found by a scan. -/
lemma cons_swapRemove_findEntry {p : α → Bool} {l : List α} {i : ℕ} {a : α}
    (h : findEntry p l = some (i, a)) : (a :: swapRemove l i).Perm l := by
  obtain ⟨hi, rfl, -⟩ := findEntry_eq_some_iff.mp h
  exact cons_swapRemove_perm hi

/-- An element that is neither deleted nor the last stays where it is. -/
lemma getElem?_swapRemove_of_ne {l : List α} {i k : ℕ} (hne : k ≠ i) (hk : k + 1 < l.length) :
    (swapRemove l i)[k]? = l[k]? := by
  obtain ⟨l, a, rfl⟩ : ∃ l' a, l = l' ++ [a] :=
    ⟨l.dropLast, l.getLast (List.ne_nil_of_length_pos (by omega)),
      (List.dropLast_append_getLast _).symm⟩
  rw [List.length_append, List.length_singleton] at hk
  rw [swapRemove_concat, List.getElem?_set_ne hne.symm, List.getElem?_append_left (by omega)]

/-- The last one moves to where one is deleted. -/
lemma getElem?_swapRemove_self {l : List α} {i k : ℕ} (hik : i < k) (hk : k + 1 = l.length) :
    (swapRemove l i)[i]? = l[k]? := by
  obtain ⟨l, a, rfl⟩ : ∃ l' a, l = l' ++ [a] :=
    ⟨l.dropLast, l.getLast (List.ne_nil_of_length_pos (by omega)),
      (List.dropLast_append_getLast _).symm⟩
  rw [List.length_append, List.length_singleton, Nat.add_right_cancel_iff] at hk
  rw [swapRemove_concat, List.getElem?_set_self (by omega), hk, List.getElem?_concat_length]

/-- No element moves up, and one that moves was the last. -/
lemma exists_getElem?_swapRemove {l : List α} {i k : ℕ} {a : α} (ha : l[k]? = some a)
    (hne : k ≠ i) (hi : i < l.length) :
    ∃ j ≤ k, (swapRemove l i)[j]? = some a ∧ (j = k ↔ k + 1 ≠ l.length) := by
  have hk : k < l.length := (List.getElem?_eq_some_iff.mp ha).1
  by_cases hlast : k + 1 = l.length
  · refine ⟨i, by omega, ?_, by omega⟩
    rw [getElem?_swapRemove_self (by omega) hlast, ha]
  · refine ⟨k, le_rfl, ?_, by omega⟩
    rw [getElem?_swapRemove_of_ne hne (by omega), ha]

/-! ### Change -/

/-- Up to order, the element found by a scan is changed and the others stay. -/
lemma modify_perm {p : α → Bool} {l : List α} {i : ℕ} {a : α} (h : findEntry p l = some (i, a))
    (f : α → α) : l.Perm (a :: l.eraseIdx i) ∧ (l.modify i f).Perm (f a :: l.eraseIdx i) := by
  obtain ⟨hi, rfl, -⟩ := findEntry_eq_some_iff.mp h
  have hset : l.modify i f = l.set i (f l[i]) := by
    refine List.ext_getElem? fun k => ?_
    rw [List.getElem?_modify, List.getElem?_set]
    by_cases hk : i = k
    · subst hk
      simp [hi]
    · simp [hk]
  rw [hset]
  exact ⟨(List.getElem_cons_eraseIdx_perm hi).symm, List.set_perm_cons_eraseIdx hi _⟩

end PackedArray
