import Mathlib.Tactic

/-!
Names made of labels: written with a separator, and packed with a length in front
of each label and an end mark behind the last.

* `labels sep name` are the labels of a name, in order. An empty piece behind the
  last separator is no label.
* `dotted sep ls` is the name with a separator behind every label, `joined sep ls`
  the one with separators between them; `labels_joined` reads either back.
* `packed size fin ls` is the packed form; `packed_length` counts it.
-/

namespace Labels

variable {α : Type*}

/-! ### Names with separators -/

/-- Every label with a separator behind it. -/
def dotted (sep : α) (ls : List (List α)) : List α := ls.flatMap (· ++ [sep])

/-- The labels with separators between them. -/
def joined (sep : α) (ls : List (List α)) : List α := [sep].intercalate ls

@[simp] lemma dotted_nil (sep : α) : dotted sep [] = [] := rfl

@[simp] lemma dotted_cons (sep : α) (l : List α) (ls : List (List α)) :
    dotted sep (l :: ls) = l ++ sep :: dotted sep ls := by
  simp [dotted]

lemma joined_singleton (sep : α) (l : List α) : joined sep [l] = l := by
  simp [joined, List.intercalate]

lemma joined_cons_cons (sep : α) (l m : List α) (ls : List (List α)) :
    joined sep (l :: m :: ls) = l ++ sep :: joined sep (m :: ls) := by
  simp [joined, List.intercalate]

/-- A name is joined but for its last separator. -/
lemma joined_concat (sep : α) {ls : List (List α)} (hls : ls ≠ []) :
    joined sep ls ++ [sep] = dotted sep ls := by
  induction ls with
  | nil => exact absurd rfl hls
  | cons l ls ih =>
      cases ls with
      | nil => rw [joined_singleton, dotted_cons, dotted_nil]
      | cons m ls =>
          rw [joined_cons_cons, dotted_cons, ← ih (List.cons_ne_nil m ls), List.append_assoc,
            List.cons_append]

lemma joined_length (sep : α) {ls : List (List α)} (hls : ls ≠ []) :
    (joined sep ls).length + 1 = (dotted sep ls).length := by
  rw [← joined_concat sep hls, List.length_append, List.length_singleton]

/-- A joined name ends with its last label. -/
lemma joined_getLast_mem (sep : α) {ls : List (List α)} (hls : ls ≠ []) (hne : ∀ l ∈ ls, l ≠ [])
    {c : α} (hc : (joined sep ls).getLast? = some c) : ∃ l ∈ ls, c ∈ l := by
  induction ls with
  | nil => exact absurd rfl hls
  | cons l ls ih =>
      cases ls with
      | nil =>
          rw [joined_singleton] at hc
          exact ⟨l, by simp, List.mem_of_getLast? hc⟩
      | cons m ls =>
          have hm : joined sep (m :: ls) ≠ [] := by
            intro h
            have hlen := joined_length sep (List.cons_ne_nil m ls)
            rw [h, dotted_cons, List.length_append, List.length_cons] at hlen
            have := List.length_pos_iff.mpr (hne m (by simp))
            simp at hlen
            omega
          rw [joined_cons_cons, List.getLast?_append_of_ne_nil _ (List.cons_ne_nil _ _),
            List.getLast?_cons_of_ne_nil hm] at hc
          obtain ⟨k, hk, hck⟩ := ih (List.cons_ne_nil m ls) (fun k hk => hne k (by simp [hk])) hc
          exact ⟨k, List.mem_cons_of_mem l hk, hck⟩

/-! ### Reading a name -/

section Read

variable [DecidableEq α] (sep : α)

/-- The labels of a name. -/
def labels : List α → List (List α)
  | [] => []
  | c :: cs =>
    if c = sep then [] :: labels cs
    else
      match labels cs with
      | [] => [[c]]
      | l :: ls => (c :: l) :: ls

@[simp] lemma labels_nil : labels sep [] = [] := rfl

/-- A first label and what follows its separator. -/
lemma labels_append_sep {l : List α} (hl : sep ∉ l) (rest : List α) :
    labels sep (l ++ sep :: rest) = l :: labels sep rest := by
  induction l with
  | nil => simp [labels]
  | cons c l ih =>
      rw [List.mem_cons, not_or] at hl
      rw [List.cons_append, labels, if_neg (Ne.symm hl.1), ih hl.2]

/-- A name without a separator is one label. -/
lemma labels_of_notMem {l : List α} (hl : sep ∉ l) (hne : l ≠ []) : labels sep l = [l] := by
  induction l with
  | nil => exact absurd rfl hne
  | cons c l ih =>
      rw [List.mem_cons, not_or] at hl
      rw [labels, if_neg (Ne.symm hl.1)]
      cases l with
      | nil => rfl
      | cons d l => rw [ih hl.2 (List.cons_ne_nil d l)]

/-- **A joined name reads back.** -/
theorem labels_joined {ls : List (List α)} (hsep : ∀ l ∈ ls, sep ∉ l) (hne : ∀ l ∈ ls, l ≠ []) :
    labels sep (joined sep ls) = ls := by
  induction ls with
  | nil => rfl
  | cons l ls ih =>
      have hl : sep ∉ l := hsep l (by simp)
      cases ls with
      | nil => rw [joined_singleton, labels_of_notMem sep hl (hne l (by simp))]
      | cons m ls =>
          rw [joined_cons_cons, labels_append_sep sep hl,
            ih (fun k hk => hsep k (by simp [hk])) (fun k hk => hne k (by simp [hk]))]

end Read

/-! ### Packed names -/

section Packed

variable (size : ℕ → α) (fin : α)

/-- Every label with its length in front, and the end mark. -/
def packed (ls : List (List α)) : List α := ls.flatMap (fun l => size l.length :: l) ++ [fin]

@[simp] lemma packed_nil : packed size fin [] = [fin] := rfl

@[simp] lemma packed_cons (l : List α) (ls : List (List α)) :
    packed size fin (l :: ls) = size l.length :: l ++ packed size fin ls := by
  simp [packed]

/-- A packed name is as long as the dotted one and its end mark. -/
lemma packed_length (sep : α) (ls : List (List α)) :
    (packed size fin ls).length = (dotted sep ls).length + 1 := by
  induction ls with
  | nil => rfl
  | cons l ls ih =>
      rw [packed_cons, dotted_cons, List.length_append, List.length_append, ih]
      simp only [List.length_cons]
      omega

lemma packed_length_pos (ls : List (List α)) : 0 < (packed size fin ls).length := by
  simp [packed]

end Packed

end Labels
