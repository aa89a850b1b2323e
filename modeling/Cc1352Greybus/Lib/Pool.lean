import Mathlib.Tactic

/-!
Pools of blocks that are handed out and taken back.

* `Pool.Conserved`: the blocks that are free and those in use are the pool's own,
  each of them once.
* `Conserved.handOut`, `Conserved.takeBack`: a free block is taken, and one in use is
  given back.
-/

variable {α : Type*}

/-- The free blocks and the ones in use are the pool's own, each once. -/
structure Pool.Conserved (own free used : List α) : Prop where
  perm : (free ++ used).Perm own
  nodup : own.Nodup

namespace Pool.Conserved

variable {own free used rest : List α} {p : α}

/-- At first every block is free. -/
lemma start (h : own.Nodup) : Conserved own own [] := ⟨by rw [List.append_nil], h⟩

lemma nodup_append (h : Conserved own free used) : (free ++ used).Nodup :=
  h.perm.nodup_iff.mpr h.nodup

/-- No block is used twice. -/
lemma nodup_used (h : Conserved own free used) : used.Nodup :=
  (List.nodup_append.mp h.nodup_append).2.1

/-- No free block is in use. -/
lemma notMem_used (h : Conserved own free used) (hp : p ∈ free) : p ∉ used := fun hmem =>
  (List.nodup_append.mp h.nodup_append).2.2 p hp p hmem rfl

lemma mem_own_of_free (h : Conserved own free used) (hp : p ∈ free) : p ∈ own :=
  h.perm.mem_iff.mp (List.mem_append_left _ hp)

lemma mem_own_of_used (h : Conserved own free used) (hp : p ∈ used) : p ∈ own :=
  h.perm.mem_iff.mp (List.mem_append_right _ hp)

lemma length_eq (h : Conserved own free used) : free.length + used.length = own.length := by
  rw [← List.length_append, h.perm.length_eq]

/-- The order of the blocks in use does not matter. -/
lemma congr (h : Conserved own free used) (hused : used.Perm rest) : Conserved own free rest :=
  ⟨(hused.symm.append_left free).trans h.perm, h.nodup⟩

/-- A free block is handed out. -/
lemma handOut (h : Conserved own (p :: free) used) : Conserved own free (p :: used) :=
  ⟨List.perm_middle.trans h.perm, h.nodup⟩

/-- A block in use is given back. -/
lemma takeBack (h : Conserved own free used) (hused : used.Perm (p :: rest)) :
    Conserved own (p :: free) rest :=
  ⟨List.perm_middle.symm.trans ((hused.symm.append_left free).trans h.perm), h.nodup⟩

end Pool.Conserved
