import Mathlib.Tactic

/-!
Programs over a piece of memory that stop on an access outside it, in `Except`.

A piece of memory is the list of what it holds. What a program may rely on is the
part it is told of; whatever lies behind that part is somebody else's.

* `load`, `slice` and `store` are the accesses. Each stops on the fault it is given.
* `splice m i bs` is memory with `bs` written at `i`; `splice_splice` joins two
  writes in a row.
* `Reads d f a`: the program `f` ends in `a` on every memory that starts with `d`, so
  that it reads nothing behind `d`. The rules compose it along a program.
-/

namespace Memory

universe u

variable {ε α : Type*} {β γ : Type u}

/-! ### The accesses -/

/-- One read. -/
def load (e : ε) (m : List α) (i : ℕ) : Except ε α :=
  match m[i]? with
  | some a => .ok a
  | none => .error e

/-- A read of `n` places from `i` on. -/
def slice (e : ε) (m : List α) (i n : ℕ) : Except ε (List α) :=
  if i + n ≤ m.length then .ok ((m.drop i).take n) else .error e

/-- Memory with `bs` in place of what was at `i`. -/
def splice (m : List α) (i : ℕ) (bs : List α) : List α := m.take i ++ bs ++ m.drop (i + bs.length)

/-- A write from `i` on. -/
def store (e : ε) (m : List α) (i : ℕ) (bs : List α) : Except ε (List α) :=
  if i + bs.length ≤ m.length then .ok (splice m i bs) else .error e

lemma load_of_lt (e : ε) {m : List α} {i : ℕ} (h : i < m.length) : load e m i = .ok m[i] := by
  rw [load, List.getElem?_eq_getElem h]

lemma load_of_le (e : ε) {m : List α} {i : ℕ} (h : m.length ≤ i) : load e m i = .error e := by
  rw [load, List.getElem?_eq_none h]

lemma slice_of_le (e : ε) {m : List α} {i n : ℕ} (h : i + n ≤ m.length) :
    slice e m i n = .ok ((m.drop i).take n) := if_pos h

lemma slice_of_lt (e : ε) {m : List α} {i n : ℕ} (h : m.length < i + n) :
    slice e m i n = .error e := if_neg (Nat.not_le.mpr h)

lemma store_of_le (e : ε) {m : List α} {i : ℕ} {bs : List α} (h : i + bs.length ≤ m.length) :
    store e m i bs = .ok (splice m i bs) := if_pos h

lemma store_of_lt (e : ε) {m : List α} {i : ℕ} {bs : List α} (h : m.length < i + bs.length) :
    store e m i bs = .error e := if_neg (Nat.not_le.mpr h)

/-! ### Written memory -/

@[simp] lemma splice_nil (m : List α) (i : ℕ) : splice m i [] = m := by simp [splice]

/-- A write inside memory leaves its length. -/
lemma splice_length {m : List α} {i : ℕ} {bs : List α} (h : i + bs.length ≤ m.length) :
    (splice m i bs).length = m.length := by
  simp only [splice, List.length_append, List.length_take, List.length_drop]
  omega

/-- What lies in front of a write is left alone. -/
lemma take_splice {m : List α} {i : ℕ} (bs : List α) (h : i ≤ m.length) :
    (splice m i bs).take i = m.take i := by
  rw [splice, List.append_assoc, List.take_left' (by simpa using h)]

/-- Up to its end, written memory is what was in front and what was written. -/
lemma take_splice_end {m : List α} {i : ℕ} (bs : List α) (h : i ≤ m.length) :
    (splice m i bs).take (i + bs.length) = m.take i ++ bs :=
  List.take_left' (by simp [h])

/-- What lies behind a write is left alone. -/
lemma drop_splice {m : List α} {i : ℕ} (bs : List α) (h : i ≤ m.length) :
    (splice m i bs).drop (i + bs.length) = m.drop (i + bs.length) :=
  List.drop_left' (by simp [h])

/-- **Two writes in a row** are one. -/
lemma splice_splice {m : List α} {i : ℕ} (as bs : List α) (h : i ≤ m.length) :
    splice (splice m i as) (i + as.length) bs = splice m i (as ++ bs) := by
  calc splice (splice m i as) (i + as.length) bs
      = m.take i ++ as ++ bs ++ ((splice m i as).drop (i + as.length)).drop bs.length := by
        rw [splice, take_splice_end as h, List.drop_drop]
    _ = m.take i ++ as ++ bs ++ m.drop (i + as.length + bs.length) := by
        rw [drop_splice as h, List.drop_drop]
    _ = splice m i (as ++ bs) := by
        rw [splice, List.length_append, List.append_assoc (m.take i), Nat.add_assoc]

/-- A write into the front part leaves the rest behind it. -/
lemma splice_append {m : List α} {i : ℕ} {bs : List α} (h : i + bs.length ≤ m.length)
    (behind : List α) : splice (m ++ behind) i bs = splice m i bs ++ behind := by
  rw [splice, splice, List.take_append_of_le_length (by omega), List.drop_append_of_le_length h]
  simp only [List.append_assoc]

/-- A write behind a front part, into room for it. -/
lemma splice_room (front behind : List α) {room bs : List α} (h : bs.length ≤ room.length) :
    splice (front ++ room ++ behind) front.length bs =
      front ++ bs ++ room.drop bs.length ++ behind := by
  have htake : (front ++ room ++ behind).take front.length = front := by
    rw [List.append_assoc, List.take_left' rfl]
  have hdrop : (front ++ room ++ behind).drop (front.length + bs.length) =
      room.drop bs.length ++ behind := by
    rw [← List.drop_drop, List.append_assoc, List.drop_left' rfl,
      List.drop_append_of_le_length h]
  rw [splice, htake, hdrop, ← List.append_assoc]

/-- Memory that starts with `key` once `bs` is written at its start does so by `bs`, or by
what was there behind it. -/
lemma prefix_splice_iff {key bs m : List α} :
    key <+: splice m 0 bs ↔
      key <+: bs ∨ ∃ rest, key = bs ++ rest ∧ rest <+: m.drop bs.length := by
  have hsplice : splice m 0 bs = bs ++ m.drop bs.length := by simp [splice]
  rw [hsplice]
  refine ⟨fun h => ?_, ?_⟩
  · cases le_total key.length bs.length with
    | inl hle => exact Or.inl (List.prefix_of_prefix_length_le h (List.prefix_append _ _) hle)
    | inr hle =>
        obtain ⟨rest, rfl⟩ := List.prefix_of_prefix_length_le (List.prefix_append _ _) h hle
        exact Or.inr ⟨rest, rfl, (List.prefix_append_right_inj bs).mp h⟩
  · rintro (h | ⟨rest, rfl, h⟩)
    · exact h.trans (List.prefix_append _ _)
    · exact (List.prefix_append_right_inj bs).mpr h

/-- Two stretches are found one behind the other. -/
lemma append_prefix_iff {as bs m : List α} :
    as ++ bs <+: m ↔ as <+: m ∧ bs <+: m.drop as.length := by
  refine ⟨?_, ?_⟩
  · rintro ⟨rest, rfl⟩
    rw [List.append_assoc, List.drop_left' rfl]
    exact ⟨List.prefix_append _ _, List.prefix_append _ _⟩
  · rintro ⟨⟨rest, rfl⟩, hbs⟩
    rw [List.drop_left' rfl] at hbs
    exact List.prefix_append_right_inj as |>.mpr hbs

/-! ### Programs that read no further than they are told -/

/-- Whatever lies behind `d`, the program ends in `a`. -/
def Reads (d : List α) (f : List α → Except ε β) (a : β) : Prop :=
  ∀ beyond, f (d ++ beyond) = .ok a

namespace Reads

variable {d : List α} {f : List α → Except ε β} {a : β} {b : γ}

/-- With nothing behind it in particular. -/
lemma eq (h : Reads d f a) : f d = .ok a := by simpa using h []

lemma unique {a' : β} (h : Reads d f a) (h' : Reads d f a') : a = a' := by
  simpa using h.eq.symm.trans h'.eq

protected lemma pure (d : List α) (a : β) : Reads d (fun _ => (.ok a : Except ε β)) a :=
  fun _ => rfl

/-- A program that does not look at the memory. -/
lemma const {x : Except ε β} (h : x = .ok a) : Reads d (fun _ => x) a := fun _ => h

/-- A sequence reads no further than its parts. -/
protected lemma bind {g : β → List α → Except ε γ} (h : Reads d f a) (hg : Reads d (g a) b) :
    Reads d (fun m => f m >>= fun x => g x m) b := fun beyond => by
  show (f (d ++ beyond) >>= fun x => g x (d ++ beyond)) = _
  rw [h beyond]
  exact hg beyond

/-- A choice that does not depend on the memory. -/
protected lemma ite {c : Prop} [Decidable c] {g : List α → Except ε β} (hf : c → Reads d f a)
    (hg : ¬ c → Reads d g a) : Reads d (fun m => if c then f m else g m) a := fun beyond => by
  show (if c then f (d ++ beyond) else g (d ++ beyond)) = _
  by_cases h : c
  · rw [if_pos h]
    exact hf h beyond
  · rw [if_neg h]
    exact hg h beyond

/-- A read inside what is known. -/
lemma load (e : ε) {i : ℕ} (h : i < d.length) : Reads d (fun m => load e m i) d[i] := by
  intro beyond
  show Memory.load e (d ++ beyond) i = _
  rw [load_of_lt e (by simp; omega), List.getElem_append_left h]

/-- A longer read inside what is known. -/
lemma slice (e : ε) {i n : ℕ} (h : i + n ≤ d.length) :
    Reads d (fun m => slice e m i n) ((d.drop i).take n) := by
  intro beyond
  show Memory.slice e (d ++ beyond) i n = _
  rw [slice_of_le e (by simp; omega), List.drop_append_of_le_length (by omega),
    List.take_append_of_le_length (by simp; omega)]

end Reads

end Memory
