import Mathlib.Tactic

/-!
A ring buffer with claims: writing and reading take two steps each. A claim moves a
head ahead and grants the storage it has moved over, as far as the end of the storage;
a finish commits a number of places from the tail on, and moves the head back to
there.

The counters grow for ever, and place `i` lies at `i % size` of the storage.

* `putClaim`, `putFinish`, `getClaim`, `getFinish`: the operations. The order of the
  counters is part of the structure.
* `stored`: what has been committed and not given back, the oldest first.
* `stored_put`, `getClaim_data`, `stored_getFinish`: what is put into it is got out in
  order, as long as no claim is left unfinished.
* `putArea_eq_freeArea_iff`: what a claim would grant is the free storage exactly when
  none is.
-/

/-- A ring buffer over `size` places of storage. -/
structure RingBuffer (α : Type*) (size : ℕ) where
  mem : Fin size → α
  putHead : ℕ
  putTail : ℕ
  getHead : ℕ
  getTail : ℕ
  get_le : getTail ≤ getHead
  got_le : getHead ≤ putTail
  put_le : putTail ≤ putHead
  room_le : putHead ≤ getTail + size

namespace RingBuffer

variable {α : Type*} {size : ℕ}

/-- An empty ring buffer over some storage. -/
def init (mem : Fin size → α) : RingBuffer α size :=
  ⟨mem, 0, 0, 0, 0, le_rfl, le_rfl, le_rfl, Nat.zero_le _⟩

section Operations

variable (r : RingBuffer α size)

/-- The places granted from a counter on, of so many: those up to the end of the
storage. -/
def upToEnd (size i n : ℕ) : ℕ := min n (size - i % size)

/-- How many places a claim to write is granted. -/
def putRoom : ℕ := upToEnd size r.putHead (size - (r.putHead - r.getTail))

/-- How many places a claim to read is granted. -/
def getRoom : ℕ := upToEnd size r.getHead (r.putTail - r.getHead)

/-- Claim storage to write to. -/
def putClaim : RingBuffer α size where
  mem := r.mem
  putHead := r.putHead + r.putRoom
  putTail := r.putTail
  getHead := r.getHead
  getTail := r.getTail
  get_le := r.get_le
  got_le := r.got_le
  put_le := r.put_le.trans (Nat.le_add_right _ _)
  room_le := by
    have hroom : r.putRoom ≤ size - (r.putHead - r.getTail) := min_le_left _ _
    have := r.room_le
    omega

/-- Commit `n` places, unless fewer are claimed. -/
def putFinish (n : ℕ) : RingBuffer α size :=
  if h : n ≤ r.putHead - r.putTail then
    { r with
      putHead := r.putTail + n
      putTail := r.putTail + n
      got_le := r.got_le.trans (Nat.le_add_right _ _)
      put_le := le_rfl
      room_le := by
        have := r.put_le
        have := r.room_le
        omega }
  else r

/-- Claim committed storage to read. -/
def getClaim : RingBuffer α size where
  mem := r.mem
  putHead := r.putHead
  putTail := r.putTail
  getHead := r.getHead + r.getRoom
  getTail := r.getTail
  get_le := r.get_le.trans (Nat.le_add_right _ _)
  got_le := by
    have hroom : r.getRoom ≤ r.putTail - r.getHead := min_le_left _ _
    have := r.got_le
    omega
  put_le := r.put_le
  room_le := r.room_le

/-- Give back `n` places, unless fewer are claimed. -/
def getFinish (n : ℕ) : RingBuffer α size :=
  if h : n ≤ r.getHead - r.getTail then
    { r with
      getHead := r.getTail + n
      getTail := r.getTail + n
      get_le := le_rfl
      got_le := by
        have := r.get_le
        have := r.got_le
        omega
      room_le := r.room_le.trans (Nat.add_le_add_right (Nat.le_add_right _ _) _) }
  else r

/-- Write to the storage, from an offset on. -/
def write (offset : ℕ) (bs : List α) : RingBuffer α size :=
  { r with mem := fun i => if offset ≤ i then bs.getD (i - offset) (r.mem i) else r.mem i }

/-- Where the next claim to write would be granted storage, and how much. -/
def putArea : ℕ × ℕ := (r.putHead % size, r.putRoom)

/-- The storage that is free behind what has been committed, up to its end. -/
def freeArea : ℕ × ℕ :=
  (r.putTail % size, upToEnd size r.putTail (size - (r.putTail - r.getTail)))

/-- Claim, write and finish. -/
def put (bs : List α) : RingBuffer α size :=
  (r.putClaim.write r.putArea.1 bs).putFinish bs.length

end Operations

lemma putFinish_of_le {r : RingBuffer α size} {n : ℕ} (h : n ≤ r.putHead - r.putTail) :
    (r.putFinish n).mem = r.mem ∧ (r.putFinish n).putHead = r.putTail + n ∧
      (r.putFinish n).putTail = r.putTail + n ∧ (r.putFinish n).getHead = r.getHead ∧
      (r.putFinish n).getTail = r.getTail := by
  rw [putFinish, dif_pos h]
  exact ⟨rfl, rfl, rfl, rfl, rfl⟩

lemma getFinish_of_le {r : RingBuffer α size} {n : ℕ} (h : n ≤ r.getHead - r.getTail) :
    (r.getFinish n).mem = r.mem ∧ (r.getFinish n).putHead = r.putHead ∧
      (r.getFinish n).putTail = r.putTail ∧ (r.getFinish n).getHead = r.getTail + n ∧
      (r.getFinish n).getTail = r.getTail + n := by
  rw [getFinish, dif_pos h]
  exact ⟨rfl, rfl, rfl, rfl, rfl⟩

/-! ### Claims to write -/

/-- A claim without room changes nothing. -/
lemma putClaim_eq_self {r : RingBuffer α size} (h : r.putRoom = 0) : r.putClaim = r := by
  cases r
  simp only [putClaim, h, Nat.add_zero]

/-- Places less than once around the storage apart lie apart. -/
lemma mod_ne_of_lt {i j : ℕ} (hlt : i < j) (hround : j < i + size) : i % size ≠ j % size := by
  intro h
  have hdvd : size ∣ j - i := (Nat.modEq_iff_dvd' hlt.le).mp h
  have hzero : j - i = 0 := Nat.eq_zero_of_dvd_of_lt hdvd (by omega)
  omega

/-- Places up to the end of the storage lie one behind the other. -/
lemma add_mod_of_lt {i k : ℕ} (h : i % size + k < size) : (i + k) % size = i % size + k := by
  have hk : k % size = k := Nat.mod_eq_of_lt (by omega)
  rw [Nat.add_mod_of_add_mod_lt (by rwa [hk]), hk]

/-- **What a claim would grant** is the free storage exactly when nothing is claimed. -/
theorem putArea_eq_freeArea_iff (r : RingBuffer α size) (hsize : 0 < size) :
    r.putArea = r.freeArea ↔ r.putHead = r.putTail := by
  refine ⟨fun h => ?_, fun h => by rw [putArea, freeArea, putRoom, h]⟩
  obtain ⟨hoffset, hroom⟩ := Prod.mk.inj h
  have htail := r.put_le
  have hget := r.get_le.trans r.got_le
  have hfull := r.room_le
  by_contra hne
  by_cases hround : r.putHead < r.putTail + size
  · exact mod_ne_of_lt (by omega) hround hoffset.symm
  · -- everything is claimed, and there is no room at all
    have hmod := Nat.mod_lt r.putTail hsize
    rw [putRoom, upToEnd, upToEnd] at hroom
    omega

/-- What is put goes into the claim. -/
lemma put_of_le {r : RingBuffer α size} (h : r.putHead = r.putTail) {bs : List α}
    (hbs : bs.length ≤ r.putRoom) :
    (r.put bs).mem = (r.write (r.putTail % size) bs).mem ∧
      (r.put bs).putHead = r.putTail + bs.length ∧ (r.put bs).putTail = r.putTail + bs.length ∧
      (r.put bs).getHead = r.getHead ∧ (r.put bs).getTail = r.getTail := by
  have hclaimed : bs.length ≤ r.putClaim.putHead - r.putClaim.putTail := by
    show bs.length ≤ r.putHead + r.putRoom - r.putTail
    omega
  obtain ⟨hmem, hrest⟩ := putFinish_of_le (r := r.putClaim.write r.putArea.1 bs) hclaimed
  refine ⟨?_, hrest⟩
  rw [put, hmem, putArea, h]
  rfl

lemma getFinish_putHead {r : RingBuffer α size} (h : r.putHead = r.putTail) (n : ℕ) :
    (r.getFinish n).putHead = (r.getFinish n).putTail := by
  rw [getFinish]
  split_ifs <;> exact h

/-! ### What is stored -/

section Stored

variable [NeZero size]

/-- What lies at a place. -/
def cell (r : RingBuffer α size) (i : ℕ) : α := r.mem (Fin.ofNat size i)

/-- What lies at some places from a place on. -/
def places (r : RingBuffer α size) (i n : ℕ) : List α := (List.range n).map fun k => r.cell (i + k)

/-- What has been committed and not given back, the oldest first. -/
def stored (r : RingBuffer α size) : List α := r.places r.getTail (r.putTail - r.getTail)

/-- What a claim to read grants. -/
def getData (r : RingBuffer α size) : List α := r.places r.getHead r.getRoom

@[simp] lemma places_length (r : RingBuffer α size) (i n : ℕ) : (r.places i n).length = n := by
  simp [places]

lemma stored_length (r : RingBuffer α size) : r.stored.length = r.putTail - r.getTail :=
  r.places_length _ _

lemma places_add (r : RingBuffer α size) (i m n : ℕ) :
    r.places i (m + n) = r.places i m ++ r.places (i + m) n := by
  simp only [places, List.range_add, List.map_append, List.map_map, Function.comp_def,
    Nat.add_assoc]

lemma places_congr {r r' : RingBuffer α size} {i n : ℕ}
    (h : ∀ k < n, r.cell (i + k) = r'.cell (i + k)) : r.places i n = r'.places i n :=
  List.map_congr_left fun k hk => h k (List.mem_range.mp hk)

lemma take_places (r : RingBuffer α size) (i m n : ℕ) :
    (r.places i n).take m = r.places i (min n m) := by
  rw [places, ← List.map_take, List.take_range, Nat.min_comm]
  rfl

lemma drop_places (r : RingBuffer α size) (i : ℕ) {m n : ℕ} (h : m ≤ n) :
    (r.places i n).drop m = r.places (i + m) (n - m) := by
  obtain ⟨k, rfl⟩ := Nat.exists_eq_add_of_le h
  rw [places_add, List.drop_left' (r.places_length i m), Nat.add_sub_cancel_left]

/-- A place that is written. -/
lemma cell_write (r : RingBuffer α size) {offset i : ℕ} {bs : List α} {k : ℕ} (hk : k < bs.length)
    (hi : i % size = offset + k) : (r.write offset bs).cell i = bs[k] := by
  have hle : offset ≤ i % size := by omega
  simp only [cell, write, Fin.val_ofNat, if_pos hle]
  rw [hi, Nat.add_sub_cancel_left]
  simp [hk]

/-- A place that is not. -/
lemma cell_write_of_ne (r : RingBuffer α size) {offset i : ℕ} {bs : List α}
    (h : ∀ k < bs.length, i % size ≠ offset + k) : (r.write offset bs).cell i = r.cell i := by
  simp only [cell, write, Fin.val_ofNat]
  split_ifs with hle
  · have hbehind : bs.length ≤ i % size - offset := by
      by_contra hlt
      exact h (i % size - offset) (Nat.not_le.mp hlt) (by omega)
    simp [hbehind]
  · rfl

/-- **What is put** comes to lie behind what is stored. -/
theorem stored_put {r : RingBuffer α size} (h : r.putHead = r.putTail) {bs : List α}
    (hbs : bs.length ≤ r.putRoom) : (r.put bs).stored = r.stored ++ bs := by
  have hget := r.get_le.trans r.got_le
  have hfull := r.room_le
  have hroom : r.putRoom ≤ size - (r.putHead - r.getTail) := min_le_left _ _
  have hend : r.putRoom ≤ size - r.putTail % size := h ▸ min_le_right _ _
  obtain ⟨hmem, -, hput, -, hgetTail⟩ := put_of_le h hbs
  have hcell : ∀ i, (r.put bs).cell i = (r.write (r.putTail % size) bs).cell i := fun i => by
    rw [cell, hmem, cell]
  have hold : (r.put bs).places r.getTail (r.putTail - r.getTail) = r.stored := by
    refine places_congr fun k hk => ?_
    rw [hcell]
    refine cell_write_of_ne r fun j hj hsame => ?_
    have hnext : (r.putTail + j) % size = r.putTail % size + j := add_mod_of_lt (by omega)
    exact mod_ne_of_lt (by omega) (by omega) (hsame.trans hnext.symm)
  have hnew : (r.put bs).places r.putTail bs.length = bs := by
    refine List.ext_getElem (by simp) fun k _ hk => ?_
    simp only [places, List.getElem_map, List.getElem_range, hcell]
    exact cell_write r hk (add_mod_of_lt (by omega))
  calc (r.put bs).stored
      = (r.put bs).places r.getTail (r.putTail - r.getTail + bs.length) := by
        rw [stored, hput, hgetTail, Nat.sub_add_comm hget]
    _ = r.stored ++ bs := by
        rw [places_add, hold, Nat.add_sub_cancel' hget, hnew]

/-- What a claim to read grants is the oldest of what is stored. -/
lemma getData_eq {r : RingBuffer α size} (h : r.getHead = r.getTail) :
    r.getData = r.stored.take (size - r.getTail % size) := by
  rw [stored, take_places, getData, getRoom, upToEnd, h]

/-- What is given back goes from the front of it. -/
lemma stored_getFinish {r : RingBuffer α size} {n : ℕ} (h : n ≤ r.getHead - r.getTail) :
    (r.getFinish n).stored = r.stored.drop n := by
  obtain ⟨hmem, -, hput, -, hget⟩ := getFinish_of_le h
  have hle : n ≤ r.putTail - r.getTail := h.trans (Nat.sub_le_sub_right r.got_le _)
  rw [stored, stored, drop_places r _ hle, hput, hget, Nat.sub_add_eq]
  refine places_congr fun k _ => ?_
  rw [cell, cell, hmem]

end Stored

end RingBuffer
