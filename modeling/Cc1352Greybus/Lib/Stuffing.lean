import Mathlib.Tactic

/-!
Byte stuffing: frames of arbitrary symbols on a line that reserves two of them.

A flag ends a frame. Inside a frame the flag and the escape symbol are sent as
the escape symbol followed by their masked value. The reader drops an escape
symbol and unmasks the symbol after it; a flag starts a new frame but, as a
reader need not clear it there, leaves a pending escape pending.

* `unstuff_stuff`: reading what `stuff` wrote gives the content back and leaves
  no escape pending.
* `unstuff_frame_pending`: with an escape pending, the first symbol is lost to
  it unless that symbol is sent escaped itself.
-/

/-- Two reserved symbols and a mask that takes them out of reserve. -/
structure Stuffing (α : Type*) where
  flag : α
  esc : α
  mask : α → α
  flag_ne_esc : flag ≠ esc
  mask_mask : ∀ b, mask (mask b) = b
  mask_flag_ne_flag : mask flag ≠ flag
  mask_flag_ne_esc : mask flag ≠ esc
  mask_esc_ne_flag : mask esc ≠ flag
  mask_esc_ne_esc : mask esc ≠ esc

namespace Stuffing

variable {α : Type*} [DecidableEq α] (S : Stuffing α)

/-- The symbols that may not stand in a frame as themselves. -/
def Reserved (b : α) : Prop := b = S.flag ∨ b = S.esc

instance (b : α) : Decidable (S.Reserved b) := inferInstanceAs (Decidable (_ ∨ _))

/-- One symbol on the line. -/
def stuffByte (b : α) : List α := if S.Reserved b then [S.esc, S.mask b] else [b]

/-- A frame's content on the line. -/
def stuff (bs : List α) : List α := bs.flatMap S.stuffByte

@[simp] lemma stuff_nil : S.stuff [] = [] := rfl

@[simp] lemma stuff_cons (b : α) (bs : List α) :
    S.stuff (b :: bs) = S.stuffByte b ++ S.stuff bs := rfl

lemma stuff_append (as bs : List α) : S.stuff (as ++ bs) = S.stuff as ++ S.stuff bs := by
  simp [stuff]

/-- The symbols sent for one symbol contain no flag. -/
lemma flag_notMem_stuffByte (b : α) : S.flag ∉ S.stuffByte b := by
  rw [stuffByte]
  split_ifs with h
  · rcases h with rfl | rfl
    · simp [S.flag_ne_esc, S.mask_flag_ne_flag.symm]
    · simp [S.flag_ne_esc, S.mask_esc_ne_flag.symm]
  · simpa using fun h' => h (Or.inl h'.symm)

/-- The symbols sent for a content contain no flag. -/
lemma flag_notMem_stuff (bs : List α) : S.flag ∉ S.stuff bs := by
  simp only [stuff, List.mem_flatMap, not_exists, not_and]
  exact fun b _ => S.flag_notMem_stuffByte b

/-! ### Reading the line -/

/-- What a reader knows: whether an escape is pending, and the content read
since the last flag. -/
structure Reader (α : Type*) where
  pending : Bool
  content : List α

/-- One symbol off the line. -/
def read (r : Reader α) (b : α) : Reader α :=
  if b = S.flag then { r with content := [] }
  else if b = S.esc then { r with pending := true }
  else { pending := false, content := r.content ++ [if r.pending then S.mask b else b] }

/-- A stretch of the line. -/
def unstuff (r : Reader α) (bs : List α) : Reader α := bs.foldl S.read r

variable {S}

@[simp] lemma unstuff_nil (r : Reader α) : S.unstuff r [] = r := rfl

@[simp] lemma unstuff_cons (r : Reader α) (b : α) (bs : List α) :
    S.unstuff r (b :: bs) = S.unstuff (S.read r b) bs := rfl

lemma unstuff_append (r : Reader α) (as bs : List α) :
    S.unstuff r (as ++ bs) = S.unstuff (S.unstuff r as) bs := by
  simp [unstuff]

lemma read_flag (r : Reader α) : S.read r S.flag = { r with content := [] } := by
  simp [read]

lemma read_esc (r : Reader α) : S.read r S.esc = { r with pending := true } := by
  simp [read, S.flag_ne_esc.symm]

lemma read_of_not_reserved (r : Reader α) {b : α} (hb : ¬ S.Reserved b) :
    S.read r b =
      { pending := false, content := r.content ++ [if r.pending then S.mask b else b] } := by
  rw [Reserved, not_or] at hb
  simp [read, hb.1, hb.2]

omit [DecidableEq α] in
/-- The masked value of a reserved symbol is not reserved. -/
lemma not_reserved_mask {b : α} (hb : S.Reserved b) : ¬ S.Reserved (S.mask b) := by
  rcases hb with rfl | rfl
  · simp [Reserved, S.mask_flag_ne_flag, S.mask_flag_ne_esc]
  · simp [Reserved, S.mask_esc_ne_flag, S.mask_esc_ne_esc]

/-- Reading a stuffed symbol with no escape pending gives the symbol. -/
lemma unstuff_stuffByte (c : List α) (b : α) :
    S.unstuff ⟨false, c⟩ (S.stuffByte b) = ⟨false, c ++ [b]⟩ := by
  rw [stuffByte]
  split_ifs with h
  · simp [read_esc, read_of_not_reserved _ (not_reserved_mask h), S.mask_mask]
  · simp [read_of_not_reserved _ h]

/-- A reserved symbol is sent escaped, which makes a pending escape harmless. -/
lemma unstuff_stuffByte_pending (p : Bool) (c : List α) {b : α} (hb : S.Reserved b) :
    S.unstuff ⟨p, c⟩ (S.stuffByte b) = ⟨false, c ++ [b]⟩ := by
  simp [stuffByte, hb, read_esc, read_of_not_reserved _ (not_reserved_mask hb), S.mask_mask]

/-- A pending escape masks the first symbol that is sent as itself. -/
lemma unstuff_stuffByte_masked (c : List α) {b : α} (hb : ¬ S.Reserved b) :
    S.unstuff ⟨true, c⟩ (S.stuffByte b) = ⟨false, c ++ [S.mask b]⟩ := by
  simp [stuffByte, hb, read_of_not_reserved _ hb]

/-- Reading what was stuffed gives the content back. -/
theorem unstuff_stuff (c bs : List α) :
    S.unstuff ⟨false, c⟩ (S.stuff bs) = ⟨false, c ++ bs⟩ := by
  induction bs generalizing c with
  | nil => simp
  | cons b bs ih => rw [stuff_cons, unstuff_append, unstuff_stuffByte, ih]; simp

/-- So no two contents are stuffed alike. -/
lemma stuff_injective : Function.Injective S.stuff := fun as bs h => by
  have has := unstuff_stuff (S := S) [] as
  rw [h, unstuff_stuff] at has
  simpa using (congrArg Reader.content has).symm

/-- The same with an escape pending: the first symbol decides. -/
theorem unstuff_frame_pending (c : List α) (b : α) (bs : List α) :
    S.unstuff ⟨true, c⟩ (S.flag :: S.stuff (b :: bs)) =
      ⟨false, (if S.Reserved b then b else S.mask b) :: bs⟩ := by
  rw [unstuff_cons, read_flag, stuff_cons, unstuff_append]
  split_ifs with hb
  · rw [unstuff_stuffByte_pending _ _ hb, unstuff_stuff]
    simp
  · rw [unstuff_stuffByte_masked _ hb, unstuff_stuff]
    simp

/-! ### Pending escapes -/

variable (S) in
/-- A line leaves an escape pending when its last symbol other than a flag is
the escape symbol. -/
def EndsInEscape (bs : List α) : Prop := (bs.filter (· ≠ S.flag)).getLast? = some S.esc

instance (bs : List α) : Decidable (S.EndsInEscape bs) := inferInstanceAs (Decidable (_ = _))

/-- From a state without a pending escape, the line alone decides whether one is
pending after it. -/
lemma pending_unstuff (c bs : List α) :
    (S.unstuff ⟨false, c⟩ bs).pending = true ↔ S.EndsInEscape bs := by
  induction bs using List.reverseRecOn with
  | nil => simp [EndsInEscape]
  | append_singleton bs b ih =>
      rw [unstuff_append, unstuff_cons, unstuff_nil, EndsInEscape, List.filter_append]
      by_cases hf : b = S.flag
      · subst hf
        rw [read_flag]
        simpa [EndsInEscape] using ih
      · by_cases he : b = S.esc
        · subst he
          simp [read_esc, hf]
        · simp [read, hf, he]

end Stuffing
