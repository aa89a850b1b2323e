import Mathlib.Tactic

/-!
Reflected cyclic redundancy checks over bit vectors.

A register is shifted right one bit at a time and the polynomial is added
whenever a one falls out. The step is linear over `⊕` and, when the polynomial
has its top bit set, injective; the two facts give everything a frame check
needs.

* `crcByte_left_injective`, `crc_left_injective`: the register after a message
  determines the register before it.
* `crc_cons_inj`: two messages that differ in their first byte alone have
  different checks.
* `crc_pair_inj`: so have messages that differ in their last two bytes alone.
* `crc_append_fcs`: a message followed by the complement of its own check, low
  byte first, leaves a constant that depends on the polynomial only, and
  `crc_append_eq_residue_iff`: no other two bytes leave it.
-/

namespace Crc

variable {w : ℕ}

/-- One bit of the register: shift right, and add the polynomial when a one
falls out. -/
def crcBit (p c : BitVec w) : BitVec w :=
  if c.getLsbD 0 then (c >>> 1) ^^^ p else c >>> 1

/-- One byte: it is added to the low end of the register, which is then
shifted eight times. -/
def crcByte (p c : BitVec w) (b : BitVec 8) : BitVec w :=
  (crcBit p)^[8] (c ^^^ b.setWidth w)

/-- The check of a message from a given register. -/
def crc (p seed : BitVec w) (bs : List (BitVec 8)) : BitVec w :=
  bs.foldl (crcByte p) seed

@[simp] lemma crc_nil (p seed : BitVec w) : crc p seed [] = seed := rfl

@[simp] lemma crc_cons (p seed : BitVec w) (b : BitVec 8) (bs : List (BitVec 8)) :
    crc p seed (b :: bs) = crc p (crcByte p seed b) bs := rfl

lemma crc_append (p seed : BitVec w) (as bs : List (BitVec 8)) :
    crc p seed (as ++ bs) = crc p (crc p seed as) bs := by
  simp [crc]

/-! ### Linearity -/

/-- The polynomial cancels when it is added on both sides. -/
private lemma xor_xor_cancel (a b p : BitVec w) : a ^^^ p ^^^ (b ^^^ p) = a ^^^ b := by
  calc a ^^^ p ^^^ (b ^^^ p) = a ^^^ b ^^^ (p ^^^ p) := by ac_rfl
    _ = a ^^^ b := by simp

/-- One bit is linear in the register. -/
lemma crcBit_xor (p a b : BitVec w) : crcBit p (a ^^^ b) = crcBit p a ^^^ crcBit p b := by
  simp only [crcBit, BitVec.getLsbD_xor, BitVec.ushiftRight_xor_distrib]
  cases a.getLsbD 0 <;> cases b.getLsbD 0
  · simp
  · simp [BitVec.xor_assoc]
  · simp only [Bool.bne_false, if_true, Bool.false_eq_true, if_false]
    ac_rfl
  · simpa using (xor_xor_cancel (a >>> 1) (b >>> 1) p).symm

/-- Any number of bits is linear in the register. -/
lemma crcBits_xor (p a b : BitVec w) (n : ℕ) :
    (crcBit p)^[n] (a ^^^ b) = (crcBit p)^[n] a ^^^ (crcBit p)^[n] b := by
  induction n with
  | zero => rfl
  | succ n ih => simp only [Function.iterate_succ_apply', ih, crcBit_xor]

/-- A register whose low bits are clear only moves down. -/
lemma crcBits_of_low_clear (p y : BitVec w) {m : ℕ} (hy : ∀ i < m, y.getLsbD i = false) :
    ∀ k ≤ m, (crcBit p)^[k] y = y >>> k := by
  intro k
  induction k with
  | zero => intro _; simp
  | succ k ih =>
      intro hk
      have h0 : (y >>> k).getLsbD 0 = false := by simpa using hy k (by omega)
      rw [Function.iterate_succ_apply', ih (by omega), crcBit, h0]
      simp [BitVec.shiftRight_add]

/-! ### Injectivity -/

/-- With the top bit of the polynomial set, the bit that fell out is read off
the top of the result. -/
lemma msb_crcBit {p : BitVec w} (hp : p.msb = true) (c : BitVec w) :
    (crcBit p c).msb = c.getLsbD 0 := by
  have hw : 0 < w := by
    rcases Nat.eq_zero_or_pos w with rfl | h
    · simp [BitVec.msb, BitVec.getMsbD] at hp
    · exact h
  have hs : (c >>> 1).msb = false := by
    simp [BitVec.msb_ushiftRight]
  rw [crcBit]
  split <;> simp_all [BitVec.msb_xor]

/-- One bit loses nothing when the polynomial has its top bit set. -/
lemma crcBit_injective {p : BitVec w} (hp : p.msb = true) : Function.Injective (crcBit p) := by
  intro a b h
  have h0 : a.getLsbD 0 = b.getLsbD 0 := by rw [← msb_crcBit hp, ← msb_crcBit hp, h]
  have hs : a >>> 1 = b >>> 1 := by
    rw [crcBit, crcBit, h0] at h
    split at h
    · simpa using h
    · exact h
  refine BitVec.eq_of_getLsbD_eq fun i hi => ?_
  rcases i with _ | i
  · exact h0
  · have := congrArg (fun v => v.getLsbD i) hs
    simpa [Nat.add_comm] using this

/-- The register after a byte determines the register before it. -/
lemma crcByte_left_injective {p : BitVec w} (hp : p.msb = true) (b : BitVec 8) :
    Function.Injective fun c => crcByte p c b := fun c d h => by
  have := (crcBit_injective hp).iterate 8 h
  simpa using this

/-- The register after a message determines the register before it. -/
lemma crc_left_injective {p : BitVec w} (hp : p.msb = true) (bs : List (BitVec 8)) :
    Function.Injective fun c => crc p c bs := by
  induction bs with
  | nil => exact fun c d h => h
  | cons b bs ih => exact fun c d h => crcByte_left_injective hp b (ih h)

/-- From one register, different bytes lead to different registers. -/
lemma crcByte_right_injective {p : BitVec w} (hp : p.msb = true) (hw : 8 ≤ w) (c : BitVec w) :
    Function.Injective (crcByte p c) := by
  intro a b h
  have hab : a.setWidth w = b.setWidth w := by
    simpa using (crcBit_injective hp).iterate 8 h
  refine BitVec.eq_of_getLsbD_eq fun i hi => ?_
  have := congrArg (fun v => v.getLsbD i) hab
  simpa [show i < w by omega] using this

/-- Messages that differ in their first byte alone have different checks. -/
lemma crc_cons_inj {p : BitVec w} (hp : p.msb = true) (hw : 8 ≤ w) (seed : BitVec w)
    {a b : BitVec 8} {bs : List (BitVec 8)} :
    crc p seed (a :: bs) = crc p seed (b :: bs) ↔ a = b := by
  constructor
  · intro h
    exact crcByte_right_injective hp hw seed (crc_left_injective hp bs h)
  · rintro rfl
    rfl

/-! ### The last two bytes -/

/-- While the top bits of the register stay clear, the register has only moved
down, and its low bits were clear. -/
lemma low_clear_of_high_clear {p : BitVec w} (hp : p.msb = true) (c : BitVec w) :
    ∀ k ≤ w, (∀ i < k, ((crcBit p)^[k] c).getMsbD i = false) → ∀ i < k, c.getLsbD i = false := by
  intro k
  induction k with
  | zero => intro _ _ i hi; omega
  | succ k ih =>
      intro hk h
      rw [Function.iterate_succ_apply'] at h
      -- the bit that fell out last is read off the top
      have hlast : ((crcBit p)^[k] c).getLsbD 0 = false := by
        rw [← msb_crcBit hp]
        exact h 0 (by omega)
      have hdown : crcBit p ((crcBit p)^[k] c) = (crcBit p)^[k] c >>> 1 := by
        rw [crcBit, hlast]
        simp
      have hlow : ∀ i < k, c.getLsbD i = false := by
        refine ih (by omega) fun i hi => ?_
        have := h (i + 1) (by omega)
        rw [hdown, BitVec.getMsbD_ushiftRight] at this
        simpa [show i + 1 < w by omega] using this
      intro i hi
      rcases Nat.lt_succ_iff_lt_or_eq.mp hi with hlt | rfl
      · exact hlow i hlt
      · rw [crcBits_of_low_clear p c hlow i le_rfl] at hlast
        simpa using hlast

/-- From one register, two different pairs of bytes lead to different registers. -/
lemma crc_pair_inj {p : BitVec w} (hp : p.msb = true) (hw : 16 ≤ w) (c : BitVec w)
    {a b a' b' : BitVec 8} : crc p c [a, b] = crc p c [a', b'] ↔ a = a' ∧ b = b' := by
  constructor
  · intro h
    have hab : crcByte p c a ^^^ b.setWidth w = crcByte p c a' ^^^ b'.setWidth w :=
      (crcBit_injective hp).iterate 8 h
    -- the second bytes make up for the first ones, but reach the low end only
    have hdiff : (crcBit p)^[8] ((a ^^^ a').setWidth w) = (b ^^^ b').setWidth w := by
      calc (crcBit p)^[8] ((a ^^^ a').setWidth w)
          = (crcBit p)^[8] ((c ^^^ a.setWidth w) ^^^ (c ^^^ a'.setWidth w)) := by
            congr 1
            calc (a ^^^ a').setWidth w = a.setWidth w ^^^ a'.setWidth w := BitVec.setWidth_xor
              _ = (c ^^^ c) ^^^ (a.setWidth w ^^^ a'.setWidth w) := by simp
              _ = _ := by ac_rfl
        _ = crcByte p c a ^^^ crcByte p c a' := crcBits_xor p _ _ 8
        _ = (crcByte p c a ^^^ b.setWidth w) ^^^ b.setWidth w ^^^ crcByte p c a' := by
            rw [BitVec.xor_assoc (crcByte p c a), BitVec.xor_self, BitVec.xor_zero]
        _ = (crcByte p c a' ^^^ crcByte p c a') ^^^ (b.setWidth w ^^^ b'.setWidth w) := by
            rw [hab]
            ac_rfl
        _ = (b ^^^ b').setWidth w := by simp
    have hclear := low_clear_of_high_clear hp ((a ^^^ a').setWidth w) 8 (by omega) fun i hi => by
      rw [hdiff, BitVec.getMsbD_setWidth]
      simp
      omega
    have haa : a = a' := by
      refine BitVec.eq_of_getLsbD_eq fun i hi => ?_
      have := hclear i hi
      simpa [show i < w by omega] using this
    refine ⟨haa, crcByte_right_injective hp (by omega) (crcByte p c a) ?_⟩
    rw [haa] at h ⊢
    exact h
  · rintro ⟨rfl, rfl⟩
    rfl

/-! ### The frame check sequence of a 16-bit register -/

/-- The low byte of a register. -/
def lo (c : BitVec 16) : BitVec 8 := c.setWidth 8

/-- The high byte of a register. -/
def hi (c : BitVec 16) : BitVec 8 := (c >>> 8).setWidth 8

/-- What remains after a message and the complement of its check. -/
def residue (p : BitVec 16) : BitVec 16 := (crcBit p)^[8] ((crcBit p)^[8] 0xff ^^^ 0xff)

/-- The complement of the low byte clears the low byte but for ones. -/
private lemma xor_lo_compl (c : BitVec 16) :
    c ^^^ (lo (c ^^^ 0xffff)).setWidth 16 = ((c >>> 8) <<< 8) ^^^ 0xff := by
  refine BitVec.eq_of_getLsbD_eq fun i hi => ?_
  interval_cases i <;> simp [lo]

/-- The complement of the high byte, moved to the low end. -/
private lemma hi_compl (c : BitVec 16) :
    (hi (c ^^^ 0xffff)).setWidth 16 = (c >>> 8) ^^^ 0xff := by
  refine BitVec.eq_of_getLsbD_eq fun i hi => ?_
  interval_cases i <;> simp [Crc.hi]

/-- **The residue**: appending the complement of the check, low byte first,
leaves a register that does not depend on the message. -/
theorem crc_append_fcs (p seed : BitVec 16) (bs : List (BitVec 8)) :
    crc p seed (bs ++ [lo (crc p seed bs ^^^ 0xffff), hi (crc p seed bs ^^^ 0xffff)])
      = residue p := by
  set c := crc p seed bs with hc
  have hlow : ∀ i < 8, ((c >>> 8) <<< 8).getLsbD i = false := fun i hi => by simp [hi]
  have hmove : (crcBit p)^[8] ((c >>> 8) <<< 8) = c >>> 8 := by
    rw [crcBits_of_low_clear p _ hlow 8 le_rfl]
    refine BitVec.eq_of_getLsbD_eq fun i hi => ?_
    interval_cases i <;> simp
  -- after the low byte only the high byte of the old check is left, plus a constant
  have h1 : crcByte p c (lo (c ^^^ 0xffff)) = (c >>> 8) ^^^ (crcBit p)^[8] 0xff := by
    rw [crcByte, xor_lo_compl, crcBits_xor, hmove]
  -- the high byte cancels what was left
  have h2 : crcByte p ((c >>> 8) ^^^ (crcBit p)^[8] 0xff) (hi (c ^^^ 0xffff)) = residue p := by
    rw [crcByte, hi_compl, residue]
    congr 1
    calc (c >>> 8) ^^^ (crcBit p)^[8] 0xff ^^^ ((c >>> 8) ^^^ 0xff)
        = ((c >>> 8) ^^^ (c >>> 8)) ^^^ ((crcBit p)^[8] 0xff ^^^ 0xff) := by ac_rfl
      _ = (crcBit p)^[8] 0xff ^^^ 0xff := by simp
  rw [crc_append, ← hc]
  simp only [crc_cons, crc_nil, h1, h2]

/-- **No other two bytes** leave that register. -/
theorem crc_append_eq_residue_iff {p : BitVec 16} (hp : p.msb = true) (seed : BitVec 16)
    (bs : List (BitVec 8)) (a b : BitVec 8) :
    crc p seed (bs ++ [a, b]) = residue p ↔
      a = lo (crc p seed bs ^^^ 0xffff) ∧ b = hi (crc p seed bs ^^^ 0xffff) := by
  rw [← crc_append_fcs p seed bs, crc_append, crc_append]
  exact crc_pair_inj hp le_rfl _

end Crc
