import Cc1352Greybus.Hdlc.Driver

/-!
What the receiver holds, in terms of the line alone.

The line is read by `Stuffing.unstuff`, which knows the content since the last
flag. The driver keeps only part of a content that outgrows its buffer: the
buffer restarts when it is full (`kept`), and so does the CRC, after it has
taken in the byte that restarts it (`coveredCrc`).

* `Tracks`: the driver holds `kept` of the content, and `coveredCrc` of it.
* `tracks_input`: one byte keeps this, `tracks_processBuffer`: so does a stream.
* `input_flag`: what a flag delivers, from the content alone.
-/

namespace Cc1352Greybus

variable {cfg : Config}

/-! ### A buffer that restarts when full -/

/-- What is left of a content in a buffer of `M` bytes that starts afresh
whenever a byte finds it full. -/
def kept (M : ℕ) (w : List U8) : List U8 := w.drop (M * ((w.length - 1) / M))

/-- The CRC the driver has computed: of the whole content while it fits, of all
but the first kept byte once it has not. -/
def coveredCrc (M : ℕ) (w : List U8) : U16 :=
  if w.length ≤ M then crc16Ccitt 0xffff w else crc16Ccitt 0xffff (kept M w).tail

@[simp] lemma kept_nil (M : ℕ) : kept M [] = [] := by simp [kept]

@[simp] lemma coveredCrc_nil (M : ℕ) : coveredCrc M [] = 0xffff := by simp [coveredCrc, crc16Ccitt]

/-- A content that fits is kept whole. -/
lemma kept_of_length_le {M : ℕ} {w : List U8} (h : w.length ≤ M) : kept M w = w := by
  rw [kept]
  rcases Nat.eq_zero_or_pos M with rfl | hM
  · simp
  · rw [Nat.div_eq_of_lt (by omega)]
    simp

lemma coveredCrc_of_length_le {M : ℕ} {w : List U8} (h : w.length ≤ M) :
    coveredCrc M w = crc16Ccitt 0xffff w := if_pos h

/-- What is kept of a content that is not empty: between one byte and a full
buffer. -/
lemma kept_length {M : ℕ} {w : List U8} (hw : w ≠ []) :
    (kept M w).length = (w.length - 1) % M + 1 := by
  have hn : 0 < w.length := List.length_pos_iff.mpr hw
  have hdm := Nat.div_add_mod (w.length - 1) M
  rw [kept, List.length_drop]
  omega

lemma kept_eq_nil {M : ℕ} {w : List U8} : kept M w = [] ↔ w = [] := by
  constructor
  · intro h
    by_contra hw
    have := kept_length (M := M) hw
    simp [h] at this
  · rintro rfl
    simp

lemma kept_length_le {M : ℕ} (hM : 0 < M) (w : List U8) : (kept M w).length ≤ M := by
  by_cases hw : w = []
  · simp [hw]
  · rw [kept_length hw]
    exact Nat.mod_lt _ hM

/-- A content that does not fit is not kept whole. -/
lemma kept_length_lt {M : ℕ} (hM : 0 < M) {w : List U8} (h : M < w.length) :
    (kept M w).length < w.length :=
  lt_of_le_of_lt (kept_length_le hM w) h

/-- A byte that finds the buffer full restarts it. -/
lemma kept_concat_of_full {M : ℕ} (hM : 0 < M) {w : List U8} (b : U8)
    (h : (kept M w).length = M) : kept M (w ++ [b]) = [b] := by
  have hw : w ≠ [] := by
    rintro rfl
    simp at h
    omega
  have hn : 0 < w.length := List.length_pos_iff.mpr hw
  have hdm := Nat.div_add_mod (w.length - 1) M
  rw [kept_length hw] at h
  have hlen : M * ((w.length - 1) / M + 1) = w.length := by rw [Nat.mul_add]; omega
  have hdiv : w.length / M = (w.length - 1) / M + 1 :=
    Nat.div_eq_of_eq_mul_right hM hlen.symm
  rw [kept, List.length_append, List.length_singleton, Nat.add_sub_cancel, hdiv, hlen,
    List.drop_left]

/-- Any other byte is added to it. -/
lemma kept_concat_of_not_full {M : ℕ} (hM : 0 < M) {w : List U8} (b : U8)
    (h : (kept M w).length ≠ M) : kept M (w ++ [b]) = kept M w ++ [b] := by
  by_cases hw : w = []
  · subst hw
    rw [kept_nil, List.nil_append, kept_of_length_le]
    exact hM
  · have hn : 0 < w.length := List.length_pos_iff.mpr hw
    have hdm := Nat.div_add_mod (w.length - 1) M
    have hlt := Nat.mod_lt (w.length - 1) hM
    rw [kept_length hw] at h
    have hdiv : w.length / M = (w.length - 1) / M := by
      refine Nat.div_eq_of_lt_le ?_ ?_
      · rw [Nat.mul_comm]; omega
      · rw [Nat.mul_comm, Nat.mul_add]; omega
    rw [kept, kept, List.length_append, List.length_singleton, Nat.add_sub_cancel, hdiv,
      List.drop_append_of_le_length (by omega)]

/-- The CRC restarts with the buffer, without the byte that restarts it. -/
lemma coveredCrc_concat_of_full {M : ℕ} (hM : 0 < M) {w : List U8} (b : U8)
    (h : (kept M w).length = M) : coveredCrc M (w ++ [b]) = 0xffff := by
  have hlen : M ≤ w.length := by
    by_contra hlt
    rw [kept_of_length_le (by omega)] at h
    omega
  rw [coveredCrc, if_neg (by simp; omega), kept_concat_of_full hM b h]
  simp [crc16Ccitt]

/-- Any other byte is added to the CRC. -/
lemma coveredCrc_concat_of_not_full {M : ℕ} (hM : 0 < M) {w : List U8} (b : U8)
    (h : (kept M w).length ≠ M) :
    coveredCrc M (w ++ [b]) = crc16Ccitt (coveredCrc M w) [b] := by
  by_cases hlen : w.length ≤ M
  · have hlt : w.length ≠ M := by
      rw [kept_of_length_le hlen] at h
      exact h
    rw [coveredCrc_of_length_le hlen, coveredCrc_of_length_le (by simp; omega), crc16Ccitt_append]
  · have hne : kept M w ≠ [] := by
      rw [Ne, kept_eq_nil]
      rintro rfl
      simp at hlen
    rw [coveredCrc, if_neg (by simp; omega), coveredCrc, if_neg hlen,
      kept_concat_of_not_full hM b h, List.tail_append_of_ne_nil hne, crc16Ccitt_append]

/-! ### The driver against the line -/

/-- The bytes stored since `rx_buffer_len` was last zero. -/
def HdlcDriver.stored (drv : HdlcDriver cfg) : List U8 := drv.rxBuffer.toList.take drv.rxBufferLen

/-- The driver holds what a reader of the line would expect it to. -/
structure Tracks (drv : HdlcDriver cfg) (r : Stuffing.Reader U8) : Prop where
  pending : drv.nextEscaped = r.pending
  stored : drv.stored = kept cfg.hdlcMaxBlockSize r.content
  len : drv.rxBufferLen = (kept cfg.hdlcMaxBlockSize r.content).length
  crc : drv.crc = coveredCrc cfg.hdlcMaxBlockSize r.content

lemma Config.block_pos (cfg : Config) : 0 < cfg.hdlcMaxBlockSize :=
  lt_of_lt_of_le (by decide) cfg.four_le_block

/-- After `hdlc_init` nothing is held. -/
lemma tracks_init (drv : HdlcDriver cfg) : Tracks (hdlcInit drv) ⟨false, []⟩ :=
  ⟨rfl, by simp [HdlcDriver.stored, hdlcInit], by simp [hdlcInit], by simp [hdlcInit]⟩

namespace Tracks

variable {drv : HdlcDriver cfg} {r : Stuffing.Reader U8}

/-- The stored length never exceeds the buffer. -/
lemma len_le (h : Tracks drv r) : drv.rxBufferLen ≤ cfg.hdlcMaxBlockSize := by
  rw [h.len]
  exact kept_length_le cfg.block_pos _

lemma len_eq_zero (h : Tracks drv r) : drv.rxBufferLen = 0 ↔ r.content = [] := by
  rw [h.len, List.length_eq_zero_iff, kept_eq_nil]

/-- A stored byte reads back. -/
lemma rxByte_eq (h : Tracks drv r) {i : ℕ} (hi : i < drv.rxBufferLen) :
    drv.rxByte i = (kept cfg.hdlcMaxBlockSize r.content).getD i 0 := by
  rw [← h.stored, HdlcDriver.stored, HdlcDriver.rxByte]
  simp [List.getD_eq_getElem?_getD, hi]

end Tracks

/-- `hdlc_save_byte`, while the buffer has room. -/
lemma hdlcSaveByte_of_lt {drv : HdlcDriver cfg} (b : U8)
    (h : drv.rxBufferLen < cfg.hdlcMaxBlockSize) :
    hdlcSaveByte drv b =
      { drv with
        rxBuffer := drv.rxBuffer.setIfInBounds drv.rxBufferLen b
        rxBufferLen := drv.rxBufferLen + 1 } := by
  rw [hdlcSaveByte, if_neg (Nat.not_le.mpr h)]

/-- `hdlc_save_byte`, with the buffer full. -/
lemma hdlcSaveByte_of_le {drv : HdlcDriver cfg} (b : U8)
    (h : cfg.hdlcMaxBlockSize ≤ drv.rxBufferLen) :
    hdlcSaveByte drv b =
      { drv with
        crc := 0xffff
        rxBuffer := drv.rxBuffer.setIfInBounds 0 b
        rxBufferLen := 1 } := by
  rw [hdlcSaveByte, if_pos h]

/-- A byte stored at the end of what is stored. -/
lemma take_setIfInBounds {M : ℕ} (v : Vector U8 M) {n : ℕ} (b : U8) (h : n < M) :
    (v.setIfInBounds n b).toList.take (n + 1) = v.toList.take n ++ [b] := by
  have hlen : n < v.toList.length := by simpa using h
  rw [Vector.toList_setIfInBounds, List.take_succ_eq_append_getElem (by simpa using hlen),
    List.take_set_of_le le_rfl]
  simp

/-- A data byte, already unmasked and added to the CRC, is stored as a reader
of the line expects. -/
lemma tracks_saveByte {drv : HdlcDriver cfg} {w : List U8} (c : U8)
    (hpending : drv.nextEscaped = false)
    (hstored : drv.stored = kept cfg.hdlcMaxBlockSize w)
    (hlen : drv.rxBufferLen = (kept cfg.hdlcMaxBlockSize w).length)
    (hcrc : drv.crc = crc16Ccitt (coveredCrc cfg.hdlcMaxBlockSize w) [c]) :
    Tracks (hdlcSaveByte drv c) ⟨false, w ++ [c]⟩ := by
  have hM := cfg.block_pos
  by_cases hfull : (kept cfg.hdlcMaxBlockSize w).length = cfg.hdlcMaxBlockSize
  · rw [hdlcSaveByte_of_le c (by omega)]
    refine ⟨hpending, ?_, ?_, ?_⟩
    · rw [kept_concat_of_full hM c hfull]
      exact take_setIfInBounds _ c hM
    · rw [kept_concat_of_full hM c hfull, List.length_singleton]
    · rw [coveredCrc_concat_of_full hM c hfull]
  · have hle := kept_length_le hM w
    rw [hdlcSaveByte_of_lt c (by omega)]
    refine ⟨hpending, ?_, ?_, ?_⟩
    · rw [kept_concat_of_not_full hM c hfull, ← hstored]
      exact take_setIfInBounds _ c (by omega)
    · rw [kept_concat_of_not_full hM c hfull, List.length_append, List.length_singleton, hlen]
    · rw [coveredCrc_concat_of_not_full hM c hfull, hcrc]

/-- A flag empties the driver. -/
lemma tracks_flag {drv : HdlcDriver cfg} {r : Stuffing.Reader U8} (h : Tracks drv r) :
    Tracks (hdlcRxInputByte drv HDLC_FRAME).1 { r with content := [] } := by
  by_cases hl : drv.rxBufferLen = 0
  · have hc : r.content = [] := h.len_eq_zero.mp hl
    have hin : (hdlcRxInputByte drv HDLC_FRAME).1 = drv := by simp [hdlcRxInputByte, hl]
    rwa [hin, ← hc]
  · have hin : (hdlcRxInputByte drv HDLC_FRAME).1 = (hdlcProcessFrame drv).1 := by
      simp [hdlcRxInputByte, hl]
    have hpending : (hdlcProcessFrame drv).1.nextEscaped = drv.nextEscaped := by
      simp only [hdlcProcessFrame]
      split_ifs <;> rfl
    rw [hin]
    exact ⟨hpending.trans h.pending, by simp [hdlcProcessFrame, HdlcDriver.stored],
      by simp [hdlcProcessFrame], by simp [hdlcProcessFrame]⟩

/-- **One byte**: the driver goes on holding what a reader of the line expects. -/
lemma tracks_input {drv : HdlcDriver cfg} {r : Stuffing.Reader U8} (h : Tracks drv r) (b : U8) :
    Tracks (hdlcRxInputByte drv b).1 (hdlcStuffing.read r b) := by
  by_cases hf : b = HDLC_FRAME
  · subst hf
    rw [show hdlcStuffing.read r HDLC_FRAME = { r with content := [] } from
      Stuffing.read_flag (S := hdlcStuffing) r]
    exact tracks_flag h
  · by_cases he : b = HDLC_ESC
    · subst he
      rw [show hdlcStuffing.read r HDLC_ESC = { r with pending := true } from
        Stuffing.read_esc (S := hdlcStuffing) r]
      rw [hdlcRxInputByte, if_neg hf, if_pos rfl]
      exact ⟨rfl, h.stored, h.len, h.crc⟩
    · have hr : ¬ hdlcStuffing.Reserved b := fun hr => hr.elim hf he
      rw [Stuffing.read_of_not_reserved r hr, hdlcRxInputByte, if_neg hf, if_neg he, h.pending]
      exact tracks_saveByte _ rfl h.stored h.len (by rw [← h.crc])

/-- **A stream**: the driver holds what a reader of the line expects. -/
theorem tracks_processBuffer {drv : HdlcDriver cfg} {r : Stuffing.Reader U8} (h : Tracks drv r)
    (bs : List U8) : Tracks (hdlcProcessBuffer drv bs).1 (hdlcStuffing.unstuff r bs) := by
  induction bs generalizing drv r with
  | nil => exact h
  | cons b bs ih => exact ih (tracks_input h b)

/-! ### What a flag delivers -/

/-- A byte other than a flag delivers nothing. -/
lemma input_of_ne_flag (drv : HdlcDriver cfg) {b : U8} (hb : b ≠ HDLC_FRAME) :
    (hdlcRxInputByte drv b).2 = none := by
  simp only [hdlcRxInputByte, if_neg hb]
  split_ifs <;> rfl

/-- A stretch without a flag delivers nothing. -/
lemma processBuffer_of_flag_notMem (drv : HdlcDriver cfg) {bs : List U8} (h : HDLC_FRAME ∉ bs) :
    (hdlcProcessBuffer drv bs).2 = [] := by
  induction bs generalizing drv with
  | nil => rfl
  | cons b bs ih =>
      rw [List.mem_cons, not_or] at h
      simp [hdlcProcessBuffer, input_of_ne_flag drv (Ne.symm h.1), ih _ h.2]

/-- The tail the receiver takes for a frame, given the CRC it has computed. -/
def Accepted (t : List U8) (crc : U16) : Prop :=
  3 < t.length ∧ crc = 0xf0b8 ∧ t.getD 1 0 &&& 1 ≠ 0

instance (t : List U8) (crc : U16) : Decidable (Accepted t crc) :=
  inferInstanceAs (Decidable (_ ∧ _ ∧ _))

/-- What the callback is told of a tail. -/
structure Describes (f : RxFrame) (t : List U8) : Prop where
  address : f.address = t.getD 0 0
  len : f.len = t.length - 4
  payload : f.payload = (t.drop 2).take (t.length - 4)

/-- A flag delivers what is stored when the stored length, the CRC and the
control byte all pass. -/
lemma input_flag_eq (drv : HdlcDriver cfg) :
    (hdlcRxInputByte drv HDLC_FRAME).2 =
      if 3 < drv.rxBufferLen ∧ drv.crc = 0xf0b8 ∧ drv.rxByte 1 &&& 1 ≠ 0
      then some (hdlcProcessCompleteFrame drv) else none := by
  by_cases hl : 3 < drv.rxBufferLen ∧ drv.crc = 0xf0b8
  · have hne : drv.rxBufferLen ≠ 0 := by omega
    rw [hdlcRxInputByte, if_pos rfl, if_pos hne, hdlcProcessFrame, if_pos hl]
    by_cases hodd : drv.rxByte 1 &&& 1 = 0
    · rw [if_pos hodd, if_neg (by tauto)]
    · rw [if_neg hodd, if_pos ⟨hl.1, hl.2, hodd⟩]
  · rw [if_neg (by tauto), hdlcRxInputByte, if_pos rfl]
    split_ifs
    · rw [hdlcProcessFrame, if_neg hl]
    · rfl

/-- What is told of the stored bytes describes the kept part of the content. -/
lemma describes_processCompleteFrame {drv : HdlcDriver cfg} {r : Stuffing.Reader U8}
    (h : Tracks drv r) (h3 : 3 < drv.rxBufferLen) :
    Describes (hdlcProcessCompleteFrame drv) (kept cfg.hdlcMaxBlockSize r.content) := by
  have hM := cfg.block_lt
  have hle := h.len_le
  have hlen := h.len
  have hlen4 : (hdlcProcessCompleteFrame drv).len =
      (kept cfg.hdlcMaxBlockSize r.content).length - 4 := by
    simp only [hdlcProcessCompleteFrame]
    omega
  refine ⟨h.rxByte_eq (by omega), hlen4, ?_⟩
  rw [RxFrame.payload, hlen4, ← h.len, ← h.stored, HdlcDriver.stored, List.drop_take,
    List.take_take, Nat.min_eq_left (by omega), hdlcProcessCompleteFrame]

/-- **A flag delivers** the kept part of the content, exactly when it is taken
for a frame. -/
lemma input_flag {drv : HdlcDriver cfg} {r : Stuffing.Reader U8} (h : Tracks drv r) :
    if Accepted (kept cfg.hdlcMaxBlockSize r.content) (coveredCrc cfg.hdlcMaxBlockSize r.content)
    then ∃ f, (hdlcRxInputByte drv HDLC_FRAME).2 = some f ∧
      Describes f (kept cfg.hdlcMaxBlockSize r.content)
    else (hdlcRxInputByte drv HDLC_FRAME).2 = none := by
  have hiff : Accepted (kept cfg.hdlcMaxBlockSize r.content)
      (coveredCrc cfg.hdlcMaxBlockSize r.content) ↔
        3 < drv.rxBufferLen ∧ drv.crc = 0xf0b8 ∧ drv.rxByte 1 &&& 1 ≠ 0 := by
    rw [Accepted, ← h.len, ← h.crc]
    refine and_congr_right fun h3 => ?_
    rw [h.rxByte_eq (by omega)]
  rw [input_flag_eq]
  by_cases hacc : 3 < drv.rxBufferLen ∧ drv.crc = 0xf0b8 ∧ drv.rxByte 1 &&& 1 ≠ 0
  · rw [if_pos (hiff.mpr hacc), if_pos hacc]
    exact ⟨_, rfl, describes_processCompleteFrame h hacc.1⟩
  · rw [if_neg (mt hiff.mp hacc), if_neg hacc]

end Cc1352Greybus
