import Cc1352Greybus.Hdlc.Soundness

/-!
From the sender to the receiver.

* `processBuffer_block`: an idle receiver hands over the block sent to it and is
  idle again.
* `hdlc_round_trip`: so it does for any number of blocks, back to back.
* `resync_iff`: after any noise the next block gets through, exactly when the
  noise leaves no escape pending or the address is sent escaped.
-/

namespace Cc1352Greybus

variable {cfg : Config}

/-- A block for `hdlc_block_send_sync`. -/
structure Block where
  address : U8
  control : U8
  payload : List U8
  deriving DecidableEq

namespace Block

/-- A block the receiver has room for and takes for data. -/
structure Receivable (cfg : Config) (b : Block) : Prop where
  odd : b.control &&& 1 ≠ 0
  fits : b.payload.length ≤ cfg.hdlcMaxBlockSize - 4

/-- The bytes sent for a block. -/
def sent (sendSeq : U8) (b : Block) : List U8 :=
  hdlcBlockSendSync sendSeq b.payload b.address b.control

/-- The content of a block's frame. -/
def content (b : Block) : List U8 := frameContent b.address b.control b.payload

/-- What the callback is told of a block. -/
def told (b : Block) : U8 × ℕ × List U8 := (b.address, b.payload.length, b.payload)

lemma sent_of_odd (sendSeq : U8) {b : Block} (hodd : b.control &&& 1 ≠ 0) :
    b.sent sendSeq = HDLC_FRAME :: (hdlcStuffing.stuff b.content ++ [HDLC_FRAME]) := by
  have hc : b.control ≠ 0 := fun h => hodd (by rw [h]; rfl)
  rw [sent, hdlcBlockSendSync_eq _ _ _ hc, content, List.cons_append]

lemma sent_eq (sendSeq : U8) {b : Block} (hb : b.Receivable cfg) :
    b.sent sendSeq = HDLC_FRAME :: (hdlcStuffing.stuff b.content ++ [HDLC_FRAME]) :=
  sent_of_odd sendSeq hb.odd

lemma content_length_le {b : Block} (hb : b.Receivable cfg) :
    b.content.length ≤ cfg.hdlcMaxBlockSize := by
  have := hb.fits
  have := cfg.four_le_block
  rw [content, frameContent_length]
  omega

/-- The receiver takes the content of a block for a frame. -/
lemma accepted_content {b : Block} (hb : b.Receivable cfg) :
    Accepted b.content (crc16Ccitt 0xffff b.content) :=
  ⟨by simp [content], crc16Ccitt_frameContent _ _ _, by simpa [content, frameContent] using hb.odd⟩

end Block

/-- What the callback is told. -/
def RxFrame.told (f : RxFrame) : U8 × ℕ × List U8 := (f.address, f.len, f.payload)

/-- A description of a block's content tells the block. -/
lemma told_of_describes {f : RxFrame} {b : Block} (h : Describes f b.content) :
    f.told = b.told := by
  have hlen : b.content.length - 4 = b.payload.length := by simp [Block.content]
  rw [RxFrame.told, Block.told, h.address, h.len, h.payload, hlen]
  simp [Block.content, frameContent]

/-! ### The sequence numbers -/

/-- The two sequence numbers of the driver. -/
def HdlcDriver.seqs (drv : HdlcDriver cfg) : U8 × U8 := (drv.rxSendSeq, drv.sendSeq)

/-- Only a flag changes a sequence number. -/
lemma seqs_input_of_ne_flag (drv : HdlcDriver cfg) {b : U8} (hb : b ≠ HDLC_FRAME) :
    (hdlcRxInputByte drv b).1.seqs = drv.seqs := by
  simp only [hdlcRxInputByte, if_neg hb, hdlcSaveByte, HdlcDriver.seqs]
  split_ifs <;> rfl

lemma seqs_processBuffer_of_flag_notMem (drv : HdlcDriver cfg) {bs : List U8}
    (h : HDLC_FRAME ∉ bs) : (hdlcProcessBuffer drv bs).1.seqs = drv.seqs := by
  induction bs generalizing drv with
  | nil => rfl
  | cons b bs ih =>
      rw [List.mem_cons, not_or] at h
      rw [hdlcProcessBuffer, ih _ h.2, seqs_input_of_ne_flag drv (Ne.symm h.1)]

/-- Nor does a flag with nothing stored, or with a frame to deliver. -/
lemma seqs_input_flag {drv : HdlcDriver cfg}
    (h : drv.rxBufferLen = 0 ∨ (hdlcRxInputByte drv HDLC_FRAME).2 ≠ none) :
    (hdlcRxInputByte drv HDLC_FRAME).1.seqs = drv.seqs := by
  rcases h with h | h
  · simp [hdlcRxInputByte, h]
  · rw [input_flag_eq] at h
    have hc : 3 < drv.rxBufferLen ∧ drv.crc = 0xf0b8 ∧ drv.rxByte 1 &&& 1 ≠ 0 := by
      by_contra hc
      exact h (if_neg hc)
    have hne : drv.rxBufferLen ≠ 0 := by omega
    rw [hdlcRxInputByte, if_pos rfl, if_pos hne, hdlcProcessFrame, if_pos ⟨hc.1, hc.2.1⟩,
      if_neg hc.2.2]
    rfl

/-! ### One block -/

/-- A content and the flag that ends it. -/
lemma processBuffer_concat_flag (drv : HdlcDriver cfg) {x : List U8} (hx : HDLC_FRAME ∉ x) :
    hdlcProcessBuffer drv (x ++ [HDLC_FRAME]) =
      ((hdlcRxInputByte (hdlcProcessBuffer drv x).1 HDLC_FRAME).1,
        (hdlcRxInputByte (hdlcProcessBuffer drv x).1 HDLC_FRAME).2.toList) := by
  rw [hdlcProcessBuffer_append, processBuffer_of_flag_notMem drv hx]
  simp [hdlcProcessBuffer]

/-- The driver once a content that fits, and the flag that ends it, are read. -/
lemma processBuffer_content {drv : HdlcDriver cfg} {r : Stuffing.Reader U8} (h : Tracks drv r)
    {x w : List U8} (hx : HDLC_FRAME ∉ x) (hw : hdlcStuffing.unstuff r x = ⟨false, w⟩)
    (hle : w.length ≤ cfg.hdlcMaxBlockSize) :
    if Accepted w (crc16Ccitt 0xffff w)
    then ∃ f, (hdlcProcessBuffer drv (x ++ [HDLC_FRAME])).2 = [f] ∧ Describes f w
    else (hdlcProcessBuffer drv (x ++ [HDLC_FRAME])).2 = [] := by
  have ht : Tracks (hdlcProcessBuffer drv x).1 ⟨false, w⟩ := hw ▸ tracks_processBuffer h x
  have hflag := input_flag ht
  simp only [kept_of_length_le hle, coveredCrc_of_length_le hle] at hflag
  rw [processBuffer_concat_flag drv hx]
  split_ifs at hflag ⊢ with ha
  · obtain ⟨f, hf, hd⟩ := hflag
    exact ⟨f, by rw [hf]; rfl, hd⟩
  · rw [hflag]
    rfl

/-- An idle receiver: `hdlc_init` would change nothing. -/
def HdlcDriver.Idle (drv : HdlcDriver cfg) : Prop := hdlcInit drv = drv

lemma HdlcDriver.idle_iff {drv : HdlcDriver cfg} :
    drv.Idle ↔ Tracks drv ⟨false, []⟩ ∧ drv.seqs = (0, 0) := by
  constructor
  · intro h
    rw [← h]
    exact ⟨tracks_init drv, rfl⟩
  · rintro ⟨ht, hs⟩
    have hcrc := ht.crc
    have hlen := ht.len
    have hpending := ht.pending
    simp only [coveredCrc_nil, kept_nil, List.length_nil, HdlcDriver.seqs, Prod.mk.injEq]
      at hcrc hlen hpending hs
    cases drv
    simp_all [HdlcDriver.Idle, hdlcInit]

lemma idle_hdlcInit (drv : HdlcDriver cfg) : (hdlcInit drv).Idle := rfl

/-- **One block**: an idle receiver hands it over once and is idle again. -/
theorem processBuffer_block {drv : HdlcDriver cfg} (h : drv.Idle) (sendSeq : U8) {b : Block}
    (hb : b.Receivable cfg) :
    (hdlcProcessBuffer drv (b.sent sendSeq)).2.map RxFrame.told = [b.told] ∧
      (hdlcProcessBuffer drv (b.sent sendSeq)).1.Idle := by
  obtain ⟨ht, hs⟩ := HdlcDriver.idle_iff.mp h
  -- with nothing stored the opening flag does nothing
  have hlen : drv.rxBufferLen = 0 := ht.len_eq_zero.mpr rfl
  have hopen : hdlcRxInputByte drv HDLC_FRAME = (drv, none) := by simp [hdlcRxInputByte, hlen]
  have hstep : hdlcProcessBuffer drv (b.sent sendSeq) =
      hdlcProcessBuffer drv (hdlcStuffing.stuff b.content ++ [HDLC_FRAME]) := by
    rw [Block.sent_eq sendSeq hb, hdlcProcessBuffer, hopen]
    rfl
  have hnoflag : HDLC_FRAME ∉ hdlcStuffing.stuff b.content :=
    hdlcStuffing.flag_notMem_stuff b.content
  have hread : hdlcStuffing.unstuff ⟨false, []⟩ (hdlcStuffing.stuff b.content) =
      ⟨false, b.content⟩ := Stuffing.unstuff_stuff [] _
  have hout := processBuffer_content ht hnoflag hread (Block.content_length_le hb)
  rw [if_pos (Block.accepted_content hb)] at hout
  obtain ⟨f, hf, hd⟩ := hout
  rw [hstep]
  refine ⟨by rw [hf, List.map_singleton, told_of_describes hd], ?_⟩
  rw [HdlcDriver.idle_iff]
  constructor
  · have := tracks_processBuffer ht (hdlcStuffing.stuff b.content ++ [HDLC_FRAME])
    rw [Stuffing.unstuff_append, hread] at this
    simpa [Stuffing.read] using this
  · rw [processBuffer_concat_flag drv hnoflag] at hf ⊢
    rw [seqs_input_flag (Or.inr fun h => by simp [h] at hf),
      seqs_processBuffer_of_flag_notMem drv hnoflag, hs]

/-- A block whose content is one byte too long for the buffer is lost. -/
lemma processBuffer_overlong {drv : HdlcDriver cfg} (h : drv.Idle) (sendSeq : U8) {b : Block}
    (hodd : b.control &&& 1 ≠ 0) (hlen : b.payload.length + 4 = cfg.hdlcMaxBlockSize + 1) :
    (hdlcProcessBuffer drv (b.sent sendSeq)).2 = [] := by
  obtain ⟨ht, -⟩ := HdlcDriver.idle_iff.mp h
  have hbuf : drv.rxBufferLen = 0 := ht.len_eq_zero.mpr rfl
  have hopen : hdlcRxInputByte drv HDLC_FRAME = (drv, none) := by simp [hdlcRxInputByte, hbuf]
  have hnoflag : HDLC_FRAME ∉ hdlcStuffing.stuff b.content :=
    hdlcStuffing.flag_notMem_stuff b.content
  have hread : hdlcStuffing.unstuff ⟨false, []⟩ (hdlcStuffing.stuff b.content) =
      ⟨false, b.content⟩ := Stuffing.unstuff_stuff [] _
  have hw : b.content.length = cfg.hdlcMaxBlockSize + 1 := by rw [← hlen]; simp [Block.content]
  -- one byte is left in the buffer
  have hkept : (kept cfg.hdlcMaxBlockSize b.content).length = 1 := by
    rw [kept_length (by rintro h; simp [h] at hw), hw, Nat.add_sub_cancel, Nat.mod_self]
  have hflag := input_flag (tracks_processBuffer ht (hdlcStuffing.stuff b.content))
  rw [hread, if_neg fun ha => absurd ha.1 (by rw [hkept]; decide)] at hflag
  rw [Block.sent_of_odd sendSeq hodd, hdlcProcessBuffer, hopen]
  show (hdlcProcessBuffer drv (hdlcStuffing.stuff b.content ++ [HDLC_FRAME])).2 = []
  rw [processBuffer_concat_flag drv hnoflag, hflag]
  rfl

/-- **HDLC round trip**: a receiver that starts idle is handed every block of a
stream of blocks once, in order, and ends idle. -/
theorem hdlc_round_trip (drv : HdlcDriver cfg) (sendSeq : U8) (bs : List Block)
    (hbs : ∀ b ∈ bs, b.Receivable cfg) :
    (hdlcProcessBuffer (hdlcInit drv) (bs.flatMap (Block.sent sendSeq))).2.map RxFrame.told =
        bs.map Block.told ∧
      (hdlcProcessBuffer (hdlcInit drv) (bs.flatMap (Block.sent sendSeq))).1.Idle := by
  have key : ∀ d : HdlcDriver cfg, d.Idle →
      (hdlcProcessBuffer d (bs.flatMap (Block.sent sendSeq))).2.map RxFrame.told =
          bs.map Block.told ∧
        (hdlcProcessBuffer d (bs.flatMap (Block.sent sendSeq))).1.Idle := by
    induction bs with
    | nil => exact fun d hd => ⟨rfl, hd⟩
    | cons b bs ih =>
        intro d hd
        obtain ⟨htold, hidle⟩ := processBuffer_block hd sendSeq (hbs b (by simp))
        obtain ⟨htold', hidle'⟩ := ih (fun c hc => hbs c (by simp [hc])) _ hidle
        rw [List.flatMap_cons, hdlcProcessBuffer_append]
        exact ⟨by simp [htold, htold'], hidle'⟩
  exact key _ (idle_hdlcInit drv)

/-- Two blocks back to back, one with reserved bytes in its payload. -/
theorem hdlc_round_trip_two :
    (hdlcProcessBuffer (hdlcInit (zeroDriver .prjConf))
        ([⟨0x01, 0x03, [0x7E, 0x7D]⟩, ⟨0x03, 0x03, [0x01]⟩].flatMap (Block.sent 0))).2.map
          RxFrame.told =
        [(0x01, 2, [0x7E, 0x7D]), (0x03, 1, [0x01])] ∧
      (hdlcProcessBuffer (hdlcInit (zeroDriver .prjConf))
        ([⟨0x01, 0x03, [0x7E, 0x7D]⟩, ⟨0x03, 0x03, [0x01]⟩].flatMap (Block.sent 0))).1.Idle :=
  hdlc_round_trip (zeroDriver .prjConf) 0 [⟨0x01, 0x03, [0x7E, 0x7D]⟩, ⟨0x03, 0x03, [0x01]⟩]
    fun b hb => by
      rcases List.mem_pair.mp hb with rfl | rfl
      · exact ⟨by decide, by decide⟩
      · exact ⟨by decide, by decide⟩

/-! ### After noise -/

/-- A frame whose address has been unmasked is not taken for one. -/
lemma not_accepted_masked (b : Block) :
    ¬ Accepted (hdlcStuffing.mask b.address :: b.content.tail)
      (crc16Ccitt 0xffff (hdlcStuffing.mask b.address :: b.content.tail)) := by
  rintro ⟨-, hcrc, -⟩
  have hgood : crc16Ccitt 0xffff (b.address :: b.content.tail) = 0xf0b8 :=
    crc16Ccitt_frameContent _ _ _
  have hinj := (Crc.crc_cons_inj (p := ccittPoly) (by decide) (by decide) 0xffff).mp
    (hcrc.trans hgood.symm)
  -- the mask flips a bit
  have hne : ∀ a : U8, a ^^^ 0x20 ≠ a := by decide
  exact hne b.address hinj

/-- **Resynchronisation**: after any noise and the opening flag of a block, the
rest of the block is handed over once and unchanged, exactly when the noise left
no escape pending or the block's address is itself sent escaped. -/
theorem resync_iff (drv : HdlcDriver cfg) (sendSeq : U8) (g : List U8) (b : Block)
    (hb : b.Receivable cfg) :
    (hdlcProcessBuffer (hdlcAfter drv (g ++ [HDLC_FRAME])) (b.sent sendSeq).tail).2.map
        RxFrame.told = [b.told] ↔
      ¬ hdlcStuffing.EndsInEscape g ∨ hdlcStuffing.Reserved b.address := by
  have ht := tracks_hdlcAfter drv (g ++ [HDLC_FRAME])
  set p := (hdlcStuffing.unstuff ⟨false, []⟩ g).pending with hp
  have hopen : hdlcStuffing.unstuff ⟨false, []⟩ (g ++ [HDLC_FRAME]) = ⟨p, []⟩ := by
    rw [Stuffing.unstuff_append]
    exact Stuffing.read_flag (S := hdlcStuffing) _
  have hpend : p = true ↔ hdlcStuffing.EndsInEscape g := Stuffing.pending_unstuff [] g
  rw [hopen] at ht
  have hnoflag : HDLC_FRAME ∉ hdlcStuffing.stuff b.content :=
    hdlcStuffing.flag_notMem_stuff b.content
  rw [Block.sent_eq sendSeq hb, List.tail_cons]
  -- the content read is the block's, but for a masked address
  have hread : hdlcStuffing.unstuff ⟨p, []⟩ (hdlcStuffing.stuff b.content) =
      ⟨false, (if p = true ∧ ¬ hdlcStuffing.Reserved b.address
        then hdlcStuffing.mask b.address else b.address) :: b.content.tail⟩ := by
    rw [show hdlcStuffing.stuff b.content =
      hdlcStuffing.stuff (b.address :: b.content.tail) from rfl]
    cases p with
    | false => simpa using Stuffing.unstuff_stuff (S := hdlcStuffing) [] (b.address :: _)
    | true =>
        have := Stuffing.unstuff_frame_pending (S := hdlcStuffing) [] b.address b.content.tail
        rw [Stuffing.unstuff_cons, Stuffing.read_flag] at this
        rw [this]
        by_cases hr : hdlcStuffing.Reserved b.address <;> simp [hr]
  have hlen : b.content.tail.length + 1 ≤ cfg.hdlcMaxBlockSize := Block.content_length_le hb
  have hout := processBuffer_content ht hnoflag hread hlen
  rw [← hpend]
  by_cases hbad : p = true ∧ ¬ hdlcStuffing.Reserved b.address
  · rw [if_pos hbad, if_neg (not_accepted_masked b)] at hout
    rw [hout]
    simp [hbad.1, hbad.2]
  · have hacc : Accepted (b.address :: b.content.tail)
        (crc16Ccitt 0xffff (b.address :: b.content.tail)) := Block.accepted_content hb
    rw [if_neg hbad, if_pos hacc] at hout
    obtain ⟨f, hf, hd⟩ := hout
    rw [hf, List.map_singleton, told_of_describes (b := b) hd]
    exact iff_of_true rfl ((not_and_or.mp hbad).imp_right not_not.mp)

/-- The condition holds of noise that ends in a whole frame. -/
theorem resync_after_frame :
    (hdlcProcessBuffer (hdlcAfter (zeroDriver .prjConf) ([0x12, 0x7E] ++ [HDLC_FRAME]))
        ((⟨0x01, 0x03, [0x7E]⟩ : Block).sent 0).tail).2.map RxFrame.told =
        [(⟨0x01, 0x03, [0x7E]⟩ : Block).told] ↔
      ¬ hdlcStuffing.EndsInEscape [0x12, 0x7E] ∨ hdlcStuffing.Reserved 0x01 :=
  resync_iff (zeroDriver .prjConf) 0 [0x12, 0x7E] ⟨0x01, 0x03, [0x7E]⟩ ⟨by decide, by decide⟩

/-- An escape left pending costs the next frame. -/
theorem resync_fails_after_escape :
    ¬ ∀ (g : List U8) (b : Block), b.Receivable .prjConf →
      (hdlcProcessBuffer (hdlcAfter (zeroDriver .prjConf) (g ++ [HDLC_FRAME]))
        (b.sent 0).tail).2.map RxFrame.told = [b.told] := by
  intro h
  have hlost : (hdlcProcessBuffer (hdlcAfter (zeroDriver .prjConf) ([HDLC_ESC] ++ [HDLC_FRAME]))
      ((⟨0x01, 0x03, []⟩ : Block).sent 0).tail).2.map RxFrame.told = [] := by decide +kernel
  have := h [HDLC_ESC] ⟨0x01, 0x03, []⟩ ⟨by decide, by decide⟩
  rw [hlost] at this
  cases this

end Cc1352Greybus
