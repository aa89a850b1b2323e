import Cc1352Greybus.Hdlc.RoundTrip

/-!
The frame check of the receiver against the frame check of the sender.

The receiver compares the register over a whole content with a constant. The
sender ends a content with the complement of the register over the rest of it.
Because the register of two more bytes determines them, the two checks are one.

* `frameValid_iff_fcs`: the constant is reached exactly by the sender's two bytes.
* `sent_iff_fcs`: exactly those contents are what the sender would send.
* `fcs_checked`: what a waiting receiver does with any content that fits.
-/

namespace Cc1352Greybus

variable {cfg : Config}

/-! ### The two checks -/

/-- The bytes of a content in front of its FCS. -/
def fcsCovered (w : List U8) : List U8 := w.take (w.length - 2)

/-- The two bytes a content has where a frame has its FCS. -/
def fcsField (w : List U8) : List U8 := w.drop (w.length - 2)

lemma fcsCovered_append_fcsField (w : List U8) : fcsCovered w ++ fcsField w = w :=
  List.take_append_drop _ w

/-- A register over a whole content is the constant of the receiver exactly when
the content ends in the FCS of the rest. -/
lemma crc16Ccitt_eq_iff_fcs {w : List U8} (hw : 2 ≤ w.length) :
    crc16Ccitt 0xffff w = 0xf0b8 ↔ fcsField w = fcs (fcsCovered w) := by
  obtain ⟨a, b, hab⟩ := List.length_eq_two.mp
    (show (fcsField w).length = 2 by rw [fcsField, List.length_drop]; omega)
  calc crc16Ccitt 0xffff w = 0xf0b8
      ↔ Crc.crc ccittPoly 0xffff (fcsCovered w ++ [a, b]) = Crc.residue ccittPoly := by
        rw [residue_ccittPoly, ← hab, fcsCovered_append_fcsField, crc16Ccitt]
    _ ↔ a = Crc.lo (crc16Ccitt 0xffff (fcsCovered w) ^^^ 0xffff) ∧
          b = Crc.hi (crc16Ccitt 0xffff (fcsCovered w) ^^^ 0xffff) :=
        Crc.crc_append_eq_residue_iff (by decide) _ _ _ _
    _ ↔ fcsField w = fcs (fcsCovered w) := by rw [hab, fcs]; simp

/-- A content of four bytes or more, taken apart as the sender's arguments and the
FCS field. -/
lemma content_eq_fields {w : List U8} (hw : 4 ≤ w.length) :
    w.getD 0 0 :: w.getD 1 0 :: (fcsCovered w).drop 2 = fcsCovered w := by
  match w, hw with
  | a :: b :: c :: d :: rest, _ => simp [fcsCovered]

/-- The sender, with the sequence number the driver has, sends the content when it
is handed the fields of it exactly if the content ends in its FCS. -/
lemma sent_iff_fcs {w : List U8} (hw : 4 ≤ w.length) :
    hdlcBlockSendSync 0 ((fcsCovered w).drop 2) (w.getD 0 0) (w.getD 1 0) =
        HDLC_FRAME :: hdlcStuffing.stuff w ++ [HDLC_FRAME] ↔
      fcsField w = fcs (fcsCovered w) := by
  have hctrl : (if w.getD 1 0 = 0 then (0 : U8) <<< 1 else w.getD 1 0) = w.getD 1 0 := by
    split_ifs with h
    · rw [h]
      rfl
    · rfl
  have hcontent : frameContent (w.getD 0 0) (w.getD 1 0) ((fcsCovered w).drop 2) =
      fcsCovered w ++ fcs (fcsCovered w) := by
    rw [frameContent, content_eq_fields hw]
  rw [hdlcBlockSendSync_frame, hctrl, hcontent]
  calc HDLC_FRAME :: hdlcStuffing.stuff (fcsCovered w ++ fcs (fcsCovered w)) ++ [HDLC_FRAME] =
        HDLC_FRAME :: hdlcStuffing.stuff w ++ [HDLC_FRAME]
      ↔ hdlcStuffing.stuff (fcsCovered w ++ fcs (fcsCovered w)) = hdlcStuffing.stuff w := by simp
    _ ↔ fcsCovered w ++ fcs (fcsCovered w) = fcsCovered w ++ fcsField w := by
        rw [Stuffing.stuff_injective.eq_iff, fcsCovered_append_fcsField]
    _ ↔ fcsField w = fcs (fcsCovered w) := by rw [List.append_cancel_left_eq, eq_comm]

/-! ### The receiver -/

/-- A receiver between frames: whatever sequence number the last one left, `hdlc_init`
would change nothing else. -/
def HdlcDriver.Waiting (drv : HdlcDriver cfg) : Prop :=
  hdlcInit drv = { drv with rxSendSeq := 0 }

/-- What `hdlc_process_frame` takes for a valid frame. -/
def HdlcDriver.FrameValid (drv : HdlcDriver cfg) : Prop :=
  3 < drv.rxBufferLen ∧ drv.crc = 0xf0b8

lemma HdlcDriver.Waiting.sendSeq {drv : HdlcDriver cfg} (h : drv.Waiting) : drv.sendSeq = 0 :=
  (congrArg HdlcDriver.sendSeq h).symm

/-- A waiting receiver has read nothing of a content yet. -/
lemma HdlcDriver.Waiting.tracks {drv : HdlcDriver cfg} (h : drv.Waiting) :
    Tracks drv ⟨false, []⟩ := by
  have ht := tracks_init drv
  rw [h] at ht
  exact ⟨ht.pending, ht.stored, ht.len, ht.crc⟩

/-- The driver when the flag after a content arrives. -/
def hdlcBeforeFlag (drv : HdlcDriver cfg) (w : List U8) : HdlcDriver cfg :=
  (hdlcProcessBuffer drv (hdlcStuffing.stuff w)).1

/-- A waiting receiver reads a content that fits as it was before stuffing. -/
lemma tracks_hdlcBeforeFlag {drv : HdlcDriver cfg} (h : drv.Waiting) (w : List U8) :
    Tracks (hdlcBeforeFlag drv w) ⟨false, w⟩ := by
  have ht := tracks_processBuffer h.tracks (hdlcStuffing.stuff w)
  rwa [Stuffing.unstuff_stuff, List.nil_append] at ht

/-- **The receiver's check is the sender's**: a content that fits is valid exactly
when it ends in its FCS. -/
lemma frameValid_iff_fcs {drv : HdlcDriver cfg} (h : drv.Waiting) {w : List U8}
    (hw : 4 ≤ w.length) (hle : w.length ≤ cfg.hdlcMaxBlockSize) :
    (hdlcBeforeFlag drv w).FrameValid ↔ fcsField w = fcs (fcsCovered w) := by
  have ht := tracks_hdlcBeforeFlag h w
  rw [HdlcDriver.FrameValid, ht.len, ht.crc, kept_of_length_le hle, coveredCrc_of_length_le hle,
    and_iff_right (show 3 < w.length from hw), crc16Ccitt_eq_iff_fcs (by omega)]

/-- What the flag after a content does. -/
structure FcsChecked (drv : HdlcDriver cfg) (w : List U8) : Prop where
  /-- Nothing is delivered before the flag, -/
  silent : (hdlcProcessBuffer drv (hdlcStuffing.stuff w)).2 = []
  /-- on which the frame is processed. -/
  processed : hdlcRxInputByte (hdlcBeforeFlag drv w) HDLC_FRAME =
    hdlcProcessFrame (hdlcBeforeFlag drv w)
  /-- It is valid exactly when it ends in the FCS of the rest, -/
  valid_iff_fcs : (hdlcBeforeFlag drv w).FrameValid ↔ fcsField w = fcs (fcsCovered w)
  /-- that is, when it is what the sender would have sent. -/
  valid_iff_sent : (hdlcBeforeFlag drv w).FrameValid ↔
    hdlcBlockSendSync drv.sendSeq ((fcsCovered w).drop 2) (w.getD 0 0) (w.getD 1 0) =
      HDLC_FRAME :: hdlcStuffing.stuff w ++ [HDLC_FRAME]
  /-- A valid frame is delivered when its control byte is odd; -/
  delivered : (hdlcBeforeFlag drv w).FrameValid → w.getD 1 0 &&& 1 = 1 →
    ∃ f, Describes f w ∧ hdlcProcessFrame (hdlcBeforeFlag drv w) =
      ({ hdlcBeforeFlag drv w with crc := 0xffff, rxBufferLen := 0 }, some f)
  /-- otherwise only the sequence number is taken from it. -/
  sequenced : (hdlcBeforeFlag drv w).FrameValid → w.getD 1 0 &&& 1 ≠ 1 →
    hdlcProcessFrame (hdlcBeforeFlag drv w) =
      ({ hdlcBeforeFlag drv w with
          crc := 0xffff
          rxBufferLen := 0
          rxSendSeq := (w.getD 1 0 >>> 5) &&& 0x07 }, none)
  /-- A frame that is not valid is dropped. -/
  dropped : ¬ (hdlcBeforeFlag drv w).FrameValid →
    hdlcProcessFrame (hdlcBeforeFlag drv w) =
      ({ hdlcBeforeFlag drv w with crc := 0xffff, rxBufferLen := 0 }, none)

/-- Bit 0 is a zero or a one. -/
lemma and_one_ne_one_iff (c : U8) : c &&& 1 ≠ 1 ↔ c &&& 1 = 0 := by
  revert c
  decide

/-- **The FCS check accepts exactly the sender's FCS**: for every content of four
bytes or more that fits the buffer, stuffed and ended by a flag. -/
theorem fcs_checked {drv : HdlcDriver cfg} (h : drv.Waiting) {w : List U8} (hw : 4 ≤ w.length)
    (hle : w.length ≤ cfg.hdlcMaxBlockSize) : FcsChecked drv w := by
  have ht := tracks_hdlcBeforeFlag h w
  have hlen : (hdlcBeforeFlag drv w).rxBufferLen = w.length := by
    rw [ht.len, kept_of_length_le hle]
  have hctrl : (hdlcBeforeFlag drv w).rxByte 1 = w.getD 1 0 := by
    rw [ht.rxByte_eq (by omega), kept_of_length_le hle]
  refine
    { silent := processBuffer_of_flag_notMem drv (hdlcStuffing.flag_notMem_stuff w)
      processed := by rw [hdlcRxInputByte, if_pos rfl, if_pos (by omega)]
      valid_iff_fcs := frameValid_iff_fcs h hw hle
      valid_iff_sent := by rw [h.sendSeq, frameValid_iff_fcs h hw hle, sent_iff_fcs hw]
      delivered := ?_
      sequenced := ?_
      dropped := ?_ }
  · intro hv hodd
    have hnz : ¬ w.getD 1 0 &&& 1 = 0 := by
      rw [hodd]
      decide
    have hd := describes_processCompleteFrame ht (by omega)
    rw [kept_of_length_le hle] at hd
    refine ⟨_, hd, ?_⟩
    rw [hdlcProcessFrame, if_pos (show _ ∧ _ from hv), hctrl, if_neg hnz]
  · intro hv heven
    rw [hdlcProcessFrame, if_pos (show _ ∧ _ from hv), hctrl,
      if_pos ((and_one_ne_one_iff _).mp heven)]
  · intro hv
    rw [hdlcProcessFrame, if_neg (show ¬ (_ ∧ _) from hv)]

/-- A receiver after `hdlc_init` and an acknowledgement with an escaped byte. -/
theorem fcs_checked_init :
    FcsChecked (hdlcInit (zeroDriver .prjConf)) [0x7E, 0x20, 0x12, 0x34] :=
  fcs_checked (show (hdlcInit (zeroDriver .prjConf)).Waiting from rfl) (by decide) (by decide)

end Cc1352Greybus
