import Cc1352Greybus.Hdlc.Receiver

/-!
What a delivered frame says about the line.

A frame is sound when the whole content since the last flag is an address, an
odd control byte, the payload and two FCS bytes, with a good CRC over all of it.
While a content fits the buffer the receiver delivers nothing else. An over-long
content is another matter: the buffer restarts with a byte the CRC has already
forgotten, and what follows may pass for a frame.

* `callback_sound_iff`: the frames of a stream are sound exactly when no
  over-long content of it ends in a tail that passes.
* `overlongStream_unsound`: one that does.
-/

namespace Cc1352Greybus

variable {cfg : Config}

/-- The complete content between the flag that follows a stretch of the line and
the flag before it. -/
def contentSince (bs : List U8) : List U8 := (hdlcStuffing.unstuff ⟨false, []⟩ bs).content

/-- The driver after a stretch of the line, from `hdlc_init` on. -/
def hdlcAfter (drv : HdlcDriver cfg) (bs : List U8) : HdlcDriver cfg :=
  (hdlcProcessBuffer (hdlcInit drv) bs).1

lemma tracks_hdlcAfter (drv : HdlcDriver cfg) (bs : List U8) :
    Tracks (hdlcAfter drv bs) (hdlcStuffing.unstuff ⟨false, []⟩ bs) :=
  tracks_processBuffer (tracks_init drv) bs

/-- What the flag after a stretch of the line delivers. -/
lemma callback_at_flag (drv : HdlcDriver cfg) (bs : List U8) :
    if Accepted (kept cfg.hdlcMaxBlockSize (contentSince bs))
      (coveredCrc cfg.hdlcMaxBlockSize (contentSince bs))
    then ∃ f, (hdlcRxInputByte (hdlcAfter drv bs) HDLC_FRAME).2 = some f ∧
      Describes f (kept cfg.hdlcMaxBlockSize (contentSince bs))
    else (hdlcRxInputByte (hdlcAfter drv bs) HDLC_FRAME).2 = none :=
  input_flag (tracks_hdlcAfter drv bs)

/-- A callback that speaks for the whole content. -/
def SoundCallback (f : RxFrame) (w : List U8) : Prop :=
  ∃ control f₁ f₂ : U8, control &&& 1 ≠ 0 ∧ w = f.address :: control :: f.payload ++ [f₁, f₂] ∧
    f.payload.length = f.len ∧ crc16Ccitt 0xffff w = 0xf0b8

/-- A content of four bytes or more, taken apart as a frame. -/
lemma eq_frame_of_length {t : List U8} (h : 3 < t.length) :
    ∃ f₁ f₂, t = t.getD 0 0 :: t.getD 1 0 :: (t.drop 2).take (t.length - 4) ++ [f₁, f₂] := by
  match t, h with
  | a :: b :: rest, h =>
      simp only [List.length_cons] at h
      obtain ⟨f₁, f₂, hf⟩ := List.length_eq_two.mp
        (show (rest.drop (rest.length - 2)).length = 2 by rw [List.length_drop]; omega)
      refine ⟨f₁, f₂, ?_⟩
      rw [← hf]
      simp

/-- What is told of an accepted content that was kept whole is sound. -/
lemma soundCallback_of_accepted {f : RxFrame} {w : List U8} (hd : Describes f w)
    (ha : Accepted w (crc16Ccitt 0xffff w)) : SoundCallback f w := by
  obtain ⟨h3, hcrc, hodd⟩ := ha
  obtain ⟨f₁, f₂, hw⟩ := eq_frame_of_length h3
  refine ⟨w.getD 1 0, f₁, f₂, hodd, ?_, ?_, hcrc⟩
  · rw [hd.address, hd.payload]
    exact hw
  · rw [hd.payload, hd.len, List.length_take, List.length_drop]
    omega

/-- A sound callback is told a length four short of the content. -/
lemma SoundCallback.length {f : RxFrame} {w : List U8} (h : SoundCallback f w) :
    w.length = f.len + 4 := by
  obtain ⟨_, _, _, -, hw, hlen, -⟩ := h
  rw [hw]
  simp [hlen]

/-- A frame delivered is a frame described. -/
lemma exists_describes_of_callback {drv : HdlcDriver cfg} {bs : List U8} {f : RxFrame}
    (hf : (hdlcRxInputByte (hdlcAfter drv bs) HDLC_FRAME).2 = some f) :
    Accepted (kept cfg.hdlcMaxBlockSize (contentSince bs))
        (coveredCrc cfg.hdlcMaxBlockSize (contentSince bs)) ∧
      Describes f (kept cfg.hdlcMaxBlockSize (contentSince bs)) := by
  have hflag := callback_at_flag drv bs
  split_ifs at hflag with ha
  · obtain ⟨g, hg, hd⟩ := hflag
    rw [hf] at hg
    cases hg
    exact ⟨ha, hd⟩
  · rw [hf] at hflag
    cases hflag

/-- An over-long content whose tail, since the buffer last restarted, passes for
a frame with all but its first byte under the CRC. -/
def OverlongTailAccepted (cfg : Config) (w : List U8) : Prop :=
  cfg.hdlcMaxBlockSize < w.length ∧
    Accepted (kept cfg.hdlcMaxBlockSize w)
      (crc16Ccitt 0xffff (kept cfg.hdlcMaxBlockSize w).tail)

/-- The tail of such a content is delivered. -/
lemma exists_callback_of_overlong (drv : HdlcDriver cfg) {bs : List U8}
    (h : OverlongTailAccepted cfg (contentSince bs)) :
    ∃ f, (hdlcRxInputByte (hdlcAfter drv bs) HDLC_FRAME).2 = some f ∧
      Describes f (kept cfg.hdlcMaxBlockSize (contentSince bs)) := by
  have hflag := callback_at_flag drv bs
  rwa [coveredCrc, if_neg (Nat.not_le.mpr h.1), if_pos h.2] at hflag

/-- **Receive soundness.** Every callback of a stream is made on a flag and
speaks for the whole content before that flag, exactly when no over-long content
of the stream has a tail that passes for a frame. -/
theorem callback_sound_iff (drv : HdlcDriver cfg) (bs : List U8) :
    (∀ pre b post f, bs = pre ++ b :: post → (hdlcRxInputByte (hdlcAfter drv pre) b).2 = some f →
      b = HDLC_FRAME ∧ SoundCallback f (contentSince pre)) ↔
    ∀ pre post, bs = pre ++ HDLC_FRAME :: post → ¬ OverlongTailAccepted cfg (contentSince pre) := by
  constructor
  · rintro hsound pre post hbs hover
    obtain ⟨f, hf, hd⟩ := exists_callback_of_overlong drv hover
    obtain ⟨hlt, hacc⟩ := hover
    -- a sound frame would be as long as the content, which was not kept whole
    have hlen := (hsound pre _ post f hbs hf).2.length
    have hshort := kept_length_lt cfg.block_pos hlt
    have h3 := hacc.1
    rw [hd.len] at hlen
    omega
  · intro hno pre b post f hbs hf
    have hb : b = HDLC_FRAME := by
      by_contra hb
      rw [input_of_ne_flag _ hb] at hf
      cases hf
    subst hb
    obtain ⟨ha, hd⟩ := exists_describes_of_callback hf
    refine ⟨rfl, ?_⟩
    by_cases hle : (contentSince pre).length ≤ cfg.hdlcMaxBlockSize
    · rw [kept_of_length_le hle] at ha hd
      rw [coveredCrc_of_length_le hle] at ha
      exact soundCallback_of_accepted hd ha
    · rw [coveredCrc, if_neg hle] at ha
      exact absurd ⟨Nat.not_le.mp hle, ha⟩ (hno pre post hbs)

/-- The driver as the loader leaves it. -/
def zeroDriver (cfg : Config) : HdlcDriver cfg where
  crc := 0
  nextEscaped := false
  rxSendSeq := 0
  sendSeq := 0
  rxBufferLen := 0
  rxBuffer := Vector.replicate _ 0

/-- A full buffer of zeros and then an address, a control byte and an FCS that
leaves the address out. -/
def overlongStream : List U8 := List.replicate 256 0 ++ [0x01, 0x03] ++ fcs [0x03]

/-- None of its bytes is reserved, so that the stream is its own content. -/
private lemma contentSince_overlongStream : contentSince overlongStream = overlongStream := by
  have hclean : hdlcStuffing.stuff overlongStream = overlongStream := by decide +kernel
  have hread := hdlcStuffing.unstuff_stuff [] overlongStream
  rw [hclean] at hread
  rw [contentSince, hread, List.nil_append]

/-- The zeros fill the buffer once, and what follows is kept. -/
private lemma kept_overlongStream : kept 256 overlongStream = [0x01, 0x03] ++ fcs [0x03] := by
  decide +kernel

/-- The tail of an over-long frame is delivered, with an address no CRC has
covered. -/
theorem overlongStream_unsound :
    ¬ ∀ pre b post f, overlongStream ++ [HDLC_FRAME] = pre ++ b :: post →
      (hdlcRxInputByte (hdlcAfter (zeroDriver .prjConf) pre) b).2 = some f →
      b = HDLC_FRAME ∧ SoundCallback f (contentSince pre) := by
  intro h
  have hlong : overlongStream.length = 260 := by decide +kernel
  have hkept : kept Config.prjConf.hdlcMaxBlockSize (contentSince overlongStream) =
      [0x01, 0x03] ++ fcs [0x03] := by
    rw [contentSince_overlongStream]
    exact kept_overlongStream
  have hover : OverlongTailAccepted .prjConf (contentSince overlongStream) := by
    constructor
    · rw [contentSince_overlongStream, hlong]
      decide
    · rw [hkept]
      decide +kernel
  obtain ⟨f, hf, hd⟩ := exists_callback_of_overlong (zeroDriver .prjConf) hover
  have hlen := (h overlongStream HDLC_FRAME [] f rfl hf).2.length
  rw [contentSince_overlongStream, hlong, hd.len, hkept] at hlen
  cases hlen

end Cc1352Greybus
