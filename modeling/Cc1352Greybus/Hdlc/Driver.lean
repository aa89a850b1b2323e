import Cc1352Greybus.Config
import Cc1352Greybus.Lib.Crc
import Cc1352Greybus.Lib.Stuffing

/-!
`src/hdlc.c`: the HDLC driver, its sender and its receiver.

* `hdlcBlockSendSync` is the sequence of bytes handed to `send_frame_cb`, one
  per call.
* `hdlcRxInputByte` is one received byte; it returns the driver and, when
  `process_callback_frame_cb` is invoked, what it is invoked with.
* `hdlcStuffing` is the byte stuffing both sides follow, and
  `hdlcBlockSendSync_frame` says the sender sends a stuffed frame between flags.
-/

namespace Cc1352Greybus

/-- `HDLC_FRAME` -/
def HDLC_FRAME : U8 := 0x7E

/-- `HDLC_ESC` -/
def HDLC_ESC : U8 := 0x7D

/-- The polynomial of Zephyr's reflected CCITT CRC. -/
def ccittPoly : U16 := 0x8408

/-- `crc16_ccitt` -/
def crc16Ccitt (seed : U16) (src : List U8) : U16 := Crc.crc ccittPoly seed src

/-- `struct hdlc_driver`, less its two callbacks. -/
structure HdlcDriver (cfg : Config) where
  crc : U16
  nextEscaped : Bool
  rxSendSeq : U8
  sendSeq : U8
  rxBufferLen : ℕ
  rxBuffer : Vector U8 cfg.hdlcMaxBlockSize

/-- An invocation of `process_callback_frame_cb`: the bytes its pointer reaches,
the length it is told, and the address. -/
structure RxFrame where
  buffer : List U8
  len : ℕ
  address : U8
  deriving DecidableEq

/-- The payload handed to `process_callback_frame_cb`. -/
def RxFrame.payload (f : RxFrame) : List U8 := f.buffer.take f.len

variable {cfg : Config}

/-- `hdlc_init`, over whatever the static driver held before. -/
def hdlcInit (drv : HdlcDriver cfg) : HdlcDriver cfg :=
  { drv with crc := 0xffff, sendSeq := 0, rxSendSeq := 0, nextEscaped := false, rxBufferLen := 0 }

/-! ### The sender -/

/-- `uart_poll_out_crc`: the running CRC and the bytes sent so far. -/
def uartPollOutCrc (byte : U8) (tx : U16 × List U8) : U16 × List U8 :=
  let crc := crc16Ccitt tx.1 [byte]
  if byte = HDLC_FRAME ∨ byte = HDLC_ESC then (crc, tx.2 ++ [HDLC_ESC] ++ [byte ^^^ 0x20])
  else (crc, tx.2 ++ [byte])

/-- `hdlc_block_send_sync`: the bytes handed to `send_frame_cb`. -/
def hdlcBlockSendSync (sendSeq : U8) (buffer : List U8) (address control : U8) : List U8 :=
  let tx := uartPollOutCrc address (0xffff, [HDLC_FRAME])
  let tx := uartPollOutCrc (if control = 0 then sendSeq <<< 1 else control) tx
  let tx := buffer.foldl (fun tx b => uartPollOutCrc b tx) tx
  let crcCalc := tx.1 ^^^ 0xffff
  let tx := uartPollOutCrc (crcCalc.setWidth 8) tx
  let tx := uartPollOutCrc ((crcCalc >>> 8).setWidth 8) tx
  tx.2 ++ [HDLC_FRAME]

/-! ### The receiver -/

/-- `rx_buffer[i]` -/
def HdlcDriver.rxByte (drv : HdlcDriver cfg) (i : ℕ) : U8 := drv.rxBuffer.toList.getD i 0

/-- `hdlc_process_complete_frame`: the length is computed in `size_t`. -/
def hdlcProcessCompleteFrame (drv : HdlcDriver cfg) : RxFrame where
  buffer := drv.rxBuffer.toList.drop 2
  len := (drv.rxBufferLen + 2 ^ 32 - 4) % 2 ^ 32
  address := drv.rxByte 0

/-- `hdlc_process_frame` -/
def hdlcProcessFrame (drv : HdlcDriver cfg) : HdlcDriver cfg × Option RxFrame :=
  let r : HdlcDriver cfg × Option RxFrame :=
    if 3 < drv.rxBufferLen ∧ drv.crc = 0xf0b8 then
      let ctrl := drv.rxByte 1
      if ctrl &&& 1 = 0 then ({ drv with rxSendSeq := (ctrl >>> 5) &&& 0x07 }, none)
      else (drv, some (hdlcProcessCompleteFrame drv))
    else (drv, none)
  ({ r.1 with crc := 0xffff, rxBufferLen := 0 }, r.2)

/-- `hdlc_save_byte` -/
def hdlcSaveByte (drv : HdlcDriver cfg) (byte : U8) : HdlcDriver cfg :=
  let drv := if cfg.hdlcMaxBlockSize ≤ drv.rxBufferLen
    then { drv with crc := 0xffff, rxBufferLen := 0 } else drv
  { drv with
    rxBuffer := drv.rxBuffer.setIfInBounds drv.rxBufferLen byte
    rxBufferLen := drv.rxBufferLen + 1 }

/-- `hdlc_rx_input_byte` -/
def hdlcRxInputByte (drv : HdlcDriver cfg) (byte : U8) : HdlcDriver cfg × Option RxFrame :=
  if byte = HDLC_FRAME then
    if drv.rxBufferLen ≠ 0 then hdlcProcessFrame drv else (drv, none)
  else if byte = HDLC_ESC then ({ drv with nextEscaped := true }, none)
  else
    let byte := if drv.nextEscaped then byte ^^^ 0x20 else byte
    (hdlcSaveByte { drv with nextEscaped := false, crc := crc16Ccitt drv.crc [byte] } byte, none)

/-- `hdlc_process_buffer`: the driver and the callbacks made on the way. -/
def hdlcProcessBuffer (drv : HdlcDriver cfg) : List U8 → HdlcDriver cfg × List RxFrame
  | [] => (drv, [])
  | b :: bs =>
    let r := hdlcRxInputByte drv b
    let rest := hdlcProcessBuffer r.1 bs
    (rest.1, r.2.toList ++ rest.2)

@[simp] lemma hdlcProcessBuffer_nil (drv : HdlcDriver cfg) :
    hdlcProcessBuffer drv [] = (drv, []) := rfl

/-- A stream is processed piece by piece. -/
lemma hdlcProcessBuffer_append (drv : HdlcDriver cfg) (as bs : List U8) :
    hdlcProcessBuffer drv (as ++ bs) =
      ((hdlcProcessBuffer (hdlcProcessBuffer drv as).1 bs).1,
        (hdlcProcessBuffer drv as).2 ++ (hdlcProcessBuffer (hdlcProcessBuffer drv as).1 bs).2) := by
  induction as generalizing drv with
  | nil => simp
  | cons a as ih => simp [hdlcProcessBuffer, ih]

/-! ### The sender sends a stuffed frame -/

/-- The byte stuffing of the link. -/
def hdlcStuffing : Stuffing U8 where
  flag := HDLC_FRAME
  esc := HDLC_ESC
  mask b := b ^^^ 0x20
  flag_ne_esc := by decide
  mask_mask b := by rw [BitVec.xor_assoc, BitVec.xor_self, BitVec.xor_zero]
  mask_flag_ne_flag := by decide
  mask_flag_ne_esc := by decide
  mask_esc_ne_flag := by decide
  mask_esc_ne_esc := by decide

@[simp] lemma hdlcStuffing_flag : hdlcStuffing.flag = HDLC_FRAME := rfl

/-- The FCS bytes of a content, in the order they are sent. -/
def fcs (w : List U8) : List U8 :=
  [Crc.lo (crc16Ccitt 0xffff w ^^^ 0xffff), Crc.hi (crc16Ccitt 0xffff w ^^^ 0xffff)]

@[simp] lemma fcs_length (w : List U8) : (fcs w).length = 2 := rfl

/-- What a block's frame carries between its flags. -/
def frameContent (address control : U8) (payload : List U8) : List U8 :=
  address :: control :: payload ++ fcs (address :: control :: payload)

@[simp] lemma frameContent_length (address control : U8) (payload : List U8) :
    (frameContent address control payload).length = payload.length + 4 := by
  simp [frameContent]

lemma crc16Ccitt_append (seed : U16) (as bs : List U8) :
    crc16Ccitt seed (as ++ bs) = crc16Ccitt (crc16Ccitt seed as) bs :=
  Crc.crc_append _ _ _ _

/-- The residue of the CCITT polynomial is the constant the receiver compares
with. -/
lemma residue_ccittPoly : Crc.residue ccittPoly = 0xf0b8 := by decide +kernel

/-- A content followed by its FCS has the residue the receiver looks for. -/
lemma crc16Ccitt_append_fcs (w : List U8) : crc16Ccitt 0xffff (w ++ fcs w) = 0xf0b8 := by
  rw [crc16Ccitt, fcs, crc16Ccitt, Crc.crc_append_fcs, residue_ccittPoly]

lemma crc16Ccitt_frameContent (address control : U8) (payload : List U8) :
    crc16Ccitt 0xffff (frameContent address control payload) = 0xf0b8 :=
  crc16Ccitt_append_fcs _

/-- `uart_poll_out_crc` appends the stuffed byte. -/
lemma uartPollOutCrc_eq (byte : U8) (tx : U16 × List U8) :
    uartPollOutCrc byte tx = (crc16Ccitt tx.1 [byte], tx.2 ++ hdlcStuffing.stuffByte byte) := by
  by_cases h : byte = HDLC_FRAME ∨ byte = HDLC_ESC
  · have hr : hdlcStuffing.Reserved byte := h
    rw [uartPollOutCrc, if_pos h, Stuffing.stuffByte, if_pos hr, List.append_assoc]
    rfl
  · have hr : ¬ hdlcStuffing.Reserved byte := h
    rw [uartPollOutCrc, if_neg h, Stuffing.stuffByte, if_neg hr]

/-- So does a run of it. -/
lemma foldl_uartPollOutCrc (bs : List U8) (tx : U16 × List U8) :
    bs.foldl (fun tx b => uartPollOutCrc b tx) tx =
      (crc16Ccitt tx.1 bs, tx.2 ++ hdlcStuffing.stuff bs) := by
  induction bs generalizing tx with
  | nil => simp [crc16Ccitt]
  | cons b bs ih =>
      rw [List.foldl_cons, ih, uartPollOutCrc_eq, Stuffing.stuff_cons, List.append_assoc]
      rfl

/-- **The sender's bytes**: the stuffed content of the frame between two flags. A
control byte of zero stands for the sequence number. -/
theorem hdlcBlockSendSync_frame (sendSeq : U8) (buffer : List U8) (address control : U8) :
    hdlcBlockSendSync sendSeq buffer address control =
      HDLC_FRAME :: hdlcStuffing.stuff
        (frameContent address (if control = 0 then sendSeq <<< 1 else control) buffer) ++
          [HDLC_FRAME] := by
  simp only [hdlcBlockSendSync, foldl_uartPollOutCrc]
  simp only [uartPollOutCrc_eq]
  simp only [frameContent, fcs, Crc.lo, Crc.hi, List.cons_append, Stuffing.stuff_cons,
    Stuffing.stuff_append, Stuffing.stuff_nil, List.append_nil, List.nil_append, List.append_assoc,
    ← crc16Ccitt_append]

lemma hdlcBlockSendSync_eq (sendSeq : U8) (buffer : List U8) (address : U8) {control : U8}
    (hc : control ≠ 0) :
    hdlcBlockSendSync sendSeq buffer address control =
      HDLC_FRAME :: hdlcStuffing.stuff (frameContent address control buffer) ++ [HDLC_FRAME] := by
  rw [hdlcBlockSendSync_frame, if_neg hc]

end Cc1352Greybus
