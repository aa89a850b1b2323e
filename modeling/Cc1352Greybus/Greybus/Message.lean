import Cc1352Greybus.Config

/-!
Greybus messages as `include/greybus_messages.h` lays them out: an operation
header of eight bytes and a payload of `size - 8`.

* `GbOperationMsgHdr.bytes` is the header in memory, `GbOperationMsgHdr.ofBytes`
  the header read from it.
* `GbMessage` is a block of the message heap that holds one.
-/

namespace Cc1352Greybus

/-- `struct gb_operation_msg_hdr`, packed -/
structure GbOperationMsgHdr where
  size : U16
  operationId : U16
  type : U8
  result : U8
  pad0 : U8
  pad1 : U8
  deriving DecidableEq

namespace GbOperationMsgHdr

/-- The header in memory. -/
def bytes (hdr : GbOperationMsgHdr) : List U8 :=
  le16 hdr.size ++ le16 hdr.operationId ++ [hdr.type, hdr.result, hdr.pad0, hdr.pad1]

/-- The header at the start of some bytes; bytes that are not there read as zero. -/
def ofBytes (bs : List U8) : GbOperationMsgHdr where
  size := ofLe16 (bs.getD 0 0) (bs.getD 1 0)
  operationId := ofLe16 (bs.getD 2 0) (bs.getD 3 0)
  type := bs.getD 4 0
  result := bs.getD 5 0
  pad0 := bs.getD 6 0
  pad1 := bs.getD 7 0

@[simp] lemma bytes_length (hdr : GbOperationMsgHdr) : hdr.bytes.length = 8 := rfl

/-- A header read back is the header written, whatever follows it. -/
@[simp] lemma ofBytes_bytes_append (hdr : GbOperationMsgHdr) (rest : List U8) :
    ofBytes (hdr.bytes ++ rest) = hdr := by
  simp [ofBytes, bytes, le16]

/-- The header fields both ends agree on; the pad bytes are not among them. -/
def fields (hdr : GbOperationMsgHdr) : U16 × U16 × U8 × U8 :=
  (hdr.size, hdr.operationId, hdr.type, hdr.result)

end GbOperationMsgHdr

/-- `gb_hdr_payload_len`, in `size_t` -/
def gbHdrPayloadLen (hdr : GbOperationMsgHdr) : ℕ := (hdr.size.toNat + 2 ^ 32 - 8) % 2 ^ 32

/-- A message no shorter than its header has the payload length it should. -/
lemma gbHdrPayloadLen_of_size {hdr : GbOperationMsgHdr} {n : ℕ} (h : hdr.size.toNat = n + 8) :
    gbHdrPayloadLen hdr = n := by
  have := hdr.size.isLt
  rw [gbHdrPayloadLen]
  omega

/-- One that is shorter has nearly all of `size_t`. -/
lemma gbHdrPayloadLen_of_lt {hdr : GbOperationMsgHdr} (h : hdr.size.toNat < 8) :
    gbHdrPayloadLen hdr = 2 ^ 32 - (8 - hdr.size.toNat) := by
  rw [gbHdrPayloadLen]
  omega

/-- `struct gb_message`, in the block `blk` of the message heap. The payload is
every byte of the block behind the header. -/
structure GbMessage where
  blk : ℕ
  header : GbOperationMsgHdr
  payload : List U8
  deriving DecidableEq

/-- `gb_message_payload_len` -/
def gbMessagePayloadLen (msg : GbMessage) : ℕ := gbHdrPayloadLen msg.header

/-- `gb_message_type` -/
def gbMessageType (msg : GbMessage) : U8 := msg.header.type

/-- A message whose header speaks for its payload. -/
def GbMessage.Sized (msg : GbMessage) : Prop := msg.header.size.toNat = msg.payload.length + 8

lemma GbMessage.Sized.payloadLen {msg : GbMessage} (h : msg.Sized) :
    gbMessagePayloadLen msg = msg.payload.length :=
  gbHdrPayloadLen_of_size h

/-- A message whose block holds the payload its header speaks of. -/
def GbMessage.Holds (msg : GbMessage) : Prop := gbMessagePayloadLen msg ≤ msg.payload.length

lemma GbMessage.Sized.holds {msg : GbMessage} (h : msg.Sized) : msg.Holds := h.payloadLen.le

/-- A message of a header only. -/
def bareRequest : GbMessage := ⟨0, ⟨8, 1, 0x01, 0, 0, 0⟩, []⟩

/-! ### Constants of the protocol -/

/-- `GB_OP_RESPONSE` -/
def GB_OP_RESPONSE : U8 := 0x80

end Cc1352Greybus
