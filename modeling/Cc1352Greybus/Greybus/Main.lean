import Cc1352Greybus.Greybus.Handlers

/-!
From the UART to the interfaces: `connection_send` for a message of the AP, and
`src/main.c`.

* `connectionSend`: to the interface in the AP cport's slot, or to the AP.
* `hdlcProcessGreybusFrame`, `controlProcessFrame`: one frame.
* `mainProcessCompleteFrame_cases`, `hdlcProcessGreybusFrame_eq`, `greybusFrameMsg_cases`:
  what becomes of one.
* `uartInput`: bytes as they arrive, each frame handled when it is complete.
-/

namespace Cc1352Greybus

open Effects

variable {cfg : Config} (env : Env)

/-! ### `connection_send` -/

/-- `intf->write` -/
def intfWrite (intf : IntfPtr) (msg : GbMessage) (cportId : U16) : FwM cfg ℤ :=
  match intf with
  | .svc => svcInfWrite env msg cportId
  | .localNode => localIntfWrite env msg cportId
  | .node p => nodeInfWrite env p msg cportId

/-- `connection_send`, where `intf_id` is `AP_INF_ID`. Neither the cport nor the
interface in its slot is looked at before it is used. -/
def connectionSendFromAp (apCport : U16) (msg : GbMessage) : FwM cfg ℤ := do
  liftIo (emit (.connectionSend AP_INF_ID apCport msg))
  let c ← getCore
  if h : apCport.toNat < cfg.apMaxNodes then
    match (c.nodeApMap ⟨apCport.toNat, h⟩).nodeIntf with
    | none => throw .nullPointer
    | some intf => intfWrite env intf msg (c.nodeApMap ⟨apCport.toNat, h⟩).nodeCport
  else throw .outOfBounds

/-- `connection_send` -/
def connectionSend (intfId : U8) (intfCport : U16) (msg : GbMessage) : FwM cfg ℤ :=
  if intfId = AP_INF_ID then connectionSendFromAp env intfCport msg
  else connectionSendToAp intfId intfCport msg

/-! ### Frames -/

/-- `ADDRESS_DBG` -/
def ADDRESS_DBG : U8 := 0x02
/-- `ADDRESS_CONTROL` -/
def ADDRESS_CONTROL : U8 := 0x03

/-- `CONTROL_SVC_START` -/
def CONTROL_SVC_START : U8 := 0x01
/-- `CONTROL_SVC_STOP` -/
def CONTROL_SVC_STOP : U8 := 0x02

/-- `hdlc_process_greybus_frame`, given the bytes its buffer reaches and the
length it is told. The lengths are computed in `size_t`. -/
def hdlcProcessGreybusFrame (buffer : List U8) (bufferLen : ℕ) : FwM cfg ℤ := do
  let msgLen := (bufferLen + 2 ^ 32 - 2) % 2 ^ 32
  let cport := ofLe16 (buffer.getD 0 0) (buffer.getD 1 0)
  let hdr := GbOperationMsgHdr.ofBytes (buffer.drop 2)
  if buffer.length < 4 then throw .outOfBounds
  else if msgLen < hdr.size.toNat then return -1
  else if buffer.length < 8 then throw .outOfBounds
  else
    match ← liftIo
      (gbMessageAlloc env (gbHdrPayloadLen hdr) hdr.type hdr.operationId hdr.result) with
    | none => return -1
    | some msg =>
      let len := gbMessagePayloadLen msg
      if buffer.length < 10 + len then throw .outOfBounds
      else do
        let msg ← liftIo (fillPayload msg ((buffer.drop 10).take len))
        let ret ← connectionSend env AP_INF_ID cport msg
        if ret < 0 then return ret else return 0

/-- `control_process_frame` -/
def controlProcessFrame (buffer : List U8) (bufferLen : ℕ) : FwM cfg ℤ :=
  if bufferLen ≠ 1 then return -1
  else
    match buffer[0]? with
    | none => throw .outOfBounds
    | some command =>
      if command = CONTROL_SVC_START then do
        modifyCore fun c => { c with svcReady := true }
        let ret ← connectionCreate env AP_INF_ID 0 SVC_INF_ID 0
        if ret < 0 then return ret
        else do
          discard (svcSendVersion env)
          liftIo (emit (.tcpDiscovery true))
          return 0
      else if command = CONTROL_SVC_STOP then do
        liftIo (emit (.tcpDiscovery false))
        nodeDestroyAll env
        modifyCore fun c => { c with svcReady := false }
        modifyCore fun c => c.apbridgeDeinit
        return 0
      else return -1

/-- `hdlc_process_complete_frame` of `main.c`; a frame for the log is ignored. -/
def mainProcessCompleteFrame (f : RxFrame) : FwM cfg ℤ :=
  if f.address = ADDRESS_GREYBUS then hdlcProcessGreybusFrame env f.buffer f.len
  else if f.address = ADDRESS_CONTROL then controlProcessFrame env f.buffer f.len
  else if f.address = ADDRESS_DBG then return 0
  else return -1

/-- A frame is handled by its address, or left alone. -/
lemma mainProcessCompleteFrame_cases {f : RxFrame} {s s' : Fw cfg} {ret : ℤ}
    (h : Ends (mainProcessCompleteFrame env f) s ret s') :
    f.address = ADDRESS_GREYBUS ∧ Ends (hdlcProcessGreybusFrame env f.buffer f.len) s ret s' ∨
      f.address ≠ ADDRESS_GREYBUS ∧
        (f.address = ADDRESS_CONTROL ∧ Ends (controlProcessFrame env f.buffer f.len) s ret s' ∨
          f.address ≠ ADDRESS_CONTROL ∧ s' = s) := by
  rcases ends_ite.mp h with ⟨haddress, h⟩ | ⟨haddress, h⟩
  · exact Or.inl ⟨haddress, h⟩
  refine Or.inr ⟨haddress, ?_⟩
  rcases ends_ite.mp h with ⟨hcontrol, h⟩ | ⟨hcontrol, h⟩
  · exact Or.inl ⟨hcontrol, h⟩
  refine Or.inr ⟨hcontrol, ?_⟩
  rcases ends_ite.mp h with ⟨-, h⟩ | ⟨-, h⟩
  · exact (ends_pure.mp h).2.symm
  · exact (ends_pure.mp h).2.symm

/-! ### What becomes of a Greybus frame -/

/-- The cport a frame is for. -/
def frameCport (buffer : List U8) : U16 := ofLe16 (buffer.getD 0 0) (buffer.getD 1 0)

/-- The header of the message in a frame. -/
def frameHdr (buffer : List U8) : GbOperationMsgHdr := .ofBytes (buffer.drop 2)

/-- What `hdlc_process_greybus_frame` makes of a frame: a message for an AP cport,
if it makes one. -/
def greybusFrameMsg (buffer : List U8) (bufferLen : ℕ) : IoM (Option (U16 × GbMessage)) := do
  let msgLen := (bufferLen + 2 ^ 32 - 2) % 2 ^ 32
  let hdr := frameHdr buffer
  if buffer.length < 4 then throw .outOfBounds
  else if msgLen < hdr.size.toNat then return none
  else if buffer.length < 8 then throw .outOfBounds
  else
    match ← gbMessageAlloc env (gbHdrPayloadLen hdr) hdr.type hdr.operationId hdr.result with
    | none => return none
    | some msg =>
      let len := gbMessagePayloadLen msg
      if buffer.length < 10 + len then throw .outOfBounds
      else do
        let msg ← fillPayload msg ((buffer.drop 10).take len)
        return some (frameCport buffer, msg)

/-- What it does with that: it submits the message, or fails. -/
def submitFrame : Option (U16 × GbMessage) → FwM cfg ℤ
  | none => return -1
  | some (cport, msg) => do
    let ret ← connectionSend env AP_INF_ID cport msg
    if ret < 0 then return ret else return 0

/-- `hdlc_process_greybus_frame` does one after the other. -/
lemma hdlcProcessGreybusFrame_eq (buffer : List U8) (bufferLen : ℕ) :
    (hdlcProcessGreybusFrame env buffer bufferLen : FwM cfg ℤ) =
      liftIo (greybusFrameMsg env buffer bufferLen) >>= submitFrame env := by
  rw [hdlcProcessGreybusFrame, greybusFrameMsg, ← frameHdr]
  split_ifs
  · rfl
  · rfl
  · rfl
  · simp only [liftIo_bind, bind_assoc]
    congr 1
    funext m
    cases m with
    | none => rfl
    | some msg =>
        dsimp only
        split_ifs
        · rfl
        · simp only [liftIo_bind, bind_assoc, liftIo_pure, pure_bind]
          rfl

/-- The message copied from a frame. -/
def frameMsg (blk : ℕ) (buffer : List U8) (len : ℕ) : GbMessage :=
  { freshMessage env blk len (frameHdr buffer).type (frameHdr buffer).operationId
      (frameHdr buffer).result with payload := (buffer.drop 10).take len }

section frame

variable {env} {buffer : List U8} {n : ℕ} {io : Io}

/-- A size that is larger than the frame is refused. -/
lemma greybusFrameMsg_tooLarge (h4 : 4 ≤ buffer.length) (h2 : 2 ≤ n) (hn : n < 2 ^ 32)
    (h : n < (frameHdr buffer).size.toNat + 2) :
    Ends (greybusFrameMsg env buffer n) io none io := by
  rw [greybusFrameMsg, if_neg (by omega), if_pos (by omega)]
  exact Ends.pure _ _

/-- So is any size without a block. -/
lemma greybusFrameMsg_refused (h8 : 8 ≤ buffer.length)
    (h : (frameHdr buffer).size.toNat ≤ (n + 2 ^ 32 - 2) % 2 ^ 32)
    (hheap : ¬ HeapGrants env io (frameHdr buffer).size.toNat) :
    Ends (greybusFrameMsg env buffer n) io none (io.afterAlloc []) := by
  rw [greybusFrameMsg, if_neg (by omega), if_neg (not_lt.mpr h), if_neg (by omega)]
  exact (gbMessageAlloc_hdr_refused hheap).bind (Ends.pure _ _)

/-- A well sized one is copied. -/
lemma greybusFrameMsg_taken {len : ℕ} (hlen : (frameHdr buffer).size.toNat = len + 8)
    (hbuf : len + 10 ≤ buffer.length)
    (h : (frameHdr buffer).size.toNat ≤ (n + 2 ^ 32 - 2) % 2 ^ 32)
    (hheap : HeapGrants env io (frameHdr buffer).size.toNat) :
    Ends (greybusFrameMsg env buffer n) io
      (some (frameCport buffer, frameMsg env io.heapCalls buffer len))
      (io.afterAlloc [.alloc io.heapCalls]) := by
  have hmsglen := gbHdrPayloadLen_of_size hlen
  have hroom : ((buffer.drop 10).take len).length = (freshMessage env io.heapCalls len
      (frameHdr buffer).type (frameHdr buffer).operationId
        (frameHdr buffer).result).payload.length := by
    simp
    omega
  rw [greybusFrameMsg, if_neg (by omega), if_neg (not_lt.mpr h), if_neg (by omega)]
  refine (gbMessageAlloc_hdr_granted hheap (by omega)).bind ?_
  dsimp only
  rw [hdrMessage_payloadLen, hmsglen, if_neg (by omega), hdrMessage_of_size _ hlen]
  exact (fillPayload_ends hroom _).bind (Ends.pure _ _)

/-- One of less than a header is written out of bounds: the block is too small for the
fields, or the payload is to fill most of the address space. -/
lemma greybusFrameMsg_overruns (h8 : 8 ≤ buffer.length)
    (h : (frameHdr buffer).size.toNat ≤ (n + 2 ^ 32 - 2) % 2 ^ 32)
    (hheap : HeapGrants env io (frameHdr buffer).size.toNat)
    (hsmall : (frameHdr buffer).size.toNat < 8) :
    Stops (greybusFrameMsg env buffer n) io .outOfBounds := by
  rw [greybusFrameMsg, if_neg (by omega), if_neg (not_lt.mpr h), if_neg (by omega)]
  rcases lt_or_ge (frameHdr buffer).size.toNat 6 with h6 | h6
  · exact stops_bind.mpr (Or.inl (gbMessageAlloc_hdr_overruns hheap h6))
  rw [(gbMessageAlloc_hdr_granted hheap h6).stops_bind_iff]
  dsimp only
  rw [hdrMessage_payloadLen, gbHdrPayloadLen_of_lt hsmall]
  split_ifs with hbuf
  · exact stops_throw.mpr rfl
  · -- there is no room behind the header
    refine stops_bind.mpr (Or.inl ?_)
    rw [fillPayload, if_pos (by simp; omega)]
    exact stops_throw.mpr rfl

/-- Nothing else can become of it: no message, or one with the payload its header
speaks of. -/
lemma greybusFrameMsg_cases {io' : Io} {r : Option (U16 × GbMessage)}
    (h : Ends (greybusFrameMsg env buffer n) io r io') :
    r = none ∧ (io' = io ∨ io' = io.afterAlloc []) ∨
      ∃ len, (frameHdr buffer).size.toNat = len + 8 ∧ len + 10 ≤ buffer.length ∧
        (frameHdr buffer).size.toNat ≤ (n + 2 ^ 32 - 2) % 2 ^ 32 ∧
        r = some (frameCport buffer, frameMsg env io.heapCalls buffer len) ∧
        io' = io.afterAlloc [.alloc io.heapCalls] := by
  have hend := h
  rw [greybusFrameMsg] at h
  rcases ends_ite.mp h with ⟨-, h⟩ | ⟨h4, h⟩
  · exact (ends_throw.mp h).elim
  rcases ends_ite.mp h with ⟨-, h⟩ | ⟨hsize, h⟩
  · obtain ⟨rfl, rfl⟩ := ends_pure.mp h
    exact Or.inl ⟨rfl, Or.inl rfl⟩
  rcases ends_ite.mp h with ⟨-, h⟩ | ⟨h8, h⟩
  · exact (ends_throw.mp h).elim
  obtain ⟨m, io₁, halloc, h⟩ := ends_bind.mp h
  by_cases hheap : HeapGrants env io (frameHdr buffer).size.toNat
  swap
  · obtain ⟨rfl, rfl⟩ := (greybusFrameMsg_refused (by omega) (not_lt.mp hsize) hheap).unique hend
    exact Or.inl ⟨rfl, Or.inr rfl⟩
  rcases lt_or_ge (frameHdr buffer).size.toNat 8 with hsmall | hlarge
  · exact absurd (greybusFrameMsg_overruns (by omega) (not_lt.mp hsize) hheap hsmall)
      (hend.not_stops _)
  obtain ⟨len, hlen⟩ : ∃ len, (frameHdr buffer).size.toNat = len + 8 :=
    ⟨_, (Nat.sub_add_cancel hlarge).symm⟩
  obtain ⟨rfl, rfl⟩ := (gbMessageAlloc_hdr_granted hheap (by omega)).unique halloc
  dsimp only at h
  rw [hdrMessage_payloadLen, gbHdrPayloadLen_of_size hlen] at h
  rcases ends_ite.mp h with ⟨-, h⟩ | ⟨hbuf, h⟩
  · exact (ends_throw.mp h).elim
  obtain ⟨rfl, rfl⟩ :=
    (greybusFrameMsg_taken hlen (by omega) (not_lt.mp hsize) hheap).unique hend
  exact Or.inr ⟨len, hlen, by omega, not_lt.mp hsize, rfl, rfl⟩

/-- The message speaks for its payload. -/
lemma frameMsg_sized {blk len : ℕ} (hlen : (frameHdr buffer).size.toNat = len + 8)
    (hbuf : len + 10 ≤ buffer.length) : (frameMsg env blk buffer len).Sized := by
  have hlt := (frameHdr buffer).size.isLt
  simp only [GbMessage.Sized, frameMsg, freshMessage, BitVec.toNat_ofNat, List.length_take,
    List.length_drop]
  omega

/-- What is submitted is sent. -/
lemma submitFrame_ends {cport : U16} {msg : GbMessage} {s s' : Fw cfg} {ret : ℤ}
    (h : Ends (connectionSend env AP_INF_ID cport msg) s ret s') :
    Ends (submitFrame env (some (cport, msg))) s (if ret < 0 then ret else 0) s' := by
  refine h.bind ?_
  split_ifs
  · exact Ends.pure _ _
  · exact Ends.pure _ _

end frame

/-! ### Bytes -/

/-- `process_callback_frame_cb`, if a byte has completed a frame. -/
def frameCallback : Option RxFrame → FwM cfg Unit
  | none => return ()
  | some f => discard (mainProcessCompleteFrame env f)

/-- `hdlc_process_buffer`, with the callback in place. -/
def uartInput (drv : HdlcDriver cfg) : List U8 → FwM cfg (HdlcDriver cfg)
  | [] => return drv
  | b :: bs => do
    let r := hdlcRxInputByte drv b
    frameCallback env r.2
    uartInput r.1 bs

/-- The frames of a stream, one after the other. -/
def handleFrames : List RxFrame → FwM cfg Unit
  | [] => return ()
  | f :: fs => do
    discard (mainProcessCompleteFrame env f)
    handleFrames fs

/-- The callbacks leave the receiver alone, so the frames of a stream may as well
be handled once it is read. -/
lemma uartInput_eq (drv : HdlcDriver cfg) (bs : List U8) :
    uartInput env drv bs = (do
      handleFrames env (hdlcProcessBuffer drv bs).2
      return (hdlcProcessBuffer drv bs).1) := by
  induction bs generalizing drv with
  | nil => rfl
  | cons b bs ih =>
      simp only [uartInput, hdlcProcessBuffer, ih]
      cases (hdlcRxInputByte drv b).2 with
      | none => rfl
      | some f => simp [frameCallback, handleFrames]

end Cc1352Greybus
