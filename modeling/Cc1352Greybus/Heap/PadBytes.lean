import Cc1352Greybus.Heap.Exhaustion
import Cc1352Greybus.Heap.StaleBytes

/-!
What the system depends on of what the heap held: the pad bytes, and nothing else.

A message's other bytes are written before anything reads them, so that two runs over
heaps of the same pad bytes are the same run.

* `gbMessageAlloc_bind_congr`: programs that make the same of a block make the same of
  an allocation.
* `greybusFrameMsg_withHeap`, `gbMessageReceive_withHeap`: a message is the same from a
  frame or a socket; so it is where it is built.
* `systemStep_withHeap`: so is every step of the system.
* `run_withHeap`: so is every run.
-/

namespace Cc1352Greybus

open Effects

variable {cfg : Config} {env : Env} {heap : ℕ → ℕ → U8}

/-- A heap whose blocks held what those of the environment did where the pad bytes are. -/
def Env.SamePads (env : Env) (heap : ℕ → ℕ → U8) : Prop :=
  ∀ blk, heap blk 6 = env.heapGarbage blk 6 ∧ heap blk 7 = env.heapGarbage blk 7

/-- What goes on alike from a block goes on alike from an allocation. -/
lemma gbMessageAlloc_bind_congr {α : Type} {k k' : Option GbMessage → IoM α}
    {payloadLen : ℕ} {messageType : U8} {operationId : U16} {status : U8} (hnone : k none = k' none)
    (hsome : ∀ blk size, size = (8 + payloadLen) % 2 ^ 32 →
      k (some (blockMessage (env.withHeap heap) blk size messageType operationId status)) =
        k' (some (blockMessage env blk size messageType operationId status))) :
    gbMessageAlloc (env.withHeap heap) payloadLen messageType operationId status >>= k =
      gbMessageAlloc env payloadLen messageType operationId status >>= k' := by
  rw [gbMessageAlloc, gbMessageAlloc, bind_assoc, bind_assoc]
  refine bind_congr fun blk => ?_
  cases blk with
  | none => simp only [pure_bind, hnone]
  | some blk =>
      dsimp only
      split_ifs with hsize
      · rfl
      · rw [pure_bind, pure_bind, hsome blk _ rfl]

lemma blockMessage_payload_length (env : Env) (blk size : ℕ) (messageType : U8)
    (operationId : U16) (status : U8) :
    (blockMessage env blk size messageType operationId status).payload.length = size - 8 := by
  simp [blockMessage]

/-- A payload that is long enough leaves nothing of what the block held. -/
lemma blockMessage_drop (env : Env) (blk : ℕ) {size k : ℕ} (messageType : U8) (operationId : U16)
    (status : U8) (h : size - 8 ≤ k) :
    (blockMessage env blk size messageType operationId status).payload.drop k = [] := by
  rw [List.drop_eq_nil_iff, blockMessage_payload_length]
  exact h

section SamePads

variable (hpads : env.SamePads heap)
include hpads

/-! ### Messages -/

/-- A message is the same once it has its payload. -/
lemma blockMessage_withHeap (blk size : ℕ) (messageType : U8) (operationId : U16) (status : U8)
    (payload : List U8) :
    { blockMessage (env.withHeap heap) blk size messageType operationId status with
        payload := payload } =
      { blockMessage env blk size messageType operationId status with payload := payload } := by
  simp [blockMessage, freshMessage, Env.withHeap, hpads blk]

/-- So it is when the payload is copied to it. -/
lemma fillPayload_withHeap {blk size : ℕ} {messageType : U8} {operationId : U16} {status : U8}
    {src : List U8} (hsize : size - 8 ≤ src.length) :
    fillPayload (blockMessage (env.withHeap heap) blk size messageType operationId status) src =
      fillPayload (blockMessage env blk size messageType operationId status) src := by
  rw [fillPayload, fillPayload, blockMessage_drop _ _ _ _ _ hsize,
    blockMessage_drop _ _ _ _ _ hsize, blockMessage_withHeap hpads, blockMessage_payload_length,
    blockMessage_payload_length]

/-- So it is when it is allocated for the payload. -/
lemma alloc_memcpy_withHeap (payload : List U8) (messageType : U8) (operationId : U16)
    (status : U8) :
    (do
      let msg ← gbMessageAlloc (env.withHeap heap) payload.length messageType operationId status
      memcpyPayload msg payload) = (do
      let msg ← gbMessageAlloc env payload.length messageType operationId status
      memcpyPayload msg payload) := by
  refine gbMessageAlloc_bind_congr rfl fun blk size hsize => ?_
  rw [memcpyPayload, memcpyPayload, fillPayload_withHeap hpads (by omega)]

lemma gbMessageRequestAlloc_withHeap (payload : List U8) (requestType : U8) (isOneshot : Bool) :
    gbMessageRequestAlloc (env.withHeap heap) payload requestType isOneshot =
      gbMessageRequestAlloc env payload requestType isOneshot := by
  cases isOneshot with
  | true => exact alloc_memcpy_withHeap hpads payload requestType 0 0
  | false =>
      exact bind_congr fun operationId =>
        alloc_memcpy_withHeap hpads payload requestType operationId 0

lemma gbMessageResponseAlloc_withHeap (payload : List U8) (requestType : U8) (operationId : U16)
    (status : U8) :
    gbMessageResponseAlloc (env.withHeap heap) payload requestType operationId status =
      gbMessageResponseAlloc env payload requestType operationId status :=
  alloc_memcpy_withHeap hpads payload (GB_OP_RESPONSE ||| requestType) operationId status

lemma greybusFrameMsg_withHeap (buffer : List U8) (bufferLen : ℕ) :
    greybusFrameMsg (env.withHeap heap) buffer bufferLen =
      greybusFrameMsg env buffer bufferLen := by
  rw [greybusFrameMsg, greybusFrameMsg]
  dsimp only
  split_ifs
  · rfl
  · rfl
  · rfl
  refine gbMessageAlloc_bind_congr rfl fun blk size hsize => ?_
  rw [gbMessageAlloc_size] at hsize
  subst hsize
  dsimp only
  rw [← hdrMessage, ← hdrMessage, hdrMessage_payloadLen, hdrMessage_payloadLen]
  split_ifs with hbuf
  · rfl
  · have hlen : (frameHdr buffer).size.toNat - 8 ≤ gbHdrPayloadLen (frameHdr buffer) := by
      have hlt := (frameHdr buffer).size.isLt
      rw [gbHdrPayloadLen]
      omega
    rw [hdrMessage, hdrMessage, fillPayload_withHeap hpads
      (by simp only [List.length_take, List.length_drop]; omega)]

lemma gbMessageReceive_withHeap (sock : ℤ) (flag : Bool) :
    gbMessageReceive (env.withHeap heap) sock flag = gbMessageReceive env sock flag := by
  rw [gbMessageReceive, gbMessageReceive]
  refine bind_congr fun c => ?_
  split_ifs
  · rfl
  refine bind_congr fun hd => ?_
  split_ifs
  · rfl
  refine gbMessageAlloc_bind_congr rfl fun blk size hsize => ?_
  rw [gbMessageAlloc_size] at hsize
  subst hsize
  dsimp only
  rw [← hdrMessage, ← hdrMessage, receivePayload, receivePayload, hdrMessage_payloadLen,
    hdrMessage_payloadLen, hdrMessage_payload_length, hdrMessage_payload_length]
  refine bind_congr_of_ends fun io p io' hp => ?_
  split_ifs with hshort
  · rfl
  have hplen := le_length_of_readData hp (not_not.mp hshort)
  rw [hdrMessage, hdrMessage, blockMessage_drop _ _ _ _ _ hplen, blockMessage_drop _ _ _ _ _ hplen,
    blockMessage_withHeap hpads]

/-! ### Requests and responses -/

lemma controlSendRequest_withHeap (payload : List U8) (requestType : U8) :
    (controlSendRequest (env.withHeap heap) payload requestType : FwM cfg ℤ) =
      controlSendRequest env payload requestType := by
  rw [controlSendRequest, controlSendRequest, gbMessageRequestAlloc_withHeap hpads]
  rfl

lemma respond_withHeap (id : U8) (cport : U16) (msg : GbMessage) (payload : List U8) (status : U8) :
    (respond (env.withHeap heap) id cport msg payload status : FwM cfg Unit) =
      respond env id cport msg payload status := by
  rw [respond, respond, gbMessageResponseAlloc_withHeap hpads]

lemma svcSendModuleRemoved_withHeap (intf : Ptr) :
    (svcSendModuleRemoved (env.withHeap heap) intf : FwM cfg ℤ) =
      svcSendModuleRemoved env intf := by
  simp only [svcSendModuleRemoved, controlSendRequest_withHeap hpads]
  rfl

lemma svcRequest_withHeap (req : SvcRequest) :
    (req.send (env.withHeap heap) : FwM cfg ℤ) = req.send env := by
  cases req with
  | version => exact controlSendRequest_withHeap hpads _ _
  | hello => exact controlSendRequest_withHeap hpads _ _
  | moduleInserted id => exact controlSendRequest_withHeap hpads _ _
  | moduleRemoved intf => exact svcSendModuleRemoved_withHeap hpads intf

/-! ### `connection_send` -/

lemma svcSendModuleRemovedBySock_withHeap (sock : ℤ) :
    (svcSendModuleRemovedBySock (env.withHeap heap) sock : FwM cfg Unit) =
      svcSendModuleRemovedBySock env sock := by
  simp only [svcSendModuleRemovedBySock, svcSendModuleRemoved_withHeap hpads]

lemma gbMessageSend_withHeap (sock : ℤ) (msg : GbMessage) (cport : U16) :
    (gbMessageSend (env.withHeap heap) sock msg cport : FwM cfg ℤ) =
      gbMessageSend env sock msg cport := by
  rw [gbMessageSend_eq, gbMessageSend_eq, gbMessageWrites_withHeap]
  refine bind_congr fun ret => ?_
  cases ret with
  | none => rfl
  | some ret => simp only [gbMessageSendFailed, svcSendModuleRemovedBySock_withHeap hpads]

lemma nodeInfWrite_withHeap (p : Ptr) (msg : GbMessage) (cport : U16) :
    (nodeInfWrite (env.withHeap heap) p msg cport : FwM cfg ℤ) = nodeInfWrite env p msg cport := by
  simp only [nodeInfWrite, gbMessageSend_withHeap hpads, svcSendModuleRemoved_withHeap hpads]

lemma svcReply_withHeap (msg : GbMessage) (answer : SvcReply) :
    (svcReply (env.withHeap heap) msg answer : FwM cfg Unit) = svcReply env msg answer := by
  cases answer with
  | nothing => rfl
  | hello => exact congrArg discard (controlSendRequest_withHeap hpads _ _)
  | response payload status => exact respond_withHeap hpads _ _ _ _ _

lemma svcInfWrite_withHeap (msg : GbMessage) (cport : U16) :
    (svcInfWrite (env.withHeap heap) msg cport : FwM cfg ℤ) = svcInfWrite env msg cport := by
  have hhandle : (gbHandleMsg (env.withHeap heap) msg : FwM cfg Unit) = gbHandleMsg env msg := by
    rw [gbHandleMsg_eq, gbHandleMsg_eq]
    exact bind_congr fun answer => svcReply_withHeap hpads msg answer
  rw [svcInfWrite, svcInfWrite, hhandle]

lemma localIntfWrite_withHeap (msg : GbMessage) (cport : U16) :
    (localIntfWrite (env.withHeap heap) msg cport : FwM cfg ℤ) = localIntfWrite env msg cport := by
  have hhandle : (controlProtocolHandle (env.withHeap heap) msg : FwM cfg Unit) =
      controlProtocolHandle env msg := by
    simp only [controlProtocolHandle_eq, responseHelper, respond_withHeap hpads]
  rw [localIntfWrite, localIntfWrite, hhandle]

lemma intfWrite_withHeap (intf : IntfPtr) (msg : GbMessage) (cport : U16) :
    (intfWrite (env.withHeap heap) intf msg cport : FwM cfg ℤ) = intfWrite env intf msg cport := by
  cases intf with
  | svc => exact svcInfWrite_withHeap hpads msg cport
  | localNode => exact localIntfWrite_withHeap hpads msg cport
  | node p => exact nodeInfWrite_withHeap hpads p msg cport

lemma connectionSend_withHeap (id : U8) (cport : U16) (msg : GbMessage) :
    (connectionSend (env.withHeap heap) id cport msg : FwM cfg ℤ) =
      connectionSend env id cport msg := by
  simp only [connectionSend, connectionSendFromAp, intfWrite_withHeap hpads]

/-! ### The system -/

lemma hdlcProcessGreybusFrame_withHeap (buffer : List U8) (bufferLen : ℕ) :
    (hdlcProcessGreybusFrame (env.withHeap heap) buffer bufferLen : FwM cfg ℤ) =
      hdlcProcessGreybusFrame env buffer bufferLen := by
  rw [hdlcProcessGreybusFrame_eq, hdlcProcessGreybusFrame_eq, greybusFrameMsg_withHeap hpads]
  refine bind_congr fun r => ?_
  cases r with
  | none => rfl
  | some r => simp only [submitFrame, connectionSend_withHeap hpads]

lemma nodeRxServe_withHeap (fd : ℤ) (r : Revents) (flag : Bool) :
    (nodeRxServe (env.withHeap heap) fd r flag : FwM cfg Bool) = nodeRxServe env fd r flag := by
  simp only [nodeRxServe, nodeRxReceiveAt, nodeRxHandle, svcSendModuleRemovedBySock_withHeap hpads,
    gbMessageReceive_withHeap hpads, svcSendModuleRemoved_withHeap hpads,
    connectionSend_withHeap hpads]

lemma nodeFilter_withHeap (active : List (BitVec 128)) :
    (nodeFilter (env.withHeap heap) active : FwM cfg Unit) = nodeFilter env active := by
  have hone : ∀ addr, (nodeFilterOne (env.withHeap heap) addr : FwM cfg Unit) =
      nodeFilterOne env addr := fun addr => by
    simp only [nodeFilterOne, svcSendModuleInserted, controlSendRequest_withHeap hpads]
    rfl
  induction active with
  | nil => rfl
  | cons addr active ih => rw [nodeFilter, nodeFilter, hone, ih]

omit hpads in
lemma nodeDestroyAll_withHeap (env : Env) (heap : ℕ → ℕ → U8) :
    (nodeDestroyAll (env.withHeap heap) : FwM cfg Unit) = nodeDestroyAll env := by
  have hloop : ∀ rounds i, (nodeDestroyAllLoop (env.withHeap heap) rounds i : FwM cfg Unit) =
      nodeDestroyAllLoop env rounds i := by
    intro rounds
    induction rounds with
    | zero => exact fun _ => rfl
    | succ rounds ih =>
        intro i
        simp only [nodeDestroyAllLoop, ih]
        rfl
  simp only [nodeDestroyAll, hloop]

lemma mainProcessCompleteFrame_withHeap (f : RxFrame) :
    (mainProcessCompleteFrame (env.withHeap heap) f : FwM cfg ℤ) =
      mainProcessCompleteFrame env f := by
  have hcontrol : (controlProcessFrame (env.withHeap heap) f.buffer f.len : FwM cfg ℤ) =
      controlProcessFrame env f.buffer f.len := by
    simp only [controlProcessFrame, svcSendVersion, controlSendRequest_withHeap hpads,
      nodeDestroyAll_withHeap]
    rfl
  rw [mainProcessCompleteFrame, mainProcessCompleteFrame, hdlcProcessGreybusFrame_withHeap hpads,
    hcontrol]

/-- **The pad bytes** are all that a step of the system depends on of what the blocks of the
heap held. -/
theorem systemStep_withHeap :
    (systemStep (env.withHeap heap) : Fw cfg → SystemOp → Fw cfg → Prop) = systemStep env := by
  funext s op s'
  cases op with
  | frame f => simp only [systemStep, mainProcessCompleteFrame_withHeap hpads]
  | serve fd r flag => simp only [systemStep, nodeRxServe_withHeap hpads]
  | filter active => simp only [systemStep, nodeFilter_withHeap hpads]
  | request req => simp only [systemStep, svcRequest_withHeap hpads]
  | outside => rfl

/-- **Two runs** over heaps of the same pad bytes do the same, to what they send. -/
theorem run_withHeap (s : Fw cfg) (l : List (RunStep (Fw cfg) SystemOp)) (s' : Fw cfg) :
    Run (systemStep (env.withHeap heap)) s l s' ↔ Run (systemStep env) s l s' := by
  rw [systemStep_withHeap hpads]

end SamePads

end Cc1352Greybus
