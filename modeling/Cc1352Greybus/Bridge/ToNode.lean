import Cc1352Greybus.Greybus.Main
import Cc1352Greybus.Nodes.Removal

/-!
From the UART to a node: a Greybus frame of the AP, through the receiver, the
copy into a message and the routing table, onto a socket.

* `nodeInfWrite_sends`: a message written to an open socket.
* `hdlcProcessGreybusFrame_ends`: a frame handed to its cport.
* `reachesNode`: the bytes of the AP, on the node's socket.
-/

namespace Cc1352Greybus

open Effects

variable {cfg : Config} (env : Env)

/-- The block a Greybus message is sent in, by either side. -/
def messageBlock (cport : U16) (hdr : GbOperationMsgHdr) (payload : List U8) : Block :=
  ⟨ADDRESS_GREYBUS, 0x03, greybusFrame cport hdr payload⟩

lemma messageBlock_receivable (cport : U16) (hdr : GbOperationMsgHdr) {payload : List U8}
    (h : payload.length + 10 ≤ cfg.hdlcMaxBlockSize - 4) :
    (messageBlock cport hdr payload).Receivable cfg :=
  ⟨by simp [messageBlock], by simpa [messageBlock] using h⟩

/-! ### Onto the socket -/

/-- The AP cport `c` is connected to the cport `p` of the node at `q`, and the
node's socket is open. -/
structure ConnectedTo (s : Core cfg) (c : U16) (q : Ptr) (p : U16) : Prop where
  slot : ∃ i : Fin cfg.apMaxNodes, i.val = c.toNat ∧ (s.nodeApMap i).nodeIntf = some (.node q) ∧
    (s.nodeApMap i).nodeCport = p
  sock : 0 ≤ s.sockOf q

/-- A message for an open socket that takes bytes is sent whole, and given back. -/
lemma nodeInfWrite_sends {q : Ptr} {msg : GbMessage} (cport : U16) {s : Fw cfg} (hmsg : msg.Sized)
    (hsock : 0 ≤ s.core.sockOf q) (hsend : ∀ n, (env.zsockSend n).isSome) :
    ∃ sent s', SendsOn (s.core.sockOf q) sent ∧
      sentOn (s.core.sockOf q) sent = greybusFrame cport msg.header msg.payload ∧
      Ends (nodeInfWrite env q msg cport) s 0 s' ∧
      s'.io.trace = s.io.trace ++ .intfRead q :: (sent ++ [.dealloc msg.blk]) := by
  obtain ⟨sent, calls, hon, hframe, hwrite⟩ := gbMessageSend_sends env cport
    (⟨s.core, s.io.logged [.intfRead q]⟩ : Fw cfg) hmsg hsock hsend
  refine ⟨sent, ⟨s.core, ((s.io.logged [.intfRead q]).afterSends sent calls).logged
    [.dealloc msg.blk]⟩, hon, hframe, ?_, by simp [Io.afterSends]⟩
  rw [nodeInfWrite, (readIntf_ends q s).bind_iff, (Ends.getCore _).bind_iff]
  refine hwrite.bind ?_
  rw [if_neg (lt_irrefl 0), gbMessageDealloc]
  exact (Ends.liftIo (Ends.emit _ _)).bind (Ends.pure _ _)

/-! ### Off the UART -/

/-- A frame whose length and header agree is handed to the interface its cport is
connected to. -/
lemma hdlcProcessGreybusFrame_ends (c : U16) {hdr : GbOperationMsgHdr} {payload : List U8}
    (rest : List U8)
    {s : Fw cfg} (hsize : hdr.size.toNat = payload.length + 8)
    (halloc : env.heapAlloc s.io.heapCalls (8 + payload.length) = true) :
    ∃ msg, msg.Sized ∧ msg.header.fields = hdr.fields ∧ msg.payload = payload ∧
      ∀ s', Ends (connectionSendFromAp env c msg)
        ⟨s.core, s.io.afterAlloc [.alloc s.io.heapCalls]⟩ 0 s' →
        Ends (hdlcProcessGreybusFrame env (greybusFrame c hdr payload ++ rest)
          (payload.length + 10))
          s 0 s' := by
  -- what the parser finds in the frame: cport, header and payload
  have hbuf : greybusFrame c hdr payload ++ rest = le16 c ++ (hdr.bytes ++ (payload ++ rest)) := by
    simp [greybusFrame]
  have hcport : frameCport (greybusFrame c hdr payload ++ rest) = c := by
    rw [frameCport, hbuf, ofLe16_le16_append]
  have hhdr : frameHdr (greybusFrame c hdr payload ++ rest) = hdr := by
    rw [frameHdr, hbuf, List.drop_left' (le16_length c), GbOperationMsgHdr.ofBytes_bytes_append]
  have hpayload : ((greybusFrame c hdr payload ++ rest).drop 10).take payload.length = payload := by
    have hhead : (le16 c ++ hdr.bytes).length = 10 := rfl
    rw [hbuf, ← List.append_assoc, List.drop_left' hhead, List.take_left]
  have hroom : payload.length + 10 ≤ (greybusFrame c hdr payload ++ rest).length := by simp
  have hlt := hdr.size.isLt
  -- its size asks the heap for the block that is granted
  have hgrants : HeapGrants env s.io hdr.size.toNat := by
    rw [HeapGrants, hsize, Nat.add_comm]
    exact ⟨by omega, halloc⟩
  have htaken : Ends (greybusFrameMsg env (greybusFrame c hdr payload ++ rest)
      (payload.length + 10)) s.io _ _ :=
    greybusFrameMsg_taken (by rw [hhdr, hsize]) hroom (by rw [hhdr]; omega) (by rwa [hhdr])
  refine ⟨frameMsg env s.io.heapCalls (greybusFrame c hdr payload ++ rest) payload.length,
    frameMsg_sized (by rw [hhdr, hsize]) hroom, ?_, hpayload, fun s' hsend => ?_⟩
  · rw [frameMsg, hhdr]
    exact freshMessage_fields env s.io.heapCalls hsize
  · rw [hdlcProcessGreybusFrame_eq]
    refine (Ends.liftIo htaken).bind ?_
    rw [hcport]
    exact submitFrame_ends hsend

/-- A message for a connected cport is sent to its node. -/
lemma connectionSendFromAp_sends {c p : U16} {q : Ptr} {msg : GbMessage} {s : Fw cfg}
    (hconn : ConnectedTo s.core c q p) (hmsg : msg.Sized) (hsend : ∀ n, (env.zsockSend n).isSome) :
    ∃ sent s', SendsOn (s.core.sockOf q) sent ∧
      sentOn (s.core.sockOf q) sent = greybusFrame p msg.header msg.payload ∧
      Ends (connectionSendFromAp env c msg) s 0 s' ∧
      s'.io.trace = s.io.trace ++
        .connectionSend AP_INF_ID c msg :: .intfRead q :: (sent ++ [.dealloc msg.blk]) := by
  obtain ⟨⟨⟨i, hi⟩, rfl, hintf, rfl⟩, hsock⟩ := hconn
  obtain ⟨sent, s', hon, hsent, hend, htrace⟩ := nodeInfWrite_sends env
    (s.core.nodeApMap ⟨c.toNat, hi⟩).nodeCport
    (s := ⟨s.core, s.io.logged [.connectionSend AP_INF_ID c msg]⟩)
    hmsg hsock hsend
  refine ⟨sent, s', hon, hsent, ?_, by simp [htrace]⟩
  rw [connectionSendFromAp, (Ends.liftIo (Ends.emit _ s.io)).bind_iff, (Ends.getCore _).bind_iff]
  dsimp only
  rw [dif_pos hi, hintf]
  exact hend

/-! ### From end to end -/

/-- A message of the AP reaches a node: read by an idle receiver, it comes out of
the node's socket, and nothing comes out of another. -/
def ReachesNode (drv : HdlcDriver cfg) (sendSeq : U8) (s : Fw cfg) (c : U16)
    (hdr : GbOperationMsgHdr) (payload : List U8) (sock : ℤ) (p : U16) : Prop :=
  ∃ drv' s', Ends (uartInput env drv ((messageBlock c hdr payload).sent sendSeq)) s drv' s' ∧
    drv'.Idle ∧ (∃ hdr', hdr'.fields = hdr.fields ∧
      sentOn sock (newEvents s s') = greybusFrame p hdr' payload) ∧
    ∀ sock' ≠ sock, sentOn sock' (newEvents s s') = []

/-- **From the AP to a node**, every message that fits a block. -/
theorem reachesNode {drv : HdlcDriver cfg} (hidle : drv.Idle) (sendSeq : U8) {s : Fw cfg}
    {c p : U16}
    {q : Ptr} {hdr : GbOperationMsgHdr} {payload : List U8} (hconn : ConnectedTo s.core c q p)
    (hsend : ∀ n, (env.zsockSend n).isSome) (hsize : hdr.size.toNat = payload.length + 8)
    (hfits : payload.length + 10 ≤ cfg.hdlcMaxBlockSize - 4)
    (halloc : env.heapAlloc s.io.heapCalls (8 + payload.length) = true) :
    ReachesNode env drv sendSeq s c hdr payload (s.core.sockOf q) p := by
  obtain ⟨htold, hidle'⟩ := processBuffer_block hidle sendSeq (messageBlock_receivable c hdr hfits)
  -- one frame, which starts with the message
  obtain ⟨f, hf, hfold⟩ := List.map_eq_singleton_iff.mp htold
  obtain ⟨haddr, hlen, hpay⟩ : f.address = ADDRESS_GREYBUS ∧ f.len = payload.length + 10 ∧
      f.buffer.take f.len = greybusFrame c hdr payload := by
    simpa [RxFrame.told, RxFrame.payload, Block.told, messageBlock] using hfold
  obtain ⟨rest, hbuf⟩ : ∃ rest, f.buffer = greybusFrame c hdr payload ++ rest :=
    ⟨f.buffer.drop f.len, by rw [← hpay, List.take_append_drop]⟩
  obtain ⟨msg, hmsg, hfields, rfl, hframe⟩ :=
    hdlcProcessGreybusFrame_ends env c rest hsize halloc
  obtain ⟨sent, s', hon, hsent, hend, htrace⟩ := connectionSendFromAp_sends env
    (s := ⟨s.core, s.io.afterAlloc [.alloc s.io.heapCalls]⟩) hconn hmsg hsend
  have hevents : newEvents s s' = .alloc s.io.heapCalls :: .connectionSend AP_INF_ID c msg ::
      .intfRead q :: (sent ++ [.dealloc msg.blk]) := by
    simp [newEvents, htrace, Io.afterAlloc]
  have hsock : ∀ sock, sentOn sock (newEvents s s') = sentOn sock sent := by
    intro sock
    rw [hevents]
    simp [sentOn]
  refine ⟨_, s', ?_, hidle', ⟨msg.header, hfields, (hsock _).trans hsent⟩, fun sock' hne => ?_⟩
  · rw [uartInput_eq, hf, handleFrames, mainProcessCompleteFrame, if_pos haddr, hlen, hbuf]
    have hdone : Ends (handleFrames env []) s' () s' := Ends.pure _ _
    exact ((Ends.discard (hframe s' hend)).bind hdone).bind (Ends.pure _ _)
  · rw [hsock, hon.sentOn_eq_nil hne]

end Cc1352Greybus
