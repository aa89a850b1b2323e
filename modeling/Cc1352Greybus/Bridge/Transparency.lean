import Cc1352Greybus.Bridge.ToNode
import Cc1352Greybus.Nodes.RxLoop

/-!
The bridge from end to end, in both directions.

A message of the AP always reaches the node its cport is connected to. A message
of a node reaches the AP unless the receive loop still remembers a close: then
the node is reported removed in place of being heard.

* `uartBytes`: the bytes a stretch of the trace puts on the UART.
* `reachesAp_iff`: the way up.
* `transparent_iff`: both ways.
* `message_dropped`: a message that does not reach the AP.
-/

namespace Cc1352Greybus

open Effects PackedArray

variable {cfg : Config} (env : Env)

/-! ### The UART -/

/-- The bytes a stretch of the trace puts on the UART. -/
def uartBytes (sendSeq : U8) (tr : List Event) : List U8 := tr.flatMap fun
  | .hdlcBlock b => b.sent sendSeq
  | _ => []

lemma uartBytes_append (sendSeq : U8) (tr tr' : List Event) :
    uartBytes sendSeq (tr ++ tr') = uartBytes sendSeq tr ++ uartBytes sendSeq tr' :=
  List.flatMap_append

/-- The message heap is silent. -/
lemma uartBytes_heap (sendSeq : U8) {heap : List Event} (h : ∀ e ∈ heap, e.isHeap = true) :
    uartBytes sendSeq heap = [] := by
  rw [uartBytes, List.flatMap_eq_nil_iff]
  intro e he
  cases e with
  | hdlcBlock b => exact absurd (h _ he) Bool.false_ne_true
  | _ => rfl

/-- What comes after a receive is all a read puts on the UART. -/
lemma uartBytes_read (sendSeq : U8) {heap tail : List Event} (h : ∀ e ∈ heap, e.isHeap = true)
    (fd : ℤ) (rcv : Received) :
    uartBytes sendSeq (heap ++ .received fd rcv :: tail) = uartBytes sendSeq tail := by
  rw [uartBytes_append, uartBytes_heap sendSeq h, List.nil_append]
  rfl

/-- A report puts its request on the UART, where the SVC is connected. -/
lemma uartBytes_report (sendSeq : U8) {c : Core cfg} {p : Ptr} {tr : List Event}
    (h : Reports c p tr) : uartBytes sendSeq tr = [] ∨
      ∃ i msg, nodeToApCport c.nodeApMap SVC_INF_ID 0 = some i ∧
        IsRequest msg [(c.intfMem p).id] GB_SVC_TYPE_MODULE_REMOVED ∧
        uartBytes sendSeq tr =
          (messageBlock (BitVec.ofNat 16 i) msg.header msg.payload).sent sendSeq := by
  obtain ⟨msg, hmsg, rfl⟩ := h
  have hclose : uartBytes sendSeq (closeEvents (c.sockOf p)) = [] := by
    rw [closeEvents]
    split_ifs <;> rfl
  cases hlink : c.svcLink with
  | none => exact Or.inl (by simp [reportEvents, requestEvents, hlink, uartBytes])
  | some i =>
      refine Or.inr ⟨i, msg, hlink, hmsg, ?_⟩
      simp [reportEvents, requestEvents, hlink, destroyEvents, uartBytes,
        greybusBlock_of_sized _ hmsg.sized, messageBlock] at hclose ⊢

/-! ### From a node to the AP -/

/-- A node of the cache has sent a message on its cport `p`, and no other is found
at its socket. -/
structure Speaks (s : Fw cfg) (fd : ℤ) (e : NodeItem) (p : U16) (hdr : GbOperationMsgHdr)
    (payload : List U8) : Prop where
  found : ∃ i, nodeCacheFindBySock s.core.nodeCache fd = some (i, e)
  issued : INTERFACE_ID_START ≤ e.id.toNat
  sock : 0 ≤ fd
  stream : ∃ rest, streamBytes (s.io.rx fd) = greybusFrame p hdr payload ++ rest

/-- A message of a node reaches the AP: once the socket is served, a receiver that
was idle makes one frame of what is on the UART, the message under the AP's
cport. -/
def ReachesAp (drv : HdlcDriver cfg) (sendSeq : U8) (s : Fw cfg) (fd : ℤ) (r : Revents)
    (flag : Bool) (c : U16) (hdr : GbOperationMsgHdr) (payload : List U8) : Prop :=
  ∃ flag' s', Ends (nodeRxServe env fd r flag) s flag' s' ∧ ∃ hdr', hdr'.fields = hdr.fields ∧
    (hdlcProcessBuffer drv (uartBytes sendSeq (newEvents s s'))).2.map RxFrame.told =
      [(ADDRESS_GREYBUS, payload.length + 10, greybusFrame c hdr' payload)]

section ToAp

variable {drv : HdlcDriver cfg} {s : Fw cfg} {fd : ℤ} {e : NodeItem} {p : U16}
  {hdr : GbOperationMsgHdr} {payload : List U8} {r : Revents} {c : Fin cfg.apMaxNodes}

/-- A socket that is served and not broken is read. -/
lemma nodeRxServe_iff {i : ℕ} {flag flag' : Bool} {s' : Fw cfg} (hbad : ¬ r.Bad)
    (hin : r.pollin = true) (hfind : nodeCacheFindBySock s.core.nodeCache fd = some (i, e)) :
    Ends (nodeRxServe env fd r flag) s flag' s' ↔
      Ends (nodeRxReceive env fd e flag) s flag' s' := by
  rw [nodeRxServe_good hbad, if_pos hin, (Ends.getCore s).bind_iff, hfind]

/-- With the flag down, the message is passed on. -/
lemma reachesAp_of_flag (hidle : drv.Idle) (sendSeq : U8) (hspeaks : Speaks s fd e p hdr payload)
    (hbad : ¬ r.Bad) (hin : r.pollin = true) (hsize : hdr.size.toNat = payload.length + 8)
    (hfits : payload.length + 10 ≤ cfg.hdlcMaxBlockSize - 4)
    (halloc : env.heapAlloc s.io.heapCalls (8 + payload.length) = true)
    (hroute : nodeToApCport s.core.nodeApMap e.id p = some c) :
    ReachesAp env drv sendSeq s fd r false (BitVec.ofNat 16 c) hdr payload := by
  obtain ⟨⟨i, hfind⟩, hissued, hsock, rest, hstream⟩ := hspeaks
  have hid : e.id ≠ AP_INF_ID := by
    intro heq
    rw [heq] at hissued
    exact absurd hissued (by decide)
  -- the message is read whole, with the fields of its header
  obtain ⟨msg, rx', hfields, rfl, -, hrecv⟩ :=
    gbMessageReceive_full env hsock false hsize hstream halloc
  have hmsg : msg.Sized := (congrArg BitVec.toNat (Prod.mk.inj hfields).1).trans hsize
  have hfit : msg.FitsFrame cfg := ⟨by rw [hmsg.payloadLen]; omega, hmsg.holds⟩
  set io₁ := ((s.io.readFrom fd rx').afterAlloc [.alloc s.io.heapCalls]).logged
    [.received fd (.full p msg)] with hio₁
  -- it is sent on the AP cport of its node and cport
  have hsend : Ends (connectionSend env e.id p msg) ⟨s.core, io₁⟩ 0
      ⟨s.core, io₁.logged (sendEvents (some c) e.id p msg)⟩ := by
    rw [connectionSend, if_neg hid, ends_connectionSendToAp, hroute]
    exact ⟨fun _ => hfit, rfl, rfl⟩
  refine ⟨false, ⟨s.core, io₁.logged (sendEvents (some c) e.id p msg)⟩, ?_, msg.header, hfields, ?_⟩
  · rw [nodeRxServe_iff env hbad hin hfind]
    refine (Ends.liftIo hrecv).bind ?_
    exact (Ends.discard hsend).bind (Ends.pure _ _)
  -- what the UART sends is its block, which the receiver gives back
  · have huart :
        uartBytes sendSeq (newEvents s ⟨s.core, io₁.logged (sendEvents (some c) e.id p msg)⟩) =
        (messageBlock (BitVec.ofNat 16 c) msg.header msg.payload).sent sendSeq := by
      simp [newEvents, hio₁, Io.afterAlloc, Io.readFrom, uartBytes, sendEvents,
        greybusBlock_of_sized _ hmsg, messageBlock]
    rw [huart, (processBuffer_block hidle sendSeq (messageBlock_receivable _ _ hfits)).1]
    simp [Block.told, messageBlock]

/-- What a report makes of the UART is no message on another cport. -/
lemma not_told_report (hidle : drv.Idle) (sendSeq : U8) {i c : Fin cfg.apMaxNodes} (hne : i ≠ c)
    {req : GbMessage} {id : U8} (hreq : IsRequest req [id] GB_SVC_TYPE_MODULE_REMOVED)
    (hblock : 14 ≤ cfg.hdlcMaxBlockSize) {hdr' : GbOperationMsgHdr} {payload : List U8} :
    (hdlcProcessBuffer drv ((messageBlock (BitVec.ofNat 16 i) req.header req.payload).sent
      sendSeq)).2.map RxFrame.told ≠
        [(ADDRESS_GREYBUS, payload.length + 10,
          greybusFrame (BitVec.ofNat 16 c) hdr' payload)] := by
  have hlen : req.payload.length = 1 := by rw [hreq.payload]; rfl
  rcases Nat.eq_or_lt_of_le hblock with h14 | h15
  · -- a buffer of 14 bytes has no room for a report
    rw [processBuffer_overlong hidle sendSeq
      (by simp [messageBlock]) (by simp [messageBlock]; omega)]
    simp
  · rw [(processBuffer_block hidle sendSeq (messageBlock_receivable _ _ (by omega))).1]
    intro h
    have hframe : greybusFrame (BitVec.ofNat 16 i) req.header req.payload =
        greybusFrame (BitVec.ofNat 16 c) hdr' payload := by
      simpa [Block.told, messageBlock] using (Prod.mk.inj (Prod.mk.inj (List.cons.inj h).1).2).2
    exact hne (ofNat_apCport_inj (greybusFrame_cport_inj hframe))

/-- With the flag up, the node is reported instead. -/
lemma not_reachesAp_of_flag (hidle : drv.Idle) (sendSeq : U8)
    (hspeaks : Speaks s fd e p hdr payload) (hbad : ¬ r.Bad) (hin : r.pollin = true)
    (hfits : payload.length + 10 ≤ cfg.hdlcMaxBlockSize - 4)
    (hroute : nodeToApCport s.core.nodeApMap e.id p = some c) :
    ¬ ReachesAp env drv sendSeq s fd r true (BitVec.ofNat 16 c) hdr payload := by
  rintro ⟨flag', s', hserve, hdr', -, htold⟩
  obtain ⟨⟨i, hfind⟩, hissued, -, -⟩ := hspeaks
  have hid : e.id ≠ AP_INF_ID ∧ e.id ≠ SVC_INF_ID := by
    constructor
    · intro heq
      rw [heq] at hissued
      exact absurd hissued (by decide)
    · intro heq
      rw [heq] at hissued
      exact absurd hissued (by decide)
  rw [nodeRxServe_iff env hbad hin hfind] at hserve
  obtain ⟨rcv, heap, tail, hheap, hevents, hflag, hrest⟩ := nodeRxReceive_ends env hid.1 hserve
  rw [hevents, uartBytes_read sendSeq hheap] at htold
  rcases hrest with ⟨-, hrep, -⟩ | ⟨rfl, -, cport, msg, rfl, -, -⟩
  swap
  · cases hflag
  rcases uartBytes_report sendSeq hrep with hnone | ⟨j, req, hlink, hreq, hone⟩
  · simp [hnone] at htold
  · -- the SVC's slot is not the node's
    have hne : j ≠ c := by
      rintro rfl
      have hsvc := (nodeToApCport_eq_some_iff.mp hlink).1.1
      exact hid.2 ((nodeToApCport_eq_some_iff.mp hroute).1.1.symm.trans hsvc)
    rw [hone] at htold
    exact not_told_report hidle sendSeq hne hreq (by omega) htold

/-- **From a node to the AP**: a message gets through exactly with the flag down. -/
theorem reachesAp_iff (flag : Bool) (hidle : drv.Idle) (sendSeq : U8)
    (hspeaks : Speaks s fd e p hdr payload) (hbad : ¬ r.Bad) (hin : r.pollin = true)
    (hsize : hdr.size.toNat = payload.length + 8)
    (hfits : payload.length + 10 ≤ cfg.hdlcMaxBlockSize - 4)
    (halloc : env.heapAlloc s.io.heapCalls (8 + payload.length) = true)
    (hroute : nodeToApCport s.core.nodeApMap e.id p = some c) :
    ReachesAp env drv sendSeq s fd r flag (BitVec.ofNat 16 c) hdr payload ↔ flag = false := by
  cases flag with
  | false =>
      exact iff_of_true
        (reachesAp_of_flag env hidle sendSeq hspeaks hbad hin hsize hfits halloc hroute) rfl
  | true =>
      exact iff_of_false (not_reachesAp_of_flag env hidle sendSeq hspeaks hbad hin hfits hroute)
        Bool.noConfusion

end ToAp

/-! ### Both ways -/

/-- **The bridge** passes every message that fits a block to the node its AP cport
is connected to; a node's message it passes to the AP exactly when the receive
loop reads it with its flag down. -/
theorem transparent_iff {drv : HdlcDriver cfg} (hidle : drv.Idle) (sendSeq : U8) {s : Fw cfg}
    {hdr : GbOperationMsgHdr} {payload : List U8} (hsize : hdr.size.toNat = payload.length + 8)
    (hfits : payload.length + 10 ≤ cfg.hdlcMaxBlockSize - 4)
    (halloc : env.heapAlloc s.io.heapCalls (8 + payload.length) = true) :
    (∀ c q p, ConnectedTo s.core c q p → (∀ n, (env.zsockSend n).isSome) →
        ReachesNode env drv sendSeq s c hdr payload (s.core.sockOf q) p) ∧
      ∀ fd e p r flag (c : Fin cfg.apMaxNodes), Speaks s fd e p hdr payload → ¬ r.Bad →
        r.pollin = true → nodeToApCport s.core.nodeApMap e.id p = some c →
        (ReachesAp env drv sendSeq s fd r flag (BitVec.ofNat 16 c) hdr payload ↔ flag = false) :=
  ⟨fun _ _ _ hconn hsend => reachesNode env hidle sendSeq hconn hsend hsize hfits halloc,
    fun _ _ _ _ flag _ hspeaks hbad hin hroute =>
      reachesAp_iff env flag hidle sendSeq hspeaks hbad hin hsize hfits halloc hroute⟩

/-- The second of two nodes, at its socket. -/
def secondNode : NodeItem := ⟨1, 4, 2, .block 1⟩

lemma speaks_spoken : Speaks spoken 1 secondNode 0 bareRequest.header [] :=
  ⟨⟨1, by decide +kernel⟩, by decide, by decide, [], by decide +kernel⟩

/-- A message for the first of two nodes, and one of the second. -/
theorem transparent_iff_spoken :
    ReachesNode calmEnv (hdlcInit (zeroDriver .prjConf)) 0 spoken 1 bareRequest.header [] 0 0 ∧
      (ReachesAp calmEnv (hdlcInit (zeroDriver .prjConf)) 0 spoken 1 readable false 2
        bareRequest.header [] ↔ false = false) :=
  have hsize : bareRequest.header.size.toNat = ([] : List U8).length + 8 := rfl
  have h := transparent_iff calmEnv (idle_hdlcInit (zeroDriver .prjConf)) 0 (s := spoken) hsize
    (by decide) rfl
  have hsock : spoken.core.sockOf (.block 0) = 0 := by decide +kernel
  have hconn : ConnectedTo spoken.core 1 (.block 0) 0 :=
    ⟨⟨⟨1, by decide⟩, rfl, by decide +kernel, by decide +kernel⟩, by rw [hsock]⟩
  have hroute : nodeToApCport spoken.core.nodeApMap secondNode.id 0 =
      some (⟨2, by decide⟩ : Fin Config.prjConf.apMaxNodes) := by decide +kernel
  ⟨hsock ▸ h.1 1 (.block 0) 0 hconn fun _ => rfl,
    h.2 1 secondNode 0 readable false _ speaks_spoken (by decide) rfl hroute⟩

/-- The second node's message does not reach the AP once the first has closed. -/
theorem message_dropped :
    ¬ ∀ (s s' : RxLoop .prjConf) (l : List (RunStep (RxLoop .prjConf) RxOp)), s.flag = false →
      IdsIssued s.fw.core → Run (rxStep calmEnv) s l s' →
        ∀ fd r fds e (c : Fin Config.prjConf.apMaxNodes), s'.fds = (fd, r) :: fds → ¬ r.Bad →
          r.pollin = true → Speaks s'.fw fd e 0 bareRequest.header [] →
          nodeToApCport s'.fw.core.nodeApMap e.id 0 = some c →
          ReachesAp calmEnv (hdlcInit (zeroDriver .prjConf)) 0 s'.fw fd r s'.flag
            (BitVec.ofNat 16 c)
            bareRequest.header [] := by
  intro h
  have hspeaks : Speaks servedFirst 1 secondNode 0 bareRequest.header [] :=
    ⟨⟨0, by decide +kernel⟩, by decide, by decide, [], by decide +kernel⟩
  have hroute : nodeToApCport servedFirst.core.nodeApMap secondNode.id 0 =
      some (⟨2, by decide⟩ : Fin Config.prjConf.apMaxNodes) := by decide +kernel
  have hbad : ¬ readable.Bad := by decide
  have hrun := rx2_run
  rw [rx2] at hrun
  have hall := h _ _ _ rfl (by decide +kernel) hrun
  dsimp only at hall
  exact not_reachesAp_of_flag calmEnv (idle_hdlcInit (zeroDriver .prjConf)) 0 hspeaks hbad rfl
    (by decide) hroute (hall 1 readable [] secondNode _ rfl hbad rfl hspeaks hroute)

end Cc1352Greybus
