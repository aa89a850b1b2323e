import Cc1352Greybus.Greybus.System
import Cc1352Greybus.Heap.Handlers
import Cc1352Greybus.Heap.Receive

/-!
Which events leak a message.

`connection_send` leaves a message it finds no slot for to its caller, and no
caller takes it back. The SVC does not take back a message for a cport it does
not know, nor the loop over the sockets one that comes in while its `flag` is
set.

* `noneLeaked_iff`: an event leaks nothing, whatever fails, exactly when no such
  message can come of it.
* `message_leaked`: a node's message for a cport the AP is not connected to.
-/

namespace Cc1352Greybus

open Effects PackedArray

variable {cfg : Config}

/-! ### Blocks in use -/

/-- The blocks of `greybus_messages_heap` in use. -/
def Io.inUse (io : Io) : ℤ := (allocs io.trace).length - (deallocs io.trace).length

/-- Every block allocated from one state to the other has been given back exactly
once, and as many are in use as before. -/
structure NoneLeaked (s s' : Fw cfg) : Prop where
  settled : Settled (newEvents s s')
  inUse : s'.io.inUse = s.io.inUse

lemma Io.inUse_eq_add {io io' : Io} {tr : List Event} (h : io'.trace = io.trace ++ tr) :
    io'.inUse = io.inUse + ((allocs tr).length - (deallocs tr).length) := by
  rw [inUse, inUse, h, allocs_append, deallocs_append, List.length_append, List.length_append]
  push_cast
  omega

lemma Tidy.inUse {io io' : Io} (h : Tidy io io') : io'.inUse = io.inUse := by
  obtain ⟨tr, n, htr, -, -, hperm⟩ := h
  rw [Io.inUse_eq_add htr, hperm.length_eq, sub_self, add_zero]

lemma Tidy.noneLeaked {s s' : Fw cfg} (h : Tidy s.io s'.io) : NoneLeaked s s' :=
  ⟨h.settled, h.inUse⟩

/-- A block that is allocated. -/
@[simp] lemma Io.inUse_afterAlloc (io : Io) (blk : ℕ) :
    (io.afterAlloc [.alloc blk]).inUse = io.inUse + 1 := by
  rw [Io.inUse_eq_add rfl]
  rfl

/-- A block that is given back. -/
lemma GivesBack.inUse {blk : ℕ} {io io' : Io} (h : GivesBack blk io io') :
    io'.inUse = io.inUse - 1 := by
  obtain ⟨io₁, htidy, htrace, -⟩ := h
  rw [Io.inUse_eq_add htrace, htidy.inUse]
  rfl

/-! ### What is left to itself -/

variable (env : Env)

/-- A message for the AP that no slot matches. -/
lemma leak_connectionSendToAp {id : U8} {cport : U16} (msg : GbMessage) {s : Fw cfg}
    (hlink : nodeToApCport s.core.nodeApMap id cport = none) :
    ∃ s', Ends (connectionSendToAp id cport msg) s (-EINVAL) s' ∧ s'.core = s.core ∧
      Tidy s.io s'.io := by
  refine ⟨⟨s.core, s.io.logged [.connectionSend id cport msg]⟩, ?_, rfl,
    .logged _ (by simp [Quiet, Event.isHeap])⟩
  rw [ends_connectionSendToAp, hlink]
  exact ⟨fun h => (by cases h), rfl, rfl⟩

/-- A request of the SVC without a connection. -/
lemma leak_controlSendRequest {payload : List U8} (requestType : U8) {s : Fw cfg}
    (hlen : payload.length + 8 < 2 ^ 32) (hlink : s.core.svcLink = none)
    (halloc : ∀ size, env.heapAlloc s.io.heapCalls size = true) :
    ∃ s', Ends (controlSendRequest env payload requestType) s (-EINVAL) s' ∧ s'.core = s.core ∧
      s'.io.inUse = s.io.inUse + 1 := by
  obtain ⟨opId, io₁, hid, htrace, hcalls⟩ : ∃ opId io₁, Ends newOperationId s.io opId io₁ ∧
      io₁.trace = s.io.trace ∧ io₁.heapCalls = s.io.heapCalls :=
    ⟨_, _, rfl, rfl, rfl⟩
  have hmsg := ends_alloc_memcpy env io₁ requestType opId 0 hlen (by rw [hcalls]; exact halloc _)
  obtain ⟨s', hsend, hcore, htidy⟩ := leak_connectionSendToAp _
    (s := ⟨s.core, io₁.afterAlloc [.alloc io₁.heapCalls]⟩) hlink
  refine ⟨s', (Ends.liftIo (hid.bind hmsg)).bind (hsend.bind ?_), hcore, ?_⟩
  · rw [if_pos (by decide)]
    exact Ends.pure _ _
  · rw [htidy.inUse, Io.inUse_afterAlloc, (Tidy.of_same htrace hcalls).inUse]

/-- A report that a node is gone, without a connection of the SVC. -/
lemma leak_svcSendModuleRemoved (p : Ptr) {s : Fw cfg} (hlink : s.core.svcLink = none)
    (halloc : ∀ size, env.heapAlloc s.io.heapCalls size = true) :
    ∃ s', Ends (svcSendModuleRemoved env p) s (-EINVAL) s' ∧ s'.core = s.core ∧
      s'.io.inUse = s.io.inUse + 1 := by
  have hquiet : Tidy s.io ((s.io.logged [.moduleRemoved p]).logged [.intfRead p]) := by
    rw [Io.logged_logged]
    exact .logged _ (by simp [Quiet, Event.isHeap])
  obtain ⟨s', hsend, hcore, hinUse⟩ := leak_controlSendRequest env GB_SVC_TYPE_MODULE_REMOVED
    (s := ⟨s.core, (s.io.logged [.moduleRemoved p]).logged [.intfRead p]⟩)
    (show [(s.core.intfMem p).id].length + 8 < 2 ^ 32 by simp) hlink halloc
  refine ⟨s', ?_, hcore, by rw [hinUse, hquiet.inUse]⟩
  refine (Ends.liftIo (Ends.emit _ s.io)).bind ((readIntf_ends p _).bind (hsend.bind ?_))
  rw [if_pos (by decide)]
  exact Ends.pure _ _

/-- A response that no slot matches. -/
lemma leak_respond {id : U8} {cport : U16} (msg : GbMessage) {payload : List U8} (status : U8)
    {s : Fw cfg} (hlen : payload.length + 8 < 2 ^ 32)
    (hlink : nodeToApCport s.core.nodeApMap id cport = none)
    (halloc : ∀ size, env.heapAlloc s.io.heapCalls size = true) :
    ∃ s', Ends (respond env id cport msg payload status) s () s' ∧
      s'.io.inUse = s.io.inUse + 1 := by
  have hresp := ends_alloc_memcpy env s.io (GB_OP_RESPONSE ||| gbMessageType msg)
    msg.header.operationId status hlen (halloc _)
  obtain ⟨s', hsend, -, htidy⟩ := leak_connectionSendToAp _
    (s := ⟨s.core, s.io.afterAlloc [.alloc s.io.heapCalls]⟩) hlink
  refine ⟨s', (Ends.liftIo hresp).bind hsend.discard, ?_⟩
  rw [htidy.inUse, Io.inUse_afterAlloc]

/-! ### A write that fails -/

/-- Where no socket takes anything, the first bytes of a message fail. -/
lemma writeData_deaf {data : List U8} (hne : data ≠ []) (sock : ℤ) (io : Io) :
    ∃ calls, Ends (writeData deafEnv sock data) io (-1) (io.afterSends [] calls) := by
  rcases zsockSend_ends deafEnv sock hne io with ⟨calls, hsend, -⟩ | ⟨n, calls, h0, -, hsend⟩
  · refine ⟨calls, ?_⟩
    obtain ⟨b, bs, rfl⟩ := List.exists_cons_of_ne_nil hne
    rw [writeData, List.length_cons, writeDataLoop, if_neg hne]
    refine hsend.bind ?_
    rw [if_pos (by decide)]
    exact Ends.pure _ _
  · -- it cannot have taken any
    rw [zsockSend, ends_modifyGet] at hsend
    split_ifs at hsend
    · obtain ⟨h, -⟩ := hsend
      omega
    · obtain ⟨h, -⟩ := hsend
      simp only [deafEnv] at h
      omega

/-- A message for a node that cannot be written, without a connection of the SVC:
it is given back, and a report of the node is not. -/
lemma leak_nodeInfWrite (q : Ptr) (msg : GbMessage) (cport : U16) {s : Fw cfg}
    (hlink : s.core.svcLink = none) :
    ∃ ret s', Ends (nodeInfWrite deafEnv q msg cport) s ret s' ∧ s.io.inUse ≤ s'.io.inUse := by
  have hread : Tidy s.io (s.io.logged [.intfRead q]) := .logged _ (by simp [Quiet, Event.isHeap])
  obtain ⟨calls, hwrite⟩ := writeData_deaf (show le16 cport ≠ [] by simp [le16]) (s.core.sockOf q)
    (s.io.logged [.intfRead q])
  have hsent : Tidy s.io ((s.io.logged [.intfRead q]).afterSends [] calls) :=
    hread.trans (.of_quiet rfl rfl (by simp [Quiet]))
  -- the report of the node the socket is found at, if it is found
  obtain ⟨s₁, hfirst, hlink₁, hinUse₁⟩ :
      ∃ s₁, Ends (svcSendModuleRemovedBySock deafEnv (s.core.sockOf q))
      (⟨s.core, (s.io.logged [.intfRead q]).afterSends [] calls⟩ : Fw cfg) () s₁ ∧
      s₁.core.svcLink = none ∧ s.io.inUse ≤ s₁.io.inUse := by
    cases hfind : nodeCacheFindBySock s.core.nodeCache (s.core.sockOf q) with
    | none =>
        exact ⟨⟨s.core, (s.io.logged [.intfRead q]).afterSends [] calls⟩,
          ends_svcSendModuleRemovedBySock.mpr (Or.inl ⟨hfind, rfl⟩), hlink, hsent.inUse.ge⟩
    | some r =>
        obtain ⟨s₁, hrem, hcore, hinUse⟩ := leak_svcSendModuleRemoved deafEnv r.2.inf
          (s := ⟨s.core, (s.io.logged [.intfRead q]).afterSends [] calls⟩) hlink fun _ => rfl
        refine ⟨s₁, ends_svcSendModuleRemovedBySock.mpr (Or.inr ⟨r.1, r.2, _, hfind, hrem⟩),
          by rw [hcore]; exact hlink, ?_⟩
        rw [hinUse, hsent.inUse]
        omega
  obtain ⟨s₂, hrem, -, hinUse₂⟩ := leak_svcSendModuleRemoved deafEnv q hlink₁ fun _ => rfl
  refine ⟨-1, ⟨s₂.core, s₂.io.logged [.dealloc msg.blk]⟩, ?_, ?_⟩
  · rw [nodeInfWrite]
    refine (readIntf_ends q s).bind ((Ends.getCore _).bind ?_)
    have hsend : Ends (gbMessageSend deafEnv (s.core.sockOf q) msg cport)
        ⟨s.core, s.io.logged [.intfRead q]⟩ (-1) s₁ := by
      rw [gbMessageSend]
      refine (Ends.liftIo hwrite).bind ?_
      rw [if_pos (by decide)]
      exact (ends_gbMessageSendFailed deafEnv).mpr ⟨rfl, hfirst⟩
    refine hsend.bind ?_
    rw [if_pos (by decide)]
    exact hrem.discard.bind ((Ends.liftIo (Ends.emit _ _)).bind (Ends.pure _ _))
  · have hback : GivesBack msg.blk s₂.io (s₂.io.logged [.dealloc msg.blk]) :=
      ⟨s₂.io, refl_of Tidy _, rfl, rfl⟩
    rw [hback.inUse]
    omega

/-! ### Frames of the AP -/

/-- A frame becomes a message, if there is a block for it: its header speaks of a
message, which the frame holds and the buffer has. -/
structure FrameTaken (buffer : List U8) (bufferLen : ℕ) : Prop where
  hdr_le : 8 ≤ (frameHdr buffer).size.toNat
  size_le : (frameHdr buffer).size.toNat ≤ (bufferLen + 2 ^ 32 - 2) % 2 ^ 32
  le_buffer : (frameHdr buffer).size.toNat + 2 ≤ buffer.length

/-- A frame is refused, or it is handed to its cport as a message. -/
lemma hdlcProcessGreybusFrame_cases {buffer : List U8} {bufferLen : ℕ} {s s' : Fw cfg} {ret : ℤ}
    (h : Ends (hdlcProcessGreybusFrame env buffer bufferLen) s ret s') :
    Tidy s.io s'.io ∨ FrameTaken buffer bufferLen ∧ ∃ msg ret', msg.blk = s.io.heapCalls ∧
      Ends (connectionSend env AP_INF_ID (frameCport buffer) msg)
        ⟨s.core, s.io.afterAlloc [.alloc s.io.heapCalls]⟩ ret' s' := by
  rw [hdlcProcessGreybusFrame_eq] at h
  obtain ⟨r, s₁, h₁, h⟩ := ends_bind.mp h
  obtain ⟨io₁, hmsg, rfl⟩ := ends_liftIo.mp h₁
  rcases greybusFrameMsg_cases hmsg with ⟨rfl, hio⟩ | ⟨len, hlen, hbuf, hle, rfl, rfl⟩
  · obtain ⟨-, rfl⟩ := ends_pure.mp h
    rcases hio with rfl | rfl
    · exact Or.inl (refl_of Tidy _)
    · exact Or.inl (.refused _)
  · obtain ⟨ret', s₂, hsend, h⟩ := ends_bind.mp h
    obtain rfl : s₂ = s' := by
      rcases ends_ite.mp h with ⟨-, h⟩ | ⟨-, h⟩
      · exact (ends_pure.mp h).2
      · exact (ends_pure.mp h).2
    exact Or.inr ⟨⟨by omega, hle, by omega⟩, _, ret', rfl, hsend⟩

/-- A frame that becomes a message is handed on. -/
lemma hdlcProcessGreybusFrame_taken {buffer : List U8} {bufferLen : ℕ}
    (h : FrameTaken buffer bufferLen)
    {s : Fw cfg} (halloc : ∀ size, env.heapAlloc s.io.heapCalls size = true) :
    ∃ msg, msg.blk = s.io.heapCalls ∧ ∀ ret s',
      Ends (connectionSend env AP_INF_ID (frameCport buffer) msg)
      ⟨s.core, s.io.afterAlloc [.alloc s.io.heapCalls]⟩ ret s' →
        Ends (discard (hdlcProcessGreybusFrame env buffer bufferLen)) s () s' := by
  obtain ⟨h8, hsize, hbuf⟩ := h
  obtain ⟨len, hlen⟩ : ∃ len, (frameHdr buffer).size.toNat = len + 8 :=
    ⟨_, (Nat.sub_add_cancel h8).symm⟩
  have htaken := greybusFrameMsg_taken hlen (by omega) hsize ⟨by omega, halloc _⟩
  refine ⟨frameMsg env s.io.heapCalls buffer len, rfl, fun ret s' hsend => ?_⟩
  refine ends_discard.mpr ⟨if ret < 0 then ret else 0, ?_⟩
  rw [hdlcProcessGreybusFrame_eq]
  exact (Ends.liftIo htaken).bind (submitFrame_ends hsend)

/-- A message of the AP goes to the interface in the slot of its cport. -/
lemma ends_connectionSend_ap {apCport : U16} {msg : GbMessage} {s s' : Fw cfg} {ret : ℤ} :
    Ends (connectionSend env AP_INF_ID apCport msg) s ret s' ↔
      ∃ (i : Fin cfg.apMaxNodes) (intf : IntfPtr), i.val = apCport.toNat ∧
        (s.core.nodeApMap i).nodeIntf = some intf ∧
        Ends (intfWrite env intf msg (s.core.nodeApMap i).nodeCport)
          ⟨s.core, s.io.logged [.connectionSend AP_INF_ID apCport msg]⟩ ret s' := by
  rw [Ends, connectionSend_ap_run]
  constructor
  · intro h
    split_ifs at h with hlt
    · cases hintf : (s.core.nodeApMap ⟨apCport.toNat, hlt⟩).nodeIntf with
      | none =>
          rw [hintf] at h
          exact (ends_throw.mp h).elim
      | some intf =>
          rw [hintf] at h
          exact ⟨_, intf, rfl, hintf, h⟩
    · exact (ends_throw.mp h).elim
  · rintro ⟨⟨i, hlt⟩, intf, rfl, hintf, h⟩
    rw [dif_pos hlt, hintf]
    exact h

/-- A slot whose interface gives back what it is handed, whatever fails. -/
def TakesBack (c : Core cfg) (item : NodeApItem) : Prop :=
  match item.nodeIntf with
  | none => True
  | some .svc => item.nodeCport = 0
  | some .localNode => True
  | some (.node _) => c.svcLink.isSome

/-- A message of the AP is given back, if its slot's interface does so. -/
lemma givesBack_connectionSend_ap {apCport : U16} {msg : GbMessage} {s s' : Fw cfg} {ret : ℤ}
    (hnames : NamesRight s.core)
    (htakes : ∀ i : Fin cfg.apMaxNodes, i.val = apCport.toNat →
      TakesBack s.core (s.core.nodeApMap i))
    (h : Ends (connectionSend env AP_INF_ID apCport msg) s ret s') :
    GivesBack msg.blk s.io s'.io := by
  obtain ⟨i, intf, hi, hintf, hwrite⟩ := (ends_connectionSend_ap env).mp h
  have htake := htakes i hi
  rw [TakesBack, hintf] at htake
  have hlogged : Tidy s.io (s.io.logged [.connectionSend AP_INF_ID apCport msg]) :=
    .logged _ (by simp [Quiet, Event.isHeap])
  refine .after hlogged ?_
  cases intf with
  | svc =>
      rw [show (s.core.nodeApMap i).nodeCport = 0 from htake] at hwrite
      exact givesBack_svcInfWrite env (s := ⟨s.core, _⟩)
        ⟨i, by rw [hintf]; rfl, hnames.svc i hintf, htake⟩ hwrite
  | localNode =>
      exact givesBack_localIntfWrite env (s := ⟨s.core, _⟩)
        ⟨i, by rw [hintf]; rfl, hnames.localNode i hintf, rfl⟩ hwrite
  | node p => exact givesBack_nodeInfWrite env (s := ⟨s.core, _⟩) htake hwrite

/-- Else a message of the AP may be left to itself. -/
lemma leak_connectionSend_ap {apCport : U16} {s : Fw cfg} {i : Fin cfg.apMaxNodes}
    (hi : i.val = apCport.toNat) (htake : ¬ TakesBack s.core (s.core.nodeApMap i))
    (msg : GbMessage) :
    ∃ ret s', Ends (connectionSend deafEnv AP_INF_ID apCport msg) s ret s' ∧
      s.io.inUse ≤ s'.io.inUse := by
  have hquiet : Tidy s.io (s.io.logged [.connectionSend AP_INF_ID apCport msg]) :=
    .logged _ (by simp [Quiet, Event.isHeap])
  obtain ⟨intf, hintf⟩ : ∃ intf, (s.core.nodeApMap i).nodeIntf = some intf := by
    cases hintf : (s.core.nodeApMap i).nodeIntf with
    | none =>
        rw [TakesBack, hintf] at htake
        exact absurd trivial htake
    | some intf => exact ⟨intf, rfl⟩
  have hends : ∀ {ret s'}, Ends (intfWrite deafEnv intf msg (s.core.nodeApMap i).nodeCport)
      ⟨s.core, s.io.logged [.connectionSend AP_INF_ID apCport msg]⟩ ret s' →
        Ends (connectionSend deafEnv AP_INF_ID apCport msg) s ret s' :=
    fun h => (ends_connectionSend_ap deafEnv).mpr ⟨i, intf, hi, hintf, h⟩
  rw [TakesBack, hintf] at htake
  cases intf with
  | svc =>
      refine ⟨-1, ⟨s.core, s.io.logged [.connectionSend AP_INF_ID apCport msg]⟩, hends ?_,
        hquiet.inUse.ge⟩
      rw [intfWrite, svcInfWrite, if_pos htake]
      exact Ends.pure _ _
  | localNode => exact absurd trivial htake
  | node p =>
      obtain ⟨ret, s', hwrite, hle⟩ := leak_nodeInfWrite p msg (s.core.nodeApMap i).nodeCport
        (s := ⟨s.core, s.io.logged [.connectionSend AP_INF_ID apCport msg]⟩)
        (Option.not_isSome_iff_eq_none.mp htake)
      exact ⟨ret, s', hends hwrite, hquiet.inUse.ge.trans hle⟩

/-! ### Sockets -/

/-- A report that reaches the AP fits a frame. -/
lemma le_block_of_svcSendModuleRemoved {p : Ptr} {s s' : Fw cfg} {ret : ℤ}
    (hlink : s.core.svcLink.isSome) (h : Ends (svcSendModuleRemoved env p) s ret s') :
    11 ≤ cfg.hdlcMaxBlockSize := by
  rw [svcSendModuleRemoved, (Ends.liftIo (Ends.emit _ s.io)).bind_iff,
    (readIntf_ends p _).bind_iff] at h
  obtain ⟨r, s₁, h₁, -⟩ := ends_bind.mp h
  obtain ⟨m, s₂, h₂, h₁⟩ := ends_bind.mp h₁
  obtain ⟨io₁, halloc, rfl⟩ := ends_liftIo.mp h₂
  obtain ⟨msg, rfl, hmsg, -⟩ := gbMessageRequestAlloc_ends env (by simp) (by simp) halloc
  dsimp only at h₁
  obtain ⟨r, s₃, h₃, -⟩ := ends_bind.mp h₁
  obtain ⟨hfit, -⟩ := ends_connectionSendToAp.mp h₃
  have hroom := (hfit hlink).1
  rw [hmsg.sized.payloadLen, hmsg.payload] at hroom
  simpa using hroom

/-- One that fits comes to its end. -/
lemma exists_svcSendModuleRemoved (p : Ptr) {s : Fw cfg} (hlink : s.core.svcLink.isSome)
    (hroom : 11 ≤ cfg.hdlcMaxBlockSize)
    (halloc : ∀ size, env.heapAlloc s.io.heapCalls size = true) :
    ∃ ret s', Ends (svcSendModuleRemoved env p) s ret s' := by
  let id := (s.core.intfMem p).id
  let io : Io := (s.io.logged [.moduleRemoved p]).logged [.intfRead p]
  -- the parts of the call: its id, the message, the send, the read of its id, the destruction
  obtain ⟨opId, io₁, hid, hcalls⟩ : ∃ opId io₁, Ends newOperationId io opId io₁ ∧
      io₁.heapCalls = s.io.heapCalls := ⟨_, _, rfl, rfl⟩
  obtain ⟨msg, hreq⟩ :
      ∃ msg, Ends (gbMessageRequestAlloc env [id] GB_SVC_TYPE_MODULE_REMOVED false) io
      (some msg) (io₁.afterAlloc [.alloc io₁.heapCalls]) :=
    ⟨_, hid.bind (ends_alloc_memcpy env io₁ _ opId 0 (by simp) (by rw [hcalls]; exact halloc _))⟩
  obtain ⟨msg', heq, hbuilt, -⟩ := gbMessageRequestAlloc_ends env (by simp) (by simp) hreq
  obtain rfl : msg = msg' := Option.some.inj heq
  have hfit : msg.FitsFrame cfg := by
    refine ⟨?_, hbuilt.sized.holds⟩
    rw [hbuilt.sized.payloadLen, hbuilt.payload]
    simpa using hroom
  obtain ⟨s₁, hsend⟩ : ∃ s₁, Ends (connectionSendToAp SVC_INF_ID 0 msg)
      (⟨s.core, io₁.afterAlloc [.alloc io₁.heapCalls]⟩ : Fw cfg) 0 s₁ :=
    ⟨_, ends_connectionSendToAp.mpr ⟨fun _ => hfit, (if_pos hlink).symm, rfl⟩⟩
  obtain ⟨s₂, hread⟩ : ∃ s₂, Ends (liftIo (emit (.msgRead msg.blk))) s₁ () s₂ :=
    ⟨_, Ends.liftIo (Ends.emit _ _)⟩
  obtain ⟨s₃, hdestroy⟩ : ∃ s₃, Ends (nodeDestroyInterface env (some p)) s₂ () s₃ :=
    ⟨_, nodeDestroyInterface_ends env p s₂⟩
  have hctrl : Ends (controlSendRequest env [id] GB_SVC_TYPE_MODULE_REMOVED) (⟨s.core, io⟩ : Fw cfg)
      (env.freedOperationId msg.blk).toNat s₂ := by
    refine (Ends.liftIo hreq).bind (hsend.bind ?_)
    rw [if_neg (lt_irrefl 0)]
    exact hread.bind (Ends.pure _ _)
  refine ⟨(env.freedOperationId msg.blk).toNat, s₃, (Ends.liftIo (Ends.emit _ s.io)).bind
    ((readIntf_ends p _).bind (hctrl.bind ?_))⟩
  rw [if_neg (by omega)]
  exact hdestroy.bind (Ends.pure _ _)

/-- What is read from a node's socket leaves nothing behind, whatever fails: a
report that nothing could be read reaches the AP, and so does a message, or the
report that takes its place cannot be made. -/
structure ReadTakesBack (s : Fw cfg) (fd : ℤ) (flag : Bool) (e : NodeItem) : Prop where
  report : Awaits s.io fd 10 → s.core.svcLink.isSome
  message : ∀ cport, 0 ≤ fd → MayReturn (s.io.rx fd) cport →
    if flag = true then cfg.hdlcMaxBlockSize < 11
    else (nodeToApCport s.core.nodeApMap e.id cport).isSome

lemma tidy_nodeRxReceive {fd : ℤ} {e : NodeItem} {flag flag' : Bool} {s s' : Fw cfg}
    (hid : e.id ≠ AP_INF_ID) (htakes : ReadTakesBack s fd flag e)
    (h : Ends (nodeRxReceive env fd e flag) s flag' s') : Tidy s.io s'.io := by
  rw [nodeRxReceive] at h
  obtain ⟨m, s₁, h₁, h⟩ := ends_bind.mp h
  obtain ⟨io₁, hrecv, rfl⟩ := ends_liftIo.mp h₁
  have hlink := htakes.report (awaits_of_gbMessageReceive env hrecv)
  have hreport : ∀ {b : Bool}, Ends (do discard (svcSendModuleRemoved env e.inf); return b)
      (⟨s.core, io₁⟩ : Fw cfg) flag' s' →
      (∃ ret, Ends (svcSendModuleRemoved env e.inf) (⟨s.core, io₁⟩ : Fw cfg) ret s') ∧
        Tidy io₁ s'.io := by
    intro b h
    obtain ⟨_, s₂, h₂, h⟩ := ends_bind.mp h
    obtain ⟨-, rfl⟩ := ends_pure.mp h
    obtain ⟨ret, hrem⟩ := ends_discard.mp h₂
    exact ⟨⟨ret, hrem⟩, (tidy_svcSendModuleRemoved env (s := ⟨s.core, io₁⟩) hlink hrem).1⟩
  rw [nodeRxHandle] at h
  rcases gbMessageReceive_tidy env hrecv with
    ⟨hnone, htidy⟩ | ⟨cport, msg, hdr, rfl, hblk, -, hfd, hmay, htidy⟩
  · rw [hnone] at h
    rcases ends_ite.mp h with ⟨-, h⟩ | ⟨-, h⟩
    · exact htidy.trans (hreport h).2
    · exact htidy.trans (hreport h).2
  · have hmsg := htakes.message cport hfd
      (hmay.imp (fun hwhole => ⟨hdr, msg.payload, _, hwhole⟩) fun hcut => ⟨hdr, hcut.2⟩)
    dsimp only at h
    rcases ends_ite.mp h with ⟨hflag, h⟩ | ⟨hflag, h⟩
    · -- a report would have to fit a frame
      rw [if_pos hflag] at hmsg
      obtain ⟨ret, hrem⟩ := (hreport h).1
      have := le_block_of_svcSendModuleRemoved env (s := ⟨s.core, io₁⟩) hlink hrem
      omega
    · rw [if_neg hflag] at hmsg
      obtain ⟨_, s₂, h₂, h⟩ := ends_bind.mp h
      obtain ⟨-, rfl⟩ := ends_pure.mp h
      obtain ⟨ret, hsend⟩ := ends_discard.mp h₂
      rw [connectionSend, if_neg hid] at hsend
      have hback := (givesBack_connectionSendToAp (s := ⟨s.core, io₁⟩) hmsg hsend).2
      rw [hblk] at hback
      exact .of_givesBack (hback.after htidy)

/-- Where the SVC has no connection, the report that nothing could be read is left to
itself. -/
lemma leak_nodeRxReceive_report {fd : ℤ} (e : NodeItem) (flag : Bool) {s : Fw cfg}
    (hawaits : Awaits s.io fd 10) (hlink : s.core.svcLink = none) :
    ∃ env flag' s', Ends (nodeRxReceive env fd e flag) s flag' s' ∧ s.io.inUse < s'.io.inUse := by
  obtain ⟨env, b, io', halloc, hrecv⟩ := gbMessageReceive_awaits flag hawaits
  have htidy : Tidy s.io io' := by
    rcases gbMessageReceive_tidy env hrecv with ⟨-, htidy⟩ | ⟨cport, msg, hdr, heq, -⟩
    · exact htidy
    · cases (Prod.mk.inj heq).1
  obtain ⟨s', hrem, -, hinUse⟩ :=
    leak_svcSendModuleRemoved env e.inf (s := ⟨s.core, io'⟩) hlink halloc
  refine ⟨env, b, s', (Ends.liftIo hrecv).bind ?_, ?_⟩
  · rw [nodeRxHandle]
    split_ifs
    · exact hrem.discard.bind (Ends.pure _ _)
    · exact hrem.discard.bind (Ends.pure _ _)
  · rw [hinUse, htidy.inUse]
    omega

/-- A message is left to itself if it is not passed on, or passed on to no slot. -/
lemma leak_nodeRxReceive_message {fd : ℤ} {e : NodeItem} {flag : Bool} {s : Fw cfg} {cport : U16}
    (hid : e.id ≠ AP_INF_ID) (hfd : 0 ≤ fd) (hmay : MayReturn (s.io.rx fd) cport)
    (hlink : s.core.svcLink.isSome)
    (hmsg : ¬ if flag = true then cfg.hdlcMaxBlockSize < 11
      else (nodeToApCport s.core.nodeApMap e.id cport).isSome) :
    ∃ env flag' s', Ends (nodeRxReceive env fd e flag) s flag' s' ∧ s.io.inUse < s'.io.inUse := by
  obtain ⟨msg, io', hrecv, htidy'⟩ := hmay.receives calmEnv hfd flag fun _ => rfl
  have hinUse : io'.inUse = s.io.inUse + 1 := by
    rw [htidy'.inUse, Io.inUse_afterAlloc]
  cases flag with
  | true =>
      rw [if_pos rfl] at hmsg
      obtain ⟨ret, s', hrem⟩ := exists_svcSendModuleRemoved calmEnv e.inf (s := ⟨s.core, io'⟩) hlink
        (not_lt.mp hmsg) fun _ => rfl
      have htidy := (tidy_svcSendModuleRemoved calmEnv (s := ⟨s.core, io'⟩) hlink hrem).1
      refine ⟨calmEnv, true, s', (Ends.liftIo hrecv).bind (hrem.discard.bind (Ends.pure _ _)), ?_⟩
      rw [htidy.inUse, hinUse]
      omega
  | false =>
      rw [if_neg Bool.false_ne_true] at hmsg
      obtain ⟨s', hsend, -, htidy⟩ := leak_connectionSendToAp msg (s := ⟨s.core, io'⟩)
        (Option.not_isSome_iff_eq_none.mp hmsg)
      refine ⟨calmEnv, false, s', (Ends.liftIo hrecv).bind ?_, ?_⟩
      · rw [nodeRxHandle, if_neg Bool.false_ne_true]
        dsimp only
        rw [connectionSend, if_neg hid]
        exact hsend.discard.bind (Ends.pure _ _)
      · rw [htidy.inUse, hinUse]
        omega

lemma leak_nodeRxReceive {fd : ℤ} {e : NodeItem} {flag : Bool} {s : Fw cfg}
    (hid : e.id ≠ AP_INF_ID) (htakes : ¬ ReadTakesBack s fd flag e) :
    ∃ env flag' s', Ends (nodeRxReceive env fd e flag) s flag' s' ∧ s.io.inUse < s'.io.inUse := by
  by_cases hreport : Awaits s.io fd 10 → s.core.svcLink.isSome
  · have hmsg : ¬ ∀ cport, 0 ≤ fd → MayReturn (s.io.rx fd) cport →
        if flag = true then cfg.hdlcMaxBlockSize < 11
        else (nodeToApCport s.core.nodeApMap e.id cport).isSome :=
      fun hmsg => htakes ⟨hreport, hmsg⟩
    push Not at hmsg
    obtain ⟨cport, hfd, hmay, hmsg⟩ := hmsg
    exact leak_nodeRxReceive_message hid hfd hmay (hreport hmay.awaits) hmsg
  · obtain ⟨hawaits, hlink⟩ := not_forall.mp hreport
    exact leak_nodeRxReceive_report e flag hawaits (Option.not_isSome_iff_eq_none.mp hlink)

/-! ### Events -/

/-- An event that allocates messages. -/
inductive HeapEvent
  /-- `hdlc_process_greybus_frame` -/
  | apFrame (buffer : List U8) (bufferLen : ℕ)
  /-- one socket of an iteration of `node_rx_thread_entry` -/
  | nodeMessage (fd : ℤ) (r : Revents) (flag : Bool)
  | request (req : SvcRequest)
  /-- `svc_response_helper`; a payload lies in memory, and so would a header -/
  | svcResponse (msg : GbMessage) (payload : List U8) (status : U8)
      (hlen : payload.length + 8 < 2 ^ 32)
  /-- `response_helper` -/
  | localResponse (msg : GbMessage) (payload : List U8) (status : U8) (cport : U16)
      (hlen : payload.length + 8 < 2 ^ 32)

namespace HeapEvent

/-- The event, handled. -/
def handle : HeapEvent → FwM cfg Unit
  | apFrame buffer bufferLen => discard (hdlcProcessGreybusFrame env buffer bufferLen)
  | nodeMessage fd r flag => discard (nodeRxServe env fd r flag)
  | request req => discard (req.send env)
  | svcResponse msg payload status _ => svcResponseHelper env msg payload status
  | localResponse msg payload status cport _ => responseHelper env msg payload status cport

/-- No message that can come of the event is left to itself: the interface a frame
is for takes it back, the socket is served while the SVC has a connection and what
comes off it has one, and a request or a response has one. -/
def MayHandle (s : Fw cfg) : HeapEvent → Prop
  | apFrame buffer bufferLen => FrameTaken buffer bufferLen →
    ∀ i : Fin cfg.apMaxNodes, i.val = (frameCport buffer).toNat →
      TakesBack s.core (s.core.nodeApMap i)
  | nodeMessage fd r flag => ∀ x, nodeCacheFindBySock s.core.nodeCache fd = some x →
    if r.Bad then s.core.svcLink.isSome = true
    else r.pollin = true → ReadTakesBack s fd flag x.2
  | request _ => s.core.svcLink.isSome
  | svcResponse _ _ _ _ => s.core.svcLink.isSome
  | localResponse _ _ _ cport _ => (nodeToApCport s.core.nodeApMap LOCAL_NODE_ID cport).isSome

end HeapEvent

/-- An event from which nothing is left to itself gives back what it allocates. -/
lemma tidy_handle {s s' : Fw cfg} {e : HeapEvent} (hnames : NamesRight s.core)
    (hmay : e.MayHandle s)
    (h : Ends (e.handle env) s () s') : Tidy s.io s'.io := by
  cases e with
  | apFrame buffer bufferLen =>
      obtain ⟨ret, h⟩ := ends_discard.mp h
      -- no message is allocated, or it is sent to the slot of its cport
      rcases hdlcProcessGreybusFrame_cases env h with htidy | ⟨htaken, msg, ret', hblk, hsend⟩
      · exact htidy
      · have hback := givesBack_connectionSend_ap env
          (s := ⟨s.core, s.io.afterAlloc [.alloc s.io.heapCalls]⟩) hnames (hmay htaken) hsend
        rw [hblk] at hback
        exact .of_givesBack hback
  | nodeMessage fd r flag =>
      obtain ⟨flag', h⟩ := ends_discard.mp h
      by_cases hbad : r.Bad
      · obtain ⟨-, hreport⟩ := (ends_nodeRxServe_bad hbad).mp h
        -- no node has the socket, or its removal is told to the SVC
        rcases ends_svcSendModuleRemovedBySock.mp hreport with
          ⟨-, rfl⟩ | ⟨i, x, ret, hfind, hrem⟩
        · exact refl_of Tidy _
        · have hlink := hmay (i, x) hfind
          rw [if_pos hbad] at hlink
          exact (tidy_svcSendModuleRemoved env hlink hrem).1
      · rcases (ends_nodeRxServe_good hbad).mp h with ⟨-, -, rfl⟩ | ⟨hin, i, x, hfind, hread⟩
        · exact refl_of Tidy _
        · have htakes := hmay (i, x) hfind
          rw [if_neg hbad] at htakes
          have hid := (hnames.ids.ne (findEntry_some hfind).1).2
          exact tidy_nodeRxReceive env hid (htakes hin) hread
  | request req =>
      obtain ⟨ret, h⟩ := ends_discard.mp h
      cases req with
      | version => exact tidy_controlSendRequest env (by simp) hmay h
      | hello => exact tidy_controlSendRequest env (by simp) hmay h
      | moduleInserted id => exact tidy_controlSendRequest env (by simp) hmay h
      | moduleRemoved intf => exact (tidy_svcSendModuleRemoved env hmay h).1
  | svcResponse msg payload status hlen => exact tidy_respond env hlen hmay h
  | localResponse msg payload status cport hlen => exact tidy_respond env hlen hmay h

/-- From one that may leave something, there is a way it does. -/
lemma leak_handle {s : Fw cfg} {e : HeapEvent} (hnames : NamesRight s.core)
    (hmay : ¬ e.MayHandle s) :
    ∃ env s', Ends (e.handle env) s () s' ∧ s.io.inUse < s'.io.inUse := by
  -- a request, a report and a response are kept where the slot they go to is empty
  have hreq : ∀ {payload : List U8} (type : U8), payload.length + 8 < 2 ^ 32 →
      ¬ s.core.svcLink.isSome →
      ∃ env s', Ends (discard (controlSendRequest env payload type)) s () s' ∧
        s.io.inUse < s'.io.inUse := by
    intro payload type hlen hlink
    obtain ⟨s', hsend, -, hinUse⟩ := leak_controlSendRequest calmEnv type hlen
      (Option.not_isSome_iff_eq_none.mp hlink) fun _ => rfl
    exact ⟨calmEnv, s', hsend.discard, by omega⟩
  have hreport : ∀ p, ¬ s.core.svcLink.isSome → ∃ env s',
      Ends (discard (svcSendModuleRemoved env p)) s () s' ∧
      s.io.inUse < s'.io.inUse := by
    intro p hlink
    obtain ⟨s', hrem, -, hinUse⟩ := leak_svcSendModuleRemoved calmEnv p
      (Option.not_isSome_iff_eq_none.mp hlink) fun _ => rfl
    exact ⟨calmEnv, s', hrem.discard, by omega⟩
  have hresp : ∀ {id : U8} {cport : U16} (msg : GbMessage) {payload : List U8} (status : U8),
      payload.length + 8 < 2 ^ 32 → ¬ (nodeToApCport s.core.nodeApMap id cport).isSome →
      ∃ env s', Ends (respond env id cport msg payload status) s () s' ∧
        s.io.inUse < s'.io.inUse := by
    intro id cport msg payload status hlen hlink
    obtain ⟨s', hsend, hinUse⟩ := leak_respond calmEnv msg status hlen
      (Option.not_isSome_iff_eq_none.mp hlink) fun _ => rfl
    exact ⟨calmEnv, s', hsend, by omega⟩
  cases e with
  | apFrame buffer bufferLen =>
      simp only [HeapEvent.MayHandle, not_forall] at hmay
      obtain ⟨htaken, i, hi, htake⟩ := hmay
      -- the heap grants the frame its block, and no socket takes the message
      obtain ⟨msg, -, hframe⟩ := hdlcProcessGreybusFrame_taken deafEnv htaken (s := s) fun _ => rfl
      obtain ⟨ret, s', hsend, hle⟩ := leak_connectionSend_ap
        (s := ⟨s.core, s.io.afterAlloc [.alloc s.io.heapCalls]⟩) hi htake msg
      rw [Io.inUse_afterAlloc] at hle
      exact ⟨deafEnv, s', hframe ret s' hsend, by omega⟩
  | nodeMessage fd r flag =>
      simp only [HeapEvent.MayHandle, not_forall] at hmay
      obtain ⟨x, hfind, hmay⟩ := hmay
      -- a socket in error has its node reported; one that can be read is served
      by_cases hbad : r.Bad
      · rw [if_pos hbad] at hmay
        obtain ⟨env, s', hrem, hlt⟩ := hreport x.2.inf hmay
        obtain ⟨ret, hrem⟩ := ends_discard.mp hrem
        have hfirst : Ends (svcSendModuleRemovedBySock env fd) s () s' :=
          ends_svcSendModuleRemovedBySock.mpr (Or.inr ⟨x.1, x.2, ret, hfind, hrem⟩)
        exact ⟨env, s', ends_discard.mpr
          ⟨flag, (ends_nodeRxServe_bad hbad).mpr ⟨rfl, hfirst⟩⟩, hlt⟩
      · rw [if_neg hbad] at hmay
        obtain ⟨hin, htakes⟩ := not_forall.mp hmay
        have hid := (hnames.ids.ne (findEntry_some hfind).1).2
        obtain ⟨env, flag', s', hrecv, hlt⟩ := leak_nodeRxReceive hid htakes
        have hserve := (ends_nodeRxServe_good hbad).mpr (Or.inr ⟨hin, x.1, x.2, hfind, hrecv⟩)
        exact ⟨env, s', ends_discard.mpr ⟨flag', hserve⟩, hlt⟩
  | request req =>
      cases req with
      | version => exact hreq _ (by simp) hmay
      | hello => exact hreq _ (by simp) hmay
      | moduleInserted id => exact hreq _ (by simp) hmay
      | moduleRemoved intf => exact hreport intf hmay
  | svcResponse msg payload status hlen => exact hresp msg status hlen hmay
  | localResponse msg payload status cport hlen => exact hresp msg status hlen hmay

/-- **No leak.** In every state the system reaches, an event gives back every
message it allocates, once, whatever fails, exactly when none that can come of it
is left to itself. -/
theorem noneLeaked_iff {env₀ : Env} {s₀ s : Fw cfg} {l : List (RunStep (Fw cfg) SystemOp)}
    (hboot : s₀.core = .boot cfg) (hrun : Run (systemStep env₀) s₀ l s) (e : HeapEvent) :
    (∀ env s', Ends (e.handle env) s () s' → NoneLeaked s s') ↔ e.MayHandle s := by
  have hnames : NamesRight s.core :=
    Run.keeps (namesRight_kept env₀) (by rw [hboot]; exact namesRight_boot cfg) hrun
  constructor
  · intro hnone
    by_contra hmay
    obtain ⟨env, s', h, hlt⟩ := leak_handle hnames hmay
    exact absurd (hnone env s' h).inUse hlt.ne'
  · exact fun hmay env s' h => (tidy_handle env hnames hmay h).noneLeaked

/-! ### A message for nobody -/

/-- The AP starts the SVC. -/
def startFrame : RxFrame := ⟨[CONTROL_SVC_START], 1, ADDRESS_CONTROL⟩

/-- The AP connects its cport 1 to cport 0 of the node with id 3. -/
def createFrame : RxFrame :=
  ⟨greybusFrame 0 ⟨14, 1, GB_SVC_TYPE_CONN_CREATE, 0, 0, 0⟩ [AP_INF_ID, 1, 0, 3, 0, 0], 16,
    ADDRESS_GREYBUS⟩

/-- The SVC is started. -/
def svcStarted : Fw .prjConf := final (mainProcessCompleteFrame calmEnv startFrame) (.boot .prjConf)

/-- A node is found. -/
def nodeFound : Fw .prjConf := final (nodeFilter calmEnv [1]) svcStarted

/-- The AP connects it. -/
def nodeConnected : Fw .prjConf := final (mainProcessCompleteFrame calmEnv createFrame) nodeFound

/-- The node sends a message from its cport 7, which is not connected. -/
def strangerSent : Fw .prjConf :=
  { nodeConnected with io := { nodeConnected.io with
      rx := fun fd => nodeConnected.io.rx fd ++ [.data 7 (nodeFrame 7 bareRequest).tail] } }

/-- The message comes in. -/
def strangerServed : Fw .prjConf := final (nodeRxServe calmEnv 0 readable false) strangerSent

/-- The steps up to there. -/
def strangerSteps : List (RunStep (Fw .prjConf) SystemOp) :=
  [⟨.boot .prjConf, .frame startFrame, svcStarted⟩] ++ [⟨svcStarted, .filter [1], nodeFound⟩] ++
    [⟨nodeFound, .frame createFrame, nodeConnected⟩] ++ [⟨nodeConnected, .outside, strangerSent⟩]

lemma strangerSteps_run : Run (systemStep calmEnv) (.boot .prjConf) strangerSteps strangerSent := by
  have h₁ : systemStep calmEnv (.boot .prjConf) (.frame startFrame) svcStarted :=
    ⟨0, ends_final (by decide +kernel)⟩
  have h₂ : systemStep calmEnv svcStarted (.filter [1]) nodeFound := ends_final (by decide +kernel)
  have h₃ : systemStep calmEnv nodeFound (.frame createFrame) nodeConnected :=
    ⟨0, ends_final (by decide +kernel)⟩
  have h₄ : systemStep calmEnv nodeConnected .outside strangerSent := rfl
  exact (((Run.single h₁).snoc h₂).snoc h₃).snoc h₄

/-- Whether that leaks. -/
theorem noneLeaked_iff_stranger :
    (∀ env s', Ends ((HeapEvent.nodeMessage 0 readable false).handle env) strangerSent () s' →
      NoneLeaked strangerSent s') ↔
        (HeapEvent.nodeMessage 0 readable false).MayHandle strangerSent :=
  noneLeaked_iff rfl strangerSteps_run _

/-- The message is left on the heap. -/
theorem message_leaked :
    ¬ ∀ (env₀ : Env) (s₀ s : Fw .prjConf) (l : List (RunStep (Fw .prjConf) SystemOp)),
      s₀.core = .boot .prjConf → Run (systemStep env₀) s₀ l s →
        ∀ (e : HeapEvent) (env : Env) (s' : Fw .prjConf),
        Ends (e.handle env) s () s' → NoneLeaked s s' := by
  intro h
  have hserve : Ends (nodeRxServe calmEnv 0 readable false) strangerSent false strangerServed :=
    ends_final (by decide +kernel)
  have hnone := (h calmEnv _ _ _ rfl strangerSteps_run (.nodeMessage 0 readable false) calmEnv _
    hserve.discard).inUse
  exact absurd hnone (by decide +kernel)

end Cc1352Greybus
