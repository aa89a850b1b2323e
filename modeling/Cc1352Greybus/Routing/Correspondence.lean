import Cc1352Greybus.Heap.Exhaustion
import Cc1352Greybus.Heap.Handlers

/-!
Whether each request of the AP gets one response.

The SVC and the local node go by the type of a message. A request is carried out and
then answered over the connection its interface is found by, which two of the SVC's
requests may have changed.

* `Recipient.Performs`, `Recipient.Succeeds`: what a request does, and whether that is
  what it has asked for.
* `Recipient.answered`, `Recipient.taken`: the one response to a request, and none to
  anything else.
* `corresponds_iff`: requests and responses correspond, exactly unless a connection is
  to be destroyed that is not there.
* `missing_answered`: such a request, answered with success.
-/

namespace Cc1352Greybus

open Effects

variable {cfg : Config} (env : Env)

/-! ### What is sent to the AP -/

/-- The blocks for the AP in a trace. -/
def hdlcBlocks (tr : List Event) : List Block := tr.filterMap fun
  | .hdlcBlock b => some b
  | _ => none

lemma hdlcBlocks_append (tr tr' : List Event) :
    hdlcBlocks (tr ++ tr') = hdlcBlocks tr ++ hdlcBlocks tr' :=
  List.filterMap_append

/-- Between two states these blocks go to the AP. -/
def Transmits (s s' : Fw cfg) (bs : List Block) : Prop :=
  ∃ tr, s'.io.trace = s.io.trace ++ tr ∧ hdlcBlocks tr = bs

lemma Transmits.refl (s : Fw cfg) : Transmits s s [] := ⟨[], by simp, rfl⟩

lemma Transmits.trans {s s₁ s₂ : Fw cfg} {bs bs' : List Block} (h : Transmits s s₁ bs)
    (h' : Transmits s₁ s₂ bs') : Transmits s s₂ (bs ++ bs') := by
  obtain ⟨tr, htrace, rfl⟩ := h
  obtain ⟨tr', htrace', rfl⟩ := h'
  exact ⟨tr ++ tr', by rw [htrace', htrace, List.append_assoc], hdlcBlocks_append tr tr'⟩

/-- Nor does what is silent add to it. -/
lemma Transmits.logged {s s' : Fw cfg} {bs : List Block} (h : Transmits s s' bs) (c : Core cfg)
    {tr : List Event} (htr : hdlcBlocks tr = []) : Transmits s ⟨c, s'.io.logged tr⟩ bs := by
  obtain ⟨tr', htrace, rfl⟩ := h
  refine ⟨tr' ++ tr, by rw [Io.logged_trace, htrace, List.append_assoc], ?_⟩
  rw [hdlcBlocks_append, htr, List.append_nil]

lemma Transmits.unique {s s' : Fw cfg} {bs bs' : List Block} (h : Transmits s s' bs)
    (h' : Transmits s s' bs') : bs = bs' := by
  obtain ⟨tr, htrace, rfl⟩ := h
  obtain ⟨tr', htrace', rfl⟩ := h'
  rw [List.append_cancel_left (htrace.symm.trans htrace')]

/-- What is done to sockets does not go to the AP. -/
lemma NetOnly.transmits {s s' : Fw cfg} (h : NetOnly s.io s'.io) : Transmits s s' [] := by
  obtain ⟨tr, htrace, hnet⟩ := h.trace
  refine ⟨tr, htrace, List.filterMap_eq_nil_iff.mpr fun e he => ?_⟩
  have := hnet e he
  cases e with
  | hdlcBlock b => cases this
  | _ => rfl

/-- A message, on an AP cport. -/
def apBlock (apCport : ℕ) (hdr : GbOperationMsgHdr) (payload : List U8) : Block :=
  ⟨ADDRESS_GREYBUS, 0x03, greybusFrame (BitVec.ofNat 16 apCport) hdr payload⟩

/-- A block tells the header of its message. -/
lemma apBlock_hdr_inj {apCport apCport' : ℕ} {hdr hdr' : GbOperationMsgHdr}
    {payload payload' : List U8}
    (h : apBlock apCport hdr payload = apBlock apCport' hdr' payload') : hdr = hdr' := by
  have hframe := congrArg (fun l => GbOperationMsgHdr.ofBytes (l.drop 2)) (Block.mk.inj h).2.2
  simpa [greybusFrame, le16] using hframe

/-- The header of a message that was built for a payload. -/
structure BuiltHdr (hdr : GbOperationMsgHdr) (payload : List U8) (type : U8) : Prop where
  size : hdr.size.toNat = 8 + payload.length
  type : hdr.type = type

/-! ### Requests and responses -/

/-- Who gets a message, on its cport 0. -/
inductive Recipient
  | svc
  | localNode
  deriving DecidableEq

namespace Recipient

/-- `svc_inf_write`, or `intf_write` of the local node -/
def write : Recipient → GbMessage → FwM cfg ℤ
  | svc, msg => svcInfWrite env msg 0
  | localNode, msg => localIntfWrite env msg CONTROL_PROTOCOL_CPORT

/-- The interface that handles the request. -/
def intf : Recipient → IntfPtr
  | svc => .svc
  | localNode => .localNode

/-- The id of that interface. -/
def intfId : Recipient → U8
  | svc => SVC_INF_ID
  | localNode => LOCAL_NODE_ID

/-- The types of requests that its `switch` lists. -/
def requestTypes : Recipient → List U8
  | svc => svcRequestTypes
  | localNode => [GB_REQUEST_TYPE_CPORT_SHUTDOWN, GB_CONTROL_TYPE_VERSION,
      GB_CONTROL_TYPE_GET_MANIFEST_SIZE, GB_CONTROL_TYPE_GET_MANIFEST, GB_CONTROL_TYPE_CONNECTED,
      GB_CONTROL_TYPE_DISCONNECTING, GB_CONTROL_TYPE_DISCONNECTED, GB_CONTROL_TYPE_TIMESYNC_ENABLE,
      GB_CONTROL_TYPE_TIMESYNC_DISABLE, GB_CONTROL_TYPE_TIMESYNC_AUTHORITATIVE,
      GB_CONTROL_TYPE_INTF_HIBERNATE_ABORT]

/-- The size of the structure of a type of message; the local node looks at none. -/
def payloadSize : Recipient → U8 → ℕ
  | svc, type =>
    if type = GB_SVC_TYPE_PROTOCOL_VERSION ||| GB_OP_RESPONSE then 2 else requestSize type
  | localNode, _ => 0

/-- The recipient is connected on an AP cport, the SVC on AP cport 0. -/
def ConnectedOn (r : Recipient) (c : Core cfg) (k : Fin cfg.apMaxNodes) : Prop :=
  c.nodeApMap k = ⟨some r.intf, 0, r.intfId⟩ ∧ (r = svc → k.val = 0)

/-- An AP cport is the recipient's, by the ids of its slot; the SVC's is AP cport 0. -/
def OwnsApCport (r : Recipient) (c : Core cfg) (k : Fin cfg.apMaxNodes) : Prop :=
  (c.nodeApMap k).nodeId = r.intfId ∧ (c.nodeApMap k).nodeCport = 0 ∧ (r = svc → k.val = 0)

/-- What a request does, before it is answered: two of the SVC's create and destroy
connections, and the others change nothing. -/
def Performs : Recipient → GbMessage → Fw cfg → Fw cfg → Prop
  | svc, msg, s, s₁ =>
    let req := connRequest msg
    if gbMessageType msg = GB_SVC_TYPE_CONN_CREATE then
      if req.IsLoop then s₁ = s
      else ∃ ret,
        Ends (connectionCreate env req.intf1Id req.cport1Id req.intf2Id req.cport2Id) s ret s₁
    else if gbMessageType msg = GB_SVC_TYPE_CONN_DESTROY then
      ∃ ret, Ends (connectionDestroy req.intf1Id req.cport1Id req.intf2Id req.cport2Id) s ret s₁
    else s₁ = s
  | localNode, _, s, s₁ => s₁ = s

/-- A request has done what it asks for: the connection it names has been made, or has
been there and is not any more. -/
def Succeeds : Recipient → GbMessage → Fw cfg → Fw cfg → Prop
  | svc, msg, s, s₁ =>
    if gbMessageType msg = GB_SVC_TYPE_CONN_CREATE then
      ∃ e intf, (connRequest msg).endpoint = some e ∧
        gbInterfaceFindById s.core e.nodeId = some intf ∧ FillsSlot s.core s₁.core e intf
    else if gbMessageType msg = GB_SVC_TYPE_CONN_DESTROY then
      ∃ e k, (connRequest msg).endpoint = some e ∧ SlotHolds s.core k e ∧
        s₁.core.nodeApMap k = .empty
    else True
  | localNode, _, _, _ => True

/-- A connection is to be destroyed that is not there. -/
def DestroysMissing (r : Recipient) (msg : GbMessage) (c : Core cfg) : Prop :=
  r = svc ∧ gbMessageType msg = GB_SVC_TYPE_CONN_DESTROY ∧
    ∃ e, (connRequest msg).endpoint = some e ∧ ¬ ∃ k, SlotHolds c k e

end Recipient

/-- One response to a request goes out between two states, on the AP cport of its
recipient, once the request has been carried out. -/
structure Answers (r : Recipient) (msg : GbMessage) (s s₁ s' : Fw cfg) (k : Fin cfg.apMaxNodes)
    (hdr : GbOperationMsgHdr) (payload : List U8) : Prop where
  performs : r.Performs env msg s s₁
  silent : Transmits s s₁ []
  after : s'.core = s₁.core
  apCport : r.OwnsApCport s.core k
  sent : Transmits s₁ s' [apBlock k hdr payload]
  built : BuiltHdr hdr payload (gbMessageType msg ||| GB_OP_RESPONSE)
  operationId : hdr.operationId = msg.header.operationId

/-- A request gets one response, with success if and only if it has succeeded. -/
def AnswersRequest (r : Recipient) (msg : GbMessage) (s s' : Fw cfg) : Prop :=
  ∃ s₁ k hdr payload, Answers env r msg s s₁ s' k hdr payload ∧
    (hdr.result = GB_SVC_OP_SUCCESS ↔ r.Succeeds msg s s₁)

/-- A response gets none: nothing is sent for it, or, for that to the version of the SVC, a
hello. -/
def TakesResponse (r : Recipient) (msg : GbMessage) (s s' : Fw cfg) : Prop :=
  if r = .svc ∧ gbMessageType msg = GB_SVC_TYPE_PROTOCOL_VERSION ||| GB_OP_RESPONSE then
    ∃ k hdr payload, r.OwnsApCport s.core k ∧ Transmits s s' [apBlock k hdr payload] ∧
      BuiltHdr hdr payload GB_SVC_TYPE_SVC_HELLO
  else Transmits s s' []

/-- **Requests and responses correspond**: a message that is written to a recipient is
answered if it is a request, and only then. -/
def Corresponds (r : Recipient) (msg : GbMessage) (s : Fw cfg) : Prop :=
  ∃ s', Ends (r.write env msg) s 0 s' ∧
    (gbMessageType msg ∈ r.requestTypes → AnswersRequest env r msg s s') ∧
    (gbMessageType msg &&& GB_OP_RESPONSE ≠ 0 → TakesResponse r msg s s')

/-! ### What is built and sent -/

section sends

variable {env} {id : U8} {cport : U16} {k : Fin cfg.apMaxNodes}

/-- A message that was built for a payload goes out on the AP cport that is found. -/
lemma exists_ends_sendBuilt (s : Fw cfg) (payload : List U8) (type : U8) (operationId : U16)
    (status : U8) (hlink : nodeToApCport s.core.nodeApMap id cport = some k)
    (hlen : payload.length ≤ 60) (hroom : 10 + payload.length ≤ cfg.hdlcMaxBlockSize)
    (hheap : ∀ size, env.heapAlloc s.io.heapCalls size = true) :
    ∃ (msg : GbMessage) (io₁ : Io) (s' : Fw cfg), Ends (do
        let msg ← gbMessageAlloc env payload.length type operationId status
        memcpyPayload msg payload) s.io (some msg) io₁ ∧
      Ends (connectionSendToAp id cport msg) ⟨s.core, io₁⟩ 0 s' ∧ s'.core = s.core ∧
      Transmits s s' [apBlock k msg.header payload] ∧ BuiltHdr msg.header payload type ∧
      msg.header.operationId = operationId ∧ msg.header.result = status := by
  obtain ⟨msg, hmsg⟩ : ∃ msg, msg = { freshMessage env s.io.heapCalls payload.length type
    operationId status with payload := payload } := ⟨_, rfl⟩
  have halloc := ends_alloc_memcpy env s.io type operationId status
    (show payload.length + 8 < 2 ^ 32 by omega) (hheap _)
  rw [← hmsg] at halloc
  have hsize : msg.header.size.toNat = 8 + payload.length := by
    rw [hmsg]
    exact Nat.mod_eq_of_lt (by omega)
  have hpayload : msg.payload = payload := by rw [hmsg]
  have hsized : msg.Sized := by rw [GbMessage.Sized, hsize, hpayload, Nat.add_comm]
  have hfits : msg.FitsFrame cfg := ⟨by rw [hsized.payloadLen, hpayload]; exact hroom, hsized.holds⟩
  refine ⟨msg, _, _, halloc, ends_connectionSendToAp.mpr ⟨fun _ => hfits, ?_, rfl⟩, rfl,
    ⟨_, List.append_assoc _ _ _, ?_⟩, ⟨hsize, by rw [hmsg]; rfl⟩, by rw [hmsg]; rfl,
    by rw [hmsg]; rfl⟩
  · rw [hlink]
    rfl
  · rw [hlink, sendEvents, greybusBlock_of_sized _ hsized, hpayload]
    rfl

/-- **A response** goes out once, with the id of its request. -/
lemma exists_ends_respond {s : Fw cfg} {payload : List U8} (msg : GbMessage) (status : U8)
    (hlink : nodeToApCport s.core.nodeApMap id cport = some k)
    (hlen : payload.length ≤ 60) (hroom : 10 + payload.length ≤ cfg.hdlcMaxBlockSize)
    (hheap : ∀ size, env.heapAlloc s.io.heapCalls size = true) :
    ∃ hdr s', Ends (respond env id cport msg payload status) s () s' ∧ s'.core = s.core ∧
      Transmits s s' [apBlock k hdr payload] ∧
      BuiltHdr hdr payload (gbMessageType msg ||| GB_OP_RESPONSE) ∧
      hdr.operationId = msg.header.operationId ∧ hdr.result = status := by
  obtain ⟨resp, io₁, s', halloc, hsend, hcore, hsent, hbuilt, hid, hresult⟩ :=
    exists_ends_sendBuilt s payload (GB_OP_RESPONSE ||| gbMessageType msg) msg.header.operationId
      status hlink hlen hroom hheap
  rw [BitVec.or_comm] at hbuilt
  exact ⟨resp.header, s', (Ends.liftIo halloc).bind hsend.discard, hcore, hsent, hbuilt, hid,
    hresult⟩

/-- So does a hello. -/
lemma exists_ends_svcSendHello {s : Fw cfg}
    (hlink : nodeToApCport s.core.nodeApMap SVC_INF_ID 0 = some k)
    (hroom : 10 + 3 ≤ cfg.hdlcMaxBlockSize)
    (hheap : ∀ size, env.heapAlloc s.io.heapCalls size = true) :
    ∃ ret hdr s', Ends (svcSendHello env) s ret s' ∧
      Transmits s s' [apBlock k hdr (le16 ENDO_ID ++ [AP_INF_ID])] ∧
      BuiltHdr hdr (le16 ENDO_ID ++ [AP_INF_ID]) GB_SVC_TYPE_SVC_HELLO := by
  obtain ⟨opId, io₁, hid, htrace, hcalls⟩ : ∃ opId io₁, Ends newOperationId s.io opId io₁ ∧
      io₁.trace = s.io.trace ∧ io₁.heapCalls = s.io.heapCalls :=
    ⟨_, _, rfl, rfl, rfl⟩
  obtain ⟨req, io₂, s', halloc, hsend, -, ⟨tr, htr, hblocks⟩, hbuilt, -⟩ :=
    exists_ends_sendBuilt ⟨s.core, io₁⟩ (le16 ENDO_ID ++ [AP_INF_ID]) GB_SVC_TYPE_SVC_HELLO opId 0
      hlink (by decide) hroom (by rw [hcalls]; exact hheap)
  have hreq : Ends (liftIo (gbMessageRequestAlloc env (le16 ENDO_ID ++ [AP_INF_ID])
      GB_SVC_TYPE_SVC_HELLO false)) s (some req) ⟨s.core, io₂⟩ := Ends.liftIo (hid.bind halloc)
  refine ⟨(env.freedOperationId req.blk).toNat, req.header,
    ⟨s'.core, s'.io.logged [.msgRead req.blk]⟩, hreq.bind (hsend.bind ?_),
    ⟨tr ++ [.msgRead req.blk], ?_, ?_⟩, hbuilt⟩
  · rw [if_neg (by decide)]
    exact (Ends.liftIo (Ends.emit _ _)).bind (Ends.pure _ _)
  · rw [Io.logged_trace, htr, htrace, List.append_assoc]
  · rw [hdlcBlocks_append, hblocks]
    rfl

end sends

/-! ### The SVC -/

/-- The SVC has looked at a request, and it has a response for it and AP cport 0 to send it
on. -/
structure SvcAnswered (msg : GbMessage) (k : Fin cfg.apMaxNodes) (s s₁ : Fw cfg)
    (payload : List U8) (status : U8) : Prop where
  ends : Ends (svcAnswer env msg) s (.response payload status) s₁
  short : payload.length ≤ 6
  performs : Recipient.svc.Performs env msg s s₁
  net : NetOnly s.io s₁.io
  link : nodeToApCport s₁.core.nodeApMap SVC_INF_ID 0 = some k
  status : status = GB_SVC_OP_SUCCESS ↔
    Recipient.svc.Succeeds msg s s₁ ∨ Recipient.svc.DestroysMissing msg s.core

section svc

variable {env} {msg : GbMessage} {k : Fin cfg.apMaxNodes} {s : Fw cfg}

/-- AP cport 0 comes before any other. -/
lemma svcLink_eq_zero {c : Core cfg} (hk : k.val = 0) (hid : (c.nodeApMap k).nodeId = SVC_INF_ID)
    (hcport : (c.nodeApMap k).nodeCport = 0) : nodeToApCport c.nodeApMap SVC_INF_ID 0 = some k := by
  refine nodeToApCport_eq_some_iff.mpr ⟨⟨hid, hcport⟩, fun j hj => ?_⟩
  have hlt : j.val < k.val := hj
  omega

lemma Recipient.ConnectedOn.owns {r : Recipient} {c : Core cfg} (h : r.ConnectedOn c k) :
    r.OwnsApCport c k := ⟨by rw [h.1], by rw [h.1], h.2⟩

lemma Recipient.ConnectedOn.link (h : Recipient.svc.ConnectedOn s.core k) :
    nodeToApCport s.core.nodeApMap SVC_INF_ID 0 = some k :=
  svcLink_eq_zero (h.2 rfl) (by rw [h.1]; rfl) (by rw [h.1])

/-- A slot that was filled was another before. -/
lemma FillsSlot.ne {c c' : Core cfg} {e : Endpoint} {intf : IntfPtr} (h : FillsSlot c c' e intf) :
    c'.nodeApMap ≠ c.nodeApMap := by
  obtain ⟨i, -, hfree, hmap⟩ := h
  intro hsame
  have hitem := congrFun (hsame.symm.trans hmap) i
  rw [Function.update_self] at hitem
  rw [hitem] at hfree
  cases hfree

/-- A creation succeeds exactly when it has filled the slot. -/
lemma svcAnswered_create (htype : gbMessageType msg = GB_SVC_TYPE_CONN_CREATE)
    (hanswer : (svcAnswer env msg : FwM cfg SvcReply) = svcConnectionCreateAnswer env msg)
    (hlen : 6 ≤ msg.payload.length) (hconn : Recipient.svc.ConnectedOn s.core k) :
    ∃ payload status s₁, SvcAnswered env msg k s s₁ payload status := by
  have hmissing : ¬ Recipient.svc.DestroysMissing msg s.core := by
    rintro ⟨-, hdestroy, -⟩
    rw [htype] at hdestroy
    cases hdestroy
  have hsucceeds : ∀ s₁ : Fw cfg, Recipient.svc.Succeeds msg s s₁ ↔
      ∃ e intf, (connRequest msg).endpoint = some e ∧
        gbInterfaceFindById s.core e.nodeId = some intf ∧ FillsSlot s.core s₁.core e intf := by
    intro s₁
    rw [Recipient.Succeeds, if_pos htype]
  rw [svcConnectionCreateAnswer_of_le hlen] at hanswer
  by_cases hloop : (connRequest msg).IsLoop
  · -- nothing is done about a loop
    rw [if_pos hloop] at hanswer
    refine ⟨[], GB_SVC_OP_UNKNOWN_ERROR, s, ⟨hanswer ▸ Ends.pure _ s, by decide, ?_,
      refl_of NetOnly _, hconn.link, ?_⟩⟩
    · rw [Recipient.Performs, if_pos htype, if_pos hloop]
    · rw [hsucceeds, or_iff_left hmissing]
      refine iff_of_false (by decide) ?_
      rintro ⟨e, intf, -, -, hfills⟩
      exact hfills.ne rfl
  rw [if_neg hloop] at hanswer
  obtain ⟨ret, s₁, hend⟩ := exists_ends_connectionCreate env (connRequest msg).intf1Id
    (connRequest msg).intf2Id (connRequest msg).cport1Id (connRequest msg).cport2Id s
  have hslot : s₁.core.nodeApMap k = s.core.nodeApMap k :=
    connectionCreate_slot env (by rw [hconn.1]; rfl) hend
  have hreply : Ends (svcAnswer env msg) s (connReply ret) s₁ := by
    rw [hanswer]
    exact hend.bind (Ends.pure _ s₁)
  refine ⟨[], _, s₁, ⟨hreply, by decide, ?_,
    netOnly_connectionCreate env _ _ _ _ hend, ?_, ?_⟩⟩
  · rw [Recipient.Performs, if_pos htype, if_neg hloop]
    exact ⟨ret, hend⟩
  · exact svcLink_eq_zero (hconn.2 rfl) (by rw [hslot, hconn.1]; rfl) (by rw [hslot, hconn.1])
  · rw [hsucceeds, or_iff_left hmissing]
    rcases connectionCreate_core env hend with
      ⟨hneg, hsame, -⟩ | ⟨rfl, e, intf, i, he, ⟨hfind, -, hi, hfree⟩, c₁, hsock, hc'⟩
    · rw [if_pos hneg]
      refine iff_of_false (by decide) ?_
      rintro ⟨e, intf, -, -, hfills⟩
      exact hfills.ne hsame.nodeApMap
    · rw [if_neg (lt_irrefl 0)]
      refine iff_of_true rfl ⟨e, intf, he, hfind, i, hi, hfree, ?_⟩
      rw [hc', Core.setSlot, hsock.nodeApMap]

/-- A destruction that names an endpoint is answered with success. -/
lemma svcAnswered_destroy (htype : gbMessageType msg = GB_SVC_TYPE_CONN_DESTROY)
    (hanswer : (svcAnswer env msg : FwM cfg SvcReply) = svcConnectionDestroyAnswer msg)
    (hlen : 6 ≤ msg.payload.length) (hconn : Recipient.svc.ConnectedOn s.core k) :
    ∃ payload status s₁, SvcAnswered env msg k s s₁ payload status := by
  rw [svcConnectionDestroyAnswer_of_le hlen] at hanswer
  obtain ⟨ret, s₁, hend⟩ := exists_ends_connectionDestroy (connRequest msg).intf1Id
    (connRequest msg).intf2Id (connRequest msg).cport1Id (connRequest msg).cport2Id s
  have hreply : Ends (svcAnswer env msg) s (connReply ret) s₁ := by
    rw [hanswer]
    exact hend.bind (Ends.pure _ s₁)
  refine ⟨[], _, s₁, ⟨hreply, by decide, ?_,
    netOnly_connectionDestroy _ _ _ _ hend, ?_, ?_⟩⟩
  · rw [Recipient.Performs, htype, if_neg (by decide), if_pos rfl]
    exact ⟨ret, hend⟩
  · -- the slot is as it was or empty, and reads as the SVC's either way
    have hslot : s₁.core.nodeApMap k = s.core.nodeApMap k ∨ s₁.core.nodeApMap k = .empty :=
      connectionDestroy_slot k hend
    rcases hslot with hslot | hslot
    · exact svcLink_eq_zero (hconn.2 rfl) (by rw [hslot, hconn.1]; rfl) (by rw [hslot, hconn.1])
    · exact svcLink_eq_zero (hconn.2 rfl) (by rw [hslot]; rfl) (by rw [hslot]; rfl)
  · have hsucceeds : Recipient.svc.Succeeds msg s s₁ ↔ ∃ e i, (connRequest msg).endpoint = some e ∧
        SlotHolds s.core i e ∧ s₁.core.nodeApMap i = .empty := by
      rw [Recipient.Succeeds, htype, if_neg (by decide), if_pos rfl]
    rw [hsucceeds]
    rcases connectionDestroy_core hend with ⟨hneg, hnone, -⟩ | ⟨rfl, e, ready, he, hc'⟩
    · rw [if_pos hneg]
      refine iff_of_false (by decide) (not_or.mpr ⟨?_, ?_⟩)
      · rintro ⟨e, i, he, -⟩
        cases hnone.symm.trans he
      · rintro ⟨-, -, e, he, -⟩
        cases hnone.symm.trans he
    · rw [if_neg (lt_irrefl 0)]
      refine iff_of_true rfl ?_
      by_cases hholds : ∃ i, SlotHolds s.core i e
      · obtain ⟨i, hi⟩ := hholds
        refine Or.inl ⟨e, i, he, hi, ?_⟩
        have hlt : e.apCport.toNat < cfg.apMaxNodes := hi.1 ▸ i.isLt
        obtain rfl : i = ⟨e.apCport.toNat, hlt⟩ := Fin.ext hi.1
        rw [hc', Core.nodeApRemove, dif_pos hlt, Core.setSlot_self]
      · exact Or.inr ⟨rfl, htype, e, he, hholds⟩

/-- Every other request is answered with success, and changes nothing. -/
lemma svcAnswered_plain {payload : List U8} (hcreate : gbMessageType msg ≠ GB_SVC_TYPE_CONN_CREATE)
    (hdestroy : gbMessageType msg ≠ GB_SVC_TYPE_CONN_DESTROY) (hlen : payload.length ≤ 6)
    (hanswer : (svcAnswer env msg : FwM cfg SvcReply) =
      pure (.response payload GB_SVC_OP_SUCCESS))
    (hconn : Recipient.svc.ConnectedOn s.core k) :
    ∃ payload status s₁, SvcAnswered env msg k s s₁ payload status := by
  refine ⟨payload, GB_SVC_OP_SUCCESS, s, ⟨hanswer ▸ Ends.pure _ s, hlen, ?_, refl_of NetOnly _,
    hconn.link, iff_of_true rfl (Or.inl ?_)⟩⟩
  · rw [Recipient.Performs, if_neg hcreate, if_neg hdestroy]
  · rw [Recipient.Succeeds, if_neg hcreate, if_neg hdestroy]
    trivial

variable (env) in
/-- **The SVC answers** every request. -/
lemma exists_svcAnswered (hreq : gbMessageType msg ∈ svcRequestTypes)
    (hlen : requestSize (gbMessageType msg) ≤ msg.payload.length)
    (hconn : Recipient.svc.ConnectedOn s.core k) :
    ∃ payload status s₁, SvcAnswered env msg k s s₁ payload status := by
  rcases svcAnswer_cases env cfg msg with
    ⟨htype, hanswer⟩ | ⟨htype, hanswer⟩ | ⟨htype, hanswer⟩ | ⟨htype, hanswer⟩ |
      ⟨hcreate, hdestroy, -, -, ⟨-, payload, hsize, hanswer⟩ | ⟨hno, -⟩⟩
  · rw [htype, show requestSize GB_SVC_TYPE_CONN_CREATE = 8 from rfl] at hlen
    exact svcAnswered_create htype hanswer (by omega) hconn
  · rw [htype, show requestSize GB_SVC_TYPE_CONN_DESTROY = 6 from rfl] at hlen
    exact svcAnswered_destroy htype hanswer hlen hconn
  · rw [htype, show requestSize GB_SVC_TYPE_INTF_SET_PWRM = 63 from rfl] at hlen
    rcases svcIntfSetPwrmAnswer_cases msg s with ⟨h8, -⟩ | ⟨-, resultCode, hres⟩
    · omega
    · exact svcAnswered_plain (by rw [htype]; decide) (by rw [htype]; decide) (by simp)
        (hanswer.trans hres) hconn
  · -- a version is no request
    rw [htype] at hreq
    exact absurd hreq (by decide)
  · exact svcAnswered_plain hcreate hdestroy (hsize ▸ responseSize_le _) hanswer hconn
  · exact absurd hreq hno

end svc

/-! ### Requests are answered, responses are not -/

section answered

variable {env} {msg : GbMessage} {k : Fin cfg.apMaxNodes} {s : Fw cfg}

/-- A message that has been dealt with is given back. -/
lemma ends_dealloc (msg : GbMessage) (s : Fw cfg) : Ends (do
    liftIo (gbMessageDealloc msg)
    return 0 : FwM cfg ℤ) s 0 ⟨s.core, s.io.logged [.dealloc msg.blk]⟩ :=
  (Ends.liftIo (Ends.emit _ s.io)).bind (Ends.pure _ _)

/-- **The SVC** answers a request once, with success if it has succeeded or was to destroy
what is not there. -/
lemma answered_svc (hreq : gbMessageType msg ∈ svcRequestTypes)
    (hlen : requestSize (gbMessageType msg) ≤ msg.payload.length)
    (hconn : Recipient.svc.ConnectedOn s.core k)
    (hheap : ∀ size, env.heapAlloc s.io.heapCalls size = true)
    (hroom : 10 + manifest.length ≤ cfg.hdlcMaxBlockSize) :
    ∃ s₁ s' k hdr payload, Ends (svcInfWrite env msg 0) s 0 s' ∧
      Answers env .svc msg s s₁ s' k hdr payload ∧ (hdr.result = GB_SVC_OP_SUCCESS ↔
        Recipient.svc.Succeeds msg s s₁ ∨ Recipient.svc.DestroysMissing msg s.core) := by
  obtain ⟨payload, status, s₁, h⟩ := exists_svcAnswered env hreq hlen hconn
  have hshort := h.short
  have hmanifest : manifest.length = 60 := rfl
  obtain ⟨hdr, s₂, hend, hcore, hsent, hbuilt, hid, hresult⟩ := exists_ends_respond msg status
    h.link (show payload.length ≤ 60 by omega) (by omega) (by rw [h.net.heapCalls]; exact hheap)
  refine ⟨s₁, ⟨s₂.core, s₂.io.logged [.dealloc msg.blk]⟩, k, hdr, payload, ?_,
    ⟨h.performs, h.net.transmits, hcore, hconn.owns, hsent.logged _ rfl, hbuilt, hid⟩,
    hresult ▸ h.status⟩
  rw [svcInfWrite_eq]
  exact h.ends.bind (Ends.bind hend (ends_dealloc msg s₂))

/-- What is no request the SVC takes without a response. -/
lemma taken_svc (hno : gbMessageType msg ∉ svcRequestTypes)
    (hlen : Recipient.svc.payloadSize (gbMessageType msg) ≤ msg.payload.length)
    (hconn : Recipient.svc.ConnectedOn s.core k)
    (hheap : ∀ size, env.heapAlloc s.io.heapCalls size = true)
    (hroom : 10 + manifest.length ≤ cfg.hdlcMaxBlockSize) :
    ∃ s', Ends (svcInfWrite env msg 0) s 0 s' ∧ TakesResponse .svc msg s s' := by
  have hlisted : ∀ {type : U8}, gbMessageType msg = type → type ∉ svcRequestTypes := by
    rintro type rfl
    exact hno
  rcases svcAnswer_cases env cfg msg with
    ⟨htype, -⟩ | ⟨htype, -⟩ | ⟨htype, -⟩ | ⟨htype, hanswer⟩ |
      ⟨-, -, -, hversion, ⟨hreq, -⟩ | ⟨-, -, -, hanswer⟩⟩
  -- a request of the AP is not meant
  · exact absurd (by decide) (hlisted htype)
  · exact absurd (by decide) (hlisted htype)
  · exact absurd (by decide) (hlisted htype)
  -- the response to the version request has the hello sent
  · rw [Recipient.payloadSize, if_pos htype] at hlen
    rcases svcVersionResponseAnswer_cases msg s with ⟨h2, -⟩ | ⟨-, hres⟩
    · omega
    have hmanifest : manifest.length = 60 := rfl
    obtain ⟨ret, hdr, s₂, hend, hsent, hbuilt⟩ :=
      exists_ends_svcSendHello hconn.link (by omega) hheap
    refine ⟨⟨s₂.core, s₂.io.logged [.dealloc msg.blk]⟩, ?_, ?_⟩
    · rw [svcInfWrite_eq, hanswer, hres, pure_bind]
      exact Ends.bind hend.discard (ends_dealloc msg s₂)
    · rw [TakesResponse, if_pos ⟨rfl, htype⟩]
      exact ⟨k, hdr, _, hconn.owns, hsent.logged _ rfl, hbuilt⟩
  · exact absurd hreq hno
  · refine ⟨⟨s.core, s.io.logged [.dealloc msg.blk]⟩, ?_, ?_⟩
    · rw [svcInfWrite_eq, hanswer, pure_bind]
      exact Ends.bind (Ends.pure () s) (ends_dealloc msg s)
    · rw [TakesResponse, if_neg fun h => hversion h.2]
      exact (Transmits.refl s).logged _ rfl

lemma isSome_localResponsePayload_iff {type : U8} :
    (localResponsePayload type).isSome ↔ type ∈ Recipient.localNode.requestTypes := by
  rw [localResponsePayload]
  split_ifs <;> simp_all [Recipient.requestTypes]

/-- **The local node** answers every request with success. -/
lemma answered_local (hreq : gbMessageType msg ∈ Recipient.localNode.requestTypes)
    (hconn : Recipient.localNode.ConnectedOn s.core k)
    (hheap : ∀ size, env.heapAlloc s.io.heapCalls size = true)
    (hroom : 10 + manifest.length ≤ cfg.hdlcMaxBlockSize) :
    ∃ s' k hdr payload, Ends (localIntfWrite env msg CONTROL_PROTOCOL_CPORT) s 0 s' ∧
      Answers env .localNode msg s s s' k hdr payload ∧ hdr.result = GB_SVC_OP_SUCCESS := by
  obtain ⟨payload, hpayload⟩ :=
    Option.isSome_iff_exists.mp (isSome_localResponsePayload_iff.mpr hreq)
  have hshort := localResponsePayload_length hpayload
  have hmanifest : manifest.length = 60 := rfl
  obtain ⟨k', hlink⟩ := Option.isSome_iff_exists.mp (isSome_nodeToApCport_iff.mpr
    ⟨k, by rw [hconn.1]; exact ⟨rfl, rfl⟩⟩ :
      (nodeToApCport s.core.nodeApMap LOCAL_NODE_ID CONTROL_PROTOCOL_CPORT).isSome)
  obtain ⟨hid', hcport⟩ := (nodeToApCport_eq_some_iff.mp hlink).1
  obtain ⟨hdr, s₂, hend, hcore, hsent, hbuilt, hid, hresult⟩ := exists_ends_respond msg 0 hlink
    hshort (by omega) hheap
  refine ⟨⟨s₂.core, s₂.io.logged [.dealloc msg.blk]⟩, k', hdr, payload, ?_, ⟨rfl, .refl s, hcore,
    ⟨hid', hcport, fun h => by cases h⟩, hsent.logged _ rfl, hbuilt, hid⟩, hresult⟩
  rw [localIntfWrite, if_pos rfl, controlProtocolHandle_eq, hpayload]
  exact Ends.bind hend (ends_dealloc msg s₂)

/-- What is no request it only gives back. -/
lemma taken_local (hno : gbMessageType msg ∉ Recipient.localNode.requestTypes) :
    ∃ s', Ends (localIntfWrite env msg CONTROL_PROTOCOL_CPORT) s 0 s' ∧
      TakesResponse .localNode msg s s' := by
  have hnone : localResponsePayload (gbMessageType msg) = none := by
    rw [← Option.not_isSome_iff_eq_none, isSome_localResponsePayload_iff]
    exact hno
  refine ⟨⟨s.core, s.io.logged [.dealloc msg.blk]⟩, ?_, ?_⟩
  · rw [localIntfWrite, if_pos rfl, controlProtocolHandle_eq, hnone]
    exact Ends.bind (Ends.pure () s) (ends_dealloc msg s)
  · rw [TakesResponse, if_neg fun h => by cases h.1]
    exact (Transmits.refl s).logged _ rfl

end answered

/-! ### Correspondence -/

namespace Recipient

variable {env} {r : Recipient} {msg : GbMessage} {k : Fin cfg.apMaxNodes} {s s₁ s₂ : Fw cfg}

/-- What a request does is settled. -/
lemma Performs.unique (h : r.Performs env msg s s₁) (h' : r.Performs env msg s s₂) : s₁ = s₂ := by
  cases r with
  | svc =>
      rw [Performs] at h h'
      split_ifs at h h'
      · exact h.trans h'.symm
      · obtain ⟨ret, h⟩ := h
        obtain ⟨ret', h'⟩ := h'
        exact (h.unique h').2
      · obtain ⟨ret, h⟩ := h
        obtain ⟨ret', h'⟩ := h'
        exact (h.unique h').2
      · exact h.trans h'.symm
  | localNode => exact Eq.trans h (Eq.symm h')

/-- What is not there cannot be destroyed. -/
lemma DestroysMissing.not_succeeds (h : r.DestroysMissing msg s.core) : ¬ r.Succeeds msg s s₁ := by
  obtain ⟨rfl, htype, e, he, hmissing⟩ := h
  rw [Succeeds, htype, if_neg (by decide), if_pos rfl]
  rintro ⟨e', i, he', hholds, -⟩
  obtain rfl := Option.some.inj (he.symm.trans he')
  exact hmissing ⟨i, hholds⟩

/-- **A request** gets one response. -/
theorem answered (hreq : gbMessageType msg ∈ r.requestTypes) (hconn : r.ConnectedOn s.core k)
    (hlen : r.payloadSize (gbMessageType msg) ≤ msg.payload.length)
    (hheap : ∀ size, env.heapAlloc s.io.heapCalls size = true)
    (hroom : 10 + manifest.length ≤ cfg.hdlcMaxBlockSize) :
    ∃ s₁ s' k hdr payload, Ends (r.write env msg) s 0 s' ∧
      Answers env r msg s s₁ s' k hdr payload ∧
      (hdr.result = GB_SVC_OP_SUCCESS ↔ r.Succeeds msg s s₁ ∨ r.DestroysMissing msg s.core) := by
  cases r with
  | svc =>
      have hversion : gbMessageType msg ≠ GB_SVC_TYPE_PROTOCOL_VERSION ||| GB_OP_RESPONSE := by
        intro htype
        rw [htype] at hreq
        exact absurd hreq (by decide)
      rw [payloadSize, if_neg hversion] at hlen
      exact answered_svc hreq hlen hconn hheap hroom
  | localNode =>
      obtain ⟨s', k', hdr, payload, hend, hanswers, hresult⟩ :=
        answered_local hreq hconn hheap hroom
      exact ⟨s, s', k', hdr, payload, hend, hanswers, iff_of_true hresult (Or.inl trivial)⟩

/-- **Anything else** gets none. -/
theorem taken (hno : gbMessageType msg ∉ r.requestTypes) (hconn : r.ConnectedOn s.core k)
    (hlen : r.payloadSize (gbMessageType msg) ≤ msg.payload.length)
    (hheap : ∀ size, env.heapAlloc s.io.heapCalls size = true)
    (hroom : 10 + manifest.length ≤ cfg.hdlcMaxBlockSize) :
    ∃ s', Ends (r.write env msg) s 0 s' ∧ TakesResponse r msg s s' := by
  cases r with
  | svc => exact taken_svc hno hlen hconn hheap hroom
  | localNode => exact taken_local hno

/-- No request has the response bit. -/
lemma and_response_of_mem {type : U8} (h : type ∈ r.requestTypes) :
    type &&& GB_OP_RESPONSE = 0 := by
  have hbit : ∀ r : Recipient, ∀ type ∈ r.requestTypes, type &&& GB_OP_RESPONSE = 0 := by
    intro r
    cases r <;> decide
  exact hbit r type h

end Recipient

section corresponds

variable {r : Recipient} {msg : GbMessage} {s : Fw cfg}

/-- A connection that is not there is destroyed with success. -/
lemma Recipient.DestroysMissing.not_corresponds {k : Fin cfg.apMaxNodes}
    (hmissing : r.DestroysMissing msg s.core) (hconn : r.ConnectedOn s.core k)
    (hlen : r.payloadSize (gbMessageType msg) ≤ msg.payload.length)
    (hheap : ∀ size, env.heapAlloc s.io.heapCalls size = true)
    (hroom : 10 + manifest.length ≤ cfg.hdlcMaxBlockSize) : ¬ Corresponds env r msg s := by
  have hreq : gbMessageType msg ∈ r.requestTypes := by
    obtain ⟨rfl, htype, -⟩ := hmissing
    rw [htype]
    decide
  obtain ⟨s₁, s', k', hdr, payload, hend, hanswers, hresult⟩ :=
    answered hreq hconn hlen hheap hroom
  rintro ⟨s'', hend', hanswered, -⟩
  obtain ⟨-, rfl⟩ := hend.unique hend'
  obtain ⟨s₂, k'', hdr', payload', hanswers', hresult'⟩ := hanswered hreq
  obtain rfl := hanswers.performs.unique hanswers'.performs
  -- one block goes out, and its result is success
  obtain rfl := apBlock_hdr_inj (List.singleton_injective (hanswers.sent.unique hanswers'.sent))
  exact hmissing.not_succeeds (hresult'.mp (hresult.mpr (Or.inr hmissing)))

/-- **Requests and responses correspond**, exactly unless the request is to destroy a
connection that is not there: that is answered with success. -/
theorem corresponds_iff (hconn : ∃ k, r.ConnectedOn s.core k)
    (hlen : r.payloadSize (gbMessageType msg) ≤ msg.payload.length)
    (hheap : ∀ size, env.heapAlloc s.io.heapCalls size = true)
    (hroom : 10 + manifest.length ≤ cfg.hdlcMaxBlockSize) :
    Corresponds env r msg s ↔ ¬ r.DestroysMissing msg s.core := by
  obtain ⟨k, hconn⟩ := hconn
  refine ⟨fun h hmissing => hmissing.not_corresponds env hconn hlen hheap hroom h, fun hno => ?_⟩
  by_cases hreq : gbMessageType msg ∈ r.requestTypes
  · obtain ⟨s₁, s', k', hdr, payload, hend, hanswers, hresult⟩ :=
      Recipient.answered hreq hconn hlen hheap hroom
    rw [or_iff_left hno] at hresult
    refine ⟨s', hend, fun _ => ⟨s₁, k', hdr, payload, hanswers, hresult⟩, fun hbit => ?_⟩
    exact absurd (Recipient.and_response_of_mem hreq) hbit
  · obtain ⟨s', hend, htakes⟩ := Recipient.taken hreq hconn hlen hheap hroom
    exact ⟨s', hend, fun h => absurd h hreq, fun _ => htakes⟩

end corresponds

/-- A request to destroy the connection of a node's cport 0 to an AP cport. -/
def destroyRequest (apCport nodeId : U8) : GbMessage :=
  ⟨0, ⟨14, 1, GB_SVC_TYPE_CONN_DESTROY, 0, 0, 0⟩, [AP_INF_ID, apCport, 0, nodeId, 0, 0]⟩

lemma withSvc_connected : Recipient.svc.ConnectedOn withSvc.core ⟨0, by decide⟩ :=
  ⟨by decide +kernel, fun _ => rfl⟩

/-- The SVC's own connection, destroyed. -/
theorem corresponds_iff_own :
    Corresponds calmEnv .svc (destroyRequest 0 SVC_INF_ID) withSvc ↔
      ¬ Recipient.svc.DestroysMissing (destroyRequest 0 SVC_INF_ID) withSvc.core :=
  corresponds_iff calmEnv ⟨_, withSvc_connected⟩ (by decide) (fun _ => rfl) (by decide)

/-- A connection to AP cport 40, which has no slot: its destruction is answered with
success. -/
theorem missing_answered :
    ¬ ∀ (env : Env) (r : Recipient) (msg : GbMessage) (s : Fw .prjConf),
      (∃ k, r.ConnectedOn s.core k) → r.payloadSize (gbMessageType msg) ≤ msg.payload.length →
        (∀ size, env.heapAlloc s.io.heapCalls size = true) → Corresponds env r msg s := by
  intro h
  have hmissing : Recipient.svc.DestroysMissing (destroyRequest 40 3) withSvc.core := by
    refine ⟨rfl, rfl, ⟨3, 0, 40⟩, by decide, ?_⟩
    rintro ⟨k, hk, -⟩
    have hlt : k.val < 32 := k.isLt
    rw [hk] at hlt
    exact absurd hlt (by decide)
  exact hmissing.not_corresponds calmEnv withSvc_connected (by decide) (fun _ => rfl) (by decide)
    (h calmEnv .svc (destroyRequest 40 3) withSvc ⟨_, withSvc_connected⟩ (by decide) fun _ => rfl)

end Cc1352Greybus
