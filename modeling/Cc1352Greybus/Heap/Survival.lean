import Cc1352Greybus.Heap.Exhaustion
import Cc1352Greybus.Nodes.DestroyAll

/-!
What the firmware survives.

A frame or a node's message that nobody has checked may take a handler beyond what was
received, through a slot that is not connected, or past the assertion of
`node_destroy_all`. Everything else the firmware does by itself returns, as long as the
heap has blocks for its own messages.

* `HeapServes`: it has.
* `SystemOp.Survives`: a step returns; one that reads a socket may wait for it.
* `SystemOp.Harmless`: what its input and the tables must be for that.
* `survives_iff`: in every state the firmware reaches, a step survives exactly what is
  harmless.
-/

namespace Cc1352Greybus

open Effects PackedArray

variable {cfg : Config} (env : Env)

/-! ### Messages of the firmware's own -/

/-- The heap has a block for each size up to that of the longest message the firmware
builds by itself, the manifest. -/
def HeapServes : Prop := ∀ n size, size ≤ 8 + manifest.length → env.heapAlloc n size = true

section own

variable {env} {payload : List U8} (hheap : HeapServes env)

/-- A message is sent where it is not connected, or fits the buffer for it. -/
lemma returns_connectionSendToAp_iff {id : U8} {cport : U16} {msg : GbMessage} {s : Fw cfg} :
    Returns (connectionSendToAp id cport msg) s ↔
      ((nodeToApCport s.core.nodeApMap id cport).isSome → msg.FitsFrame cfg) := by
  simp [Returns, ends_connectionSendToAp]

/-- Something is done, and that is all. -/
lemma returns_emit_pure {α : Type} (e : Event) (a : α) (s : Fw cfg) :
    Returns (do liftIo (emit e); return a : FwM cfg α) s :=
  (returns_liftIo.mpr (Ends.emit e s.io).returns).bind fun _ s₁ _ => returns_pure a s₁

include hheap in
/-- A message is built for a payload that is not too long. -/
lemma HeapServes.builds (hlen : payload.length ≤ manifest.length) (type : U8) (id : U16)
    (status : U8) (io : Io) : ∃ msg : GbMessage, msg.payload = payload ∧ msg.Sized ∧
      Ends (do
        let msg ← gbMessageAlloc env payload.length type id status
        memcpyPayload msg payload) io (some msg) (io.afterAlloc [.alloc io.heapCalls]) := by
  have hmanifest : manifest.length = 60 := rfl
  refine ⟨_, rfl, ?_, ends_alloc_memcpy env io type id status (by omega)
    (hheap _ _ (by omega))⟩
  simp only [GbMessage.Sized, freshMessage, BitVec.toNat_ofNat]
  omega

variable (hroom : 10 + manifest.length ≤ cfg.hdlcMaxBlockSize)
include hroom

/-- Such a message fits. -/
lemma GbMessage.Sized.fitsFrame {msg : GbMessage} (h : msg.Sized)
    (hlen : msg.payload.length ≤ manifest.length) : msg.FitsFrame cfg := by
  rw [GbMessage.FitsFrame, h.payloadLen]
  exact ⟨by omega, h.holds⟩

include hheap

/-- `control_send_request` returns. -/
lemma returns_controlSendRequest (hlen : payload.length ≤ manifest.length) (type : U8)
    (s : Fw cfg) : Returns (controlSendRequest env payload type) s := by
  have hid : Ends newOperationId s.io (BitVec.ofNat 16 s.io.operationIdCounter) _ :=
    ends_modifyGet.mpr ⟨rfl, rfl⟩
  obtain ⟨msg, hpayload, hsized, halloc⟩ := hheap.builds hlen type
    (BitVec.ofNat 16 s.io.operationIdCounter) 0
    { s.io with operationIdCounter := _ }
  have hmsg : Ends (gbMessageRequestAlloc env payload type false) s.io (some msg) _ :=
    hid.bind halloc
  rw [controlSendRequest, (Ends.liftIo hmsg : Ends _ s _ _).returns_bind_iff]
  refine Returns.bind (returns_connectionSendToAp_iff.mpr fun _ =>
    hsized.fitsFrame hroom (hpayload ▸ hlen)) fun ret s₁ _ =>
      returns_ite (fun _ => returns_pure _ _) fun _ => returns_emit_pure _ _ s₁

/-- A response does. -/
lemma returns_respond (hlen : payload.length ≤ manifest.length) (id : U8) (cport : U16)
    (msg : GbMessage) (status : U8) (s : Fw cfg) :
    Returns (respond env id cport msg payload status) s := by
  obtain ⟨resp, hpayload, hsized, halloc⟩ := hheap.builds hlen
    (GB_OP_RESPONSE ||| gbMessageType msg) msg.header.operationId status s.io
  have hresp : Ends (gbMessageResponseAlloc env payload (gbMessageType msg)
    msg.header.operationId status) s.io (some resp) _ := halloc
  rw [respond, (Ends.liftIo hresp : Ends _ s _ _).returns_bind_iff]
  exact returns_discard.mpr (returns_connectionSendToAp_iff.mpr fun _ =>
    hsized.fitsFrame hroom (hpayload ▸ hlen))

/-! ### What the firmware does by itself -/

/-- The report of a node returns, whoever is reported. -/
lemma returns_svcSendModuleRemoved (p : Ptr) (s : Fw cfg) :
    Returns (svcSendModuleRemoved env p) s := by
  have hid : ∀ id : U8, [id].length ≤ manifest.length := fun _ => by simp [manifest]
  rw [svcSendModuleRemoved]
  refine (returns_liftIo.mpr (Ends.emit _ s.io).returns).bind fun _ s₁ _ => ?_
  refine (readIntf_ends p s₁).returns_bind_iff.mpr ?_
  refine (returns_controlSendRequest hheap hroom (hid _) _ _).bind fun ret s₂ _ =>
    returns_ite (fun _ => returns_pure _ _) fun _ => ?_
  exact (nodeDestroyInterface_ends env p s₂).returns_bind_iff.mpr (returns_pure _ _)

/-- So it does for the node with a socket, if there is one. -/
lemma returns_svcSendModuleRemovedBySock (sock : ℤ) (s : Fw cfg) :
    Returns (svcSendModuleRemovedBySock env sock) s := by
  rw [svcSendModuleRemovedBySock, (Ends.getCore s).returns_bind_iff]
  cases nodeCacheFindBySock s.core.nodeCache sock with
  | none => exact returns_pure _ _
  | some r => exact returns_discard.mpr (returns_svcSendModuleRemoved hheap hroom _ s)

/-- A discovery returns, whatever it finds. -/
lemma returns_nodeFilter (active : List (BitVec 128)) (s : Fw cfg) :
    Returns (nodeFilter env active) s := by
  have hone : ∀ addr s, Returns (nodeFilterOne env addr : FwM cfg Unit) s := by
    intro addr s
    rw [nodeFilterOne, (Ends.getCore s).returns_bind_iff]
    cases nodeCacheFindByAddr s.core.nodeCache addr with
    | some r => exact returns_pure _ _
    | none =>
        have hcreate : Ends (modifyGetCore fun c => c.nodeCreateInterface env addr) s _ _ :=
          ends_modifyGetCore.mpr ⟨rfl, rfl⟩
        refine hcreate.returns_bind_iff.mpr ?_
        cases (s.core.nodeCreateInterface env addr).1 with
        | none => exact returns_pure _ _
        | some inf =>
            rw [(Ends.getCore _).returns_bind_iff]
            exact returns_discard.mpr
              (returns_controlSendRequest hheap hroom (by simp [manifest]) _ _)
  induction active generalizing s with
  | nil => exact returns_pure _ _
  | cons addr active ih => exact (hone addr s).bind fun _ s₁ _ => ih s₁

/-- A request of the SVC does. -/
lemma returns_send (req : SvcRequest) (s : Fw cfg) : Returns (req.send env) s := by
  have hplain : ∀ {payload : List U8} (type : U8), payload.length ≤ manifest.length →
      Returns (controlSendRequest env payload type) s :=
    fun type hlen => returns_controlSendRequest hheap hroom hlen type s
  cases req with
  | version => exact hplain _ (by decide)
  | hello => exact hplain _ (by decide)
  | moduleInserted id => exact hplain _ (by simp [manifest])
  | moduleRemoved p => exact returns_svcSendModuleRemoved hheap hroom p s

/-! ### Messages that are handled -/

/-- A message for a node is written, or the node is reported. -/
lemma returns_nodeInfWrite (p : Ptr) {msg : GbMessage} (hmsg : msg.Sized) (cport : U16)
    (s : Fw cfg) : Returns (nodeInfWrite env p msg cport) s := by
  have hsend : ∀ sock s, Returns (gbMessageSend env sock msg cport : FwM cfg ℤ) s := by
    intro sock s
    obtain ⟨tr, calls, -, ⟨-, hends⟩ | ⟨-, hends⟩⟩ := gbMessageSend_ends env sock msg cport s
    · exact ((hends 0 _).mpr ⟨hmsg.holds, rfl, rfl⟩).returns
    · obtain ⟨_, s', hreport⟩ := returns_svcSendModuleRemovedBySock hheap hroom sock
        (⟨s.core, s.io.afterSends tr calls⟩ : Fw cfg)
      exact ((hends (-1) s').mpr ⟨rfl, hreport⟩).returns
  have hdealloc : ∀ (ret : ℤ) s, Returns (do
      liftIo (gbMessageDealloc msg)
      return ret : FwM cfg ℤ) s := returns_emit_pure _
  refine (readIntf_ends p s).returns_bind_iff.mpr ((Ends.getCore _).returns_bind_iff.mpr ?_)
  refine (hsend _ _).bind fun ret s₁ _ => returns_ite (fun _ => ?_) fun _ => hdealloc _ s₁
  exact (returns_discard.mpr (returns_svcSendModuleRemoved hheap hroom p s₁)).bind
    fun _ s₂ _ => hdealloc _ s₂

/-- A message for the local node is answered. -/
lemma returns_localIntfWrite (msg : GbMessage) (cport : U16) (s : Fw cfg) :
    Returns (localIntfWrite env msg cport) s := by
  have hdealloc : ∀ s, Returns (do
      liftIo (gbMessageDealloc msg)
      return 0 : FwM cfg ℤ) s := returns_emit_pure _ 0
  refine returns_ite (fun _ => Returns.bind ?_ fun _ s₁ _ => hdealloc s₁) fun _ => hdealloc s
  rw [controlProtocolHandle_eq]
  cases hpayload : localResponsePayload (gbMessageType msg) with
  | none => exact returns_pure _ _
  | some payload =>
      exact returns_respond hheap hroom (localResponsePayload_length hpayload) _ _ msg 0 s

/-! ### Messages for the SVC -/

/-- How much of a payload the SVC's handler of a type reads. -/
def svcReads (type : U8) : ℕ :=
  if type = GB_SVC_TYPE_CONN_CREATE ∨ type = GB_SVC_TYPE_CONN_DESTROY then 6
  else if type = GB_SVC_TYPE_INTF_SET_PWRM then 8
  else if type = GB_SVC_TYPE_PROTOCOL_VERSION ||| GB_OP_RESPONSE then 2
  else 0

omit hheap hroom in
/-- A message is looked at within its payload, or beyond it. -/
lemma returns_svcAnswer_iff (msg : GbMessage) (s : Fw cfg) :
    Returns (svcAnswer env msg) s ↔ svcReads (gbMessageType msg) ≤ msg.payload.length := by
  -- a type that reads so many bytes reads beyond a shorter payload
  have hbeyond : ∀ {m : FwM cfg SvcReply} {n : ℕ}, Stops m s .outOfBounds →
      msg.payload.length < n → (Returns m s ↔ n ≤ msg.payload.length) :=
    fun hstops hlt => iff_of_false hstops.not_returns (not_le.mpr hlt)
  rcases svcAnswer_cases env cfg msg with ⟨htype, hanswer⟩ | ⟨htype, hanswer⟩ | ⟨htype, hanswer⟩ |
    ⟨htype, hanswer⟩ | ⟨hcreate, hdestroy, hpwrm, hversion, hanswer⟩
  · rw [hanswer, htype, show svcReads GB_SVC_TYPE_CONN_CREATE = 6 from rfl]
    rcases lt_or_ge msg.payload.length 6 with hlt | hle
    · exact hbeyond (stops_create_iff.mpr hlt) hlt
    · refine iff_of_true ?_ hle
      rw [svcConnectionCreateAnswer_of_le hle]
      refine returns_ite (fun _ => returns_pure _ _) fun _ => ?_
      exact Returns.bind (exists_ends_connectionCreate env _ _ _ _ s)
        fun _ s₁ _ => returns_pure _ s₁
  · rw [hanswer, htype, show svcReads GB_SVC_TYPE_CONN_DESTROY = 6 from rfl]
    rcases lt_or_ge msg.payload.length 6 with hlt | hle
    · exact hbeyond (stops_destroy_iff.mpr hlt) hlt
    · refine iff_of_true ?_ hle
      rw [svcConnectionDestroyAnswer_of_le hle]
      exact Returns.bind (exists_ends_connectionDestroy _ _ _ _ s)
        fun _ s₁ _ => returns_pure _ s₁
  · rw [hanswer, htype, show svcReads GB_SVC_TYPE_INTF_SET_PWRM = 8 from rfl]
    rcases svcIntfSetPwrmAnswer_cases msg s with ⟨hlt, hstops⟩ | ⟨hle, resultCode, hres⟩
    · exact hbeyond hstops hlt
    · rw [hres]
      exact iff_of_true (returns_pure _ s) hle
  · have htwo : svcReads (GB_SVC_TYPE_PROTOCOL_VERSION ||| GB_OP_RESPONSE) = 2 := rfl
    rw [hanswer, htype, htwo]
    rcases svcVersionResponseAnswer_cases msg s with ⟨hlt, hstops⟩ | ⟨hle, hres⟩
    · exact hbeyond hstops hlt
    · rw [hres]
      exact iff_of_true (returns_pure _ s) hle
  -- no other type reads the payload
  · have hnone : svcReads (gbMessageType msg) = 0 := by
      rw [svcReads, if_neg (not_or.mpr ⟨hcreate, hdestroy⟩), if_neg hpwrm, if_neg hversion]
    rw [hnone]
    refine iff_of_true ?_ (Nat.zero_le _)
    rcases hanswer with ⟨-, payload, -, hanswer⟩ | ⟨-, -, -, hanswer⟩
    · rw [hanswer]
      exact returns_pure _ s
    · rw [hanswer]
      exact returns_pure _ s

/-- **The SVC** returns from a message for its cport 0 exactly when the payload has what the
handler of its type reads. -/
lemma returns_svcInfWrite_iff (msg : GbMessage) (s : Fw cfg) :
    Returns (svcInfWrite env msg 0) s ↔ svcReads (gbMessageType msg) ≤ msg.payload.length := by
  have hlooks : Returns (svcAnswer env msg) s ↔ _ := returns_svcAnswer_iff msg s
  rw [svcInfWrite_eq, ← hlooks, returns_bind]
  constructor
  · rintro ⟨reply, s₁, hanswer, -⟩
    exact hanswer.returns
  · rintro ⟨reply, s₁, hanswer⟩
    refine ⟨reply, s₁, hanswer, Returns.bind ?_ fun _ s₂ _ => ?_⟩
    · have hshort : ∀ payload, reply.payload = some payload →
          payload.length ≤ manifest.length := by
        intro payload hpayload
        rw [(svcAnswer_payload_length hanswer hpayload).1]
        exact (svcReplySize_le msg).trans (by decide)
      cases reply with
      | nothing => exact returns_pure _ _
      | hello =>
          exact returns_discard.mpr (returns_controlSendRequest hheap hroom (hshort _ rfl) _ _)
      | response payload status =>
          exact returns_respond hheap hroom (hshort _ rfl) _ _ msg status s₁
    · exact returns_emit_pure _ 0 s₂

/-! ### Messages of the AP -/

/-- An AP cport takes a payload of a type: it has a slot, which is connected, and if it is with
the SVC's cport 0 the handler finds what it reads. -/
def TakesPayload (c : Core cfg) (apCport : U16) (type : U8) (len : ℕ) : Prop :=
  ∃ (slot : Fin cfg.apMaxNodes) (intf : IntfPtr), slot.val = apCport.toNat ∧
    (c.nodeApMap slot).nodeIntf = some intf ∧
    (intf = .svc → (c.nodeApMap slot).nodeCport = 0 → svcReads type ≤ len)

/-- A message of the AP returns exactly where its cport takes it. -/
lemma returns_connectionSend_ap_iff {msg : GbMessage} (hmsg : msg.Sized) (apCport : U16)
    (s : Fw cfg) : Returns (connectionSend env AP_INF_ID apCport msg) s ↔
      TakesPayload s.core apCport (gbMessageType msg) msg.payload.length := by
  rw [connectionSend, if_pos rfl, connectionSendFromAp,
    (Ends.liftIo (Ends.emit _ s.io) : Ends _ s _ _).returns_bind_iff,
    (Ends.getCore _).returns_bind_iff]
  dsimp only
  -- beyond `node_ap_map` the slot is read out of bounds
  by_cases hlt : apCport.toNat < cfg.apMaxNodes
  swap
  · rw [dif_neg hlt]
    refine iff_of_false (not_returns_throw _ _) ?_
    rintro ⟨slot, intf, hslot, -⟩
    exact hlt (hslot ▸ slot.isLt)
  rw [dif_pos hlt]
  have hslot : ∀ {slot : Fin cfg.apMaxNodes}, slot.val = apCport.toNat →
      slot = ⟨apCport.toNat, hlt⟩ := fun h => Fin.ext h
  -- an empty slot has no interface to call
  cases hintf : (s.core.nodeApMap ⟨apCport.toNat, hlt⟩).nodeIntf with
  | none =>
      refine iff_of_false (not_returns_throw _ _) ?_
      rintro ⟨slot, intf, hval, h, -⟩
      rw [hslot hval, hintf] at h
      cases h
  | some intf =>
      have htakes : TakesPayload s.core apCport (gbMessageType msg) msg.payload.length ↔
          (intf = .svc → (s.core.nodeApMap ⟨apCport.toNat, hlt⟩).nodeCport = 0 →
            svcReads (gbMessageType msg) ≤ msg.payload.length) := by
        constructor
        · rintro ⟨slot, intf', hval, h, htake⟩
          rw [hslot hval] at h htake
          obtain rfl := Option.some.inj (h.symm.trans hintf)
          exact htake
        · exact fun htake => ⟨_, intf, rfl, hintf, htake⟩
      rw [htakes]
      cases intf with
      | svc =>
          by_cases hcport : (s.core.nodeApMap ⟨apCport.toNat, hlt⟩).nodeCport = 0
          · dsimp only [intfWrite]
            rw [hcport, returns_svcInfWrite_iff hheap hroom]
            simp
          · refine iff_of_true ?_ fun _ h => absurd h hcport
            dsimp only [intfWrite]
            rw [svcInfWrite, if_pos hcport]
            exact returns_pure _ _
      | localNode =>
          exact iff_of_true (returns_localIntfWrite hheap hroom msg _ _) fun h => by cases h
      | node p =>
          exact iff_of_true (returns_nodeInfWrite hheap hroom p hmsg _ _) fun h => by cases h

/-! ### Frames -/

variable (env) in
/-- A Greybus frame has its size field; and if that is not refused, the rest of the header is
there; and if a block is granted for it, it speaks of a header at least and no more than the
buffer holds, and the cport takes the payload. -/
def GreybusHarmless (s : Fw cfg) (buffer : List U8) (n : ℕ) : Prop :=
  4 ≤ buffer.length ∧ ((frameHdr buffer).size.toNat ≤ (n + 2 ^ 32 - 2) % 2 ^ 32 →
    8 ≤ buffer.length ∧ (HeapGrants env s.io (frameHdr buffer).size.toNat →
      8 ≤ (frameHdr buffer).size.toNat ∧ (frameHdr buffer).size.toNat + 2 ≤ buffer.length ∧
        TakesPayload s.core (frameCport buffer) (frameHdr buffer).type
          ((frameHdr buffer).size.toNat - 8)))

/-- **A Greybus frame** returns exactly if it is harmless. -/
lemma returns_hdlcProcessGreybusFrame_iff (buffer : List U8) (n : ℕ) (s : Fw cfg) :
    Returns (hdlcProcessGreybusFrame env buffer n) s ↔ GreybusHarmless env s buffer n := by
  have hstops : Stops (greybusFrameMsg env buffer n) s.io .outOfBounds →
      ¬ Returns (hdlcProcessGreybusFrame env buffer n) s := by
    intro h
    rw [hdlcProcessGreybusFrame_eq]
    exact (stops_bind.mpr (Or.inl (stops_liftIo.mpr h))).not_returns
  have hends : ∀ {r io}, Ends (greybusFrameMsg env buffer n) s.io r io →
      (Returns (hdlcProcessGreybusFrame env buffer n) s ↔
        Returns (submitFrame env r) ⟨s.core, io⟩) := by
    intro r io h
    rw [hdlcProcessGreybusFrame_eq, (Ends.liftIo h : Ends _ s _ _).returns_bind_iff]
  by_cases h4 : 4 ≤ buffer.length
  swap
  · refine iff_of_false (hstops ?_) fun h => h4 h.1
    rw [greybusFrameMsg, if_pos (by omega), stops_throw]
  by_cases hsize : (frameHdr buffer).size.toNat ≤ (n + 2 ^ 32 - 2) % 2 ^ 32
  swap
  · have hnone : Ends (greybusFrameMsg env buffer n) s.io none s.io := by
      rw [greybusFrameMsg, if_neg (by omega), if_pos (not_le.mp hsize)]
      exact Ends.pure _ _
    exact iff_of_true ((hends hnone).mpr (returns_pure _ _)) ⟨h4, fun h => absurd h hsize⟩
  by_cases h8 : 8 ≤ buffer.length
  swap
  · refine iff_of_false (hstops ?_) fun h => h8 (h.2 hsize).1
    rw [greybusFrameMsg, if_neg (by omega), if_neg (not_lt.mpr hsize), if_pos (by omega),
      stops_throw]
  by_cases hgrants : HeapGrants env s.io (frameHdr buffer).size.toNat
  swap
  · refine iff_of_true ?_ ?_
    · exact (hends (greybusFrameMsg_refused h8 hsize hgrants)).mpr (returns_pure _ _)
    · exact ⟨h4, fun _ => ⟨h8, fun h => absurd h hgrants⟩⟩
  rcases lt_or_ge (frameHdr buffer).size.toNat 8 with hsmall | hlarge
  · -- the header is written beyond the block
    exact iff_of_false (hstops (greybusFrameMsg_overruns h8 hsize hgrants hsmall))
      fun h => absurd ((h.2 hsize).2 hgrants).1 (not_le.mpr hsmall)
  obtain ⟨len, hlen⟩ : ∃ len, (frameHdr buffer).size.toNat = len + 8 :=
    ⟨_, (Nat.sub_add_cancel hlarge).symm⟩
  by_cases hbuf : len + 10 ≤ buffer.length
  · have hmsg : (frameMsg env s.io.heapCalls buffer len).Sized := frameMsg_sized hlen hbuf
    have hpayload : (frameMsg env s.io.heapCalls buffer len).payload.length = len := by
      rw [frameMsg, List.length_take, List.length_drop]
      omega
    rw [hends (greybusFrameMsg_taken hlen hbuf hsize hgrants), submitFrame,
      returns_bind_of_forall fun ret s' => returns_ite (fun _ => returns_pure _ _)
        fun _ => returns_pure _ _, returns_connectionSend_ap_iff hheap hroom hmsg, hpayload]
    have hsub : (frameHdr buffer).size.toNat - 8 = len := by omega
    rw [GreybusHarmless, hsub]
    exact ⟨fun h => ⟨h4, fun _ => ⟨h8, fun _ => ⟨hlarge, by omega, h⟩⟩⟩,
      fun h => ((h.2 hsize).2 hgrants).2.2⟩
  · -- the payload is read beyond the buffer
    refine iff_of_false (hstops ?_) fun h => hbuf ?_
    · rw [greybusFrameMsg, if_neg (by omega), if_neg (not_lt.mpr hsize), if_neg (by omega),
        (gbMessageAlloc_hdr_granted hgrants (by omega)).stops_bind_iff]
      dsimp only
      rw [hdrMessage_payloadLen, gbHdrPayloadLen_of_size hlen, if_pos (by omega), stops_throw]
    · have := ((h.2 hsize).2 hgrants).2.1
      omega

omit hheap hroom in
/-- The nodes are all destroyed, or the assertion fails. -/
lemma returns_nodeDestroyAll_iff (hapi : env.slabFreeApi = .pointee) {s : Fw cfg}
    (hpools : PoolsInUse s.core) :
    Returns (nodeDestroyAll env) s ↔ s.core.nodeCache.length ≤ 1 := by
  constructor
  · rintro ⟨_, s', h⟩
    exact ((nodeDestroyAll_ends env hapi hpools).mp h).1
  · intro hone
    obtain ⟨s₁, hloop, hpools₁, hleft⟩ := nodeDestroyAllLoop_ends env hapi s.core.nodeCache.length 0
      hpools (Nat.zero_le _) (by omega)
    have hnil : s₁.core.nodeCache = [] := List.length_eq_zero_iff.mp (by omega)
    exact ((nodeDestroyAll_ends env hapi hpools).mpr ⟨hone, s₁, hloop, hpools₁, hnil, rfl⟩).returns

/-- A control frame of one byte has it, and there is at most one node to be stopped. -/
def ControlHarmless (c : Core cfg) (buffer : List U8) (n : ℕ) : Prop :=
  n = 1 → ∃ command, buffer[0]? = some command ∧
    (command = CONTROL_SVC_STOP → c.nodeCache.length ≤ 1)

/-- **A control frame** returns exactly if it is harmless. -/
lemma returns_controlProcessFrame_iff {buffer : List U8} {n : ℕ} {s : Fw cfg}
    (hstop : buffer[0]? = some CONTROL_SVC_STOP →
      env.slabFreeApi = .pointee ∧ PoolsInUse s.core) :
    Returns (controlProcessFrame env buffer n) s ↔ ControlHarmless s.core buffer n := by
  rw [controlProcessFrame]
  -- a frame of another length than one is left alone
  by_cases hn : n = 1
  swap
  · rw [if_pos hn]
    exact iff_of_true (returns_pure _ _) fun h => absurd h hn
  rw [if_neg (not_not.mpr hn)]
  -- without a byte, the command is read beyond the buffer
  cases hcommand : buffer[0]? with
  | none =>
      refine iff_of_false (not_returns_throw _ _) fun h => ?_
      obtain ⟨command, hsome, -⟩ := h hn
      rw [hcommand] at hsome
      cases hsome
  | some command =>
      have hharmless : ControlHarmless s.core buffer n ↔
          (command = CONTROL_SVC_STOP → s.core.nodeCache.length ≤ 1) := by
        constructor
        · intro h
          obtain ⟨command', hsome, hone⟩ := h hn
          obtain rfl := Option.some.inj (hsome.symm.trans hcommand)
          exact hone
        · exact fun h _ => ⟨command, hcommand, h⟩
      rw [hharmless]
      dsimp only
      by_cases hstart : command = CONTROL_SVC_START
      · rw [if_pos hstart]
        -- a start connects the SVC and asks for its version
        refine iff_of_true ?_ fun h => absurd (hstart.symm.trans h) (by decide)
        refine (Ends.modifyCore _ s).returns_bind_iff.mpr ?_
        refine Returns.bind (exists_ends_connectionCreate env _ _ _ _ _) fun ret s₁ _ =>
          returns_ite (fun _ => returns_pure _ _) fun _ => ?_
        exact (returns_discard.mpr (returns_send hheap hroom .version s₁)).bind
          fun _ s₂ _ => returns_emit_pure _ 0 s₂
      rw [if_neg hstart]
      by_cases hcmd : command = CONTROL_SVC_STOP
      swap
      · rw [if_neg hcmd]
        exact iff_of_true (returns_pure _ _) fun h => absurd h hcmd
      · obtain ⟨hapi, hpools⟩ := hstop (hcommand.trans (congrArg some hcmd))
        rw [if_pos hcmd, (Ends.liftIo (Ends.emit _ s.io) : Ends _ s _ _).returns_bind_iff,
          returns_bind_of_forall fun _ s₁ => ?_]
        -- a stop destroys the nodes, which must be one at most
        · have hall := returns_nodeDestroyAll_iff hapi
            (s := ⟨s.core, s.io.logged [.tcpDiscovery false]⟩) hpools
          exact hall.trans ⟨fun h _ => h, fun h => h hcmd⟩
        · exact (Ends.modifyCore _ s₁).returns_bind_iff.mpr
            ((Ends.modifyCore _ _).returns_bind_iff.mpr (returns_pure _ _))

omit hheap in
/-- **A frame** returns exactly if what it is for finds it harmless. -/
lemma returns_mainProcessCompleteFrame_iff {f : RxFrame} {s : Fw cfg}
    (hheap : HeapServes env) (hstop : f.address = ADDRESS_CONTROL →
      f.buffer[0]? = some CONTROL_SVC_STOP → env.slabFreeApi = .pointee ∧ PoolsInUse s.core) :
    Returns (mainProcessCompleteFrame env f) s ↔
      (f.address = ADDRESS_GREYBUS → GreybusHarmless env s f.buffer f.len) ∧
        (f.address = ADDRESS_CONTROL → ControlHarmless s.core f.buffer f.len) := by
  rw [mainProcessCompleteFrame]
  by_cases hgreybus : f.address = ADDRESS_GREYBUS
  · rw [if_pos hgreybus, returns_hdlcProcessGreybusFrame_iff hheap hroom]
    refine ⟨fun h => ⟨fun _ => h, fun hcontrol => ?_⟩, fun h => h.1 hgreybus⟩
    exact absurd (hgreybus.symm.trans hcontrol) (by decide)
  rw [if_neg hgreybus]
  by_cases hcontrol : f.address = ADDRESS_CONTROL
  · rw [if_pos hcontrol, returns_controlProcessFrame_iff hheap hroom (hstop hcontrol)]
    exact ⟨fun h => ⟨fun hg => absurd hg hgreybus, fun _ => h⟩, fun h => h.2 hcontrol⟩
  rw [if_neg hcontrol]
  refine iff_of_true (returns_ite (fun _ => returns_pure _ _) fun _ => returns_pure _ _) ?_
  exact ⟨fun h => absurd h hgreybus, fun h => absurd h hcontrol⟩

end own

/-! ### Streams -/

section streams

/-- The header of a stream, by its first bytes. -/
lemma frameCport_append {c rest : List U8} (hc : c.length = 2) :
    le16 (frameCport (c ++ rest)) = c := by
  obtain ⟨a, b, rfl⟩ := List.length_eq_two.mp hc
  exact le16_ofLe16 a b

/-- A stream that is long enough starts with the message its header speaks of. -/
lemma stream_split {stream : List U8} {len : ℕ}
    (hlen : (frameHdr stream).size.toNat = len + 8) (hle : len + 10 ≤ stream.length) :
    stream = greybusFrame (frameCport stream) (frameHdr stream) ((stream.drop 10).take len) ++
      stream.drop (len + 10) := by
  have hsplit : stream = stream.take 2 ++ ((stream.drop 2).take 8 ++ stream.drop 10) := by
    conv_lhs => rw [← List.take_append_drop 2 stream, ← List.take_append_drop 8 (stream.drop 2),
      List.drop_drop]
  have hc : (stream.take 2).length = 2 := List.length_take_of_le (by omega)
  have hh : ((stream.drop 2).take 8).length = 8 :=
    List.length_take_of_le (by rw [List.length_drop]; omega)
  have hcport : le16 (frameCport stream) = stream.take 2 := by
    conv_lhs => rw [hsplit]
    exact frameCport_append hc
  have hhdr : (frameHdr stream).bytes = (stream.drop 2).take 8 := by
    conv_lhs => rw [hsplit]
    rw [frameHdr_append hc hh, bytes_ofBytes hh]
  have hpayload : stream.drop 10 = (stream.drop 10).take len ++ stream.drop (len + 10) := by
    rw [Nat.add_comm len 10, ← List.drop_drop, List.take_append_drop]
  rw [greybusFrame, hcport, hhdr, List.append_assoc, List.append_assoc, ← hpayload, ← hsplit]

variable {env} {fd : ℤ} {flag flag' : Bool} {io io' : Io} {cport : U16} {msg : GbMessage}

/-- The cport and the header of a stream, by its first bytes. -/
lemma frame_of_stream {stream payload rest : List U8} {hdr : GbOperationMsgHdr}
    (h : stream = greybusFrame cport hdr payload ++ rest) :
    frameCport stream = cport ∧ frameHdr stream = hdr := by
  rw [greybusFrame, List.append_assoc, List.append_assoc] at h
  rw [h, frameHdr_append (le16_length _) hdr.bytes_length]
  exact ⟨ofLe16_le16_append cport _, by simpa using GbOperationMsgHdr.ofBytes_bytes_append hdr []⟩

/-- A message that is received is the one the stream starts with, in a block that was
granted for it, or a cut one. -/
lemma gbMessageReceive_stream
    (h : Ends (gbMessageReceive env fd flag) io (some (cport, msg), flag') io') :
    flag' = flag ∧ 0 ≤ fd ∧ cport = frameCport (streamBytes (io.rx fd)) ∧
      (msg.Sized ∧ (frameHdr (streamBytes (io.rx fd))).size.toNat = msg.payload.length + 8 ∧
          msg.payload.length + 10 ≤ (streamBytes (io.rx fd)).length ∧
          HeapGrants env io (frameHdr (streamBytes (io.rx fd))).size.toNat ∨
        msg.Cut ∧ CutGranted env fd io) := by
  rcases gbMessageReceive_tidy env h with
    ⟨hnone, -⟩ | ⟨cport', msg', hdr, hr, -, hfields, hfd, ⟨hsize, hsplit⟩ | ⟨hnil, hcut⟩, -⟩
  · cases hnone
  · obtain ⟨hmsg, rfl⟩ := Prod.mk.inj hr
    obtain ⟨rfl, rfl⟩ := Prod.mk.inj (Option.some.inj hmsg)
    obtain ⟨hcport, hhdr⟩ := frame_of_stream hsplit
    have hframe : greybusFrame cport hdr msg.payload ++ streamBytes (io'.rx fd) =
        greybusFrame cport hdr [] ++ (msg.payload ++ streamBytes (io'.rx fd)) := by
      simp only [greybusFrame, List.append_nil, List.append_assoc]
    refine ⟨rfl, hfd, hcport.symm, Or.inl ⟨?_, by rw [hhdr, hsize], ?_, ?_⟩⟩
    · rw [GbMessage.Sized, (Prod.mk.inj hfields).1, hsize]
    · rw [hsplit, List.length_append, greybusFrame_length]
      omega
    · rw [hhdr]
      exact heapGrants_of_gbMessageReceive env hfd (hsplit.trans hframe) h
  · obtain ⟨hmsg, rfl⟩ := Prod.mk.inj hr
    obtain ⟨rfl, rfl⟩ := Prod.mk.inj (Option.some.inj hmsg)
    have hsplit := hcut.split.trans (List.append_nil _).symm
    refine ⟨rfl, hfd, (frame_of_stream hsplit).1.symm, Or.inr ⟨hcut.cut hfields hnil, hfd,
      ⟨cport, hdr, hcut⟩, ?_⟩⟩
    rw [← hcut.size]
    exact heapGrants_of_gbMessageReceive env hfd hsplit h

/-- The message a stream starts with is received, if a block is granted for it. -/
lemma gbMessageReceive_of_stream (flag : Bool) (hfd : 0 ≤ fd) {len : ℕ}
    (hlen : (frameHdr (streamBytes (io.rx fd))).size.toNat = len + 8)
    (hle : len + 10 ≤ (streamBytes (io.rx fd)).length)
    (hheap : HeapGrants env io (frameHdr (streamBytes (io.rx fd))).size.toNat) :
    ∃ msg io', msg.Sized ∧ msg.payload.length = len ∧ Ends (gbMessageReceive env fd flag) io
      (some (frameCport (streamBytes (io.rx fd)), msg), flag) io' := by
  have hpayload : (((streamBytes (io.rx fd)).drop 10).take len).length = len :=
    List.length_take_of_le (by rw [List.length_drop]; omega)
  obtain ⟨msg, rx', hfields, hmsg, -, hend⟩ := gbMessageReceive_full env hfd flag
    (by rw [hpayload, hlen]) (stream_split hlen hle)
    (by rw [hpayload, Nat.add_comm, ← hlen]; exact hheap.2)
  refine ⟨msg, _, ?_, by rw [hmsg, hpayload], hend⟩
  rw [GbMessage.Sized, (Prod.mk.inj hfields).1, hlen, hmsg, hpayload]

end streams

/-! ### Sockets -/

/-- The stream of a node starts with a message that is connected to the AP and for which a
block is granted, but which is too long for the buffer towards the AP. -/
def OversizedGranted (s : Fw cfg) (fd : ℤ) (id : U8) : Prop :=
  0 ≤ fd ∧ 8 ≤ (frameHdr (streamBytes (s.io.rx fd))).size.toNat ∧
    (frameHdr (streamBytes (s.io.rx fd))).size.toNat + 2 ≤ (streamBytes (s.io.rx fd)).length ∧
    HeapGrants env s.io (frameHdr (streamBytes (s.io.rx fd))).size.toNat ∧
    (nodeToApCport s.core.nodeApMap id (frameCport (streamBytes (s.io.rx fd)))).isSome ∧
    cfg.hdlcMaxBlockSize < (frameHdr (streamBytes (s.io.rx fd))).size.toNat + 2

/-- All there is on the stream of a node is a header of size 7, which is connected to the AP and
for which a block is granted, and then it fails. -/
def CutPassedOn (s : Fw cfg) (fd : ℤ) (id : U8) : Prop :=
  CutGranted env fd s.io ∧
    (nodeToApCport s.core.nodeApMap id (frameCport (streamBytes (s.io.rx fd)))).isSome

/-- A socket with something to read, if it is a node's, gives no less than a header and no more
than the buffer towards the AP holds. -/
def SocketHarmless (s : Fw cfg) (fd : ℤ) (r : Revents) (flag : Bool) : Prop :=
  ¬ r.Bad → r.pollin = true → ∀ i e, nodeCacheFindBySock s.core.nodeCache fd = some (i, e) →
    ¬ UndersizedGranted env fd s.io ∧
      (flag = false → ¬ OversizedGranted env s fd e.id ∧ ¬ CutPassedOn env s fd e.id)

/-- A program returns, or waits. -/
def ReturnsOrWaits {α : Type} (m : FwM cfg α) (s : Fw cfg) : Prop :=
  ∀ f, Stops m s f → f = .blocked

section sockets

variable {env} (hheap : HeapServes env) (hroom : 10 + manifest.length ≤ cfg.hdlcMaxBlockSize)
include hheap hroom

/-- **A read** of a node's socket returns, or waits, exactly if the stream is harmless. -/
lemma returnsOrWaits_nodeRxReceive_iff {fd : ℤ} {e : NodeItem} {flag : Bool} {s : Fw cfg}
    (hid : e.id ≠ AP_INF_ID) : ReturnsOrWaits (nodeRxReceive env fd e flag) s ↔
      ¬ UndersizedGranted env fd s.io ∧
        (flag = false → ¬ OversizedGranted env s fd e.id ∧ ¬ CutPassedOn env s fd e.id) := by
  have hfits : ∀ {msg : GbMessage}, msg.Sized → (msg.FitsFrame cfg ↔
      ¬ cfg.hdlcMaxBlockSize < msg.payload.length + 10) := by
    intro msg hmsg
    rw [GbMessage.FitsFrame, hmsg.payloadLen, and_iff_left hmsg.holds]
    omega
  constructor
  · intro hwaits
    constructor
    · intro hunder
      have hstops : Stops (nodeRxReceive env fd e flag) s .outOfBounds :=
        stops_bind.mpr (Or.inl (stops_liftIo.mpr ((stops_gbMessageReceive env).mpr hunder)))
      cases hwaits _ hstops
    rintro rfl
    -- a message that is received for a slot has to fit the buffer
    have hpassed : ∀ {msg : GbMessage} {io' : Io},
        Ends (gbMessageReceive env fd false) s.io
          (some (frameCport (streamBytes (s.io.rx fd)), msg), false) io' →
        (nodeToApCport s.core.nodeApMap e.id (frameCport (streamBytes (s.io.rx fd)))).isSome →
        msg.FitsFrame cfg := by
      intro msg io' hend hlink
      by_contra hnofit
      have hnot : ¬ Returns (connectionSendToAp e.id (frameCport (streamBytes (s.io.rx fd))) msg)
          (⟨s.core, io'⟩ : Fw cfg) := by
        rw [returns_connectionSendToAp_iff]
        exact fun h => hnofit (h hlink)
      obtain ⟨f, hf⟩ := (returns_or_stops _ _).resolve_left hnot
      have hstops : Stops (nodeRxReceive env fd e false) s f := by
        rw [nodeRxReceive, (Ends.liftIo hend : Ends _ s _ _).stops_bind_iff, nodeRxHandle,
          if_neg Bool.false_ne_true]
        dsimp only
        rw [connectionSend, if_neg hid]
        exact stops_bind.mpr (Or.inl (stops_discard.mpr hf))
      obtain rfl := hwaits f hstops
      exact avoids_connectionSendToAp (by decide) _ _ _ _ hf
    constructor
    · rintro ⟨hfd, h8, hle, hgrants, hlink, hlong⟩
      obtain ⟨len, hlen⟩ : ∃ len, (frameHdr (streamBytes (s.io.rx fd))).size.toNat = len + 8 :=
        ⟨_, (Nat.sub_add_cancel h8).symm⟩
      obtain ⟨msg, io', hmsg, hpayload, hend⟩ := gbMessageReceive_of_stream false hfd hlen
        (by omega) hgrants
      exact (hfits hmsg).mp (hpassed hend hlink) (by omega)
    · rintro ⟨⟨hfd, ⟨cport, hdr, hcut⟩, hgrants⟩, hlink⟩
      obtain ⟨io', hend, -⟩ := gbMessageReceive_cut hfd false hcut hgrants.2
      obtain ⟨hcport, -⟩ := frame_of_stream (hcut.split.trans (List.append_nil _).symm)
      rw [← hcport] at hend
      have hfields : (hdrMessage env hdr s.io.heapCalls).header.fields = hdr.fields :=
        hdrMessage_fields _
      have hmsg := hcut.cut hfields
        (List.eq_nil_of_length_eq_zero (by rw [hdrMessage_payload_length, hcut.size]))
      exact hmsg.not_holds (hpassed hend hlink).2
  · rintro ⟨hunder, hpassed⟩ f hstops
    rcases stops_bind.mp hstops with h | ⟨⟨m, b⟩, s₁, h₁, h⟩
    · by_contra hwait
      rw [stops_liftIo] at h
      by_cases hbounds : f = .outOfBounds
      · rw [hbounds] at h
        exact hunder ((stops_gbMessageReceive env).mp h)
      · exact avoids_gbMessageReceive env (Ne.symm hwait) (Ne.symm hbounds) _ _ _ h
    -- what has been received is passed on, or its node is reported
    exfalso
    have hreport : ∀ b : Bool, ¬ Stops (do
        discard (svcSendModuleRemoved env e.inf)
        return b : FwM cfg Bool) s₁ f := fun b =>
      Returns.not_stops ((returns_discard.mpr (returns_svcSendModuleRemoved hheap hroom e.inf
        s₁)).bind fun _ s₂ _ => returns_pure _ s₂) f
    obtain ⟨io, hreceive, rfl⟩ := ends_liftIo.mp h₁
    rw [nodeRxHandle] at h
    dsimp only at h
    by_cases hb : b = true
    · rw [if_pos hb] at h
      exact hreport b h
    rw [if_neg hb] at h
    cases m with
    | none => exact hreport b h
    | some m =>
        obtain ⟨cport, msg⟩ := m
        obtain ⟨rfl, hfd, rfl, hmsg⟩ := gbMessageReceive_stream hreceive
        obtain ⟨hover, hcut⟩ := hpassed (Bool.eq_false_iff.mpr hb)
        refine Returns.not_stops (Returns.bind (returns_discard.mpr ?_) fun _ s₂ _ =>
          returns_pure _ s₂) f h
        rw [connectionSend, if_neg hid, returns_connectionSendToAp_iff]
        intro hlink
        rcases hmsg with ⟨hsized, hsize, hle, hgrants⟩ | ⟨-, hgranted⟩
        · refine (hfits hsized).mpr fun hlong => hover ⟨hfd, by omega, by omega, hgrants, hlink, ?_⟩
          omega
        · exact absurd ⟨hgranted, hlink⟩ hcut

/-- **A socket** that is served returns, or waits, exactly if it is harmless. -/
lemma returnsOrWaits_nodeRxServe_iff {fd : ℤ} {r : Revents} {flag : Bool} {s : Fw cfg}
    (hids : IdsIssued s.core) :
    ReturnsOrWaits (nodeRxServe env fd r flag) s ↔ SocketHarmless env s fd r flag := by
  have hreturns : ∀ {m : FwM cfg Bool}, Returns m s → ReturnsOrWaits m s :=
    fun h f hstops => absurd hstops (h.not_stops f)
  by_cases hbad : r.Bad
  · rw [nodeRxServe_bad hbad]
    refine iff_of_true (hreturns ?_) fun h => absurd hbad h
    exact (returns_svcSendModuleRemovedBySock hheap hroom fd s).bind
      fun _ s₁ _ => returns_pure _ s₁
  rw [nodeRxServe_good hbad]
  by_cases hin : r.pollin = true
  swap
  · rw [if_neg hin]
    exact iff_of_true (hreturns (returns_pure _ s)) fun _ h => absurd h hin
  rw [if_pos hin]
  have hget : ∀ {k : Core cfg → FwM cfg Bool}, ReturnsOrWaits (getCore >>= k) s ↔
      ReturnsOrWaits (k s.core) s := fun {k} =>
    forall_congr' fun f => by rw [(Ends.getCore s).stops_bind_iff]
  rw [hget]
  -- it is read for the node it is found at
  cases hfind : nodeCacheFindBySock s.core.nodeCache fd with
  | none =>
      refine iff_of_true (hreturns (returns_pure _ s)) fun _ _ i e h => ?_
      rw [hfind] at h
      cases h
  | some x =>
      obtain ⟨i, e⟩ := x
      obtain ⟨hmem, -⟩ := findEntry_some hfind
      dsimp only
      rw [returnsOrWaits_nodeRxReceive_iff hheap hroom (hids.ne hmem).2]
      constructor
      · intro h _ _ i' e' h'
        obtain ⟨-, rfl⟩ := Prod.mk.inj (Option.some.inj (hfind.symm.trans h'))
        exact h
      · exact fun h => h hbad hin i e hfind

end sockets

/-! ### Steps -/

namespace SystemOp

/-- A socket that is read has to be waited for. -/
def Waits (s : Fw cfg) : SystemOp → Prop
  | .serve fd r flag => Stops (nodeRxServe env fd r flag) s .blocked
  | _ => False

/-- A step can be taken to its end, or waits for the socket it reads. -/
def Survives (s : Fw cfg) (op : SystemOp) : Prop := (∃ s', systemStep env s op s') ∨ op.Waits env s

/-- What a step reads of its input is there, fits and is connected. -/
def Harmless (s : Fw cfg) : SystemOp → Prop
  | .frame f =>
    (f.address = ADDRESS_GREYBUS → GreybusHarmless env s f.buffer f.len) ∧
      (f.address = ADDRESS_CONTROL → ControlHarmless s.core f.buffer f.len)
  | .serve fd r flag => SocketHarmless env s fd r flag
  | _ => True

/-- The AP stops the SVC. -/
def IsStop : SystemOp → Prop
  | .frame f => f.address = ADDRESS_CONTROL ∧ f.buffer[0]? = some CONTROL_SVC_STOP
  | _ => False

end SystemOp

end Cc1352Greybus
