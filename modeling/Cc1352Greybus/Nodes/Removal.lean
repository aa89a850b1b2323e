import Cc1352Greybus.Greybus.Node
import Cc1352Greybus.Lib.Pool

/-!
What a report that a node is gone does, event by event, and what a write that
fails does with it.

* `controlSendRequest_ends`, `svcSendModuleRemoved_ends`: one report.
* `isModuleRemoved`: the request on the UART that tells the AP so.
* `nodeInfWrite_fails`: a failed write reports the first node the cache has with
  the socket, and after that the node it was meant for.
-/

namespace Cc1352Greybus

open Effects PackedArray

variable {cfg : Config} (env : Env)

/-! ### One request -/

/-- Where the AP hears the SVC. -/
def Core.svcLink (c : Core cfg) : Option (Fin cfg.apMaxNodes) :=
  nodeToApCport c.nodeApMap SVC_INF_ID 0

/-- What a request of the SVC does outside. A request that finds no connection is
left to itself. -/
def requestEvents {n : ℕ} (link : Option (Fin n)) (msg : GbMessage) : List Event :=
  [.alloc msg.blk, .connectionSend SVC_INF_ID 0 msg] ++
    match link with
    | none => []
    | some c => [.hdlcBlock (greybusBlock (BitVec.ofNat 16 c) msg), .dealloc msg.blk,
        .msgRead msg.blk]

/-- A message is the request it was built as. -/
structure IsRequest (msg : GbMessage) (payload : List U8) (requestType : U8) : Prop where
  payload : msg.payload = payload
  type : msg.header.type = requestType
  sized : msg.Sized

/-- A request with a payload that comes to be is the request asked for. -/
lemma gbMessageRequestAlloc_ends {payload : List U8} {requestType : U8} {io io' : Io}
    {r : Option GbMessage} (hne : payload ≠ []) (hlen : payload.length + 8 < 2 ^ 16)
    (h : Ends (gbMessageRequestAlloc env payload requestType false) io r io') :
    ∃ msg, r = some msg ∧ IsRequest msg payload requestType ∧
      io'.trace = io.trace ++ [.alloc msg.blk] := by
  obtain ⟨opId, io₁, h₁, h⟩ := ends_bind.mp h
  obtain ⟨-, rfl⟩ := ends_modifyGet.mp h₁
  rcases alloc_memcpy_ends env (by omega) h with ⟨-, hnil, -⟩ | ⟨rfl, rfl⟩
  · exact absurd hnil hne
  · refine ⟨_, rfl, ⟨rfl, rfl, ?_⟩, rfl⟩
    simp only [GbMessage.Sized, freshMessage, BitVec.toNat_ofNat]
    omega

/-- A request goes out where the SVC is connected, and is refused elsewhere. -/
lemma controlSendRequest_ends {payload : List U8} {requestType : U8} {s s' : Fw cfg} {ret : ℤ}
    (hne : payload ≠ []) (hlen : payload.length + 8 < 2 ^ 16)
    (h : Ends (controlSendRequest env payload requestType) s ret s') :
    (0 ≤ ret ↔ s.core.svcLink.isSome) ∧ ∃ msg, IsRequest msg payload requestType ∧
      s'.io.trace = s.io.trace ++ requestEvents s.core.svcLink msg := by
  obtain ⟨m, s₁, h₁, h⟩ := ends_bind.mp h
  obtain ⟨io₁, halloc, rfl⟩ := ends_liftIo.mp h₁
  obtain ⟨msg, rfl, hmsg, htrace⟩ := gbMessageRequestAlloc_ends env hne hlen halloc
  dsimp only at h
  obtain ⟨r, s₂, h₂, h⟩ := ends_bind.mp h
  obtain ⟨-, rfl, rfl⟩ := ends_connectionSendToAp.mp h₂
  dsimp only at h
  rw [Core.svcLink]
  cases hlink : nodeToApCport s.core.nodeApMap SVC_INF_ID 0 with
  | none =>
      rw [hlink, Option.isSome_none, if_neg Bool.false_ne_true, if_pos (by decide)] at h
      obtain ⟨rfl, rfl⟩ := ends_pure.mp h
      refine ⟨by simp [EINVAL], msg, hmsg, ?_⟩
      simp [htrace, requestEvents, sendEvents]
  | some c =>
      rw [hlink, Option.isSome_some, if_pos rfl, if_neg (by decide),
        (Ends.liftIo (Ends.emit _ _)).bind_iff] at h
      obtain ⟨rfl, rfl⟩ := ends_pure.mp h
      refine ⟨by simp, msg, hmsg, ?_⟩
      simp [htrace, requestEvents, sendEvents]

/-! ### One report -/

/-- The tables once a node has been reported removed. -/
def Core.afterReport (c : Core cfg) (p : Ptr) : Core cfg :=
  if c.svcLink.isSome then c.destroyInterface env p else c

/-- The control block of the node at `p`. -/
def Core.ctrlOf (c : Core cfg) (p : Ptr) : Ptr := (c.intfMem p).ctrlData

/-- The socket of the node at `p`. -/
def Core.sockOf (c : Core cfg) (p : Ptr) : ℤ := c.ctrlMem (c.ctrlOf p)

/-- What a report does outside. -/
def reportEvents (c : Core cfg) (p : Ptr) (msg : GbMessage) : List Event :=
  [.moduleRemoved p, .intfRead p] ++ requestEvents c.svcLink msg ++
    if c.svcLink.isSome then destroyEvents p (c.sockOf p) else []

/-- A stretch of the trace is the report of one node, made in these tables. -/
def Reports (c : Core cfg) (p : Ptr) (tr : List Event) : Prop :=
  ∃ msg, IsRequest msg [(c.intfMem p).id] GB_SVC_TYPE_MODULE_REMOVED ∧ tr = reportEvents c p msg

/-- **`svc_send_module_removed`** -/
theorem svcSendModuleRemoved_ends {p : Ptr} {s s' : Fw cfg} {ret : ℤ}
    (h : Ends (svcSendModuleRemoved env p) s ret s') :
    s'.core = s.core.afterReport env p ∧
      ∃ tr, Reports s.core p tr ∧ s'.io.trace = s.io.trace ++ tr := by
  rw [svcSendModuleRemoved, (Ends.liftIo (Ends.emit _ s.io)).bind_iff,
    (readIntf_ends p _).bind_iff] at h
  dsimp only at h
  obtain ⟨r, s₁, h₁, h⟩ := ends_bind.mp h
  obtain ⟨hr, msg, hmsg, htrace⟩ := controlSendRequest_ends env (by simp) (by simp) h₁
  have hcore := respects_controlSendRequest env _ _ h₁
  dsimp only at hr htrace hcore
  rw [Core.afterReport]
  split_ifs at h with hneg
  · have hdown : ¬ s.core.svcLink.isSome = true := fun hup => absurd (hr.mpr hup) (not_le.mpr hneg)
    obtain ⟨-, rfl⟩ := ends_pure.mp h
    rw [if_neg hdown]
    refine ⟨hcore, _, ⟨msg, hmsg, rfl⟩, ?_⟩
    simp [htrace, reportEvents, hdown]
  · have hup : s.core.svcLink.isSome = true := hr.mp (not_lt.mp hneg)
    rw [(nodeDestroyInterface_ends env p s₁).bind_iff] at h
    obtain ⟨-, rfl⟩ := ends_pure.mp h
    rw [if_pos hup, hcore]
    refine ⟨rfl, _, ⟨msg, hmsg, rfl⟩, ?_⟩
    simp [htrace, reportEvents, hup, Core.sockOf, Core.ctrlOf]

/-- The request on the UART that tells the AP the module with the id is gone. -/
def isModuleRemoved (id : U8) : Event → Bool
  | .hdlcBlock b =>
    b.address = ADDRESS_GREYBUS &&
      (GbOperationMsgHdr.ofBytes (b.payload.drop 2)).type = GB_SVC_TYPE_MODULE_REMOVED &&
      b.payload.drop 10 = [id]
  | _ => false

/-- A request with the id of one module is no request with another's. -/
lemma isModuleRemoved_block {msg : GbMessage} {id id' : U8} (cport : U16)
    (hmsg : IsRequest msg [id'] GB_SVC_TYPE_MODULE_REMOVED) :
    isModuleRemoved id (.hdlcBlock (greybusBlock cport msg)) = decide (id' = id) := by
  have hlen : gbMessagePayloadLen msg = 1 := by rw [hmsg.sized.payloadLen, hmsg.payload]; rfl
  have hframe : (greybusBlock cport msg).payload = le16 cport ++ (msg.header.bytes ++ [id']) := by
    rw [greybusBlock, hlen, hmsg.payload, greybusFrame, List.append_assoc]
    rfl
  have hhdr : (greybusBlock cport msg).payload.drop 2 = msg.header.bytes ++ [id'] := by
    rw [hframe]
    exact List.drop_left' (le16_length cport)
  have hid : (greybusBlock cport msg).payload.drop 10 = [id'] := by
    rw [hframe, ← List.append_assoc]
    exact List.drop_left' rfl
  rw [isModuleRemoved, hhdr, GbOperationMsgHdr.ofBytes_bytes_append, hid, hmsg.type]
  simp [greybusBlock]

section Reports

variable {env} {c : Core cfg} {p : Ptr} {tr : List Event}

/-- A report tells the AP of the node it is about, if it reaches the AP. -/
lemma Reports.countP_isModuleRemoved (h : Reports c p tr) (id : U8) :
    tr.countP (isModuleRemoved id) = if c.svcLink.isSome ∧ (c.intfMem p).id = id then 1 else 0 := by
  obtain ⟨msg, hmsg, rfl⟩ := h
  cases hlink : c.svcLink with
  | none => simp [reportEvents, requestEvents, hlink, isModuleRemoved]
  | some k =>
      have hclose : (closeEvents (c.sockOf p)).countP (isModuleRemoved id) = 0 := by
        rw [closeEvents]
        split_ifs <;> rfl
      simp [reportEvents, requestEvents, hlink, destroyEvents, List.countP_cons, hclose,
        isModuleRemoved_block _ hmsg, isModuleRemoved.eq_2]

/-- A report that reaches the AP closes the node's socket. -/
lemma Reports.count_sockClose (h : Reports c p tr) {sock : ℤ} (hsock : 0 ≤ sock) :
    tr.count (.sockClose sock) = if c.svcLink.isSome ∧ c.sockOf p = sock then 1 else 0 := by
  obtain ⟨msg, -, rfl⟩ := h
  cases hlink : c.svcLink with
  | none => simp [reportEvents, requestEvents, hlink]
  | some k =>
      have hclose : (closeEvents (c.sockOf p)).count (.sockClose sock) =
          if c.sockOf p = sock then 1 else 0 := by
        rw [closeEvents]
        split_ifs <;> simp_all
      simp [reportEvents, requestEvents, hlink, destroyEvents, hclose]

/-- A report frees the node's interface at its end, if at all, and no other. -/
lemma Reports.eq_append (h : Reports c p tr) :
    ∃ pre, (∀ q, .intfDealloc q ∉ pre) ∧ (∀ q, .intfRead q ∈ pre ↔ q = p) ∧
      tr = pre ++ if c.svcLink.isSome then [.intfDealloc p] else [] := by
  obtain ⟨msg, -, rfl⟩ := h
  cases hlink : c.svcLink with
  | none =>
      refine ⟨[.moduleRemoved p, .intfRead p] ++ requestEvents
        (none : Option (Fin cfg.apMaxNodes)) msg,
        by simp [requestEvents], by simp [requestEvents], ?_⟩
      simp [reportEvents, hlink]
  | some k =>
      refine ⟨[.moduleRemoved p, .intfRead p] ++ requestEvents (some k) msg ++
        (.intfRead p :: closeEvents (c.sockOf p) ++ [.intfRead p]), ?_, ?_, ?_⟩
      · simp [requestEvents]
      · simp [requestEvents]
      · simp [reportEvents, hlink, destroyEvents]

/-- A report that reaches the AP frees the interface of its node only. -/
lemma Reports.mem_intfDealloc (h : Reports c p tr) {q : Ptr} :
    .intfDealloc q ∈ tr ↔ c.svcLink.isSome ∧ q = p := by
  obtain ⟨pre, hfree, -, rfl⟩ := h.eq_append
  cases c.svcLink.isSome <;> simp [hfree]

/-- A report is of one node. -/
lemma Reports.mem_moduleRemoved (h : Reports c p tr) {q : Ptr} : .moduleRemoved q ∈ tr ↔ q = p := by
  obtain ⟨msg, -, rfl⟩ := h
  cases hlink : c.svcLink <;> simp [reportEvents, requestEvents, hlink, destroyEvents]

/-- Nothing is received in the course of a report. -/
lemma Reports.not_mem_received (h : Reports c p tr) {sock : ℤ} {rcv : Received} :
    .received sock rcv ∉ tr := by
  obtain ⟨msg, -, rfl⟩ := h
  cases hlink : c.svcLink <;> simp [reportEvents, requestEvents, hlink, destroyEvents]

/-- Only the SVC sends in the course of a report. -/
lemma Reports.mem_connectionSend (h : Reports c p tr) {id : U8} {cport : U16} {msg : GbMessage}
    (hmem : .connectionSend id cport msg ∈ tr) : id = SVC_INF_ID := by
  obtain ⟨req, -, rfl⟩ := h
  cases hlink : c.svcLink with
  | none =>
      simp [reportEvents, requestEvents, hlink] at hmem
      exact hmem.1
  | some k =>
      simp [reportEvents, requestEvents, hlink, destroyEvents] at hmem
      exact hmem.1

end Reports

/-! ### A cached node that is destroyed -/

section destroy

variable {env} {e : NodeItem} {own : List Ptr}

/-- No node's control block is another one after a removal. -/
lemma Core.destroyInterface_ctrlOf (c : Core cfg) (p : Ptr) :
    (c.destroyInterface env p).ctrlOf = c.ctrlOf := by
  funext q
  rw [ctrlOf, destroyInterface_ctrlData, ctrlOf]

/-- Where the slab gets the node's control block, the ones in use are those of the
nodes that are left. -/
lemma destroyInterface_conserved (hapi : env.slabFreeApi = .pointee) {c : Core cfg}
    (hperm : (e :: (c.destroyInterface env e.inf).nodeCache).Perm c.nodeCache)
    (hctrl : Pool.Conserved own c.ctrlSlab.freeList (c.nodeCache.map fun e => c.ctrlOf e.inf)) :
    Pool.Conserved own (c.destroyInterface env e.inf).ctrlSlab.freeList
      ((c.destroyInterface env e.inf).nodeCache.map
        fun e' => (c.destroyInterface env e.inf).ctrlOf e'.inf) := by
  rw [Core.destroyInterface_ctrlOf, Core.destroyInterface_ctrlFree, Env.pushed_eq hapi]
  exact hctrl.takeBack (hperm.map fun e' => c.ctrlOf e'.inf).symm

/-- The nodes that are left have their sockets still. -/
lemma destroyInterface_sock_eq (hapi : env.slabFreeApi = .pointee) {c : Core cfg}
    (hperm : (e :: (c.destroyInterface env e.inf).nodeCache).Perm c.nodeCache)
    (hctrl : Pool.Conserved own c.ctrlSlab.freeList (c.nodeCache.map fun e => c.ctrlOf e.inf))
    (hsock : ∀ e' ∈ c.nodeCache, c.sockOf e'.inf = e'.sock) :
    ∀ e' ∈ (c.destroyInterface env e.inf).nodeCache,
      (c.destroyInterface env e.inf).sockOf e'.inf = e'.sock := by
  intro e' he'
  have hleft := hctrl.takeBack (hperm.map fun e' => c.ctrlOf e'.inf).symm
  -- the control block freed is none of theirs
  have hne : c.ctrlOf e'.inf ≠ c.ctrlOf e.inf := fun heq =>
    hleft.notMem_used List.mem_cons_self (List.mem_map.mpr ⟨e', he', heq⟩)
  rw [Core.sockOf, Core.destroyInterface_ctrlOf,
    Core.destroyInterface_ctrlMem_of_ne _ _ _ (by rw [Env.pushed_eq hapi]; exact hne)]
  exact hsock e' (hperm.mem_iff.mp (List.mem_cons_of_mem _ he'))

/-- A slab that counts the nodes counts those that are left, one block less. -/
lemma numUsed_sub_one {c : Core cfg} {used : BitVec 32}
    (hperm : (e :: (c.destroyInterface env e.inf).nodeCache).Perm c.nodeCache)
    (hused : used = BitVec.ofNat 32 c.nodeCache.length) :
    used - 1 = BitVec.ofNat 32 (c.destroyInterface env e.inf).nodeCache.length := by
  rw [hused, ← hperm.length_eq, List.length_cons, BitVec.ofNat_add]
  exact BitVec.add_sub_cancel _ _

end destroy

/-! ### A write that fails -/

/-- What happened since. -/
def newEvents (s s' : Fw cfg) : List Event := s'.io.trace.drop s.io.trace.length

/-- The report made of a socket: it is of the first node in the cache with the
socket, if there is one. -/
def ReportsBySock (c : Core cfg) (sock : ℤ) (c₁ : Core cfg) (tr : List Event) : Prop :=
  match nodeCacheFindBySock c.nodeCache sock with
  | none => c₁ = c ∧ tr = []
  | some (_, e) => c₁ = c.afterReport env e.inf ∧ Reports c e.inf tr

/-- No node has the socket, or one is reported that has. -/
lemma ReportsBySock.cases {c c₁ : Core cfg} {sock : ℤ} {tr : List Event}
    (h : ReportsBySock env c sock c₁ tr) : (c₁ = c ∧ tr = []) ∨
      ∃ e ∈ c.nodeCache, e.sock = sock ∧ c₁ = c.afterReport env e.inf ∧ Reports c e.inf tr := by
  rw [ReportsBySock] at h
  cases hfind : nodeCacheFindBySock c.nodeCache sock with
  | none =>
      rw [hfind] at h
      exact Or.inl h
  | some r =>
      rw [hfind] at h
      obtain ⟨hmem, hsock⟩ := findEntry_some hfind
      exact Or.inr ⟨r.2, hmem, by simpa using hsock, h⟩

/-- The report of a failed write to the node at `q`, and one more of the node at
`q` itself. -/
structure FailedWrite (s s' : Fw cfg) (q : Ptr) (sent : List Event) (c₁ : Core cfg)
    (tr₁ tr₂ : List Event) (blk : ℕ) : Prop where
  sends : SendsOn (s.core.sockOf q) sent
  first : ReportsBySock env s.core (s.core.sockOf q) c₁ tr₁
  second : Reports c₁ q tr₂
  core : s'.core = c₁.afterReport env q
  events : newEvents s s' = [.intfRead q] ++ sent ++ tr₁ ++ tr₂ ++ [.dealloc blk]

/-- `svc_send_module_removed_by_sock` -/
lemma svcSendModuleRemovedBySock_ends {sock : ℤ} {s s' : Fw cfg} {u : Unit}
    (h : Ends (svcSendModuleRemovedBySock env sock) s u s') :
    ∃ tr, ReportsBySock env s.core sock s'.core tr ∧ s'.io.trace = s.io.trace ++ tr := by
  simp only [ReportsBySock]
  rcases ends_svcSendModuleRemovedBySock.mp h with ⟨hfind, rfl⟩ | ⟨i, e, ret, hfind, hrem⟩
  · rw [hfind]
    exact ⟨[], ⟨rfl, rfl⟩, by simp⟩
  · rw [hfind]
    obtain ⟨hcore, tr, hrep, htrace⟩ := svcSendModuleRemoved_ends env hrem
    exact ⟨tr, ⟨hcore, hrep⟩, htrace⟩

section FailedWrite

variable {env} {s s' : Fw cfg} {q : Ptr} {sent tr₁ tr₂ : List Event} {c₁ : Core cfg} {blk : ℕ}

lemma SendsOn.countP_isModuleRemoved {sock : ℤ} (h : SendsOn sock sent) (id : U8) :
    sent.countP (isModuleRemoved id) = 0 := by
  refine List.countP_eq_zero.mpr fun e he => ?_
  obtain ⟨bs, rfl⟩ := h e he
  simp [isModuleRemoved]

/-- The AP is told by the two reports only. -/
lemma FailedWrite.countP_isModuleRemoved (h : FailedWrite env s s' q sent c₁ tr₁ tr₂ blk)
    (id : U8) :
    (newEvents s s').countP (isModuleRemoved id) =
      tr₁.countP (isModuleRemoved id) + tr₂.countP (isModuleRemoved id) := by
  rw [h.events]
  simp [h.sends.countP_isModuleRemoved, isModuleRemoved]

/-- Interfaces are freed by the two reports only. -/
lemma FailedWrite.mem_intfDealloc (h : FailedWrite env s s' q sent c₁ tr₁ tr₂ blk) {p : Ptr} :
    .intfDealloc p ∈ newEvents s s' ↔ .intfDealloc p ∈ tr₁ ∨ .intfDealloc p ∈ tr₂ := by
  have hsent : .intfDealloc p ∉ sent := by
    intro he
    obtain ⟨bs, hbs⟩ := h.sends _ he
    cases hbs
  rw [h.events]
  simp [hsent]

end FailedWrite

/-- **`node_inf_write`**, where the write fails. -/
theorem nodeInfWrite_fails {q : Ptr} {msg : GbMessage} {cport : U16} {s s' : Fw cfg} {ret : ℤ}
    (h : Ends (nodeInfWrite env q msg cport) s ret s') (hret : ret < 0) :
    ∃ sent c₁ tr₁ tr₂, FailedWrite env s s' q sent c₁ tr₁ tr₂ msg.blk := by
  rw [nodeInfWrite, (readIntf_ends q s).bind_iff, (Ends.getCore _).bind_iff] at h
  dsimp only at h
  obtain ⟨r, s₁, h₁, h⟩ := ends_bind.mp h
  split_ifs at h with hr
  swap
  · obtain ⟨_, s₂, -, h⟩ := ends_bind.mp h
    obtain ⟨rfl, -⟩ := ends_pure.mp h
    exact absurd hret hr
  obtain ⟨sent, calls, hon, hsend⟩ := gbMessageSend_ends env (s.core.sockOf q) msg cport
    ⟨s.core, s.io.logged [.intfRead q]⟩
  rcases hsend with ⟨-, hsend⟩ | ⟨-, hsend⟩
  · obtain ⟨-, rfl, -⟩ := (hsend r s₁).mp h₁
    exact absurd hr (lt_irrefl 0)
  · obtain ⟨-, hfirst⟩ := (hsend r s₁).mp h₁
    obtain ⟨tr₁, hrep₁, htrace₁⟩ := svcSendModuleRemovedBySock_ends env hfirst
    obtain ⟨_, s₂, h₂, h⟩ := ends_bind.mp h
    obtain ⟨_, hrem⟩ := ends_discard.mp h₂
    obtain ⟨hcore, tr₂, hrep₂, htrace₂⟩ := svcSendModuleRemoved_ends env hrem
    rw [gbMessageDealloc, show s₂ = ⟨s₂.core, s₂.io⟩ from rfl,
      (Ends.liftIo (Ends.emit _ _)).bind_iff] at h
    obtain ⟨-, rfl⟩ := ends_pure.mp h
    refine ⟨sent, s₁.core, tr₁, tr₂, hon, hrep₁, hrep₂, hcore, ?_⟩
    simp [newEvents, htrace₂, htrace₁, Io.afterSends]

end Cc1352Greybus
