import Cc1352Greybus.Greybus.NodeCache

/-!
The routing table of `src/apbridge.c`, and what the SVC sends through it.

* `nodeToApCport`: the first AP cport whose slot matches.
* `connectionSendToAp`: `connection_send` for a sender other than the AP.
* `controlSendRequest`, `svcSendModuleRemoved`: the SVC's requests.
* `svcSendModuleRemoved_core`: a module removal destroys the interface it is
  given, or leaves the tables alone.
-/

namespace Cc1352Greybus

open Effects

variable {cfg : Config} (env : Env)

/-! ### `node_ap_map` -/

/-- `node_to_ap_cport` -/
def nodeToApCport {n : ℕ} (nodeApMap : Fin n → NodeApItem) (nodeId : U8) (nodeCport : U16) :
    Option (Fin n) :=
  Fin.find? fun i => (nodeApMap i).nodeId = nodeId ∧ (nodeApMap i).nodeCport = nodeCport

/-- What the scan finds: a slot that matches, and none before it does. -/
lemma nodeToApCport_eq_some_iff {n : ℕ} {m : Fin n → NodeApItem} {id : U8} {cport : U16}
    {i : Fin n} :
    nodeToApCport m id cport = some i ↔
      ((m i).nodeId = id ∧ (m i).nodeCport = cport) ∧
        ∀ j < i, ¬ ((m j).nodeId = id ∧ (m j).nodeCport = cport) := by
  rw [nodeToApCport, Fin.find?_eq_some_iff]
  simp only [decide_eq_true_eq, decide_eq_false_iff_not]

/-- An AP cport is told by its 16 bits. -/
lemma ofNat_apCport_inj {i c : Fin cfg.apMaxNodes} (h : BitVec.ofNat 16 i = BitVec.ofNat 16 c) :
    i = c := by
  have hle : cfg.apMaxNodes ≤ 2 ^ 16 := cfg.nodes_le
  have hi := i.isLt
  have hc := c.isLt
  have hnat := congrArg BitVec.toNat h
  rw [BitVec.toNat_ofNat, BitVec.toNat_ofNat, Nat.mod_eq_of_lt (by omega),
    Nat.mod_eq_of_lt (by omega)] at hnat
  exact Fin.ext hnat

namespace Core

/-- `intf->id` -/
def intfId (c : Core cfg) : IntfPtr → U8
  | .svc => SVC_INF_ID
  | .localNode => LOCAL_NODE_ID
  | .node p => (c.intfMem p).id

/-- A slot of `node_ap_map` is written. -/
def setSlot (c : Core cfg) (i : Fin cfg.apMaxNodes) (item : NodeApItem) : Core cfg :=
  { c with nodeApMap := Function.update c.nodeApMap i item }

@[simp] lemma setSlot_self (c : Core cfg) (i : Fin cfg.apMaxNodes) (item : NodeApItem) :
    (c.setSlot i item).nodeApMap i = item :=
  Function.update_self ..

lemma setSlot_of_ne (c : Core cfg) {i j : Fin cfg.apMaxNodes} (h : j ≠ i) (item : NodeApItem) :
    (c.setSlot i item).nodeApMap j = c.nodeApMap j :=
  Function.update_of_ne h ..

/-- `node_ap_add` -/
def nodeApAdd (c : Core cfg) (apCport nodeCport : U16) (nodeIntf : IntfPtr) : ℤ × Core cfg :=
  if h : apCport.toNat < cfg.apMaxNodes then
    if (c.nodeApMap ⟨apCport.toNat, h⟩).nodeIntf.isSome then (-EALREADY, c)
    else (0, c.setSlot ⟨apCport.toNat, h⟩ ⟨some nodeIntf, nodeCport, c.intfId nodeIntf⟩)
  else (-E2BIG, c)

/-- `node_ap_remove` -/
def nodeApRemove (c : Core cfg) (apCport : U16) : ℤ × Core cfg :=
  if h : apCport.toNat < cfg.apMaxNodes then (0, c.setSlot ⟨apCport.toNat, h⟩ .empty)
  else (-E2BIG, c)

/-- `apbridge_deinit` -/
def apbridgeDeinit (c : Core cfg) : Core cfg := { c with nodeApMap := fun _ => .empty }

end Core

/-- `node_ap_add` fails and changes nothing, or fills a slot that was free. -/
lemma nodeApAdd_cases (c : Core cfg) (apCport nodeCport : U16) (nodeIntf : IntfPtr) :
    (∃ ret < 0, c.nodeApAdd apCport nodeCport nodeIntf = (ret, c) ∧
        ∀ k : Fin cfg.apMaxNodes, k.val = apCport.toNat → (c.nodeApMap k).nodeIntf ≠ none) ∨
      ∃ h : apCport.toNat < cfg.apMaxNodes, (c.nodeApMap ⟨apCport.toNat, h⟩).nodeIntf = none ∧
        c.nodeApAdd apCport nodeCport nodeIntf =
          (0, c.setSlot ⟨apCport.toNat, h⟩ ⟨some nodeIntf, nodeCport, c.intfId nodeIntf⟩) := by
  rw [Core.nodeApAdd]
  split_ifs with h htaken
  · refine Or.inl ⟨-EALREADY, by decide, rfl, ?_⟩
    rintro ⟨k, hk⟩ rfl hnone
    simp [hnone] at htaken
  · exact Or.inr ⟨h, by simpa using htaken, rfl⟩
  · refine Or.inl ⟨-E2BIG, by decide, rfl, ?_⟩
    rintro ⟨k, hk⟩ rfl
    exact absurd hk h

/-! ### Towards the AP -/

/-- `connection_send`, where `intf_id` is not `AP_INF_ID`. -/
def connectionSendToAp (intfId : U8) (intfCport : U16) (msg : GbMessage) : FwM cfg ℤ := do
  liftIo (emit (.connectionSend intfId intfCport msg))
  let c ← getCore
  match nodeToApCport c.nodeApMap intfId intfCport with
  | none => return -EINVAL
  | some apCport => liftIo (apSend cfg msg (BitVec.ofNat 16 apCport))

/-! ### Requests of the SVC -/

/-- `GB_SVC_TYPE_PROTOCOL_VERSION` -/
def GB_SVC_TYPE_PROTOCOL_VERSION : U8 := 0x01
/-- `GB_SVC_TYPE_SVC_HELLO` -/
def GB_SVC_TYPE_SVC_HELLO : U8 := 0x02
/-- `GB_SVC_TYPE_MODULE_INSERTED` -/
def GB_SVC_TYPE_MODULE_INSERTED : U8 := 0x1f
/-- `GB_SVC_TYPE_MODULE_REMOVED` -/
def GB_SVC_TYPE_MODULE_REMOVED : U8 := 0x20

/-- `ENDO_ID` -/
def ENDO_ID : U16 := 0x4755

/-- `control_send_request`. The operation id it returns is read once the message
is no longer its own. -/
def controlSendRequest (payload : List U8) (requestType : U8) : FwM cfg ℤ := do
  match ← liftIo (gbMessageRequestAlloc env payload requestType false) with
  | none => return -ENOMEM
  | some msg =>
    let ret ← connectionSendToAp SVC_INF_ID 0 msg
    if ret < 0 then return ret
    else do
      liftIo (emit (.msgRead msg.blk))
      return (env.freedOperationId msg.blk).toNat

/-- `svc_send_hello` -/
def svcSendHello : FwM cfg ℤ :=
  controlSendRequest env (le16 ENDO_ID ++ [AP_INF_ID]) GB_SVC_TYPE_SVC_HELLO

/-- `svc_send_version` -/
def svcSendVersion : FwM cfg ℤ := controlSendRequest env [0x00, 0x01] GB_SVC_TYPE_PROTOCOL_VERSION

/-- `svc_send_module_inserted` -/
def svcSendModuleInserted (primaryIntfId : U8) : FwM cfg ℤ :=
  controlSendRequest env ([primaryIntfId, 1] ++ le16 0) GB_SVC_TYPE_MODULE_INSERTED

/-- `svc_send_module_removed` -/
def svcSendModuleRemoved (intf : Ptr) : FwM cfg ℤ := do
  liftIo (emit (.moduleRemoved intf))
  let id := (← readIntf intf).id
  let ret ← controlSendRequest env [id] GB_SVC_TYPE_MODULE_REMOVED
  if ret < 0 then return ret
  else do
    nodeDestroyInterface env (some intf)
    return ret

/-! ### What is sent -/

/-- A message the buffer of `gb_message_hdlc_send` has room for. -/
def GbMessage.FitsFrame (cfg : Config) (msg : GbMessage) : Prop :=
  10 + gbMessagePayloadLen msg ≤ cfg.hdlcMaxBlockSize ∧ msg.Holds

/-- `ap_send` sends one block and gives the message back. -/
lemma ends_apSend {msg : GbMessage} {cport : U16} {io io' : Io} {ret : ℤ} :
    Ends (apSend cfg msg cport) io ret io' ↔ msg.FitsFrame cfg ∧ ret = 0 ∧
      io' = io.logged [.hdlcBlock (greybusBlock cport msg), .dealloc msg.blk] := by
  rw [apSend, gbMessageHdlcSend]
  by_cases hfit : msg.FitsFrame cfg
  · have hblock : Ends (do
        emit (.hdlcBlock (greybusBlock cport msg))
        return (0 : ℤ)) io 0 (io.logged [.hdlcBlock (greybusBlock cport msg)]) :=
      (Ends.emit _ io).bind (Ends.pure _ _)
    have hroom : ¬ (cfg.hdlcMaxBlockSize < 10 + gbMessagePayloadLen msg ∨
        msg.payload.length < gbMessagePayloadLen msg) :=
      not_or.mpr ⟨not_lt.mpr hfit.1, not_lt.mpr hfit.2⟩
    rw [if_neg hroom, hblock.bind_iff, gbMessageDealloc, (Ends.emit _ _).bind_iff, ends_pure,
      Io.logged_logged, and_iff_right hfit, eq_comm, eq_comm (b := io')]
    rfl
  · have hroom : cfg.hdlcMaxBlockSize < 10 + gbMessagePayloadLen msg ∨
        msg.payload.length < gbMessagePayloadLen msg := by
      by_contra h
      rw [not_or] at h
      exact hfit ⟨not_lt.mp h.1, not_lt.mp h.2⟩
    rw [if_pos hroom, ends_bind]
    refine iff_of_false ?_ fun h => hfit h.1
    rintro ⟨a, io₁, h, -⟩
    exact ends_throw.mp h

/-- What a `connection_send` to the AP does outside. -/
def sendEvents {n : ℕ} (link : Option (Fin n)) (id : U8) (cport : U16) (msg : GbMessage) :
    List Event :=
  .connectionSend id cport msg ::
    match link with
    | none => []
    | some c => [.hdlcBlock (greybusBlock (BitVec.ofNat 16 c) msg), .dealloc msg.blk]

/-- **`connection_send`** to the AP: one block on the AP cport that is found, if
one is. -/
theorem ends_connectionSendToAp {id : U8} {cport : U16} {msg : GbMessage} {s s' : Fw cfg}
    {ret : ℤ} :
    Ends (connectionSendToAp id cport msg) s ret s' ↔
      ((nodeToApCport s.core.nodeApMap id cport).isSome → msg.FitsFrame cfg) ∧
        ret = (if (nodeToApCport s.core.nodeApMap id cport).isSome then 0 else -EINVAL) ∧
        s' = ⟨s.core,
          s.io.logged (sendEvents (nodeToApCport s.core.nodeApMap id cport) id cport msg)⟩ := by
  rw [connectionSendToAp, (Ends.liftIo (Ends.emit _ s.io)).bind_iff, (Ends.getCore _).bind_iff]
  dsimp only
  cases nodeToApCport s.core.nodeApMap id cport with
  | none =>
      simp only [ends_pure, sendEvents, Option.isSome_none]
      simp [eq_comm]
  | some c =>
      simp only [ends_liftIo, ends_apSend, sendEvents, Option.isSome_some]
      constructor
      · rintro ⟨io, ⟨hfit, hret, rfl⟩, rfl⟩
        exact ⟨fun _ => hfit, hret, by simp⟩
      · rintro ⟨hfit, hret, rfl⟩
        exact ⟨_, ⟨hfit trivial, hret, rfl⟩, by simp⟩

/-! ### The tables -/

lemma respects_connectionSendToAp (id : U8) (cport : U16) (msg : GbMessage) :
    Respects SameCore (connectionSendToAp id cport msg : FwM cfg ℤ) := by
  intro s ret s' h
  obtain ⟨-, -, rfl⟩ := ends_connectionSendToAp.mp h
  rfl

/-- A request leaves the tables alone. -/
lemma respects_controlSendRequest (payload : List U8) (requestType : U8) :
    Respects SameCore (controlSendRequest env payload requestType : FwM cfg ℤ) := by
  refine (respects_liftIo _).bind fun msg => ?_
  cases msg with
  | none => exact respects_pure _
  | some msg =>
      refine (respects_connectionSendToAp _ _ _).bind fun ret => ?_
      split_ifs
      · exact respects_pure _
      · exact (respects_liftIo _).bind fun _ => respects_pure _

lemma respects_readIntf (p : Ptr) : Respects SameCore (readIntf p : FwM cfg GbInterface) :=
  (respects_liftIo _).bind fun _ => respects_getCore.bind fun _ => respects_pure _

/-- A request that is not refused has found the connection to the SVC. -/
lemma link_of_controlSendRequest {payload : List U8} {requestType : U8} {s s' : Fw cfg} {ret : ℤ}
    (h : Ends (controlSendRequest env payload requestType) s ret s') (hret : 0 ≤ ret) :
    (nodeToApCport s.core.nodeApMap SVC_INF_ID 0).isSome := by
  obtain ⟨msg, s₁, h₁, h⟩ := ends_bind.mp h
  rw [← respects_liftIo _ h₁]
  cases msg with
  | none =>
      obtain ⟨rfl, -⟩ := ends_pure.mp h
      exact absurd hret (by decide)
  | some msg =>
      obtain ⟨r, s₂, h₂, h⟩ := ends_bind.mp h
      obtain ⟨_, s₃, h₃, h₂⟩ := ends_bind.mp h₂
      rw [← respects_liftIo _ h₃]
      rw [(Ends.getCore s₃).bind_iff] at h₂
      cases hlink : nodeToApCport s₃.core.nodeApMap SVC_INF_ID 0 with
      | some c => rfl
      | none =>
          rw [hlink] at h₂
          obtain ⟨rfl, -⟩ := ends_pure.mp h₂
          rw [if_pos (by decide)] at h
          obtain ⟨rfl, -⟩ := ends_pure.mp h
          exact absurd hret (by decide)

/-- **A module removal** that is not refused destroys the interface it is given;
one that is refused leaves the tables alone. -/
theorem svcSendModuleRemoved_core {intf : Ptr} {s s' : Fw cfg} {ret : ℤ}
    (h : Ends (svcSendModuleRemoved env intf) s ret s') :
    ret < 0 ∧ s'.core = s.core ∨
      0 ≤ ret ∧ (nodeToApCport s.core.nodeApMap SVC_INF_ID 0).isSome ∧
        s'.core = s.core.destroyInterface env intf := by
  obtain ⟨_, s₁, h₁, h⟩ := ends_bind.mp h
  obtain ⟨i, s₂, h₂, h⟩ := ends_bind.mp h
  obtain ⟨r, s₃, h₃, h⟩ := ends_bind.mp h
  have hcore₂ : s₂.core = s.core := by rw [respects_readIntf _ h₂, respects_liftIo _ h₁]
  have hcore : s₃.core = s.core := by rw [respects_controlSendRequest env _ _ h₃, hcore₂]
  split_ifs at h with hr
  · obtain ⟨rfl, rfl⟩ := ends_pure.mp h
    exact Or.inl ⟨hr, hcore⟩
  · rw [(nodeDestroyInterface_ends env intf s₃).bind_iff] at h
    obtain ⟨rfl, rfl⟩ := ends_pure.mp h
    have hlink := link_of_controlSendRequest env h₃ (not_lt.mp hr)
    rw [hcore₂] at hlink
    exact Or.inr ⟨not_lt.mp hr, hlink, by rw [hcore]⟩

end Cc1352Greybus
