import Cc1352Greybus.Acts.Act

/-!
Every step of the system is made of acts, and which ones it may be made of.

* `acts_nodeInfWrite`: bytes for a node, and what a write that fails does.
* `acts_svcInfWrite`, `acts_localIntfWrite`: a response, and the routes.
* `SystemOp.May`: the acts a step may be made of, from the frame or the socket it is about.
* `systemStep_acts`: it is made of these, and does not both tell the AP of a module or pass a
  message on and change the routes.
-/

namespace Cc1352Greybus

open Effects PackedArray

variable {cfg : Config} (env : Env)

/-! ### Onto a socket -/

section write

variable {env}

/-- One of the three writes of `gb_message_send` sends all of its bytes before what comes
next, or some of them before the failure. -/
lemma ends_writeData_or_fail {sock : ℤ} {data : List U8} {n : ℤ} (hn : (data.length : ℤ) = n)
    {k : FwM cfg ℤ} {s s' : Fw cfg} {ret : ℤ}
    (h : Ends (do
      let ret ← liftIo (writeData env sock data)
      if ret ≠ n then gbMessageSendFailed env sock ret else k) s ret s') :
    ∃ tr calls m, SendsOn sock tr ∧ sentOn sock tr = data.take m ∧
      (data.length ≤ m ∧ Ends k ⟨s.core, s.io.afterSends tr calls⟩ ret s' ∨
        m ≤ data.length ∧ ret = -1 ∧
          Ends (svcSendModuleRemovedBySock env sock) ⟨s.core, s.io.afterSends tr calls⟩ () s') := by
  obtain ⟨tr, calls, r, hend, hon, hr⟩ := writeData_ends env sock data s.io
  rw [(Ends.liftIo hend).bind_iff] at h
  rcases hr with ⟨rfl, hsent⟩ | ⟨rfl, -, m, hm, hsent⟩
  · rw [if_neg (not_not.mpr hn)] at h
    exact ⟨tr, calls, data.length, hon, by rw [hsent, List.take_length], Or.inl ⟨le_rfl, h⟩⟩
  · rw [if_pos (by omega), ends_gbMessageSendFailed] at h
    exact ⟨tr, calls, m, hon, hsent, Or.inr ⟨hm.le, h.1, h.2⟩⟩

/-- **`gb_message_send`** sends the first bytes of a message: all of them, or as many as it
can before it reports the node the socket is found at. -/
lemma gbMessageSend_prefix {sock : ℤ} {msg : GbMessage} {cport : U16} {s s' : Fw cfg} {ret : ℤ}
    (h : Ends (gbMessageSend env sock msg cport) s ret s') :
    ∃ tr calls n, SendsOn sock tr ∧ sentOn sock tr = (nodeFrame cport msg).take n ∧
      ((nodeFrame cport msg).length ≤ n ∧ ret = 0 ∧ s' = ⟨s.core, s.io.afterSends tr calls⟩ ∨
        ret = -1 ∧
          Ends (svcSendModuleRemovedBySock env sock)
            ⟨s.core, s.io.afterSends tr calls⟩ () s') := by
  have hframe : nodeFrame cport msg = le16 cport ++
      (msg.header.bytes ++ msg.payload.take (gbMessagePayloadLen msg)) := by
    rw [nodeFrame, greybusFrame, List.append_assoc]
  -- three writes: the cport, the header, the payload; each is whole or the last
  obtain ⟨tr₁, calls₁, m₁, hon₁, hsent₁, h₁⟩ :=
    ends_writeData_or_fail (n := 2) (congrArg _ (le16_length cport)) h
  rcases h₁ with ⟨hall₁, h₁⟩ | ⟨hle, hret, h₁⟩
  swap
  · refine ⟨tr₁, calls₁, m₁, hon₁, ?_, Or.inr ⟨hret, h₁⟩⟩
    rw [hsent₁, hframe, List.take_append_of_le_length hle]
  rw [List.take_of_length_le hall₁] at hsent₁
  obtain ⟨tr₂, calls₂, m₂, hon₂, hsent₂, h₂⟩ :=
    ends_writeData_or_fail (n := 8) (congrArg _ msg.header.bytes_length) h₁
  dsimp only at h₂
  rw [Io.afterSends_afterSends] at h₂
  have hon := hon₁.append hon₂
  rcases h₂ with ⟨hall₂, h₂⟩ | ⟨hle, hret, h₂⟩
  swap
  · refine ⟨tr₁ ++ tr₂, calls₂, (le16 cport).length + m₂, hon, ?_, Or.inr ⟨hret, h₂⟩⟩
    rw [sentOn_append, hsent₁, hsent₂, hframe, List.take_length_add_append,
      List.take_append_of_le_length hle]
  rw [List.take_of_length_le hall₂] at hsent₂
  rcases ends_ite.mp h₂ with ⟨-, h₂⟩ | ⟨hlen, h₂⟩
  -- a payload shorter than its header says is read past its end
  · exact (ends_throw.mp h₂).elim
  have hpay : ((msg.payload.take (gbMessagePayloadLen msg)).length : ℤ) =
      gbMessagePayloadLen msg := by
    rw [List.length_take_of_le (not_lt.mp hlen)]
  obtain ⟨tr₃, calls₃, m₃, hon₃, hsent₃, h₃⟩ := ends_writeData_or_fail hpay h₂
  dsimp only at h₃
  rw [Io.afterSends_afterSends] at h₃
  have hsent : sentOn sock (tr₁ ++ tr₂ ++ tr₃) = (nodeFrame cport msg).take
      ((le16 cport).length + (msg.header.bytes.length + m₃)) := by
    rw [sentOn_append, sentOn_append, hsent₁, hsent₂, hsent₃, hframe,
      List.take_length_add_append, List.take_length_add_append, List.append_assoc]
  refine ⟨_, calls₃, _, hon.append hon₃, hsent, ?_⟩
  rcases h₃ with ⟨hall₃, h₃⟩ | ⟨-, hret, h₃⟩
  · obtain ⟨hret, hs'⟩ := ends_pure.mp h₃
    have hwhole : (nodeFrame cport msg).length ≤
        (le16 cport).length + (msg.header.bytes.length + m₃) := by
      rw [hframe, List.length_append, List.length_append]
      exact Nat.add_le_add_left (Nat.add_le_add_left hall₃ _) _
    exact Or.inl ⟨hwhole, hret.symm, hs'.symm⟩
  · exact Or.inr ⟨hret, h₃⟩

/-- The message from an AP cport is written to the node in its slot, and what a failure
reports comes after. -/
lemma acts_nodeInfWrite {P : Act → Prop} {apCport : U16} {slot : NodeApItem} {q : Ptr}
    {msg : GbMessage} {s s' : Fw cfg} {ret : ℤ} (hslot : s.core.slot? apCport = some slot)
    (hintf : slot.nodeIntf = some (.node q)) (hwrite : ∀ n, P (.write apCport q msg n))
    (hremove : ∀ p, P (.remove p))
    (h : Ends (nodeInfWrite env q msg slot.nodeCport) s ret s') : Acts env P s s' := by
  rw [nodeInfWrite, (readIntf_ends q s).bind_iff, (Ends.getCore _).bind_iff] at h
  have hread : Acts env P s ⟨s.core, s.io.logged [.intfRead q]⟩ :=
    .quiet ⟨rfl, .logged _ (by simp [Event.Silent])⟩
  obtain ⟨r, s₁, h₁, h⟩ := ends_bind.mp h
  obtain ⟨tr, calls, n, hon, hsent, h₁⟩ := gbMessageSend_prefix h₁
  have hsend : Acts env P ⟨s.core, s.io.logged [.intfRead q]⟩
      ⟨s.core, (s.io.logged [.intfRead q]).afterSends tr calls⟩ :=
    .single (.write apCport q msg n) ⟨rfl, rfl, slot, tr, hslot, hintf, hon, hsent, rfl⟩ (hwrite n)
  have hreport : Acts env P ⟨s.core, (s.io.logged [.intfRead q]).afterSends tr calls⟩ s₁ := by
    rcases h₁ with ⟨-, -, rfl⟩ | ⟨-, h₁⟩
    · exact refl_of (Acts env P) _
    · exact acts_svcSendModuleRemovedBySock _ hremove h₁
  have hdealloc : ∀ ret : ℤ, Respects (Acts env P)
      (do liftIo (gbMessageDealloc msg); return ret : FwM cfg ℤ) :=
    fun ret => (acts_dealloc msg).bind fun _ => respects_pure _
  have hrest : Respects (Acts env P) (if r < 0 then do
        discard (svcSendModuleRemoved env q)
        liftIo (gbMessageDealloc msg)
        return r
      else do
        liftIo (gbMessageDealloc msg)
        return r : FwM cfg ℤ) :=
    respects_ite ((acts_svcSendModuleRemoved q (hremove q)).discard.bind fun _ => hdealloc r)
      (hdealloc r)
  exact trans_of (Acts env P) hread
    (trans_of (Acts env P) hsend (trans_of (Acts env P) hreport (hrest h)))

end write

/-! ### The SVC and the local node -/

/-- A message of the SVC, for a request it has had: its response, or a hello. -/
def SvcSays (req : GbMessage) : Act → Prop
  | .route => True
  | .send id msg => id = SVC_INF_ID ∧
      (IsResponse req msg ∨ IsRequest msg (le16 ENDO_ID ++ [AP_INF_ID]) GB_SVC_TYPE_SVC_HELLO)
  | _ => False

section handlers

variable {env}

/-- Sockets are opened at most, through a program over both. -/
def OpensFw (s s' : Fw cfg) : Prop := Opens s.io s'.io

instance : Std.Refl (@OpensFw cfg) := ⟨fun s => refl_of Opens s.io⟩

instance : IsTrans (Fw cfg) OpensFw := ⟨fun _ _ _ h h' => trans_of Opens h h'⟩

lemma opens_liftIo {α : Type} {m : IoM α} (h : Respects Opens m) :
    Respects OpensFw (liftIo m : FwM cfg α) := by
  intro s a s' hend
  obtain ⟨io, hm, rfl⟩ := ends_liftIo.mp hend
  exact h hm

lemma opens_getCore : Respects OpensFw (getCore : FwM cfg (Core cfg)) := by
  intro s c s' h
  obtain ⟨-, rfl⟩ := ends_getCore.mp h
  exact refl_of OpensFw s

lemma opens_modifyCore (f : Core cfg → Core cfg) : Respects OpensFw (modifyCore f) := by
  intro s u s' h
  rw [ends_modifyCore.mp h]
  exact refl_of Opens s.io

lemma opens_modifyGetCore {α : Type} (f : Core cfg → α × Core cfg) :
    Respects OpensFw (modifyGetCore f) := by
  intro s a s' h
  rw [(ends_modifyGetCore.mp h).2]
  exact refl_of Opens s.io

/-- A socket that is asked for is new, if there is one. -/
lemma opens_afterSocket (io : Io) (fd : Option ℕ) : Opens io (io.afterSocket fd) := by
  cases fd with
  | none => exact Silently.opens ⟨.of_trace_eq rfl, rfl⟩
  | some fd =>
      refine ⟨⟨[.sockOpen fd], rfl, fun e he => ?_⟩, [.sockOpen fd], rfl, fun fd' => ?_⟩
      · rw [List.mem_singleton.mp he]
        exact Or.inl trivial
      · by_cases hfd : fd' = fd
        · subst hfd
          exact Or.inr ⟨List.mem_singleton_self _, Function.update_self _ _ _⟩
        · exact Or.inl (Function.update_of_ne hfd _ _)

/-- It says nothing that it is opened, and maybe closed again. -/
lemma opens_connectToNode : Respects Opens (connectToNode env) := by
  intro io ret io' h
  rcases connectToNode_ends env io with
    ⟨-, hend⟩ | ⟨fd, -, ⟨-, hend⟩ | ⟨-, hend⟩⟩
  · obtain ⟨-, rfl⟩ := hend.unique h
    exact opens_afterSocket io none
  · obtain ⟨-, rfl⟩ := hend.unique h
    exact opens_afterSocket io (some fd)
  · obtain ⟨-, rfl⟩ := hend.unique h
    have hclose : Silently (io.afterSocket (some fd))
        ((io.afterSocket (some fd)).logged [.sockClose fd]) := .logged _ (by simp [Event.Silent])
    exact trans_of Opens (opens_afterSocket io (some fd)) hclose.opens

lemma opens_pipeSend : Respects Opens pipeSend := by
  intro io u io' h
  obtain ⟨-, rfl⟩ := (Ends.pipeSend io).unique h
  refine ⟨.logged io fun e he => ?_,
    .of_rx (P := fun _ => True) (.logged io fun _ _ => trivial) rfl⟩
  rw [List.mem_singleton.mp he]
  exact Or.inr ⟨_, rfl⟩

lemma opens_nodeIntfCreateConnection (ctrl : Ptr) (cportId : U16) :
    Respects OpensFw (nodeIntfCreateConnection env ctrl cportId : FwM cfg ℤ) := by
  refine opens_getCore.bind fun c => ?_
  dsimp only
  split_ifs
  · exact respects_pure _
  · exact respects_pure _
  · cases nodeCacheFindById c.nodeCache (c.intfMem ctrl).id with
    | none => exact respects_pure _
    | some r =>
        refine (opens_liftIo opens_connectToNode).bind fun sock => ?_
        split_ifs
        · exact respects_pure _
        · exact (opens_modifyCore _).bind fun _ =>
            (opens_liftIo opens_pipeSend).bind fun _ => respects_pure _

lemma opens_connectionCreate (i₁ : U8) (p₁ : U16) (i₂ : U8) (p₂ : U16) :
    Respects OpensFw (connectionCreate env i₁ p₁ i₂ p₂ : FwM cfg ℤ) := by
  rw [connectionCreate]
  cases endpoint i₁ p₁ i₂ p₂ with
  | none => exact respects_pure _
  | some e =>
      refine opens_getCore.bind fun c => ?_
      cases gbInterfaceFindById c e.nodeId with
      | none => exact respects_pure _
      | some intf =>
          have hcreate : Respects OpensFw
              (intfCreateConnection env intf e.nodeCport : FwM cfg ℤ) := by
            cases intf with
            | svc => exact opens_getCore.bind fun _ => respects_pure _
            | localNode => exact respects_pure _
            | node p => exact opens_nodeIntfCreateConnection p _
          refine hcreate.bind fun ret => respects_ite (respects_pure _) ?_
          exact (opens_modifyGetCore _).bind fun ret =>
            respects_ite (respects_pure _) (respects_pure _)

lemma opens_connectionDestroy (i₁ : U8) (p₁ : U16) (i₂ : U8) (p₂ : U16) :
    Respects OpensFw (connectionDestroy i₁ p₁ i₂ p₂ : FwM cfg ℤ) := by
  rw [connectionDestroy]
  cases endpoint i₁ p₁ i₂ p₂ with
  | none => exact respects_pure _
  | some e =>
      refine opens_getCore.bind fun c => ?_
      have hremove : Respects OpensFw (do
          discard (modifyGetCore fun c : Core cfg => c.nodeApRemove e.apCport)
          return (0 : ℤ)) :=
        (opens_modifyGetCore _).discard.bind fun _ => respects_pure _
      cases gbInterfaceFindById c e.nodeId with
      | none => exact hremove
      | some intf =>
          have hdestroy : Respects OpensFw
              (intfDestroyConnection intf e.nodeCport : FwM cfg Unit) := by
            cases intf with
            | svc => exact respects_ite (respects_pure _) (opens_modifyCore _)
            | localNode => exact respects_pure _
            | node p => exact respects_pure _
          exact hdestroy.bind fun _ => hremove

lemma SameButSockets.moduleIds {c c' : Core cfg} (h : SameButSockets c c') :
    c'.moduleIds = c.moduleIds := by
  have hids := congrArg (List.map Prod.fst) h.nodeCache
  rwa [List.map_map, List.map_map] at hids

lemma acts_connectionCreate {P : Act → Prop} (hP : P .route) (i₁ : U8) (p₁ : U16) (i₂ : U8)
    (p₂ : U16) : Respects (Acts env P) (connectionCreate env i₁ p₁ i₂ p₂ : FwM cfg ℤ) := by
  intro s ret s' h
  refine .single .route ⟨?_, opens_connectionCreate i₁ p₁ i₂ p₂ h⟩ hP
  rcases connectionCreate_core env h with ⟨-, hsame, -⟩ | ⟨-, e, intf, k, -, -, c₁, hsame, hcore⟩
  · exact hsame.moduleIds
  · rw [hcore]
    exact hsame.moduleIds

lemma acts_connectionDestroy {P : Act → Prop} (hP : P .route) (i₁ : U8) (p₁ : U16) (i₂ : U8)
    (p₂ : U16) : Respects (Acts env P) (connectionDestroy i₁ p₁ i₂ p₂ : FwM cfg ℤ) := by
  intro s ret s' h
  refine .single .route ⟨?_, opens_connectionDestroy i₁ p₁ i₂ p₂ h⟩ hP
  rcases connectionDestroy_core h with ⟨-, -, hsame⟩ | ⟨-, e, ready, -, hcore⟩
  · rw [hsame]
  · rw [hcore, Core.nodeApRemove]
    split_ifs <;> rfl

/-- A byte of a payload is only looked at. -/
lemma acts_payloadByte {P : Act → Prop} (msg : GbMessage) (i : ℕ) :
    Respects (Acts env P) (payloadByte msg i : FwM cfg U8) := by
  rw [payloadByte.eq_def]
  cases msg.payload[i]? with
  | none => exact respects_throw _
  | some b => exact respects_pure b

lemma acts_payloadLe16 {P : Act → Prop} (msg : GbMessage) (i : ℕ) :
    Respects (Acts env P) (payloadLe16 msg i : FwM cfg U16) :=
  (acts_payloadByte msg i).bind fun _ => (acts_payloadByte msg _).bind fun _ => respects_pure _

/-- **The SVC** answers a request, and may change the routes before it does. -/
lemma acts_gbHandleMsg (msg : GbMessage) :
    Respects (Acts env (SvcSays msg)) (gbHandleMsg env msg : FwM cfg Unit) := by
  have hanswer : ∀ payload status, payload.length ≤ 8 →
      Respects (Acts env (SvcSays msg)) (svcResponseHelper env msg payload status : FwM cfg Unit) :=
    fun payload status hlen =>
      acts_respond SVC_INF_ID msg status (by omega) fun _ hresp => ⟨rfl, Or.inl hresp⟩
  have hempty : ∀ status,
      Respects (Acts env (SvcSays msg)) (svcResponseHelper env msg [] status : FwM cfg Unit) :=
    fun status => hanswer _ _ (Nat.zero_le _)
  have hcreate : Respects (Acts env (SvcSays msg))
      (svcConnectionCreateHandler env msg : FwM cfg Unit) := by
    refine (acts_payloadByte msg _).bind fun _ => (acts_payloadByte msg _).bind fun _ => ?_
    refine (acts_payloadLe16 msg _).bind fun _ => (acts_payloadLe16 msg _).bind fun _ => ?_
    exact respects_ite (hempty _)
      ((acts_connectionCreate trivial _ _ _ _).bind fun _ => hempty _)
  have hdestroy : Respects (Acts env (SvcSays msg))
      (svcConnectionDestroyHandler env msg : FwM cfg Unit) := by
    refine (acts_payloadByte msg _).bind fun _ => (acts_payloadLe16 msg _).bind fun _ => ?_
    refine (acts_payloadByte msg _).bind fun _ => (acts_payloadLe16 msg _).bind fun _ => ?_
    exact (acts_connectionDestroy trivial _ _ _ _).bind fun _ => hempty _
  have hpwrm : Respects (Acts env (SvcSays msg))
      (svcIntfSetPwrmHandler env msg : FwM cfg Unit) :=
    (acts_payloadByte msg _).bind fun _ => (acts_payloadByte msg _).bind fun _ =>
      hanswer _ _ (Nat.le_of_ble_eq_true rfl)
  have hversion : Respects (Acts env (SvcSays msg))
      (svcVersionResponseHandler env msg : FwM cfg Unit) :=
    (acts_payloadByte msg _).discard.bind fun _ => (acts_payloadByte msg _).discard.bind fun _ =>
      (acts_controlSendRequest (by simp) (by decide) fun _ hmsg => ⟨rfl, Or.inr hmsg⟩).discard
  rw [gbHandleMsg]
  refine respects_ite (hempty _) (respects_ite hcreate (respects_ite hdestroy ?_))
  refine respects_ite (hanswer _ _ (Nat.le_of_ble_eq_true rfl)) ?_
  refine respects_ite (hanswer _ _ (Nat.le_of_ble_eq_true rfl)) (respects_ite hpwrm ?_)
  -- the rails, the three switches of an interface, its activation and resumption
  iterate 6 refine respects_ite (hanswer _ _ (Nat.le_of_ble_eq_true rfl)) ?_
  exact respects_ite hversion (respects_pure _)

lemma acts_svcInfWrite (msg : GbMessage) (cport : U16) :
    Respects (Acts env (SvcSays msg)) (svcInfWrite env msg cport : FwM cfg ℤ) :=
  respects_ite (respects_pure _) ((acts_gbHandleMsg msg).bind fun _ =>
    (acts_dealloc msg).bind fun _ => respects_pure _)

/-- A response of the local node. -/
def LocalNodeSays (req : GbMessage) : Act → Prop
  | .send id msg => id = LOCAL_NODE_ID ∧ IsResponse req msg
  | _ => False

/-- **The local node** answers a request. -/
lemma acts_localIntfWrite (msg : GbMessage) (cport : U16) :
    Respects (Acts env (LocalNodeSays msg)) (localIntfWrite env msg cport : FwM cfg ℤ) := by
  have hanswer : ∀ payload, payload.length ≤ 60 → Respects (Acts env (LocalNodeSays msg))
      (responseHelper env msg payload 0 CONTROL_PROTOCOL_CPORT : FwM cfg Unit) :=
    fun payload hlen =>
      acts_respond LOCAL_NODE_ID msg 0 (by omega) fun _ hresp => ⟨rfl, hresp⟩
  have hhandle : Respects (Acts env (LocalNodeSays msg))
      (controlProtocolHandle env msg : FwM cfg Unit) := by
    rw [controlProtocolHandle_eq]
    cases hpayload : localResponsePayload (gbMessageType msg) with
    | none => exact respects_pure _
    | some payload => exact hanswer payload (localResponsePayload_length hpayload)
  have hdealloc : Respects (Acts env (LocalNodeSays msg))
      (do liftIo (gbMessageDealloc msg); return 0 : FwM cfg ℤ) :=
    (acts_dealloc msg).bind fun _ => respects_pure _
  exact respects_ite (hhandle.bind fun _ => hdealloc) hdealloc

end handlers

/-! ### Frames -/

/-- The message a frame brings, in some block. -/
def FrameMsg (f : RxFrame) (msg : GbMessage) : Prop :=
  ∃ blk len, (frameHdr f.buffer).size.toNat = len + 8 ∧ len + 10 ≤ f.buffer.length ∧
    msg = frameMsg env blk f.buffer len

/-- What a message for a node comes to: it is written, and what a failure reports. -/
def NodeTold (apCport : U16) (msg : GbMessage) : Act → Prop
  | .write apCport' _ msg' _ => apCport' = apCport ∧ msg' = msg
  | .remove _ => True
  | _ => False

/-- What a command of the AP comes to: the SVC is connected and says its version, or all is
given up. -/
def ControlSays : Act → Prop
  | .route => True
  | .send id msg => id = SVC_INF_ID ∧ IsRequest msg [0x00, 0x01] GB_SVC_TYPE_PROTOCOL_VERSION
  | .stop => True
  | _ => False

section frames

variable {env}

/-- A message of the AP is written to the interface in its slot. -/
lemma connectionSendFromAp_cases {apCport : U16} {msg : GbMessage} {s s' : Fw cfg} {ret : ℤ}
    (h : Ends (connectionSendFromAp env apCport msg) s ret s') :
    ∃ slot intf, s.core.slot? apCport = some slot ∧ slot.nodeIntf = some intf ∧
      Ends (intfWrite env intf msg slot.nodeCport)
        ⟨s.core, s.io.logged [.connectionSend AP_INF_ID apCport msg]⟩ ret s' := by
  rw [connectionSendFromAp, (Ends.liftIo (Ends.emit _ s.io)).bind_iff,
    (Ends.getCore _).bind_iff] at h
  dsimp only at h
  split_ifs at h with hlt
  swap
  · exact (ends_throw.mp h).elim
  refine ⟨s.core.nodeApMap ⟨apCport.toNat, hlt⟩, ?_⟩
  cases hintf : (s.core.nodeApMap ⟨apCport.toNat, hlt⟩).nodeIntf with
  | none =>
      rw [hintf] at h
      exact (ends_throw.mp h).elim
  | some intf =>
      rw [hintf] at h
      exact ⟨intf, dif_pos hlt, rfl, h⟩

/-- **A message of the AP** is answered, or written to a node. -/
lemma acts_connectionSendFromAp {apCport : U16} {msg : GbMessage} {s s' : Fw cfg} {ret : ℤ}
    (h : Ends (connectionSendFromAp env apCport msg) s ret s') :
    Acts env (fun a => SvcSays msg a ∨ LocalNodeSays msg a) s s' ∨
      Acts env (NodeTold apCport msg) s s' := by
  have hquiet : ∀ P : Act → Prop,
      Acts env P s ⟨s.core, s.io.logged [.connectionSend AP_INF_ID apCport msg]⟩ :=
    fun P => .quiet ⟨rfl, .logged _ (by simp [Event.Silent])⟩
  obtain ⟨slot, intf, hslot, hintf, h⟩ := connectionSendFromAp_cases h
  cases intf with
  | svc =>
      exact Or.inl (trans_of (Acts env _) (hquiet _)
        ((acts_svcInfWrite msg _ h).mono fun _ => Or.inl))
  | localNode =>
      exact Or.inl (trans_of (Acts env _) (hquiet _)
        ((acts_localIntfWrite msg _ h).mono fun _ => Or.inr))
  | node q =>
      exact Or.inr (trans_of (Acts env _) (hquiet _)
        (acts_nodeInfWrite hslot hintf (fun _ => ⟨rfl, rfl⟩) (fun _ => trivial) h))

/-- **A Greybus frame** brings a message of the AP, or nothing. -/
lemma acts_hdlcProcessGreybusFrame {f : RxFrame} {s s' : Fw cfg} {ret : ℤ}
    (h : Ends (hdlcProcessGreybusFrame env f.buffer f.len) s ret s') :
    Acts env (fun a => ∃ msg, FrameMsg env f msg ∧ (SvcSays msg a ∨ LocalNodeSays msg a)) s s' ∨
      Acts env (fun a => ∃ msg, FrameMsg env f msg ∧ NodeTold (frameCport f.buffer) msg a)
        s s' := by
  rw [hdlcProcessGreybusFrame_eq] at h
  obtain ⟨r, s₁, h₁, h⟩ := ends_bind.mp h
  have hquiet : ∀ P : Act → Prop, Acts env P s s₁ := fun P =>
    acts_liftIo (silently_greybusFrameMsg env f.buffer f.len) h₁
  obtain ⟨io₁, hframe, rfl⟩ := ends_liftIo.mp h₁
  rcases greybusFrameMsg_cases hframe with ⟨rfl, -⟩ | ⟨len, hsize, hlen, -, rfl, -⟩
  · obtain ⟨-, rfl⟩ := ends_pure.mp h
    exact Or.inl (hquiet _)
  · obtain ⟨ret', s₂, h₂, h⟩ := ends_bind.mp h
    have hs' : s' = s₂ := by
      rcases ends_ite.mp h with ⟨-, h⟩ | ⟨-, h⟩
      · exact (ends_pure.mp h).2.symm
      · exact (ends_pure.mp h).2.symm
    rw [hs']
    have hmsg : FrameMsg env f (frameMsg env s.io.heapCalls f.buffer len) :=
      ⟨_, len, hsize, hlen, rfl⟩
    rw [connectionSend, if_pos rfl] at h₂
    rcases acts_connectionSendFromAp h₂ with hacts | hacts
    · exact Or.inl (trans_of (Acts env _) (hquiet _) (hacts.mono fun _ ha => ⟨_, hmsg, ha⟩))
    · exact Or.inr (trans_of (Acts env _) (hquiet _) (hacts.mono fun _ ha => ⟨_, hmsg, ha⟩))

/-- The destruction of a node is silent. -/
lemma destroyEvents_silent {inf : Ptr} {sock : ℤ} {e : Event} (he : e ∈ destroyEvents inf sock) :
    e.Silent := by
  rw [destroyEvents, List.mem_append, List.mem_cons, mem_closeEvents] at he
  rcases he with (rfl | ⟨-, rfl⟩) | he
  · trivial
  · trivial
  · rcases List.mem_pair.mp he with rfl | rfl <;> trivial

lemma nodeDestroyInterface_silently (inf : Ptr) :
    Respects (fun s s' : Fw cfg => Silently s.io s'.io)
      (nodeDestroyInterface env (some inf)) := by
  intro s u s' h
  obtain ⟨-, rfl⟩ := (nodeDestroyInterface_ends env inf s).unique h
  exact .logged _ fun e he => destroyEvents_silent he

/-- So is that of all of them, and it leaves no module. -/
lemma nodeDestroyAll_silently {s s' : Fw cfg} {u : Unit}
    (h : Ends (nodeDestroyAll env) s u s') :
    s'.core.moduleIds = [] ∧ Silently s.io s'.io := by
  have hloop : ∀ rounds i {s s' : Fw cfg} {u : Unit},
      Ends (nodeDestroyAllLoop env rounds i) s u s' → Silently s.io s'.io := by
    intro rounds
    induction rounds with
    | zero =>
        intro i s s' u h
        obtain ⟨-, rfl⟩ := ends_pure.mp h
        exact refl_of Silently _
    | succ rounds ih =>
        intro i s s' u h
        rw [nodeDestroyAllLoop, (Ends.getCore s).bind_iff] at h
        cases hentry : s.core.nodeCache[i]? with
        | none =>
            rw [hentry] at h
            obtain ⟨-, rfl⟩ := ends_pure.mp h
            exact refl_of Silently _
        | some e =>
            rw [hentry] at h
            obtain ⟨_, s₁, h₁, h⟩ := ends_bind.mp h
            exact trans_of Silently (nodeDestroyInterface_silently e.inf h₁) (ih _ h)
  rw [nodeDestroyAll, (Ends.getCore s).bind_iff] at h
  obtain ⟨_, s₁, h₁, h⟩ := ends_bind.mp h
  have hsilent : Silently s.io s₁.io := hloop _ _ h₁
  rw [(Ends.modifyCore _ s₁).bind_iff, (Ends.getCore _).bind_iff] at h
  rcases ends_ite.mp h with ⟨-, h⟩ | ⟨-, h⟩
  · exact (ends_throw.mp h).elim
  · obtain ⟨-, rfl⟩ := ends_pure.mp h
    exact ⟨rfl, hsilent⟩

/-- **A command of the AP** starts the SVC, or stops it. -/
lemma acts_controlProcessFrame (buffer : List U8) (n : ℕ) :
    Respects (Acts env ControlSays) (controlProcessFrame env buffer n : FwM cfg ℤ) := by
  rw [controlProcessFrame]
  refine respects_ite (respects_pure _) ?_
  cases buffer[0]? with
  | none => exact respects_throw _
  | some command =>
      refine respects_ite ?_ (respects_ite ?_ (respects_pure _))
      · have hready : Respects (Acts env ControlSays)
            (modifyCore fun c : Core cfg => { c with svcReady := true }) :=
          fun s _ s' h => by
            rw [ends_modifyCore.mp h]
            exact .single .route ⟨rfl, refl_of Opens _⟩ trivial
        refine hready.bind fun _ => ?_
        refine (acts_connectionCreate trivial _ _ _ _).bind fun _ =>
          respects_ite (respects_pure _) ?_
        refine (acts_controlSendRequest (by simp) (by decide)
          fun _ hmsg => ⟨rfl, hmsg⟩).discard.bind fun _ => ?_
        exact (acts_emit (e := .tcpDiscovery true) rfl).bind fun _ => respects_pure _
      · intro s ret s' h
        rw [(Ends.liftIo (Ends.emit _ s.io)).bind_iff] at h
        obtain ⟨_, s₁, h₁, h⟩ := ends_bind.mp h
        obtain ⟨hids, ⟨tr, htrace, htr⟩, hrx⟩ := nodeDestroyAll_silently h₁
        rw [Io.logged_trace, List.append_assoc] at htrace
        have hstop : Acts env ControlSays s s₁ := .single .stop ⟨hids, hrx, tr, htr, htrace⟩ trivial
        rw [(Ends.modifyCore _ s₁).bind_iff, (Ends.modifyCore _ _).bind_iff] at h
        obtain ⟨-, rfl⟩ := ends_pure.mp h
        refine trans_of (Acts env _) hstop (.single .route ⟨?_, ?_⟩ trivial)
        · rfl
        · exact refl_of Opens _

/-! ### Sockets -/

/-- What a node's socket comes to: a message of the node is passed on, or a node is reported. -/
def SocketSays (fd : ℤ) : Act → Prop
  | .hear => True
  | .forward fd' e _ _ => fd' = fd ∧ e.id ≠ SVC_INF_ID
  | .remove _ => True
  | _ => False

/-- Only reports. -/
def Act.IsRemoval : Act → Prop
  | .remove _ => True
  | _ => False

/-- **A socket** that is served: it is broken, and a node is reported; or there is nothing to
do; or it is read, and its node is reported, or has sent a message. -/
lemma nodeRxServe_acts {fd : ℤ} {r : Revents} {flag flag' : Bool} {s s' : Fw cfg}
    (hids : IdsIssued s.core) (h : Ends (nodeRxServe env fd r flag) s flag' s') :
    r.Bad ∧ Acts env Act.IsRemoval s s' ∨
      ¬ r.Bad ∧ (r.pollin = true → nodeCacheFindBySock s.core.nodeCache fd = none) ∧ s' = s ∨
      ¬ r.Bad ∧ r.pollin = true ∧ ∃ i e m b io,
        nodeCacheFindBySock s.core.nodeCache fd = some (i, e) ∧
        Ends (gbMessageReceive env fd flag) s.io (m, b) io ∧
        ((b = true ∨ m = none) ∧ actStep env ⟨s.core, io⟩ (.remove e.inf) s' ∨
          b = false ∧ ∃ cport msg, m = some (cport, msg) ∧ e.id ≠ SVC_INF_ID ∧
            actStep env s (.forward fd e cport msg) s') := by
  by_cases hbad : r.Bad
  · obtain ⟨-, hreport⟩ := (ends_nodeRxServe_bad hbad).mp h
    exact Or.inl ⟨hbad, acts_svcSendModuleRemovedBySock fd (fun _ => trivial) hreport⟩
  -- nothing to read, or nobody to read for
  rcases (ends_nodeRxServe_good hbad).mp h with ⟨hnone, -, rfl⟩ | ⟨hin, i, e, hfind, hreceive⟩
  · exact Or.inr (Or.inl ⟨hbad, hnone, rfl⟩)
  rw [nodeRxReceive] at hreceive
  obtain ⟨⟨m, b⟩, s₁, h₁, hrest⟩ := ends_bind.mp hreceive
  obtain ⟨io, hrecv, rfl⟩ := ends_liftIo.mp h₁
  refine Or.inr (Or.inr ⟨hbad, hin, i, e, m, b, io, hfind, hrecv, ?_⟩)
  have hreport : ∀ {b'}, Ends (do discard (svcSendModuleRemoved env e.inf); return b')
      (⟨s.core, io⟩ : Fw cfg) flag' s' → actStep env ⟨s.core, io⟩ (.remove e.inf) s' := by
    intro b' h
    obtain ⟨_, s₂, h₂, hlast⟩ := ends_bind.mp h
    obtain ⟨-, rfl⟩ := ends_pure.mp hlast
    obtain ⟨ret, hrem⟩ := ends_discard.mp h₂
    obtain ⟨hcore, hreports⟩ := svcSendModuleRemoved_ends env hrem
    exact ⟨hcore, sameRx_svcSendModuleRemoved env _ hrem, hreports⟩
  rw [nodeRxHandle] at hrest
  rcases ends_ite.mp hrest with ⟨hb, hrest⟩ | ⟨hb, hrest⟩
  · exact Or.inl ⟨Or.inl hb, hreport hrest⟩
  -- a message that is not whole is no message: its node is reported
  cases m with
  | none => exact Or.inl ⟨Or.inr rfl, hreport hrest⟩
  | some m =>
      obtain ⟨cport, msg⟩ := m
      obtain ⟨hmem, -⟩ := findEntry_some hfind
      obtain ⟨u, s₂, h₂, hlast⟩ := ends_bind.mp hrest
      obtain ⟨-, rfl⟩ := ends_pure.mp hlast
      obtain ⟨ret, hsend⟩ := ends_discard.mp h₂
      rw [connectionSend, if_neg (hids.ne hmem).2] at hsend
      obtain ⟨hfits, -, rfl⟩ := ends_connectionSendToAp.mp hsend
      refine Or.inr ⟨Bool.eq_false_iff.mpr hb, cport, msg, rfl, (hids.ne hmem).1, ⟨i, hfind⟩, hfits,
        io, (gbMessageReceive_readsOff env hrecv).2 cport msg rfl, rfl⟩

lemma acts_nodeRxServe {fd : ℤ} {r : Revents} {flag flag' : Bool} {s s' : Fw cfg}
    (hids : IdsIssued s.core) (h : Ends (nodeRxServe env fd r flag) s flag' s') :
    Acts env (SocketSays fd) s s' := by
  rcases nodeRxServe_acts hids h with ⟨-, hacts⟩ | ⟨-, -, rfl⟩ |
    ⟨-, -, i, e, m, b, io, -, hrecv, ⟨-, hrem⟩ | ⟨-, cport, msg, -, hne, hfwd⟩⟩
  · exact hacts.mono fun a ha => by cases a <;> trivial
  · exact refl_of (Acts env _) _
  · obtain ⟨⟨bs, hread⟩, -⟩ := gbMessageReceive_readsOff env hrecv
    have hhear : Acts env (SocketSays fd) s ⟨s.core, io⟩ :=
      .single .hear ⟨rfl, hread.adds⟩ trivial
    exact trans_of (Acts env _) hhear (.single (.remove e.inf) hrem trivial)
  · exact .single (.forward fd e cport msg) hfwd ⟨rfl, hne⟩

end frames

/-! ### Steps -/

/-- The acts of a step that the firmware is asked for: responses, and changes of the routes. -/
def SystemOp.MayAnswer : SystemOp → Act → Prop
  | .frame f, a => ControlSays a ∨
      ∃ msg, FrameMsg env f msg ∧ (SvcSays msg a ∨ LocalNodeSays msg a)
  | .request .version, a => ∃ msg, a = .send SVC_INF_ID msg ∧
      IsRequest msg [0x00, 0x01] GB_SVC_TYPE_PROTOCOL_VERSION
  | .request .hello, a => ∃ msg, a = .send SVC_INF_ID msg ∧
      IsRequest msg (le16 ENDO_ID ++ [AP_INF_ID]) GB_SVC_TYPE_SVC_HELLO
  | _, _ => False

/-- The acts of a step that passes messages on, or has to do with modules. -/
def SystemOp.MayPass : SystemOp → Act → Prop
  | .frame f, a => ∃ msg, FrameMsg env f msg ∧ NodeTold (frameCport f.buffer) msg a
  | .serve fd _ _, a => SocketSays fd a
  | .filter _, .insert _ => True
  | .filter _, .refuse => True
  | .request (.moduleRemoved p), a => a = .remove p
  | .outside, .hear => True
  | _, _ => False

/-- A step the firmware does take: a module is announced by discovery only, and what happens
outside leaves the trace alone. -/
def OwnStep (s : Fw cfg) (op : SystemOp) (s' : Fw cfg) : Prop :=
  match op with
  | .request (.moduleInserted _) => False
  | .outside => s'.io.trace = s.io.trace
  | _ => True

/-- What a discovery takes from the slabs are blocks of theirs, so that what its nodes hold stays
where it was put. -/
def TakesBlocks (s : Fw cfg) (op : SystemOp) : Prop :=
  match op with
  | .filter active => EachCreation env Core.HandsOutBlocks s.core active
  | _ => True

variable {env} in
/-- **Every step is made of acts**, of one of two kinds. -/
theorem systemStep_acts {s s' : Fw cfg} {op : SystemOp} (h : systemStep env s op s')
    (hown : OwnStep s op s') (hids : IdsIssued s.core) :
    Acts env (op.MayAnswer env) s s' ∨ Acts env (op.MayPass env) s s' := by
  cases op with
  | frame f =>
      obtain ⟨ret, h⟩ := h
      rcases mainProcessCompleteFrame_cases env h with
        ⟨-, h⟩ | ⟨-, ⟨-, h⟩ | ⟨-, rfl⟩⟩
      · rcases acts_hdlcProcessGreybusFrame h with hacts | hacts
        · exact Or.inl (hacts.mono fun _ ha => Or.inr ha)
        · exact Or.inr (hacts.mono fun _ ha => ha)
      · exact Or.inl ((acts_controlProcessFrame _ _ h).mono fun _ ha => Or.inl ha)
      · exact Or.inl (refl_of (Acts env _) s')
  | serve fd r flag =>
      obtain ⟨flag', h⟩ := h
      exact Or.inr (acts_nodeRxServe hids h)
  | filter active => exact Or.inr (acts_nodeFilter active (fun _ => trivial) trivial h)
  | request req =>
      obtain ⟨ret, h⟩ := h
      cases req with
      | version =>
          exact Or.inl (acts_controlSendRequest (by simp) (by decide)
            (fun msg hmsg => ⟨msg, rfl, hmsg⟩) h)
      | hello =>
          exact Or.inl (acts_controlSendRequest (by simp) (by decide)
            (fun msg hmsg => ⟨msg, rfl, hmsg⟩) h)
      | moduleInserted id => exact hown.elim
      | moduleRemoved intf =>
          have hacts : Acts env (.remove intf = ·) s s' := acts_svcSendModuleRemoved intf rfl h
          exact Or.inr (hacts.mono fun _ ha => ha.symm)
  | outside =>
      have hcore : s'.core = s.core := h
      exact Or.inr (.single .hear ⟨hcore, .of_trace_eq hown⟩ trivial)

/-- The acts of the first kind. -/
def Act.IsAnswer : Act → Prop
  | .route | .send _ _ | .stop => True
  | _ => False

/-- The acts of the second kind. -/
def Act.IsPass : Act → Prop
  | .hear | .forward _ _ _ _ | .insert _ | .refuse | .remove _ | .write _ _ _ _ => True
  | _ => False

variable {env}

lemma SystemOp.MayAnswer.isAnswer {op : SystemOp} {a : Act} (h : op.MayAnswer env a) :
    a.IsAnswer := by
  cases op with
  | frame f =>
      rcases h with h | ⟨msg, -, h | h⟩
      all_goals cases a <;> trivial
  | request req =>
      cases req with
      | version =>
          obtain ⟨msg, rfl, -⟩ := h
          trivial
      | hello =>
          obtain ⟨msg, rfl, -⟩ := h
          trivial
      | moduleInserted id => exact h.elim
      | moduleRemoved p => exact h.elim
  | serve fd r flag => exact h.elim
  | filter active => exact h.elim
  | outside => exact h.elim

lemma SystemOp.MayPass.isPass {op : SystemOp} {a : Act} (h : op.MayPass env a) : a.IsPass := by
  cases op with
  | frame f =>
      obtain ⟨msg, -, h⟩ := h
      cases a <;> trivial
  | serve fd r flag => cases a <;> trivial
  | filter active => cases a <;> trivial
  | request req =>
      cases req with
      | moduleRemoved p =>
          have ha : a = .remove p := h
          rw [ha]
          trivial
      | _ => exact False.elim h
  | outside => cases a <;> trivial

/-! ### Events -/

section adds

variable {P : Event → Prop} (hsilent : ∀ e : Event, e.Silent → P e)
include hsilent

lemma Adds.of_silent {io io' : Io} (h : Adds Event.Silent io io') : Adds P io io' := by
  obtain ⟨tr, htrace, htr⟩ := h
  exact ⟨tr, htrace, fun e he => hsilent e (htr e he)⟩

variable (hblock : ∀ b, P (.hdlcBlock b))
include hblock

lemma forall_sendEvents {n : ℕ} (link : Option (Fin n)) (id : U8) (cport : U16)
    (msg : GbMessage) : ∀ e ∈ sendEvents link id cport msg, P e := by
  have hquiet : P (.connectionSend id cport msg) := hsilent _ trivial
  have hdealloc : P (.dealloc msg.blk) := hsilent _ trivial
  cases link with
  | none => simpa [sendEvents] using hquiet
  | some k => simpa [sendEvents] using ⟨hquiet, hblock _, hdealloc⟩

lemma forall_requestEvents {n : ℕ} (link : Option (Fin n)) (msg : GbMessage) :
    ∀ e ∈ requestEvents link msg, P e := by
  have hquiet : P (.alloc msg.blk) ∧ P (.connectionSend SVC_INF_ID 0 msg) :=
    ⟨hsilent _ trivial, hsilent _ trivial⟩
  have hafter : P (.dealloc msg.blk) ∧ P (.msgRead msg.blk) :=
    ⟨hsilent _ trivial, hsilent _ trivial⟩
  cases link with
  | none => simpa [requestEvents] using hquiet
  | some k => simpa [requestEvents] using ⟨hquiet.1, hquiet.2, hblock _, hafter⟩

variable (hremoved : ∀ p, P (.moduleRemoved p))
include hremoved

lemma Reports.forall {c : Core cfg} {p : Ptr} {tr : List Event} (h : Reports c p tr) :
    ∀ e ∈ tr, P e := by
  obtain ⟨msg, -, rfl⟩ := h
  intro e he
  rw [reportEvents, List.mem_append, List.mem_append] at he
  rcases he with (he | he) | he
  · rcases List.mem_pair.mp he with rfl | rfl
    · exact hremoved p
    · exact hsilent _ trivial
  · exact forall_requestEvents hsilent hblock _ _ e he
  · split_ifs at he
    · exact hsilent e (destroyEvents_silent he)
    · cases he

/-- **What an act adds to the trace**: what nobody can tell, blocks, and what is peculiar to it. -/
lemma actStep_adds {s s' : Fw cfg} {a : Act} (h : actStep env s a s')
    (hroute : a = .route → ∀ fd, P (.pipeSend fd))
    (hwrite : ∀ c q msg n, a = .write c q msg n → ∀ fd bs, P (.sockSend fd bs))
    (hstop : a = .stop → P (.tcpDiscovery false)) : Adds P s.io s'.io := by
  cases a with
  | quiet => exact h.2.adds.of_silent hsilent
  | refuse => exact h.2.2.adds.of_silent hsilent
  | route =>
      obtain ⟨tr, htrace, htr⟩ := h.2.adds
      refine ⟨tr, htrace, fun e he => ?_⟩
      -- a route may wake the thread that polls
      rcases htr e he with hquiet | ⟨fd, rfl⟩
      · exact hsilent e hquiet
      · exact hroute rfl fd
  | hear => exact h.2.of_silent hsilent
  | send id msg => exact ⟨_, h.2.2.2, forall_sendEvents hsilent hblock _ _ _ _⟩
  | forward fd e cport msg =>
      -- what is read comes first, then what is sent to the AP
      obtain ⟨-, -, io, ⟨-, tr, htrace, htr⟩, rfl⟩ := h
      have hread : Adds Event.Silent s.io io := by
        rw [List.append_assoc] at htrace
        refine ⟨_, htrace, fun ev hev => ?_⟩
        rcases List.mem_append.mp hev with hev | hev
        · exact htr ev hev
        · rw [List.mem_singleton.mp hev]
          trivial
      exact trans_of (Adds _) (hread.of_silent hsilent)
        (.logged io (forall_sendEvents hsilent hblock _ _ _ _))
  | insert id =>
      obtain ⟨-, -, -, msg, -, htrace⟩ := h
      exact ⟨_, htrace, forall_requestEvents hsilent hblock _ _⟩
  | remove p =>
      obtain ⟨-, -, tr, hreports, htrace⟩ := h
      exact ⟨tr, htrace, hreports.forall hsilent hblock hremoved⟩
  | write c q msg n =>
      obtain ⟨-, -, slot, tr, -, -, hon, -, htrace⟩ := h
      refine ⟨tr, htrace, fun e he => ?_⟩
      obtain ⟨bs, rfl⟩ := hon e he
      exact hwrite c q msg n rfl _ _
  | stop =>
      obtain ⟨-, -, tr, htr, htrace⟩ := h
      refine ⟨_, htrace, fun e he => ?_⟩
      rcases List.mem_cons.mp he with rfl | he
      · exact hstop rfl
      · exact hsilent e (htr e he)

end adds

end Cc1352Greybus
