import Cc1352Greybus.Heap.Receive
import Cc1352Greybus.Greybus.System

/-!
From the nodes, the SVC and the local node to the AP: what is sent, and whether it
fits the buffer it is sent from.

* `SendsSized`: whatever is passed to `connection_send` for the AP has the payload its
  header speaks of, or is a cut message.
* `systemFinal_sendsSized`: so it is in every step of the system, also in one that
  stops.
* `fitsBuffer_iff`: such a message is copied and sent within the buffer of
  `gb_message_hdlc_send`, or refused, exactly when it is small enough.
* `buffer_overrun`: one of a node that is not.
-/

namespace Cc1352Greybus

open Effects

variable {cfg : Config} (env : Env)

/-! ### What is passed on -/

/-- Its header speaks for its payload, or it is a cut one. -/
def GbMessage.SizedOrCut (msg : GbMessage) : Prop := msg.Sized ∨ msg.Cut

/-- An event that passes a message on to the AP passes on such a one. -/
def Event.SizedForAp : Event → Prop
  | .connectionSend intfId _ msg => intfId ≠ AP_INF_ID → msg.SizedOrCut
  | _ => True

/-- Nothing has been passed on to the AP but such messages. -/
def SendsSized (io io' : Io) : Prop :=
  ∃ tr, io'.trace = io.trace ++ tr ∧ ∀ e ∈ tr, e.SizedForAp

lemma SendsSized.of_trace_eq {io io' : Io} (h : io'.trace = io.trace) : SendsSized io io' :=
  ⟨[], by simp [h], by simp⟩

lemma SendsSized.logged (io : Io) {tr : List Event} (h : ∀ e ∈ tr, e.SizedForAp) :
    SendsSized io (io.logged tr) :=
  ⟨tr, rfl, h⟩

instance : Std.Refl SendsSized := ⟨fun _ => .of_trace_eq rfl⟩

instance : IsTrans Io SendsSized where
  trans := by
    rintro a b c ⟨tr, hb, htr⟩ ⟨tr', hc, htr'⟩
    refine ⟨tr ++ tr', by rw [hc, hb, List.append_assoc], fun e he => ?_⟩
    rcases List.mem_append.mp he with he | he
    · exact htr e he
    · exact htr' e he

/-! ### The devices -/

lemma sends_emit {e : Event} (he : e.SizedForAp) : Always SendsSized (emit e) :=
  fun io => .logged io (by simpa using he)

/-- A change of the devices other than their trace. -/
lemma sends_modifyGet {α : Type} {f : Io → α × Io} (h : ∀ io, SendsSized io (f io).2) :
    Always SendsSized (modifyGet f : IoM α) := h

lemma sends_kHeapAlloc (size : ℕ) : Always SendsSized (kHeapAlloc env size) := by
  refine sends_modifyGet fun io => ?_
  split_ifs
  · exact ⟨[.alloc io.heapCalls], rfl, by simp [Event.SizedForAp]⟩
  · exact .of_trace_eq rfl

lemma sends_gbMessageAlloc (payloadLen : ℕ) (messageType : U8) (operationId : U16)
    (status : U8) :
    Always SendsSized (gbMessageAlloc env payloadLen messageType operationId status) := by
  refine (sends_kHeapAlloc env _).bind fun blk => ?_
  cases blk with
  | none => exact always_pure _
  | some blk => exact always_ite (always_throw _) (always_pure _)

lemma sends_fillPayload (msg : GbMessage) (src : List U8) :
    Always SendsSized (fillPayload msg src) :=
  always_ite (always_throw _) (always_pure _)

lemma sends_memcpyPayload (msg : Option GbMessage) (src : List U8) :
    Always SendsSized (memcpyPayload msg src) := by
  cases msg with
  | none => exact always_ite (always_pure _) (always_throw _)
  | some msg => exact (sends_fillPayload msg src).bind fun _ => always_pure _

lemma sends_gbMessageRequestAlloc (payload : List U8) (requestType : U8) :
    Always SendsSized (gbMessageRequestAlloc env payload requestType false) := by
  refine (sends_modifyGet fun io => .of_trace_eq rfl).bind fun operationId => ?_
  exact (sends_gbMessageAlloc env _ _ _ _).bind fun msg => sends_memcpyPayload msg payload

lemma sends_gbMessageResponseAlloc (payload : List U8) (requestType : U8) (operationId : U16)
    (status : U8) :
    Always SendsSized (gbMessageResponseAlloc env payload requestType operationId status) :=
  (sends_gbMessageAlloc env _ _ _ _).bind fun msg => sends_memcpyPayload msg payload

lemma sends_zsockRecv (sock : ℤ) (len : ℕ) : Always SendsSized (zsockRecv sock len) := by
  refine always_ite (always_pure _) fun io => ?_
  refine .of_trace_eq ?_
  rw [(Ends.get io).final_bind]
  cases io.rx sock with
  | nil => rfl
  | cons chunk rest => cases chunk <;> rfl

lemma sends_readData (sock : ℤ) (room len : ℕ) : Always SendsSized (readData sock room len) := by
  have hloop : ∀ rounds left received,
      Always SendsSized (readDataLoop sock room rounds left received) := by
    intro rounds
    induction rounds with
    | zero => exact fun _ _ => always_pure _
    | succ rounds ih =>
        intro left received
        exact always_ite (always_pure _) ((sends_zsockRecv sock left).bind fun r =>
          always_ite (always_pure _) (always_ite (always_throw _) (ih _ _)))
  exact hloop _ _ _

lemma sends_writeData (sock : ℤ) (data : List U8) :
    Always SendsSized (writeData env sock data) := by
  have hsend : ∀ data, Always SendsSized (zsockSend env sock data) := by
    intro data
    refine sends_modifyGet fun io => ?_
    split_ifs
    · exact refl_of SendsSized io
    · cases env.zsockSend io.sendCalls with
      | none => exact .of_trace_eq rfl
      | some n => exact ⟨[.sockSend sock (data.take (n + 1))], rfl, by simp [Event.SizedForAp]⟩
  have hloop : ∀ rounds left transmitted,
      Always SendsSized (writeDataLoop env sock rounds left transmitted) := by
    intro rounds
    induction rounds with
    | zero => exact fun _ _ => always_pure _
    | succ rounds ih =>
        intro left transmitted
        exact always_ite (always_pure _)
          ((hsend left).bind fun r => always_ite (always_pure _) (ih _ _))
  exact hloop _ _ _

lemma sends_shortRead (sock ret : ℤ) : Always SendsSized (shortRead sock ret) :=
  (sends_emit (by trivial)).bind fun _ => always_pure _

lemma sends_gbMessageReceive (sock : ℤ) (flag : Bool) :
    Always SendsSized (gbMessageReceive env sock flag) := by
  refine (sends_readData sock 2 2).bind fun c => always_ite (sends_shortRead _ _) ?_
  refine (sends_readData sock 8 8).bind fun h => always_ite (sends_shortRead _ _) ?_
  refine (sends_gbMessageAlloc env _ _ _ _).bind fun msg => ?_
  cases msg with
  | none => exact (sends_emit (by trivial)).bind fun _ => always_pure _
  | some msg =>
      refine (sends_readData sock _ _).bind fun p => always_ite ?_ ?_
      · exact (sends_emit (by trivial)).bind fun _ => sends_shortRead _ _
      · exact (sends_emit (by trivial)).bind fun _ => always_pure _

lemma sends_connectToNode : Always SendsSized (connectToNode env) := by
  have hsocket : Always SendsSized (zsockSocket env) := by
    refine sends_modifyGet fun io => ?_
    cases env.zsockSocket io.netCalls with
    | none => exact .of_trace_eq rfl
    | some fd => exact ⟨[.sockOpen fd], rfl, by simp [Event.SizedForAp]⟩
  refine Always.bind (fun io => refl_of SendsSized io) fun io => hsocket.bind fun r => ?_
  cases r with
  | none => exact always_pure _
  | some fd =>
      exact always_ite (always_pure _) ((sends_emit (by trivial)).bind fun _ => always_pure _)

lemma sends_pipeSend : Always SendsSized pipeSend :=
  Always.bind (fun io => refl_of SendsSized io) fun _ => sends_emit (by trivial)

lemma sends_apSend (msg : GbMessage) (cport : U16) : Always SendsSized (apSend cfg msg cport) := by
  have hsend : Always SendsSized (gbMessageHdlcSend cfg msg cport) := by
    rw [gbMessageHdlcSend]
    exact always_ite (always_throw _) ((sends_emit (by trivial)).bind fun _ => always_pure _)
  exact hsend.bind fun _ => (sends_emit (by trivial)).bind fun _ => always_pure _

/-! ### The firmware -/

/-- The devices, through a program over both. -/
def SendsSizedFw (s s' : Fw cfg) : Prop := SendsSized s.io s'.io

instance : Std.Refl (@SendsSizedFw cfg) := ⟨fun s => refl_of SendsSized s.io⟩

instance : IsTrans (Fw cfg) SendsSizedFw := ⟨fun _ _ _ h h' => trans_of SendsSized h h'⟩

lemma sends_liftIo {α : Type} {m : IoM α} (h : Always SendsSized m) :
    Always SendsSizedFw (liftIo m : FwM cfg α) := by
  intro s
  rw [liftIo, final_zoom]
  exact h s.io

lemma sends_getCore : Always SendsSizedFw (getCore : FwM cfg (Core cfg)) :=
  fun s => refl_of SendsSized s.io

lemma sends_modifyCore (f : Core cfg → Core cfg) : Always SendsSizedFw (modifyCore f) :=
  fun s => refl_of SendsSized s.io

lemma sends_modifyGetCore {α : Type} (f : Core cfg → α × Core cfg) :
    Always SendsSizedFw (modifyGetCore f) :=
  fun s => refl_of SendsSized s.io

lemma sends_readIntf (p : Ptr) : Always SendsSizedFw (readIntf p : FwM cfg GbInterface) :=
  (sends_liftIo (sends_emit (by trivial))).bind fun _ => sends_getCore.bind fun _ => always_pure _

lemma sends_connectionSendToAp {intfId : U8} {cport : U16} {msg : GbMessage}
    (h : intfId ≠ AP_INF_ID → msg.SizedOrCut) :
    Always SendsSizedFw (connectionSendToAp intfId cport msg : FwM cfg ℤ) := by
  refine (sends_liftIo (sends_emit (by exact h))).bind fun _ => sends_getCore.bind fun c => ?_
  cases nodeToApCport c.nodeApMap intfId cport with
  | none => exact always_pure _
  | some k => exact sends_liftIo (sends_apSend msg _)

/-- A message built for a payload has the size of it. -/
lemma sized_of_alloc {payload : List U8} {messageType : U8} {operationId : U16} {status : U8}
    {io io' : Io} {msg : GbMessage} (hlen : payload.length + 8 < 2 ^ 16)
    (h : Ends (do
      let msg ← gbMessageAlloc env payload.length messageType operationId status
      memcpyPayload msg payload) io (some msg) io') : msg.Sized := by
  rcases alloc_memcpy_ends env (by omega) h with ⟨hnone, -⟩ | ⟨hmsg, -⟩
  · cases hnone
  · obtain rfl := Option.some.inj hmsg
    rw [GbMessage.Sized, freshMessage, BitVec.toNat_ofNat, Nat.mod_eq_of_lt (by omega)]
    exact Nat.add_comm _ _

lemma sends_controlSendRequest (payload : List U8) (requestType : U8)
    (hlen : payload.length + 8 < 2 ^ 16) :
    Always SendsSizedFw (controlSendRequest env payload requestType : FwM cfg ℤ) := by
  refine (sends_liftIo (sends_gbMessageRequestAlloc env payload requestType)).bind_of_ends ?_
  intro s r s' h
  cases r with
  | none => exact always_pure _
  | some msg =>
      obtain ⟨io, halloc, -⟩ := ends_liftIo.mp h
      obtain ⟨operationId, io₁, -, halloc⟩ := ends_bind.mp halloc
      refine
        (sends_connectionSendToAp fun _ => Or.inl (sized_of_alloc env hlen halloc)).bind fun ret =>
        always_ite (always_pure _) ?_
      exact (sends_liftIo (sends_emit (by trivial))).bind fun _ => always_pure _

lemma sends_respond (intfId : U8) (cport : U16) (msg : GbMessage) {payload : List U8} (status : U8)
    (hlen : payload.length + 8 < 2 ^ 16) :
    Always SendsSizedFw (respond env intfId cport msg payload status : FwM cfg Unit) := by
  refine (sends_liftIo (sends_gbMessageResponseAlloc env payload _ _ status)).bind_of_ends ?_
  intro s r s' h
  cases r with
  | none => exact always_pure _
  | some resp =>
      obtain ⟨io, halloc, -⟩ := ends_liftIo.mp h
      exact (sends_connectionSendToAp fun _ => Or.inl (sized_of_alloc env hlen halloc)).discard

lemma sends_nodeDestroyInterface (inf : Option Ptr) :
    Always SendsSizedFw (nodeDestroyInterface env inf : FwM cfg Unit) := by
  cases inf with
  | none => exact always_pure _
  | some inf =>
      have hclose : ∀ sock, Always SendsSizedFw (closeIfOpen sock : FwM cfg Unit) := fun sock =>
        always_ite (sends_liftIo (sends_emit (by trivial))) (always_pure _)
      refine (sends_readIntf inf).bind fun _ => sends_getCore.bind fun _ => ?_
      refine (hclose _).bind fun _ => ?_
      refine (sends_readIntf inf).bind fun _ => (sends_modifyCore _).bind fun _ => ?_
      refine (sends_modifyCore _).bind fun _ => ?_
      refine (sends_liftIo (sends_emit (by trivial))).bind fun _ => ?_
      exact sends_modifyCore _

lemma sends_svcSendModuleRemoved (intf : Ptr) :
    Always SendsSizedFw (svcSendModuleRemoved env intf : FwM cfg ℤ) := by
  refine (sends_liftIo (sends_emit (by trivial))).bind fun _ => ?_
  refine (sends_readIntf intf).bind fun i => ?_
  refine (sends_controlSendRequest env [i.id] _ (by simp)).bind fun ret =>
    always_ite (always_pure _) ?_
  exact (sends_nodeDestroyInterface env _).bind fun _ => always_pure _

lemma sends_svcSendModuleRemovedBySock (sock : ℤ) :
    Always SendsSizedFw (svcSendModuleRemovedBySock env sock : FwM cfg Unit) := by
  refine sends_getCore.bind fun c => ?_
  cases nodeCacheFindBySock c.nodeCache sock with
  | none => exact always_pure _
  | some e => exact (sends_svcSendModuleRemoved env _).discard

lemma sends_nodeInfWrite (ctrl : Ptr) (msg : GbMessage) (cport : U16) :
    Always SendsSizedFw (nodeInfWrite env ctrl msg cport : FwM cfg ℤ) := by
  have hfailed : ∀ sock ret, Always SendsSizedFw (gbMessageSendFailed env sock ret : FwM cfg ℤ) :=
    fun sock ret => (sends_svcSendModuleRemovedBySock env sock).bind fun _ => always_pure _
  have hsend : ∀ sock, Always SendsSizedFw (gbMessageSend env sock msg cport : FwM cfg ℤ) := by
    intro sock
    refine (sends_liftIo (sends_writeData env _ _)).bind fun _ => always_ite (hfailed _ _) ?_
    refine (sends_liftIo (sends_writeData env _ _)).bind fun _ => always_ite (hfailed _ _) ?_
    refine always_ite (always_throw _) ?_
    exact (sends_liftIo (sends_writeData env _ _)).bind fun _ =>
      always_ite (hfailed _ _) (always_pure _)
  have hdealloc : ∀ ret : ℤ, Always SendsSizedFw
      (do liftIo (gbMessageDealloc msg); return ret : FwM cfg ℤ) :=
    fun ret => (sends_liftIo (sends_emit (by trivial))).bind fun _ => always_pure _
  refine (sends_readIntf ctrl).bind fun _ => sends_getCore.bind fun _ => (hsend _).bind fun _ =>
    always_ite ?_ (hdealloc _)
  exact (sends_svcSendModuleRemoved env ctrl).discard.bind fun _ => hdealloc _

/-! ### Connections and nodes -/

lemma sends_connectionCreate (i₁ : U8) (p₁ : U16) (i₂ : U8) (p₂ : U16) :
    Always SendsSizedFw (connectionCreate env i₁ p₁ i₂ p₂ : FwM cfg ℤ) := by
  have hnode : ∀ p cport, Always SendsSizedFw
      (nodeIntfCreateConnection env p cport : FwM cfg ℤ) := by
    intro p cport
    refine sends_getCore.bind fun c => always_ite (always_pure _) (always_ite (always_pure _) ?_)
    cases nodeCacheFindById c.nodeCache (c.intfMem p).id with
    | none => exact always_pure _
    | some r =>
        refine (sends_liftIo (sends_connectToNode env)).bind fun sock => ?_
        refine always_ite (always_pure _) ?_
        exact (sends_modifyCore _).bind fun _ =>
          (sends_liftIo sends_pipeSend).bind fun _ => always_pure _
  have hintf : ∀ intf cport, Always SendsSizedFw
      (intfCreateConnection env intf cport : FwM cfg ℤ) := by
    intro intf cport
    cases intf with
    | svc => exact sends_getCore.bind fun _ => always_pure _
    | localNode => exact always_pure _
    | node p => exact hnode p cport
  rw [connectionCreate]
  cases endpoint i₁ p₁ i₂ p₂ with
  | none => exact always_pure _
  | some e =>
      refine sends_getCore.bind fun c => ?_
      cases gbInterfaceFindById c e.nodeId with
      | none => exact always_pure _
      | some intf =>
          refine (hintf intf _).bind fun ret => always_ite (always_pure _) ?_
          exact (sends_modifyGetCore _).bind fun _ => always_ite (always_pure _) (always_pure _)

lemma sends_connectionDestroy (i₁ : U8) (p₁ : U16) (i₂ : U8) (p₂ : U16) :
    Always SendsSizedFw (connectionDestroy i₁ p₁ i₂ p₂ : FwM cfg ℤ) := by
  have hintf : ∀ intf cport, Always SendsSizedFw
      (intfDestroyConnection intf cport : FwM cfg Unit) := by
    intro intf cport
    cases intf with
    | svc => exact always_ite (always_pure _) (sends_modifyCore _)
    | localNode => exact always_pure _
    | node p => exact always_pure _
  rw [connectionDestroy]
  cases endpoint i₁ p₁ i₂ p₂ with
  | none => exact always_pure _
  | some e =>
      have hremove : Always SendsSizedFw (do
          discard (modifyGetCore fun c : Core cfg => c.nodeApRemove e.apCport)
          return (0 : ℤ)) :=
        (sends_modifyGetCore _).discard.bind fun _ => always_pure _
      refine sends_getCore.bind fun c => ?_
      cases gbInterfaceFindById c e.nodeId with
      | none => exact hremove
      | some intf => exact (hintf intf _).bind fun _ => hremove

lemma sends_nodeFilter (active : List (BitVec 128)) :
    Always SendsSizedFw (nodeFilter env active : FwM cfg Unit) := by
  induction active with
  | nil => exact always_pure _
  | cons addr active ih =>
      refine Always.bind ?_ fun _ => ih
      refine sends_getCore.bind fun c => ?_
      cases nodeCacheFindByAddr c.nodeCache addr with
      | some e => exact always_pure _
      | none =>
          refine (sends_modifyGetCore _).bind fun inf => ?_
          cases inf with
          | none => exact always_pure _
          | some inf =>
              exact sends_getCore.bind fun _ =>
                (sends_controlSendRequest env _ _ (by simp)).discard

lemma sends_nodeDestroyAll : Always SendsSizedFw (nodeDestroyAll env : FwM cfg Unit) := by
  have hloop : ∀ rounds i,
      Always SendsSizedFw (nodeDestroyAllLoop env rounds i : FwM cfg Unit) := by
    intro rounds
    induction rounds with
    | zero => exact fun _ => always_pure _
    | succ rounds ih =>
        intro i
        refine sends_getCore.bind fun c => ?_
        cases c.nodeCache[i]? with
        | none => exact always_pure _
        | some e => exact (sends_nodeDestroyInterface env _).bind fun _ => ih _
  refine sends_getCore.bind fun c => (hloop _ _).bind fun _ => (sends_modifyCore _).bind fun _ => ?_
  exact sends_getCore.bind fun _ => always_ite (always_throw _) (always_pure _)

/-! ### Messages -/

lemma sends_payloadByte (msg : GbMessage) (i : ℕ) :
    Always SendsSizedFw (payloadByte msg i : FwM cfg U8) := by
  rw [payloadByte.eq_def]
  cases msg.payload[i]? with
  | none => exact always_throw _
  | some b => exact always_pure _

lemma sends_payloadLe16 (msg : GbMessage) (i : ℕ) :
    Always SendsSizedFw (payloadLe16 msg i : FwM cfg U16) :=
  (sends_payloadByte msg _).bind fun _ => (sends_payloadByte msg _).bind fun _ => always_pure _

lemma sends_gbHandleMsg (msg : GbMessage) :
    Always SendsSizedFw (gbHandleMsg env msg : FwM cfg Unit) := by
  have hanswer : ∀ payload status, payload.length ≤ 8 →
      Always SendsSizedFw (svcResponseHelper env msg payload status : FwM cfg Unit) :=
    fun payload status hlen => sends_respond env _ _ msg status (by omega)
  have hempty : ∀ status,
      Always SendsSizedFw (svcResponseHelper env msg [] status : FwM cfg Unit) :=
    fun status => hanswer _ _ (Nat.zero_le _)
  have hcreate : Always SendsSizedFw (svcConnectionCreateHandler env msg : FwM cfg Unit) := by
    refine (sends_payloadByte msg _).bind fun _ => (sends_payloadByte msg _).bind fun _ => ?_
    refine (sends_payloadLe16 msg _).bind fun _ => (sends_payloadLe16 msg _).bind fun _ => ?_
    exact always_ite (hempty _)
      ((sends_connectionCreate env _ _ _ _).bind fun _ => hempty _)
  have hdestroy : Always SendsSizedFw (svcConnectionDestroyHandler env msg : FwM cfg Unit) := by
    refine (sends_payloadByte msg _).bind fun _ => (sends_payloadLe16 msg _).bind fun _ => ?_
    refine (sends_payloadByte msg _).bind fun _ => (sends_payloadLe16 msg _).bind fun _ => ?_
    exact (sends_connectionDestroy _ _ _ _).bind fun _ => hempty _
  have hpwrm : Always SendsSizedFw (svcIntfSetPwrmHandler env msg : FwM cfg Unit) :=
    (sends_payloadByte msg _).bind fun _ => (sends_payloadByte msg _).bind fun _ =>
      hanswer _ _ (Nat.le_of_ble_eq_true rfl)
  have hversion : Always SendsSizedFw (svcVersionResponseHandler env msg : FwM cfg Unit) :=
    (sends_payloadByte msg _).discard.bind fun _ => (sends_payloadByte msg _).discard.bind fun _ =>
      (sends_controlSendRequest env _ _ (by decide)).discard
  rw [gbHandleMsg]
  refine always_ite (hempty _) (always_ite hcreate (always_ite hdestroy ?_))
  refine always_ite (hanswer _ _ (Nat.le_of_ble_eq_true rfl)) ?_
  refine always_ite (hanswer _ _ (Nat.le_of_ble_eq_true rfl)) (always_ite hpwrm ?_)
  -- the rails, the three switches of an interface, its activation and resumption
  iterate 6 refine always_ite (hanswer _ _ (Nat.le_of_ble_eq_true rfl)) ?_
  exact always_ite hversion (always_pure _)

lemma sends_controlProtocolHandle (msg : GbMessage) :
    Always SendsSizedFw (controlProtocolHandle env msg : FwM cfg Unit) := by
  have hanswer : ∀ payload status cport, payload.length ≤ 60 →
      Always SendsSizedFw (responseHelper env msg payload status cport : FwM cfg Unit) :=
    fun payload status cport hlen => sends_respond env _ _ msg status (by omega)
  rw [controlProtocolHandle]
  iterate 5 refine always_ite (hanswer _ _ _ (Nat.le_of_ble_eq_true rfl)) ?_
  exact always_pure _

lemma sends_connectionSend {intfId : U8} {cport : U16} {msg : GbMessage}
    (h : intfId ≠ AP_INF_ID → msg.SizedOrCut) :
    Always SendsSizedFw (connectionSend env intfId cport msg : FwM cfg ℤ) := by
  have hdealloc : ∀ ret : ℤ, Always SendsSizedFw
      (do liftIo (gbMessageDealloc msg); return ret : FwM cfg ℤ) :=
    fun ret => (sends_liftIo (sends_emit (by trivial))).bind fun _ => always_pure _
  have hwrite : ∀ intf p, Always SendsSizedFw (intfWrite env intf msg p : FwM cfg ℤ) := by
    intro intf p
    cases intf with
    | svc =>
        exact always_ite (always_pure _) ((sends_gbHandleMsg env msg).bind fun _ => hdealloc _)
    | localNode =>
        exact always_ite ((sends_controlProtocolHandle env msg).bind fun _ => hdealloc _)
          (hdealloc _)
    | node q => exact sends_nodeInfWrite env q msg p
  refine always_ite ?_ (sends_connectionSendToAp h)
  refine (sends_liftIo (sends_emit (by exact fun hne => absurd rfl hne))).bind fun _ =>
    sends_getCore.bind fun c => ?_
  split_ifs with hlt
  · cases (c.nodeApMap ⟨cport.toNat, hlt⟩).nodeIntf with
    | none => exact always_throw _
    | some intf => exact hwrite intf _
  · exact always_throw _

lemma sends_mainProcessCompleteFrame (f : RxFrame) :
    Always SendsSizedFw (mainProcessCompleteFrame env f : FwM cfg ℤ) := by
  have hgreybus : Always SendsSizedFw
      (hdlcProcessGreybusFrame env f.buffer f.len : FwM cfg ℤ) := by
    refine always_ite (always_throw _) (always_ite (always_pure _) ?_)
    refine always_ite (always_throw _)
      ((sends_liftIo (sends_gbMessageAlloc env _ _ _ _)).bind fun msg => ?_)
    cases msg with
    | none => exact always_pure _
    | some msg =>
        refine always_ite (always_throw _)
          ((sends_liftIo (sends_fillPayload msg _)).bind fun _ => ?_)
        exact (sends_connectionSend env fun hne => absurd rfl hne).bind fun _ =>
          always_ite (always_pure _) (always_pure _)
  have hcontrol : Always SendsSizedFw (controlProcessFrame env f.buffer f.len : FwM cfg ℤ) := by
    rw [controlProcessFrame]
    refine always_ite (always_pure _) ?_
    cases f.buffer[0]? with
    | none => exact always_throw _
    | some command =>
        refine always_ite ?_ (always_ite ?_ (always_pure _))
        · refine (sends_modifyCore _).bind fun _ => ?_
          refine (sends_connectionCreate env _ _ _ _).bind fun _ => always_ite (always_pure _) ?_
          refine (sends_controlSendRequest env _ _ (by decide)).discard.bind fun _ => ?_
          exact (sends_liftIo (sends_emit (by trivial))).bind fun _ => always_pure _
        · refine (sends_liftIo (sends_emit (by trivial))).bind fun _ => ?_
          refine (sends_nodeDestroyAll env).bind fun _ => (sends_modifyCore _).bind fun _ => ?_
          exact (sends_modifyCore _).bind fun _ => always_pure _
  exact always_ite hgreybus (always_ite hcontrol (always_ite (always_pure _) (always_pure _)))

/-- A message that is received has the payload its header speaks of, or is cut. -/
lemma gbMessageReceive_sized {sock : ℤ} {flag flag' : Bool} {io io' : Io} {cport : U16}
    {msg : GbMessage}
    (h : Ends (gbMessageReceive env sock flag) io (some (cport, msg), flag') io') :
    msg.SizedOrCut := by
  rcases gbMessageReceive_tidy env h with
    ⟨hnone, -⟩ | ⟨cport', msg', hdr, hr, -, hfields, -, hwhole | ⟨hnil, hcut⟩, -⟩
  · cases hnone
  · obtain ⟨rfl, rfl⟩ := Prod.mk.inj (Option.some.inj (Prod.mk.inj hr).1)
    exact Or.inl (by rw [GbMessage.Sized, (Prod.mk.inj hfields).1, hwhole.size])
  · obtain ⟨rfl, rfl⟩ := Prod.mk.inj (Option.some.inj (Prod.mk.inj hr).1)
    exact Or.inr (hcut.cut hfields hnil)

lemma sends_nodeRxServe (fd : ℤ) (r : Revents) (flag : Bool) :
    Always SendsSizedFw (nodeRxServe env fd r flag : FwM cfg Bool) := by
  rw [nodeRxServe_eq]
  have hbroken : Always SendsSizedFw
      (do svcSendModuleRemovedBySock env fd; return flag : FwM cfg Bool) :=
    (sends_svcSendModuleRemovedBySock env fd).bind fun _ => always_pure _
  have hreport : ∀ p b, Always SendsSizedFw
      (do discard (svcSendModuleRemoved env p); return b : FwM cfg Bool) := fun p b =>
    (sends_svcSendModuleRemoved env p).discard.bind fun _ => always_pure _
  refine always_ite hbroken (always_ite hbroken
    (always_ite hbroken (always_ite ?_ (always_pure _))))
  refine sends_getCore.bind fun c => ?_
  cases nodeCacheFindBySock c.nodeCache fd with
  | none => exact always_pure _
  | some x =>
      refine (sends_liftIo (sends_gbMessageReceive env fd flag)).bind_of_ends ?_
      rintro s ⟨m, b⟩ s' h
      obtain ⟨io, hrecv, -⟩ := ends_liftIo.mp h
      refine always_ite (hreport _ _) ?_
      cases m with
      | none => exact hreport _ _
      | some m =>
          exact (sends_connectionSend env fun _ => gbMessageReceive_sized env hrecv).discard.bind
            fun _ => always_pure _

/-! ### The system -/

/-- The state a step of the system leaves, be it at its end or where it stops. -/
def SystemOp.final (s : Fw cfg) : SystemOp → Fw cfg
  | .frame f => Effects.final (mainProcessCompleteFrame env f) s
  | .serve fd r flag => Effects.final (nodeRxServe env fd r flag) s
  | .filter active => Effects.final (nodeFilter env active) s
  | .request req => Effects.final (req.send env) s
  | .outside => s

/-- **Every step** passes on to the AP only messages with the payload they speak of, and
cut ones. -/
theorem systemFinal_sendsSized (s : Fw cfg) (op : SystemOp) : SendsSizedFw s (op.final env s) := by
  cases op with
  | frame f => exact sends_mainProcessCompleteFrame env f s
  | serve fd r flag => exact sends_nodeRxServe env fd r flag s
  | filter active => exact sends_nodeFilter env active s
  | request req =>
      cases req with
      | version => exact sends_controlSendRequest env _ _ (by decide) s
      | hello => exact sends_controlSendRequest env _ _ (by decide) s
      | moduleInserted id => exact sends_controlSendRequest env _ _ (by simp) s
      | moduleRemoved intf => exact sends_svcSendModuleRemoved env intf s
  | outside => exact refl_of SendsSized s.io

/-- A message that is passed on to the AP in some step, from whatever state. -/
def PassedToAp (cfg : Config) (msg : GbMessage) : Prop :=
  ∃ (env : Env) (s : Fw cfg) (op : SystemOp) (intfId : U8) (cport : U16), intfId ≠ AP_INF_ID ∧
    .connectionSend intfId cport msg ∈ newEvents s (op.final env s)

lemma PassedToAp.sizedOrCut {msg : GbMessage} (h : PassedToAp cfg msg) : msg.SizedOrCut := by
  obtain ⟨env, s, op, intfId, cport, hne, hmem⟩ := h
  obtain ⟨tr, htrace, hsized⟩ := systemFinal_sendsSized env s op
  rw [newEvents, htrace, List.drop_left] at hmem
  exact hsized _ hmem hne

/-! ### The buffer -/

/-- `memcpy` to an offset of a buffer. -/
def memcpyAt (buffer : List U8) (offset : ℕ) (src : List U8) : IoM (List U8) :=
  if buffer.length < offset + src.length then throw .outOfBounds
  else return buffer.take offset ++ src ++ buffer.drop (offset + src.length)

/-- `gb_message_hdlc_send`, byte by byte, with what its buffer holds before. -/
def hdlcSendFrom (buffer : List U8) (msg : GbMessage) (cport : U16) : IoM ℤ := do
  let buffer ← memcpyAt buffer 0 (le16 cport)
  let buffer ← memcpyAt buffer 2 msg.header.bytes
  let len := gbMessagePayloadLen msg
  if msg.payload.length < len then throw .outOfBounds
  else do
    let buffer ← memcpyAt buffer 10 (msg.payload.take len)
    if buffer.length < msg.header.size.toNat + 2 then throw .outOfBounds
    else do
      emit (.hdlcBlock ⟨ADDRESS_GREYBUS, 0x03, buffer.take (msg.header.size.toNat + 2)⟩)
      return 0

/-- A copy behind what has been copied already. -/
lemma memcpyAt_room {done src rest : List U8} {offset : ℕ} (h : done.length = offset)
    (hroom : src.length ≤ rest.length) :
    memcpyAt (done ++ rest) offset src = pure (done ++ src ++ rest.drop src.length) := by
  rw [memcpyAt, if_neg (by rw [List.length_append]; omega), ← h, List.take_left,
    ← List.drop_drop, List.drop_left]

lemma memcpyAt_noRoom {done src rest : List U8} {offset : ℕ} (h : done.length = offset)
    (hroom : rest.length < src.length) :
    memcpyAt (done ++ rest) offset src = throw .outOfBounds := by
  rw [memcpyAt, if_pos (by rw [List.length_append]; omega)]

/-- **The buffer** gives nothing of what it held before: what is sent is what has been
copied. -/
theorem hdlcSendFrom_eq {msg : GbMessage} (h : msg.Sized) (cport : U16) {buffer : List U8}
    (hbuffer : buffer.length = cfg.hdlcMaxBlockSize) :
    hdlcSendFrom buffer msg cport = gbMessageHdlcSend cfg msg cport := by
  have h4 := cfg.four_le_block
  have hsize : msg.header.size.toNat = msg.payload.length + 8 := h
  have hcport : memcpyAt buffer 0 (le16 cport) = pure (le16 cport ++ buffer.drop 2) :=
    memcpyAt_room (rfl : ([] : List U8).length = 0) (by rw [le16_length]; omega)
  rw [hdlcSendFrom, hcport, pure_bind, gbMessageHdlcSend, h.payloadLen]
  dsimp only
  rw [List.take_length]
  by_cases h10 : buffer.length < 10
  · rw [memcpyAt_noRoom (le16_length cport) (by simp; omega), if_pos (Or.inl (by omega))]
    rfl
  rw [memcpyAt_room (le16_length cport) (by simp; omega), pure_bind, if_neg (lt_irrefl _)]
  have hdone : (le16 cport ++ msg.header.bytes).length = 10 := rfl
  by_cases hroom : cfg.hdlcMaxBlockSize < 10 + msg.payload.length
  · rw [memcpyAt_noRoom hdone (by simp; omega), if_pos (Or.inl hroom)]
    rfl
  have hframe :
      (le16 cport ++ msg.header.bytes ++ msg.payload).length = msg.header.size.toNat + 2 := by
    rw [List.length_append, hdone]
    omega
  rw [memcpyAt_room hdone (by simp; omega), pure_bind, if_neg (by simp; omega),
    if_neg (by omega), ← hframe, List.take_left, greybusBlock_of_sized cport h]
  rfl

/-- The message is sent within the buffer and by the bytes that have been copied to it,
or it is refused if it is too large. -/
structure FitsBuffer (cfg : Config) (msg : GbMessage) (cport : U16) (io : Io) : Prop where
  inBounds : ∀ buffer : List U8, buffer.length = cfg.hdlcMaxBlockSize →
    ¬ Stops (hdlcSendFrom buffer msg cport) io .outOfBounds
  written : ∀ buffer buffer' : List U8, buffer.length = cfg.hdlcMaxBlockSize →
    buffer'.length = cfg.hdlcMaxBlockSize →
      hdlcSendFrom buffer msg cport = hdlcSendFrom buffer' msg cport
  refused : cfg.hdlcMaxBlockSize < msg.header.size.toNat + 2 →
    ∃ ret io', Ends (gbMessageHdlcSend cfg msg cport) io ret io' ∧ ret < 0

/-- A cut message is read beyond its block. -/
lemma GbMessage.Cut.stops_hdlcSendFrom {msg : GbMessage} (h : msg.Cut) (buffer : List U8)
    (cport : U16) (io : Io) : Stops (hdlcSendFrom buffer msg cport) io .outOfBounds := by
  have hcopy : ∀ buffer offset src, memcpyAt buffer offset src = throw .outOfBounds ∨
      ∃ buffer', memcpyAt buffer offset src = pure buffer' := by
    intro buffer offset src
    rw [memcpyAt]
    split_ifs
    · exact Or.inl rfl
    · exact Or.inr ⟨_, rfl⟩
  have hlen : msg.payload.length < gbMessagePayloadLen msg := not_le.mp h.not_holds
  have hthrow : Stops (throw .outOfBounds : IoM ℤ) io .outOfBounds := stops_throw.mpr rfl
  rw [hdlcSendFrom]
  rcases hcopy buffer 0 (le16 cport) with hfirst | ⟨buffer₁, hfirst⟩
  · rw [hfirst]
    exact hthrow
  rw [hfirst, pure_bind]
  rcases hcopy buffer₁ 2 msg.header.bytes with hsecond | ⟨buffer₂, hsecond⟩
  · rw [hsecond]
    exact hthrow
  rw [hsecond, pure_bind]
  dsimp only
  rwa [if_pos hlen]

/-- **A message for the AP** is sent within the buffer or refused, exactly when it is no
shorter than its header and fits the buffer with its cport. -/
theorem fitsBuffer_iff {msg : GbMessage} (h : PassedToAp cfg msg) (cport : U16) (io : Io) :
    FitsBuffer cfg msg cport io ↔
      8 ≤ msg.header.size.toNat ∧ msg.header.size.toNat + 2 ≤ cfg.hdlcMaxBlockSize := by
  rcases h.sizedOrCut with hsized | hcut
  swap
  · refine ⟨fun hfits => absurd (hcut.stops_hdlcSendFrom _ cport io)
      (hfits.inBounds (List.replicate cfg.hdlcMaxBlockSize 0) List.length_replicate), ?_⟩
    rintro ⟨h8, -⟩
    rw [hcut.size] at h8
    omega
  have hsize : msg.header.size.toNat = msg.payload.length + 8 := hsized
  constructor
  · intro hfits
    refine ⟨by omega, ?_⟩
    by_contra hlarge
    refine hfits.inBounds (List.replicate cfg.hdlcMaxBlockSize 0) List.length_replicate ?_
    rw [hdlcSendFrom_eq hsized cport List.length_replicate, gbMessageHdlcSend, hsized.payloadLen,
      if_pos (Or.inl (by omega)), stops_throw]
  · rintro ⟨-, hle⟩
    refine ⟨fun buffer hbuffer => ?_, fun buffer buffer' hbuffer hbuffer' => ?_, fun hlarge => ?_⟩
    · have hsend : Ends (do
          emit (.hdlcBlock (greybusBlock cport msg))
          return (0 : ℤ)) io 0 _ := (Ends.emit _ io).bind (Ends.pure 0 _)
      rw [hdlcSendFrom_eq hsized cport hbuffer, gbMessageHdlcSend, hsized.payloadLen,
        if_neg (by omega)]
      exact hsend.not_stops _
    · rw [hdlcSendFrom_eq hsized cport hbuffer, hdlcSendFrom_eq hsized cport hbuffer']
    · omega

/-- What the SVC's first request passes on. -/
def versionRequest : GbMessage := ⟨0, ⟨10, 1, GB_SVC_TYPE_PROTOCOL_VERSION, 0, 0, 0⟩, [0, 1]⟩

/-- Whether it fits. -/
theorem fitsBuffer_iff_version : FitsBuffer .prjConf versionRequest 0 Io.boot ↔
    8 ≤ versionRequest.header.size.toNat ∧
      versionRequest.header.size.toNat + 2 ≤ Config.prjConf.hdlcMaxBlockSize :=
  fitsBuffer_iff ⟨calmEnv, started, .request .version, SVC_INF_ID, 0, by decide,
    by decide +kernel⟩ 0 Io.boot

/-- A node connected on AP cport 1, and a message of it that is a byte too long. -/
def nodeTalks : Fw .prjConf :=
  let s := final (connectionCreate calmEnv AP_INF_ID 1 3 0) withNode
  { s with io := { s.io with rx := fun _ =>
      [.data 0 (0 :: ((⟨255, 1, 0x01, 0, 0, 0⟩ : GbOperationMsgHdr).bytes ++
        List.replicate 247 0))] } }

/-- That message, as it is received. -/
def longMessage : GbMessage := ⟨1, ⟨255, 1, 0x01, 0, 0, 0⟩, List.replicate 247 0⟩

/-- It is passed on, and written beyond the buffer. -/
theorem buffer_overrun :
    PassedToAp .prjConf longMessage ∧
      Stops (nodeRxServe calmEnv 0 readable false) nodeTalks .outOfBounds ∧
      ¬ FitsBuffer .prjConf longMessage 1 Io.boot := by
  have hreaches : PassedToAp .prjConf longMessage :=
    ⟨calmEnv, nodeTalks, .serve 0 readable false, 3, 0, by decide, by decide +kernel⟩
  refine ⟨hreaches, stops_of_fault (by decide +kernel), fun h => ?_⟩
  obtain ⟨ret, io', hend, -⟩ := h.refused (by decide +kernel)
  rw [gbMessageHdlcSend, if_pos (by decide +kernel)] at hend
  exact ends_throw.mp hend

end Cc1352Greybus
