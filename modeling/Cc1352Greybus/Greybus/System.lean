import Cc1352Greybus.Greybus.NodeRx

/-!
The firmware as one system: what its threads do, from start to end, in any order.

* `systemStep`: a frame off the UART, a socket that is served, a discovery, a
  request of the SVC, or something that happens outside.
* `KeptByTables`: an invariant of the tables that each change of them keeps.
* `systemStep_keeps`: then every step of the system keeps it; `systemStep_keeps_rest`: if all
  but a creation do, every step but a discovery.
* `NamesRight`: one such, of the ids nodes and slots go by.
-/

namespace Cc1352Greybus

open Effects

variable {cfg : Config} (env : Env)

/-! ### Steps -/

/-- A request the SVC originates. -/
inductive SvcRequest
  | version
  | hello
  | moduleInserted (primaryIntfId : U8)
  | moduleRemoved (intf : Ptr)

/-- The request, sent. -/
def SvcRequest.send : SvcRequest → FwM cfg ℤ
  | version => svcSendVersion env
  | hello => svcSendHello env
  | moduleInserted id => svcSendModuleInserted env id
  | moduleRemoved intf => svcSendModuleRemoved env intf

/-- Something the firmware does, or that happens to it. -/
inductive SystemOp
  /-- `hdlc_process_complete_frame`, of any frame -/
  | frame (f : RxFrame)
  /-- one socket of an iteration of `node_rx_thread_entry` -/
  | serve (fd : ℤ) (r : Revents) (flag : Bool)
  | filter (active : List (BitVec 128))
  | request (req : SvcRequest)
  /-- bytes arrive, or something else does that leaves the tables alone -/
  | outside

/-- One step, from start to end. -/
def systemStep (s : Fw cfg) (op : SystemOp) (s' : Fw cfg) : Prop :=
  match op with
  | .frame f => ∃ ret, Ends (mainProcessCompleteFrame env f) s ret s'
  | .serve fd r flag => ∃ flag', Ends (nodeRxServe env fd r flag) s flag' s'
  | .filter active => Ends (nodeFilter env active) s () s'
  | .request req => ∃ ret, Ends (req.send env) s ret s'
  | .outside => s'.core = s.core

/-! ### What the tables keep -/

/-- An invariant of the tables that each change of them keeps. -/
structure KeptByTables (I : Core cfg → Prop) : Prop where
  createInterface : ∀ {c} addr, I c → I (c.nodeCreateInterface env addr).2
  destroyInterface : ∀ {c} p, I c → I (c.destroyInterface env p)
  clearCache : ∀ {c : Core cfg}, I c → I { c with nodeCache := [] }
  connect : ∀ {c} k intf cport, I c → I (c.setSlot k ⟨some intf, cport, c.intfId intf⟩)
  disconnect : ∀ {c} k, I c → I (c.setSlot k .empty)
  deinit : ∀ {c}, I c → I c.apbridgeDeinit
  sockets : ∀ {c c'}, SameButSockets c c' → I c → I c'
  ready : ∀ {c : Core cfg} b, I c → I { c with svcReady := b }

/-- An invariant that each change of the tables keeps, but for the creation of a node. -/
structure KeptByRest (I : Core cfg → Prop) : Prop where
  destroyInterface : ∀ {c} p, I c → I (c.destroyInterface env p)
  clearCache : ∀ {c : Core cfg}, I c → I { c with nodeCache := [] }
  connect : ∀ {c} k intf cport, I c → I (c.setSlot k ⟨some intf, cport, c.intfId intf⟩)
  disconnect : ∀ {c} k, I c → I (c.setSlot k .empty)
  deinit : ∀ {c}, I c → I c.apbridgeDeinit
  sockets : ∀ {c c'}, SameButSockets c c' → I c → I c'
  ready : ∀ {c : Core cfg} b, I c → I { c with svcReady := b }

lemma KeptByTables.rest {I : Core cfg → Prop} (h : KeptByTables env I) : KeptByRest env I :=
  ⟨h.destroyInterface, h.clearCache, h.connect, h.disconnect, h.deinit, h.sockets, h.ready⟩

/-- The tables keep their invariant from one state to the other. -/
def Keeps (I : Core cfg → Prop) (s s' : Fw cfg) : Prop := I s.core → I s'.core

instance (I : Core cfg → Prop) : Std.Refl (Keeps I) := ⟨fun _ => id⟩

instance (I : Core cfg → Prop) : IsTrans (Fw cfg) (Keeps I) := ⟨fun _ _ _ h h' => h' ∘ h⟩

section Keeps

variable {I : Core cfg → Prop}

lemma SameCore.keeps {s s' : Fw cfg} (h : SameCore s s') : Keeps I s s' := fun hs => by rwa [h]

lemma keeps_liftIo {α : Type} (m : IoM α) : Respects (Keeps I) (liftIo m : FwM cfg α) :=
  (respects_liftIo m).mono fun _ _ h => h.keeps

lemma keeps_getCore : Respects (Keeps I) (getCore : FwM cfg (Core cfg)) :=
  respects_getCore.mono fun _ _ h => h.keeps

lemma keeps_modifyCore {f : Core cfg → Core cfg} (hf : ∀ c, I c → I (f c)) :
    Respects (Keeps I) (modifyCore f) := by
  intro s u s' h
  rw [ends_modifyCore.mp h]
  exact hf s.core

lemma keeps_connectionSendToAp (id : U8) (cport : U16) (msg : GbMessage) :
    Respects (Keeps I) (connectionSendToAp id cport msg : FwM cfg ℤ) :=
  (respects_connectionSendToAp id cport msg).mono fun _ _ h => h.keeps

lemma keeps_controlSendRequest (payload : List U8) (requestType : U8) :
    Respects (Keeps I) (controlSendRequest env payload requestType : FwM cfg ℤ) :=
  (respects_controlSendRequest env payload requestType).mono fun _ _ h => h.keeps

lemma keeps_respond (id : U8) (cport : U16) (msg : GbMessage) (payload : List U8) (status : U8) :
    Respects (Keeps I) (respond env id cport msg payload status : FwM cfg Unit) := by
  refine (keeps_liftIo _).bind fun resp => ?_
  cases resp with
  | none => exact respects_pure _
  | some resp => exact (keeps_connectionSendToAp id cport resp).discard

lemma keeps_payloadByte (msg : GbMessage) (i : ℕ) :
    Respects (Keeps I) (payloadByte msg i : FwM cfg U8) := by
  rw [payloadByte]
  cases msg.payload[i]? with
  | none => exact respects_throw _
  | some b => exact respects_pure b

lemma keeps_payloadLe16 (msg : GbMessage) (i : ℕ) :
    Respects (Keeps I) (payloadLe16 msg i : FwM cfg U16) :=
  (keeps_payloadByte msg i).bind fun _ => (keeps_payloadByte msg _).bind fun _ => respects_pure _

lemma keeps_localIntfWrite (msg : GbMessage) (cport : U16) :
    Respects (Keeps I) (localIntfWrite env msg cport : FwM cfg ℤ) := by
  have hanswer : ∀ payload status cport,
      Respects (Keeps I) (responseHelper env msg payload status cport : FwM cfg Unit) :=
    fun payload status cport => keeps_respond env _ cport msg payload status
  have hhandle : Respects (Keeps I) (controlProtocolHandle env msg : FwM cfg Unit) := by
    rw [controlProtocolHandle]
    iterate 5 refine respects_ite (hanswer _ _ _) ?_
    exact respects_pure _
  have hdealloc : Respects (Keeps I) (do liftIo (gbMessageDealloc msg); return 0 : FwM cfg ℤ) :=
    (keeps_liftIo _).bind fun _ => respects_pure _
  exact respects_ite (hhandle.bind fun _ => hdealloc) hdealloc

variable {env} (hI : KeptByRest env I)
include hI

/-! ### Nodes -/

lemma keeps_nodeDestroyInterface (inf : Option Ptr) :
    Respects (Keeps I) (nodeDestroyInterface env inf) := by
  cases inf with
  | none => exact respects_pure _
  | some p =>
      intro s u s' h
      obtain ⟨-, rfl⟩ := (nodeDestroyInterface_ends env p s).unique h
      exact hI.destroyInterface p

lemma keeps_svcSendModuleRemoved (p : Ptr) : Respects (Keeps I) (svcSendModuleRemoved env p) := by
  intro s ret s' h hs
  rcases svcSendModuleRemoved_core env h with ⟨-, hsame⟩ | ⟨-, -, hc'⟩
  · rwa [hsame]
  · rw [hc']
    exact hI.destroyInterface p hs

lemma keeps_svcSendModuleRemovedBySock (sock : ℤ) :
    Respects (Keeps I) (svcSendModuleRemovedBySock env sock) := by
  refine keeps_getCore.bind fun c => ?_
  cases nodeCacheFindBySock c.nodeCache sock with
  | none => exact respects_pure _
  | some r => exact (keeps_svcSendModuleRemoved hI _).discard

lemma keeps_nodeInfWrite (ctrl : Ptr) (msg : GbMessage) (cport : U16) :
    Respects (Keeps I) (nodeInfWrite env ctrl msg cport) := by
  have hfailed : ∀ sock ret, Respects (Keeps I) (gbMessageSendFailed env sock ret) :=
    fun sock ret =>
    (keeps_svcSendModuleRemovedBySock hI sock).bind fun _ => respects_pure _
  have hsend : ∀ sock, Respects (Keeps I) (gbMessageSend env sock msg cport) := by
    intro sock
    refine (keeps_liftIo _).bind fun _ => respects_ite (hfailed _ _) ?_
    refine (keeps_liftIo _).bind fun _ => respects_ite (hfailed _ _) ?_
    refine respects_ite (respects_throw _) ?_
    exact (keeps_liftIo _).bind fun _ => respects_ite (hfailed _ _) (respects_pure _)
  have hread : Respects (Keeps I) (readIntf ctrl : FwM cfg GbInterface) :=
    (respects_readIntf ctrl).mono fun _ _ h => h.keeps
  have hdealloc : ∀ ret : ℤ, Respects (Keeps I)
      (do liftIo (gbMessageDealloc msg); return ret : FwM cfg ℤ) :=
    fun ret => (keeps_liftIo _).bind fun _ => respects_pure _
  refine hread.bind fun _ => keeps_getCore.bind fun _ => (hsend _).bind fun _ =>
    respects_ite ?_ (hdealloc _)
  exact (keeps_svcSendModuleRemoved hI ctrl).discard.bind fun _ => hdealloc _

lemma keeps_nodeDestroyAll : Respects (Keeps I) (nodeDestroyAll env : FwM cfg Unit) := by
  have hloop : ∀ rounds i, Respects (Keeps I) (nodeDestroyAllLoop env rounds i : FwM cfg Unit) := by
    intro rounds
    induction rounds with
    | zero => exact fun _ => respects_pure _
    | succ rounds ih =>
        intro i
        refine keeps_getCore.bind fun c => ?_
        cases c.nodeCache[i]? with
        | none => exact respects_pure _
        | some e => exact (keeps_nodeDestroyInterface hI _).bind fun _ => ih _
  refine keeps_getCore.bind fun c => (hloop _ _).bind fun _ => ?_
  refine (keeps_modifyCore fun _ => hI.clearCache).bind fun _ => keeps_getCore.bind fun _ => ?_
  exact respects_ite (respects_throw _) (respects_pure _)

/-! ### Connections -/

lemma keeps_connectionCreate (i₁ : U8) (p₁ : U16) (i₂ : U8) (p₂ : U16) :
    Respects (Keeps I) (connectionCreate env i₁ p₁ i₂ p₂) := by
  intro s ret s' h hs
  rcases connectionCreate_core env h with ⟨-, hsame, -⟩ | ⟨-, e, intf, k, -, -, c₁, hsock, hc'⟩
  · exact hI.sockets hsame hs
  · rw [hc', ← hsock.intfId]
    exact hI.connect k intf _ (hI.sockets hsock hs)

lemma keeps_connectionDestroy (i₁ : U8) (p₁ : U16) (i₂ : U8) (p₂ : U16) :
    Respects (Keeps I) (connectionDestroy i₁ p₁ i₂ p₂ : FwM cfg ℤ) := by
  intro s ret s' h hs
  rcases connectionDestroy_core h with ⟨-, -, hsame⟩ | ⟨-, e, ready, -, hc'⟩
  · rwa [hsame]
  · rw [hc', Core.nodeApRemove]
    split_ifs
    · exact hI.disconnect _ (hI.ready ready hs)
    · exact hI.ready ready hs

/-! ### Messages -/

lemma keeps_gbHandleMsg (msg : GbMessage) :
    Respects (Keeps I) (gbHandleMsg env msg : FwM cfg Unit) := by
  have hanswer : ∀ payload status,
      Respects (Keeps I) (svcResponseHelper env msg payload status : FwM cfg Unit) :=
    fun payload status => keeps_respond env _ _ msg payload status
  have hcreate : Respects (Keeps I) (svcConnectionCreateHandler env msg : FwM cfg Unit) := by
    refine (keeps_payloadByte msg _).bind fun _ => (keeps_payloadByte msg _).bind fun _ => ?_
    refine (keeps_payloadLe16 msg _).bind fun _ => (keeps_payloadLe16 msg _).bind fun _ => ?_
    refine respects_ite (hanswer _ _) ?_
    exact (keeps_connectionCreate hI _ _ _ _).bind fun _ => hanswer _ _
  have hdestroy : Respects (Keeps I) (svcConnectionDestroyHandler env msg : FwM cfg Unit) := by
    refine (keeps_payloadByte msg _).bind fun _ => (keeps_payloadLe16 msg _).bind fun _ => ?_
    refine (keeps_payloadByte msg _).bind fun _ => (keeps_payloadLe16 msg _).bind fun _ => ?_
    exact (keeps_connectionDestroy hI _ _ _ _).bind fun _ => hanswer _ _
  have hpwrm : Respects (Keeps I) (svcIntfSetPwrmHandler env msg : FwM cfg Unit) :=
    (keeps_payloadByte msg _).bind fun _ => (keeps_payloadByte msg _).bind fun _ => hanswer _ _
  have hversion : Respects (Keeps I) (svcVersionResponseHandler env msg : FwM cfg Unit) := by
    refine (keeps_payloadByte msg _).discard.bind fun _ => ?_
    refine (keeps_payloadByte msg _).discard.bind fun _ => ?_
    exact (keeps_controlSendRequest env _ _).discard
  rw [gbHandleMsg]
  refine respects_ite (hanswer _ _) (respects_ite hcreate (respects_ite hdestroy ?_))
  refine respects_ite (hanswer _ _) (respects_ite (hanswer _ _) (respects_ite hpwrm ?_))
  iterate 6 refine respects_ite (hanswer _ _) ?_
  exact respects_ite hversion (respects_pure _)

lemma keeps_connectionSend (id : U8) (cport : U16) (msg : GbMessage) :
    Respects (Keeps I) (connectionSend env id cport msg : FwM cfg ℤ) := by
  have hwrite : ∀ intf p, Respects (Keeps I) (intfWrite env intf msg p : FwM cfg ℤ) := by
    intro intf p
    cases intf with
    | svc =>
        refine respects_ite (respects_pure _) ?_
        exact (keeps_gbHandleMsg hI msg).bind fun _ => (keeps_liftIo _).bind fun _ =>
          respects_pure _
    | localNode => exact keeps_localIntfWrite env msg p
    | node q => exact keeps_nodeInfWrite hI q msg p
  refine respects_ite ?_ (keeps_connectionSendToAp id cport msg)
  refine (keeps_liftIo _).bind fun _ => keeps_getCore.bind fun c => ?_
  split_ifs with hlt
  · cases (c.nodeApMap ⟨cport.toNat, hlt⟩).nodeIntf with
    | none => exact respects_throw _
    | some intf => exact hwrite intf _
  · exact respects_throw _

lemma keeps_mainProcessCompleteFrame (f : RxFrame) :
    Respects (Keeps I) (mainProcessCompleteFrame env f : FwM cfg ℤ) := by
  have hgreybus : Respects (Keeps I) (hdlcProcessGreybusFrame env f.buffer f.len : FwM cfg ℤ) := by
    refine respects_ite (respects_throw _) (respects_ite (respects_pure _) ?_)
    refine respects_ite (respects_throw _) ((keeps_liftIo _).bind fun msg => ?_)
    cases msg with
    | none => exact respects_pure _
    | some msg =>
        refine respects_ite (respects_throw _) ((keeps_liftIo _).bind fun _ => ?_)
        exact (keeps_connectionSend hI _ _ _).bind fun _ =>
          respects_ite (respects_pure _) (respects_pure _)
  have hcontrol : Respects (Keeps I) (controlProcessFrame env f.buffer f.len : FwM cfg ℤ) := by
    rw [controlProcessFrame]
    refine respects_ite (respects_pure _) ?_
    cases f.buffer[0]? with
    | none => exact respects_throw _
    | some command =>
        refine respects_ite ?_ (respects_ite ?_ (respects_pure _))
        · refine (keeps_modifyCore fun _ => hI.ready true).bind fun _ => ?_
          refine (keeps_connectionCreate hI _ _ _ _).bind fun _ => respects_ite (respects_pure _) ?_
          refine (keeps_controlSendRequest env _ _).discard.bind fun _ => ?_
          exact (keeps_liftIo _).bind fun _ => respects_pure _
        · refine (keeps_liftIo _).bind fun _ => (keeps_nodeDestroyAll hI).bind fun _ => ?_
          refine (keeps_modifyCore fun _ => hI.ready false).bind fun _ => ?_
          exact (keeps_modifyCore (I := I) fun _ => hI.deinit).bind fun _ => respects_pure _
  exact respects_ite hgreybus (respects_ite hcontrol
    (respects_ite (respects_pure _) (respects_pure _)))

lemma keeps_nodeRxServe (fd : ℤ) (r : Revents) (flag : Bool) :
    Respects (Keeps I) (nodeRxServe env fd r flag : FwM cfg Bool) := by
  rw [nodeRxServe_eq]
  have hbroken :
      Respects (Keeps I) (do svcSendModuleRemovedBySock env fd; return flag : FwM cfg Bool) :=
    (keeps_svcSendModuleRemovedBySock hI fd).bind fun _ => respects_pure _
  refine respects_ite hbroken (respects_ite hbroken
    (respects_ite hbroken (respects_ite ?_ (respects_pure _))))
  refine keeps_getCore.bind fun c => ?_
  cases nodeCacheFindBySock c.nodeCache fd with
  | none => exact respects_pure _
  | some x =>
      refine (keeps_liftIo _).bind fun r => respects_ite ?_ ?_
      · exact (keeps_svcSendModuleRemoved hI _).discard.bind fun _ => respects_pure _
      · cases r.1 with
        | none => exact (keeps_svcSendModuleRemoved hI _).discard.bind fun _ => respects_pure _
        | some m => exact (keeps_connectionSend hI _ _ _).discard.bind fun _ => respects_pure _

/-! ### The system -/

/-- **What each change of the tables keeps but a creation**, every step of the system keeps but
a discovery. -/
theorem systemStep_keeps_rest {s s' : Fw cfg} {op : SystemOp} (h : systemStep env s op s')
    (hop : ∀ active, op ≠ .filter active) (hs : I s.core) : I s'.core := by
  cases op with
  | frame f =>
      obtain ⟨ret, h⟩ := h
      exact keeps_mainProcessCompleteFrame hI f h hs
  | serve fd r flag =>
      obtain ⟨flag', h⟩ := h
      exact keeps_nodeRxServe hI fd r flag h hs
  | filter active => exact absurd rfl (hop active)
  | request req =>
      obtain ⟨ret, h⟩ := h
      cases req with
      | version => exact keeps_controlSendRequest env _ _ h hs
      | hello => exact keeps_controlSendRequest env _ _ h hs
      | moduleInserted id => exact keeps_controlSendRequest env _ _ h hs
      | moduleRemoved intf => exact keeps_svcSendModuleRemoved hI intf h hs
  | outside => rwa [show s'.core = s.core from h]

end Keeps

section everything

variable {env} {I : Core cfg → Prop} (hI : KeptByTables env I)
include hI

lemma keeps_nodeFilter (active : List (BitVec 128)) :
    Respects (Keeps I) (nodeFilter env active) := by
  intro s u s' h hs
  rw [nodeFilter_core env h]
  exact filter_preserves env (fun _ addr hc _ _ => hI.createInterface addr hc) hs
    (eachCreation_of_forall env (fun _ => trivial) _ _)

/-- **What each change of the tables keeps**, every step of the system keeps. -/
theorem systemStep_keeps {s s' : Fw cfg} {op : SystemOp} (h : systemStep env s op s')
    (hs : I s.core) :
    I s'.core := by
  cases op with
  | filter active => exact keeps_nodeFilter hI active h hs
  | _ => exact systemStep_keeps_rest hI.rest h (by simp) hs

/-- So it holds in every state of a run that starts with it. -/
theorem Run.keeps {s s' : Fw cfg} {l : List (RunStep (Fw cfg) SystemOp)} (hs : I s.core)
    (hrun : Run (systemStep env) s l s') : I s'.core :=
  (Run.invariant (I := fun s : Fw cfg => I s.core) (G := fun _ _ _ => True) hs
    (fun _ _ _ h hstep _ => systemStep_keeps hI hstep h) hrun fun _ _ => trivial).1

end everything

/-! ### Names -/

/-- Cached nodes have ids of nodes, and a slot of a static interface has its id. -/
structure NamesRight (c : Core cfg) : Prop where
  ids : IdsIssued c
  start_le : INTERFACE_ID_START ≤ c.interfaceIdCounter
  le_max : c.interfaceIdCounter ≤ 0xff
  svc : ∀ i, (c.nodeApMap i).nodeIntf = some .svc → (c.nodeApMap i).nodeId = SVC_INF_ID
  localNode : ∀ i, (c.nodeApMap i).nodeIntf = some .localNode →
    (c.nodeApMap i).nodeId = LOCAL_NODE_ID

lemma namesRight_boot (cfg : Config) : NamesRight (Core.boot cfg) :=
  ⟨by simp [IdsIssued, Core.boot], le_rfl, show 3 ≤ 0xff by decide, fun i hi => (by cases hi),
    fun i hi => (by cases hi)⟩

lemma NamesRight.setSlot {c : Core cfg} (h : NamesRight c) (k : Fin cfg.apMaxNodes)
    {item : NodeApItem}
    (hsvc : item.nodeIntf = some .svc → item.nodeId = SVC_INF_ID)
    (hlocal : item.nodeIntf = some .localNode → item.nodeId = LOCAL_NODE_ID) :
    NamesRight (c.setSlot k item) := by
  refine ⟨h.ids, h.start_le, h.le_max, fun i hi => ?_, fun i hi => ?_⟩
  · rcases eq_or_ne i k with rfl | hne
    · rw [Core.setSlot_self] at hi ⊢
      exact hsvc hi
    · rw [Core.setSlot_of_ne _ hne] at hi ⊢
      exact h.svc i hi
  · rcases eq_or_ne i k with rfl | hne
    · rw [Core.setSlot_self] at hi ⊢
      exact hlocal hi
    · rw [Core.setSlot_of_ne _ hne] at hi ⊢
      exact h.localNode i hi

lemma namesRight_createInterface {c : Core cfg} (addr : BitVec 128) (h : NamesRight c) :
    NamesRight (c.nodeCreateInterface env addr).2 := by
  rcases nodeCreateInterface_spec env c addr with ⟨-, hsame⟩ | ⟨-, inf, ctrlData, hout, hcache⟩
  · obtain ⟨hmap, hcache, -, -, hcount⟩ := hsame
    exact ⟨by rw [IdsIssued, hcache]; exact h.ids, hcount ▸ h.start_le, hcount ▸ h.le_max,
      hmap ▸ h.svc, hmap ▸ h.localNode⟩
  · obtain ⟨hlow, hhigh⟩ := Core.nextCounter_bounds h.start_le h.le_max
    rw [← hout.interfaceIdCounter] at hlow hhigh
    refine ⟨?_, hlow, hhigh, hout.nodeApMap ▸ h.svc, hout.nodeApMap ▸ h.localNode⟩
    rcases hcache with ⟨-, -, hcache⟩ | ⟨-, -, hcache⟩
    · rw [IdsIssued, hcache]
      exact h.ids
    · rw [IdsIssued, hcache]
      intro e he
      rcases List.mem_append.mp he with he | he
      · exact h.ids e he
      · rw [List.mem_singleton.mp he]
        exact Core.start_le_nextId h.start_le h.le_max

/-- **Names** stay right whatever the system does. -/
theorem namesRight_kept : KeptByTables env (@NamesRight cfg) where
  createInterface := namesRight_createInterface env
  destroyInterface p h :=
    ⟨fun e he => h.ids e (mem_of_mem_removeById he), h.start_le, h.le_max, h.svc, h.localNode⟩
  clearCache h := ⟨fun _ he => absurd he List.not_mem_nil, h.start_le, h.le_max, h.svc, h.localNode⟩
  connect k intf cport h := by
    refine h.setSlot k ?_ ?_
    · rintro ⟨⟩
      rfl
    · rintro ⟨⟩
      rfl
  disconnect k h := h.setSlot k (fun hi => by cases hi) (fun hi => by cases hi)
  deinit h := ⟨h.ids, h.start_le, h.le_max, fun i hi => (by cases hi), fun i hi => (by cases hi)⟩
  sockets hsame h := by
    refine ⟨fun e he => ?_, hsame.interfaceIdCounter ▸ h.start_le,
      hsame.interfaceIdCounter ▸ h.le_max,
      hsame.nodeApMap ▸ h.svc, hsame.nodeApMap ▸ h.localNode⟩
    have hmem := List.mem_map_of_mem (f := fun e : NodeItem => (e.id, e.addr, e.inf)) he
    rw [hsame.nodeCache] at hmem
    obtain ⟨e', he', heq⟩ := List.mem_map.mp hmem
    rw [← (Prod.mk.inj heq).1]
    exact h.ids e' he'
  ready b h := ⟨h.ids, h.start_le, h.le_max, h.svc, h.localNode⟩

end Cc1352Greybus
