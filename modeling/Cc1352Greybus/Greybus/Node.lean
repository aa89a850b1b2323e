import Cc1352Greybus.Greybus.Apbridge

/-!
The rest of `src/node.c`: the callbacks of a node's interface, discovery and
the end of all nodes.

* `nodeInfWrite`: a message for a node; on failure both `gbMessageSend` and it
  report the node removed.
* `nodeIntfCreateConnection`: the socket of a node, opened with its cport 0.
* `nodeFilter`: new nodes, created and announced.
-/

namespace Cc1352Greybus

open Effects PackedArray

variable {cfg : Config} (env : Env)

/-! ### Writing -/

/-- `svc_send_module_removed_by_sock` -/
def svcSendModuleRemovedBySock (sock : ℤ) : FwM cfg Unit := do
  let c ← getCore
  match nodeCacheFindBySock c.nodeCache sock with
  | none => return ()
  | some (_, e) => discard (svcSendModuleRemoved env e.inf)

/-- The end of a `gb_message_send` that failed. -/
def gbMessageSendFailed (sock ret : ℤ) : FwM cfg ℤ := do
  svcSendModuleRemovedBySock env sock
  return ret

/-- `gb_message_send` -/
def gbMessageSend (sock : ℤ) (msg : GbMessage) (cport : U16) : FwM cfg ℤ := do
  let ret ← liftIo (writeData env sock (le16 cport))
  if ret ≠ 2 then gbMessageSendFailed env sock ret
  else do
    let ret ← liftIo (writeData env sock msg.header.bytes)
    if ret ≠ 8 then gbMessageSendFailed env sock ret
    else do
      let len := gbMessagePayloadLen msg
      if msg.payload.length < len then throw .outOfBounds
      else do
        let ret ← liftIo (writeData env sock (msg.payload.take len))
        if ret ≠ len then gbMessageSendFailed env sock ret
        else return 0

/-- `node_inf_write` -/
def nodeInfWrite (ctrl : Ptr) (msg : GbMessage) (cport : U16) : FwM cfg ℤ := do
  let ctrlData := (← readIntf ctrl).ctrlData
  let sock := (← getCore).ctrlMem ctrlData
  let ret ← gbMessageSend env sock msg cport
  if ret < 0 then do
    discard (svcSendModuleRemoved env ctrl)
    liftIo (gbMessageDealloc msg)
    return ret
  else do
    liftIo (gbMessageDealloc msg)
    return ret

/-! ### Connecting -/

/-- A new socket, in the cache entry at `i` and in the control block. -/
def Core.setSocket (c : Core cfg) (i : ℕ) (ctrlData : Ptr) (sock : ℤ) : Core cfg :=
  { c with
    nodeCache := c.nodeCache.modify i fun e => { e with sock := sock }
    ctrlMem := Function.update c.ctrlMem ctrlData sock }

/-- `node_intf_create_connection` -/
def nodeIntfCreateConnection (ctrl : Ptr) (cportId : U16) : FwM cfg ℤ := do
  let c ← getCore
  let ctrlData := (c.intfMem ctrl).ctrlData
  if cportId ≠ 0 then return 0
  else if 0 ≤ c.ctrlMem ctrlData then return c.ctrlMem ctrlData
  else
    match nodeCacheFindById c.nodeCache (c.intfMem ctrl).id with
    | none => return -EINVAL
    | some (i, _) =>
      let sock ← liftIo (connectToNode env)
      if sock < 0 then return sock
      else do
        modifyCore fun c => c.setSocket i ctrlData sock
        liftIo pipeSend
        return sock

/-! ### Discovery -/

/-- The body of the loop of `node_filter`. -/
def nodeFilterOne (addr : BitVec 128) : FwM cfg Unit := do
  let c ← getCore
  match nodeCacheFindByAddr c.nodeCache addr with
  | some _ => return ()
  | none =>
    match ← modifyGetCore fun c => c.nodeCreateInterface env addr with
    | none => return ()
    | some inf =>
      let c ← getCore
      discard (svcSendModuleInserted env (c.intfMem inf).id)

/-- `node_filter` -/
def nodeFilter : List (BitVec 128) → FwM cfg Unit
  | [] => return ()
  | addr :: active => do
    nodeFilterOne env addr
    nodeFilter active

/-! ### The end of all nodes -/

/-- The loop of `node_destroy_all`, at index `i` of a cache that shrinks under
it. -/
def nodeDestroyAllLoop : ℕ → ℕ → FwM cfg Unit
  | 0, _ => return ()
  | rounds + 1, i => do
    let c ← getCore
    match c.nodeCache[i]? with
    | none => return ()
    | some e =>
      nodeDestroyInterface env (some e.inf)
      nodeDestroyAllLoop rounds (i + 1)

/-- `node_destroy_all` -/
def nodeDestroyAll : FwM cfg Unit := do
  let c ← getCore
  nodeDestroyAllLoop env c.nodeCache.length 0
  modifyCore fun c => { c with nodeCache := [] }
  let c ← getCore
  if c.ctrlSlab.numUsed ≠ 0 then throw .assertion
  else return ()

/-! ### A report by socket -/

variable {env} in
/-- What is reported is the node that is found with the socket, if there is one. -/
lemma ends_svcSendModuleRemovedBySock {sock : ℤ} {s s' : Fw cfg} {u : Unit} :
    Ends (svcSendModuleRemovedBySock env sock) s u s' ↔
      nodeCacheFindBySock s.core.nodeCache sock = none ∧ s = s' ∨
        ∃ i e ret, nodeCacheFindBySock s.core.nodeCache sock = some (i, e) ∧
          Ends (svcSendModuleRemoved env e.inf) s ret s' := by
  rw [svcSendModuleRemovedBySock, (Ends.getCore s).bind_iff]
  cases nodeCacheFindBySock s.core.nodeCache sock with
  | none => simp
  | some r =>
      obtain ⟨i, e⟩ := r
      simp

/-! ### What a write does -/

/-- The bytes a message makes on a node's socket. -/
def nodeFrame (cport : U16) (msg : GbMessage) : List U8 :=
  greybusFrame cport msg.header (msg.payload.take (gbMessagePayloadLen msg))

/-- The end of a `gb_message_send` that has sent what it could and failed. -/
lemma ends_gbMessageSendFailed {sock ret ret' : ℤ} {s s' : Fw cfg} :
    Ends (gbMessageSendFailed env sock ret) s ret' s' ↔
      ret' = ret ∧ Ends (svcSendModuleRemovedBySock env sock) s () s' := by
  rw [gbMessageSendFailed, ends_bind]
  constructor
  · rintro ⟨_, s₁, h₁, h⟩
    obtain ⟨rfl, rfl⟩ := ends_pure.mp h
    exact ⟨rfl, h₁⟩
  · rintro ⟨rfl, h⟩
    exact ⟨(), s', h, Ends.pure _ _⟩

/-- One of the three writes of `gb_message_send`, and what comes after it. -/
lemma writeData_or_fail (sock : ℤ) {data : List U8} {n : ℤ} (hn : (data.length : ℤ) = n)
    (k : FwM cfg ℤ) (s : Fw cfg) :
    ∃ tr calls, SendsOn sock tr ∧
      (sentOn sock tr = data ∧ (∀ ret s',
          Ends (do
            let ret ← liftIo (writeData env sock data)
            if ret ≠ n then gbMessageSendFailed env sock ret else k) s ret s' ↔
          Ends k ⟨s.core, s.io.afterSends tr calls⟩ ret s') ∨
        ¬ (0 ≤ sock ∧ ∀ n, (env.zsockSend n).isSome) ∧ (∀ ret s',
          Ends (do
            let ret ← liftIo (writeData env sock data)
            if ret ≠ n then gbMessageSendFailed env sock ret else k) s ret s' ↔
          ret = -1 ∧
            Ends (svcSendModuleRemovedBySock env sock)
              ⟨s.core, s.io.afterSends tr calls⟩ () s')) := by
  obtain ⟨tr, calls, ret, hend, hon, hret⟩ := writeData_ends env sock data s.io
  refine ⟨tr, calls, hon, ?_⟩
  rcases hret with ⟨rfl, hsent⟩ | ⟨rfl, hbad, -⟩
  · refine Or.inl ⟨hsent, fun ret s' => ?_⟩
    rw [(Ends.liftIo hend).bind_iff, if_neg (not_not.mpr hn)]
  · refine Or.inr ⟨hbad, fun ret s' => ?_⟩
    rw [(Ends.liftIo hend).bind_iff, if_pos (by omega), ends_gbMessageSendFailed]

/-- **`gb_message_send`** sends the whole message, or some of it and then reports
the node the socket is found at; it cannot fail while the socket is open and no
send fails. -/
theorem gbMessageSend_ends (sock : ℤ) (msg : GbMessage) (cport : U16) (s : Fw cfg) :
    ∃ tr calls, SendsOn sock tr ∧
      ((msg.Holds → sentOn sock tr = nodeFrame cport msg) ∧
          (∀ ret s', Ends (gbMessageSend env sock msg cport) s ret s' ↔
            msg.Holds ∧ ret = 0 ∧ s' = ⟨s.core, s.io.afterSends tr calls⟩) ∨
        ¬ (0 ≤ sock ∧ ∀ n, (env.zsockSend n).isSome) ∧
          (∀ ret s', Ends (gbMessageSend env sock msg cport) s ret s' ↔ ret = -1 ∧
            Ends (svcSendModuleRemovedBySock env sock)
              ⟨s.core, s.io.afterSends tr calls⟩ () s')) := by
  obtain ⟨tr₁, calls₁, hon₁, h₁⟩ :=
    writeData_or_fail env sock (n := 2) (congrArg _ (le16_length cport)) _ s
  rcases h₁ with ⟨hsent₁, h₁⟩ | ⟨hbad, h₁⟩
  swap
  · exact ⟨tr₁, calls₁, hon₁, Or.inr ⟨hbad, h₁⟩⟩
  obtain ⟨tr₂, calls₂, hon₂, h₂⟩ := writeData_or_fail env sock (n := 8)
    (congrArg _ msg.header.bytes_length) _ ⟨s.core, s.io.afterSends tr₁ calls₁⟩
  rcases h₂ with ⟨hsent₂, h₂⟩ | ⟨hbad, h₂⟩
  swap
  · refine ⟨tr₁ ++ tr₂, calls₂, hon₁.append hon₂, Or.inr ⟨hbad, fun ret s' => ?_⟩⟩
    rw [← Io.afterSends_afterSends]
    exact (h₁ ret s').trans (h₂ ret s')
  by_cases hlen : msg.Holds
  swap
  · -- the payload is read beyond its block
    refine ⟨tr₁ ++ tr₂, calls₂, hon₁.append hon₂, Or.inl ⟨fun h => absurd h hlen, fun ret s' => ?_⟩⟩
    refine (h₁ ret s').trans ((h₂ ret s').trans ?_)
    dsimp only
    rw [if_pos (not_le.mp hlen), ends_throw]
    exact iff_of_false id fun h => hlen h.1
  have hpay :
      ((msg.payload.take (gbMessagePayloadLen msg)).length : ℤ) = gbMessagePayloadLen msg := by
    rw [List.length_take_of_le hlen]
  obtain ⟨tr₃, calls₃, hon₃, h₃⟩ := writeData_or_fail env sock hpay (pure 0)
    ⟨s.core, (s.io.afterSends tr₁ calls₁).afterSends tr₂ calls₂⟩
  have hlast : ∀ ret s', Ends (gbMessageSend env sock msg cport) s ret s' ↔
      Ends (do
        let ret ← liftIo (writeData env sock (msg.payload.take (gbMessagePayloadLen msg)))
        if ret ≠ gbMessagePayloadLen msg then gbMessageSendFailed env sock ret else return 0)
        ⟨s.core, (s.io.afterSends tr₁ calls₁).afterSends tr₂ calls₂⟩ ret s' := by
    intro ret s'
    refine (h₁ ret s').trans ((h₂ ret s').trans ?_)
    dsimp only
    rw [if_neg (not_lt.mpr hlen)]
  refine ⟨tr₁ ++ tr₂ ++ tr₃, calls₃, (hon₁.append hon₂).append hon₃, ?_⟩
  rw [Io.afterSends_afterSends, Io.afterSends_afterSends] at h₃
  rcases h₃ with ⟨hsent₃, h₃⟩ | ⟨hbad, h₃⟩
  · refine Or.inl ⟨fun _ => ?_, fun ret s' => (hlast ret s').trans ?_⟩
    · rw [sentOn_append, sentOn_append, hsent₁, hsent₂, hsent₃, nodeFrame, greybusFrame]
    · rw [Io.afterSends_afterSends, h₃, ends_pure, eq_comm, eq_comm (b := s'), and_iff_right hlen]
  · refine Or.inr ⟨hbad, fun ret s' => (hlast ret s').trans ?_⟩
    rw [Io.afterSends_afterSends]
    exact h₃ ret s'

/-- A whole message goes out on an open socket that takes bytes. -/
lemma gbMessageSend_sends {sock : ℤ} {msg : GbMessage} (cport : U16) (s : Fw cfg) (hmsg : msg.Sized)
    (hsock : 0 ≤ sock) (hsend : ∀ n, (env.zsockSend n).isSome) :
    ∃ sent calls, SendsOn sock sent ∧ sentOn sock sent = greybusFrame cport msg.header msg.payload ∧
      Ends (gbMessageSend env sock msg cport) s 0 ⟨s.core, s.io.afterSends sent calls⟩ := by
  obtain ⟨sent, calls, hon, hwrite⟩ := gbMessageSend_ends env sock msg cport s
  rcases hwrite with ⟨hsent, hwrite⟩ | ⟨hbad, -⟩
  · refine ⟨sent, calls, hon, ?_, (hwrite 0 _).mpr ⟨hmsg.holds, rfl, rfl⟩⟩
    rw [hsent hmsg.holds, nodeFrame, hmsg.payloadLen, List.take_length]
  · exact absurd ⟨hsock, hsend⟩ hbad

/-! ### What discovery does to the tables -/

/-- What the body of the loop of `node_filter` does to the tables. -/
def Core.filterOne (c : Core cfg) (addr : BitVec 128) : Core cfg :=
  match nodeCacheFindByAddr c.nodeCache addr with
  | some _ => c
  | none => (c.nodeCreateInterface env addr).2

lemma nodeFilterOne_core {addr : BitVec 128} {s s' : Fw cfg} {u : Unit}
    (h : Ends (nodeFilterOne env addr) s u s') : s'.core = s.core.filterOne env addr := by
  rw [nodeFilterOne, (Ends.getCore s).bind_iff] at h
  rw [Core.filterOne]
  cases hfind : nodeCacheFindByAddr s.core.nodeCache addr with
  | some e =>
      rw [hfind] at h
      rw [← (ends_pure.mp h).2]
  | none =>
      rw [hfind] at h
      obtain ⟨r, s₁, h₁, h⟩ := ends_bind.mp h
      obtain ⟨rfl, rfl⟩ := ends_modifyGetCore.mp h₁
      cases hr : (s.core.nodeCreateInterface env addr).1 with
      | none =>
          rw [hr] at h
          rw [← (ends_pure.mp h).2]
      | some inf =>
          rw [hr] at h
          obtain ⟨c, s₂, h₂, h⟩ := ends_bind.mp h
          obtain ⟨-, rfl⟩ := ends_getCore.mp h₂
          exact (respects_controlSendRequest env _ _).discard h

/-- **`node_filter`**, on the tables: every address in turn. -/
theorem nodeFilter_core {active : List (BitVec 128)} {s s' : Fw cfg} {u : Unit}
    (h : Ends (nodeFilter env active) s u s') :
    s'.core = active.foldl (fun c addr => c.filterOne env addr) s.core := by
  induction active generalizing s with
  | nil => rw [← (ends_pure.mp h).2, List.foldl_nil]
  | cons addr active ih =>
      obtain ⟨_, s₁, h₁, h⟩ := ends_bind.mp h
      rw [List.foldl_cons, ← nodeFilterOne_core env h₁]
      exact ih h

/-- Every creation of a discovery meets a condition on the tables it finds. -/
def EachCreation (P : Core cfg → Prop) (c : Core cfg) : List (BitVec 128) → Prop
  | [] => True
  | addr :: active =>
    (nodeCacheFindByAddr c.nodeCache addr = none → P c) ∧
      EachCreation P (c.filterOne env addr) active

lemma eachCreation_of_forall {P : Core cfg → Prop} (h : ∀ c, P c) (c : Core cfg)
    (active : List (BitVec 128)) : EachCreation env P c active := by
  induction active generalizing c with
  | nil => trivial
  | cons addr active ih => exact ⟨fun _ => h c, ih _⟩

section preserves

variable {I P : Core cfg → Prop}
  (hcreate : ∀ c addr, I c → nodeCacheFindByAddr c.nodeCache addr = none → P c →
    I (c.nodeCreateInterface env addr).2)
include hcreate

/-- What a creation for a new address preserves under a condition, a look at an
address does. -/
lemma filterOne_preserves {c : Core cfg} {addr : BitVec 128} (h : I c)
    (hP : nodeCacheFindByAddr c.nodeCache addr = none → P c) : I (c.filterOne env addr) := by
  rw [Core.filterOne]
  cases hfind : nodeCacheFindByAddr c.nodeCache addr with
  | some e => exact h
  | none => exact hcreate c addr h hfind (hP hfind)

/-- And a discovery whose creations meet it. -/
lemma filter_preserves {c : Core cfg} {active : List (BitVec 128)} (h : I c)
    (hP : EachCreation env P c active) :
    I (active.foldl (fun c addr => c.filterOne env addr) c) := by
  induction active generalizing c with
  | nil => exact h
  | cons addr active ih => exact ih (filterOne_preserves env hcreate h hP.1) hP.2

/-- What follows from the condition and what is preserved, each creation meets. -/
lemma EachCreation.of_preserves {Q : Core cfg → Prop} (hPQ : ∀ c, I c → P c → Q c) {c : Core cfg}
    {active : List (BitVec 128)} (h : I c) (hP : EachCreation env P c active) :
    EachCreation env Q c active := by
  induction active generalizing c with
  | nil => trivial
  | cons addr active ih =>
      exact ⟨fun hfind => hPQ c h (hP.1 hfind), ih (filterOne_preserves env hcreate h hP.1) hP.2⟩

end preserves

/-! ### What the callbacks do to the tables -/

/-- The tables, less the sockets in them, are as before. -/
structure SameButSockets (c c' : Core cfg) : Prop where
  nodeApMap : c'.nodeApMap = c.nodeApMap
  nodeCache : c'.nodeCache.map (fun e => (e.id, e.addr, e.inf)) =
    c.nodeCache.map (fun e => (e.id, e.addr, e.inf))
  ctrlSlab : c'.ctrlSlab = c.ctrlSlab
  intfSlab : c'.intfSlab = c.intfSlab
  intfMem : c'.intfMem = c.intfMem
  interfaceIdCounter : c'.interfaceIdCounter = c.interfaceIdCounter
  svcReady : c'.svcReady = c.svcReady

lemma SameButSockets.refl (c : Core cfg) : SameButSockets c c := ⟨rfl, rfl, rfl, rfl, rfl, rfl, rfl⟩

lemma sameButSockets_setSocket (c : Core cfg) (i : ℕ) (ctrlData : Ptr) (sock : ℤ) :
    SameButSockets c (c.setSocket i ctrlData sock) := by
  refine ⟨rfl, ?_, rfl, rfl, rfl, rfl, rfl⟩
  refine List.ext_getElem? fun k => ?_
  simp only [Core.setSocket, List.getElem?_map, List.getElem?_modify]
  cases c.nodeCache[k]? with
  | none => simp
  | some e =>
      by_cases h : i = k
      · simp [h]
      · simp [h]

/-- A node takes a connection: it needs no socket, has one, or gets one. -/
def NodeTakes (s : Fw cfg) (ctrl : Ptr) (cportId : U16) : Prop :=
  cportId ≠ 0 ∨ 0 ≤ s.core.ctrlMem (s.core.intfMem ctrl).ctrlData ∨
    (nodeCacheFindById s.core.nodeCache (s.core.intfMem ctrl).id).isSome ∧ Connects env s.io

lemma nodeIntfCreateConnection_nonneg_iff {ctrl : Ptr} {cportId : U16} {s s' : Fw cfg} {ret : ℤ}
    (h : Ends (nodeIntfCreateConnection env ctrl cportId) s ret s') :
    0 ≤ ret ↔ NodeTakes env s ctrl cportId := by
  rw [nodeIntfCreateConnection, (Ends.getCore s).bind_iff] at h
  dsimp only at h
  rw [NodeTakes]
  split_ifs at h with h0 h1
  · obtain ⟨rfl, -⟩ := ends_pure.mp h
    exact iff_of_true le_rfl (Or.inl h0)
  · obtain ⟨rfl, -⟩ := ends_pure.mp h
    exact iff_of_true h1 (Or.inr (Or.inl h1))
  · rw [or_iff_right h0, or_iff_right h1]
    cases hfind : nodeCacheFindById s.core.nodeCache (s.core.intfMem ctrl).id with
    | none =>
        rw [hfind] at h
        obtain ⟨rfl, -⟩ := ends_pure.mp h
        simp [EINVAL]
    | some r =>
        rw [hfind] at h
        obtain ⟨sock, s₁, h₁, h⟩ := ends_bind.mp h
        obtain ⟨io, hconn, -⟩ := ends_liftIo.mp h₁
        rw [← connectToNode_nonneg_iff env hconn]
        split_ifs at h
        · obtain ⟨rfl, -⟩ := ends_pure.mp h
          simp
        · obtain ⟨_, s₂, -, h⟩ := ends_bind.mp h
          obtain ⟨_, s₃, -, h⟩ := ends_bind.mp h
          obtain ⟨rfl, -⟩ := ends_pure.mp h
          simp

/-- Opening a node's socket changes nothing but sockets. -/
lemma nodeIntfCreateConnection_core {ctrl : Ptr} {cportId : U16} {s s' : Fw cfg} {ret : ℤ}
    (h : Ends (nodeIntfCreateConnection env ctrl cportId) s ret s') :
    SameButSockets s.core s'.core := by
  have hsame : ∀ {s' : Fw cfg}, s = s' → SameButSockets s.core s'.core := by
    rintro _ rfl
    exact .refl _
  rw [nodeIntfCreateConnection, (Ends.getCore s).bind_iff] at h
  dsimp only at h
  split_ifs at h
  · exact hsame (ends_pure.mp h).2
  · exact hsame (ends_pure.mp h).2
  · cases hfind : nodeCacheFindById s.core.nodeCache (s.core.intfMem ctrl).id with
    | none =>
        rw [hfind] at h
        exact hsame (ends_pure.mp h).2
    | some r =>
        rw [hfind] at h
        obtain ⟨sock, s₁, h₁, h⟩ := ends_bind.mp h
        have hcore : s₁.core = s.core := respects_liftIo _ h₁
        split_ifs at h with hsock
        · rw [← (ends_pure.mp h).2, hcore]
          exact .refl _
        · obtain ⟨_, s₂, h₂, h⟩ := ends_bind.mp h
          obtain ⟨_, s₃, h₃, h⟩ := ends_bind.mp h
          rw [← (ends_pure.mp h).2, respects_liftIo _ h₃, ends_modifyCore.mp h₂, hcore]
          exact sameButSockets_setSocket _ _ _ _

end Cc1352Greybus
