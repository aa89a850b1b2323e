import Cc1352Greybus.Nodes.CacheInvariant

/-!
Whether a connection is made or unmade as a whole.

`connection_create` lets the interface take the connection before it looks at the
slot, and `connection_destroy` goes by the slot of the AP cport without looking at
what is in it.

* `createsWhole_iff`: a creation makes the connection or changes nothing, exactly
  unless it opens a node's socket for a slot that cannot be had.
* `destroysNamed_iff`: a destruction unmakes the connection it names or refuses to,
  exactly when there is such a connection, and the SVC is not taken down by
  another slot than its own.
* `socket_left_open`, `svc_taken_down`: one of each that does not.
-/

namespace Cc1352Greybus

open Effects

variable {cfg : Config} (env : Env)

/-! ### Sockets that are opened -/

/-- A node opens a socket for a connection: to its cport 0, when it has none and is
reached. -/
def OpensSocket (s : Fw cfg) (ctrl : Ptr) (cportId : U16) : Prop :=
  cportId = 0 ∧ s.core.ctrlMem (s.core.intfMem ctrl).ctrlData < 0 ∧
    (nodeCacheFindById s.core.nodeCache (s.core.intfMem ctrl).id).isSome ∧ Connects env s.io

/-- `connect_to_node` always returns, with a descriptor when the node is reached. -/
lemma exists_ends_connectToNode (io : Io) : ∃ sock io', Ends (connectToNode env) io sock io' ∧
    (Connects env io ∧ 0 ≤ sock ∨
      ¬ Connects env io ∧ sock < 0 ∧ openSocks io'.trace = openSocks io.trace) := by
  obtain ⟨sock, io', hend⟩ : ∃ sock io', Ends (connectToNode env) io sock io' := by
    rcases connectToNode_ends env io with ⟨-, hend⟩ | ⟨fd, -, ⟨-, hend⟩ | ⟨-, hend⟩⟩
    · exact ⟨_, _, hend⟩
    · exact ⟨_, _, hend⟩
    · exact ⟨_, _, hend⟩
  have hconn := connectToNode_nonneg_iff env hend
  refine ⟨sock, io', hend, ?_⟩
  rcases connectToNode_cases env hend with ⟨hneg, hopen⟩ | ⟨fd, -, rfl, -⟩
  · exact Or.inr ⟨fun h => absurd (hconn.mpr h) (not_le.mpr hneg), hneg, hopen⟩
  · exact Or.inl ⟨hconn.mp (Int.natCast_nonneg fd), Int.natCast_nonneg fd⟩

/-- A node's callback changes nothing, or opens its socket and keeps it in the
control block. -/
lemma nodeIntfCreateConnection_ends (ctrl : Ptr) (cportId : U16) (s : Fw cfg) : ∃ ret s',
    Ends (nodeIntfCreateConnection env ctrl cportId) s ret s' ∧
      (OpensSocket env s ctrl cportId ∧ 0 ≤ ret ∧ s'.core.ctrlMem ≠ s.core.ctrlMem ∨
        ¬ OpensSocket env s ctrl cportId ∧ s'.core = s.core ∧ SameSocks s s') := by
  simp only [nodeIntfCreateConnection, (Ends.getCore s).bind_iff, OpensSocket]
  by_cases h0 : cportId = 0
  swap
  · rw [if_pos h0]
    exact ⟨_, _, Ends.pure _ _, Or.inr ⟨fun h => h0 h.1, rfl, rfl⟩⟩
  rw [if_neg (not_not.mpr h0)]
  by_cases hsock : 0 ≤ s.core.ctrlMem (s.core.intfMem ctrl).ctrlData
  · rw [if_pos hsock]
    exact ⟨_, _, Ends.pure _ _, Or.inr ⟨fun h => absurd h.2.1 (not_lt.mpr hsock), rfl, rfl⟩⟩
  rw [if_neg hsock]
  cases hfind : nodeCacheFindById s.core.nodeCache (s.core.intfMem ctrl).id with
  | none => exact ⟨_, _, Ends.pure _ _, Or.inr ⟨fun h => absurd h.2.2.1 (by simp), rfl, rfl⟩⟩
  | some r =>
      obtain ⟨sock, io', hconn, hwhy⟩ := exists_ends_connectToNode env s.io
      rcases hwhy with ⟨hreached, hpos⟩ | ⟨hnot, hneg, hopen⟩
      · refine ⟨sock, ⟨s.core.setSocket r.1 (s.core.intfMem ctrl).ctrlData sock,
          io'.logged [.pipeSend io'.localPipeWriter]⟩, (Ends.liftIo hconn).bind ?_,
          Or.inl ⟨⟨h0, not_le.mp hsock, rfl, hreached⟩, hpos, fun hsame => ?_⟩⟩
        · rw [if_neg (not_lt.mpr hpos)]
          exact (Ends.modifyCore _ _).bind
            ((Ends.liftIo (Ends.pipeSend io')).bind (Ends.pure _ _))
        · -- the control block had no socket
          have hnew : Function.update s.core.ctrlMem _ sock _ = _ :=
            congrFun hsame (s.core.intfMem ctrl).ctrlData
          rw [Function.update_self] at hnew
          omega
      · refine ⟨sock, ⟨s.core, io'⟩, (Ends.liftIo hconn).bind ?_,
          Or.inr ⟨fun h => hnot h.2.2.2, rfl, hopen⟩⟩
        rw [if_pos hneg]
        exact Ends.pure _ _

/-- An interface opens a socket for a connection; only a node may. -/
def IntfPtr.Opens (s : Fw cfg) : IntfPtr → U16 → Prop
  | .svc, _ => False
  | .localNode, _ => False
  | .node p, cportId => OpensSocket env s p cportId

/-- An interface's callback changes nothing, or opens a node's socket. -/
lemma intfCreateConnection_ends (intf : IntfPtr) (cportId : U16) (s : Fw cfg) : ∃ ret s',
    Ends (intfCreateConnection env intf cportId) s ret s' ∧
      (intf.Opens env s cportId ∧ 0 ≤ ret ∧ s'.core.ctrlMem ≠ s.core.ctrlMem ∨
        ¬ intf.Opens env s cportId ∧ s'.core = s.core ∧ SameSocks s s') := by
  cases intf with
  | svc => exact ⟨_, s, (Ends.getCore s).bind (Ends.pure _ _), Or.inr ⟨id, rfl, rfl⟩⟩
  | localNode => exact ⟨_, s, Ends.pure _ _, Or.inr ⟨id, rfl, rfl⟩⟩
  | node p => exact nodeIntfCreateConnection_ends env p cportId s

/-! ### Creations -/

/-- The tables and the set of open sockets are as before. -/
structure Untouched (s s' : Fw cfg) : Prop where
  nodeApMap : s'.core.nodeApMap = s.core.nodeApMap
  nodeCache : s'.core.nodeCache = s.core.nodeCache
  ctrlMem : s'.core.ctrlMem = s.core.ctrlMem
  socks : SameSocks s s'

lemma untouched_of_core {s s' : Fw cfg} (hcore : s'.core = s.core) (hsocks : SameSocks s s') :
    Untouched s s' :=
  ⟨by rw [hcore], by rw [hcore], by rw [hcore], hsocks⟩

/-- The slot of an AP cport holds an interface and one of its cports, and held
nothing before; the other slots are as before. -/
def FillsSlot (c c' : Core cfg) (e : Endpoint) (intf : IntfPtr) : Prop :=
  ∃ k : Fin cfg.apMaxNodes, k.val = e.apCport.toNat ∧ (c.nodeApMap k).nodeIntf = none ∧
    c'.nodeApMap = Function.update c.nodeApMap k ⟨some intf, e.nodeCport, c.intfId intf⟩

/-- A creation fails and leaves everything as it was, or it succeeds and fills the
slot. -/
def CreatesWhole (end? : Option Endpoint) (s s' : Fw cfg) (ret : ℤ) : Prop :=
  ret < 0 ∧ Untouched s s' ∨
    ret = 0 ∧ ∃ e intf, end? = some e ∧ gbInterfaceFindById s.core e.nodeId = some intf ∧
      FillsSlot s.core s'.core e intf

/-- There is a slot for the AP cport, and it is not connected. -/
def SlotFree (c : Core cfg) (apCport : U16) : Prop :=
  ∃ k : Fin cfg.apMaxNodes, k.val = apCport.toNat ∧ (c.nodeApMap k).nodeIntf = none

/-- The other endpoint's interface opens a socket, and the slot cannot be had. -/
def OpensInVain (s : Fw cfg) (e : Endpoint) : Prop :=
  (∃ intf, gbInterfaceFindById s.core e.nodeId = some intf ∧ intf.Opens env s e.nodeCport) ∧
    ¬ SlotFree s.core e.apCport

section found

variable {i₁ i₂ : U8} {p₁ p₂ : U16} {e : Endpoint} {intf : IntfPtr} {s s₁ : Fw cfg} {r : ℤ}

/-- An interface that takes no connection ends the creation. -/
lemma connectionCreate_refused (he : endpoint i₁ p₁ i₂ p₂ = some e)
    (hfind : gbInterfaceFindById s.core e.nodeId = some intf)
    (h : Ends (intfCreateConnection env intf e.nodeCport) s r s₁) (hneg : r < 0) :
    Ends (connectionCreate env i₁ p₁ i₂ p₂) s r s₁ := by
  simp only [connectionCreate, he, (Ends.getCore s).bind_iff, hfind, h.bind_iff, if_pos hneg]
  exact Ends.pure r s₁

/-- Otherwise `node_ap_add` has the last word. -/
lemma connectionCreate_added (he : endpoint i₁ p₁ i₂ p₂ = some e)
    (hfind : gbInterfaceFindById s.core e.nodeId = some intf)
    (h : Ends (intfCreateConnection env intf e.nodeCport) s r s₁) (hpos : 0 ≤ r) :
    Ends (connectionCreate env i₁ p₁ i₂ p₂) s
      (s₁.core.nodeApAdd e.apCport e.nodeCport intf).1
      ⟨(s₁.core.nodeApAdd e.apCport e.nodeCport intf).2, s₁.io⟩ := by
  simp only [connectionCreate, he, (Ends.getCore s).bind_iff, hfind, h.bind_iff,
    if_neg (not_lt.mpr hpos)]
  refine (ends_modifyGetCore.mpr ⟨rfl, rfl⟩ : Ends (modifyGetCore _) s₁ _ _).bind ?_
  rcases nodeApAdd_cases s₁.core e.apCport e.nodeCport intf with
    ⟨r', hneg, hres, -⟩ | ⟨hlt, -, hres⟩
  · rw [hres, if_pos hneg]
    exact Ends.pure _ _
  · rw [hres, if_neg (lt_irrefl 0)]
    exact Ends.pure _ _

end found

/-- A creation makes the connection or changes nothing; or a socket is opened, and the slot is not
to be had. -/
lemma connectionCreate_whole_or (i₁ i₂ : U8) (p₁ p₂ : U16) (s : Fw cfg) :
    ∃ ret s', Ends (connectionCreate env i₁ p₁ i₂ p₂) s ret s' ∧
      (CreatesWhole (endpoint i₁ p₁ i₂ p₂) s s' ret ∧
          (¬ ∃ e, endpoint i₁ p₁ i₂ p₂ = some e ∧ OpensInVain env s e) ∨
        (∃ e, endpoint i₁ p₁ i₂ p₂ = some e ∧ OpensInVain env s e) ∧ ret < 0 ∧
          s'.core.ctrlMem ≠ s.core.ctrlMem) := by
  have hrefused : CreatesWhole (endpoint i₁ p₁ i₂ p₂) s s (-EINVAL) :=
    Or.inl ⟨by decide, untouched_of_core rfl rfl⟩
  cases he : endpoint i₁ p₁ i₂ p₂ with
  | none =>
      rw [he] at hrefused
      refine ⟨-EINVAL, s, ?_, Or.inl ⟨hrefused, by simp⟩⟩
      rw [connectionCreate, he]
      exact Ends.pure _ s
  | some e =>
      rw [he] at hrefused
      cases hfind : gbInterfaceFindById s.core e.nodeId with
      | none =>
          refine ⟨-EINVAL, s, ?_, Or.inl ⟨hrefused, by simp [OpensInVain, hfind]⟩⟩
          simp only [connectionCreate, he, (Ends.getCore s).bind_iff, hfind]
          exact Ends.pure _ s
      | some intf =>
          obtain ⟨r, s₁, h₁, hwhy⟩ := intfCreateConnection_ends env intf e.nodeCport s
          have hvain : (∃ e', some e = some e' ∧ OpensInVain env s e') ↔
              intf.Opens env s e.nodeCport ∧ ¬ SlotFree s.core e.apCport := by
            simp [OpensInVain, hfind]
          have hsame := (intfCreateConnection_core env h₁).nodeApMap
          rw [hvain]
          by_cases hneg : r < 0
          · -- no connection, and so no socket
            have hend := connectionCreate_refused env he hfind h₁ hneg
            rcases hwhy with ⟨-, hpos, -⟩ | ⟨hnot, hcore, hsocks⟩
            · exact absurd hpos (not_le.mpr hneg)
            · exact ⟨r, s₁, hend, Or.inl ⟨Or.inl ⟨hneg, untouched_of_core hcore hsocks⟩,
                fun h => hnot h.1⟩⟩
          have hend := connectionCreate_added env he hfind h₁ (not_lt.mp hneg)
          rcases nodeApAdd_cases s₁.core e.apCport e.nodeCport intf with
            ⟨r', hneg', hres, htaken⟩ | ⟨hlt, hfree, hres⟩
          · rw [hres] at hend
            have hslot : ¬ SlotFree s.core e.apCport := by
              rintro ⟨k, hk, hnone⟩
              exact htaken k hk (by rw [hsame]; exact hnone)
            rcases hwhy with ⟨hopens, -, hctrl⟩ | ⟨hnot, hcore, hsocks⟩
            · exact ⟨r', s₁, hend, Or.inr ⟨⟨hopens, hslot⟩, hneg', hctrl⟩⟩
            · exact ⟨r', s₁, hend, Or.inl ⟨Or.inl ⟨hneg', untouched_of_core hcore hsocks⟩,
                fun h => hnot h.1⟩⟩
          · rw [hres] at hend
            rw [hsame] at hfree
            refine ⟨0, _, hend, Or.inl ⟨Or.inr ⟨rfl, e, intf, rfl, hfind, ⟨_, hlt⟩, rfl, hfree, ?_⟩,
              fun h => h.2 ⟨_, rfl, hfree⟩⟩⟩
            rw [Core.setSlot, hsame, (intfCreateConnection_core env h₁).intfId]

/-- **`connection_create`** makes the connection or changes nothing, exactly unless a
socket is opened and the slot is not to be had. -/
theorem createsWhole_iff (i₁ i₂ : U8) (p₁ p₂ : U16) (s : Fw cfg) :
    (∃ ret s', Ends (connectionCreate env i₁ p₁ i₂ p₂) s ret s' ∧
      CreatesWhole (endpoint i₁ p₁ i₂ p₂) s s' ret) ↔
      ¬ ∃ e, endpoint i₁ p₁ i₂ p₂ = some e ∧ OpensInVain env s e := by
  obtain ⟨ret, s', hend, ⟨hwhole, hnot⟩ | ⟨hvain, hneg, hctrl⟩⟩ :=
    connectionCreate_whole_or env i₁ i₂ p₁ p₂ s
  · exact iff_of_true ⟨ret, s', hend, hwhole⟩ hnot
  · -- it fails, and the socket is left
    refine iff_of_false ?_ (not_not.mpr hvain)
    rintro ⟨ret', s'', hend', hwhole⟩
    obtain ⟨rfl, rfl⟩ := hend.unique hend'
    rcases hwhole with ⟨-, huntouched⟩ | ⟨hzero, -⟩
    · exact hctrl huntouched.ctrlMem
    · exact absurd hzero hneg.ne

/-- A node's cport 0 on an AP cport that does not exist: the creation fails and
leaves a socket. -/
theorem socket_left_open :
    result (connectionCreate calmEnv AP_INF_ID 40 3 0) withNode = some (-E2BIG) ∧
      openSocks withNode.io.trace = [] ∧
      openSocks (final (connectionCreate calmEnv AP_INF_ID 40 3 0) withNode).io.trace = [0] ∧
      ¬ ∃ ret s', Ends (connectionCreate calmEnv AP_INF_ID 40 3 0) withNode ret s' ∧
        CreatesWhole (endpoint AP_INF_ID 40 3 0) withNode s' ret := by
  have hresult : result (connectionCreate calmEnv AP_INF_ID 40 3 0) withNode = some (-E2BIG) := by
    decide +kernel
  have hbefore : openSocks withNode.io.trace = [] := by decide +kernel
  have hafter :
      openSocks (final (connectionCreate calmEnv AP_INF_ID 40 3 0) withNode).io.trace = [0] := by
    decide +kernel
  refine ⟨hresult, hbefore, hafter, ?_⟩
  rintro ⟨ret, s', hend, hwhole⟩
  obtain ⟨rfl, rfl⟩ := (ends_final hresult).unique hend
  rcases hwhole with ⟨-, huntouched⟩ | ⟨hzero, -⟩
  · have hsocks := huntouched.socks
    rw [SameSocks, hbefore, hafter] at hsocks
    cases hsocks
  · exact absurd hzero (by decide)

/-! ### Destructions -/

/-- The slot holds the connection that the endpoint names. -/
def SlotHolds (c : Core cfg) (k : Fin cfg.apMaxNodes) (e : Endpoint) : Prop :=
  k.val = e.apCport.toNat ∧ (c.nodeApMap k).nodeIntf ≠ none ∧
    (c.nodeApMap k).nodeId = e.nodeId ∧ (c.nodeApMap k).nodeCport = e.nodeCport

/-- `destroy_connection` of the interface of that id has run, if there is one. -/
def InterfaceTold (e : Endpoint) (s s₁ : Fw cfg) : Prop :=
  match gbInterfaceFindById s.core e.nodeId with
  | none => s₁ = s
  | some intf => Ends (intfDestroyConnection intf e.nodeCport) s () s₁

/-- The SVC is connected on AP cport 0. -/
def SvcOnCport0 (c : Core cfg) : Prop :=
  ∃ k : Fin cfg.apMaxNodes, k.val = 0 ∧ (c.nodeApMap k).nodeIntf = some .svc

/-- A destruction unmakes the connection it names, at its interface and in its slot,
or fails and changes nothing where there is none; and the SVC stays ready while it is
connected on AP cport 0. -/
structure DestroysNamed (e : Endpoint) (s s' : Fw cfg) (ret : ℤ) : Prop where
  named : ∀ k, SlotHolds s.core k e → ret = 0 ∧ ∃ s₁, InterfaceTold e s s₁ ∧
    s' = ⟨s₁.core.setSlot k .empty, s₁.io⟩ ∧ s₁.core.nodeApMap = s.core.nodeApMap
  unnamed : (¬ ∃ k, SlotHolds s.core k e) → ret < 0 ∧ s' = s
  ready : SvcOnCport0 s'.core → s.core.svcReady = true → s'.core.svcReady = true

/-- The SVC is ready and connected on AP cport 0, and is to be disconnected on another
AP cport. -/
def TakesSvcDown (c : Core cfg) (e : Endpoint) : Prop :=
  c.svcReady = true ∧ e.nodeId = SVC_INF_ID ∧ e.nodeCport = 0 ∧ e.apCport ≠ 0 ∧ SvcOnCport0 c

/-- Id 0 is the SVC's alone. -/
lemma gbInterfaceFindById_svc_iff {c : Core cfg} {id : U8} {intf : IntfPtr}
    (h : gbInterfaceFindById c id = some intf) : intf = .svc ↔ id = SVC_INF_ID := by
  rw [gbInterfaceFindById, svcInterface, localNodeInterface] at h
  split_ifs at h with hid hready hlocal
  · exact iff_of_true (Option.some.inj h).symm hid
  · exact iff_of_false (by rintro rfl; cases h) hid
  · obtain ⟨p, -, rfl⟩ := Option.map_eq_some_iff.mp h
    exact iff_of_false (fun h => by cases h) hid

/-- The interface of an endpoint can always be told. -/
lemma exists_interfaceTold (e : Endpoint) (s : Fw cfg) : ∃ s₁, InterfaceTold e s s₁ ∧
    s₁.io = s.io ∧ s₁.core = { s.core with svcReady :=
      if e.nodeId = SVC_INF_ID ∧ e.nodeCport = 0 then false else s.core.svcReady } := by
  simp only [InterfaceTold.eq_def]
  cases hfind : gbInterfaceFindById s.core e.nodeId with
  | none =>
      refine ⟨s, rfl, rfl, ?_⟩
      split_ifs with h
      · -- without an interface the SVC is not ready
        rw [gbInterfaceFindById, if_pos h.1, svcInterface] at hfind
        have hready : s.core.svcReady = false := by simpa using hfind
        rw [← hready]
      · rfl
  | some intf =>
      have hsvc := gbInterfaceFindById_svc_iff hfind
      cases intf with
      | svc =>
          simp only [intfDestroyConnection, svcInfDestroyConnection]
          by_cases h0 : e.nodeCport = 0
          · rw [if_neg (not_not.mpr h0), if_pos ⟨hsvc.mp rfl, h0⟩]
            exact ⟨_, Ends.modifyCore _ s, rfl, rfl⟩
          · rw [if_pos h0, if_neg fun h => h0 h.2]
            exact ⟨s, Ends.pure () s, rfl, rfl⟩
      | localNode =>
          rw [if_neg fun h => by cases hsvc.mpr h.1]
          exact ⟨s, Ends.pure () s, rfl, rfl⟩
      | node p =>
          rw [if_neg fun h => by cases hsvc.mpr h.1]
          exact ⟨s, Ends.pure () s, rfl, rfl⟩

/-- A destruction tells the interface, empties the slot, if there is one, and returns
zero. -/
lemma connectionDestroy_ends {i₁ i₂ : U8} {p₁ p₂ : U16} {e : Endpoint} {s s₁ : Fw cfg}
    (he : endpoint i₁ p₁ i₂ p₂ = some e) (h : InterfaceTold e s s₁) :
    Ends (connectionDestroy i₁ p₁ i₂ p₂) s 0
      ⟨(s₁.core.nodeApRemove e.apCport).2, s₁.io⟩ := by
  have hremove : Ends (do
      discard (modifyGetCore fun c => c.nodeApRemove e.apCport)
      return (0 : ℤ)) s₁ 0 ⟨(s₁.core.nodeApRemove e.apCport).2, s₁.io⟩ :=
    (Ends.discard (ends_modifyGetCore.mpr ⟨rfl, rfl⟩)).bind (Ends.pure _ _)
  rw [InterfaceTold.eq_def] at h
  simp only [connectionDestroy, he, (Ends.getCore s).bind_iff]
  cases hfind : gbInterfaceFindById s.core e.nodeId with
  | none =>
      rw [hfind] at h
      obtain rfl : s₁ = s := h
      exact hremove
  | some intf =>
      rw [hfind] at h
      exact Ends.bind h hremove

/-- A destruction leaves the slots of other AP cports alone. -/
lemma nodeApRemove_of_ne {c : Core cfg} {apCport : U16} {k : Fin cfg.apMaxNodes}
    (h : k.val ≠ apCport.toNat) : (c.nodeApRemove apCport).2.nodeApMap k = c.nodeApMap k := by
  rw [Core.nodeApRemove]
  split_ifs with hlt
  · exact Core.setSlot_of_ne _ (fun hk => h (by rw [hk])) _
  · rfl

lemma nodeApRemove_svcReady (c : Core cfg) (apCport : U16) :
    (c.nodeApRemove apCport).2.svcReady = c.svcReady := by
  rw [Core.nodeApRemove]
  split_ifs <;> rfl

/-- **`connection_destroy`** unmakes the connection it names or fails, exactly when it
names one, and does not take the SVC down by another slot than AP cport 0. -/
theorem destroysNamed_iff {i₁ i₂ : U8} {p₁ p₂ : U16} {e : Endpoint}
    (he : endpoint i₁ p₁ i₂ p₂ = some e) (s : Fw cfg) :
    (∃ ret s', Ends (connectionDestroy i₁ p₁ i₂ p₂) s ret s' ∧ DestroysNamed e s s' ret) ↔
      (∃ k, SlotHolds s.core k e) ∧ ¬ TakesSvcDown s.core e := by
  obtain ⟨s₁, htold, hio, hcore⟩ := exists_interfaceTold e s
  have hmap : s₁.core.nodeApMap = s.core.nodeApMap := by rw [hcore]
  have hend := connectionDestroy_ends he htold
  set c' := (s₁.core.nodeApRemove e.apCport).2 with hc'
  have hready : c'.svcReady =
      if e.nodeId = SVC_INF_ID ∧ e.nodeCport = 0 then false else s.core.svcReady := by
    rw [hc', nodeApRemove_svcReady, hcore]
  constructor
  · rintro ⟨ret, s', hend', hnamed⟩
    obtain ⟨rfl, rfl⟩ := hend.unique hend'
    refine ⟨?_, ?_⟩
    · by_contra hnone
      exact absurd (hnamed.unnamed hnone).1 (lt_irrefl 0)
    · rintro ⟨hup, hid, h0, hne, k, hk, hsvc⟩
      -- AP cport 0 keeps the SVC, and the SVC is no longer ready
      have hkept : c'.nodeApMap k = s.core.nodeApMap k := by
        rw [hc', nodeApRemove_of_ne, hmap]
        rw [hk]
        exact fun heq => hne (BitVec.eq_of_toNat_eq heq.symm)
      have hdown := hnamed.ready ⟨k, hk, by rw [hkept]; exact hsvc⟩ hup
      rw [hready, if_pos ⟨hid, h0⟩] at hdown
      cases hdown
  · rintro ⟨⟨k, hk⟩, hkeeps⟩
    have hkval := hk.1
    have hremove : c' = s₁.core.setSlot k .empty := by
      have hlt : e.apCport.toNat < cfg.apMaxNodes := hkval ▸ k.isLt
      obtain rfl : k = ⟨e.apCport.toNat, hlt⟩ := Fin.ext hkval
      rw [hc', Core.nodeApRemove, dif_pos hlt]
    refine ⟨0, _, hend, ⟨fun k' hk' => ?_, fun hnone => absurd ⟨k, hk⟩ hnone, ?_⟩⟩
    · obtain rfl : k' = k := Fin.ext (hk'.1.trans hkval.symm)
      exact ⟨rfl, s₁, htold, by rw [hremove], hmap⟩
    · rintro ⟨k₀, hk₀, hsvc⟩ hup
      rw [hready]
      split_ifs with h0
      · exfalso
        -- the SVC's connection on AP cport 0 is not the one that is destroyed
        have hne : k₀ ≠ k := by
          rintro rfl
          rw [hremove, Core.setSlot_self] at hsvc
          cases hsvc
        rw [hremove, Core.setSlot_of_ne _ hne, hmap] at hsvc
        refine hkeeps ⟨hup, h0.1, h0.2, fun hap => hne (Fin.ext ?_), k₀, hk₀, hsvc⟩
        rw [hk₀, hkval, hap]
        rfl
      · exact hup

/-- The SVC's own connection, destroyed. -/
theorem destroysNamed_iff_svc :
    (∃ ret s', Ends (connectionDestroy AP_INF_ID 0 SVC_INF_ID 0) withSvc ret s' ∧
      DestroysNamed ⟨SVC_INF_ID, 0, 0⟩ withSvc s' ret) ↔
      (∃ k, SlotHolds withSvc.core k ⟨SVC_INF_ID, 0, 0⟩) ∧
        ¬ TakesSvcDown withSvc.core ⟨SVC_INF_ID, 0, 0⟩ :=
  destroysNamed_iff rfl withSvc

/-- A connection of the SVC that there is not, destroyed on AP cport 5: it takes the
SVC down that is connected on AP cport 0. -/
theorem svc_taken_down :
    (¬ ∃ k, SlotHolds withSvc.core k ⟨SVC_INF_ID, 0, 5⟩) ∧
      withSvc.core.svcReady = true ∧ SvcOnCport0 withSvc.core ∧
      ∀ ret s', Ends (connectionDestroy AP_INF_ID 5 SVC_INF_ID 0) withSvc ret s' →
        ret = 0 ∧ s'.core.svcReady = false ∧ SvcOnCport0 s'.core ∧
          ¬ DestroysNamed ⟨SVC_INF_ID, 0, 5⟩ withSvc s' ret := by
  have hnone : ¬ ∃ k, SlotHolds withSvc.core k ⟨SVC_INF_ID, 0, 5⟩ := by
    rintro ⟨k, hk, hconn, -⟩
    obtain rfl : k = ⟨5, by decide⟩ := Fin.ext hk
    exact hconn (by decide +kernel)
  have hresult : result (connectionDestroy AP_INF_ID 5 SVC_INF_ID 0) withSvc = some 0 := by
    decide +kernel
  refine ⟨hnone, by decide +kernel, ⟨⟨0, by decide⟩, rfl, by decide +kernel⟩, ?_⟩
  intro ret s' hend
  obtain ⟨rfl, rfl⟩ := (ends_final hresult).unique hend
  refine ⟨rfl, by decide +kernel, ⟨⟨0, by decide⟩, rfl, by decide +kernel⟩, fun h => ?_⟩
  exact absurd (h.unnamed hnone).1 (lt_irrefl 0)

end Cc1352Greybus
