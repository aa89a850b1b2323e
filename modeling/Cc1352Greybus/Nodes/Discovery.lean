import Cc1352Greybus.Greybus.Connection
import Cc1352Greybus.Nodes.Removal

/-!
What a discovery adds.

`node_filter` looks every address up in a cache that its own creations extend, and
creates nodes until one of the two slabs runs out. Each is announced once it is made;
what comes of that changes nothing.

* `newAddrs`: the addresses that get a node.
* `AddsNodes`: the tables with their nodes added.
* `discovery_adds`: a discovery adds these nodes and announces them, one after the
  other, and does nothing else; once all are there it does nothing at all.
-/

namespace Cc1352Greybus

open Effects PackedArray

variable {cfg : Config} (env : Env)

/-! ### What is added -/

/-- The addresses of the cache. -/
def Core.addrs (c : Core cfg) : List (BitVec 128) := c.nodeCache.map NodeItem.addr

/-- How many nodes the slabs have blocks for. -/
def Core.room (c : Core cfg) : ℕ := min c.ctrlSlab.freeList.length c.intfSlab.freeList.length

/-- The addresses a discovery makes nodes for: those that are not cached, in the
order they first come in, as far as there is room. -/
def newAddrs (c : Core cfg) (active : List (BitVec 128)) : List (BitVec 128) :=
  ((active.filter fun addr => addr ∉ c.addrs).eraseDups).take c.room

/-- Slabs that have given a control block to each cached node and to nothing else,
and that will give no interface block twice. -/
structure IdealPools (c : Core cfg) : Prop where
  ctrl : c.ctrlSlab.freeList.length + c.nodeCache.length = cfg.maxGreybusNodes
  intf : c.intfSlab.freeList.Nodup

/-- New entries at the end of the cache, each with an interface block and a control
block that were free. -/
structure AddsNodes (c c' : Core cfg) (news : List NodeItem) : Prop where
  nodeApMap : c'.nodeApMap = c.nodeApMap
  svcReady : c'.svcReady = c.svcReady
  nodeCache : c'.nodeCache = c.nodeCache ++ news
  ctrlFree : c.ctrlSlab.freeList = news.map (fun e => c'.ctrlOf e.inf) ++ c'.ctrlSlab.freeList
  ctrlUsed : c'.ctrlSlab.numUsed = c.ctrlSlab.numUsed + BitVec.ofNat 32 news.length
  intfFree : c.intfSlab.freeList = news.map NodeItem.inf ++ c'.intfSlab.freeList
  intfUsed : c'.intfSlab.numUsed = c.intfSlab.numUsed + BitVec.ofNat 32 news.length
  kept : ∀ p ∉ c.intfSlab.freeList, c'.intfMem p = c.intfMem p
  id_eq : ∀ e ∈ news, (c'.intfMem e.inf).id = e.id
  closed : ∀ e ∈ news, e.sock = -1

namespace AddsNodes

variable {c c₁ c' : Core cfg} {es fs : List NodeItem}

lemma refl (c : Core cfg) : AddsNodes c c [] :=
  ⟨rfl, rfl, (List.append_nil _).symm, rfl, (BitVec.add_zero _).symm, rfl,
    (BitVec.add_zero _).symm, fun _ _ => rfl, by simp, by simp⟩

/-- Nodes added one after the other. -/
lemma trans (hnodup : c.intfSlab.freeList.Nodup) (h : AddsNodes c c₁ es)
    (h' : AddsNodes c₁ c' fs) : AddsNodes c c' (es ++ fs) := by
  -- what is handed out later is not what was handed out first
  have hkept : ∀ e ∈ es, c'.intfMem e.inf = c₁.intfMem e.inf := by
    intro e he
    rw [h.intfFree] at hnodup
    exact h'.kept e.inf fun hfree =>
      (List.nodup_append.mp hnodup).2.2 _ (List.mem_map_of_mem he) _ hfree rfl
  have hctrl : es.map (fun e => c'.ctrlOf e.inf) = es.map fun e => c₁.ctrlOf e.inf :=
    List.map_congr_left fun e he => by rw [Core.ctrlOf, hkept e he, Core.ctrlOf]
  refine ⟨h'.nodeApMap.trans h.nodeApMap, h'.svcReady.trans h.svcReady, ?_, ?_, ?_, ?_, ?_, ?_,
    ?_, ?_⟩
  · rw [h'.nodeCache, h.nodeCache, List.append_assoc]
  · rw [h.ctrlFree, h'.ctrlFree, List.map_append, hctrl, List.append_assoc]
  · rw [h'.ctrlUsed, h.ctrlUsed, List.length_append, BitVec.ofNat_add, BitVec.add_assoc]
  · rw [h.intfFree, h'.intfFree, List.map_append, List.append_assoc]
  · rw [h'.intfUsed, h.intfUsed, List.length_append, BitVec.ofNat_add, BitVec.add_assoc]
  · intro p hp
    rw [h'.kept p fun hfree => hp ?_, h.kept p hp]
    rw [h.intfFree]
    exact List.mem_append_right _ hfree
  · intro e he
    rcases List.mem_append.mp he with he | he
    · rw [hkept e he]
      exact h.id_eq e he
    · exact h'.id_eq e he
  · intro e he
    rcases List.mem_append.mp he with he | he
    · exact h.closed e he
    · exact h'.closed e he

/-- Adding nodes leaves the pools ideal. -/
lemma idealPools (h : AddsNodes c c' es) (hpools : IdealPools c) : IdealPools c' := by
  have hctrl := congrArg List.length h.ctrlFree
  rw [List.length_append, List.length_map] at hctrl
  have hintf := hpools.intf
  rw [h.intfFree] at hintf
  refine ⟨?_, (List.nodup_append.mp hintf).2.1⟩
  rw [h.nodeCache, List.length_append]
  have := hpools.ctrl
  omega

lemma addrs (h : AddsNodes c c' es) : c'.addrs = c.addrs ++ es.map NodeItem.addr := by
  rw [Core.addrs, h.nodeCache, List.map_append, Core.addrs]

/-- Each node takes from the room there was. -/
lemma room (h : AddsNodes c c' es) : c.room = es.length + c'.room := by
  rw [Core.room, h.ctrlFree, h.intfFree, List.length_append, List.length_append, List.length_map,
    List.length_map, Nat.add_min_add_left, Core.room]

end AddsNodes

/-! ### One address -/

/-- Without room a creation returns nothing, and leaves no block in use. -/
lemma addsNodes_noRoom (hapi : env.slabFreeApi = .pointee) {c : Core cfg} (addr : BitVec 128)
    (hroom : c.room = 0) : (c.nodeCreateInterface env addr).1 = none ∧
      AddsNodes c (c.nodeCreateInterface env addr).2 [] := by
  cases hctrl : c.ctrlSlab.freeList with
  | nil =>
      rw [nodeCreateInterface_noCtrl env addr hctrl]
      exact ⟨rfl, .refl c⟩
  | cons ctrlData rest =>
      have hintf : c.intfSlab.freeList = [] := by
        rw [Core.room, hctrl, List.length_cons] at hroom
        exact List.length_eq_zero_iff.mp (by omega)
      rw [nodeCreateInterface_noIntf env addr hctrl hintf, Core.freeCtrlData, Env.pushed_eq hapi,
        Core.takeCtrlData]
      refine ⟨rfl, rfl, rfl, (List.append_nil _).symm, hctrl, ?_, rfl, (BitVec.add_zero _).symm,
        fun _ _ => rfl, by simp, by simp⟩
      exact (BitVec.add_sub_cancel _ _).trans (BitVec.add_zero _).symm

/-- With room it returns an interface, with an entry. -/
lemma addsNodes_room {c : Core cfg} (addr : BitVec 128) (hpools : IdealPools c)
    (hroom : c.room ≠ 0) : ∃ e : NodeItem, e.addr = addr ∧
      (c.nodeCreateInterface env addr).1 = some e.inf ∧
      AddsNodes c (c.nodeCreateInterface env addr).2 [e] := by
  cases hctrl : c.ctrlSlab.freeList with
  | nil => simp [Core.room, hctrl] at hroom
  | cons ctrlData rest =>
      cases hintf : c.intfSlab.freeList with
      | nil => simp [Core.room, hintf] at hroom
      | cons inf slots =>
          -- a free control block is room in the cache
          have hlen := hpools.ctrl
          rw [hctrl, List.length_cons] at hlen
          rw [nodeCreateInterface_made env addr hctrl hintf (by omega)]
          have hmade : (c.madeInterface ctrlData inf rest slots).intfMem inf =
              ⟨c.nextId, ctrlData⟩ := Function.update_self ..
          refine ⟨⟨-1, c.nextId, addr, inf⟩, rfl, rfl, rfl, rfl, rfl, ?_, rfl, hintf, rfl, ?_, ?_,
            by simp⟩
          · rw [hctrl, List.map_singleton, Core.ctrlOf, hmade]
            rfl
          · intro p hp
            rw [hintf] at hp
            exact Function.update_of_ne (List.ne_of_not_mem_cons hp) _ _
          · intro e he
            obtain rfl := List.mem_singleton.mp he
            rw [hmade]

/-! ### Announcements -/

/-- `svc_send_module_inserted`, once for each id. -/
def announceAll : List U8 → FwM cfg Unit
  | [] => return ()
  | id :: ids => do
    discard (svcSendModuleInserted env id)
    announceAll ids

/-- A request looks at nothing of the tables but the routing table. -/
lemma controlSendRequest_congr {payload : List U8} {requestType : U8} {s s' : Fw cfg} {ret : ℤ}
    (h : Ends (controlSendRequest env payload requestType) s ret s') {c : Core cfg}
    (hmap : c.nodeApMap = s.core.nodeApMap) :
    Ends (controlSendRequest env payload requestType) ⟨c, s.io⟩ ret ⟨c, s'.io⟩ := by
  obtain ⟨msg, s₁, h₁, h⟩ := ends_bind.mp h
  obtain ⟨io₁, halloc, rfl⟩ := ends_liftIo.mp h₁
  refine (Ends.liftIo halloc).bind ?_
  cases msg with
  | none =>
      obtain ⟨rfl, rfl⟩ := ends_pure.mp h
      exact Ends.pure _ _
  | some msg =>
      obtain ⟨r, s₂, h₂, h⟩ := ends_bind.mp h
      obtain ⟨hfit, hr, rfl⟩ := ends_connectionSendToAp.mp h₂
      have hsend : Ends (connectionSendToAp SVC_INF_ID 0 msg) (⟨c, io₁⟩ : Fw cfg) r ⟨c, io₁.logged
          (sendEvents (nodeToApCport s.core.nodeApMap SVC_INF_ID 0) SVC_INF_ID 0 msg)⟩ := by
        rw [← hmap] at hfit hr ⊢
        exact ends_connectionSendToAp.mpr ⟨hfit, hr, rfl⟩
      refine hsend.bind ?_
      rcases ends_ite.mp h with ⟨hneg, h⟩ | ⟨hpos, h⟩
      · obtain ⟨rfl, rfl⟩ := ends_pure.mp h
        exact ends_ite.mpr (Or.inl ⟨hneg, Ends.pure _ _⟩)
      · obtain ⟨_, s₃, h₃, h⟩ := ends_bind.mp h
        obtain ⟨io₃, hread, rfl⟩ := ends_liftIo.mp h₃
        obtain ⟨rfl, rfl⟩ := ends_pure.mp h
        exact ends_ite.mpr (Or.inr ⟨hpos, (Ends.liftIo hread).bind (Ends.pure _ _)⟩)

/-- An announcement leaves the tables alone. -/
lemma announce_core {id : U8} {s s' : Fw cfg}
    (h : Ends (discard (svcSendModuleInserted env id)) s () s') : s'.core = s.core :=
  (respects_controlSendRequest env _ _).discard h

/-- An announcement may as well be made once more nodes have been added. -/
lemma announce_iff {c c' : Core cfg} {es : List NodeItem} (h : AddsNodes c c' es) {id : U8}
    {io io' : Io} : Ends (discard (svcSendModuleInserted env id)) ⟨c, io⟩ () ⟨c, io'⟩ ↔
      Ends (discard (svcSendModuleInserted env id)) ⟨c', io⟩ () ⟨c', io'⟩ := by
  constructor
  · intro hend
    obtain ⟨ret, hret⟩ := ends_discard.mp hend
    exact Ends.discard (controlSendRequest_congr env hret h.nodeApMap)
  · intro hend
    obtain ⟨ret, hret⟩ := ends_discard.mp hend
    exact Ends.discard (controlSendRequest_congr env hret h.nodeApMap.symm)

lemma announceAll_core {ids : List U8} {s s' : Fw cfg} (h : Ends (announceAll env ids) s () s') :
    s'.core = s.core := by
  induction ids generalizing s with
  | nil => rw [(ends_pure.mp h).2]
  | cons id ids ih =>
      obtain ⟨_, s₁, h₁, h⟩ := ends_bind.mp h
      rw [ih h, announce_core env h₁]

/-! ### All addresses -/

/-- An address that is cached adds nothing. -/
lemma newAddrs_cached {c : Core cfg} {addr : BitVec 128} (h : addr ∈ c.addrs)
    (active : List (BitVec 128)) : newAddrs c (addr :: active) = newAddrs c active := by
  rw [newAddrs, List.filter_cons_of_neg (by simpa using h), newAddrs]

lemma newAddrs_noRoom {c : Core cfg} (h : c.room = 0) (active : List (BitVec 128)) :
    newAddrs c active = [] := by
  rw [newAddrs, h, List.take_zero]

/-- One that is not comes first, and then what is new to the cache it is in. -/
lemma newAddrs_new {c c' : Core cfg} {e : NodeItem} (h : AddsNodes c c' [e])
    (hnew : e.addr ∉ c.addrs) (active : List (BitVec 128)) :
    newAddrs c (e.addr :: active) = e.addr :: newAddrs c' active := by
  rw [newAddrs, List.filter_cons_of_pos (by simpa using hnew), List.eraseDups_cons, h.room,
    List.length_singleton, Nat.add_comm, List.take_succ_cons, List.filter_filter, newAddrs, h.addrs]
  congr 3
  refine List.filter_congr fun addr _ => ?_
  simp [and_comm, Bool.beq_eq_decide_eq]

/-- The lookup by address finds what is cached. -/
lemma nodeCacheFindByAddr_eq_none {c : Core cfg} {addr : BitVec 128} :
    nodeCacheFindByAddr c.nodeCache addr = none ↔ addr ∉ c.addrs := by
  rw [nodeCacheFindByAddr, findEntry_eq_none_iff, Core.addrs, List.mem_map]
  simp

/-- An address that is cached is passed over. -/
lemma nodeFilterOne_cached {addr : BitVec 128} {s : Fw cfg} (h : addr ∈ s.core.addrs) :
    Ends (nodeFilterOne env addr) s () s := by
  refine (Ends.getCore s).bind ?_
  cases hfind : nodeCacheFindByAddr s.core.nodeCache addr with
  | none => exact absurd h (nodeCacheFindByAddr_eq_none.mp hfind)
  | some e => exact Ends.pure () s

section new

variable {addr : BitVec 128} {s : Fw cfg} (hnew : addr ∉ s.core.addrs)
include hnew

/-- One that is not, and cannot be created, is passed over too. -/
lemma nodeFilterOne_refused (hnone : (s.core.nodeCreateInterface env addr).1 = none) :
    Ends (nodeFilterOne env addr) s () ⟨(s.core.nodeCreateInterface env addr).2, s.io⟩ := by
  refine (Ends.getCore s).bind ?_
  rw [nodeCacheFindByAddr_eq_none.mpr hnew]
  refine (ends_modifyGetCore.mpr ⟨hnone, rfl⟩).bind ?_
  exact Ends.pure _ _

/-- One that is created is announced. -/
lemma nodeFilterOne_created {inf : Ptr} {s' : Fw cfg}
    (hsome : (s.core.nodeCreateInterface env addr).1 = some inf) :
    Ends (nodeFilterOne env addr) s () s' ↔
      Ends (discard (svcSendModuleInserted env
        ((s.core.nodeCreateInterface env addr).2.intfMem inf).id))
          ⟨(s.core.nodeCreateInterface env addr).2, s.io⟩ () s' := by
  have hcreate : Ends (modifyGetCore fun c => c.nodeCreateInterface env addr) s (some inf)
      ⟨(s.core.nodeCreateInterface env addr).2, s.io⟩ := ends_modifyGetCore.mpr ⟨hsome, rfl⟩
  rw [nodeFilterOne, (Ends.getCore s).bind_iff, nodeCacheFindByAddr_eq_none.mpr hnew,
    hcreate.bind_iff, (Ends.getCore _).bind_iff]

end new

/-- **`node_filter`** adds the nodes there is room for, and announces each of them. -/
theorem nodeFilter_adds (hapi : env.slabFreeApi = .pointee) {c : Core cfg} (h : IdealPools c)
    (active : List (BitVec 128)) : ∃ c' news, AddsNodes c c' news ∧
      news.map NodeItem.addr = newAddrs c active ∧ ∀ io s',
        Ends (nodeFilter env active) ⟨c, io⟩ () s' ↔
          Ends (announceAll env (news.map NodeItem.id)) ⟨c', io⟩ () s' := by
  induction active generalizing c with
  | nil => exact ⟨c, [], .refl c, by simp [newAddrs], fun io s' => Iff.rfl⟩
  | cons addr active ih =>
      -- an address that makes no node leaves what is to come to the others
      have hpass : ∀ c₁, AddsNodes c c₁ [] → newAddrs c (addr :: active) = newAddrs c₁ active →
          (∀ io, Ends (nodeFilterOne env addr) ⟨c, io⟩ () ⟨c₁, io⟩) → ∃ c' news,
            AddsNodes c c' news ∧ news.map NodeItem.addr = newAddrs c (addr :: active) ∧
              ∀ io s', Ends (nodeFilter env (addr :: active)) ⟨c, io⟩ () s' ↔
                Ends (announceAll env (news.map NodeItem.id)) ⟨c', io⟩ () s' := by
        intro c₁ h₁ hnext hone
        obtain ⟨c', news, hadds, hnews, hends⟩ := ih (h₁.idealPools h)
        refine ⟨c', news, h₁.trans h.intf hadds, by rw [hnews, hnext], fun io s' => ?_⟩
        rw [nodeFilter, (hone io).bind_iff]
        exact hends io s'
      by_cases hcached : addr ∈ c.addrs
      · exact hpass c (.refl c) (newAddrs_cached hcached active) fun io =>
          nodeFilterOne_cached env hcached
      by_cases hroom : c.room = 0
      · obtain ⟨hnone, hsame⟩ := addsNodes_noRoom env hapi addr hroom
        refine hpass _ hsame ?_ fun io => nodeFilterOne_refused env hcached hnone
        rw [newAddrs_noRoom hroom, newAddrs_noRoom]
        rw [hsame.room] at hroom
        simpa using hroom
      · obtain ⟨e, rfl, hsome, h₁⟩ := addsNodes_room env addr h hroom
        set c₁ := (c.nodeCreateInterface env e.addr).2 with hc₁
        obtain ⟨c', news, hadds, hnews, hends⟩ := ih (h₁.idealPools h)
        have hid : (c₁.intfMem e.inf).id = e.id := h₁.id_eq e (List.mem_singleton_self e)
        refine ⟨c', e :: news, h₁.trans h.intf hadds, ?_, fun io s' => ?_⟩
        · rw [List.map_cons, hnews, newAddrs_new h₁ hcached]
        · rw [nodeFilter, ends_bind, List.map_cons, announceAll, ends_bind]
          constructor
          · rintro ⟨_, s₁, hone, hrest⟩
            rw [nodeFilterOne_created env hcached hsome, ← hc₁, hid] at hone
            obtain ⟨core₁, io₁⟩ := s₁
            obtain rfl : core₁ = c₁ := announce_core env hone
            exact ⟨(), _, (announce_iff env hadds).mp hone, (hends io₁ s').mp hrest⟩
          · rintro ⟨_, s₁, hone, hrest⟩
            obtain ⟨core₁, io₁⟩ := s₁
            obtain rfl : core₁ = c' := announce_core env hone
            refine ⟨(), ⟨c₁, io₁⟩, ?_, (hends io₁ s').mpr hrest⟩
            rw [nodeFilterOne_created env hcached hsome, ← hc₁, hid]
            exact (announce_iff env hadds).mpr hone

/-- A discovery of what is cached already does nothing. -/
lemma nodeFilter_cached {active : List (BitVec 128)} {s : Fw cfg}
    (h : ∀ addr ∈ active, addr ∈ s.core.addrs) : Ends (nodeFilter env active) s () s := by
  induction active with
  | nil => exact Ends.pure () s
  | cons addr active ih =>
      rw [List.forall_mem_cons] at h
      exact (nodeFilterOne_cached env h.1).bind (ih h.2)

/-- **A discovery** appends a node for each new address there is room for, in order of
their first occurrence, announces each once under its id and does nothing else; the
same discovery again, if all are there, does nothing. -/
theorem discovery_adds (hapi : env.slabFreeApi = .pointee) {s : Fw cfg} (h : IdealPools s.core)
    (active : List (BitVec 128)) : ∃ c' news, AddsNodes s.core c' news ∧
      news.map NodeItem.addr = newAddrs s.core active ∧
      (∀ s', Ends (nodeFilter env active) s () s' ↔
        Ends (announceAll env (news.map NodeItem.id)) ⟨c', s.io⟩ () s') ∧
      ∀ s', Ends (nodeFilter env active) s () s' → s'.core = c' ∧
        ((∀ addr ∈ active, addr ∈ s'.core.addrs) →
          ∀ s'', Ends (nodeFilter env active) s' () s'' ↔ s'' = s') := by
  obtain ⟨c', news, hadds, hnews, hends⟩ := nodeFilter_adds env hapi h active
  refine ⟨c', news, hadds, hnews, hends s.io, fun s' hs' => ?_⟩
  refine ⟨announceAll_core env ((hends s.io s').mp hs'), fun hall s'' => ?_⟩
  have hagain := nodeFilter_cached env hall
  constructor
  · intro h''
    exact (h''.unique hagain).2
  · rintro rfl
    exact hagain

/-- Three addresses, one of them twice, from boot. -/
theorem discovery_adds_boot : ∃ c' news, AddsNodes (Fw.boot .prjConf).core c' news ∧
    news.map NodeItem.addr = newAddrs (Fw.boot .prjConf).core [1, 2, 1, 3] ∧
    (∀ s', Ends (nodeFilter calmEnv [1, 2, 1, 3]) (.boot .prjConf) () s' ↔
      Ends (announceAll calmEnv (news.map NodeItem.id)) ⟨c', (Fw.boot .prjConf).io⟩ () s') ∧
    ∀ s', Ends (nodeFilter calmEnv [1, 2, 1, 3]) (.boot .prjConf) () s' → s'.core = c' ∧
      ((∀ addr ∈ [1, 2, 1, 3], addr ∈ s'.core.addrs) →
        ∀ s'', Ends (nodeFilter calmEnv [1, 2, 1, 3]) s' () s'' ↔ s'' = s') :=
  discovery_adds calmEnv rfl ⟨by decide, Slab.nodup_ofSize _⟩ [1, 2, 1, 3]

example : newAddrs (Core.boot .prjConf) [1, 2, 1, 3] = [1, 2, 3] := by decide

end Cc1352Greybus
