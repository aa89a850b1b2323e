import Cc1352Greybus.Lib.Pool
import Cc1352Greybus.Nodes.Ids
import Cc1352Greybus.Nodes.Removal

/-!
What the node cache, the control blocks and the sockets agree on.

A node's socket is kept twice, in the cache and in its control block. Both are
written by `node_intf_create_connection`, which finds the entry by the node's id,
and both go when the node does.

* `TablesTied`: the tables, with what ties them together.
* `cache_invariant`: discoveries, connects and removals keep cache, control blocks
  and open sockets in step, where slabs get their own blocks back and ids and
  sockets are fresh.
-/

namespace Cc1352Greybus

open Effects PackedArray

variable {cfg : Config} (env : Env)

/-! ### Open sockets -/

/-- The sockets open after an event. -/
def Event.onSocks (socks : List ℤ) : Event → List ℤ
  | .sockOpen fd => fd :: socks
  | .sockClose fd => socks.erase fd
  | _ => socks

/-- The sockets a trace leaves open. -/
def openSocks (tr : List Event) : List ℤ := tr.foldl Event.onSocks []

/-- No socket is opened or closed. -/
def NoSocks (tr : List Event) : Prop := ∀ e ∈ tr, ∀ socks, e.onSocks socks = socks

lemma openSocks_append (tr tr' : List Event) :
    openSocks (tr ++ tr') = tr'.foldl Event.onSocks (openSocks tr) :=
  List.foldl_append

lemma NoSocks.openSocks_append {tr' : List Event} (h : NoSocks tr') (tr : List Event) :
    openSocks (tr ++ tr') = openSocks tr := by
  rw [Cc1352Greybus.openSocks_append]
  generalize openSocks tr = socks
  induction tr' with
  | nil => rfl
  | cons e tr' ih =>
      rw [List.foldl_cons, h e List.mem_cons_self]
      exact ih fun e' he' => h e' (List.mem_cons_of_mem _ he')

/-- The same sockets are open. -/
def SameSocks (s s' : Fw cfg) : Prop := openSocks s'.io.trace = openSocks s.io.trace

instance : Std.Refl (@SameSocks cfg) := ⟨fun _ => rfl⟩

instance : IsTrans (Fw cfg) SameSocks := ⟨fun _ _ _ h h' => h'.trans h⟩

lemma sameSocks_svcSendModuleInserted (id : U8) :
    Respects SameSocks (svcSendModuleInserted env id : FwM cfg ℤ) := by
  intro s ret s' h
  obtain ⟨-, msg, -, htrace⟩ := controlSendRequest_ends env (by simp) (by simp) h
  rw [SameSocks, htrace]
  refine NoSocks.openSocks_append ?_ _
  intro e he socks
  cases hlink : s.core.svcLink with
  | none =>
      simp only [requestEvents, hlink, List.append_nil, List.mem_cons, List.not_mem_nil,
        or_false] at he
      rcases he with rfl | rfl <;> rfl
  | some c =>
      simp only [requestEvents, hlink, List.cons_append, List.nil_append, List.mem_cons,
        List.not_mem_nil, or_false] at he
      rcases he with rfl | rfl | rfl | rfl | rfl <;> rfl

/-- A discovery opens and closes no sockets. -/
lemma sameSocks_nodeFilter (active : List (BitVec 128)) :
    Respects SameSocks (nodeFilter env active : FwM cfg Unit) := by
  have hget : Respects SameSocks (getCore : FwM cfg (Core cfg)) := by
    intro s c s' h
    rw [← (ends_getCore.mp h).2]
    exact refl_of SameSocks s
  have hmodify : ∀ f : Core cfg → Option Ptr × Core cfg, Respects SameSocks (modifyGetCore f) := by
    intro f s a s' h
    rw [(ends_modifyGetCore.mp h).2]
    rfl
  induction active with
  | nil => exact respects_pure _
  | cons addr active ih =>
      refine Respects.bind ?_ fun _ => ih
      refine hget.bind fun c => ?_
      cases nodeCacheFindByAddr c.nodeCache addr with
      | some _ => exact respects_pure _
      | none =>
          refine (hmodify _).bind fun inf => ?_
          cases inf with
          | none => exact respects_pure _
          | some inf => exact hget.bind fun _ => (sameSocks_svcSendModuleInserted env _).discard

/-! ### The tables -/

/-- The sockets of the cache. -/
def cacheSocks (cache : List NodeItem) : List ℤ :=
  (cache.map NodeItem.sock).filter fun sock => 0 ≤ sock

/-- Tables in which every cached node has an interface block, a control block and
an id of its own, and the two copies of its socket agree. -/
structure TablesTied (c : Core cfg) : Prop where
  nodes : NodesTied c
  blocks : BlocksTied c
  addrs : (c.nodeCache.map NodeItem.addr).Nodup
  ctrl : Pool.Conserved (Slab.ofSize cfg.maxGreybusNodes).freeList c.ctrlSlab.freeList
    (c.nodeCache.map fun e => c.ctrlOf e.inf)
  sock_eq : ∀ e ∈ c.nodeCache, c.sockOf e.inf = e.sock
  numUsed : c.ctrlSlab.numUsed = BitVec.ofNat 32 c.nodeCache.length

lemma tablesTied_boot (cfg : Config) : TablesTied (Core.boot cfg) :=
  ⟨.boot cfg, blocksTied_boot cfg, List.nodup_nil, .start (Slab.nodup_ofSize _),
    by simp [Core.boot], rfl⟩

/-- A cached node's control block is not free. -/
lemma TablesTied.ctrlUsed {c : Core cfg} (h : TablesTied c) {e : NodeItem} (he : e ∈ c.nodeCache) :
    c.ctrlOf e.inf ∉ c.ctrlSlab.freeList := fun hmem =>
  h.ctrl.notMem_used hmem (List.mem_map.mpr ⟨e, he, rfl⟩)

/-- A creation makes no cache entry and changes free blocks only, or takes an
interface block and a control block for one. -/
lemma nodeCreateInterface_cases (hapi : env.slabFreeApi = .pointee) (c : Core cfg)
    (addr : BitVec 128) :
    ((c.nodeCreateInterface env addr).2.nodeCache = c.nodeCache ∧
        (c.nodeCreateInterface env addr).2.ctrlSlab = c.ctrlSlab ∧
        (∀ m ∉ c.ctrlSlab.freeList, (c.nodeCreateInterface env addr).2.ctrlMem m = c.ctrlMem m) ∧
        ∀ p ∉ c.intfSlab.freeList, (c.nodeCreateInterface env addr).2.intfMem p = c.intfMem p) ∨
      ∃ inf ctrlData, HandsOut c (c.nodeCreateInterface env addr).2 inf ctrlData ∧
        (c.nodeCreateInterface env addr).2.nodeCache = c.nodeCache ++ [⟨-1, c.nextId, addr, inf⟩] ∧
        c.ctrlSlab.freeList = ctrlData :: (c.nodeCreateInterface env addr).2.ctrlSlab.freeList ∧
        (c.nodeCreateInterface env addr).2.ctrlSlab.numUsed = c.ctrlSlab.numUsed + 1 ∧
        (c.nodeCreateInterface env addr).2.ctrlMem = Function.update c.ctrlMem ctrlData (-1) := by
  cases hctrl : c.ctrlSlab.freeList with
  | nil =>
      rw [nodeCreateInterface_noCtrl env addr hctrl]
      exact Or.inl ⟨rfl, rfl, fun _ _ => rfl, fun _ _ => rfl⟩
  | cons ctrlData rest =>
      have hback : kMemSlabFree ⟨rest, c.ctrlSlab.numUsed + 1⟩ ctrlData = c.ctrlSlab := by
        rw [kMemSlabFree, BitVec.add_sub_cancel, ← hctrl]
      -- a block that is given back has been written to, but is free
      have hmem : ∀ (slab : Slab) m, m ∉ ctrlData :: rest →
          Function.update (Function.update c.ctrlMem ctrlData (-1)) ctrlData
            (env.link slab).toInt m =
            c.ctrlMem m := by
        intro slab m hm
        have hne := List.ne_of_not_mem_cons hm
        rw [Function.update_of_ne hne, Function.update_of_ne hne]
      cases hintf : c.intfSlab.freeList with
      | nil =>
          rw [nodeCreateInterface_noIntf env addr hctrl hintf, Core.freeCtrlData,
            Env.pushed_eq hapi, Core.takeCtrlData]
          exact Or.inl ⟨rfl, hback, hmem _, fun _ _ => rfl⟩
      | cons inf slots =>
          by_cases hfull : cfg.maxGreybusNodes ≤ c.nodeCache.length
          · rw [nodeCreateInterface_full env addr hctrl hintf hfull, Core.freeCtrlData,
              Env.pushed_eq hapi, Core.madeInterface]
            exact Or.inl ⟨rfl, hback, hmem _, fun p hp =>
              Function.update_of_ne (List.ne_of_not_mem_cons hp) _ _⟩
          · rw [nodeCreateInterface_made env addr hctrl hintf (not_le.mp hfull)]
            exact Or.inr ⟨inf, ctrlData, ⟨rfl, hintf, rfl, rfl⟩, rfl, rfl, rfl, rfl⟩

/-- A creation under a fresh id, for an address that is not cached, keeps the tables
tied, and opens no socket. -/
lemma tablesTied_create (hapi : env.slabFreeApi = .pointee) {c : Core cfg} {addr : BitVec 128}
    (h : TablesTied c) (hfind : nodeCacheFindByAddr c.nodeCache addr = none) (hid : FreshId c) :
    TablesTied (c.nodeCreateInterface env addr).2 ∧
      cacheSocks (c.nodeCreateInterface env addr).2.nodeCache = cacheSocks c.nodeCache := by
  have hnodes := nodesTied_create env addr h.nodes (findsFresh_of_freshId h.blocks hid)
  have hblocks := blocksTied_create env addr h.blocks
  rcases nodeCreateInterface_cases env hapi c addr with
    ⟨hcache, hslab, hctrl, hintf⟩ | ⟨inf, ctrlData, hout, hcache, hfree, hnum, hctrl⟩
  · have hkept :
        ∀ e ∈ c.nodeCache, (c.nodeCreateInterface env addr).2.ctrlOf e.inf = c.ctrlOf e.inf := by
      intro e he
      rw [Core.ctrlOf, hintf _ (h.blocks.used e he), Core.ctrlOf]
    refine ⟨⟨hnodes, hblocks, hcache ▸ h.addrs, ?_, ?_, ?_⟩, by rw [hcache]⟩
    · rw [hcache, hslab, List.map_congr_left hkept]
      exact h.ctrl
    · rw [hcache]
      intro e he
      rw [Core.sockOf, hkept e he, hctrl _ (h.ctrlUsed he)]
      exact h.sock_eq e he
    · rw [hslab, hcache]
      exact h.numUsed
  · set c' := (c.nodeCreateInterface env addr).2
    have hinf : ∀ e ∈ c.nodeCache, e.inf ≠ inf := fun e he heq =>
      h.blocks.used e he (by rw [heq, hout.freeList]; exact List.mem_cons_self)
    have hkept : ∀ e ∈ c.nodeCache, c'.ctrlOf e.inf = c.ctrlOf e.inf := by
      intro e he
      rw [Core.ctrlOf, hout.intfMem, Function.update_of_ne (hinf e he), Core.ctrlOf]
    have hnew : c'.ctrlOf inf = ctrlData := by rw [Core.ctrlOf, hout.intfMem, Function.update_self]
    have hpool := h.ctrl
    rw [hfree] at hpool
    -- the block taken was free, so no cached node's
    have hne : ∀ e ∈ c.nodeCache, c.ctrlOf e.inf ≠ ctrlData := fun e he heq =>
      h.ctrlUsed he (by rw [heq, hfree]; exact List.mem_cons_self)
    refine ⟨⟨hnodes, hblocks, ?_, ?_, ?_, ?_⟩, ?_⟩
    · rw [hcache, List.map_append, List.nodup_append]
      refine ⟨h.addrs, by simp, ?_⟩
      rintro _ hmem _ hlast rfl
      obtain ⟨e, he, rfl⟩ := List.mem_map.mp hmem
      have hnot := findEntry_eq_none_iff.mp hfind e he
      simp only [List.map_cons, List.map_nil, List.mem_singleton] at hlast
      simp [hlast] at hnot
    · rw [hcache, List.map_append, List.map_congr_left hkept, List.map_singleton, hnew]
      exact hpool.handOut.congr (List.perm_append_singleton _ _).symm
    · intro e he
      rw [hcache, List.mem_append, List.mem_singleton] at he
      rcases he with he | rfl
      · rw [Core.sockOf, hkept e he, hctrl, Function.update_of_ne (hne e he)]
        exact h.sock_eq e he
      · rw [Core.sockOf, hnew, hctrl, Function.update_self]
    · rw [hnum, h.numUsed, hcache, List.length_append, List.length_singleton, BitVec.ofNat_add]
      rfl
    · rw [hcache]
      simp [cacheSocks]

/-- A removal of a cached node keeps the tables tied. -/
lemma tablesTied_destroy (hapi : env.slabFreeApi = .pointee) {c : Core cfg} {e : NodeItem}
    (h : TablesTied c) (he : e ∈ c.nodeCache) : TablesTied (c.destroyInterface env e.inf) := by
  have hpush : ∀ v p, env.slabFreeApi.pushed v p = p := Env.pushed_eq hapi
  have hcached : Cached c e.inf := ⟨e, he, rfl⟩
  have hmay : MayDestroyNode env c e.inf :=
    ⟨hcached, fun e' _ heq => by rw [heq, hpush]⟩
  have hperm : (e :: (c.destroyInterface env e.inf).nodeCache).Perm c.nodeCache :=
    h.nodes.cons_removeById he
  have haddrs : ((c.destroyInterface env e.inf).nodeCache.map NodeItem.addr).Nodup :=
    (List.nodup_cons.mp ((hperm.map NodeItem.addr).nodup_iff.mpr h.addrs)).2
  exact ⟨nodesTied_destroy env h.nodes hmay, blocksTied_destroy env hapi h.nodes h.blocks hcached,
    haddrs, destroyInterface_conserved hapi hperm h.ctrl,
    destroyInterface_sock_eq hapi hperm h.ctrl h.sock_eq, numUsed_sub_one hperm h.numUsed⟩

/-- A new socket of a cached node keeps the tables tied. -/
lemma tablesTied_setSocket {c : Core cfg} {e : NodeItem} {i : ℕ} (h : TablesTied c)
    (hfind : nodeCacheFindById c.nodeCache e.id = some (i, e)) (sock : ℤ) :
    TablesTied (c.setSocket i (c.ctrlOf e.inf) sock) := by
  have he := (findEntry_some hfind).1
  obtain ⟨hold, hnew⟩ := modify_perm hfind fun e => { e with sock := sock }
  have hsame : ∀ {α : Type} (f : NodeItem → α), (∀ e, f { e with sock := sock } = f e) →
      ((c.setSocket i (c.ctrlOf e.inf) sock).nodeCache.map f).Perm (c.nodeCache.map f) := by
    intro α f hf
    refine (hnew.map f).trans ((hold.map f).trans ?_).symm
    rw [List.map_cons, List.map_cons, hf]
  -- an entry of the new cache is one of the old, or the one with the new socket
  have hmem : ∀ e' ∈ (c.setSocket i (c.ctrlOf e.inf) sock).nodeCache,
      (e' ∈ c.nodeCache ∧ e'.inf ≠ e.inf) ∨ e' = { e with sock := sock } := by
    intro e' he'
    rcases List.mem_cons.mp (hnew.mem_iff.mp he') with rfl | he'
    · exact Or.inr rfl
    · have hinfs := (hold.map NodeItem.inf).nodup_iff.mp h.nodes.infs
      rw [List.map_cons, List.nodup_cons] at hinfs
      exact Or.inl ⟨hold.mem_iff.mpr (List.mem_cons_of_mem _ he'),
        fun heq => hinfs.1 (List.mem_map.mpr ⟨e', he', heq⟩)⟩
  have hforall : ∀ P : NodeItem → Prop, (∀ e' ∈ c.nodeCache, P e') → P { e with sock := sock } →
      ∀ e' ∈ (c.setSocket i (c.ctrlOf e.inf) sock).nodeCache, P e' := by
    intro P hall hlast e' he'
    rcases hmem e' he' with ⟨he', -⟩ | rfl
    · exact hall e' he'
    · exact hlast
  have hlen : (c.setSocket i (c.ctrlOf e.inf) sock).nodeCache.length = c.nodeCache.length := by
    rw [Core.setSocket, List.length_modify]
  refine ⟨⟨(hsame _ fun _ => rfl).nodup_iff.mpr h.nodes.ids,
    (hsame _ fun _ => rfl).nodup_iff.mpr h.nodes.infs,
      hforall _ h.nodes.id_eq (h.nodes.id_eq e he), hforall _ h.nodes.issued (h.nodes.issued e he),
      h.nodes.start_le, h.nodes.le_max⟩,
    ⟨h.blocks.nodup, hforall _ h.blocks.used (h.blocks.used e he)⟩,
    (hsame _ fun _ => rfl).nodup_iff.mpr h.addrs,
    h.ctrl.congr (hsame (fun e => c.ctrlOf e.inf) fun _ => rfl).symm, fun e' he' => ?_,
    by rw [hlen]; exact h.numUsed⟩
  rcases hmem e' he' with ⟨hin, hne⟩ | rfl
  · have hctrl : c.ctrlOf e'.inf ≠ c.ctrlOf e.inf := fun heq =>
      hne (congrArg NodeItem.inf (List.inj_on_of_nodup_map h.ctrl.nodup_used hin he heq))
    exact (Function.update_of_ne hctrl _ _).trans (h.sock_eq e' hin)
  · exact Function.update_self _ _ _

/-! ### Tables and sockets -/

/-- Tied tables whose sockets are the ones open. -/
structure CacheTied (s : Fw cfg) : Prop where
  tables : TablesTied s.core
  nodup : (openSocks s.io.trace).Nodup
  opened : (openSocks s.io.trace).Perm (cacheSocks s.core.nodeCache)

/-- A descriptor that is handed out next is not open. -/
def FreshSocket (s : Fw cfg) : Prop :=
  ∀ fd : ℕ, env.zsockSocket s.io.netCalls = some fd → (fd : ℤ) ∉ openSocks s.io.trace

lemma cacheTied_filter (hapi : env.slabFreeApi = .pointee) {active : List (BitVec 128)}
    {s s' : Fw cfg}
    (h : CacheTied s) (hid : EachCreation env FreshId s.core active)
    (hend : Ends (nodeFilter env active) s () s') : CacheTied s' := by
  have htrace : openSocks s'.io.trace = openSocks s.io.trace := sameSocks_nodeFilter env active hend
  have hcore := filter_preserves env
    (I := fun c => TablesTied c ∧ cacheSocks c.nodeCache = cacheSocks s.core.nodeCache)
    (fun c addr hc hfind hfresh => by
      obtain ⟨htied, hsocks⟩ := tablesTied_create env hapi hc.1 hfind hfresh
      exact ⟨htied, hsocks.trans hc.2⟩) ⟨h.tables, rfl⟩ hid
  rw [← nodeFilter_core env hend] at hcore
  exact ⟨hcore.1, htrace ▸ h.nodup, by rw [htrace, hcore.2]; exact h.opened⟩

/-- `connect_to_node` leaves no socket open, or the one it returns. -/
lemma connectToNode_cases {io io' : Io} {ret : ℤ} (h : Ends (connectToNode env) io ret io') :
    ret < 0 ∧ openSocks io'.trace = openSocks io.trace ∨
      ∃ fd : ℕ, env.zsockSocket io.netCalls = some fd ∧ ret = fd ∧
        io'.trace = io.trace ++ [.sockOpen fd] := by
  rcases connectToNode_ends env io with
    ⟨-, hend⟩ | ⟨fd, hsock, ⟨-, hend⟩ | ⟨-, hend⟩⟩
  · obtain ⟨rfl, rfl⟩ := hend.unique h
    exact Or.inl ⟨by decide, rfl⟩
  · obtain ⟨rfl, rfl⟩ := hend.unique h
    exact Or.inr ⟨fd, hsock, rfl, rfl⟩
  · obtain ⟨rfl, rfl⟩ := hend.unique h
    refine Or.inl ⟨by decide, ?_⟩
    simp [Io.afterSocket, openSocks_append, Event.onSocks]

lemma cacheTied_connect {inf : Ptr} {cport : U16} {s s' : Fw cfg} {ret : ℤ} (h : CacheTied s)
    (hinf : Cached s.core inf) (hfresh : FreshSocket env s)
    (hend : Ends (nodeIntfCreateConnection env inf cport) s ret s') : CacheTied s' := by
  obtain ⟨e, he, rfl⟩ := hinf
  obtain ⟨i, hfind⟩ := h.tables.nodes.findById he
  rw [nodeIntfCreateConnection, (Ends.getCore s).bind_iff] at hend
  dsimp only at hend
  rcases ends_ite.mp hend with ⟨-, hend⟩ | ⟨-, hend⟩
  · obtain ⟨-, rfl⟩ := ends_pure.mp hend
    exact h
  rcases ends_ite.mp hend with ⟨-, hend⟩ | ⟨hclosed, hend⟩
  · obtain ⟨-, rfl⟩ := ends_pure.mp hend
    exact h
  rw [h.tables.nodes.id_eq e he, hfind] at hend
  obtain ⟨sock, s₁, h₁, hend⟩ := ends_bind.mp hend
  obtain ⟨io₁, hconn, rfl⟩ := ends_liftIo.mp h₁
  rcases connectToNode_cases env hconn with ⟨hneg, hopen⟩ | ⟨fd, hfd, rfl, htrace⟩
  · rw [if_pos hneg] at hend
    obtain ⟨-, rfl⟩ := ends_pure.mp hend
    exact ⟨h.tables, hopen ▸ h.nodup, hopen ▸ h.opened⟩
  · rw [if_neg (by omega), (Ends.modifyCore _ _).bind_iff,
      (Ends.liftIo (Ends.pipeSend io₁)).bind_iff] at hend
    obtain ⟨-, rfl⟩ := ends_pure.mp hend
    have hopen : openSocks (io₁.trace ++ [.pipeSend io₁.localPipeWriter]) =
        (fd : ℤ) :: openSocks s.io.trace := by
      rw [htrace, List.append_assoc, openSocks_append]
      rfl
    -- the entry had no socket
    have hneg : e.sock < 0 := by
      rw [← h.tables.sock_eq e he]
      exact not_le.mp hclosed
    obtain ⟨hold, hnew⟩ := modify_perm hfind fun e => { e with sock := (fd : ℤ) }
    refine ⟨tablesTied_setSocket h.tables hfind fd, ?_, ?_⟩
    · rw [Io.logged_trace, hopen, List.nodup_cons]
      exact ⟨hfresh fd hfd, h.nodup⟩
    · rw [Io.logged_trace, hopen]
      have hbefore : (cacheSocks s.core.nodeCache).Perm
          (cacheSocks (s.core.nodeCache.eraseIdx i)) := by
        refine ((hold.map _).filter _).trans ?_
        rw [List.map_cons, List.filter_cons_of_neg (by simpa using hneg), cacheSocks]
      have hafter : (cacheSocks (s.core.setSocket i (s.core.ctrlOf e.inf) fd).nodeCache).Perm
          ((fd : ℤ) :: cacheSocks (s.core.nodeCache.eraseIdx i)) := by
        refine ((hnew.map _).filter _).trans ?_
        rw [List.map_cons, List.filter_cons_of_pos (by simp), cacheSocks]
      exact ((h.opened.trans hbefore).cons _).trans hafter.symm

lemma cacheTied_destroy (hapi : env.slabFreeApi = .pointee) {e : NodeItem} {s s' : Fw cfg}
    (h : CacheTied s) (he : e ∈ s.core.nodeCache)
    (hend : Ends (nodeDestroyInterface env (some e.inf)) s () s') :
    CacheTied s' ∧ (e :: s'.core.nodeCache).Perm s.core.nodeCache := by
  obtain ⟨-, rfl⟩ := (nodeDestroyInterface_ends env e.inf s).unique hend
  have hperm : (e :: (s.core.destroyInterface env e.inf).nodeCache).Perm s.core.nodeCache :=
    h.tables.nodes.cons_removeById he
  have hsocks : (openSocks s.io.trace).Perm
      (cacheSocks (e :: (s.core.destroyInterface env e.inf).nodeCache)) :=
    h.opened.trans ((hperm.map _).filter _).symm
  -- the node's socket goes, if it has one
  obtain ⟨socks, hopen, hnodup, hrest⟩ : ∃ socks,
      openSocks (s.io.trace ++ destroyEvents e.inf e.sock) = socks ∧ socks.Nodup ∧
        socks.Perm (cacheSocks (s.core.destroyInterface env e.inf).nodeCache) := by
    rw [openSocks_append, destroyEvents, closeEvents]
    by_cases h0 : 0 ≤ e.sock
    · rw [cacheSocks, List.map_cons, List.filter_cons_of_pos (by simpa using h0)] at hsocks
      refine ⟨(openSocks s.io.trace).erase e.sock, by rw [if_pos h0]; rfl, h.nodup.erase _, ?_⟩
      have herase := hsocks.erase e.sock
      rwa [List.erase_cons_head] at herase
    · rw [cacheSocks, List.map_cons, List.filter_cons_of_neg (by simpa using h0)] at hsocks
      exact ⟨openSocks s.io.trace, by rw [if_neg h0]; rfl, h.nodup, hsocks⟩
  have hsock : s.core.ctrlMem (s.core.intfMem e.inf).ctrlData = e.sock := h.tables.sock_eq e he
  rw [hsock]
  exact ⟨⟨tablesTied_destroy env hapi h.tables he, hopen ▸ hnodup, hopen ▸ hrest⟩, hperm⟩

/-! ### Runs -/

/-- A discovery, a connect or a removal, or something that leaves nodes and sockets
alone. -/
inductive CacheOp
  | filter (active : List (BitVec 128))
  | connect (inf : Ptr) (cport : U16)
  | destroy (inf : Ptr)
  | other

/-- The nodes and the sockets are as before. -/
structure SameNodesAndSocks (s s' : Fw cfg) : Prop where
  nodeCache : s'.core.nodeCache = s.core.nodeCache
  ctrlSlab : s'.core.ctrlSlab = s.core.ctrlSlab
  intfSlab : s'.core.intfSlab = s.core.intfSlab
  ctrlMem : s'.core.ctrlMem = s.core.ctrlMem
  intfMem : s'.core.intfMem = s.core.intfMem
  interfaceIdCounter : s'.core.interfaceIdCounter = s.core.interfaceIdCounter
  socks : SameSocks s s'

/-- One operation, carried out. -/
def cacheStep (s : Fw cfg) (op : CacheOp) (s' : Fw cfg) : Prop :=
  match op with
  | .filter active => Ends (nodeFilter env active) s () s'
  | .connect inf cport => ∃ ret, Ends (nodeIntfCreateConnection env inf cport) s ret s'
  | .destroy inf => Ends (nodeDestroyInterface env (some inf)) s () s'
  | .other => SameNodesAndSocks s s'

/-- Connects and removals are of cached interfaces, an id that is given out is no
cached node's, and a socket that is opened is not open. -/
def CacheOp.Assumed (s : Fw cfg) : CacheOp → Prop
  | .filter active => EachCreation env FreshId s.core active
  | .connect inf _ => Cached s.core inf ∧ FreshSocket env s
  | .destroy inf => Cached s.core inf
  | .other => True

/-- **The representation invariant** of the node cache. -/
structure CacheInvariant (s : Fw cfg) : Prop where
  length_le : s.core.nodeCache.length ≤ cfg.maxGreybusNodes
  addrs : (s.core.nodeCache.map NodeItem.addr).Nodup
  infs : (s.core.nodeCache.map NodeItem.inf).Nodup
  socks : (cacheSocks s.core.nodeCache).Nodup
  id_eq : ∀ e ∈ s.core.nodeCache, e.id = (s.core.intfMem e.inf).id
  sock_eq : ∀ e ∈ s.core.nodeCache, e.sock = s.core.sockOf e.inf
  numUsed : s.core.ctrlSlab.numUsed.toNat = s.core.nodeCache.length
  used : s.core.ctrlSlab.freeList.length + s.core.nodeCache.length = cfg.maxGreybusNodes
  opened : (openSocks s.io.trace).Perm (cacheSocks s.core.nodeCache)

/-- A removal deletes the entry of the node it is of, and no other. -/
def RemovesOne (t : RunStep (Fw cfg) CacheOp) : Prop :=
  match t.label with
  | .destroy inf => ∃ e ∈ t.pre.core.nodeCache, e.inf = inf ∧
      (e :: t.post.core.nodeCache).Perm t.pre.core.nodeCache
  | _ => True

/-- Tied tables and sockets keep the invariant. -/
lemma CacheTied.invariant {s : Fw cfg} (h : CacheTied s) : CacheInvariant s := by
  have hlen := h.tables.ctrl.length_eq
  rw [List.length_map, Slab.length_ofSize] at hlen
  have hmax := cfg.nodes_le
  refine ⟨by omega, h.tables.addrs, h.tables.nodes.infs, h.opened.nodup_iff.mp h.nodup,
    fun e he => (h.tables.nodes.id_eq e he).symm, fun e he => (h.tables.sock_eq e he).symm, ?_,
    hlen, h.opened⟩
  rw [h.tables.numUsed, BitVec.toNat_ofNat, Nat.mod_eq_of_lt (by omega)]

lemma cacheTied_other {s s' : Fw cfg} (h : CacheTied s) (hsame : SameNodesAndSocks s s') :
    CacheTied s' := by
  obtain ⟨hcache, hctrl, hintf, hcm, him, hcount, hsocks⟩ := hsame
  have hctrlOf : ∀ p, s'.core.ctrlOf p = s.core.ctrlOf p :=
    fun p => by rw [Core.ctrlOf, him, Core.ctrlOf]
  have hsockOf : ∀ p, s'.core.sockOf p = s.core.sockOf p := fun p => by
    rw [Core.sockOf, hctrlOf, hcm, Core.sockOf]
  have hsocks : openSocks s'.io.trace = openSocks s.io.trace := hsocks
  obtain ⟨⟨hn, hb, haddrs, hpool, hse, hnum⟩, hnodup, hopen⟩ := h
  refine ⟨⟨⟨hcache ▸ hn.ids, hcache ▸ hn.infs, by rw [hcache, him]; exact hn.id_eq,
    hcache ▸ hn.issued, hcount ▸ hn.start_le, hcount ▸ hn.le_max⟩,
      ⟨hintf ▸ hb.nodup, by rw [hcache, hintf]; exact hb.used⟩,
    hcache ▸ haddrs, ?_, ?_, by rw [hctrl, hcache]; exact hnum⟩, hsocks ▸ hnodup,
    by rw [hsocks, hcache]; exact hopen⟩
  · simp only [hcache, hctrl, hctrlOf]
    exact hpool
  · simp only [hcache, hsockOf]
    exact hse

/-- One operation keeps tables and sockets tied, and removes what it should. -/
lemma cacheTied_step (hapi : env.slabFreeApi = .pointee) {s s' : Fw cfg} {op : CacheOp}
    (h : CacheTied s)
    (hstep : cacheStep env s op s') (hassumed : op.Assumed env s) :
    CacheTied s' ∧ RemovesOne ⟨s, op, s'⟩ := by
  cases op with
  | filter active => exact ⟨cacheTied_filter env hapi h hassumed hstep, trivial⟩
  | connect inf cport =>
      obtain ⟨ret, hstep⟩ := hstep
      exact ⟨cacheTied_connect env h hassumed.1 hassumed.2 hstep, trivial⟩
  | destroy inf =>
      obtain ⟨e, he, rfl⟩ := hassumed
      obtain ⟨htied, hperm⟩ := cacheTied_destroy env hapi h he hstep
      exact ⟨htied, e, he, rfl, hperm⟩
  | other => exact ⟨cacheTied_other h hstep, trivial⟩

/-- **Cache, control blocks and sockets** agree in every state of a run from the
start, with slabs that get their own blocks back and under ids and sockets that are
fresh, and each removal removes its own entry. -/
theorem cache_invariant (hapi : env.slabFreeApi = .pointee) {s s' : Fw cfg}
    {l : List (RunStep (Fw cfg) CacheOp)} (hboot : s.core = .boot cfg)
    (hclosed : openSocks s.io.trace = []) (hrun : Run (cacheStep env) s l s')
    (hassumed : ∀ t ∈ l, t.label.Assumed env t.pre) :
    CacheInvariant s' ∧ ∀ t ∈ l, CacheInvariant t.post ∧ RemovesOne t := by
  have h0 : CacheTied s := by
    refine ⟨hboot ▸ tablesTied_boot cfg, by rw [hclosed]; exact List.nodup_nil, ?_⟩
    rw [hclosed, hboot]
    exact List.Perm.refl _
  suffices h : CacheTied s' ∧ ∀ t ∈ l, CacheInvariant t.post ∧ RemovesOne t from
    ⟨h.1.invariant, h.2⟩
  induction hrun with
  | nil => exact ⟨h0, by simp⟩
  | snoc hrun hs ih =>
      rw [Run.forall_mem_concat] at hassumed
      obtain ⟨htied, hall⟩ := ih hassumed.1
      obtain ⟨htied', hone⟩ := cacheTied_step env hapi htied hs hassumed.2
      exact ⟨htied', Run.forall_mem_concat.mpr ⟨hall, htied'.invariant, hone⟩⟩

/-- A node is found. -/
def firstFound : Fw .prjConf := final (nodeFilter calmEnv [1]) (.boot .prjConf)

/-- It is connected. -/
def firstOpened : Fw .prjConf := final (nodeIntfCreateConnection calmEnv (.block 0) 0) firstFound

/-- It is destroyed. -/
def firstDestroyed : Fw .prjConf :=
  final (nodeDestroyInterface calmEnv (some (.block 0))) firstOpened

/-- The steps through them. -/
def firstSteps : List (RunStep (Fw .prjConf) CacheOp) :=
  [⟨.boot .prjConf, .filter [1], firstFound⟩] ++
    [⟨firstFound, .connect (.block 0) 0, firstOpened⟩] ++
    [⟨firstOpened, .destroy (.block 0), firstDestroyed⟩]

lemma firstSteps_run : Run (cacheStep calmEnv) (.boot .prjConf) firstSteps firstDestroyed := by
  have h₁ : cacheStep calmEnv (.boot .prjConf) (.filter [1]) firstFound :=
    ends_final (by decide +kernel)
  have h₂ : cacheStep calmEnv firstFound (.connect (.block 0) 0) firstOpened :=
    ⟨0, ends_final (by decide +kernel)⟩
  have h₃ : cacheStep calmEnv firstOpened (.destroy (.block 0)) firstDestroyed :=
    ends_final (by decide +kernel)
  exact ((Run.single h₁).snoc h₂).snoc h₃

/-- The invariant along the three steps, the last of which removes one node. -/
theorem cache_invariant_first :
    CacheInvariant firstDestroyed ∧ ∀ t ∈ firstSteps, CacheInvariant t.post ∧ RemovesOne t := by
  refine cache_invariant calmEnv rfl rfl rfl firstSteps_run fun t ht => ?_
  have hfound : firstFound.core.nodeCache = [⟨-1, 3, 1, .block 0⟩] := by decide +kernel
  have hopened : firstOpened.core.nodeCache = [⟨0, 3, 1, .block 0⟩] := by decide +kernel
  have hclosed : openSocks firstFound.io.trace = [] := by decide +kernel
  simp only [firstSteps, List.cons_append, List.nil_append, List.mem_cons, List.not_mem_nil,
    or_false] at ht
  rcases ht with rfl | rfl | rfl
  · exact ⟨fun _ _ _ _ e he => absurd he List.not_mem_nil, trivial⟩
  · refine ⟨⟨⟨-1, 3, 1, .block 0⟩, ?_, rfl⟩, fun fd _ => ?_⟩
    · rw [hfound]
      exact List.mem_singleton_self _
    rw [hclosed]
    exact List.not_mem_nil
  · exact ⟨⟨0, 3, 1, .block 0⟩, by rw [hopened]; exact List.mem_singleton_self _, rfl⟩

end Cc1352Greybus
