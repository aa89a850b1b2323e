import Cc1352Greybus.Lib.Pool
import Cc1352Greybus.Nodes.Ids
import Cc1352Greybus.Nodes.Removal

/-!
The blocks the two slabs of the nodes hand out.

A node takes a block of each slab when it is created and gives both back when it
is destroyed; a creation that finds no interface block gives its control block
back. What goes on the free list there depends on `k_mem_slab_free`.

* `Stocked`: the free blocks of each slab and those of the live nodes are the
  slab's own.
* `ownBlocks_of_pointee`: it stays so where the slab gets the block.
* `ownBlocks_iff`: where it gets the address of the pointer, blocks are the slabs'
  own exactly until a node is destroyed or a creation follows one that found no
  interface block.
-/

namespace Cc1352Greybus

open Effects PackedArray

variable {cfg : Config} (env : Env)

/-- The blocks of `node_control_data_slab` -/
def ctrlBlocks (cfg : Config) : List Ptr := (Slab.ofSize cfg.maxGreybusNodes).freeList

/-- The blocks of `gb_interface_slab` -/
def intfBlocks (cfg : Config) : List Ptr := (Slab.ofSize cfg.maxGreybusInterfaces).freeList

/-- Neither holds a variable's address. -/
lemma stack_notMem_ofSize (v : StackVar) (n : ℕ) : Ptr.stack v ∉ (Slab.ofSize n).freeList := by
  simp [Slab.ofSize]

/-! ### Nodes that come and go -/

/-- The firmware, and the interfaces created and not destroyed since. -/
structure LiveNodes (cfg : Config) where
  fw : Fw cfg
  live : List Ptr

/-- The tables. -/
abbrev LiveNodes.core (s : LiveNodes cfg) : Core cfg := s.fw.core

/-- A call of `node_create_interface` -/
def LiveNodes.create (s : LiveNodes cfg) (addr : BitVec 128) : LiveNodes cfg :=
  ⟨⟨(s.core.nodeCreateInterface env addr).2, s.fw.io⟩,
    (s.core.nodeCreateInterface env addr).1.toList ++ s.live⟩

/-- A call of `node_create_interface` or of `node_destroy_interface` -/
inductive SlabOp
  | create (addr : BitVec 128)
  | destroy (inf : Ptr)

/-- One call, carried out. Interfaces that are destroyed are live. -/
def slabStep (s : LiveNodes cfg) (op : SlabOp) (s' : LiveNodes cfg) : Prop :=
  match op with
  | .create addr => s' = s.create env addr
  | .destroy inf => inf ∈ s.live ∧ Ends (nodeDestroyInterface env (some inf)) s.fw () s'.fw ∧
      s'.live = s.live.erase inf

/-- What a creation is handed are blocks of the slabs, whether it succeeds or not;
what a removal gives back are the two blocks of the node. -/
def KeepsToSlabs (t : RunStep (LiveNodes cfg) SlabOp) : Prop :=
  match t.label with
  | .create _ => ∀ ctrlData slab, kMemSlabAlloc t.pre.core.ctrlSlab = some (ctrlData, slab) →
      ctrlData ∈ ctrlBlocks cfg ∧
        ∀ inf slab, kMemSlabAlloc t.pre.core.intfSlab = some (inf, slab) → inf ∈ intfBlocks cfg
  | .destroy inf =>
      t.post.core.ctrlSlab.freeList = t.pre.core.ctrlOf inf :: t.pre.core.ctrlSlab.freeList ∧
        t.post.core.intfSlab.freeList = inf :: t.pre.core.intfSlab.freeList

/-- The blocks of the live nodes are the slabs', and no two nodes share one. -/
structure OwnBlocks (s : LiveNodes cfg) : Prop where
  intf_mem : ∀ inf ∈ s.live, inf ∈ intfBlocks cfg
  ctrl_mem : ∀ inf ∈ s.live, s.core.ctrlOf inf ∈ ctrlBlocks cfg
  intfs : s.live.Nodup
  ctrls : (s.live.map s.core.ctrlOf).Nodup

/-! ### Conservation -/

/-- The slabs' blocks are free or a live node's, and each live node has an entry
under its id. -/
structure Stocked (s : LiveNodes cfg) : Prop where
  ctrl : Pool.Conserved (ctrlBlocks cfg) s.core.ctrlSlab.freeList (s.live.map s.core.ctrlOf)
  intf : Pool.Conserved (intfBlocks cfg) s.core.intfSlab.freeList s.live
  ids : (s.core.nodeCache.map NodeItem.id).Perm (s.live.map fun inf => (s.core.intfMem inf).id)

namespace Stocked

variable {s : LiveNodes cfg}

lemma ownBlocks (h : Stocked s) : OwnBlocks s :=
  ⟨fun _ hinf => h.intf.mem_own_of_used hinf,
    fun _ hinf => h.ctrl.mem_own_of_used (List.mem_map_of_mem hinf), h.intf.nodup_used,
    h.ctrl.nodup_used⟩

lemma ctrl_length (h : Stocked s) :
    s.core.ctrlSlab.freeList.length + s.live.length = cfg.maxGreybusNodes := by
  have hlen := h.ctrl.length_eq
  rwa [List.length_map, ctrlBlocks, Slab.length_ofSize] at hlen

lemma intf_length (h : Stocked s) :
    s.core.intfSlab.freeList.length + s.live.length = cfg.maxGreybusInterfaces := by
  have hlen := h.intf.length_eq
  rwa [intfBlocks, Slab.length_ofSize] at hlen

/-- The cache holds as many nodes as are live. -/
lemma cache_length (h : Stocked s) : s.core.nodeCache.length = s.live.length := by
  have hlen := h.ids.length_eq
  rwa [List.length_map, List.length_map] at hlen

/-- What is handed out next is the slabs' own. -/
lemma keepsToSlabs_create (h : Stocked s) (addr : BitVec 128) (s' : LiveNodes cfg) :
    KeepsToSlabs ⟨s, .create addr, s'⟩ := by
  have hown : ∀ {slab slab' : Slab} {own used p}, Pool.Conserved own slab.freeList used →
      kMemSlabAlloc slab = some (p, slab') → p ∈ own := by
    intro slab slab' own used p hpool halloc
    refine hpool.mem_own_of_free ?_
    rw [kMemSlabAlloc] at halloc
    cases hfree : slab.freeList with
    | nil => simp [hfree] at halloc
    | cons q rest =>
        rw [hfree] at halloc
        simp only [Option.some.injEq, Prod.mk.injEq] at halloc
        rw [halloc.1]
        exact List.mem_cons_self
  exact fun _ _ hctrl => ⟨hown h.ctrl hctrl, fun _ _ hintf => hown h.intf hintf⟩

end Stocked

/-- So it is at boot. -/
lemma stocked_boot {s : LiveNodes cfg} (hboot : s.core = .boot cfg) (hlive : s.live = []) :
    Stocked s := by
  refine ⟨?_, ?_, ?_⟩
  · rw [hboot, hlive]
    exact .start (Slab.nodup_ofSize _)
  · rw [hboot, hlive]
    exact .start (Slab.nodup_ofSize _)
  · rw [hboot, hlive]
    exact List.Perm.refl _

/-! ### A creation -/

/-- The blocks of a new node were free. -/
lemma Stocked.makes {s : LiveNodes cfg} (h : Stocked s) {c' : Core cfg} {ctrlData inf : Ptr}
    {addr : BitVec 128} (hctrl : s.core.ctrlSlab.freeList = ctrlData :: c'.ctrlSlab.freeList)
    (hout : HandsOut s.core c' inf ctrlData)
    (hcache : c'.nodeCache = s.core.nodeCache ++ [⟨-1, s.core.nextId, addr, inf⟩]) :
    Stocked ⟨⟨c', s.fw.io⟩, inf :: s.live⟩ := by
  have hinf : inf ∉ s.live := h.intf.notMem_used (by rw [hout.freeList]; exact List.mem_cons_self)
  have hkept : ∀ q ∈ s.live, c'.intfMem q = s.core.intfMem q := by
    intro q hq
    rw [hout.intfMem, Function.update_of_ne (ne_of_mem_of_not_mem hq hinf)]
  have hnew : c'.intfMem inf = ⟨s.core.nextId, ctrlData⟩ := by
    rw [hout.intfMem, Function.update_self]
  have hctrls : (inf :: s.live).map c'.ctrlOf = ctrlData :: s.live.map s.core.ctrlOf := by
    rw [List.map_cons, Core.ctrlOf, hnew]
    congr 1
    exact List.map_congr_left fun q hq => congrArg GbInterface.ctrlData (hkept q hq)
  have hids : ((inf :: s.live).map fun q => (c'.intfMem q).id) =
      s.core.nextId :: s.live.map fun q => (s.core.intfMem q).id := by
    rw [List.map_cons, hnew]
    congr 1
    exact List.map_congr_left fun q hq => congrArg GbInterface.id (hkept q hq)
  have hc := h.ctrl
  rw [hctrl] at hc
  have hi := h.intf
  rw [hout.freeList] at hi
  refine ⟨?_, hi.handOut, ?_⟩
  · show Pool.Conserved _ _ ((inf :: s.live).map c'.ctrlOf)
    rw [hctrls]
    exact hc.handOut
  · show (c'.nodeCache.map NodeItem.id).Perm ((inf :: s.live).map fun q => (c'.intfMem q).id)
    rw [hids, hcache, List.map_append]
    exact (List.perm_append_singleton _ _).trans (h.ids.cons _)

/-- A creation that finds no interface block: its control block goes through
`k_mem_slab_free`. -/
structure FindsNoIntf (s s' : LiveNodes cfg) : Prop where
  live : s'.live = s.live
  ctrlFree : ∃ ctrlData rest, s.core.ctrlSlab.freeList = ctrlData :: rest ∧
    s'.core.ctrlSlab.freeList = env.slabFreeApi.pushed .createCtrlData ctrlData :: rest
  nodeCache : s'.core.nodeCache = s.core.nodeCache
  intfSlab : s'.core.intfSlab = s.core.intfSlab
  intfMem : s'.core.intfMem = s.core.intfMem

/-- **A creation** finds no control block, or no interface block, or makes a node. -/
lemma Stocked.create_cases {s : LiveNodes cfg} (h : Stocked s) (addr : BitVec 128) :
    s.core.ctrlSlab.freeList = [] ∧ s.create env addr = s ∨
      s.core.intfSlab.freeList = [] ∧ FindsNoIntf env s (s.create env addr) ∨
      Stocked (s.create env addr) ∧ (s.create env addr).live.length = s.live.length + 1 := by
  cases hctrl : s.core.ctrlSlab.freeList with
  | nil =>
      rw [LiveNodes.create, nodeCreateInterface_noCtrl env addr hctrl]
      exact Or.inl ⟨rfl, rfl⟩
  | cons ctrlData rest =>
      refine Or.inr ?_
      cases hintf : s.core.intfSlab.freeList with
      | nil =>
          rw [LiveNodes.create, nodeCreateInterface_noIntf env addr hctrl hintf]
          exact Or.inl ⟨rfl, rfl, ⟨ctrlData, rest, hctrl, rfl⟩, rfl, rfl, rfl⟩
      | cons inf slots =>
          -- a free control block leaves room in the cache
          have hroom : s.core.nodeCache.length < cfg.maxGreybusNodes := by
            have hlen := h.ctrl_length
            rw [hctrl, List.length_cons] at hlen
            have := h.cache_length
            omega
          rw [LiveNodes.create, nodeCreateInterface_made env addr hctrl hintf hroom]
          exact Or.inr ⟨h.makes hctrl ⟨rfl, hintf, rfl, rfl⟩ rfl, rfl⟩

lemma FindsNoIntf.ctrlOf {s s' : LiveNodes cfg} (hfinds : FindsNoIntf env s s') :
    s'.core.ctrlOf = s.core.ctrlOf := by
  funext q
  rw [Core.ctrlOf, hfinds.intfMem, Core.ctrlOf]

/-- One that finds no interface block leaves the live nodes their blocks. -/
lemma FindsNoIntf.ownBlocks {s s' : LiveNodes cfg} (hfinds : FindsNoIntf env s s')
    (h : OwnBlocks s) :
    OwnBlocks s' := by
  refine ⟨?_, ?_, ?_, ?_⟩
  · rw [hfinds.live]
    exact h.intf_mem
  · rw [hfinds.live, hfinds.ctrlOf]
    exact h.ctrl_mem
  · rw [hfinds.live]
    exact h.intfs
  · rw [hfinds.live, hfinds.ctrlOf]
    exact h.ctrls

/-- Nothing happens to them where the slab gets the control block. -/
lemma FindsNoIntf.stocked (hapi : env.slabFreeApi = .pointee) {s s' : LiveNodes cfg}
    (hfinds : FindsNoIntf env s s') (h : Stocked s) : Stocked s' := by
  obtain ⟨ctrlData, rest, hfree, hfree'⟩ := hfinds.ctrlFree
  refine ⟨?_, ?_, ?_⟩
  · rw [hfinds.live, hfinds.ctrlOf, hfree', Env.pushed_eq hapi, ← hfree]
    exact h.ctrl
  · rw [hfinds.live, hfinds.intfSlab]
    exact h.intf
  · rw [hfinds.live, hfinds.nodeCache, hfinds.intfMem]
    exact h.ids

/-! ### Slabs that get their blocks back -/

/-- A removal of a live node, where each slab gets the node's block. -/
lemma Stocked.destroy (hapi : env.slabFreeApi = .pointee) {s s' : LiveNodes cfg} (h : Stocked s)
    {inf : Ptr} (hstep : slabStep env s (.destroy inf) s') :
    Stocked s' ∧ KeepsToSlabs ⟨s, .destroy inf, s'⟩ := by
  have hpush : ∀ v p, env.slabFreeApi.pushed v p = p := Env.pushed_eq hapi
  obtain ⟨hinf, hend, hlive⟩ := hstep
  obtain ⟨-, hfw⟩ := (nodeDestroyInterface_ends env inf s.fw).unique hend
  have hcore : s'.core = s.core.destroyInterface env inf := by rw [LiveNodes.core, ← hfw]
  have hctrlFree : s'.core.ctrlSlab.freeList = s.core.ctrlOf inf :: s.core.ctrlSlab.freeList := by
    rw [hcore, Core.destroyInterface_ctrlFree, hpush, Core.ctrlOf]
  have hintfFree : s'.core.intfSlab.freeList = inf :: s.core.intfSlab.freeList := by
    rw [hcore, Core.destroyInterface_intfFree, hpush]
  have hctrlOf : s'.core.ctrlOf = s.core.ctrlOf := by
    rw [hcore, Core.destroyInterface_ctrlOf]
  have hperm : s.live.Perm (inf :: s'.live) := hlive ▸ List.perm_cons_erase hinf
  have hkept : ∀ q ∈ s'.live, s'.core.intfMem q = s.core.intfMem q := by
    intro q hq
    have hne : q ≠ inf := ne_of_mem_of_not_mem hq
      (List.nodup_cons.mp (hperm.nodup_iff.mp h.intf.nodup_used)).1
    rw [hcore, Core.destroyInterface_intfMem_of_ne _ _ _ (by rwa [hpush])]
  -- the entry that goes has the id of the node, be it its own or not
  obtain ⟨e, he, hid⟩ : ∃ e ∈ s.core.nodeCache, e.id = (s.core.intfMem inf).id :=
    List.mem_map.mp (h.ids.mem_iff.mpr (List.mem_map_of_mem hinf))
  have hids : ((s.core.intfMem inf).id :: s'.core.nodeCache.map NodeItem.id).Perm
      (s.core.nodeCache.map NodeItem.id) := by
    rw [hcore, Core.destroyInterface_nodeCache, nodeCacheRemoveById]
    cases hfind : nodeCacheFindById s.core.nodeCache (s.core.intfMem inf).id with
    | none => exact absurd hid (by simpa using findEntry_eq_none_iff.mp hfind e he)
    | some r =>
        have hr : r.2.id = (s.core.intfMem inf).id := by simpa using (findEntry_some hfind).2
        have hremoved := (cons_swapRemove_findEntry hfind).map NodeItem.id
        rwa [List.map_cons, hr] at hremoved
  refine ⟨⟨?_, ?_, ?_⟩, hctrlFree, hintfFree⟩
  · rw [hctrlFree, hctrlOf]
    exact h.ctrl.takeBack (hperm.map _)
  · rw [hintfFree]
    exact h.intf.takeBack hperm
  · rw [List.map_congr_left fun q hq => congrArg GbInterface.id (hkept q hq)]
    exact (hids.trans (h.ids.trans (hperm.map _))).cons_inv

/-- **Where a slab gets its own blocks back**, nodes get blocks of the slabs, share
none and give their own back, whatever comes and goes. -/
theorem ownBlocks_of_pointee (hapi : env.slabFreeApi = .pointee) {s s' : LiveNodes cfg}
    {l : List (RunStep (LiveNodes cfg) SlabOp)} (hboot : s.core = .boot cfg) (hlive : s.live = [])
    (hrun : Run (slabStep env) s l s') : ∀ t ∈ l, KeepsToSlabs t ∧ OwnBlocks t.post := by
  suffices h : Stocked s' ∧ ∀ t ∈ l, KeepsToSlabs t ∧ OwnBlocks t.post from h.2
  induction hrun with
  | nil => exact ⟨stocked_boot hboot hlive, by simp⟩
  | @snoc l s op s' hrun hs ih =>
      obtain ⟨h, hall⟩ := ih
      suffices hlast : Stocked s' ∧ KeepsToSlabs ⟨s, op, s'⟩ from
        ⟨hlast.1, Run.forall_mem_concat.mpr ⟨hall, hlast.2, hlast.1.ownBlocks⟩⟩
      cases op with
      | destroy inf => exact h.destroy env hapi hs
      | create addr =>
          obtain rfl : s' = _ := hs
          refine ⟨?_, h.keepsToSlabs_create addr _⟩
          rcases h.create_cases env addr with ⟨-, hsame⟩ | ⟨-, hfinds⟩ | ⟨hmakes, -⟩
          · rw [hsame]
            exact h
          · exact hfinds.stocked env hapi h
          · exact hmakes

/-! ### Slabs that get the address of a variable -/

/-- The address of a variable is the next control block. -/
def Spoilt (s : LiveNodes cfg) : Prop := ∃ v rest, s.core.ctrlSlab.freeList = .stack v :: rest

/-- What `n` creations come to: slabs that hold their own blocks, or, after the first
creation that finds no interface block, the address of a variable. -/
def Reached (n : ℕ) (s : LiveNodes cfg) : Prop :=
  Stocked s ∧ s.live.length = min n (min cfg.maxGreybusNodes cfg.maxGreybusInterfaces) ∧
      (cfg.maxGreybusNodes ≤ cfg.maxGreybusInterfaces ∨ n ≤ cfg.maxGreybusInterfaces) ∨
    cfg.maxGreybusInterfaces < cfg.maxGreybusNodes ∧ n = cfg.maxGreybusInterfaces + 1 ∧
      OwnBlocks s ∧ Spoilt s

/-- The blocks of live nodes are the slabs' all along. -/
lemma Reached.ownBlocks {n : ℕ} {s : LiveNodes cfg} (h : Reached n s) : OwnBlocks s := by
  rcases h with ⟨hstocked, -⟩ | ⟨-, -, hown, -⟩
  · exact hstocked.ownBlocks
  · exact hown

/-- A slab that gets an address keeps what is handed out its own as long as there
are only creations, and none after one that found no interface block. -/
def Bounded (cfg : Config) (n : ℕ) (op : SlabOp) : Prop :=
  (∃ addr, op = .create addr) ∧
    (cfg.maxGreybusNodes ≤ cfg.maxGreybusInterfaces ∨ n ≤ cfg.maxGreybusInterfaces)

/-- A removal of a node gives the slab no block. -/
lemma not_keepsToSlabs_destroy (hapi : env.slabFreeApi = .argument) {s s' : LiveNodes cfg}
    {inf : Ptr}
    (h : OwnBlocks s) (hstep : slabStep env s (.destroy inf) s') :
    ¬ KeepsToSlabs ⟨s, .destroy inf, s'⟩ := by
  obtain ⟨hinf, hend, -⟩ := hstep
  obtain ⟨-, hfw⟩ := (nodeDestroyInterface_ends env inf s.fw).unique hend
  rintro ⟨-, hintf⟩
  dsimp only at hintf
  rw [LiveNodes.core, ← hfw, Core.destroyInterface_intfFree, hapi] at hintf
  have hmem := h.intf_mem inf hinf
  rw [← (List.cons.inj hintf).1] at hmem
  exact stack_notMem_ofSize _ _ hmem

/-- A creation that is handed the address of a variable. -/
lemma Spoilt.not_keepsToSlabs {s : LiveNodes cfg} (h : Spoilt s) (addr : BitVec 128)
    (s' : LiveNodes cfg) :
    ¬ KeepsToSlabs ⟨s, .create addr, s'⟩ := by
  obtain ⟨v, rest, hfree⟩ := h
  intro hkeeps
  refine stack_notMem_ofSize v cfg.maxGreybusNodes
    (hkeeps (.stack v) ⟨rest, s.core.ctrlSlab.numUsed + 1⟩ ?_).1
  rw [kMemSlabAlloc, hfree]

/-- One call, after `n` creations. -/
lemma reached_step (hapi : env.slabFreeApi = .argument) (n : ℕ) (s : LiveNodes cfg) (op : SlabOp)
    (s' : LiveNodes cfg) (h : Reached n s) (hstep : slabStep env s op s') :
    (KeepsToSlabs ⟨s, op, s'⟩ ∧ OwnBlocks s' ↔ Bounded cfg n op) ∧
      (Bounded cfg n op → Reached (n + 1) s') := by
  cases op with
  -- the first call that destroys pushes the address of a variable
  | destroy inf =>
      have hnot : ¬ Bounded cfg n (.destroy inf) := fun hop => by simpa using hop.1
      have hbad := not_keepsToSlabs_destroy env hapi h.ownBlocks hstep
      exact ⟨iff_of_false (fun hgood => hbad hgood.1) hnot, fun hop => absurd hop hnot⟩
  | create addr =>
      obtain rfl : s' = _ := hstep
      rcases h with ⟨hstocked, hlen, hbound⟩ | ⟨hfew, rfl, hown, hspoilt⟩
      -- a creation after the one that found its control block and no interface
      swap
      · have hnot : ¬ Bounded cfg (cfg.maxGreybusInterfaces + 1) (.create addr) := fun hop => by
          have := hop.2
          omega
        exact ⟨iff_of_false (fun hgood => hspoilt.not_keepsToSlabs addr _ hgood.1) hnot,
          fun hop => absurd hop hnot⟩
      suffices hnext : Reached (n + 1) (s.create env addr) from
        ⟨iff_of_true ⟨hstocked.keepsToSlabs_create addr _, hnext.ownBlocks⟩ ⟨⟨addr, rfl⟩, hbound⟩,
          fun _ => hnext⟩
      have hctrls := hstocked.ctrl_length
      have hintfs := hstocked.intf_length
      rcases hstocked.create_cases env addr with ⟨hempty, hsame⟩ | ⟨hempty, hfinds⟩ |
        ⟨hmakes, hlen'⟩
      -- no control block is left; or one is, and no interface; or both are
      · rw [hempty, List.length_nil] at hctrls
        rw [hsame]
        exact Or.inl ⟨hstocked, by omega, by omega⟩
      · obtain ⟨ctrlData, rest, hfree, hfree'⟩ := hfinds.ctrlFree
        rw [hempty, List.length_nil] at hintfs
        rw [hfree, List.length_cons] at hctrls
        rw [hapi] at hfree'
        exact Or.inr ⟨by omega, by omega, hfinds.ownBlocks env hstocked.ownBlocks, _, rest, hfree'⟩
      · have := hmakes.ctrl_length
        have := hmakes.intf_length
        exact Or.inl ⟨hmakes, by omega, by omega⟩

/-- **Where a slab gets the address of the pointer**, nodes get blocks of the slabs,
share none and give their own back exactly in runs that destroy no node and, unless
there are interface blocks for all control blocks, create at most one more than
there are interface blocks. -/
theorem ownBlocks_iff (hapi : env.slabFreeApi = .argument) {s s' : LiveNodes cfg}
    {l : List (RunStep (LiveNodes cfg) SlabOp)} (hboot : s.core = .boot cfg) (hlive : s.live = [])
    (hrun : Run (slabStep env) s l s') :
    (∀ t ∈ l, KeepsToSlabs t ∧ OwnBlocks t.post) ↔
      (∀ t ∈ l, ∃ addr, t.label = .create addr) ∧
        (cfg.maxGreybusNodes ≤ cfg.maxGreybusInterfaces ∨
          l.length ≤ cfg.maxGreybusInterfaces + 1) := by
  have h0 : Reached 0 s := Or.inl ⟨stocked_boot hboot hlive, by rw [hlive]; simp, by omega⟩
  rw [hrun.good_iff_getElem? (P := fun t => KeepsToSlabs t ∧ OwnBlocks t.post) h0
    (reached_step env hapi)]
  constructor
  · intro h
    refine ⟨fun t ht => ?_, ?_⟩
    · obtain ⟨n, hn⟩ := List.mem_iff_getElem?.mp ht
      exact (h n t hn).1
    · by_contra hlong
      have hn : cfg.maxGreybusInterfaces + 1 < l.length := by omega
      have := (h _ _ (List.getElem?_eq_getElem hn)).2
      omega
  · rintro ⟨hcreate, hlen⟩ n t hn
    have := (List.getElem?_eq_some_iff.mp hn).1
    exact ⟨hcreate t (List.mem_of_getElem? hn), by omega⟩

/-- Slabs that get addresses of variables. -/
def stackEnv : Env := { calmEnv with slabFreeApi := .argument }

/-- No nodes yet. -/
def noNodes : LiveNodes .prjConf := ⟨.boot .prjConf, []⟩

/-- Two nodes are made. -/
def twoMade : List (RunStep (LiveNodes .prjConf) SlabOp) :=
  [⟨noNodes, .create 1, noNodes.create stackEnv 1⟩] ++
    [⟨noNodes.create stackEnv 1, .create 2, (noNodes.create stackEnv 1).create stackEnv 2⟩]

/-- They are made of blocks. -/
theorem ownBlocks_iff_two :
    (∀ t ∈ twoMade, ∃ addr, t.label = .create addr) ∧
      ∀ t ∈ twoMade, KeepsToSlabs t ∧ OwnBlocks t.post := by
  have hrun : Run (slabStep stackEnv) noNodes twoMade _ := (Run.single rfl).snoc rfl
  have hcreate : ∀ t ∈ twoMade, ∃ addr, t.label = .create addr := by
    intro t ht
    simp only [twoMade, List.mem_append, List.mem_singleton] at ht
    obtain rfl | rfl := ht
    · exact ⟨1, rfl⟩
    · exact ⟨2, rfl⟩
  exact ⟨hcreate, (ownBlocks_iff stackEnv rfl rfl rfl hrun).mpr ⟨hcreate, Or.inr (by decide)⟩⟩

/-- A node is created. -/
def oneNode : LiveNodes .prjConf := noNodes.create stackEnv 1

/-- It is destroyed. -/
def oneGone : LiveNodes .prjConf :=
  ⟨final (nodeDestroyInterface stackEnv (some (.block 0))) oneNode.fw, []⟩

/-- The node that comes next is made of the address of `ctrl_data`. -/
theorem stack_handed_out :
    ¬ ∀ (s s' : LiveNodes .prjConf) (l : List (RunStep (LiveNodes .prjConf) SlabOp)),
      s.core = .boot .prjConf → s.live = [] → Run (slabStep stackEnv) s l s' →
        ∀ t ∈ l, KeepsToSlabs t ∧ OwnBlocks t.post := by
  intro h
  have hlive : oneNode.live = [.block 0] := by decide +kernel
  have h₁ : slabStep stackEnv noNodes (.create 1) oneNode := rfl
  have h₂ : slabStep stackEnv oneNode (.destroy (.block 0)) oneGone :=
    ⟨by rw [hlive]; exact List.mem_singleton_self _, ends_final (by decide +kernel), by
      rw [hlive]
      rfl⟩
  have h₃ : slabStep stackEnv oneGone (.create 2) (oneGone.create stackEnv 2) := rfl
  have hrun := ((Run.single h₁).snoc h₂).snoc h₃
  have hlast := h _ _ _ rfl rfl hrun _ (List.mem_append_right _ (List.mem_singleton_self _))
  have hspoilt : oneGone.core.ctrlSlab.freeList.head? = some (.stack .destroyCtrlData) := by
    decide +kernel
  obtain ⟨rest, hfree⟩ := List.head?_eq_some_iff.mp hspoilt
  exact Spoilt.not_keepsToSlabs ⟨_, rest, hfree⟩ 2 _ hlast.1

end Cc1352Greybus
