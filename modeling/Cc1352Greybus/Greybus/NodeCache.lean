import Cc1352Greybus.Greybus.State

/-!
The node cache of `src/node.c`, and the nodes made and unmade in it.

* `nodeCreateInterface`: a control block, an interface and a cache entry, or
  none of the entry.
* `nodeDestroyInterface`: the same way back, by the id the interface carries.
* `nodeDestroyInterface_ends`: it comes to its end, and what it does to the tables is
  `Core.destroyInterface`.
-/

namespace Cc1352Greybus

open Effects PackedArray

variable {cfg : Config} (env : Env)

/-! ### Lookup -/

/-- `node_cache_find_by_addr`, with the entry found -/
def nodeCacheFindByAddr (cache : List NodeItem) (addr : BitVec 128) : Option (ℕ × NodeItem) :=
  findEntry (fun e => e.addr = addr) cache

/-- `node_cache_find_by_sock`, with the entry found -/
def nodeCacheFindBySock (cache : List NodeItem) (sock : ℤ) : Option (ℕ × NodeItem) :=
  findEntry (fun e => e.sock = sock) cache

/-- `node_cache_find_by_id`, with the entry found -/
def nodeCacheFindById (cache : List NodeItem) (id : U8) : Option (ℕ × NodeItem) :=
  findEntry (fun e => e.id = id) cache

/-- `node_find_by_id` -/
def nodeFindById (c : Core cfg) (id : U8) : Option Ptr :=
  (nodeCacheFindById c.nodeCache id).map fun e => e.2.inf

/-- Some entry of the cache points to the interface. -/
def Cached (c : Core cfg) (inf : Ptr) : Prop := ∃ e ∈ c.nodeCache, e.inf = inf

instance (c : Core cfg) (inf : Ptr) : Decidable (Cached c inf) :=
  inferInstanceAs (Decidable (∃ e ∈ c.nodeCache, _))

/-- A node found by an id is cached. -/
lemma cached_of_nodeFindById {c : Core cfg} {id : U8} {inf : Ptr}
    (h : nodeFindById c id = some inf) : Cached c inf := by
  obtain ⟨⟨i, e⟩, hfind, rfl⟩ := Option.map_eq_some_iff.mp h
  exact ⟨e, (findEntry_some hfind).1, rfl⟩

/-- `node_cache_remove_by_id` -/
def nodeCacheRemoveById (cache : List NodeItem) (id : U8) : List NodeItem :=
  match nodeCacheFindById cache id with
  | none => cache
  | some (i, _) => swapRemove cache i

/-- A removal by id drops at most the entry the scan finds. -/
lemma mem_removeById {cache : List NodeItem} {id : U8} {e : NodeItem} (he : e ∈ cache)
    (hkeep : ∀ i d, nodeCacheFindById cache id = some (i, d) → e ≠ d) :
    e ∈ nodeCacheRemoveById cache id := by
  rw [nodeCacheRemoveById]
  cases hfind : nodeCacheFindById cache id with
  | none => exact he
  | some r =>
      have hmem := (cons_swapRemove_findEntry hfind).mem_iff.mpr he
      rw [List.mem_cons] at hmem
      exact hmem.resolve_left (hkeep r.1 r.2 hfind)

/-- A removal by id adds no entry. -/
lemma mem_of_mem_removeById {cache : List NodeItem} {id : U8} {e : NodeItem}
    (he : e ∈ nodeCacheRemoveById cache id) : e ∈ cache := by
  rw [nodeCacheRemoveById] at he
  cases hfind : nodeCacheFindById cache id with
  | none =>
      rw [hfind] at he
      exact he
  | some r =>
      rw [hfind] at he
      exact (cons_swapRemove_findEntry hfind).mem_iff.mp (List.mem_cons_of_mem _ he)

/-- A removal by a node's id, which no other node has, takes the node's entry. -/
lemma cons_removeById {cache : List NodeItem} {e : NodeItem}
    (hids : (cache.map NodeItem.id).Nodup) (he : e ∈ cache) :
    (e :: nodeCacheRemoveById cache e.id).Perm cache := by
  obtain ⟨i, hi⟩ := findEntry_of_unique (p := fun e' : NodeItem => e'.id = e.id) he (by simp)
    fun b hb hid => List.inj_on_of_nodup_map hids hb he (by simpa using hid)
  rw [nodeCacheRemoveById, nodeCacheFindById, hi]
  exact cons_swapRemove_findEntry hi

/-! ### Creation -/

namespace Core

/-- `node_cache_add`; it fails when the cache is full. -/
def nodeCacheAdd (c : Core cfg) (sock : ℤ) (id : U8) (addr : BitVec 128) (inf : Ptr) :
    Option (Core cfg) :=
  if cfg.maxGreybusNodes ≤ c.nodeCache.length then none
  else some { c with nodeCache := c.nodeCache ++ [⟨sock, id, addr, inf⟩] }

/-- A control block taken from its slab, with no socket yet. -/
def takeCtrlData (c : Core cfg) (ctrlData : Ptr) (slab : Slab) : Core cfg :=
  { c with ctrlSlab := slab, ctrlMem := Function.update c.ctrlMem ctrlData (-1) }

/-- What a creation would take from the slabs are blocks of theirs. -/
def HandsOutBlocks (c : Core cfg) : Prop :=
  ∀ ctrlData ∈ c.ctrlSlab.freeList.head?, ctrlData.IsBlock ∧
    ∀ inf ∈ c.intfSlab.freeList.head?, inf.IsBlock

instance (c : Core cfg) : Decidable c.HandsOutBlocks :=
  inferInstanceAs (Decidable (∀ _ ∈ c.ctrlSlab.freeList.head?, _ ∧ ∀ _ ∈ _, _))

/-- `node_create_interface` -/
def nodeCreateInterface (c : Core cfg) (addr : BitVec 128) : Option Ptr × Core cfg :=
  match kMemSlabAlloc c.ctrlSlab with
  | none => (none, c)
  | some (ctrlData, slab) =>
    match (c.takeCtrlData ctrlData slab).gbInterfaceAlloc ctrlData with
    | (none, c) => (none, c.freeCtrlData env .createCtrlData ctrlData)
    | (some inf, c) =>
      match c.nodeCacheAdd (-1) (c.intfMem inf).id addr inf with
      | none => (none, c.freeCtrlData env .createCtrlData ctrlData)
      | some c => (some inf, c)

/-! ### Destruction -/

/-- What `node_destroy_interface` does to the tables. -/
def destroyInterface (c : Core cfg) (inf : Ptr) : Core cfg :=
  (({ c with nodeCache := nodeCacheRemoveById c.nodeCache (c.intfMem inf).id }).freeCtrlData env
    .destroyCtrlData (c.intfMem inf).ctrlData).gbInterfaceDealloc env inf

section destroyInterface

variable (c : Core cfg) (p : Ptr)

@[simp] lemma destroyInterface_nodeCache : (c.destroyInterface env p).nodeCache =
    nodeCacheRemoveById c.nodeCache (c.intfMem p).id := rfl

@[simp] lemma destroyInterface_ctrlFree : (c.destroyInterface env p).ctrlSlab.freeList =
    env.slabFreeApi.pushed .destroyCtrlData (c.intfMem p).ctrlData :: c.ctrlSlab.freeList := rfl

@[simp] lemma destroyInterface_intfFree : (c.destroyInterface env p).intfSlab.freeList =
    env.slabFreeApi.pushed .deallocIntf p :: c.intfSlab.freeList := rfl

/-- The link of the free list takes the place of the id of the block freed. -/
lemma destroyInterface_intfMem : (c.destroyInterface env p).intfMem =
    Function.update c.intfMem (env.slabFreeApi.pushed .deallocIntf p)
      ⟨(env.link c.intfSlab).setWidth 8,
        (c.intfMem (env.slabFreeApi.pushed .deallocIntf p)).ctrlData⟩ := rfl

/-- An interface that is not freed stays as it is. -/
lemma destroyInterface_intfMem_of_ne {q : Ptr} (h : q ≠ env.slabFreeApi.pushed .deallocIntf p) :
    (c.destroyInterface env p).intfMem q = c.intfMem q := by
  rw [destroyInterface_intfMem, Function.update_of_ne h]

/-- One that is freed keeps the address of its control block. -/
@[simp] lemma destroyInterface_ctrlData (q : Ptr) :
    ((c.destroyInterface env p).intfMem q).ctrlData = (c.intfMem q).ctrlData := by
  rcases eq_or_ne q (env.slabFreeApi.pushed .deallocIntf p) with rfl | h
  · rw [destroyInterface_intfMem, Function.update_self]
  · rw [destroyInterface_intfMem_of_ne env c p h]

/-- A control block that is not freed stays as it is. -/
lemma destroyInterface_ctrlMem_of_ne {m : Ptr}
    (h : m ≠ env.slabFreeApi.pushed .destroyCtrlData (c.intfMem p).ctrlData) :
    (c.destroyInterface env p).ctrlMem m = c.ctrlMem m := by
  rw [destroyInterface, gbInterfaceDealloc, freeCtrlData]
  exact Function.update_of_ne h ..

end destroyInterface

end Core

/-- A field of a node's interface is read. -/
def readIntf (p : Ptr) : FwM cfg GbInterface := do
  liftIo (emit (.intfRead p))
  let c ← getCore
  return c.intfMem p

/-- A socket is closed, if there is one. -/
def closeIfOpen (sock : ℤ) : FwM cfg Unit :=
  if 0 ≤ sock then liftIo (zsockClose sock) else pure ()

/-- `node_destroy_interface` -/
def nodeDestroyInterface (inf : Option Ptr) : FwM cfg Unit :=
  match inf with
  | none => return ()
  | some inf => do
    let ctrlData := (← readIntf inf).ctrlData
    let sock := (← getCore).ctrlMem ctrlData
    closeIfOpen sock
    let id := (← readIntf inf).id
    modifyCore fun c => { c with nodeCache := nodeCacheRemoveById c.nodeCache id }
    modifyCore fun c => c.freeCtrlData env .destroyCtrlData ctrlData
    liftIo (emit (.intfDealloc inf))
    modifyCore fun c => c.gbInterfaceDealloc env inf

/-! ### What destruction does -/

lemma readIntf_ends (p : Ptr) (s : Fw cfg) :
    Ends (readIntf p) s (s.core.intfMem p) ⟨s.core, s.io.logged [.intfRead p]⟩ :=
  (Ends.liftIo (Ends.emit _ _)).bind ((Ends.getCore _).bind (Ends.pure _ _))

/-- The closing of a socket that may not be open. -/
def closeEvents (sock : ℤ) : List Event := if 0 ≤ sock then [.sockClose sock] else []

@[simp] lemma mem_closeEvents {e : Event} {sock : ℤ} :
    e ∈ closeEvents sock ↔ 0 ≤ sock ∧ e = .sockClose sock := by
  rw [closeEvents]
  split_ifs with h <;> simp [h]

lemma closeIfOpen_ends (sock : ℤ) (s : Fw cfg) :
    Ends (closeIfOpen sock) s () ⟨s.core, s.io.logged (closeEvents sock)⟩ := by
  rw [closeIfOpen, closeEvents]
  split_ifs
  · exact Ends.liftIo (Ends.emit _ _)
  · rw [Io.logged_nil]
    exact Ends.pure () s

/-- What `node_destroy_interface` does outside. -/
def destroyEvents (inf : Ptr) (sock : ℤ) : List Event :=
  .intfRead inf :: closeEvents sock ++ [.intfRead inf, .intfDealloc inf]

/-- **`node_destroy_interface`** always comes to its end. -/
theorem nodeDestroyInterface_ends (inf : Ptr) (s : Fw cfg) :
    Ends (nodeDestroyInterface env (some inf)) s () ⟨s.core.destroyInterface env inf,
      s.io.logged (destroyEvents inf (s.core.ctrlMem (s.core.intfMem inf).ctrlData))⟩ := by
  refine (readIntf_ends inf s).bind ((Ends.getCore _).bind ?_)
  refine (closeIfOpen_ends _ _).bind ((readIntf_ends inf _).bind ?_)
  refine (Ends.modifyCore _ _).bind ((Ends.modifyCore _ _).bind ?_)
  refine (Ends.liftIo (Ends.emit _ _)).bind ?_
  simp [Core.destroyInterface, Core.freeCtrlData, destroyEvents]

/-! ### What creation does -/

/-- The nodes of the tables: the cache, the interface slab and its blocks, the
id counter, and the routing table. -/
structure SameNodes (c c' : Core cfg) : Prop where
  nodeApMap : c'.nodeApMap = c.nodeApMap
  nodeCache : c'.nodeCache = c.nodeCache
  intfSlab : c'.intfSlab = c.intfSlab
  intfMem : c'.intfMem = c.intfMem
  interfaceIdCounter : c'.interfaceIdCounter = c.interfaceIdCounter

/-- The id the next interface gets. -/
def Core.nextId (c : Core cfg) : U8 := BitVec.ofNat 8 c.interfaceIdCounter

/-- The id counter once it has given that id. -/
def Core.nextCounter (c : Core cfg) : ℕ :=
  if c.interfaceIdCounter = 0xff then INTERFACE_ID_START else c.interfaceIdCounter + 1

/-- The counter stays within the ids of nodes. -/
lemma Core.nextCounter_bounds {c : Core cfg} (h₁ : INTERFACE_ID_START ≤ c.interfaceIdCounter)
    (h₂ : c.interfaceIdCounter ≤ 0xff) :
    INTERFACE_ID_START ≤ c.nextCounter ∧ c.nextCounter ≤ 0xff := by
  rw [nextCounter]
  split_ifs with hmax
  · exact ⟨le_rfl, by decide⟩
  · exact ⟨by omega, by omega⟩

lemma Core.start_le_nextId {c : Core cfg} (h₁ : INTERFACE_ID_START ≤ c.interfaceIdCounter)
    (h₂ : c.interfaceIdCounter ≤ 0xff) : INTERFACE_ID_START ≤ c.nextId.toNat := by
  rw [nextId, BitVec.toNat_ofNat, Nat.mod_eq_of_lt (by omega)]
  exact h₁

/-- An interface block is handed out and gets the next id. -/
structure HandsOut (c c' : Core cfg) (inf ctrlData : Ptr) : Prop where
  nodeApMap : c'.nodeApMap = c.nodeApMap
  freeList : c.intfSlab.freeList = inf :: c'.intfSlab.freeList
  intfMem : c'.intfMem = Function.update c.intfMem inf ⟨c.nextId, ctrlData⟩
  interfaceIdCounter : c'.interfaceIdCounter = c.nextCounter

section create

variable {c : Core cfg} {ctrlData inf : Ptr} {rest slots : List Ptr} (addr : BitVec 128)

/-- The tables once the first block of either slab has been made an interface. -/
def Core.madeInterface (c : Core cfg) (ctrlData inf : Ptr) (rest slots : List Ptr) : Core cfg :=
  { c with
    ctrlSlab := ⟨rest, c.ctrlSlab.numUsed + 1⟩
    ctrlMem := Function.update c.ctrlMem ctrlData (-1)
    intfSlab := ⟨slots, c.intfSlab.numUsed + 1⟩
    intfMem := Function.update c.intfMem inf ⟨c.nextId, ctrlData⟩
    interfaceIdCounter := c.nextCounter }

/-- Without a control block nothing happens. -/
lemma nodeCreateInterface_noCtrl (hctrl : c.ctrlSlab.freeList = []) :
    c.nodeCreateInterface env addr = (none, c) := by
  rw [Core.nodeCreateInterface, kMemSlabAlloc, hctrl]

/-- Without an interface block the control block is freed. -/
lemma nodeCreateInterface_noIntf (hctrl : c.ctrlSlab.freeList = ctrlData :: rest)
    (hintf : c.intfSlab.freeList = []) : c.nodeCreateInterface env addr =
      (none, (c.takeCtrlData ctrlData ⟨rest, c.ctrlSlab.numUsed + 1⟩).freeCtrlData env
        .createCtrlData ctrlData) := by
  rw [Core.nodeCreateInterface, kMemSlabAlloc, hctrl]
  dsimp only
  rw [Core.gbInterfaceAlloc, kMemSlabAlloc, Core.takeCtrlData, hintf]

/-- With both, and no room in the cache, only the control block is. -/
lemma nodeCreateInterface_full (hctrl : c.ctrlSlab.freeList = ctrlData :: rest)
    (hintf : c.intfSlab.freeList = inf :: slots)
    (hfull : cfg.maxGreybusNodes ≤ c.nodeCache.length) :
    c.nodeCreateInterface env addr =
      (none, (c.madeInterface ctrlData inf rest slots).freeCtrlData env .createCtrlData
        ctrlData) := by
  rw [Core.nodeCreateInterface, kMemSlabAlloc, hctrl]
  dsimp only
  rw [Core.gbInterfaceAlloc, kMemSlabAlloc, Core.takeCtrlData, hintf]
  dsimp only
  rw [Core.newInterfaceId, Core.nodeCacheAdd, if_pos hfull]
  rfl

/-- With both and room, the interface gets an entry. -/
lemma nodeCreateInterface_made (hctrl : c.ctrlSlab.freeList = ctrlData :: rest)
    (hintf : c.intfSlab.freeList = inf :: slots)
    (hroom : c.nodeCache.length < cfg.maxGreybusNodes) :
    c.nodeCreateInterface env addr = (some inf, { c.madeInterface ctrlData inf rest slots with
      nodeCache := c.nodeCache ++ [⟨-1, c.nextId, addr, inf⟩] }) := by
  rw [Core.nodeCreateInterface, kMemSlabAlloc, hctrl]
  dsimp only
  rw [Core.gbInterfaceAlloc, kMemSlabAlloc, Core.takeCtrlData, hintf]
  dsimp only
  rw [Core.newInterfaceId, Core.nodeCacheAdd, if_neg (not_le.mpr hroom)]
  dsimp only
  rw [Function.update_self]
  rfl

end create

/-- `node_create_interface` takes no interface block, or takes one and makes a
cache entry for it, unless the cache is full. -/
lemma nodeCreateInterface_spec (c : Core cfg) (addr : BitVec 128) :
    (c.nodeCreateInterface env addr).1 = none ∧ SameNodes c (c.nodeCreateInterface env addr).2 ∨
      c.ctrlSlab.freeList ≠ [] ∧ ∃ inf ctrlData,
        HandsOut c (c.nodeCreateInterface env addr).2 inf ctrlData ∧
          ((c.nodeCreateInterface env addr).1 = none ∧ cfg.maxGreybusNodes ≤ c.nodeCache.length ∧
              (c.nodeCreateInterface env addr).2.nodeCache = c.nodeCache ∨
            (c.nodeCreateInterface env addr).1 = some inf ∧
              c.nodeCache.length < cfg.maxGreybusNodes ∧
              (c.nodeCreateInterface env addr).2.nodeCache =
                c.nodeCache ++ [⟨-1, c.nextId, addr, inf⟩]) := by
  cases hctrl : c.ctrlSlab.freeList with
  | nil =>
      rw [nodeCreateInterface_noCtrl env addr hctrl]
      exact Or.inl ⟨rfl, rfl, rfl, rfl, rfl, rfl⟩
  | cons ctrlData rest =>
      cases hintf : c.intfSlab.freeList with
      | nil =>
          rw [nodeCreateInterface_noIntf env addr hctrl hintf]
          exact Or.inl ⟨rfl, rfl, rfl, rfl, rfl, rfl⟩
      | cons inf slots =>
          refine Or.inr ⟨List.cons_ne_nil _ _, inf, ctrlData, ?_⟩
          by_cases hfull : cfg.maxGreybusNodes ≤ c.nodeCache.length
          · rw [nodeCreateInterface_full env addr hctrl hintf hfull]
            exact ⟨⟨rfl, hintf, rfl, rfl⟩, Or.inl ⟨rfl, hfull, rfl⟩⟩
          · rw [nodeCreateInterface_made env addr hctrl hintf (not_le.mp hfull)]
            exact ⟨⟨rfl, hintf, rfl, rfl⟩, Or.inr ⟨rfl, not_le.mp hfull, rfl⟩⟩

end Cc1352Greybus
