import Cc1352Greybus.Greybus.Main
import Cc1352Greybus.Nodes.Removal

/-!
What a creation leaves when it fails.

`node_create_interface` takes a control block, an interface block and a cache
entry, in this order, and has one label to give back what it took. The label frees
the control block only.

* `allOrNothing_iff`: a creation adds all three or none, exactly unless both slabs
  have a block and the cache has no room.
* `interface_leaked`: a node whose write failed is freed twice, so one more block is handed
  out than the cache has room for.
-/

namespace Cc1352Greybus

open Effects

variable {cfg : Config} (env : Env)

/-! ### All or nothing -/

/-- As many blocks of either slab are used as before, and the cache is the same. -/
structure AddsNothing (c c' : Core cfg) : Prop where
  ctrlUsed : c'.ctrlSlab.numUsed = c.ctrlSlab.numUsed
  intfUsed : c'.intfSlab.numUsed = c.intfSlab.numUsed
  nodeCache : c'.nodeCache = c.nodeCache

/-- One free block of either slab is now used, for an interface that points to the
control block and has an entry of its own. -/
structure AddsNode (c c' : Core cfg) (addr : BitVec 128) (inf ctrlData : Ptr) : Prop where
  ctrlFree : c.ctrlSlab.freeList = ctrlData :: c'.ctrlSlab.freeList
  ctrlUsed : c'.ctrlSlab.numUsed = c.ctrlSlab.numUsed + 1
  intfFree : c.intfSlab.freeList = inf :: c'.intfSlab.freeList
  intfUsed : c'.intfSlab.numUsed = c.intfSlab.numUsed + 1
  nodeCache : c'.nodeCache =
    c.nodeCache ++ [⟨c'.ctrlMem ctrlData, (c'.intfMem inf).id, addr, inf⟩]
  tied : (c'.intfMem inf).ctrlData = ctrlData
  closed : c'.ctrlMem ctrlData = -1

/-- A creation that returns no interface adds nothing, and one that returns an
interface adds a node. -/
def AllOrNothing (c : Core cfg) (addr : BitVec 128) : Prop :=
  ((c.nodeCreateInterface env addr).1 = none → AddsNothing c (c.nodeCreateInterface env addr).2) ∧
    ∀ inf, (c.nodeCreateInterface env addr).1 = some inf →
      ∃ ctrlData, AddsNode c (c.nodeCreateInterface env addr).2 addr inf ctrlData

/-- Both slabs have a block, and the cache has no room. -/
def OnlyCacheFull (c : Core cfg) : Prop :=
  c.ctrlSlab.freeList ≠ [] ∧ c.intfSlab.freeList ≠ [] ∧ cfg.maxGreybusNodes ≤ c.nodeCache.length

/-- **All or nothing.** A creation adds a node or nothing, exactly unless the cache
is all that is full. -/
theorem allOrNothing_iff (c : Core cfg) (addr : BitVec 128) :
    AllOrNothing env c addr ↔ ¬ OnlyCacheFull c := by
  rw [AllOrNothing, OnlyCacheFull]
  cases hctrl : c.ctrlSlab.freeList with
  | nil =>
      rw [nodeCreateInterface_noCtrl env addr hctrl]
      exact iff_of_true ⟨fun _ => ⟨rfl, rfl, rfl⟩, fun _ h => by cases h⟩ fun h => h.1 rfl
  | cons ctrlData rest =>
      cases hintf : c.intfSlab.freeList with
      | nil =>
          rw [nodeCreateInterface_noIntf env addr hctrl hintf]
          exact iff_of_true ⟨fun _ => ⟨BitVec.add_sub_cancel _ _, rfl, rfl⟩, fun _ h => by cases h⟩
            fun h => h.2.1 rfl
      | cons inf slots =>
          have hne : ctrlData :: rest ≠ [] ∧ inf :: slots ≠ [] :=
            ⟨List.cons_ne_nil _ _, List.cons_ne_nil _ _⟩
          by_cases hfull : cfg.maxGreybusNodes ≤ c.nodeCache.length
          · -- the interface block is not given back
            rw [nodeCreateInterface_full env addr hctrl hintf hfull]
            refine iff_of_false (fun h => ?_) fun h => h ⟨hne.1, hne.2, hfull⟩
            have hused : c.intfSlab.numUsed + 1 = c.intfSlab.numUsed := (h.1 rfl).intfUsed
            exact absurd hused (by bv_omega)
          · rw [nodeCreateInterface_made env addr hctrl hintf (not_le.mp hfull)]
            refine iff_of_true ⟨fun h => (by cases h), ?_⟩ fun h => hfull h.2.2
            intro inf' hinf'
            obtain rfl : inf = inf' := Option.some.inj hinf'
            have hsock : (c.madeInterface ctrlData inf rest slots).ctrlMem ctrlData = -1 :=
              Function.update_self ..
            have hmade : (c.madeInterface ctrlData inf rest slots).intfMem inf =
                ⟨c.nextId, ctrlData⟩ := Function.update_self ..
            refine ⟨ctrlData, hctrl, rfl, hintf, rfl, ?_, ?_, hsock⟩
            · dsimp only
              rw [hsock, hmade]
            · dsimp only
              rw [hmade]

/-! ### Blocks freed twice -/

/-- A build for two nodes and two interfaces. -/
def twoSlots : Config where
  hdlcMaxBlockSize := 256
  maxGreybusNodes := 2
  maxGreybusInterfaces := 2
  four_le_block := Config.prjConf.four_le_block
  block_lt := Config.prjConf.block_lt
  nodes_le := by decide

/-- The SVC started, and two nodes found, the first of which is connected on AP cport 1. -/
def slotsConnected : Fw twoSlots :=
  final (do
    discard (controlProcessFrame calmEnv [CONTROL_SVC_START] 1)
    nodeFilter calmEnv [1, 2]
    discard (connectionCreate calmEnv AP_INF_ID 1 3 0)) (.boot twoSlots)

/-- A write to the first fails, which frees its blocks twice. -/
def slotsFreedTwice : Fw twoSlots :=
  final (nodeInfWrite deafEnv (.block 0) bareRequest 0) slotsConnected

/-- One more node: the cache is full. -/
def slotsFull : Fw twoSlots := final (nodeFilter calmEnv [3]) slotsFreedTwice

/-- A further one is handed the same interface block, refused, and does not give it back. -/
theorem interface_leaked :
    slotsFull.core.nodeCache.length = 2 ∧
      (slotsFull.core.nodeCreateInterface calmEnv 4).1 = none ∧
      ¬ AllOrNothing calmEnv slotsFull.core 4 := by
  have hnone : (slotsFull.core.nodeCreateInterface calmEnv 4).1 = none := by decide +kernel
  refine ⟨by decide +kernel, hnone, fun h => ?_⟩
  exact absurd (h.1 hnone).intfUsed (by decide +kernel)

end Cc1352Greybus
