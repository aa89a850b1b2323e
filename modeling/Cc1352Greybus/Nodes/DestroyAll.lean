import Cc1352Greybus.Greybus.Connection
import Cc1352Greybus.Lib.Pool
import Cc1352Greybus.Nodes.Removal

/-!
The end of all nodes.

The loop of `node_destroy_all` counts up while every removal moves the last entry
into the gap at its index, so that the entry moved is passed over. Half of the nodes
survive the loop, and then lose their entries all the same.

* `PoolsInUse`: the blocks in use are those of the cached nodes.
* `nodeDestroyAllLoop_ends`: what the loop leaves.
* `destroysAll_iff`: every node is destroyed exactly when there is at most one.
-/

namespace Cc1352Greybus

open Effects PackedArray

variable {cfg : Config} (env : Env)

/-! ### The cache and the slabs -/

/-- A cache with an id, an interface block and a control block for each node, and no
other block in use. -/
structure PoolsInUse (c : Core cfg) : Prop where
  ids : (c.nodeCache.map NodeItem.id).Nodup
  id_eq : ∀ e ∈ c.nodeCache, (c.intfMem e.inf).id = e.id
  sock_eq : ∀ e ∈ c.nodeCache, c.sockOf e.inf = e.sock
  ctrl : Pool.Conserved (Slab.ofSize cfg.maxGreybusNodes).freeList c.ctrlSlab.freeList
    (c.nodeCache.map fun e => c.ctrlOf e.inf)
  intf : Pool.Conserved (Slab.ofSize cfg.maxGreybusInterfaces).freeList c.intfSlab.freeList
    (c.nodeCache.map NodeItem.inf)
  ctrlUsed : c.ctrlSlab.numUsed = BitVec.ofNat 32 c.nodeCache.length
  intfUsed : c.intfSlab.numUsed = BitVec.ofNat 32 c.nodeCache.length

namespace PoolsInUse

variable {c : Core cfg} {e : NodeItem}

/-- There are no more nodes than control blocks. -/
lemma length_le (h : PoolsInUse c) : c.nodeCache.length ≤ cfg.maxGreybusNodes := by
  have hlen := h.ctrl.length_eq
  rw [List.length_map, Slab.length_ofSize] at hlen
  omega

/-- A removal by a node's id removes its entry. -/
lemma cons_removeById (h : PoolsInUse c) (he : e ∈ c.nodeCache) :
    (e :: nodeCacheRemoveById c.nodeCache (c.intfMem e.inf).id).Perm c.nodeCache := by
  rw [h.id_eq e he]
  exact Cc1352Greybus.cons_removeById h.ids he

/-- **A removal** of a cached node takes its entry and both of its blocks, and
nothing of any other. -/
theorem destroy (hapi : env.slabFreeApi = .pointee) (h : PoolsInUse c) (he : e ∈ c.nodeCache) :
    PoolsInUse (c.destroyInterface env e.inf) := by
  have hpush : ∀ v p, env.slabFreeApi.pushed v p = p := Env.pushed_eq hapi
  have hperm : (e :: (c.destroyInterface env e.inf).nodeCache).Perm c.nodeCache :=
    h.cons_removeById he
  have hmem : ∀ e' ∈ (c.destroyInterface env e.inf).nodeCache, e' ∈ c.nodeCache := fun e' he' =>
    hperm.mem_iff.mp (List.mem_cons_of_mem _ he')
  have hintf := h.intf.takeBack (hperm.map NodeItem.inf).symm
  -- what is left points to other interface blocks than the one freed
  have hne : ∀ e' ∈ (c.destroyInterface env e.inf).nodeCache, e'.inf ≠ e.inf :=
    fun e' he' heq => hintf.notMem_used List.mem_cons_self (List.mem_map.mpr ⟨e', he', heq⟩)
  have hids : ((c.destroyInterface env e.inf).nodeCache.map NodeItem.id).Nodup :=
    (List.nodup_cons.mp ((hperm.map NodeItem.id).nodup_iff.mpr h.ids)).2
  refine ⟨hids, fun e' he' => ?_, destroyInterface_sock_eq hapi hperm h.ctrl h.sock_eq,
    destroyInterface_conserved hapi hperm h.ctrl, ?_, numUsed_sub_one hperm h.ctrlUsed,
    numUsed_sub_one hperm h.intfUsed⟩
  · rw [Core.destroyInterface_intfMem_of_ne env c e.inf (by rw [hpush]; exact hne e' he')]
    exact h.id_eq e' (hmem e' he')
  · rw [Core.destroyInterface_intfFree, hpush]
    exact hintf

end PoolsInUse

/-! ### The loop -/

/-- **The loop** of `node_destroy_all`, at index `i`, destroys every other node that
is left. -/
theorem nodeDestroyAllLoop_ends (hapi : env.slabFreeApi = .pointee) (rounds i : ℕ) {s : Fw cfg}
    (h : PoolsInUse s.core) (hi : i ≤ s.core.nodeCache.length + 1)
    (hrounds : s.core.nodeCache.length ≤ i + rounds) :
    ∃ s', Ends (nodeDestroyAllLoop env rounds i) s () s' ∧ PoolsInUse s'.core ∧
      s'.core.nodeCache.length = (s.core.nodeCache.length + i) / 2 := by
  induction rounds generalizing i s with
  | zero => exact ⟨s, Ends.pure () s, h, by omega⟩
  | succ rounds ih =>
      cases he : s.core.nodeCache[i]? with
      | none =>
          have hle := List.getElem?_eq_none_iff.mp he
          refine ⟨s, ?_, h, by omega⟩
          refine (Ends.getCore s).bind ?_
          rw [he]
          exact Ends.pure () s
      | some e =>
          -- the removal shortens the cache as the index moves on
          have hlt := (List.getElem?_eq_some_iff.mp he).1
          have hmem := List.mem_of_getElem? he
          have hlen := (h.cons_removeById hmem).length_eq
          rw [List.length_cons] at hlen
          have hcache : (s.core.destroyInterface env e.inf).nodeCache.length + 1 =
              s.core.nodeCache.length := hlen
          obtain ⟨s', hend, hpools, hleft⟩ := ih (i + 1)
            (s := ⟨s.core.destroyInterface env e.inf, _⟩) (h.destroy env hapi hmem)
            (by dsimp only; omega) (by dsimp only; omega)
          refine ⟨s', ?_, hpools, ?_⟩
          · refine (Ends.getCore s).bind ?_
            rw [he]
            exact (nodeDestroyInterface_ends env e.inf s).bind hend
          · rw [hleft]
            dsimp only
            omega

/-! ### All of it -/

/-- Every cached node is destroyed, once, and its socket closed if it has one; no
entry is left, and no block in use. -/
structure DestroysAll (s s' : Fw cfg) : Prop where
  once : ∀ e ∈ s.core.nodeCache, (newEvents s s').count (.intfDealloc e.inf) = 1
  closed : ∀ e ∈ s.core.nodeCache, 0 ≤ e.sock → .sockClose e.sock ∈ newEvents s s'
  nodeCache : s'.core.nodeCache = []
  ctrlUsed : s'.core.ctrlSlab.numUsed = 0
  intfUsed : s'.core.intfSlab.numUsed = 0

/-- **`node_destroy_all`** gets past its assertion only if the loop has left no
node, and then clears a cache that is empty. -/
lemma nodeDestroyAll_ends (hapi : env.slabFreeApi = .pointee) {s s' : Fw cfg}
    (h : PoolsInUse s.core) :
    Ends (nodeDestroyAll env) s () s' ↔ s.core.nodeCache.length ≤ 1 ∧ ∃ s₁,
      Ends (nodeDestroyAllLoop env s.core.nodeCache.length 0) s () s₁ ∧ PoolsInUse s₁.core ∧
        s₁.core.nodeCache = [] ∧ s' = ⟨{ s₁.core with nodeCache := [] }, s₁.io⟩ := by
  obtain ⟨s₁, hloop, hpools, hleft⟩ := nodeDestroyAllLoop_ends env hapi s.core.nodeCache.length 0 h
    (Nat.zero_le _) (by omega)
  have hle := hpools.length_le
  have hnodes : cfg.maxGreybusNodes ≤ 2 ^ 16 := cfg.nodes_le
  rw [nodeDestroyAll, (Ends.getCore s).bind_iff, hloop.bind_iff, (Ends.modifyCore _ s₁).bind_iff,
    (Ends.getCore _).bind_iff]
  -- the slab counts the nodes that are left
  have hused : s₁.core.ctrlSlab.numUsed = 0 ↔ s.core.nodeCache.length ≤ 1 := by
    rw [hpools.ctrlUsed, ← BitVec.toNat_inj, BitVec.toNat_ofNat, Nat.mod_eq_of_lt (by omega), hleft,
      show (0 : BitVec 32).toNat = 0 from rfl]
    omega
  have hempty : s.core.nodeCache.length ≤ 1 → s₁.core.nodeCache = [] := fun hone =>
    List.length_eq_zero_iff.mp (by omega)
  dsimp only
  rw [ends_ite, ends_throw, not_not, hused, and_false, false_or, ends_pure]
  constructor
  · rintro ⟨hone, -, rfl⟩
    exact ⟨hone, s₁, hloop, hpools, hempty hone, rfl⟩
  · rintro ⟨hone, s₂, hloop₂, -, -, rfl⟩
    obtain ⟨-, rfl⟩ := hloop.unique hloop₂
    exact ⟨hone, rfl, rfl⟩

/-- The loop over a cache of one node. -/
lemma nodeDestroyAllLoop_one {s : Fw cfg} {e : NodeItem} (he : s.core.nodeCache = [e]) :
    Ends (nodeDestroyAllLoop env 1 0) s () ⟨s.core.destroyInterface env e.inf,
      s.io.logged (destroyEvents e.inf (s.core.sockOf e.inf))⟩ := by
  refine (Ends.getCore s).bind ?_
  rw [he]
  exact (nodeDestroyInterface_ends env e.inf s).bind (Ends.pure _ _)

/-- **The end of all nodes.** Every node is destroyed and nothing is left in use,
exactly when there is at most one node. -/
theorem destroysAll_iff (hapi : env.slabFreeApi = .pointee) {s : Fw cfg} (h : PoolsInUse s.core) :
    (∃ s', Ends (nodeDestroyAll env) s () s' ∧ DestroysAll s s') ↔
      s.core.nodeCache.length ≤ 1 := by
  constructor
  -- it ends past the assertion only
  · rintro ⟨s', hend, -⟩
    exact ((nodeDestroyAll_ends env hapi h).mp hend).1
  · intro hone
    obtain ⟨s₁, hloop, hpools, hleft⟩ := nodeDestroyAllLoop_ends env hapi s.core.nodeCache.length
      0 h (Nat.zero_le _) (by omega)
    have hnil : s₁.core.nodeCache = [] := List.length_eq_zero_iff.mp (by omega)
    refine ⟨_, (nodeDestroyAll_ends env hapi h).mpr ⟨hone, s₁, hloop, hpools, hnil, rfl⟩, ?_⟩
    have hnone : (BitVec.ofNat 32 s₁.core.nodeCache.length) = 0 := by rw [hnil]; rfl
    have hctrl := hpools.ctrlUsed.trans hnone
    have hintf := hpools.intfUsed.trans hnone
    cases hcache : s.core.nodeCache with
    | nil => exact ⟨by simp [hcache], by simp [hcache], rfl, hctrl, hintf⟩
    | cons e rest =>
        obtain rfl : rest = [] := by
          rw [hcache, List.length_cons] at hone
          exact List.length_eq_zero_iff.mp (by omega)
        rw [hcache] at hloop
        obtain ⟨-, rfl⟩ := (nodeDestroyAllLoop_one env hcache).unique hloop
        have hnew : ∀ c : Core cfg, newEvents s ⟨c, s.io.logged
            (destroyEvents e.inf (s.core.sockOf e.inf))⟩ =
              destroyEvents e.inf (s.core.sockOf e.inf) := by
          intro c
          simp [newEvents]
        rw [h.sock_eq e (by rw [hcache]; exact List.mem_singleton_self e)] at hnew hctrl hintf ⊢
        refine ⟨?_, ?_, rfl, hctrl, hintf⟩
        · rw [hcache, hnew]
          intro e' he'
          obtain rfl := List.mem_singleton.mp he'
          rw [destroyEvents, closeEvents]
          split_ifs <;> simp
        · rw [hcache, hnew]
          intro e' he' hsock
          obtain rfl := List.mem_singleton.mp he'
          simp [destroyEvents, hsock]

/-- A node, with a socket. -/
def oneOpen : Fw .prjConf := final (nodeIntfCreateConnection calmEnv (.block 0) 0) withNode

lemma poolsInUse_oneOpen : PoolsInUse oneOpen.core :=
  ⟨by decide +kernel, by decide +kernel, by decide +kernel, ⟨by decide +kernel, by decide +kernel⟩,
    ⟨by decide +kernel, by decide +kernel⟩, by decide +kernel, by decide +kernel⟩

/-- Whether its end is the end of all. -/
theorem destroysAll_iff_one :
    (∃ s', Ends (nodeDestroyAll calmEnv) oneOpen () s' ∧ DestroysAll oneOpen s') ↔
      oneOpen.core.nodeCache.length ≤ 1 :=
  destroysAll_iff calmEnv rfl poolsInUse_oneOpen

/-- Of two nodes, one survives the loop. -/
theorem node_survives :
    PoolsInUse withTwoNodes.core ∧
      ¬ ∃ s', Ends (nodeDestroyAll calmEnv) withTwoNodes () s' ∧ DestroysAll withTwoNodes s' := by
  refine ⟨⟨by decide +kernel, by decide +kernel, by decide +kernel,
    ⟨by decide +kernel, by decide +kernel⟩, ⟨by decide +kernel, by decide +kernel⟩,
    by decide +kernel, by decide +kernel⟩, ?_⟩
  rintro ⟨s', hend, -⟩
  have hstops : result (nodeDestroyAll calmEnv) withTwoNodes = none := by decide +kernel
  rw [result, hend] at hstops
  cases hstops

end Cc1352Greybus
