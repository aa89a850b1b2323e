import Cc1352Greybus.Lib.Run
import Cc1352Greybus.Greybus.Connection

/-!
Whether interface ids identify the cached nodes.

Ids come from a counter of eight bits that starts over at 3 and never looks at
the ids in use. The tables are tied together (`NodesTied`) as long as no node is
created under the id of another.

* `nodesTied_create`, `nodesTied_filter`, `nodesTied_destroy`: one operation.
* `ids_identify`: a run whose creations find a fresh id and a fresh block, and
  whose removals are of cached nodes.
* `ids_identify_of_pointee`: where a slab gets its own blocks back, the id is
  all that has to be fresh.
* `ids_collide`: a node that outlives 252 others.
-/

namespace Cc1352Greybus

open Effects PackedArray

variable {cfg : Config} (env : Env)

/-- Ids identify the cached nodes: they differ, none is reserved, and lookup and
removal by a node's id reach that node. -/
structure IdsIdentify (c : Core cfg) : Prop where
  distinct : (c.nodeCache.map NodeItem.id).Nodup
  reserved : ∀ e ∈ c.nodeCache, e.id ≠ SVC_INF_ID ∧ e.id ≠ AP_INF_ID ∧ e.id ≠ LOCAL_NODE_ID
  found : ∀ e ∈ c.nodeCache, gbInterfaceFindById c (c.intfMem e.inf).id = some (.node e.inf)
  removed : ∀ e ∈ c.nodeCache, (e :: (c.destroyInterface env e.inf).nodeCache).Perm c.nodeCache

/-- The cache and the interfaces it points to agree on the ids, and share none. -/
structure NodesTied (c : Core cfg) : Prop where
  ids : (c.nodeCache.map NodeItem.id).Nodup
  infs : (c.nodeCache.map NodeItem.inf).Nodup
  id_eq : ∀ e ∈ c.nodeCache, (c.intfMem e.inf).id = e.id
  issued : ∀ e ∈ c.nodeCache, INTERFACE_ID_START ≤ e.id.toNat
  start_le : INTERFACE_ID_START ≤ c.interfaceIdCounter
  le_max : c.interfaceIdCounter ≤ 0xff

namespace NodesTied

variable {c : Core cfg}

lemma boot (cfg : Config) : NodesTied (Core.boot cfg) :=
  ⟨List.nodup_nil, List.nodup_nil, by simp [Core.boot], by simp [Core.boot], le_rfl,
    show 3 ≤ 0xff by decide⟩

/-- An id leads to one entry. -/
lemma eq_of_id (h : NodesTied c) {e e' : NodeItem} (he : e ∈ c.nodeCache)
    (he' : e' ∈ c.nodeCache) (hid : e.id = e'.id) : e = e' :=
  List.inj_on_of_nodup_map h.ids he he' hid

lemma eq_of_inf (h : NodesTied c) {e e' : NodeItem} (he : e ∈ c.nodeCache)
    (he' : e' ∈ c.nodeCache) (hinf : e.inf = e'.inf) : e = e' :=
  List.inj_on_of_nodup_map h.infs he he' hinf

/-- A scan for a node's id finds its entry. -/
lemma findById (h : NodesTied c) {e : NodeItem} (he : e ∈ c.nodeCache) :
    ∃ i, nodeCacheFindById c.nodeCache e.id = some (i, e) :=
  findEntry_of_unique he (by simp) fun b hb hid => h.eq_of_id hb he (by simpa using hid)

/-- A removal by a node's id removes its entry. -/
lemma cons_removeById (h : NodesTied c) {e : NodeItem} (he : e ∈ c.nodeCache) :
    (e :: nodeCacheRemoveById c.nodeCache (c.intfMem e.inf).id).Perm c.nodeCache := by
  rw [h.id_eq e he]
  exact Cc1352Greybus.cons_removeById h.ids he

lemma not_reserved (h : NodesTied c) {e : NodeItem} (he : e ∈ c.nodeCache) :
    e.id ≠ SVC_INF_ID ∧ e.id ≠ AP_INF_ID ∧ e.id ≠ LOCAL_NODE_ID := by
  have hle := h.issued e he
  refine ⟨?_, ?_, ?_⟩
  all_goals
    intro heq
    rw [heq] at hle
    exact absurd hle (by decide)

/-- Tied tables are identified by their ids. -/
theorem identify (h : NodesTied c) : IdsIdentify env c := by
  refine ⟨h.ids, fun e he => h.not_reserved he, fun e he => ?_, fun e he => h.cons_removeById he⟩
  obtain ⟨hsvc, -, hlocal⟩ := h.not_reserved he
  obtain ⟨i, hi⟩ := h.findById he
  rw [h.id_eq e he, gbInterfaceFindById, if_neg hsvc, if_neg hlocal, nodeFindById, hi]
  rfl

end NodesTied

/-! ### One operation -/

/-- A creation finds a block no cached node uses and, if it gets as far as the
cache, an id no cached node has. -/
def FindsFresh (c : Core cfg) : Prop :=
  c.ctrlSlab.freeList ≠ [] → ∀ inf ∈ c.intfSlab.freeList.head?,
    (∀ e ∈ c.nodeCache, e.inf ≠ inf) ∧
      (c.nodeCache.length < cfg.maxGreybusNodes → ∀ e ∈ c.nodeCache, e.id ≠ c.nextId)

instance (c : Core cfg) : Decidable (FindsFresh c) :=
  inferInstanceAs (Decidable (_ → ∀ _ ∈ c.intfSlab.freeList.head?, _))

/-- A creation takes blocks of the slabs, and finds them and its id fresh. -/
def MayCreateNode (c : Core cfg) : Prop := c.HandsOutBlocks ∧ FindsFresh c

instance (c : Core cfg) : Decidable (MayCreateNode c) := inferInstanceAs (Decidable (_ ∧ _))

/-- A removal is of a cached node, and the slab gets no other node's block. -/
def MayDestroyNode (c : Core cfg) (inf : Ptr) : Prop :=
  Cached c inf ∧ ∀ e ∈ c.nodeCache, e.inf = env.slabFreeApi.pushed .deallocIntf inf → e.inf = inf

instance (c : Core cfg) (inf : Ptr) : Decidable (MayDestroyNode env c inf) :=
  inferInstanceAs (Decidable (_ ∧ ∀ e ∈ c.nodeCache, _ → _))

lemma nodesTied_create {c : Core cfg} (addr : BitVec 128) (h : NodesTied c)
    (hmay : FindsFresh c) : NodesTied (c.nodeCreateInterface env addr).2 := by
  rcases nodeCreateInterface_spec env c addr with
    ⟨-, hsame⟩ | ⟨hctrl, inf, ctrlData, hout, hcache⟩
  · obtain ⟨-, hcache, -, hmem, hcount⟩ := hsame
    exact ⟨hcache ▸ h.ids, hcache ▸ h.infs, by rw [hcache, hmem]; exact h.id_eq,
      hcache ▸ h.issued, hcount ▸ h.start_le, hcount ▸ h.le_max⟩
  · set c' := (c.nodeCreateInterface env addr).2
    obtain ⟨hfresh, hid⟩ := hmay hctrl inf (by rw [hout.freeList]; rfl)
    -- no entry points to the block that is written
    have hkept : ∀ e ∈ c.nodeCache, (c'.intfMem e.inf).id = e.id := by
      intro e he
      rw [hout.intfMem, Function.update_of_ne (hfresh e he)]
      exact h.id_eq e he
    have hbounds := Core.nextCounter_bounds h.start_le h.le_max
    rw [← hout.interfaceIdCounter] at hbounds
    rcases hcache with ⟨-, -, hcache⟩ | ⟨-, hroom, hcache⟩
    · exact ⟨hcache ▸ h.ids, hcache ▸ h.infs, hcache ▸ hkept, hcache ▸ h.issued, hbounds.1,
        hbounds.2⟩
    · have hnew : ∀ P : NodeItem → Prop, (∀ e ∈ c'.nodeCache, P e) ↔
          (∀ e ∈ c.nodeCache, P e) ∧ P ⟨-1, c.nextId, addr, inf⟩ := by
        intro P
        rw [hcache]
        simp [or_imp, forall_and]
      refine ⟨?_, ?_, ?_, ?_, hbounds.1, hbounds.2⟩
      · rw [hcache, List.map_append, List.nodup_append]
        refine ⟨h.ids, by simp, ?_⟩
        rintro _ hmem _ hnext rfl
        obtain ⟨e, he, rfl⟩ := List.mem_map.mp hmem
        exact hid hroom e he (by simpa using hnext)
      · rw [hcache, List.map_append, List.nodup_append]
        refine ⟨h.infs, by simp, ?_⟩
        rintro _ hmem _ hnext rfl
        obtain ⟨e, he, rfl⟩ := List.mem_map.mp hmem
        exact hfresh e he (by simpa using hnext)
      · rw [hnew]
        refine ⟨hkept, ?_⟩
        rw [hout.intfMem, Function.update_self]
      · rw [hnew]
        exact ⟨h.issued, Core.start_le_nextId h.start_le h.le_max⟩

lemma nodesTied_destroy {c : Core cfg} {inf : Ptr} (h : NodesTied c)
    (hmay : MayDestroyNode env c inf) : NodesTied (c.destroyInterface env inf) := by
  obtain ⟨⟨e₀, he₀, rfl⟩, hpush⟩ := hmay
  have hperm := h.cons_removeById he₀
  have hsub : ∀ e ∈ nodeCacheRemoveById c.nodeCache (c.intfMem e₀.inf).id,
      e ∈ c.nodeCache ∧ e ≠ e₀ := by
    intro e he
    refine ⟨hperm.mem_iff.mp (List.mem_cons_of_mem _ he), ?_⟩
    rintro rfl
    have hnodup := (hperm.map NodeItem.id).nodup_iff.mpr h.ids
    rw [List.map_cons, List.nodup_cons] at hnodup
    exact hnodup.1 (List.mem_map_of_mem he)
  refine ⟨?_, ?_, fun e he => ?_, fun e he => h.issued e (hsub e he).1, h.start_le, h.le_max⟩
  · exact (List.nodup_cons.mp ((hperm.map NodeItem.id).nodup_iff.mpr h.ids)).2
  · exact (List.nodup_cons.mp ((hperm.map NodeItem.inf).nodup_iff.mpr h.infs)).2
  · obtain ⟨hmem, hne⟩ := hsub e he
    have hkept : e.inf ≠ env.slabFreeApi.pushed .deallocIntf e₀.inf :=
      fun heq => hne (h.eq_of_inf hmem he₀ (hpush e hmem heq))
    rw [Core.destroyInterface_intfMem_of_ne _ _ _ hkept]
    exact h.id_eq e hmem

/-! ### Runs -/

/-- A discovery or a removal. -/
inductive NodeOp
  | filter (active : List (BitVec 128))
  | create (addr : BitVec 128)
  | destroy (inf : Option Ptr)

/-- One operation, carried out. -/
def nodeStep (s : Fw cfg) (op : NodeOp) (s' : Fw cfg) : Prop :=
  match op with
  | .filter active => Ends (nodeFilter env active) s () s'
  | .create addr => s' = ⟨(s.core.nodeCreateInterface env addr).2, s.io⟩
  | .destroy inf => Ends (nodeDestroyInterface env inf) s () s'

/-- An operation meets a condition on creations and one on removals. -/
def NodeOp.Meets (P : Core cfg → Prop) (Q : Core cfg → Ptr → Prop) (c : Core cfg) : NodeOp → Prop
  | .filter active => EachCreation env P c active
  | .create _ => P c
  | .destroy none => True
  | .destroy (some inf) => Q c inf

/-- What an operation does to the tables. -/
def NodeOp.onCore (c : Core cfg) : NodeOp → Core cfg
  | .filter active => active.foldl (fun c addr => c.filterOne env addr) c
  | .create addr => (c.nodeCreateInterface env addr).2
  | .destroy none => c
  | .destroy (some inf) => c.destroyInterface env inf

lemma nodeStep_core {s s' : Fw cfg} {op : NodeOp} (h : nodeStep env s op s') :
    s'.core = op.onCore env s.core := by
  cases op with
  | filter active => exact nodeFilter_core env h
  | create addr =>
      obtain rfl : s' = _ := h
      rfl
  | destroy inf =>
      cases inf with
      | none => rw [← (ends_pure.mp h).2, NodeOp.onCore]
      | some inf =>
          obtain ⟨-, rfl⟩ := (nodeDestroyInterface_ends env inf s).unique h
          rfl

/-- What creations and removals preserve under their conditions, operations do. -/
lemma onCore_preserves {I P : Core cfg → Prop} {Q : Core cfg → Ptr → Prop}
    (hcreate : ∀ c addr, I c → P c → I (c.nodeCreateInterface env addr).2)
    (hdestroy : ∀ c inf, I c → Q c inf → I (c.destroyInterface env inf)) {c : Core cfg}
    {op : NodeOp} (h : I c) (hop : op.Meets env P Q c) : I (op.onCore env c) := by
  cases op with
  | filter active => exact filter_preserves env (fun c addr hc _ => hcreate c addr hc) h hop
  | create addr => exact hcreate _ addr h hop
  | destroy inf =>
      cases inf with
      | none => exact h
      | some inf => exact hdestroy _ inf h hop

/-- **Ids identify nodes** in every state of a run from the start in which every
creation takes blocks of the slabs and finds a fresh id and a fresh block, and
every removal is of a cached node and gives the slab no other node's block. -/
theorem ids_identify {s s' : Fw cfg} {l : List (RunStep (Fw cfg) NodeOp)}
    (hboot : s.core = .boot cfg) (hrun : Run (nodeStep env) s l s')
    (hmay : ∀ t ∈ l, t.label.Meets env MayCreateNode (MayDestroyNode env) t.pre.core) :
    ∀ t ∈ l, IdsIdentify env t.post.core := by
  have h0 : NodesTied s.core := hboot ▸ NodesTied.boot cfg
  have hall := Run.invariant (I := fun s : Fw cfg => NodesTied s.core)
    (G := fun s op _ => op.Meets env MayCreateNode (MayDestroyNode env) s.core) h0
    (fun _ _ _ h hstep hmay => nodeStep_core env hstep ▸ onCore_preserves env (I := NodesTied)
      (fun _ addr h hmay => nodesTied_create env addr h hmay.2)
      (fun _ _ h => nodesTied_destroy env h) h hmay) hrun hmay
  exact fun t ht => (hall.2 t ht).identify env

/-- Two nodes. -/
def twoNodes : Core .prjConf :=
  (((Core.boot .prjConf).nodeCreateInterface calmEnv 1).2.nodeCreateInterface calmEnv 2).2

/-- The first of them goes, and another comes in its blocks. -/
theorem ids_identify_third :
    IdsIdentify calmEnv
      ((twoNodes.destroyInterface calmEnv (.block 0)).nodeCreateInterface calmEnv 3).2 := by
  have h₁ : nodeStep calmEnv (.boot .prjConf) (.create 1)
      ⟨((Core.boot .prjConf).nodeCreateInterface calmEnv 1).2, .boot⟩ := rfl
  have h₂ : nodeStep calmEnv ⟨((Core.boot .prjConf).nodeCreateInterface calmEnv 1).2, .boot⟩
      (.create 2) ⟨twoNodes, .boot⟩ := rfl
  obtain ⟨io, h₃⟩ : ∃ io, nodeStep calmEnv ⟨twoNodes, .boot⟩ (.destroy (some (.block 0)))
      ⟨twoNodes.destroyInterface calmEnv (.block 0), io⟩ := ⟨_, nodeDestroyInterface_ends _ _ _⟩
  have h₄ : nodeStep calmEnv ⟨twoNodes.destroyInterface calmEnv (.block 0), io⟩ (.create 3)
      ⟨((twoNodes.destroyInterface calmEnv (.block 0)).nodeCreateInterface calmEnv 3).2, io⟩ := rfl
  refine ids_identify calmEnv rfl (((Run.single h₁).snoc h₂).snoc h₃ |>.snoc h₄) (fun t ht => ?_) _
    (List.mem_append_right _ (List.mem_singleton_self _))
  simp only [List.mem_append, List.mem_singleton] at ht
  rcases ht with ((rfl | rfl) | rfl) | rfl
  · show MayCreateNode (Core.boot .prjConf)
    decide
  · show MayCreateNode ((Core.boot .prjConf).nodeCreateInterface calmEnv 1).2
    decide
  · show MayDestroyNode calmEnv twoNodes (.block 0)
    decide
  · show MayCreateNode (twoNodes.destroyInterface calmEnv (.block 0))
    decide

/-! ### A counter that starts over -/

/-- A creation or a removal always comes to its end. -/
lemma exists_nodeStep (s : Fw cfg) {op : NodeOp} (h : ∀ active, op ≠ .filter active) :
    ∃ io, nodeStep env s op ⟨op.onCore env s.core, io⟩ := by
  cases op with
  | filter active => exact absurd rfl (h active)
  | create addr => exact ⟨s.io, rfl⟩
  | destroy inf =>
      cases inf with
      | none => exact ⟨s.io, Ends.pure () s⟩
      | some inf => exact ⟨_, nodeDestroyInterface_ends env inf s⟩

/-- So there is a run through any number of them. -/
lemma exists_run (s : Fw cfg) (ops : List NodeOp)
    (h : ∀ op ∈ ops, ∀ active, op ≠ .filter active) :
    ∃ l io, Run (nodeStep env) s l ⟨ops.foldl (fun c op => op.onCore env c) s.core, io⟩ := by
  induction ops using List.reverseRecOn with
  | nil => exact ⟨[], s.io, .nil⟩
  | append_singleton ops op ih =>
      obtain ⟨l, io, hrun⟩ := ih fun op' hop' => h op' (List.mem_append_left _ hop')
      obtain ⟨io', hstep⟩ := exists_nodeStep env
        ⟨ops.foldl (fun c op => op.onCore env c) s.core, io⟩ (h op (by simp))
      rw [List.foldl_append, List.foldl_cons, List.foldl_nil]
      exact ⟨_, io', hrun.snoc hstep⟩

/-- One node stays; 252 come and go, each in the second block. -/
def comeAndGo : List NodeOp :=
  .create 1 :: (List.replicate 252 [NodeOp.create 2, .destroy (some (.block 1))]).flatten

/-- The node that comes next gets the id of the one that stayed. -/
theorem ids_collide :
    ¬ ∀ (s s' : Fw .prjConf) (l : List (RunStep (Fw .prjConf) NodeOp)),
      s.core = .boot .prjConf → Run (nodeStep calmEnv) s l s' →
        ∀ t ∈ l, IdsIdentify calmEnv t.post.core := by
  intro h
  have hops : ∀ op ∈ comeAndGo, ∀ active, op ≠ .filter active := by
    intro op hop active heq
    rw [comeAndGo, List.mem_cons, List.mem_flatten] at hop
    rcases hop with hop | ⟨pair, hpair, hop⟩
    · exact absurd (hop.symm.trans heq) (by simp)
    · rw [List.eq_of_mem_replicate hpair] at hop
      rcases List.mem_pair.mp hop with hop | hop
      · exact absurd (hop.symm.trans heq) (by simp)
      · exact absurd (hop.symm.trans heq) (by simp)
  obtain ⟨l, io, hrun⟩ := exists_run calmEnv (.boot .prjConf) comeAndGo hops
  generalize hc : List.foldl _ (Fw.boot Config.prjConf).core comeAndGo = c at hrun
  have hids : (c.nodeCreateInterface calmEnv 3).2.nodeCache.map NodeItem.id = [3, 3] := by
    rw [← hc]
    decide +kernel
  have hstep : nodeStep calmEnv ⟨c, io⟩ (.create 3) ⟨(c.nodeCreateInterface calmEnv 3).2, io⟩ := rfl
  have hlast := h _ _ _ rfl (hrun.snoc hstep) _
      (List.mem_append_right _ (List.mem_singleton_self _))
  have hnodup : ((c.nodeCreateInterface calmEnv 3).2.nodeCache.map NodeItem.id).Nodup :=
    hlast.distinct
  rw [hids] at hnodup
  exact absurd hnodup (by decide)

/-! ### Slabs that get their own blocks back -/

/-- No free block is a cached node's, and none is free twice. -/
structure BlocksTied (c : Core cfg) : Prop where
  nodup : c.intfSlab.freeList.Nodup
  used : ∀ e ∈ c.nodeCache, e.inf ∉ c.intfSlab.freeList

/-- The next id, if it is given out, is no cached node's. -/
def FreshId (c : Core cfg) : Prop :=
  c.ctrlSlab.freeList ≠ [] → c.intfSlab.freeList ≠ [] →
    c.nodeCache.length < cfg.maxGreybusNodes → ∀ e ∈ c.nodeCache, e.id ≠ c.nextId

lemma blocksTied_boot (cfg : Config) : BlocksTied (Core.boot cfg) :=
  ⟨Slab.nodup_ofSize _, by simp [Core.boot]⟩

lemma findsFresh_of_freshId {c : Core cfg} (h : BlocksTied c) (hid : FreshId c) :
    FindsFresh c := by
  intro hctrl inf hinf
  have hmem : inf ∈ c.intfSlab.freeList := List.mem_of_mem_head? hinf
  refine ⟨fun e he heq => h.used e he (heq ▸ hmem), fun hroom => ?_⟩
  exact hid hctrl (List.ne_nil_of_mem hmem) hroom

lemma blocksTied_create {c : Core cfg} (addr : BitVec 128) (h : BlocksTied c) :
    BlocksTied (c.nodeCreateInterface env addr).2 := by
  rcases nodeCreateInterface_spec env c addr with ⟨-, hsame⟩ | ⟨-, inf, ctrlData, hout, hcache⟩
  · exact ⟨hsame.intfSlab ▸ h.nodup, by rw [hsame.nodeCache, hsame.intfSlab]; exact h.used⟩
  · have hfree := hout.freeList
    have hnodup := h.nodup
    rw [hfree, List.nodup_cons] at hnodup
    have hused : ∀ e ∈ c.nodeCache,
        e.inf ∉ (c.nodeCreateInterface env addr).2.intfSlab.freeList := fun e he hmem =>
      h.used e he (hfree ▸ List.mem_cons_of_mem _ hmem)
    refine ⟨hnodup.2, ?_⟩
    rcases hcache with ⟨-, -, hcache⟩ | ⟨-, -, hcache⟩
    · rw [hcache]
      exact hused
    · intro e he
      rw [hcache, List.mem_append, List.mem_singleton] at he
      rcases he with he | rfl
      · exact hused e he
      · exact hnodup.1

lemma blocksTied_destroy (hapi : env.slabFreeApi = .pointee) {c : Core cfg} {inf : Ptr}
    (hn : NodesTied c) (h : BlocksTied c) (hinf : Cached c inf) :
    BlocksTied (c.destroyInterface env inf) := by
  obtain ⟨e₀, he₀, rfl⟩ := hinf
  have hperm := hn.cons_removeById he₀
  have hfree : (c.destroyInterface env e₀.inf).intfSlab.freeList =
      e₀.inf :: c.intfSlab.freeList := by
    rw [Core.destroyInterface_intfFree, Env.pushed_eq hapi]
  have hinfs := (hperm.map NodeItem.inf).nodup_iff.mpr hn.infs
  rw [List.map_cons, List.nodup_cons] at hinfs
  refine ⟨?_, fun e he => ?_⟩
  · rw [hfree, List.nodup_cons]
    exact ⟨h.used e₀ he₀, h.nodup⟩
  · have he : e ∈ nodeCacheRemoveById c.nodeCache (c.intfMem e₀.inf).id := he
    rw [hfree, List.mem_cons, not_or]
    refine ⟨fun heq => hinfs.1 (List.mem_map.mpr ⟨e, he, heq⟩), h.used e ?_⟩
    exact hperm.mem_iff.mp (List.mem_cons_of_mem _ he)

/-- No variable's address is free, nor does a cached node have one for a block. -/
structure NoVariables (c : Core cfg) : Prop where
  ctrlFree : ∀ p ∈ c.ctrlSlab.freeList, p.IsBlock
  intfFree : ∀ p ∈ c.intfSlab.freeList, p.IsBlock
  cached : ∀ e ∈ c.nodeCache, e.inf.IsBlock ∧ (c.intfMem e.inf).ctrlData.IsBlock

/-- So blocks are what is handed out. -/
lemma NoVariables.handsOutBlocks {c : Core cfg} (h : NoVariables c) : c.HandsOutBlocks :=
  fun ctrlData hctrl => ⟨h.ctrlFree ctrlData (List.mem_of_mem_head? hctrl),
    fun inf hinf => h.intfFree inf (List.mem_of_mem_head? hinf)⟩

lemma noVariables_boot (cfg : Config) : NoVariables (Core.boot cfg) := by
  have hblocks : ∀ n, ∀ p ∈ (Slab.ofSize n).freeList, p.IsBlock := by
    intro n p hp
    obtain ⟨i, -, rfl⟩ := List.mem_map.mp hp
    trivial
  exact ⟨hblocks _, hblocks _, by simp [Core.boot]⟩

/-- A creation takes blocks, or gives back the block it has taken. -/
lemma noVariables_create (hapi : env.slabFreeApi = .pointee) {c : Core cfg} (addr : BitVec 128)
    (h : NoVariables c) (hb : BlocksTied c) :
    NoVariables (c.nodeCreateInterface env addr).2 := by
  cases hctrl : c.ctrlSlab.freeList with
  | nil =>
      rw [nodeCreateInterface_noCtrl env addr hctrl]
      exact h
  | cons ctrlData rest =>
      have hc := h.ctrlFree
      rw [hctrl, List.forall_mem_cons] at hc
      have hback : ∀ p ∈ ctrlData :: rest, p.IsBlock := List.forall_mem_cons.mpr hc
      cases hintf : c.intfSlab.freeList with
      | nil =>
          rw [nodeCreateInterface_noIntf env addr hctrl hintf, Core.freeCtrlData,
            Env.pushed_eq hapi]
          exact ⟨hback, h.intfFree, h.cached⟩
      | cons inf slots =>
          have hi := h.intfFree
          rw [hintf, List.forall_mem_cons] at hi
          -- the block that is written is no cached node's
          have hkept : ∀ e ∈ c.nodeCache, e.inf.IsBlock ∧
              (Function.update c.intfMem inf ⟨c.nextId, ctrlData⟩ e.inf).ctrlData.IsBlock := by
            intro e he
            have hne : e.inf ≠ inf := fun heq =>
              hb.used e he (by rw [heq, hintf]; exact List.mem_cons_self)
            rw [Function.update_of_ne hne]
            exact h.cached e he
          by_cases hfull : cfg.maxGreybusNodes ≤ c.nodeCache.length
          · rw [nodeCreateInterface_full env addr hctrl hintf hfull, Core.freeCtrlData,
              Env.pushed_eq hapi]
            exact ⟨hback, hi.2, hkept⟩
          · rw [nodeCreateInterface_made env addr hctrl hintf (not_le.mp hfull)]
            refine ⟨hc.2, hi.2, fun e he => ?_⟩
            rcases List.mem_append.mp he with he | he
            · exact hkept e he
            · obtain rfl := List.mem_singleton.mp he
              refine ⟨hi.1, ?_⟩
              show (Function.update c.intfMem inf ⟨c.nextId, ctrlData⟩ inf).ctrlData.IsBlock
              rw [Function.update_self]
              exact hc.1

/-- A removal gives a cached node's blocks back. -/
lemma noVariables_destroy (hapi : env.slabFreeApi = .pointee) {c : Core cfg} {inf : Ptr}
    (h : NoVariables c) (hinf : Cached c inf) : NoVariables (c.destroyInterface env inf) := by
  obtain ⟨e₀, he₀, rfl⟩ := hinf
  obtain ⟨hinf, hctrl⟩ := h.cached e₀ he₀
  refine ⟨?_, ?_, fun e he => ?_⟩
  · rw [Core.destroyInterface_ctrlFree, Env.pushed_eq hapi]
    exact List.forall_mem_cons.mpr ⟨hctrl, h.ctrlFree⟩
  · rw [Core.destroyInterface_intfFree, Env.pushed_eq hapi]
    exact List.forall_mem_cons.mpr ⟨hinf, h.intfFree⟩
  · rw [Core.destroyInterface_ctrlData]
    exact h.cached e (mem_of_mem_removeById he)

/-- The tables where a slab gets its own blocks back. -/
structure OwnTied (c : Core cfg) : Prop where
  nodes : NodesTied c
  blocks : BlocksTied c
  noVariables : NoVariables c

lemma OwnTied.mayCreateNode {c : Core cfg} (h : OwnTied c) (hid : FreshId c) : MayCreateNode c :=
  ⟨h.noVariables.handsOutBlocks, findsFresh_of_freshId h.blocks hid⟩

lemma OwnTied.mayDestroyNode (hapi : env.slabFreeApi = .pointee) {c : Core cfg} {inf : Ptr}
    (hinf : Cached c inf) : MayDestroyNode env c inf := by
  refine ⟨hinf, fun e _ heq => ?_⟩
  rwa [Env.pushed_eq hapi] at heq

/-- **Where a slab gets its own blocks back**, the conditions on the blocks hold by
themselves: ids identify nodes in every state of a run whose creations find a fresh id
and whose removals are of cached nodes. -/
theorem ids_identify_of_pointee (hapi : env.slabFreeApi = .pointee) {s s' : Fw cfg}
    {l : List (RunStep (Fw cfg) NodeOp)} (hboot : s.core = .boot cfg)
    (hrun : Run (nodeStep env) s l s')
    (hmay : ∀ t ∈ l, t.label.Meets env FreshId Cached t.pre.core) :
    ∀ t ∈ l, t.label.Meets env MayCreateNode (MayDestroyNode env) t.pre.core ∧
      IdsIdentify env t.post.core := by
  -- what is kept: ids and blocks tied to entries, and no variable among the free blocks
  have h0 : OwnTied s.core := hboot ▸ ⟨.boot cfg, blocksTied_boot cfg, noVariables_boot cfg⟩
  have hcreate : ∀ (c : Core cfg) addr, OwnTied c → FreshId c →
      OwnTied (c.nodeCreateInterface env addr).2 := fun c addr h hid =>
    ⟨nodesTied_create env addr h.nodes (h.mayCreateNode hid).2, blocksTied_create env addr h.blocks,
      noVariables_create env hapi addr h.noVariables h.blocks⟩
  have hdestroy : ∀ (c : Core cfg) inf, OwnTied c → Cached c inf →
      OwnTied (c.destroyInterface env inf) := fun c inf h hinf =>
    ⟨nodesTied_destroy env h.nodes (OwnTied.mayDestroyNode env hapi hinf),
      blocksTied_destroy env hapi h.nodes h.blocks hinf,
      noVariables_destroy env hapi h.noVariables hinf⟩
  -- a state that keeps it meets the conditions on the blocks
  have hmeets : ∀ (c : Core cfg) (op : NodeOp), OwnTied c → op.Meets env FreshId Cached c →
      op.Meets env MayCreateNode (MayDestroyNode env) c := by
    intro c op h hop
    cases op with
    | filter active =>
        exact EachCreation.of_preserves env (fun c addr h _ hid => hcreate c addr h hid)
          (fun c h hid => h.mayCreateNode hid) h hop
    | create addr => exact h.mayCreateNode hop
    | destroy inf =>
        cases inf with
        | none => trivial
        | some inf => exact OwnTied.mayDestroyNode env hapi hop
  have hkeep : ∀ (s : Fw cfg) (op : NodeOp) (s' : Fw cfg), OwnTied s.core →
      nodeStep env s op s' → op.Meets env FreshId Cached s.core → OwnTied s'.core :=
    fun _ _ _ h hstep hmay => nodeStep_core env hstep ▸ onCore_preserves env
      (I := OwnTied) hcreate hdestroy h hmay
  intro t ht
  have hpre : OwnTied t.pre.core := Run.invariant_pre (I := fun s : Fw cfg => OwnTied s.core)
    (G := fun s op _ => op.Meets env FreshId Cached s.core) h0 hkeep hrun hmay t ht
  have hpost : OwnTied t.post.core := hkeep _ _ _ hpre (hrun.steps t ht) (hmay t ht)
  exact ⟨hmeets _ _ hpre (hmay t ht), hpost.nodes.identify env⟩

end Cc1352Greybus
