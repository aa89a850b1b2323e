import Cc1352Greybus.Nodes.Removal
import Cc1352Greybus.Greybus.Connection

/-!
How often a node is removed when a write to it fails.

`gb_message_send` reports the node it finds the socket at, and `node_inf_write`
reports the node it was given. So a node is removed once only where the first
report is of another, with which it shares nothing.

* `RemovedOnce`: one request, one close, one block back to each slab, and no use
  of the interface behind that.
* `removedOnce_iff`: when it is so; `not_removedOnce_of_cached`: never for a node
  that is cached with its socket.
* `removed_twice`: a node whose first byte is refused.
-/

namespace Cc1352Greybus

open Effects PackedArray

variable {cfg : Config} (env : Env)

/-- No field of the interface is read once it has been freed. -/
def NotUsedAfterFree (q : Ptr) (tr : List Event) : Prop :=
  tr.Pairwise fun a b => a = .intfDealloc q → b ≠ .intfRead q

/-- The node at `q` has been removed exactly once. -/
structure RemovedOnce (s s' : Fw cfg) (q : Ptr) : Prop where
  told : (newEvents s s').countP (isModuleRemoved (s.core.intfMem q).id) = 1
  closed : (newEvents s s').count (.sockClose (s.core.sockOf q)) = 1
  ctrlFreed : s'.core.ctrlSlab.freeList.count (s.core.ctrlOf q) =
    s.core.ctrlSlab.freeList.count (s.core.ctrlOf q) + 1
  intfFreed : s'.core.intfSlab.freeList.count q = s.core.intfSlab.freeList.count q + 1
  notUsed : NotUsedAfterFree q (newEvents s s')

/-- The slabs get back the blocks of the node at `q`, not other addresses. -/
def FreesBlocks (c : Core cfg) (q : Ptr) : Prop :=
  env.slabFreeApi.pushed .destroyCtrlData (c.ctrlOf q) = c.ctrlOf q ∧
    env.slabFreeApi.pushed .deallocIntf q = q

/-- A removal of the node at `p` has nothing to do with the one at `q`: another
interface, another id, another control block, another socket. -/
structure Apart (c : Core cfg) (p q : Ptr) : Prop where
  inf : p ≠ q
  intfBlock : env.slabFreeApi.pushed .deallocIntf p ≠ q
  id : (c.intfMem p).id ≠ (c.intfMem q).id
  ctrlBlock : env.slabFreeApi.pushed .destroyCtrlData (c.ctrlOf p) ≠ c.ctrlOf q
  sock : c.sockOf p ≠ c.sockOf q

/-- Freeing what was freed frees the same address. -/
lemma SlabFreeApi.pushed_pushed (api : SlabFreeApi) (v : StackVar) (p : Ptr) :
    api.pushed v (api.pushed v p) = api.pushed v p := by
  cases api with
  | pointee => rfl
  | argument => rfl

/-- Two frees of which exactly one frees the block `m`, where the second is of
`m`: the first frees another block. -/
lemma count_two_frees {api : SlabFreeApi} {v : StackVar} {p m : Ptr} {l : List Ptr} :
    (api.pushed v m :: api.pushed v p :: l).count m = l.count m + 1 ↔
      api.pushed v m = m ∧ api.pushed v p ≠ m := by
  have hself : api.pushed v p = m → api.pushed v m = m := by
    rintro rfl
    exact api.pushed_pushed v p
  rw [List.count_cons, List.count_cons]
  by_cases h₁ : api.pushed v m = m
  · by_cases h₂ : api.pushed v p = m <;> simp [h₁, h₂]
  · have h₂ : api.pushed v p ≠ m := fun h => h₁ (hself h)
    simp [h₁, h₂]

/-- Reads before a free, and none behind it. -/
lemma notUsedAfterFree_append {q : Ptr} {pre post : List Event} (hpre : .intfDealloc q ∉ pre)
    (hpost : .intfRead q ∉ post) : NotUsedAfterFree q (pre ++ post) := by
  refine List.pairwise_append.mpr ⟨?_, ?_, ?_⟩
  · refine List.pairwise_of_forall_mem_list fun a ha b _ hab => ?_
    exact absurd (hab ▸ ha) hpre
  · refine List.pairwise_of_forall_mem_list fun a _ b hb _ hb' => ?_
    exact hpost (hb' ▸ hb)
  · intro a ha b _ hab
    exact absurd (hab ▸ ha) hpre

section FailedWrite

variable {env} {s s' : Fw cfg} {q : Ptr} {sent tr₁ tr₂ : List Event} {c₁ : Core cfg} {blk : ℕ}

lemma SendsOn.count_sockClose {sock : ℤ} (h : SendsOn sock sent) (sock' : ℤ) :
    sent.count (.sockClose sock') = 0 := by
  refine List.count_eq_zero.mpr fun he => ?_
  obtain ⟨bs, hbs⟩ := h _ he
  cases hbs

/-- Sockets are closed by the two reports only. -/
lemma FailedWrite.count_sockClose (h : FailedWrite env s s' q sent c₁ tr₁ tr₂ blk) (sock : ℤ) :
    (newEvents s s').count (.sockClose sock) =
      tr₁.count (.sockClose sock) + tr₂.count (.sockClose sock) := by
  rw [h.events]
  simp [h.sends.count_sockClose]

/-- The node's interface is freed last, unless the first report frees it. -/
lemma FailedWrite.notUsedAfterFree (h : FailedWrite env s s' q sent c₁ tr₁ tr₂ blk)
    (hfirst : .intfDealloc q ∉ tr₁) : NotUsedAfterFree q (newEvents s s') := by
  obtain ⟨pre, hfree, -, htr₂⟩ := h.second.eq_append
  rw [h.events, htr₂, ← List.append_assoc, List.append_assoc _ _ [Event.dealloc blk]]
  refine notUsedAfterFree_append ?_ (by split_ifs <;> simp)
  have hsent : .intfDealloc q ∉ sent := by
    intro he
    obtain ⟨bs, hbs⟩ := h.sends _ he
    cases hbs
  simp [hsent, hfirst, hfree]

/-- A socket found nowhere: the node is reported once, by `node_inf_write`. -/
lemma FailedWrite.removedOnce_of_none (h : FailedWrite env s s' q sent c₁ tr₁ tr₂ blk)
    (hup : s.core.svcLink.isSome) (hsock : 0 ≤ s.core.sockOf q)
    (hfind : nodeCacheFindBySock s.core.nodeCache (s.core.sockOf q) = none) :
    RemovedOnce s s' q ↔ FreesBlocks env s.core q := by
  have hfirst := h.first
  simp only [ReportsBySock, hfind] at hfirst
  obtain ⟨rfl, rfl⟩ := hfirst
  have hcore : s'.core = s.core.destroyInterface env q := by
    rw [h.core, Core.afterReport, if_pos hup]
  have hcount : ∀ {api : SlabFreeApi} {v : StackVar} {m : Ptr} {l : List Ptr},
      (api.pushed v m :: l).count m = l.count m + 1 ↔ api.pushed v m = m := by
    intro api v m l
    rw [List.count_cons]
    by_cases hm : api.pushed v m = m <;> simp [hm]
  constructor
  · intro hr
    have hctrl := hr.ctrlFreed
    have hintf := hr.intfFreed
    rw [hcore] at hctrl hintf
    exact ⟨hcount.mp hctrl, hcount.mp hintf⟩
  · rintro ⟨hctrl, hintf⟩
    refine ⟨?_, ?_, ?_, ?_, h.notUsedAfterFree List.not_mem_nil⟩
    · rw [h.countP_isModuleRemoved, h.second.countP_isModuleRemoved, if_pos ⟨hup, rfl⟩,
        List.countP_nil]
    · rw [h.count_sockClose, h.second.count_sockClose hsock, if_pos ⟨hup, rfl⟩, List.count_nil]
    · rw [hcore]
      exact hcount.mpr hctrl
    · rw [hcore]
      exact hcount.mpr hintf

/-- A socket found at an entry: its node is reported, and then the node at `q`. -/
lemma FailedWrite.removedOnce_of_some (h : FailedWrite env s s' q sent c₁ tr₁ tr₂ blk)
    (hup : s.core.svcLink.isSome) (hsock : 0 ≤ s.core.sockOf q) {i : ℕ} {e : NodeItem}
    (hfind : nodeCacheFindBySock s.core.nodeCache (s.core.sockOf q) = some (i, e)) :
    RemovedOnce s s' q ↔ FreesBlocks env s.core q ∧ Apart env s.core e.inf q := by
  have hfirst := h.first
  simp only [ReportsBySock, hfind] at hfirst
  obtain ⟨hc₁, hrep⟩ := hfirst
  rw [Core.afterReport, if_pos hup] at hc₁
  have hup₁ : c₁.svcLink.isSome := by rw [hc₁]; exact hup
  have hcore : s'.core = (s.core.destroyInterface env e.inf).destroyInterface env q := by
    rw [h.core, Core.afterReport, if_pos hup₁, hc₁]
  -- the second report frees the same control block as the first would
  have hctrlFree : s'.core.ctrlSlab.freeList =
      env.slabFreeApi.pushed .destroyCtrlData (s.core.ctrlOf q) ::
        env.slabFreeApi.pushed .destroyCtrlData
          (s.core.ctrlOf e.inf) :: s.core.ctrlSlab.freeList := by
    rw [hcore]
    simp [Core.ctrlOf]
  have hintfFree : s'.core.intfSlab.freeList = env.slabFreeApi.pushed .deallocIntf q ::
      env.slabFreeApi.pushed .deallocIntf e.inf :: s.core.intfSlab.freeList := by
    rw [hcore]
    simp
  have htold := h.countP_isModuleRemoved (s.core.intfMem q).id
  rw [hrep.countP_isModuleRemoved, h.second.countP_isModuleRemoved] at htold
  have hclosed := h.count_sockClose (s.core.sockOf q)
  rw [hrep.count_sockClose hsock, h.second.count_sockClose hsock] at hclosed
  -- what is left of the node after a first report that frees none of its blocks
  have hkeep : env.slabFreeApi.pushed .deallocIntf e.inf ≠ q →
      env.slabFreeApi.pushed .destroyCtrlData (s.core.ctrlOf e.inf) ≠ s.core.ctrlOf q →
      (c₁.intfMem q).id = (s.core.intfMem q).id ∧ c₁.sockOf q = s.core.sockOf q := by
    intro hintf hctrl
    have hmem : c₁.intfMem q = s.core.intfMem q := by
      rw [hc₁, Core.destroyInterface_intfMem_of_ne _ _ _ hintf.symm]
    refine ⟨by rw [hmem], ?_⟩
    rw [Core.sockOf, Core.ctrlOf, hmem, hc₁]
    exact Core.destroyInterface_ctrlMem_of_ne _ _ _ hctrl.symm
  constructor
  · intro hr
    have hctrl := hr.ctrlFreed
    have hintf := hr.intfFreed
    rw [hctrlFree, count_two_frees] at hctrl
    rw [hintfFree, count_two_frees] at hintf
    obtain ⟨hid, hs⟩ := hkeep hintf.2 hctrl.2
    rw [hr.told, if_pos (c := c₁.svcLink.isSome ∧ _) ⟨hup₁, hid⟩] at htold
    rw [hr.closed, if_pos (c := c₁.svcLink.isSome ∧ _) ⟨hup₁, hs⟩] at hclosed
    refine ⟨⟨hctrl.1, hintf.1⟩, ?_, hintf.2, ?_, hctrl.2, ?_⟩
    · rintro rfl
      exact hintf.2 hintf.1
    · intro hid
      rw [if_pos ⟨hup, hid⟩] at htold
      omega
    · intro hs
      rw [if_pos ⟨hup, hs⟩] at hclosed
      omega
  · rintro ⟨⟨hctrl, hintf⟩, hapart⟩
    obtain ⟨hid, hs⟩ := hkeep hapart.intfBlock hapart.ctrlBlock
    rw [if_neg fun h => hapart.id h.2, if_pos ⟨hup₁, hid⟩] at htold
    rw [if_neg fun h => hapart.sock h.2, if_pos ⟨hup₁, hs⟩] at hclosed
    refine ⟨htold, hclosed, ?_, ?_, h.notUsedAfterFree ?_⟩
    · rw [hctrlFree, count_two_frees]
      exact ⟨hctrl, hapart.ctrlBlock⟩
    · rw [hintfFree, count_two_frees]
      exact ⟨hintf, hapart.intfBlock⟩
    · rw [hrep.mem_intfDealloc]
      exact fun hq => hapart.inf hq.2.symm

end FailedWrite

/-- **A node is removed exactly once** where the slabs get its blocks back, and
the first entry of the cache with its socket, if there is one, is apart from it. -/
theorem removedOnce_iff {q : Ptr} {msg : GbMessage} {cport : U16} {s s' : Fw cfg} {ret : ℤ}
    (hup : s.core.svcLink.isSome) (hsock : 0 ≤ s.core.sockOf q)
    (h : Ends (nodeInfWrite env q msg cport) s ret s') (hret : ret < 0) :
    RemovedOnce s s' q ↔ FreesBlocks env s.core q ∧
      ∀ i e, nodeCacheFindBySock s.core.nodeCache (s.core.sockOf q) = some (i, e) →
        Apart env s.core e.inf q := by
  obtain ⟨sent, c₁, tr₁, tr₂, hfail⟩ := nodeInfWrite_fails env h hret
  cases hfind : nodeCacheFindBySock s.core.nodeCache (s.core.sockOf q) with
  | none =>
      rw [hfail.removedOnce_of_none hup hsock hfind]
      simp
  | some r =>
      rw [hfail.removedOnce_of_some hup hsock hfind]
      refine and_congr_right fun _ => ⟨?_, fun h => h r.1 r.2 rfl⟩
      intro hapart i e hr
      cases hr
      exact hapart

/-- A node that the cache has, with the sockets of the control blocks in it, is
never removed exactly once: the first report is of a node with its socket. -/
theorem not_removedOnce_of_cached {q : Ptr} {msg : GbMessage} {cport : U16} {s s' : Fw cfg}
    {ret : ℤ}
    (hup : s.core.svcLink.isSome) (hsock : 0 ≤ s.core.sockOf q)
    (hsocks : ∀ e ∈ s.core.nodeCache, e.sock = s.core.sockOf e.inf) (hq : Cached s.core q)
    (h : Ends (nodeInfWrite env q msg cport) s ret s') (hret : ret < 0) :
    ¬ RemovedOnce s s' q := by
  obtain ⟨sent, c₁, tr₁, tr₂, hfail⟩ := nodeInfWrite_fails env h hret
  obtain ⟨e, he, rfl⟩ := hq
  cases hfind : nodeCacheFindBySock s.core.nodeCache (s.core.sockOf e.inf) with
  | none =>
      have hmiss := findEntry_eq_none_iff.mp hfind e he
      simp [hsocks e he] at hmiss
  | some r =>
      rw [hfail.removedOnce_of_some hup hsock hfind]
      rintro ⟨-, hapart⟩
      obtain ⟨hmem, hsock'⟩ := findEntry_some hfind
      refine hapart.sock ?_
      rw [← hsocks r.2 hmem]
      simpa using hsock'

/-! ### The first byte refused -/

/-- The node connected with its cport 0, on AP cport 1. -/
def connected : Fw .prjConf := final (connectionCreate calmEnv AP_INF_ID 1 3 0) withNode

/-- A message for the node, refused. -/
def refused : Fw .prjConf := final (nodeInfWrite deafEnv (.block 0) bareRequest 0) connected

lemma refused_ends :
    Ends (nodeInfWrite deafEnv (.block 0) bareRequest 0) connected (-1) refused :=
  ends_final (by decide +kernel)

/-- How often the refused message removes its node. -/
theorem removedOnce_iff_refused :
    RemovedOnce connected refused (.block 0) ↔ FreesBlocks deafEnv connected.core (.block 0) ∧
      ∀ i e, nodeCacheFindBySock connected.core.nodeCache (connected.core.sockOf (.block 0)) =
        some (i, e) → Apart deafEnv connected.core e.inf (.block 0) :=
  removedOnce_iff deafEnv (by decide +kernel) (by decide +kernel) refused_ends (by decide)

/-- It is removed twice: its interface is on the free list twice. -/
theorem removed_twice :
    (connected.core.nodeApMap ⟨1, by decide⟩).nodeIntf = some (.node (.block 0)) ∧
      connected.core.svcLink.isSome ∧ 0 ≤ connected.core.sockOf (.block 0) ∧
      Ends (nodeInfWrite deafEnv (.block 0) bareRequest 0) connected (-1) refused ∧
      ¬ RemovedOnce connected refused (.block 0) := by
  refine ⟨by decide +kernel, by decide +kernel, by decide +kernel, refused_ends, fun h => ?_⟩
  exact absurd h.intfFreed (by decide +kernel)

end Cc1352Greybus
