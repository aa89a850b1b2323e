import Cc1352Greybus.Nodes.Removal
import Cc1352Greybus.Greybus.Connection

/-!
What a failed write to one node does to the others.

The node that failed is told by its socket, and every node that has none yet has
the same. A removal goes by the id in an interface, and the second removal reads
it from an interface that may have been freed.

* `OthersKept`: no other node is reported, freed or dropped from the cache.
* `othersKept_iff`: when it is so.
* `other_node_removed`: two nodes without a socket.
-/

namespace Cc1352Greybus

open Effects PackedArray

variable {cfg : Config} (env : Env)

/-- The entries of the nodes other than the one at `q`. -/
def others (cache : List NodeItem) (q : Ptr) : List NodeItem := cache.filter fun e => e.inf ≠ q

/-- Only the node at `q` is touched. -/
structure OthersKept (s s' : Fw cfg) (q : Ptr) : Prop where
  notTold : ∀ e ∈ others s.core.nodeCache q, (newEvents s s').countP (isModuleRemoved e.id) = 0
  notDestroyed : ∀ p, p ≠ q → .intfDealloc p ∉ newEvents s s'
  kept : (others s'.core.nodeCache q).Perm (others s.core.nodeCache q)

/-- No other node has the id. -/
def NoOther (c : Core cfg) (q : Ptr) (id : U8) : Prop := ∀ e ∈ others c.nodeCache q, e.id ≠ id

/-- What the id of the node at `q` reads as once its interface has been freed. -/
def Core.idOnceFreed (c : Core cfg) (q : Ptr) : U8 :=
  if env.slabFreeApi.pushed .deallocIntf q = q then (env.link c.intfSlab).setWidth 8
  else (c.intfMem q).id

lemma destroyInterface_id (c : Core cfg) (q : Ptr) :
    ((c.destroyInterface env q).intfMem q).id = c.idOnceFreed env q := by
  rw [Core.idOnceFreed]
  split_ifs with h
  · rw [Core.destroyInterface_intfMem, h, Function.update_self]
  · rw [Core.destroyInterface_intfMem_of_ne _ _ _ (Ne.symm h)]

/-- The failed write to the node at `q` goes no further: no other node has its
id, and if the cache has its socket, then first for that node, and no other node
has the id it has once it has been freed. -/
def GoesNoFurther (c : Core cfg) (q : Ptr) : Prop :=
  NoOther c q (c.intfMem q).id ∧
    ∀ i e, nodeCacheFindBySock c.nodeCache (c.sockOf q) = some (i, e) →
      e.inf = q ∧ NoOther c q (c.idOnceFreed env q)

/-- A removal by an id no other node has keeps the others. -/
lemma others_removeById {cache : List NodeItem} {q : Ptr} {id : U8}
    (h : ∀ e ∈ others cache q, e.id ≠ id) :
    (others (nodeCacheRemoveById cache id) q).Perm (others cache q) := by
  rw [nodeCacheRemoveById]
  cases hfind : nodeCacheFindById cache id with
  | none => exact List.Perm.refl _
  | some r =>
      obtain ⟨hmem, hid⟩ := findEntry_some hfind
      have hq : r.2.inf = q := by
        by_contra hne
        exact h r.2 (List.mem_filter.mpr ⟨hmem, by simpa using hne⟩) (by simpa using hid)
      have hperm := (cons_swapRemove_findEntry hfind).filter fun e : NodeItem => e.inf ≠ q
      rwa [List.filter_cons_of_neg (by simpa using hq)] at hperm

section FailedWrite

variable {env} {s s' : Fw cfg} {q : Ptr} {sent tr₁ tr₂ : List Event} {c₁ : Core cfg} {blk : ℕ}

/-- While the AP is not reached, nothing is removed at all. -/
lemma FailedWrite.othersKept_of_down (h : FailedWrite env s s' q sent c₁ tr₁ tr₂ blk)
    (hdown : ¬ s.core.svcLink.isSome) : OthersKept s s' q := by
  have hfirst : c₁ = s.core ∧ (∀ id, tr₁.countP (isModuleRemoved id) = 0) ∧
      ∀ p, .intfDealloc p ∉ tr₁ := by
    have hfirst := h.first
    rw [ReportsBySock] at hfirst
    cases hfind : nodeCacheFindBySock s.core.nodeCache (s.core.sockOf q) with
    | none =>
        rw [hfind] at hfirst
        obtain ⟨rfl, rfl⟩ := hfirst
        exact ⟨rfl, fun _ => rfl, fun _ => List.not_mem_nil⟩
    | some r =>
        rw [hfind] at hfirst
        obtain ⟨rfl, hrep⟩ := hfirst
        refine ⟨if_neg hdown, fun id => ?_, fun p hp => hdown (hrep.mem_intfDealloc.mp hp).1⟩
        rw [hrep.countP_isModuleRemoved, if_neg fun hup => hdown hup.1]
  obtain ⟨rfl, htold, hfreed⟩ := hfirst
  refine ⟨fun e _ => ?_, fun p _ hp => ?_, ?_⟩
  · rw [h.countP_isModuleRemoved, htold, h.second.countP_isModuleRemoved,
      if_neg fun hup => hdown hup.1]
  · rcases h.mem_intfDealloc.mp hp with hp | hp
    · exact hfreed p hp
    · exact hdown (h.second.mem_intfDealloc.mp hp).1
  · rw [h.core, Core.afterReport, if_neg hdown]

/-- A socket found nowhere: only the node itself is reported. -/
lemma FailedWrite.othersKept_of_none (h : FailedWrite env s s' q sent c₁ tr₁ tr₂ blk)
    (hup : s.core.svcLink.isSome)
    (hfind : nodeCacheFindBySock s.core.nodeCache (s.core.sockOf q) = none) :
    OthersKept s s' q ↔ NoOther s.core q (s.core.intfMem q).id := by
  have hfirst := h.first
  simp only [ReportsBySock, hfind] at hfirst
  obtain ⟨rfl, rfl⟩ := hfirst
  have htold := fun id => h.countP_isModuleRemoved id
  simp only [h.second.countP_isModuleRemoved, hup, true_and, List.countP_nil, zero_add] at htold
  constructor
  · intro hkept e he hid
    have hzero := hkept.notTold e he
    rw [htold, if_pos hid.symm] at hzero
    exact one_ne_zero hzero
  · intro hno
    refine ⟨fun e he => ?_, fun p hp hmem => ?_, ?_⟩
    · rw [htold, if_neg (hno e he).symm]
    · rcases h.mem_intfDealloc.mp hmem with hmem | hmem
      · exact absurd hmem List.not_mem_nil
      · exact hp (h.second.mem_intfDealloc.mp hmem).2
    · rw [h.core, Core.afterReport, if_pos hup]
      exact others_removeById hno

/-- A socket found at an entry: its node is reported first. -/
lemma FailedWrite.othersKept_of_some (h : FailedWrite env s s' q sent c₁ tr₁ tr₂ blk)
    (hup : s.core.svcLink.isSome) {i : ℕ} {e : NodeItem}
    (hfind : nodeCacheFindBySock s.core.nodeCache (s.core.sockOf q) = some (i, e)) :
    OthersKept s s' q ↔ NoOther s.core q (s.core.intfMem q).id ∧ e.inf = q ∧
      NoOther s.core q (s.core.idOnceFreed env q) := by
  have hfirst := h.first
  simp only [ReportsBySock, hfind] at hfirst
  obtain ⟨hc₁, hrep⟩ := hfirst
  rw [Core.afterReport, if_pos hup] at hc₁
  have hup₁ : c₁.svcLink.isSome := by rw [hc₁]; exact hup
  have htold := fun id => h.countP_isModuleRemoved id
  simp only [hrep.countP_isModuleRemoved, h.second.countP_isModuleRemoved, hup, hup₁,
    true_and] at htold
  have hinf : OthersKept s s' q → e.inf = q := by
    intro hkept
    by_contra hne
    exact hkept.notDestroyed e.inf hne (h.mem_intfDealloc.mpr
      (Or.inl (hrep.mem_intfDealloc.mpr ⟨hup, rfl⟩)))
  have hid₁ : e.inf = q → (c₁.intfMem q).id = s.core.idOnceFreed env q := by
    rintro rfl
    rw [hc₁, destroyInterface_id]
  constructor
  · intro hkept
    have hq := hinf hkept
    refine ⟨fun d hd hid => ?_, hq, fun d hd hid => ?_⟩
    · have hzero := hkept.notTold d hd
      rw [htold, hq, if_pos hid.symm] at hzero
      omega
    · have hzero := hkept.notTold d hd
      rw [htold, hid₁ hq, if_pos hid.symm] at hzero
      omega
  · rintro ⟨hno, rfl, hno₁⟩
    refine ⟨fun d hd => ?_, fun p hp hmem => ?_, ?_⟩
    · rw [htold, hid₁ rfl, if_neg (hno d hd).symm, if_neg (hno₁ d hd).symm]
    · rcases h.mem_intfDealloc.mp hmem with hmem | hmem
      · exact hp (hrep.mem_intfDealloc.mp hmem).2
      · exact hp (h.second.mem_intfDealloc.mp hmem).2
    · -- two removals, by two ids no other node has
      have hfirst : (others c₁.nodeCache e.inf).Perm (others s.core.nodeCache e.inf) := by
        rw [hc₁]
        exact others_removeById hno
      rw [h.core, Core.afterReport, if_pos hup₁]
      refine (others_removeById fun d hd => ?_).trans hfirst
      rw [hid₁ rfl]
      exact hno₁ d (hfirst.mem_iff.mp hd)

end FailedWrite

/-- **A failed write concerns one node**, if the AP is reached, exactly where it
goes no further than that node. -/
theorem othersKept_iff {q : Ptr} {msg : GbMessage} {cport : U16} {s s' : Fw cfg} {ret : ℤ}
    (h : Ends (nodeInfWrite env q msg cport) s ret s') (hret : ret < 0) :
    OthersKept s s' q ↔ (s.core.svcLink.isSome → GoesNoFurther env s.core q) := by
  obtain ⟨sent, c₁, tr₁, tr₂, hfail⟩ := nodeInfWrite_fails env h hret
  by_cases hup : s.core.svcLink.isSome
  swap
  · exact iff_of_true (hfail.othersKept_of_down hup) fun h => absurd h hup
  rw [imp_iff_right hup, GoesNoFurther]
  cases hfind : nodeCacheFindBySock s.core.nodeCache (s.core.sockOf q) with
  | none =>
      rw [hfail.othersKept_of_none hup hfind]
      simp
  | some r =>
      rw [hfail.othersKept_of_some hup hfind]
      refine and_congr_right fun _ => ⟨?_, fun h => h r.1 r.2 rfl⟩
      intro hr i e he
      cases he
      exact hr

/-! ### Two nodes without a socket -/

/-- Cport 1 of the second connected on AP cport 1. -/
def secondConnected : Fw .prjConf := final (connectionCreate calmEnv AP_INF_ID 1 4 1) withTwoNodes

/-- A message for the second node. -/
def wroteSecond : Fw .prjConf :=
  final (nodeInfWrite calmEnv (.block 1) bareRequest 1) secondConnected

lemma wroteSecond_ends :
    Ends (nodeInfWrite calmEnv (.block 1) bareRequest 1) secondConnected (-1) wroteSecond :=
  ends_final (by decide +kernel)

/-- Which nodes the message removes. -/
theorem othersKept_iff_second :
    OthersKept secondConnected wroteSecond (.block 1) ↔
      (secondConnected.core.svcLink.isSome →
        GoesNoFurther calmEnv secondConnected.core (.block 1)) :=
  othersKept_iff calmEnv wroteSecond_ends (by decide)

/-- It removes the first one. -/
theorem other_node_removed :
    (secondConnected.core.nodeApMap ⟨1, by decide⟩).nodeIntf = some (.node (.block 1)) ∧
      Ends (nodeInfWrite calmEnv (.block 1) bareRequest 1) secondConnected (-1) wroteSecond ∧
      ¬ OthersKept secondConnected wroteSecond (.block 1) := by
  refine ⟨by decide +kernel, wroteSecond_ends, fun h => ?_⟩
  exact h.notDestroyed (.block 0) (by decide) (by decide +kernel)

end Cc1352Greybus
