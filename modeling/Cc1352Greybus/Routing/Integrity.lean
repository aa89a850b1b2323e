import Cc1352Greybus.Greybus.Connection
import Cc1352Greybus.Lib.Run

/-!
Whether the routing table points to live interfaces.

No operation clears the slots of a node that goes away, so the table is sound
(`Integrity`) only as long as no connected node is removed.

* `integrity_createInterface`, `integrity_connect`, `integrity_destroyInterface`:
  what one operation keeps.
* `integrity_of_run`: a run that connects live interfaces and removes
  unconnected ones.
* `dangling_after_removal`: a node removed with a connection to it.
-/

namespace Cc1352Greybus

open Effects

variable {cfg : Config} (env : Env)

/-- An interface is alive: a static one, or a block of the slab that is cached and not free. -/
def Alive (c : Core cfg) : IntfPtr → Prop
  | .svc => True
  | .localNode => True
  | .node p => p.IsBlock ∧ Cached c p ∧ p ∉ c.intfSlab.freeList

/-- A slot, if it is connected, points to a live interface and has its id. -/
def SlotAlive (c : Core cfg) (item : NodeApItem) : Prop :=
  ∀ intf, item.nodeIntf = some intf → Alive c intf ∧ c.intfId intf = item.nodeId

/-- Every slot is sound. -/
def Integrity (c : Core cfg) : Prop := ∀ i, SlotAlive c (c.nodeApMap i)

lemma slotAlive_empty (c : Core cfg) : SlotAlive c .empty := by
  intro intf h
  cases h

/-- A node goes on living, with its id. -/
def KeepsNode (c c' : Core cfg) (p : Ptr) : Prop :=
  Cached c' p ∧ p ∉ c'.intfSlab.freeList ∧ (c'.intfMem p).id = (c.intfMem p).id

/-- A slot stays sound while its node goes on living. -/
lemma SlotAlive.keep {c c' : Core cfg} {item : NodeApItem} (h : SlotAlive c item)
    (hkeep : ∀ p, item.nodeIntf = some (.node p) → Alive c (.node p) → KeepsNode c c' p) :
    SlotAlive c' item := by
  intro intf hintf
  obtain ⟨halive, hid⟩ := h intf hintf
  cases intf with
  | svc => exact ⟨trivial, hid⟩
  | localNode => exact ⟨trivial, hid⟩
  | node p =>
      obtain ⟨hcached, hused, hsame⟩ := hkeep p hintf halive
      exact ⟨⟨halive.1, hcached, hused⟩, hsame.trans hid⟩

/-- So does the whole table, if it is not written. -/
lemma Integrity.keep {c c' : Core cfg} (h : Integrity c) (hmap : c'.nodeApMap = c.nodeApMap)
    (hkeep : ∀ i p, (c.nodeApMap i).nodeIntf = some (.node p) → Alive c (.node p) →
      KeepsNode c c' p) : Integrity c' := by
  intro i
  rw [hmap]
  exact (h i).keep (hkeep i)

/-- A slot that is written is sound if what is put there is. -/
lemma Integrity.setSlot {c : Core cfg} (h : Integrity c) (k : Fin cfg.apMaxNodes)
    {item : NodeApItem} (hitem : SlotAlive c item) : Integrity (c.setSlot k item) := by
  intro i
  have hkeep : ∀ {item'}, SlotAlive c item' → SlotAlive (c.setSlot k item) item' :=
    fun h => h.keep fun p _ halive => ⟨halive.2.1, halive.2.2, rfl⟩
  rcases eq_or_ne i k with rfl | hne
  · rw [Core.setSlot_self]
    exact hkeep hitem
  · rw [Core.setSlot_of_ne _ hne]
    exact hkeep (h i)

/-! ### One operation -/

/-- Sockets make no difference. -/
lemma SameButSockets.keepsNode {c c' : Core cfg} (h : SameButSockets c c') {p : Ptr}
    (halive : Alive c (.node p)) : KeepsNode c c' p := by
  obtain ⟨-, ⟨e, he, rfl⟩, hused⟩ := halive
  refine ⟨?_, h.intfSlab ▸ hused, by rw [h.intfMem]⟩
  have hmem : (e.id, e.addr, e.inf) ∈ c'.nodeCache.map (fun e => (e.id, e.addr, e.inf)) := by
    rw [h.nodeCache]
    exact List.mem_map_of_mem he
  obtain ⟨e', he', heq⟩ := List.mem_map.mp hmem
  simp only [Prod.mk.injEq] at heq
  exact ⟨e', he', heq.2.2⟩

/-- A new node takes a free block, which no slot points to. -/
lemma integrity_createInterface {c : Core cfg} (addr : BitVec 128) (h : Integrity c) :
    Integrity (c.nodeCreateInterface env addr).2 := by
  rcases nodeCreateInterface_spec env c addr with ⟨-, hsame⟩ | ⟨-, inf, ctrlData, hout, hcache⟩
  · refine h.keep hsame.nodeApMap fun i p _ halive => ⟨?_, ?_, by rw [hsame.intfMem]⟩
    · rw [Cached, hsame.nodeCache]
      exact halive.2.1
    · rw [hsame.intfSlab]
      exact halive.2.2
  · refine h.keep hout.nodeApMap fun i p _ halive => ?_
    obtain ⟨-, ⟨e, he, rfl⟩, hused⟩ := halive
    rw [hout.freeList, List.mem_cons, not_or] at hused
    refine ⟨⟨e, ?_, rfl⟩, hused.2, by rw [hout.intfMem, Function.update_of_ne hused.1]⟩
    rcases hcache with ⟨-, -, hcache⟩ | ⟨-, -, hcache⟩
    · exact hcache ▸ he
    · exact hcache ▸ List.mem_append_left _ he

/-- A slot filled with a live interface that was found is sound. -/
lemma integrity_connect {c c₁ : Core cfg} {id : U8} {intf : IntfPtr} {cport : U16}
    (k : Fin cfg.apMaxNodes) (h : Integrity c) (hsock : SameButSockets c c₁)
    (hfound : gbInterfaceFindById c id = some intf)
    (hused : ∀ p, intf = .node p → p.IsBlock ∧ p ∉ c.intfSlab.freeList) :
    Integrity (c₁.setSlot k ⟨some intf, cport, c.intfId intf⟩) := by
  have h₁ : Integrity c₁ := h.keep hsock.nodeApMap fun i p _ halive => hsock.keepsNode halive
  have halive : Alive c intf := by
    cases intf with
    | svc => trivial
    | localNode => trivial
    | node p =>
        refine ⟨(hused p rfl).1, ?_, (hused p rfl).2⟩
        rw [gbInterfaceFindById, svcInterface, localNodeInterface] at hfound
        split_ifs at hfound
        · cases hfound
        · cases hfound
        · obtain ⟨q, hq, hqp⟩ := Option.map_eq_some_iff.mp hfound
          cases hqp
          exact cached_of_nodeFindById hq
  refine h₁.setSlot k (SlotAlive.keep (c := c) ?_ fun p _ hp => hsock.keepsNode hp)
  intro intf' hintf'
  cases hintf'
  exact ⟨halive, rfl⟩

/-- A removal that leaves the connected nodes alone: it is of a block that is in use, as its
control block is, and of none of theirs; its entry in the cache is not theirs, and the slab does
not get their block. -/
structure MayRemove (c : Core cfg) (inf : Ptr) : Prop where
  block : inf.IsBlock ∧ inf ∉ c.intfSlab.freeList
  ctrlData : (c.intfMem inf).ctrlData ∉ c.ctrlSlab.freeList
  others : ∀ i p, (c.nodeApMap i).nodeIntf = some (.node p) →
    p ≠ inf ∧ p ≠ env.slabFreeApi.pushed .deallocIntf inf ∧
      ∀ k e, nodeCacheFindById c.nodeCache (c.intfMem inf).id = some (k, e) → p ≠ e.inf

lemma integrity_destroyInterface {c : Core cfg} {inf : Ptr} (h : Integrity c)
    (hmay : MayRemove env c inf) : Integrity (c.destroyInterface env inf) := by
  refine h.keep rfl fun i p hp halive => ?_
  obtain ⟨-, hpush, hentry⟩ := hmay.others i p hp
  obtain ⟨-, ⟨e, he, rfl⟩, hused⟩ := halive
  refine ⟨⟨e, mem_removeById he ?_, rfl⟩, ?_, ?_⟩
  · rintro k d hfind rfl
    exact hentry k e hfind rfl
  · rw [Core.destroyInterface_intfFree, List.mem_cons, not_or]
    exact ⟨hpush, hused⟩
  · rw [Core.destroyInterface_intfMem_of_ne _ _ _ hpush]

/-! ### Runs -/

/-- An operation that changes the routes or the nodes. -/
inductive RouteOp
  | filter (active : List (BitVec 128))
  | create (intf1Id : U8) (intf1Cport : U16) (intf2Id : U8) (intf2Cport : U16)
  | destroy (intf1Id : U8) (intf1Cport : U16) (intf2Id : U8) (intf2Cport : U16)
  | deinit
  | moduleRemoved (intf : Ptr)
  | destroyInterface (inf : Option Ptr)

/-- One operation, whatever it returns. -/
def routeStep (s : Fw cfg) (op : RouteOp) (s' : Fw cfg) : Prop :=
  match op with
  | .filter active => Ends (nodeFilter env active) s () s'
  | .create i₁ p₁ i₂ p₂ => ∃ ret, Ends (connectionCreate env i₁ p₁ i₂ p₂) s ret s'
  | .destroy i₁ p₁ i₂ p₂ => ∃ ret, Ends (connectionDestroy i₁ p₁ i₂ p₂) s ret s'
  | .deinit => s' = ⟨s.core.apbridgeDeinit, s.io⟩
  | .moduleRemoved intf => ∃ ret, Ends (svcSendModuleRemoved env intf) s ret s'
  | .destroyInterface inf => Ends (nodeDestroyInterface env inf) s () s'

/-- What an operation must meet: what a discovery takes from the slabs are blocks of theirs, a
node that is connected has one that is not free, and one that is removed is not connected. A
removal that is reported goes through if a slot is found for the SVC, connected or not: an empty
one has its id and its cport. -/
def MayRouteOp (s : Fw cfg) : RouteOp → Prop
  | .filter active => EachCreation env Core.HandsOutBlocks s.core active
  | .create i₁ p₁ i₂ p₂ =>
    ∀ e k p, endpoint i₁ p₁ i₂ p₂ = some e → MayCreate env s e (.node p) k →
      p.IsBlock ∧ p ∉ s.core.intfSlab.freeList
  | .destroy _ _ _ _ => True
  | .deinit => True
  | .moduleRemoved intf =>
    (nodeToApCport s.core.nodeApMap SVC_INF_ID 0).isSome → MayRemove env s.core intf
  | .destroyInterface none => True
  | .destroyInterface (some inf) => MayRemove env s.core inf

lemma integrity_step {s s' : Fw cfg} {op : RouteOp} (h : Integrity s.core)
    (hstep : routeStep env s op s') (hmay : MayRouteOp env s op) : Integrity s'.core := by
  cases op with
  | filter active =>
      rw [nodeFilter_core env hstep]
      exact filter_preserves env (fun _ addr h _ _ => integrity_createInterface env addr h) h
        hmay
  | create i₁ p₁ i₂ p₂ =>
      obtain ⟨ret, hstep⟩ := hstep
      rcases connectionCreate_core env hstep with
        ⟨-, hsame, -⟩ | ⟨-, e, intf, k, he, hcreate, c₁, hsock, hc'⟩
      -- a connection that is refused leaves slots and nodes as they were
      · exact h.keep hsame.nodeApMap fun i p _ halive => hsame.keepsNode halive
      · rw [hc']
        refine integrity_connect k h hsock hcreate.1 ?_
        rintro p rfl
        exact hmay e k p he hcreate
  | destroy i₁ p₁ i₂ p₂ =>
      obtain ⟨ret, hstep⟩ := hstep
      rcases connectionDestroy_core hstep with ⟨-, -, hsame⟩ | ⟨-, e, ready, -, hc'⟩
      · rw [hsame]
        exact h
      -- `svc_ready` is set on the way, and no slot looks at it
      · have hready : Integrity ({ s.core with svcReady := ready } : Core cfg) :=
          h.keep rfl fun i p _ halive => ⟨halive.2.1, halive.2.2, rfl⟩
        rw [hc', Core.nodeApRemove]
        split_ifs
        · exact hready.setSlot _ (slotAlive_empty _)
        · exact hready
  | deinit =>
      obtain rfl : s' = _ := hstep
      exact fun i => slotAlive_empty _
  | moduleRemoved intf =>
      obtain ⟨ret, hstep⟩ := hstep
      rcases svcSendModuleRemoved_core env hstep with ⟨-, hsame⟩ | ⟨-, hlink, hc'⟩
      · rw [hsame]
        exact h
      · rw [hc']
        -- the report was sent, so that the interface goes
        exact integrity_destroyInterface env h (hmay hlink)
  | destroyInterface inf =>
      cases inf with
      | none =>
          rw [← (ends_pure.mp hstep).2]
          exact h
      | some inf =>
          obtain ⟨-, rfl⟩ := (nodeDestroyInterface_ends env inf s).unique hstep
          exact integrity_destroyInterface env h hmay

/-- **Referential integrity**: in every state of a run whose operations all meet
their conditions, every connected slot points to a live interface with its id. -/
theorem integrity_of_run {s s' : Fw cfg} {l : List (RunStep (Fw cfg) RouteOp)}
    (hempty : ∀ i, s.core.nodeApMap i = .empty) (hrun : Run (routeStep env) s l s')
    (hmay : ∀ t ∈ l, MayRouteOp env t.pre t.label) : ∀ t ∈ l, Integrity t.post.core := by
  have h0 : Integrity s.core := by
    intro i
    rw [hempty i]
    exact slotAlive_empty _
  exact (Run.invariant (I := fun s : Fw cfg => Integrity s.core)
    (G := fun s op _ => MayRouteOp env s op) h0
    (fun _ _ _ h hstep hmay => integrity_step env h hstep hmay) hrun hmay).2

/-- A node's cport 1 connected on AP cport 1. -/
def withConnection : Fw .prjConf := final (connectionCreate calmEnv AP_INF_ID 1 3 1) withNode

/-- And disconnected. -/
def disconnected : Fw .prjConf := final (connectionDestroy AP_INF_ID 1 3 1) withConnection

/-- A node is discovered, connected, disconnected and reported removed. -/
theorem integrity_of_removal :
    Integrity (final (svcSendModuleRemoved calmEnv (.block 0)) disconnected).core := by
  have h₁ : routeStep calmEnv started (.create AP_INF_ID 0 SVC_INF_ID 0) withSvc := ⟨0, rfl⟩
  have h₂ : routeStep calmEnv withSvc (.filter [1]) withNode := rfl
  have h₃ : routeStep calmEnv withNode (.create AP_INF_ID 1 3 1) withConnection := ⟨0, rfl⟩
  have h₄ : routeStep calmEnv withConnection (.destroy AP_INF_ID 1 3 1) disconnected := ⟨0, rfl⟩
  have h₅ : routeStep calmEnv disconnected (.moduleRemoved (.block 0))
      (final (svcSendModuleRemoved calmEnv (.block 0)) disconnected) := ⟨0, rfl⟩
  have hrun := ((((Run.single h₁).snoc h₂).snoc h₃).snoc h₄).snoc h₅
  refine integrity_of_run calmEnv (fun _ => rfl) hrun (fun t ht => ?_) _
    (List.mem_append_right _ (List.mem_singleton_self _))
  simp only [List.mem_append, List.mem_singleton] at ht
  obtain (((rfl | rfl) | rfl) | rfl) | rfl := ht
  · -- the SVC is no node
    rintro e k p he ⟨hfound, -⟩
    cases he
    have hsvc : gbInterfaceFindById started.core SVC_INF_ID = some .svc := by decide
    exact absurd (Option.some.inj (hsvc.symm.trans hfound)) nofun
  · exact ⟨fun _ => by decide, trivial⟩
  · rintro e k p he ⟨hfound, -⟩
    cases he
    have hnode : gbInterfaceFindById withNode.core 3 = some (.node (.block 0)) := by decide
    cases hnode.symm.trans hfound
    exact ⟨trivial, by decide⟩
  · trivial
  · -- only the SVC is connected by then
    have hnone : ∀ i, (disconnected.core.nodeApMap i).nodeIntf = none ∨
        (disconnected.core.nodeApMap i).nodeIntf = some .svc := by decide
    refine fun _ => ⟨by decide, by decide, fun i p hp => ?_⟩
    rcases hnone i with h | h <;> cases h.symm.trans hp

/-! ### A node removed while it is connected -/

/-- The node reported removed. -/
def nodeRemoved : Fw .prjConf := final (svcSendModuleRemoved calmEnv (.block 0)) withConnection

/-- The slot of a node that is removed goes on pointing to it. -/
theorem dangling_after_removal :
    ¬ ∀ (s s' : Fw .prjConf) (l : List (RunStep (Fw .prjConf) RouteOp)),
      (∀ i, s.core.nodeApMap i = .empty) → Run (routeStep calmEnv) s l s' →
        ∀ t ∈ l, Integrity t.post.core := by
  intro h
  have h₁ : routeStep calmEnv started (.create AP_INF_ID 0 SVC_INF_ID 0) withSvc := ⟨0, rfl⟩
  have h₂ : routeStep calmEnv withSvc (.filter [1]) withNode := rfl
  have h₃ : routeStep calmEnv withNode (.create AP_INF_ID 1 3 1) withConnection := ⟨0, rfl⟩
  have h₄ : routeStep calmEnv withConnection (.moduleRemoved (.block 0)) nodeRemoved := ⟨0, rfl⟩
  have hrun := (((Run.single h₁).snoc h₂).snoc h₃).snoc h₄
  have hlast := h _ _ _ (fun _ => rfl) hrun _ (List.mem_append_right _ (List.mem_singleton_self _))
  have hslot : (nodeRemoved.core.nodeApMap ⟨1, by decide⟩).nodeIntf = some (.node (.block 0)) := by
    decide
  have hcache : nodeRemoved.core.nodeCache = [] := by decide
  obtain ⟨-, ⟨e, he, -⟩, -⟩ := (hlast ⟨1, by decide⟩ _ hslot).1
  rw [show (RunStep.post _ : Fw .prjConf) = nodeRemoved from rfl, hcache] at he
  exact absurd he List.not_mem_nil

end Cc1352Greybus
