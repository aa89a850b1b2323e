import Cc1352Greybus.Greybus.Node

/-!
Connections between the AP and the other interfaces: `src/greybus_interfaces.c`
and the rest of the tables of `src/apbridge.c`.

* `connectionCreate`, `connectionDestroy`: the SVC's two operations on the
  routing table.
* `connectionCreate_core`, `connectionDestroy_core`: what they do to the tables.
-/

namespace Cc1352Greybus

open Effects

variable {cfg : Config} (env : Env)

/-! ### Interfaces -/

/-- `svc_interface` -/
def svcInterface (c : Core cfg) : Option IntfPtr := if c.svcReady then some .svc else none

/-- `local_node_interface` -/
def localNodeInterface : Option IntfPtr := some .localNode

/-- `gb_interface_find_by_id` -/
def gbInterfaceFindById (c : Core cfg) (intfId : U8) : Option IntfPtr :=
  if intfId = SVC_INF_ID then svcInterface c
  else if intfId = LOCAL_NODE_ID then localNodeInterface
  else (nodeFindById c intfId).map .node

/-- `svc_inf_create_connection` -/
def svcInfCreateConnection (cportId : U16) : FwM cfg ℤ := do
  let c ← getCore
  return if cportId = 0 ∧ c.svcReady = false then 1 else 0

/-- `svc_inf_destroy_connection` -/
def svcInfDestroyConnection (cportId : U16) : FwM cfg Unit :=
  if cportId ≠ 0 then return ()
  else modifyCore fun c => { c with svcReady := false }

/-- `intf->create_connection` -/
def intfCreateConnection (intf : IntfPtr) (cportId : U16) : FwM cfg ℤ :=
  match intf with
  | .svc => svcInfCreateConnection cportId
  | .localNode => return 0
  | .node p => nodeIntfCreateConnection env p cportId

/-- `intf->destroy_connection`; only the SVC's does anything. -/
def intfDestroyConnection (intf : IntfPtr) (cportId : U16) : FwM cfg Unit :=
  match intf with
  | .svc => svcInfDestroyConnection cportId
  | .localNode => return ()
  | .node _ => return ()

/-! ### Connections -/

/-- The endpoint that is not the AP's. -/
structure Endpoint where
  nodeId : U8
  nodeCport : U16
  apCport : U16
  deriving DecidableEq

/-- The two endpoints of a request, told apart: one has to be the AP's. -/
def endpoint (intf1Id : U8) (intf1Cport : U16) (intf2Id : U8) (intf2Cport : U16) :
    Option Endpoint :=
  if intf1Id = AP_INF_ID then some ⟨intf2Id, intf2Cport, intf1Cport⟩
  else if intf2Id = AP_INF_ID then some ⟨intf1Id, intf1Cport, intf2Cport⟩
  else none

/-- `connection_create` -/
def connectionCreate (intf1Id : U8) (intf1Cport : U16) (intf2Id : U8) (intf2Cport : U16) :
    FwM cfg ℤ :=
  match endpoint intf1Id intf1Cport intf2Id intf2Cport with
  | none => return -EINVAL
  | some e => do
    let c ← getCore
    match gbInterfaceFindById c e.nodeId with
    | none => return -EINVAL
    | some intf =>
      let ret ← intfCreateConnection env intf e.nodeCport
      if ret < 0 then return ret
      else do
        let ret ← modifyGetCore fun c => c.nodeApAdd e.apCport e.nodeCport intf
        if ret < 0 then return ret else return 0

/-- `connection_destroy` -/
def connectionDestroy (intf1Id : U8) (intf1Cport : U16) (intf2Id : U8) (intf2Cport : U16) :
    FwM cfg ℤ :=
  match endpoint intf1Id intf1Cport intf2Id intf2Cport with
  | none => return -EINVAL
  | some e => do
    let c ← getCore
    match gbInterfaceFindById c e.nodeId with
    | none =>
      discard (modifyGetCore fun c => c.nodeApRemove e.apCport)
      return 0
    | some intf =>
      intfDestroyConnection intf e.nodeCport
      discard (modifyGetCore fun c => c.nodeApRemove e.apCport)
      return 0

/-! ### What they do to the tables -/

lemma intfCreateConnection_core {intf : IntfPtr} {cportId : U16} {s s' : Fw cfg} {ret : ℤ}
    (h : Ends (intfCreateConnection env intf cportId) s ret s') :
    SameButSockets s.core s'.core := by
  cases intf with
  | svc =>
      obtain ⟨c, s₁, h₁, h₂⟩ := ends_bind.mp h
      rw [← (ends_pure.mp h₂).2, ← (ends_getCore.mp h₁).2]
      exact .refl _
  | localNode =>
      rw [← (ends_pure.mp h).2]
      exact .refl _
  | node p => exact nodeIntfCreateConnection_core env h

/-- An interface takes a connection; only a node may not. -/
def Takes (s : Fw cfg) : IntfPtr → U16 → Prop
  | .svc, _ => True
  | .localNode, _ => True
  | .node p, cportId => NodeTakes env s p cportId

lemma intfCreateConnection_nonneg_iff {intf : IntfPtr} {cportId : U16} {s s' : Fw cfg} {ret : ℤ}
    (h : Ends (intfCreateConnection env intf cportId) s ret s') :
    0 ≤ ret ↔ Takes env s intf cportId := by
  cases intf with
  | svc =>
      obtain ⟨c, s₁, -, h⟩ := ends_bind.mp h
      obtain ⟨rfl, -⟩ := ends_pure.mp h
      refine iff_of_true ?_ trivial
      split_ifs <;> decide
  | localNode =>
      obtain ⟨rfl, -⟩ := ends_pure.mp h
      exact iff_of_true le_rfl trivial
  | node p => exact nodeIntfCreateConnection_nonneg_iff env h

/-- Taking a connection down at the interface changes nothing but the ready
flag. -/
lemma intfDestroyConnection_core {intf : IntfPtr} {cportId : U16} {s s' : Fw cfg} {u : Unit}
    (h : Ends (intfDestroyConnection intf cportId) s u s') :
    ∃ ready, s'.core = { s.core with svcReady := ready } := by
  have hsame : Ends (pure () : FwM cfg Unit) s u s' →
      ∃ ready, s'.core = { s.core with svcReady := ready } := by
    intro h
    obtain ⟨-, rfl⟩ := ends_pure.mp h
    exact ⟨s.core.svcReady, rfl⟩
  cases intf with
  | svc =>
      rw [intfDestroyConnection, svcInfDestroyConnection] at h
      split_ifs at h
      · exact hsame h
      · rw [ends_modifyCore.mp h]
        exact ⟨false, rfl⟩
  | localNode => exact hsame h
  | node p => exact hsame h

lemma SameButSockets.intfId {c c' : Core cfg} (h : SameButSockets c c') (intf : IntfPtr) :
    c'.intfId intf = c.intfId intf := by
  cases intf with
  | svc => rfl
  | localNode => rfl
  | node p => rw [Core.intfId, Core.intfId, h.intfMem]

/-- A creation succeeds: the interface is found and takes the connection, and
the slot is there and free. -/
def MayCreate (s : Fw cfg) (e : Endpoint) (intf : IntfPtr) (k : Fin cfg.apMaxNodes) : Prop :=
  gbInterfaceFindById s.core e.nodeId = some intf ∧ Takes env s intf e.nodeCport ∧
    k.val = e.apCport.toNat ∧ (s.core.nodeApMap k).nodeIntf = none

/-- **`connection_create`** fills the slot and returns zero, where it may;
everywhere else it fails and changes nothing but sockets. -/
theorem connectionCreate_core {i₁ i₂ : U8} {p₁ p₂ : U16} {s s' : Fw cfg} {ret : ℤ}
    (h : Ends (connectionCreate env i₁ p₁ i₂ p₂) s ret s') :
    (ret < 0 ∧ SameButSockets s.core s'.core ∧
        ∀ e intf k, endpoint i₁ p₁ i₂ p₂ = some e → ¬ MayCreate env s e intf k) ∨
      ret = 0 ∧ ∃ e intf k, endpoint i₁ p₁ i₂ p₂ = some e ∧ MayCreate env s e intf k ∧
        ∃ c₁, SameButSockets s.core c₁ ∧
          s'.core = c₁.setSlot k ⟨some intf, e.nodeCport, s.core.intfId intf⟩ := by
  have hfail : Ends (pure (-EINVAL) : FwM cfg ℤ) s ret s' →
      ret < 0 ∧ SameButSockets s.core s'.core := by
    intro h
    obtain ⟨rfl, rfl⟩ := ends_pure.mp h
    exact ⟨by decide, .refl _⟩
  rw [connectionCreate] at h
  cases he : endpoint i₁ p₁ i₂ p₂ with
  | none =>
      rw [he] at h
      obtain ⟨hneg, hsame⟩ := hfail h
      exact Or.inl ⟨hneg, hsame, by simp⟩
  | some e =>
      rw [he] at h
      dsimp only at h
      rw [(Ends.getCore s).bind_iff] at h
      -- whatever rules the creation out for this endpoint rules it out
      have hno : (∀ intf k, ¬ MayCreate env s e intf k) →
          ∀ e' intf k, some e = some e' → ¬ MayCreate env s e' intf k := by
        rintro hno e' intf k he'
        cases he'
        exact hno intf k
      cases hf : gbInterfaceFindById s.core e.nodeId with
      | none =>
          rw [hf] at h
          obtain ⟨hneg, hsame⟩ := hfail h
          exact Or.inl ⟨hneg, hsame, hno fun intf k hmay => by simp [MayCreate, hf] at hmay⟩
      | some intf =>
          rw [hf] at h
          obtain ⟨r, s₁, h₁, h⟩ := ends_bind.mp h
          have hsock := intfCreateConnection_core env h₁
          have htakes := intfCreateConnection_nonneg_iff env h₁
          -- only this interface is in question
          have hintf : ∀ {intf' k}, MayCreate env s e intf' k → intf' = intf := by
            rintro intf' k ⟨hf', -⟩
            rw [hf] at hf'
            exact (Option.some.inj hf').symm
          split_ifs at h with hr
          · obtain ⟨rfl, rfl⟩ := ends_pure.mp h
            refine Or.inl ⟨hr, hsock, hno fun intf' k hmay => ?_⟩
            obtain rfl := hintf hmay
            exact absurd (htakes.mpr hmay.2.1) (not_le.mpr hr)
          · obtain ⟨r', s₂, h₂, h⟩ := ends_bind.mp h
            obtain ⟨hr', rfl⟩ := ends_modifyGetCore.mp h₂
            rcases nodeApAdd_cases s₁.core e.apCport e.nodeCport intf with
              ⟨r'', hneg, hadd, hwhy⟩ | ⟨hlt, hfree, hadd⟩
            · rw [hadd] at h hr'
              subst hr'
              rw [if_pos hneg] at h
              obtain ⟨rfl, rfl⟩ := ends_pure.mp h
              refine Or.inl ⟨hneg, hsock, hno fun intf' k hmay => ?_⟩
              obtain ⟨-, -, hk, hfree⟩ := hmay
              rw [← hsock.nodeApMap] at hfree
              exact hwhy k hk hfree
            · rw [hadd] at h hr'
              subst hr'
              rw [if_neg (lt_irrefl 0)] at h
              obtain ⟨rfl, rfl⟩ := ends_pure.mp h
              rw [hsock.nodeApMap] at hfree
              rw [hsock.intfId]
              exact Or.inr ⟨rfl, e, intf, ⟨_, hlt⟩, rfl,
                ⟨hf, htakes.mp (not_lt.mp hr), rfl, hfree⟩, s₁.core, hsock, rfl⟩

/-- **`connection_destroy`** empties the slot of the AP cport, if there is one,
and may clear the ready flag. -/
theorem connectionDestroy_core {i₁ i₂ : U8} {p₁ p₂ : U16} {s s' : Fw cfg} {ret : ℤ}
    (h : Ends (connectionDestroy i₁ p₁ i₂ p₂) s ret s') :
    ret < 0 ∧ endpoint i₁ p₁ i₂ p₂ = none ∧ s'.core = s.core ∨
      ret = 0 ∧ ∃ e ready, endpoint i₁ p₁ i₂ p₂ = some e ∧
        s'.core = (({ s.core with svcReady := ready } : Core cfg).nodeApRemove e.apCport).2 := by
  rw [connectionDestroy] at h
  cases he : endpoint i₁ p₁ i₂ p₂ with
  | none =>
      rw [he] at h
      obtain ⟨rfl, rfl⟩ := ends_pure.mp h
      exact Or.inl ⟨by decide, rfl, rfl⟩
  | some e =>
      rw [he] at h
      dsimp only at h
      rw [(Ends.getCore s).bind_iff] at h
      -- the slot is emptied in every case
      have hremove : ∀ s₁ : Fw cfg, (∃ ready, s₁.core = { s.core with svcReady := ready }) →
          Ends (do discard (modifyGetCore fun c => c.nodeApRemove e.apCport); return 0) s₁ ret s' →
          ret = 0 ∧ ∃ e' ready, some e = some e' ∧
            s'.core =
              (({ s.core with svcReady := ready } : Core cfg).nodeApRemove e'.apCport).2 := by
        rintro s₁ ⟨ready, hs₁⟩ h
        obtain ⟨_, s₂, h₂, h⟩ := ends_bind.mp h
        obtain ⟨rfl, rfl⟩ := ends_pure.mp h
        obtain ⟨_, hmod⟩ := ends_discard.mp h₂
        obtain ⟨-, rfl⟩ := ends_modifyGetCore.mp hmod
        exact ⟨rfl, e, ready, rfl, by rw [hs₁]⟩
      cases hf : gbInterfaceFindById s.core e.nodeId with
      | none =>
          rw [hf] at h
          exact Or.inr (hremove s ⟨s.core.svcReady, rfl⟩ h)
      | some intf =>
          rw [hf] at h
          obtain ⟨_, s₁, h₁, h⟩ := ends_bind.mp h
          exact Or.inr (hremove s₁ (intfDestroyConnection_core h₁) h)

/-! ### How a run starts -/

/-- The firmware once `svc_init` has run. -/
def started : Fw .prjConf :=
  { Fw.boot .prjConf with core := { Core.boot .prjConf with svcReady := true } }

/-- The SVC connected on AP cport 0. -/
def withSvc : Fw .prjConf := final (connectionCreate calmEnv AP_INF_ID 0 SVC_INF_ID 0) started

/-- A node discovered, under id 3. -/
def withNode : Fw .prjConf := final (nodeFilter calmEnv [1]) withSvc

/-- Two nodes, under the ids 3 and 4. -/
def withTwoNodes : Fw .prjConf := final (nodeFilter calmEnv [1, 2]) withSvc

end Cc1352Greybus
