import Cc1352Greybus.Greybus.Main
import Cc1352Greybus.Nodes.Removal
import Cc1352Greybus.Routing.Integrity
import Cc1352Greybus.Routing.Replies

/-!
Whether messages travel along connections only.

From the AP, `connection_send` indexes the table with whatever cport a frame
carries and calls what it finds. Towards the AP it looks for a pair of ids, and
an unconnected slot reads as the pair of the SVC's cport 0.

* `dispatches_iff`: a message of the AP, exactly when its cport is connected.
* `usesLive_iff`: a message to the AP, unless it is the SVC's and an unconnected
  slot comes before the SVC's own.
* `dispatch_unconnected`, `sent_unconnected`: messages without a connection.
-/

namespace Cc1352Greybus

open Effects

variable {cfg : Config} (env : Env)

/-! ### From the AP -/

/-- A message of the AP is dispatched along a connection: the interface in the
slot of its cport is called once, with the slot's node cport, and nothing else is
done; or it is refused, and nothing is done. -/
def Dispatches (s : Fw cfg) (apCport : U16) (msg : GbMessage) : Prop :=
  (∃ (i : Fin cfg.apMaxNodes) (intf : IntfPtr), i.val = apCport.toNat ∧
      (s.core.nodeApMap i).nodeIntf = some intf ∧
      (connectionSend env AP_INF_ID apCport msg).run s =
        (intfWrite env intf msg (s.core.nodeApMap i).nodeCport).run
          ⟨s.core, s.io.logged [.connectionSend AP_INF_ID apCport msg]⟩) ∨
    ∃ ret < 0, Ends (connectionSend env AP_INF_ID apCport msg) s ret
      ⟨s.core, s.io.logged [.connectionSend AP_INF_ID apCport msg]⟩

/-- The AP cport has a slot, and it is connected. -/
def ApConnected (c : Core cfg) (apCport : U16) : Prop :=
  ∃ i : Fin cfg.apMaxNodes, i.val = apCport.toNat ∧ (c.nodeApMap i).nodeIntf.isSome

/-- What `connection_send` does with a message of the AP. -/
lemma connectionSend_ap_run (s : Fw cfg) (apCport : U16) (msg : GbMessage) :
    (connectionSend env AP_INF_ID apCport msg).run s =
      (if h : apCport.toNat < cfg.apMaxNodes then
        match (s.core.nodeApMap ⟨apCport.toNat, h⟩).nodeIntf with
        | none => throw .nullPointer
        | some intf => intfWrite env intf msg (s.core.nodeApMap ⟨apCport.toNat, h⟩).nodeCport
      else throw .outOfBounds : FwM cfg ℤ).run
        ⟨s.core, s.io.logged [.connectionSend AP_INF_ID apCport msg]⟩ := rfl

/-- **From the AP**, a message is dispatched along a connection exactly when its
cport is connected: elsewhere the table is read beyond its end, or no interface is
called. -/
theorem dispatches_iff (s : Fw cfg) (apCport : U16) (msg : GbMessage) :
    Dispatches env s apCport msg ↔ ApConnected s.core apCport := by
  constructor
  · rintro (⟨i, intf, hi, hintf, -⟩ | ⟨ret, hneg, hend⟩)
    · exact ⟨i, hi, by rw [hintf]; rfl⟩
    · -- a refusal would have to return
      rw [Ends, connectionSend_ap_run] at hend
      split_ifs at hend with h
      · cases hintf : (s.core.nodeApMap ⟨apCport.toNat, h⟩).nodeIntf with
        | none =>
            rw [hintf] at hend
            exact (ends_throw.mp hend).elim
        | some intf => exact ⟨⟨apCport.toNat, h⟩, rfl, by rw [hintf]; rfl⟩
      · exact (ends_throw.mp hend).elim
  · rintro ⟨⟨i, h⟩, rfl, hconn⟩
    obtain ⟨intf, hintf⟩ := Option.isSome_iff_exists.mp hconn
    refine Or.inl ⟨_, intf, rfl, hintf, ?_⟩
    rw [connectionSend_ap_run, dif_pos h, hintf]

/-- Before anything is connected, a frame of the AP calls through no interface. -/
theorem dispatch_unconnected :
    ¬ ∀ (s s' : Fw .prjConf) (l : List (RunStep (Fw .prjConf) RouteOp)),
      (∀ i, s.core.nodeApMap i = .empty) → Run (routeStep calmEnv) s l s' →
        ∀ apCport msg, Dispatches calmEnv s' apCport msg := by
  intro h
  rcases h (.boot .prjConf) (.boot .prjConf) [] (fun _ => rfl) .nil 0 bareRequest with
    ⟨i, intf, -, hintf, -⟩ | ⟨ret, -, hend⟩
  · cases hintf
  · cases hend

/-! ### To the AP -/

/-- A slot is connected to a cport of an interface. -/
def ConnectedSlot (item : NodeApItem) (id : U8) (cport : U16) : Prop :=
  item.nodeIntf.isSome ∧ item.nodeId = id ∧ item.nodeCport = cport

/-- A message to the AP uses only a live connection: it is handed to `ap_send` for
the AP cport of a connected slot, the one the scan finds, and nothing else is
done; or it is refused, and nothing goes out. -/
def UsesLive (s : Fw cfg) (id : U8) (cport : U16) (msg : GbMessage) : Prop :=
  (∃ i : Fin cfg.apMaxNodes, nodeToApCport s.core.nodeApMap id cport = some i ∧
      ConnectedSlot (s.core.nodeApMap i) id cport ∧
      (connectionSend env id cport msg).run s =
        (liftIo (apSend cfg msg (BitVec.ofNat 16 i)) : FwM cfg ℤ).run
          ⟨s.core, s.io.logged [.connectionSend id cport msg]⟩) ∨
    ∃ ret < 0, ∃ s', Ends (connectionSend env id cport msg) s ret s' ∧
      ∀ b, .hdlcBlock b ∉ newEvents s s'

/-- An unconnected slot comes before any that is connected to the SVC's cport 0. -/
def SvcShadowed {n : ℕ} (m : Fin n → NodeApItem) : Prop :=
  ∃ i, (m i).nodeIntf = none ∧ ∀ j < i, (m j).nodeIntf.isSome ∧ ¬ ConnectedSlot (m j) SVC_INF_ID 0

/-- The scan for a pair stops at a connected slot, unless the pair is the SVC's and
the slot shadows it. -/
lemma nodeToApCport_unconnected_iff {n : ℕ} {m : Fin n → NodeApItem} (hclear : Cleared m) (id : U8)
    (cport : U16) : (∃ i, nodeToApCport m id cport = some i ∧ (m i).nodeIntf = none) ↔
      id = SVC_INF_ID ∧ cport = 0 ∧ SvcShadowed m := by
  constructor
  · rintro ⟨i, hscan, hnone⟩
    obtain ⟨⟨hid, hcport⟩, hfirst⟩ := nodeToApCport_eq_some_iff.mp hscan
    rw [hclear i hnone] at hid hcport
    obtain rfl : SVC_INF_ID = id := hid
    obtain rfl : 0 = cport := hcport
    refine ⟨rfl, rfl, i, hnone, fun j hj => ?_⟩
    constructor
    · by_contra hj'
      have hempty := hclear j (by simpa using hj')
      exact hfirst j hj (by rw [hempty]; exact ⟨rfl, rfl⟩)
    · exact fun hconn => hfirst j hj hconn.2
  · rintro ⟨rfl, rfl, i, hnone, hbefore⟩
    refine ⟨i, nodeToApCport_eq_some_iff.mpr ⟨by rw [hclear i hnone]; exact ⟨rfl, rfl⟩, ?_⟩, hnone⟩
    exact fun j hj hmatch => (hbefore j hj).2 ⟨(hbefore j hj).1, hmatch⟩

/-- What `connection_send` does with a message to the AP. -/
lemma connectionSend_toAp_run (s : Fw cfg) {id : U8} (hid : id ≠ AP_INF_ID) (cport : U16)
    (msg : GbMessage) : (connectionSend env id cport msg).run s =
      (match nodeToApCport s.core.nodeApMap id cport with
        | none => return -EINVAL
        | some i => liftIo (apSend cfg msg (BitVec.ofNat 16 i)) : FwM cfg ℤ).run
        ⟨s.core, s.io.logged [.connectionSend id cport msg]⟩ := by
  rw [connectionSend, if_neg hid]
  rfl

/-- One message, in tables whose unconnected slots are empty. -/
lemma usesLive_of_cleared {s : Fw cfg} (hclear : Cleared s.core.nodeApMap) {id : U8}
    (hid : id ≠ AP_INF_ID) (cport : U16) (msg : GbMessage) : UsesLive env s id cport msg ↔
      ¬ (id = SVC_INF_ID ∧ cport = 0 ∧ SvcShadowed s.core.nodeApMap) := by
  have hrun := connectionSend_toAp_run env s hid cport msg
  rw [← nodeToApCport_unconnected_iff hclear]
  constructor
  · rintro (⟨i, hscan, ⟨hconn, -⟩, -⟩ | ⟨ret, hneg, s', hend, -⟩) ⟨k, hk, hnone⟩
    · -- the scan finds one slot
      obtain rfl : i = k := Option.some.inj (hscan.symm.trans hk)
      rw [hnone] at hconn
      cases hconn
    · -- `ap_send` refuses nothing
      rw [Ends, hrun, hk] at hend
      obtain ⟨io, hsend, -⟩ := ends_liftIo.mp hend
      obtain ⟨-, rfl, -⟩ := ends_apSend.mp hsend
      exact lt_irrefl 0 hneg
  · intro hno
    cases hscan : nodeToApCport s.core.nodeApMap id cport with
    | none =>
        refine Or.inr ⟨-EINVAL, by decide, ⟨s.core, s.io.logged [.connectionSend id cport msg]⟩,
          ?_, by simp [newEvents]⟩
        rw [Ends, hrun, hscan]
        rfl
    | some i =>
        refine Or.inl ⟨i, hscan, ⟨?_, (nodeToApCport_eq_some_iff.mp hscan).1⟩, ?_⟩
        · by_contra hnone
          exact hno ⟨i, hscan, by simpa using hnone⟩
        · rw [hrun, hscan]

/-- No operation leaves anything in a slot it disconnects. -/
lemma cleared_step {s s' : Fw cfg} {op : RouteOp} (h : Cleared s.core.nodeApMap)
    (hstep : routeStep env s op s') : Cleared s'.core.nodeApMap := by
  cases op with
  | filter active =>
      rw [nodeFilter_core env hstep]
      refine filter_preserves env (I := fun c : Core cfg => Cleared c.nodeApMap)
        (fun c addr hc _ _ => ?_) h
        (eachCreation_of_forall env (fun _ => trivial) _ _)
      -- a new node goes into no slot
      rcases nodeCreateInterface_spec env c addr with ⟨-, hsame⟩ | ⟨-, inf, ctrlData, hout, -⟩
      · rw [hsame.nodeApMap]
        exact hc
      · rw [hout.nodeApMap]
        exact hc
  | create i₁ p₁ i₂ p₂ =>
      obtain ⟨ret, hstep⟩ := hstep
      rcases connectionCreate_core env hstep with
        ⟨-, hsame, -⟩ | ⟨-, e, intf, k, -, -, c₁, hsock, hc'⟩
      · rw [hsame.nodeApMap]
        exact h
      · rw [hc', Core.setSlot, hsock.nodeApMap]
        -- the slot is given a node, so that there is nothing to clear
        exact h.update fun hnone => by simp at hnone
  | destroy i₁ p₁ i₂ p₂ =>
      obtain ⟨ret, hstep⟩ := hstep
      rcases connectionDestroy_core hstep with ⟨-, -, hsame⟩ | ⟨-, e, ready, -, hc'⟩
      · rw [hsame]
        exact h
      · rw [hc', Core.nodeApRemove]
        split_ifs
        -- `node_ap_remove` clears the slot it disconnects
        · exact h.update fun _ => rfl
        · exact h
  | deinit =>
      obtain rfl : s' = _ := hstep
      exact fun i _ => rfl
  | moduleRemoved intf =>
      obtain ⟨ret, hstep⟩ := hstep
      rcases svcSendModuleRemoved_core env hstep with ⟨-, hsame⟩ | ⟨-, -, hc'⟩
      · rw [hsame]
        exact h
      · rw [hc']
        exact h
  | destroyInterface inf =>
      cases inf with
      | none =>
          rw [← (ends_pure.mp hstep).2]
          exact h
      | some inf =>
          obtain ⟨-, rfl⟩ := (nodeDestroyInterface_ends env inf s).unique hstep
          exact h

/-- **To the AP**, in every state of a run that starts with nothing connected, a
message uses only a live connection, unless it is one of the SVC's cport 0 and an
unconnected slot comes before the SVC's. -/
theorem usesLive_iff {s s' : Fw cfg} {l : List (RunStep (Fw cfg) RouteOp)}
    (hempty : ∀ i, s.core.nodeApMap i = .empty) (hrun : Run (routeStep env) s l s') {id : U8}
    (hid : id ≠ AP_INF_ID) (cport : U16) (msg : GbMessage) : UsesLive env s' id cport msg ↔
      ¬ (id = SVC_INF_ID ∧ cport = 0 ∧ SvcShadowed s'.core.nodeApMap) := by
  have hclear : Cleared s'.core.nodeApMap :=
    (Run.invariant (I := fun s : Fw cfg => Cleared s.core.nodeApMap) (G := fun _ _ _ => True)
      (fun i _ => hempty i) (fun _ _ _ h hstep _ => cleared_step env h hstep) hrun
      fun _ _ => trivial).1
  exact usesLive_of_cleared env hclear hid cport msg

/-- The SVC, once it is connected on AP cport 0. -/
theorem usesLive_iff_svc :
    UsesLive calmEnv withSvc SVC_INF_ID 0 bareRequest ↔
      ¬ (SVC_INF_ID = SVC_INF_ID ∧ (0 : U16) = 0 ∧ SvcShadowed withSvc.core.nodeApMap) :=
  usesLive_iff calmEnv (s := started) (l := [⟨started, .create AP_INF_ID 0 SVC_INF_ID 0, withSvc⟩])
    (fun _ => rfl) (Run.single ⟨0, rfl⟩) (by decide) 0 bareRequest

/-- Before the SVC is connected, a message of it goes out on AP cport 0. -/
theorem sent_unconnected :
    ¬ ∀ (s s' : Fw .prjConf) (l : List (RunStep (Fw .prjConf) RouteOp)),
      (∀ i, s.core.nodeApMap i = .empty) → Run (routeStep calmEnv) s l s' →
        ∀ id cport msg, id ≠ AP_INF_ID → UsesLive calmEnv s' id cport msg := by
  intro h
  have hlive := h (.boot .prjConf) (.boot .prjConf) [] (fun _ => rfl) .nil SVC_INF_ID 0 bareRequest
    (by decide)
  have hend : Ends (connectionSend calmEnv SVC_INF_ID 0 bareRequest) (.boot .prjConf) 0
      (final (connectionSend calmEnv SVC_INF_ID 0 bareRequest) (.boot .prjConf)) :=
    ends_final (by decide +kernel)
  rcases hlive with ⟨i, -, ⟨hconn, -⟩, -⟩ | ⟨ret, hneg, s', hend', -⟩
  · cases hconn
  · obtain ⟨rfl, -⟩ := hend.unique hend'
    exact lt_irrefl 0 hneg

end Cc1352Greybus
