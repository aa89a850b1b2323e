import Cc1352Greybus.Heap.Tidy
import Cc1352Greybus.Routing.Dispatch

/-!
What the SVC and the local node do to the message heap for a message of the AP.

Both give the message back once they have handled it, and answer over the
connection it came on. The SVC's requests to create and destroy connections come
in between, but leave the SVC one to answer on.

* `givesBack_svcInfWrite`, `givesBack_localIntfWrite`: while they are connected.
-/

namespace Cc1352Greybus

open Effects

variable {cfg : Config} (env : Env)

/-! ### Slots -/

/-- A scan finds something exactly when some slot matches. -/
lemma isSome_nodeToApCport_iff {n : ℕ} {m : Fin n → NodeApItem} {id : U8} {cport : U16} :
    (nodeToApCport m id cport).isSome ↔ ∃ i, (m i).nodeId = id ∧ (m i).nodeCport = cport := by
  rw [nodeToApCport, Fin.isSome_find?_iff]
  simp only [decide_eq_true_eq]

/-- An interface is connected with a cport of it. -/
def Connected (c : Core cfg) (id : U8) (cport : U16) : Prop :=
  ∃ i, ConnectedSlot (c.nodeApMap i) id cport

lemma Connected.link {c : Core cfg} {id : U8} {cport : U16} (h : Connected c id cport) :
    (nodeToApCport c.nodeApMap id cport).isSome := by
  obtain ⟨i, -, hid, hcport⟩ := h
  exact isSome_nodeToApCport_iff.mpr ⟨i, hid, hcport⟩

/-- A creation leaves the slots alone that are connected. -/
lemma connectionCreate_slot {i₁ i₂ : U8} {p₁ p₂ : U16} {s s' : Fw cfg} {ret : ℤ}
    {i : Fin cfg.apMaxNodes} (hconn : (s.core.nodeApMap i).nodeIntf.isSome)
    (h : Ends (connectionCreate env i₁ p₁ i₂ p₂) s ret s') :
    s'.core.nodeApMap i = s.core.nodeApMap i := by
  rcases connectionCreate_core env h with ⟨-, hsame, -⟩ | ⟨-, e, intf, k, -, hmay, c₁, hsock, hc'⟩
  · rw [hsame.nodeApMap]
  · -- the slot that is filled was free
    have hik : i ≠ k := by
      rintro rfl
      rw [hmay.2.2.2] at hconn
      cases hconn
    rw [hc', Core.setSlot_of_ne _ hik, hsock.nodeApMap]

/-- So it leaves connections alone. -/
lemma Connected.connectionCreate {i₁ i₂ : U8} {p₁ p₂ : U16} {s s' : Fw cfg} {ret : ℤ} {id : U8}
    {cport : U16} (hconn : Connected s.core id cport)
    (h : Ends (connectionCreate env i₁ p₁ i₂ p₂) s ret s') : Connected s'.core id cport := by
  obtain ⟨i, hi⟩ := hconn
  refine ⟨i, ?_⟩
  rw [connectionCreate_slot env hi.1 h]
  exact hi

/-- A destruction leaves a slot alone or empties it. -/
lemma connectionDestroy_slot {i₁ i₂ : U8} {p₁ p₂ : U16} {s s' : Fw cfg} {ret : ℤ}
    (i : Fin cfg.apMaxNodes) (h : Ends (connectionDestroy i₁ p₁ i₂ p₂) s ret s') :
    s'.core.nodeApMap i = s.core.nodeApMap i ∨ s'.core.nodeApMap i = .empty := by
  rcases connectionDestroy_core h with ⟨-, -, hsame⟩ | ⟨-, e, ready, -, hc'⟩
  · rw [hsame]
    exact Or.inl rfl
  · rw [hc', Core.nodeApRemove]
    split_ifs with hlt
    · rcases eq_or_ne i ⟨e.apCport.toNat, hlt⟩ with rfl | hne
      · exact Or.inr (Core.setSlot_self _ _ _)
      · exact Or.inl (Core.setSlot_of_ne _ hne _)
    · exact Or.inl rfl

/-- It leaves the SVC a slot: its own, or one that is empty. -/
lemma svcLink_connectionDestroy {i₁ i₂ : U8} {p₁ p₂ : U16} {s s' : Fw cfg} {ret : ℤ}
    (hlink : s.core.svcLink.isSome) (h : Ends (connectionDestroy i₁ p₁ i₂ p₂) s ret s') :
    s'.core.svcLink.isSome := by
  obtain ⟨i, hi⟩ := isSome_nodeToApCport_iff.mp hlink
  refine isSome_nodeToApCport_iff.mpr ⟨i, ?_⟩
  rcases connectionDestroy_slot i h with hslot | hslot
  · rwa [hslot]
  · rw [hslot]
    exact ⟨rfl, rfl⟩

/-! ### The SVC -/

lemma payloadByte_ends {msg : GbMessage} {i : ℕ} {b : U8} {s s' : Fw cfg}
    (h : Ends (payloadByte msg i) s b s') : s = s' := by
  rw [payloadByte] at h
  cases hb : msg.payload[i]? with
  | none =>
      rw [hb] at h
      exact (ends_throw.mp h).elim
  | some b =>
      rw [hb] at h
      exact (ends_pure.mp h).2

lemma payloadLe16_ends {msg : GbMessage} {i : ℕ} {w : U16} {s s' : Fw cfg}
    (h : Ends (payloadLe16 msg i) s w s') : s = s' := by
  obtain ⟨l, s₁, h₁, h⟩ := ends_bind.mp h
  obtain ⟨b, s₂, h₂, h⟩ := ends_bind.mp h
  rw [payloadByte_ends h₁, payloadByte_ends h₂, (ends_pure.mp h).2]

lemma tidy_svcConnectionCreateHandler {msg : GbMessage} {s s' : Fw cfg} {u : Unit}
    (hconn : Connected s.core SVC_INF_ID 0) (h : Ends (svcConnectionCreateHandler env msg) s u s') :
    Tidy s.io s'.io := by
  obtain ⟨_, s₁, h₁, h⟩ := ends_bind.mp h
  obtain rfl := payloadByte_ends h₁
  obtain ⟨_, s₂, h₂, h⟩ := ends_bind.mp h
  obtain rfl := payloadByte_ends h₂
  obtain ⟨_, s₃, h₃, h⟩ := ends_bind.mp h
  obtain rfl := payloadLe16_ends h₃
  obtain ⟨_, s₄, h₄, h⟩ := ends_bind.mp h
  obtain rfl := payloadLe16_ends h₄
  rcases ends_ite.mp h with ⟨-, h⟩ | ⟨-, h⟩
  · exact tidy_respond env (by decide) hconn.link h
  · obtain ⟨_, s₅, h₅, h⟩ := ends_bind.mp h
    refine Tidy.trans (NetOnly.tidy (netOnly_connectionCreate env _ _ _ _ h₅)) ?_
    exact tidy_respond env (by decide) (hconn.connectionCreate env h₅).link h

lemma tidy_svcConnectionDestroyHandler {msg : GbMessage} {s s' : Fw cfg} {u : Unit}
    (hlink : s.core.svcLink.isSome) (h : Ends (svcConnectionDestroyHandler env msg) s u s') :
    Tidy s.io s'.io := by
  obtain ⟨_, s₁, h₁, h⟩ := ends_bind.mp h
  obtain rfl := payloadByte_ends h₁
  obtain ⟨_, s₂, h₂, h⟩ := ends_bind.mp h
  obtain rfl := payloadLe16_ends h₂
  obtain ⟨_, s₃, h₃, h⟩ := ends_bind.mp h
  obtain rfl := payloadByte_ends h₃
  obtain ⟨_, s₄, h₄, h⟩ := ends_bind.mp h
  obtain rfl := payloadLe16_ends h₄
  obtain ⟨_, s₅, h₅, h⟩ := ends_bind.mp h
  refine Tidy.trans (NetOnly.tidy (netOnly_connectionDestroy _ _ _ _ h₅)) ?_
  exact tidy_respond env (by decide) (svcLink_connectionDestroy hlink h₅) h

/-- The SVC's handlers, while it is connected. -/
lemma tidy_gbHandleMsg {msg : GbMessage} {s s' : Fw cfg} {u : Unit}
    (hconn : Connected s.core SVC_INF_ID 0) (h : Ends (gbHandleMsg env msg) s u s') :
    Tidy s.io s'.io := by
  have hlink : s.core.svcLink.isSome := hconn.link
  have hanswer : ∀ {payload : List U8} {status : U8}, payload.length ≤ 8 →
      Ends (svcResponseHelper env msg payload status) s u s' → Tidy s.io s'.io :=
    fun hlen h => tidy_respond env (by omega) hlink h
  rw [gbHandleMsg] at h
  rcases ends_ite.mp h with ⟨-, h⟩ | ⟨-, h⟩
  · exact hanswer (Nat.zero_le _) h
  rcases ends_ite.mp h with ⟨-, h⟩ | ⟨-, h⟩
  · exact tidy_svcConnectionCreateHandler env hconn h
  rcases ends_ite.mp h with ⟨-, h⟩ | ⟨-, h⟩
  · exact tidy_svcConnectionDestroyHandler env hlink h
  rcases ends_ite.mp h with ⟨-, h⟩ | ⟨-, h⟩
  · exact hanswer (Nat.le_of_ble_eq_true rfl) h
  rcases ends_ite.mp h with ⟨-, h⟩ | ⟨-, h⟩
  · exact hanswer (Nat.le_of_ble_eq_true rfl) h
  rcases ends_ite.mp h with ⟨-, h⟩ | ⟨-, h⟩
  · obtain ⟨_, s₁, h₁, h⟩ := ends_bind.mp h
    obtain rfl := payloadByte_ends h₁
    obtain ⟨_, s₂, h₂, h⟩ := ends_bind.mp h
    obtain rfl := payloadByte_ends h₂
    exact hanswer (Nat.le_of_ble_eq_true rfl) h
  -- the rails, the three switches of an interface, its activation and resumption
  iterate 6
    rcases ends_ite.mp h with ⟨-, h⟩ | ⟨-, h⟩
    · exact hanswer (Nat.le_of_ble_eq_true rfl) h
  rcases ends_ite.mp h with ⟨-, h⟩ | ⟨-, h⟩
  · -- the answer to the version of the protocol is a hello
    obtain ⟨_, s₁, h₁, h⟩ := ends_bind.mp h
    obtain ⟨_, hb₁⟩ := ends_discard.mp h₁
    obtain rfl := payloadByte_ends hb₁
    obtain ⟨_, s₂, h₂, h⟩ := ends_bind.mp h
    obtain ⟨_, hb₂⟩ := ends_discard.mp h₂
    obtain rfl := payloadByte_ends hb₂
    obtain ⟨_, hhello⟩ := ends_discard.mp h
    exact tidy_controlSendRequest env (by decide) hlink hhello
  · rw [← (ends_pure.mp h).2]
    exact refl_of Tidy s.io

/-- The SVC, with a message on its cport 0. -/
lemma givesBack_svcInfWrite {msg : GbMessage} {s s' : Fw cfg} {ret : ℤ}
    (hconn : Connected s.core SVC_INF_ID 0) (h : Ends (svcInfWrite env msg 0) s ret s') :
    GivesBack msg.blk s.io s'.io := by
  rw [svcInfWrite, if_neg (not_not.mpr rfl)] at h
  obtain ⟨_, s₁, h₁, h⟩ := ends_bind.mp h
  exact .of_dealloc (tidy_gbHandleMsg env hconn h₁) h

/-! ### The local node -/

/-- The local node's handlers, while its cport 0 is connected. -/
lemma tidy_controlProtocolHandle {msg : GbMessage} {s s' : Fw cfg} {u : Unit}
    (hconn : Connected s.core LOCAL_NODE_ID 0) (h : Ends (controlProtocolHandle env msg) s u s') :
    Tidy s.io s'.io := by
  have hanswer : ∀ {payload : List U8} {status : U8}, payload.length ≤ 60 →
      Ends (responseHelper env msg payload status CONTROL_PROTOCOL_CPORT) s u s' →
        Tidy s.io s'.io :=
    fun hlen h => tidy_respond env (by omega) hconn.link h
  rw [controlProtocolHandle] at h
  iterate 5
    rcases ends_ite.mp h with ⟨-, h⟩ | ⟨-, h⟩
    · exact hanswer (Nat.le_of_ble_eq_true rfl) h
  rw [← (ends_pure.mp h).2]
  exact refl_of Tidy s.io

/-- The local node, with a message on the cport it is connected with. -/
lemma givesBack_localIntfWrite {msg : GbMessage} {cport : U16} {s s' : Fw cfg} {ret : ℤ}
    (hconn : Connected s.core LOCAL_NODE_ID cport)
    (h : Ends (localIntfWrite env msg cport) s ret s') :
    GivesBack msg.blk s.io s'.io := by
  rw [localIntfWrite] at h
  split_ifs at h with hcport
  · subst hcport
    obtain ⟨_, s₁, h₁, h⟩ := ends_bind.mp h
    exact .of_dealloc (tidy_controlProtocolHandle env hconn h₁) h
  · exact .of_dealloc (refl_of Tidy s.io) h

end Cc1352Greybus
