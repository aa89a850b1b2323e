import Cc1352Greybus.Greybus.Connection
import Cc1352Greybus.Lib.Run

/-!
Whether replies return on the AP cport they were asked on.

The AP's side of the table is an index, the nodes' side a scan for the first
slot that matches, connected or not. An unconnected slot reads as cport 0 of
interface 0, the SVC's.

* `roundTrips_iff`: the scan finds a connected slot unless a lower one matches.
* `replies_return_iff`: over any run of creations and destructions, every
  connected AP cport gets its replies exactly when no creation duplicates a
  connection or leaves an empty slot below one to cport 0 of interface 0, and no
  destruction does the latter.
* `replies_lost_on_duplicate`: two AP cports on one node cport.
-/

namespace Cc1352Greybus

open Effects

variable {cfg : Config} (env : Env) {n : ℕ} {m : Fin n → NodeApItem}

/-- Every connected AP cport gets the replies of its node. -/
def RoundTrips (m : Fin n → NodeApItem) : Prop :=
  ∀ i, (m i).nodeIntf.isSome → nodeToApCport m (m i).nodeId (m i).nodeCport = some i

instance : Decidable (RoundTrips m) := inferInstanceAs (Decidable (∀ _, _ → _))

/-- Two slots for the same node and node cport. -/
def SameNode (a b : NodeApItem) : Prop := a.nodeId = b.nodeId ∧ a.nodeCport = b.nodeCport

/-- The scan finds a connected slot unless a lower slot matches. -/
lemma roundTrips_iff :
    RoundTrips m ↔ ∀ i, (m i).nodeIntf.isSome → ∀ j < i, ¬ SameNode (m j) (m i) := by
  refine forall_congr' fun i => imp_congr_right fun _ => ?_
  rw [nodeToApCport_eq_some_iff]
  exact and_iff_right ⟨rfl, rfl⟩

/-- Slots that are not connected are empty. -/
def Cleared (m : Fin n → NodeApItem) : Prop := ∀ i, (m i).nodeIntf = none → m i = .empty

/-! ### One change of the table -/

/-- A slot may be filled: no connected slot holds the same node cport, and no
empty slot below reads as it. -/
def MayFill (m : Fin n → NodeApItem) (k : Fin n) (item : NodeApItem) : Prop :=
  (∀ i, (m i).nodeIntf.isSome → ¬ SameNode (m i) item) ∧
    (SameNode .empty item → ∀ j < k, (m j).nodeIntf.isSome)

/-- A slot may be emptied: no connected slot above reads as an empty one. -/
def MayEmpty (m : Fin n → NodeApItem) (k : Fin n) : Prop :=
  ∀ i > k, (m i).nodeIntf.isSome → ¬ SameNode .empty (m i)

lemma Cleared.update {k : Fin n} {item : NodeApItem} (h : Cleared m)
    (hitem : item.nodeIntf = none → item = .empty) : Cleared (Function.update m k item) := by
  intro i hi
  rcases eq_or_ne i k with rfl | hne
  · rw [Function.update_self] at hi ⊢
    exact hitem hi
  · rw [Function.update_of_ne hne] at hi ⊢
    exact h i hi

/-- Filling a slot keeps the replies coming exactly when it may be filled. -/
lemma roundTrips_fill_iff {k : Fin n} {item : NodeApItem} (hclear : Cleared m)
    (hrt : RoundTrips m) (hfree : (m k).nodeIntf = none) (hitem : item.nodeIntf.isSome) :
    RoundTrips (Function.update m k item) ↔ MayFill m k item := by
  rw [roundTrips_iff] at hrt ⊢
  constructor
  · intro h
    have hk : ∀ j < k, ¬ SameNode (m j) item := by
      intro j hj hsame
      refine h k (by rw [Function.update_self]; exact hitem) j hj ?_
      rwa [Function.update_self, Function.update_of_ne hj.ne]
    refine ⟨fun i hi hsame => ?_, fun hempty j hj => ?_⟩
    · have hik : i ≠ k := by
        rintro rfl
        simp [hfree] at hi
      rcases lt_or_gt_of_ne hik with hlt | hgt
      · exact hk i hlt hsame
      · refine h i (by rwa [Function.update_of_ne hik]) k hgt ?_
        rw [Function.update_self, Function.update_of_ne hik]
        exact ⟨hsame.1.symm, hsame.2.symm⟩
    · by_contra hj'
      refine hk j hj ?_
      rwa [hclear j (by simpa using hj')]
  · rintro ⟨hdup, hlow⟩ i hi j hj hsame
    rcases eq_or_ne i k with rfl | hik
    · -- the new slot: a lower one that matches is connected or empty
      rw [Function.update_self, Function.update_of_ne hj.ne] at hsame
      by_cases hjc : (m j).nodeIntf.isSome
      · exact hdup j hjc hsame
      · rw [hclear j (by simpa using hjc)] at hsame
        exact hjc (hlow hsame j hj)
    · rw [Function.update_of_ne hik] at hi hsame
      rcases eq_or_ne j k with rfl | hjk
      · rw [Function.update_self] at hsame
        exact hdup i hi ⟨hsame.1.symm, hsame.2.symm⟩
      · rw [Function.update_of_ne hjk] at hsame
        exact hrt i hi j hj hsame

/-- Emptying a slot keeps the replies coming exactly when it may be emptied. -/
lemma roundTrips_empty_iff {k : Fin n} (hrt : RoundTrips m) :
    RoundTrips (Function.update m k .empty) ↔ MayEmpty m k := by
  rw [roundTrips_iff] at hrt ⊢
  constructor
  · intro h i hi hconn hsame
    refine h i (by rwa [Function.update_of_ne hi.ne']) k hi ?_
    rwa [Function.update_self, Function.update_of_ne hi.ne']
  · intro h i hi j hj hsame
    have hik : i ≠ k := by
      rintro rfl
      rw [Function.update_self] at hi
      cases hi
    rw [Function.update_of_ne hik] at hi hsame
    rcases eq_or_ne j k with rfl | hjk
    · rw [Function.update_self] at hsame
      exact h i hj hi hsame
    · rw [Function.update_of_ne hjk] at hsame
      exact hrt i hi j hj hsame

/-! ### Runs -/

/-- A request to the SVC that changes the table. -/
inductive ConnOp
  | create (intf1Id : U8) (intf1Cport : U16) (intf2Id : U8) (intf2Cport : U16)
  | destroy (intf1Id : U8) (intf1Cport : U16) (intf2Id : U8) (intf2Cport : U16)

/-- The request carried out. -/
def ConnOp.exec : ConnOp → FwM cfg ℤ
  | create i₁ p₁ i₂ p₂ => connectionCreate env i₁ p₁ i₂ p₂
  | destroy i₁ p₁ i₂ p₂ => connectionDestroy i₁ p₁ i₂ p₂

/-- One request, whatever it returns. -/
def connStep (s : Fw cfg) (op : ConnOp) (s' : Fw cfg) : Prop :=
  ∃ ret, Ends (op.exec env) s ret s'

/-- What a request must meet: a creation that may fill a slot puts in it what it
may be filled with, a destruction empties a slot that may be emptied. -/
def MayConnOp (s : Fw cfg) : ConnOp → Prop
  | .create i₁ p₁ i₂ p₂ =>
    ∀ e intf k, endpoint i₁ p₁ i₂ p₂ = some e → MayCreate env s e intf k →
      MayFill s.core.nodeApMap k ⟨some intf, e.nodeCport, s.core.intfId intf⟩
  | .destroy i₁ p₁ i₂ p₂ =>
    ∀ e, endpoint i₁ p₁ i₂ p₂ = some e → ∀ h : e.apCport.toNat < cfg.apMaxNodes,
      MayEmpty s.core.nodeApMap ⟨e.apCport.toNat, h⟩

/-- One request keeps unconnected slots empty, and replies coming exactly when
it meets its condition. -/
lemma connStep_spec {s s' : Fw cfg} {op : ConnOp} (hclear : Cleared s.core.nodeApMap)
    (hrt : RoundTrips s.core.nodeApMap) (h : connStep env s op s') :
    Cleared s'.core.nodeApMap ∧ (RoundTrips s'.core.nodeApMap ↔ MayConnOp env s op) := by
  obtain ⟨ret, h⟩ := h
  cases op with
  | create i₁ p₁ i₂ p₂ =>
      rcases connectionCreate_core env h with
        ⟨-, hsame, hno⟩ | ⟨-, e, intf, k, he, hmay, c₁, hsock, hc'⟩
      -- a refusal has no condition to meet
      · rw [hsame.nodeApMap]
        exact ⟨hclear, iff_of_true hrt fun e intf k he hmay => absurd hmay (hno e intf k he)⟩
      · rw [hc', Core.setSlot, hsock.nodeApMap]
        refine ⟨hclear.update fun h => by simp at h, ?_⟩
        -- the slot that is filled must be the only one of its endpoint
        rw [roundTrips_fill_iff hclear hrt hmay.2.2.2 rfl]
        constructor
        · intro hfill e' intf' k' he' hmay'
          obtain rfl : e = e' := Option.some.inj (he.symm.trans he')
          obtain rfl : intf = intf' := Option.some.inj (hmay.1.symm.trans hmay'.1)
          obtain rfl : k = k' := Fin.ext (hmay.2.2.1.trans hmay'.2.2.1.symm)
          exact hfill
        · exact fun hfill => hfill e intf k he hmay
  | destroy i₁ p₁ i₂ p₂ =>
      rcases connectionDestroy_core h with ⟨-, hnone, hsame⟩ | ⟨rfl, e, ready, he, hc'⟩
      · rw [hsame]
        refine ⟨hclear, iff_of_true hrt fun e he => ?_⟩
        rw [hnone] at he
        cases he
      · rw [hc', Core.nodeApRemove]
        have huniq : ∀ {e'}, endpoint i₁ p₁ i₂ p₂ = some e' → e = e' :=
          fun he' => Option.some.inj (he.symm.trans he')
        -- the slot that is emptied must be the one replies come by
        split_ifs with hlt
        · refine ⟨hclear.update fun _ => rfl, ?_⟩
          rw [Core.setSlot, roundTrips_empty_iff hrt]
          constructor
          · intro hmay e' he' _
            obtain rfl := huniq he'
            exact hmay
          · exact fun hmay => hmay e he hlt
        · refine ⟨hclear, iff_of_true hrt fun e' he' hlt' => ?_⟩
          obtain rfl := huniq he'
          exact absurd hlt' hlt

/-- **Replies.** Over any run of creations and destructions that starts with
nothing connected, every connected AP cport gets its replies in every state,
exactly when every request meets its condition. -/
theorem replies_return_iff {s s' : Fw cfg} {l : List (RunStep (Fw cfg) ConnOp)}
    (hempty : ∀ i, s.core.nodeApMap i = .empty) (hrun : Run (connStep env) s l s') :
    (∀ t ∈ l, RoundTrips t.post.core.nodeApMap) ↔ ∀ t ∈ l, MayConnOp env t.pre t.label := by
  have hclear : Cleared s.core.nodeApMap := fun i _ => hempty i
  have hrt : RoundTrips s.core.nodeApMap := by
    intro i hi
    rw [hempty i] at hi
    cases hi
  exact hrun.good_iff (I := fun s : Fw cfg => Cleared s.core.nodeApMap)
    (P := fun s => RoundTrips s.core.nodeApMap) (G := MayConnOp env) hclear hrt
    fun _ _ _ hc hr h => connStep_spec env hc hr h

/-- The firmware after a request. -/
def ConnOp.after (op : ConnOp) (s : Fw cfg) : Fw cfg := final (op.exec calmEnv) s

/-- Two cports of the local node connected, and the first disconnected. -/
def localSteps : List (RunStep (Fw .prjConf) ConnOp) :=
  let op₀ : ConnOp := .create AP_INF_ID 0 LOCAL_NODE_ID 5
  let op₁ : ConnOp := .create AP_INF_ID 1 LOCAL_NODE_ID 6
  let op₂ : ConnOp := .destroy AP_INF_ID 0 LOCAL_NODE_ID 5
  let s₁ := op₀.after (.boot .prjConf)
  let s₂ := op₁.after s₁
  [⟨.boot .prjConf, op₀, s₁⟩] ++ [⟨s₁, op₁, s₂⟩] ++ [⟨s₂, op₂, op₂.after s₂⟩]

/-- The scan has found the slots every time, so that each request meets its condition. -/
theorem replies_return_local :
    (∀ t ∈ localSteps, RoundTrips t.post.core.nodeApMap) ∧
      ∀ t ∈ localSteps, MayConnOp calmEnv t.pre t.label := by
  have hrun : Run (connStep calmEnv) (.boot .prjConf) localSteps _ :=
    ((Run.single ⟨0, rfl⟩).snoc ⟨0, rfl⟩).snoc ⟨0, rfl⟩
  have hreturn : ∀ t ∈ localSteps, RoundTrips t.post.core.nodeApMap := by
    intro t ht
    simp only [localSteps, List.mem_append, List.mem_singleton] at ht
    obtain (rfl | rfl) | rfl := ht <;> decide
  exact ⟨hreturn, (replies_return_iff calmEnv (fun _ => rfl) hrun).mp hreturn⟩

/-- The local node's cport 5, connected to AP cport 0 and to AP cport 1: its
replies to the second arrive on the first. -/
theorem replies_lost_on_duplicate :
    ¬ ∀ (s s' : Fw .prjConf) (l : List (RunStep (Fw .prjConf) ConnOp)),
      (∀ i, s.core.nodeApMap i = .empty) → Run (connStep calmEnv) s l s' →
        ∀ t ∈ l, RoundTrips t.post.core.nodeApMap := by
  intro h
  let op₀ : ConnOp := .create AP_INF_ID 0 LOCAL_NODE_ID 5
  let op₁ : ConnOp := .create AP_INF_ID 1 LOCAL_NODE_ID 5
  have hrun : Run (connStep calmEnv) (.boot .prjConf)
      ([⟨.boot .prjConf, op₀, op₀.after (.boot .prjConf)⟩] ++
        [⟨op₀.after (.boot .prjConf), op₁, op₁.after (op₀.after (.boot .prjConf))⟩])
      (op₁.after (op₀.after (.boot .prjConf))) := (Run.single ⟨0, rfl⟩).snoc ⟨0, rfl⟩
  have hrt := h _ _ _ (fun _ => rfl) hrun ⟨_, _, _⟩
    (List.mem_append_right _ (List.mem_singleton_self _))
  -- slot 1 is connected, and the scan stops at slot 0
  have hscan :
      nodeToApCport (op₁.after (op₀.after (.boot .prjConf))).core.nodeApMap LOCAL_NODE_ID 5 =
      some ⟨0, by decide⟩ := by decide
  have hslot := hrt ⟨1, by decide⟩ (by decide)
  rw [show (op₁.after (op₀.after (.boot .prjConf))).core.nodeApMap ⟨1, by decide⟩ =
    ⟨some .localNode, 5, LOCAL_NODE_ID⟩ by decide, hscan] at hslot
  cases hslot

end Cc1352Greybus
