import Cc1352Greybus.Acts.Step
import Cc1352Greybus.Heap.Leaks

/-!
The modules the AP knows of, from what the SVC has told it, against the nodes in the cache.

* `apKnows`: the list an AP keeps that goes by the requests on its cport 0.
* `Mirrors`: what is done keeps such a list as long as the cache.
* `modules_known`: in every run from the start the AP knows the cached nodes, each as often
  as it is cached, and no other.
-/

namespace Cc1352Greybus

open Effects PackedArray

variable {cfg : Config} {env : Env}

/-! ### The AP's list -/

/-- The type and the payload of a request of the SVC: a message on AP cport 0. -/
def svcMessage? (b : Block) : Option (U8 × List U8) :=
  if b.address = ADDRESS_GREYBUS ∧ b.payload.take 2 = le16 0 then
    some ((GbOperationMsgHdr.ofBytes (b.payload.drop 2)).type, b.payload.drop 10)
  else none

/-- What an AP makes of a message of the SVC. -/
def apHears (ids : List U8) : U8 × List U8 → List U8
  | (type, id :: _) =>
    if type = GB_SVC_TYPE_MODULE_INSERTED then id :: ids
    else if type = GB_SVC_TYPE_MODULE_REMOVED then ids.erase id
    else ids
  | (_, []) => ids

/-- The ids an AP knows of. It forgets them with the stop it has asked for. -/
def apKnows (ids : List U8) : Event → List U8
  | .hdlcBlock b => (svcMessage? b).elim ids (apHears ids)
  | .tcpDiscovery start => if start then ids else []
  | _ => ids

lemma apKnows_silent {e : Event} (he : e.Silent) (ids : List U8) : apKnows ids e = ids := by
  cases e with
  | hdlcBlock b => exact he.elim
  | tcpDiscovery start => exact if_pos he
  | _ => rfl

lemma foldl_apKnows_silent {tr : List Event} (h : ∀ e ∈ tr, e.Silent) (ids : List U8) :
    tr.foldl apKnows ids = ids := by
  induction tr generalizing ids with
  | nil => rfl
  | cons e tr ih =>
      rw [List.forall_mem_cons] at h
      rw [List.foldl_cons, apKnows_silent h.1, ih h.2]

/-- A message from AP cport 0 is one of the SVC. -/
lemma svcMessage?_zero {k : Fin cfg.apMaxNodes} (hk : k.val = 0) {msg : GbMessage} :
    svcMessage? (greybusBlock (BitVec.ofNat 16 k) msg) =
      some (msg.header.type, msg.payload.take (gbMessagePayloadLen msg)) := by
  have hframe : (greybusBlock (BitVec.ofNat 16 k) msg).payload =
      le16 0 ++ (msg.header.bytes ++ msg.payload.take (gbMessagePayloadLen msg)) := by
    rw [greybusBlock, hk, greybusFrame, List.append_assoc]
    rfl
  have hhead : (le16 0 ++ msg.header.bytes).length = 10 := rfl
  rw [svcMessage?, hframe, List.take_left' (le16_length 0), if_pos ⟨rfl, rfl⟩,
    List.drop_left' (le16_length 0), GbOperationMsgHdr.ofBytes_bytes_append, ← List.append_assoc,
    List.drop_left' hhead]

/-- The bytes tell the number. -/
lemma le16_inj {x y : U16} (h : le16 x = le16 y) : x = y := by
  have hof := congrArg (fun l => ofLe16 ((l ++ []).getD 0 0) ((l ++ []).getD 1 0)) h
  simpa only [ofLe16_le16_append] using hof

/-- One from any other AP cport is not. -/
lemma svcMessage?_of_ne {k : Fin cfg.apMaxNodes} (hk : k.val ≠ 0) {msg : GbMessage} :
    svcMessage? (greybusBlock (BitVec.ofNat 16 k) msg) = none := by
  have hframe : (greybusBlock (BitVec.ofNat 16 k) msg).payload.take 2 =
      le16 (BitVec.ofNat 16 k) := by
    rw [greybusBlock, greybusFrame, List.append_assoc]
    exact List.take_left' (le16_length _)
  rw [svcMessage?, hframe, if_neg]
  rintro ⟨-, hcport⟩
  have hpos : 0 < cfg.apMaxNodes := lt_of_le_of_lt (Nat.zero_le _) k.isLt
  exact hk (congrArg Fin.val (ofNat_apCport_inj (i := k) (c := ⟨0, hpos⟩) (le16_inj hcport)))

/-! ### What keeps it -/

/-- A list of the cached modules stays one, as the AP hears what is added to the trace. -/
def Mirrors (s s' : Fw cfg) : Prop :=
  ∃ tr, s'.io.trace = s.io.trace ++ tr ∧
    ∀ ids, ids.Perm s.core.moduleIds → (tr.foldl apKnows ids).Perm s'.core.moduleIds

instance : Std.Refl (@Mirrors cfg) := ⟨fun _ => ⟨[], by simp, fun _ h => h⟩⟩

instance : IsTrans (Fw cfg) Mirrors where
  trans := by
    rintro a b c ⟨tr, hb, htr⟩ ⟨tr', hc, htr'⟩
    refine ⟨tr ++ tr', by rw [hc, hb, List.append_assoc], fun ids hids => ?_⟩
    rw [List.foldl_append]
    exact htr' _ (htr _ hids)

/-- What is added says nothing about modules, and none comes or goes. -/
lemma Mirrors.of_deaf {s s' : Fw cfg} {tr : List Event} (htrace : s'.io.trace = s.io.trace ++ tr)
    (hids : s'.core.moduleIds = s.core.moduleIds) (htr : ∀ e ∈ tr, ∀ ids, apKnows ids e = ids) :
    Mirrors s s' := by
  refine ⟨tr, htrace, fun ids h => ?_⟩
  have hfold : tr.foldl apKnows ids = ids := by
    clear htrace h
    induction tr with
    | nil => rfl
    | cons e tr ih =>
        rw [List.forall_mem_cons] at htr
        rw [List.foldl_cons, htr.1, ih htr.2]
  rwa [hfold, hids]

lemma mirrors_opens {s s' : Fw cfg} (h : Opens s.io s'.io)
    (hids : s'.core.moduleIds = s.core.moduleIds) : Mirrors s s' := by
  obtain ⟨tr, htrace, htr⟩ := h.adds
  refine .of_deaf htrace hids fun e he => ?_
  rcases htr e he with hquiet | ⟨fd, rfl⟩
  · exact apKnows_silent hquiet
  · exact fun _ => rfl

lemma mirrors_silently {s s' : Fw cfg} (h : Adds Event.Silent s.io s'.io)
    (hids : s'.core.moduleIds = s.core.moduleIds) : Mirrors s s' := by
  obtain ⟨tr, htrace, htr⟩ := h
  exact .of_deaf htrace hids fun e he => apKnows_silent (htr e he)

/-- The messages that are no news of modules. -/
def NoNews (msg : GbMessage) : Prop :=
  msg.header.type ≠ GB_SVC_TYPE_MODULE_INSERTED ∧ msg.header.type ≠ GB_SVC_TYPE_MODULE_REMOVED

lemma apKnows_noNews {msg : GbMessage} (h : NoNews msg) (k : Fin cfg.apMaxNodes) (ids : List U8) :
    apKnows ids (.hdlcBlock (greybusBlock (BitVec.ofNat 16 k) msg)) = ids := by
  rw [apKnows]
  by_cases hk : k.val = 0
  · rw [svcMessage?_zero hk, Option.elim_some]
    cases msg.payload.take (gbMessagePayloadLen msg) with
    | nil => rfl
    | cons id rest => rw [apHears, if_neg h.1, if_neg h.2]
  · rw [svcMessage?_of_ne hk]
    rfl

/-- A message is sent that is no news, or not on AP cport 0. -/
lemma mirrors_send {s s' : Fw cfg} {link : Option (Fin cfg.apMaxNodes)} {id : U8} {cport : U16}
    {msg : GbMessage} {tr : List Event}
    (htrace : s'.io.trace = s.io.trace ++ tr ++ sendEvents link id cport msg)
    (hids : s'.core.moduleIds = s.core.moduleIds) (htr : ∀ e ∈ tr, e.Silent)
    (hmsg : NoNews msg ∨ ∀ k, link = some k → k.val ≠ 0) : Mirrors s s' := by
  rw [List.append_assoc] at htrace
  refine .of_deaf htrace hids fun e he ids => ?_
  rcases List.mem_append.mp he with he | he
  · exact apKnows_silent (htr e he) ids
  rcases List.mem_cons.mp he with rfl | he
  · rfl
  cases link with
  | none => cases he
  | some k =>
      rcases List.mem_pair.mp he with rfl | rfl
      swap
      · rfl
      rcases hmsg with hmsg | hk
      · exact apKnows_noNews hmsg k ids
      · rw [apKnows, svcMessage?_of_ne (hk k rfl)]
        rfl

/-- AP cport 0 names the SVC: a message of the SVC is found there. -/
def SvcOnZero (c : Core cfg) : Prop :=
  ∃ k : Fin cfg.apMaxNodes, k.val = 0 ∧ (c.nodeApMap k).nodeId = SVC_INF_ID ∧
    (c.nodeApMap k).nodeCport = 0

/-- The SVC is found there, and a node is not. -/
lemma SvcOnZero.link {c : Core cfg} (h : SvcOnZero c) :
    ∃ k : Fin cfg.apMaxNodes, k.val = 0 ∧ c.svcLink = some k := by
  obtain ⟨k, hk, hid, hcport⟩ := h
  refine ⟨k, hk, nodeToApCport_eq_some_iff.mpr ⟨⟨hid, hcport⟩, fun j hj => ?_⟩⟩
  have hlt : j.val < k.val := hj
  omega

lemma SvcOnZero.link_ne {c : Core cfg} (h : SvcOnZero c) {id : U8} (hid : id ≠ SVC_INF_ID)
    {cport : U16} {k : Fin cfg.apMaxNodes} (hk : nodeToApCport c.nodeApMap id cport = some k) :
    k.val ≠ 0 := by
  obtain ⟨k₀, hk₀, hsvc, -⟩ := h
  rintro hzero
  obtain rfl : k = k₀ := Fin.ext (hzero.trans hk₀.symm)
  exact hid ((nodeToApCport_eq_some_iff.mp hk).1.1.symm.trans hsvc)

/-- What a request with the id of a module does to the list. -/
lemma foldl_apKnows_request {k : Fin cfg.apMaxNodes} (hk : k.val = 0) {msg : GbMessage} {id : U8}
    {rest : List U8} {type : U8} (hmsg : IsRequest msg (id :: rest) type) (ids : List U8) :
    (requestEvents (some k) msg).foldl apKnows ids = apHears ids (type, id :: rest) := by
  have hpayload : msg.payload.take (gbMessagePayloadLen msg) = id :: rest := by
    rw [hmsg.sized.payloadLen, List.take_length, hmsg.payload]
  show apKnows ids (.hdlcBlock (greybusBlock (BitVec.ofNat 16 k) msg)) = _
  rw [apKnows, svcMessage?_zero hk, hpayload, hmsg.type]
  rfl

/-- A removal by id takes the id once from those that are cached. -/
lemma moduleIds_removeById (cache : List NodeItem) (id : U8) :
    ((cache.map NodeItem.id).erase id).Perm ((nodeCacheRemoveById cache id).map NodeItem.id) := by
  rw [nodeCacheRemoveById]
  cases hfind : nodeCacheFindById cache id with
  | none =>
      have hnot : id ∉ cache.map NodeItem.id := by
        rw [List.mem_map]
        rintro ⟨e, he, rfl⟩
        have := findEntry_eq_none_iff.mp hfind e he
        simp at this
      rw [List.erase_of_not_mem hnot]
  | some r =>
      obtain ⟨i, e⟩ := r
      obtain ⟨-, hid⟩ := findEntry_some hfind
      have hperm := (cons_swapRemove_findEntry hfind).map NodeItem.id
      rw [List.map_cons, show e.id = id by simpa using hid] at hperm
      have herase := hperm.symm.erase id
      rwa [List.erase_cons_head] at herase

/-- **An announcement** adds to the list what has been added to the cache. -/
lemma mirrors_insert {s s' : Fw cfg} {id : U8} (hsvc : SvcOnZero s.core)
    (h : actStep env s (.insert id) s') : Mirrors s s' := by
  obtain ⟨-, hids, -, msg, hmsg, htrace⟩ := h
  obtain ⟨k, hk, hlink⟩ := hsvc.link
  rw [hlink] at htrace
  refine ⟨_, htrace, fun ids hperm => ?_⟩
  rw [foldl_apKnows_request hk hmsg, apHears, if_pos rfl, hids]
  exact (hperm.cons id).trans (List.perm_append_singleton id _).symm

/-- **A removal** takes from the list what it takes from the cache. -/
lemma mirrors_remove {s s' : Fw cfg} {p : Ptr} (hsvc : SvcOnZero s.core)
    (h : actStep env s (.remove p) s') : Mirrors s s' := by
  obtain ⟨hcore, -, tr, ⟨msg, hmsg, rfl⟩, htrace⟩ := h
  obtain ⟨k, hk, hlink⟩ := hsvc.link
  refine ⟨_, htrace, fun ids hperm => ?_⟩
  have hheard : (reportEvents s.core p msg).foldl apKnows ids =
      ids.erase (s.core.intfMem p).id := by
    rw [reportEvents, hlink, Option.isSome_some, if_pos rfl, List.foldl_append, List.foldl_append,
      foldl_apKnows_silent fun e he => destroyEvents_silent he, foldl_apKnows_request hk hmsg,
      apHears, if_neg (by decide), if_pos rfl]
    rfl
  rw [hheard, hcore, Core.afterReport, hlink, Option.isSome_some, if_pos rfl]
  exact (hperm.erase _).trans (moduleIds_removeById _ _)

/-! ### Steps and runs -/

lemma noNews_response {req resp : GbMessage} (h : IsResponse req resp) : NoNews resp := by
  have hbit : ∀ t : U8, GB_OP_RESPONSE ||| t ≠ GB_SVC_TYPE_MODULE_INSERTED ∧
      GB_OP_RESPONSE ||| t ≠ GB_SVC_TYPE_MODULE_REMOVED := by decide
  rw [NoNews, h.type]
  exact hbit _

lemma noNews_request {msg : GbMessage} {payload : List U8} {type : U8}
    (h : IsRequest msg payload type) (htype : type ≠ GB_SVC_TYPE_MODULE_INSERTED ∧
      type ≠ GB_SVC_TYPE_MODULE_REMOVED) : NoNews msg := by
  rwa [NoNews, h.type]

/-- What the firmware says when it is asked is no news. -/
lemma SystemOp.MayAnswer.noNews {op : SystemOp} {id : U8} {msg : GbMessage}
    (h : op.MayAnswer env (.send id msg)) : NoNews msg := by
  cases op with
  | frame f =>
      rcases h with ⟨-, hmsg⟩ | ⟨req, -, ⟨-, hresp | hhello⟩ | ⟨-, hresp⟩⟩
      · exact noNews_request hmsg (by decide)
      · exact noNews_response hresp
      · exact noNews_request hhello (by decide)
      · exact noNews_response hresp
  | request req =>
      cases req with
      | version =>
          obtain ⟨m, hm, hmsg⟩ := h
          obtain ⟨-, rfl⟩ := Act.send.inj hm
          exact noNews_request hmsg (by decide)
      | hello =>
          obtain ⟨m, hm, hmsg⟩ := h
          obtain ⟨-, rfl⟩ := Act.send.inj hm
          exact noNews_request hmsg (by decide)
      | moduleInserted id => exact h.elim
      | moduleRemoved p => exact h.elim
  | serve fd r flag => exact h.elim
  | filter active => exact h.elim
  | outside => exact h.elim

/-- Acts that answer, whatever the routes are. -/
lemma mirrors_answer {op : SystemOp} {s s' : Fw cfg} {a : Act}
    (ha : a = .quiet ∨ op.MayAnswer env a) (h : actStep env s a s') : Mirrors s s' := by
  rcases ha with rfl | ha
  · exact mirrors_silently h.2.adds (by rw [h.1])
  have hkind := ha.isAnswer
  cases a with
  | route => exact mirrors_opens h.2 h.1
  | send id msg =>
      obtain ⟨hcore, -, -, htrace⟩ := h
      rw [← List.append_nil s.io.trace] at htrace
      exact mirrors_send htrace (by rw [hcore]) (by simp) (Or.inl ha.noNews)
  | stop =>
      obtain ⟨hids, -, tr, htr, htrace⟩ := h
      refine ⟨_, htrace, fun ids _ => ?_⟩
      rw [List.foldl_cons, foldl_apKnows_silent htr, hids]
      rfl
  | _ => exact hkind.elim

/-- A message that is forwarded comes from a node. -/
lemma SystemOp.MayPass.forward_ne {op : SystemOp} {fd : ℤ} {e : NodeItem} {cport : U16}
    {msg : GbMessage} (h : op.MayPass env (.forward fd e cport msg)) : e.id ≠ SVC_INF_ID := by
  cases op with
  | frame f =>
      obtain ⟨_, -, h⟩ := h
      exact False.elim h
  | serve fd' r flag => exact h.2
  | filter active => exact False.elim h
  | request req =>
      cases req with
      | moduleRemoved p => cases (show Act.forward fd e cport msg = .remove p from h)
      | _ => exact False.elim h
  | outside => exact False.elim h

/-- Acts that pass messages on, or have to do with modules, where AP cport 0 names the SVC:
it still does. -/
lemma mirrors_pass {op : SystemOp} {s s' : Fw cfg} {a : Act} (hsvc : SvcOnZero s.core)
    (ha : a = .quiet ∨ op.MayPass env a) (h : actStep env s a s') :
    Mirrors s s' ∧ SvcOnZero s'.core := by
  have hkept : s'.core.nodeApMap = s.core.nodeApMap → SvcOnZero s'.core := fun hmap => by
    rwa [SvcOnZero, hmap]
  rcases ha with rfl | ha
  · exact ⟨mirrors_silently h.2.adds (by rw [h.1]), hkept (by rw [h.1])⟩
  have hkind := ha.isPass
  cases a with
  | hear =>
      obtain ⟨hcore, hadds⟩ := h
      exact ⟨mirrors_silently hadds (by rw [hcore]), hkept (by rw [hcore])⟩
  | forward fd e cport msg =>
      obtain ⟨-, -, io, ⟨-, tr, htrace, htr⟩, rfl⟩ := h
      refine ⟨?_, hsvc⟩
      rw [List.append_assoc] at htrace
      -- what a node sends goes on a slot of the node, which is not the one of the SVC
      refine mirrors_send (congrArg (· ++ _) htrace) rfl (fun ev hev => ?_)
        (Or.inr fun k hk => hsvc.link_ne ha.forward_ne hk)
      rcases List.mem_append.mp hev with hev | hev
      · exact htr ev hev
      · rw [List.mem_singleton.mp hev]
        trivial
  | insert id => exact ⟨mirrors_insert hsvc h, hkept h.1⟩
  | refuse => exact ⟨mirrors_silently h.2.2.adds h.2.1, hkept h.1⟩
  | remove p =>
      refine ⟨mirrors_remove hsvc h, hkept ?_⟩
      rw [h.1, Core.afterReport]
      split_ifs <;> rfl
  | write apCport q msg n =>
      obtain ⟨hcore, -, slot, tr, -, -, hon, -, htrace⟩ := h
      refine ⟨.of_deaf htrace (by rw [hcore]) fun e he ids => ?_, hkept (by rw [hcore])⟩
      obtain ⟨bs, rfl⟩ := hon e he
      rfl
  | _ => exact hkind.elim

/-- **One step** keeps the AP's list. -/
theorem systemStep_mirrors {s s' : Fw cfg} {op : SystemOp} (h : systemStep env s op s')
    (hown : OwnStep s op s') (hids : IdsIssued s.core) (hsvc : SvcOnZero s.core) :
    Mirrors s s' := by
  rcases systemStep_acts h hown hids with ⟨l, hrun, hl⟩ | ⟨l, hrun, hl⟩
  · exact (hrun.invariant (I := Mirrors s)
      (G := fun _ a _ => a = .quiet ∨ op.MayAnswer env a) (refl_of Mirrors s)
      (fun _ _ _ hI hact ha => trans_of Mirrors hI (mirrors_answer ha hact)) hl).1
  · refine (hrun.invariant (I := fun t => Mirrors s t ∧ SvcOnZero t.core)
      (G := fun _ a _ => a = .quiet ∨ op.MayPass env a) ⟨refl_of Mirrors s, hsvc⟩
      (fun _ _ _ hI hact ha => ?_) hl).1.1
    obtain ⟨hmirrors, hsvc'⟩ := mirrors_pass hI.2 ha hact
    exact ⟨trans_of Mirrors hI.1 hmirrors, hsvc'⟩

/-- The modules the AP knows of. -/
def Fw.knownModules (s : Fw cfg) : List U8 := s.io.trace.foldl apKnows []

/-- The firmware does all of the steps, its nodes have blocks of the slabs, and the AP leaves its
cport 0 to the SVC. -/
def LeavesSvc (env : Env) (l : List (RunStep (Fw cfg) SystemOp)) : Prop :=
  ∀ t ∈ l, OwnStep t.pre t.label t.post ∧ TakesBlocks env t.pre t.label ∧ SvcOnZero t.pre.core

/-- **The AP knows the modules**: in every run from the start, whatever nodes come and go,
whatever writes and reads fail and however often the SVC is stopped and started, what the SVC
has told the AP amounts to the nodes that are cached. -/
theorem modules_known {s : Fw cfg} {l : List (RunStep (Fw cfg) SystemOp)}
    (hrun : Run (systemStep env) (Fw.boot cfg) l s) (hl : LeavesSvc env l) :
    s.knownModules.Perm s.core.moduleIds := by
  have hinv := (hrun.invariant
    (I := fun s => NamesRight s.core ∧ s.knownModules.Perm s.core.moduleIds)
    (G := fun s op s' => OwnStep s op s' ∧ TakesBlocks env s op ∧ SvcOnZero s.core)
    ⟨namesRight_boot cfg, List.Perm.refl _⟩ ?_ hl).1
  · exact hinv.2
  · rintro t op t' ⟨hnames, hknown⟩ hstep ⟨hown, -, hsvc⟩
    refine ⟨systemStep_keeps (namesRight_kept env) hstep hnames, ?_⟩
    obtain ⟨tr, htrace, hmirrors⟩ := systemStep_mirrors hstep hown hnames.ids hsvc
    rw [Fw.knownModules, htrace, List.foldl_append]
    exact hmirrors _ hknown

/-- Two nodes are found once the SVC has been started. -/
def nodesFound : Fw .prjConf := final (nodeFilter calmEnv [1, 2]) svcStarted

/-- The AP knows the modules of two nodes that are found. -/
theorem modules_known_two :
    nodesFound.knownModules.Perm nodesFound.core.moduleIds := by
  have hstart : systemStep calmEnv (.boot .prjConf) (.frame startFrame) svcStarted :=
    ⟨0, ends_final (by decide +kernel)⟩
  have hfilter : systemStep calmEnv svcStarted (.filter [1, 2]) nodesFound :=
    ends_final (by decide +kernel)
  refine modules_known ((Run.single hstart).snoc hfilter) ?_
  rintro t ht
  rcases List.mem_pair.mp ht with rfl | rfl
  · exact ⟨trivial, trivial, ⟨0, by decide⟩, rfl, rfl, rfl⟩
  · have hblocks : TakesBlocks calmEnv svcStarted (.filter [1, 2]) :=
      ⟨fun _ => by decide +kernel, fun _ => by decide +kernel, trivial⟩
    exact ⟨trivial, hblocks, ⟨0, by decide⟩, rfl, by decide +kernel, by decide +kernel⟩

/-- The AP has been told of them, the latest first. -/
example : nodesFound.knownModules = [4, 3] := by decide +kernel

end Cc1352Greybus
