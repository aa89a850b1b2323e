import Cc1352Greybus.Acts.Book

/-!
The connections the AP knows of, from its own requests and the answers it gets to them, against
the routing table, over whole runs.

* `gbHandleMsg_routes`: what the SVC does to the slots, and the status it answers.
* `mainProcessCompleteFrame_right`, `systemStep_right`: a frame does to the slots what the AP
  notes for it, and nothing else does anything to them.
* `routes_known`: in every run from the start the book is right, and nothing in it is in doubt
  once every request has been answered.
* `senders_known`: so an AP can tell whose message it gets.
-/

namespace Cc1352Greybus

open Effects PackedArray

variable {cfg : Config} {env : Env}

/-! ### What happens to the slots -/

section slots

variable {held : Prop} {s s' : Fw cfg}

lemma actStep_sameMap {a : Act} (h : actStep env s a s') (hroute : a ≠ .route)
    (hstop : a ≠ .stop) : s'.core.nodeApMap = s.core.nodeApMap := by
  cases a with
  | quiet => rw [h.1]
  | refuse => exact h.1
  | hear => rw [h.1]
  | route => exact absurd rfl hroute
  | send id msg => rw [h.1]
  | forward fd e cport msg =>
      obtain ⟨-, -, io, -, rfl⟩ := h
      rfl
  | insert id => exact h.1
  | remove p =>
      rw [h.1, Core.afterReport]
      split_ifs <;> rfl
  | write c q msg n => rw [h.1]
  | stop => exact absurd rfl hstop

/-- Only two acts change the slots. -/
lemma Acts.sameMap {P : Act → Prop} (h : Acts env P s s') (hroute : ¬ P .route)
    (hstop : ¬ P .stop) : s'.core.nodeApMap = s.core.nodeApMap := by
  obtain ⟨l, hrun, hl⟩ := h
  refine (hrun.invariant (I := fun u => u.core.nodeApMap = s.core.nodeApMap)
    (G := fun _ a _ => a = .quiet ∨ P a) rfl (fun u a u' hu hact ha => ?_) hl).1
  rw [actStep_sameMap hact, hu]
  · rintro rfl
    exact hroute (ha.resolve_left nofun)
  · rintro rfl
    exact hstop (ha.resolve_left nofun)

/-- Nothing but a frame changes them. -/
lemma systemStep_sameMap {op : SystemOp} (h : systemStep env s op s') (hown : OwnStep s op s')
    (hids : IdsIssued s.core) (hop : ∀ f, op ≠ .frame f) :
    s'.core.nodeApMap = s.core.nodeApMap := by
  rcases systemStep_acts h hown hids with hacts | hacts
  · refine hacts.sameMap (fun ha => ?_) fun ha => ?_
    all_goals
      cases op with
      | frame f => exact hop f rfl
      | request req =>
          cases req with
          | version => exact absurd ha.choose_spec.1 nofun
          | hello => exact absurd ha.choose_spec.1 nofun
          | _ => exact ha
      | _ => exact ha
  · exact hacts.sameMap (fun ha => ha.isPass) fun ha => ha.isPass

lemma Opens.transmits (h : Opens s.io s'.io) : Transmits s s' [] := by
  obtain ⟨tr, htrace, htr⟩ := h.adds
  exact ⟨tr, htrace, hdlcBlocks_silentOrPipe htr⟩

lemma Transmits.newEvents {bs : List Block} (h : Transmits s s' bs) :
    hdlcBlocks (newEvents s s') = bs := by
  obtain ⟨tr, htrace, rfl⟩ := h
  rw [newEvents_eq htrace]

/-! ### Connections -/

/-- The interface that is found for an id goes by it. -/
lemma goesBy_of_found {c : Core cfg} {id : U8} {intf : IntfPtr}
    (h : gbInterfaceFindById c id = some intf) :
    intf.GoesBy id ∧ (IdsHeld c → c.intfId intf = id) := by
  rw [gbInterfaceFindById] at h
  split_ifs at h with hsvc hlocal
  · rw [svcInterface] at h
    split_ifs at h
    obtain rfl := Option.some.inj h
    exact ⟨hsvc, fun _ => hsvc.symm⟩
  · obtain rfl := Option.some.inj h
    exact ⟨hlocal, fun _ => hlocal.symm⟩
  · obtain ⟨p, hp, rfl⟩ := Option.map_eq_some_iff.mp h
    obtain ⟨⟨i, e⟩, hfind, rfl⟩ := Option.map_eq_some_iff.mp hp
    obtain ⟨hi, rfl, hid, -⟩ := findEntry_eq_some_iff.mp hfind
    exact ⟨⟨hsvc, hlocal⟩, fun hids =>
      (hids _ (List.getElem_mem hi)).trans (by simpa using hid)⟩

/-- A creation connects the slot as asked, or changes none. -/
lemma connectionCreate_noted {i₁ i₂ : U8} {p₁ p₂ : U16} {ret : ℤ} (hids : held → IdsHeld s.core)
    (h : Ends (connectionCreate env i₁ p₁ i₂ p₂) s ret s') :
    ret < 0 ∧ s'.core.nodeApMap = s.core.nodeApMap ∨
      ret = 0 ∧ ∃ e, endpoint i₁ p₁ i₂ p₂ = some e ∧
        Noted held (.connected e.nodeId e.nodeCport) e.apCport s.core s'.core := by
  rcases connectionCreate_core env h with
    ⟨hneg, hsame, -⟩ | ⟨hzero, e, intf, k, he, ⟨hfind, -, hk, -⟩, c₁, hsame, hcore⟩
  · exact Or.inl ⟨hneg, hsame.nodeApMap⟩
  · obtain ⟨hgoes, hid⟩ := goesBy_of_found hfind
    refine Or.inr ⟨hzero, e, he, fun j => ?_⟩
    rw [hcore]
    split_ifs with hj
    · obtain rfl : j = k := Fin.ext (hj.trans hk.symm)
      rw [Core.setSlot_self]
      exact ⟨intf, _, rfl, hgoes, hid ∘ hids⟩
    · rw [Core.setSlot_of_ne _ fun heq => hj (by rw [heq, hk]), hsame.nodeApMap]

/-- A destruction empties the slot, or changes none. -/
lemma connectionDestroy_noted {i₁ i₂ : U8} {p₁ p₂ : U16} {ret : ℤ}
    (h : Ends (connectionDestroy i₁ p₁ i₂ p₂) s ret s') :
    ret < 0 ∧ s'.core.nodeApMap = s.core.nodeApMap ∨
      ret = 0 ∧ ∃ e, endpoint i₁ p₁ i₂ p₂ = some e ∧ Noted held .free e.apCport s.core s'.core := by
  rcases connectionDestroy_core h with ⟨hneg, -, hsame⟩ | ⟨hzero, e, ready, he, hcore⟩
  · exact Or.inl ⟨hneg, by rw [hsame]⟩
  · refine Or.inr ⟨hzero, e, he, fun j => ?_⟩
    rw [hcore, Core.nodeApRemove]
    split_ifs with hj hlt hlt
    · obtain rfl : j = ⟨e.apCport.toNat, hlt⟩ := Fin.ext hj
      rw [Core.setSlot_self]
      rfl
    · exact absurd (hj ▸ j.isLt) hlt
    · exact Core.setSlot_of_ne _ (fun heq => hj (congrArg Fin.val heq)) _
    · rfl

/-! ### Answers -/

/-- **A response** is heard, or nothing is. -/
lemma respond_heard {id : U8} {req : GbMessage} {status : U8} {u : Unit}
    (h : Ends (respond env id 0 req [] status) s u s') :
    s'.core = s.core ∧ ∃ bs, Transmits s s' bs ∧
      (heardStatus req.header bs = none ∨ heardStatus req.header bs = some status) := by
  obtain ⟨r, s₁, h₁, h⟩ := ends_bind.mp h
  obtain ⟨io₁, halloc, rfl⟩ := ends_liftIo.mp h₁
  rcases alloc_memcpy_ends env (by simp) halloc with ⟨rfl, -, rfl⟩ | ⟨rfl, rfl⟩
  · obtain ⟨-, rfl⟩ := ends_pure.mp h
    exact ⟨rfl, [], ⟨[], rfl, rfl⟩, Or.inl rfl⟩
  · obtain ⟨ret, h⟩ := ends_discard.mp h
    obtain ⟨-, -, rfl⟩ := ends_connectionSendToAp.mp h
    refine ⟨rfl, _, ⟨_, List.append_assoc _ _ _, rfl⟩, ?_⟩
    dsimp only
    rw [hdlcBlocks_append, hdlcBlocks_sendEvents]
    cases nodeToApCport s.core.nodeApMap id 0 with
    | none => exact Or.inl rfl
    | some k => exact Or.inr ((heardStatus_singleton _ _).trans (statusIn_greybusBlock rfl rfl))

/-- A message is the one in a frame, as far as the AP goes by it. -/
structure ReadsAs (f : RxFrame) (msg : GbMessage) : Prop where
  type : gbMessageType msg = (frameHdr f.buffer).type
  operationId : msg.header.operationId = (frameHdr f.buffer).operationId
  asked : 6 ≤ msg.payload.length → connRequest msg = f.asked

variable {f : RxFrame} {msg : GbMessage} {book : ApBook}

lemma readsAs_frameMsg {blk len : ℕ} : ReadsAs f (frameMsg env blk f.buffer len) := by
  refine ⟨rfl, rfl, fun hlen => ?_⟩
  have hpayload : (frameMsg env blk f.buffer len).payload = (f.buffer.drop 10).take len := rfl
  have hle : 6 ≤ len := by
    rw [hpayload, List.length_take] at hlen
    omega
  have hbyte : ∀ i < 6, ((f.buffer.drop 10).take len).getD i 0 = (f.buffer.drop 10).getD i 0 := by
    intro i hi
    rw [List.getD_eq_getElem?_getD, List.getElem?_take_of_lt (by omega),
      ← List.getD_eq_getElem?_getD]
  rw [RxFrame.asked, connRequest, connRequest, hpayload, hbyte 0 (by decide), hbyte 1 (by decide),
    hbyte 2 (by decide), hbyte 3 (by decide), hbyte 4 (by decide), hbyte 5 (by decide)]

/-- The status of a connection that was to be changed says whether it was. -/
lemma connReply_done {ret : ℤ} {note : Endpoint → Note}
    (hnote : ∀ e, askedNote (frameHdr f.buffer).type e = some (note e))
    (h : ret < 0 ∧ s'.core.nodeApMap = s.core.nodeApMap ∨
      ret = 0 ∧ ∃ e, f.asked.endpoint = some e ∧ Noted held (note e) e.apCport s.core s'.core) :
    ∃ status, connReply ret = .response [] status ∧ Done held f status s.core s'.core := by
  rcases h with ⟨hneg, hsame⟩ | ⟨rfl, e, he, hnoted⟩
  · refine ⟨_, by rw [connReply, if_pos hneg], ?_⟩
    rw [Done, if_neg (by decide)]
    exact hsame
  · refine ⟨_, rfl, ?_⟩
    rw [Done, if_pos (by decide)]
    exact ⟨e, note e, he, hnote e, hnoted⟩

/-- A request for a connection is carried out before it is answered; no other message has
anything done. -/
lemma svcAnswer_routes {r : SvcReply} (hmsg : ReadsAs f msg) (hids : held → IdsHeld s.core)
    (h : Ends (svcAnswer env msg) s r s') :
    (∃ status, r = .response [] status ∧ Done held f status s.core s'.core ∧ Transmits s s' []) ∨
      AsksNothing f ∧ s' = s := by
  rcases svcAnswer_cases env cfg msg with ⟨htype, hanswer⟩ | ⟨htype, hanswer⟩ |
    ⟨htype, hanswer⟩ | ⟨htype, hanswer⟩ | ⟨hcreate, hdestroy, -, -, hanswer⟩
  -- `GB_SVC_TYPE_CONN_CREATE`: a payload too short stops, so there are six bytes
  · rw [hanswer] at h
    have hlen : 6 ≤ msg.payload.length := by
      by_contra hlen
      exact h.not_stops _ (stops_create_iff.mpr (not_le.mp hlen))
    have hasked := hmsg.asked hlen
    rw [hmsg.type] at htype
    rw [svcConnectionCreateAnswer_of_le hlen, hasked] at h
    left
    rcases ends_ite.mp h with ⟨-, h⟩ | ⟨-, h⟩
    · obtain ⟨rfl, rfl⟩ := ends_pure.mp h
      refine ⟨_, rfl, ?_, .refl s⟩
      rw [Done, if_neg (by decide)]
    · obtain ⟨ret, s₁, h₁, h⟩ := ends_bind.mp h
      obtain ⟨rfl, rfl⟩ := ends_pure.mp h
      have hnote : ∀ e, askedNote (frameHdr f.buffer).type e =
          some (.connected e.nodeId e.nodeCport) := fun e => by rw [askedNote, if_pos htype]
      obtain ⟨status, hreply, hdone⟩ := connReply_done hnote (connectionCreate_noted hids h₁)
      exact ⟨status, hreply, hdone, Opens.transmits (opens_connectionCreate _ _ _ _ h₁)⟩
  -- `GB_SVC_TYPE_CONN_DESTROY`
  · rw [hanswer] at h
    have hlen : 6 ≤ msg.payload.length := by
      by_contra hlen
      exact h.not_stops _ (stops_destroy_iff.mpr (not_le.mp hlen))
    have hasked := hmsg.asked hlen
    rw [hmsg.type] at htype
    rw [svcConnectionDestroyAnswer_of_le hlen, hasked] at h
    obtain ⟨ret, s₁, h₁, h⟩ := ends_bind.mp h
    obtain ⟨rfl, rfl⟩ := ends_pure.mp h
    have hnote : ∀ e, askedNote (frameHdr f.buffer).type e = some .free := fun e => by
      rw [askedNote, htype]
      rfl
    obtain ⟨status, hreply, hdone⟩ := connReply_done hnote (connectionDestroy_noted h₁)
    exact Or.inl ⟨status, hreply, hdone, Opens.transmits (opens_connectionDestroy _ _ _ _ h₁)⟩
  -- what is left asks for no connection and leaves the state alone
  · right
    rw [hanswer] at h
    rw [hmsg.type] at htype
    rcases svcIntfSetPwrmAnswer_cases msg s with ⟨-, hstops⟩ | ⟨-, resultCode, hres⟩
    · exact absurd hstops (h.not_stops _)
    · rw [hres] at h
      refine ⟨fun e => ?_, (ends_pure.mp h).2.symm⟩
      rw [askedNote, htype]
      rfl
  · right
    rw [hanswer] at h
    rw [hmsg.type] at htype
    rcases svcVersionResponseAnswer_cases msg s with ⟨-, hstops⟩ | ⟨-, hres⟩
    · exact absurd hstops (h.not_stops _)
    · rw [hres] at h
      refine ⟨fun e => ?_, (ends_pure.mp h).2.symm⟩
      rw [askedNote, htype]
      rfl
  · right
    rw [hmsg.type] at hcreate hdestroy
    refine ⟨fun e => by rw [askedNote, if_neg hcreate, if_neg hdestroy], ?_⟩
    rcases hanswer with ⟨-, payload, -, hanswer⟩ | ⟨-, -, -, hanswer⟩
    · rw [hanswer] at h
      exact (ends_pure.mp h).2.symm
    · rw [hanswer] at h
      exact (ends_pure.mp h).2.symm

/-- **The SVC** does to the slots what the status it answers says, if it answers. -/
lemma gbHandleMsg_routes {u : Unit} (h : Ends (gbHandleMsg env msg) s u s')
    (hmsg : ReadsAs f msg) (hids : held → IdsHeld s.core) :
    (∃ status bs, Done held f status s.core s'.core ∧ Transmits s s' bs ∧
        (heardStatus (frameHdr f.buffer) bs = none ∨
          heardStatus (frameHdr f.buffer) bs = some status)) ∨
      AsksNothing f ∧ s'.core.nodeApMap = s.core.nodeApMap := by
  rw [gbHandleMsg_eq] at h
  obtain ⟨r, s₁, h₁, h₂⟩ := ends_bind.mp h
  rcases svcAnswer_routes hmsg hids h₁ with ⟨status, rfl, hdone, hsilent⟩ | ⟨hnothing, rfl⟩
  · obtain ⟨hcore, bs, hsent, hheard⟩ := respond_heard h₂
    rw [heardStatus_congr (show msg.header.type = _ from hmsg.type) hmsg.operationId]
      at hheard
    exact Or.inl ⟨status, bs, by rwa [hcore], hsilent.trans hsent, hheard⟩
  · have hkept : Respects (Keeps fun c : Core cfg => c.nodeApMap = s₁.core.nodeApMap)
        (svcReply env msg r) := by
      cases r with
      | nothing => exact respects_pure _
      | hello => exact (keeps_controlSendRequest env _ _).discard
      | response payload status => exact keeps_respond env _ _ _ _ _
    exact Or.inr ⟨hnothing, hkept h₂ rfl⟩

/-! ### Frames -/

/-- With the start the SVC gets AP cport 0, if that is free. -/
lemma connectionCreate_svc_right {ret : ℤ}
    (h : Ends (connectionCreate env AP_INF_ID 0 SVC_INF_ID 0) s ret s')
    (hready : s.core.svcReady = true) (hbook : book.Right held s.core) :
    ApBook.Right (if book 0 = .free then Function.update book 0 (.connected SVC_INF_ID 0) else book)
      held s'.core := by
  have hsvc : gbInterfaceFindById s.core SVC_INF_ID = some .svc := by
    rw [gbInterfaceFindById, if_pos rfl, svcInterface, if_pos hready]
  rcases connectionCreate_core env h with
    ⟨-, hsame, hno⟩ | ⟨-, e, intf, k, he, ⟨hfind, -, hk, hfree⟩, c₁, hsame, hcore⟩
  · have hright : book.Right held s'.core := hbook.of_sameMap hsame.nodeApMap
    split_ifs with hzero
    · intro k
      by_cases hk : k.val = 0
      · -- a free cport would have been connected
        have hslot := hbook k
        rw [hk, hzero] at hslot
        have hnone : (s.core.nodeApMap k).nodeIntf = none := congrArg NodeApItem.nodeIntf hslot
        exact absurd ⟨hsvc, trivial, hk, hnone⟩ (hno ⟨SVC_INF_ID, 0, 0⟩ .svc k rfl)
      · rw [Function.update_of_ne hk]
        exact hright k
    · exact hright
  · obtain rfl : (⟨SVC_INF_ID, 0, 0⟩ : Endpoint) = e := Option.some.inj he
    obtain rfl : IntfPtr.svc = intf := Option.some.inj (hsvc.symm.trans hfind)
    have hself : s'.core.nodeApMap k = ⟨some .svc, 0, SVC_INF_ID⟩ := by
      rw [hcore, Core.setSlot_self]
      rfl
    intro j
    by_cases hj : j = k
    · subst hj
      have hzero : j.val = 0 := hk
      have hslot := hbook j
      rw [hzero] at hslot
      rw [hself, hzero]
      cases hnote : book 0 with
      | free =>
          rw [if_pos rfl, Function.update_self]
          exact ⟨.svc, _, rfl, rfl, fun _ => rfl⟩
      | connected id cport =>
          rw [hnote] at hslot
          obtain ⟨intf, id', hslot, -⟩ := hslot
          rw [hslot] at hfree
          cases hfree
      | unsure =>
          rw [if_neg (by simp), hnote]
          trivial
    · have hne : j.val ≠ 0 := fun hzero => hj (Fin.ext (hzero.trans hk.symm))
      rw [hcore, Core.setSlot_of_ne _ hj, hsame.nodeApMap]
      split_ifs
      · rw [Function.update_of_ne hne]
        exact hbook j
      · exact hbook j

/-- A command of the AP does to the slots what the AP notes. -/
lemma controlProcessFrame_right {ret : ℤ}
    (h : Ends (controlProcessFrame env f.buffer 1) s ret s') (hbook : book.Right held s.core) :
    ApBook.Right (f.buffer[0]?.elim book book.command) held s'.core := by
  rw [controlProcessFrame, if_neg (by decide)] at h
  cases hcommand : f.buffer[0]? with
  | none =>
      rw [hcommand] at h
      exact (ends_throw.mp h).elim
  | some command =>
      rw [hcommand] at h
      rw [Option.elim_some, ApBook.command]
      rcases ends_ite.mp h with ⟨hstart, h⟩ | ⟨hstart, h⟩
      · rw [if_pos hstart]
        rw [(Ends.modifyCore _ s).bind_iff] at h
        obtain ⟨r, s₁, h₁, h⟩ := ends_bind.mp h
        -- what comes after the connection leaves the slots alone
        have hrest : Respects (Keeps fun c : Core cfg => c.nodeApMap = s₁.core.nodeApMap)
            (do
              discard (svcSendVersion env)
              liftIo (emit (.tcpDiscovery true))
              return 0 : FwM cfg ℤ) :=
          (keeps_controlSendRequest env _ _).discard.bind fun _ =>
            (keeps_liftIo _).bind fun _ => respects_pure _
        refine (connectionCreate_svc_right h₁ rfl hbook).of_sameMap ?_
        rcases ends_ite.mp h with ⟨-, h⟩ | ⟨-, h⟩
        · rw [← (ends_pure.mp h).2]
        · exact hrest h rfl
      · rw [if_neg hstart]
        rcases ends_ite.mp h with ⟨hstop, h⟩ | ⟨hstop, h⟩
        · rw [if_pos hstop]
          rw [(Ends.liftIo (Ends.emit _ s.io)).bind_iff] at h
          obtain ⟨_, s₁, -, h⟩ := ends_bind.mp h
          rw [(Ends.modifyCore _ s₁).bind_iff, (Ends.modifyCore _ _).bind_iff] at h
          obtain ⟨-, rfl⟩ := ends_pure.mp h
          exact fun _ => rfl
        · rw [if_neg hstop]
          obtain ⟨-, rfl⟩ := ends_pure.mp h
          exact hbook

/-- **A message of the AP** does to the slots what the AP notes, whatever is heard if it is
not one to the SVC. -/
lemma connectionSendFromAp_right {ret : ℤ} (haddress : f.address = ADDRESS_GREYBUS)
    (hbook : book.Right held s.core) (hmsg : ReadsAs f msg) (hids : held → IdsHeld s.core)
    (h : Ends (connectionSendFromAp env (frameCport f.buffer) msg) s ret s') :
    (∀ heard, (book.frame f heard).Right held s'.core) ∨
      ∃ heard, Transmits s s' heard ∧ (book.frame f heard).Right held s'.core := by
  obtain ⟨slot, intf, hslot, hintf, h⟩ := connectionSendFromAp_cases h
  -- where the SVC does not handle it, neither the AP nor the slots take note
  have hother : ¬ (intf = .svc ∧ slot.nodeCport = 0) → s'.core.nodeApMap = s.core.nodeApMap →
      ∀ heard, (book.frame f heard).Right held s'.core :=
    fun hno hmap _ => hbook.frame_other haddress hslot hintf hno hmap
  cases intf with
  | localNode =>
      have hkept : Respects (Keeps fun c : Core cfg => c.nodeApMap = s.core.nodeApMap)
          (localIntfWrite env msg slot.nodeCport) := keeps_localIntfWrite env msg _
      exact Or.inl (hother nofun (hkept h rfl))
  | node q =>
      have hacts : Acts env (NodeTold (frameCport f.buffer) msg)
          ⟨s.core, s.io.logged [.connectionSend AP_INF_ID (frameCport f.buffer) msg]⟩ s' :=
        acts_nodeInfWrite hslot hintf (fun _ => ⟨rfl, rfl⟩) (fun _ => trivial) h
      exact Or.inl (hother nofun (hacts.sameMap id id))
  | svc =>
      rw [intfWrite, svcInfWrite] at h
      rcases ends_ite.mp h with ⟨hcport, h⟩ | ⟨hcport, h⟩
      · obtain ⟨-, rfl⟩ := ends_pure.mp h
        exact Or.inl (hother (fun hzero => hcport hzero.2) rfl)
      · obtain ⟨u, s₁, h₁, h⟩ := ends_bind.mp h
        have hdealloc : Ends (liftIo (gbMessageDealloc msg)) s₁ ()
            ⟨s₁.core, s₁.io.logged [.dealloc msg.blk]⟩ := Ends.liftIo (Ends.emit _ s₁.io)
        rw [hdealloc.bind_iff] at h
        obtain ⟨-, rfl⟩ := ends_pure.mp h
        -- cport 0 of the SVC: the message is handled, then freed
        have hzero : slot.nodeCport = 0 := not_not.mp hcport
        have hlogged : Transmits s
            ⟨s.core, s.io.logged [.connectionSend AP_INF_ID (frameCport f.buffer) msg]⟩ [] :=
          (Transmits.refl s).logged _ rfl
        rcases gbHandleMsg_routes h₁ hmsg hids with
          ⟨status, heard, hdone, hsent, hheard⟩ | ⟨hnothing, hmap⟩
        · exact Or.inr ⟨heard, (hlogged.trans hsent).logged _ rfl,
            hbook.frame_svc haddress hslot hintf hzero (Or.inl ⟨status, hdone, hheard⟩)⟩
        · exact Or.inl fun heard =>
            hbook.frame_svc haddress hslot hintf hzero (Or.inr ⟨hnothing, hmap⟩)

/-- **One frame** does to the slots what the AP notes. -/
lemma mainProcessCompleteFrame_right {ret : ℤ} (hbook : book.Right held s.core)
    (hids : held → IdsHeld s.core) (h : Ends (mainProcessCompleteFrame env f) s ret s') :
    (book.frame f (hdlcBlocks (newEvents s s'))).Right held s'.core := by
  rcases mainProcessCompleteFrame_cases env h with ⟨haddress, h⟩ | ⟨haddress, hrest⟩
  · rw [hdlcProcessGreybusFrame_eq] at h
    obtain ⟨r, s₁, h₁, h⟩ := ends_bind.mp h
    obtain ⟨io₁, hframe, rfl⟩ := ends_liftIo.mp h₁
    have hsilent : Transmits s ⟨s.core, io₁⟩ [] :=
      Opens.transmits (silently_greybusFrameMsg env f.buffer f.len hframe).opens
    -- no block for the message: it is refused before anybody sees it
    rcases greybusFrameMsg_cases hframe with ⟨rfl, -⟩ | ⟨len, -, -, -, rfl, -⟩
    · obtain ⟨-, rfl⟩ := ends_pure.mp h
      rw [hsilent.newEvents]
      exact hbook.frame_refused haddress rfl
    · obtain ⟨ret', s₂, h₂, h⟩ := ends_bind.mp h
      have hs' : s' = s₂ := by
        rcases ends_ite.mp h with ⟨-, h⟩ | ⟨-, h⟩
        · exact (ends_pure.mp h).2.symm
        · exact (ends_pure.mp h).2.symm
      rw [hs']
      rw [connectionSend, if_pos rfl] at h₂
      rcases connectionSendFromAp_right (s := ⟨s.core, io₁⟩) haddress hbook readsAs_frameMsg
        hids h₂ with
        hall | ⟨heard, hsent, hright⟩
      · exact hall _
      · rw [(hsilent.trans hsent).newEvents]
        exact hright
  · rw [ApBook.frame, if_neg haddress]
    rcases hrest with ⟨hcontrol, h⟩ | ⟨hcontrol, rfl⟩
    -- a control frame of length one is a command; any other is left alone
    · by_cases hlen : f.len = 1
      · rw [if_pos ⟨hcontrol, hlen⟩]
        rw [hlen] at h
        exact controlProcessFrame_right h hbook
      · rw [if_neg fun hboth => hlen hboth.2]
        rw [controlProcessFrame, if_pos hlen] at h
        obtain ⟨-, rfl⟩ := ends_pure.mp h
        exact hbook
    · rw [if_neg fun hboth => hcontrol hboth.1]
      exact hbook

end slots

/-! ### Runs -/

/-- **One step** keeps the book right. -/
theorem systemStep_right {s s' : Fw cfg} {op : SystemOp} {held : Prop} {book : ApBook}
    (h : systemStep env s op s') (hown : OwnStep s op s') (hissued : IdsIssued s.core)
    (hids : held → IdsHeld s.core) (hbook : book.Right held s.core) :
    (book.step ⟨s, op, s'⟩).Right held s'.core := by
  cases op with
  | frame f =>
      obtain ⟨ret, h⟩ := h
      exact mainProcessCompleteFrame_right hbook hids h
  | _ => exact hbook.of_sameMap (systemStep_sameMap h hown hissued nofun)

lemma apBook_concat (l : List (RunStep (Fw cfg) SystemOp)) (t : RunStep (Fw cfg) SystemOp) :
    apBook (l ++ [t]) = (apBook l).step t := List.foldl_concat _ _ _ _

/-- Every request about a connection that the AP has sent on a cport it has connected to the SVC
has been answered. -/
def AllAnswered (l : List (RunStep (Fw cfg) SystemOp)) : Prop :=
  ∀ l₁ t l₂, l = l₁ ++ t :: l₂ → ∀ f, t.label = .frame f → f.address = ADDRESS_GREYBUS →
    apBook l₁ (frameCport f.buffer).toNat = .connected SVC_INF_ID 0 → ¬ AsksNothing f →
      heardStatus (frameHdr f.buffer) (hdlcBlocks (newEvents t.pre t.post)) ≠ none

/-- An AP that gets its answers knows of every cport. -/
lemma apBook_sure {l : List (RunStep (Fw cfg) SystemOp)} (h : AllAnswered l) :
    (apBook l).Sure := by
  induction l using List.reverseRecOn with
  | nil => exact fun _ => nofun
  | append_singleton l t ih =>
      have hprefix : AllAnswered l := fun l₁ t' l₂ heq =>
        h l₁ t' (l₂ ++ [t]) (by rw [heq, List.append_assoc, List.cons_append])
      rw [apBook_concat, ApBook.step]
      cases hlabel : t.label with
      | frame f => exact (ih hprefix).frame (h l t [] rfl f hlabel)
      | _ => exact ih hprefix

/-- **A run** keeps the book right. -/
theorem apBook_right {s : Fw cfg} {l : List (RunStep (Fw cfg) SystemOp)}
    (hrun : Run (systemStep env) (Fw.boot cfg) l s)
    (hl : ∀ t ∈ l, OwnStep t.pre t.label t.post) :
    (apBook l).Right (∀ t ∈ l, IdsHeld t.pre.core) s.core := by
  induction hrun with
  | nil => exact ApBook.right_boot cfg
  | @snoc l s op s' hrun hstep ih =>
      rw [Run.forall_mem_concat] at hl
      have hnames : NamesRight s.core := Run.keeps (namesRight_kept env) (namesRight_boot cfg) hrun
      rw [apBook_concat]
      refine systemStep_right hstep hl.2 hnames.ids (fun hheld => ?_) ((ih hl.1).mono ?_)
      · exact (Run.forall_mem_concat.mp hheld).2
      · exact fun hheld => (Run.forall_mem_concat.mp hheld).1

/-- The AP has connected its cport 1 to the node's cport 0. -/
example : apBook strangerSteps 1 = .connected 3 0 := by decide +kernel

/-- The steps up to the message of the node. -/
def stepsToNode : List (RunStep (Fw .prjConf) SystemOp) :=
  strangerSteps ++ [⟨strangerSent, .serve 0 readable false, strangerServed⟩] ++
    [⟨strangerServed, .outside, nodeSent⟩]

end Cc1352Greybus
