import Cc1352Greybus.Greybus.Main
import Cc1352Greybus.Nodes.Removal

/-!
Programs that give back every message they allocate.

A message belongs to whom it is passed to, and the one who passes it on does not
take it back, not even from a call that failed.

* `Settled`: a stretch of the trace that gives back what it allocates.
* `Tidy`: the devices before and after such a stretch.
* `tidy_controlSendRequest`, `tidy_respond`, ..: what the SVC sends while it has
  a connection, and what is built on it.
-/

namespace Cc1352Greybus

open Effects

variable {cfg : Config}

/-! ### The ledger -/

/-- The blocks allocated, in order. -/
def allocs (tr : List Event) : List ℕ := tr.filterMap fun
  | .alloc blk => some blk
  | _ => none

/-- The blocks given back, in order. -/
def deallocs (tr : List Event) : List ℕ := tr.filterMap fun
  | .dealloc blk => some blk
  | _ => none

lemma allocs_append (tr tr' : List Event) : allocs (tr ++ tr') = allocs tr ++ allocs tr' :=
  List.filterMap_append

lemma deallocs_append (tr tr' : List Event) : deallocs (tr ++ tr') = deallocs tr ++ deallocs tr' :=
  List.filterMap_append

/-- Every block allocated is given back exactly once, and no other is. -/
structure Settled (tr : List Event) : Prop where
  nodup : (allocs tr).Nodup
  returned : (deallocs tr).Perm (allocs tr)

/-- Nothing is done to the message heap. -/
def Quiet (tr : List Event) : Prop := ∀ e ∈ tr, e.isHeap = false

lemma Quiet.allocs {tr : List Event} (h : Quiet tr) : allocs tr = [] := by
  refine List.filterMap_eq_nil_iff.mpr fun e he => ?_
  have := h e he
  cases e with
  | alloc blk => cases this
  | _ => rfl

lemma Quiet.deallocs {tr : List Event} (h : Quiet tr) : deallocs tr = [] := by
  refine List.filterMap_eq_nil_iff.mpr fun e he => ?_
  have := h e he
  cases e with
  | dealloc blk => cases this
  | _ => rfl

/-- The devices after a settled stretch. Blocks are numbered as they are
allocated. -/
def Tidy (io io' : Io) : Prop :=
  ∃ tr n, io'.trace = io.trace ++ tr ∧ io'.heapCalls = io.heapCalls + n ∧
    (allocs tr).Sublist (List.range' io.heapCalls n) ∧ (deallocs tr).Perm (allocs tr)

/-- Nothing has been done to the heap, and nothing asked of it. -/
lemma Tidy.of_quiet {io io' : Io} {tr : List Event} (htrace : io'.trace = io.trace ++ tr)
    (hcalls : io'.heapCalls = io.heapCalls) (h : Quiet tr) : Tidy io io' := by
  refine ⟨tr, 0, htrace, hcalls, ?_, ?_⟩
  · rw [h.allocs]
    exact List.nil_sublist _
  · rw [h.allocs, h.deallocs]

lemma Tidy.of_same {io io' : Io} (htrace : io'.trace = io.trace)
    (hcalls : io'.heapCalls = io.heapCalls) :
    Tidy io io' :=
  .of_quiet (by rw [htrace, List.append_nil]) hcalls (by simp [Quiet])

lemma Tidy.logged (io : Io) {tr : List Event} (h : Quiet tr) : Tidy io (io.logged tr) :=
  .of_quiet rfl rfl h

instance : Std.Refl Tidy := ⟨fun _ => .of_same rfl rfl⟩

instance : IsTrans Io Tidy where
  trans := by
    rintro a b c ⟨tr, n, htr, hn, hsub, hperm⟩ ⟨tr', n', htr', hn', hsub', hperm'⟩
    refine ⟨tr ++ tr', n + n', by rw [htr', htr, List.append_assoc], by omega, ?_, ?_⟩
    · rw [allocs_append, ← List.range'_append_1]
      exact hsub.append (hn ▸ hsub')
    · rw [allocs_append, deallocs_append]
      exact hperm.append hperm'

lemma Tidy.trans {a b c : Io} (h : Tidy a b) (h' : Tidy b c) : Tidy a c := trans_of Tidy h h'

/-- An allocation that fails. -/
lemma Tidy.refused (io : Io) : Tidy io (io.afterAlloc []) :=
  ⟨[], 1, rfl, rfl, List.nil_sublist _, List.Perm.refl _⟩

/-- A block that is allocated, used and given back. -/
lemma Tidy.wrap {io io₁ io₂ : Io} (h : Tidy (io.afterAlloc [.alloc io.heapCalls]) io₁)
    (htrace : io₂.trace = io₁.trace ++ [.dealloc io.heapCalls])
    (hcalls : io₂.heapCalls = io₁.heapCalls) :
    Tidy io io₂ := by
  obtain ⟨tr, n, htr, hn, hsub, hperm⟩ := h
  refine ⟨[.alloc io.heapCalls] ++ tr ++ [.dealloc io.heapCalls], 1 + n, ?_, ?_, ?_, ?_⟩
  · rw [htrace, htr]
    simp [Io.afterAlloc]
  · rw [hcalls, hn, Io.afterAlloc, Nat.add_assoc]
  · have hrange : List.range' io.heapCalls (1 + n) =
        io.heapCalls :: List.range' (io.heapCalls + 1) n := by
      rw [Nat.add_comm, List.range'_succ]
    rw [allocs_append, allocs_append, hrange]
    simpa [allocs, Io.afterAlloc] using hsub.cons_cons io.heapCalls
  · rw [allocs_append, allocs_append, deallocs_append, deallocs_append]
    have := (hperm.append_right [io.heapCalls]).trans (List.perm_append_singleton _ _)
    simpa [allocs, deallocs] using this

/-- A stretch that gives back one block besides its own. -/
def GivesBack (blk : ℕ) (io io' : Io) : Prop :=
  ∃ io₁, Tidy io io₁ ∧ io'.trace = io₁.trace ++ [.dealloc blk] ∧ io'.heapCalls = io₁.heapCalls

/-- A block that is allocated, and given back by what comes next. -/
lemma Tidy.of_givesBack {io io' : Io}
    (h : GivesBack io.heapCalls (io.afterAlloc [.alloc io.heapCalls]) io') : Tidy io io' := by
  obtain ⟨io₁, htidy, htrace, hcalls⟩ := h
  exact .wrap htidy htrace hcalls

lemma GivesBack.after {blk : ℕ} {io io₁ io' : Io} (h : Tidy io io₁) (h' : GivesBack blk io₁ io') :
    GivesBack blk io io' := by
  obtain ⟨io₂, htidy, htrace, hcalls⟩ := h'
  exact ⟨io₂, h.trans htidy, htrace, hcalls⟩

/-- What is settled from one state to the next. -/
lemma Tidy.settled {s s' : Fw cfg} (h : Tidy s.io s'.io) : Settled (newEvents s s') := by
  obtain ⟨tr, n, htr, -, hsub, hperm⟩ := h
  have hevents : newEvents s s' = tr := by simp [newEvents, htr]
  rw [hevents]
  exact ⟨hsub.nodup List.nodup_range', hperm⟩

/-! ### Messages of the firmware's own -/

variable (env : Env)

/-- A message for the AP is given back, if there is a slot for it. -/
lemma givesBack_connectionSendToAp {id : U8} {cport : U16} {msg : GbMessage} {s s' : Fw cfg}
    {ret : ℤ} (hlink : (nodeToApCport s.core.nodeApMap id cport).isSome)
    (h : Ends (connectionSendToAp id cport msg) s ret s') :
    ret = 0 ∧ GivesBack msg.blk s.io s'.io := by
  obtain ⟨-, hret, rfl⟩ := ends_connectionSendToAp.mp h
  obtain ⟨k, hk⟩ := Option.isSome_iff_exists.mp hlink
  rw [hk] at hret ⊢
  refine ⟨by simpa using hret, s.io.logged [.connectionSend id cport msg,
    .hdlcBlock (greybusBlock (BitVec.ofNat 16 k) msg)],
      .logged _ (by simp [Quiet, Event.isHeap]), ?_, rfl⟩
  simp [sendEvents]

/-- A request of the SVC, while it has a connection. -/
lemma tidy_controlSendRequest {payload : List U8} {requestType : U8} {s s' : Fw cfg} {ret : ℤ}
    (hlen : payload.length + 8 < 2 ^ 32) (hlink : s.core.svcLink.isSome)
    (h : Ends (controlSendRequest env payload requestType) s ret s') : Tidy s.io s'.io := by
  obtain ⟨r, s₁, h₁, h⟩ := ends_bind.mp h
  obtain ⟨io₁, halloc, rfl⟩ := ends_liftIo.mp h₁
  obtain ⟨opId, io₂, hid, halloc⟩ := ends_bind.mp halloc
  obtain ⟨-, hio₂⟩ := ends_modifyGet.mp hid
  -- the counter of operation ids has moved on
  have hcounter : Tidy s.io io₂ := by
    rw [← hio₂]
    exact .of_same rfl rfl
  refine hcounter.trans ?_
  rcases alloc_memcpy_ends env hlen halloc with ⟨rfl, -, rfl⟩ | ⟨rfl, rfl⟩
  · obtain ⟨-, rfl⟩ := ends_pure.mp h
    exact .refused _
  · dsimp only at h
    obtain ⟨r, s₂, h₂, h⟩ := ends_bind.mp h
    obtain ⟨rfl, hback⟩ := givesBack_connectionSendToAp
      (s := ⟨s.core, io₂.afterAlloc [.alloc io₂.heapCalls]⟩) hlink h₂
    rw [if_neg (lt_irrefl 0)] at h
    obtain ⟨_, s₃, h₃, h⟩ := ends_bind.mp h
    obtain ⟨-, rfl⟩ := ends_pure.mp h
    obtain ⟨io₃, hemit, rfl⟩ := ends_liftIo.mp h₃
    rw [← (ends_modify.mp hemit)]
    exact (Tidy.of_givesBack hback).trans (.logged _ (by simp [Quiet, Event.isHeap]))

/-- A response, while its sender has a connection. -/
lemma tidy_respond {id : U8} {cport : U16} {msg : GbMessage} {payload : List U8} {status : U8}
    {s s' : Fw cfg} {u : Unit} (hlen : payload.length + 8 < 2 ^ 32)
    (hlink : (nodeToApCport s.core.nodeApMap id cport).isSome)
    (h : Ends (respond env id cport msg payload status) s u s') : Tidy s.io s'.io := by
  obtain ⟨r, s₁, h₁, h⟩ := ends_bind.mp h
  obtain ⟨io₁, halloc, rfl⟩ := ends_liftIo.mp h₁
  rcases alloc_memcpy_ends env hlen halloc with ⟨rfl, -, rfl⟩ | ⟨rfl, rfl⟩
  · obtain ⟨-, rfl⟩ := ends_pure.mp h
    exact .refused _
  · obtain ⟨ret, hsend⟩ := ends_discard.mp h
    have hback := (givesBack_connectionSendToAp
      (s := ⟨s.core, s.io.afterAlloc [.alloc s.io.heapCalls]⟩) hlink hsend).2
    exact .of_givesBack hback

/-! ### Reports and writes -/

lemma svcLink_destroyInterface (c : Core cfg) (p : Ptr) :
    (c.destroyInterface env p).svcLink = c.svcLink := rfl

/-- A report that a node is gone, while the SVC has a connection. -/
lemma tidy_svcSendModuleRemoved {p : Ptr} {s s' : Fw cfg} {ret : ℤ} (hlink : s.core.svcLink.isSome)
    (h : Ends (svcSendModuleRemoved env p) s ret s') :
    Tidy s.io s'.io ∧ s'.core.svcLink.isSome := by
  have hcore := (svcSendModuleRemoved_ends env h).1
  rw [Core.afterReport, if_pos hlink] at hcore
  refine ⟨?_, by rw [hcore, svcLink_destroyInterface]; exact hlink⟩
  rw [svcSendModuleRemoved, (Ends.liftIo (Ends.emit _ s.io)).bind_iff,
    (readIntf_ends p _).bind_iff] at h
  dsimp only at h
  obtain ⟨r, s₁, h₁, h⟩ := ends_bind.mp h
  have hlen : [(s.core.intfMem p).id].length + 8 < 2 ^ 32 := by simp
  have hreq := tidy_controlSendRequest env
    (s := ⟨s.core, (s.io.logged [.moduleRemoved p]).logged [.intfRead p]⟩) hlen hlink h₁
  dsimp only at hreq
  rw [Io.logged_logged] at hreq
  have hread : Tidy s.io s₁.io := (Tidy.logged _ (by simp [Quiet, Event.isHeap])).trans hreq
  split_ifs at h
  · obtain ⟨-, rfl⟩ := ends_pure.mp h
    exact hread
  · rw [(nodeDestroyInterface_ends env p s₁).bind_iff] at h
    obtain ⟨-, rfl⟩ := ends_pure.mp h
    refine hread.trans (.logged _ ?_)
    intro e he
    simp only [destroyEvents, List.cons_append, List.mem_cons, List.mem_append, mem_closeEvents,
      List.not_mem_nil, or_false] at he
    rcases he with rfl | ⟨-, rfl⟩ | rfl | rfl <;> rfl

lemma tidy_svcSendModuleRemovedBySock {sock : ℤ} {s s' : Fw cfg} {u : Unit}
    (hlink : s.core.svcLink.isSome) (h : Ends (svcSendModuleRemovedBySock env sock) s u s') :
    Tidy s.io s'.io ∧ s'.core.svcLink.isSome := by
  rcases ends_svcSendModuleRemovedBySock.mp h with ⟨-, rfl⟩ | ⟨i, e, ret, -, hrem⟩
  · exact ⟨refl_of Tidy _, hlink⟩
  · exact tidy_svcSendModuleRemoved env hlink hrem

lemma SendsOn.quiet {sock : ℤ} {tr : List Event} (h : SendsOn sock tr) : Quiet tr := by
  intro e he
  obtain ⟨bs, rfl⟩ := h e he
  rfl

/-- A program that ends by giving a message back. -/
lemma GivesBack.of_dealloc {msg : GbMessage} {io : Io} {s s' : Fw cfg} {r ret : ℤ}
    (h : Tidy io s.io)
    (hend : Ends (do liftIo (gbMessageDealloc msg); return r) s ret s') :
    GivesBack msg.blk io s'.io := by
  rw [gbMessageDealloc, show s = ⟨s.core, s.io⟩ from rfl,
    (Ends.liftIo (Ends.emit _ _)).bind_iff] at hend
  obtain ⟨-, rfl⟩ := ends_pure.mp hend
  exact ⟨s.io, h, rfl, rfl⟩

/-- A message for a node: it is given back, whether it could be written or not. -/
lemma givesBack_nodeInfWrite {q : Ptr} {msg : GbMessage} {cport : U16} {s s' : Fw cfg} {ret : ℤ}
    (hlink : s.core.svcLink.isSome) (h : Ends (nodeInfWrite env q msg cport) s ret s') :
    GivesBack msg.blk s.io s'.io := by
  rw [nodeInfWrite, (readIntf_ends q s).bind_iff, (Ends.getCore _).bind_iff] at h
  dsimp only at h
  obtain ⟨r, s₁, h₁, h⟩ := ends_bind.mp h
  have hread : Tidy s.io (s.io.logged [.intfRead q]) := .logged _ (by simp [Quiet, Event.isHeap])
  obtain ⟨sent, calls, hon, hsend⟩ := gbMessageSend_ends env (s.core.sockOf q) msg cport
    ⟨s.core, s.io.logged [.intfRead q]⟩
  have hsent : Tidy s.io ((s.io.logged [.intfRead q]).afterSends sent calls) :=
    hread.trans (.of_quiet rfl rfl hon.quiet)
  obtain ⟨hs₁, hlink₁⟩ : Tidy s.io s₁.io ∧ s₁.core.svcLink.isSome := by
    rcases hsend with ⟨-, hsend⟩ | ⟨-, hsend⟩
    · obtain ⟨-, -, rfl⟩ := (hsend r s₁).mp h₁
      exact ⟨hsent, hlink⟩
    · obtain ⟨-, hfirst⟩ := (hsend r s₁).mp h₁
      obtain ⟨htidy, hlink₁⟩ := tidy_svcSendModuleRemovedBySock env
        (s := ⟨s.core, (s.io.logged [.intfRead q]).afterSends sent calls⟩) hlink hfirst
      exact ⟨hsent.trans htidy, hlink₁⟩
  split_ifs at h
  · obtain ⟨_, s₂, h₂, h⟩ := ends_bind.mp h
    obtain ⟨_, hrem⟩ := ends_discard.mp h₂
    exact .of_dealloc (hs₁.trans (tidy_svcSendModuleRemoved env hlink₁ hrem).1) h
  · exact .of_dealloc hs₁ h

/-! ### Connections -/

/-- Sockets are opened, closed or served. -/
def Event.isNet : Event → Bool
  | .sockOpen _ => true
  | .sockClose _ => true
  | .pipeSend _ => true
  | _ => false

/-- Nothing is done with the devices but to sockets. -/
structure NetOnly (io io' : Io) : Prop where
  trace : ∃ tr, io'.trace = io.trace ++ tr ∧ ∀ e ∈ tr, e.isNet = true
  heapCalls : io'.heapCalls = io.heapCalls

lemma NetOnly.of_same {io io' : Io} (htrace : io'.trace = io.trace)
    (hcalls : io'.heapCalls = io.heapCalls) : NetOnly io io' :=
  ⟨⟨[], by rw [htrace, List.append_nil], by simp⟩, hcalls⟩

lemma NetOnly.logged (io : Io) {tr : List Event} (h : ∀ e ∈ tr, e.isNet = true) :
    NetOnly io (io.logged tr) := ⟨⟨tr, rfl, h⟩, rfl⟩

instance : Std.Refl NetOnly := ⟨fun _ => .of_same rfl rfl⟩

instance : IsTrans Io NetOnly where
  trans := by
    rintro a b c ⟨⟨tr, htr, hnet⟩, hcalls⟩ ⟨⟨tr', htr', hnet'⟩, hcalls'⟩
    refine ⟨⟨tr ++ tr', by rw [htr', htr, List.append_assoc], fun e he => ?_⟩, hcalls'.trans hcalls⟩
    exact (List.mem_append.mp he).elim (hnet e) (hnet' e)

/-- Then nothing is done to the message heap. -/
lemma NetOnly.tidy {io io' : Io} (h : NetOnly io io') : Tidy io io' := by
  obtain ⟨⟨tr, htrace, hnet⟩, hcalls⟩ := h
  refine .of_quiet htrace hcalls fun e he => ?_
  have := hnet e he
  cases e with
  | alloc blk => cases this
  | dealloc blk => cases this
  | _ => rfl

lemma netOnly_connectToNode : Respects NetOnly (connectToNode env) := by
  intro io ret io' h
  rcases connectToNode_ends env io with ⟨-, hend⟩ | ⟨fd, -, ⟨-, hend⟩ | ⟨-, hend⟩⟩
  · obtain ⟨-, rfl⟩ := hend.unique h
    exact .of_same rfl rfl
  · obtain ⟨-, rfl⟩ := hend.unique h
    exact ⟨⟨[.sockOpen fd], rfl, by simp [Event.isNet]⟩, rfl⟩
  · obtain ⟨-, rfl⟩ := hend.unique h
    exact ⟨⟨[.sockOpen fd, .sockClose fd], by simp [Io.afterSocket, Io.logged],
      by simp [Event.isNet]⟩, rfl⟩

lemma netOnly_pipeSend : Respects NetOnly pipeSend := by
  intro io u io' h
  obtain ⟨-, rfl⟩ := (Ends.pipeSend io).unique h
  exact .logged io (by simp [Event.isNet])

/-- The devices, through a program over both. -/
def NetOnlyFw (s s' : Fw cfg) : Prop := NetOnly s.io s'.io

instance : Std.Refl (@NetOnlyFw cfg) := ⟨fun s => refl_of NetOnly s.io⟩

instance : IsTrans (Fw cfg) NetOnlyFw := ⟨fun _ _ _ h h' => trans_of NetOnly h h'⟩

lemma netOnly_liftIo {α : Type} {m : IoM α} (h : Respects NetOnly m) :
    Respects NetOnlyFw (liftIo m : FwM cfg α) := by
  intro s a s' hs
  obtain ⟨io, hio, rfl⟩ := ends_liftIo.mp hs
  exact h hio

lemma netOnly_getCore : Respects NetOnlyFw (getCore : FwM cfg (Core cfg)) := by
  intro s c s' h
  obtain ⟨-, rfl⟩ := ends_getCore.mp h
  exact refl_of NetOnlyFw s

lemma netOnly_modifyCore (f : Core cfg → Core cfg) : Respects NetOnlyFw (modifyCore f) := by
  intro s u s' h
  rw [ends_modifyCore.mp h]
  exact refl_of NetOnly s.io

lemma netOnly_modifyGetCore {α : Type} (f : Core cfg → α × Core cfg) :
    Respects NetOnlyFw (modifyGetCore f) := by
  intro s a s' h
  rw [(ends_modifyGetCore.mp h).2]
  exact refl_of NetOnly s.io

lemma netOnly_nodeIntfCreateConnection (ctrl : Ptr) (cportId : U16) :
    Respects NetOnlyFw (nodeIntfCreateConnection env ctrl cportId : FwM cfg ℤ) := by
  refine netOnly_getCore.bind fun c => ?_
  dsimp only
  split_ifs
  · exact respects_pure _
  · exact respects_pure _
  · cases nodeCacheFindById c.nodeCache (c.intfMem ctrl).id with
    | none => exact respects_pure _
    | some r =>
        refine (netOnly_liftIo (netOnly_connectToNode env)).bind fun sock => ?_
        split_ifs
        · exact respects_pure _
        · exact (netOnly_modifyCore _).bind fun _ =>
            (netOnly_liftIo netOnly_pipeSend).bind fun _ => respects_pure _

/-- A creation of a connection does nothing but to sockets. -/
lemma netOnly_connectionCreate (i₁ : U8) (p₁ : U16) (i₂ : U8) (p₂ : U16) :
    Respects NetOnlyFw (connectionCreate env i₁ p₁ i₂ p₂ : FwM cfg ℤ) := by
  rw [connectionCreate]
  cases endpoint i₁ p₁ i₂ p₂ with
  | none => exact respects_pure _
  | some e =>
      refine netOnly_getCore.bind fun c => ?_
      cases gbInterfaceFindById c e.nodeId with
      | none => exact respects_pure _
      | some intf =>
          have hcreate : Respects NetOnlyFw
              (intfCreateConnection env intf e.nodeCport : FwM cfg ℤ) := by
            cases intf with
            | svc => exact netOnly_getCore.bind fun _ => respects_pure _
            | localNode => exact respects_pure _
            | node p => exact netOnly_nodeIntfCreateConnection env p _
          refine hcreate.bind fun ret => ?_
          split_ifs
          · exact respects_pure _
          · refine (netOnly_modifyGetCore _).bind fun ret => ?_
            split_ifs
            · exact respects_pure _
            · exact respects_pure _

/-- Nor does its end. -/
lemma netOnly_connectionDestroy (i₁ : U8) (p₁ : U16) (i₂ : U8) (p₂ : U16) :
    Respects NetOnlyFw (connectionDestroy i₁ p₁ i₂ p₂ : FwM cfg ℤ) := by
  rw [connectionDestroy]
  cases endpoint i₁ p₁ i₂ p₂ with
  | none => exact respects_pure _
  | some e =>
      refine netOnly_getCore.bind fun c => ?_
      have hremove : Respects NetOnlyFw (do
          discard (modifyGetCore fun c : Core cfg => c.nodeApRemove e.apCport)
          return (0 : ℤ)) :=
        (netOnly_modifyGetCore _).discard.bind fun _ => respects_pure _
      cases gbInterfaceFindById c e.nodeId with
      | none => exact hremove
      | some intf =>
          have hdestroy : Respects NetOnlyFw
              (intfDestroyConnection intf e.nodeCport : FwM cfg Unit) := by
            cases intf with
            | svc =>
                rw [intfDestroyConnection, svcInfDestroyConnection]
                split_ifs
                · exact respects_pure _
                · exact netOnly_modifyCore _
            | localNode => exact respects_pure _
            | node p => exact respects_pure _
          exact hdestroy.bind fun _ => hremove

end Cc1352Greybus
