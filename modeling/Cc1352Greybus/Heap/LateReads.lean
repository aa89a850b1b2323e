import Cc1352Greybus.Greybus.System
import Cc1352Greybus.Nodes.Removal

/-!
Whether a message is read once it has been passed on.

`connection_send` gives a message back to the heap before it returns, if it finds
a slot for it. `control_send_request` then reads the operation id it returns from
the block.

* `readsRight_iff`: over any run of requests and responses, whatever happens
  between them, no message is read late and every id returned is that of the
  message sent, exactly when no request finds a connection.
* `late_read`: the SVC's first request.
-/

namespace Cc1352Greybus

open Effects

variable {cfg : Config}

/-! ### Reads -/

/-- A message is passed on, and read after that. -/
def ReadAfter (a b : Event) : Prop := ∃ id cport msg, a = .connectionSend id cport msg ∧
    b = .msgRead msg.blk

/-- No message is read that has been passed on, be it before or now. -/
structure NoLateRead (before new : List Event) : Prop where
  before : ∀ a ∈ before, ∀ b ∈ new, ¬ ReadAfter a b
  within : new.Pairwise fun a b => ¬ ReadAfter a b

/-- Nothing is read. -/
def Unread (tr : List Event) : Prop := ∀ blk, .msgRead blk ∉ tr

lemma Unread.append {tr tr' : List Event} (h : Unread tr) (h' : Unread tr') :
    Unread (tr ++ tr') := by
  intro blk hmem
  rcases List.mem_append.mp hmem with hmem | hmem
  · exact h blk hmem
  · exact h' blk hmem

lemma Unread.noLateRead {new : List Event} (h : Unread new) (before : List Event) :
    NoLateRead before new := by
  have hnot : ∀ a, ∀ b ∈ new, ¬ ReadAfter a b := by
    rintro a b hb ⟨id, cport, msg, -, rfl⟩
    exact h _ hb
  exact ⟨fun a _ => hnot a, List.pairwise_of_forall_mem_list fun a _ b hb => hnot a b hb⟩

/-- The operation ids of the messages that went out. -/
def sentIds (tr : List Event) : List U16 := tr.filterMap fun
  | .hdlcBlock b => some (GbOperationMsgHdr.ofBytes (b.payload.drop 2)).operationId
  | _ => none

/-! ### Runs -/

/-- A call that builds a message and passes it on, with what it returns, or what
happens between two of them. -/
inductive MessageOp
  | request (req : SvcRequest) (ret : ℤ)
  /-- `svc_response_helper` -/
  | svcResponse (msg : GbMessage) (payload : List U8) (status : U8)
  /-- `response_helper` -/
  | localResponse (msg : GbMessage) (payload : List U8) (status : U8) (cport : U16)
  | other

variable (env : Env)

/-- One call, to its end. -/
def messageStep (s : Fw cfg) (op : MessageOp) (s' : Fw cfg) : Prop :=
  match op with
  | .request req ret => Ends (req.send env) s ret s'
  | .svcResponse msg payload status => Ends (svcResponseHelper env msg payload status) s () s'
  | .localResponse msg payload status cport =>
      Ends (responseHelper env msg payload status cport) s () s'
  | .other => True

/-- A call reads no message that has been passed on, and if it returns an
operation id, that of the message it sent. -/
def ReadsRight (t : RunStep (Fw cfg) MessageOp) : Prop :=
  match t.label with
  | .other => True
  | .request _ ret => NoLateRead t.pre.io.trace (newEvents t.pre t.post) ∧
      (0 ≤ ret → ∃ id ∈ sentIds (newEvents t.pre t.post), ret = id.toNat)
  | _ => NoLateRead t.pre.io.trace (newEvents t.pre t.post)

/-- A request finds no connection of the SVC. -/
def RequestRefused (s : Fw cfg) : MessageOp → Prop
  | .request _ _ => s.core.svcLink = none
  | _ => True

/-! ### One call -/

lemma memcpyPayload_ends {msg r : Option GbMessage} {src : List U8} {io io' : Io}
    (h : Ends (memcpyPayload msg src) io r io') : io = io' := by
  cases msg with
  | none =>
      rw [memcpyPayload] at h
      split_ifs at h
      · exact (ends_pure.mp h).2
      · exact (ends_throw.mp h).elim
  | some msg =>
      obtain ⟨m, io₁, h₁, h⟩ := ends_bind.mp h
      rw [fillPayload] at h₁
      split_ifs at h₁
      · exact (ends_throw.mp h₁).elim
      · rw [(ends_pure.mp h₁).2, (ends_pure.mp h).2]

lemma unread_sendEvents {n : ℕ} (link : Option (Fin n)) (id : U8) (cport : U16) (msg : GbMessage) :
    Unread (sendEvents link id cport msg) := by
  intro blk
  cases link <;> simp [sendEvents]

/-- A response is built and passed on, and not looked at again. -/
lemma unread_respond {id : U8} {cport : U16} {msg : GbMessage} {payload : List U8} {status : U8}
    {s s' : Fw cfg} {u : Unit} (h : Ends (respond env id cport msg payload status) s u s') :
    Unread (newEvents s s') := by
  obtain ⟨r, s₁, h₁, h⟩ := ends_bind.mp h
  obtain ⟨io₁, hresp, rfl⟩ := ends_liftIo.mp h₁
  obtain ⟨m, io₂, halloc, hcopy⟩ := ends_bind.mp hresp
  obtain rfl := memcpyPayload_ends hcopy
  obtain ⟨heap, hheap, htrace⟩ := respects_gbMessageAlloc env _ _ _ _ halloc
  have hunread : Unread heap := by
    intro blk hmem
    cases hheap _ hmem
  cases r with
  | none =>
      obtain ⟨-, rfl⟩ := ends_pure.mp h
      simpa [newEvents, htrace] using hunread
  | some resp =>
      obtain ⟨ret, hsend⟩ := ends_discard.mp h
      obtain ⟨-, -, rfl⟩ := ends_connectionSendToAp.mp hsend
      simpa [newEvents, htrace] using hunread.append (unread_sendEvents _ _ _ _)

/-- A request is built and passed on, and read again if it went out. -/
lemma request_events {req : SvcRequest} {s s' : Fw cfg} {ret : ℤ}
    (h : Ends (req.send env) s ret s') :
    (0 ≤ ret → s.core.svcLink.isSome) ∧ ∃ msg pre post, Unread pre ∧ Unread post ∧
      newEvents s s' = pre ++ requestEvents s.core.svcLink msg ++ post := by
  have hplain : ∀ {payload : List U8} {type : U8}, payload ≠ [] → payload.length + 8 < 2 ^ 16 →
      Ends (controlSendRequest env payload type) s ret s' → (0 ≤ ret → s.core.svcLink.isSome) ∧
        ∃ msg pre post, Unread pre ∧ Unread post ∧
          newEvents s s' = pre ++ requestEvents s.core.svcLink msg ++ post := by
    intro payload type hne hlen h
    obtain ⟨hret, msg, -, htrace⟩ := controlSendRequest_ends env hne hlen h
    exact ⟨hret.mp, msg, [], [], by simp [Unread], by simp [Unread], by simp [newEvents, htrace]⟩
  cases req with
  | version => exact hplain (by simp) (by simp) h
  | hello => exact hplain (by simp) (by simp) h
  | moduleInserted id => exact hplain (by simp) (by simp) h
  | moduleRemoved p =>
      obtain ⟨-, tr, ⟨msg, -, rfl⟩, htrace⟩ := svcSendModuleRemoved_ends env h
      refine ⟨fun hret => ?_, msg, [.moduleRemoved p, .intfRead p],
        if s.core.svcLink.isSome then destroyEvents p (s.core.sockOf p) else [],
          by simp [Unread], ?_,
        by simp [newEvents, htrace, reportEvents]⟩
      · rcases svcSendModuleRemoved_core env h with ⟨hneg, -⟩ | ⟨-, hlink, -⟩
        · exact absurd hret (not_le.mpr hneg)
        · exact hlink
      · intro blk
        split_ifs <;> simp [destroyEvents]

/-- One request reads no message late exactly when it finds no connection. -/
lemma readsRight_request_iff {req : SvcRequest} {s s' : Fw cfg} {ret : ℤ}
    (h : Ends (req.send env) s ret s') :
    ReadsRight ⟨s, .request req ret, s'⟩ ↔ s.core.svcLink = none := by
  obtain ⟨hret, msg, pre, post, hpre, hpost, hevents⟩ := request_events env h
  rw [ReadsRight]
  dsimp only
  cases hlink : s.core.svcLink with
  | none =>
      rw [hlink] at hret hevents
      have hreq : Unread (requestEvents (none : Option (Fin cfg.apMaxNodes)) msg) := by
        simp [Unread, requestEvents]
      refine iff_of_true ⟨?_, fun h0 => by cases hret h0⟩ rfl
      rw [hevents]
      exact ((hpre.append hreq).append hpost).noLateRead _
  | some c =>
      refine iff_of_false (fun hright => ?_) (by simp)
      -- the message goes out, and its operation id is read
      have hsub : [.connectionSend SVC_INF_ID 0 msg, .msgRead msg.blk].Sublist
          (newEvents s s') := by
        rw [hevents, hlink]
        refine ((List.Sublist.refl _).trans ?_).trans (List.sublist_append_left _ post)
        refine List.Sublist.trans ?_ (List.sublist_append_right pre _)
        simp [requestEvents]
      have hpair := hright.1.within.sublist hsub
      rw [List.pairwise_pair] at hpair
      exact hpair ⟨SVC_INF_ID, 0, msg, rfl, rfl⟩

/-- **No late reads.** Over any run, whatever happens between its requests and
responses, none of them reads a message that has been passed on, and every
operation id returned is that of the message sent, exactly when no request finds
the SVC connected. -/
theorem readsRight_iff {s s' : Fw cfg} {l : List (RunStep (Fw cfg) MessageOp)}
    (hrun : Run (messageStep env) s l s') :
    (∀ t ∈ l, ReadsRight t) ↔ ∀ t ∈ l, RequestRefused t.pre t.label := by
  refine forall₂_congr fun t ht => ?_
  have hstep := hrun.steps t ht
  obtain ⟨s₁, op, s₂⟩ := t
  cases op with
  | request req ret => exact readsRight_request_iff env hstep
  | svcResponse msg payload status =>
      exact iff_of_true ((unread_respond env hstep).noLateRead _) trivial
  | localResponse msg payload status cport =>
      exact iff_of_true ((unread_respond env hstep).noLateRead _) trivial
  | other => exact iff_of_true trivial trivial

/-! ### A block that is used again -/

/-- An environment in which freed blocks are written to. -/
def busyEnv : Env := { calmEnv with freedOperationId := fun _ => 0xdead }

/-- The SVC has sent its version. -/
def versionSent : Fw .prjConf := final (svcSendVersion busyEnv) withSvc

lemma versionSent_run : Run (messageStep busyEnv) withSvc
    [⟨withSvc, .request .version 0xdead, versionSent⟩] versionSent := by
  have h : messageStep busyEnv withSvc (.request .version 0xdead) versionSent :=
    ends_final (by decide +kernel)
  exact Run.single h

/-- Whether that reads right. -/
theorem readsRight_iff_version :
    (∀ t ∈ [(⟨withSvc, .request .version 0xdead, versionSent⟩ : RunStep (Fw .prjConf) MessageOp)],
        ReadsRight t) ↔
      ∀ t ∈ [(⟨withSvc, .request .version 0xdead, versionSent⟩ : RunStep (Fw .prjConf) MessageOp)],
        RequestRefused t.pre t.label :=
  readsRight_iff busyEnv versionSent_run

/-- It returns what has been written to the block since, and no id of a message it
sent. -/
theorem late_read :
    ¬ ∀ (env : Env) (s s' : Fw .prjConf) (l : List (RunStep (Fw .prjConf) MessageOp)),
      Run (messageStep env) s l s' → ∀ t ∈ l, ReadsRight t := by
  intro h
  have hright : ReadsRight ⟨withSvc, .request .version 0xdead, versionSent⟩ :=
    h busyEnv _ _ _ versionSent_run _ (List.mem_singleton_self _)
  obtain ⟨id, hid, hret⟩ := hright.2 (by decide)
  have hsent : sentIds (newEvents withSvc versionSent) = [1] := by decide +kernel
  rw [hsent, List.mem_singleton] at hid
  subst hid
  exact absurd hret (by decide)

end Cc1352Greybus
