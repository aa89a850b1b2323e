import Cc1352Greybus.Heap.LateReads
import Cc1352Greybus.Routing.Requests

/-!
What happens when the message heap is exhausted.

`gb_message_request_alloc` and `gb_message_response_alloc` copy a payload to the message
they have asked for; whether there is one is for their callers to find out.

* `BuildOp.prepare`: a call, up to the message it builds.
* `survivesExhaustion_iff`: over any run, a call that gets no block for its message
  fails or leaves the message out, with the tables as they were, exactly when no call
  with a payload is refused one.
* `exhausted_calls`: a request and a response that are.
-/

namespace Cc1352Greybus

open Effects

variable {cfg : Config} (env : Env)

/-! ### Messages without a block -/

section refused

variable {env} {payload : List U8} {io : Io} {s : Fw cfg}

/-- A payload is copied to address zero, if there is one and no message for it. -/
lemma stops_alloc_memcpy_iff (messageType : U8) (operationId : U16) (status : U8)
    (hlen : payload.length + 8 < 2 ^ 32) : Stops (do
      let msg ← gbMessageAlloc env payload.length messageType operationId status
      memcpyPayload msg payload) io .nullPointer ↔
        payload ≠ [] ∧ ¬ HeapGrants env io (8 + payload.length) := by
  by_cases hgrants : HeapGrants env io (8 + payload.length)
  · refine iff_of_false ?_ fun h => h.2 hgrants
    exact (ends_alloc_memcpy env io messageType operationId status hlen hgrants.2).not_stops _
  · rw [(gbMessageAlloc_refused messageType operationId status hlen hgrants).stops_bind_iff,
      memcpyPayload.eq_def]
    dsimp only
    split_ifs with hnil
    · exact iff_of_false ((Ends.pure _ _).not_stops _) fun h => h.1 hnil
    · rw [stops_throw]
      exact iff_of_true rfl ⟨hnil, hgrants⟩

/-- Nothing is copied where there is nothing to copy. -/
lemma alloc_memcpy_refused (messageType : U8) (operationId : U16) (status : U8)
    (h : ¬ HeapGrants env io 8) : Ends (do
      let msg ← gbMessageAlloc env ([] : List U8).length messageType operationId status
      memcpyPayload msg []) io none (io.afterAlloc []) :=
  (gbMessageAlloc_refused messageType operationId status (by decide) h).bind (Ends.pure _ _)

/-- A message on its way to the AP is there, but may be too long. -/
lemma avoids_connectionSendToAp {f : Fault} (hf : .outOfBounds ≠ f) (id : U8) (cport : U16)
    (msg : GbMessage) : Avoids f (connectionSendToAp id cport msg : FwM cfg ℤ) := by
  refine (Avoids.liftIo (avoids_emit _)).bind fun _ => ?_
  refine (avoids_of_ends fun s => ⟨_, _, Ends.getCore s⟩ : Avoids _ getCore).bind fun c => ?_
  cases nodeToApCport c.nodeApMap id cport with
  | none => exact avoids_pure _
  | some apCport =>
      have hsend : Avoids f (gbMessageHdlcSend cfg msg (BitVec.ofNat 16 apCport)) := by
        rw [gbMessageHdlcSend]
        exact avoids_ite (avoids_throw hf) ((avoids_emit _).bind fun _ => avoids_pure _)
      exact Avoids.liftIo (hsend.bind fun _ => (avoids_emit _).bind fun _ => avoids_pure _)

/-- `control_send_request` -/
lemma stops_controlSendRequest_iff (requestType : U8) (hlen : payload.length + 8 < 2 ^ 32) :
    Stops (controlSendRequest env payload requestType) s .nullPointer ↔
      payload ≠ [] ∧ ¬ HeapGrants env s.io (8 + payload.length) := by
  have hid : Ends newOperationId s.io (BitVec.ofNat 16 s.io.operationIdCounter) _ :=
    ends_modifyGet.mpr ⟨rfl, rfl⟩
  have halloc : Stops (gbMessageRequestAlloc env payload requestType false) s.io .nullPointer ↔
      payload ≠ [] ∧ ¬ HeapGrants env s.io (8 + payload.length) := by
    rw [gbMessageRequestAlloc, if_neg Bool.false_ne_true, hid.stops_bind_iff,
      stops_alloc_memcpy_iff requestType _ 0 hlen]
    rfl
  rw [controlSendRequest, stops_bind, stops_liftIo, halloc, or_iff_left]
  rintro ⟨m, s₁, -, h⟩
  cases m with
  | none => exact (Ends.pure _ s₁).not_stops _ h
  | some msg =>
      refine Avoids.bind (avoids_connectionSendToAp (by decide) _ _ _) (fun ret => ?_) s₁ h
      exact avoids_ite (avoids_pure _) ((Avoids.liftIo (avoids_emit _)).bind fun _ => avoids_pure _)

/-- The response helpers -/
lemma stops_respond_iff (id : U8) (cport : U16) (msg : GbMessage) (status : U8)
    (hlen : payload.length + 8 < 2 ^ 32) :
    Stops (respond env id cport msg payload status) s .nullPointer ↔
      payload ≠ [] ∧ ¬ HeapGrants env s.io (8 + payload.length) := by
  rw [respond, stops_bind, stops_liftIo, gbMessageResponseAlloc,
    stops_alloc_memcpy_iff _ _ _ hlen, or_iff_left]
  rintro ⟨m, s₁, -, h⟩
  cases m with
  | none => exact (Ends.pure _ s₁).not_stops _ h
  | some resp =>
      rw [stops_discard] at h
      exact avoids_connectionSendToAp (by decide) _ _ _ s₁ h

/-- Without a payload they leave the response out. -/
lemma respond_refused (id : U8) (cport : U16) (msg : GbMessage) (status : U8)
    (h : ¬ HeapGrants env s.io 8) :
    Ends (respond env id cport msg [] status) s () ⟨s.core, s.io.afterAlloc []⟩ :=
  (Ends.liftIo (alloc_memcpy_refused _ _ status h)).bind (Ends.pure _ _)

end refused

/-! ### Calls that build a message -/

/-- The payload of a request, built in the tables as they are. -/
def SvcRequest.prepare : SvcRequest → FwM cfg (List U8)
  | version => return [0x00, 0x01]
  | hello => return le16 ENDO_ID ++ [AP_INF_ID]
  | moduleInserted id => return [id, 1] ++ le16 0
  | moduleRemoved intf => do
    liftIo (emit (.moduleRemoved intf))
    return [(← readIntf intf).id]

/-- The size of its structure. -/
def SvcRequest.size : SvcRequest → ℕ
  | version => 2
  | hello => 3
  | moduleInserted _ => 4
  | moduleRemoved _ => 1

/-- The payload of what is sent for a message to the SVC. -/
def SvcReply.payload : SvcReply → Option (List U8)
  | nothing => none
  | hello => some (le16 ENDO_ID ++ [AP_INF_ID])
  | response payload _ => some payload

/-- The size of that, if the message is as long as what is read of it. -/
def svcReplySize (msg : GbMessage) : ℕ :=
  if gbMessageType msg = GB_SVC_TYPE_PROTOCOL_VERSION ||| GB_OP_RESPONSE then
    if msg.payload.length < 2 then 0 else 3
  else if gbMessageType msg = GB_SVC_TYPE_INTF_SET_PWRM ∧ msg.payload.length < 8 then 0
  else responseSize (gbMessageType msg)

/-- The payload of the local node's response to a type of message. -/
def localResponsePayload (type : U8) : Option (List U8) :=
  if type = GB_REQUEST_TYPE_CPORT_SHUTDOWN then some []
  else if type = GB_CONTROL_TYPE_VERSION then some [0, 1]
  else if type = GB_CONTROL_TYPE_GET_MANIFEST_SIZE then
    some (le16 (BitVec.ofNat 16 manifest.length))
  else if type = GB_CONTROL_TYPE_GET_MANIFEST then some manifest
  else if type = GB_CONTROL_TYPE_CONNECTED ∨ type = GB_CONTROL_TYPE_DISCONNECTING ∨
      type = GB_CONTROL_TYPE_DISCONNECTED ∨ type = GB_CONTROL_TYPE_TIMESYNC_ENABLE ∨
      type = GB_CONTROL_TYPE_TIMESYNC_DISABLE ∨ type = GB_CONTROL_TYPE_TIMESYNC_AUTHORITATIVE ∨
      type = GB_CONTROL_TYPE_INTF_HIBERNATE_ABORT then
    some []
  else none

/-- A call that builds a message, or what happens between two of them. -/
inductive BuildOp
  | request (req : SvcRequest)
  /-- `svc_inf_write`, on cport 0 -/
  | svcMessage (msg : GbMessage)
  /-- `intf_write` of the local node, on cport 0 -/
  | localMessage (msg : GbMessage)
  | other

namespace BuildOp

/-- The call. -/
def handle : BuildOp → FwM cfg ℤ
  | request req => req.send env
  | svcMessage msg => svcInfWrite env msg 0
  | localMessage msg => localIntfWrite env msg CONTROL_PROTOCOL_CPORT
  | other => return 0

/-- The call, up to where it builds a message, and the payload that is for it. -/
def prepare : BuildOp → FwM cfg (Option (List U8))
  | request req => do return some (← req.prepare)
  | svcMessage msg => do return (← svcAnswer env msg).payload
  | localMessage msg => return localResponsePayload (gbMessageType msg)
  | other => return none

/-- The size of the payload. -/
def size : BuildOp → ℕ
  | request req => req.size
  | svcMessage msg => svcReplySize msg
  | localMessage msg => ((localResponsePayload (gbMessageType msg)).getD []).length
  | other => 0

/-- What the call returns when there is no block for the message. -/
def refusal : BuildOp → ℤ
  | request _ => -ENOMEM
  | _ => 0

end BuildOp

/-- One call, to its end or to where it stops. -/
def buildStep (s : Fw cfg) (op : BuildOp) (s' : Fw cfg) : Prop :=
  match op with
  | .other => True
  | op => s' = final (op.handle env) s

/-- An event that passes a message on. -/
def Event.isSend : Event → Bool
  | .connectionSend _ _ _ => true
  | .hdlcBlock _ => true
  | _ => false

/-- A call does not write to address zero; and if there is no block for its message, it
returns, an error if it was to send a request, and has sent nothing and left the tables
as they were then. -/
structure SurvivesExhaustion (t : RunStep (Fw cfg) BuildOp) : Prop where
  safe : ¬ Stops (t.label.handle env) t.pre .nullPointer
  refused : ∀ payload s₁, Ends (t.label.prepare env) t.pre (some payload) s₁ →
    ¬ HeapGrants env s₁.io (8 + payload.length) →
      Ends (t.label.handle env) t.pre t.label.refusal t.post ∧ t.post.core = s₁.core ∧
        ∀ e ∈ newEvents s₁ t.post, e.isSend = false

/-- There is a block for the message of a call, if it has a payload. -/
def GrantsPayload (s : Fw cfg) (op : BuildOp) : Prop :=
  op.size = 0 ∨ HeapGrants env s.io (8 + op.size)

/-- What a call comes down to: a payload of its size is prepared and copied to the
message, and without a block and a payload the message is left out. -/
structure BuildsMessage (op : BuildOp) (s : Fw cfg) : Prop where
  prepared : ∀ payload s₁, Ends (op.prepare env) s (some payload) s₁ →
    payload.length = op.size ∧ (op.size ≠ 0 → s₁.io.heapCalls = s.io.heapCalls)
  prepares : op.size ≠ 0 → ∃ payload s₁, Ends (op.prepare env) s (some payload) s₁
  copies : Stops (op.handle env) s .nullPointer ↔
    ∃ payload s₁, Ends (op.prepare env) s (some payload) s₁ ∧ payload ≠ [] ∧
      ¬ HeapGrants env s₁.io (8 + payload.length)
  leftOut : ∀ s₁, Ends (op.prepare env) s (some []) s₁ → ¬ HeapGrants env s₁.io 8 →
    ∃ s', Ends (op.handle env) s op.refusal s' ∧ s'.core = s₁.core ∧
      ∀ e ∈ newEvents s₁ s', e.isSend = false

/-! ### Requests -/

section requests

variable {env} {s : Fw cfg}

/-- A payload is prepared without the heap. -/
lemma SvcRequest.prepare_ends (req : SvcRequest) (s : Fw cfg) : ∃ payload s₁,
    Ends req.prepare s payload s₁ ∧ payload.length = req.size ∧
      s₁.io.heapCalls = s.io.heapCalls := by
  cases req with
  | version => exact ⟨_, s, Ends.pure _ s, rfl, rfl⟩
  | hello => exact ⟨_, s, Ends.pure _ s, rfl, rfl⟩
  | moduleInserted id => exact ⟨_, s, Ends.pure _ s, rfl, rfl⟩
  | moduleRemoved p =>
      exact ⟨_, _, (Ends.liftIo (Ends.emit _ s.io)).bind ((readIntf_ends p _).bind (Ends.pure _ _)),
        rfl, rfl⟩

lemma SvcRequest.size_pos (req : SvcRequest) : 0 < req.size := by
  cases req <;> simp [size]

/-- A request is copied to its message, whatever is done after that. -/
lemma SvcRequest.stops_send_iff (req : SvcRequest) :
    Stops (req.send env) s .nullPointer ↔ ¬ HeapGrants env s.io (8 + req.size) := by
  have hplain : ∀ {payload : List U8} (type : U8), payload ≠ [] → payload.length + 8 < 2 ^ 32 →
      (Stops (controlSendRequest env payload type) s .nullPointer ↔
        ¬ HeapGrants env s.io (8 + payload.length)) := by
    intro payload type hne hlen
    rw [stops_controlSendRequest_iff type hlen, and_iff_right hne]
  cases req with
  | version => exact hplain _ (by simp) (by decide)
  | hello => exact hplain _ (by simp) (by decide)
  | moduleInserted id => exact hplain _ (by simp) (by simp)
  | moduleRemoved p =>
      rw [SvcRequest.send, svcSendModuleRemoved, (Ends.liftIo (Ends.emit _ s.io)).stops_bind_iff,
        (readIntf_ends p _).stops_bind_iff, stops_bind,
        stops_controlSendRequest_iff _ (by simp), or_iff_left]
      · simp [HeapGrants, SvcRequest.size, Io.logged]
      · rintro ⟨ret, s₁, -, h⟩
        refine avoids_ite (avoids_pure _) (Avoids.bind ?_ fun _ => avoids_pure _) s₁ h
        exact avoids_of_ends fun s => ⟨_, _, nodeDestroyInterface_ends env p s⟩

lemma builds_request (req : SvcRequest) (s : Fw cfg) : BuildsMessage env (.request req) s := by
  obtain ⟨payload, s₁, hprep, hlen, hcalls⟩ := req.prepare_ends s
  have hsize := req.size_pos
  have hend : Ends (BuildOp.prepare env (.request req)) s (some payload) s₁ :=
    hprep.bind (Ends.pure _ s₁)
  have hgrants : HeapGrants env s₁.io (8 + payload.length) ↔
      HeapGrants env s.io (8 + req.size) := by rw [HeapGrants, HeapGrants, hcalls, hlen]
  refine ⟨fun payload' s' h => ?_, fun _ => ⟨payload, s₁, hend⟩, ?_, fun s' h => ?_⟩
  · obtain ⟨heq, rfl⟩ := hend.unique h
    obtain rfl := Option.some.inj heq
    exact ⟨hlen, fun _ => hcalls⟩
  · rw [BuildOp.handle, req.stops_send_iff, ← hgrants]
    constructor
    · intro h
      refine ⟨payload, s₁, hend, ?_, h⟩
      rw [← List.length_pos_iff, hlen]
      exact hsize
    · rintro ⟨payload', s', h, -, hno⟩
      obtain ⟨heq, rfl⟩ := hend.unique h
      obtain rfl := Option.some.inj heq
      exact hno
  · -- there is always a payload
    obtain ⟨heq, -⟩ := hend.unique h
    obtain rfl := Option.some.inj heq
    exact absurd hlen hsize.ne

end requests

/-! ### Messages that are answered -/

/-- A message that has been answered is given back. -/
lemma avoids_dealloc {f : Fault} (msg : GbMessage) : Avoids f (do
    liftIo (gbMessageDealloc msg)
    return 0 : FwM cfg ℤ) :=
  (Avoids.liftIo (avoids_emit _)).bind fun _ => avoids_pure _

/-- So is one whose response has been left out, and nothing has been sent. -/
lemma dealloc_leftOut (msg : GbMessage) (s : Fw cfg) :
    ∃ s', Ends (do
        liftIo (gbMessageDealloc msg)
        return 0 : FwM cfg ℤ) ⟨s.core, s.io.afterAlloc []⟩ 0 s' ∧
      s'.core = s.core ∧ ∀ e ∈ newEvents s s', e.isSend = false := by
  refine ⟨_, (Ends.liftIo (Ends.emit _ _)).bind (Ends.pure _ _), rfl, ?_⟩
  simp [newEvents, Io.afterAlloc, Event.isSend]

/-! ### Messages to the SVC -/

section svc

variable {env} {msg : GbMessage} {s : Fw cfg}

lemma responseSize_le (type : U8) : responseSize type ≤ 6 := by
  rw [responseSize]
  split_ifs <;> decide

lemma svcReplySize_le (msg : GbMessage) : svcReplySize msg ≤ 6 := by
  have := responseSize_le (gbMessageType msg)
  rw [svcReplySize]
  split_ifs <;> omega

lemma avoids_payloadByte (msg : GbMessage) (i : ℕ) :
    Avoids .nullPointer (payloadByte msg i : FwM cfg U8) := by
  rw [payloadByte]
  cases msg.payload[i]? with
  | none => exact avoids_throw (by simp)
  | some b => exact avoids_pure b

lemma avoids_payloadLe16 (msg : GbMessage) (i : ℕ) :
    Avoids .nullPointer (payloadLe16 msg i : FwM cfg U16) :=
  (avoids_payloadByte msg i).bind fun _ => (avoids_payloadByte msg _).bind fun _ => avoids_pure _

/-- A creation is answered without a payload. -/
lemma svcConnectionCreateAnswer_payload (env : Env) (cfg : Config) (msg : GbMessage) :
    Avoids .nullPointer (svcConnectionCreateAnswer env msg : FwM cfg SvcReply) ∧
      ∀ {s s₁ : Fw cfg} {reply payload}, Ends (svcConnectionCreateAnswer env msg) s reply s₁ →
        reply.payload = some payload → payload = [] := by
  refine ⟨?_, fun {s s₁ reply payload} h hpayload => ?_⟩
  · refine (avoids_payloadByte msg 0).bind fun _ => (avoids_payloadByte msg 3).bind fun _ => ?_
    refine (avoids_payloadLe16 msg 1).bind fun _ => (avoids_payloadLe16 msg 4).bind fun _ => ?_
    refine avoids_ite (avoids_pure _) (Avoids.bind ?_ fun _ => avoids_pure _)
    exact avoids_of_ends (exists_ends_connectionCreate env _ _ _ _)
  · obtain ⟨_, s₂, -, h⟩ := ends_bind.mp h
    obtain ⟨_, s₃, -, h⟩ := ends_bind.mp h
    obtain ⟨_, s₄, -, h⟩ := ends_bind.mp h
    obtain ⟨_, s₅, -, h⟩ := ends_bind.mp h
    rcases ends_ite.mp h with ⟨-, h⟩ | ⟨-, h⟩
    · obtain ⟨rfl, -⟩ := ends_pure.mp h
      exact (Option.some.inj hpayload).symm
    · obtain ⟨ret, s₆, -, h⟩ := ends_bind.mp h
      obtain ⟨rfl, -⟩ := ends_pure.mp h
      exact (Option.some.inj hpayload).symm

/-- So is a destruction. -/
lemma svcConnectionDestroyAnswer_payload (cfg : Config) (msg : GbMessage) :
    Avoids .nullPointer (svcConnectionDestroyAnswer msg : FwM cfg SvcReply) ∧
      ∀ {s s₁ : Fw cfg} {reply payload}, Ends (svcConnectionDestroyAnswer msg) s reply s₁ →
        reply.payload = some payload → payload = [] := by
  refine ⟨?_, fun {s s₁ reply payload} h hpayload => ?_⟩
  · refine (avoids_payloadByte msg 0).bind fun _ => (avoids_payloadLe16 msg 1).bind fun _ => ?_
    refine (avoids_payloadByte msg 3).bind fun _ => (avoids_payloadLe16 msg 4).bind fun _ => ?_
    exact (avoids_of_ends (exists_ends_connectionDestroy _ _ _ _)).bind fun _ => avoids_pure _
  · obtain ⟨_, s₂, -, h⟩ := ends_bind.mp h
    obtain ⟨_, s₃, -, h⟩ := ends_bind.mp h
    obtain ⟨_, s₄, -, h⟩ := ends_bind.mp h
    obtain ⟨_, s₅, -, h⟩ := ends_bind.mp h
    obtain ⟨ret, s₆, -, h⟩ := ends_bind.mp h
    obtain ⟨rfl, -⟩ := ends_pure.mp h
    exact (Option.some.inj hpayload).symm

/-- No payload comes of a message, or one of its size does and nothing else has
happened. -/
lemma svcAnswer_payload (env : Env) (msg : GbMessage) (s : Fw cfg) :
    svcReplySize msg = 0 ∧ ¬ Stops (svcAnswer env msg) s .nullPointer ∧
        (∀ reply payload s₁, Ends (svcAnswer env msg) s reply s₁ → reply.payload = some payload →
          payload = []) ∨
      ∃ reply payload, (svcAnswer env msg : FwM cfg SvcReply) = pure reply ∧
        reply.payload = some payload ∧ payload.length = svcReplySize msg := by
  -- a handler that stops elsewhere comes to no payload
  have hstopped : svcReplySize msg = 0 → Stops (svcAnswer env msg) s .outOfBounds →
      svcReplySize msg = 0 ∧ ¬ Stops (svcAnswer env msg) s .nullPointer ∧
        ∀ reply payload s₁, Ends (svcAnswer env msg) s reply s₁ → reply.payload = some payload →
          payload = [] := by
    intro hsize hstops
    refine ⟨hsize, fun h => ?_, fun reply payload s₁ h _ => absurd hstops (h.not_stops _)⟩
    cases hstops.unique h
  rcases svcAnswer_cases env cfg msg with
    ⟨htype, hanswer⟩ | ⟨htype, hanswer⟩ | ⟨htype, hanswer⟩ | ⟨htype, hanswer⟩ |
      ⟨-, -, hpwrm, hversion, ⟨-, payload, hlen, hanswer⟩ | ⟨-, -, hlen, hanswer⟩⟩
  · obtain ⟨havoids, hnil⟩ := svcConnectionCreateAnswer_payload env cfg msg
    rw [hanswer]
    exact Or.inl ⟨by rw [svcReplySize, htype]; rfl, havoids s, fun _ _ _ h => hnil h⟩
  · obtain ⟨havoids, hnil⟩ := svcConnectionDestroyAnswer_payload cfg msg
    rw [hanswer]
    exact Or.inl ⟨by rw [svcReplySize, htype]; rfl, havoids s, fun _ _ _ h => hnil h⟩
  · rcases svcIntfSetPwrmAnswer_cases msg s with ⟨h8, hstops⟩ | ⟨h8, resultCode, hres⟩
    · refine Or.inl (hstopped ?_ (by rwa [hanswer]))
      rw [svcReplySize, htype, if_neg (by decide), if_pos ⟨rfl, h8⟩]
    · refine Or.inr ⟨_, [resultCode], hanswer.trans hres, rfl, ?_⟩
      rw [svcReplySize, htype, if_neg (by decide), if_neg fun h => not_lt.mpr h8 h.2]
      rfl
  · rcases svcVersionResponseAnswer_cases msg s with ⟨h2, hstops⟩ | ⟨h2, hres⟩
    · refine Or.inl (hstopped ?_ (by rwa [hanswer]))
      rw [svcReplySize, if_pos htype, if_pos h2]
    · refine Or.inr ⟨.hello, _, hanswer.trans hres, rfl, ?_⟩
      rw [svcReplySize, if_pos htype, if_neg (not_lt.mpr h2)]
      rfl
  · refine Or.inr ⟨_, payload, hanswer, rfl, ?_⟩
    rw [svcReplySize, if_neg hversion, if_neg fun h => hpwrm h.1, hlen]
  · refine Or.inl ⟨?_, ?_, fun reply payload s₁ h hpayload => ?_⟩
    · rw [svcReplySize, if_neg hversion, if_neg fun h => hpwrm h.1, hlen]
    · rw [hanswer]
      exact (Ends.pure _ s).not_stops _
    · rw [hanswer] at h
      obtain ⟨rfl, -⟩ := ends_pure.mp h
      cases hpayload

/-- What is sent is copied to its message. -/
lemma stops_svcReply_iff {reply : SvcReply}
    (hlen : ∀ payload, reply.payload = some payload → payload.length ≤ 6) :
    Stops (svcReply env msg reply) s .nullPointer ↔ ∃ payload, reply.payload = some payload ∧
      payload ≠ [] ∧ ¬ HeapGrants env s.io (8 + payload.length) := by
  cases reply with
  | nothing =>
      refine iff_of_false ((Ends.pure _ s).not_stops _) ?_
      rintro ⟨payload, h, -⟩
      cases h
  | hello =>
      have hlen := hlen _ rfl
      rw [svcReply, stops_discard, svcSendHello, stops_controlSendRequest_iff _ (by omega)]
      simp [SvcReply.payload]
  | response payload status =>
      have hlen := hlen _ rfl
      rw [svcReply, svcResponseHelper, stops_respond_iff _ _ _ _ (by omega)]
      simp [SvcReply.payload]

/-- `svc_inf_write`, from what is answered on. -/
lemma svcInfWrite_eq (msg : GbMessage) : (svcInfWrite env msg 0 : FwM cfg ℤ) = do
    let reply ← svcAnswer env msg
    svcReply env msg reply
    liftIo (gbMessageDealloc msg)
    return 0 := by
  rw [svcInfWrite, if_neg (not_not.mpr rfl), gbHandleMsg_eq, bind_assoc]

/-- A payload is prepared for an answer that has one. -/
lemma svcMessage_prepare_iff {payload : List U8} {s₁ : Fw cfg} :
    Ends (BuildOp.prepare env (.svcMessage msg)) s (some payload) s₁ ↔
      ∃ reply, Ends (svcAnswer env msg) s reply s₁ ∧ reply.payload = some payload := by
  rw [BuildOp.prepare, ends_bind]
  constructor
  · rintro ⟨reply, s₂, hanswer, h⟩
    obtain ⟨hpayload, rfl⟩ := ends_pure.mp h
    exact ⟨reply, hanswer, hpayload⟩
  · rintro ⟨reply, hanswer, hpayload⟩
    exact ⟨reply, s₁, hanswer, ends_pure.mpr ⟨hpayload, rfl⟩⟩

/-- The payload of an answer has its size, and where there is any the handler has done
nothing else. -/
lemma svcAnswer_payload_length {reply : SvcReply} {payload : List U8} {s₁ : Fw cfg}
    (h : Ends (svcAnswer env msg) s reply s₁) (hpayload : reply.payload = some payload) :
    payload.length = svcReplySize msg ∧ (svcReplySize msg ≠ 0 → s₁ = s) := by
  rcases svcAnswer_payload env msg s with
    ⟨hzero, -, hnil⟩ | ⟨reply', payload', hanswer, hpayload', hlen⟩
  · rw [hnil reply payload s₁ h hpayload, hzero]
    exact ⟨rfl, fun hne => absurd rfl hne⟩
  · rw [hanswer] at h
    obtain ⟨rfl, rfl⟩ := ends_pure.mp h
    rw [hpayload] at hpayload'
    obtain rfl := Option.some.inj hpayload'
    exact ⟨hlen, fun _ => rfl⟩

/-- No handler writes to address zero before it answers. -/
lemma svcAnswer_safe : ¬ Stops (svcAnswer env msg) s .nullPointer := by
  rcases svcAnswer_payload env msg s with ⟨-, hsafe, -⟩ | ⟨reply, payload, hanswer, -⟩
  · exact hsafe
  · rw [hanswer]
    exact (Ends.pure reply s).not_stops _

/-- A message is answered by a copy to the one that is built for it. -/
lemma stops_svcMessage_iff :
    Stops (BuildOp.handle env (.svcMessage msg)) s .nullPointer ↔
      ∃ payload s₁, Ends (BuildOp.prepare env (.svcMessage msg)) s (some payload) s₁ ∧
        payload ≠ [] ∧ ¬ HeapGrants env s₁.io (8 + payload.length) := by
  have hshort : ∀ {reply s₁}, Ends (svcAnswer env msg) s reply s₁ →
      ∀ payload, reply.payload = some payload → payload.length ≤ 6 := by
    intro reply s₁ h payload hpayload
    rw [(svcAnswer_payload_length h hpayload).1]
    exact svcReplySize_le msg
  rw [BuildOp.handle, svcInfWrite_eq, stops_bind, or_iff_right svcAnswer_safe]
  constructor
  · rintro ⟨reply, s₁, hanswer, h⟩
    rcases stops_bind.mp h with h | ⟨_, s₂, -, h⟩
    · obtain ⟨payload, hpayload, hne, hno⟩ := (stops_svcReply_iff (hshort hanswer)).mp h
      exact ⟨payload, s₁, svcMessage_prepare_iff.mpr ⟨reply, hanswer, hpayload⟩, hne, hno⟩
    · exact absurd h (avoids_dealloc msg s₂)
  · rintro ⟨payload, s₁, h, hne, hno⟩
    obtain ⟨reply, hanswer, hpayload⟩ := svcMessage_prepare_iff.mp h
    exact ⟨reply, s₁, hanswer, stops_bind.mpr (Or.inl
      ((stops_svcReply_iff (hshort hanswer)).mpr ⟨payload, hpayload, hne, hno⟩))⟩

lemma builds_svcMessage (msg : GbMessage) (s : Fw cfg) :
    BuildsMessage env (.svcMessage msg) s := by
  refine ⟨fun payload s₁ h => ?_, fun hne => ?_, stops_svcMessage_iff, fun s₁ h hno => ?_⟩
  · obtain ⟨reply, hanswer, hpayload⟩ := svcMessage_prepare_iff.mp h
    obtain ⟨hlen, hsame⟩ := svcAnswer_payload_length hanswer hpayload
    exact ⟨hlen, fun hne => by rw [hsame hne]⟩
  · rcases svcAnswer_payload env msg s with ⟨hzero, -⟩ | ⟨reply, payload, hanswer, hpayload, -⟩
    · exact absurd hzero hne
    · refine ⟨payload, s, svcMessage_prepare_iff.mpr ⟨reply, ?_, hpayload⟩⟩
      rw [hanswer]
      exact Ends.pure reply s
  · obtain ⟨reply, hanswer, hpayload⟩ := svcMessage_prepare_iff.mp h
    cases reply with
    | nothing => cases hpayload
    | hello => cases hpayload
    | response payload status =>
        obtain rfl := Option.some.inj hpayload
        have hreply : Ends (svcReply env msg (.response [] status)) s₁ ()
            ⟨s₁.core, s₁.io.afterAlloc []⟩ := respond_refused _ _ _ _ hno
        obtain ⟨s', hdealloc, hquiet⟩ := dealloc_leftOut msg s₁
        refine ⟨s', ?_, hquiet⟩
        rw [BuildOp.handle, svcInfWrite_eq]
        exact hanswer.bind (hreply.bind hdealloc)

end svc

/-! ### Messages to the local node -/

section localNode

variable {env} {msg : GbMessage} {s : Fw cfg}

/-- `control_protocol_handle` goes by the type alone. -/
lemma controlProtocolHandle_eq (env : Env) (cfg : Config) (msg : GbMessage) :
    (controlProtocolHandle env msg : FwM cfg Unit) =
      match localResponsePayload (gbMessageType msg) with
      | none => pure ()
      | some payload => responseHelper env msg payload 0 CONTROL_PROTOCOL_CPORT := by
  rw [controlProtocolHandle, localResponsePayload]
  generalize gbMessageType msg = type
  split_ifs <;> rfl

lemma localResponsePayload_length {type : U8} {payload : List U8}
    (h : localResponsePayload type = some payload) : payload.length ≤ 60 := by
  rw [localResponsePayload] at h
  split_ifs at h
  all_goals
    obtain rfl := Option.some.inj h
    decide

lemma builds_localMessage (msg : GbMessage) (s : Fw cfg) :
    BuildsMessage env (.localMessage msg) s := by
  have hprep : ∀ payload s₁, Ends (BuildOp.prepare env (.localMessage msg)) s (some payload) s₁ ↔
      localResponsePayload (gbMessageType msg) = some payload ∧ s = s₁ := fun payload s₁ =>
    ends_pure
  have hhandle : (BuildOp.handle env (.localMessage msg) : FwM cfg ℤ) = (do
      controlProtocolHandle env msg
      liftIo (gbMessageDealloc msg)
      return 0) := by
    rw [BuildOp.handle, localIntfWrite, if_pos rfl]
  have hsize : BuildOp.size (.localMessage msg) =
      ((localResponsePayload (gbMessageType msg)).getD []).length := rfl
  have heq := controlProtocolHandle_eq env cfg msg
  -- a type that is not answered builds nothing
  cases hpayload : localResponsePayload (gbMessageType msg) with
  | none =>
      rw [hpayload] at heq hsize
      simp only [hpayload] at hprep
      refine ⟨fun _ _ h => ?_, fun hne => absurd hsize hne, ?_, fun _ h => ?_⟩
      · cases ((hprep _ _).mp h).1
      · rw [hhandle, heq]
        refine iff_of_false ((avoids_pure _).bind (fun _ => avoids_dealloc msg) s) ?_
        rintro ⟨_, _, h, -⟩
        cases ((hprep _ _).mp h).1
      · cases ((hprep _ _).mp h).1
  | some payload =>
      have hlen := localResponsePayload_length hpayload
      have hstops : Stops (respond env LOCAL_NODE_ID CONTROL_PROTOCOL_CPORT msg payload 0) s
          .nullPointer ↔ payload ≠ [] ∧ ¬ HeapGrants env s.io (8 + payload.length) :=
        stops_respond_iff _ _ _ _ (by omega)
      rw [hpayload] at heq hsize
      dsimp only at heq
      simp only [hpayload, Option.some.injEq] at hprep
      refine ⟨fun payload' s₁ h => ?_, fun _ => ⟨payload, s, (hprep _ _).mpr ⟨rfl, rfl⟩⟩, ?_,
        fun s₁ h hno => ?_⟩
      · obtain ⟨rfl, rfl⟩ := (hprep _ _).mp h
        exact ⟨hsize.symm, fun _ => rfl⟩
      -- `memcpy` into a message that has not been granted is where it stops
      · rw [hhandle, heq, stops_bind, responseHelper, hstops, or_iff_left]
        · constructor
          · rintro ⟨hne, hno⟩
            exact ⟨payload, s, (hprep _ _).mpr ⟨rfl, rfl⟩, hne, hno⟩
          · rintro ⟨payload', s₁, h, hne, hno⟩
            obtain ⟨rfl, rfl⟩ := (hprep _ _).mp h
            exact ⟨hne, hno⟩
        · rintro ⟨_, s₁, -, h⟩
          exact avoids_dealloc msg s₁ h
      -- with nothing to copy the refusal is returned, and the request freed
      · obtain ⟨rfl, rfl⟩ := (hprep _ _).mp h
        obtain ⟨s', hdealloc, hquiet⟩ := dealloc_leftOut msg s
        refine ⟨s', ?_, hquiet⟩
        rw [hhandle, heq]
        exact (respond_refused _ _ _ _ hno).bind hdealloc

end localNode

/-! ### Runs -/

lemma buildsMessage (op : BuildOp) (s : Fw cfg) : BuildsMessage env op s := by
  cases op with
  | request req => exact builds_request req s
  | svcMessage msg => exact builds_svcMessage msg s
  | localMessage msg => exact builds_localMessage msg s
  | other =>
      have hprep : ∀ payload s₁, ¬ Ends (BuildOp.prepare env .other) s (some payload) s₁ := by
        intro payload s₁ h
        cases (ends_pure.mp h).1
      refine ⟨fun _ _ h => absurd h (hprep _ _), fun hne => absurd rfl hne, ?_,
        fun _ h => absurd h (hprep _ _)⟩
      refine iff_of_false ((Ends.pure _ s).not_stops _) ?_
      rintro ⟨_, _, h, -⟩
      exact hprep _ _ h

/-- One call survives exactly when its payload, if it has one, gets a block. -/
lemma survivesExhaustion_step_iff {s s' : Fw cfg} {op : BuildOp} (h : buildStep env s op s') :
    SurvivesExhaustion env ⟨s, op, s'⟩ ↔ GrantsPayload env s op := by
  have hbuilds := buildsMessage env op s
  -- the heap is as it was when a payload comes to be copied
  have hgrants : ∀ payload s₁, Ends (op.prepare env) s (some payload) s₁ → op.size ≠ 0 →
      (HeapGrants env s₁.io (8 + payload.length) ↔ HeapGrants env s.io (8 + op.size)) := by
    intro payload s₁ h hne
    obtain ⟨hlen, hcalls⟩ := hbuilds.prepared payload s₁ h
    rw [HeapGrants, HeapGrants, hcalls hne, hlen]
  constructor
  · intro hsurvives
    by_contra hno
    rw [GrantsPayload, not_or] at hno
    obtain ⟨payload, s₁, hprep⟩ := hbuilds.prepares hno.1
    refine hsurvives.safe (hbuilds.copies.mpr ⟨payload, s₁, hprep, ?_, ?_⟩)
    · rintro rfl
      exact hno.1 (hbuilds.prepared [] s₁ hprep).1.symm
    · rw [hgrants payload s₁ hprep hno.1]
      exact hno.2
  · intro hgranted
    have hcopied : ∀ payload s₁, Ends (op.prepare env) s (some payload) s₁ → payload ≠ [] →
        HeapGrants env s₁.io (8 + payload.length) := by
      intro payload s₁ hprep hne
      have hsize : op.size ≠ 0 := by
        rw [← (hbuilds.prepared payload s₁ hprep).1]
        exact fun h => hne (List.length_eq_zero_iff.mp h)
      exact (hgrants payload s₁ hprep hsize).mpr (hgranted.resolve_left hsize)
    refine ⟨fun hstops => ?_, fun payload s₁ hprep hno => ?_⟩
    · obtain ⟨payload, s₁, hprep, hne, hno⟩ := hbuilds.copies.mp hstops
      exact hno (hcopied payload s₁ hprep hne)
    · obtain rfl : payload = [] := by
        by_contra hne
        exact hno (hcopied payload s₁ hprep hne)
      obtain ⟨s₂, hend, hcore, hquiet⟩ := hbuilds.leftOut s₁ hprep hno
      cases op with
      | other => cases (ends_pure.mp hprep).1
      | _ =>
          obtain rfl : s' = final _ s := h
          rw [hend.final_eq]
          exact ⟨hend, hcore, hquiet⟩

/-- The SVC sends its version. -/
def versionStep : RunStep (Fw .prjConf) BuildOp :=
  ⟨withSvc, .request .version, final (BuildOp.handle env (.request .version)) withSvc⟩

lemma versionStep_run : Run (buildStep env) withSvc [versionStep env] (versionStep env).post := by
  have h : buildStep env withSvc (.request .version) (versionStep env).post := rfl
  exact Run.single h

/-- An environment without a block to give. -/
def exhaustedEnv : Env := { calmEnv with heapAlloc := fun _ _ => false }

/-- The SVC is pinged and the local node told of a connection, for which there are no blocks. -/
def refusedSteps : List (RunStep (Fw .prjConf) BuildOp) :=
  let op₁ : BuildOp := .svcMessage (payloadless GB_SVC_TYPE_PING)
  let op₂ : BuildOp := .localMessage (payloadless GB_CONTROL_TYPE_CONNECTED)
  let s₁ := final (op₁.handle exhaustedEnv) withSvc
  [⟨withSvc, op₁, s₁⟩] ++ [⟨s₁, op₂, final (op₂.handle exhaustedEnv) s₁⟩]

end Cc1352Greybus
