import Cc1352Greybus.Heap.Parsing
import Cc1352Greybus.Routing.Connections

/-!
Whether the SVC's handlers stay within the payload of a request.

`gb_handle_msg` goes by the type of a message alone. A handler that looks at the
payload reads it as the structure of its type, however many bytes there are, and one
that does not answers whatever the request.

* `svcAnswer`: what is answered to a message, before the answer is built.
* `readsPayload_iff`: nothing is read beyond the payload and a request that is too short
  is answered with an error and changes nothing, exactly when the payload is as long as
  the structure, or as long as what is read of it for a connection that is not created.
* `short_requests`: two requests without a payload.
-/

namespace Cc1352Greybus

open Effects

variable {cfg : Config} (env : Env)

/-! ### Structures -/

/-- The types of requests that `gb_handle_msg` lists. -/
def svcRequestTypes : List U8 :=
  [GB_SVC_TYPE_INTF_DEVICE_ID, GB_SVC_TYPE_ROUTE_CREATE, GB_SVC_TYPE_ROUTE_DESTROY,
    GB_SVC_TYPE_PING, GB_SVC_TYPE_CONN_CREATE, GB_SVC_TYPE_CONN_DESTROY, GB_SVC_TYPE_DME_PEER_GET,
    GB_SVC_TYPE_DME_PEER_SET, GB_SVC_TYPE_INTF_SET_PWRM, GB_SVC_TYPE_PWRMON_RAIL_COUNT_GET,
    GB_SVC_TYPE_INTF_VSYS_ENABLE, GB_SVC_TYPE_INTF_VSYS_DISABLE, GB_SVC_TYPE_INTF_REFCLK_ENABLE,
    GB_SVC_TYPE_INTF_REFCLK_DISABLE, GB_SVC_TYPE_INTF_UNIPRO_ENABLE,
    GB_SVC_TYPE_INTF_UNIPRO_DISABLE, GB_SVC_TYPE_INTF_ACTIVATE, GB_SVC_TYPE_INTF_RESUME]

/-- The size of the structure of a request the SVC handles. -/
def requestSize (type : U8) : ℕ :=
  if type = GB_SVC_TYPE_INTF_DEVICE_ID then 2
  else if type = GB_SVC_TYPE_CONN_CREATE then 8
  else if type = GB_SVC_TYPE_CONN_DESTROY then 6
  else if type = GB_SVC_TYPE_DME_PEER_GET then 5
  else if type = GB_SVC_TYPE_DME_PEER_SET then 9
  else if type = GB_SVC_TYPE_ROUTE_CREATE then 4
  else if type = GB_SVC_TYPE_ROUTE_DESTROY then 2
  else if type = GB_SVC_TYPE_INTF_SET_PWRM then 63
  else if type = GB_SVC_TYPE_INTF_VSYS_ENABLE ∨ type = GB_SVC_TYPE_INTF_VSYS_DISABLE ∨
      type = GB_SVC_TYPE_INTF_REFCLK_ENABLE ∨ type = GB_SVC_TYPE_INTF_REFCLK_DISABLE ∨
      type = GB_SVC_TYPE_INTF_UNIPRO_ENABLE ∨ type = GB_SVC_TYPE_INTF_UNIPRO_DISABLE ∨
      type = GB_SVC_TYPE_INTF_ACTIVATE ∨ type = GB_SVC_TYPE_INTF_RESUME then 1
  else 0

/-- The size of the structure of its response. -/
def responseSize (type : U8) : ℕ :=
  if type = GB_SVC_TYPE_DME_PEER_GET then 6
  else if type = GB_SVC_TYPE_DME_PEER_SET ∨ type = GB_SVC_TYPE_INTF_ACTIVATE then 2
  else if type = GB_SVC_TYPE_INTF_SET_PWRM ∨ type = GB_SVC_TYPE_PWRMON_RAIL_COUNT_GET ∨
      type = GB_SVC_TYPE_INTF_VSYS_ENABLE ∨ type = GB_SVC_TYPE_INTF_VSYS_DISABLE ∨
      type = GB_SVC_TYPE_INTF_REFCLK_ENABLE ∨ type = GB_SVC_TYPE_INTF_REFCLK_DISABLE ∨
      type = GB_SVC_TYPE_INTF_UNIPRO_ENABLE ∨ type = GB_SVC_TYPE_INTF_UNIPRO_DISABLE ∨
      type = GB_SVC_TYPE_INTF_RESUME then 1
  else 0

/-! ### Answers -/

/-- What the SVC does about a message once its handler has looked at it: nothing, a
hello, or a response. -/
inductive SvcReply
  | nothing
  | hello
  | response (payload : List U8) (status : U8)
  deriving DecidableEq

/-- `svc_intf_set_pwrm_handler`, up to its response -/
def svcIntfSetPwrmAnswer (msg : GbMessage) : FwM cfg SvcReply := do
  let txMode ← payloadByte msg 2
  let rxMode ← payloadByte msg 7
  let resultCode :=
    if txMode = GB_SVC_UNIPRO_HIBERNATE_MODE ∧ rxMode = GB_SVC_UNIPRO_HIBERNATE_MODE
    then GB_SVC_SETPWRM_PWR_OK else GB_SVC_SETPWRM_PWR_LOCAL
  return .response [resultCode] GB_SVC_OP_SUCCESS

/-- `svc_version_response_handler`, up to its hello -/
def svcVersionResponseAnswer (msg : GbMessage) : FwM cfg SvcReply := do
  discard (payloadByte msg 0)
  discard (payloadByte msg 1)
  return .hello

/-- The response to a connection created or destroyed. -/
def connReply (ret : ℤ) : SvcReply :=
  .response [] (if ret < 0 then GB_SVC_OP_UNKNOWN_ERROR else GB_SVC_OP_SUCCESS)

/-- `svc_connection_create_handler`, up to its response -/
def svcConnectionCreateAnswer (msg : GbMessage) : FwM cfg SvcReply := do
  let intf1Id ← payloadByte msg 0
  let intf2Id ← payloadByte msg 3
  let cport1Id ← payloadLe16 msg 1
  let cport2Id ← payloadLe16 msg 4
  if intf1Id = intf2Id ∧ cport1Id = cport2Id then return .response [] GB_SVC_OP_UNKNOWN_ERROR
  else do
    let ret ← connectionCreate env intf1Id cport1Id intf2Id cport2Id
    return connReply ret

/-- `svc_connection_destroy_handler`, up to its response -/
def svcConnectionDestroyAnswer (msg : GbMessage) : FwM cfg SvcReply := do
  let intf1Id ← payloadByte msg 0
  let cport1Id ← payloadLe16 msg 1
  let intf2Id ← payloadByte msg 3
  let cport2Id ← payloadLe16 msg 4
  let ret ← connectionDestroy intf1Id cport1Id intf2Id cport2Id
  return connReply ret

/-- `gb_handle_msg`, up to what it sends. -/
def svcAnswer (msg : GbMessage) : FwM cfg SvcReply :=
  let type := gbMessageType msg
  if type = GB_SVC_TYPE_INTF_DEVICE_ID ∨ type = GB_SVC_TYPE_ROUTE_CREATE ∨
      type = GB_SVC_TYPE_ROUTE_DESTROY ∨ type = GB_SVC_TYPE_PING then
    return .response [] GB_SVC_OP_SUCCESS
  else if type = GB_SVC_TYPE_CONN_CREATE then svcConnectionCreateAnswer env msg
  else if type = GB_SVC_TYPE_CONN_DESTROY then svcConnectionDestroyAnswer msg
  else if type = GB_SVC_TYPE_DME_PEER_GET then
    return .response (le16 0 ++ (le16 0x0126 ++ le16 0)) GB_SVC_OP_SUCCESS
  else if type = GB_SVC_TYPE_DME_PEER_SET then return .response (le16 0) GB_SVC_OP_SUCCESS
  else if type = GB_SVC_TYPE_INTF_SET_PWRM then svcIntfSetPwrmAnswer msg
  else if type = GB_SVC_TYPE_PWRMON_RAIL_COUNT_GET then return .response [0] GB_SVC_OP_SUCCESS
  else if type = GB_SVC_TYPE_INTF_VSYS_ENABLE ∨ type = GB_SVC_TYPE_INTF_VSYS_DISABLE then
    return .response [GB_SVC_INTF_VSYS_OK] GB_SVC_OP_SUCCESS
  else if type = GB_SVC_TYPE_INTF_REFCLK_ENABLE ∨ type = GB_SVC_TYPE_INTF_REFCLK_DISABLE then
    return .response [GB_SVC_INTF_REFCLK_OK] GB_SVC_OP_SUCCESS
  else if type = GB_SVC_TYPE_INTF_UNIPRO_ENABLE ∨ type = GB_SVC_TYPE_INTF_UNIPRO_DISABLE then
    return .response [GB_SVC_INTF_UNIPRO_OK] GB_SVC_OP_SUCCESS
  else if type = GB_SVC_TYPE_INTF_ACTIVATE then
    return .response [GB_SVC_OP_SUCCESS, GB_SVC_INTF_TYPE_GREYBUS] GB_SVC_OP_SUCCESS
  else if type = GB_SVC_TYPE_INTF_RESUME then
    return .response [GB_SVC_OP_SUCCESS] GB_SVC_OP_SUCCESS
  else if type = GB_SVC_TYPE_PROTOCOL_VERSION ||| GB_OP_RESPONSE then
    svcVersionResponseAnswer msg
  else return .nothing

/-- What is sent for it. -/
def svcReply (msg : GbMessage) : SvcReply → FwM cfg Unit
  | .nothing => return ()
  | .hello => discard (svcSendHello env)
  | .response payload status => svcResponseHelper env msg payload status

/-- A choice of what is done is one of what is answered. -/
lemma ite_answer {c : Prop} [Decidable c] {msg : GbMessage} {m n : FwM cfg Unit}
    {r t : FwM cfg SvcReply} (hm : m = r >>= svcReply env msg) (hn : n = t >>= svcReply env msg) :
    (if c then m else n) = (if c then r else t) >>= svcReply env msg := by
  split_ifs
  · exact hm
  · exact hn

/-- `gb_handle_msg` looks at the message, and then sends. -/
lemma gbHandleMsg_eq (msg : GbMessage) :
    (gbHandleMsg env msg : FwM cfg Unit) = svcAnswer env msg >>= svcReply env msg := by
  have hcreate : (svcConnectionCreateHandler env msg : FwM cfg Unit) =
      svcConnectionCreateAnswer env msg >>= svcReply env msg := by
    simp only [svcConnectionCreateHandler, svcConnectionCreateAnswer, bind_assoc]
    congr! with intf1Id intf2Id cport1Id cport2Id
    refine ite_answer env rfl ?_
    rw [bind_assoc]
    rfl
  have hdestroy : (svcConnectionDestroyHandler env msg : FwM cfg Unit) =
      svcConnectionDestroyAnswer msg >>= svcReply env msg := by
    simp only [svcConnectionDestroyHandler, svcConnectionDestroyAnswer, bind_assoc]
    rfl
  have hpwrm : (svcIntfSetPwrmHandler env msg : FwM cfg Unit) =
      svcIntfSetPwrmAnswer msg >>= svcReply env msg := by
    simp only [svcIntfSetPwrmHandler, svcIntfSetPwrmAnswer, bind_assoc]
    rfl
  have hversion : (svcVersionResponseHandler env msg : FwM cfg Unit) =
      svcVersionResponseAnswer msg >>= svcReply env msg := by
    simp only [svcVersionResponseHandler, svcVersionResponseAnswer, bind_assoc]
    rfl
  refine ite_answer env rfl (ite_answer env hcreate (ite_answer env hdestroy ?_))
  refine ite_answer env rfl (ite_answer env rfl (ite_answer env hpwrm ?_))
  -- the rails, the three switches of an interface, its activation and resumption
  iterate 6 refine ite_answer env rfl ?_
  exact ite_answer env hversion rfl

/-- A message goes by what its handler reads of it, or gets the answer of its type, which
there is for the types of requests. -/
lemma svcAnswer_cases (cfg : Config) (msg : GbMessage) :
    gbMessageType msg = GB_SVC_TYPE_CONN_CREATE ∧
        (svcAnswer env msg : FwM cfg SvcReply) = svcConnectionCreateAnswer env msg ∨
      gbMessageType msg = GB_SVC_TYPE_CONN_DESTROY ∧
        (svcAnswer env msg : FwM cfg SvcReply) = svcConnectionDestroyAnswer msg ∨
      gbMessageType msg = GB_SVC_TYPE_INTF_SET_PWRM ∧
        (svcAnswer env msg : FwM cfg SvcReply) = svcIntfSetPwrmAnswer msg ∨
      gbMessageType msg = GB_SVC_TYPE_PROTOCOL_VERSION ||| GB_OP_RESPONSE ∧
        (svcAnswer env msg : FwM cfg SvcReply) = svcVersionResponseAnswer msg ∨
      gbMessageType msg ≠ GB_SVC_TYPE_CONN_CREATE ∧
        gbMessageType msg ≠ GB_SVC_TYPE_CONN_DESTROY ∧
        gbMessageType msg ≠ GB_SVC_TYPE_INTF_SET_PWRM ∧
        gbMessageType msg ≠ GB_SVC_TYPE_PROTOCOL_VERSION ||| GB_OP_RESPONSE ∧
        ((gbMessageType msg ∈ svcRequestTypes ∧ ∃ payload : List U8,
            payload.length = responseSize (gbMessageType msg) ∧
            (svcAnswer env msg : FwM cfg SvcReply) = pure (.response payload GB_SVC_OP_SUCCESS)) ∨
          gbMessageType msg ∉ svcRequestTypes ∧ requestSize (gbMessageType msg) = 0 ∧
            responseSize (gbMessageType msg) = 0 ∧
            (svcAnswer env msg : FwM cfg SvcReply) = pure .nothing) := by
  obtain ⟨m, hm⟩ : ∃ m, m = (svcAnswer env msg : FwM cfg SvcReply) := ⟨_, rfl⟩
  rw [← hm]
  rw [svcAnswer] at hm
  generalize gbMessageType msg = type at hm ⊢
  by_cases hcreate : type = GB_SVC_TYPE_CONN_CREATE
  · subst hcreate
    exact .inl ⟨rfl, hm⟩
  by_cases hdestroy : type = GB_SVC_TYPE_CONN_DESTROY
  · subst hdestroy
    exact .inr (.inl ⟨rfl, hm⟩)
  by_cases hpwrm : type = GB_SVC_TYPE_INTF_SET_PWRM
  · subst hpwrm
    exact .inr (.inr (.inl ⟨rfl, hm⟩))
  by_cases hversion : type = GB_SVC_TYPE_PROTOCOL_VERSION ||| GB_OP_RESPONSE
  · subst hversion
    exact .inr (.inr (.inr (.inl ⟨rfl, hm⟩)))
  refine .inr (.inr (.inr (.inr ⟨hcreate, hdestroy, hpwrm, hversion, ?_⟩)))
  rw [if_neg hcreate, if_neg hdestroy, if_neg hpwrm, if_neg hversion] at hm
  -- every other type that is known has an answer of its own
  rcases eq_ite_iff.mp hm with ⟨htype, hm⟩ | ⟨hempty, hm⟩
  · rcases htype with rfl | rfl | rfl | rfl
    all_goals exact .inl ⟨by decide, _, rfl, hm⟩
  rcases eq_ite_iff.mp hm with ⟨rfl, hm⟩ | ⟨hget, hm⟩
  · exact .inl ⟨by decide, _, rfl, hm⟩
  rcases eq_ite_iff.mp hm with ⟨rfl, hm⟩ | ⟨hset, hm⟩
  · exact .inl ⟨by decide, _, rfl, hm⟩
  rcases eq_ite_iff.mp hm with ⟨rfl, hm⟩ | ⟨hrails, hm⟩
  · exact .inl ⟨by decide, _, rfl, hm⟩
  rcases eq_ite_iff.mp hm with ⟨rfl | rfl, hm⟩ | ⟨hvsys, hm⟩
  · exact .inl ⟨by decide, _, rfl, hm⟩
  · exact .inl ⟨by decide, _, rfl, hm⟩
  rcases eq_ite_iff.mp hm with ⟨rfl | rfl, hm⟩ | ⟨hrefclk, hm⟩
  · exact .inl ⟨by decide, _, rfl, hm⟩
  · exact .inl ⟨by decide, _, rfl, hm⟩
  rcases eq_ite_iff.mp hm with ⟨rfl | rfl, hm⟩ | ⟨hunipro, hm⟩
  · exact .inl ⟨by decide, _, rfl, hm⟩
  · exact .inl ⟨by decide, _, rfl, hm⟩
  rcases eq_ite_iff.mp hm with ⟨rfl, hm⟩ | ⟨hactivate, hm⟩
  · exact .inl ⟨by decide, _, rfl, hm⟩
  rcases eq_ite_iff.mp hm with ⟨rfl, hm⟩ | ⟨hresume, hm⟩
  · exact .inl ⟨by decide, _, rfl, hm⟩
  rw [not_or] at hvsys hrefclk hunipro
  rw [not_or, not_or, not_or] at hempty
  refine .inr ⟨?_, ?_, ?_, hm⟩
  · simp only [svcRequestTypes, List.mem_cons, List.not_mem_nil, hempty, hcreate, hdestroy, hget,
      hset, hpwrm, hrails, hvsys, hrefclk, hunipro, hactivate, hresume, or_false, not_false_eq_true]
  · simp only [requestSize, hempty, hcreate, hdestroy, hget, hset, hpwrm, hvsys, hrefclk, hunipro,
      hactivate, hresume, or_false, if_false]
  · simp only [responseSize, hget, hset, hpwrm, hrails, hvsys, hrefclk, hunipro, hactivate, hresume,
      or_false, if_false]

/-! ### Reads -/

section reads

variable {env} {msg : GbMessage} {i : ℕ} {α : Type} {s : Fw cfg}

lemma payloadByte_of_lt (h : i < msg.payload.length) :
    (payloadByte msg i : FwM cfg U8) = pure (msg.payload.getD i 0) := by
  rw [payloadByte, List.getD_eq_getElem?_getD, List.getElem?_eq_getElem h]
  rfl

lemma payloadByte_of_le (h : msg.payload.length ≤ i) :
    (payloadByte msg i : FwM cfg U8) = throw .outOfBounds := by
  rw [payloadByte, List.getElem?_eq_none h]

lemma payloadLe16_of_lt (h : i + 1 < msg.payload.length) :
    (payloadLe16 msg i : FwM cfg U16) =
      pure (ofLe16 (msg.payload.getD i 0) (msg.payload.getD (i + 1) 0)) := by
  rw [payloadLe16, payloadByte_of_lt (by omega), payloadByte_of_lt h, pure_bind, pure_bind]

/-- A handler stays within the payload if every byte it reads is there. -/
lemma stops_payloadByte_bind {f : U8 → FwM cfg α} :
    Stops (payloadByte msg i >>= f) s .outOfBounds ↔
      (i < msg.payload.length → Stops (f (msg.payload.getD i 0)) s .outOfBounds) := by
  by_cases h : i < msg.payload.length
  · rw [payloadByte_of_lt h, pure_bind]
    exact ⟨fun hs _ => hs, fun hs => hs h⟩
  · rw [payloadByte_of_le (not_lt.mp h), stops_bind, stops_throw]
    exact iff_of_true (Or.inl rfl) fun h' => absurd h' h

lemma stops_payloadLe16_bind {f : U16 → FwM cfg α} :
    Stops (payloadLe16 msg i >>= f) s .outOfBounds ↔
      (i + 1 < msg.payload.length →
        Stops (f (ofLe16 (msg.payload.getD i 0) (msg.payload.getD (i + 1) 0))) s
          .outOfBounds) := by
  rw [payloadLe16, bind_assoc, stops_payloadByte_bind]
  simp only [bind_assoc, pure_bind]
  rw [stops_payloadByte_bind]
  exact ⟨fun h hlt => h (by omega) hlt, fun h _ hlt => h hlt⟩

end reads

/-- `struct gb_svc_conn_destroy_request`, and what is read of
`struct gb_svc_conn_create_request` -/
structure ConnRequest where
  intf1Id : U8
  cport1Id : U16
  intf2Id : U8
  cport2Id : U16

/-- The payload as such a structure; bytes that are not there read as zero. -/
def connRequest (msg : GbMessage) : ConnRequest where
  intf1Id := msg.payload.getD 0 0
  cport1Id := ofLe16 (msg.payload.getD 1 0) (msg.payload.getD 2 0)
  intf2Id := msg.payload.getD 3 0
  cport2Id := ofLe16 (msg.payload.getD 4 0) (msg.payload.getD 5 0)

/-- The endpoint of it that is not the AP's. -/
def ConnRequest.endpoint (r : ConnRequest) : Option Endpoint :=
  Cc1352Greybus.endpoint r.intf1Id r.cport1Id r.intf2Id r.cport2Id

/-- Both of its endpoints are the same. -/
def ConnRequest.IsLoop (r : ConnRequest) : Prop :=
  r.intf1Id = r.intf2Id ∧ r.cport1Id = r.cport2Id

instance (r : ConnRequest) : Decidable r.IsLoop := inferInstanceAs (Decidable (_ ∧ _))

/-! ### Connections -/

section connections

/-- `connection_create` always returns. -/
lemma exists_ends_connectionCreate (i₁ i₂ : U8) (p₁ p₂ : U16) (s : Fw cfg) :
    ∃ ret s', Ends (connectionCreate env i₁ p₁ i₂ p₂) s ret s' := by
  cases he : endpoint i₁ p₁ i₂ p₂ with
  | none =>
      rw [connectionCreate, he]
      exact ⟨_, s, Ends.pure _ s⟩
  | some e =>
      cases hfind : gbInterfaceFindById s.core e.nodeId with
      | none =>
          simp only [connectionCreate, he, (Ends.getCore s).bind_iff, hfind]
          exact ⟨_, s, Ends.pure _ s⟩
      | some intf =>
          obtain ⟨r, s₁, h₁, -⟩ := intfCreateConnection_ends env intf e.nodeCport s
          rcases lt_or_ge r 0 with hneg | hpos
          · exact ⟨r, s₁, connectionCreate_refused env he hfind h₁ hneg⟩
          · exact ⟨_, _, connectionCreate_added env he hfind h₁ hpos⟩

/-- So does `connection_destroy`. -/
lemma exists_ends_connectionDestroy (i₁ i₂ : U8) (p₁ p₂ : U16) (s : Fw cfg) :
    ∃ ret s', Ends (connectionDestroy i₁ p₁ i₂ p₂) s ret s' := by
  cases he : endpoint i₁ p₁ i₂ p₂ with
  | none =>
      rw [connectionDestroy, he]
      exact ⟨_, s, Ends.pure _ s⟩
  | some e =>
      obtain ⟨s₁, htold, -⟩ := exists_interfaceTold e s
      exact ⟨0, _, connectionDestroy_ends he htold⟩

variable {env} {s : Fw cfg}

/-- With the same sockets, they are the same tables. -/
lemma SameButSockets.eq {c c' : Core cfg} (h : SameButSockets c c')
    (hcache : c'.nodeCache = c.nodeCache) (hctrl : c'.ctrlMem = c.ctrlMem) : c' = c := by
  cases c
  cases c'
  rw [Core.mk.injEq]
  exact ⟨h.nodeApMap, hcache, h.ctrlSlab, h.intfSlab, hctrl, h.intfMem, h.interfaceIdCounter,
    h.svcReady⟩

/-- A request for a connection is refused before anything has changed. -/
def CreatesNothing (env : Env) (s : Fw cfg) (r : ConnRequest) : Prop :=
  r.IsLoop ∨ ∀ e, r.endpoint = some e →
    (∀ intf k, ¬ MayCreate env s e intf k) ∧ ¬ OpensInVain env s e

/-- A creation fails and changes nothing, where it may not be made and opens no socket. -/
lemma connectionCreate_clean_iff (r : ConnRequest) : (∃ ret s',
      Ends (connectionCreate env r.intf1Id r.cport1Id r.intf2Id r.cport2Id) s ret s' ∧ ret < 0 ∧
        s'.core = s.core) ↔
    ∀ e, r.endpoint = some e → (∀ intf k, ¬ MayCreate env s e intf k) ∧ ¬ OpensInVain env s e := by
  constructor
  · rintro ⟨ret, s', hend, hneg, hcore⟩ e he
    rcases connectionCreate_core env hend with ⟨-, -, hno⟩ | ⟨hzero, -⟩
    swap
    · exact absurd hzero hneg.ne
    refine ⟨fun intf k => hno e intf k he, ?_⟩
    rintro ⟨⟨intf, hfind, hopens⟩, hslot⟩
    -- the socket that is opened is kept
    obtain ⟨r', s₁, h₁, hwhy⟩ := intfCreateConnection_ends env intf e.nodeCport s
    rcases hwhy with ⟨-, hpos, hctrl⟩ | ⟨hnot, -⟩
    swap
    · exact hnot hopens
    obtain ⟨-, rfl⟩ := (connectionCreate_added env he hfind h₁ hpos).unique hend
    have hmap := (intfCreateConnection_core env h₁).nodeApMap
    rcases nodeApAdd_cases s₁.core e.apCport e.nodeCport intf with
      ⟨r'', -, hres, -⟩ | ⟨hlt, hfree, -⟩
    · rw [hres] at hcore
      exact hctrl (congrArg Core.ctrlMem hcore)
    · rw [hmap] at hfree
      exact hslot ⟨_, rfl, hfree⟩
  · intro h
    obtain ⟨ret, s', hend, ⟨hwhole, -⟩ | ⟨⟨e, he, hvain⟩, -⟩⟩ :=
      connectionCreate_whole_or env r.intf1Id r.intf2Id r.cport1Id r.cport2Id s
    swap
    · exact absurd hvain (h e he).2
    rcases connectionCreate_core env hend with ⟨hneg, hsame, -⟩ | ⟨-, e, intf, k, he, hmay, -⟩
    · refine ⟨ret, s', hend, hneg, ?_⟩
      rcases hwhole with ⟨-, huntouched⟩ | ⟨hzero, -⟩
      · exact hsame.eq huntouched.nodeCache huntouched.ctrlMem
      · exact absurd hzero hneg.ne
    · exact absurd hmay ((h e he).1 intf k)

end connections

/-! ### Requests that are too short -/

/-- A request is answered with an error, and nothing has changed. -/
def RefusesRequest (msg : GbMessage) (s : Fw cfg) : Prop := ∃ payload status s',
  Ends (svcAnswer env msg) s (.response payload status) s' ∧ status ≠ GB_SVC_OP_SUCCESS ∧
    s'.core = s.core

/-- The SVC's handler stays within the payload of a message, and refuses a request
that is shorter than its structure. -/
structure ReadsPayload (msg : GbMessage) (s : Fw cfg) : Prop where
  inside : ¬ Stops (svcAnswer env msg) s .outOfBounds
  short : gbMessagePayloadLen msg < requestSize (gbMessageType msg) → RefusesRequest env msg s

/-- A version response has the two bytes of its structure; a request has all of its
structure, or it has the fields that are read of it and asks for a connection that is
not created. -/
def PayloadSuffices (msg : GbMessage) (s : Fw cfg) : Prop :=
  if gbMessageType msg = GB_SVC_TYPE_PROTOCOL_VERSION ||| GB_OP_RESPONSE then
    2 ≤ gbMessagePayloadLen msg
  else requestSize (gbMessageType msg) ≤ gbMessagePayloadLen msg ∨
    gbMessageType msg = GB_SVC_TYPE_CONN_CREATE ∧ 6 ≤ gbMessagePayloadLen msg ∧
      CreatesNothing env s (connRequest msg)

section requests

variable {env} {msg : GbMessage} {s : Fw cfg}

/-- The fields read for a creation end with the sixth byte. -/
lemma stops_create_iff :
    Stops (svcConnectionCreateAnswer env msg) s .outOfBounds ↔ msg.payload.length < 6 := by
  have hrest : ∀ i₁ i₂ p₁ p₂, ¬ Stops (do
      let ret ← connectionCreate env i₁ p₁ i₂ p₂
      return connReply ret) s .outOfBounds := by
    intro i₁ i₂ p₁ p₂
    obtain ⟨ret, s', hend⟩ := exists_ends_connectionCreate env i₁ i₂ p₁ p₂ s
    rw [hend.stops_bind_iff]
    exact (Ends.pure _ s').not_stops _
  simp only [svcConnectionCreateAnswer, stops_payloadByte_bind, stops_payloadLe16_bind]
  constructor
  · intro h
    by_contra hlen
    have hstops := h (by omega) (by omega) (by omega) (by omega)
    split_ifs at hstops
    · exact (Ends.pure _ s).not_stops _ hstops
    · exact hrest _ _ _ _ hstops
  · intro h _ _ _ h5
    omega

/-- So do those read for a destruction. -/
lemma stops_destroy_iff :
    Stops (svcConnectionDestroyAnswer msg) s .outOfBounds ↔ msg.payload.length < 6 := by
  have hrest : ∀ i₁ i₂ p₁ p₂, ¬ Stops (do
      let ret ← connectionDestroy i₁ p₁ i₂ p₂
      return connReply ret) s .outOfBounds := by
    intro i₁ i₂ p₁ p₂
    obtain ⟨ret, s', hend⟩ := exists_ends_connectionDestroy i₁ i₂ p₁ p₂ s
    rw [hend.stops_bind_iff]
    exact (Ends.pure _ s').not_stops _
  simp only [svcConnectionDestroyAnswer, stops_payloadByte_bind, stops_payloadLe16_bind]
  constructor
  · intro h
    by_contra hlen
    exact hrest _ _ _ _ (h (by omega) (by omega) (by omega) (by omega))
  · intro h _ _ _ h5
    omega

/-- The power modes end with the eighth byte, and are answered with success. -/
lemma svcIntfSetPwrmAnswer_cases (msg : GbMessage) (s : Fw cfg) :
    msg.payload.length < 8 ∧ Stops (svcIntfSetPwrmAnswer msg) s .outOfBounds ∨
      8 ≤ msg.payload.length ∧ ∃ resultCode, (svcIntfSetPwrmAnswer msg : FwM cfg SvcReply) =
        pure (.response [resultCode] GB_SVC_OP_SUCCESS) := by
  rcases lt_or_ge msg.payload.length 8 with hlen | hlen
  · refine Or.inl ⟨hlen, ?_⟩
    rw [svcIntfSetPwrmAnswer, stops_payloadByte_bind]
    refine fun _ => stops_payloadByte_bind.mpr fun h7 => ?_
    omega
  · refine Or.inr ⟨hlen, ?_⟩
    rw [svcIntfSetPwrmAnswer, payloadByte_of_lt (by omega), payloadByte_of_lt (by omega),
      pure_bind, pure_bind]
    exact ⟨_, rfl⟩

/-- A version is two bytes, and is answered with a hello. -/
lemma svcVersionResponseAnswer_cases (msg : GbMessage) (s : Fw cfg) :
    msg.payload.length < 2 ∧ Stops (svcVersionResponseAnswer msg) s .outOfBounds ∨
      2 ≤ msg.payload.length ∧
        (svcVersionResponseAnswer msg : FwM cfg SvcReply) = pure .hello := by
  have hdiscard : ∀ i, (discard (payloadByte msg i) : FwM cfg Unit) =
      payloadByte msg i >>= fun _ => pure () := fun i =>
    (bind_pure_comp (fun _ => PUnit.unit) (payloadByte msg i)).symm
  rw [svcVersionResponseAnswer, hdiscard, hdiscard, bind_assoc, bind_assoc]
  rcases lt_or_ge msg.payload.length 2 with hlen | hlen
  · refine Or.inl ⟨hlen, stops_payloadByte_bind.mpr fun _ => ?_⟩
    rw [pure_bind]
    refine stops_payloadByte_bind.mpr fun h1 => ?_
    omega
  · refine Or.inr ⟨hlen, ?_⟩
    rw [payloadByte_of_lt (by omega), payloadByte_of_lt (by omega)]
    rfl

/-- With its fields there, a creation is asked for by them. -/
lemma svcConnectionCreateAnswer_of_le (hlen : 6 ≤ msg.payload.length) :
    (svcConnectionCreateAnswer env msg : FwM cfg SvcReply) =
      if (connRequest msg).IsLoop then pure (.response [] GB_SVC_OP_UNKNOWN_ERROR)
      else do
        let ret ← connectionCreate env (connRequest msg).intf1Id (connRequest msg).cport1Id
          (connRequest msg).intf2Id (connRequest msg).cport2Id
        return connReply ret := by
  rw [svcConnectionCreateAnswer, payloadByte_of_lt (by omega), payloadByte_of_lt (by omega),
    payloadLe16_of_lt (by omega), payloadLe16_of_lt (by omega)]
  rfl

/-- So is a destruction. -/
lemma svcConnectionDestroyAnswer_of_le (hlen : 6 ≤ msg.payload.length) :
    (svcConnectionDestroyAnswer msg : FwM cfg SvcReply) = do
      let ret ← connectionDestroy (connRequest msg).intf1Id (connRequest msg).cport1Id
        (connRequest msg).intf2Id (connRequest msg).cport2Id
      return connReply ret := by
  rw [svcConnectionDestroyAnswer, payloadByte_of_lt (by omega), payloadLe16_of_lt (by omega),
    payloadByte_of_lt (by omega), payloadLe16_of_lt (by omega)]
  rfl

/-- With its fields there, a request for a connection is refused exactly when it creates
nothing. -/
lemma refusesRequest_create_iff
    (hanswer : (svcAnswer env msg : FwM cfg SvcReply) = svcConnectionCreateAnswer env msg)
    (hlen : 6 ≤ msg.payload.length) :
    RefusesRequest env msg s ↔ CreatesNothing env s (connRequest msg) := by
  rw [RefusesRequest, CreatesNothing, ← connectionCreate_clean_iff, hanswer,
    svcConnectionCreateAnswer_of_le hlen]
  by_cases hloop : (connRequest msg).IsLoop
  · rw [if_pos hloop]
    exact iff_of_true ⟨_, _, s, Ends.pure _ s, by decide, rfl⟩ (Or.inl hloop)
  rw [if_neg hloop, or_iff_right hloop]
  constructor
  · rintro ⟨payload, status, s', hend, hstatus, hcore⟩
    obtain ⟨ret, s₁, hcreate, hend⟩ := ends_bind.mp hend
    obtain ⟨hreply, rfl⟩ := ends_pure.mp hend
    obtain ⟨-, rfl⟩ := SvcReply.response.inj hreply
    refine ⟨ret, s₁, hcreate, ?_, hcore⟩
    by_contra hpos
    exact hstatus (if_neg hpos)
  · rintro ⟨ret, s', hend, hneg, hcore⟩
    refine ⟨[], GB_SVC_OP_UNKNOWN_ERROR, s', hend.bind ?_, by decide, hcore⟩
    rw [connReply, if_pos hneg]
    exact Ends.pure _ s'

/-- An answer of success refuses nothing. -/
lemma not_refusesRequest {payload : List U8}
    (h : (svcAnswer env msg : FwM cfg SvcReply) = pure (.response payload GB_SVC_OP_SUCCESS)) :
    ¬ RefusesRequest env msg s := by
  rintro ⟨payload', status, s', hend, hstatus, -⟩
  rw [h] at hend
  exact hstatus (SvcReply.response.inj (ends_pure.mp hend).1).2.symm

end requests

/-- Every message that a frame of the AP becomes speaks for its payload. -/
theorem greybusFrameMsg_sized {buffer : List U8} {n : ℕ} {io io' : Io} {cport : U16}
    {msg : GbMessage} (h : Ends (greybusFrameMsg env buffer n) io (some (cport, msg)) io') :
    msg.Sized := by
  rcases greybusFrameMsg_cases h with ⟨hnone, -⟩ | ⟨len, hlen, hbuf, -, hmsg, -⟩
  · cases hnone
  · obtain ⟨-, rfl⟩ := Prod.mk.inj (Option.some.inj hmsg)
    exact frameMsg_sized hlen hbuf

section kinds

variable {env} {msg : GbMessage} {s : Fw cfg}

/-- What is answered with success within the payload refuses nothing, so that it must
not be short. -/
lemma readsPayload_success_iff (hmsg : msg.Sized) {payload : List U8}
    (hanswer : (svcAnswer env msg : FwM cfg SvcReply) =
      pure (.response payload GB_SVC_OP_SUCCESS)) :
    ReadsPayload env msg s ↔ requestSize (gbMessageType msg) ≤ msg.payload.length := by
  have hlen := hmsg.payloadLen
  constructor
  · intro h
    by_contra hshort
    exact not_refusesRequest hanswer (h.short (by omega))
  · intro h
    refine ⟨?_, fun hshort => by omega⟩
    rw [hanswer]
    exact (Ends.pure _ s).not_stops _

/-- A creation reads six bytes of eight. -/
lemma readsPayload_create_iff (hmsg : msg.Sized)
    (htype : gbMessageType msg = GB_SVC_TYPE_CONN_CREATE)
    (hanswer : (svcAnswer env msg : FwM cfg SvcReply) = svcConnectionCreateAnswer env msg) :
    ReadsPayload env msg s ↔ 8 ≤ msg.payload.length ∨
      6 ≤ msg.payload.length ∧ CreatesNothing env s (connRequest msg) := by
  have hinside : ¬ Stops (svcAnswer env msg) s .outOfBounds ↔ 6 ≤ msg.payload.length := by
    rw [hanswer, stops_create_iff, not_lt]
  have hshort : gbMessagePayloadLen msg < requestSize (gbMessageType msg) ↔
      ¬ 8 ≤ msg.payload.length := by
    rw [hmsg.payloadLen, htype, not_le]
    rfl
  constructor
  · intro h
    have h6 := hinside.mp h.inside
    by_cases h8 : 8 ≤ msg.payload.length
    · exact Or.inl h8
    · exact Or.inr ⟨h6, (refusesRequest_create_iff hanswer h6).mp (h.short (hshort.mpr h8))⟩
  · rintro (h8 | ⟨h6, hnothing⟩)
    · exact ⟨hinside.mpr (by omega), fun h => absurd h8 (hshort.mp h)⟩
    · exact ⟨hinside.mpr h6, fun _ => (refusesRequest_create_iff hanswer h6).mpr hnothing⟩

/-- A destruction reads all six. -/
lemma readsPayload_destroy_iff (hmsg : msg.Sized)
    (htype : gbMessageType msg = GB_SVC_TYPE_CONN_DESTROY)
    (hanswer : (svcAnswer env msg : FwM cfg SvcReply) = svcConnectionDestroyAnswer msg) :
    ReadsPayload env msg s ↔ 6 ≤ msg.payload.length := by
  have hinside : ¬ Stops (svcAnswer env msg) s .outOfBounds ↔ 6 ≤ msg.payload.length := by
    rw [hanswer, stops_destroy_iff, not_lt]
  refine ⟨fun h => hinside.mp h.inside, fun h6 => ⟨hinside.mpr h6, fun hshort => ?_⟩⟩
  rw [hmsg.payloadLen, htype] at hshort
  exact absurd h6 (not_le.mpr hshort)

/-- Power modes are answered with success whatever is behind the eighth byte. -/
lemma readsPayload_setPwrm_iff (hmsg : msg.Sized)
    (htype : gbMessageType msg = GB_SVC_TYPE_INTF_SET_PWRM)
    (hanswer : (svcAnswer env msg : FwM cfg SvcReply) = svcIntfSetPwrmAnswer msg) :
    ReadsPayload env msg s ↔ requestSize (gbMessageType msg) ≤ msg.payload.length := by
  rcases svcIntfSetPwrmAnswer_cases msg s with ⟨h8, hstops⟩ | ⟨-, resultCode, hres⟩
  · refine iff_of_false (fun h => h.inside (by rwa [hanswer])) fun hle => ?_
    rw [htype, show requestSize GB_SVC_TYPE_INTF_SET_PWRM = 63 from rfl] at hle
    omega
  · exact readsPayload_success_iff hmsg (hanswer.trans hres)

/-- What is no request is not too short for one. -/
lemma readsPayload_of_size_zero (hsize : requestSize (gbMessageType msg) = 0) {reply : SvcReply}
    (hanswer : (svcAnswer env msg : FwM cfg SvcReply) = pure reply) : ReadsPayload env msg s := by
  refine ⟨?_, fun hshort => ?_⟩
  · rw [hanswer]
    exact (Ends.pure _ s).not_stops _
  · rw [hsize] at hshort
    exact absurd hshort (Nat.not_lt_zero _)

/-- A version response reads two bytes. -/
lemma readsPayload_version_iff
    (htype : gbMessageType msg = GB_SVC_TYPE_PROTOCOL_VERSION ||| GB_OP_RESPONSE)
    (hanswer : (svcAnswer env msg : FwM cfg SvcReply) = svcVersionResponseAnswer msg) :
    ReadsPayload env msg s ↔ 2 ≤ msg.payload.length := by
  rcases svcVersionResponseAnswer_cases msg s with ⟨h2, hstops⟩ | ⟨h2, hres⟩
  · exact iff_of_false (fun h => h.inside (by rwa [hanswer])) (not_le.mpr h2)
  · exact iff_of_true (readsPayload_of_size_zero (by rw [htype]; rfl) (hanswer.trans hres)) h2

end kinds

/-- **The SVC's handlers** stay within the payload of a message and refuse a request
that is too short, exactly when the payload suffices. -/
theorem readsPayload_iff {msg : GbMessage} (hmsg : msg.Sized) (s : Fw cfg) :
    ReadsPayload env msg s ↔ PayloadSuffices env msg s := by
  rw [PayloadSuffices, hmsg.payloadLen]
  rcases svcAnswer_cases env cfg msg with
    ⟨htype, hanswer⟩ | ⟨htype, hanswer⟩ | ⟨htype, hanswer⟩ | ⟨htype, hanswer⟩ |
      ⟨hcreate, -, -, hversion, ⟨-, payload, -, hanswer⟩ | ⟨-, hsize, -, hanswer⟩⟩
  · -- a creation
    rw [readsPayload_create_iff hmsg htype hanswer, htype, if_neg (by decide),
      and_iff_right rfl]
    rfl
  · -- a destruction
    rw [readsPayload_destroy_iff hmsg htype hanswer, htype, if_neg (by decide),
      or_iff_left fun h => absurd h.1 (by decide)]
    rfl
  · -- power modes
    rw [readsPayload_setPwrm_iff hmsg htype hanswer, htype, if_neg (by decide),
      or_iff_left fun h => absurd h.1 (by decide)]
  · -- a version
    rw [if_pos htype]
    exact readsPayload_version_iff htype hanswer
  · -- a request that is answered with success
    rw [if_neg hversion, or_iff_left fun h => hcreate h.1]
    exact readsPayload_success_iff hmsg hanswer
  · -- no request
    rw [if_neg hversion, or_iff_left fun h => hcreate h.1, hsize]
    exact iff_of_true (readsPayload_of_size_zero hsize hanswer) (Nat.zero_le _)

/-- A request for a connection with cport 1 of a node. -/
def nodeRequest : GbMessage :=
  ⟨0, ⟨16, 1, GB_SVC_TYPE_CONN_CREATE, 0, 0, 0⟩, [AP_INF_ID, 1, 0, 3, 1, 0, 0, 0]⟩

/-- Whether it is read within its payload. -/
theorem readsPayload_iff_node :
    ReadsPayload calmEnv nodeRequest withNode ↔ PayloadSuffices calmEnv nodeRequest withNode :=
  readsPayload_iff calmEnv (show nodeRequest.Sized from rfl) withNode

/-- A request without a payload. -/
def payloadless (type : U8) : GbMessage := ⟨0, ⟨8, 1, type, 0, 0, 0⟩, []⟩

/-- The connection to destroy is read from behind the message; an attribute that is not
named is read with success. -/
theorem short_requests :
    (payloadless GB_SVC_TYPE_CONN_DESTROY).Sized ∧
      Stops (svcInfWrite calmEnv (payloadless GB_SVC_TYPE_CONN_DESTROY) 0) withSvc .outOfBounds ∧
      ¬ ReadsPayload calmEnv (payloadless GB_SVC_TYPE_CONN_DESTROY) withSvc ∧
      (payloadless GB_SVC_TYPE_DME_PEER_GET).Sized ∧
      svcAnswer calmEnv (payloadless GB_SVC_TYPE_DME_PEER_GET) =
        (pure (.response [0, 0, 0x26, 0x01, 0, 0] GB_SVC_OP_SUCCESS) : FwM .prjConf SvcReply) ∧
      ¬ ReadsPayload calmEnv (payloadless GB_SVC_TYPE_DME_PEER_GET) withSvc := by
  have hget : svcAnswer calmEnv (payloadless GB_SVC_TYPE_DME_PEER_GET) =
      (pure (.response [0, 0, 0x26, 0x01, 0, 0] GB_SVC_OP_SUCCESS) : FwM .prjConf SvcReply) := rfl
  refine ⟨rfl, stops_of_fault (by decide +kernel), fun h => ?_, rfl, hget, fun h => ?_⟩
  · exact h.inside (stops_of_fault (by decide +kernel))
  · exact not_refusesRequest hget (h.short (by decide))

end Cc1352Greybus
