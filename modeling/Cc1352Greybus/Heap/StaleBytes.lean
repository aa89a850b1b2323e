import Cc1352Greybus.Bridge.ToAp

/-!
What a heap block held before, and what of it is transmitted.

`gb_message_alloc` writes every field of the header but the two pad bytes, and each
of its callers writes the payload.

* `MessageSource.padded`: a message is the same whatever its block held, but for its
  pad bytes.
* `MessageSink.sendAlike`: as much of it is sent, and how many bytes of its header are
  taken goes by the answers of the network.
* `stale_bytes_iff`: what is sent is the same, with pad bytes of zero, exactly when
  the block had zeros for them.
* `pad_transmitted`: a response with what its block held in its header.
-/

namespace Cc1352Greybus

open Effects

variable {cfg : Config} (env : Env)

/-- The environment with something else in the blocks of the message heap. -/
def Env.withHeap (heap : ℕ → ℕ → U8) : Env := { env with heapGarbage := heap }

/-! ### Where messages come from and go -/

/-- How a message comes about. -/
inductive MessageSource
  /-- `hdlc_process_greybus_frame` copies it from a frame -/
  | frame (buffer : List U8) (bufferLen : ℕ)
  /-- `gb_message_receive` reads it off a socket -/
  | socket (sock : ℤ) (flag : Bool)
  | request (payload : List U8) (requestType : U8) (isOneshot : Bool)
  | response (payload : List U8) (requestType : U8) (operationId : U16) (status : U8)

/-- The message, if there is one. -/
def MessageSource.message : MessageSource → IoM (Option GbMessage)
  | frame buffer n => do
    let r ← greybusFrameMsg env buffer n
    return r.map Prod.snd
  | socket sock flag => do
    let r ← gbMessageReceive env sock flag
    return r.1.map Prod.snd
  | request payload requestType isOneshot => gbMessageRequestAlloc env payload requestType isOneshot
  | response payload requestType operationId status =>
    gbMessageResponseAlloc env payload requestType operationId status

/-- The writes of `gb_message_send`: what the first that is not complete returns. -/
def gbMessageWrites (sock : ℤ) (msg : GbMessage) (cport : U16) : IoM (Option ℤ) := do
  let ret ← writeData env sock (le16 cport)
  if ret ≠ 2 then return some ret
  else do
    let ret ← writeData env sock msg.header.bytes
    if ret ≠ 8 then return some ret
    else do
      let len := gbMessagePayloadLen msg
      if msg.payload.length < len then throw .outOfBounds
      else do
        let ret ← writeData env sock (msg.payload.take len)
        if ret ≠ len then return some ret else return none

/-- `gb_message_send` makes them, and reports the node if one fails. -/
lemma gbMessageSend_eq (sock : ℤ) (msg : GbMessage) (cport : U16) :
    (gbMessageSend env sock msg cport : FwM cfg ℤ) =
      liftIo (gbMessageWrites env sock msg cport) >>= fun
        | some ret => gbMessageSendFailed env sock ret
        | none => return 0 := by
  rw [gbMessageSend, gbMessageWrites]
  simp only [liftIo_bind, bind_assoc]
  congr 1
  funext ret
  by_cases hcport : ret ≠ 2
  · rw [if_pos hcport, if_pos hcport]
    rfl
  rw [if_neg hcport, if_neg hcport]
  simp only [liftIo_bind, bind_assoc]
  congr 1
  funext ret
  by_cases hheader : ret ≠ 8
  · rw [if_pos hheader, if_pos hheader]
    rfl
  rw [if_neg hheader, if_neg hheader]
  split_ifs
  · rfl
  simp only [liftIo_bind, bind_assoc]
  congr 1
  funext ret
  split_ifs <;> rfl

/-- Where a message is sent to. -/
inductive MessageSink
  /-- the UART -/
  | uart (cport : U16)
  /-- a node -/
  | node (sock : ℤ) (cport : U16)

namespace MessageSink

/-- The cport it is sent under. -/
def cport : MessageSink → U16
  | uart cport => cport
  | node _ cport => cport

/-- The UART sends what fits one block of the HDLC layer. -/
def HasRoom (cfg : Config) : MessageSink → GbMessage → Prop
  | uart _, msg => msg.FitsFrame cfg
  | node .., _ => True

/-- The message, sent. -/
def send (cfg : Config) : MessageSink → GbMessage → IoM Unit
  | uart cport, msg => discard (gbMessageHdlcSend cfg msg cport)
  | node sock cport, msg => discard (gbMessageWrites env sock msg cport)

end MessageSink

/-- The bytes an event puts on the UART, between the HDLC header and the FCS, or hands to
a socket. -/
def Event.sentBytes : Event → List U8
  | .hdlcBlock b => b.payload
  | .sockSend _ bytes => bytes
  | .pipeSend _ => [0]
  | _ => []

/-- The bytes of a message that are sent. -/
def MessageSink.sent (cfg : Config) (sink : MessageSink) (msg : GbMessage) (io : Io) : List U8 :=
  ((final (sink.send env cfg msg) io).trace.drop io.trace.length).flatMap Event.sentBytes

/-- A message comes about, and some bytes of it are sent. -/
def Emits (cfg : Config) (src : MessageSource) (sink : MessageSink) (io : Io) (out : List U8) :
    Prop :=
  ∃ msg io₁, Ends (src.message env) io (some msg) io₁ ∧ sink.HasRoom cfg msg ∧
    out = sink.sent env cfg msg io₁

/-! ### What the network takes -/

namespace Env

/-- How many of so many bytes `zsock_send` takes in some rounds, and its next call. -/
def takesIn : ℕ → ℕ → ℕ → ℕ × ℕ
  | 0, _, calls => (0, calls)
  | rounds + 1, left, calls =>
    if left = 0 then (0, calls)
    else match env.zsockSend calls with
      | none => (0, calls + 1)
      | some n =>
        let rest := takesIn rounds (left - min (n + 1) left) (calls + 1)
        (min (n + 1) left + rest.1, rest.2)

/-- How many of so many bytes a socket takes. -/
def takes (sock : ℤ) (len calls : ℕ) : ℕ × ℕ :=
  if sock < 0 then (0, calls) else env.takesIn len len calls

/-- With those behind, once it has taken all of these. -/
def takesThen (sock : ℤ) (len : ℕ) (behind : ℕ → ℕ) (calls : ℕ) : ℕ :=
  let taken := env.takes sock len calls
  if taken.1 = len then len + behind taken.2 else taken.1

end Env

/-- How many bytes of the cport and the header of a message are taken. The UART takes all. -/
def MessageSink.headTaken : MessageSink → ℕ → ℕ
  | uart _, _ => 10
  | node sock _, calls => env.takesThen sock 2 (env.takesThen sock 8 fun _ => 0) calls

/-- The pad bytes among what is sent are zero. They stand behind the cport and six bytes of
the header. -/
def PadsZero (out : List U8) : Prop := ∀ k, k = 6 ∨ k = 7 → out.getD (k + 2) 0 = 0

/-! ### Messages -/

/-- A message with other pad bytes. -/
def GbMessage.padded (msg : GbMessage) (block : ℕ → U8) : GbMessage :=
  { msg with header := { msg.header with pad0 := block 6, pad1 := block 7 } }

@[simp] lemma GbMessage.padded_payload (msg : GbMessage) (block : ℕ → U8) :
    (msg.padded block).payload = msg.payload := rfl

@[simp] lemma GbMessage.padded_payloadLen (msg : GbMessage) (block : ℕ → U8) :
    gbMessagePayloadLen (msg.padded block) = gbMessagePayloadLen msg := rfl

/-- The pad bytes take no room. -/
lemma MessageSink.HasRoom.padded {sink : MessageSink} {msg : GbMessage}
    (h : sink.HasRoom cfg msg) (block : ℕ → U8) : sink.HasRoom cfg (msg.padded block) := by
  cases sink with
  | uart cport => exact h
  | node sock cport => trivial

variable {env} {heap : ℕ → ℕ → U8}

/-- A message that is allocated for a payload fits its block. -/
lemma alloc_memcpy_fits {payload : List U8} {messageType : U8} {operationId : U16} {status : U8}
    {io io' : Io} {msg : GbMessage}
    (h : Ends (do
      let msg ← gbMessageAlloc env payload.length messageType operationId status
      memcpyPayload msg payload) io (some msg) io') : payload.length + 8 < 2 ^ 32 := by
  rw [gbMessageAlloc, bind_assoc] at h
  obtain ⟨blk, io₁, -, h⟩ := ends_bind.mp h
  cases blk with
  | none =>
      -- nothing is copied, so that there is no message
      rw [pure_bind, memcpyPayload] at h
      split_ifs at h
      · cases (ends_pure.mp h).1
      · exact (ends_throw.mp h).elim
  | some blk =>
      dsimp only at h
      obtain ⟨m, io₂, hm, h⟩ := ends_bind.mp h
      split_ifs at hm with h8
      · exact (ends_throw.mp hm).elim
      obtain ⟨rfl, rfl⟩ := ends_pure.mp hm
      have hroom : (blockMessage env blk ((8 + payload.length) % 2 ^ 32) messageType operationId
          status).payload.length = (8 + payload.length) % 2 ^ 32 - 8 := by simp [blockMessage]
      rw [memcpyPayload, fillPayload, hroom] at h
      split_ifs at h with hlen
      · obtain ⟨_, _, hthrow, -⟩ := ends_bind.mp h
        exact (ends_throw.mp hthrow).elim
      · omega

/-- What is allocated for a payload is the same message in any block. -/
lemma alloc_memcpy_padded {payload : List U8} {messageType : U8} {operationId : U16} {status : U8}
    {io io' : Io} {msg : GbMessage}
    (h : Ends (do
      let msg ← gbMessageAlloc env payload.length messageType operationId status
      memcpyPayload msg payload) io (some msg) io') (heap : ℕ → ℕ → U8) :
    ∃ io'', Ends (do
      let msg ← gbMessageAlloc (env.withHeap heap) payload.length messageType operationId status
      memcpyPayload msg payload) io (some (msg.padded (heap io.heapCalls))) io'' ∧
        io''.sendCalls = io.sendCalls := by
  have hlen := alloc_memcpy_fits h
  have hheap : env.heapAlloc io.heapCalls (8 + payload.length) = true := by
    by_contra hno
    obtain ⟨m, io₁, hm, h⟩ := ends_bind.mp h
    have hrefused : Ends (gbMessageAlloc env payload.length messageType operationId status) io
        none (io.afterAlloc []) :=
      gbMessageAlloc_refused messageType operationId status hlen fun hg => hno hg.2
    obtain ⟨rfl, rfl⟩ := hrefused.unique hm
    rw [memcpyPayload] at h
    split_ifs at h
    · cases (ends_pure.mp h).1
    · exact (ends_throw.mp h).elim
  obtain ⟨hmsg, -⟩ := (ends_alloc_memcpy env io messageType operationId status hlen hheap).unique h
  obtain rfl := Option.some.inj hmsg
  exact ⟨_, ends_alloc_memcpy (env.withHeap heap) io messageType operationId status hlen hheap, rfl⟩

/-- So is what is copied from a frame. -/
lemma greybusFrameMsg_padded {buffer : List U8} {n : ℕ} {io io' : Io} {cport : U16}
    {msg : GbMessage} (h : Ends (greybusFrameMsg env buffer n) io (some (cport, msg)) io')
    (heap : ℕ → ℕ → U8) :
    ∃ io'', Ends (greybusFrameMsg (env.withHeap heap) buffer n) io
      (some (cport, msg.padded (heap io.heapCalls))) io'' ∧ io''.sendCalls = io.sendCalls := by
  cases greybusFrameMsg_cases h with
  | inl hnone => cases hnone.1
  | inr htaken =>
      obtain ⟨len, hlen, hbuf, hsize, hr, -⟩ := htaken
      obtain ⟨rfl, rfl⟩ := Prod.mk.inj (Option.some.inj hr)
      have hheap : HeapGrants env io (frameHdr buffer).size.toNat := by
        by_contra hno
        have hrefused := greybusFrameMsg_refused (by omega) hsize hno
        cases (hrefused.unique h).1
      have htaken : Ends (greybusFrameMsg (env.withHeap heap) buffer n) io _ _ :=
        greybusFrameMsg_taken hlen hbuf hsize hheap
      exact ⟨_, htaken, rfl⟩

lemma OnlyReads.sendCalls {io io' : Io} (h : OnlyReads io io') : io'.sendCalls = io.sendCalls := by
  obtain ⟨rx, rfl⟩ := h
  rfl

/-- The steps of a receive that returns a message: two reads, a block and a third. -/
structure ReceivesAll (env : Env) (sock : ℤ) (io : Io) (c hd p : ℤ × List U8) (io₁ io₂ io₄ : Io) :
    Prop where
  cport : Ends (readData sock 2 2) io c io₁
  cport_all : c.1 = 2
  header : Ends (readData sock 8 8) io₁ hd io₂
  header_all : hd.1 = 8
  size : 6 ≤ (GbOperationMsgHdr.ofBytes hd.2).size.toNat
  grants : HeapGrants env io₂ (GbOperationMsgHdr.ofBytes hd.2).size.toNat
  payload : Ends (readData sock ((GbOperationMsgHdr.ofBytes hd.2).size.toNat - 8)
    (gbHdrPayloadLen (GbOperationMsgHdr.ofBytes hd.2))) (io₂.afterAlloc [.alloc io₂.heapCalls]) p io₄
  payload_all : p.1 % 2 ^ 32 = gbHdrPayloadLen (GbOperationMsgHdr.ofBytes hd.2)

/-- The message that is read then. -/
def receivedMsg (env : Env) (hd p : ℤ × List U8) (blk : ℕ) : GbMessage :=
  { hdrMessage env (GbOperationMsgHdr.ofBytes hd.2) blk with payload := p.2 }

namespace ReceivesAll

variable {sock : ℤ} {flag flag' : Bool} {io io' io₁ io₂ io₄ : Io} {c hd p : ℤ × List U8}
  {cport : U16} {msg : GbMessage}

/-- A receive with these steps returns that message. -/
lemma ends (h : ReceivesAll env sock io c hd p io₁ io₂ io₄) (flag : Bool) :
    Ends (gbMessageReceive env sock flag) io
      (some (ofLe16 (c.2.getD 0 0) (c.2.getD 1 0), receivedMsg env hd p io₂.heapCalls), flag)
      (io₄.logged [.received sock (.full (ofLe16 (c.2.getD 0 0) (c.2.getD 1 0))
        (receivedMsg env hd p io₂.heapCalls))]) := by
  have hnil : (hdrMessage env (GbOperationMsgHdr.ofBytes hd.2) io₂.heapCalls).payload.drop
      p.2.length = [] :=
    List.drop_eq_nil_iff.mpr (by
      rw [hdrMessage_payload_length]
      exact le_length_of_readData h.payload h.payload_all)
  rw [gbMessageReceive]
  refine h.cport.bind ?_
  rw [if_neg (not_not.mpr h.cport_all)]
  refine h.header.bind ?_
  rw [if_neg (not_not.mpr h.header_all)]
  refine (gbMessageAlloc_hdr_granted h.grants h.size).bind ?_
  dsimp only
  rw [receivePayload, hdrMessage_payloadLen, hdrMessage_payload_length]
  refine h.payload.bind ?_
  rw [if_neg (not_not.mpr h.payload_all), hnil, List.append_nil]
  exact (Ends.emit _ _).bind (Ends.pure _ _)

/-- A receive that returns a message has them. -/
lemma of_ends (h : Ends (gbMessageReceive env sock flag) io (some (cport, msg), flag') io') :
    ∃ c hd p io₁ io₂ io₄, ReceivesAll env sock io c hd p io₁ io₂ io₄ := by
  have hshort : ∀ {ret io₁}, ¬ Ends (shortRead sock ret) io₁ (some (cport, msg), flag') io' := by
    intro ret io₁ h
    rw [shortRead, (Ends.emit _ io₁).bind_iff] at h
    cases (ends_pure.mp h).1
  rw [gbMessageReceive] at h
  obtain ⟨c, io₁, h₁, h⟩ := ends_bind.mp h
  split_ifs at h with hc
  · exact absurd h hshort
  obtain ⟨hd, io₂, h₂, h⟩ := ends_bind.mp h
  split_ifs at h with hh
  · exact absurd h hshort
  obtain ⟨m, io₃, h₃, h⟩ := ends_bind.mp h
  cases gbMessageAlloc_hdr_ends env h₃ with
  | inl hnone =>
      obtain ⟨rfl, rfl⟩ := hnone
      dsimp only at h
      rw [(Ends.emit _ _).bind_iff] at h
      cases (ends_pure.mp h).1
  | inr hsome =>
      obtain ⟨h6, hgrants, rfl, rfl⟩ := hsome
      dsimp only at h
      rw [receivePayload, hdrMessage_payloadLen, hdrMessage_payload_length] at h
      obtain ⟨p, io₄, h₄, h⟩ := ends_bind.mp h
      split_ifs at h with hp
      · rw [gbMessageDealloc, (Ends.emit _ _).bind_iff] at h
        exact absurd h hshort
      exact ⟨c, hd, p, io₁, io₂, io₄, h₁, not_not.mp hc, h₂, not_not.mp hh, h6, hgrants, h₄,
        not_not.mp hp⟩

end ReceivesAll

/-- And what is read off a socket. -/
lemma gbMessageReceive_padded {sock : ℤ} {flag flag' : Bool} {io io' : Io} {cport : U16}
    {msg : GbMessage}
    (h : Ends (gbMessageReceive env sock flag) io (some (cport, msg), flag') io')
    (heap : ℕ → ℕ → U8) :
    ∃ io'', Ends (gbMessageReceive (env.withHeap heap) sock flag) io
      (some (cport, msg.padded (heap io.heapCalls)), flag') io'' ∧
        io''.sendCalls = io.sendCalls := by
  obtain ⟨c, hd, p, io₁, io₂, io₄, hall⟩ := ReceivesAll.of_ends h
  obtain ⟨hr, -⟩ := (hall.ends flag).unique h
  obtain ⟨hsome, rfl⟩ := Prod.mk.inj hr
  obtain ⟨rfl, rfl⟩ := Prod.mk.inj (Option.some.inj hsome)
  have honly := (readData_stream hall.cport).1.trans (readData_stream hall.header).1
  have hall' : ReceivesAll (env.withHeap heap) sock io c hd p io₁ io₂ io₄ :=
    { hall with grants := hall.grants }
  have hpadded : (receivedMsg env hd p io₂.heapCalls).padded (heap io.heapCalls) =
      receivedMsg (env.withHeap heap) hd p io₂.heapCalls := by
    rw [← honly.heapCalls]
    rfl
  refine ⟨_, hpadded ▸ hall'.ends flag, ?_⟩
  calc io₄.sendCalls = io₂.sendCalls := (readData_stream hall.payload).1.sendCalls
    _ = io.sendCalls := honly.sendCalls

/-- **A message** is the same whatever its block held, but for its pad bytes. -/
theorem MessageSource.padded {src : MessageSource} {io io' : Io} {msg : GbMessage}
    (h : Ends (src.message env) io (some msg) io') (heap : ℕ → ℕ → U8) :
    ∃ io'', Ends (src.message (env.withHeap heap)) io
      (some (msg.padded (heap io.heapCalls))) io'' ∧ io''.sendCalls = io.sendCalls := by
  cases src with
  | frame buffer n =>
      obtain ⟨r, io₁, hr, h⟩ := ends_bind.mp h
      obtain ⟨hmsg, -⟩ := ends_pure.mp h
      obtain ⟨⟨cport, m⟩, rfl, rfl⟩ := Option.map_eq_some_iff.mp hmsg
      obtain ⟨io'', hend, hcalls⟩ := greybusFrameMsg_padded hr heap
      exact ⟨io'', hend.bind (Ends.pure _ _), hcalls⟩
  | socket sock flag =>
      obtain ⟨⟨r, flag'⟩, io₁, hr, h⟩ := ends_bind.mp h
      obtain ⟨hmsg, -⟩ := ends_pure.mp h
      obtain ⟨⟨cport, m⟩, rfl, rfl⟩ := Option.map_eq_some_iff.mp hmsg
      obtain ⟨io'', hend, hcalls⟩ := gbMessageReceive_padded hr heap
      exact ⟨io'', hend.bind (Ends.pure _ _), hcalls⟩
  | request payload requestType isOneshot =>
      cases isOneshot with
      | true => exact alloc_memcpy_padded h heap
      | false =>
          obtain ⟨operationId, io₁, hid, h⟩ := ends_bind.mp h
          obtain ⟨-, rfl⟩ := ends_modifyGet.mp hid
          obtain ⟨io'', hend, hcalls⟩ := alloc_memcpy_padded h heap
          exact ⟨io'', hid.bind hend, hcalls⟩
  | response payload requestType operationId status => exact alloc_memcpy_padded h heap

/-! ### What is sent -/

/-- What the events of a trace put on the UART or hand to sockets. -/
def traceBytes (tr : List Event) : List U8 := tr.flatMap Event.sentBytes

@[simp] lemma traceBytes_nil : traceBytes [] = [] := rfl

lemma traceBytes_append (tr tr' : List Event) :
    traceBytes (tr ++ tr') = traceBytes tr ++ traceBytes tr' :=
  List.flatMap_append

lemma traceBytes_sockSend (sock : ℤ) (bs : List U8) : traceBytes [.sockSend sock bs] = bs :=
  List.append_nil bs

lemma Io.afterSends_nothing (io : Io) : io.afterSends [] io.sendCalls = io := by
  rw [Io.afterSends, List.append_nil]

lemma Env.takesIn_nothing (env : Env) (rounds calls : ℕ) :
    env.takesIn rounds 0 calls = (0, calls) := by
  cases rounds with
  | zero => rfl
  | succ rounds => rw [takesIn, if_pos rfl]

lemma Env.takesIn_none {env : Env} {calls : ℕ} (h : env.zsockSend calls = none) (rounds : ℕ)
    {left : ℕ} (hleft : left ≠ 0) : env.takesIn (rounds + 1) left calls = (0, calls + 1) := by
  rw [takesIn, if_neg hleft, h]

lemma Env.takesIn_some {env : Env} {calls n : ℕ} (h : env.zsockSend calls = some n) (rounds : ℕ)
    {left : ℕ} (hleft : left ≠ 0) : env.takesIn (rounds + 1) left calls =
      (min (n + 1) left + (env.takesIn rounds (left - min (n + 1) left) (calls + 1)).1,
        (env.takesIn rounds (left - min (n + 1) left) (calls + 1)).2) := by
  rw [takesIn, if_neg hleft, h]

lemma Env.takesIn_le (env : Env) (rounds left calls : ℕ) :
    (env.takesIn rounds left calls).1 ≤ left := by
  induction rounds generalizing left calls with
  | zero => exact Nat.zero_le _
  | succ rounds ih =>
      by_cases hleft : left = 0
      · rw [hleft, takesIn_nothing]
      cases hanswer : env.zsockSend calls with
      | none =>
          rw [takesIn_none hanswer rounds hleft]
          exact Nat.zero_le _
      | some n =>
          rw [takesIn_some hanswer rounds hleft]
          have hrest := ih (left - min (n + 1) left) (calls + 1)
          dsimp only
          omega

lemma Env.takes_le (env : Env) (sock : ℤ) (len calls : ℕ) : (env.takes sock len calls).1 ≤ len := by
  rw [takes]
  split_ifs
  · exact Nat.zero_le _
  · exact env.takesIn_le len len calls

/-- The loop of `write_data` gets out what a socket takes. -/
lemma writeDataLoop_takes (env : Env) {sock : ℤ} (hsock : 0 ≤ sock) (rounds : ℕ) (left : List U8)
    (done : ℕ) (hrounds : left.length ≤ rounds) (io : Io) : ∃ tr,
      Ends (writeDataLoop env sock rounds left done) io
        (if (env.takesIn rounds left.length io.sendCalls).1 = left.length
          then ((done + left.length : ℕ) : ℤ) else -1)
        (io.afterSends tr (env.takesIn rounds left.length io.sendCalls).2) ∧
      traceBytes tr = left.take (env.takesIn rounds left.length io.sendCalls).1 := by
  induction rounds generalizing left done io with
  | zero =>
      obtain rfl : left = [] := List.length_eq_zero_iff.mp (Nat.le_zero.mp hrounds)
      refine ⟨[], ?_, rfl⟩
      rw [List.length_nil, Env.takesIn_nothing, if_pos rfl, Io.afterSends_nothing]
      exact Ends.pure _ io
  | succ rounds ih =>
      by_cases hempty : left = []
      · subst hempty
        refine ⟨[], ?_, rfl⟩
        rw [List.length_nil, Env.takesIn_nothing, if_pos rfl, Io.afterSends_nothing,
          writeDataLoop, if_pos rfl]
        exact Ends.pure _ io
      have hlen : left.length ≠ 0 := fun h => hempty (List.length_eq_zero_iff.mp h)
      rw [writeDataLoop, if_neg hempty]
      cases hanswer : env.zsockSend io.sendCalls with
      | none =>
          rw [Env.takesIn_none hanswer rounds hlen]
          have hsend : Ends (zsockSend env sock left) io (-1)
              (io.afterSends [] (io.sendCalls + 1)) := by
            simp [zsockSend, not_lt.mpr hsock, hanswer, Io.afterSends]
          refine ⟨[], hsend.bind ?_, rfl⟩
          rw [if_pos (by omega), if_neg (Ne.symm hlen)]
          exact Ends.pure _ _
      | some n =>
          -- so many bytes are gone, and the rest of the rounds is left with the others
          rw [Env.takesIn_some hanswer rounds hlen]
          have htake : (left.take (n + 1)).length = min (n + 1) left.length := List.length_take
          have hdrop : (left.drop (min (n + 1) left.length)).length =
              left.length - min (n + 1) left.length := List.length_drop
          have hsend : Ends (zsockSend env sock left) io ((min (n + 1) left.length : ℕ) : ℤ)
              (io.afterSends [.sockSend sock (left.take (n + 1))] (io.sendCalls + 1)) := by
            rw [← htake]
            simp [zsockSend, not_lt.mpr hsock, hanswer, Io.afterSends]
          obtain ⟨tr, hend, htr⟩ := ih (left.drop (min (n + 1) left.length))
            (done + min (n + 1) left.length) (by omega)
            (io.afterSends [.sockSend sock (left.take (n + 1))] (io.sendCalls + 1))
          rw [hdrop] at hend htr
          rw [Io.afterSends_afterSends] at hend
          refine ⟨[.sockSend sock (left.take (n + 1))] ++ tr, hsend.bind ?_, ?_⟩
          · rw [if_neg (by omega), Int.toNat_natCast]
            have hret : ∀ taken, (if min (n + 1) left.length + taken = left.length
                  then ((done + left.length : ℕ) : ℤ) else -1) =
                if taken = left.length - min (n + 1) left.length
                then ((done + min (n + 1) left.length +
                  (left.length - min (n + 1) left.length) : ℕ) : ℤ) else -1 := by
              intro taken
              split_ifs <;> omega
            rw [hret]
            exact hend
          · have hfirst : left.take (n + 1) = left.take (min (n + 1) left.length) :=
              List.take_eq_take_min
            rw [traceBytes_append, traceBytes_sockSend, htr, hfirst, List.take_add]
            rfl

/-- So does `write_data`. -/
lemma writeData_takes (env : Env) (sock : ℤ) (data : List U8) (io : Io) : ∃ tr,
    Ends (writeData env sock data) io
      (if (env.takes sock data.length io.sendCalls).1 = data.length then (data.length : ℤ) else -1)
      (io.afterSends tr (env.takes sock data.length io.sendCalls).2) ∧
    traceBytes tr = data.take (env.takes sock data.length io.sendCalls).1 := by
  rw [writeData, Env.takes]
  by_cases hsock : sock < 0
  · rw [if_pos hsock]
    refine ⟨[], ?_, rfl⟩
    rw [Io.afterSends_nothing]
    cases data with
    | nil => exact Ends.pure _ io
    | cons b data =>
        have hsend : Ends (zsockSend env sock (b :: data)) io (-1) io := by simp [zsockSend, hsock]
        refine hsend.bind ?_
        rw [if_pos (by omega), if_neg (by simp)]
        exact Ends.pure _ io
  · rw [if_neg hsock]
    obtain ⟨tr, hend, htr⟩ :=
      writeDataLoop_takes env (not_lt.mp hsock) data.length data 0 le_rfl io
    rw [Nat.zero_add] at hend
    exact ⟨tr, hend, htr⟩

/-- Programs that send so many of their bytes, each of its own. -/
def SendAlike {ι α : Type} (m : ι → IoM α) (bytes : ι → List U8) (taken : ℕ → ℕ) : Prop :=
  ∀ i io, ∃ tr, (final (m i) io).trace = io.trace ++ tr ∧
    traceBytes tr = (bytes i).take (taken io.sendCalls)

/-- Those that send nothing. -/
lemma sendAlike_nothing {ι α : Type} {m : ι → IoM α} (h : ∀ i io, final (m i) io = io)
    (bytes : ι → List U8) : SendAlike m bytes fun _ => 0 :=
  fun i io => ⟨[], by rw [h, List.append_nil], rfl⟩

/-- One write after the other. -/
lemma SendAlike.writeData {ι α : Type} (env : Env) (sock : ℤ) {data rest : ι → List U8} {len : ℕ}
    (hlen : ∀ i, (data i).length = len) {failed : ℤ → IoM α} {m : ι → IoM α} {behind : ℕ → ℕ}
    (hfailed : ∀ ret io, final (failed ret) io = io) (hm : SendAlike m rest behind) :
    SendAlike (fun i => do
        let ret ← writeData env sock (data i)
        if ret ≠ len then failed ret else m i) (fun i => data i ++ rest i)
      (env.takesThen sock len behind) := by
  intro i io
  obtain ⟨tr, hend, htr⟩ := writeData_takes env sock (data i) io
  rw [hlen i] at hend htr
  rw [Env.takesThen]
  by_cases hall : (env.takes sock len io.sendCalls).1 = len
  · rw [if_pos hall] at hend ⊢
    obtain ⟨tr', hfinal, htr'⟩ := hm i (io.afterSends tr (env.takes sock len io.sendCalls).2)
    refine ⟨tr ++ tr', ?_, ?_⟩
    · rw [hend.final_bind, if_neg (by simp), hfinal]
      exact List.append_assoc _ _ _
    · rw [traceBytes_append, htr, htr', hall, ← hlen i, List.take_length,
        List.take_length_add_append]
      rfl
  · rw [if_neg hall] at hend ⊢
    refine ⟨tr, ?_, ?_⟩
    · rw [hend.final_bind, if_pos (by omega), hfailed]
      rfl
    · rw [htr,
        List.take_append_of_le_length ((env.takes_le sock len io.sendCalls).trans (hlen i).ge)]

/-- The bytes of a message on their way to a cport. -/
def GbMessage.wire (msg : GbMessage) (cport : U16) : List U8 :=
  greybusFrame cport msg.header (msg.payload.take (gbMessagePayloadLen msg))

/-- So it is of the parts of a message. -/
lemma sendAlike_gbMessageWrites (env : Env) (sock : ℤ) (cport : U16) (msg : GbMessage) :
    ∃ behind, SendAlike (fun block : ℕ → U8 => gbMessageWrites env sock (msg.padded block) cport)
      (fun block => (msg.padded block).wire cport)
      (env.takesThen sock 2 (env.takesThen sock 8 behind)) := by
  have hstop : ∀ (ret : ℤ) io, final (pure (some ret) : IoM (Option ℤ)) io = io := fun _ _ => rfl
  obtain ⟨behind, hpayload⟩ : ∃ behind, SendAlike (fun _ : ℕ → U8 => do
        let len := gbMessagePayloadLen msg
        if msg.payload.length < len then throw .outOfBounds
        else do
          let ret ← writeData env sock (msg.payload.take len)
          if ret ≠ len then return some ret else return none)
      (fun _ => msg.payload.take (gbMessagePayloadLen msg)) behind := by
    by_cases hshort : msg.payload.length < gbMessagePayloadLen msg
    · simp only [if_pos hshort]
      exact ⟨_, sendAlike_nothing (fun _ _ => rfl) _⟩
    · simp only [if_neg hshort]
      have hlen : (msg.payload.take (gbMessagePayloadLen msg)).length =
          gbMessagePayloadLen msg := by
        rw [List.length_take]
        omega
      have hlast := SendAlike.writeData env sock (fun _ : ℕ → U8 => hlen) hstop
        (sendAlike_nothing (m := fun _ => pure none) (fun _ _ => rfl) fun _ => [])
      simp only [List.append_nil] at hlast
      exact ⟨_, hlast⟩
  have hwire : (fun block => (msg.padded block).wire cport) = fun block =>
      le16 cport ++ ((msg.padded block).header.bytes ++
        msg.payload.take (gbMessagePayloadLen msg)) := by
    funext block
    exact List.append_assoc _ _ _
  rw [hwire]
  exact ⟨behind, SendAlike.writeData env sock (fun _ => le16_length cport) hstop
    (SendAlike.writeData env sock (fun _ => GbOperationMsgHdr.bytes_length _) hstop hpayload)⟩

/-- A message the block has room for goes to the UART as one. -/
lemma MessageSink.final_uart (env : Env) {msg : GbMessage} (h : msg.FitsFrame cfg) (cport : U16)
    (io : Io) :
    final ((MessageSink.uart cport).send env cfg msg) io =
      io.logged [.hdlcBlock (greybusBlock cport msg)] := by
  have hsend : gbMessageHdlcSend cfg msg cport = (do
      emit (.hdlcBlock (greybusBlock cport msg))
      return 0) := by
    rw [gbMessageHdlcSend]
    exact if_neg (not_or.mpr ⟨not_lt.mpr h.1, not_lt.mpr h.2⟩)
  show final (discard (gbMessageHdlcSend cfg msg cport)) io = _
  rw [final_discard, hsend]
  rfl

/-- What is behind bytes that are taken does not matter for them. -/
lemma Env.lt_takesThen_congr (env : Env) (sock : ℤ) {len k : ℕ} {behind behind' : ℕ → ℕ}
    (h : ∀ calls, k < len + behind calls ↔ k < len + behind' calls) (calls : ℕ) :
    k < env.takesThen sock len behind calls ↔ k < env.takesThen sock len behind' calls := by
  rw [takesThen, takesThen]
  split_ifs
  · exact h _
  · exact Iff.rfl

/-- **As much of a message** is sent whatever its pad bytes. -/
theorem MessageSink.sendAlike (env : Env) {sink : MessageSink} {msg : GbMessage}
    (hroom : sink.HasRoom cfg msg) : ∃ taken,
      SendAlike (fun block : ℕ → U8 => sink.send env cfg (msg.padded block))
        (fun block => (msg.padded block).wire sink.cport) taken ∧
      ∀ calls k, k < 10 → (k < taken calls ↔ k < sink.headTaken env calls) := by
  cases sink with
  | uart cport =>
      refine ⟨fun _ => (msg.wire cport).length, fun block io =>
        ⟨[.hdlcBlock (greybusBlock cport (msg.padded block))], ?_, ?_⟩, fun _ k hk => ?_⟩
      · have hfits : (msg.padded block).FitsFrame cfg := hroom
        rw [MessageSink.final_uart env hfits]
        rfl
      · have hlen : (msg.wire cport).length = ((msg.padded block).wire cport).length := by
          simp only [GbMessage.wire, greybusFrame_length, GbMessage.padded_payloadLen,
            GbMessage.padded_payload]
        show (msg.padded block).wire cport ++ [] = ((msg.padded block).wire cport).take _
        rw [hlen, List.take_length, List.append_nil]
      · have hlen : 10 ≤ (msg.wire cport).length := by
          rw [GbMessage.wire, greybusFrame_length]
          omega
        exact iff_of_true (hk.trans_le hlen) hk
  | node sock cport =>
      obtain ⟨behind, h⟩ := sendAlike_gbMessageWrites env sock cport msg
      -- a socket takes the cport, then the header, then what is behind
      refine ⟨env.takesThen sock 2 (env.takesThen sock 8 behind), fun block io => ?_,
        fun calls k hk => ?_⟩
      · show ∃ tr,
          (final (discard (gbMessageWrites env sock (msg.padded block) cport)) io).trace = _ ∧ _
        rw [final_discard]
        exact h block io
      · refine env.lt_takesThen_congr sock (fun calls => ?_) calls
        have hheader : k - 2 < env.takesThen sock 8 behind calls ↔
            k - 2 < env.takesThen sock 8 (fun _ => 0) calls :=
          env.lt_takesThen_congr sock (fun calls => by omega) calls
        omega

lemma zsockSend_withHeap (heap : ℕ → ℕ → U8) : zsockSend (env.withHeap heap) = zsockSend env := rfl

lemma writeData_withHeap (heap : ℕ → ℕ → U8) : writeData (env.withHeap heap) = writeData env := by
  have hloop : ∀ sock rounds left transmitted,
      writeDataLoop (env.withHeap heap) sock rounds left transmitted =
        writeDataLoop env sock rounds left transmitted := by
    intro sock rounds
    induction rounds with
    | zero => exact fun _ _ => rfl
    | succ rounds ih =>
        intro left transmitted
        simp only [writeDataLoop, zsockSend_withHeap, ih]
  funext sock data
  exact hloop _ _ _ _

lemma gbMessageWrites_withHeap (heap : ℕ → ℕ → U8) :
    gbMessageWrites (env.withHeap heap) = gbMessageWrites env := by
  funext sock msg cport
  simp only [gbMessageWrites, writeData_withHeap]

lemma MessageSink.sent_withHeap (heap : ℕ → ℕ → U8) (sink : MessageSink) (msg : GbMessage)
    (io : Io) : sink.sent (env.withHeap heap) cfg msg io = sink.sent env cfg msg io := by
  cases sink with
  | uart cport => rfl
  | node sock cport => simp only [sent, send, gbMessageWrites_withHeap]

/-- So what is sent is. -/
lemma MessageSink.exists_sent (env : Env) {sink : MessageSink} {msg : GbMessage}
    (hroom : sink.HasRoom cfg msg) (calls : ℕ) : ∃ n,
      (∀ block io, io.sendCalls = calls →
        sink.sent env cfg (msg.padded block) io = ((msg.padded block).wire sink.cport).take n) ∧
      ∀ k, k < 10 → (k < n ↔ k < sink.headTaken env calls) := by
  obtain ⟨taken, h, hhead⟩ := MessageSink.sendAlike env hroom
  refine ⟨taken calls, fun block io hio => ?_, hhead calls⟩
  obtain ⟨tr, htrace, hbytes⟩ := h block io
  rw [sent, htrace, List.drop_left, ← hio]
  exact hbytes

/-! ### Pad bytes -/

/-- What a message has in front of its pad bytes, and behind them. -/
lemma GbMessage.exists_wire (msg : GbMessage) (cport : U16) : ∃ front behind : List U8,
    front.length = 8 ∧ ∀ block : ℕ → U8,
      (msg.padded block).wire cport = front ++ block 6 :: block 7 :: behind :=
  ⟨le16 cport ++ (le16 msg.header.size ++ le16 msg.header.operationId ++
      [msg.header.type, msg.header.result]), msg.payload.take (gbMessagePayloadLen msg), rfl,
    fun block => by
      rw [wire, padded_payloadLen, padded_payload]
      simp [greybusFrame, GbOperationMsgHdr.bytes, padded]⟩

section Pads

variable {front : List U8} (hfront : front.length = 8) (behind : List U8) (n : ℕ)
include hfront

/-- The pad bytes among the first bytes of a message. -/
lemma pads_take (a b : U8) :
    ((front ++ a :: b :: behind).take n).getD 8 0 = (if 8 < n then a else 0) ∧
      ((front ++ a :: b :: behind).take n).getD 9 0 = (if 9 < n then b else 0) := by
  have hpad0 : (front ++ a :: b :: behind)[8]? = some a := by
    rw [List.getElem?_append_right hfront.le, hfront]
    rfl
  have hpad1 : (front ++ a :: b :: behind)[9]? = some b := by
    rw [List.getElem?_append_right (by omega), hfront]
    rfl
  refine ⟨?_, ?_⟩
  · rw [List.getD_eq_getElem?_getD, List.getElem?_take, hpad0]
    split_ifs <;> rfl
  · rw [List.getD_eq_getElem?_getD, List.getElem?_take, hpad1]
    split_ifs <;> rfl

/-- The first bytes are the same when the pad bytes among them are. -/
lemma take_pads_eq_iff (a b a' b' : U8) :
    (front ++ a :: b :: behind).take n = (front ++ a' :: b' :: behind).take n ↔
      (8 < n → a = a') ∧ (9 < n → b = b') := by
  rw [List.take_append, List.take_append, List.append_cancel_left_eq, hfront]
  match hn : n - 8 with
  | 0 =>
      have h8 : ¬ 8 < n := by omega
      have h9 : ¬ 9 < n := by omega
      simp [h8, h9]
  | 1 =>
      have h8 : 8 < n := by omega
      have h9 : ¬ 9 < n := by omega
      simp [h8, h9]
  | m + 2 =>
      have h8 : 8 < n := by omega
      have h9 : 9 < n := by omega
      simp [h8, h9]

end Pads

/-- **What is sent**, in terms of what the block held before. -/
lemma Emits.exists_take {src : MessageSource} {sink : MessageSink} {io : Io} {out : List U8}
    (h : Emits (env.withHeap heap) cfg src sink io out) : ∃ front behind : List U8, ∃ n,
      front.length = 8 ∧ (∀ k, k < 10 → (k < n ↔ k < sink.headTaken env io.sendCalls)) ∧
      ∀ heap' out', Emits (env.withHeap heap') cfg src sink io out' ↔
        out' = (front ++ heap' io.heapCalls 6 :: heap' io.heapCalls 7 :: behind).take n := by
  obtain ⟨msg, io₁, hmsg, hroom, -⟩ := h
  obtain ⟨front, behind, hfront, hwire⟩ := msg.exists_wire sink.cport
  obtain ⟨n, hsent, hn⟩ := MessageSink.exists_sent env hroom io.sendCalls
  refine ⟨front, behind, n, hfront, hn, fun heap' out' => ?_⟩
  obtain ⟨io₂, hmsg₂, hcalls⟩ := MessageSource.padded hmsg heap'
  have hbytes : sink.sent (env.withHeap heap') cfg (msg.padded (heap' io.heapCalls)) io₂ =
      (front ++ heap' io.heapCalls 6 :: heap' io.heapCalls 7 :: behind).take n := by
    rw [← hwire, MessageSink.sent_withHeap]
    exact hsent _ io₂ hcalls
  rw [← hbytes]
  refine ⟨?_, fun hout => ⟨_, io₂, hmsg₂, hroom.padded _, hout⟩⟩
  rintro ⟨msg', io', hmsg', -, rfl⟩
  obtain ⟨heq, rfl⟩ := hmsg₂.unique hmsg'
  rw [Option.some.inj heq]

/-- **Stale bytes are not transmitted**: whatever the block held, the same bytes are sent,
with pad bytes of zero, exactly when the block had zeros for the pad bytes that are taken,
in both runs. -/
theorem stale_bytes_iff {src : MessageSource} {sink : MessageSink} {io : Io} {out : List U8}
    (h : Emits (env.withHeap heap) cfg src sink io out) (heap' : ℕ → ℕ → U8) :
    (Emits (env.withHeap heap') cfg src sink io out ∧ PadsZero out) ↔
      ∀ k, k = 6 ∨ k = 7 → k + 2 < sink.headTaken env io.sendCalls →
        heap io.heapCalls k = 0 ∧ heap' io.heapCalls k = 0 := by
  obtain ⟨front, behind, n, hfront, hn, hemits⟩ := h.exists_take
  obtain rfl := (hemits heap out).mp h
  obtain ⟨hpad0, hpad1⟩ := pads_take hfront behind n (heap io.heapCalls 6) (heap io.heapCalls 7)
  simp only [PadsZero, forall_eq_or_imp, forall_eq, Nat.reduceAdd, hpad0, hpad1,
    hemits heap', take_pads_eq_iff hfront behind n, ite_eq_right_iff, ← hn 8 (by omega),
    ← hn 9 (by omega)]
  refine ⟨?_, ?_⟩
  · rintro ⟨⟨hsame0, hsame1⟩, hzero0, hzero1⟩
    exact ⟨fun hn => ⟨hzero0 hn, (hsame0 hn).symm.trans (hzero0 hn)⟩,
      fun hn => ⟨hzero1 hn, (hsame1 hn).symm.trans (hzero1 hn)⟩⟩
  · rintro ⟨hzero0, hzero1⟩
    exact ⟨⟨fun hn => (hzero0 hn).1.trans (hzero0 hn).2.symm,
      fun hn => (hzero1 hn).1.trans (hzero1 hn).2.symm⟩,
      fun hn => (hzero0 hn).1, fun hn => (hzero1 hn).1⟩

/-- An environment whose heap blocks all held one byte. -/
def filledEnv (b : U8) : Env := calmEnv.withHeap fun _ _ => b

/-- A response without a payload, sent to the AP. -/
lemma emits_response (b : U8) :
    Emits (filledEnv b) .prjConf (.response [] 0 1 0) (.uart 0) .boot
      [0, 0, 8, 0, 1, 0, 0x80, 0, b, b] := by
  have halloc : Ends ((MessageSource.response [] 0 1 0).message (filledEnv b)) .boot
      (some ⟨0, ⟨8, 1, 0x80, 0, b, b⟩, []⟩) (Io.boot.afterAlloc [.alloc 0]) :=
    ends_alloc_memcpy (filledEnv b) .boot (GB_OP_RESPONSE ||| 0) 1 0 (show 0 + 8 < 2 ^ 32 by decide)
      (show calmEnv.heapAlloc 0 8 = true from rfl)
  have hsized : GbMessage.Sized ⟨0, ⟨8, 1, 0x80, 0, b, b⟩, []⟩ := rfl
  have hfits : GbMessage.FitsFrame .prjConf ⟨0, ⟨8, 1, 0x80, 0, b, b⟩, []⟩ := by
    have hroom : 10 + 0 ≤ Config.prjConf.hdlcMaxBlockSize := by decide
    refine ⟨?_, hsized.holds⟩
    rwa [hsized.payloadLen]
  refine ⟨_, _, halloc, hfits, ?_⟩
  rw [MessageSink.sent, MessageSink.final_uart _ hfits, greybusBlock_of_sized 0 hsized]
  simp [Io.afterAlloc, Io.logged, Event.sentBytes, greybusFrame, GbOperationMsgHdr.bytes, le16]

/-- Blocks that held zeros where the pad bytes are, and other bytes elsewhere. -/
def dirtyHeap (_blk k : ℕ) : U8 := if k = 6 ∨ k = 7 then 0 else 0xff

/-- A response built in a block of zeros, and in one that held zeros for its pad bytes
only. -/
theorem stale_bytes_cleared :
    (Emits (calmEnv.withHeap dirtyHeap) .prjConf (.response [] 0 1 0) (.uart 0) .boot
        [0, 0, 8, 0, 1, 0, 0x80, 0, 0, 0] ∧ PadsZero [0, 0, 8, 0, 1, 0, 0x80, 0, 0, 0]) ↔
      ∀ k, k = 6 ∨ k = 7 → k + 2 < (MessageSink.uart 0).headTaken calmEnv 0 →
        (0 : U8) = 0 ∧ dirtyHeap 0 k = 0 :=
  stale_bytes_iff (emits_response 0) dirtyHeap

/-- **What a block held is transmitted**: the same response, built in a block of other bytes,
is other bytes on the UART, and its pad bytes are not zero. -/
theorem pad_transmitted :
    ¬ ∀ (env : Env) (heap heap' : ℕ → ℕ → U8) (cfg : Config) (src : MessageSource)
        (sink : MessageSink) (io : Io) (out : List U8),
      Emits (env.withHeap heap) cfg src sink io out →
        Emits (env.withHeap heap') cfg src sink io out ∧ PadsZero out := by
  intro hall
  obtain ⟨-, hpads⟩ := hall calmEnv (fun _ _ => 0xaa) (fun _ _ => 0) .prjConf _ _ _ _
    (emits_response 0xaa)
  exact absurd (hpads 6 (.inl rfl)) (by decide)

end Cc1352Greybus
