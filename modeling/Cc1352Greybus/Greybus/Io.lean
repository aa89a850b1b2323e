import Cc1352Greybus.Greybus.Message
import Cc1352Greybus.Hdlc.RoundTrip
import Cc1352Greybus.Lib.Effects

/-!
What the firmware sees of the outside and does to it, and
`src/greybus_messages.c`, the messages it builds.

Everything the kernel and the network decide is an oracle of `Env`, asked in
order: whether an allocation succeeds, how many bytes a socket takes. `Io` counts
the questions and keeps the trace of what was done. A program that leaves the
behaviour C defines, or that never comes back, stops on a `Fault`.

* `gbMessageAlloc`, `gbMessageRequestAlloc`, `gbMessageResponseAlloc`: messages
  from the heap.
* `apSend`: a message on the UART, as one HDLC block.
-/

namespace Cc1352Greybus

open Effects

/-- The variables whose address some `k_mem_slab_free` call is given. -/
inductive StackVar
  | createCtrlData
  | destroyCtrlData
  | deallocIntf
  deriving DecidableEq

/-- An address a slab may hold: one of its blocks, or a variable's. The memory of
the variable is gone when its call returns, so what the tables say of a `stack`
address after that is the last that was stored there, and no more. -/
inductive Ptr
  | block (i : ℕ)
  | stack (v : StackVar)
  deriving DecidableEq

/-- It is a block. -/
def Ptr.IsBlock : Ptr → Prop
  | block _ => True
  | stack _ => False

instance : DecidablePred Ptr.IsBlock
  | .block _ => isTrue trivial
  | .stack _ => isFalse id

/-- What `k_mem_slab_free(slab, (void **)&var)` puts on the free list. Up to
Zephyr 3.4 it is the block `var` points to; since then it is the argument, the
address of `var`. -/
inductive SlabFreeApi
  | pointee
  | argument
  deriving DecidableEq

/-- The address that ends up on the free list. -/
def SlabFreeApi.pushed : SlabFreeApi → StackVar → Ptr → Ptr
  | pointee, _, p => p
  | argument, v, _ => .stack v

/-- A piece of a socket's stream: bytes that arrive together, the end of the
stream, or an error. -/
inductive RxChunk
  | data (b : U8) (bs : List U8)
  | closed
  | error
  deriving DecidableEq

/-- How a `gb_message_receive` ended. -/
inductive Received
  | full (cport : U16) (msg : GbMessage)
  | closed
  | failed
  | noMemory
  deriving DecidableEq

/-- What the firmware does, in the order it does it. -/
inductive Event
  /-- `k_heap_alloc` returned a block -/
  | alloc (blk : ℕ)
  /-- `gb_message_dealloc` -/
  | dealloc (blk : ℕ)
  /-- a message's header is read after the message was passed on -/
  | msgRead (blk : ℕ)
  /-- `hdlc_block_send_sync`, to its end -/
  | hdlcBlock (b : Block)
  /-- the bytes a `zsock_send` accepted -/
  | sockSend (sock : ℤ) (bytes : List U8)
  /-- `zsock_socket` returned a descriptor -/
  | sockOpen (sock : ℤ)
  /-- `zsock_close` -/
  | sockClose (sock : ℤ)
  /-- `pipe_send`, of one byte to the descriptor in `local_pipe_writer` -/
  | pipeSend (fd : ℤ)
  /-- `gb_message_receive` returned -/
  | received (sock : ℤ) (r : Received)
  /-- a field of a node's `gb_interface` is read, to write to the node or to
  remove it -/
  | intfRead (p : Ptr)
  /-- `gb_interface_dealloc` -/
  | intfDealloc (p : Ptr)
  /-- a call of `svc_send_module_removed` -/
  | moduleRemoved (p : Ptr)
  /-- a call of `connection_send` -/
  | connectionSend (intfId : U8) (intfCport : U16) (msg : GbMessage)
  /-- `tcp_discovery_start` and `tcp_discovery_stop` -/
  | tcpDiscovery (start : Bool)
  deriving DecidableEq

/-- How a program leaves the behaviour C defines, or does not come back. -/
inductive Fault
  | nullPointer
  | outOfBounds
  /-- a blocking call with nothing to return -/
  | blocked
  /-- an `assert` that fails -/
  | assertion
  deriving DecidableEq

/-- The kernel and the network, as answers to the firmware's calls in order. -/
structure Env where
  /-- whether the `n`-th `k_heap_alloc` returns a block, given its size -/
  heapAlloc : ℕ → ℕ → Bool
  /-- what the block of the `n`-th allocation holds before it is written -/
  heapGarbage : ℕ → ℕ → U8
  /-- what the operation id of the message in a freed block reads as -/
  freedOperationId : ℕ → U16
  /-- how many bytes beyond the first the `n`-th `zsock_send` accepts, if it does
  not fail -/
  zsockSend : ℕ → Option ℕ
  /-- the descriptor the `n`-th `zsock_socket` returns -/
  zsockSocket : ℕ → Option ℕ
  /-- whether the `n`-th `zsock_connect` succeeds -/
  zsockConnect : ℕ → Bool
  slabFreeApi : SlabFreeApi
  /-- the word an address is stored as in a free block -/
  addrWord : Ptr → BitVec 32

/-- Up to Zephyr 3.4 it is the block. -/
lemma Env.pushed_eq {env : Env} (hapi : env.slabFreeApi = .pointee) (v : StackVar) (p : Ptr) :
    env.slabFreeApi.pushed v p = p := by
  rw [hapi]
  rfl

/-- An environment in which nothing fails. -/
def calmEnv : Env where
  heapAlloc _ _ := true
  heapGarbage _ _ := 0
  freedOperationId _ := 0
  zsockSend _ := some 0
  zsockSocket n := some n
  zsockConnect _ := true
  slabFreeApi := .pointee
  addrWord _ := 0x20001000

/-- An environment in which no socket takes anything. -/
def deafEnv : Env := { calmEnv with zsockSend := fun _ => none }

/-- The state of the devices, and what has been done with them. -/
structure Io where
  trace : List Event
  heapCalls : ℕ
  /-- `operation_id_counter` -/
  operationIdCounter : ℕ
  sendCalls : ℕ
  netCalls : ℕ
  /-- what each socket has yet to deliver -/
  rx : ℤ → List RxChunk
  /-- `local_pipe_writer`, which `node_rx_thread_entry` sets before its loop -/
  localPipeWriter : ℤ

/-- Programs over the devices. -/
abbrev IoM := EStateM Fault Io

/-- One more event. -/
def emit (e : Event) : IoM Unit := modify fun io => { io with trace := io.trace ++ [e] }

/-- The devices with some more of the trace. -/
def Io.logged (io : Io) (tr : List Event) : Io := { io with trace := io.trace ++ tr }

@[simp] lemma Io.logged_trace (io : Io) (tr : List Event) :
    (io.logged tr).trace = io.trace ++ tr := rfl

@[simp] lemma Io.logged_nil (io : Io) : io.logged [] = io := by simp [Io.logged]

@[simp] lemma Io.logged_logged (io : Io) (tr tr' : List Event) :
    (io.logged tr).logged tr' = io.logged (tr ++ tr') := by
  simp [Io.logged]

lemma Ends.emit (e : Event) (io : Io) : Ends (emit e) io () (io.logged [e]) := rfl

lemma avoids_emit {fault : Fault} (e : Event) : Avoids fault (emit e) :=
  avoids_of_ends fun io => ⟨_, _, Ends.emit e io⟩

variable (env : Env)

/-! ### `greybus_messages.c` -/

/-- `new_operation_id` -/
def newOperationId : IoM U16 := modifyGet fun io =>
  let temp := io.operationIdCounter
  (BitVec.ofNat 16 temp,
    { io with operationIdCounter := if temp = 0xffff then 1 else temp + 1 })

/-- `k_heap_alloc`; no block has size zero. -/
def kHeapAlloc (size : ℕ) : IoM (Option ℕ) := modifyGet fun io =>
  if size ≠ 0 ∧ env.heapAlloc io.heapCalls size = true then
    (some io.heapCalls,
      { io with heapCalls := io.heapCalls + 1, trace := io.trace ++ [.alloc io.heapCalls] })
  else (none, { io with heapCalls := io.heapCalls + 1 })

/-- A fresh message in a block of `payloadLen` bytes beyond the header, its pad
bytes and payload as the block had them. -/
def freshMessage (blk payloadLen : ℕ) (messageType : U8) (operationId : U16) (status : U8) :
    GbMessage where
  blk := blk
  header :=
    { size := BitVec.ofNat 16 (8 + payloadLen)
      operationId := operationId
      type := messageType
      result := status
      pad0 := env.heapGarbage blk 6
      pad1 := env.heapGarbage blk 7 }
  payload := (List.range payloadLen).map fun i => env.heapGarbage blk (8 + i)

@[simp] lemma freshMessage_payload_length (blk payloadLen : ℕ) (messageType : U8)
    (operationId : U16) (status : U8) :
    (freshMessage env blk payloadLen messageType operationId status).payload.length =
      payloadLen := by
  simp [freshMessage]

/-- A message in a block of `size` bytes, which may be less than a header's. -/
def blockMessage (blk size : ℕ) (messageType : U8) (operationId : U16) (status : U8) :
    GbMessage :=
  let msg := freshMessage env blk (size - 8) messageType operationId status
  { msg with header := { msg.header with size := BitVec.ofNat 16 size } }

/-- In a block with room for a header it is a fresh one. -/
lemma blockMessage_add (blk payloadLen : ℕ) (messageType : U8) (operationId : U16) (status : U8) :
    blockMessage env blk (8 + payloadLen) messageType operationId status =
      freshMessage env blk payloadLen messageType operationId status := by
  simp [blockMessage, freshMessage]

/-- `gb_message_alloc`. The size is computed in `size_t`: a payload length that
wraps it asks for a block the header does not fit. The fields that are written end
with the sixth byte; the pad behind them is not written. -/
def gbMessageAlloc (payloadLen : ℕ) (messageType : U8) (operationId : U16) (status : U8) :
    IoM (Option GbMessage) := do
  let size := (8 + payloadLen) % 2 ^ 32
  match ← kHeapAlloc env size with
  | none => return none
  | some blk =>
    if size < 6 then throw .outOfBounds
    else return some (blockMessage env blk size messageType operationId status)

/-- The devices after a `k_heap_alloc` that returned a block, or none. -/
def Io.afterAlloc (io : Io) (tr : List Event) : Io :=
  { io with heapCalls := io.heapCalls + 1, trace := io.trace ++ tr }

lemma kHeapAlloc_ends {size : ℕ} {io io' : Io} {r : Option ℕ}
    (h : Ends (kHeapAlloc env size) io r io') :
    r = none ∧ io' = io.afterAlloc [] ∨
      r = some io.heapCalls ∧ io' = io.afterAlloc [.alloc io.heapCalls] := by
  obtain ⟨rfl, rfl⟩ := ends_modifyGet.mp h
  split_ifs
  · exact Or.inr ⟨rfl, rfl⟩
  · exact Or.inl ⟨rfl, by simp [Io.afterAlloc]⟩

/-- The next `k_heap_alloc` returns a block of so many bytes. -/
def HeapGrants (io : Io) (size : ℕ) : Prop := size ≠ 0 ∧ env.heapAlloc io.heapCalls size = true

instance (io : Io) (size : ℕ) : Decidable (HeapGrants env io size) :=
  inferInstanceAs (Decidable (_ ∧ _))

variable {env} in
lemma HeapGrants.ends {io : Io} {size : ℕ} (h : HeapGrants env io size) :
    Ends (kHeapAlloc env size) io (some io.heapCalls) (io.afterAlloc [.alloc io.heapCalls]) := by
  rw [HeapGrants] at h
  rw [kHeapAlloc, ends_modifyGet, if_pos h]
  exact ⟨rfl, rfl⟩

variable {env} in
lemma kHeapAlloc_refused {io : Io} {size : ℕ} (h : ¬ HeapGrants env io size) :
    Ends (kHeapAlloc env size) io none (io.afterAlloc []) := by
  rw [HeapGrants] at h
  rw [kHeapAlloc, ends_modifyGet, if_neg h]
  exact ⟨rfl, by simp [Io.afterAlloc]⟩

/-- A message that is allocated is a fresh one. -/
lemma gbMessageAlloc_ends {payloadLen : ℕ} {messageType : U8} {operationId : U16} {status : U8}
    {io io' : Io} {r : Option GbMessage} (hlen : payloadLen + 8 < 2 ^ 32)
    (h : Ends (gbMessageAlloc env payloadLen messageType operationId status) io r io') :
    r = none ∧ io' = io.afterAlloc [] ∨
      r = some (freshMessage env io.heapCalls payloadLen messageType operationId status) ∧
        io' = io.afterAlloc [.alloc io.heapCalls] := by
  rw [gbMessageAlloc, show (8 + payloadLen) % 2 ^ 32 = 8 + payloadLen by omega] at h
  obtain ⟨blk, io₁, h₁, h⟩ := ends_bind.mp h
  rcases kHeapAlloc_ends env h₁ with ⟨rfl, rfl⟩ | ⟨rfl, rfl⟩
  · obtain ⟨rfl, rfl⟩ := ends_pure.mp h
    exact Or.inl ⟨rfl, rfl⟩
  · dsimp only at h
    rw [if_neg (by omega), blockMessage_add] at h
    obtain ⟨rfl, rfl⟩ := ends_pure.mp h
    exact Or.inr ⟨rfl, rfl⟩

/-- With a block for it, a message is allocated. -/
lemma Ends.gbMessageAlloc {payloadLen : ℕ} (messageType : U8) (operationId : U16) (status : U8)
    {io : Io} (hlen : payloadLen + 8 < 2 ^ 32)
    (h : env.heapAlloc io.heapCalls (8 + payloadLen) = true) :
    Ends (gbMessageAlloc env payloadLen messageType operationId status) io
      (some (freshMessage env io.heapCalls payloadLen messageType operationId status))
      (io.afterAlloc [.alloc io.heapCalls]) := by
  have halloc : HeapGrants env io (8 + payloadLen) := ⟨by omega, h⟩
  rw [Cc1352Greybus.gbMessageAlloc, show (8 + payloadLen) % 2 ^ 32 = 8 + payloadLen by omega]
  refine halloc.ends.bind ?_
  dsimp only
  rw [if_neg (by omega), blockMessage_add]
  exact Ends.pure _ _

variable {env} in
/-- Without one there is no message. -/
lemma gbMessageAlloc_refused {payloadLen : ℕ} (messageType : U8) (operationId : U16) (status : U8)
    {io : Io} (hlen : payloadLen + 8 < 2 ^ 32) (h : ¬ HeapGrants env io (8 + payloadLen)) :
    Ends (gbMessageAlloc env payloadLen messageType operationId status) io none
      (io.afterAlloc []) := by
  rw [gbMessageAlloc, show (8 + payloadLen) % 2 ^ 32 = 8 + payloadLen by omega]
  exact (kHeapAlloc_refused h).bind (Ends.pure _ _)

/-- The message allocated for a header says what the header says. -/
lemma freshMessage_fields (blk : ℕ) {hdr : GbOperationMsgHdr} {n : ℕ} (h : hdr.size.toNat = n + 8) :
    (freshMessage env blk n hdr.type hdr.operationId hdr.result).header.fields = hdr.fields := by
  have hsize : BitVec.ofNat 16 (8 + n) = hdr.size := by
    rw [Nat.add_comm, ← h, BitVec.ofNat_toNat, BitVec.setWidth_eq]
  simp [freshMessage, GbOperationMsgHdr.fields, hsize]

section hdr

variable {env} {hdr : GbOperationMsgHdr} {io : Io}

/-- The block asked for is of the size in the header, whatever that is. -/
lemma gbMessageAlloc_size (hdr : GbOperationMsgHdr) :
    (8 + gbHdrPayloadLen hdr) % 2 ^ 32 = hdr.size.toNat := by
  have hlt := hdr.size.isLt
  rw [gbHdrPayloadLen]
  omega

/-- Without a block there is no message. -/
lemma gbMessageAlloc_hdr_refused (h : ¬ HeapGrants env io hdr.size.toNat) :
    Ends (gbMessageAlloc env (gbHdrPayloadLen hdr) hdr.type hdr.operationId hdr.result) io none
      (io.afterAlloc []) := by
  rw [gbMessageAlloc, gbMessageAlloc_size]
  exact (kHeapAlloc_refused h).bind (Ends.pure _ _)

/-- A block that is too small for the fields is written beyond. -/
lemma gbMessageAlloc_hdr_overruns (h : HeapGrants env io hdr.size.toNat)
    (h6 : hdr.size.toNat < 6) :
    Stops (gbMessageAlloc env (gbHdrPayloadLen hdr) hdr.type hdr.operationId hdr.result) io
      .outOfBounds := by
  rw [gbMessageAlloc, gbMessageAlloc_size, h.ends.stops_bind_iff]
  dsimp only
  rw [if_pos h6, stops_throw]

variable (env) in
/-- The message that goes by a header, in a block of the header's size. -/
def hdrMessage (hdr : GbOperationMsgHdr) (blk : ℕ) : GbMessage :=
  blockMessage env blk hdr.size.toNat hdr.type hdr.operationId hdr.result

@[simp] lemma hdrMessage_blk (blk : ℕ) : (hdrMessage env hdr blk).blk = blk := rfl

/-- It says what the header says. -/
lemma hdrMessage_fields (blk : ℕ) : (hdrMessage env hdr blk).header.fields = hdr.fields := by
  simp [hdrMessage, blockMessage, freshMessage, GbOperationMsgHdr.fields]

@[simp] lemma hdrMessage_payload_length (blk : ℕ) :
    (hdrMessage env hdr blk).payload.length = hdr.size.toNat - 8 := by
  simp [hdrMessage, blockMessage]

/-- So it is as long as the header says, whatever that is. -/
@[simp] lemma hdrMessage_payloadLen (blk : ℕ) :
    gbMessagePayloadLen (hdrMessage env hdr blk) = gbHdrPayloadLen hdr := by
  have hsize : (hdrMessage env hdr blk).header.size = hdr.size :=
    (Prod.mk.inj (hdrMessage_fields blk)).1
  rw [gbMessagePayloadLen, gbHdrPayloadLen, hsize, gbHdrPayloadLen]

/-- Where the header speaks of a message, it is a fresh one. -/
lemma hdrMessage_of_size (blk : ℕ) {n : ℕ} (hn : hdr.size.toNat = n + 8) :
    hdrMessage env hdr blk = freshMessage env blk n hdr.type hdr.operationId hdr.result := by
  rw [hdrMessage, hn, Nat.add_comm, blockMessage_add]

/-- A block that is not holds that message, if not all of its header. -/
lemma gbMessageAlloc_hdr_granted (h : HeapGrants env io hdr.size.toNat)
    (h6 : 6 ≤ hdr.size.toNat) :
    Ends (gbMessageAlloc env (gbHdrPayloadLen hdr) hdr.type hdr.operationId hdr.result) io
      (some (hdrMessage env hdr io.heapCalls)) (io.afterAlloc [.alloc io.heapCalls]) := by
  rw [gbMessageAlloc, gbMessageAlloc_size]
  refine h.ends.bind ?_
  dsimp only
  rw [if_neg (not_lt.mpr h6)]
  exact Ends.pure _ _

variable (env) in
/-- A message is allocated for a header that speaks of its fields at least, or none
is. -/
lemma gbMessageAlloc_hdr_ends {io' : Io} {r : Option GbMessage}
    (h : Ends (gbMessageAlloc env (gbHdrPayloadLen hdr) hdr.type hdr.operationId hdr.result)
      io r io') :
    r = none ∧ io' = io.afterAlloc [] ∨
      6 ≤ hdr.size.toNat ∧ HeapGrants env io hdr.size.toNat ∧
        r = some (hdrMessage env hdr io.heapCalls) ∧ io' = io.afterAlloc [.alloc io.heapCalls] := by
  by_cases hheap : HeapGrants env io hdr.size.toNat
  · rcases lt_or_ge hdr.size.toNat 6 with hsmall | hlarge
    · exact absurd (gbMessageAlloc_hdr_overruns hheap hsmall) (h.not_stops _)
    · obtain ⟨rfl, rfl⟩ := (gbMessageAlloc_hdr_granted hheap hlarge).unique h
      exact Or.inr ⟨hlarge, hheap, rfl, rfl⟩
  · obtain ⟨rfl, rfl⟩ := (gbMessageAlloc_hdr_refused hheap).unique h
    exact Or.inl ⟨rfl, rfl⟩

end hdr

/-- An event of the message heap. -/
def Event.isHeap : Event → Bool
  | .alloc _ => true
  | .dealloc _ => true
  | _ => false

/-- Nothing has been done but to the message heap. -/
def OnlyHeap (io io' : Io) : Prop := ∃ tr, (∀ e ∈ tr, e.isHeap = true) ∧ io'.trace = io.trace ++ tr

lemma OnlyHeap.of_trace_eq {io io' : Io} (h : io'.trace = io.trace) : OnlyHeap io io' :=
  ⟨[], by simp, by simp [h]⟩

instance : Std.Refl OnlyHeap := ⟨fun _ => .of_trace_eq rfl⟩

instance : IsTrans Io OnlyHeap where
  trans := by
    rintro a b c ⟨tr, htr, hb⟩ ⟨tr', htr', hc⟩
    refine ⟨tr ++ tr', fun e he => ?_, by rw [hc, hb, List.append_assoc]⟩
    rcases List.mem_append.mp he with he | he
    · exact htr e he
    · exact htr' e he

lemma respects_gbMessageAlloc (payloadLen : ℕ) (messageType : U8) (operationId : U16)
    (status : U8) :
    Respects OnlyHeap (gbMessageAlloc env payloadLen messageType operationId status) := by
  have halloc : ∀ size, Respects OnlyHeap (kHeapAlloc env size) := by
    intro size io r io' h
    rcases kHeapAlloc_ends env h with ⟨-, rfl⟩ | ⟨-, rfl⟩
    · exact .of_trace_eq (by simp [Io.afterAlloc])
    · exact ⟨[.alloc io.heapCalls], by simp [Event.isHeap], rfl⟩
  refine (halloc _).bind fun blk => ?_
  cases blk with
  | none => exact respects_pure _
  | some blk =>
      dsimp only
      split_ifs
      · exact respects_throw _
      · exact respects_pure _

/-- `gb_message_dealloc` -/
def gbMessageDealloc (msg : GbMessage) : IoM Unit := emit (.dealloc msg.blk)

/-- `memcpy(msg->payload, src, len)`, where there is a message. -/
def fillPayload (msg : GbMessage) (src : List U8) : IoM GbMessage :=
  if msg.payload.length < src.length then throw .outOfBounds
  else return { msg with payload := src ++ msg.payload.drop src.length }

/-- `memcpy(msg->payload, src, len)` -/
def memcpyPayload (msg : Option GbMessage) (src : List U8) : IoM (Option GbMessage) :=
  match msg with
  | none => if src = [] then return none else throw .nullPointer
  | some msg => do return some (← fillPayload msg src)

/-- A payload of the right length takes the place of the one before. -/
lemma fillPayload_ends {msg : GbMessage} {src : List U8} (h : src.length = msg.payload.length)
    (io : Io) : Ends (fillPayload msg src) io { msg with payload := src } io := by
  rw [fillPayload, if_neg (by omega), h, List.drop_length, List.append_nil]
  exact Ends.pure _ io

/-- A message that is allocated for a payload is a fresh one with that payload; there
may be none if there is nothing to copy. -/
lemma alloc_memcpy_ends {payload : List U8} {messageType : U8} {operationId : U16} {status : U8}
    {io io' : Io} {r : Option GbMessage} (hlen : payload.length + 8 < 2 ^ 32)
    (h : Ends (do
      let msg ← gbMessageAlloc env payload.length messageType operationId status
      memcpyPayload msg payload) io r io') :
    r = none ∧ payload = [] ∧ io' = io.afterAlloc [] ∨
      r = some { freshMessage env io.heapCalls payload.length messageType operationId status with
        payload := payload } ∧ io' = io.afterAlloc [.alloc io.heapCalls] := by
  obtain ⟨m, io₁, h₁, h⟩ := ends_bind.mp h
  rw [memcpyPayload.eq_def] at h
  rcases gbMessageAlloc_ends env hlen h₁ with ⟨rfl, rfl⟩ | ⟨rfl, rfl⟩
  · dsimp only at h
    split_ifs at h with hnil
    · obtain ⟨rfl, rfl⟩ := ends_pure.mp h
      exact Or.inl ⟨rfl, hnil, rfl⟩
    · -- the payload would be copied to address zero
      exact (ends_throw.mp h).elim
  · dsimp only at h
    rw [(fillPayload_ends (by simp) _).bind_iff] at h
    obtain ⟨rfl, rfl⟩ := ends_pure.mp h
    exact Or.inr ⟨rfl, rfl⟩

/-- With a block for it, one is. -/
lemma ends_alloc_memcpy (io : Io) {payload : List U8} (messageType : U8) (operationId : U16)
    (status : U8) (hlen : payload.length + 8 < 2 ^ 32)
    (h : env.heapAlloc io.heapCalls (8 + payload.length) = true) :
    Ends (do
      let msg ← gbMessageAlloc env payload.length messageType operationId status
      memcpyPayload msg payload) io
      (some { freshMessage env io.heapCalls payload.length messageType operationId status with
        payload := payload }) (io.afterAlloc [.alloc io.heapCalls]) :=
  (Ends.gbMessageAlloc env messageType operationId status hlen h).bind
    ((fillPayload_ends (by simp) _).bind (Ends.pure _ _))

/-- `gb_message_request_alloc` -/
def gbMessageRequestAlloc (payload : List U8) (requestType : U8) (isOneshot : Bool) :
    IoM (Option GbMessage) := do
  let operationId ← if isOneshot then pure 0 else newOperationId
  let msg ← gbMessageAlloc env payload.length requestType operationId 0
  memcpyPayload msg payload

/-- `gb_message_response_alloc` -/
def gbMessageResponseAlloc (payload : List U8) (requestType : U8) (operationId : U16)
    (status : U8) : IoM (Option GbMessage) := do
  let msg ← gbMessageAlloc env payload.length (GB_OP_RESPONSE ||| requestType) operationId status
  memcpyPayload msg payload

/-! ### `hdlc.h` and `ap.c` -/

/-- `ADDRESS_GREYBUS` -/
def ADDRESS_GREYBUS : U8 := 0x01

/-- The bytes a Greybus frame carries to or from the AP. -/
def greybusFrame (cport : U16) (hdr : GbOperationMsgHdr) (payload : List U8) : List U8 :=
  le16 cport ++ hdr.bytes ++ payload

@[simp] lemma greybusFrame_length (cport : U16) (hdr : GbOperationMsgHdr) (payload : List U8) :
    (greybusFrame cport hdr payload).length = payload.length + 10 := by
  simp [greybusFrame]
  omega

/-- A frame tells its cport. -/
lemma greybusFrame_cport_inj {cport cport' : U16} {hdr hdr' : GbOperationMsgHdr}
    {payload payload' : List U8}
    (h : greybusFrame cport hdr payload = greybusFrame cport' hdr' payload') :
    cport = cport' := by
  have hcport := congrArg (fun l => ofLe16 (l.getD 0 0) (l.getD 1 0)) h
  simpa only [greybusFrame, List.append_assoc, ofLe16_le16_append] using hcport

/-- The block a message leaves the UART in. -/
def greybusBlock (cport : U16) (msg : GbMessage) : Block :=
  ⟨ADDRESS_GREYBUS, 0x03, greybusFrame cport msg.header
    (msg.payload.take (gbMessagePayloadLen msg))⟩

/-- A message whose header speaks for its payload leaves with all of it. -/
lemma greybusBlock_of_sized (cport : U16) {msg : GbMessage} (h : msg.Sized) :
    greybusBlock cport msg = ⟨ADDRESS_GREYBUS, 0x03,
      greybusFrame cport msg.header msg.payload⟩ := by
  rw [greybusBlock, h.payloadLen, List.take_length]

/-- `gb_message_hdlc_send`: three copies into a buffer of `HDLC_MAX_BLOCK_SIZE`
bytes, and one block sent from it. -/
def gbMessageHdlcSend (cfg : Config) (msg : GbMessage) (cport : U16) : IoM ℤ := do
  let len := gbMessagePayloadLen msg
  if cfg.hdlcMaxBlockSize < 10 + len ∨ msg.payload.length < len then throw .outOfBounds
  else do
    emit (.hdlcBlock (greybusBlock cport msg))
    return 0

/-- `ap_send` -/
def apSend (cfg : Config) (msg : GbMessage) (cport : U16) : IoM ℤ := do
  let ret ← gbMessageHdlcSend cfg msg cport
  gbMessageDealloc msg
  return ret

end Cc1352Greybus
