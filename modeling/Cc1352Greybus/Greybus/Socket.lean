import Cc1352Greybus.Greybus.Io

/-!
The TCP side of `src/node.c`: whole messages written to and read from stream
sockets that take and deliver bytes in pieces.

* `writeData`, `readData`: the loops around `zsock_send` and `zsock_recv`.
* `gbMessageReceive`: one message off a node's socket.
* `ends_zsockRecv`: what a `zsock_recv` can do.
* `writeData_ends`: a write sends all of its bytes or fails, and does nothing
  else; `readData_ends`: a read takes the next bytes of the stream, however the
  stream is cut.
-/

namespace Cc1352Greybus

open Effects

variable (env : Env)

/-! ### Sockets -/

/-- `zsock_send` of at least one byte; a descriptor below zero is refused. -/
def zsockSend (sock : ℤ) (data : List U8) : IoM ℤ := modifyGet fun io =>
  if sock < 0 then (-1, io)
  else match env.zsockSend io.sendCalls with
    | none => (-1, { io with sendCalls := io.sendCalls + 1 })
    | some n =>
      ((data.take (n + 1)).length,
        { io with
          sendCalls := io.sendCalls + 1
          trace := io.trace ++ [.sockSend sock (data.take (n + 1))] })

/-- What is left of a stream once some bytes of its first piece are taken. -/
def leftover : List U8 → List RxChunk → List RxChunk
  | [], rest => rest
  | b :: bs, rest => .data b bs :: rest

/-- `zsock_recv` of at most `len` bytes, `0 < len`, with the bytes it writes. A
peer that has closed stays closed. -/
def zsockRecv (sock : ℤ) (len : ℕ) : IoM (ℤ × List U8) :=
  if sock < 0 then return (-1, [])
  else do
    let io ← get
    match io.rx sock with
    | [] => throw .blocked
    | .data b bs :: rest =>
      set { io with rx := Function.update io.rx sock (leftover ((b :: bs).drop len) rest) }
      return (((b :: bs).take len).length, (b :: bs).take len)
    | .closed :: _ => return (0, [])
    | .error :: rest =>
      set { io with rx := Function.update io.rx sock rest }
      return (-1, [])

/-- `zsock_close` -/
def zsockClose (sock : ℤ) : IoM Unit := emit (.sockClose sock)

/-- `zsock_socket`: a new socket has nothing to deliver, whatever an older one left
that had its descriptor. -/
def zsockSocket : IoM (Option ℕ) := modifyGet fun io =>
  match env.zsockSocket io.netCalls with
  | none => (none, { io with netCalls := io.netCalls + 1 })
  | some fd =>
    (some fd,
      { io with
        netCalls := io.netCalls + 1
        rx := Function.update io.rx fd []
        trace := io.trace ++ [.sockOpen fd] })

/-- `pipe_send` -/
def pipeSend : IoM Unit := do
  let io ← get
  emit (.pipeSend io.localPipeWriter)

/-- The loop of `write_data`, with the bytes left and the count so far. Every
round takes a byte at least, so there are no more rounds than bytes. -/
def writeDataLoop (sock : ℤ) : ℕ → List U8 → ℕ → IoM ℤ
  | 0, _, transmitted => return transmitted
  | rounds + 1, left, transmitted =>
    if left = [] then return transmitted
    else do
      let ret ← zsockSend env sock left
      if ret < 0 then return ret
      else writeDataLoop sock rounds (left.drop ret.toNat) (transmitted + ret.toNat)

/-- `write_data` -/
def writeData (sock : ℤ) (data : List U8) : IoM ℤ :=
  writeDataLoop env sock data.length data 0

/-- The loop of `read_data` to a place with some `room`, with the number of bytes to
come and the bytes received. -/
def readDataLoop (sock : ℤ) (room : ℕ) : ℕ → ℕ → List U8 → IoM (ℤ × List U8)
  | 0, _, received => return (received.length, received)
  | rounds + 1, left, received =>
    if left = 0 then return (received.length, received)
    else do
      let r ← zsockRecv sock left
      if r.1 ≤ 0 then return (r.1, received)
      else if room < received.length + r.2.length then throw .outOfBounds
      else readDataLoop sock room rounds (left - r.2.length) (received ++ r.2)

/-- `read_data`, with the bytes it has written. -/
def readData (sock : ℤ) (room len : ℕ) : IoM (ℤ × List U8) := readDataLoop sock room len len []

/-- A `read_data` that came back short: the peer has closed if it returned zero,
and `*flag` says so. -/
def shortRead (sock : ℤ) (ret : ℤ) : IoM (Option (U16 × GbMessage) × Bool) := do
  emit (.received sock (if ret = 0 then .closed else .failed))
  return (none, decide (ret = 0))

/-- What `gb_message_receive` does once it has a message: the payload is read into
what the block has behind the header. The lengths are compared as `size_t`, so that
a failed read counts as whole where a size of 7 asks for 2³² - 1 bytes. -/
def receivePayload (sock : ℤ) (flag : Bool) (cport : U16) (msg : GbMessage) :
    IoM (Option (U16 × GbMessage) × Bool) := do
  let len := gbMessagePayloadLen msg
  let p ← readData sock msg.payload.length len
  if p.1 % 2 ^ 32 ≠ len then do
    gbMessageDealloc msg
    shortRead sock p.1
  else do
    let msg := { msg with payload := p.2 ++ msg.payload.drop p.2.length }
    emit (.received sock (.full cport msg))
    return (some (cport, msg), flag)

/-- What it does once it has a header. -/
def receiveMessage (sock : ℤ) (flag : Bool) (cport : U16) (hdr : GbOperationMsgHdr) :
    IoM (Option (U16 × GbMessage) × Bool) := do
  match ← gbMessageAlloc env (gbHdrPayloadLen hdr) hdr.type hdr.operationId hdr.result with
  | none =>
    emit (.received sock .noMemory)
    return (none, flag)
  | some msg => receivePayload sock flag cport msg

/-- `gb_message_receive`: the message with its node cport, if there is one, and
the value `*flag` is left with. -/
def gbMessageReceive (sock : ℤ) (flag : Bool) : IoM (Option (U16 × GbMessage) × Bool) := do
  let c ← readData sock 2 2
  if c.1 ≠ 2 then shortRead sock c.1
  else do
    let h ← readData sock 8 8
    if h.1 ≠ 8 then shortRead sock h.1
    else
      receiveMessage env sock flag (ofLe16 (c.2.getD 0 0) (c.2.getD 1 0))
        (GbOperationMsgHdr.ofBytes h.2)

/-- `connect_to_node`; the address makes no difference but to the arguments. -/
def connectToNode : IoM ℤ := do
  let io ← get
  match ← zsockSocket env with
  | none => return -1
  | some fd =>
    if env.zsockConnect io.netCalls = true then return fd
    else do
      zsockClose fd
      return -1

/-- A node is reached when there is a descriptor for it and it answers. -/
def Connects (io : Io) : Prop :=
  (env.zsockSocket io.netCalls).isSome ∧ env.zsockConnect io.netCalls = true

/-- The devices once a socket has been asked for. -/
def Io.afterSocket (io : Io) : Option ℕ → Io
  | none => { io with netCalls := io.netCalls + 1 }
  | some fd =>
    { io with
      netCalls := io.netCalls + 1
      rx := Function.update io.rx fd []
      trace := io.trace ++ [.sockOpen fd] }

lemma Ends.zsockSocket (io : Io) : Ends (zsockSocket env) io (env.zsockSocket io.netCalls)
    (io.afterSocket (env.zsockSocket io.netCalls)) := by
  rw [Cc1352Greybus.zsockSocket, ends_modifyGet]
  cases env.zsockSocket io.netCalls <;> exact ⟨rfl, rfl⟩

/-- **`connect_to_node`** returns the descriptor of a node that is reached, and leaves
no other socket open. -/
theorem connectToNode_ends (io : Io) :
    env.zsockSocket io.netCalls = none ∧
        Ends (connectToNode env) io (-1) (io.afterSocket none) ∨
      ∃ fd : ℕ, env.zsockSocket io.netCalls = some fd ∧
        (env.zsockConnect io.netCalls = true ∧
            Ends (connectToNode env) io fd (io.afterSocket (some fd)) ∨
          env.zsockConnect io.netCalls = false ∧
            Ends (connectToNode env) io (-1)
              ((io.afterSocket (some fd)).logged [.sockClose fd])) := by
  simp only [connectToNode, (Ends.get io).bind_iff, (Ends.zsockSocket env io).bind_iff]
  cases hsock : env.zsockSocket io.netCalls with
  | none => exact Or.inl ⟨rfl, Ends.pure _ _⟩
  | some fd =>
      refine Or.inr ⟨fd, rfl, ?_⟩
      dsimp only
      cases hconn : env.zsockConnect io.netCalls with
      | true => exact Or.inl ⟨rfl, by rw [if_pos rfl]; exact Ends.pure _ _⟩
      | false =>
          refine Or.inr ⟨rfl, ?_⟩
          rw [if_neg Bool.false_ne_true]
          exact (Ends.emit _ _).bind (Ends.pure _ _)

/-- `connect_to_node` returns a descriptor exactly when the node is reached. -/
lemma connectToNode_nonneg_iff {io io' : Io} {ret : ℤ} (h : Ends (connectToNode env) io ret io') :
    0 ≤ ret ↔ Connects env io := by
  rw [Connects]
  rcases connectToNode_ends env io with
    ⟨hsock, hend⟩ | ⟨fd, hsock, ⟨hconn, hend⟩ | ⟨hconn, hend⟩⟩
  · obtain ⟨rfl, -⟩ := hend.unique h
    simp [hsock]
  · obtain ⟨rfl, -⟩ := hend.unique h
    simp [hsock, hconn]
  · obtain ⟨rfl, -⟩ := hend.unique h
    simp [hconn]

lemma Ends.pipeSend (io : Io) :
    Ends pipeSend io () (io.logged [.pipeSend io.localPipeWriter]) :=
  (Ends.get io).bind (Ends.emit _ io)

/-! ### Writing -/

/-- The bytes a stretch of the trace sends on a socket, with the one `pipe_send` puts
there if the descriptor is the socket's. -/
def sentOn (sock : ℤ) (tr : List Event) : List U8 := tr.flatMap fun
  | .sockSend s bs => if s = sock then bs else []
  | .pipeSend s => if s = sock then [0] else []
  | _ => []

@[simp] lemma sentOn_nil (sock : ℤ) : sentOn sock [] = [] := rfl

lemma sentOn_append (sock : ℤ) (tr tr' : List Event) :
    sentOn sock (tr ++ tr') = sentOn sock tr ++ sentOn sock tr' := by
  simp [sentOn]

/-- A stretch of the trace that only sends on one socket. -/
def SendsOn (sock : ℤ) (tr : List Event) : Prop := ∀ e ∈ tr, ∃ bs, e = .sockSend sock bs

lemma SendsOn.append {sock : ℤ} {tr tr' : List Event} (h : SendsOn sock tr)
    (h' : SendsOn sock tr') : SendsOn sock (tr ++ tr') := by
  intro e he
  rcases List.mem_append.mp he with he | he
  · exact h e he
  · exact h' e he

/-- Nothing is sent on any other socket. -/
lemma SendsOn.sentOn_eq_nil {sock sock' : ℤ} {tr : List Event} (h : SendsOn sock tr)
    (hne : sock' ≠ sock) : sentOn sock' tr = [] := by
  rw [sentOn, List.flatMap_eq_nil_iff]
  intro e he
  obtain ⟨bs, rfl⟩ := h e he
  exact if_neg (Ne.symm hne)

/-- The devices after some `zsock_send` calls. -/
def Io.afterSends (io : Io) (tr : List Event) (calls : ℕ) : Io :=
  { io with trace := io.trace ++ tr, sendCalls := calls }

@[simp] lemma Io.afterSends_afterSends (io : Io) (tr tr' : List Event) (calls calls' : ℕ) :
    (io.afterSends tr calls).afterSends tr' calls' = io.afterSends (tr ++ tr') calls' := by
  simp [Io.afterSends]

/-- One `zsock_send`: it fails, or takes at least a byte and at most all. -/
lemma zsockSend_ends (sock : ℤ) {data : List U8} (hdata : data ≠ []) (io : Io) :
    (∃ calls, Ends (zsockSend env sock data) io (-1) (io.afterSends [] calls) ∧
      ¬ (0 ≤ sock ∧ ∀ n, (env.zsockSend n).isSome)) ∨
    ∃ n calls, 0 < n ∧ n ≤ data.length ∧
      Ends (zsockSend env sock data) io n (io.afterSends [.sockSend sock (data.take n)] calls) := by
  have hpos : 0 < data.length := List.length_pos_iff.mpr hdata
  by_cases hs : sock < 0
  · refine Or.inl ⟨io.sendCalls, ?_, fun h => absurd h.1 (not_le.mpr hs)⟩
    simp [zsockSend, hs, Io.afterSends]
  · cases h : env.zsockSend io.sendCalls with
    | none =>
        refine Or.inl ⟨io.sendCalls + 1, ?_, fun hall => by simpa [h] using hall.2 io.sendCalls⟩
        simp [zsockSend, hs, h, Io.afterSends]
    | some n =>
        refine Or.inr ⟨(data.take (n + 1)).length, io.sendCalls + 1, ?_, ?_, ?_⟩
        · rw [List.length_take]
          omega
        · rw [List.length_take]
          omega
        · simp [zsockSend, hs, h, Io.afterSends]

/-- The loop of `write_data` sends what is left, or fails part of the way. -/
lemma writeDataLoop_ends (sock : ℤ) (rounds : ℕ) (left : List U8) (done : ℕ) (io : Io)
    (hr : left.length ≤ rounds) :
    ∃ tr calls ret, Ends (writeDataLoop env sock rounds left done) io ret (io.afterSends tr calls) ∧
      SendsOn sock tr ∧
      (ret = (done + left.length : ℕ) ∧ sentOn sock tr = left ∨
        ret = -1 ∧ ¬ (0 ≤ sock ∧ ∀ n, (env.zsockSend n).isSome) ∧
          ∃ n < left.length, sentOn sock tr = left.take n) := by
  induction rounds generalizing left done io with
  | zero =>
      obtain rfl : left = [] := List.length_eq_zero_iff.mp (by omega)
      refine ⟨[], io.sendCalls, done, ?_, by simp [SendsOn], Or.inl ⟨by simp, rfl⟩⟩
      simp [writeDataLoop, Io.afterSends]
  | succ rounds ih =>
      by_cases hnil : left = []
      · subst hnil
        refine ⟨[], io.sendCalls, done, ?_, by simp [SendsOn], Or.inl ⟨by simp, rfl⟩⟩
        simp [writeDataLoop, Io.afterSends]
      · rw [writeDataLoop, if_neg hnil]
        rcases zsockSend_ends env sock hnil io with ⟨calls, hsend, hbad⟩ | ⟨n, calls, h0, hn, hsend⟩
        · refine ⟨[], calls, -1, hsend.bind (by simp), by simp [SendsOn],
            Or.inr ⟨rfl, hbad, 0, List.length_pos_iff.mpr hnil, by simp⟩⟩
        · -- `n` bytes are gone; the rest of the rounds sends what they left
          obtain ⟨tr, calls', ret, hend, hon, hret⟩ :=
            ih (left.drop n) (done + n) (io.afterSends [.sockSend sock (left.take n)] calls)
              (by rw [List.length_drop]; omega)
          have hsent : sentOn sock ([.sockSend sock (left.take n)] ++ tr) =
              left.take n ++ sentOn sock tr := by simp [sentOn]
          refine ⟨[.sockSend sock (left.take n)] ++ tr, calls', ret, ?_, ?_, ?_⟩
          · refine hsend.bind ?_
            rw [if_neg (by omega), Int.toNat_natCast]
            simpa [Io.afterSends] using hend
          · exact SendsOn.append (by simp [SendsOn]) hon
          · rw [hsent]
            rcases hret with ⟨hret, htr⟩ | ⟨hret, hbad, m, hm, htr⟩
            · refine Or.inl ⟨?_, by rw [htr, List.take_append_drop]⟩
              rw [hret, List.length_drop]
              omega
            · rw [List.length_drop] at hm
              refine Or.inr ⟨hret, hbad, n + m, by omega, ?_⟩
              rw [htr, List.take_add]

/-- **`write_data`** sends all of its bytes, or fails with some of them sent; it
cannot fail while the socket is open and no send fails. -/
theorem writeData_ends (sock : ℤ) (data : List U8) (io : Io) :
    ∃ tr calls ret, Ends (writeData env sock data) io ret (io.afterSends tr calls) ∧
      SendsOn sock tr ∧
      (ret = data.length ∧ sentOn sock tr = data ∨
        ret = -1 ∧ ¬ (0 ≤ sock ∧ ∀ n, (env.zsockSend n).isSome) ∧
          ∃ n < data.length, sentOn sock tr = data.take n) := by
  obtain ⟨tr, calls, ret, h, hon, hret⟩ :=
    writeDataLoop_ends env sock data.length data 0 io le_rfl
  exact ⟨tr, calls, ret, h, hon, by simpa using hret⟩

/-! ### Reading -/

/-- The bytes a socket delivers before its stream ends or fails. -/
def streamBytes : List RxChunk → List U8
  | .data b bs :: rest => b :: bs ++ streamBytes rest
  | _ => []

lemma streamBytes_leftover (bs : List U8) (rest : List RxChunk) :
    streamBytes (leftover bs rest) = bs ++ streamBytes rest := by
  cases bs with
  | nil => rfl
  | cons b bs => rfl

/-- The devices once a socket has been read from. -/
def Io.readFrom (io : Io) (sock : ℤ) (left : List RxChunk) : Io :=
  { io with rx := Function.update io.rx sock left }

@[simp] lemma Io.readFrom_self (io : Io) (sock : ℤ) : io.readFrom sock (io.rx sock) = io := by
  simp [Io.readFrom]

@[simp] lemma Io.readFrom_readFrom (io : Io) (sock : ℤ) (l l' : List RxChunk) :
    (io.readFrom sock l).readFrom sock l' = io.readFrom sock l' := by
  simp [Io.readFrom]

@[simp] lemma Io.readFrom_rx (io : Io) (sock : ℤ) (l : List RxChunk) :
    (io.readFrom sock l).rx sock = l := by
  simp [Io.readFrom]

/-- What a `zsock_recv` of at most `len` bytes returns of a stream, and what it leaves of it. -/
inductive Recvs (len : ℕ) : List RxChunk → ℤ × List U8 → List RxChunk → Prop
  | data (b : U8) (bs : List U8) (rest : List RxChunk) :
    Recvs len (.data b bs :: rest) (((b :: bs).take len).length, (b :: bs).take len)
      (leftover ((b :: bs).drop len) rest)
  | closed (rest : List RxChunk) : Recvs len (.closed :: rest) (0, []) (.closed :: rest)
  | error (rest : List RxChunk) : Recvs len (.error :: rest) (-1, []) rest

/-- **One `zsock_recv`** fails, or takes off its stream what it returns. -/
lemma ends_zsockRecv {sock : ℤ} {len : ℕ} {io io' : Io} {r : ℤ × List U8} :
    Ends (zsockRecv sock len) io r io' ↔
      sock < 0 ∧ r = (-1, []) ∧ io' = io ∨
        0 ≤ sock ∧ ∃ left, Recvs len (io.rx sock) r left ∧ io' = io.readFrom sock left := by
  rw [zsockRecv]
  by_cases hs : sock < 0
  · rw [if_pos hs, ends_pure, or_iff_left fun h => (not_le.mpr hs) h.1]
    exact ⟨fun ⟨hr, hio⟩ => ⟨hs, hr.symm, hio.symm⟩, fun ⟨_, hr, hio⟩ => ⟨hr.symm, hio.symm⟩⟩
  rw [if_neg hs, (Ends.get io).bind_iff, or_iff_right fun h => hs h.1,
    and_iff_right (not_lt.mp hs)]
  constructor
  · intro h
    cases hrx : io.rx sock with
    | nil =>
        rw [hrx] at h
        exact (ends_throw.mp h).elim
    | cons chunk rest =>
        rw [hrx] at h
        cases chunk with
        | data b bs =>
            rw [(Ends.set _ io).bind_iff] at h
            obtain ⟨rfl, rfl⟩ := ends_pure.mp h
            exact ⟨_, .data b bs rest, rfl⟩
        | closed =>
            obtain ⟨rfl, rfl⟩ := ends_pure.mp h
            exact ⟨_, .closed rest, by rw [← hrx, Io.readFrom_self]⟩
        | error =>
            rw [(Ends.set _ io).bind_iff] at h
            obtain ⟨rfl, rfl⟩ := ends_pure.mp h
            exact ⟨_, .error rest, rfl⟩
  · rintro ⟨left, htakes, rfl⟩
    generalize hrx : io.rx sock = rx at htakes
    cases htakes with
    | data b bs rest => exact (Ends.set _ io).bind (Ends.pure _ _)
    | closed rest =>
        have hkept : io.readFrom sock (.closed :: rest) = io := by rw [← hrx, Io.readFrom_self]
        rw [hkept]
        exact Ends.pure _ _
    | error rest => exact (Ends.set _ io).bind (Ends.pure _ _)

/-- One `zsock_recv` takes the next bytes of the stream. -/
lemma zsockRecv_ends {sock : ℤ} (hs : 0 ≤ sock) {len : ℕ} (hlen : 0 < len) {io : Io}
    (h : streamBytes (io.rx sock) ≠ []) :
    ∃ n left, 0 < n ∧ n ≤ len ∧
      Ends (zsockRecv sock len) io (n, (streamBytes (io.rx sock)).take n) (io.readFrom sock left) ∧
      streamBytes left = (streamBytes (io.rx sock)).drop n ∧
      n ≤ (streamBytes (io.rx sock)).length := by
  -- the next chunk, of which what does not fit is left
  obtain ⟨b, bs, rest, hrx⟩ : ∃ b bs rest, io.rx sock = .data b bs :: rest := by
    cases hrx : io.rx sock with
    | nil => simp [hrx, streamBytes] at h
    | cons c rest =>
        cases c with
        | data b bs => exact ⟨b, bs, rest, rfl⟩
        | closed => simp [hrx, streamBytes] at h
        | error => simp [hrx, streamBytes] at h
  have hstream : streamBytes (io.rx sock) = (b :: bs) ++ streamBytes rest := by
    rw [hrx, streamBytes]
  have htake : ((b :: bs).take len).length = min len (b :: bs).length := List.length_take
  refine ⟨((b :: bs).take len).length, leftover ((b :: bs).drop len) rest, ?_, ?_, ?_, ?_, ?_⟩
  · simp only [htake, List.length_cons]
    omega
  · omega
  · have htaken : (streamBytes (io.rx sock)).take ((b :: bs).take len).length =
        (b :: bs).take len := by
      rw [hstream, htake, List.take_append_of_le_length (by omega), ← List.take_eq_take_min]
    rw [htaken, ends_zsockRecv, hrx]
    exact Or.inr ⟨hs, _, .data b bs rest, rfl⟩
  · rw [hstream, streamBytes_leftover, htake, List.drop_append_of_le_length (by omega)]
    congr 1
    rcases Nat.le_total len (b :: bs).length with h | h
    · rw [Nat.min_eq_left h]
    · rw [Nat.min_eq_right h, List.drop_length, List.drop_eq_nil_iff.mpr h]
  · rw [hstream, List.length_append]
    omega

/-- The loop of `read_data` takes what it has to from the stream. -/
lemma readDataLoop_ends {sock : ℤ} (hs : 0 ≤ sock) {room : ℕ} (rounds left : ℕ)
    (received : List U8) (io : Io) (hroom : received.length + left ≤ room) (hr : left ≤ rounds)
    (hleft : left ≤ (streamBytes (io.rx sock)).length) :
    ∃ rx', Ends (readDataLoop sock room rounds left received) io
        ((received.length + left : ℕ), received ++ (streamBytes (io.rx sock)).take left)
        (io.readFrom sock rx') ∧
      streamBytes rx' = (streamBytes (io.rx sock)).drop left := by
  -- on the rounds, each of which takes a byte at least
  induction rounds generalizing left received io with
  | zero =>
      obtain rfl : left = 0 := by omega
      exact ⟨io.rx sock, by simp [readDataLoop], by simp⟩
  | succ rounds ih =>
      by_cases h0 : left = 0
      · subst h0
        exact ⟨io.rx sock, by simp [readDataLoop], by simp⟩
      · have hne : streamBytes (io.rx sock) ≠ [] := by
          rintro h
          simp [h] at hleft
          omega
        obtain ⟨n, rx₁, hpos, hle, hrecv, hdrop, hn⟩ :=
          zsockRecv_ends hs (Nat.pos_of_ne_zero h0) hne
        have hlen : ((streamBytes (io.rx sock)).take n).length = n := by
          rw [List.length_take]
          omega
        obtain ⟨rx₂, hend, hdrop₂⟩ := ih (left - n)
          (received ++ (streamBytes (io.rx sock)).take n) (io.readFrom sock rx₁)
          (by rw [List.length_append, hlen]; omega) (by omega)
          (by rw [Io.readFrom_rx, hdrop, List.length_drop]; omega)
        rw [Io.readFrom_rx, hdrop] at hend hdrop₂
        refine ⟨rx₂, ?_, ?_⟩
        · rw [readDataLoop, if_neg h0]
          refine hrecv.bind ?_
          rw [if_neg (by simp; omega), hlen, if_neg (by omega)]
          rw [List.length_append, hlen, List.append_assoc, ← List.take_add,
            Nat.add_sub_cancel' hle, Io.readFrom_readFrom] at hend
          rwa [show received.length + n + (left - n) = received.length + left by omega] at hend
        · rw [hdrop₂, List.drop_drop, Nat.add_sub_cancel' hle]

/-- **`read_data`** takes the next bytes of the stream, however it is cut, to where
there is room for them. -/
theorem readData_ends {sock : ℤ} (hs : 0 ≤ sock) {bs rest : List U8} {io : Io}
    (h : streamBytes (io.rx sock) = bs ++ rest) {room : ℕ} (hroom : bs.length ≤ room) :
    ∃ rx', Ends (readData sock room bs.length) io (bs.length, bs) (io.readFrom sock rx') ∧
      streamBytes rx' = rest := by
  obtain ⟨rx', hend, hrest⟩ :=
    readDataLoop_ends hs bs.length bs.length [] io (by simpa using hroom) le_rfl (by simp [h])
  exact ⟨rx', by simpa [readData, h] using hend, by simpa [h] using hrest⟩

/-! ### Receiving -/

/-- Reading leaves no trace. -/
lemma respects_zsockRecv (sock : ℤ) (len : ℕ) : Respects OnlyHeap (zsockRecv sock len) := by
  intro io r io' h
  rcases ends_zsockRecv.mp h with ⟨-, -, rfl⟩ | ⟨-, left, -, rfl⟩
  · exact refl_of OnlyHeap io'
  · exact .of_trace_eq rfl

lemma respects_readDataLoop (sock : ℤ) (room rounds left : ℕ) (received : List U8) :
    Respects OnlyHeap (readDataLoop sock room rounds left received) := by
  induction rounds generalizing left received with
  | zero => exact respects_pure _
  | succ rounds ih =>
      rw [readDataLoop]
      split_ifs
      · exact respects_pure _
      · exact (respects_zsockRecv sock left).bind fun r =>
          respects_ite (respects_pure _) (respects_ite (respects_throw _) (ih _ _))

lemma respects_readData (sock : ℤ) (room len : ℕ) : Respects OnlyHeap (readData sock room len) :=
  respects_readDataLoop sock room len len []

/-- What a receive returns, and the value it leaves `*flag` with. -/
def Received.returns : Received → Bool → Option (U16 × GbMessage) × Bool
  | .full cport msg, flag => (some (cport, msg), flag)
  | .closed, _ => (none, true)
  | .failed, _ => (none, false)
  | .noMemory, flag => (none, flag)

lemma shortRead_ends {sock ret : ℤ} (flag : Bool) {io io' : Io}
    {r : Option (U16 × GbMessage) × Bool} (h : Ends (shortRead sock ret) io r io') :
    ∃ rcv : Received, r = rcv.returns flag ∧ io'.trace = io.trace ++ [.received sock rcv] := by
  rw [shortRead, (Ends.emit _ io).bind_iff] at h
  obtain ⟨rfl, rfl⟩ := ends_pure.mp h
  by_cases h0 : ret = 0
  · exact ⟨.closed, by simp [h0, Received.returns], by simp [h0]⟩
  · exact ⟨.failed, by simp [h0, Received.returns], by simp [h0]⟩

/-- A receive has allocated and read before it returns. -/
def ReturnsAfter (sock : ℤ) (flag : Bool) (io : Io) (r : Option (U16 × GbMessage) × Bool)
    (io' : Io) : Prop :=
  ∃ rcv io₁, OnlyHeap io io₁ ∧ r = Received.returns rcv flag ∧
    io'.trace = io₁.trace ++ [.received sock rcv]

lemma ReturnsAfter.after {sock : ℤ} {flag : Bool} {io io₁ io' : Io}
    {r : Option (U16 × GbMessage) × Bool} (h : ReturnsAfter sock flag io₁ r io')
    (hio : OnlyHeap io io₁) : ReturnsAfter sock flag io r io' := by
  obtain ⟨rcv, io₂, hio₂, hr, htrace⟩ := h
  exact ⟨rcv, io₂, trans_of OnlyHeap hio hio₂, hr, htrace⟩

lemma shortRead_after {sock ret : ℤ} (flag : Bool) {io io' : Io}
    {r : Option (U16 × GbMessage) × Bool} (h : Ends (shortRead sock ret) io r io') :
    ReturnsAfter sock flag io r io' := by
  obtain ⟨rcv, hr, htrace⟩ := shortRead_ends flag h
  exact ⟨rcv, io, refl_of OnlyHeap io, hr, htrace⟩

lemma receivePayload_after {sock : ℤ} {flag : Bool} {cport : U16} {msg : GbMessage} {io io' : Io}
    {r : Option (U16 × GbMessage) × Bool}
    (h : Ends (receivePayload sock flag cport msg) io r io') :
    ReturnsAfter sock flag io r io' := by
  obtain ⟨p, io₁, h₁, h⟩ := ends_bind.mp h
  have hio₁ := respects_readData _ _ _ h₁
  rcases ends_ite.mp h with ⟨-, h⟩ | ⟨-, h⟩
  · rw [gbMessageDealloc, (Ends.emit _ io₁).bind_iff] at h
    refine (shortRead_after flag h).after (trans_of OnlyHeap hio₁ ?_)
    exact ⟨[.dealloc msg.blk], by simp [Event.isHeap], rfl⟩
  · rw [(Ends.emit _ io₁).bind_iff] at h
    obtain ⟨rfl, rfl⟩ := ends_pure.mp h
    exact ⟨.full _ _, io₁, hio₁, rfl, rfl⟩

lemma receiveMessage_after {sock : ℤ} {flag : Bool} {cport : U16} {hdr : GbOperationMsgHdr}
    {io io' : Io} {r : Option (U16 × GbMessage) × Bool}
    (h : Ends (receiveMessage env sock flag cport hdr) io r io') :
    ReturnsAfter sock flag io r io' := by
  obtain ⟨msg, io₁, h₁, h⟩ := ends_bind.mp h
  have hio₁ := respects_gbMessageAlloc env _ _ _ _ h₁
  cases msg with
  | none =>
      dsimp only at h
      rw [(Ends.emit _ io₁).bind_iff] at h
      obtain ⟨rfl, rfl⟩ := ends_pure.mp h
      exact ⟨.noMemory, io₁, hio₁, rfl, rfl⟩
  | some msg => exact (receivePayload_after h).after hio₁

/-- **`gb_message_receive`** allocates and reads, and ends in one way. -/
theorem gbMessageReceive_ends {sock : ℤ} {flag : Bool} {io io' : Io}
    {r : Option (U16 × GbMessage) × Bool} (h : Ends (gbMessageReceive env sock flag) io r io') :
    ReturnsAfter sock flag io r io' := by
  rw [gbMessageReceive] at h
  obtain ⟨c, io₁, h₁, h⟩ := ends_bind.mp h
  have hio₁ := respects_readData _ _ _ h₁
  split_ifs at h
  · exact (shortRead_after flag h).after hio₁
  obtain ⟨hd, io₂, h₂, h⟩ := ends_bind.mp h
  have hio₂ := trans_of OnlyHeap hio₁ (respects_readData _ _ _ h₂)
  split_ifs at h
  · exact (shortRead_after flag h).after hio₂
  exact (receiveMessage_after env h).after hio₂

/-- A payload that is on the stream is received whole. -/
lemma receivePayload_full {sock : ℤ} (hs : 0 ≤ sock) (flag : Bool) (cport : U16)
    {msg : GbMessage} (hmsg : msg.Sized) {io : Io} {payload rest : List U8}
    (hlen : payload.length = msg.payload.length)
    (hrx : streamBytes (io.rx sock) = payload ++ rest) :
    ∃ rx', streamBytes rx' = rest ∧
      Ends (receivePayload sock flag cport msg) io
        (some (cport, { msg with payload := payload }), flag)
        ((io.readFrom sock rx').logged
          [.received sock (.full cport { msg with payload := payload })]) := by
  have hlt := msg.header.size.isLt
  have hsize : msg.header.size.toNat = msg.payload.length + 8 := hmsg
  obtain ⟨rx', hread, hrest⟩ := readData_ends hs hrx hlen.le
  refine ⟨rx', hrest, ?_⟩
  rw [receivePayload]
  dsimp only
  rw [hmsg.payloadLen, ← hlen]
  rw [hlen] at hread ⊢
  refine hread.bind ?_
  rw [if_neg (by dsimp only; omega)]
  dsimp only
  rw [hlen, List.drop_length, List.append_nil]
  exact (Ends.emit _ _).bind (Ends.pure _ _)

/-- A socket with a cport and a header on its stream: they are read, and what comes is
what they say. -/
lemma gbMessageReceive_run {sock : ℤ} (hs : 0 ≤ sock) (flag : Bool) {io : Io} {cport : U16}
    {hdr : GbOperationMsgHdr} {rest : List U8}
    (hrx : streamBytes (io.rx sock) = greybusFrame cport hdr [] ++ rest) :
    ∃ rx₁ rx₂, streamBytes rx₂ = rest ∧
      Ends (readData sock 2 2) io (2, le16 cport) (io.readFrom sock rx₁) ∧
      Ends (readData sock 8 8) (io.readFrom sock rx₁) (8, hdr.bytes) (io.readFrom sock rx₂) ∧
      (gbMessageReceive env sock flag).run io =
        (receiveMessage env sock flag cport hdr).run (io.readFrom sock rx₂) := by
  rw [greybusFrame, List.append_nil, List.append_assoc] at hrx
  obtain ⟨rx₁, hread₁, hrest₁⟩ := readData_ends hs hrx le_rfl
  rw [← Io.readFrom_rx io sock rx₁] at hrest₁
  obtain ⟨rx₂, hread₂, hrest₂⟩ := readData_ends hs hrest₁ le_rfl
  rw [Io.readFrom_readFrom] at hread₂
  have hcport : ofLe16 ((le16 cport).getD 0 0) ((le16 cport).getD 1 0) = cport := by
    simpa using ofLe16_le16_append cport []
  have hhdr : GbOperationMsgHdr.ofBytes hdr.bytes = hdr := by
    simpa using GbOperationMsgHdr.ofBytes_bytes_append hdr []
  refine ⟨rx₁, rx₂, hrest₂, hread₁, hread₂, ?_⟩
  rw [gbMessageReceive]
  refine hread₁.run_bind.trans ?_
  rw [if_neg (by simp)]
  refine hread₂.run_bind.trans ?_
  rw [if_neg (by simp), hcport, hhdr]

/-- **A whole message** on the stream is received whole, if there is a block for
it. -/
theorem gbMessageReceive_full {sock : ℤ} (hs : 0 ≤ sock) (flag : Bool) {io : Io} {cport : U16}
    {hdr : GbOperationMsgHdr} {payload rest : List U8}
    (hsize : hdr.size.toNat = payload.length + 8)
    (hrx : streamBytes (io.rx sock) = greybusFrame cport hdr payload ++ rest)
    (halloc : env.heapAlloc io.heapCalls (8 + payload.length) = true) :
    ∃ msg rx', msg.header.fields = hdr.fields ∧ msg.payload = payload ∧
      streamBytes rx' = rest ∧
      Ends (gbMessageReceive env sock flag) io (some (cport, msg), flag)
        (((io.readFrom sock rx').afterAlloc [.alloc io.heapCalls]).logged
          [.received sock (.full cport msg)]) := by
  have hlt := hdr.size.isLt
  have hlen : gbHdrPayloadLen hdr = payload.length := gbHdrPayloadLen_of_size hsize
  set msg :=
    freshMessage env io.heapCalls payload.length hdr.type hdr.operationId hdr.result with hmsg
  have hfields : msg.header.fields = hdr.fields := freshMessage_fields env _ hsize
  have hroom : msg.payload.length = payload.length := by simp [hmsg]
  have hframe : greybusFrame cport hdr payload ++ rest =
      greybusFrame cport hdr [] ++ (payload ++ rest) := by
    simp only [greybusFrame, List.append_nil, List.append_assoc]
  rw [hframe] at hrx
  obtain ⟨-, rx₂, hrest₂, -, -, hrun⟩ := gbMessageReceive_run env hs flag hrx
  set io₂ := io.readFrom sock rx₂ with hio₂
  -- the message and its payload
  have hmsgalloc : Ends (gbMessageAlloc env payload.length hdr.type hdr.operationId hdr.result) io₂
      (some msg) (io₂.afterAlloc [.alloc io.heapCalls]) :=
    Ends.gbMessageAlloc env _ _ _ (by omega) halloc
  have hrx₂ : streamBytes ((io₂.afterAlloc [.alloc io.heapCalls]).rx sock) = payload ++ rest := by
    rw [← hrest₂, hio₂]
    simp [Io.afterAlloc]
  have hsized : msg.Sized := by
    rw [GbMessage.Sized, (Prod.mk.inj hfields).1, hsize, hroom]
  obtain ⟨rx₃, hrest₃, hread₃⟩ := receivePayload_full hs flag cport hsized hroom.symm hrx₂
  refine ⟨{ msg with payload := payload }, rx₃, hfields, rfl, hrest₃, hrun.trans ?_⟩
  rw [receiveMessage, hlen]
  refine hmsgalloc.bind ?_
  dsimp only
  convert hread₃ using 1
  simp [hio₂, Io.logged, Io.afterAlloc, Io.readFrom]

end Cc1352Greybus
