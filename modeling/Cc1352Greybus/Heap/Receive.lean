import Cc1352Greybus.Heap.Tidy

/-!
Receiving a message from a node, as far as the message heap and the stream are
concerned.

* `gbMessageReceive_tidy`: a receive holds a block for the message it returns,
  which the stream starts with, and none otherwise.
* `gbMessageReceive_awaits`: a receive that does not wait for its header may well
  return nothing.
-/

namespace Cc1352Greybus

open Effects

variable {cfg : Config}

/-! ### Bytes and fields -/

/-- Two bytes are a field. -/
lemma le16_ofLe16 (l h : U8) : le16 (ofLe16 l h) = [l, h] := by
  have hl : (ofLe16 l h).setWidth 8 = l := by
    refine BitVec.eq_of_getLsbD_eq fun i hi => ?_
    interval_cases i <;> simp [ofLe16]
  have hh : (ofLe16 l h >>> 8).setWidth 8 = h := by
    refine BitVec.eq_of_getLsbD_eq fun i hi => ?_
    interval_cases i <;> simp [ofLe16]
  rw [le16, hl, hh]

lemma le16_getD {bs : List U8} (h : bs.length = 2) :
    le16 (ofLe16 (bs.getD 0 0) (bs.getD 1 0)) = bs := by
  match bs, h with
  | [a, b], _ => exact le16_ofLe16 a b

/-- Eight bytes are a header. -/
lemma bytes_ofBytes {bs : List U8} (h : bs.length = 8) :
    (GbOperationMsgHdr.ofBytes bs).bytes = bs := by
  match bs, h with
  | [a, b, c, d, e, f, g, i], _ => simp [GbOperationMsgHdr.bytes, GbOperationMsgHdr.ofBytes,
      le16_ofLe16]

/-! ### What a read leaves of the stream -/

/-- The devices, but for what the sockets have yet to deliver, are as before. -/
def OnlyReads (io io' : Io) : Prop := ∃ rx, io' = { io with rx := rx }

lemma OnlyReads.tidy {io io' : Io} (h : OnlyReads io io') : Tidy io io' := by
  obtain ⟨rx, rfl⟩ := h
  exact .of_same rfl rfl

lemma OnlyReads.trans {a b c : Io} (h : OnlyReads a b) (h' : OnlyReads b c) : OnlyReads a c := by
  obtain ⟨rx, rfl⟩ := h
  obtain ⟨rx', rfl⟩ := h'
  exact ⟨rx', rfl⟩

lemma OnlyReads.heapCalls {io io' : Io} (h : OnlyReads io io') : io'.heapCalls = io.heapCalls := by
  obtain ⟨rx, rfl⟩ := h
  rfl

lemma OnlyReads.afterAlloc {io io' : Io} (h : OnlyReads io io') (tr : List Event) :
    OnlyReads (io.afterAlloc tr) (io'.afterAlloc tr) := by
  obtain ⟨rx, rfl⟩ := h
  exact ⟨rx, rfl⟩

lemma OnlyReads.refl (io : Io) : OnlyReads io io := ⟨io.rx, rfl⟩

/-- What comes after the bytes of a stream. -/
def streamEnd : List RxChunk → List RxChunk
  | .data _ _ :: rest => streamEnd rest
  | rx => rx

lemma streamEnd_leftover (bs : List U8) (rest : List RxChunk) :
    streamEnd (leftover bs rest) = streamEnd rest := by
  cases bs with
  | nil => rfl
  | cons b bs => rfl

/-- A stream with no bytes before its end is at it. -/
lemma streamEnd_of_nil {rx : List RxChunk} (h : streamBytes rx = []) : streamEnd rx = rx := by
  cases rx with
  | nil => rfl
  | cons chunk rest =>
      cases chunk with
      | data b bs => simp [streamBytes] at h
      | closed => rfl
      | error => rfl

/-- The stream fails once its bytes are taken. -/
def StreamFails (rx : List RxChunk) : Prop := ∃ rest, streamEnd rx = .error :: rest

/-- A `zsock_recv` that returns bytes takes them off the stream. -/
lemma zsockRecv_stream {sock : ℤ} {len : ℕ} {io io' : Io} {r : ℤ × List U8}
    (h : Ends (zsockRecv sock len) io r io') :
    OnlyReads io io' ∧ (0 < r.1 → 0 ≤ sock ∧ r.1 = r.2.length ∧ r.2.length ≤ len ∧
      streamBytes (io.rx sock) = r.2 ++ streamBytes (io'.rx sock) ∧
      streamEnd (io'.rx sock) = streamEnd (io.rx sock)) := by
  rcases ends_zsockRecv.mp h with ⟨-, rfl, rfl⟩ | ⟨hs, left, hrecvs, rfl⟩
  · exact ⟨.refl io', fun h => absurd h (by decide)⟩
  refine ⟨⟨_, rfl⟩, fun hpos => ⟨hs, ?_⟩⟩
  rw [Io.readFrom_rx]
  generalize io.rx sock = rx at hrecvs
  cases hrecvs with
  | data b bs rest =>
      refine ⟨rfl, List.length_take_le _ _, ?_, ?_⟩
      · rw [streamBytes_leftover, streamBytes, ← List.append_assoc, List.take_append_drop]
      · rw [streamEnd_leftover, streamEnd]
  | closed rest => exact absurd hpos (lt_irrefl 0)
  | error rest => exact absurd hpos (by decide)

/-- One that does not has the end of the stream before it. -/
lemma zsockRecv_over {sock : ℤ} (hs : 0 ≤ sock) {len : ℕ} (hlen : len ≠ 0) {io io' : Io}
    {r : ℤ × List U8} (h : Ends (zsockRecv sock len) io r io') (hr : r.1 ≤ 0) :
    (r.1 = 0 ∨ r.1 = -1 ∧ StreamFails (io.rx sock)) ∧ streamBytes (io.rx sock) = [] := by
  rcases ends_zsockRecv.mp h with ⟨hneg, -⟩ | ⟨-, left, hrecvs, -⟩
  · exact absurd hs (not_le.mpr hneg)
  generalize io.rx sock = rx at hrecvs
  cases hrecvs with
  | data b bs rest =>
      simp only [List.length_take, List.length_cons] at hr
      omega
  | closed rest => exact ⟨Or.inl rfl, rfl⟩
  | error => exact ⟨Or.inr ⟨rfl, left, rfl⟩, rfl⟩

/-- The loop of `read_data`, when it has read all it was to. -/
lemma readDataLoop_stream {sock : ℤ} {room rounds left : ℕ} {received : List U8} {io io' : Io}
    {r : ℤ × List U8} (hr : left ≤ rounds)
    (h : Ends (readDataLoop sock room rounds left received) io r io') :
    OnlyReads io io' ∧ (r.1 = (received.length + left : ℕ) → (left ≠ 0 → 0 ≤ sock) ∧
      ∃ bs, bs.length = left ∧ r.2 = received ++ bs ∧
        streamBytes (io.rx sock) = bs ++ streamBytes (io'.rx sock) ∧
        streamEnd (io'.rx sock) = streamEnd (io.rx sock)) := by
  have hdone : ∀ {left : ℕ} {received : List U8} {io io' : Io}, left = 0 →
      Ends (pure ((received.length : ℤ), received) : IoM (ℤ × List U8)) io r io' →
      OnlyReads io io' ∧ (r.1 = (received.length + left : ℕ) → (left ≠ 0 → 0 ≤ sock) ∧
        ∃ bs, bs.length = left ∧ r.2 = received ++ bs ∧
          streamBytes (io.rx sock) = bs ++ streamBytes (io'.rx sock) ∧
          streamEnd (io'.rx sock) = streamEnd (io.rx sock)) := by
    intro left received io io' h0 h
    obtain ⟨rfl, rfl⟩ := ends_pure.mp h
    exact ⟨.refl io, fun _ => ⟨fun hne => absurd h0 hne, [], by simp [h0], by simp, rfl, rfl⟩⟩
  induction rounds generalizing left received io with
  | zero => exact hdone (by omega) h
  | succ rounds ih =>
      rw [readDataLoop] at h
      split_ifs at h with h0
      · exact hdone h0 h
      · obtain ⟨c, io₁, h₁, h⟩ := ends_bind.mp h
        obtain ⟨honly, hstream⟩ := zsockRecv_stream h₁
        split_ifs at h with hc
        · obtain ⟨rfl, rfl⟩ := ends_pure.mp h
          exact ⟨honly, fun heq => by omega⟩
        · exact (ends_throw.mp h).elim
        -- the chunk that came, and the rest by induction
        · obtain ⟨hs, hlen, hle, hsplit, hend⟩ := hstream (not_le.mp hc)
          obtain ⟨honly', hrest⟩ := ih (by omega) h
          refine ⟨honly.trans honly', fun heq => ⟨fun _ => hs, ?_⟩⟩
          obtain ⟨-, bs, hbs, hr, hsplit', hend'⟩ :=
            hrest (by rw [heq, List.length_append]; omega)
          refine ⟨c.2 ++ bs, by rw [List.length_append]; omega, by rw [hr, List.append_assoc], ?_,
            hend'.trans hend⟩
          rw [hsplit, hsplit', List.append_assoc]

/-- A `read_data` that returns the length it was asked for. -/
lemma readData_stream {sock : ℤ} {room len : ℕ} {io io' : Io} {r : ℤ × List U8}
    (h : Ends (readData sock room len) io r io') :
    OnlyReads io io' ∧ (r.1 = len → (len ≠ 0 → 0 ≤ sock) ∧ r.2.length = len ∧
      streamBytes (io.rx sock) = r.2 ++ streamBytes (io'.rx sock) ∧
      streamEnd (io'.rx sock) = streamEnd (io.rx sock)) := by
  obtain ⟨honly, hdone⟩ := readDataLoop_stream le_rfl h
  refine ⟨honly, fun hr => ?_⟩
  obtain ⟨hs, bs, hlen, hbs, hsplit⟩ := hdone (by simpa using hr)
  rw [List.nil_append] at hbs
  rw [hbs]
  exact ⟨hs, hlen, hsplit⟩

/-- One to a place with no room is over before a byte comes. -/
lemma readData_noRoom {sock : ℤ} (hs : 0 ≤ sock) {len : ℕ} (hlen : len ≠ 0) {io io' : Io}
    {r : ℤ × List U8} (h : Ends (readData sock 0 len) io r io') :
    (r.1 = 0 ∨ r.1 = -1 ∧ StreamFails (io.rx sock)) ∧ r.2 = [] ∧
      streamBytes (io.rx sock) = [] := by
  obtain ⟨rounds, rfl⟩ := Nat.exists_eq_succ_of_ne_zero hlen
  rw [readData, readDataLoop, if_neg hlen] at h
  obtain ⟨c, io₁, h₁, h⟩ := ends_bind.mp h
  split_ifs at h with hc hroom
  · obtain ⟨rfl, rfl⟩ := ends_pure.mp h
    obtain ⟨hret, hstream⟩ := zsockRecv_over hs hlen h₁ hc
    exact ⟨hret, rfl, hstream⟩
  · exact (ends_throw.mp h).elim
  · have hcount := ((zsockRecv_stream h₁).2 (not_le.mp hc)).2.1
    rw [List.length_nil] at hroom
    omega

/-- A read comes short with a zero or an error, or is whole. -/
lemma readDataLoop_ret {sock : ℤ} {room rounds left : ℕ} {received : List U8} {io io' : Io}
    {r : ℤ × List U8} (hr : left ≤ rounds)
    (h : Ends (readDataLoop sock room rounds left received) io r io') :
    r.1 = 0 ∨ r.1 = -1 ∨ r.1 = (received.length + left : ℕ) := by
  induction rounds generalizing left received io with
  | zero =>
      obtain ⟨rfl, rfl⟩ := ends_pure.mp h
      exact Or.inr (Or.inr (by rw [Nat.le_zero.mp hr, Nat.add_zero]))
  | succ rounds ih =>
      rw [readDataLoop] at h
      split_ifs at h with h0
      · obtain ⟨rfl, rfl⟩ := ends_pure.mp h
        exact Or.inr (Or.inr (by rw [h0, Nat.add_zero]))
      obtain ⟨c, io₁, h₁, h⟩ := ends_bind.mp h
      split_ifs at h with hc hroom
      · obtain ⟨rfl, rfl⟩ := ends_pure.mp h
        rcases lt_or_ge sock 0 with hs | hs
        · rw [zsockRecv, if_pos hs] at h₁
          obtain ⟨rfl, rfl⟩ := ends_pure.mp h₁
          exact Or.inr (Or.inl rfl)
        · exact (zsockRecv_over hs h0 h₁ hc).1.imp id fun hfail => Or.inl hfail.1
      · exact (ends_throw.mp h).elim
      · have hcount := (zsockRecv_stream h₁).2 (not_le.mp hc)
        refine (ih (by omega) h).imp id (Or.imp id fun hwhole => ?_)
        rw [hwhole, List.length_append]
        omega

lemma readData_ret {sock : ℤ} {room len : ℕ} {io io' : Io} {r : ℤ × List U8}
    (h : Ends (readData sock room len) io r io') : r.1 = 0 ∨ r.1 = -1 ∨ r.1 = len := by
  simpa [readData] using readDataLoop_ret le_rfl h

/-- Where a header speaks of a payload, no failed read compares to its length. -/
lemma readData_all {sock : ℤ} {room : ℕ} {hdr : GbOperationMsgHdr} (h8 : 8 ≤ hdr.size.toNat)
    {io io' : Io} {r : ℤ × List U8} (h : Ends (readData sock room (gbHdrPayloadLen hdr)) io r io')
    (hr : r.1 % 2 ^ 32 = gbHdrPayloadLen hdr) : r.1 = gbHdrPayloadLen hdr := by
  have hlt := hdr.size.isLt
  have hlen : gbHdrPayloadLen hdr = hdr.size.toNat - 8 := gbHdrPayloadLen_of_size (by omega)
  rcases readData_ret h with hret | hret | hret
  · rw [hret] at hr ⊢
    omega
  · rw [hret] at hr
    omega
  · exact hret

/-- So what is taken for whole fills the block. -/
lemma le_length_of_readData {sock : ℤ} {hdr : GbOperationMsgHdr} {io io' : Io} {r : ℤ × List U8}
    (h : Ends (readData sock (hdr.size.toNat - 8) (gbHdrPayloadLen hdr)) io r io')
    (hr : r.1 % 2 ^ 32 = gbHdrPayloadLen hdr) : hdr.size.toNat - 8 ≤ r.2.length := by
  rcases lt_or_ge hdr.size.toNat 8 with h8 | h8
  · omega
  · have hlen := ((readData_stream h).2 (readData_all h8 h hr)).2.1
    rw [hlen, gbHdrPayloadLen_of_size (Nat.sub_add_cancel h8).symm]

/-! ### What a receive does to the heap -/

variable (env : Env)

/-- A whole message has come in: the stream starts with it. -/
structure WholeMessage (stream : List U8) (cport : U16) (hdr : GbOperationMsgHdr)
    (payload rest : List U8) :
    Prop where
  size : hdr.size.toNat = payload.length + 8
  split : stream = greybusFrame cport hdr payload ++ rest

/-- A header with the size 7 is all there is on the stream before it fails. -/
structure CutMessage (rx : List RxChunk) (cport : U16) (hdr : GbOperationMsgHdr) : Prop where
  size : hdr.size.toNat = 7
  split : streamBytes rx = greybusFrame cport hdr []
  fails : StreamFails rx

/-- The message that comes of it: its payload length is what a failed read compares
to, and its block is a byte short of a header. -/
structure GbMessage.Cut (msg : GbMessage) : Prop where
  size : msg.header.size.toNat = 7
  payload : msg.payload = []

lemma GbMessage.Cut.payloadLen {msg : GbMessage} (h : msg.Cut) :
    gbMessagePayloadLen msg = 2 ^ 32 - 1 := by
  rw [gbMessagePayloadLen, gbHdrPayloadLen_of_lt (by rw [h.size]; omega), h.size]

/-- The block does not hold what the header speaks of. -/
lemma GbMessage.Cut.not_holds {msg : GbMessage} (h : msg.Cut) : ¬ msg.Holds := by
  rw [GbMessage.Holds, h.payloadLen, h.payload]
  decide

lemma CutMessage.cut {rx : List RxChunk} {cport : U16} {hdr : GbOperationMsgHdr}
    (h : CutMessage rx cport hdr) {msg : GbMessage} (hmsg : msg.header.fields = hdr.fields)
    (hnil : msg.payload = []) : msg.Cut :=
  ⟨by rw [(Prod.mk.inj hmsg).1, h.size], hnil⟩

variable {sock : ℤ} {flag : Bool} {io io' : Io} {r : Option (U16 × GbMessage) × Bool}

lemma shortRead_tidy {ret : ℤ} (h : Ends (shortRead sock ret) io r io') :
    r.1 = none ∧ Tidy io io' := by
  rw [shortRead, (Ends.emit _ io).bind_iff] at h
  obtain ⟨rfl, rfl⟩ := ends_pure.mp h
  exact ⟨rfl, .logged _ (by simp [Quiet, Event.isHeap])⟩

/-- A payload that is read into the block of its header comes in whole, or the message
is given back, or it is of size 7 and the stream fails. -/
lemma receivePayload_tidy {cport : U16} {hdr : GbOperationMsgHdr} {blk : ℕ} (hs : 0 ≤ sock)
    (h6 : 6 ≤ hdr.size.toNat)
    (h : Ends (receivePayload sock flag cport (hdrMessage env hdr blk)) io r io') :
    r.1 = none ∧ (∃ io₁, OnlyReads io io₁ ∧ Tidy (io₁.logged [.dealloc blk]) io') ∨
      ∃ payload, r = (some (cport, { hdrMessage env hdr blk with payload := payload }), flag) ∧
        Tidy io io' ∧
        (hdr.size.toNat = payload.length + 8 ∧
            streamBytes (io.rx sock) = payload ++ streamBytes (io'.rx sock) ∨
          hdr.size.toNat = 7 ∧ payload = [] ∧ streamBytes (io.rx sock) = [] ∧
            StreamFails (io.rx sock)) := by
  have hlt := hdr.size.isLt
  rw [receivePayload, hdrMessage_payloadLen, hdrMessage_payload_length] at h
  obtain ⟨p, io₁, h₁, h⟩ := ends_bind.mp h
  obtain ⟨honly, hread⟩ := readData_stream h₁
  rcases ends_ite.mp h with ⟨-, h⟩ | ⟨hp, h⟩
  · rw [gbMessageDealloc, (Ends.emit _ _).bind_iff] at h
    obtain ⟨hnone, htidy⟩ := shortRead_tidy h
    exact Or.inl ⟨hnone, io₁, honly, htidy⟩
  rw [(Ends.emit _ _).bind_iff] at h
  obtain ⟨rfl, rfl⟩ := ends_pure.mp h
  have htidy : ∀ e : Event, e.isHeap = false → Tidy io (io₁.logged [e]) :=
    fun e he => honly.tidy.trans (.logged _ (by simpa [Quiet] using he))
  rcases lt_or_ge hdr.size.toNat 8 with hsmall | hlarge
  · -- nothing fits behind the fields, and what was read compares to 2³² - 1
    have hlen := gbHdrPayloadLen_of_lt hsmall
    rw [show hdr.size.toNat - 8 = 0 by omega] at h₁
    obtain ⟨hret, hnil, hstream⟩ := readData_noRoom hs (by rw [hlen]; omega) h₁
    rw [hlen, not_not] at hp
    have hfails : hdr.size.toNat = 7 ∧ StreamFails (io.rx sock) := by
      rcases hret with hret | ⟨hret, hfails⟩
      · rw [hret] at hp
        omega
      · rw [hret] at hp
        exact ⟨by omega, hfails⟩
    refine Or.inr ⟨[], ?_, htidy _ rfl, Or.inr ⟨hfails.1, rfl, hstream, hfails.2⟩⟩
    · rw [hnil, List.nil_append, List.length_nil, List.drop_zero,
        List.eq_nil_of_length_eq_zero
          (show (hdrMessage env hdr blk).payload.length = 0 by simp; omega)]
  · have hlen : gbHdrPayloadLen hdr = hdr.size.toNat - 8 :=
      gbHdrPayloadLen_of_size (by omega)
    rw [hlen, not_not] at hp
    have hret := readData_all hlarge h₁ (by rw [hp, hlen])
    obtain ⟨-, hplen, hsplit, -⟩ := hread hret
    refine Or.inr ⟨p.2, ?_, htidy _ rfl, Or.inl ⟨by omega, hsplit⟩⟩
    rw [List.drop_eq_nil_of_le (by rw [hdrMessage_payload_length]; omega), List.append_nil]

/-- **A receive** gives back what it allocates, but for the message it returns, if
it returns one. -/
theorem gbMessageReceive_tidy (h : Ends (gbMessageReceive env sock flag) io r io') :
    r.1 = none ∧ Tidy io io' ∨
      ∃ cport msg hdr, r = (some (cport, msg), flag) ∧ msg.blk = io.heapCalls ∧
        msg.header.fields = hdr.fields ∧ 0 ≤ sock ∧
        (WholeMessage (streamBytes (io.rx sock)) cport hdr msg.payload
            (streamBytes (io'.rx sock)) ∨
          msg.payload = [] ∧ CutMessage (io.rx sock) cport hdr) ∧
        Tidy (io.afterAlloc [.alloc io.heapCalls]) io' := by
  rw [gbMessageReceive] at h
  obtain ⟨c, io₁, h₁, h⟩ := ends_bind.mp h
  obtain ⟨honly₁, hread₁⟩ := readData_stream h₁
  rcases ends_ite.mp h with ⟨-, h⟩ | ⟨hc, h⟩
  · exact Or.inl ((shortRead_tidy h).imp id honly₁.tidy.trans)
  obtain ⟨hd, io₂, h₂, h⟩ := ends_bind.mp h
  obtain ⟨honly₂, hread₂⟩ := readData_stream h₂
  have honly := honly₁.trans honly₂
  rcases ends_ite.mp h with ⟨-, h⟩ | ⟨hh, h⟩
  · exact Or.inl ((shortRead_tidy h).imp id honly.tidy.trans)
  obtain ⟨hs, hclen, hcsplit, hcend⟩ := hread₁ (not_not.mp hc)
  obtain ⟨-, hhlen, hhsplit, hhend⟩ := hread₂ (not_not.mp hh)
  obtain ⟨msg, io₃, h₃, h⟩ := ends_bind.mp h
  rcases gbMessageAlloc_hdr_ends env h₃ with ⟨rfl, rfl⟩ | ⟨h6, -, rfl, rfl⟩
  · dsimp only at h
    rw [(Ends.emit _ _).bind_iff] at h
    obtain ⟨rfl, rfl⟩ := ends_pure.mp h
    exact Or.inl ⟨rfl, (honly.tidy.trans (.refused _)).trans
      (.logged _ (by simp [Quiet, Event.isHeap]))⟩
  -- the header is in, and a block for its message
  have hframe : streamBytes (io.rx sock) =
      greybusFrame (ofLe16 (c.2.getD 0 0) (c.2.getD 1 0)) (GbOperationMsgHdr.ofBytes hd.2) [] ++
        streamBytes (io₂.rx sock) := by
    rw [greybusFrame, le16_getD hclen, bytes_ofBytes hhlen, hcsplit, hhsplit]
    simp only [List.append_assoc, List.nil_append]
  rcases receivePayload_tidy env (hs two_ne_zero) h6 h with
    ⟨hnone, io₄, hio₄, htidy⟩ | ⟨payload, rfl, htidy, hpayload⟩
  · have hback : Tidy io₂ (io₄.logged [.dealloc io₂.heapCalls]) := .wrap hio₄.tidy rfl rfl
    exact Or.inl ⟨hnone, honly.tidy.trans (hback.trans htidy)⟩
  refine Or.inr ⟨_, _, GbOperationMsgHdr.ofBytes hd.2, rfl, honly.heapCalls, hdrMessage_fields _,
    hs two_ne_zero, ?_, ?_⟩
  · rcases hpayload with ⟨hsize, hsplit⟩ | ⟨hsize, hnil, hover, hfails⟩
    · refine Or.inl ⟨hsize, ?_⟩
      rw [hframe, show streamBytes (io₂.rx sock) = payload ++ streamBytes (io'.rx sock) from hsplit]
      simp only [greybusFrame, List.append_assoc, List.nil_append]
    · refine Or.inr ⟨hnil, hsize, ?_, ?_⟩
      · rw [hframe, show streamBytes (io₂.rx sock) = [] from hover, List.append_nil]
      · rwa [StreamFails, ← hcend, ← hhend]
  · rw [← honly.heapCalls]
    exact (honly.afterAlloc _).tidy.trans htidy

/-! ### A receive that comes to its end -/

/-- A stream that ends or fails. -/
def StreamOver : List RxChunk → Prop
  | [] => False
  | .data _ _ :: rest => StreamOver rest
  | .closed :: _ => True
  | .error :: _ => True

lemma streamOver_leftover {bs : List U8} {rest : List RxChunk} :
    StreamOver (leftover bs rest) ↔ StreamOver rest := by
  cases bs with
  | nil => rfl
  | cons b bs => rfl

/-- The next `n` bytes of a socket are read without a wait for more: they are
there, or will not be. -/
def Awaits (io : Io) (sock : ℤ) (n : ℕ) : Prop :=
  sock < 0 ∨ n ≤ (streamBytes (io.rx sock)).length ∨ StreamOver (io.rx sock)

lemma Awaits.le {io : Io} {sock : ℤ} {m n : ℕ} (h : Awaits io sock n) (hle : m ≤ n) :
    Awaits io sock m :=
  h.imp id (Or.imp hle.trans id)

/-- A read that ends has not waited: what it leaves to come, with the bytes it took,
or the end of the stream. -/
lemma awaits_of_zsockRecv {sock : ℤ} {len : ℕ} {io io' : Io} {r : ℤ × List U8} (hlen : 0 < len)
    (h : Ends (zsockRecv sock len) io r io') :
    (r.1 ≤ 0 → ∀ n, Awaits io sock n) ∧
      (0 < r.1 → ∀ n, Awaits io' sock n → Awaits io sock (r.2.length + n)) := by
  have hover : sock < 0 ∨ StreamOver (io.rx sock) → ∀ n, Awaits io sock n :=
    fun h n => h.imp id Or.inr
  rcases ends_zsockRecv.mp h with ⟨hs, -⟩ | ⟨hs, left, hrecvs, rfl⟩
  · exact ⟨fun _ => hover (Or.inl hs), fun _ _ _ => hover (Or.inl hs) _⟩
  have hneg : ¬ sock < 0 := not_lt.mpr hs
  simp only [Awaits, Io.readFrom_rx, or_iff_right hneg] at hover ⊢
  generalize io.rx sock = rx at hrecvs hover
  cases hrecvs with
  | data b bs rest =>
      refine ⟨fun hr => ?_, fun _ n hn => ?_⟩
      · simp only [List.length_take, List.length_cons] at hr
        omega
      · rw [streamOver_leftover, streamBytes_leftover] at hn
        rw [streamBytes]
        refine hn.imp (fun hn => ?_) id
        simp only [List.length_append, List.length_drop, List.length_take] at hn ⊢
        omega
  | closed rest => exact ⟨fun _ => hover trivial, fun _ _ _ => hover trivial _⟩
  | error rest => exact ⟨fun _ => hover trivial, fun _ _ _ => hover trivial _⟩

lemma awaits_of_readDataLoop {sock : ℤ} {room rounds left : ℕ} {received : List U8} {io io' : Io}
    {r : ℤ × List U8} (hr : left ≤ rounds)
    (h : Ends (readDataLoop sock room rounds left received) io r io') :
    (∀ n, Awaits io sock n) ∨
      r.1 = (received.length + left : ℕ) ∧ ∀ n, Awaits io' sock n → Awaits io sock (left + n) := by
  induction rounds generalizing left received io with
  | zero =>
      obtain rfl : left = 0 := by omega
      obtain ⟨rfl, rfl⟩ := ends_pure.mp h
      exact Or.inr ⟨rfl, fun n hn => by rwa [Nat.zero_add]⟩
  | succ rounds ih =>
      rw [readDataLoop] at h
      split_ifs at h with h0
      · subst h0
        obtain ⟨rfl, rfl⟩ := ends_pure.mp h
        exact Or.inr ⟨rfl, fun n hn => by rwa [Nat.zero_add]⟩
      · obtain ⟨c, io₁, h₁, h⟩ := ends_bind.mp h
        obtain ⟨hend, hnext⟩ := awaits_of_zsockRecv (Nat.pos_of_ne_zero h0) h₁
        split_ifs at h with hc
        · exact Or.inl (hend hc)
        · exact (ends_throw.mp h).elim
        · obtain ⟨-, hclen, hle, -⟩ := (zsockRecv_stream h₁).2 (not_le.mp hc)
          rcases ih (by omega) h with hall | ⟨hrest, hawait⟩
          · refine Or.inl fun n => ?_
            exact (hnext (not_le.mp hc) n (hall n)).le (Nat.le_add_left n _)
          · refine Or.inr ⟨by rw [hrest, List.length_append]; omega, fun n hn => ?_⟩
            have hn' := hnext (not_le.mp hc) _ (hawait n hn)
            rwa [show c.2.length + (left - c.2.length + n) = left + n by omega] at hn'

lemma awaits_of_readData {sock : ℤ} {room len : ℕ} {io io' : Io} {r : ℤ × List U8}
    (h : Ends (readData sock room len) io r io') : (∀ n, Awaits io sock n) ∨
      r.1 = len ∧ ∀ n, Awaits io' sock n → Awaits io sock (len + n) := by
  simpa [readData] using awaits_of_readDataLoop le_rfl h

/-- **A receive** that ends has not waited for the header. -/
theorem awaits_of_gbMessageReceive {sock : ℤ} {flag : Bool} {io io' : Io}
    {r : Option (U16 × GbMessage) × Bool} (h : Ends (gbMessageReceive env sock flag) io r io') :
    Awaits io sock 10 := by
  rw [gbMessageReceive] at h
  obtain ⟨c, io₁, h₁, h⟩ := ends_bind.mp h
  rcases awaits_of_readData h₁ with hall | ⟨hc, hnext₁⟩
  · exact hall _
  rw [if_neg (not_not.mpr (show c.1 = 2 from hc))] at h
  obtain ⟨hd, io₂, h₂, -⟩ := ends_bind.mp h
  refine hnext₁ 8 ?_
  rcases awaits_of_readData h₂ with hall | ⟨-, hnext₂⟩
  · exact hall _
  · exact hnext₂ 0 (Or.inr (Or.inl (Nat.zero_le _)))

lemma zsockRecv_awaits {sock : ℤ} (len : ℕ) {n : ℕ} {io : Io} (hn : 0 < n) (h : Awaits io sock n) :
    ∃ r io', Ends (zsockRecv sock len) io r io' ∧ (0 < r.1 → Awaits io' sock (n - r.2.length)) := by
  by_cases hs : sock < 0
  · exact ⟨_, io, ends_zsockRecv.mpr (Or.inl ⟨hs, rfl, rfl⟩), fun _ => Or.inl hs⟩
  rw [Awaits, or_iff_right hs] at h
  -- there is a chunk, or else it would wait
  obtain ⟨r, left, hrecvs, hleft⟩ : ∃ r left, Recvs len (io.rx sock) r left ∧
      (0 < r.1 → n - r.2.length ≤ (streamBytes left).length ∨ StreamOver left) := by
    cases hrx : io.rx sock with
    | nil =>
        rw [hrx] at h
        rcases h with h | h
        · exact absurd h (by simpa [streamBytes] using hn.ne')
        · exact h.elim
    | cons chunk rest =>
        cases chunk with
        | data b bs =>
            refine ⟨_, _, .data b bs rest, fun _ => ?_⟩
            rw [streamBytes_leftover, streamOver_leftover]
            rw [hrx, streamBytes] at h
            -- what is still to come is short by what has been read
            refine h.imp (fun h => ?_) id
            simp only [List.length_append, List.length_cons, List.length_drop,
              List.length_take] at h ⊢
            omega
        | closed => exact ⟨_, _, .closed rest, fun h => absurd h (lt_irrefl 0)⟩
        | error => exact ⟨_, _, .error rest, fun h => absurd h (by decide)⟩
  refine ⟨r, _, ends_zsockRecv.mpr (Or.inr ⟨not_lt.mp hs, left, hrecvs, rfl⟩), fun hr => ?_⟩
  rw [Awaits, Io.readFrom_rx]
  exact Or.inr (hleft hr)

lemma readDataLoop_awaits {sock : ℤ} {room rounds left n : ℕ} (received : List U8) {io : Io}
    (hroom : received.length + left ≤ room) (hr : left ≤ rounds) (hn : left ≤ n)
    (h : Awaits io sock n) :
    ∃ r io', Ends (readDataLoop sock room rounds left received) io r io' ∧
      (r.1 = (received.length + left : ℕ) → Awaits io' sock (n - left)) := by
  induction rounds generalizing left n received io with
  | zero =>
      obtain rfl : left = 0 := by omega
      exact ⟨_, io, Ends.pure _ _, fun _ => h⟩
  | succ rounds ih =>
      rw [readDataLoop]
      by_cases h0 : left = 0
      · subst h0
        exact ⟨_, io, by rw [if_pos rfl]; exact Ends.pure _ _, fun _ => h⟩
      · rw [if_neg h0]
        obtain ⟨c, io₁, h₁, hnext⟩ := zsockRecv_awaits left (by omega) h
        obtain ⟨-, hstream⟩ := zsockRecv_stream h₁
        by_cases hc : c.1 ≤ 0
        · refine ⟨_, io₁, h₁.bind (by rw [if_pos hc]; exact Ends.pure _ _), fun heq => ?_⟩
          dsimp only at heq
          omega
        · obtain ⟨-, hclen, hle, -⟩ := hstream (not_le.mp hc)
          obtain ⟨r, io', hend, hrest⟩ := ih (received ++ c.2)
            (show _ + (left - c.2.length) ≤ room by rw [List.length_append]; omega) (by omega)
            (by omega) (hnext (not_le.mp hc))
          refine ⟨r, io', h₁.bind (by rw [if_neg hc, if_neg (by omega)]; exact hend),
            fun heq => ?_⟩
          have hdone := hrest (by rw [heq, List.length_append]; omega)
          rwa [show n - c.2.length - (left - c.2.length) = n - left by omega] at hdone

lemma readData_awaits {sock : ℤ} {len n : ℕ} {io : Io} (hn : len ≤ n) (h : Awaits io sock n) :
    ∃ r io', Ends (readData sock len len) io r io' ∧ (r.1 = len → Awaits io' sock (n - len)) := by
  obtain ⟨r, io', hend, hrest⟩ :=
    readDataLoop_awaits [] (show ([] : List U8).length + len ≤ len by simp) le_rfl hn h
  exact ⟨r, io', hend, fun hr => hrest (by simpa using hr)⟩

/-- **A receive** that does not wait for more of the header may return nothing: the
header does not come, or there is no block for the message. -/
theorem gbMessageReceive_awaits {sock : ℤ} {io : Io} (flag : Bool) (h : Awaits io sock 10) :
    ∃ env b io', (∀ size, env.heapAlloc io'.heapCalls size = true) ∧
      Ends (gbMessageReceive env sock flag) io (none, b) io' := by
  have hshort : ∀ (ret : ℤ) (io : Io), ∃ b io', Ends (shortRead sock ret) io (none, b) io' :=
    fun ret io => ⟨_, _, (Ends.emit _ io).bind (Ends.pure _ _)⟩
  obtain ⟨c, io₁, h₁, hnext₁⟩ := readData_awaits (show 2 ≤ 10 by omega) h
  by_cases hc : c.1 = 2
  swap
  · obtain ⟨b, io', hend⟩ := hshort c.1 io₁
    refine ⟨calmEnv, b, io', fun _ => rfl, h₁.bind ?_⟩
    rw [if_pos hc]
    exact hend
  obtain ⟨hd, io₂, h₂, -⟩ := readData_awaits (show 8 ≤ 10 - 2 by omega) (hnext₁ hc)
  by_cases hh : hd.1 = 8
  swap
  · obtain ⟨b, io', hend⟩ := hshort hd.1 io₂
    refine ⟨calmEnv, b, io', fun _ => rfl, h₁.bind ?_⟩
    rw [if_neg (not_not.mpr hc)]
    refine h₂.bind ?_
    rw [if_pos hh]
    exact hend
  -- the allocation that comes next is refused, and no other
  let env : Env := { calmEnv with heapAlloc := fun n _ => n ≠ io₂.heapCalls }
  have hblock : ∀ size, Ends (kHeapAlloc env size) io₂ none (io₂.afterAlloc []) := by
    intro size
    rw [kHeapAlloc, ends_modifyGet, if_neg (by simp [env])]
    exact ⟨rfl, by simp [Io.afterAlloc]⟩
  have hrefused : ∀ len type operationId status,
      Ends (gbMessageAlloc env len type operationId status) io₂ none (io₂.afterAlloc []) := by
    intro len type operationId status
    rw [gbMessageAlloc]
    exact (hblock _).bind (Ends.pure _ _)
  refine ⟨env, flag, (io₂.afterAlloc []).logged [.received sock .noMemory], fun _ => ?_, ?_⟩
  · simp [env, Io.afterAlloc, Io.logged]
  rw [gbMessageReceive]
  refine h₁.bind ?_
  rw [if_neg (not_not.mpr hc)]
  refine h₂.bind ?_
  rw [if_neg (not_not.mpr hh)]
  refine (hrefused _ _ _ _).bind ?_
  exact (Ends.emit _ _).bind (Ends.pure _ _)

/-- A read of a stream that fails takes nothing. -/
lemma readData_fails {sock : ℤ} (hs : 0 ≤ sock) (room : ℕ) {len : ℕ} (hlen : len ≠ 0) {io : Io}
    {rest : List RxChunk} (hrx : io.rx sock = .error :: rest) :
    ∃ io', Ends (readData sock room len) io (-1, []) io' ∧ OnlyReads io io' := by
  obtain ⟨rounds, rfl⟩ := Nat.exists_eq_succ_of_ne_zero hlen
  refine ⟨io.readFrom sock rest, ?_, ⟨_, rfl⟩⟩
  have hrecv : Ends (zsockRecv sock (rounds + 1)) io (-1, []) (io.readFrom sock rest) := by
    rw [ends_zsockRecv, hrx]
    exact Or.inr ⟨hs, rest, .error rest, rfl⟩
  rw [readData, readDataLoop, if_neg hlen]
  exact hrecv.bind (Ends.pure _ _)

/-- A failed read counts as whole where the payload length compares to it. -/
lemma receivePayload_cut {sock : ℤ} (hs : 0 ≤ sock) (flag : Bool) (cport : U16) {msg : GbMessage}
    (hcut : msg.Cut) {io : Io} {rest : List RxChunk} (hrx : io.rx sock = .error :: rest) :
    ∃ io', Ends (receivePayload sock flag cport msg) io (some (cport, msg), flag) io' ∧
      Tidy io io' := by
  obtain ⟨io₁, hread, honly⟩ := readData_fails hs 0 (show 2 ^ 32 - 1 ≠ 0 by omega) hrx
  refine ⟨io₁.logged [.received sock (.full cport msg)], ?_,
    honly.tidy.trans (.logged _ (by simp [Quiet, Event.isHeap]))⟩
  have hmsg : { msg with payload := ([] : List U8) ++ ([] : List U8).drop 0 } = msg := by
    rw [List.drop_nil, List.append_nil, ← hcut.payload]
  rw [receivePayload, hcut.payloadLen, hcut.payload, List.length_nil]
  refine hread.bind ?_
  rw [if_neg (by omega)]
  dsimp only
  rw [List.length_nil, hmsg]
  exact (Ends.emit _ _).bind (Ends.pure _ _)

/-- **A cut message** is returned, in a block of seven bytes. -/
theorem gbMessageReceive_cut {env : Env} {sock : ℤ} (hs : 0 ≤ sock) (flag : Bool) {io : Io}
    {cport : U16} {hdr : GbOperationMsgHdr} (hcut : CutMessage (io.rx sock) cport hdr)
    (halloc : env.heapAlloc io.heapCalls 7 = true) :
    ∃ io', Ends (gbMessageReceive env sock flag) io
        (some (cport, hdrMessage env hdr io.heapCalls), flag) io' ∧
      Tidy (io.afterAlloc [.alloc io.heapCalls]) io' := by
  obtain ⟨rx₁, rx₂, hnil, hread₁, hread₂, hrun⟩ :=
    gbMessageReceive_run env hs flag (hcut.split.trans (List.append_nil _).symm)
  have hend : streamEnd rx₂ = streamEnd (io.rx sock) := by
    have h₁ := ((readData_stream hread₁).2 rfl).2.2.2
    have h₂ := ((readData_stream hread₂).2 rfl).2.2.2
    rw [Io.readFrom_rx] at h₁ h₂
    rw [h₂, Io.readFrom_rx, h₁]
  obtain ⟨rest, hfails⟩ := hcut.fails
  set io₂ := io.readFrom sock rx₂ with hio₂
  have hrx : io₂.rx sock = .error :: rest := by
    rw [hio₂, Io.readFrom_rx, ← streamEnd_of_nil hnil, hend, hfails]
  have honly : OnlyReads io io₂ := ⟨_, rfl⟩
  have hgrant : HeapGrants env io₂ hdr.size.toNat := by
    rw [HeapGrants, hcut.size]
    exact ⟨by decide, halloc⟩
  have hpayload : (hdrMessage env hdr io.heapCalls).payload = [] :=
    List.eq_nil_of_length_eq_zero (by rw [hdrMessage_payload_length, hcut.size])
  obtain ⟨io', hrest, htidy⟩ := receivePayload_cut hs flag cport
    (hcut.cut (hdrMessage_fields io.heapCalls) hpayload)
    (show (io₂.afterAlloc [.alloc io.heapCalls]).rx sock = .error :: rest from hrx)
  refine ⟨io', ?_, (honly.afterAlloc _).tidy.trans htidy⟩
  refine hrun.trans ?_
  exact (gbMessageAlloc_hdr_granted hgrant (by rw [hcut.size]; omega)).bind hrest

/-- A receive may return a message for this cport: a whole one is on the stream, or a
cut one. -/
def MayReturn (rx : List RxChunk) (cport : U16) : Prop :=
  (∃ hdr payload rest, WholeMessage (streamBytes rx) cport hdr payload rest) ∨
    ∃ hdr, CutMessage rx cport hdr

/-- It has not waited for the header. -/
lemma MayReturn.awaits {io : Io} {sock : ℤ} {cport : U16} (h : MayReturn (io.rx sock) cport) :
    Awaits io sock 10 := by
  refine Or.inr (Or.inl ?_)
  rcases h with ⟨hdr, payload, rest, hwhole⟩ | ⟨hdr, hcut⟩
  · rw [hwhole.split, List.length_append, greybusFrame_length]
    omega
  · rw [hcut.split, greybusFrame_length]
    omega

/-- With a block for it, a message is returned. -/
lemma MayReturn.receives (env : Env) {sock : ℤ} (hs : 0 ≤ sock) (flag : Bool) {io : Io}
    {cport : U16} (h : MayReturn (io.rx sock) cport)
    (halloc : ∀ size, env.heapAlloc io.heapCalls size = true) :
    ∃ msg io', Ends (gbMessageReceive env sock flag) io (some (cport, msg), flag) io' ∧
      Tidy (io.afterAlloc [.alloc io.heapCalls]) io' := by
  rcases h with ⟨hdr, payload, rest, hwhole⟩ | ⟨hdr, hcut⟩
  · obtain ⟨msg, rx', -, -, -, hend⟩ :=
      gbMessageReceive_full env hs flag hwhole.size hwhole.split (halloc _)
    have honly : OnlyReads io (io.readFrom sock rx') := ⟨_, rfl⟩
    exact ⟨msg, _, hend, (honly.afterAlloc _).tidy.trans
      (.logged _ (by simp [Quiet, Event.isHeap]))⟩
  · obtain ⟨io', hend, htidy⟩ := gbMessageReceive_cut hs flag hcut (halloc _)
    exact ⟨_, io', hend, htidy⟩

end Cc1352Greybus
