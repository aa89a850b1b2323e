import Cc1352Greybus.Heap.Leaks

/-!
What is parsed stays within what was received and what was allocated.

A message is as long as its header says, less the eight bytes of the header. Neither
`hdlc_process_greybus_frame` nor `gb_message_receive` looks whether there are eight:
a smaller size wraps, the block that is asked for is as small as the size, and what
is written to it goes beyond: the fields of a header, or the first byte that comes
after them.

* `parsesFrame_iff`: a frame of the AP is read and copied within its bounds and
  submitted if it is well sized, exactly when the parts of it that are read are
  there and no block smaller than a header is granted for it.
* `receivesBounded_iff`: the same of a node's message, exactly when there is no such
  block, or one for the fields and no byte to come, nor a failure that passes for the
  bytes of a payload.
* `frame_overruns`, `receive_overruns`: a size of one.
-/

namespace Cc1352Greybus

open Effects

variable {cfg : Config} (env : Env)

/-! ### Frames of the AP -/

/-- The frame holds a message of the size its header gives. -/
def WellSized (buffer : List U8) (n : ℕ) : Prop :=
  8 ≤ (frameHdr buffer).size.toNat ∧ 10 ≤ n ∧ (frameHdr buffer).size.toNat ≤ n - 2

/-- The frame is parsed by its own bytes, whatever stale ones follow them: it is well
sized and becomes a message with the payload that is in it, or it is refused and
nothing is allocated. -/
def ParsesFrame (buffer : List U8) (n : ℕ) (s : Fw cfg) : Prop :=
  ∃ r io', Ends (greybusFrameMsg env (buffer.take n) n) s.io r io' ∧
    (∀ ret s', Ends (hdlcProcessGreybusFrame env buffer n) s ret s' ↔
      Ends (submitFrame env r) ⟨s.core, io'⟩ ret s') ∧
    match r with
    | none => io'.trace = s.io.trace ∧
        (WellSized buffer n → ¬ HeapGrants env s.io (frameHdr buffer).size.toNat)
    | some (cport, msg) => cport = frameCport buffer ∧ WellSized buffer n ∧
        msg.payload = (buffer.take (2 + (frameHdr buffer).size.toNat)).drop 10

/-- There is a size field, and it is refused, or no less than a header, or the rest of
the header is there and no block is granted for it. -/
def FrameBounded (buffer : List U8) (n : ℕ) (io : Io) : Prop :=
  4 ≤ n ∧ (n < (frameHdr buffer).size.toNat + 2 ∨ 8 ≤ (frameHdr buffer).size.toNat ∨
    8 ≤ n ∧ ¬ HeapGrants env io (frameHdr buffer).size.toNat)

section frame

variable {env} {buffer : List U8} {n : ℕ} {io : Io}

/-! ### A frame without the bytes behind it -/

lemma getD_drop_take {i : ℕ} (h : i + 2 < n) :
    ((buffer.take n).drop 2).getD i 0 = (buffer.drop 2).getD i 0 := by
  simp only [List.getD_eq_getElem?_getD, List.getElem?_drop]
  rw [List.getElem?_take_of_lt (by omega)]

/-- The size is told by the first four bytes. -/
lemma frameHdr_take_size (h : 4 ≤ n) :
    (frameHdr (buffer.take n)).size = (frameHdr buffer).size := by
  simp only [frameHdr, GbOperationMsgHdr.ofBytes]
  rw [getD_drop_take (by omega), getD_drop_take (by omega)]

/-- The header is told by the first ten. -/
lemma frameHdr_take (h : 10 ≤ n) : frameHdr (buffer.take n) = frameHdr buffer := by
  simp only [frameHdr, GbOperationMsgHdr.ofBytes]
  repeat rw [getD_drop_take (by omega)]

/-- So is the message, by as many as it has. -/
lemma frameMsg_take {blk len : ℕ} (h : len + 10 ≤ n) :
    frameMsg env blk (buffer.take n) len = frameMsg env blk buffer len := by
  have hpayload : ((buffer.take n).drop 10).take len = (buffer.drop 10).take len := by
    rw [List.drop_take, List.take_take, min_eq_left (by omega)]
  rw [frameMsg, frameMsg, frameHdr_take (by omega), hpayload]

lemma frameCport_take (h : 2 ≤ n) : frameCport (buffer.take n) = frameCport buffer := by
  simp only [frameCport, List.getD_eq_getElem?_getD]
  rw [List.getElem?_take_of_lt (by omega), List.getElem?_take_of_lt (by omega)]

end frame

/-- **A frame of the AP** is parsed within its bounds, exactly when what is read of it
is there and no block smaller than a header is granted. -/
theorem parsesFrame_iff {buffer : List U8} {n : ℕ} (hn : n ≤ cfg.hdlcMaxBlockSize - 4)
    (hbuf : n ≤ buffer.length) (s : Fw cfg) :
    ParsesFrame env buffer n s ↔ FrameBounded env buffer n s.io := by
  have hlt : n < 2 ^ 32 := by
    have := cfg.block_lt
    omega
  have hlen : (buffer.take n).length = n := List.length_take_of_le hbuf
  constructor
  · rintro ⟨r, io', hend, -⟩
    have h4 : 4 ≤ n := by
      by_contra hshort
      rw [greybusFrameMsg, if_pos (by omega)] at hend
      exact ends_throw.mp hend
    have hsize : (frameHdr (buffer.take n)).size.toNat = (frameHdr buffer).size.toNat :=
      congrArg BitVec.toNat (frameHdr_take_size h4)
    refine ⟨h4, ?_⟩
    by_contra hout
    rw [not_or, not_or, not_and_not_right] at hout
    obtain ⟨hle, hsmall, hgrants⟩ := hout
    have hwhole := hend
    rw [greybusFrameMsg, if_neg (by omega), if_neg (by omega)] at hend
    rcases ends_ite.mp hend with ⟨-, hend⟩ | ⟨h8, hend⟩
    · exact ends_throw.mp hend
    · -- the block that is granted is too small for a header
      rw [← hsize] at hgrants hsmall
      exact hwhole.not_stops _ (greybusFrameMsg_overruns (by omega) (by omega)
        (hgrants (by omega)) (not_le.mp hsmall))
  · rintro ⟨h4, hbounded⟩
    have hsize : (frameHdr (buffer.take n)).size.toNat = (frameHdr buffer).size.toNat :=
      congrArg BitVec.toNat (frameHdr_take_size h4)
    have hproc : ∀ {r io'}, Ends (greybusFrameMsg env buffer n) s.io r io' → ∀ ret s',
        Ends (hdlcProcessGreybusFrame env buffer n) s ret s' ↔
          Ends (submitFrame env r) ⟨s.core, io'⟩ ret s' := by
      intro r io' hend ret s'
      rw [hdlcProcessGreybusFrame_eq, (Ends.liftIo hend).bind_iff]
    by_cases hlarge : n < (frameHdr buffer).size.toNat + 2
    · refine ⟨none, s.io, greybusFrameMsg_tooLarge (by omega) (by omega) hlt (by omega),
        hproc (greybusFrameMsg_tooLarge (by omega) (by omega) hlt hlarge), rfl, fun h => ?_⟩
      obtain ⟨-, h10, hle⟩ := h
      omega
    by_cases hheap : HeapGrants env s.io (frameHdr buffer).size.toNat
    · -- the size is a message's
      have h8 : 8 ≤ (frameHdr buffer).size.toNat := by
        rcases hbounded with h | h | h
        · exact absurd h hlarge
        · exact h
        · exact absurd hheap h.2
      obtain ⟨len, hn8⟩ : ∃ len, (frameHdr buffer).size.toNat = len + 8 :=
        ⟨_, (Nat.sub_add_cancel h8).symm⟩
      have htake : Ends (greybusFrameMsg env (buffer.take n) n) s.io
          (some (frameCport (buffer.take n), frameMsg env s.io.heapCalls (buffer.take n) len)) _ :=
        greybusFrameMsg_taken (by omega) (by omega) (by omega) (by rwa [hsize])
      rw [frameMsg_take (by omega), frameCport_take (by omega)] at htake
      refine ⟨_, _, htake, hproc (greybusFrameMsg_taken hn8 (by omega) (by omega) hheap), rfl,
        ⟨h8, by omega, by omega⟩, ?_⟩
      have hpayload : 2 + (len + 8) - 10 = len := by omega
      rw [List.drop_take, hn8, hpayload]
      rfl
    · refine ⟨none, _, greybusFrameMsg_refused (by omega) (by omega) (by rwa [hsize]),
        hproc (greybusFrameMsg_refused (by omega) (by omega) hheap), ?_, fun _ => hheap⟩
      simp [Io.afterAlloc]

/-- A header on its own, and what the receive buffer still has behind it. -/
def bareFrame : List U8 := greybusFrame 0 bareRequest.header [] ++ List.replicate 244 0xff

/-- Whether it is parsed by its own bytes. -/
theorem parsesFrame_iff_bare :
    ParsesFrame calmEnv bareFrame 10 started ↔ FrameBounded calmEnv bareFrame 10 started.io :=
  parsesFrame_iff calmEnv (by decide) (by decide +kernel) started

/-- A header that gives its size as one. -/
def undersizedFrame : List U8 := greybusFrame 0 ⟨1, 1, 0x01, 0, 0, 0⟩ [] ++ List.replicate 244 0xff

/-- It gets a block of one byte, and is written beyond it. -/
theorem frame_overruns :
    Stops (hdlcProcessGreybusFrame calmEnv undersizedFrame 10) started .outOfBounds ∧
      ¬ ParsesFrame calmEnv undersizedFrame 10 started := by
  refine ⟨stops_of_fault (by decide +kernel), ?_⟩
  rintro ⟨r, io', hend, -⟩
  exact hend.not_stops .outOfBounds (stops_of_fault (by decide +kernel))

/-! ### Messages of a node -/

section reads

variable {f : Fault}

/-- A `zsock_recv` at most waits. -/
lemma avoids_zsockRecv (hf : .blocked ≠ f) (sock : ℤ) (len : ℕ) :
    Avoids f (zsockRecv sock len) := by
  refine avoids_ite (avoids_pure _) (Avoids.bind (avoids_of_ends fun s => ⟨s, s, Ends.get s⟩) ?_)
  intro io
  cases io.rx sock with
  | nil => exact avoids_throw hf
  | cons chunk rest =>
      cases chunk with
      | data b bs =>
          exact (avoids_of_ends fun s => ⟨_, _, Ends.set _ s⟩).bind fun _ => avoids_pure _
      | closed => exact avoids_pure _
      | error => exact (avoids_of_ends fun s => ⟨_, _, Ends.set _ s⟩).bind fun _ => avoids_pure _

/-- So does a `read_data`, or it writes out of bounds. -/
lemma avoids_readData (hwait : .blocked ≠ f) (hbounds : .outOfBounds ≠ f) (sock : ℤ)
    (room len : ℕ) : Avoids f (readData sock room len) := by
  have hloop : ∀ rounds left received, Avoids f (readDataLoop sock room rounds left received) := by
    intro rounds
    induction rounds with
    | zero => exact fun _ _ => avoids_pure _
    | succ rounds ih =>
        intro left received
        rw [readDataLoop]
        exact avoids_ite (avoids_pure _) ((avoids_zsockRecv hwait sock left).bind fun r =>
          avoids_ite (avoids_pure _) (avoids_ite (avoids_throw hbounds) (ih _ _)))
  exact hloop len len []

/-- Within the room there is for it, it does not. -/
lemma readDataLoop_inBounds (sock : ℤ) {room rounds left : ℕ} {received : List U8}
    (hroom : received.length + left ≤ room) (io : Io) :
    ¬ Stops (readDataLoop sock room rounds left received) io .outOfBounds := by
  induction rounds generalizing left received io with
  | zero => exact (Ends.pure _ io).not_stops _
  | succ rounds ih =>
      rw [readDataLoop]
      split_ifs
      · exact (Ends.pure _ io).not_stops _
      intro h
      rcases stops_bind.mp h with h | ⟨r, io₁, h₁, h⟩
      · exact avoids_zsockRecv (by decide) _ _ _ h
      split_ifs at h with hr hfull
      · exact (Ends.pure _ io₁).not_stops _ h
      · have hle := ((zsockRecv_stream h₁).2 (not_le.mp hr)).2.2.1
        omega
      · have hle := ((zsockRecv_stream h₁).2 (not_le.mp hr)).2.2.1
        exact ih (by rw [List.length_append]; omega) io₁ h

lemma readData_inBounds (sock : ℤ) (len : ℕ) (io : Io) :
    ¬ Stops (readData sock len len) io .outOfBounds :=
  readDataLoop_inBounds sock (by simp) io

/-- With no room at all it does when a byte comes. -/
lemma stops_readData_noRoom {sock : ℤ} (hs : 0 ≤ sock) {len : ℕ} (hlen : len ≠ 0) {io : Io} :
    Stops (readData sock 0 len) io .outOfBounds ↔ streamBytes (io.rx sock) ≠ [] := by
  obtain ⟨rounds, rfl⟩ := Nat.exists_eq_succ_of_ne_zero hlen
  rw [readData, readDataLoop, if_neg hlen]
  constructor
  · intro h
    rcases stops_bind.mp h with h | ⟨r, io₁, h₁, h⟩
    · exact absurd h (avoids_zsockRecv (by decide) _ _ _)
    by_cases hr : r.1 ≤ 0
    · rw [if_pos hr] at h
      exact absurd h ((Ends.pure _ io₁).not_stops _)
    · obtain ⟨-, hcount, -, hsplit, -⟩ := (zsockRecv_stream h₁).2 (not_le.mp hr)
      rw [hsplit]
      intro hnil
      rw [(List.append_eq_nil_iff.mp hnil).1, List.length_nil] at hcount
      omega
  · intro h
    obtain ⟨n, left, hpos, -, hrecv, -, hn⟩ := zsockRecv_ends hs (Nat.pos_of_ne_zero hlen) h
    rw [hrecv.stops_bind_iff, if_neg (by dsimp only; omega), if_pos, stops_throw]
    rw [List.length_take]
    omega

lemma avoids_shortRead (sock ret : ℤ) : Avoids f (shortRead sock ret) :=
  (avoids_emit _).bind fun _ => avoids_pure _

/-- A receive waits, or writes out of bounds, or does neither. -/
lemma avoids_gbMessageReceive (hwait : .blocked ≠ f) (hbounds : .outOfBounds ≠ f) (sock : ℤ)
    (flag : Bool) : Avoids f (gbMessageReceive env sock flag) := by
  have halloc : ∀ n type id status, Avoids f (gbMessageAlloc env n type id status) := by
    intro n type id status
    refine Avoids.bind (avoids_of_ends fun s => ⟨_, _, ends_modifyGet.mpr ⟨rfl, rfl⟩⟩) fun blk => ?_
    cases blk with
    | none => exact avoids_pure _
    | some blk => exact avoids_ite (avoids_throw hbounds) (avoids_pure _)
  have hread := avoids_readData hwait hbounds sock
  refine (hread _ _).bind fun c => avoids_ite (avoids_shortRead _ _) ?_
  refine (hread _ _).bind fun h => avoids_ite (avoids_shortRead _ _) ?_
  refine (halloc _ _ _ _).bind fun msg => ?_
  cases msg with
  | none => exact (avoids_emit _).bind fun _ => avoids_pure _
  | some msg =>
      refine (hread _ _).bind fun p => avoids_ite ?_ ?_
      · exact (avoids_emit _).bind fun _ => avoids_shortRead _ _
      · exact (avoids_emit _).bind fun _ => avoids_pure _

end reads

/-- A receive writes within the block it has allocated, and a message it returns has a
whole header and is taken off the stream, two bytes of cport and as many as it says. -/
structure ReceivesBounded (sock : ℤ) (flag : Bool) (io : Io) : Prop where
  inBounds : ¬ Stops (gbMessageReceive env sock flag) io .outOfBounds
  whole : ∀ cport msg flag' io',
    Ends (gbMessageReceive env sock flag) io (some (cport, msg), flag') io' →
      8 ≤ msg.header.size.toNat ∧ ∃ frame, frame.length = 2 + msg.header.size.toNat ∧
        streamBytes (io.rx sock) = frame ++ streamBytes (io'.rx sock)

/-- A cport and a header are on the stream, the header gives less than its own size,
and a block of that size is granted, which has no room for the fields of the header, or
for the byte that comes after it. -/
def UndersizedGranted (sock : ℤ) (io : Io) : Prop :=
  0 ≤ sock ∧ 10 ≤ (streamBytes (io.rx sock)).length ∧
    (frameHdr (streamBytes (io.rx sock))).size.toNat < 8 ∧
    HeapGrants env io (frameHdr (streamBytes (io.rx sock))).size.toNat ∧
    ((frameHdr (streamBytes (io.rx sock))).size.toNat < 6 ∨
      10 < (streamBytes (io.rx sock)).length)

/-- A cport and a header of size 7 are all there is on the stream before it fails, and a
block of that size is granted. -/
def CutGranted (sock : ℤ) (io : Io) : Prop :=
  0 ≤ sock ∧ (∃ cport hdr, CutMessage (io.rx sock) cport hdr) ∧ HeapGrants env io 7

/-- The header of a stream is what comes after its first two bytes. -/
lemma frameHdr_append {c hd rest : List U8} (hc : c.length = 2) (hh : hd.length = 8) :
    frameHdr (c ++ (hd ++ rest)) = GbOperationMsgHdr.ofBytes hd := by
  rw [frameHdr, List.drop_left' hc, ← bytes_ofBytes hh, GbOperationMsgHdr.ofBytes_bytes_append,
    bytes_ofBytes hh]

/-- A header without a block becomes no message. -/
lemma receiveMessage_refused (sock : ℤ) (flag : Bool) (cport : U16) {hdr : GbOperationMsgHdr}
    {io : Io} (h : ¬ HeapGrants env io hdr.size.toNat) :
    ∃ io', Ends (receiveMessage env sock flag cport hdr) io (none, flag) io' :=
  ⟨_, (gbMessageAlloc_hdr_refused h).bind ((Ends.emit _ _).bind (Ends.pure _ _))⟩

/-- So a message that is returned has been granted its block. -/
lemma heapGrants_of_gbMessageReceive {sock : ℤ} (hs : 0 ≤ sock) {flag flag' : Bool} {io io' : Io}
    {cport : U16} {hdr : GbOperationMsgHdr} {rest : List U8} {m : U16 × GbMessage}
    (hrx : streamBytes (io.rx sock) = greybusFrame cport hdr [] ++ rest)
    (h : Ends (gbMessageReceive env sock flag) io (some m, flag') io') :
    HeapGrants env io hdr.size.toNat := by
  by_contra hrefused
  obtain ⟨-, rx₂, -, -, -, hrun⟩ := gbMessageReceive_run env hs flag hrx
  have hrefused' : ¬ HeapGrants env (io.readFrom sock rx₂) hdr.size.toNat := hrefused
  obtain ⟨io₁, hnone⟩ := receiveMessage_refused env sock flag cport hrefused'
  cases (Ends.unique (hrun.trans hnone) h).1

/-- A message a receive returns is whole, but where a cut one is granted its block. -/
lemma gbMessageReceive_whole {sock : ℤ} {flag flag' : Bool} {io io' : Io} {cport : U16}
    {msg : GbMessage} (hcut : ¬ CutGranted env sock io)
    (h : Ends (gbMessageReceive env sock flag) io (some (cport, msg), flag') io') :
    8 ≤ msg.header.size.toNat ∧ ∃ frame, frame.length = 2 + msg.header.size.toNat ∧
      streamBytes (io.rx sock) = frame ++ streamBytes (io'.rx sock) := by
  rcases gbMessageReceive_tidy env h with
    ⟨hnone, -⟩ | ⟨cport', msg', hdr, hr, -, hfields, hs, hwhole | ⟨-, hcutMsg⟩, -⟩
  · cases hnone
  · obtain ⟨rfl, rfl⟩ := Prod.mk.inj (Option.some.inj (Prod.mk.inj hr).1)
    have hsize : msg.header.size.toNat = msg.payload.length + 8 := by
      rw [(Prod.mk.inj hfields).1, hwhole.size]
    refine ⟨by omega, _, ?_, hwhole.split⟩
    rw [greybusFrame_length]
    omega
  · refine absurd ⟨hs, ⟨cport', hdr, hcutMsg⟩, ?_⟩ hcut
    rw [← hcutMsg.size]
    exact heapGrants_of_gbMessageReceive env hs (hcutMsg.split.trans (List.append_nil _).symm) h

/-- What a receive does with a header is out of bounds exactly when a block is granted
that is too small for the fields, or for a byte that comes after them. -/
lemma stops_receiveMessage {sock : ℤ} (hs : 0 ≤ sock) {flag : Bool} {cport : U16}
    {hdr : GbOperationMsgHdr} {io : Io} :
    Stops (receiveMessage env sock flag cport hdr) io .outOfBounds ↔
      hdr.size.toNat < 8 ∧ HeapGrants env io hdr.size.toNat ∧
        (hdr.size.toNat < 6 ∨ streamBytes (io.rx sock) ≠ []) := by
  by_cases hheap : HeapGrants env io hdr.size.toNat
  swap
  · obtain ⟨io', hnone⟩ := receiveMessage_refused env sock flag cport hheap
    exact iff_of_false (hnone.not_stops _) fun h => hheap h.2.1
  rcases lt_or_ge hdr.size.toNat 6 with h6 | h6
  · exact iff_of_true (stops_bind.mpr (Or.inl (gbMessageAlloc_hdr_overruns hheap h6)))
      ⟨by omega, hheap, Or.inl h6⟩
  -- the payload is read, or the read stops
  have hpayload : Stops (receiveMessage env sock flag cport hdr) io .outOfBounds ↔
      Stops (readData sock (hdr.size.toNat - 8) (gbHdrPayloadLen hdr))
        (io.afterAlloc [.alloc io.heapCalls]) .outOfBounds := by
    rw [receiveMessage, (gbMessageAlloc_hdr_granted hheap h6).stops_bind_iff]
    dsimp only
    rw [receivePayload, hdrMessage_payloadLen, hdrMessage_payload_length]
    dsimp only
    rw [stops_bind, or_iff_left]
    rintro ⟨p, io₁, -, h⟩
    split_ifs at h
    · exact ((avoids_emit _).bind fun _ => avoids_shortRead _ _) _ h
    · exact ((avoids_emit _).bind fun _ => avoids_pure _) _ h
  rw [hpayload]
  rcases lt_or_ge hdr.size.toNat 8 with h8 | h8
  · have hlen := gbHdrPayloadLen_of_lt h8
    rw [show hdr.size.toNat - 8 = 0 by omega, stops_readData_noRoom hs (by rw [hlen]; omega)]
    exact ⟨fun h => ⟨h8, hheap, Or.inr h⟩, fun h => h.2.2.resolve_left (not_lt.mpr h6)⟩
  · have hlen : gbHdrPayloadLen hdr = hdr.size.toNat - 8 := gbHdrPayloadLen_of_size (by omega)
    rw [hlen]
    exact iff_of_false (readData_inBounds _ _ _) fun h => absurd h.1 (not_lt.mpr h8)

/-- A receive writes out of bounds exactly when it is granted a block for less than what
comes. -/
lemma stops_gbMessageReceive {sock : ℤ} {flag : Bool} {io : Io} :
    Stops (gbMessageReceive env sock flag) io .outOfBounds ↔ UndersizedGranted env sock io := by
  constructor
  · intro h
    rcases stops_bind.mp h with h | ⟨c, io₁, h₁, h⟩
    · exact absurd h (readData_inBounds _ _ io)
    obtain ⟨honly₁, hread₁⟩ := readData_stream h₁
    by_cases hc : c.1 = 2
    swap
    · rw [if_pos hc] at h
      exact absurd h (avoids_shortRead _ _ io₁)
    rw [if_neg (not_not.mpr hc)] at h
    rcases stops_bind.mp h with h | ⟨hd, io₂, h₂, h⟩
    · exact absurd h (readData_inBounds _ _ io₁)
    obtain ⟨honly₂, hread₂⟩ := readData_stream h₂
    by_cases hh : hd.1 = 8
    swap
    · rw [if_pos hh] at h
      exact absurd h (avoids_shortRead _ _ io₂)
    rw [if_neg (not_not.mpr hh)] at h
    -- the header has been read
    obtain ⟨hs, hclen, hcsplit, -⟩ := hread₁ hc
    obtain ⟨-, hhlen, hhsplit, -⟩ := hread₂ hh
    obtain ⟨h8, hheap, hout⟩ := (stops_receiveMessage env (hs two_ne_zero)).mp h
    have hstream := hcsplit
    rw [hhsplit] at hstream
    have hcalls := (honly₁.trans honly₂).heapCalls
    have hlength : (streamBytes (io.rx sock)).length =
        10 + (streamBytes (io₂.rx sock)).length := by
      rw [hstream, List.length_append, List.length_append, hclen, hhlen]
      omega
    rw [HeapGrants, hcalls] at hheap
    refine ⟨hs two_ne_zero, by omega, ?_, ?_, ?_⟩
    · rwa [hstream, frameHdr_append hclen hhlen]
    · rwa [hstream, frameHdr_append hclen hhlen]
    · rw [hlength, hstream, frameHdr_append hclen hhlen]
      refine hout.imp id fun hne => ?_
      have := List.length_pos_iff.mpr hne
      omega
  · rintro ⟨hs, hlen, h8, hheap, hout⟩
    obtain ⟨cport, hdr, rest, hstream⟩ : ∃ cport hdr rest,
        streamBytes (io.rx sock) = greybusFrame cport hdr [] ++ rest := by
      set bs := streamBytes (io.rx sock)
      refine ⟨ofLe16 ((bs.take 2).getD 0 0) ((bs.take 2).getD 1 0),
        .ofBytes ((bs.drop 2).take 8), (bs.drop 2).drop 8, ?_⟩
      rw [greybusFrame, le16_getD (List.length_take_of_le (show 2 ≤ bs.length by omega)),
        bytes_ofBytes (List.length_take_of_le (by rw [List.length_drop]; omega)), List.append_nil,
        List.append_assoc, List.take_append_drop, List.take_append_drop]
    have hhdr : frameHdr (streamBytes (io.rx sock)) = hdr := by
      rw [hstream, greybusFrame, List.append_nil, List.append_assoc,
        frameHdr_append (le16_length _) hdr.bytes_length]
      simpa using GbOperationMsgHdr.ofBytes_bytes_append hdr []
    obtain ⟨-, rx₂, hrest, -, -, hrun⟩ := gbMessageReceive_run env hs flag hstream
    rw [hhdr] at h8 hheap hout
    rw [Stops, hrun]
    refine (stops_receiveMessage env hs).mpr ⟨h8, hheap, hout.imp id fun hlong => ?_⟩
    rw [Io.readFrom_rx, hrest]
    rintro rfl
    rw [hstream, List.append_nil, greybusFrame_length] at hlong
    simp at hlong

/-- **A receive** stays within the block it allocates and returns whole messages only,
exactly unless it is granted a block for less than what comes, or a failure passes for
the payload of a header of size 7. -/
theorem receivesBounded_iff (sock : ℤ) (flag : Bool) (io : Io) :
    ReceivesBounded env sock flag io ↔
      ¬ UndersizedGranted env sock io ∧ ¬ CutGranted env sock io := by
  rw [← stops_gbMessageReceive env]
  refine ⟨fun h => ⟨h.inBounds, ?_⟩, fun h => ⟨h.1, fun _ _ _ _ => gbMessageReceive_whole env h.2⟩⟩
  rintro ⟨hs, ⟨cport, hdr, hcut⟩, hheap⟩
  obtain ⟨io', hend, -⟩ := gbMessageReceive_cut hs flag hcut hheap.2
  have h8 := (h.whole _ _ _ _ hend).1
  rw [(Prod.mk.inj (hdrMessage_fields io.heapCalls)).1, hcut.size] at h8
  omega

/-- A node that sends a cport and a header of size one. -/
def undersizedStream : Io :=
  { Io.boot with rx := fun _ => [.data 0 [0, 1, 0, 0, 0, 0, 0, 0, 0]] }

/-- It gets a block of one byte, and the header is written beyond it. -/
theorem receive_overruns :
    Stops (gbMessageReceive calmEnv 0 false) undersizedStream .outOfBounds ∧
      ¬ ReceivesBounded calmEnv 0 false undersizedStream := by
  have hstops : Stops (gbMessageReceive calmEnv 0 false) undersizedStream .outOfBounds :=
    stops_of_fault (by decide +kernel)
  exact ⟨hstops, fun h => h.inBounds hstops⟩

end Cc1352Greybus
