import Cc1352Greybus.Hdlc.Driver
import Cc1352Greybus.Lib.Run

/-!
From the UART interrupt to the receiver: the ring buffer of `src/hdlc.c`, filled
by `serial_callback` and emptied by the work item `hdlc_rx_work`.

A claim reaches to the end of the storage only. The handler makes one, so what
lies beyond the end waits for the next submission.

* `ringStep`: one interrupt, or one step of the handler.
* `ring_drained_iff`: no byte is stranded exactly when the handler never finishes
  over bytes that straddle the end, with nothing submitted meanwhile.
* `bytes_stranded`: two interrupts around the end of the storage.
-/

namespace Cc1352Greybus

/-- `HDLC_RX_BUF_SIZE` -/
def HDLC_RX_BUF_SIZE : ℕ := 1024

/-- Where `hdlc_rx_handler` is. -/
inductive RxHandler
  /-- it does not run -/
  | idle
  /-- before `ring_buf_get_claim` -/
  | started
  /-- before `hdlc_process_buffer` -/
  | claimed (data : List U8)
  /-- before `ring_buf_get_finish` -/
  | processed (len : ℕ)
  deriving DecidableEq

/-- `hdlc_rx_ringbuf`, `hdlc_rx_work` and what has gone through them. -/
structure RxPath where
  /-- the bytes committed and not given back, the oldest first -/
  ring : List U8
  /-- where in the storage the oldest byte lies -/
  getPos : ℕ
  /-- `hdlc_rx_work` is queued -/
  queued : Bool
  handler : RxHandler
  /-- the bytes read from the UART -/
  read : List U8
  /-- the bytes passed to `hdlc_process_buffer` -/
  passed : List U8
  deriving DecidableEq

/-- The state as the loader leaves it. -/
def RxPath.boot : RxPath := ⟨[], 0, false, .idle, [], []⟩

namespace RxPath

variable (s : RxPath)

/-- The room `hdlc_rx_start` grants: what is free, up to the end of the storage. -/
def hdlcRxStart : ℕ :=
  min (HDLC_RX_BUF_SIZE - s.ring.length)
    (HDLC_RX_BUF_SIZE - (s.getPos + s.ring.length) % HDLC_RX_BUF_SIZE)

/-- What `ring_buf_get_claim` grants: what is stored, up to the end of the storage. -/
def ringBufGetClaim : List U8 := s.ring.take (HDLC_RX_BUF_SIZE - s.getPos)

/-- `serial_callback`, with the bytes the UART has for it. Without room it returns
before it reads. -/
def serialCallback (bs : List U8) : RxPath :=
  if s.hdlcRxStart = 0 then s
  else { s with ring := s.ring ++ bs, queued := true, read := s.read ++ bs }

/-- The work queue takes `hdlc_rx_work` up. -/
def start : RxPath := { s with queued := false, handler := .started }

/-- `ring_buf_get_claim` -/
def claim : RxPath := { s with handler := .claimed s.ringBufGetClaim }

/-- `hdlc_process_buffer` -/
def process (data : List U8) : RxPath :=
  { s with handler := .processed data.length, passed := s.passed ++ data }

/-- `ring_buf_get_finish`, and the return -/
def finish (len : ℕ) : RxPath :=
  { s with
    ring := s.ring.drop len
    getPos := (s.getPos + len) % HDLC_RX_BUF_SIZE
    handler := .idle }

end RxPath

/-- An interrupt, or a step of the handler. -/
inductive RingOp
  | serialCallback (bs : List U8)
  | start
  | claim
  | process
  | finish
  deriving DecidableEq

/-- One step. An interrupt comes between any two steps of the handler, and reads no
more than it has room for. -/
def ringStep (s : RxPath) (op : RingOp) (s' : RxPath) : Prop :=
  match op with
  | .serialCallback bs => bs.length ≤ s.hdlcRxStart ∧ s' = s.serialCallback bs
  | .start => s.queued = true ∧ s.handler = .idle ∧ s' = s.start
  | .claim => s.handler = .started ∧ s' = s.claim
  | .process => ∃ data, s.handler = .claimed data ∧ s' = s.process data
  | .finish => ∃ len, s.handler = .processed len ∧ s' = s.finish len

/-! ### What always holds -/

/-- The length of what the handler has claimed. -/
def RxHandler.claimedLen : RxHandler → Option ℕ
  | .claimed data => some data.length
  | .processed len => some len
  | _ => none

/-- The bytes of the ring that have been passed on already. -/
def RxPath.inFlight (s : RxPath) : ℕ :=
  match s.handler with
  | .processed len => len
  | _ => 0

/-- The ring buffer and the handler agree. -/
structure RingTied (s : RxPath) : Prop where
  order : s.passed ++ s.ring.drop s.inFlight = s.read
  room : s.ring.length ≤ HDLC_RX_BUF_SIZE
  pos : s.getPos < HDLC_RX_BUF_SIZE
  data : ∀ data, s.handler = .claimed data → data <+: s.ring
  claim_le : ∀ len, s.handler.claimedLen = some len → len ≤ s.ring.length
  claim_eq : ∀ len, s.handler.claimedLen = some len → s.queued = false →
    len = s.ringBufGetClaim.length

/-- `hdlc_rx_work` is neither queued nor running. -/
def RxPath.WorkIdle (s : RxPath) : Prop := s.queued = false ∧ s.handler = .idle

/-- No byte is stranded: what has been passed on is what has been read, in order,
and nothing is left while nothing is to be done. -/
structure RingDrained (s : RxPath) : Prop where
  inOrder : s.passed <+: s.read
  drained : s.WorkIdle → s.ring = []

/-- The bytes stored run on from the end of the storage to its start. -/
def RxPath.Straddles (s : RxPath) : Prop := HDLC_RX_BUF_SIZE < s.getPos + s.ring.length

/-- The handler may finish: it has been submitted again, or there was one piece to
claim. -/
def MayRing (s : RxPath) : RingOp → Prop
  | .finish => s.queued = true ∨ ¬ s.Straddles
  | _ => True

lemma ringTied_boot : RingTied .boot := by
  refine ⟨rfl, Nat.zero_le _, by decide, ?_, ?_, ?_⟩
  · rintro data ⟨⟩
  · rintro len ⟨⟩
  · rintro len ⟨⟩

/-- What has been passed on has been read. -/
lemma RingTied.passed_prefix {s : RxPath} (h : RingTied s) : s.passed <+: s.read := ⟨_, h.order⟩

lemma prefix_ringBufGetClaim (s : RxPath) : s.ringBufGetClaim <+: s.ring := List.take_prefix _ _

lemma ringBufGetClaim_length (s : RxPath) :
    s.ringBufGetClaim.length = min (HDLC_RX_BUF_SIZE - s.getPos) s.ring.length := List.length_take

/-- The interrupt adds to the ring what it reads. -/
lemma ringTied_serialCallback {s : RxPath} {bs : List U8} (h : RingTied s)
    (hbs : bs.length ≤ s.hdlcRxStart) : RingTied (s.serialCallback bs) := by
  rw [RxPath.serialCallback]
  split_ifs with hfull
  · exact h
  have hroom : bs.length ≤ HDLC_RX_BUF_SIZE - s.ring.length := hbs.trans (min_le_left _ _)
  have hle := h.room
  have hflight : s.inFlight ≤ s.ring.length := by
    rw [RxPath.inFlight]
    cases hh : s.handler with
    | processed len => exact h.claim_le len (by rw [hh]; rfl)
    | idle => exact Nat.zero_le _
    | started => exact Nat.zero_le _
    | claimed data => exact Nat.zero_le _
  refine ⟨?_, ?_, h.pos, fun data hd => (h.data data hd).trans (List.prefix_append _ _),
    fun len hl => ?_, ?_⟩
  · show s.passed ++ (s.ring ++ bs).drop s.inFlight = s.read ++ bs
    rw [List.drop_append_of_le_length hflight, ← List.append_assoc, h.order]
  · show (s.ring ++ bs).length ≤ HDLC_RX_BUF_SIZE
    rw [List.length_append]
    omega
  · show len ≤ (s.ring ++ bs).length
    rw [List.length_append]
    exact (h.claim_le len hl).trans (Nat.le_add_right _ _)
  · rintro len - hq
    cases hq

/-- One step keeps the ring buffer and the handler in agreement. -/
lemma ringTied_step {s s' : RxPath} {op : RingOp} (h : RingTied s) (hstep : ringStep s op s') :
    RingTied s' := by
  cases op with
  | serialCallback bs =>
      obtain ⟨hbs, rfl⟩ := hstep
      exact ringTied_serialCallback h hbs
  | start =>
      obtain ⟨-, hidle, rfl⟩ := hstep
      -- what is in flight is still to be claimed
      refine ⟨?_, h.room, h.pos, ?_, ?_, ?_⟩
      · have := h.order
        rw [RxPath.inFlight, hidle] at this
        exact this
      · rintro data ⟨⟩
      · rintro len ⟨⟩
      · rintro len ⟨⟩
  | claim =>
      obtain ⟨hstart, rfl⟩ := hstep
      refine ⟨?_, h.room, h.pos, ?_, ?_, ?_⟩
      · have := h.order
        rw [RxPath.inFlight, hstart] at this
        exact this
      · rintro data ⟨⟩
        exact prefix_ringBufGetClaim s
      · rintro len ⟨⟩
        exact (prefix_ringBufGetClaim s).length_le
      · rintro len ⟨⟩ -
        rfl
  | process =>
      obtain ⟨data, hdata, rfl⟩ := hstep
      obtain ⟨rest, hrest⟩ := h.data data hdata
      refine ⟨?_, h.room, h.pos, ?_, ?_, ?_⟩
      -- what is passed on moves from the front of the ring to the end of `passed`
      · have := h.order
        rw [RxPath.inFlight, hdata, List.drop_zero, ← hrest, ← List.append_assoc] at this
        show s.passed ++ data ++ s.ring.drop data.length = s.read
        rw [← hrest, List.drop_left, this]
      · rintro data' ⟨⟩
      · rintro len ⟨⟩
        exact h.claim_le _ (by rw [hdata]; rfl)
      · rintro len ⟨⟩ hq
        exact h.claim_eq _ (by rw [hdata]; rfl) hq
  | finish =>
      obtain ⟨len, hlen, rfl⟩ := hstep
      -- what is in flight leaves the ring, which it was the front of
      refine ⟨?_, ?_, Nat.mod_lt _ (by decide), ?_, ?_, ?_⟩
      · have := h.order
        rw [RxPath.inFlight, hlen] at this
        exact this
      · have := h.room
        show (s.ring.drop len).length ≤ HDLC_RX_BUF_SIZE
        rw [List.length_drop]
        omega
      · rintro data ⟨⟩
      · rintro len' ⟨⟩
      · rintro len' ⟨⟩

/-! ### Runs -/

/-- A state in which the work item has something to do strands nothing. -/
lemma RingTied.drained_of_busy {s : RxPath} (h : RingTied s) (hbusy : ¬ s.WorkIdle) :
    RingDrained s :=
  ⟨h.passed_prefix, fun hidle => absurd hidle hbusy⟩

/-- The handler finishes over all there is exactly when it may. -/
lemma drained_finish_iff {s : RxPath} {len : ℕ} (h : RingTied s)
    (hlen : s.handler = .processed len) :
    RingDrained (s.finish len) ↔ MayRing s .finish := by
  have hstep : ringStep s .finish (s.finish len) := ⟨len, hlen, rfl⟩
  have h' := ringTied_step h hstep
  cases hq : s.queued with
  | true =>
      refine iff_of_true (h'.drained_of_busy ?_) (Or.inl hq)
      rintro ⟨hidle, -⟩
      rw [show (s.finish len).queued = s.queued from rfl, hq] at hidle
      cases hidle
  | false =>
      have hle := h.room
      have hpos := h.pos
      have hclaim := h.claim_eq len (by rw [hlen]; rfl) hq
      rw [ringBufGetClaim_length] at hclaim
      have hiff : s.ring.drop len = [] ↔ ¬ s.Straddles := by
        rw [List.drop_eq_nil_iff, RxPath.Straddles]
        omega
      constructor
      · exact fun hd => Or.inr (hiff.mp (hd.drained ⟨hq, rfl⟩))
      · rintro (hq' | hone)
        · rw [hq] at hq'
          cases hq'
        · exact ⟨h'.passed_prefix, fun _ => hiff.mpr hone⟩

/-- One step strands a byte exactly when it is a finish that may not be. -/
lemma ringStep_spec {s s' : RxPath} {op : RingOp} (h : RingTied s) (hd : RingDrained s)
    (hstep : ringStep s op s') : RingTied s' ∧ (RingDrained s' ↔ MayRing s op) := by
  have h' := ringTied_step h hstep
  refine ⟨h', ?_⟩
  cases op with
  | serialCallback bs =>
      obtain ⟨-, rfl⟩ := hstep
      refine iff_of_true ?_ trivial
      by_cases hfull : s.hdlcRxStart = 0
      · rw [RxPath.serialCallback, if_pos hfull]
        exact hd
      · refine h'.drained_of_busy fun hidle => ?_
        rw [RxPath.serialCallback, if_neg hfull] at hidle
        cases hidle.1
  | start =>
      obtain ⟨-, -, rfl⟩ := hstep
      exact iff_of_true (h'.drained_of_busy fun hidle => by cases hidle.2) trivial
  | claim =>
      obtain ⟨-, rfl⟩ := hstep
      exact iff_of_true (h'.drained_of_busy fun hidle => by cases hidle.2) trivial
  | process =>
      obtain ⟨data, -, rfl⟩ := hstep
      exact iff_of_true (h'.drained_of_busy fun hidle => by cases hidle.2) trivial
  | finish =>
      obtain ⟨len, hlen, rfl⟩ := hstep
      exact drained_finish_iff h hlen

/-- **No byte is stranded** in any state of a run, however interrupts and handler
interleave, exactly when the handler never finishes with bytes around the end of
the storage and nothing submitted since it was taken up. -/
theorem ring_drained_iff {s' : RxPath} {l : List (RunStep RxPath RingOp)}
    (hrun : Run ringStep .boot l s') :
    (∀ t ∈ l, RingDrained t.post) ↔ ∀ t ∈ l, MayRing t.pre t.label :=
  hrun.good_iff (I := RingTied) (P := RingDrained) (G := MayRing) ringTied_boot
    ⟨List.nil_prefix, fun _ => rfl⟩ fun _ _ _ h hd hstep => ringStep_spec h hd hstep

/-- An interrupt, and then the handler. -/
def handledSteps : List (RunStep RxPath RingOp) :=
  let s₁ := RxPath.boot.serialCallback [0x7E]
  let s₂ := s₁.start
  let s₃ := s₂.claim
  let s₄ := s₃.process [0x7E]
  [⟨.boot, .serialCallback [0x7E], s₁⟩] ++ [⟨s₁, .start, s₂⟩] ++ [⟨s₂, .claim, s₃⟩] ++
    [⟨s₃, .process, s₄⟩] ++ [⟨s₄, .finish, s₄.finish 1⟩]

/-- It leaves nothing behind. -/
theorem ring_drained_iff_handled :
    (∀ t ∈ handledSteps, MayRing t.pre t.label) ∧ ∀ t ∈ handledSteps, RingDrained t.post := by
  have hrun : Run ringStep .boot handledSteps _ :=
    ((((Run.single ⟨by decide, rfl⟩).snoc ⟨rfl, rfl, rfl⟩).snoc ⟨rfl, rfl⟩).snoc
      ⟨_, rfl, rfl⟩).snoc ⟨_, rfl, rfl⟩
  have hmay : ∀ t ∈ handledSteps, MayRing t.pre t.label := by
    intro t ht
    simp only [handledSteps, List.mem_append, List.mem_singleton] at ht
    obtain (((rfl | rfl) | rfl) | rfl) | rfl := ht
    · trivial
    · trivial
    · trivial
    · trivial
    · -- a single byte does not reach around the end
      exact Or.inr (Nat.not_lt.mpr (by decide))
  exact ⟨hmay, (ring_drained_iff hrun).mpr hmay⟩

/-- `hdlc_rx_handler` from end to end. -/
def RxPath.hdlcRxHandler (s : RxPath) : RxPath :=
  (s.start.claim.process s.ringBufGetClaim).finish s.ringBufGetClaim.length

/-- Nothing comes between the steps of the handler. -/
lemma run_hdlcRxHandler {s : RxPath} {l : List (RunStep RxPath RingOp)}
    (hrun : Run ringStep .boot l s) (hq : s.queued = true) (hidle : s.handler = .idle) :
    ∃ (l' : List (RunStep RxPath RingOp)) (t : RunStep RxPath RingOp),
      Run ringStep .boot (l' ++ [t]) s.hdlcRxHandler ∧ t.post = s.hdlcRxHandler := by
  have h1 : ringStep s .start s.start := ⟨hq, hidle, rfl⟩
  have h2 : ringStep s.start .claim s.start.claim := ⟨rfl, rfl⟩
  have h3 : ringStep s.start.claim .process (s.start.claim.process s.ringBufGetClaim) :=
    ⟨_, rfl, rfl⟩
  have h4 : ringStep (s.start.claim.process s.ringBufGetClaim) .finish s.hdlcRxHandler :=
    ⟨_, rfl, rfl⟩
  exact ⟨_, _, (((hrun.snoc h1).snoc h2).snoc h3).snoc h4, rfl⟩

/-- The storage filled up to 24 bytes before its end, and emptied. -/
def emptiedRing : RxPath := (RxPath.boot.serialCallback (List.replicate 1000 0x55)).hdlcRxHandler

/-- An interrupt up to the end of the storage, and another at its start, before the
handler runs. -/
def wrappedRing : RxPath :=
  (emptiedRing.serialCallback (List.replicate 24 0x55)).serialCallback (List.replicate 10 0x55)

/-- The second of two interrupts is left in the ring buffer. -/
theorem bytes_stranded : ¬ ∀ (l : List (RunStep RxPath RingOp)) (s : RxPath),
    Run ringStep .boot l s → ∀ t ∈ l, RingDrained t.post := by
  intro hall
  have h1 : ringStep .boot (.serialCallback (List.replicate 1000 0x55))
      (RxPath.boot.serialCallback (List.replicate 1000 0x55)) := ⟨by decide +kernel, rfl⟩
  obtain ⟨l₁, t₁, hempty, -⟩ := run_hdlcRxHandler (Run.single h1) rfl rfl
  have h2 : ringStep emptiedRing (.serialCallback (List.replicate 24 0x55))
      (emptiedRing.serialCallback (List.replicate 24 0x55)) := ⟨by decide +kernel, rfl⟩
  have h3 : ringStep (emptiedRing.serialCallback (List.replicate 24 0x55))
      (.serialCallback (List.replicate 10 0x55)) wrappedRing := ⟨by decide +kernel, rfl⟩
  obtain ⟨l₂, t₂, hend, hpost⟩ :=
    run_hdlcRxHandler ((hempty.snoc h2).snoc h3) (by decide +kernel) (by decide +kernel)
  have hdrained := hall _ _ hend t₂ (by simp)
  rw [hpost] at hdrained
  have hleft : wrappedRing.hdlcRxHandler.ring.length = 10 := by decide +kernel
  rw [hdrained.drained ⟨by decide +kernel, by decide +kernel⟩] at hleft
  cases hleft

end Cc1352Greybus
