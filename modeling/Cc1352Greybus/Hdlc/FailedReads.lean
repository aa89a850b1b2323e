import Cc1352Greybus.Hdlc.RxRing
import Cc1352Greybus.Lib.RingBuffer

/-!
`serial_callback` over the ring buffer with its claims, and what a failed read of the
UART leaves behind.

`serial_callback` claims the room it offers to `uart_fifo_read` and returns without a
finish when the read fails. What was claimed stays claimed until the next finish,
which commits as many bytes as it has read from where the failed read was to put its
own.

* `uartStep_refines`: without a failed read this is the ring buffer of `RxPath`.
* `uart_in_order`: what is passed on then has been read, in order.
* `Dead.foldl`: a read that fails on an empty ring buffer at the start of its storage
  is the last.
* `failed_reads_iff`: failed reads leave the path intact exactly when there are none.
* `failed_read_deafens`: one interrupt that fails and one that does not.
-/

namespace Cc1352Greybus

instance : NeZero HDLC_RX_BUF_SIZE := ⟨by decide⟩

/-! ### The model -/

/-- The UART, `hdlc_rx_ringbuf` and `hdlc_rx_work`. -/
structure UartPath where
  /-- the bytes the UART has received and nobody has read -/
  fifo : List U8
  ring : RingBuffer U8 HDLC_RX_BUF_SIZE
  /-- `hdlc_rx_work` is queued -/
  queued : Bool
  handler : RxHandler
  /-- the bytes read from the UART -/
  read : List U8
  /-- the bytes passed to `hdlc_process_buffer` -/
  passed : List U8

/-- The state as the loader leaves it, over whatever is in the storage. -/
def UartPath.boot (mem : Fin HDLC_RX_BUF_SIZE → U8) : UartPath :=
  ⟨[], RingBuffer.init mem, false, .idle, [], []⟩

namespace UartPath

variable (s : UartPath)

/-- `hdlc_rx_finish` -/
def hdlcRxFinish (written : ℕ) : UartPath :=
  { s with ring := s.ring.putFinish written, queued := true }

/-- `uart_fifo_read` of at most `n` bytes, to an offset of the storage. -/
def uartFifoRead (buf n : ℕ) : UartPath :=
  { s with
    fifo := s.fifo.drop n
    ring := s.ring.write buf (s.fifo.take n)
    read := s.read ++ s.fifo.take n }

/-- `serial_callback`. The UART is `ready` or not, and the read returns `ret`: `none`
if it fails, otherwise as many bytes at most. -/
def serialCallback (ready : Bool) (ret : Option ℕ) : UartPath :=
  if ready = false then s
  else
    -- `hdlc_rx_start` claims what it offers
    let (buf, room) := s.ring.putArea
    let s := { s with ring := s.ring.putClaim }
    if room = 0 then s
    else
      match ret with
      | none => s
      | some n =>
        let bs := s.fifo.take (min n room)
        (s.uartFifoRead buf (min n room)).hdlcRxFinish bs.length

/-- `hdlc_rx_handler` is called. -/
def start : UartPath :=
  if s.handler = .idle then { s with queued := false, handler := .started } else s

/-- Its call of `ring_buf_get_claim`. -/
def claim : UartPath :=
  if s.handler = .started then
    { s with ring := s.ring.getClaim, handler := .claimed s.ring.getData }
  else s

/-- Its call of `hdlc_process_buffer`. -/
def process : UartPath :=
  match s.handler with
  | .claimed data => { s with handler := .processed data.length, passed := s.passed ++ data }
  | _ => s

/-- Its call of `ring_buf_get_finish`, and its return. -/
def finish : UartPath :=
  match s.handler with
  | .processed len => { s with ring := s.ring.getFinish len, handler := .idle }
  | _ => s

end UartPath

/-- Bytes come in, an interrupt, or a step of the handler. -/
inductive UartOp
  | receive (bs : List U8)
  | serialCallback (ready : Bool) (ret : Option ℕ)
  | start
  | claim
  | process
  | finish
  deriving DecidableEq

/-- One step. A step of the handler that is not its next one is none. -/
def uartStep (s : UartPath) : UartOp → UartPath
  | .receive bs => { s with fifo := s.fifo ++ bs }
  | .serialCallback ready ret => s.serialCallback ready ret
  | .start => s.start
  | .claim => s.claim
  | .process => s.process
  | .finish => s.finish

/-- A sequence of steps, from the start. -/
def uartRun (mem : Fin HDLC_RX_BUF_SIZE → U8) (ops : List UartOp) : UartPath :=
  ops.foldl uartStep (.boot mem)

/-- An invocation of `serial_callback` in which the read fails. -/
def UartOp.failed : UartOp := .serialCallback true none

/-- Failed reads leave the path intact: as far as the sequence goes, what has been
passed on is what is passed on without the failed invocations, and the next
`hdlc_rx_start` offers the storage that is free. -/
def Intact (mem : Fin HDLC_RX_BUF_SIZE → U8) (ops : List UartOp) : Prop :=
  ∀ pre, pre <+: ops →
    (uartRun mem pre).passed = (uartRun mem (pre.filter (· ≠ .failed))).passed ∧
      (uartRun mem pre).ring.putArea = (uartRun mem pre).ring.freeArea

/-- No read fails: where one would, there is no room and nothing is read. -/
def NoReadFails (mem : Fin HDLC_RX_BUF_SIZE → U8) (ops : List UartOp) : Prop :=
  ∀ pre post, ops = pre ++ .failed :: post → (uartRun mem pre).ring.putRoom = 0

lemma uartRun_concat (mem : Fin HDLC_RX_BUF_SIZE → U8) (ops : List UartOp) (op : UartOp) :
    uartRun mem (ops ++ [op]) = uartStep (uartRun mem ops) op := by
  rw [uartRun, List.foldl_append]
  rfl

/-! ### One step -/

namespace UartPath

variable {s : UartPath}

/-- Without room nothing happens. -/
lemma serialCallback_full (h : s.ring.putRoom = 0) (ready : Bool) (ret : Option ℕ) :
    s.serialCallback ready ret = s := by
  have hclaim : { s with ring := s.ring.putClaim } = s := by
    rw [RingBuffer.putClaim_eq_self h]
  cases ready with
  | false => rfl
  | true =>
      rw [serialCallback, RingBuffer.putArea, h]
      exact hclaim

/-- A failed read leaves its claim. -/
lemma serialCallback_failed (h : s.ring.putRoom ≠ 0) :
    s.serialCallback true none = { s with ring := s.ring.putClaim } := by
  show (if s.ring.putRoom = 0 then _ else _) = _
  rw [if_neg h]

/-- No more is read than there is room for. -/
lemma take_fifo_le (s : UartPath) (n : ℕ) :
    (s.fifo.take (min n s.ring.putRoom)).length ≤ s.ring.putRoom := by
  rw [List.length_take]
  omega

/-- A read that succeeds puts what it reads. -/
lemma serialCallback_read (h : s.ring.putRoom ≠ 0) (n : ℕ) :
    s.serialCallback true (some n) =
      { s with
        fifo := s.fifo.drop (min n s.ring.putRoom)
        ring := s.ring.put (s.fifo.take (min n s.ring.putRoom))
        queued := true
        read := s.read ++ s.fifo.take (min n s.ring.putRoom) } := by
  show (if s.ring.putRoom = 0 then _ else _) = _
  rw [if_neg h]
  rfl

end UartPath

/-- With nothing claimed to write, one step leaves nothing claimed, unless it is a read
that fails. -/
lemma putHead_eq_of_uartStep {s : UartPath} {op : UartOp} (h : s.ring.putHead = s.ring.putTail)
    (hop : op = .failed → s.ring.putRoom = 0) :
    (uartStep s op).ring.putHead = (uartStep s op).ring.putTail := by
  cases op with
  | receive bs => exact h
  | serialCallback ready ret =>
      by_cases hroom : s.ring.putRoom = 0
      · rw [uartStep, UartPath.serialCallback_full hroom]
        exact h
      cases ready with
      | false => exact h
      | true =>
          cases ret with
          | none => exact absurd (hop rfl) hroom
          | some n =>
              rw [uartStep, UartPath.serialCallback_read hroom]
              obtain ⟨-, hhead, htail, -⟩ := RingBuffer.put_of_le h (s.take_fifo_le n)
              exact hhead.trans htail.symm
  | start =>
      simp only [uartStep, UartPath.start]
      split_ifs <;> exact h
  | claim =>
      simp only [uartStep, UartPath.claim]
      split_ifs <;> exact h
  | process =>
      simp only [uartStep, UartPath.process]
      split <;> exact h
  | finish =>
      simp only [uartStep, UartPath.finish]
      split
      · exact RingBuffer.getFinish_putHead h _
      · exact h

/-! ### Runs with no failed read -/

/-- What holds before every step of a kind does so up to the last step exactly when it
does up to the step before, and before the last. -/
lemma forall_before_concat {α : Type*} {x a : α} {l : List α} {P : List α → Prop} :
    (∀ pre post, l ++ [a] = pre ++ x :: post → P pre) ↔
      (∀ pre post, l = pre ++ x :: post → P pre) ∧ (a = x → P l) := by
  refine ⟨fun h => ⟨fun pre post hl => h pre (post ++ [a]) (by simp [hl]), ?_⟩, ?_⟩
  · rintro rfl
    exact h l [] rfl
  · rintro ⟨hl, ha⟩ pre post hpre
    cases post using List.reverseRecOn with
    | nil =>
        obtain ⟨rfl, hlast⟩ := List.append_inj' hpre rfl
        exact ha (List.cons.inj hlast).1
    | append_singleton post last =>
        rw [← List.cons_append, ← List.append_assoc] at hpre
        exact hl pre post (List.append_inj' hpre rfl).1

lemma NoReadFails.of_prefix {mem : Fin HDLC_RX_BUF_SIZE → U8} {ops pre : List UartOp}
    (h : NoReadFails mem ops) (hpre : pre <+: ops) : NoReadFails mem pre := by
  obtain ⟨rest, rfl⟩ := hpre
  exact fun as bs hpre => h as (bs ++ rest) (by simp [hpre])

/-- **Without a failed read** nothing stays claimed, and the sequence does what it does
without the invocations left out. -/
lemma uartRun_of_noReadFails {mem : Fin HDLC_RX_BUF_SIZE → U8} {ops : List UartOp}
    (h : NoReadFails mem ops) :
    (uartRun mem ops).ring.putHead = (uartRun mem ops).ring.putTail ∧
      uartRun mem (ops.filter (· ≠ .failed)) = uartRun mem ops := by
  induction ops using List.reverseRecOn with
  | nil => exact ⟨rfl, rfl⟩
  | append_singleton ops op ih =>
      obtain ⟨hops, hop⟩ := forall_before_concat.mp h
      obtain ⟨hhead, hsame⟩ := ih hops
      rw [uartRun_concat]
      refine ⟨putHead_eq_of_uartStep hhead hop, ?_⟩
      rw [List.filter_append]
      by_cases hf : op = .failed
      · have hstep : uartStep (uartRun mem ops) .failed = uartRun mem ops :=
          UartPath.serialCallback_full (hop hf) true none
        rw [hf, hstep]
        simpa using hsame
      · simp only [List.filter_singleton, hf, ne_eq, not_false_eq_true, decide_true, cond_true]
        rw [uartRun_concat, hsame]

/-! ### The ring buffer as it is read without its claims -/

/-- The state with what is stored in place of where it is stored. -/
def UartPath.rxPath (s : UartPath) : RxPath :=
  ⟨s.ring.stored, s.ring.getTail % HDLC_RX_BUF_SIZE, s.queued, s.handler, s.read, s.passed⟩

/-- Nothing is claimed but what the handler works on. -/
structure UartTied (s : UartPath) : Prop where
  put : s.ring.putHead = s.ring.putTail
  get : s.ring.getHead = s.ring.getTail + s.handler.claimedLen.getD 0

/-- What `hdlc_rx_start` grants. -/
lemma rxPath_hdlcRxStart {s : UartPath} (h : UartTied s) :
    s.rxPath.hdlcRxStart = s.ring.putRoom := by
  have hle := s.ring.get_le.trans s.ring.got_le
  rw [RxPath.hdlcRxStart, RingBuffer.putRoom, RingBuffer.upToEnd, h.put]
  show min (HDLC_RX_BUF_SIZE - s.ring.stored.length) (HDLC_RX_BUF_SIZE -
    (s.ring.getTail % HDLC_RX_BUF_SIZE + s.ring.stored.length) % HDLC_RX_BUF_SIZE) = _
  rw [RingBuffer.stored_length, Nat.mod_add_mod, Nat.add_sub_cancel' hle]

/-- An interrupt that reads is the other model's. -/
lemma rxPath_serialCallback {s : UartPath} (h : UartTied s) (hroom : s.ring.putRoom ≠ 0) (n : ℕ) :
    UartTied (s.serialCallback true (some n)) ∧
      ringStep s.rxPath (.serialCallback (s.fifo.take (min n s.ring.putRoom)))
        (s.serialCallback true (some n)).rxPath := by
  have hle := s.take_fifo_le n
  obtain ⟨-, hputHead, hputTail, hgetHead, hgetTail⟩ := RingBuffer.put_of_le h.put hle
  rw [UartPath.serialCallback_read hroom]
  refine ⟨⟨hputHead.trans hputTail.symm, ?_⟩, ?_, ?_⟩
  · rw [hgetHead, hgetTail]
    exact h.get
  · rw [rxPath_hdlcRxStart h]
    exact hle
  · rw [RxPath.serialCallback, rxPath_hdlcRxStart h, if_neg hroom]
    simp only [UartPath.rxPath, RingBuffer.stored_put h.put hle, hgetTail]

/-- **One step** is one of the other model's, or none, unless it is a read that fails. -/
theorem uartStep_refines {s : UartPath} {op : UartOp} (h : UartTied s)
    (hop : op = .failed → s.ring.putRoom = 0)
    (hstart : op = .start → s.handler = .idle → s.queued = true) :
    UartTied (uartStep s op) ∧ ((uartStep s op).rxPath = s.rxPath ∨
      ∃ op', ringStep s.rxPath op' (uartStep s op).rxPath) := by
  -- what a step that does nothing leaves
  have hstay : UartTied s ∧ (s.rxPath = s.rxPath ∨ ∃ op', ringStep s.rxPath op' s.rxPath) :=
    ⟨h, Or.inl rfl⟩
  cases op with
  | receive bs => exact ⟨⟨h.put, h.get⟩, Or.inl rfl⟩
  | serialCallback ready ret =>
      -- no room: the read is not made
      by_cases hroom : s.ring.putRoom = 0
      · rw [uartStep, UartPath.serialCallback_full hroom]
        exact hstay
      cases ready with
      | false => exact hstay
      | true =>
          cases ret with
          -- a read fails only where there is no room for it
          | none => exact absurd (hop rfl) hroom
          | some n =>
              obtain ⟨htied, hstep⟩ := rxPath_serialCallback h hroom n
              exact ⟨htied, Or.inr ⟨_, hstep⟩⟩
  | start =>
      simp only [uartStep, UartPath.start]
      split_ifs with hidle
      · have hget := h.get
        rw [hidle] at hget
        exact ⟨⟨h.put, hget⟩, Or.inr ⟨.start, hstart rfl hidle, hidle, rfl⟩⟩
      · exact hstay
  | claim =>
      simp only [uartStep, UartPath.claim]
      split_ifs with hstarted
      -- nothing is claimed when the handler starts, so that its claim is the other model's
      · have hget : s.ring.getHead = s.ring.getTail := by
          rw [h.get, hstarted]
          rfl
        have hdata : s.ring.getData = s.rxPath.ringBufGetClaim := RingBuffer.getData_eq hget
        refine ⟨⟨h.put, ?_⟩, Or.inr ⟨.claim, hstarted, ?_⟩⟩
        · show s.ring.getHead + s.ring.getRoom = s.ring.getTail + s.ring.getData.length
          rw [hget, RingBuffer.getData, RingBuffer.places_length]
        · rw [RxPath.claim, ← hdata]
          rfl
      · exact hstay
  | process =>
      simp only [uartStep, UartPath.process]
      split
      · next data hdata =>
          have hget := h.get
          rw [hdata] at hget
          exact ⟨⟨h.put, hget⟩, Or.inr ⟨.process, data, hdata, rfl⟩⟩
      · exact hstay
  | finish =>
      simp only [uartStep, UartPath.finish]
      split
      · next len hlen =>
          -- what is finished is what has been claimed
          have hclaimed : len ≤ s.ring.getHead - s.ring.getTail := by
            rw [h.get, hlen]
            exact (Nat.add_sub_cancel_left _ _).ge
          obtain ⟨-, -, -, hgetHead, hgetTail⟩ := RingBuffer.getFinish_of_le hclaimed
          refine ⟨⟨RingBuffer.getFinish_putHead h.put _, hgetHead.trans hgetTail.symm⟩,
            Or.inr ⟨.finish, len, hlen, ?_⟩⟩
          simp only [UartPath.rxPath, RxPath.finish, RingBuffer.stored_getFinish hclaimed, hgetTail,
            Nat.mod_add_mod]
      · exact hstay

/-- The handler runs when it has been submitted. -/
def StartsSubmitted (mem : Fin HDLC_RX_BUF_SIZE → U8) (ops : List UartOp) : Prop :=
  ∀ pre post, ops = pre ++ .start :: post →
    (uartRun mem pre).handler = .idle → (uartRun mem pre).queued = true

/-- A sequence without a failed read is a run of the other model. -/
theorem uartRun_refines {mem : Fin HDLC_RX_BUF_SIZE → U8} {ops : List UartOp}
    (h : NoReadFails mem ops) (hstart : StartsSubmitted mem ops) :
    UartTied (uartRun mem ops) ∧ ∃ l, Run ringStep .boot l (uartRun mem ops).rxPath := by
  induction ops using List.reverseRecOn with
  | nil => exact ⟨⟨rfl, rfl⟩, [], Run.nil⟩
  | append_singleton ops op ih =>
      obtain ⟨hops, hop⟩ := forall_before_concat.mp h
      obtain ⟨hstarts, hlast⟩ := forall_before_concat.mp hstart
      obtain ⟨htied, l, hrun⟩ := ih hops hstarts
      rw [uartRun_concat]
      obtain ⟨htied', hstep⟩ := uartStep_refines htied hop hlast
      refine ⟨htied', ?_⟩
      cases hstep with
      | inl hsame => exact ⟨l, hsame ▸ hrun⟩
      | inr hstep =>
          obtain ⟨op', hstep⟩ := hstep
          exact ⟨_, hrun.snoc hstep⟩

/-- **In order**: what has been passed on is what has been read, as far as it goes. -/
theorem uart_in_order {mem : Fin HDLC_RX_BUF_SIZE → U8} {ops : List UartOp}
    (h : NoReadFails mem ops) (hstart : StartsSubmitted mem ops) :
    (uartRun mem ops).passed <+: (uartRun mem ops).read := by
  obtain ⟨-, l, hrun⟩ := uartRun_refines h hstart
  have htied : RingTied (uartRun mem ops).rxPath :=
    (hrun.invariant (I := RingTied) (G := fun _ _ _ => True) ringTied_boot
      (fun _ _ _ h hstep _ => ringTied_step h hstep) fun _ _ => trivial).1
  exact htied.passed_prefix

/-! ### What a failed read leaves -/

/-- All of the storage is claimed to write and nothing is committed. -/
structure Dead (s : UartPath) : Prop where
  claimed : s.ring.putHead = s.ring.getTail + HDLC_RX_BUF_SIZE
  nothing : s.ring.putTail = s.ring.getTail
  handler : ∀ len, s.handler.claimedLen = some len → len = 0

/-- A read that fails when the free storage is all of it. -/
lemma dead_of_failed {s : UartPath} (h : UartTied s) (hidle : s.handler.claimedLen = none)
    (hempty : s.ring.putTail = s.ring.getTail)
    (hstart : s.ring.putTail % HDLC_RX_BUF_SIZE = 0) : Dead (uartStep s .failed) := by
  have hsize : 0 < HDLC_RX_BUF_SIZE := by decide
  have hroom : s.ring.putRoom = HDLC_RX_BUF_SIZE := by
    rw [RingBuffer.putRoom, RingBuffer.upToEnd, h.put, hempty, ← hempty, hstart]
    omega
  have hstep : uartStep s .failed = { s with ring := s.ring.putClaim } :=
    UartPath.serialCallback_failed (by rw [hroom]; exact hsize.ne')
  rw [hstep]
  refine ⟨?_, hempty, fun len hlen => ?_⟩
  · show s.ring.putHead + s.ring.putRoom = s.ring.getTail + HDLC_RX_BUF_SIZE
    rw [hroom, h.put, hempty]
  · rw [show ({ s with ring := s.ring.putClaim } : UartPath).handler = s.handler from rfl,
      hidle] at hlen
    cases hlen

/-- Then no step reads or passes on anything any more. -/
lemma Dead.step {s : UartPath} (h : Dead s) (op : UartOp) :
    Dead (uartStep s op) ∧ (uartStep s op).read = s.read ∧
      (uartStep s op).passed = s.passed := by
  have hstay : Dead s ∧ s.read = s.read ∧ s.passed = s.passed := ⟨h, rfl, rfl⟩
  -- no room to write and nothing to claim, whatever the handler does
  have hget : s.ring.getRoom = 0 := by
    have := s.ring.get_le
    have := h.nothing
    rw [RingBuffer.getRoom, RingBuffer.upToEnd]
    omega
  cases op with
  | receive bs => exact ⟨⟨h.claimed, h.nothing, h.handler⟩, rfl, rfl⟩
  | serialCallback ready ret =>
      have hroom : s.ring.putRoom = 0 := by
        rw [RingBuffer.putRoom, RingBuffer.upToEnd, h.claimed]
        omega
      rw [uartStep, UartPath.serialCallback_full hroom]
      exact hstay
  | start =>
      simp only [uartStep, UartPath.start]
      split_ifs
      · exact ⟨⟨h.claimed, h.nothing, by simp [RxHandler.claimedLen]⟩, rfl, rfl⟩
      · exact hstay
  | claim =>
      have hdata : s.ring.getData = [] := by rw [RingBuffer.getData, hget]; rfl
      simp only [uartStep, UartPath.claim]
      split_ifs
      · exact ⟨⟨h.claimed, h.nothing, by simp [RxHandler.claimedLen, hdata]⟩, rfl, rfl⟩
      · exact hstay
  | process =>
      simp only [uartStep, UartPath.process]
      split
      · next data hdata =>
          have hlen : data.length = 0 := h.handler _ (by rw [hdata]; rfl)
          refine ⟨⟨h.claimed, h.nothing, by simp [RxHandler.claimedLen, hlen]⟩, rfl, ?_⟩
          rw [List.length_eq_zero_iff.mp hlen, List.append_nil]
      · exact hstay
  | finish =>
      simp only [uartStep, UartPath.finish]
      split
      · next len hlen =>
          obtain rfl : len = 0 := h.handler _ (by rw [hlen]; rfl)
          obtain ⟨-, hputHead, hputTail, -, hgetTail⟩ :=
            RingBuffer.getFinish_of_le (r := s.ring) (Nat.zero_le _)
          refine ⟨⟨?_, ?_, by simp [RxHandler.claimedLen]⟩, rfl, rfl⟩
          · rw [hputHead, hgetTail]
            exact h.claimed
          · rw [hputTail, hgetTail]
            exact h.nothing
      · exact hstay

/-- **The path is dead** for the rest of any sequence. -/
theorem Dead.foldl {s : UartPath} (h : Dead s) (ops : List UartOp) :
    Dead (ops.foldl uartStep s) ∧ (ops.foldl uartStep s).read = s.read ∧
      (ops.foldl uartStep s).passed = s.passed := by
  induction ops generalizing s with
  | nil => exact ⟨h, rfl, rfl⟩
  | cons op ops ih =>
      obtain ⟨hdead, hread, hpassed⟩ := h.step op
      obtain ⟨hdead', hread', hpassed'⟩ := ih hdead
      exact ⟨hdead', hread'.trans hread, hpassed'.trans hpassed⟩

/-- **A failed read leaves the receive path intact** exactly when there is none. -/
theorem failed_reads_iff (mem : Fin HDLC_RX_BUF_SIZE → U8) (ops : List UartOp) :
    Intact mem ops ↔ NoReadFails mem ops := by
  refine ⟨fun h pre post hops => ?_, fun h pre hpre => ?_⟩
  · by_contra hroom
    have hbefore := (RingBuffer.putArea_eq_freeArea_iff _ (by decide)).mp
      (h pre ⟨_, hops.symm⟩).2
    have hafter := (RingBuffer.putArea_eq_freeArea_iff _ (by decide)).mp
      (h (pre ++ [.failed]) ⟨post, by simp [hops]⟩).2
    rw [uartRun_concat, UartOp.failed, uartStep, UartPath.serialCallback_failed hroom] at hafter
    have hclaim : (uartRun mem pre).ring.putHead + (uartRun mem pre).ring.putRoom =
        (uartRun mem pre).ring.putTail := hafter
    omega
  · obtain ⟨hhead, hsame⟩ := uartRun_of_noReadFails (h.of_prefix hpre)
    exact ⟨by rw [hsame], (RingBuffer.putArea_eq_freeArea_iff _ (by decide)).mpr hhead⟩

/-- An interrupt whose read fails, one whose read does not, and the handler. -/
def deafening : List UartOp :=
  [.failed, .receive [0x7E], .serialCallback true (some 1), .start, .claim, .process]

/-- The byte that comes in after the read that fails never reaches the receiver. -/
theorem failed_read_deafens :
    ¬ ∀ (mem : Fin HDLC_RX_BUF_SIZE → U8) (ops : List UartOp), Intact mem ops := by
  intro h
  have hdead : Dead (uartStep (.boot fun _ => 0) .failed) :=
    dead_of_failed ⟨rfl, rfl⟩ rfl rfl rfl
  have hnothing : (uartRun (fun _ => 0) deafening).passed = [] := (hdead.foldl _).2.2
  have hbyte : (uartRun (fun _ => 0) (deafening.filter (· ≠ .failed))).passed = [0x7E] := by
    decide +kernel
  obtain ⟨hsame, -⟩ := h (fun _ => 0) deafening deafening List.prefix_rfl
  rw [hnothing, hbyte] at hsame
  cases hsame

end Cc1352Greybus
