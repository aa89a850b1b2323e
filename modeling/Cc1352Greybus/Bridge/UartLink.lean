import Cc1352Greybus.Greybus.System
import Cc1352Greybus.Hdlc.FailedReads
import Cc1352Greybus.Hdlc.RoundTrip

/-!
The firmware behind its UART: the interrupts that fill the ring buffer, the work item
that empties it into the receiver byte by byte, and the threads that run meanwhile.

* `linkStep`: one of these does its next step.
* `LinkTied`: what the receiver has been given, against what the UART has received.
* `link_refines`: whatever the order, this does what `systemStep` does, and the frames
  among its steps are the blocks the AP has sent, in order.
-/

namespace Cc1352Greybus

open Effects

variable {cfg : Config} (env : Env)

/-! ### The model -/

/-- The frame of a step that is one. -/
def SystemOp.frame? : SystemOp → Option RxFrame
  | .frame f => some f
  | _ => none

/-- The receive path, the driver behind it, and the firmware behind that. -/
structure UartLink (cfg : Config) where
  path : UartPath
  /-- what `hdlc_process_buffer` has been passed and has yet to input -/
  todo : List U8
  drv : HdlcDriver cfg
  fw : Fw cfg
  /-- the bytes the UART has received -/
  line : List U8
  /-- the frames that have been handled, and what the other threads have done -/
  did : List SystemOp

/-- The state `main` leaves once it has enabled the interrupt. -/
def UartLink.boot (mem : Fin HDLC_RX_BUF_SIZE → U8) (drv : HdlcDriver cfg) (fw : Fw cfg) :
    UartLink cfg :=
  ⟨.boot mem, [], hdlcInit drv, fw, [], []⟩

/-- Who does the next step. -/
inductive LinkOp
  /-- the UART, its interrupt, or the work item outside of `hdlc_process_buffer` -/
  | uart (op : UartOp)
  /-- `hdlc_process_buffer` inputs its next byte -/
  | input
  /-- another thread -/
  | thread (op : SystemOp)

/-- What a step of the receive path asks for: the work queue takes up what has been
submitted, and `hdlc_process_buffer` is called with what is claimed and inputs all of
it before it returns. -/
def UartLink.MayUart (s : UartLink cfg) : UartOp → Prop
  | .start => s.path.handler = .idle → s.path.queued = true
  | .process => ∃ data, s.path.handler = .claimed data
  | .finish => s.todo = []
  | _ => True

/-- What it leaves to input. -/
def UartLink.todoAfter (s : UartLink cfg) : UartOp → List U8
  | .process =>
    match s.path.handler with
    | .claimed data => data
    | _ => s.todo
  | _ => s.todo

/-- What it adds to what has been received. -/
def UartOp.received : UartOp → List U8
  | .receive bs => bs
  | _ => []

/-- A step of the receive path. -/
def UartLink.uart (s : UartLink cfg) (op : UartOp) : UartLink cfg :=
  { s with
    path := uartStep s.path op
    todo := s.todoAfter op
    line := s.line ++ op.received }

/-- One step. A frame that a byte completes is handled to its end, and another thread does a
whole step of the system's: nothing comes into the middle of either. -/
def linkStep (s : UartLink cfg) (op : LinkOp) (s' : UartLink cfg) : Prop :=
  match op with
  | .uart op => s.MayUart op ∧ s' = s.uart op
  | .input => ∃ b todo fw, s.todo = b :: todo ∧
      Ends (frameCallback env (hdlcRxInputByte s.drv b).2) s.fw () fw ∧ s' = { s with
        todo := todo
        drv := (hdlcRxInputByte s.drv b).1
        fw := fw
        did := s.did ++ (hdlcRxInputByte s.drv b).2.toList.map .frame }
  | .thread op => op.frame? = none ∧ ∃ fw, systemStep env s.fw op fw ∧ s' = { s with
      fw := fw
      did := s.did ++ [op] }

/-- Nothing is on its way from the UART to the receiver. -/
structure UartLink.Drained (s : UartLink cfg) : Prop where
  fifo : s.path.fifo = []
  ring : s.path.ring.stored = []
  todo : s.todo = []

/-- No read fails where there is room for it. -/
def ReadsSucceed (ls : List (RunStep (UartLink cfg) LinkOp)) : Prop :=
  ∀ t ∈ ls, t.label = .uart .failed → t.pre.path.ring.putRoom = 0

/-! ### What the receiver has been given -/

/-- The frames among the steps. -/
def UartLink.frames (s : UartLink cfg) : List RxFrame := s.did.filterMap SystemOp.frame?

/-- The receiver has input what has been passed on, up to what it has yet to. -/
structure LinkTied (drv : HdlcDriver cfg) (s : UartLink cfg) : Prop where
  uart : UartTied s.path
  ring : RingTied s.path.rxPath
  line : s.path.read ++ s.path.fifo = s.line
  working : s.todo ≠ [] → ∃ len, s.path.handler = .processed len
  input : ∃ done, s.path.passed = done ++ s.todo ∧
    hdlcProcessBuffer (hdlcInit drv) done = (s.drv, s.frames)

variable {env} {drv : HdlcDriver cfg}

lemma linkTied_boot (mem : Fin HDLC_RX_BUF_SIZE → U8) (fw : Fw cfg) :
    LinkTied drv (.boot mem drv fw) where
  uart := ⟨rfl, rfl⟩
  ring := ringTied_boot
  line := rfl
  working h := absurd rfl h
  input := ⟨[], rfl, rfl⟩

/-- What the UART has received is read, or is yet to be. -/
lemma uartStep_line (s : UartPath) (op : UartOp) :
    (uartStep s op).read ++ (uartStep s op).fifo = s.read ++ s.fifo ++ op.received := by
  have hstay : s.read ++ s.fifo = s.read ++ s.fifo ++ [] := (List.append_nil _).symm
  cases op with
  | receive bs => exact (List.append_assoc _ _ _).symm
  | serialCallback ready ret =>
      -- a read moves bytes from the FIFO to what has been read; no other step does
      by_cases hroom : s.ring.putRoom = 0
      · rw [uartStep, UartPath.serialCallback_full hroom]
        exact hstay
      cases ready with
      | false => exact hstay
      | true =>
          cases ret with
          | none =>
              rw [uartStep, UartPath.serialCallback_failed hroom]
              exact hstay
          | some n =>
              rw [uartStep, UartPath.serialCallback_read hroom]
              show s.read ++ s.fifo.take _ ++ s.fifo.drop _ = _
              rw [List.append_assoc, List.take_append_drop]
              exact hstay
  | start =>
      simp only [uartStep, UartPath.start]
      split_ifs <;> exact hstay
  | claim =>
      simp only [uartStep, UartPath.claim]
      split_ifs <;> exact hstay
  | process =>
      simp only [uartStep, UartPath.process]
      split <;> exact hstay
  | finish =>
      simp only [uartStep, UartPath.finish]
      split <;> exact hstay

/-- Only `process` passes anything on. -/
lemma uartStep_passed {s : UartPath} {op : UartOp} (h : op ≠ .process) :
    (uartStep s op).passed = s.passed := by
  cases op with
  | receive bs => rfl
  | serialCallback ready ret =>
      simp only [uartStep, UartPath.serialCallback]
      split_ifs
      · rfl
      · rfl
      · cases ret <;> rfl
  | start =>
      simp only [uartStep, UartPath.start]
      split_ifs <;> rfl
  | claim =>
      simp only [uartStep, UartPath.claim]
      split_ifs <;> rfl
  | process => exact absurd rfl h
  | finish =>
      simp only [uartStep, UartPath.finish]
      split <;> rfl

/-- A handler that is in `hdlc_process_buffer` stays there until it finishes. -/
lemma uartStep_processed {s : UartPath} {len : ℕ} (h : s.handler = .processed len) {op : UartOp}
    (hop : op ≠ .finish) : (uartStep s op).handler = .processed len := by
  cases op with
  | receive bs => exact h
  | serialCallback ready ret =>
      simp only [uartStep, UartPath.serialCallback]
      split_ifs
      · exact h
      · exact h
      · cases ret <;> exact h
  | start => simp [uartStep, UartPath.start, h]
  | claim => simp [uartStep, UartPath.claim, h]
  | process => simp [uartStep, UartPath.process, h]
  | finish => exact absurd rfl hop

lemma UartLink.todoAfter_of_ne (s : UartLink cfg) {op : UartOp} (h : op ≠ .process) :
    s.todoAfter op = s.todo := by
  cases op with
  | process => exact absurd rfl h
  | _ => rfl

/-- One step of the receive path leaves the receiver with what it has been given. -/
lemma LinkTied.uart_step {s : UartLink cfg} (h : LinkTied drv s) {op : UartOp}
    (hread : op = .failed → s.path.ring.putRoom = 0) (hmay : s.MayUart op) :
    LinkTied drv (s.uart op) := by
  have hstart : op = .start → s.path.handler = .idle → s.path.queued = true := by
    rintro rfl
    exact hmay
  obtain ⟨huart, hstep⟩ := uartStep_refines h.uart hread hstart
  have hring : RingTied (uartStep s.path op).rxPath := by
    rcases hstep with hsame | ⟨op', hstep⟩
    · exact hsame ▸ h.ring
    · exact ringTied_step h.ring hstep
  obtain ⟨done, hdone, hinput⟩ := h.input
  have hline : (uartStep s.path op).read ++ (uartStep s.path op).fifo =
      s.line ++ op.received := by
    rw [uartStep_line, h.line]
  refine ⟨huart, hring, hline, ?_, done, ?_, hinput⟩
  · show s.todoAfter op ≠ [] → ∃ len, (uartStep s.path op).handler = .processed len
    by_cases hop : op = .process
    · subst hop
      obtain ⟨data, hdata⟩ := hmay
      exact fun _ => ⟨data.length, by simp [uartStep, UartPath.process, hdata]⟩
    · intro htodo
      rw [s.todoAfter_of_ne hop] at htodo
      obtain ⟨len, hlen⟩ := h.working htodo
      refine ⟨len, uartStep_processed hlen ?_⟩
      rintro rfl
      exact htodo hmay
  · show (uartStep s.path op).passed = done ++ s.todoAfter op
    by_cases hop : op = .process
    · subst hop
      obtain ⟨data, hdata⟩ := hmay
      -- nothing is left to input while something is claimed
      have htodo : s.todo = [] := by
        by_contra htodo
        obtain ⟨len, hlen⟩ := h.working htodo
        cases hdata.symm.trans hlen
      have hpassed : (uartStep s.path .process).passed = s.path.passed ++ data := by
        simp [uartStep, UartPath.process, hdata]
      rw [hpassed, hdone, htodo, List.append_nil, UartLink.todoAfter, hdata]
    · rw [uartStep_passed hop, s.todoAfter_of_ne hop, hdone]

/-- So does a byte that is input. -/
lemma LinkTied.input_step {s : UartLink cfg} (h : LinkTied drv s) {b : U8} {todo : List U8}
    (htodo : s.todo = b :: todo) (fw : Fw cfg) :
    LinkTied drv { s with
      todo := todo
      drv := (hdlcRxInputByte s.drv b).1
      fw := fw
      did := s.did ++ (hdlcRxInputByte s.drv b).2.toList.map .frame } := by
  obtain ⟨done, hdone, hinput⟩ := h.input
  refine ⟨h.uart, h.ring, h.line, fun _ => h.working (by simp [htodo]), done ++ [b], ?_, ?_⟩
  · show s.path.passed = done ++ [b] ++ todo
    rw [hdone, htodo, List.append_assoc]
    rfl
  · rw [hdlcProcessBuffer_append, hinput]
    simp only [UartLink.frames, List.filterMap_append, hdlcProcessBuffer]
    cases (hdlcRxInputByte s.drv b).2 <;> rfl

/-- What is done in one step is done by the system, and the receiver has been given
what it has been given. -/
lemma linkStep_refines {fw : Fw cfg} {s s' : UartLink cfg} {op : LinkOp}
    (h : LinkTied drv s ∧
      ∃ l, Run (systemStep env) fw l s.fw ∧ l.map RunStep.label = s.did)
    (hstep : linkStep env s op s') (hread : op = .uart .failed → s.path.ring.putRoom = 0) :
    LinkTied drv s' ∧ ∃ l, Run (systemStep env) fw l s'.fw ∧ l.map RunStep.label = s'.did := by
  obtain ⟨htied, l, hrun, hdid⟩ := h
  cases op with
  | uart op =>
      obtain ⟨hmay, rfl⟩ := hstep
      exact ⟨htied.uart_step (fun hop => hread (by rw [hop])) hmay, l, hrun, hdid⟩
  | input =>
      obtain ⟨b, todo, fw', htodo, hcall, rfl⟩ := hstep
      refine ⟨htied.input_step htodo fw', ?_⟩
      -- inside a frame nothing is handled; at its end the frame is a step of the system
      cases hframe : (hdlcRxInputByte s.drv b).2 with
      | none =>
          rw [hframe] at hcall
          obtain ⟨-, rfl⟩ := ends_pure.mp hcall
          exact ⟨l, hrun, by simpa using hdid⟩
      | some f =>
          rw [hframe] at hcall
          obtain ⟨ret, hret⟩ := ends_discard.mp hcall
          have hhandled : systemStep env s.fw (.frame f) fw' := ⟨ret, hret⟩
          exact ⟨_, hrun.snoc hhandled, by simp [hdid]⟩
  | thread op =>
      obtain ⟨hframe, fw', hthread, rfl⟩ := hstep
      obtain ⟨done, hdone, hinput⟩ := htied.input
      have hframes : ({ s with fw := fw', did := s.did ++ [op] } : UartLink cfg).frames =
          s.frames := by
        simp [UartLink.frames, hframe]
      exact ⟨⟨htied.uart, htied.ring, htied.line, htied.working, done, hdone, by
        rw [hframes, hinput]⟩, _, hrun.snoc hthread, by simp [hdid]⟩

/-! ### Whole runs -/

/-- **Everything the receiver has been given** has been received, in order, and all of
it if nothing is on its way. -/
lemma LinkTied.frames_eq {s : UartLink cfg} (h : LinkTied drv s) :
    ∃ done, done <+: s.line ∧ (s.Drained → done = s.line) ∧
      (hdlcProcessBuffer (hdlcInit drv) done).2 = s.frames := by
  obtain ⟨done, hdone, hinput⟩ := h.input
  have hread : s.path.passed ++ s.path.ring.stored.drop s.path.rxPath.inFlight = s.path.read :=
    h.ring.order
  refine ⟨done, ⟨s.todo ++ s.path.ring.stored.drop s.path.rxPath.inFlight ++ s.path.fifo, ?_⟩,
    fun hdrained => ?_, by rw [hinput]⟩
  · rw [← h.line, ← hread, hdone]
    simp
  · rw [← h.line, ← hread, hdone, hdrained.todo, hdrained.ring, hdrained.fifo]
    simp

/-- An idle receiver hands over the blocks of a stream, as far as it has it. -/
lemma processBuffer_blocks {d : HdlcDriver cfg} (hd : d.Idle) (sendSeq : U8) {bs : List Block}
    (hbs : ∀ b ∈ bs, b.Receivable cfg) :
    (hdlcProcessBuffer d (bs.flatMap (Block.sent sendSeq))).2.map RxFrame.told =
      bs.map Block.told := by
  induction bs generalizing d with
  | nil => rfl
  | cons b bs ih =>
      rw [List.forall_mem_cons] at hbs
      obtain ⟨htold, hidle⟩ := processBuffer_block hd sendSeq hbs.1
      rw [List.flatMap_cons, hdlcProcessBuffer_append, List.map_append, htold, ih hidle hbs.2]
      rfl

/-- **The link refines the system**: in every run of the interrupts, the work item and
the threads (whose calls are each made in one piece) in which no read fails, the firmware does
steps of `systemStep`, and the frames among them are what an AP that sends whole blocks has sent,
in order: none is lost, doubled or made up, and none is missing once nothing is on its way. -/
theorem link_refines {mem : Fin HDLC_RX_BUF_SIZE → U8} {fw : Fw cfg} {s : UartLink cfg}
    {ls : List (RunStep (UartLink cfg) LinkOp)}
    (hrun : Run (linkStep env) (.boot mem drv fw) ls s) (hreads : ReadsSucceed ls)
    (sendSeq : U8) {bs : List Block} (hbs : ∀ b ∈ bs, b.Receivable cfg)
    (hline : s.line <+: bs.flatMap (Block.sent sendSeq)) :
    (∃ l, Run (systemStep env) fw l s.fw ∧ l.map RunStep.label = s.did) ∧
      s.frames.map RxFrame.told <+: bs.map Block.told ∧
      (s.Drained → s.line = bs.flatMap (Block.sent sendSeq) →
        s.frames.map RxFrame.told = bs.map Block.told) := by
  obtain ⟨htied, hsystem⟩ := (hrun.invariant
    (I := fun s => LinkTied drv s ∧
      ∃ l, Run (systemStep env) fw l s.fw ∧ l.map RunStep.label = s.did)
    (G := fun s (op : LinkOp) _ => op = .uart .failed → s.path.ring.putRoom = 0)
    ⟨linkTied_boot mem fw, [], .nil, rfl⟩
    (fun _ _ _ h hstep hread => linkStep_refines h hstep hread) hreads).1
  obtain ⟨done, hdone, hall, hframes⟩ := htied.frames_eq
  have hblocks := processBuffer_blocks (idle_hdlcInit drv) sendSeq hbs
  refine ⟨hsystem, ?_, fun hdrained hsent => ?_⟩
  · obtain ⟨rest, hrest⟩ := hdone.trans hline
    rw [← hframes, ← hblocks, ← hrest, hdlcProcessBuffer_append, List.map_append]
    exact List.prefix_append _ _
  · rw [← hframes, hall hdrained, hsent, hblocks]

/-! ### A run -/

/-- The next byte is input. -/
def UartLink.takeIn (s : UartLink cfg) (env : Env) : UartLink cfg :=
  { s with
    todo := s.todo.tail
    drv := (hdlcRxInputByte s.drv s.todo.headI).1
    fw := final (frameCallback env (hdlcRxInputByte s.drv s.todo.headI).2) s.fw
    did := s.did ++ (hdlcRxInputByte s.drv s.todo.headI).2.toList.map .frame }

/-- There is a next byte, and its callback comes to its end. -/
def UartLink.MayTakeIn (s : UartLink cfg) (env : Env) : Prop :=
  s.todo ≠ [] ∧
    result (frameCallback env (hdlcRxInputByte s.drv s.todo.headI).2) s.fw = some ()

instance (s : UartLink cfg) (env : Env) : Decidable (s.MayTakeIn env) :=
  inferInstanceAs (Decidable (_ ∧ _))

/-- So it is, as long as that is so. -/
lemma run_takeIn {s : UartLink cfg} (n : ℕ)
    (h : ∀ k < n, ((UartLink.takeIn · env)^[k] s).MayTakeIn env) :
    ∃ ls, Run (linkStep env) s ls ((UartLink.takeIn · env)^[n] s) ∧
      ∀ t ∈ ls, t.label = .input := by
  induction n with
  | zero => exact ⟨[], .nil, by simp⟩
  | succ n ih =>
      obtain ⟨ls, hrun, hls⟩ := ih fun k hk => h k (Nat.lt_succ_of_lt hk)
      obtain ⟨hne, hends⟩ := h n (Nat.lt_succ_self n)
      rw [Function.iterate_succ_apply']
      have hstep : linkStep env ((UartLink.takeIn · env)^[n] s) .input
          (((UartLink.takeIn · env)^[n] s).takeIn env) :=
        ⟨_, _, _, (List.cons_head!_tail hne).symm, ends_final hends, rfl⟩
      refine ⟨_, hrun.snoc hstep, fun t ht => ?_⟩
      rcases List.mem_append.mp ht with ht | ht
      · exact hls t ht
      · rw [List.mem_singleton.mp ht]

/-- The AP starts the SVC. -/
def startBlock : Block := ⟨ADDRESS_CONTROL, 0x03, [CONTROL_SVC_START]⟩

/-- Its block has come in, and the interrupt has read it. -/
def blockRead : UartLink .prjConf :=
  ((UartLink.boot (fun _ => 0) (zeroDriver .prjConf) (.boot .prjConf)).uart
    (.receive (startBlock.sent 0))).uart (.serialCallback true (some 7))

/-- The work item has passed it on. -/
def blockPassed : UartLink .prjConf := ((blockRead.uart .start).uart .claim).uart .process

/-- All of it is input, the frame is handled, and the work item returns. -/
def blockHandled : UartLink .prjConf :=
  ((UartLink.takeIn · calmEnv)^[7] blockPassed).uart .finish

/-- Discovery finds a node. -/
def nodeFoundBehind : UartLink .prjConf :=
  { blockHandled with
    fw := final (nodeFilter calmEnv [1]) blockHandled.fw
    did := blockHandled.did ++ [.filter [1]] }

/-- The frame of the AP is among the steps of the firmware, as is that of the other thread. -/
theorem link_refines_start :
    (∃ l, Run (systemStep calmEnv) (.boot .prjConf) l nodeFoundBehind.fw ∧
      l.map RunStep.label = nodeFoundBehind.did) ∧
      nodeFoundBehind.frames.map RxFrame.told <+: [startBlock].map Block.told ∧
      (nodeFoundBehind.Drained → nodeFoundBehind.line = [startBlock].flatMap (Block.sent 0) →
        nodeFoundBehind.frames.map RxFrame.told = [startBlock].map Block.told) := by
  have hreceive : linkStep calmEnv
      (.boot (fun _ => 0) (zeroDriver .prjConf) (.boot .prjConf))
      (.uart (.receive (startBlock.sent 0))) _ := ⟨trivial, rfl⟩
  have hread : linkStep calmEnv _ (.uart (.serialCallback true (some 7))) blockRead :=
    ⟨trivial, rfl⟩
  have hstart : linkStep calmEnv blockRead (.uart .start) _ := ⟨fun _ => by decide +kernel, rfl⟩
  have hclaim : linkStep calmEnv _ (.uart .claim) ((blockRead.uart .start).uart .claim) :=
    ⟨trivial, rfl⟩
  have hprocess : linkStep calmEnv _ (.uart .process) blockPassed :=
    ⟨⟨startBlock.sent 0, by decide +kernel⟩, rfl⟩
  have hmay : ∀ k < 7, ((UartLink.takeIn · calmEnv)^[k] blockPassed).MayTakeIn calmEnv := by
    decide +kernel
  obtain ⟨ls, hinput, hls⟩ := run_takeIn 7 hmay
  have htodo : ((UartLink.takeIn · calmEnv)^[7] blockPassed).todo = [] := by decide +kernel
  have hfinish : linkStep calmEnv _ (.uart .finish) blockHandled := ⟨htodo, rfl⟩
  have hthread : linkStep calmEnv blockHandled (.thread (.filter [1])) nodeFoundBehind :=
    ⟨rfl, _, ends_final (by decide +kernel), rfl⟩
  have hrun := (((((((Run.single hreceive).snoc hread).snoc hstart).snoc hclaim).snoc
    hprocess).append hinput).snoc hfinish).snoc hthread
  have hline : nodeFoundBehind.line = startBlock.sent 0 := by decide +kernel
  refine link_refines hrun (fun t ht hfailed => ?_) 0 ?_ ?_
  · -- no read fails
    simp only [List.mem_append, List.mem_singleton] at ht
    obtain ((((((rfl | rfl) | rfl) | rfl) | rfl) | ht) | rfl) | rfl := ht
    all_goals first
      | cases hfailed
      | cases (hls t ht).symm.trans hfailed
  · intro b hb
    rw [List.mem_singleton.mp hb]
    exact ⟨by decide, by decide⟩
  · rw [hline]
    simp

/-- It is the frame of the block. -/
example : nodeFoundBehind.frames.map RxFrame.told = [startBlock.told] := by decide +kernel

end Cc1352Greybus
