import Cc1352Greybus.Acts.Step
import Cc1352Greybus.Heap.Leaks

/-!
What goes out on the sockets of the nodes, over whole runs.

* `Act.NoWrite`: what is done besides a write puts nothing on a socket, but for the byte
  of `pipe_send`, where `local_pipe_writer` is the descriptor of the socket.
* `nodeInfWrite_puts`: a message for a node, on its socket.
* `ForNode`, `Puts`: what a step is to put on a socket.
* `sockets_in_order`: what has gone out on a socket, in any run.
-/

namespace Cc1352Greybus

open Effects

variable {cfg : Config} {env : Env}

/-! ### Nothing on a socket -/

/-- Nothing is written to a node. -/
def Event.NoWrite (e : Event) : Prop := ∀ sock bs, e ≠ .sockSend sock bs

/-- Nothing goes out on a socket. -/
structure Event.OffSockets (e : Event) : Prop where
  noWrite : e.NoWrite
  noPipe : ∀ fd, e ≠ .pipeSend fd

/-- What goes out then is what `pipe_send` puts there. -/
lemma sentOn_noWrite {tr : List Event} (h : ∀ e ∈ tr, e.NoWrite) (fd : ℤ) :
    sentOn fd tr = List.replicate (tr.count (.pipeSend fd)) 0 := by
  induction tr with
  | nil => rfl
  | cons e tr ih =>
      have hsent : sentOn fd (e :: tr) = sentOn fd [e] ++ sentOn fd tr := sentOn_append fd [e] tr
      rw [hsent, ih fun e he => h e (List.mem_cons_of_mem _ he), List.count_cons]
      cases e with
      | sockSend sock bs => exact absurd rfl (h _ List.mem_cons_self sock bs)
      | pipeSend fd' =>
          by_cases hfd : fd' = fd
          · simp [sentOn, hfd, List.replicate_succ]
          · simp [sentOn, hfd]
      | _ => simp [sentOn]

lemma sentOn_offSockets {tr : List Event} (h : ∀ e ∈ tr, e.OffSockets) (fd : ℤ) :
    sentOn fd tr = [] := by
  rw [sentOn_noWrite (fun e he => (h e he).noWrite), List.replicate_eq_nil_iff, List.count_eq_zero]
  exact fun hmem => (h _ hmem).noPipe fd rfl

/-- There is no less on a socket than that. -/
lemma count_pipeSend_le (tr : List Event) (fd : ℤ) :
    tr.count (.pipeSend fd) ≤ (sentOn fd tr).length := by
  induction tr with
  | nil => exact Nat.zero_le _
  | cons e tr ih =>
      have hsent : sentOn fd (e :: tr) = sentOn fd [e] ++ sentOn fd tr := sentOn_append fd [e] tr
      rw [hsent, List.length_append, List.count_cons]
      split_ifs with he
      · rw [beq_iff_eq.mp he]
        simp only [sentOn, List.flatMap_singleton, if_true, List.length_singleton]
        exact (Nat.add_comm _ _).trans_le (Nat.add_le_add_left ih 1)
      · omega

lemma Event.Silent.offSockets {e : Event} (h : e.Silent) : e.OffSockets := by
  refine ⟨?_, ?_⟩
  · rintro sock bs rfl
    exact h
  · rintro fd rfl
    exact h

lemma hdlcBlock_offSockets (b : Block) : (Event.hdlcBlock b).OffSockets :=
  ⟨by simp [Event.NoWrite], by simp⟩

lemma moduleRemoved_offSockets (p : Ptr) : (Event.moduleRemoved p).OffSockets :=
  ⟨by simp [Event.NoWrite], by simp⟩

lemma Adds.offSockets {io io' : Io} (h : Adds Event.Silent io io') :
    Adds Event.OffSockets io io' :=
  h.of_silent fun _ he => he.offSockets

lemma Adds.noWrite {io io' : Io} (h : Adds Event.OffSockets io io') :
    Adds Event.NoWrite io io' := by
  obtain ⟨tr, htrace, htr⟩ := h
  exact ⟨tr, htrace, fun e he => (htr e he).noWrite⟩

/-- A report puts nothing on a socket. -/
lemma Reports.offSockets {c : Core cfg} {p : Ptr} {tr : List Event} (h : Reports c p tr) :
    ∀ e ∈ tr, e.OffSockets :=
  h.forall (fun _ he => he.offSockets) hdlcBlock_offSockets moduleRemoved_offSockets

/-- All acts but a write. -/
def Act.NoWrite : Act → Prop
  | .write _ _ _ _ => False
  | _ => True

lemma Act.NoWrite.adds {s s' : Fw cfg} {a : Act} (ha : a.NoWrite)
    (h : actStep env s a s') : Adds Event.NoWrite s.io s'.io := by
  refine actStep_adds (fun _ he => he.offSockets.noWrite)
    (fun b => (hdlcBlock_offSockets b).noWrite)
    (fun p => (moduleRemoved_offSockets p).noWrite) h ?_ ?_ ?_
  · simp [Event.NoWrite]
  · rintro c q msg n rfl
    exact ha.elim
  · simp [Event.NoWrite]

lemma Acts.noWrite {P : Act → Prop} {s s' : Fw cfg} (h : Acts env P s s')
    (hP : ∀ a, P a → a.NoWrite) : Adds Event.NoWrite s.io s'.io := by
  obtain ⟨l, hrun, hl⟩ := h
  refine (hrun.invariant (I := fun t => Adds Event.NoWrite s.io t.io)
    (G := fun _ a _ => a = .quiet ∨ P a) (refl_of (Adds Event.NoWrite) s.io) ?_ hl).1
  rintro t a t' hI hact (rfl | ha)
  · exact trans_of (Adds Event.NoWrite) hI (Act.NoWrite.adds (a := .quiet) trivial hact)
  · exact trans_of (Adds Event.NoWrite) hI ((hP a ha).adds hact)

/-! ### A message for a node -/

/-- A stretch of the trace puts a message on a socket, and nothing on any other: all of it, or
the first bytes of it, and then the node at `q` is reported. -/
structure PutsMessage (tr : List Event) (fd : ℤ) (q : Ptr) (frame : List U8) : Prop where
  own : sentOn fd tr = frame ∨ sentOn fd tr <+: frame ∧ .moduleRemoved q ∈ tr
  others : ∀ fd' ≠ fd, sentOn fd' tr = []

/-- What is around it does not matter. -/
lemma PutsMessage.around {tr l r : List Event} {fd : ℤ} {q : Ptr} {frame : List U8}
    (h : PutsMessage tr fd q frame) (hl : ∀ e ∈ l, e.OffSockets) (hr : ∀ e ∈ r, e.OffSockets) :
    PutsMessage (l ++ tr ++ r) fd q frame := by
  have hsent : ∀ fd', sentOn fd' (l ++ tr ++ r) = sentOn fd' tr := fun fd' => by
    rw [sentOn_append, sentOn_append, sentOn_offSockets hl, sentOn_offSockets hr,
      List.nil_append, List.append_nil]
  refine ⟨?_, fun fd' hne => (hsent fd').trans (h.others fd' hne)⟩
  rw [hsent]
  exact h.own.imp_right fun ⟨hpre, hmem⟩ =>
    ⟨hpre, List.mem_append_left _ (List.mem_append_right _ hmem)⟩

/-- **`node_inf_write`**, whatever the socket takes. -/
lemma nodeInfWrite_puts {q : Ptr} {msg : GbMessage} {cport : U16} {s s' : Fw cfg} {ret : ℤ}
    (h : Ends (nodeInfWrite env q msg cport) s ret s') :
    ∃ tr, s'.io.trace = s.io.trace ++ tr ∧
      PutsMessage tr (s.core.sockOf q) q (nodeFrame cport msg) := by
  rw [nodeInfWrite, (readIntf_ends q s).bind_iff, (Ends.getCore _).bind_iff] at h
  obtain ⟨r, s₁, h₁, h⟩ := ends_bind.mp h
  obtain ⟨tr, calls, n, hon, hsent, h₁⟩ := gbMessageSend_prefix h₁
  change SendsOn (s.core.sockOf q) tr at hon
  change sentOn (s.core.sockOf q) tr = _ at hsent
  -- all of the message is sent, or a first part and the node is reported
  rcases h₁ with ⟨hall, rfl, rfl⟩ | ⟨rfl, hfail⟩
  · rw [if_neg (lt_irrefl 0), gbMessageDealloc, (Ends.liftIo (Ends.emit _ _)).bind_iff] at h
    obtain ⟨-, rfl⟩ := ends_pure.mp h
    have hputs : PutsMessage tr (s.core.sockOf q) q (nodeFrame cport msg) :=
      ⟨Or.inl (by rw [hsent, List.take_of_length_le hall]), fun fd hne => hon.sentOn_eq_nil hne⟩
    refine ⟨_, ?_, hputs.around (l := [.intfRead q]) (r := [.dealloc msg.blk])
      (by simpa using (show (Event.intfRead q).Silent from trivial).offSockets)
      (by simpa using (show (Event.dealloc msg.blk).Silent from trivial).offSockets)⟩
    simp [Io.afterSends]
  · obtain ⟨tr₁, hfirst, htrace₁⟩ := svcSendModuleRemovedBySock_ends env hfail
    rw [if_pos (by decide)] at h
    obtain ⟨_, s₂, h₂, h⟩ := ends_bind.mp h
    obtain ⟨_, hrem⟩ := ends_discard.mp h₂
    obtain ⟨-, tr₂, hsecond, htrace₂⟩ := svcSendModuleRemoved_ends env hrem
    rw [gbMessageDealloc, (Ends.liftIo (Ends.emit _ s₂.io)).bind_iff] at h
    obtain ⟨-, rfl⟩ := ends_pure.mp h
    have hoff₁ : ∀ e ∈ tr₁, e.OffSockets := by
      rcases hfirst.cases with ⟨-, rfl⟩ | ⟨e, -, -, -, hreports⟩
      · simp
      · exact hreports.offSockets
    -- the reports send nothing to sockets
    have hall : ∀ fd, sentOn fd (tr ++ (tr₁ ++ tr₂)) = sentOn fd tr := fun fd => by
      rw [sentOn_append, sentOn_append, sentOn_offSockets hoff₁,
        sentOn_offSockets hsecond.offSockets, List.append_nil, List.append_nil]
    have hputs : PutsMessage (tr ++ (tr₁ ++ tr₂)) (s.core.sockOf q) q (nodeFrame cport msg) := by
      refine ⟨Or.inr ⟨?_, ?_⟩, fun fd hne => (hall fd).trans (hon.sentOn_eq_nil hne)⟩
      · rw [hall, hsent]
        exact List.take_prefix _ _
      · exact List.mem_append_right _ (List.mem_append_right _ (hsecond.mem_moduleRemoved.mpr rfl))
    refine ⟨_, ?_, hputs.around (l := [.intfRead q]) (r := [.dealloc msg.blk])
      (by simpa using (show (Event.intfRead q).Silent from trivial).offSockets)
      (by simpa using (show (Event.dealloc msg.blk).Silent from trivial).offSockets)⟩
    simp [htrace₁, htrace₂, Io.afterSends]

/-! ### Steps -/

/-- The frame of a step brings a message for an AP cport. -/
def Brings (env : Env) (t : RunStep (Fw cfg) SystemOp) (apCport : U16) (msg : GbMessage) : Prop :=
  ∃ f io', t.label = .frame f ∧ f.address = ADDRESS_GREYBUS ∧
    Ends (greybusFrameMsg env f.buffer f.len) t.pre.io (some (apCport, msg)) io'

/-- It is for the cport `p` of the node at `q`. -/
def ForNode (env : Env) (t : RunStep (Fw cfg) SystemOp) (q : Ptr) (p : U16) (msg : GbMessage) :
    Prop :=
  ∃ apCport slot, Brings env t apCport msg ∧ t.pre.core.slot? apCport = some slot ∧
    slot.nodeIntf = some (.node q) ∧ slot.nodeCport = p

/-- What a step puts on a socket: the message for the node with the socket, or its first bytes
before the node is reported; and where there is no such message, a zero for each `pipe_send` to
the descriptor of the socket. -/
structure Puts (env : Env) (fd : ℤ) (t : RunStep (Fw cfg) SystemOp) (bytes : List U8) : Prop where
  told : ∀ q p msg, ForNode env t q p msg → t.pre.core.sockOf q = fd →
    bytes = nodeFrame p msg ∨
      bytes <+: nodeFrame p msg ∧ .moduleRemoved q ∈ newEvents t.pre t.post
  other : (∀ q p msg, ForNode env t q p msg → t.pre.core.sockOf q ≠ fd) →
    bytes = List.replicate ((newEvents t.pre t.post).count (.pipeSend fd)) 0

/-- A step with no message for a node writes nothing. -/
lemma puts_nothing {s s' : Fw cfg} {op : SystemOp} (h : Adds Event.NoWrite s.io s'.io)
    (hno : ∀ q p msg, ¬ ForNode env ⟨s, op, s'⟩ q p msg) (fd : ℤ) :
    ∃ bytes, sentOn fd s'.io.trace = sentOn fd s.io.trace ++ bytes ∧
      Puts env fd ⟨s, op, s'⟩ bytes := by
  obtain ⟨tr, htrace, htr⟩ := h
  refine ⟨sentOn fd tr, by rw [htrace, sentOn_append],
    fun q p msg hfor => absurd hfor (hno q p msg), fun _ => ?_⟩
  rw [newEvents_eq htrace, sentOn_noWrite htr]

/-- A step with a message for a node puts it on the node's socket. -/
lemma puts_message {s s' : Fw cfg} {op : SystemOp} {tr : List Event} {q : Ptr} {p : U16}
    {msg : GbMessage} (htrace : s'.io.trace = s.io.trace ++ tr)
    (hputs : PutsMessage tr (s.core.sockOf q) q (nodeFrame p msg))
    (hfor : ∀ q' p' msg', ForNode env ⟨s, op, s'⟩ q' p' msg' ↔ q' = q ∧ p' = p ∧ msg' = msg)
    (fd : ℤ) :
    ∃ bytes, sentOn fd s'.io.trace = sentOn fd s.io.trace ++ bytes ∧
      Puts env fd ⟨s, op, s'⟩ bytes := by
  refine ⟨sentOn fd tr, by rw [htrace, sentOn_append], fun q' p' msg' h hfd => ?_, fun hne => ?_⟩
  · obtain ⟨rfl, rfl, rfl⟩ := (hfor q' p' msg').mp h
    obtain rfl : s.core.sockOf q' = fd := hfd
    rw [newEvents_eq htrace]
    exact hputs.own
  · have hnothing : sentOn fd tr = [] :=
      hputs.others fd (Ne.symm (hne q p msg ((hfor q p msg).mpr ⟨rfl, rfl, rfl⟩)))
    have hpipe := count_pipeSend_le tr fd
    rw [hnothing, List.length_nil, Nat.le_zero] at hpipe
    rw [newEvents_eq htrace, hnothing, hpipe]
    rfl

/-- **A Greybus frame** puts its message on the socket of the node it is for. -/
lemma frame_puts {f : RxFrame} {s s' : Fw cfg} {ret : ℤ} (haddr : f.address = ADDRESS_GREYBUS)
    (h : Ends (hdlcProcessGreybusFrame env f.buffer f.len) s ret s') (fd : ℤ) :
    ∃ bytes, sentOn fd s'.io.trace = sentOn fd s.io.trace ++ bytes ∧
      Puts env fd ⟨s, .frame f, s'⟩ bytes := by
  rw [hdlcProcessGreybusFrame_eq] at h
  obtain ⟨r, s₁, h₁, h⟩ := ends_bind.mp h
  obtain ⟨io₁, hframe, rfl⟩ := ends_liftIo.mp h₁
  have hquiet : Adds Event.OffSockets s.io io₁ :=
    (silently_greybusFrameMsg env f.buffer f.len hframe).adds.offSockets
  -- what the frame brings is what it has been made of
  have hbrings : ∀ c m, Brings env ⟨s, .frame f, s'⟩ c m ↔ r = some (c, m) := by
    intro c m
    constructor
    · rintro ⟨f', io', hf', -, hend⟩
      obtain rfl : f = f' := SystemOp.frame.inj hf'
      exact (hframe.unique hend).1
    · rintro rfl
      exact ⟨f, io₁, rfl, haddr, hframe⟩
  cases r with
  | none =>
      obtain ⟨-, rfl⟩ := ends_pure.mp h
      refine puts_nothing hquiet.noWrite ?_ fd
      rintro q p msg ⟨c, slot, hb, -⟩
      cases (hbrings c msg).mp hb
  | some m =>
      obtain ⟨c, msg⟩ := m
      obtain ⟨ret', s₂, h₂, h⟩ := ends_bind.mp h
      obtain rfl : s' = s₂ := by
        rcases ends_ite.mp h with ⟨-, h⟩ | ⟨-, h⟩
        · exact (ends_pure.mp h).2.symm
        · exact (ends_pure.mp h).2.symm
      rw [connectionSend, if_pos rfl] at h₂
      obtain ⟨slot, intf, hslot, hintf, h₂⟩ := connectionSendFromAp_cases h₂
      have hfor : ∀ q p m, ForNode env ⟨s, .frame f, s'⟩ q p m ↔
          intf = .node q ∧ p = slot.nodeCport ∧ m = msg := by
        intro q p m
        constructor
        · rintro ⟨c', slot', hb, hslot', hintf', rfl⟩
          obtain ⟨rfl, rfl⟩ := Prod.mk.inj (Option.some.inj ((hbrings c' m).mp hb))
          obtain rfl := Option.some.inj (hslot.symm.trans hslot')
          exact ⟨Option.some.inj (hintf.symm.trans hintf'), rfl, rfl⟩
        · rintro ⟨rfl, rfl, rfl⟩
          exact ⟨c, slot, (hbrings c m).mpr rfl, hslot, hintf, rfl⟩
      have hoff : Adds Event.OffSockets s.io (io₁.logged [.connectionSend AP_INF_ID c msg]) :=
        trans_of (Adds Event.OffSockets) hquiet (.logged _ (by
          simpa using (show (Event.connectionSend AP_INF_ID c msg).Silent from trivial).offSockets))
      cases intf with
      | svc =>
          refine puts_nothing (trans_of (Adds Event.NoWrite) hoff.noWrite
            ((acts_svcInfWrite msg _ h₂).noWrite fun a ha => ?_)) ?_ fd
          · cases a <;> trivial
          · intro q p m hm
            cases ((hfor q p m).mp hm).1
      | localNode =>
          refine puts_nothing (trans_of (Adds Event.NoWrite) hoff.noWrite
            ((acts_localIntfWrite msg _ h₂).noWrite fun a ha => ?_)) ?_ fd
          · cases a <;> trivial
          · intro q p m hm
            cases ((hfor q p m).mp hm).1
      | node q =>
          obtain ⟨tr, htrace, hputs⟩ := nodeInfWrite_puts h₂
          obtain ⟨tr₁, htrace₁, htr₁⟩ := hoff
          have haround := hputs.around htr₁ (r := []) (by simp)
          refine puts_message (s := s) ?_ haround (fun q' p' m => ?_) fd
          · rw [htrace, htrace₁, List.append_nil, List.append_assoc]
          · rw [hfor, IntfPtr.node.injEq, eq_comm]

/-- Only a frame is passed on as a write. -/
lemma SystemOp.MayPass.not_write {op : SystemOp} {c : U16} {q : Ptr} {msg : GbMessage} {n : ℕ}
    (h : op.MayPass env (.write c q msg n)) (hop : ∀ f, op ≠ .frame f) : False := by
  cases op with
  | frame f => exact hop f rfl
  | request req =>
      cases req with
      | moduleRemoved p => cases (show Act.write c q msg n = .remove p from h)
      | _ => exact h
  | _ => exact h

/-- **One step**, on every socket. -/
theorem systemStep_puts {s s' : Fw cfg} {op : SystemOp} (h : systemStep env s op s')
    (hown : OwnStep s op s') (hids : IdsIssued s.core) (fd : ℤ) :
    ∃ bytes, sentOn fd s'.io.trace = sentOn fd s.io.trace ++ bytes ∧
      Puts env fd ⟨s, op, s'⟩ bytes := by
  -- only a Greybus frame is for a node
  have hother : (∀ f, op = .frame f → f.address ≠ ADDRESS_GREYBUS) →
      ∀ q p msg, ¬ ForNode env ⟨s, op, s'⟩ q p msg := by
    rintro hno q p msg ⟨c, slot, ⟨f, io', hf, haddr, -⟩, -⟩
    exact hno f hf haddr
  cases op with
  | frame f =>
      obtain ⟨ret, h⟩ := h
      rcases mainProcessCompleteFrame_cases env h with ⟨haddr, h⟩ | ⟨haddr, hrest⟩
      · exact frame_puts haddr h fd
      have hno := hother fun f' hf => by
        obtain rfl : f = f' := SystemOp.frame.inj hf
        exact haddr
      rcases hrest with ⟨-, h⟩ | ⟨-, rfl⟩
      · exact puts_nothing ((acts_controlProcessFrame _ _ h).noWrite fun a ha => by
          cases a <;> trivial) hno fd
      · exact puts_nothing (refl_of (Adds Event.NoWrite) s'.io) hno fd
  -- no other step has an act that writes to a socket
  | _ =>
      refine puts_nothing ?_ (hother (by simp)) fd
      rcases systemStep_acts h hown hids with hacts | hacts
      · refine hacts.noWrite fun a ha => ?_
        have hkind := ha.isAnswer
        cases a <;> trivial
      · refine hacts.noWrite fun a ha => ?_
        cases a with
        | write c q msg n => exact (ha.not_write (by simp)).elim
        | _ => trivial

/-- **Every socket carries its own node's messages**: in every run from the start whose nodes
have blocks of the slabs, what has gone out on a socket is, step by step and in order, the
messages of the AP for the node with the socket. One that is not whole is one whose node has been
reported. Until `node_rx_thread_entry` has made its pipe, the byte of `pipe_send` goes to the
socket 0. -/
theorem sockets_in_order {s : Fw cfg} {l : List (RunStep (Fw cfg) SystemOp)}
    (hrun : Run (systemStep env) (Fw.boot cfg) l s)
    (hl : ∀ t ∈ l, OwnStep t.pre t.label t.post ∧ TakesBlocks env t.pre t.label) (fd : ℤ) :
    ∃ parts, sentOn fd s.io.trace = parts.flatten ∧ List.Forall₂ (Puts env fd) l parts := by
  refine hrun.outputs (f := fun s => sentOn fd s.io.trace) (I := fun s => NamesRight s.core)
    (G := fun s op s' => OwnStep s op s' ∧ TakesBlocks env s op) (namesRight_boot cfg)
    (fun s op s' hnames hstep ⟨hown, _⟩ => ?_) hl
  exact ⟨systemStep_keeps (namesRight_kept env) hstep hnames,
    systemStep_puts hstep hown hnames.ids fd⟩

/-- The AP writes to the node it has connected. -/
def requestFrame : RxFrame := ⟨nodeFrame 1 bareRequest, 10, ADDRESS_GREYBUS⟩

/-- The node has been written to. -/
def requestWritten : Fw .prjConf :=
  final (mainProcessCompleteFrame calmEnv requestFrame) strangerSent

/-- What has gone out on its socket. -/
theorem sockets_in_order_request :
    ∃ parts, sentOn 0 requestWritten.io.trace = parts.flatten ∧ List.Forall₂ (Puts calmEnv 0)
      (strangerSteps ++ [⟨strangerSent, .frame requestFrame, requestWritten⟩]) parts := by
  have htold : systemStep calmEnv strangerSent (.frame requestFrame) requestWritten :=
    ⟨0, ends_final (by decide +kernel)⟩
  refine sockets_in_order (strangerSteps_run.snoc htold) (fun t ht => ?_) 0
  simp only [strangerSteps, List.mem_append, List.mem_singleton] at ht
  rcases ht with (((rfl | rfl) | rfl) | rfl) | rfl
  · exact ⟨trivial, trivial⟩
  · exact ⟨trivial, fun _ => by decide +kernel, trivial⟩
  · exact ⟨trivial, trivial⟩
  · exact ⟨rfl, trivial⟩
  · exact ⟨trivial, trivial⟩

/-- Its socket has carried the message, under the node's own cport, behind the byte that was
meant for the pipe. -/
example : sentOn 0 requestWritten.io.trace = 0 :: nodeFrame 0 bareRequest := by decide +kernel

end Cc1352Greybus
