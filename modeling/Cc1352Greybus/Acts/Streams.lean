import Cc1352Greybus.Acts.Step
import Cc1352Greybus.Heap.Leaks
import Cc1352Greybus.Routing.Correspondence

/-!
What becomes of the bytes the nodes send, over whole runs.

* `Act.OffStreams`: what is done besides reads leaves the streams alone, but for those
  whose descriptors new sockets get.
* `Passes`, `Consumes`: what a step is to take off the stream of a socket, and to send for it.
* `streams_in_order`: what has become of a stream, in any run.
-/

namespace Cc1352Greybus

open Effects

variable {cfg : Config} {env : Env}

/-! ### Nothing off a stream -/

/-- All acts but reads. -/
def Act.OffStreams : Act → Prop
  | .hear | .forward _ _ _ _ => False
  | _ => True

/-- No stream is left but for a new socket. -/
lemma Act.OffStreams.kept {s s' : Fw cfg} {a : Act} (ha : a.OffStreams)
    (h : actStep env s a s') : StreamsKept s.io s'.io := by
  have hadds : Adds (fun _ => True) s.io s'.io :=
    actStep_adds (fun _ _ => trivial) (fun _ => trivial) (fun _ => trivial) h (fun _ _ => trivial)
      (fun _ _ _ _ _ _ _ => trivial) fun _ => trivial
  cases a with
  | quiet => exact .of_rx hadds h.2.rx
  | refuse => exact .of_rx hadds h.2.2.rx
  | route => exact h.2.streams
  | send id msg => exact .of_rx hadds h.2.1
  | insert id => exact .of_rx hadds h.2.2.1
  | remove p => exact .of_rx hadds h.2.1
  | write c q msg n => exact .of_rx hadds h.2.1
  | stop => exact .of_rx hadds h.2.1
  | _ => exact ha.elim

lemma Acts.kept {P : Act → Prop} {s s' : Fw cfg} (h : Acts env P s s')
    (hP : ∀ a, P a → a.OffStreams) : StreamsKept s.io s'.io := by
  obtain ⟨l, hrun, hl⟩ := h
  refine (hrun.invariant (I := fun t => StreamsKept s.io t.io)
    (G := fun _ a _ => a = .quiet ∨ P a) (refl_of StreamsKept s.io) ?_ hl).1
  rintro t a t' hI hact (rfl | ha)
  · exact trans_of StreamsKept hI (Act.OffStreams.kept (a := .quiet) trivial hact)
  · exact trans_of StreamsKept hI ((hP a ha).kept hact)

/-- A report opens no socket. -/
lemma Acts.sameRx {s s' : Fw cfg} (h : Acts env Act.IsRemoval s s') : s'.io.rx = s.io.rx := by
  obtain ⟨l, hrun, hl⟩ := h
  refine (hrun.invariant (I := fun t => t.io.rx = s.io.rx)
    (G := fun _ a _ => a = .quiet ∨ a.IsRemoval) rfl ?_ hl).1
  rintro t a t' hI hact (rfl | ha)
  · exact Eq.trans hact.2.rx hI
  · cases a with
    | remove p => exact Eq.trans hact.2.1 hI
    | _ => exact ha.elim

/-! ### Steps -/

/-- The step has a message of the cached node `e` for the AP: its socket is read, the message
comes in, and the flag is not set. -/
def Passes (env : Env) (fd : ℤ) (t : RunStep (Fw cfg) SystemOp) (e : NodeItem) (cport : U16)
    (msg : GbMessage) : Prop :=
  ∃ r flag i io, t.label = .serve fd r flag ∧ ¬ r.Bad ∧ r.pollin = true ∧
    nodeCacheFindBySock t.pre.core.nodeCache fd = some (i, e) ∧
    Ends (gbMessageReceive env fd flag) t.pre.io (some (cport, msg), false) io

/-- The step reports the cached node with the socket. -/
def ReportsNode (fd : ℤ) (t : RunStep (Fw cfg) SystemOp) : Prop :=
  ∃ i e, nodeCacheFindBySock t.pre.core.nodeCache fd = some (i, e) ∧
    .moduleRemoved e.inf ∈ newEvents t.pre t.post

/-- What a step takes off the stream of a socket: a message, which it sends to the AP on the
cport that is connected to the node's, if one is; or bytes of no message, with which it reports
the node; or what an older socket has left, whose descriptor a new one gets. -/
structure Consumes (env : Env) (fd : ℤ) (t : RunStep (Fw cfg) SystemOp) (bytes : List U8) :
    Prop where
  passed : ∀ e cport msg, Passes env fd t e cport msg →
    (∃ hdr, msg.header.fields = hdr.fields ∧ bytes = greybusFrame cport hdr msg.payload) ∧
      ((nodeToApCport t.pre.core.nodeApMap e.id cport).isSome → msg.Sized) ∧
      hdlcBlocks (newEvents t.pre t.post) =
        ((nodeToApCport t.pre.core.nodeApMap e.id cport).map
          fun k => greybusBlock (BitVec.ofNat 16 k) msg).toList
  lost : bytes ≠ [] → (∃ e cport msg, Passes env fd t e cport msg) ∨ ReportsNode fd t ∨
    .sockOpen fd ∈ newEvents t.pre t.post

/-- What happens outside is that bytes arrive. -/
def Arrives (t : RunStep (Fw cfg) SystemOp) : Prop :=
  t.label = .outside → ∀ fd, ∃ chunks, t.post.io.rx fd = t.pre.io.rx fd ++ chunks

/-- The bytes that arrive in a step, on a socket. -/
def arrived (fd : ℤ) (t : RunStep (Fw cfg) SystemOp) : List U8 :=
  match t.label with
  | .outside => (allBytes (t.post.io.rx fd)).drop (allBytes (t.pre.io.rx fd)).length
  | _ => []

/-- A step that does not serve the socket takes nothing off it. -/
lemma consumes_nothing {s s' : Fw cfg} {op : SystemOp} {fd : ℤ}
    (hno : ∀ e cport msg, ¬ Passes env fd ⟨s, op, s'⟩ e cport msg) :
    Consumes env fd ⟨s, op, s'⟩ [] :=
  ⟨fun e cport msg h => absurd h (hno e cport msg), fun hne => absurd rfl hne⟩

lemma hdlcBlocks_silentOrPipe {tr : List Event} (h : ∀ e ∈ tr, e.SilentOrPipe) :
    hdlcBlocks tr = [] := by
  refine List.filterMap_eq_nil_iff.mpr fun e he => ?_
  cases e with
  | hdlcBlock b =>
      rcases h _ he with hsilent | ⟨fd, hpipe⟩
      · exact hsilent.elim
      · cases hpipe
  | _ => rfl

lemma hdlcBlocks_silent {tr : List Event} (h : ∀ e ∈ tr, e.Silent) : hdlcBlocks tr = [] :=
  hdlcBlocks_silentOrPipe fun e he => Or.inl (h e he)

lemma hdlcBlocks_sendEvents {n : ℕ} (link : Option (Fin n)) (id : U8) (cport : U16)
    (msg : GbMessage) : hdlcBlocks (sendEvents link id cport msg) =
      (link.map fun k => greybusBlock (BitVec.ofNat 16 k) msg).toList := by
  cases link <;> rfl

/-- **A socket that is served** gives its bytes to a message, or its node is reported. -/
lemma serve_consumes {fd : ℤ} {r : Revents} {flag flag' : Bool} {s s' : Fw cfg}
    (hids : IdsIssued s.core) (h : Ends (nodeRxServe env fd r flag) s flag' s') :
    ∃ bytes, allBytes (s.io.rx fd) = bytes ++ allBytes (s'.io.rx fd) ∧
      Consumes env fd ⟨s, .serve fd r flag, s'⟩ bytes := by
  have hpasses : ∀ {e cport msg}, Passes env fd ⟨s, .serve fd r flag, s'⟩ e cport msg →
      ¬ r.Bad ∧ r.pollin = true ∧ ∃ i io, nodeCacheFindBySock s.core.nodeCache fd = some (i, e) ∧
        Ends (gbMessageReceive env fd flag) s.io (some (cport, msg), false) io := by
    rintro e cport msg ⟨r', flag₁, i, io, hlabel, hbad, hin, hfind, hrecv⟩
    cases hlabel
    exact ⟨hbad, hin, i, io, hfind, hrecv⟩
  rcases nodeRxServe_acts hids h with ⟨hbad, hacts⟩ | ⟨-, hnone, rfl⟩ |
    ⟨hbad, hin, i, e, m, b, io, hfind, hrecv, hrest⟩
  · exact ⟨[], by rw [hacts.sameRx, List.nil_append], consumes_nothing fun e cport msg hp =>
      (hpasses hp).1 hbad⟩
  · refine ⟨[], (List.nil_append _).symm, consumes_nothing fun e cport msg hp => ?_⟩
    obtain ⟨-, hin, i, io, hfind, -⟩ := hpasses hp
    cases (hnone hin).symm.trans hfind
  rcases hrest with ⟨hfail, hrem⟩ | ⟨rfl, cport, msg, rfl, -, hfwd⟩
  · obtain ⟨⟨bytes, hread⟩, -⟩ := gbMessageReceive_readsOff env hrecv
    obtain ⟨-, hrx, tr, hreports, htrace⟩ := hrem
    obtain ⟨tr₁, htrace₁, -⟩ := hread.adds
    refine ⟨bytes, by rw [hrx, hread.stream], fun e' cport msg hp => ?_,
      fun _ => Or.inr (Or.inl ?_)⟩
    · obtain ⟨-, -, i', io', -, hrecv'⟩ := hpasses hp
      obtain ⟨hm, rfl⟩ := Prod.mk.inj (hrecv.unique hrecv').1
      rw [hm] at hfail
      simp at hfail
    · refine ⟨i, e, hfind, ?_⟩
      have hnew : newEvents s s' = tr₁ ++ tr :=
        newEvents_eq (by rw [htrace, htrace₁, List.append_assoc])
      show Event.moduleRemoved e.inf ∈ newEvents s s'
      rw [hnew]
      exact List.mem_append_right _ (hreports.mem_moduleRemoved.mpr rfl)
  · obtain ⟨-, hfits, io', ⟨⟨hdr, hfields, hsize, hread⟩, tr, htrace, htr⟩, rfl⟩ := hfwd
    refine ⟨_, hread.stream, fun e' cport' msg' hp => ?_, fun _ =>
      Or.inl ⟨e, cport, msg, r, flag, i, io, rfl, hbad, hin, hfind, hrecv⟩⟩
    obtain ⟨-, -, i', io'', hfind', hrecv'⟩ := hpasses hp
    obtain ⟨-, rfl⟩ := Prod.mk.inj (Option.some.inj (hfind.symm.trans hfind'))
    obtain ⟨rfl, rfl⟩ := Prod.mk.inj (Option.some.inj
      (Prod.mk.inj (hrecv.unique hrecv').1).1)
    refine ⟨⟨hdr, hfields, rfl⟩, fun hlink => ?_, ?_⟩
    · -- a cut message does not fit a frame
      rcases hsize with hsize | hcut
      · rw [GbMessage.Sized, (Prod.mk.inj hfields).1, hsize]
      · exact absurd (hfits hlink).2 hcut.not_holds
    have hnew : newEvents s ⟨s.core, io'.logged (sendEvents
        (nodeToApCport s.core.nodeApMap e.id cport) e.id cport msg)⟩ = _ :=
      newEvents_eq (by rw [Io.logged_trace, htrace, List.append_assoc, List.append_assoc])
    show hdlcBlocks (newEvents s _) = _
    rw [hnew, hdlcBlocks_append, hdlcBlocks_silent htr, hdlcBlocks_append, hdlcBlocks_sendEvents]
    rfl

/-- A socket that is served leaves the other streams alone. -/
lemma serve_others {fd : ℤ} {r : Revents} {flag flag' : Bool} {s s' : Fw cfg}
    (hids : IdsIssued s.core) (h : Ends (nodeRxServe env fd r flag) s flag' s') {fd' : ℤ}
    (hne : fd' ≠ fd) : s'.io.rx fd' = s.io.rx fd' := by
  rcases nodeRxServe_acts hids h with ⟨-, hacts⟩ | ⟨-, -, rfl⟩ |
    ⟨-, -, i, e, m, b, io, -, hrecv, hrest⟩
  · rw [hacts.sameRx]
  · rfl
  rcases hrest with ⟨-, -, hrx, -⟩ | ⟨-, cport, msg, -, -, -, -, io', ⟨⟨hdr, -, -, hread⟩, -⟩, rfl⟩
  · obtain ⟨⟨bs, hread⟩, -⟩ := gbMessageReceive_readsOff env hrecv
    rw [hrx]
    exact hread.others fd' hne
  · exact hread.others fd' hne

/-- The steps that serve no socket leave the streams alone, but for new sockets. -/
lemma systemStep_kept {s s' : Fw cfg} {op : SystemOp} (h : systemStep env s op s')
    (hown : OwnStep s op s') (hids : IdsIssued s.core) (hserve : ∀ fd r flag, op ≠ .serve fd r flag)
    (hout : op ≠ .outside) : StreamsKept s.io s'.io := by
  rcases systemStep_acts h hown hids with hacts | hacts
  · refine hacts.kept fun a ha => ?_
    have hkind := ha.isAnswer
    cases a <;> trivial
  · refine hacts.kept fun a ha => ?_
    cases op with
    | frame f =>
        obtain ⟨msg, -, ha⟩ := ha
        cases a <;> trivial
    | serve fd r flag => exact absurd rfl (hserve fd r flag)
    | filter active => cases a <;> trivial
    | request req =>
        cases req with
        | moduleRemoved p =>
            obtain rfl : a = .remove p := ha
            trivial
        | _ => exact False.elim ha
    | outside => exact absurd rfl hout

/-- **One step**: what has arrived and was there has been taken, or still is. -/
lemma systemStep_consumes {s s' : Fw cfg} {op : SystemOp} (h : systemStep env s op s')
    (hown : OwnStep s op s') (harrives : Arrives ⟨s, op, s'⟩) (hids : IdsIssued s.core) (fd : ℤ) :
    ∃ bytes, allBytes (s.io.rx fd) ++ arrived fd ⟨s, op, s'⟩ = bytes ++ allBytes (s'.io.rx fd) ∧
      Consumes env fd ⟨s, op, s'⟩ bytes := by
  have hother : (∀ r flag, op ≠ .serve fd r flag) →
      ∀ e cport msg, ¬ Passes env fd ⟨s, op, s'⟩ e cport msg := by
    rintro hno e cport msg ⟨r, flag, i, io, hlabel, -⟩
    exact hno r flag hlabel
  -- a step that serves no socket and adds nothing takes a socket's bytes only by closing it
  have hsame : op ≠ .outside → (∀ fd r flag, op ≠ .serve fd r flag) →
      ∃ bytes, allBytes (s.io.rx fd) ++ arrived fd ⟨s, op, s'⟩ =
        bytes ++ allBytes (s'.io.rx fd) ∧ Consumes env fd ⟨s, op, s'⟩ bytes := by
    intro hout hserve
    have harrived : arrived fd ⟨s, op, s'⟩ = [] := by
      cases op with
      | outside => exact absurd rfl hout
      | _ => rfl
    rw [harrived, List.append_nil]
    obtain ⟨tr, htrace, hrx⟩ := systemStep_kept h hown hids hserve hout
    rcases hrx fd with hrx | ⟨hopen, hnil⟩
    · exact ⟨[], by rw [hrx, List.nil_append], consumes_nothing (hother (hserve fd))⟩
    · refine ⟨allBytes (s.io.rx fd), by rw [hnil, allBytes, List.append_nil],
        fun e cport msg hp => absurd hp (hother (hserve fd) e cport msg), fun _ => ?_⟩
      rw [newEvents_eq htrace]
      exact Or.inr (Or.inr hopen)
  cases op with
  | serve fd' r flag =>
      obtain ⟨flag', h⟩ := h
      by_cases hfd : fd = fd'
      · subst hfd
        obtain ⟨bytes, hstream, htakes⟩ := serve_consumes hids h
        exact ⟨bytes, (List.append_nil _).trans hstream, htakes⟩
      · refine ⟨[], ?_, consumes_nothing (hother fun r' flag₁ heq => hfd ?_)⟩
        · rw [serve_others hids h hfd, List.nil_append]
          exact List.append_nil _
        · exact (SystemOp.serve.inj heq).1.symm
  | outside =>
      refine ⟨[], ?_, consumes_nothing (hother (by simp))⟩
      -- what arrives goes behind what was there
      obtain ⟨chunks, hchunks⟩ := harrives rfl fd
      change s'.io.rx fd = s.io.rx fd ++ chunks at hchunks
      show _ ++ (allBytes (s'.io.rx fd)).drop _ = _
      rw [hchunks, allBytes_append, List.drop_left, List.nil_append]
  | _ => exact hsame (by simp) (by simp)

/-- **Every byte of a node is accounted for**: in every run from the start, the bytes that have
arrived on a socket have been taken off it in order, step by step, but for those still to be
read. Each step takes a message, and sends it to the AP on the cport connected to the node's, or
it reports the node, or opens a new socket that gets the descriptor. -/
theorem streams_in_order {s : Fw cfg} {l : List (RunStep (Fw cfg) SystemOp)}
    (hrun : Run (systemStep env) (Fw.boot cfg) l s)
    (hl : ∀ t ∈ l, OwnStep t.pre t.label t.post ∧ Arrives t) (fd : ℤ) :
    ∃ parts, l.flatMap (arrived fd) = parts.flatten ++ allBytes (s.io.rx fd) ∧
      List.Forall₂ (Consumes env fd) l parts := by
  induction hrun with
  | nil => exact ⟨[], rfl, .nil⟩
  | @snoc l s op s' hrun hstep ih =>
      rw [Run.forall_mem_concat] at hl
      obtain ⟨parts, hstream, hall⟩ := ih hl.1
      have hnames : NamesRight s.core := Run.keeps (namesRight_kept env) (namesRight_boot cfg) hrun
      obtain ⟨bytes, hbytes, htakes⟩ :=
        systemStep_consumes hstep hl.2.1 hl.2.2 hnames.ids fd
      refine ⟨parts ++ [bytes], ?_, List.rel_append hall (.cons htakes .nil)⟩
      calc (l ++ [(⟨s, op, s'⟩ : RunStep (Fw cfg) SystemOp)]).flatMap (arrived fd)
          = parts.flatten ++ (allBytes (s.io.rx fd) ++ arrived fd ⟨s, op, s'⟩) := by
            rw [List.flatMap_append, hstream, List.flatMap_singleton, List.append_assoc]
        _ = (parts ++ [bytes]).flatten ++ allBytes (s'.io.rx fd) := by
            rw [hbytes, List.flatten_concat, List.append_assoc]

/-- The node sends a message from its cport 0 too, which is connected. -/
def nodeSent : Fw .prjConf :=
  { strangerServed with io := { strangerServed.io with
      rx := fun fd => strangerServed.io.rx fd ++ [.data 0 (nodeFrame 0 bareRequest).tail] } }

/-- That message comes in. -/
def nodeServed : Fw .prjConf := final (nodeRxServe calmEnv 0 readable false) nodeSent

/-- The steps up to there. -/
def nodeSteps : List (RunStep (Fw .prjConf) SystemOp) :=
  strangerSteps ++ [⟨strangerSent, .serve 0 readable false, strangerServed⟩] ++
    [⟨strangerServed, .outside, nodeSent⟩] ++ [⟨nodeSent, .serve 0 readable false, nodeServed⟩]

lemma nodeSteps_run : Run (systemStep calmEnv) (.boot .prjConf) nodeSteps nodeServed := by
  have h₁ : systemStep calmEnv strangerSent (.serve 0 readable false) strangerServed :=
    ⟨false, ends_final (by decide +kernel)⟩
  have h₂ : systemStep calmEnv strangerServed .outside nodeSent := rfl
  have h₃ : systemStep calmEnv nodeSent (.serve 0 readable false) nodeServed :=
    ⟨false, ends_final (by decide +kernel)⟩
  exact ((strangerSteps_run.snoc h₁).snoc h₂).snoc h₃

lemma nodeSteps_own : ∀ t ∈ nodeSteps, OwnStep t.pre t.label t.post ∧ Arrives t := by
  intro t ht
  simp only [nodeSteps, strangerSteps, List.mem_append, List.mem_singleton] at ht
  rcases ht with (((((rfl | rfl) | rfl) | rfl) | rfl) | rfl) | rfl
  · exact ⟨trivial, nofun⟩
  · exact ⟨trivial, nofun⟩
  · exact ⟨trivial, nofun⟩
  · exact ⟨rfl, fun _ fd => ⟨_, rfl⟩⟩
  · exact ⟨trivial, nofun⟩
  · exact ⟨rfl, fun _ fd => ⟨_, rfl⟩⟩
  · exact ⟨trivial, nofun⟩

lemma nodeSteps_blocks : ∀ t ∈ nodeSteps, TakesBlocks calmEnv t.pre t.label := by
  intro t ht
  simp only [nodeSteps, strangerSteps, List.mem_append, List.mem_singleton] at ht
  rcases ht with (((((rfl | rfl) | rfl) | rfl) | rfl) | rfl) | rfl
  · trivial
  · exact ⟨fun _ => by decide +kernel, trivial⟩
  all_goals trivial

/-- What has become of its stream. -/
theorem streams_in_order_two :
    ∃ parts, nodeSteps.flatMap (arrived 0) = parts.flatten ++ allBytes (nodeServed.io.rx 0) ∧
      List.Forall₂ (Consumes calmEnv 0) nodeSteps parts :=
  streams_in_order nodeSteps_run nodeSteps_own 0

/-- The AP gets it on its cport 1. -/
example : (hdlcBlocks (newEvents nodeSent nodeServed)).map Block.payload =
    [greybusFrame 1 bareRequest.header []] := by decide +kernel

end Cc1352Greybus
