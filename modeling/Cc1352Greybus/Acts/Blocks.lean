import Cc1352Greybus.Acts.Streams

/-!
Where the messages on the link to the AP come from, over whole runs.

* `ComesFrom`: what a step has had that a message answers, announces or passes on.
* `SystemOp.Grants`, `actStep_accounted`: what an act of a step sends comes from there.
* `TellsOf`, `Acts.tellsOf`: what acts send that report modules, each by the id it then has.
* `systemStep_accounted`: so does every block of a step.
* `blocks_accounted`: what has gone to the AP, in any run.
-/

namespace Cc1352Greybus

open Effects

variable {cfg : Config} {env : Env}

/-! ### Where a message comes from -/

/-- A request the SVC opens its connection with. -/
def IsOpening (msg : GbMessage) : Prop :=
  IsRequest msg [0x00, 0x01] GB_SVC_TYPE_PROTOCOL_VERSION ∨
    IsRequest msg (le16 ENDO_ID ++ [AP_INF_ID]) GB_SVC_TYPE_SVC_HELLO

/-- The modules that are reported in a stretch of the trace. -/
def removals (tr : List Event) : List Ptr :=
  tr.filterMap fun
    | .moduleRemoved p => some p
    | _ => none

lemma removals_append (tr tr' : List Event) :
    removals (tr ++ tr') = removals tr ++ removals tr' := List.filterMap_append

/-- The tables once modules have been reported, one after the other. -/
def Core.afterReports (c : Core cfg) (env : Env) (l : List Ptr) : Core cfg :=
  l.foldl (fun c p => c.afterReport env p) c

/-- A message tells of a module that is reported in a stretch of the trace, by the id its
interface has in the tables the reports before it leave: its own, unless one of these has freed
the block. -/
def TellsRemoved (env : Env) (c : Core cfg) (tr : List Event) (msg : GbMessage) : Prop :=
  ∃ (p : Ptr) (before after : List Event), tr = before ++ .moduleRemoved p :: after ∧
    IsRequest msg [((c.afterReports env (removals before)).intfMem p).id]
      GB_SVC_TYPE_MODULE_REMOVED

lemma TellsRemoved.append {env : Env} {c : Core cfg} {tr : List Event} {msg : GbMessage}
    (h : TellsRemoved env c tr msg) (new : List Event) : TellsRemoved env c (tr ++ new) msg := by
  obtain ⟨p, before, after, rfl, hmsg⟩ := h
  exact ⟨p, before, after ++ new, by rw [List.append_assoc, List.cons_append], hmsg⟩

/-- What a step has had that makes it send a message to the AP, on an AP cport. -/
inductive ComesFrom (env : Env) (t : RunStep (Fw cfg) SystemOp) (k : Fin cfg.apMaxNodes)
    (msg : GbMessage) : Prop
  /-- a request in a frame, which the message answers -/
  | response {f : RxFrame} {req : GbMessage} (hlabel : t.label = .frame f)
      (hreq : FrameMsg env f req) (hresp : IsResponse req msg)
  /-- a frame, or its turn, to open the connection of the SVC -/
  | opening (hlabel : (∃ f, t.label = .frame f) ∨ ∃ req, t.label = .request req)
      (h : IsOpening msg)
  /-- a node that discovery has cached -/
  | inserted {active : List (BitVec 128)} {id : U8} (hlabel : t.label = .filter active)
      (hid : id ∈ t.post.core.moduleIds)
      (h : IsRequest msg ([id, 1] ++ le16 0) GB_SVC_TYPE_MODULE_INSERTED)
  /-- a node that is reported -/
  | removed (h : TellsRemoved env t.pre.core (newEvents t.pre t.post) msg)
  /-- the message, off the socket of a node with a cport that is connected to this one -/
  | passed {fd : ℤ} {e : NodeItem} {cport : U16} (h : Passes env fd t e cport msg)
      (hslot : nodeToApCport t.pre.core.nodeApMap e.id cport = some k)

/-- A block carries a message that comes from somewhere. -/
def Accounted (env : Env) (t : RunStep (Fw cfg) SystemOp) (b : Block) : Prop :=
  ∃ (k : Fin cfg.apMaxNodes) (msg : GbMessage),
    b = greybusBlock (BitVec.ofNat 16 k) msg ∧ ComesFrom env t k msg

/-! ### Acts -/

/-- A message is one block, on the AP cport that is found. -/
lemma mem_hdlcBlocks_sendEvents {n : ℕ} {link : Option (Fin n)} {id : U8} {cport : U16}
    {msg : GbMessage} {b : Block} (h : b ∈ hdlcBlocks (sendEvents link id cport msg)) :
    ∃ k, link = some k ∧ b = greybusBlock (BitVec.ofNat 16 k) msg := by
  cases link with
  | none => cases h
  | some k => exact ⟨k, rfl, List.mem_singleton.mp h⟩

lemma mem_hdlcBlocks_requestEvents {n : ℕ} {link : Option (Fin n)} {msg : GbMessage} {b : Block}
    (h : b ∈ hdlcBlocks (requestEvents link msg)) :
    ∃ k, link = some k ∧ b = greybusBlock (BitVec.ofNat 16 k) msg := by
  cases link with
  | none => cases h
  | some k => exact ⟨k, rfl, List.mem_singleton.mp h⟩

/-- A report is one message. -/
lemma Reports.mem_hdlcBlocks {c : Core cfg} {p : Ptr} {tr : List Event} (h : Reports c p tr)
    {b : Block} (hb : b ∈ hdlcBlocks tr) :
    ∃ (k : Fin cfg.apMaxNodes) (msg : GbMessage), b = greybusBlock (BitVec.ofNat 16 k) msg ∧
      IsRequest msg [(c.intfMem p).id] GB_SVC_TYPE_MODULE_REMOVED := by
  obtain ⟨msg, hmsg, rfl⟩ := h
  have hdestroyed : hdlcBlocks (if c.svcLink.isSome then destroyEvents p (c.sockOf p) else []) =
      [] := by
    split
    · exact hdlcBlocks_silent fun e he => destroyEvents_silent he
    · rfl
  have hread : hdlcBlocks [.moduleRemoved p, .intfRead p] = [] := rfl
  rw [reportEvents, hdlcBlocks_append, hdlcBlocks_append, hdestroyed, hread, List.nil_append,
    List.append_nil] at hb
  obtain ⟨k, -, rfl⟩ := mem_hdlcBlocks_requestEvents hb
  exact ⟨k, msg, rfl, hmsg⟩

/-- What a step grants an act, if it reports no module: the three kinds of messages need its
label. -/
def SystemOp.Grants (env : Env) (op : SystemOp) : Act → Prop
  | .quiet => True
  | .send _ msg => (∃ f req, op = .frame f ∧ FrameMsg env f req ∧ IsResponse req msg) ∨
      ((∃ f, op = .frame f) ∨ ∃ req, op = .request req) ∧ IsOpening msg
  | .insert _ => ∃ active, op = .filter active
  | .refuse => True
  | .forward _ _ _ _ => False
  | .remove _ => False
  | .write _ _ _ _ => False
  | _ => ∀ active, op ≠ .filter active

lemma SystemOp.MayAnswer.grants {op : SystemOp} {a : Act} (h : op.MayAnswer env a) :
    op.Grants env a := by
  cases op with
  | frame f =>
      rcases h with h | ⟨req, hreq, h | h⟩
      · cases a with
        | send id msg => exact Or.inr ⟨Or.inl ⟨f, rfl⟩, Or.inl h.2⟩
        | route => exact nofun
        | stop => exact nofun
        | _ => exact h.elim
      · cases a with
        | send id msg =>
            exact h.2.imp (fun hresp => ⟨f, req, rfl, hreq, hresp⟩)
              fun hhello => ⟨Or.inl ⟨f, rfl⟩, Or.inr hhello⟩
        | route => exact nofun
        | _ => exact h.elim
      · cases a with
        | send id msg => exact Or.inl ⟨f, req, rfl, hreq, h.2⟩
        | _ => exact h.elim
  | request req =>
      cases req with
      | version =>
          obtain ⟨msg, rfl, hmsg⟩ := h
          exact Or.inr ⟨Or.inr ⟨_, rfl⟩, Or.inl hmsg⟩
      | hello =>
          obtain ⟨msg, rfl, hmsg⟩ := h
          exact Or.inr ⟨Or.inr ⟨_, rfl⟩, Or.inr hmsg⟩
      | _ => exact False.elim h
  | _ => exact False.elim h

/-- What has been accounted for stays so, if it is no report. -/
lemma Accounted.mono {s u u' : Fw cfg} {op : SystemOp} {a : Act} {b : Block}
    (h : Accounted env ⟨s, op, u⟩ b) (hact : actStep env u a u') (ha : op.Grants env a)
    {new : List Event} (hnew : newEvents s u' = newEvents s u ++ new) :
    Accounted env ⟨s, op, u'⟩ b := by
  obtain ⟨k, msg, rfl, hfrom⟩ := h
  refine ⟨k, msg, rfl, ?_⟩
  cases hfrom with
  | response hlabel hreq hresp => exact .response hlabel hreq hresp
  | opening hlabel hmsg => exact .opening hlabel hmsg
  | removed htells =>
      refine .removed (?_ : TellsRemoved env s.core (newEvents s u') msg)
      rw [hnew]
      exact htells.append new
  | passed hpass hslot => exact .passed hpass hslot
  | @inserted active id hlabel hid hmsg =>
      obtain rfl : op = .filter active := hlabel
      refine .inserted rfl (?_ : id ∈ u'.core.moduleIds) hmsg
      change id ∈ u.core.moduleIds at hid
      cases a with
      | quiet => rwa [hact.1]
      | refuse => rwa [hact.2.1]
      | insert id' =>
          rw [hact.2.1]
          exact List.mem_append_left _ hid
      | send id' msg' =>
          rcases ha with ⟨f, req, heq, -⟩ | ⟨⟨f, heq⟩ | ⟨req, heq⟩, -⟩ <;> cases heq
      | forward fd e cport msg' => exact ha.elim
      | remove p => exact ha.elim
      | write c q msg' n => exact ha.elim
      | _ => exact absurd rfl (ha active)

/-- **What an act sends** comes from what its step has had. -/
lemma actStep_accounted {s u u' : Fw cfg} {op : SystemOp} {a : Act} (hact : actStep env u a u')
    (ha : op.Grants env a) :
    ∃ new, u'.io.trace = u.io.trace ++ new ∧ ∀ b ∈ hdlcBlocks new, Accounted env ⟨s, op, u'⟩ b := by
  -- an act that is silent, or wakes the thread that polls, sends nothing
  have hopens : Adds Event.SilentOrPipe u.io u'.io →
      ∃ new, u'.io.trace = u.io.trace ++ new ∧
        ∀ b ∈ hdlcBlocks new, Accounted env ⟨s, op, u'⟩ b := by
    rintro ⟨new, htrace, hnew⟩
    exact ⟨new, htrace, by simp [hdlcBlocks_silentOrPipe hnew]⟩
  have hsilent : Adds Event.Silent u.io u'.io → ∃ new, u'.io.trace = u.io.trace ++ new ∧
      ∀ b ∈ hdlcBlocks new, Accounted env ⟨s, op, u'⟩ b := by
    rintro ⟨new, htrace, hnew⟩
    exact hopens ⟨new, htrace, fun e he => Or.inl (hnew e he)⟩
  cases a with
  | quiet => exact hsilent hact.2.adds
  | refuse => exact hsilent hact.2.2.adds
  | hear => exact hsilent hact.2
  | route => exact hopens hact.2.adds
  -- these three are of no step that answers or announces
  | forward fd e cport msg => exact ha.elim
  | remove p => exact ha.elim
  | write c q msg n => exact ha.elim
  | send id msg =>
      refine ⟨_, hact.2.2.2, fun b hb => ?_⟩
      obtain ⟨k, -, rfl⟩ := mem_hdlcBlocks_sendEvents hb
      refine ⟨k, msg, rfl, ?_⟩
      rcases ha with ⟨f, req, rfl, hreq, hresp⟩ | ⟨hlabel, hmsg⟩
      · exact .response rfl hreq hresp
      · exact .opening hlabel hmsg
  | insert id =>
      obtain ⟨-, hids, -, msg, hmsg, htrace⟩ := hact
      obtain ⟨active, rfl⟩ := ha
      refine ⟨_, htrace, fun b hb => ?_⟩
      obtain ⟨k, -, rfl⟩ := mem_hdlcBlocks_requestEvents hb
      have hid : id ∈ u'.core.moduleIds := by simp [hids]
      exact ⟨k, msg, rfl, .inserted rfl hid hmsg⟩
  | stop =>
      obtain ⟨-, -, new, hnew, htrace⟩ := hact
      refine ⟨_, htrace, fun b hb => ?_⟩
      change b ∈ hdlcBlocks new at hb
      rw [hdlcBlocks_silent hnew] at hb
      cases hb

/-- So what a sequence of them does. -/
lemma Acts.accounted {P : Act → Prop} {s s' : Fw cfg} {op : SystemOp} (h : Acts env P s s')
    (hP : ∀ a, P a → op.Grants env a) :
    ∃ tr, s'.io.trace = s.io.trace ++ tr ∧ ∀ b ∈ hdlcBlocks tr, Accounted env ⟨s, op, s'⟩ b := by
  obtain ⟨l, hrun, hl⟩ := h
  refine (hrun.invariant
    (I := fun u => ∃ tr, u.io.trace = s.io.trace ++ tr ∧
      ∀ b ∈ hdlcBlocks tr, Accounted env ⟨s, op, u⟩ b)
    (G := fun _ a _ => a = .quiet ∨ P a) ⟨[], by simp, by simp [hdlcBlocks]⟩ ?_ hl).1
  rintro u a u' ⟨tr, htr, hall⟩ hact ha
  have hgrants : op.Grants env a := by
    rcases ha with rfl | ha
    · trivial
    · exact hP a ha
  obtain ⟨new, hnew, haccounted⟩ := actStep_accounted (s := s) hact hgrants
  have htrace : u'.io.trace = s.io.trace ++ (tr ++ new) := by
    rw [hnew, htr, List.append_assoc]
  refine ⟨tr ++ new, htrace, fun b hb => ?_⟩
  rw [hdlcBlocks_append, List.mem_append] at hb
  rcases hb with hb | hb
  · have hevents : newEvents s u' = newEvents s u ++ new := by
      rw [newEvents_eq htr, newEvents_eq htrace]
    exact (hall b hb).mono hact hgrants hevents
  · exact haccounted b hb

/-! ### Reports -/

/-- A block tells of a module that is reported. -/
def TellsOf (env : Env) (c : Core cfg) (tr : List Event) (b : Block) : Prop :=
  ∃ (k : Fin cfg.apMaxNodes) (msg : GbMessage),
    b = greybusBlock (BitVec.ofNat 16 k) msg ∧ TellsRemoved env c tr msg

lemma TellsOf.append {c : Core cfg} {tr : List Event} {b : Block} (h : TellsOf env c tr b)
    (new : List Event) : TellsOf env c (tr ++ new) b := by
  obtain ⟨k, msg, rfl, hmsg⟩ := h
  exact ⟨k, msg, rfl, hmsg.append new⟩

/-- The acts that end in reports. -/
def Act.MayReport : Act → Prop
  | .hear | .remove _ | .write _ _ _ _ => True
  | _ => False

lemma removals_silent {tr : List Event} (h : ∀ e ∈ tr, e.Silent) : removals tr = [] := by
  refine List.filterMap_eq_nil_iff.mpr fun e he => ?_
  cases e with
  | moduleRemoved p => exact (h _ he).elim
  | _ => rfl

lemma removals_sendsOn {fd : ℤ} {tr : List Event} (h : SendsOn fd tr) :
    removals tr = [] ∧ hdlcBlocks tr = [] := by
  constructor
  all_goals
    refine List.filterMap_eq_nil_iff.mpr fun e he => ?_
    obtain ⟨bs, rfl⟩ := h e he
    rfl

/-- A report starts with its module, and has no other. -/
lemma Reports.oneRemoval {c : Core cfg} {p : Ptr} {tr : List Event} (h : Reports c p tr) :
    removals tr = [p] ∧ ∃ after, tr = .moduleRemoved p :: after := by
  obtain ⟨msg, -, rfl⟩ := h
  have hrequest : removals (requestEvents c.svcLink msg) = [] := by
    cases c.svcLink <;> rfl
  have hdestroy : removals
      (if c.svcLink.isSome then destroyEvents p (c.sockOf p) else []) = [] := by
    split_ifs
    · exact removals_silent fun e he => destroyEvents_silent he
    · rfl
  refine ⟨?_, _, rfl⟩
  rw [reportEvents, removals_append, removals_append, hrequest, hdestroy]
  rfl

/-- What has been done and told by reports so far. -/
structure HasTold (env : Env) (s u : Fw cfg) (tr : List Event) : Prop where
  trace : u.io.trace = s.io.trace ++ tr
  core : u.core = s.core.afterReports env (removals tr)
  tells : ∀ b ∈ hdlcBlocks tr, TellsOf env s.core tr b

/-- What an act tells that may report a module. -/
lemma actStep_hasTold {s u u' : Fw cfg} {a : Act} {tr : List Event} (h : HasTold env s u tr)
    (hact : actStep env u a u') (ha : a = .quiet ∨ a.MayReport) :
    ∃ new, HasTold env s u' (tr ++ new) := by
  -- an act that reports nothing and sends nothing leaves what has been told
  have hnothing : ∀ {new}, u'.core = u.core → u'.io.trace = u.io.trace ++ new →
      removals new = [] ∧ hdlcBlocks new = [] → ∃ new, HasTold env s u' (tr ++ new) := by
    rintro new hcore htrace ⟨hremovals, hblocks⟩
    refine ⟨new, by rw [htrace, h.trace, List.append_assoc], ?_, fun b hb => ?_⟩
    · rw [hcore, h.core, removals_append, hremovals, List.append_nil]
    · rw [hdlcBlocks_append, hblocks, List.append_nil] at hb
      exact (h.tells b hb).append new
  have hsilent : u'.core = u.core → Adds Event.Silent u.io u'.io →
      ∃ new, HasTold env s u' (tr ++ new) := by
    rintro hcore ⟨new, htrace, hnew⟩
    exact hnothing hcore htrace ⟨removals_silent hnew, hdlcBlocks_silent hnew⟩
  cases a with
  | quiet => exact hsilent hact.1 hact.2.adds
  | hear => exact hsilent hact.1 hact.2
  | write c q msg n =>
      obtain ⟨hcore, -, slot, new, -, -, hon, -, htrace⟩ := hact
      exact hnothing hcore htrace (removals_sendsOn hon)
  | remove p =>
      obtain ⟨hcore, -, new, hreports, htrace⟩ := hact
      -- it reports one removal, and its blocks carry the id the interface has there
      obtain ⟨hone, after, hafter⟩ := hreports.oneRemoval
      refine ⟨new, by rw [htrace, h.trace, List.append_assoc], ?_, fun b hb => ?_⟩
      · rw [hcore, h.core, removals_append, hone, Core.afterReports, Core.afterReports,
          List.foldl_append]
        rfl
      · rw [hdlcBlocks_append, List.mem_append] at hb
        rcases hb with hb | hb
        · exact (h.tells b hb).append new
        · obtain ⟨k, msg, rfl, hmsg⟩ := hreports.mem_hdlcBlocks hb
          rw [h.core] at hmsg
          exact ⟨k, msg, rfl, p, tr, after, by rw [hafter], hmsg⟩
  | _ => exact (ha.resolve_left nofun).elim

/-- So what a sequence of them does. -/
lemma Acts.tellsOf {P : Act → Prop} {s s' : Fw cfg} (op : SystemOp) (h : Acts env P s s')
    (hP : ∀ a, P a → a.MayReport) :
    ∃ tr, s'.io.trace = s.io.trace ++ tr ∧ ∀ b ∈ hdlcBlocks tr, Accounted env ⟨s, op, s'⟩ b := by
  obtain ⟨l, hrun, hl⟩ := h
  obtain ⟨tr, htold⟩ := (hrun.invariant (I := fun u => ∃ tr, HasTold env s u tr)
    (G := fun _ a _ => a = .quiet ∨ P a) ⟨[], by simp, rfl, by simp [hdlcBlocks]⟩
    (fun u a u' ⟨tr, h⟩ hact ha =>
      have ⟨new, h⟩ := actStep_hasTold h hact (ha.imp_right (hP a))
      ⟨tr ++ new, h⟩) hl).1
  refine ⟨tr, htold.trace, fun b hb => ?_⟩
  obtain ⟨k, msg, rfl, htells⟩ := htold.tells b hb
  rw [← newEvents_eq htold.trace] at htells
  exact ⟨k, msg, rfl, .removed htells⟩

/-! ### Steps -/

/-- A socket that is served has a message of its node, or its node is reported. -/
lemma serve_accounted {fd : ℤ} {r : Revents} {flag flag' : Bool} {s s' : Fw cfg}
    (hids : IdsIssued s.core) (h : Ends (nodeRxServe env fd r flag) s flag' s') :
    ∃ tr, s'.io.trace = s.io.trace ++ tr ∧
      ∀ b ∈ hdlcBlocks tr, Accounted env ⟨s, .serve fd r flag, s'⟩ b := by
  rcases nodeRxServe_acts hids h with ⟨-, hacts⟩ | ⟨-, -, rfl⟩ |
    ⟨hbad, hin, i, e, m, b, io, hfind, hrecv, ⟨-, hrem⟩ | ⟨rfl, cport, msg, rfl, -, hfwd⟩⟩
  · exact hacts.tellsOf _ fun a ha => by cases a <;> trivial
  · exact ⟨[], by simp, by simp [hdlcBlocks]⟩
  · -- it is read, and then its node is reported
    obtain ⟨⟨bs, hread⟩, -⟩ := gbMessageReceive_readsOff env hrecv
    have hhear : Acts env (fun a => a = .hear ∨ a = .remove e.inf) s ⟨s.core, io⟩ :=
      .single .hear ⟨rfl, hread.adds⟩ (Or.inl rfl)
    have hacts := trans_of (Acts env _) hhear (.single (.remove e.inf) hrem (Or.inr rfl))
    refine hacts.tellsOf _ ?_
    rintro a (rfl | rfl) <;> trivial
  · have hpass : Passes env fd ⟨s, .serve fd r flag, s'⟩ e cport msg :=
      ⟨r, flag, i, io, rfl, hbad, hin, hfind, hrecv⟩
    obtain ⟨-, -, io', ⟨-, tr, htrace, htr⟩, rfl⟩ := hfwd
    have hnew : (io'.logged (sendEvents (nodeToApCport s.core.nodeApMap e.id cport) e.id cport
        msg)).trace = s.io.trace ++ (tr ++ [.received fd (.full cport msg)] ++
          sendEvents (nodeToApCport s.core.nodeApMap e.id cport) e.id cport msg) := by
      rw [Io.logged_trace, htrace, List.append_assoc, List.append_assoc, List.append_assoc]
    have hreceived : hdlcBlocks [.received fd (.full cport msg)] = [] := rfl
    refine ⟨_, hnew, fun b hb => ?_⟩
    rw [hdlcBlocks_append, hdlcBlocks_append, hdlcBlocks_silent htr, hreceived, List.nil_append,
      List.nil_append] at hb
    obtain ⟨k, hslot, rfl⟩ := mem_hdlcBlocks_sendEvents hb
    exact ⟨k, msg, rfl, .passed hpass hslot⟩

/-- **One step**: what it sends to the AP is accounted for. -/
lemma systemStep_accounted {s s' : Fw cfg} {op : SystemOp} (h : systemStep env s op s')
    (hown : OwnStep s op s') (hids : IdsIssued s.core) :
    ∃ tr, s'.io.trace = s.io.trace ++ tr ∧ ∀ b ∈ hdlcBlocks tr, Accounted env ⟨s, op, s'⟩ b := by
  by_cases hserve : ∃ fd r flag, op = .serve fd r flag
  · obtain ⟨fd, r, flag, rfl⟩ := hserve
    obtain ⟨flag', h⟩ := h
    exact serve_accounted hids h
  · push Not at hserve
    rcases systemStep_acts h hown hids with hacts | hacts
    · exact hacts.accounted fun a ha => ha.grants
    cases op with
    | frame f =>
        refine hacts.tellsOf _ fun a ha => ?_
        obtain ⟨msg, -, ha⟩ := ha
        cases a <;> trivial
    | serve fd r flag => exact absurd rfl (hserve fd r flag)
    | filter active =>
        refine hacts.accounted fun a ha => ?_
        cases a with
        | insert id => exact ⟨active, rfl⟩
        | refuse => trivial
        | _ => exact False.elim ha
    | request req =>
        refine hacts.tellsOf _ fun a ha => ?_
        cases req with
        | moduleRemoved p =>
            obtain rfl : a = .remove p := ha
            trivial
        | _ => exact False.elim ha
    | outside => exact hacts.tellsOf _ fun a ha => by cases a <;> trivial

/-- **Nothing is made up**: in every run from the start whose nodes have blocks of the slabs, what
has gone to the AP is, step by step and in order, blocks of messages that each come from what
their step has had: the response to a request in its frame, the two requests that open the SVC's
connection, an announcement of a node that has been cached, the report of one by the id its
interface holds then, or a message a node has sent, on the AP cport connected to the node's. -/
theorem blocks_accounted {s : Fw cfg} {l : List (RunStep (Fw cfg) SystemOp)}
    (hrun : Run (systemStep env) (Fw.boot cfg) l s)
    (hl : ∀ t ∈ l, OwnStep t.pre t.label t.post ∧ TakesBlocks env t.pre t.label) :
    ∃ parts, hdlcBlocks s.io.trace = parts.flatten ∧
      List.Forall₂ (fun t bs => ∀ b ∈ bs, Accounted env t b) l parts := by
  refine hrun.outputs (f := fun s => hdlcBlocks s.io.trace) (I := fun s => NamesRight s.core)
    (G := fun s op s' => OwnStep s op s' ∧ TakesBlocks env s op) (namesRight_boot cfg)
    (fun s op s' hnames hstep ⟨hown, _⟩ => ?_) hl
  obtain ⟨tr, htrace, hall⟩ := systemStep_accounted hstep hown hnames.ids
  exact ⟨systemStep_keeps (namesRight_kept env) hstep hnames, hdlcBlocks tr,
    by rw [htrace, hdlcBlocks_append], hall⟩

/-- A node is found and connected, and two of its messages come in. -/
theorem blocks_accounted_node :
    ∃ parts, hdlcBlocks nodeServed.io.trace = parts.flatten ∧
      List.Forall₂ (fun t bs => ∀ b ∈ bs, Accounted calmEnv t b) nodeSteps parts :=
  blocks_accounted nodeSteps_run fun t ht => ⟨(nodeSteps_own t ht).1, nodeSteps_blocks t ht⟩

end Cc1352Greybus
