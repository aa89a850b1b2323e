import Cc1352Greybus.Acts.Step
import Cc1352Greybus.Heap.Leaks
import Cc1352Greybus.Mdns.QueryRecv
import Cc1352Greybus.Nodes.Discovery

/-!
The thread of `tcp_discovery.c`, while the rest of the firmware does what it does.

A round asks for the service, lists who answers, and has `node_filter` make nodes of them. The
AP starts and stops discovery whenever it likes: a stop suspends the thread wherever it is, and
a start has it go on from there.

* `HandlerPc`, `discoveryStep`: the thread, one call at a time, and steps of the system between.
* `roundAnswers`: who has answered since the thread last asked.
* `round_discovers`: a round makes nodes of exactly these.
* `nodes_answered`: every node has answered, and no address has two.
* `stopped_bare`: while discovery is stopped there are no nodes.
-/

namespace Cc1352Greybus

open Effects PackedArray

variable {cfg : Config} (env : Env)

/-! ### The thread -/

/-- `query` of `handler`, up to its end mark. -/
def handlerQuery : List U8 := greybusService.text

/-- What the calls of `mdns_socket_open_ipv6` return: `zsock_socket`, `join_multicast_group` and
`zsock_bind`. -/
structure MdnsOpening where
  sock : ℤ
  joined : Bool
  bound : ℤ

/-- `mdns_socket_setup_ipv6` -/
def mdnsSocketSetupIpv6 (o : MdnsOpening) : ℤ :=
  if o.joined then if o.bound ≠ 0 then -1 else 0 else -1

/-- `mdns_socket_open_ipv6` -/
def mdnsSocketOpenIpv6 (o : MdnsOpening) : ℤ :=
  if o.sock < 0 then -1 else if mdnsSocketSetupIpv6 o ≠ 0 then -1 else o.sock

/-- `tcp_discovery_data.sock`, and whether the thread is suspended. -/
structure TcpDiscovery where
  sock : ℤ
  suspended : Bool
  deriving DecidableEq

namespace TcpDiscovery

/-- `tcp_discovery_start` -/
def tcpDiscoveryStart (o : MdnsOpening) (_ : TcpDiscovery) : TcpDiscovery :=
  ⟨mdnsSocketOpenIpv6 o, false⟩

/-- `tcp_discovery_stop` -/
def tcpDiscoveryStop (d : TcpDiscovery) : TcpDiscovery := ⟨if 0 ≤ d.sock then -1 else d.sock, true⟩

/-- What an event of the control protocol makes of it. -/
def after (o : MdnsOpening) (d : TcpDiscovery) : Event → TcpDiscovery
  | .tcpDiscovery start => if start then d.tcpDiscoveryStart o else d.tcpDiscoveryStop
  | _ => d

end TcpDiscovery

/-- Where the thread stands. -/
inductive HandlerPc
  /-- in `k_msleep` -/
  | sleeping
  /-- before `mdns_query_send` -/
  | asking
  /-- in the loop of `mdns_query_recv` -/
  | receiving (total : ℕ)
  /-- before `node_filter` -/
  | filtering (ret : ℕ)
  deriving DecidableEq

/-- The firmware and the thread. -/
structure DiscoveryFw (cfg : Config) where
  fw : Fw cfg
  data : TcpDiscovery
  pc : HandlerPc
  nodeArray : Vector (BitVec 128) cfg.maxGreybusNodes

/-- Something the thread does, or the rest of the firmware. -/
inductive HandlerOp
  /-- `k_msleep` returns -/
  | wake
  /-- `mdns_query_send` -/
  | ask (sock : MdnsSocket) (stack : Vector U8 MDNS_REQUEST_BUFFER_SIZE)
  /-- `zsock_poll` returns more than zero, and there is room in the list -/
  | receive (r : MdnsReception)
  /-- the loop of `mdns_query_recv` is left -/
  | leave
  /-- `node_filter` -/
  | filter
  /-- another thread -/
  | other (op : SystemOp) (o : MdnsOpening)

/-- One step. The thread makes none while it is suspended. -/
def discoveryStep (s : DiscoveryFw cfg) (op : HandlerOp) (s' : DiscoveryFw cfg) : Prop :=
  match op with
  | .wake => s.data.suspended = false ∧ s.pc = .sleeping ∧
      s' = { s with pc := if s.data.sock < 0 then .sleeping else .asking }
  | .ask sock stack => s.data.suspended = false ∧ s.pc = .asking ∧
      ∃ sent, mdnsQuerySend sock stack handlerQuery = .ok sent ∧
        s' = { s with pc := if sent.ret < 0 then .sleeping else .receiving 0 }
  | .receive r => s.data.suspended = false ∧
      ∃ total addrList total', s.pc = .receiving total ∧ total < cfg.maxGreybusNodes ∧
        mdnsQueryRecvBody handlerQuery r s.nodeArray.toList total =
          .ok (addrList.toList, total') ∧
        s' = { s with pc := .receiving total', nodeArray := addrList }
  | .leave => s.data.suspended = false ∧
      ∃ total, s.pc = .receiving total ∧ s' = { s with pc := .filtering total }
  | .filter => s.data.suspended = false ∧ ∃ ret fw', s.pc = .filtering ret ∧
      systemStep env s.fw (.filter (s.nodeArray.toList.take ret)) fw' ∧
      s' = { s with fw := fw', pc := .sleeping }
  | .other op o => (∀ active, op ≠ .filter active) ∧ ∃ fw', OwnStep s.fw op fw' ∧
      systemStep env s.fw op fw' ∧
      s' = { s with fw := fw', data := (newEvents s.fw fw').foldl (TcpDiscovery.after o) s.data }

/-- Once the firmware has booted: `main` has stopped discovery. -/
def DiscoveryFw.boot (nodeArray : Vector (BitVec 128) cfg.maxGreybusNodes) : DiscoveryFw cfg :=
  ⟨.boot cfg, ⟨-1, true⟩, .sleeping, nodeArray⟩

/-! ### Who has answered -/

/-- The answers of a round, after one more step of the thread. -/
def HandlerOp.heard (addrs : List (BitVec 128)) : HandlerOp → List (BitVec 128)
  | .ask _ _ => []
  | .receive r =>
    match r.answer handlerQuery with
    | .ok a => addrs ++ a.toList
    | .error _ => addrs
  | _ => addrs

/-- The sources of the answers since the thread last asked. -/
def roundAnswers (l : List (RunStep (DiscoveryFw cfg) HandlerOp)) : List (BitVec 128) :=
  (l.map RunStep.label).foldl HandlerOp.heard []

lemma roundAnswers_snoc (l : List (RunStep (DiscoveryFw cfg) HandlerOp))
    (t : RunStep (DiscoveryFw cfg) HandlerOp) :
    roundAnswers (l ++ [t]) = t.label.heard (roundAnswers l) := by
  rw [roundAnswers, List.map_append, List.foldl_append]
  rfl

/-- The first `n` entries of the array are the answers. -/
def DiscoveryFw.Lists (s : DiscoveryFw cfg) (addrs : List (BitVec 128)) (n : ℕ) : Prop :=
  s.nodeArray.toList.take n = addrs ∧ addrs.length = n ∧ n ≤ cfg.maxGreybusNodes

/-- What the thread has listed, wherever it stands. -/
def DiscoveryFw.Listed (s : DiscoveryFw cfg) (addrs : List (BitVec 128)) : Prop :=
  match s.pc with
  | .receiving total => s.Lists addrs total
  | .filtering ret => s.Lists addrs ret
  | _ => True

section step

variable {env} {s s' : DiscoveryFw cfg} {op : HandlerOp}

/-- An answer is listed behind those before it. -/
lemma DiscoveryFw.Lists.receive {addrs : List (BitVec 128)} {total total' : ℕ}
    {addrList : Vector (BitVec 128) cfg.maxGreybusNodes} {r : MdnsReception}
    (h : s.Lists addrs total) (hroom : total < cfg.maxGreybusNodes)
    (hbody : mdnsQueryRecvBody handlerQuery r s.nodeArray.toList total =
      .ok (addrList.toList, total')) :
    DiscoveryFw.Lists { s with pc := .receiving total', nodeArray := addrList }
      ((HandlerOp.receive r).heard addrs) total' := by
  obtain ⟨htake, hlen, hle⟩ := h
  have hin : total < s.nodeArray.toList.length := by rwa [Vector.length_toList]
  rw [mdnsQueryRecvBody_eq hin] at hbody
  cases hanswer : r.answer handlerQuery with
  | error e =>
      rw [hanswer] at hbody
      cases hbody
  | ok a =>
      rw [hanswer] at hbody
      obtain ⟨hlist, htotal⟩ := Prod.mk.inj (Except.ok.inj hbody)
      have hone : a.toList.length ≤ 1 := by cases a <;> simp
      simp only [HandlerOp.heard, hanswer, DiscoveryFw.Lists]
      refine ⟨?_, ?_, by omega⟩
      · rw [← hlist, ← htotal, Memory.take_splice_end _ hin.le, htake]
      · rw [List.length_append, hlen, htotal]

/-- **One step** keeps the list. -/
lemma discoveryStep_listed {addrs : List (BitVec 128)} (h : discoveryStep env s op s')
    (hs : s.Listed addrs) : s'.Listed (op.heard addrs) := by
  cases op with
  | wake =>
      obtain ⟨-, -, rfl⟩ := h
      rw [DiscoveryFw.Listed]
      by_cases hsock : s.data.sock < 0 <;> simp [hsock]
  | ask sock stack =>
      obtain ⟨-, -, sent, -, rfl⟩ := h
      rw [DiscoveryFw.Listed]
      by_cases hsent : sent.ret < 0
      · simp [hsent]
      · simp [hsent, DiscoveryFw.Lists, HandlerOp.heard]
  | receive r =>
      obtain ⟨-, total, addrList, total', hpc, hroom, hbody, rfl⟩ := h
      rw [DiscoveryFw.Listed, hpc] at hs
      exact hs.receive hroom hbody
  | leave =>
      obtain ⟨-, total, hpc, rfl⟩ := h
      rw [DiscoveryFw.Listed, hpc] at hs
      exact hs
  | filter =>
      obtain ⟨-, ret, fw', -, -, rfl⟩ := h
      trivial
  | other op o =>
      obtain ⟨-, fw', -, -, rfl⟩ := h
      exact hs

end step

/-- **The array holds the answers**, whatever happens while the thread waits for them. -/
lemma run_listed {env : Env} {nodeArray : Vector (BitVec 128) cfg.maxGreybusNodes}
    {s : DiscoveryFw cfg} {l : List (RunStep (DiscoveryFw cfg) HandlerOp)}
    (hrun : Run (discoveryStep env) (.boot nodeArray) l s) : s.Listed (roundAnswers l) := by
  induction hrun with
  | nil => trivial
  | snoc hrun hstep ih =>
      rw [roundAnswers_snoc]
      exact discoveryStep_listed hstep ih

/-- What `node_filter` gets is who has answered. -/
lemma discoveryStep_filter {env : Env} {nodeArray : Vector (BitVec 128) cfg.maxGreybusNodes}
    {s s' : DiscoveryFw cfg} {l : List (RunStep (DiscoveryFw cfg) HandlerOp)}
    (hrun : Run (discoveryStep env) (.boot nodeArray) l s) (hstep : discoveryStep env s .filter s') :
    (roundAnswers l).length ≤ cfg.maxGreybusNodes ∧
      systemStep env s.fw (.filter (roundAnswers l)) s'.fw := by
  obtain ⟨-, ret, fw', hpc, hfilter, rfl⟩ := hstep
  have hlisted := run_listed hrun
  rw [DiscoveryFw.Listed, hpc] at hlisted
  obtain ⟨htake, hlen, hle⟩ := hlisted
  rw [htake] at hfilter
  exact ⟨by omega, hfilter⟩

/-- **A round makes nodes of its answers**: `node_filter` gets who has answered since the thread
last asked, in that order and as many as fit the array, and makes a node of each that has none
yet, as far as there is room. -/
theorem round_discovers {env : Env} {nodeArray : Vector (BitVec 128) cfg.maxGreybusNodes}
    {s s' : DiscoveryFw cfg} {l : List (RunStep (DiscoveryFw cfg) HandlerOp)}
    (hrun : Run (discoveryStep env) (.boot nodeArray) l s) (hstep : discoveryStep env s .filter s') :
    (roundAnswers l).length ≤ cfg.maxGreybusNodes ∧
      systemStep env s.fw (.filter (roundAnswers l)) s'.fw ∧
      (env.slabFreeApi = .pointee → IdealPools s.fw.core → ∃ news,
        AddsNodes s.fw.core s'.fw.core news ∧
          news.map NodeItem.addr = newAddrs s.fw.core (roundAnswers l)) := by
  obtain ⟨hle, hfilter⟩ := discoveryStep_filter hrun hstep
  refine ⟨hle, hfilter, fun hapi hpools => ?_⟩
  obtain ⟨c', news, hadds, hnews, hends⟩ := nodeFilter_adds env hapi hpools (roundAnswers l)
  have hcore : s'.fw.core = c' := announceAll_core env ((hends s.fw.io s'.fw).mp hfilter)
  exact ⟨news, hcore ▸ hadds, hnews⟩

/-! ### Where nodes come from -/

/-- No address is cached twice, and each has some property. -/
structure AddrsFrom (P : BitVec 128 → Prop) (c : Core cfg) : Prop where
  nodup : c.addrs.Nodup
  all : ∀ addr ∈ c.addrs, P addr

namespace AddrsFrom

variable {P Q : BitVec 128 → Prop} {c c' : Core cfg}

lemma mono (h : AddrsFrom P c) (hPQ : ∀ addr, P addr → Q addr) : AddrsFrom Q c :=
  ⟨h.nodup, fun addr haddr => hPQ addr (h.all addr haddr)⟩

/-- A cache with no other nodes has it too. -/
lemma subperm (h : AddrsFrom P c) (hsub : c'.addrs.Subperm c.addrs) : AddrsFrom P c' := by
  obtain ⟨addrs, hperm, hsublist⟩ := id hsub
  exact ⟨hperm.nodup (h.nodup.sublist hsublist), fun addr haddr => h.all addr (hsub.subset haddr)⟩

end AddrsFrom

/-- A removal leaves some of the addresses. -/
lemma addrs_removeById (cache : List NodeItem) (id : U8) :
    ((nodeCacheRemoveById cache id).map NodeItem.addr).Subperm (cache.map NodeItem.addr) := by
  rw [nodeCacheRemoveById]
  cases hfind : nodeCacheFindById cache id with
  | none => exact List.Subperm.refl _
  | some r =>
      obtain ⟨i, e⟩ := r
      have hperm := (cons_swapRemove_findEntry hfind).map NodeItem.addr
      rw [List.map_cons] at hperm
      exact List.subperm_cons_self.trans hperm.subperm

/-- All that changes the tables keeps where the nodes come from, but for a creation. -/
lemma addrsFrom_kept (P : BitVec 128 → Prop) : KeptByRest env (AddrsFrom P : Core cfg → Prop) where
  destroyInterface p h := h.subperm (addrs_removeById _ _)
  clearCache h := ⟨List.nodup_nil, by simp [Core.addrs]⟩
  connect k intf cport h := ⟨h.nodup, h.all⟩
  disconnect k h := ⟨h.nodup, h.all⟩
  deinit h := ⟨h.nodup, h.all⟩
  sockets hsame h := by
    have haddrs := congrArg (List.map fun x : U8 × BitVec 128 × Ptr => x.2.1) hsame.nodeCache
    rw [List.map_map, List.map_map] at haddrs
    refine h.subperm (List.Perm.subperm (List.Perm.of_eq haddrs))
  ready b h := ⟨h.nodup, h.all⟩

/-- A discovery adds nodes for the addresses it is given. -/
lemma addrsFrom_filter {P : BitVec 128 → Prop} {active : List (BitVec 128)} {s s' : Fw cfg}
    (h : Ends (nodeFilter env active) s () s') (hs : AddrsFrom P s.core)
    (hactive : ∀ addr ∈ active, P addr) : AddrsFrom P s'.core := by
  rw [nodeFilter_core env h]
  clear h
  -- on the addresses; the tables change with each
  generalize s.core = c at hs
  induction active generalizing c with
  | nil => exact hs
  | cons addr active ih =>
      rw [List.forall_mem_cons] at hactive
      refine ih hactive.2 (c.filterOne env addr) ?_
      rw [Core.filterOne]
      cases hfind : nodeCacheFindByAddr c.nodeCache addr with
      | some e => exact hs
      | none =>
          have hnew := nodeCacheFindByAddr_eq_none.mp hfind
          have hsame : ∀ c' : Core cfg, c'.nodeCache = c.nodeCache → AddrsFrom P c' :=
            fun c' hcache => ⟨by rw [Core.addrs, hcache]; exact hs.nodup, fun a ha => hs.all a (by
              rwa [Core.addrs, hcache] at ha)⟩
          -- no block for it, or no room in the cache: the cache is as it was
          rcases nodeCreateInterface_spec env c addr with ⟨-, h⟩ | ⟨-, inf, ctrlData, -, h⟩
          · exact hsame _ h.nodeCache
          rcases h with ⟨-, -, hcache⟩ | ⟨-, -, hcache⟩
          · exact hsame _ hcache
          -- it is cached, and its address was not in the cache before
          · have haddrs : (c.nodeCreateInterface env addr).2.addrs = c.addrs ++ [addr] := by
              rw [Core.addrs, hcache, List.map_append]
              rfl
            constructor
            · rw [haddrs]
              exact List.nodup_append.mpr ⟨hs.nodup, List.nodup_singleton _, fun a ha b hb => by
                rw [List.mem_singleton.mp hb]
                exact fun h => hnew (h ▸ ha)⟩
            · rw [haddrs]
              intro a ha
              rcases List.mem_append.mp ha with ha | ha
              · exact hs.all a ha
              · rw [List.mem_singleton.mp ha]
                exact hactive.1

/-- Somebody has answered: a datagram came from the address, and may carry the name asked for. -/
def Answered (l : List (RunStep (DiscoveryFw cfg) HandlerOp)) (addr : BitVec 128) : Prop :=
  ∃ t ∈ l, ∃ r d, t.label = .receive r ∧ r.received = some d ∧ d.source = addr ∧
    d.MayCarry handlerQuery

lemma Answered.snoc {l : List (RunStep (DiscoveryFw cfg) HandlerOp)} {addr : BitVec 128}
    (h : Answered l addr) (t : RunStep (DiscoveryFw cfg) HandlerOp) : Answered (l ++ [t]) addr := by
  obtain ⟨t', ht', h⟩ := h
  exact ⟨t', List.mem_append_left _ ht', h⟩

lemma roundAnswers_answered (l : List (RunStep (DiscoveryFw cfg) HandlerOp)) :
    ∀ addr ∈ roundAnswers l, Answered l addr := by
  induction l using List.reverseRecOn with
  | nil => simp [roundAnswers]
  | append_singleton l t ih =>
      intro addr haddr
      rw [roundAnswers_snoc] at haddr
      cases hlabel : t.label with
      | ask sock stack =>
          rw [hlabel] at haddr
          cases haddr
      | receive r =>
          rw [hlabel, HandlerOp.heard] at haddr
          cases hanswer : r.answer handlerQuery with
          | error e =>
              rw [hanswer] at haddr
              exact (ih addr haddr).snoc t
          | ok a =>
              rw [hanswer] at haddr
              rcases List.mem_append.mp haddr with h | h
              · exact (ih addr h).snoc t
              · rw [Option.mem_toList] at h
                obtain ⟨d, hd, hsource, hcarry⟩ := MdnsReception.answer_mayCarry (h ▸ hanswer)
                exact ⟨t, by simp, r, d, hlabel, hd, hsource, hcarry⟩
      | _ =>
          rw [hlabel] at haddr
          exact (ih addr haddr).snoc t

/-- **Every node has answered**: in every run from the start, no two nodes have one address, and
each node's is the source of a datagram that may carry the name asked for, received in a round
of the run. -/
theorem nodes_answered {env : Env} {nodeArray : Vector (BitVec 128) cfg.maxGreybusNodes}
    {s : DiscoveryFw cfg} {l : List (RunStep (DiscoveryFw cfg) HandlerOp)}
    (hrun : Run (discoveryStep env) (.boot nodeArray) l s) : AddrsFrom (Answered l) s.fw.core := by
  induction hrun with
  | nil => exact ⟨List.nodup_nil, by simp [Core.addrs, DiscoveryFw.boot, Fw.boot, Core.boot]⟩
  | @snoc l s op s' hrun hstep ih =>
      have hmono := ih.mono fun addr h => h.snoc ⟨s, op, s'⟩
      cases op with
      | filter =>
          exact addrsFrom_filter env (discoveryStep_filter hrun hstep).2 hmono
            fun addr haddr => (roundAnswers_answered l addr haddr).snoc _
      | other op o =>
          obtain ⟨hop, fw', -, hsystem, rfl⟩ := hstep
          exact systemStep_keeps_rest (addrsFrom_kept env _) hsystem hop hmono
      | wake =>
          obtain ⟨-, -, rfl⟩ := hstep
          exact hmono
      | ask sock stack =>
          obtain ⟨-, -, sent, -, rfl⟩ := hstep
          exact hmono
      | receive r =>
          obtain ⟨-, total, addrList, total', -, -, -, rfl⟩ := hstep
          exact hmono
      | leave =>
          obtain ⟨-, total, -, rfl⟩ := hstep
          exact hmono

/-! ### While discovery is stopped -/

/-- Whether the thread is suspended, after an event. -/
def Event.suspends (suspended : Bool) : Event → Bool
  | .tcpDiscovery start => !start
  | _ => suspended

lemma suspended_foldl (o : MdnsOpening) (d : TcpDiscovery) (tr : List Event) :
    (tr.foldl (TcpDiscovery.after o) d).suspended = tr.foldl Event.suspends d.suspended := by
  induction tr generalizing d with
  | nil => rfl
  | cons e tr ih =>
      rw [List.foldl_cons, List.foldl_cons, ih]
      congr 1
      cases e with
      | tcpDiscovery start => cases start <;> rfl
      | _ => rfl

/-- Without a stop the thread is not suspended. -/
lemma suspends_of_noStop {tr : List Event} (h : ∀ e ∈ tr, e ≠ .tcpDiscovery false) {b : Bool}
    (hb : tr.foldl Event.suspends b = true) : b = true := by
  induction tr generalizing b with
  | nil => exact hb
  | cons e tr ih =>
      rw [List.forall_mem_cons] at h
      have hrest := ih h.2 hb
      cases e with
      | tcpDiscovery start =>
          cases start with
          | true => cases hrest
          | false => exact absurd rfl h.1
      | _ => exact hrest

/-- If discovery that is stopped had no nodes, it has none after what has been done. -/
def StaysBare (s s' : Fw cfg) : Prop :=
  ∃ tr, s'.io.trace = s.io.trace ++ tr ∧ ∀ b, (b = true → s.core.moduleIds = []) →
    tr.foldl Event.suspends b = true → s'.core.moduleIds = []

instance : Std.Refl (@StaysBare cfg) :=
  ⟨fun _ => ⟨[], (List.append_nil _).symm, fun _ hb h => hb h⟩⟩

instance : IsTrans (Fw cfg) StaysBare := ⟨by
  rintro s₁ s₂ s₃ ⟨tr, htrace, h⟩ ⟨tr', htrace', h'⟩
  refine ⟨tr ++ tr', by rw [htrace', htrace, List.append_assoc], fun b hb hend => ?_⟩
  rw [List.foldl_append] at hend
  exact h' _ (h b hb) hend⟩

section bare

variable {env} {s s' : Fw cfg}

/-- What makes no node, and does not stop discovery. -/
lemma staysBare_of_adds (h : Adds (· ≠ .tcpDiscovery false) s.io s'.io)
    (hids : s.core.moduleIds = [] → s'.core.moduleIds = []) : StaysBare s s' := by
  obtain ⟨tr, htrace, htr⟩ := h
  exact ⟨tr, htrace, fun b hb hend => hids (hb (suspends_of_noStop htr hend))⟩

/-- All acts but the creation of a node. -/
lemma actStep_staysBare {a : Act} (ha : ∀ id, a ≠ .insert id) (h : actStep env s a s') :
    StaysBare s s' := by
  by_cases hstop : a = .stop
  · subst hstop
    obtain ⟨hids, -, tr, -, htrace⟩ := h
    exact ⟨_, htrace, fun _ _ _ => hids⟩
  have hadds : Adds (· ≠ .tcpDiscovery false) s.io s'.io := by
    refine actStep_adds (fun e he => ?_) (by simp) (by simp) h (by simp) (by simp)
      fun h => absurd h hstop
    rintro rfl
    cases he
  refine staysBare_of_adds hadds fun hids => ?_
  cases a with
  | quiet => rw [h.1, hids]
  | refuse => rw [h.2.1, hids]
  | route => rw [h.1, hids]
  | hear => rw [h.1, hids]
  | send id msg => rw [h.1, hids]
  | forward fd e cport msg =>
      obtain ⟨-, -, io, -, rfl⟩ := h
      exact hids
  | insert id => exact absurd rfl (ha id)
  | remove p =>
      have hcache : s.core.nodeCache = [] := List.map_eq_nil_iff.mp hids
      rw [h.1, Core.afterReport]
      split_ifs
      · rw [Core.moduleIds, Core.destroyInterface_nodeCache, hcache]
        rfl
      · exact hids
  | write c q msg n => rw [h.1, hids]
  | stop => exact absurd rfl hstop

/-- **Every step but a discovery** leaves discovery without nodes while it is stopped. -/
lemma systemStep_staysBare {op : SystemOp} (h : systemStep env s op s') (hown : OwnStep s op s')
    (hids : IdsIssued s.core) (hop : ∀ active, op ≠ .filter active) : StaysBare s s' := by
  have hacts : Acts env (fun a => ∀ id, a ≠ .insert id) s s' := by
    rcases systemStep_acts h hown hids with h | h
    · refine h.mono fun a ha id => ?_
      rintro rfl
      exact ha.isAnswer
    · refine h.mono fun a ha id => ?_
      rintro rfl
      cases op with
      | filter active => exact hop active rfl
      | frame f => exact ha.choose_spec.2
      | serve fd r flag => exact ha
      | request req =>
          cases req with
          | moduleRemoved p => cases (show Act.insert id = .remove p from ha)
          | _ => exact False.elim ha
      | outside => exact ha
  obtain ⟨l, hrun, hl⟩ := hacts
  refine (hrun.invariant (I := StaysBare s)
    (G := fun _ a _ => a = .quiet ∨ ∀ id, a ≠ .insert id) (refl_of StaysBare s) ?_ hl).1
  intro t a t' hI hact ha
  refine trans_of StaysBare hI (actStep_staysBare ?_ hact)
  rcases ha with rfl | ha
  · simp
  · exact ha

end bare

/-- **No nodes while discovery is stopped**: in every run from the start, until the first start of
discovery and from each stop to the next start, no node is cached, wherever the thread was when it
was suspended. -/
theorem stopped_bare {env : Env} {nodeArray : Vector (BitVec 128) cfg.maxGreybusNodes}
    {s : DiscoveryFw cfg} {l : List (RunStep (DiscoveryFw cfg) HandlerOp)}
    (hrun : Run (discoveryStep env) (.boot nodeArray) l s) (hstopped : s.data.suspended = true) :
    s.fw.core.nodeCache = [] := by
  have hinv := (hrun.invariant
    (I := fun s => NamesRight s.fw.core ∧
      (s.data.suspended = true → s.fw.core.moduleIds = []))
    (G := fun _ _ _ => True) ⟨namesRight_boot cfg, fun _ => rfl⟩ ?_ fun _ _ => trivial).1
  -- what is kept: names, and no modules while suspended
  · exact List.map_eq_nil_iff.mp (hinv.2 hstopped)
  rintro t op t' ⟨hnames, hbare⟩ hstep -
  cases op with
  | wake =>
      obtain ⟨-, -, rfl⟩ := hstep
      exact ⟨hnames, hbare⟩
  | ask sock stack =>
      obtain ⟨-, -, sent, -, rfl⟩ := hstep
      exact ⟨hnames, hbare⟩
  | receive r =>
      obtain ⟨-, total, addrList, total', -, -, -, rfl⟩ := hstep
      exact ⟨hnames, hbare⟩
  | leave =>
      obtain ⟨-, total, -, rfl⟩ := hstep
      exact ⟨hnames, hbare⟩
  -- the filter runs only where the thread has not been suspended
  | filter =>
      obtain ⟨hgoing, ret, fw', -, hfilter, rfl⟩ := hstep
      exact ⟨systemStep_keeps (namesRight_kept env) hfilter hnames,
        fun h => by rw [hgoing] at h; cases h⟩
  | other op o =>
      obtain ⟨hop, fw', hown, hsystem, rfl⟩ := hstep
      refine ⟨systemStep_keeps (namesRight_kept env) hsystem hnames, fun h => ?_⟩
      obtain ⟨tr, htrace, hstays⟩ := systemStep_staysBare hsystem hown hnames.ids hop
      rw [suspended_foldl, newEvents_eq htrace] at h
      exact hstays _ hbare h

/-! ### A round -/

/-- The array of the thread before the round. -/
def blankArray : Vector (BitVec 128) Config.prjConf.maxGreybusNodes := Vector.replicate _ 0

/-- With the address of the node in front. -/
def listedArray : Vector (BitVec 128) Config.prjConf.maxGreybusNodes :=
  Vector.ofFn fun i => if i.val = 0 then 1 else 0

/-- The thread after the AP's start, and wherever it is in its first round. -/
def atHandler (pc : HandlerPc) (nodeArray : Vector (BitVec 128) Config.prjConf.maxGreybusNodes) :
    DiscoveryFw .prjConf :=
  ⟨svcStarted, ⟨7, false⟩, pc, nodeArray⟩

/-- The node has been found. -/
def nodeDiscovered : DiscoveryFw .prjConf :=
  ⟨nodeFound, ⟨7, false⟩, .sleeping, listedArray⟩

/-- The AP stops the SVC. -/
def stopFrame : RxFrame := ⟨[CONTROL_SVC_STOP], 1, ADDRESS_CONTROL⟩

/-- So does discovery. -/
def discoveryStopped : DiscoveryFw .prjConf :=
  ⟨final (mainProcessCompleteFrame calmEnv stopFrame) nodeFound, ⟨-1, true⟩, .sleeping, listedArray⟩

/-- The steps of the round, up to `node_filter`. -/
def roundSteps : List (RunStep (DiscoveryFw .prjConf) HandlerOp) :=
  [⟨.boot blankArray, .other (.frame startFrame) ⟨7, true, 0⟩, atHandler .sleeping blankArray⟩,
    ⟨atHandler .sleeping blankArray, .wake, atHandler .asking blankArray⟩,
    ⟨atHandler .asking blankArray, .ask ⟨true, true⟩ (Vector.replicate _ 0),
      atHandler (.receiving 0) blankArray⟩,
    ⟨atHandler (.receiving 0) blankArray, .receive greybusReception,
      atHandler (.receiving 1) listedArray⟩,
    ⟨atHandler (.receiving 1) listedArray, .leave, atHandler (.filtering 1) listedArray⟩]

lemma roundSteps_run :
    Run (discoveryStep calmEnv) (.boot blankArray) roundSteps
      (atHandler (.filtering 1) listedArray) := by
  -- started, woken up, asked, one answer, and out of the loop
  have hstart : systemStep calmEnv (.boot .prjConf) (.frame startFrame) svcStarted :=
    ⟨0, ends_final (by decide +kernel)⟩
  have h₁ : discoveryStep calmEnv (.boot blankArray) (.other (.frame startFrame) ⟨7, true, 0⟩)
      (atHandler .sleeping blankArray) := by
    refine ⟨by simp, svcStarted, trivial, hstart, ?_⟩
    have hdata : (newEvents (Fw.boot .prjConf) svcStarted).foldl (TcpDiscovery.after ⟨7, true, 0⟩)
        ⟨-1, true⟩ = ⟨7, false⟩ := by decide +kernel
    rw [DiscoveryFw.boot, atHandler]
    simp only [hdata]
  have h₂ : discoveryStep calmEnv (atHandler .sleeping blankArray) .wake
      (atHandler .asking blankArray) := ⟨rfl, rfl, rfl⟩
  have h₃ : discoveryStep calmEnv (atHandler .asking blankArray)
      (.ask ⟨true, true⟩ (Vector.replicate _ 0)) (atHandler (.receiving 0) blankArray) := by
    have hret : (mdnsQuerySend ⟨true, true⟩ (Vector.replicate _ 0) handlerQuery).map MdnsSent.ret =
        .ok 0 := by decide +kernel
    cases hsent : mdnsQuerySend ⟨true, true⟩ (Vector.replicate _ 0) handlerQuery with
    | error e =>
        rw [hsent] at hret
        cases hret
    | ok sent =>
        rw [hsent] at hret
        have hzero : sent.ret = 0 := Except.ok.inj hret
        exact ⟨rfl, rfl, sent, hsent, by rw [hzero]; rfl⟩
  have h₄ : discoveryStep calmEnv (atHandler (.receiving 0) blankArray)
      (.receive greybusReception) (atHandler (.receiving 1) listedArray) := by
    have hanswer : greybusReception.answer handlerQuery = .ok (some 1) := by decide +kernel
    refine ⟨rfl, 0, listedArray, 1, rfl, by decide, ?_, rfl⟩
    rw [mdnsQueryRecvBody_eq (by simp [Config.prjConf]), hanswer]
    exact congrArg (fun addrs => Except.ok (addrs, 1)) (by decide +kernel)
  have h₅ : discoveryStep calmEnv (atHandler (.receiving 1) listedArray) .leave
      (atHandler (.filtering 1) listedArray) := ⟨rfl, 1, rfl, rfl⟩
  exact ((((Run.single h₁).snoc h₂).snoc h₃).snoc h₄).snoc h₅

/-- `node_filter` finds the node. -/
lemma roundSteps_filter :
    discoveryStep calmEnv (atHandler (.filtering 1) listedArray) .filter nodeDiscovered := by
  have htake : listedArray.toList.take 1 = [1] := by decide +kernel
  refine ⟨rfl, 1, nodeFound, rfl, ?_, rfl⟩
  show systemStep calmEnv svcStarted (.filter (listedArray.toList.take 1)) nodeFound
  rw [htake]
  exact ends_final (by decide +kernel)

/-- The round lists the node, and the filter makes it. -/
theorem round_discovers_node :
    (roundAnswers roundSteps).length ≤ Config.prjConf.maxGreybusNodes ∧
      systemStep calmEnv svcStarted (.filter (roundAnswers roundSteps)) nodeFound ∧
      (calmEnv.slabFreeApi = .pointee → IdealPools svcStarted.core → ∃ news,
        AddsNodes svcStarted.core nodeFound.core news ∧
          news.map NodeItem.addr = newAddrs svcStarted.core (roundAnswers roundSteps)) :=
  round_discovers roundSteps_run roundSteps_filter

/-- The node that is made is one that has answered. -/
theorem nodes_answered_node :
    AddrsFrom (Answered (roundSteps ++
      [⟨atHandler (.filtering 1) listedArray, .filter, nodeDiscovered⟩])) nodeFound.core :=
  nodes_answered (roundSteps_run.snoc roundSteps_filter)

/-- It is gone once the AP has stopped the SVC. -/
theorem stopped_bare_node : discoveryStopped.fw.core.nodeCache = [] := by
  have hstop : systemStep calmEnv nodeFound (.frame stopFrame) discoveryStopped.fw :=
    ⟨0, ends_final (by decide +kernel)⟩
  have hlast : discoveryStep calmEnv nodeDiscovered (.other (.frame stopFrame) ⟨7, true, 0⟩)
      discoveryStopped := by
    refine ⟨by simp, discoveryStopped.fw, trivial, hstop, ?_⟩
    have hdata : (newEvents nodeFound discoveryStopped.fw).foldl (TcpDiscovery.after ⟨7, true, 0⟩)
        ⟨7, false⟩ = ⟨-1, true⟩ := by decide +kernel
    rw [nodeDiscovered]
    simp only [hdata]
    rfl
  exact stopped_bare ((roundSteps_run.snoc roundSteps_filter).snoc hlast) rfl

end Cc1352Greybus
