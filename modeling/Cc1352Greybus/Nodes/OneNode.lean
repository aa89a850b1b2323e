import Cc1352Greybus.Mdns.TcpDiscovery
import Cc1352Greybus.Nodes.DestroyAll

/-!
The thread of `tcp_discovery.c` in a build without mDNS, such as that of `prj.conf`.

It knows one address, and passes it to `node_filter` over and over. The AP starts and stops it as
it does the other.

* `oneNodeStep`: the thread, and steps of the system between.
* `one_node`: no node but the one at the address is ever cached, and that one once.
* `one_node_found`: it is cached after each round, if there are blocks for it.
* `one_node_stops`: so the SVC can always be stopped, and gives all blocks back.
-/

namespace Cc1352Greybus

open Effects

variable {cfg : Config} (env : Env) (addr : BitVec 128)

/-! ### The thread -/

/-- Where the thread stands. -/
inductive OneNodePc
  /-- in `k_msleep` -/
  | sleeping
  /-- before `node_filter` -/
  | filtering
  deriving DecidableEq

/-- The firmware and the thread. -/
structure OneNodeFw (cfg : Config) where
  fw : Fw cfg
  suspended : Bool
  pc : OneNodePc

/-- Something the thread does, or the rest of the firmware. -/
inductive OneNodeOp
  /-- `k_msleep` returns -/
  | wake
  /-- `node_filter` -/
  | filter
  /-- another thread -/
  | other (op : SystemOp)

/-- One step, where `CONFIG_BEAGLEPLAY_GREYBUS_NODE1` is `addr`. -/
def oneNodeStep (s : OneNodeFw cfg) (op : OneNodeOp) (s' : OneNodeFw cfg) : Prop :=
  match op with
  | .wake => s.suspended = false ∧ s.pc = .sleeping ∧ s' = { s with pc := .filtering }
  | .filter => s.suspended = false ∧ s.pc = .filtering ∧
      ∃ fw', systemStep env s.fw (.filter [addr]) fw' ∧ s' = { s with fw := fw', pc := .sleeping }
  | .other op => (∀ active, op ≠ .filter active) ∧ ∃ fw', OwnStep s.fw op fw' ∧
      systemStep env s.fw op fw' ∧
      s' = { s with
        fw := fw'
        suspended := (newEvents s.fw fw').foldl Event.suspends s.suspended }

/-- Once the firmware has booted: `main` has stopped discovery. -/
def OneNodeFw.boot (cfg : Config) : OneNodeFw cfg := ⟨.boot cfg, true, .sleeping⟩

/-! ### One node -/

/-- A cache of one address only has room for one entry. -/
lemma AddrsFrom.length_le_one {c : Core cfg} (h : AddrsFrom (· = addr) c) :
    c.nodeCache.length ≤ 1 := by
  have hall : c.addrs = List.replicate c.addrs.length addr :=
    List.eq_replicate_of_mem fun _ ha => h.all _ ha
  have hnodup := h.nodup
  rw [hall, List.nodup_replicate, Core.addrs, List.length_map] at hnodup
  exact hnodup

/-- What every run keeps. -/
structure OneNodeFw.Kept (s : OneNodeFw cfg) : Prop where
  names : NamesRight s.fw.core
  addrs : AddrsFrom (· = addr) s.fw.core
  bare : s.suspended = true → s.fw.core.moduleIds = []

variable {env addr}

/-- **One step** keeps it. -/
lemma oneNodeStep_kept {s s' : OneNodeFw cfg} {op : OneNodeOp} (h : s.Kept addr)
    (hstep : oneNodeStep env addr s op s') : s'.Kept addr := by
  obtain ⟨hnames, haddrs, hbare⟩ := h
  cases op with
  | wake =>
      obtain ⟨-, -, rfl⟩ := hstep
      exact ⟨hnames, haddrs, hbare⟩
  | filter =>
      obtain ⟨hgoing, -, fw', hfilter, rfl⟩ := hstep
      refine ⟨systemStep_keeps (namesRight_kept env) hfilter hnames, ?_, fun h => ?_⟩
      · exact addrsFrom_filter env hfilter haddrs fun a ha => List.mem_singleton.mp ha
      · rw [hgoing] at h
        cases h
  | other op =>
      obtain ⟨hop, fw', hown, hsystem, rfl⟩ := hstep
      refine ⟨systemStep_keeps (namesRight_kept env) hsystem hnames, ?_, fun h => ?_⟩
      · exact systemStep_keeps_rest (addrsFrom_kept env _) hsystem hop haddrs
      · obtain ⟨tr, htrace, hstays⟩ := systemStep_staysBare hsystem hown hnames.ids hop
        rw [newEvents_eq htrace] at h
        exact hstays _ hbare h

lemma run_oneNode {l : List (RunStep (OneNodeFw cfg) OneNodeOp)} {s : OneNodeFw cfg}
    (hrun : Run (oneNodeStep env addr) (.boot cfg) l s) : s.Kept addr := by
  induction hrun with
  | nil =>
      refine ⟨namesRight_boot cfg, ⟨List.nodup_nil, ?_⟩, fun _ => rfl⟩
      simp [Core.addrs, OneNodeFw.boot, Fw.boot, Core.boot]
  | snoc hrun hstep ih => exact oneNodeStep_kept ih hstep

/-- **One node**: in every run from the start at most one node is cached, at the address the
firmware has been built with, and none while discovery is stopped. -/
theorem one_node {l : List (RunStep (OneNodeFw cfg) OneNodeOp)} {s : OneNodeFw cfg}
    (hrun : Run (oneNodeStep env addr) (.boot cfg) l s) :
    s.fw.core.nodeCache.length ≤ 1 ∧ (∀ e ∈ s.fw.core.nodeCache, e.addr = addr) ∧
      (s.suspended = true → s.fw.core.nodeCache = []) := by
  have hkept := run_oneNode hrun
  refine ⟨hkept.addrs.length_le_one, fun e he => ?_, fun h => ?_⟩
  · exact hkept.addrs.all _ (List.mem_map_of_mem he)
  · exact List.map_eq_nil_iff.mp (hkept.bare h)

/-- With all blocks but the node's to hand out, `node_filter` sees to it that the node is there. -/
theorem one_node_found (hapi : env.slabFreeApi = .pointee) (hnodes : 0 < cfg.maxGreybusNodes)
    (hintfs : 0 < cfg.maxGreybusInterfaces) {l : List (RunStep (OneNodeFw cfg) OneNodeOp)}
    {s s' : OneNodeFw cfg} (hrun : Run (oneNodeStep env addr) (.boot cfg) l s)
    (hpools : PoolsInUse s.fw.core) (hstep : oneNodeStep env addr s .filter s') :
    s'.fw.core.addrs = [addr] := by
  have hkept := run_oneNode hrun
  obtain ⟨-, -, fw', hfilter, rfl⟩ := hstep
  have hctrl := hpools.ctrl.length_eq
  have hintf := hpools.intf.length_eq
  rw [List.length_map, Slab.length_ofSize] at hctrl hintf
  have hideal : IdealPools s.fw.core :=
    ⟨hctrl, (List.nodup_append.mp hpools.intf.nodup_append).1⟩
  obtain ⟨c', news, hadds, hnews, hends⟩ := nodeFilter_adds env hapi hideal [addr]
  have hcore : fw'.core = c' := announceAll_core env ((hends s.fw.io fw').mp hfilter)
  show fw'.core.addrs = [addr]
  rw [hcore, hadds.addrs, hnews]
  rcases Nat.le_one_iff_eq_zero_or_eq_one.mp hkept.addrs.length_le_one with hnone | hone
  · have hempty : s.fw.core.addrs = [] := List.map_eq_nil_iff.mpr (List.length_eq_zero_iff.mp hnone)
    have hroom : 0 < s.fw.core.room := by
      rw [Core.room]
      omega
    have hnew : ([addr].filter fun a => a ∉ ([] : List (BitVec 128))).eraseDups = [addr] := by
      simp [List.eraseDups_cons]
    rw [newAddrs, hempty, hnew, List.nil_append, List.take_of_length_le hroom]
  · obtain ⟨e, he⟩ := List.length_eq_one_iff.mp hone
    have haddr : s.fw.core.addrs = [addr] := by
      have hmem := hkept.addrs.all e.addr (by rw [Core.addrs, he]; exact List.mem_singleton_self _)
      rw [Core.addrs, he, List.map_singleton, hmem]
    rw [newAddrs_cached (by rw [haddr]; exact List.mem_singleton_self _), haddr]
    simp [newAddrs]

/-! ### The end of the SVC -/

/-- A stop of a firmware with one node gets past the assertion, and leaves all blocks free. -/
lemma stop_oneNode (hapi : env.slabFreeApi = .pointee) {s : Fw cfg} (hpools : PoolsInUse s.core)
    (hone : s.core.nodeCache.length ≤ 1) {f : RxFrame} (haddress : f.address = ADDRESS_CONTROL)
    (hlen : f.len = 1) (hcommand : f.buffer[0]? = some CONTROL_SVC_STOP) :
    ∃ s', systemStep env s (.frame f) s' ∧ s'.core.nodeCache = [] ∧ PoolsInUse s'.core := by
  -- discovery is stopped first
  set s₀ : Fw cfg := ⟨s.core, s.io.logged [.tcpDiscovery false]⟩
  obtain ⟨s₁, hloop, hpools₁, hleft⟩ := nodeDestroyAllLoop_ends env hapi s.core.nodeCache.length 0
    (s := s₀) hpools (Nat.zero_le _) (Nat.le_add_left _ _)
  have hone₀ : s₀.core.nodeCache.length ≤ 1 := hone
  have hnil : s₁.core.nodeCache = [] := List.length_eq_zero_iff.mp (by omega)
  have hdestroy : Ends (nodeDestroyAll env) s₀ () ⟨{ s₁.core with nodeCache := [] }, s₁.io⟩ :=
    (nodeDestroyAll_ends env hapi (s := s₀) hpools).mpr ⟨hone, s₁, hloop, hpools₁, hnil, rfl⟩
  let c' : Core cfg := { s₁.core with nodeCache := [], svcReady := false }
  have hends : Ends (mainProcessCompleteFrame env f) s 0 ⟨c'.apbridgeDeinit, s₁.io⟩ := by
    rw [mainProcessCompleteFrame, haddress, if_neg (by decide), if_pos rfl, hlen,
      controlProcessFrame, if_neg (by decide), hcommand]
    refine ends_ite.mpr (Or.inr ⟨by decide, ends_ite.mpr (Or.inl ⟨rfl, ?_⟩)⟩)
    exact (Ends.liftIo (Ends.emit _ s.io)).bind (hdestroy.bind ((Ends.modifyCore _ _).bind
      ((Ends.modifyCore _ _).bind (Ends.pure 0 _))))
  have hcache : c'.apbridgeDeinit.nodeCache = s₁.core.nodeCache := hnil.symm
  refine ⟨_, ⟨0, hends⟩, rfl, ?_⟩
  constructor <;> rw [hcache]
  exacts [hpools₁.ids, hpools₁.id_eq, hpools₁.sock_eq, hpools₁.ctrl, hpools₁.intf,
    hpools₁.ctrlUsed, hpools₁.intfUsed]

/-- **The SVC can be stopped**: in every run from the start, while the blocks in use are those of
the node, the command of the AP comes to its end, leaves no node and gives all blocks back. -/
theorem one_node_stops (hapi : env.slabFreeApi = .pointee)
    {l : List (RunStep (OneNodeFw cfg) OneNodeOp)} {s : OneNodeFw cfg}
    (hrun : Run (oneNodeStep env addr) (.boot cfg) l s) (hpools : PoolsInUse s.fw.core)
    {f : RxFrame} (haddress : f.address = ADDRESS_CONTROL) (hlen : f.len = 1)
    (hcommand : f.buffer[0]? = some CONTROL_SVC_STOP) :
    ∃ s', oneNodeStep env addr s (.other (.frame f)) s' ∧ s'.fw.core.nodeCache = [] ∧
      PoolsInUse s'.fw.core := by
  obtain ⟨fw', hsystem, hnone, hfree⟩ := stop_oneNode hapi hpools
    (run_oneNode hrun).addrs.length_le_one haddress hlen hcommand
  exact ⟨_, ⟨by simp, fw', trivial, hsystem, rfl⟩, hnone, hfree⟩

/-! ### From the start to a stop -/

/-- The thread after the AP's start. -/
def oneNodeAt (pc : OneNodePc) : OneNodeFw .prjConf := ⟨svcStarted, false, pc⟩

/-- Once it has found the node. -/
def oneNodeFound : OneNodeFw .prjConf := ⟨nodeFound, false, .sleeping⟩

/-- The steps up to there. -/
def oneNodeSteps : List (RunStep (OneNodeFw .prjConf) OneNodeOp) :=
  [⟨.boot .prjConf, .other (.frame startFrame), oneNodeAt .sleeping⟩,
    ⟨oneNodeAt .sleeping, .wake, oneNodeAt .filtering⟩,
    ⟨oneNodeAt .filtering, .filter, oneNodeFound⟩]

lemma oneNodeSteps_run :
    Run (oneNodeStep calmEnv 1) (.boot .prjConf) oneNodeSteps oneNodeFound := by
  have hstart : systemStep calmEnv (.boot .prjConf) (.frame startFrame) svcStarted :=
    ⟨0, ends_final (by decide +kernel)⟩
  have h₁ : oneNodeStep calmEnv 1 (.boot .prjConf) (.other (.frame startFrame))
      (oneNodeAt .sleeping) := by
    refine ⟨by simp, svcStarted, trivial, hstart, ?_⟩
    have hgoing : (newEvents (Fw.boot .prjConf) svcStarted).foldl Event.suspends true = false := by
      decide +kernel
    rw [OneNodeFw.boot, oneNodeAt]
    simp only [hgoing]
  have h₂ : oneNodeStep calmEnv 1 (oneNodeAt .sleeping) .wake (oneNodeAt .filtering) :=
    ⟨rfl, rfl, rfl⟩
  have h₃ : oneNodeStep calmEnv 1 (oneNodeAt .filtering) .filter oneNodeFound :=
    ⟨rfl, rfl, nodeFound, ends_final (by decide +kernel), rfl⟩
  exact ((Run.single h₁).snoc h₂).snoc h₃

lemma poolsInUse_nodeFound : PoolsInUse oneNodeFound.fw.core :=
  ⟨by decide +kernel, by decide +kernel, by decide +kernel, ⟨by decide +kernel, by decide +kernel⟩,
    ⟨by decide +kernel, by decide +kernel⟩, by decide +kernel, by decide +kernel⟩

/-- One node, with the address that the thread looks for. -/
theorem one_node_first : oneNodeFound.fw.core.nodeCache.length ≤ 1 ∧
    (∀ e ∈ oneNodeFound.fw.core.nodeCache, e.addr = 1) ∧
      (oneNodeFound.suspended = true → oneNodeFound.fw.core.nodeCache = []) :=
  one_node oneNodeSteps_run

/-- A stop takes it away. -/
theorem one_node_stops_first :
    ∃ s', oneNodeStep calmEnv 1 oneNodeFound (.other (.frame stopFrame)) s' ∧
      s'.fw.core.nodeCache = [] ∧ PoolsInUse s'.fw.core :=
  one_node_stops rfl oneNodeSteps_run poolsInUse_nodeFound rfl rfl rfl

end Cc1352Greybus
