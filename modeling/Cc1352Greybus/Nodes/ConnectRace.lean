import Cc1352Greybus.Nodes.CacheInvariant

/-!
`node_intf_create_connection` while it waits in `zsock_connect`.

It looks for the node's cache entry before it connects and writes the socket there afterwards. In
the meantime other threads discover nodes and remove them.

* `connectionStart`, `connectionFinish`: the callback up to `zsock_connect`, and from there on.
* `connection_halves`: with nothing in between, they are `node_intf_create_connection`.
* `Waits`: what holds while it waits, and how far up the cache its node is.
* `connect_right_iff`: cache, control blocks and sockets agree afterwards exactly if no node has
  been removed while the one that is connected was the last.
-/

namespace Cc1352Greybus

open Effects PackedArray

variable {cfg : Config} (env : Env)

/-! ### The two halves -/

/-- `connect_to_node` up to `zsock_connect`: the descriptor, and which call it is. -/
def connectToNodeStart : IoM (Option (ℕ × ℕ)) := do
  let io ← get
  match ← zsockSocket env with
  | none => return none
  | some fd => return some (fd, io.netCalls)

/-- `connect_to_node` from there on. -/
def connectToNodeFinish (fd call : ℕ) : IoM ℤ :=
  if env.zsockConnect call = true then return fd
  else do
    zsockClose fd
    return -1

/-- What `node_intf_create_connection` keeps over `zsock_connect`: its argument, `ret`,
`ctrl_data`, and the descriptor. -/
structure Connecting where
  ctrl : Ptr
  pos : ℕ
  ctrlData : Ptr
  sock : ℕ
  call : ℕ
  deriving DecidableEq

/-- `node_intf_create_connection` up to `zsock_connect`, unless it returns before. -/
def connectionStart (ctrl : Ptr) (cportId : U16) : FwM cfg (ℤ ⊕ Connecting) := do
  let c ← getCore
  let ctrlData := (c.intfMem ctrl).ctrlData
  if cportId ≠ 0 then return .inl 0
  else if 0 ≤ c.ctrlMem ctrlData then return .inl (c.ctrlMem ctrlData)
  else
    match nodeCacheFindById c.nodeCache (c.intfMem ctrl).id with
    | none => return .inl (-EINVAL)
    | some (i, _) =>
      match ← liftIo (connectToNodeStart env) with
      | none => return .inl (-1)
      | some (fd, call) => return .inr ⟨ctrl, i, ctrlData, fd, call⟩

/-- `node_intf_create_connection` from there on. -/
def connectionFinish (w : Connecting) : FwM cfg ℤ := do
  let sock ← liftIo (connectToNodeFinish env w.sock w.call)
  if sock < 0 then return sock
  else do
    modifyCore fun c => c.setSocket w.pos w.ctrlData sock
    liftIo pipeSend
    return sock

lemma connectToNode_halves : connectToNode env = connectToNodeStart env >>=
    fun r => r.elim (pure (-1)) fun p => connectToNodeFinish env p.1 p.2 := by
  rw [connectToNode, connectToNodeStart, bind_assoc]
  refine congrArg _ (funext fun io => ?_)
  rw [bind_assoc]
  refine congrArg _ (funext fun r => ?_)
  cases r with
  | none => rfl
  | some fd => rfl

/-- **With nothing in between**, the halves are `node_intf_create_connection`. -/
theorem connection_halves (ctrl : Ptr) (cportId : U16) :
    (nodeIntfCreateConnection env ctrl cportId : FwM cfg ℤ) =
      connectionStart env ctrl cportId >>= Sum.elim pure (connectionFinish env) := by
  rw [nodeIntfCreateConnection, connectionStart, bind_assoc]
  refine congrArg _ (funext fun c => ?_)
  dsimp only
  split_ifs
  · rfl
  · rfl
  · cases nodeCacheFindById c.nodeCache (c.intfMem ctrl).id with
    | none => rfl
    | some r =>
        dsimp only
        rw [connectToNode_halves, liftIo_bind, bind_assoc, bind_assoc]
        refine congrArg _ (funext fun p => ?_)
        cases p with
        | none => rfl
        | some p => rfl

variable {env}

/-- The first half returns and leaves the tables and the sockets alone, or has a descriptor and
waits. -/
lemma connectionStart_cases {ctrl : Ptr} {cportId : U16} {s s' : Fw cfg} {r : ℤ ⊕ Connecting}
    (h : Ends (connectionStart env ctrl cportId) s r s') :
    (∃ ret, r = .inl ret) ∧ s'.core = s.core ∧ s'.io.trace = s.io.trace ∨
      ∃ i e fd call, r = .inr ⟨ctrl, i, s.core.ctrlOf ctrl, fd, call⟩ ∧
        s.core.sockOf ctrl < 0 ∧
        nodeCacheFindById s.core.nodeCache (s.core.intfMem ctrl).id = some (i, e) ∧
        env.zsockSocket s.io.netCalls = some fd ∧ s'.core = s.core ∧
        s'.io.trace = s.io.trace ++ [.sockOpen fd] := by
  rw [connectionStart, (Ends.getCore s).bind_iff] at h
  dsimp only at h
  split_ifs at h with hport hsock
  -- another cport than 0, a socket already there, an id not in the cache: it returns
  · obtain ⟨rfl, rfl⟩ := ends_pure.mp h
    exact Or.inl ⟨⟨_, rfl⟩, rfl, rfl⟩
  · obtain ⟨rfl, rfl⟩ := ends_pure.mp h
    exact Or.inl ⟨⟨_, rfl⟩, rfl, rfl⟩
  · cases hfind : nodeCacheFindById s.core.nodeCache (s.core.intfMem ctrl).id with
    | none =>
        rw [hfind] at h
        obtain ⟨rfl, rfl⟩ := ends_pure.mp h
        exact Or.inl ⟨⟨_, rfl⟩, rfl, rfl⟩
    | some p =>
        obtain ⟨i, e⟩ := p
        rw [hfind] at h
        obtain ⟨r₁, s₁, h₁, h⟩ := ends_bind.mp h
        obtain ⟨io, hio, rfl⟩ := ends_liftIo.mp h₁
        rw [connectToNodeStart, (Ends.get _).bind_iff, (Ends.zsockSocket env _).bind_iff] at hio
        cases hnext : env.zsockSocket s.io.netCalls with
        | none =>
            rw [hnext] at hio
            obtain ⟨rfl, rfl⟩ := ends_pure.mp hio
            obtain ⟨rfl, rfl⟩ := ends_pure.mp h
            exact Or.inl ⟨⟨_, rfl⟩, rfl, rfl⟩
        | some fd =>
            rw [hnext] at hio
            obtain ⟨rfl, rfl⟩ := ends_pure.mp hio
            obtain ⟨rfl, rfl⟩ := ends_pure.mp h
            exact Or.inr ⟨i, e, fd, _, rfl, not_le.mp hsock, rfl, rfl, rfl, rfl⟩

/-- The second half closes the socket, or writes it where the entry has been found. -/
lemma connectionFinish_cases {w : Connecting} {s s' : Fw cfg} {ret : ℤ}
    (h : Ends (connectionFinish env w) s ret s') :
    env.zsockConnect w.call = false ∧ s'.core = s.core ∧
        s'.io.trace = s.io.trace ++ [.sockClose w.sock] ∨
      env.zsockConnect w.call = true ∧
        s'.core = s.core.setSocket w.pos w.ctrlData w.sock ∧
        s'.io.trace = s.io.trace ++ [.pipeSend s.io.localPipeWriter] := by
  obtain ⟨sock, s₁, h₁, h⟩ := ends_bind.mp h
  obtain ⟨io, hio, rfl⟩ := ends_liftIo.mp h₁
  rw [connectToNodeFinish] at hio
  rcases ends_ite.mp hio with ⟨hconn, hio⟩ | ⟨hconn, hio⟩
  · obtain ⟨rfl, rfl⟩ := ends_pure.mp hio
    rw [if_neg (by omega), (Ends.modifyCore _ _).bind_iff,
      (Ends.liftIo (Ends.pipeSend _)).bind_iff] at h
    obtain ⟨-, rfl⟩ := ends_pure.mp h
    exact Or.inr ⟨hconn, rfl, rfl⟩
  · rw [zsockClose, (Ends.emit _ _).bind_iff] at hio
    obtain ⟨rfl, rfl⟩ := ends_pure.mp hio
    rw [if_pos (by decide)] at h
    obtain ⟨-, rfl⟩ := ends_pure.mp h
    exact Or.inl ⟨by simpa using hconn, rfl, rfl⟩

/-! ### Tables and sockets -/

variable (env)

/-- Tied tables whose sockets are the ones open, but for some. -/
structure TiedBut (extra : List ℤ) (s : Fw cfg) : Prop where
  tables : TablesTied s.core
  nodup : (openSocks s.io.trace).Nodup
  opened : (openSocks s.io.trace).Perm (extra ++ cacheSocks s.core.nodeCache)

namespace TiedBut

variable {extra : List ℤ} {s s' : Fw cfg}

/-- A discovery adds nodes behind those there are, which keep their control blocks. -/
lemma filter (hapi : env.slabFreeApi = .pointee) {active : List (BitVec 128)}
    (h : TiedBut extra s) (hid : EachCreation env FreshId s.core active)
    (hend : Ends (nodeFilter env active) s () s') :
    TiedBut extra s' ∧ s.core.nodeCache <+: s'.core.nodeCache ∧
      ∀ e ∈ s.core.nodeCache, s'.core.ctrlOf e.inf = s.core.ctrlOf e.inf := by
  have htrace : openSocks s'.io.trace = openSocks s.io.trace := sameSocks_nodeFilter env active hend
  have hcore := filter_preserves env
    (I := fun c => TablesTied c ∧ cacheSocks c.nodeCache = cacheSocks s.core.nodeCache ∧
      s.core.nodeCache <+: c.nodeCache ∧
        ∀ e ∈ s.core.nodeCache, c.ctrlOf e.inf = s.core.ctrlOf e.inf)
    (fun c addr hc hfind hfresh => by
      obtain ⟨htied, hsocks, hpre, hctrl⟩ := hc
      obtain ⟨htied', hsocks'⟩ := tablesTied_create env hapi htied hfind hfresh
      have hused : ∀ e ∈ s.core.nodeCache, e.inf ∉ c.intfSlab.freeList :=
        fun e he => htied.blocks.used e (hpre.subset he)
      refine ⟨htied', hsocks'.trans hsocks, ?_⟩
      rcases nodeCreateInterface_cases env hapi c addr with
        ⟨hcache, -, -, hintf⟩ | ⟨inf, ctrlData, hout, hcache, -⟩
      · refine ⟨hcache ▸ hpre, fun e he => ?_⟩
        rw [Core.ctrlOf, hintf _ (hused e he)]
        exact hctrl e he
      · refine ⟨hcache ▸ hpre.trans (List.prefix_append _ _), fun e he => ?_⟩
        have hne : e.inf ≠ inf := fun heq =>
          hused e he (by rw [heq, hout.freeList]; exact List.mem_cons_self)
        rw [Core.ctrlOf, hout.intfMem, Function.update_of_ne hne]
        exact hctrl e he) ⟨h.tables, rfl, List.prefix_rfl, fun _ _ => rfl⟩ hid
  rw [← nodeFilter_core env hend] at hcore
  obtain ⟨htied, hsocks, hkept⟩ := hcore
  exact ⟨⟨htied, htrace ▸ h.nodup, by rw [htrace, hsocks]; exact h.opened⟩, hkept⟩

/-- A removal takes out one node, and closes its socket. -/
lemma destroy (hapi : env.slabFreeApi = .pointee) {e : NodeItem} (h : TiedBut extra s)
    (he : e ∈ s.core.nodeCache) (hend : Ends (nodeDestroyInterface env (some e.inf)) s () s') :
    TiedBut extra s' ∧ s'.core = s.core.destroyInterface env e.inf := by
  obtain ⟨-, rfl⟩ := (nodeDestroyInterface_ends env e.inf s).unique hend
  have hperm : (e :: (s.core.destroyInterface env e.inf).nodeCache).Perm s.core.nodeCache :=
    h.tables.nodes.cons_removeById he
  have hsocks : (openSocks s.io.trace).Perm
      (extra ++ cacheSocks (e :: (s.core.destroyInterface env e.inf).nodeCache)) :=
    h.opened.trans (((hperm.map _).filter _).symm.append_left extra)
  have hsock : s.core.ctrlMem (s.core.intfMem e.inf).ctrlData = e.sock := h.tables.sock_eq e he
  have htables := tablesTied_destroy env hapi h.tables he
  rw [hsock]
  refine ⟨?_, rfl⟩
  by_cases h0 : 0 ≤ e.sock
  · have hopen : openSocks (s.io.trace ++ destroyEvents e.inf e.sock) =
        (openSocks s.io.trace).erase e.sock := by
      rw [openSocks_append, destroyEvents, closeEvents, if_pos h0]
      rfl
    rw [cacheSocks, List.map_cons, List.filter_cons_of_pos (by simpa using h0)] at hsocks
    have herase := (hsocks.trans List.perm_middle).erase e.sock
    rw [List.erase_cons_head] at herase
    exact ⟨htables, by rw [Io.logged_trace, hopen]; exact h.nodup.erase _,
      by rw [Io.logged_trace, hopen]; exact herase⟩
  · have hopen : openSocks (s.io.trace ++ destroyEvents e.inf e.sock) = openSocks s.io.trace := by
      rw [openSocks_append, destroyEvents, closeEvents, if_neg h0]
      rfl
    rw [cacheSocks, List.map_cons, List.filter_cons_of_neg (by simpa using h0)] at hsocks
    exact ⟨htables, by rw [Io.logged_trace, hopen]; exact h.nodup,
      by rw [Io.logged_trace, hopen]; exact hsocks⟩

/-- What leaves the nodes and the sockets alone keeps them tied. -/
lemma other (h : TiedBut extra s) (hsame : SameNodesAndSocks s s') : TiedBut extra s' := by
  obtain ⟨hcache, hctrl, hintf, hcm, him, hcount, hsocks⟩ := hsame
  have hctrlOf : ∀ p, s'.core.ctrlOf p = s.core.ctrlOf p :=
    fun p => by rw [Core.ctrlOf, him, Core.ctrlOf]
  have hsockOf : ∀ p, s'.core.sockOf p = s.core.sockOf p := fun p => by
    rw [Core.sockOf, hctrlOf, hcm, Core.sockOf]
  have hopen : openSocks s'.io.trace = openSocks s.io.trace := hsocks
  obtain ⟨⟨hn, hb, haddrs, hpool, hse, hnum⟩, hnodup, hopened⟩ := h
  have hnodes : NodesTied s'.core :=
    ⟨hcache ▸ hn.ids, hcache ▸ hn.infs, by rw [hcache, him]; exact hn.id_eq, hcache ▸ hn.issued,
      hcount ▸ hn.start_le, hcount ▸ hn.le_max⟩
  have hblocks : BlocksTied s'.core := ⟨hintf ▸ hb.nodup, by rw [hcache, hintf]; exact hb.used⟩
  refine ⟨⟨hnodes, hblocks, hcache ▸ haddrs, ?_, ?_, by rw [hctrl, hcache]; exact hnum⟩,
    hopen ▸ hnodup, by rw [hopen, hcache]; exact hopened⟩
  · simp only [hcache, hctrl, hctrlOf]
    exact hpool
  · simp only [hcache, hsockOf]
    exact hse

end TiedBut

/-! ### Waiting -/

/-- The index kept is that of the node. -/
def InPlace (w : Connecting) (c : Core cfg) : Prop :=
  ∃ e, c.nodeCache[w.pos]? = some e ∧ e.inf = w.ctrl

/-- What holds while `node_intf_create_connection` waits: the node has no socket yet, and is no
further up the cache than where it has been found. -/
structure Waits (w : Connecting) (s : Fw cfg) : Prop where
  tied : TiedBut [(w.sock : ℤ)] s
  ctrlOf : s.core.ctrlOf w.ctrl = w.ctrlData
  entry : ∃ k e, s.core.nodeCache[k]? = some e ∧ k ≤ w.pos ∧ e.inf = w.ctrl ∧ e.sock < 0

/-- Meanwhile no other connection is made, and nobody removes the node. -/
def CacheOp.Spares (w : Connecting) : CacheOp → Prop
  | .connect _ _ => False
  | .destroy inf => inf ≠ w.ctrl
  | _ => True

/-- A removal makes the last node move, and that is the one that is connected. -/
def CacheOp.Displaces (w : Connecting) (c : Core cfg) : CacheOp → Prop
  | .destroy _ => w.pos + 1 = c.nodeCache.length
  | _ => False

instance (w : Connecting) (c : Core cfg) (op : CacheOp) : Decidable (op.Displaces w c) :=
  match op with
  | .destroy _ => inferInstanceAs (Decidable (_ = _))
  | .filter _ => inferInstanceAs (Decidable False)
  | .connect _ _ => inferInstanceAs (Decidable False)
  | .other => inferInstanceAs (Decidable False)

/-- A node is found at one index. -/
lemma inPlace_iff {w : Connecting} {c : Core cfg} {k : ℕ} {e : NodeItem} (h : NodesTied c)
    (hk : c.nodeCache[k]? = some e) (he : e.inf = w.ctrl) : InPlace w c ↔ k = w.pos := by
  constructor
  · rintro ⟨e', hpos, he'⟩
    have hlt : k < (c.nodeCache.map NodeItem.inf).length := by
      rw [List.length_map]
      exact (List.getElem?_eq_some_iff.mp hk).1
    refine (List.getElem?_inj hlt h.infs).mp ?_
    rw [List.getElem?_map, List.getElem?_map, hk, hpos, Option.map_some, Option.map_some, he, he']
  · rintro rfl
    exact ⟨e, hk, he⟩

namespace Waits

variable {w : Connecting} {s s' : Fw cfg}

/-- **One step of another thread**: the node stays where it is, unless it is the last and another
one is removed. -/
lemma node_step (hapi : env.slabFreeApi = .pointee) {op : CacheOp} (h : Waits w s)
    (hspares : op.Spares w) (hassumed : op.Assumed env s) (hstep : cacheStep env s op s') :
    Waits w s' ∧ (InPlace w s'.core ↔ InPlace w s.core ∧ ¬ op.Displaces w s.core) := by
  obtain ⟨k, e, hk, hle, he, hneg⟩ := h.entry
  have hin := inPlace_iff h.tied.tables.nodes hk he
  have hmem : e ∈ s.core.nodeCache := List.mem_of_getElem? hk
  cases op with
  | filter active =>
      obtain ⟨htied, hpre, hctrl⟩ := h.tied.filter env hapi hassumed hstep
      -- new entries come behind the node's
      have hk' : s'.core.nodeCache[k]? = some e := by
        obtain ⟨rest, hrest⟩ := hpre
        rw [← hrest, List.getElem?_append_left (List.getElem?_eq_some_iff.mp hk).1, hk]
      refine ⟨⟨htied, ?_, k, e, hk', hle, he, hneg⟩, ?_⟩
      · rw [← he, hctrl e hmem, he, h.ctrlOf]
      · rw [inPlace_iff htied.tables.nodes hk' he, hin]
        exact (and_iff_left id).symm
  | connect inf cport => exact hspares.elim
  | destroy inf =>
      obtain ⟨d, hd, rfl⟩ := hassumed
      obtain ⟨htied, hcore⟩ := h.tied.destroy env hapi hd hstep
      obtain ⟨i, hfind⟩ := h.tied.tables.nodes.findById hd
      obtain ⟨hi, hget, -⟩ := findEntry_eq_some_iff.mp hfind
      have hcache : s'.core.nodeCache = swapRemove s.core.nodeCache i := by
        rw [hcore, Core.destroyInterface_nodeCache, h.tied.tables.nodes.id_eq d hd,
          nodeCacheRemoveById, hfind]
      -- the other thread spares the node that is being connected
      have hne : k ≠ i := by
        rintro rfl
        rw [List.getElem?_eq_getElem hi, hget] at hk
        exact hspares (Option.some.inj hk ▸ he)
      -- the last entry moves to the place of the removed one, and no other entry moves
      obtain ⟨j, hj, hentry, hlast⟩ := exists_getElem?_swapRemove hk hne hi
      rw [← hcache] at hentry
      refine ⟨⟨htied, ?_, j, e, hentry, hj.trans hle, he, hneg⟩, ?_⟩
      · rw [hcore, Core.ctrlOf, Core.destroyInterface_ctrlData]
        exact h.ctrlOf
      · rw [inPlace_iff htied.tables.nodes hentry he, hin, CacheOp.Displaces]
        constructor
        · intro hjw
          obtain rfl : j = k := by omega
          exact ⟨hjw, hjw ▸ hlast.mp rfl⟩
        · rintro ⟨rfl, hnot⟩
          exact hlast.mpr hnot
  -- what is no step of the cache leaves it alone
  | other =>
      have hcache := SameNodesAndSocks.nodeCache hstep
      have htied := h.tied.other hstep
      have hk' : s'.core.nodeCache[k]? = some e := by rw [hcache, hk]
      refine ⟨⟨htied, ?_, k, e, hk', hle, he, hneg⟩, ?_⟩
      · rw [Core.ctrlOf, SameNodesAndSocks.intfMem hstep]
        exact h.ctrlOf
      · rw [inPlace_iff htied.tables.nodes hk' he, hin]
        exact (and_iff_left id).symm

/-- A node that is not reached leaves no socket open. -/
lemma refused (h : Waits w s) {ret : ℤ} (hend : Ends (connectionFinish env w) s ret s')
    (hrefused : env.zsockConnect w.call = false) : CacheTied s' := by
  rcases connectionFinish_cases hend with ⟨-, hcore, htrace⟩ | ⟨hreached, -⟩
  · have hopen : openSocks s'.io.trace = (openSocks s.io.trace).erase w.sock := by
      rw [htrace, openSocks_append]
      rfl
    have herase := h.tied.opened.erase (w.sock : ℤ)
    rw [List.singleton_append, List.erase_cons_head, ← hopen, ← hcore] at herase
    exact ⟨hcore ▸ h.tied.tables, hopen ▸ h.tied.nodup.erase _, herase⟩
  · rw [hrefused] at hreached
    cases hreached

/-- **In place**, a socket gets to the node's own entry. -/
lemma stored (h : Waits w s) {ret : ℤ} (hend : Ends (connectionFinish env w) s ret s')
    (hreached : env.zsockConnect w.call = true) (hin : InPlace w s.core) : CacheTied s' := by
  rcases connectionFinish_cases hend with ⟨hrefused, -⟩ | ⟨-, hcore, htrace⟩
  · rw [hreached] at hrefused
    cases hrefused
  -- the place it was found at is still its place
  obtain ⟨k, e, hk, -, he, hneg⟩ := h.entry
  obtain rfl := (inPlace_iff h.tied.tables.nodes hk he).mp hin
  obtain ⟨hpos, hget⟩ := List.getElem?_eq_some_iff.mp hk
  have hfind : nodeCacheFindById s.core.nodeCache e.id = some (w.pos, e) := by
    obtain ⟨i, hfind⟩ := h.tied.tables.nodes.findById (List.mem_of_getElem? hk)
    obtain ⟨hi, hi', -⟩ := findEntry_eq_some_iff.mp hfind
    have hsame := (inPlace_iff h.tied.tables.nodes
      (List.getElem?_eq_some_iff.mpr ⟨hi, hi'⟩) he).mp hin
    rw [hfind, hsame]
  have hcore' : s'.core = s.core.setSocket w.pos (s.core.ctrlOf e.inf) w.sock := by
    rw [hcore, he, h.ctrlOf]
  have hopen : openSocks s'.io.trace = openSocks s.io.trace := by
    rw [htrace, openSocks_append]
    rfl
  -- its socket joins the sockets of the cache, where it was the one missing
  obtain ⟨hold, hnew⟩ := modify_perm hfind fun e => { e with sock := (w.sock : ℤ) }
  have hbefore : (cacheSocks s.core.nodeCache).Perm
      (cacheSocks (s.core.nodeCache.eraseIdx w.pos)) := by
    refine ((hold.map _).filter _).trans ?_
    rw [List.map_cons, List.filter_cons_of_neg (by simpa using hneg), cacheSocks]
  have hafter : (cacheSocks s'.core.nodeCache).Perm
      ((w.sock : ℤ) :: cacheSocks (s.core.nodeCache.eraseIdx w.pos)) := by
    rw [hcore']
    refine ((hnew.map _).filter _).trans ?_
    rw [List.map_cons, List.filter_cons_of_pos (by simp), cacheSocks]
  refine ⟨hcore' ▸ tablesTied_setSocket h.tied.tables hfind w.sock, hopen ▸ h.tied.nodup, ?_⟩
  rw [hopen]
  exact (h.tied.opened.trans (hbefore.cons _)).trans hafter.symm

/-- **Out of place**, it does not. -/
lemma lost (h : Waits w s) {ret : ℤ} (hend : Ends (connectionFinish env w) s ret s')
    (hreached : env.zsockConnect w.call = true) (hin : ¬ InPlace w s.core) :
    ∃ e ∈ s'.core.nodeCache, e.inf = w.ctrl ∧ e.sock < 0 ∧ s'.core.sockOf e.inf = w.sock := by
  rcases connectionFinish_cases hend with ⟨hrefused, -⟩ | ⟨-, hcore, -⟩
  · rw [hreached] at hrefused
    cases hrefused
  obtain ⟨k, e, hk, -, he, hneg⟩ := h.entry
  have hne : w.pos ≠ k := fun heq => hin ((inPlace_iff h.tied.tables.nodes hk he).mpr heq.symm)
  have hk' : s'.core.nodeCache[k]? = some e := by
    rw [hcore, Core.setSocket, List.getElem?_modify, hk]
    simp [hne]
  refine ⟨e, List.mem_of_getElem? hk', he, hneg, ?_⟩
  have hctrl : s'.core.ctrlOf e.inf = w.ctrlData := by
    rw [hcore, he]
    exact h.ctrlOf
  rw [Core.sockOf, hctrl, hcore]
  exact Function.update_self _ _ _

end Waits

/-! ### Runs -/

/-- The firmware, and the connection that is being made. -/
structure ConnectState (cfg : Config) where
  fw : Fw cfg
  waiting : Option Connecting

/-- A half of `node_intf_create_connection`, or what other threads do. -/
inductive ConnectOp
  | start (ctrl : Ptr) (cportId : U16)
  | finish
  | node (op : CacheOp)

/-- One step. The thread that connects takes no other until it is through. -/
def connectStep (s : ConnectState cfg) (op : ConnectOp) (s' : ConnectState cfg) : Prop :=
  match op with
  | .start ctrl cportId => s.waiting = none ∧
      ∃ r, Ends (connectionStart env ctrl cportId) s.fw r s'.fw ∧ s'.waiting = r.getRight?
  | .finish => ∃ w ret, s.waiting = some w ∧ Ends (connectionFinish env w) s.fw ret s'.fw ∧
      s'.waiting = none
  | .node op => cacheStep env s.fw op s'.fw ∧ s'.waiting = s.waiting

section

variable {env} {s s' : Fw cfg} {w : Connecting}

lemma connectStep_start {ctrl : Ptr} {cportId : U16}
    (h : Ends (connectionStart env ctrl cportId) s (.inr w) s') :
    connectStep env ⟨s, none⟩ (.start ctrl cportId) ⟨s', some w⟩ := ⟨rfl, .inr w, h, rfl⟩

lemma connectStep_finish {ret : ℤ} (h : Ends (connectionFinish env w) s ret s') :
    connectStep env ⟨s, some w⟩ .finish ⟨s', none⟩ := ⟨w, ret, rfl, h, rfl⟩

lemma connectStep_node {op : CacheOp} (h : cacheStep env s op s') (waiting : Option Connecting) :
    connectStep env ⟨s, waiting⟩ (.node op) ⟨s', waiting⟩ := ⟨h, rfl⟩

end

/-- What is assumed of the steps: the cache's assumptions, and nobody interferes with the node
that is connected. -/
def ConnectOp.Assumed (s : ConnectState cfg) : ConnectOp → Prop
  | .start ctrl _ => Cached s.fw.core ctrl ∧ FreshSocket env s.fw
  | .finish => True
  | .node op => op.Assumed env s.fw ∧ ∀ w, s.waiting = some w → op.Spares w

/-- No node is removed while the one that is connected is the last. -/
def KeepsPlace (t : RunStep (ConnectState cfg) ConnectOp) : Prop :=
  ∀ w op, t.pre.waiting = some w → t.label = .node op → ¬ op.Displaces w t.pre.fw.core

/-- Cache, control blocks and sockets agree, but for the socket of a connection that is made. -/
def ConnectState.Tied (s : ConnectState cfg) : Prop :=
  match s.waiting with
  | none => CacheTied s.fw
  | some w => Waits w s.fw ∧ InPlace w s.fw.core

section step

variable {s s' : ConnectState cfg}

/-- The first half finds the place. -/
lemma tied_start {ctrl : Ptr} {cportId : U16} (h : CacheTied s.fw)
    (hassumed : (ConnectOp.start ctrl cportId).Assumed env s)
    (hstep : connectStep env s (.start ctrl cportId) s') : s'.Tied := by
  obtain ⟨⟨e, he, rfl⟩, hfresh⟩ := hassumed
  obtain ⟨-, r, hend, hwaiting⟩ := hstep
  rw [ConnectState.Tied, hwaiting]
  rcases connectionStart_cases hend with
    ⟨⟨ret, rfl⟩, hcore, htrace⟩ | ⟨i, d, fd, call, rfl, hneg, hfind, hfd, hcore, htrace⟩
  · exact ⟨hcore ▸ h.tables, htrace ▸ h.nodup, by rw [htrace, hcore]; exact h.opened⟩
  · rw [h.tables.nodes.id_eq e he] at hfind
    obtain ⟨hi, rfl, hid, -⟩ := findEntry_eq_some_iff.mp hfind
    obtain rfl : e = s.fw.core.nodeCache[i] :=
      h.tables.nodes.eq_of_id he (List.getElem_mem hi) (Eq.symm (by simpa using hid))
    have hentry := List.getElem?_eq_getElem hi
    have hopen : openSocks s'.fw.io.trace = (fd : ℤ) :: openSocks s.fw.io.trace := by
      rw [htrace, openSocks_append]
      rfl
    have htied : TiedBut [(fd : ℤ)] s'.fw := by
      refine ⟨hcore ▸ h.tables, ?_, ?_⟩
      · rw [hopen, List.nodup_cons]
        exact ⟨hfresh fd hfd, h.nodup⟩
      · rw [hopen, hcore]
        exact h.opened.cons _
    refine ⟨⟨htied, by rw [hcore], i, _, by rw [hcore]; exact hentry, le_rfl, rfl, ?_⟩,
      _, by rw [hcore]; exact hentry, rfl⟩
    rw [← h.tables.sock_eq _ he]
    exact hneg

/-- **One step** keeps everything in its place. -/
lemma tied_step (hapi : env.slabFreeApi = .pointee) {op : ConnectOp} (h : s.Tied)
    (hstep : connectStep env s op s') (hassumed : op.Assumed env s)
    (hkeeps : KeepsPlace ⟨s, op, s'⟩) : s'.Tied := by
  cases op with
  | start ctrl cportId =>
      rw [ConnectState.Tied, hstep.1] at h
      exact tied_start env h hassumed hstep
  | finish =>
      obtain ⟨w, ret, hwaiting, hend, hdone⟩ := hstep
      rw [ConnectState.Tied, hwaiting] at h
      rw [ConnectState.Tied, hdone]
      cases hconn : env.zsockConnect w.call with
      | true => exact h.1.stored env hend hconn h.2
      | false => exact h.1.refused env hend hconn
  | node op =>
      obtain ⟨hstep, hsame⟩ := hstep
      cases hwaiting : s.waiting with
      | none =>
          rw [ConnectState.Tied, hwaiting] at h
          rw [ConnectState.Tied, hsame, hwaiting]
          exact (cacheTied_step env hapi h hstep hassumed.1).1
      | some w =>
          rw [ConnectState.Tied, hwaiting] at h
          rw [ConnectState.Tied, hsame, hwaiting]
          obtain ⟨hwaits, hplace⟩ :=
            h.1.node_step env hapi (hassumed.2 w hwaiting) hassumed.1 hstep
          exact ⟨hwaits, hplace.mpr ⟨h.2, hkeeps w op hwaiting rfl⟩⟩

/-- While a connection is made, its node keeps its place exactly as long as it should. -/
lemma waits_run (hapi : env.slabFreeApi = .pointee) {w : Connecting}
    {l : List (RunStep (ConnectState cfg) ConnectOp)} (hwaiting : s.waiting = some w)
    (h : Waits w s.fw) (hin : InPlace w s.fw.core) (hrun : Run (connectStep env) s l s')
    (hassumed : ∀ t ∈ l, t.label.Assumed env t.pre) (hopen : ∀ t ∈ l, t.label ≠ .finish) :
    s'.waiting = some w ∧ Waits w s'.fw ∧ (InPlace w s'.fw.core ↔ ∀ t ∈ l, KeepsPlace t) := by
  induction hrun with
  | nil => exact ⟨hwaiting, h, by simpa using hin⟩
  | @snoc l s' op s'' hrun hs ih =>
      rw [Run.forall_mem_concat] at hassumed hopen
      obtain ⟨hw, hwaits, hiff⟩ := ih hassumed.1 hopen.1
      cases op with
      | start ctrl cportId =>
          rw [hs.1] at hw
          cases hw
      | finish => exact absurd rfl hopen.2
      | node op =>
          obtain ⟨hstep, hsame⟩ := hs
          obtain ⟨hwaits', hplace⟩ :=
            hwaits.node_step env hapi (hassumed.2.2 w hw) hassumed.2.1 hstep
          have hlast : KeepsPlace ⟨s', .node op, s''⟩ ↔ ¬ op.Displaces w s'.fw.core := by
            constructor
            · exact fun hkeeps => hkeeps w op hw rfl
            · intro hnot w' op' hw' hop
              obtain rfl : w = w' := Option.some.inj (hw.symm.trans hw')
              obtain rfl : op = op' := ConnectOp.node.inj hop
              exact hnot
          rw [Run.forall_mem_concat, hlast, hplace, hiff]
          exact ⟨hsame.trans hw, hwaits', Iff.rfl⟩

end step

/-- **A socket gets to its node**: while `node_intf_create_connection` waits in a run from the
start in which every connection has kept its place so far, and the node is reached in the end,
cache, control blocks and sockets agree afterwards exactly if no node is removed meanwhile while
the one that is connected is the last. Otherwise its entry has no socket for the receive loop to
poll, though its control block has. -/
theorem connect_right_iff (hapi : env.slabFreeApi = .pointee) {s s₁ s₂ s₃ : ConnectState cfg}
    {l₁ l₂ : List (RunStep (ConnectState cfg) ConnectOp)} {w : Connecting}
    (hboot : s.fw.core = .boot cfg) (hclosed : openSocks s.fw.io.trace = [])
    (hfree : s.waiting = none) (hrun₁ : Run (connectStep env) s l₁ s₁)
    (hassumed₁ : ∀ t ∈ l₁, t.label.Assumed env t.pre) (hkeeps : ∀ t ∈ l₁, KeepsPlace t)
    (hwaiting : s₁.waiting = some w) (hrun₂ : Run (connectStep env) s₁ l₂ s₂)
    (hassumed₂ : ∀ t ∈ l₂, t.label.Assumed env t.pre) (hopen : ∀ t ∈ l₂, t.label ≠ .finish)
    (hfinish : connectStep env s₂ .finish s₃) (hreached : env.zsockConnect w.call = true) :
    (CacheInvariant s₃.fw ↔ ∀ t ∈ l₂, KeepsPlace t) ∧
      ((¬ ∀ t ∈ l₂, KeepsPlace t) → ∃ e ∈ s₃.fw.core.nodeCache, e.inf = w.ctrl ∧ e.sock < 0 ∧
        s₃.fw.core.sockOf e.inf = w.sock) := by
  -- agreement up to where the call waits, and then while it waits
  have hstart : s.Tied := by
    rw [ConnectState.Tied, hfree]
    refine ⟨hboot ▸ tablesTied_boot cfg, by rw [hclosed]; exact List.nodup_nil, ?_⟩
    rw [hclosed, hboot]
    exact List.Perm.refl _
  have htied : s₁.Tied := (hrun₁.invariant
    (I := ConnectState.Tied) (G := fun s op s' => op.Assumed env s ∧ KeepsPlace ⟨s, op, s'⟩) hstart
    (fun s op s' h hstep hmay => tied_step env hapi h hstep hmay.1 hmay.2)
    fun t ht => ⟨hassumed₁ t ht, hkeeps t ht⟩).1
  rw [ConnectState.Tied, hwaiting] at htied
  obtain ⟨hw, hwaits, hplace⟩ := waits_run env hapi hwaiting htied.1 htied.2 hrun₂ hassumed₂ hopen
  obtain ⟨w', ret, hw', hend, -⟩ := hfinish
  obtain rfl : w = w' := Option.some.inj (hw.symm.trans hw')
  -- out of its place, the socket is not stored in the node's entry
  have hlost (hnot : ¬ ∀ t ∈ l₂, KeepsPlace t) := hwaits.lost env hend hreached (mt hplace.mp hnot)
  refine ⟨⟨fun hinv => ?_, fun hall => ?_⟩, hlost⟩
  · by_contra hnot
    obtain ⟨e, he, -, hneg, hsock⟩ := hlost hnot
    have hsame := hinv.sock_eq e he
    rw [hsock] at hsame
    omega
  · exact (hwaits.stored env hend hreached (hplace.mpr hall)).invariant

/-- The connection of a node that has been found second. -/
def secondConnecting : Connecting := ⟨.block 1, 1, .block 1, 0, 0⟩

/-- Two nodes are found. -/
def pairFound : Fw .prjConf := final (nodeFilter calmEnv [1, 2]) (.boot .prjConf)

/-- The connection of the second waits for the network. -/
def pairWaits : Fw .prjConf := final (connectionStart calmEnv (.block 1) 0) pairFound

/-- The first is removed meanwhile, and the second moves to its place. -/
def pairMoved : Fw .prjConf := final (nodeDestroyInterface calmEnv (some (.block 0))) pairWaits

/-- The second is reached. -/
def pairReached : Fw .prjConf := final (connectionFinish calmEnv secondConnecting) pairMoved

/-- The steps up to where the connection waits, and the removal. -/
def pairSteps : List (RunStep (ConnectState .prjConf) ConnectOp) :=
  [⟨⟨.boot .prjConf, none⟩, .node (.filter [1, 2]), ⟨pairFound, none⟩⟩] ++
    [⟨⟨pairFound, none⟩, .start (.block 1) 0, ⟨pairWaits, some secondConnecting⟩⟩]

/-- The removal, while the connection waits. -/
def firstGoes : RunStep (ConnectState .prjConf) ConnectOp :=
  ⟨⟨pairWaits, some secondConnecting⟩, .node (.destroy (.block 0)),
    ⟨pairMoved, some secondConnecting⟩⟩

/-- The socket of the second node is not stored in its entry. -/
theorem connect_right_iff_pair :
    (CacheInvariant pairReached ↔ ∀ t ∈ [firstGoes], KeepsPlace t) ∧
      ((¬ ∀ t ∈ [firstGoes], KeepsPlace t) → ∃ e ∈ pairReached.core.nodeCache,
        e.inf = secondConnecting.ctrl ∧ e.sock < 0 ∧
          pairReached.core.sockOf e.inf = secondConnecting.sock) := by
  -- the steps: two nodes found, the second on its way, the first removed, the second reached
  have hfilter : cacheStep calmEnv (.boot .prjConf) (.filter [1, 2]) pairFound :=
    ends_final (by decide +kernel)
  have hstart : Ends (connectionStart calmEnv (.block 1) 0) pairFound (.inr secondConnecting)
      pairWaits := ends_final (by decide +kernel)
  have hdestroy : cacheStep calmEnv pairWaits (.destroy (.block 0)) pairMoved :=
    ends_final (by decide +kernel)
  have hfinish : Ends (connectionFinish calmEnv secondConnecting) pairMoved 0 pairReached :=
    ends_final (by decide +kernel)
  have hfound : pairFound.core.nodeCache = [⟨-1, 3, 1, .block 0⟩, ⟨-1, 4, 2, .block 1⟩] := by
    decide +kernel
  have hkept : pairWaits.core.nodeCache = pairFound.core.nodeCache := by decide +kernel
  -- each of the two gets an id of its own
  have hids : EachCreation calmEnv FreshId (Core.boot .prjConf) [1, 2] := by
    have hboot : (Core.boot .prjConf).nodeCache = [] := rfl
    have hfirst : ((Core.boot .prjConf).filterOne calmEnv 1).nodeCache =
        [⟨-1, 3, 1, .block 0⟩] := by decide +kernel
    have hnext : ((Core.boot .prjConf).filterOne calmEnv 1).nextId = 4 := by decide +kernel
    simp only [EachCreation, FreshId, hboot, hfirst, hnext, List.mem_singleton, forall_eq]
    exact ⟨fun _ _ _ _ e he => absurd he List.not_mem_nil, fun _ _ _ _ => by decide, trivial⟩
  have hclosed : openSocks pairFound.io.trace = [] := by decide +kernel
  have hrun : Run (connectStep calmEnv) ⟨.boot .prjConf, none⟩ pairSteps
      ⟨pairWaits, some secondConnecting⟩ :=
    (Run.single (connectStep_node hfilter none)).snoc (connectStep_start hstart)
  have hcached : Cached pairFound.core (.block 1) := by
    rw [Cached, hfound]
    exact ⟨⟨-1, 4, 2, .block 1⟩, by simp, rfl⟩
  have hfresh : FreshSocket calmEnv pairFound := by
    rw [FreshSocket, hclosed]
    exact fun _ _ => List.not_mem_nil
  -- what the equivalence assumes of the steps and of the removal
  have hassumed : ∀ t ∈ pairSteps, t.label.Assumed calmEnv t.pre := by
    simp only [pairSteps, Run.forall_mem_concat, List.forall_mem_singleton, ConnectOp.Assumed]
    exact ⟨⟨hids, fun w hw => absurd hw.symm (Option.some_ne_none w)⟩, hcached, hfresh⟩
  have hkeeps : ∀ t ∈ pairSteps, KeepsPlace t := by
    simp only [pairSteps, Run.forall_mem_concat, List.forall_mem_singleton, KeepsPlace]
    exact ⟨fun w _ hw => absurd hw.symm (Option.some_ne_none w),
      fun w _ hw => absurd hw.symm (Option.some_ne_none w)⟩
  have hspared : firstGoes.label.Assumed calmEnv firstGoes.pre := by
    have hthere : Cached pairWaits.core (.block 0) := by
      rw [Cached, hkept, hfound]
      exact ⟨⟨-1, 3, 1, .block 0⟩, by simp, rfl⟩
    simp only [firstGoes, ConnectOp.Assumed, CacheOp.Assumed, CacheOp.Spares]
    constructor
    · exact hthere
    · intro w hw
      rw [← Option.some.inj hw]
      decide
  have hreached : calmEnv.zsockConnect secondConnecting.call = true := rfl
  have hright := connect_right_iff calmEnv rfl (s := ⟨.boot .prjConf, none⟩) rfl rfl rfl hrun
    hassumed hkeeps rfl (Run.single (connectStep_node hdestroy (some secondConnecting)))
    (List.forall_mem_singleton.mpr hspared) (List.forall_mem_singleton.mpr ConnectOp.noConfusion)
    (connectStep_finish hfinish) hreached
  dsimp only at hright
  exact hright

end Cc1352Greybus
