import Cc1352Greybus.Greybus.NodeRx

/-!
The thread of `node_rx_thread_entry` up to its `zsock_poll`, step by step, while other threads
discover nodes, connect to them and remove them.

* `PollThread`, `pollStep`: the thread's variables, and one access of one thread.
* `Wakeful`: what holds of the sockets the thread is to poll, wherever it stands.
* `polls_every_socket`: a socket that is open is polled, or the pipe wakes the thread.
* `populates_as_polled`: undisturbed, the thread polls the sockets of the cache.
-/

namespace Cc1352Greybus

open PackedArray

variable {cfg : Config}

/-! ### The thread -/

/-- Where the thread stands. -/
inductive PollPc
  /-- the SVC is not ready, or the pipe not open -/
  | waiting
  /-- before `i < node_cache_pos` -/
  | test (i : ℕ)
  /-- before `fds[i + 1].fd = node_cache[i].sock` -/
  | copy (i : ℕ)
  /-- before `fds_len = node_cache_pos + 1` -/
  | size
  /-- in `zsock_poll` -/
  | poll
  /-- `zsock_poll` has returned, with or without something in the pipe -/
  | drain (pollin : Bool)
  /-- in the loop over the sockets -/
  | serve
  deriving DecidableEq

/-- The variables of the thread, and those it shares. -/
structure PollThread where
  nodeCache : List NodeItem
  pc : PollPc
  /-- the descriptors in `fds` -/
  fds : ℕ → ℤ
  fdsLen : ℕ
  /-- the bytes in the pipe -/
  pipe : ℕ
  /-- the threads that have yet to call `pipe_send` -/
  waking : ℕ

/-- One access of the thread, or of another one. -/
inductive PollOp
  | start
  | test
  /-- `stale` is what lies past the end of the cache -/
  | copy (stale : ℤ)
  | size
  /-- `zsock_poll` returns, or fails -/
  | poll (ok : Bool)
  | drain
  /-- the thread itself removes a node -/
  | report (i : ℕ)
  | again
  /-- `node_cache_add` -/
  | add (e : NodeItem)
  /-- `node_intf_create_connection`, when it has a socket -/
  | connect (i : ℕ) (sock : ℤ)
  /-- `pipe_send`; before there is a pipe, the byte goes elsewhere -/
  | wake
  /-- `node_cache_remove_at` of another thread -/
  | remove (i : ℕ)
  /-- the end of `node_destroy_all` -/
  | clear

/-- What an access does. -/
def pollStep (cfg : Config) (s : PollThread) (op : PollOp) (s' : PollThread) : Prop :=
  match op with
  | .start => s.pc = .waiting ∧ s' = { s with pc := .test 0 }
  | .test => ∃ i, s.pc = .test i ∧
      s' = { s with pc := if i < s.nodeCache.length then .copy i else .size }
  | .copy stale => ∃ i, s.pc = .copy i ∧ s' = { s with
      pc := .test (i + 1)
      fds := Function.update s.fds (i + 1) ((s.nodeCache[i]?).elim stale NodeItem.sock) }
  | .size => s.pc = .size ∧ s' = { s with pc := .poll, fdsLen := s.nodeCache.length + 1 }
  | .poll ok => s.pc = .poll ∧
      s' = { s with pc := if ok then .drain (decide (0 < s.pipe)) else .test 0 }
  | .drain => ∃ pollin, s.pc = .drain pollin ∧
      s' = { s with pc := .serve, pipe := if pollin then s.pipe - 1 else s.pipe }
  | .report i => s.pc = .serve ∧ i < s.nodeCache.length ∧
      s' = { s with nodeCache := swapRemove s.nodeCache i }
  | .again => s.pc = .serve ∧ s' = { s with pc := .test 0 }
  | .add e => s.nodeCache.length < cfg.maxGreybusNodes ∧ e.sock = -1 ∧
      s' = { s with nodeCache := s.nodeCache ++ [e] }
  | .connect i sock => 0 ≤ sock ∧ s' = { s with
      nodeCache := s.nodeCache.modify i fun e => { e with sock := sock }
      waking := s.waking + 1 }
  | .wake => 0 < s.waking ∧ s' = { s with
      waking := s.waking - 1
      pipe := if s.pc = .waiting then s.pipe else s.pipe + 1 }
  | .remove i => i < s.nodeCache.length ∧
      s' = { s with nodeCache := swapRemove s.nodeCache i }
  | .clear => s' = { s with nodeCache := [] }

/-- The thread before its first access. -/
def PollThread.boot (fds : ℕ → ℤ) : PollThread := ⟨[], .waiting, fds, 1, 0, 0⟩

/-! ### What holds -/

namespace PollThread

/-- The thread polls a socket. -/
def Polls (s : PollThread) (sock : ℤ) : Prop := ∃ k, 0 < k ∧ k < s.fdsLen ∧ s.fds k = sock

/-- There is something in the pipe, or there will be. -/
def Signalled (s : PollThread) : Prop := 0 < s.pipe ∨ 0 < s.waking

/-- The first `n` nodes are among the descriptors, as far as they are connected, or the thread
will be woken up. -/
def Filled (s : PollThread) (n : ℕ) : Prop :=
  ∀ j e, j < n → s.nodeCache[j]? = some e → 0 ≤ e.sock → s.fds (j + 1) = e.sock ∨ s.Signalled

/-- What holds of the descriptors, wherever the thread stands. -/
def Wakeful (s : PollThread) : Prop :=
  match s.pc with
  | .test i => s.Filled i
  | .copy i => s.Filled i
  | .size => ∀ n, s.Filled n
  | .poll => ∀ e ∈ s.nodeCache, 0 ≤ e.sock → s.Polls e.sock ∨ s.Signalled
  | _ => True

/-- The thread keeps to the `AP_MAX_NODES + 1` entries of `fds`. -/
structure InBounds (cfg : Config) (s : PollThread) : Prop where
  cache : s.nodeCache.length ≤ cfg.maxGreybusNodes
  copy : ∀ i, s.pc = .copy i → i + 1 < cfg.apMaxNodes + 1
  poll : s.fdsLen ≤ cfg.apMaxNodes + 1

end PollThread

/-- The thread is about to poll what it has seen of the cache. -/
def PollPc.Populating : PollPc → Prop
  | .test i => 0 < i
  | .copy _ => True
  | .size => True
  | _ => False

/-- Nobody takes nodes out of the cache while the thread goes through it. -/
def Undisturbed (t : RunStep PollThread PollOp) : Prop :=
  (t.label = .clear ∨ ∃ i, t.label = .remove i) → ¬ t.pre.pc.Populating

section step

variable {s s' : PollThread} {op : PollOp}

namespace PollThread

/-- A signal makes up for every descriptor. -/
lemma wakeful_of_signalled (h : s.Signalled) : s.Wakeful := by
  have hfilled : ∀ n, s.Filled n := fun _ _ _ _ _ _ => Or.inr h
  rw [Wakeful]
  cases s.pc with
  | test i => exact hfilled i
  | copy i => exact hfilled i
  | size => exact hfilled
  | poll => exact fun _ _ _ => Or.inr h
  | _ => trivial

/-- An entry that has been copied is among the descriptors. -/
lemma Filled.copied {i : ℕ} (h : s.Filled i) (stale : ℤ) :
    Filled { s with
      pc := .test (i + 1)
      fds := Function.update s.fds (i + 1) ((s.nodeCache[i]?).elim stale NodeItem.sock) }
      (i + 1) := by
  intro j e hj hget hsock
  rcases Nat.lt_succ_iff_lt_or_eq.mp hj with hlt | rfl
  · refine (h j e hlt hget hsock).imp_left fun hfd => ?_
    show Function.update s.fds (i + 1) _ (j + 1) = e.sock
    rw [Function.update_of_ne (by omega), hfd]
  · refine Or.inl ?_
    show Function.update s.fds (j + 1) _ (j + 1) = e.sock
    have hentry : s.nodeCache[j]? = some e := hget
    rw [Function.update_self, hentry, Option.elim_some]

/-- Past the end of the cache, all of it has been copied. -/
lemma Filled.all {i : ℕ} (h : s.Filled i) (hi : s.nodeCache.length ≤ i) (n : ℕ) :
    s.Filled n := by
  intro j e _ hget hsock
  have hj : j < s.nodeCache.length := (List.getElem?_eq_some_iff.mp hget).1
  exact h j e (by omega) hget hsock

/-- A node that is discovered is not connected yet. -/
lemma Filled.add {n : ℕ} (h : s.Filled n) {e : NodeItem} (he : e.sock = -1) :
    Filled { s with nodeCache := s.nodeCache ++ [e] } n := by
  intro j e' hj hget hsock
  rcases Nat.lt_or_ge j s.nodeCache.length with hlt | hge
  · exact h j e' hj (by rwa [← List.getElem?_append_left hlt]) hsock
  · have hmem : e' ∈ [e] := by
      rw [List.getElem?_append_right hge] at hget
      exact List.mem_of_getElem? hget
    rw [List.mem_singleton.mp hmem, he] at hsock
    exact absurd hsock (by decide)

lemma Wakeful.add (h : s.Wakeful) {e : NodeItem} (he : e.sock = -1) :
    Wakeful { s with nodeCache := s.nodeCache ++ [e] } := by
  rw [Wakeful] at h ⊢
  cases hpc : s.pc with
  | test i =>
      rw [hpc] at h
      exact Filled.add h he
  | copy i =>
      rw [hpc] at h
      exact Filled.add h he
  | size =>
      rw [hpc] at h
      exact fun n => Filled.add (h n) he
  | poll =>
      rw [hpc] at h
      intro e' hmem hsock
      rcases List.mem_append.mp hmem with hold | hnew
      · exact h e' hold hsock
      · rw [List.mem_singleton.mp hnew, he] at hsock
        exact absurd hsock (by decide)
  | _ => trivial

/-- Nodes that go leave the others polled, unless the cache is being gone through. -/
lemma Wakeful.sub (h : s.Wakeful) (hpc : ¬ s.pc.Populating) {cache : List NodeItem}
    (hsub : ∀ e ∈ cache, e ∈ s.nodeCache) : Wakeful { s with nodeCache := cache } := by
  rw [Wakeful] at h ⊢
  cases hs : s.pc with
  | test i =>
      rw [hs] at hpc
      intro j e hj
      exact absurd (Nat.zero_lt_of_lt hj) hpc
  | copy i =>
      rw [hs] at hpc
      exact absurd trivial hpc
  | size =>
      rw [hs] at hpc
      exact absurd trivial hpc
  | poll =>
      rw [hs] at h
      exact fun e he hsock => h e (hsub e he) hsock
  | _ => trivial

end PollThread

open PollThread

lemma mem_of_mem_swapRemove {α : Type*} {l : List α} {i : ℕ} (hi : i < l.length) {a : α}
    (h : a ∈ swapRemove l i) : a ∈ l :=
  (cons_swapRemove_perm hi).mem_iff.mp (List.mem_cons_of_mem _ h)

/-- **One access** misses no socket. -/
lemma pollStep_wakeful (h : pollStep cfg s op s') (hs : s.Wakeful)
    (hmay : Undisturbed ⟨s, op, s'⟩) : s'.Wakeful := by
  cases op with
  | start =>
      obtain ⟨-, rfl⟩ := h
      exact fun j _ hj => absurd hj (Nat.not_lt_zero j)
  | test =>
      obtain ⟨i, hpc, rfl⟩ := h
      rw [Wakeful, hpc] at hs
      -- there is another node to copy, or all have been
      by_cases hi : i < s.nodeCache.length
      · rw [if_pos hi]
        exact hs
      · rw [if_neg hi]
        exact Filled.all hs (not_lt.mp hi)
  | copy stale =>
      obtain ⟨i, hpc, rfl⟩ := h
      rw [Wakeful, hpc] at hs
      exact Filled.copied hs stale
  | size =>
      obtain ⟨hpc, rfl⟩ := h
      rw [Wakeful, hpc] at hs
      intro e he hsock
      obtain ⟨j, hj, hget⟩ := List.mem_iff_getElem.mp he
      refine (hs _ j e (Nat.lt_succ_self j) (List.getElem?_eq_some_iff.mpr ⟨hj, hget⟩)
        hsock).imp_left fun hfd => ?_
      -- entry `j` of the cache is at `j + 1` of `fds`, behind the pipe
      exact ⟨j + 1, Nat.succ_pos j, Nat.succ_lt_succ hj, hfd⟩
  | poll ok =>
      obtain ⟨-, rfl⟩ := h
      cases ok with
      | true => trivial
      | false => exact fun j _ hj => absurd hj (Nat.not_lt_zero j)
  | drain =>
      obtain ⟨pollin, -, rfl⟩ := h
      trivial
  | report i =>
      obtain ⟨hpc, hi, rfl⟩ := h
      refine hs.sub ?_ fun e he => mem_of_mem_swapRemove hi he
      rw [hpc]
      exact id
  | again =>
      obtain ⟨-, rfl⟩ := h
      exact fun j _ hj => absurd hj (Nat.not_lt_zero j)
  | add e =>
      obtain ⟨-, he, rfl⟩ := h
      exact hs.add he
  | connect i sock =>
      obtain ⟨-, rfl⟩ := h
      -- its `pipe_send` is still to come
      exact wakeful_of_signalled (Or.inr (Nat.succ_pos _))
  | wake =>
      obtain ⟨-, rfl⟩ := h
      -- the byte goes into the pipe, once there is one
      by_cases hpc : s.pc = .waiting
      · rw [Wakeful]
        simp [hpc]
      · refine wakeful_of_signalled (Or.inl ?_)
        show 0 < if s.pc = .waiting then s.pipe else s.pipe + 1
        rw [if_neg hpc]
        exact Nat.succ_pos _
  -- no removal of another thread while this one copies
  | remove i =>
      obtain ⟨hi, rfl⟩ := h
      exact hs.sub (hmay (Or.inr ⟨i, rfl⟩)) fun e he => mem_of_mem_swapRemove hi he
  | clear =>
      obtain rfl : s' = _ := h
      exact hs.sub (hmay (Or.inl rfl)) (by simp)

/-- **One access** keeps within `fds`. -/
lemma pollStep_inBounds (h : pollStep cfg s op s') (hs : s.InBounds cfg) : s'.InBounds cfg := by
  -- a removal makes the cache shorter
  have hshorter : ∀ {i}, i < s.nodeCache.length →
      (swapRemove s.nodeCache i).length ≤ cfg.maxGreybusNodes := fun hi => by
    have hlen := (cons_swapRemove_perm hi).length_eq
    have hcache := hs.cache
    rw [List.length_cons] at hlen
    omega
  cases op with
  | start =>
      obtain ⟨-, rfl⟩ := h
      exact ⟨hs.cache, by simp, hs.poll⟩
  | test =>
      obtain ⟨i, -, rfl⟩ := h
      refine ⟨hs.cache, fun j hj => ?_, hs.poll⟩
      dsimp only at hj
      split_ifs at hj with hi
      -- only an index below the length of the cache is copied from
      have hcache := hs.cache
      obtain rfl : i = j := PollPc.copy.inj hj
      exact Nat.succ_lt_succ (lt_of_lt_of_le hi hcache)
  | copy stale =>
      obtain ⟨i, -, rfl⟩ := h
      exact ⟨hs.cache, by simp, hs.poll⟩
  | size =>
      obtain ⟨-, rfl⟩ := h
      exact ⟨hs.cache, by simp, Nat.succ_le_succ hs.cache⟩
  | poll ok =>
      obtain ⟨-, rfl⟩ := h
      refine ⟨hs.cache, fun j hj => ?_, hs.poll⟩
      dsimp only at hj
      split_ifs at hj
  | drain =>
      obtain ⟨pollin, -, rfl⟩ := h
      exact ⟨hs.cache, by simp, hs.poll⟩
  | report i =>
      obtain ⟨-, hi, rfl⟩ := h
      exact ⟨hshorter hi, hs.copy, hs.poll⟩
  | again =>
      obtain ⟨-, rfl⟩ := h
      exact ⟨hs.cache, by simp, hs.poll⟩
  | add e =>
      obtain ⟨hlt, -, rfl⟩ := h
      refine ⟨?_, hs.copy, hs.poll⟩
      rw [List.length_append, List.length_singleton]
      exact hlt
  | connect i sock =>
      obtain ⟨-, rfl⟩ := h
      refine ⟨?_, hs.copy, hs.poll⟩
      rw [List.length_modify]
      exact hs.cache
  | wake =>
      obtain ⟨-, rfl⟩ := h
      exact ⟨hs.cache, hs.copy, hs.poll⟩
  | remove i =>
      obtain ⟨hi, rfl⟩ := h
      exact ⟨hshorter hi, hs.copy, hs.poll⟩
  | clear =>
      obtain rfl : s' = _ := h
      exact ⟨Nat.zero_le _, hs.copy, hs.poll⟩

/-! ### Whole runs -/

/-- **No socket is missed**: in every run of the threads in which nobody else removes a node
while the thread goes through the cache, whenever it is in `zsock_poll` each open socket of a
cached node is polled, or the pipe has something to wake it up, or a `pipe_send` is still to
come. It keeps within `fds` all along. -/
theorem polls_every_socket {fds : ℕ → ℤ} {l : List (RunStep PollThread PollOp)}
    (hrun : Run (pollStep cfg) (.boot fds) l s) (hl : ∀ t ∈ l, Undisturbed t) :
    (s.pc = .poll → ∀ e ∈ s.nodeCache, 0 ≤ e.sock →
      s.Polls e.sock ∨ 0 < s.pipe ∨ 0 < s.waking) ∧ s.InBounds cfg := by
  have hboot : (PollThread.boot fds).Wakeful ∧ (PollThread.boot fds).InBounds cfg :=
    ⟨trivial, Nat.zero_le _, by simp [PollThread.boot], Nat.succ_le_succ (Nat.zero_le _)⟩
  obtain ⟨hwakeful, hbounds⟩ := (hrun.invariant
    (I := fun s => s.Wakeful ∧ s.InBounds cfg) (G := fun s op s' => Undisturbed ⟨s, op, s'⟩) hboot
    (fun s op s' hI hstep hmay =>
      ⟨pollStep_wakeful hstep hI.1 hmay, pollStep_inBounds hstep hI.2⟩) hl).1
  refine ⟨fun hpc => ?_, hbounds⟩
  rwa [Wakeful, hpc] at hwakeful

/-! ### Undisturbed -/

/-- The thread's own accesses from the top of its loop to `zsock_poll`. -/
def PollOp.Populates : PollOp → Prop
  | .test | .copy _ | .size => True
  | _ => False

/-- The first `n` nodes of the cache are the descriptors from 1 on. -/
def PollThread.Copied (s : PollThread) (n : ℕ) : Prop :=
  ∀ j e, j < n → s.nodeCache[j]? = some e → s.fds (j + 1) = e.sock

/-- How far the thread has come. -/
def PollThread.Populated (s : PollThread) : Prop :=
  match s.pc with
  | .test i => s.Copied i
  | .copy i => s.Copied i
  | .size => ∀ n, s.Copied n
  | .poll => (∀ n, s.Copied n) ∧ s.fdsLen = s.nodeCache.length + 1
  | _ => False

lemma Copied.copied {i : ℕ} (h : s.Copied i) (stale : ℤ) :
    PollThread.Copied { s with
      pc := .test (i + 1)
      fds := Function.update s.fds (i + 1) ((s.nodeCache[i]?).elim stale NodeItem.sock) }
      (i + 1) := by
  intro j e hj hget
  show Function.update s.fds (i + 1) _ (j + 1) = e.sock
  rcases Nat.lt_succ_iff_lt_or_eq.mp hj with hlt | rfl
  · rw [Function.update_of_ne (by omega)]
    exact h j e hlt hget
  · have hentry : s.nodeCache[j]? = some e := hget
    rw [Function.update_self, hentry, Option.elim_some]

/-- One access of its own brings it further. -/
lemma pollStep_populated (h : pollStep cfg s op s') (hop : op.Populates) (hs : s.Populated) :
    s'.Populated ∧ s'.nodeCache = s.nodeCache := by
  cases op with
  | test =>
      obtain ⟨i, hpc, rfl⟩ := h
      rw [PollThread.Populated, hpc] at hs
      refine ⟨?_, rfl⟩
      by_cases hi : i < s.nodeCache.length
      · rw [if_pos hi]
        exact hs
      · rw [if_neg hi]
        intro n j e _ hget
        have hj : j < s.nodeCache.length := (List.getElem?_eq_some_iff.mp hget).1
        exact hs j e (by omega) hget
  | copy stale =>
      obtain ⟨i, hpc, rfl⟩ := h
      rw [PollThread.Populated, hpc] at hs
      exact ⟨Copied.copied hs stale, rfl⟩
  | size =>
      obtain ⟨hpc, rfl⟩ := h
      rw [PollThread.Populated, hpc] at hs
      exact ⟨⟨hs, rfl⟩, rfl⟩
  | _ => exact hop.elim

/-- The descriptors that are polled, but for the pipe's. -/
def PollThread.polled (s : PollThread) : List ℤ :=
  (List.range (s.fdsLen - 1)).map fun j => s.fds (j + 1)

/-- **Undisturbed, the thread polls the cache**: from the top of its loop to `zsock_poll` its own
accesses do what the loop is taken to do at once. -/
theorem populates_as_polled {env : Env} {r : RxLoop cfg} {revents : List Revents}
    {l : List (RunStep PollThread PollOp)} (htop : s.pc = .test 0)
    (hcache : s.nodeCache = r.fw.core.nodeCache) (hfds : r.fds = [])
    (hrevents : revents.length = r.fw.core.nodeCache.length)
    (hrun : Run (pollStep cfg) s l s') (hl : ∀ t ∈ l, t.label.Populates)
    (hpoll : s'.pc = .poll) :
    rxStep env r (.poll (some revents)) { r with fds := s'.polled.zip revents } := by
  have hstart : s.Populated := by
    rw [PollThread.Populated, htop]
    exact fun j _ hj => absurd hj (Nat.not_lt_zero j)
  obtain ⟨hend, hsame⟩ := (hrun.invariant
    (I := fun t => t.Populated ∧ t.nodeCache = s.nodeCache) (G := fun _ op _ => op.Populates)
    ⟨hstart, rfl⟩ (fun t op t' hI hstep hop => by
      obtain ⟨hpop, hkept⟩ := pollStep_populated hstep hop hI.1
      exact ⟨hpop, hkept.trans hI.2⟩) hl).1
  rw [PollThread.Populated, hpoll] at hend
  obtain ⟨hcopied, hlen⟩ := hend
  have hpolled : s'.polled = s'.nodeCache.map NodeItem.sock := by
    rw [PollThread.polled, hlen, Nat.add_sub_cancel]
    refine List.ext_getElem (by simp) fun j hj hj' => ?_
    rw [List.length_map] at hj'
    rw [List.getElem_map, List.getElem_map, List.getElem_range]
    exact hcopied _ j _ (Nat.lt_succ_self j) (List.getElem?_eq_getElem hj')
  refine ⟨hfds, hrevents, ?_⟩
  rw [hpolled, hsame, hcache]

end step

/-! ### Some nodes -/

/-- A node, once it has been connected. -/
def openNode (id : U8) (sock : ℤ) : NodeItem := ⟨sock, id, 1, .block 0⟩

/-- The thread in `zsock_poll`, and a node connected since. -/
def connectedThread : PollThread := ⟨[openNode 3 5], .poll, fun _ => 0, 1, 0, 1⟩

/-- A byte in the pipe stands for the node connected since. -/
theorem polls_every_socket_connected :
    (connectedThread.pc = .poll → ∀ e ∈ connectedThread.nodeCache, 0 ≤ e.sock →
      connectedThread.Polls e.sock ∨ 0 < connectedThread.pipe ∨ 0 < connectedThread.waking) ∧
      connectedThread.InBounds .prjConf := by
  have h₁ : pollStep .prjConf (.boot fun _ => 0) .start ⟨[], .test 0, fun _ => 0, 1, 0, 0⟩ :=
    ⟨rfl, rfl⟩
  have h₂ : pollStep .prjConf ⟨[], .test 0, fun _ => 0, 1, 0, 0⟩ .test
      ⟨[], .size, fun _ => 0, 1, 0, 0⟩ := ⟨0, rfl, rfl⟩
  have h₃ : pollStep .prjConf ⟨[], .size, fun _ => 0, 1, 0, 0⟩ .size
      ⟨[], .poll, fun _ => 0, 1, 0, 0⟩ := ⟨rfl, rfl⟩
  have h₄ : pollStep .prjConf ⟨[], .poll, fun _ => 0, 1, 0, 0⟩ (.add (openNode 3 (-1)))
      ⟨[openNode 3 (-1)], .poll, fun _ => 0, 1, 0, 0⟩ := ⟨by decide, rfl, rfl⟩
  have h₅ : pollStep .prjConf ⟨[openNode 3 (-1)], .poll, fun _ => 0, 1, 0, 0⟩ (.connect 0 5)
      connectedThread := ⟨by decide, rfl⟩
  refine polls_every_socket ((((Run.single h₁).snoc h₂).snoc h₃).snoc h₄ |>.snoc h₅) ?_
  intro t ht
  simp only [List.mem_append, List.mem_singleton] at ht
  rcases ht with (((rfl | rfl) | rfl) | rfl) | rfl <;> exact fun h => by simp at h

/-- A node that is removed while the thread goes through the cache takes another one's place,
and that one is not polled, with nothing to wake the thread up. -/
example : ∃ l s, Run (pollStep .prjConf)
    ⟨[openNode 3 5, openNode 4 6], .test 0, fun _ => 0, 1, 0, 0⟩ l s ∧ s.pc = .poll ∧
      s.nodeCache = [openNode 4 6] ∧ s.polled = [5] ∧ s.pipe = 0 ∧ s.waking = 0 := by
  let fds := Function.update (fun _ : ℕ => (0 : ℤ)) 1 5
  have h₁ : pollStep .prjConf ⟨[openNode 3 5, openNode 4 6], .test 0, fun _ => 0, 1, 0, 0⟩ .test
      ⟨[openNode 3 5, openNode 4 6], .copy 0, fun _ => 0, 1, 0, 0⟩ := ⟨0, rfl, rfl⟩
  have h₂ : pollStep .prjConf ⟨[openNode 3 5, openNode 4 6], .copy 0, fun _ => 0, 1, 0, 0⟩
      (.copy 0) ⟨[openNode 3 5, openNode 4 6], .test 1, fds, 1, 0, 0⟩ := ⟨0, rfl, rfl⟩
  have h₃ : pollStep .prjConf ⟨[openNode 3 5, openNode 4 6], .test 1, fds, 1, 0, 0⟩ (.remove 0)
      ⟨[openNode 4 6], .test 1, fds, 1, 0, 0⟩ := ⟨by decide, rfl⟩
  have h₄ : pollStep .prjConf ⟨[openNode 4 6], .test 1, fds, 1, 0, 0⟩ .test
      ⟨[openNode 4 6], .size, fds, 1, 0, 0⟩ := ⟨1, rfl, rfl⟩
  have h₅ : pollStep .prjConf ⟨[openNode 4 6], .size, fds, 1, 0, 0⟩ .size
      ⟨[openNode 4 6], .poll, fds, 2, 0, 0⟩ := ⟨rfl, rfl⟩
  exact ⟨_, _, (((Run.single h₁).snoc h₂).snoc h₃).snoc h₄ |>.snoc h₅, rfl, rfl, rfl, rfl, rfl⟩

/-- The firmware with a node that has been connected, and the receive loop at its top. -/
def connectedLoop : RxLoop .prjConf :=
  ⟨⟨{ Core.boot .prjConf with nodeCache := [openNode 3 5] }, .boot⟩, false, []⟩

/-- The poll of the loop, cut into the steps of the thread. -/
theorem populates_as_polled_connected :
    rxStep calmEnv connectedLoop (.poll (some [readable]))
      { connectedLoop with fds := [(5, readable)] } := by
  have h₁ : pollStep .prjConf ⟨[openNode 3 5], .test 0, fun _ => 0, 1, 0, 0⟩ .test
      ⟨[openNode 3 5], .copy 0, fun _ => 0, 1, 0, 0⟩ := ⟨0, rfl, rfl⟩
  have h₂ : pollStep .prjConf ⟨[openNode 3 5], .copy 0, fun _ => 0, 1, 0, 0⟩ (.copy 0)
      ⟨[openNode 3 5], .test 1, Function.update (fun _ => 0) 1 5, 1, 0, 0⟩ := ⟨0, rfl, rfl⟩
  have h₃ : pollStep .prjConf ⟨[openNode 3 5], .test 1, Function.update (fun _ => 0) 1 5, 1, 0, 0⟩
      .test ⟨[openNode 3 5], .size, Function.update (fun _ => 0) 1 5, 1, 0, 0⟩ := ⟨1, rfl, rfl⟩
  have h₄ : pollStep .prjConf ⟨[openNode 3 5], .size, Function.update (fun _ => 0) 1 5, 1, 0, 0⟩
      .size ⟨[openNode 3 5], .poll, Function.update (fun _ => 0) 1 5, 2, 0, 0⟩ := ⟨rfl, rfl⟩
  refine populates_as_polled (r := connectedLoop) rfl rfl rfl rfl
    (((Run.single h₁).snoc h₂).snoc h₃ |>.snoc h₄) ?_ rfl
  intro t ht
  simp only [List.mem_append, List.mem_singleton] at ht
  rcases ht with ((rfl | rfl) | rfl) | rfl <;> trivial

end Cc1352Greybus
